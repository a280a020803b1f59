import ContractBridge.Proofs.Auction.Resolution
import ContractBridge.Proofs.CardPlay.Legality
import ContractBridge.Proofs.Table.Transition
import ContractBridge.Table.Reachable

/-!
# The course of a board

A reachable table is followed together with the cards accepted on its board.  One invariant covers
both stages: while the board is bid, the calls are legal and the auction has never ended; while it
is played, the auction resolves to the contract and the account of the cards is kept.
-/

namespace ContractBridge

namespace Table

/-- The plays of the board once a command has been answered; a new deal starts over. -/
def playsAfter (plays : List (Seat × Card)) : Reply → List (Seat × Card)
  | .ok (.played result) => plays ++ [(result.seat, result.card)]
  | .ok (.bid (.reshuffled _ _)) => []
  | .ok (.dealer _) => []
  | _ => plays

def isRedeal : Reply → Bool
  | .ok (.bid (.reshuffled _ _)) => true
  | .ok (.dealer _) => true
  | _ => false

@[simp] theorem playsAfter_bid (outcome : BidOutcome) : playsAfter [] (.ok (.bid outcome)) = [] := by
  cases outcome <;> rfl

/-- A table with the plays accepted on its board since it was dealt, oldest first. -/
inductive Course : Table → List (Seat × Card) → Prop
  | opened {table : Table} (opening : Opened table) : Course table []
  | step {table : Table} {plays : List (Seat × Card)} (command : Command)
      (before : Course table plays) :
      Course (table.step command).2 (playsAfter plays (table.step command).1)

theorem reachable_iff {table : Table} : Reachable table ↔ ∃ plays, Course table plays := by
  constructor
  · intro h
    induction h with
    | opened opening => exact ⟨[], .opened opening⟩
    | step command _ ih =>
        obtain ⟨plays, hcourse⟩ := ih
        exact ⟨_, hcourse.step command⟩
  · rintro ⟨plays, hcourse⟩
    induction hcourse with
    | opened opening => exact .opened opening
    | step command _ ih => exact ih.step command

theorem new_eq_ok_iff {config : TableConfig} {entropy : Generator} {table : Table} :
    new config entropy = .ok table ↔ ∃ deal generator,
      Deal.shuffle (config.generator entropy) = .ok (deal, generator) ∧
        table = start config generator deal := by
  rw [new]
  cases Deal.shuffle (config.generator entropy) with
  | error fault => simp
  | ok shuffled => simp [eq_comm, Prod.ext_iff, and_assoc]

theorem withDeal_eq_ok_iff {config : TableConfig} {entropy : Generator} {deal : Deal}
    {table : Table} : withDeal config entropy deal = .ok table ↔
      deal.Valid ∧ table = start config (config.generator entropy) deal := by
  rw [← Deal.validate_eq_ok_iff, withDeal]
  cases deal.validate with
  | error invalid => simp
  | ok => simp [eq_comm]

structure InBidding (table : Table) (plays : List (Seat × Card)) (next : Seat) : Prop where
  unplayed : plays = []
  underway : Auction.Underway table.dealer table.auction.calls
  due : next = table.dealer.rotate table.auction.calls.length

structure InPlay (table : Table) (plays : List (Seat × Card)) (play : CardPlay) : Prop where
  legal : Auction.Legal table.dealer table.auction.calls
  resolved : table.auction.resolve = .ok play.declaration
  recorded : play.Recorded table.dealt plays

structure Sound (table : Table) (plays : List (Seat × Card)) : Prop where
  valid : table.dealt.Valid
  bidding : ∀ next, table.stage = .bidding next → table.InBidding plays next
  playing : ∀ play, table.stage = .playing play → table.InPlay plays play

theorem sound_of_fresh {table : Table} (hvalid : table.dealt.Valid)
    (hauction : table.auction = .empty) (hstage : table.stage = .bidding table.dealer) :
    table.Sound [] := by
  constructor
  case valid => exact hvalid
  case bidding =>
    intro next hnext
    obtain rfl : table.dealer = next := by
      rw [hstage] at hnext
      cases hnext
      rfl
    constructor
    case unplayed => rfl
    case underway =>
      rw [hauction]
      exact Auction.underway_nil _
    case due => simp [hauction]
  case playing =>
    intro play hplay
    rw [hstage] at hplay
    cases hplay

theorem sound_of_opened {table : Table} (h : Opened table) : table.Sound [] := by
  cases h with
  | shuffled opening =>
      obtain ⟨deal, generator, hshuffle, rfl⟩ := new_eq_ok_iff.mp opening
      exact sound_of_fresh (Deal.valid_of_shuffle hshuffle) rfl rfl
  | prearranged opening =>
      obtain ⟨hvalid, rfl⟩ := withDeal_eq_ok_iff.mp opening
      exact sound_of_fresh hvalid rfl rfl

section Calls

variable {table : Table} {plays : List (Seat × Card)}

theorem InBidding.callRefusal?_eq_none_iff {next : Seat} (h : table.InBidding plays next)
    (hstage : table.stage = .bidding next) {seat : Seat} {value : BidValue} :
    table.callRefusal? seat value = none ↔
      Auction.LegalAfter table.dealer table.auction.calls ⟨seat, value⟩ := by
  rw [Table.callRefusal?_eq_none_iff, hstage, Stage.bidding.injEq, h.due, Auction.LegalAfter,
    ← Bool.not_eq_true, Auction.forbids_iff h.underway.1, not_not, eq_comm]

theorem sound_withBoard {deal : Deal} {generator rest : Generator}
    (hshuffle : Deal.shuffle generator = .ok (deal, rest)) :
    (table.withBoard deal rest).Sound [] :=
  sound_of_fresh (Deal.valid_of_shuffle hshuffle) rfl rfl

theorem InBidding.sound_of_entered {seat : Seat} (h : table.InBidding [] seat)
    (hvalid : table.dealt.Valid) {value : BidValue}
    (hlegal : Auction.LegalAfter table.dealer table.auction.calls ⟨seat, value⟩)
    {outcome : BidOutcome} {next : Table}
    (hentered : Entered (table.note seat value) seat outcome next) :
    next.Sound [] := by
  cases hentered with
  | ongoing status =>
      have hopen := Auction.status_eq_ongoing_iff.mp status
      rw [calls_note] at hopen
      constructor
      case valid => exact hvalid
      case bidding =>
        rintro _ ⟨⟩
        constructor
        case unplayed => rfl
        case underway =>
          simp only [calls_note]
          exact Auction.underway_concat_iff.mpr ⟨h.underway, hlegal, hopen⟩
        case due =>
          simp only [calls_note, List.length_append, List.length_singleton]
          rw [h.due, Seat.next_eq_rotate, Seat.rotate_rotate]
          rfl
      case playing => rintro _ ⟨⟩
  | settled status resolved lead =>
      constructor
      case valid => exact hvalid
      case bidding => rintro _ ⟨⟩
      case playing =>
        rintro _ ⟨⟩
        constructor
        case legal =>
          simp only [calls_note]
          exact Auction.legal_concat_iff.mpr ⟨h.underway.1, hlegal⟩
        case resolved => exact resolved
        case recorded => exact CardPlay.recorded_start _ _
  | passedOut status shuffled => exact sound_withBoard shuffled

end Calls

section Runs

variable {table next : Table} {plays : List (Seat × Card)}

theorem Sound.of_transition (h : table.Sound plays) {answer : Answer}
    (hstep : Transition table answer next) : next.Sound (playsAfter plays (.ok answer)) := by
  cases hstep with
  | @called seat value outcome _ accepted entered =>
      have hstage := (callRefusal?_eq_none_iff.mp accepted).1
      have bidding := h.bidding seat hstage
      obtain rfl := bidding.unplayed
      have hlegal := (bidding.callRefusal?_eq_none_iff hstage).mp accepted
      rw [playsAfter_bid]
      exact bidding.sound_of_entered h.valid hlegal entered
  | @played play after actor seat card result stage isOpen accepted =>
      have playing := h.playing play stage
      obtain ⟨recorded, hseat, hcard, -, -⟩ := playing.recorded.playCard h.valid accepted
      have hplays : playsAfter plays (.ok (.played result)) = plays ++ [(seat, card)] := by
        simp [playsAfter, hseat, hcard]
      rw [hplays]
      constructor
      case valid => exact h.valid
      case bidding => rintro _ ⟨⟩
      case playing =>
        rintro _ ⟨⟩
        constructor
        case legal => exact playing.legal
        case resolved =>
          rw [playing.recorded.orderly.declaration_playCard accepted]
          exact playing.resolved
        case recorded => exact recorded
  | dealt finished shuffled => exact sound_withBoard shuffled

theorem Sound.step (h : table.Sound plays) (command : Command) :
    (table.step command).2.Sound (playsAfter plays (table.step command).1) := by
  unfold Table.step
  cases hperform : table.perform command with
  | error failure => exact h
  | ok result => exact h.of_transition (transition_of_perform hperform)

theorem Course.sound (h : Course table plays) : table.Sound plays := by
  induction h with
  | opened opening => exact sound_of_opened opening
  | step command _ ih => exact ih.step command

/-- What holds of every table opened and is kept by every move holds in the course of a board. -/
theorem Course.induction {motive : Table → List (Seat × Card) → Prop}
    (opened : ∀ {table}, Opened table → motive table [])
    (moved : ∀ {table plays answer next}, Course table plays → motive table plays →
      Transition table answer next → motive next (playsAfter plays (.ok answer)))
    (h : Course table plays) : motive table plays := by
  induction h with
  | opened opening => exact opened opening
  | @step table plays command before ih =>
      unfold Table.step
      cases hperform : table.perform command with
      | error failure => exact ih
      | ok result => exact moved before ih (transition_of_perform hperform)

theorem Course.run (h : Course table plays) (commands : List Command) :
    Course (table.run commands).2 ((table.run commands).1.foldl playsAfter plays) := by
  induction commands generalizing table plays with
  | nil => exact h
  | cons command commands ih => exact ih (h.step command)

end Runs

/-! ## The unshuffled pack -/

/-- A table on the pack in order, a suit a hand. -/
def unshuffled (dealer : Seat) : Table :=
  start { dealer } (.ofWords fun _ => 0) (.unsorted Card.pack)

def oneClub : List Command :=
  [.bid .north 2, .bid .east 65, .bid .south 129, .bid .west 193]

def deuceOfDiamonds : Card :=
  (CardRange.ofSuit .diamonds).low

def oneClubLed : List Command :=
  oneClub ++ [.playCard .east .east deuceOfDiamonds]

theorem opened_of_valid {config : TableConfig} {entropy : Generator} {deal : Deal}
    (h : deal.Valid) : Opened (start config (config.generator entropy) deal) :=
  .prearranged (withDeal_eq_ok_iff.mpr ⟨h, rfl⟩)

theorem opened_unshuffled (dealer : Seat) : Opened (unshuffled dealer) :=
  opened_of_valid (Deal.valid_unsorted (.refl _))

end Table

end ContractBridge
