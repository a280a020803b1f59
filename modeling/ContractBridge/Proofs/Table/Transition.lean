import ContractBridge.Auction.Law
import ContractBridge.Table.Command

/-!
# What commands do

Every command that is carried out is one of three moves: the seat due calls, a card is accepted, or
a finished board is followed by the next deal.  A call in turn leaves the auction open, settles it
or passes the board out.
-/

namespace ContractBridge

theorem Card.decode_eq_ok_iff {code : UInt8} {card : Card} :
    Card.decode code = .ok card ↔ card.code = code.toNat := by
  unfold decode
  constructor
  · intro h
    split at h
    case isTrue => cases h
    case isFalse =>
      split at h
      case h_2 => cases h
      case h_1 other hcode =>
        cases h
        unfold ofCode? at hcode
        split at hcode
        case isTrue =>
          cases hcode
          rfl
        case isFalse => cases hcode
  · intro h
    have hne : code ≠ 0 := by
      rintro rfl
      have pos := card.pos
      rw [h] at pos
      exact absurd pos (by decide)
    rw [if_neg hne, ← h, ofCode?_code]

namespace Table

theorem phase_eq_bidding_iff {table : Table} :
    table.phase = .bidding ↔ ∃ next, table.stage = .bidding next := by
  unfold phase
  cases table.stage with
  | bidding next => simp
  | playing play =>
      cases hexhausted : play.isExhausted <;> simp [hexhausted]

theorem phase_eq_playing_iff {table : Table} :
    table.phase = .playing ↔ ∃ play, table.stage = .playing play ∧ play.isExhausted = false := by
  unfold phase
  cases table.stage with
  | bidding next => simp
  | playing play =>
      cases hexhausted : play.isExhausted <;> simp [hexhausted]

theorem phase_eq_finished_iff {table : Table} {play : CardPlay}
    (h : table.stage = .playing play) : table.phase = .finished ↔ play.isExhausted = true := by
  unfold phase
  rw [h]
  cases hexhausted : play.isExhausted <;> simp [hexhausted]

theorem phase_ne_bidding_iff {table : Table} :
    table.phase ≠ .bidding ↔ ∃ play, table.stage = .playing play := by
  rw [ne_eq, phase_eq_bidding_iff]
  cases table.stage <;> simp

theorem stage_of_play? {table : Table} {play : CardPlay} (h : table.play? = some play) :
    table.stage = .playing play := by
  unfold play? at h
  split at h
  case h_1 => cases h
  case h_2 other hstage =>
    cases h
    exact hstage

def note (table : Table) (seat : Seat) (value : BidValue) : Table :=
  { table with auction := table.auction.append seat value }

section Note

variable (table : Table) (seat : Seat) (value : BidValue)

@[simp] theorem note_generator : (table.note seat value).generator = table.generator := rfl

@[simp] theorem note_dealt : (table.note seat value).dealt = table.dealt := rfl

@[simp] theorem calls_note :
    (table.note seat value).auction.calls = table.auction.calls ++ [⟨seat, value⟩] :=
  Auction.calls_append _ _ _

theorem enter_eq :
    table.enter seat value =
      match (table.note seat value).auction.status with
      | .passedOut => (table.note seat value).passOut
      | .ongoing => .ok ((table.note seat value).passTurn seat.next)
      | .settled => (table.note seat value).beginPlay := rfl

end Note

def withBoard (table : Table) (deal : Deal) (generator : Generator) : Table :=
  { table with
    generator
    dealt := deal
    auction := .empty
    stage := .bidding table.dealer }

/-- What follows from the call just noted. -/
inductive Entered (noted : Table) (seat : Seat) : BidOutcome → Table → Prop
  | ongoing (status : noted.auction.status = .ongoing) :
      Entered noted seat (.continued seat.next (noted.auction.forbidden seat.next))
        { noted with stage := .bidding seat.next }
  | settled {declaration : Declaration} {turn : Turn} {legal : LegalPlay}
      (status : noted.auction.status = .settled)
      (resolved : noted.auction.resolve = .ok declaration)
      (lead : (CardPlay.start noted.dealt declaration).pending? = some (turn, legal)) :
      Entered noted seat (.completed declaration turn legal)
        { noted with stage := .playing (.start noted.dealt declaration) }
  | passedOut {deal : Deal} {generator : Generator}
      (status : noted.auction.status = .passedOut)
      (shuffled : Deal.shuffle noted.generator = .ok (deal, generator)) :
      Entered noted seat
        (.reshuffled noted.dealer (Auction.empty.forbidden noted.dealer))
        (noted.withBoard deal generator)

theorem redeal_eq (table : Table) :
    table.redeal = (Deal.shuffle table.generator).map fun shuffled =>
      table.withBoard shuffled.1 shuffled.2 := by
  unfold redeal
  cases Deal.shuffle table.generator <;> rfl

theorem enter_eq_ok {table next : Table} {seat : Seat} {value : BidValue} {outcome : BidOutcome}
    (h : table.enter seat value = .ok (outcome, next)) :
    Entered (table.note seat value) seat outcome next := by
  rw [enter_eq] at h
  generalize table.note seat value = noted at h ⊢
  split at h
  case h_1 hstatus =>
    rw [passOut, redeal_eq] at h
    cases hshuffle : Deal.shuffle noted.generator with
    | error fault => simp [hshuffle, Except.map] at h
    | ok shuffled =>
        rw [hshuffle] at h
        cases h
        exact .passedOut hstatus hshuffle
  case h_2 hstatus =>
    cases h
    exact .ongoing hstatus
  case h_3 hstatus =>
    unfold beginPlay at h
    cases hresolve : noted.auction.resolve with
    | error failure => cases failure <;> simp [hresolve] at h
    | ok declaration =>
        cases hpending : (CardPlay.start noted.dealt declaration).pending? with
        | none => simp [hresolve, hpending] at h
        | some offer =>
            simp only [hresolve, hpending] at h
            cases h
            exact .settled hstatus hresolve hpending

theorem callRefusal?_eq_none_iff {table : Table} {seat : Seat} {value : BidValue} :
    table.callRefusal? seat value = none ↔
      table.stage = .bidding seat ∧ table.auction.forbids seat value = false := by
  unfold callRefusal?
  cases table.stage with
  | playing play => simp
  | bidding next =>
      by_cases hseat : seat = next
      · simp [hseat]
      · simp [hseat, Ne.symm hseat]

theorem call_eq_ok {table next : Table} {seat : Seat} {value : BidValue} {outcome : BidOutcome}
    (h : table.call seat value = .ok (outcome, next)) :
    table.callRefusal? seat value = none ∧ Entered (table.note seat value) seat outcome next := by
  unfold call at h
  cases hrefusal : table.callRefusal? seat value with
  | some error => simp [hrefusal] at h
  | none =>
      rw [hrefusal] at h
      exact ⟨rfl, enter_eq_ok h⟩

theorem bid_eq_ok {table next : Table} {seat : Seat} {code : UInt8} {outcome : BidOutcome}
    (h : table.bid seat code = .ok (outcome, next)) :
    ∃ value, TaggedBid.decode code = .ok ⟨seat, value⟩ ∧
      table.call seat value = .ok (outcome, next) := by
  unfold bid at h
  split at h
  case h_1 => cases h
  case h_2 tagged hdecode =>
    split at h
    case isTrue => cases h
    case isFalse hseat =>
      obtain rfl : tagged.seat = seat := Decidable.not_not.mp hseat
      exact ⟨tagged.value, hdecode, h⟩

theorem playCard_eq_ok {table next : Table} {actor seat : Seat} {card : Card}
    {result : CardPlay.Played} (h : table.playCard actor seat card = .ok (result, next)) :
    ∃ play after, table.stage = .playing play ∧ play.isExhausted = false ∧
      play.playCard actor seat card = .ok (result, after) ∧
      next = { table with stage := .playing after } := by
  unfold playCard at h
  split at h
  case h_1 => cases h
  case h_2 play hstage =>
    split at h
    case isTrue => cases h
    case isFalse hopen =>
      unfold playOn at h
      split at h
      case h_1 => cases h
      case h_2 played after hplay =>
        cases h
        exact ⟨play, after, hstage, Bool.not_eq_true _ ▸ hopen, hplay, rfl⟩

theorem play_eq_ok {table next : Table} {actor seat : Seat} {code : UInt8}
    {result : CardPlay.Played} (h : table.play actor seat code = .ok (result, next)) :
    ∃ card, Card.decode code = .ok card ∧ table.playCard actor seat card = .ok (result, next) := by
  unfold play at h
  split at h
  case h_1 => cases h
  case h_2 card hdecode => exact ⟨card, hdecode, h⟩

theorem autoPlay_eq_ok {table next : Table} {result : CardPlay.Played}
    (h : table.autoPlay = .ok (result, next)) :
    ∃ turn legal, table.turn? = some (turn, legal) ∧
      table.playCard turn.actor turn.seat legal.defaultCard = .ok (result, next) := by
  unfold autoPlay at h
  split at h
  case h_1 => cases h
  case h_2 turn legal hturn => exact ⟨turn, legal, hturn, h⟩

theorem nextDeal_eq_ok {table next : Table} {dealer : Seat}
    (h : table.nextDeal = .ok (dealer, next)) :
    table.phase = .finished ∧ dealer = table.dealer.next ∧ ∃ deal generator,
      Deal.shuffle table.generator = .ok (deal, generator) ∧
      next = { table with dealer := table.dealer.next }.withBoard deal generator := by
  unfold nextDeal at h
  split at h
  case h_2 => cases h
  case h_1 hphase =>
    rw [redeal_eq] at h
    cases hshuffle : Deal.shuffle table.generator with
    | error fault => simp [hshuffle, Except.map] at h
    | ok shuffled =>
        rw [hshuffle] at h
        cases h
        exact ⟨hphase, rfl, shuffled.1, shuffled.2, rfl, rfl⟩

/-! ## Commands -/

inductive Transition (table : Table) : Answer → Table → Prop
  | called {seat : Seat} {value : BidValue} {outcome : BidOutcome} {next : Table}
      (accepted : table.callRefusal? seat value = none)
      (entered : Entered (table.note seat value) seat outcome next) :
      Transition table (.bid outcome) next
  | played {play after : CardPlay} {actor seat : Seat} {card : Card} {result : CardPlay.Played}
      (stage : table.stage = .playing play) (isOpen : play.isExhausted = false)
      (accepted : play.playCard actor seat card = .ok (result, after)) :
      Transition table (.played result) { table with stage := .playing after }
  | dealt {deal : Deal} {generator : Generator} (finished : table.phase = .finished)
      (shuffled : Deal.shuffle table.generator = .ok (deal, generator)) :
      Transition table (.dealer table.dealer.next)
        ({ table with dealer := table.dealer.next }.withBoard deal generator)

theorem labelled_eq_ok {α : Type} {label : α → Answer}
    {result : Except (Failure TableError) (α × Table)} {answer : Answer} {next : Table}
    (h : labelled label result = .ok (answer, next)) :
    ∃ a, answer = label a ∧ result = .ok (a, next) := by
  unfold labelled at h
  split at h
  case h_1 a table =>
    cases h
    exact ⟨a, rfl, rfl⟩
  case h_2 => cases h

theorem step_of_perform {table next : Table} {command : Command} {answer : Answer}
    (h : table.perform command = .ok (answer, next)) : table.step command = (.ok answer, next) := by
  rw [step, h]

theorem run_cons (table : Table) (command : Command) (commands : List Command) :
    table.run (command :: commands) =
      ((table.step command).1 :: ((table.step command).2.run commands).1,
        ((table.step command).2.run commands).2) := rfl

theorem step_cases (table : Table) (command : Command) :
    (∃ failure, table.step command = (.error failure, table)) ∨
      ∃ answer next, table.perform command = .ok (answer, next) ∧
        table.step command = (.ok answer, next) := by
  cases hperform : table.perform command with
  | error failure => exact .inl ⟨failure, by rw [step, hperform]⟩
  | ok answered => exact .inr ⟨answered.1, answered.2, rfl, step_of_perform hperform⟩

theorem transition_of_playCard {table next : Table} {actor seat : Seat} {card : Card}
    {result : CardPlay.Played} (h : table.playCard actor seat card = .ok (result, next)) :
    Transition table (.played result) next := by
  obtain ⟨play, after, hstage, hopen, hplay, rfl⟩ := playCard_eq_ok h
  exact .played hstage hopen hplay

theorem transition_of_perform {table next : Table} {command : Command} {answer : Answer}
    (h : table.perform command = .ok (answer, next)) : Transition table answer next := by
  cases command with
  | bid seat code =>
      obtain ⟨outcome, rfl, hbid⟩ := labelled_eq_ok h
      obtain ⟨value, -, hcall⟩ := bid_eq_ok hbid
      obtain ⟨haccepted, hentered⟩ := call_eq_ok hcall
      exact .called haccepted hentered
  | call seat value =>
      obtain ⟨outcome, rfl, hcall⟩ := labelled_eq_ok h
      obtain ⟨haccepted, hentered⟩ := call_eq_ok hcall
      exact .called haccepted hentered
  | play actor seat code =>
      obtain ⟨result, rfl, hplay⟩ := labelled_eq_ok h
      obtain ⟨card, -, hcard⟩ := play_eq_ok hplay
      exact transition_of_playCard hcard
  | playCard actor seat card =>
      obtain ⟨result, rfl, hcard⟩ := labelled_eq_ok h
      exact transition_of_playCard hcard
  | autoPlay =>
      obtain ⟨result, rfl, hauto⟩ := labelled_eq_ok h
      obtain ⟨turn, legal, -, hcard⟩ := autoPlay_eq_ok hauto
      exact transition_of_playCard hcard
  | nextDeal =>
      obtain ⟨dealer, rfl, hnext⟩ := labelled_eq_ok h
      obtain ⟨hphase, rfl, deal, generator, hshuffle, rfl⟩ := nextDeal_eq_ok hnext
      exact .dealt hphase hshuffle

end Table

end ContractBridge
