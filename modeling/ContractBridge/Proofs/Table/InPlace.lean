import ContractBridge.Proofs.CardPlay.InPlace
import ContractBridge.Proofs.Table.Transition

/-!
# Commands in place

Every command once more, as writes to one table in the order in which they are made.  Short of a
fault, a command carried out in place answers as the step does and leaves the same table.
-/

namespace ContractBridge

namespace Table

def redealInPlace : InPlace Table TableError Unit := do
  modify fun table => { table with auction := .empty }
  match Deal.shuffle (← get).generator with
  | .error fault => throw (.fault fault)
  | .ok (deal, generator) =>
      modify fun table => { table with generator, dealt := deal }
      modify fun table => { table with stage := .bidding table.dealer }

def passOutInPlace : InPlace Table TableError BidOutcome := do
  redealInPlace
  let table ← get
  return .reshuffled table.dealer (table.auction.forbidden table.dealer)

def passTurnInPlace (next : Seat) : InPlace Table TableError BidOutcome := do
  modify fun table => { table with stage := .bidding next }
  let forbidden := (← get).auction.forbidden next
  return .continued next forbidden

def beginPlayInPlace : InPlace Table TableError BidOutcome := do
  let table ← get
  match table.auction.resolve with
  | .error (.refused _) => throw (.fault .unsettledAuction)
  | .error (.fault fault) => throw (.fault fault)
  | .ok declaration =>
      let play := CardPlay.start table.dealt declaration
      match play.pending? with
      | none => throw (.fault .noOpeningLead)
      | some (turn, legal) =>
          modify fun table => { table with stage := .playing play }
          return .completed declaration turn legal

def enterInPlace (seat : Seat) (value : BidValue) : InPlace Table TableError BidOutcome := do
  modify fun table => table.note seat value
  match (← get).auction.status with
  | .passedOut => passOutInPlace
  | .ongoing => passTurnInPlace seat.next
  | .settled => beginPlayInPlace

def callInPlace (seat : Seat) (value : BidValue) : InPlace Table TableError BidOutcome := do
  match (← get).callRefusal? seat value with
  | some error => throw (.refused error)
  | none => enterInPlace seat value

def bidInPlace (seat : Seat) (code : UInt8) : InPlace Table TableError BidOutcome :=
  match TaggedBid.decode code with
  | .error error => throw (.refused (.bid error))
  | .ok tagged =>
      if tagged.seat ≠ seat then throw (.refused (.seatMismatch seat tagged.seat))
      else callInPlace seat tagged.value

/-- The play of the board is written back whatever became of the card. -/
def playCardInPlace (actor seat : Seat) (card : Card) :
    InPlace Table TableError CardPlay.Played := do
  match (← get).stage with
  | .bidding _ => throw (.refused (.phaseMismatch .bidding))
  | .playing play =>
      if play.isExhausted then throw (.refused (.phaseMismatch .finished))
      else
        let (result, left) := (CardPlay.playInPlace actor seat card).attempt play
        modify fun table => { table with stage := .playing left }
        match result with
        | .error failure => throw (failure.map .play)
        | .ok played => return played

def playInPlace (actor seat : Seat) (code : UInt8) : InPlace Table TableError CardPlay.Played :=
  match Card.decode code with
  | .error error => throw (.refused (.card error))
  | .ok card => playCardInPlace actor seat card

def autoPlayInPlace : InPlace Table TableError CardPlay.Played := do
  let table ← get
  match table.turn? with
  | none => throw (.refused (.phaseMismatch table.phase))
  | some (turn, legal) => playCardInPlace turn.actor turn.seat legal.defaultCard

def nextDealInPlace : InPlace Table TableError Seat := do
  match (← get).phase with
  | .finished =>
      modify fun table => { table with dealer := table.dealer.next }
      redealInPlace
      let dealer := (← get).dealer
      return dealer
  | phase => throw (.refused (.phaseMismatch phase))

def performInPlace : Command → InPlace Table TableError Answer
  | .bid seat code => .bid <$> bidInPlace seat code
  | .call seat value => .bid <$> callInPlace seat value
  | .play actor seat code => .played <$> playInPlace actor seat code
  | .playCard actor seat card => .played <$> playCardInPlace actor seat card
  | .autoPlay => .played <$> autoPlayInPlace
  | .nextDeal => .dealer <$> nextDealInPlace

def attempt (table : Table) (command : Command) : Reply × Table :=
  (performInPlace command).attempt table

/-! ## What they come to -/

section Realizes

variable (table : Table)

theorem realizes_redealInPlace :
    (∃ fault, table.redeal = .error fault ∧
      ∃ left, redealInPlace.attempt table = (.error (.fault fault), left)) ∨
    ∃ fresh, table.redeal = .ok fresh ∧ redealInPlace.attempt table = (.ok (), fresh) := by
  simp only [redealInPlace, redeal, InPlace.attempt_bind, InPlace.attempt_modify,
    InPlace.attempt_get]
  cases Deal.shuffle table.generator with
  | error fault => exact .inl ⟨fault, rfl, _, rfl⟩
  | ok shuffled => exact .inr ⟨_, rfl, rfl⟩

theorem realizes_enterInPlace (seat : Seat) (value : BidValue) :
    InPlace.Realizes table (table.enter seat value) ((enterInPlace seat value).attempt table) := by
  simp only [enterInPlace, InPlace.attempt_bind, InPlace.attempt_modify, InPlace.attempt_get]
  rw [enter_eq]
  generalize table.note seat value = noted
  cases noted.auction.status with
  | passedOut =>
      simp only [passOutInPlace, passOut, InPlace.attempt_bind]
      rcases realizes_redealInPlace noted with ⟨fault, hredeal, left, hleft⟩ | ⟨fresh, hredeal, hleft⟩
      · rw [hredeal, hleft]
        exact .fault _ _
      · rw [hredeal, hleft]
        exact .done _ _
  | ongoing => exact .done _ _
  | settled =>
      simp only [beginPlayInPlace, beginPlay, InPlace.attempt_bind, InPlace.attempt_get]
      cases noted.auction.resolve with
      | error failure => cases failure <;> exact .fault _ _
      | ok declaration =>
          dsimp only
          cases (CardPlay.start noted.dealt declaration).pending? with
          | none => exact .fault _ _
          | some offer => exact .done _ _

theorem realizes_callInPlace (seat : Seat) (value : BidValue) :
    InPlace.Realizes table (table.call seat value) ((callInPlace seat value).attempt table) := by
  simp only [callInPlace, call, InPlace.attempt_bind, InPlace.attempt_get]
  cases table.callRefusal? seat value with
  | some error => exact .refused error
  | none => exact realizes_enterInPlace table seat value

theorem realizes_bidInPlace (seat : Seat) (code : UInt8) :
    InPlace.Realizes table (table.bid seat code) ((bidInPlace seat code).attempt table) := by
  unfold bidInPlace bid
  cases TaggedBid.decode code with
  | error error => exact .refused _
  | ok tagged =>
      dsimp only
      split
      case isTrue => exact .refused _
      case isFalse => exact realizes_callInPlace table ..

theorem realizes_playCardInPlace (actor seat : Seat) (card : Card) :
    InPlace.Realizes table (table.playCard actor seat card)
      ((playCardInPlace actor seat card).attempt table) := by
  simp only [playCardInPlace, playCard, InPlace.attempt_bind, InPlace.attempt_get]
  cases hstage : table.stage with
  | bidding next => exact .refused _
  | playing play =>
      dsimp only
      split
      case isTrue => exact .refused _
      case isFalse =>
        have played := CardPlay.realizes_playInPlace play actor seat card
        simp only [playOn, InPlace.attempt_bind, InPlace.attempt_modify]
        generalize (CardPlay.playInPlace actor seat card).attempt play = left at played ⊢
        generalize play.playCard actor seat card = result at played ⊢
        cases played with
        | done => exact .done _ _
        | fault => exact .fault _ _
        | refused error =>
            have unchanged : { table with stage := .playing play } = table := by rw [← hstage]
            simp only [unchanged]
            exact .refused _

theorem realizes_playInPlace (actor seat : Seat) (code : UInt8) :
    InPlace.Realizes table (table.play actor seat code)
      ((playInPlace actor seat code).attempt table) := by
  unfold playInPlace play
  cases Card.decode code with
  | error error => exact .refused _
  | ok card => exact realizes_playCardInPlace table actor seat card

theorem realizes_autoPlayInPlace :
    InPlace.Realizes table table.autoPlay (autoPlayInPlace.attempt table) := by
  simp only [autoPlayInPlace, autoPlay, InPlace.attempt_bind, InPlace.attempt_get]
  cases table.turn? with
  | none => exact .refused _
  | some offer => exact realizes_playCardInPlace table ..

theorem realizes_nextDealInPlace :
    InPlace.Realizes table table.nextDeal (nextDealInPlace.attempt table) := by
  simp only [nextDealInPlace, nextDeal, InPlace.attempt_bind, InPlace.attempt_get]
  cases table.phase with
  | bidding => exact .refused _
  | playing => exact .refused _
  | finished =>
      simp only [InPlace.attempt_bind, InPlace.attempt_modify]
      rcases realizes_redealInPlace { table with dealer := table.dealer.next } with
        ⟨fault, hredeal, left, hleft⟩ | ⟨fresh, hredeal, hleft⟩
      · rw [hredeal, hleft]
        exact .fault _ _
      · rw [hredeal, hleft]
        exact .done _ _

variable {table}

theorem realizes_labelled {α : Type} {label : α → Answer}
    {result : Except (Failure TableError) (α × Table)} {step : InPlace Table TableError α}
    (h : InPlace.Realizes table result (step.attempt table)) :
    InPlace.Realizes table (labelled label result) ((label <$> step).attempt table) := by
  have hmap : labelled label result = result.map (Prod.map label id) := by
    cases result <;> rfl
  rw [hmap]
  exact h.map label

theorem realizes_attempt (table : Table) (command : Command) :
    InPlace.Realizes table (table.perform command) (table.attempt command) := by
  cases command with
  | bid seat code => exact realizes_labelled (realizes_bidInPlace table seat code)
  | call seat value => exact realizes_labelled (realizes_callInPlace table seat value)
  | play actor seat code => exact realizes_labelled (realizes_playInPlace table actor seat code)
  | playCard actor seat card =>
      exact realizes_labelled (realizes_playCardInPlace table actor seat card)
  | autoPlay => exact realizes_labelled (realizes_autoPlayInPlace table)
  | nextDeal => exact realizes_labelled (realizes_nextDealInPlace table)

theorem attempt_reply (command : Command) :
    (table.attempt command).1 = (table.step command).1 := by
  have realizes := table.realizes_attempt command
  unfold step
  generalize table.attempt command = left at realizes ⊢
  cases hperform : table.perform command with
  | ok result =>
      rw [hperform] at realizes
      rw [realizes.of_ok]
  | error failure =>
      rw [hperform] at realizes
      cases realizes <;> rfl

theorem step_eq_settled (command : Command) :
    table.step command = InPlace.settled table (table.perform command) := by
  unfold step
  cases table.perform command <;> rfl

theorem attempt_eq_step {command : Command}
    (h : ∀ fault, (table.step command).1 ≠ .error (.fault fault)) :
    table.attempt command = table.step command := by
  rw [step_eq_settled] at h ⊢
  refine (table.realizes_attempt command).eq_settled ?_
  intro fault hfault
  rw [hfault] at h
  exact h fault rfl

theorem attempt_of_refused {command : Command} {error : TableError}
    (h : (table.attempt command).1 = .error (.refused error)) :
    (table.attempt command).2 = table := by
  have realizes := table.realizes_attempt command
  generalize table.attempt command = left at realizes h ⊢
  generalize table.perform command = result at realizes
  cases realizes with
  | refused => rfl
  | done => cases h
  | fault => cases h

end Realizes

def attempts (table : Table) : List Command → List Reply × Table
  | [] => ([], table)
  | command :: commands =>
      let (reply, left) := table.attempt command
      let (replies, last) := left.attempts commands
      (reply :: replies, last)

theorem attempts_eq_run {table : Table} {commands : List Command}
    (h : ∀ fault, .error (.fault fault) ∉ (table.run commands).1) :
    table.attempts commands = table.run commands := by
  induction commands generalizing table with
  | nil => rfl
  | cons command commands ih =>
      have hfirst : ∀ fault, (table.step command).1 ≠ .error (.fault fault) := by
        intro fault heq
        exact h fault (heq ▸ List.mem_cons_self ..)
      have hrest : ∀ fault, .error (.fault fault) ∉ ((table.step command).2.run commands).1 := by
        intro fault hmem
        exact h fault (List.mem_cons_of_mem _ hmem)
      simp only [attempts, run, attempt_eq_step hfirst, ih hrest]

end Table

end ContractBridge
