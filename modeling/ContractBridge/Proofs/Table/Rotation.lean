import ContractBridge.Proofs.CardPlay.Rotation
import ContractBridge.Proofs.Table.Course

/-!
# Tables are round

When the hands, the dealer and all seats in the commands move the same number of places clockwise,
every answer moves along.  A new deal is not the old one turned, so the boards part when the cards
are dealt again.
-/

namespace ContractBridge

variable (steps : Nat)

theorem Seat.perm_map_rotate : (Seat.all.map (Seat.rotate · steps)).Perm Seat.all := by
  have hturns : ∀ turns < 4, (Seat.all.map (Seat.rotate · turns)).Perm Seat.all := by decide
  have hmod : (Seat.rotate · steps) = (Seat.rotate · (steps % 4)) :=
    funext fun seat => (seat.rotate_mod steps).symm
  rw [hmod]
  exact hturns _ (Nat.mod_lt _ (by decide))

theorem Deal.Valid.rotate {deal : Deal} (h : deal.Valid) :
    Deal.Valid (BySeat.rotate deal steps) := by
  have hget : ∀ seat, (BySeat.rotate deal steps).get seat = deal.get (seat.rotate (3 * steps)) :=
    BySeat.get_ofFn _
  constructor
  case full =>
    intro seat
    rw [hget]
    exact h.full _
  case distinct =>
    have hperm : (Deal.cards (BySeat.rotate deal steps)).Perm deal.cards := by
      simp only [Deal.cards_eq, hget]
      have hturned := (Seat.perm_map_rotate (3 * steps)).flatMap_right fun seat =>
        (deal.get seat).cards
      rwa [List.flatMap_map] at hturned
    exact hperm.nodup_iff.mpr h.distinct

def TableError.rotate : TableError → TableError
  | .bid error => .bid (error.rotate steps)
  | .card error => .card error
  | .phaseMismatch phase => .phaseMismatch phase
  | .seatMismatch seat tagged => .seatMismatch (seat.rotate steps) (tagged.rotate steps)
  | .outOfTurn expected got => .outOfTurn (expected.rotate steps) (got.rotate steps)
  | .forbiddenBid seat value => .forbiddenBid (seat.rotate steps) value
  | .play error => .play (error.rotate steps)

def BidOutcome.rotate : BidOutcome → BidOutcome
  | .continued next forbidden => .continued (next.rotate steps) forbidden
  | .completed declaration turn legal =>
      .completed (declaration.rotate steps) (turn.rotate steps) legal
  | .reshuffled dealer forbidden => .reshuffled (dealer.rotate steps) forbidden

namespace Table

def Command.rotate : Command → Command
  | .bid seat code => .bid (seat.rotate steps) (TaggedBid.rotateCode steps code)
  | .call seat value => .call (seat.rotate steps) value
  | .play actor seat code => .play (actor.rotate steps) (seat.rotate steps) code
  | .playCard actor seat card => .playCard (actor.rotate steps) (seat.rotate steps) card
  | .autoPlay => .autoPlay
  | .nextDeal => .nextDeal

def Answer.rotate : Answer → Answer
  | .bid outcome => .bid (outcome.rotate steps)
  | .played result => .played (result.rotate steps)
  | .dealer seat => .dealer (seat.rotate steps)

def rotateReply : Reply → Reply
  | .ok answer => .ok (answer.rotate steps)
  | .error failure => .error (failure.map (TableError.rotate steps))

end Table

def Stage.rotate : Stage → Stage
  | .bidding next => .bidding (next.rotate steps)
  | .playing play => .playing (play.rotate steps)

namespace Table

/-! ## Turned tables -/

/-- The generators may differ, but the second shuffle stalls whenever the first one does. -/
structure Turned (table turned : Table) : Prop where
  dealer : turned.dealer = table.dealer.rotate steps
  dealt : turned.dealt = table.dealt.rotate steps
  auction : turned.auction = table.auction.rotate steps
  stage : turned.stage = table.stage.rotate steps
  stalls : ∀ fault, Deal.shuffle table.generator = .error fault →
    Deal.shuffle turned.generator = .error fault

variable {steps}

section Turned

variable {table turned : Table} (h : table.Turned steps turned)

include h

theorem Turned.phase : turned.phase = table.phase := by
  rw [Table.phase, h.stage, Table.phase]
  cases table.stage <;> rfl

theorem Turned.play? : turned.play? = table.play?.map (CardPlay.rotate steps) := by
  rw [Table.play?, h.stage, Table.play?]
  cases table.stage <;> rfl

theorem Turned.deal : turned.deal = table.deal.rotate steps := by
  rw [Table.deal, h.stage, h.dealt, Table.deal]
  cases table.stage <;> rfl

theorem Turned.nextBidder? : turned.nextBidder? = table.nextBidder?.map (Seat.rotate · steps) := by
  rw [Table.nextBidder?, h.stage, Table.nextBidder?]
  cases table.stage <;> rfl

theorem Turned.forbidden? : turned.forbidden? = table.forbidden? := by
  rw [Table.forbidden?, h.nextBidder?, h.auction, Table.forbidden?]
  cases table.nextBidder? with
  | none => rfl
  | some next => exact congrArg some (table.auction.forbidden_rotate steps next)

theorem Turned.declaration? :
    turned.declaration? = table.declaration?.map (Declaration.rotate steps) := by
  rw [Table.declaration?, h.play?, Table.declaration?]
  cases table.play? <;> rfl

theorem Turned.turn? : turned.turn? = table.turn?.map (CardPlay.rotateOffer steps) := by
  rw [Table.turn?, h.play?, Table.turn?]
  cases table.play? with
  | none => rfl
  | some play => exact play.pending?_rotate steps

theorem Turned.withStage (stage : Stage) :
    { table with stage }.Turned steps { turned with stage := stage.rotate steps } :=
  ⟨h.dealer, h.dealt, h.auction, rfl, h.stalls⟩

theorem Turned.note (seat : Seat) (value : BidValue) :
    (table.note seat value).Turned steps (turned.note (seat.rotate steps) value) := by
  refine ⟨h.dealer, h.dealt, ?_, h.stage, h.stalls⟩
  rw [Table.note, h.auction, Auction.append_rotate]
  rfl

theorem Turned.callRefusal? (seat : Seat) (value : BidValue) :
    turned.callRefusal? (seat.rotate steps) value =
      (table.callRefusal? seat value).map (TableError.rotate steps) := by
  unfold Table.callRefusal?
  rw [h.stage, h.phase, h.auction, Auction.forbidden_rotate]
  cases table.stage with
  | playing play => rfl
  | bidding next =>
      simp only [Stage.rotate, ne_eq, Seat.rotate_eq_rotate_iff]
      split
      case isTrue => rfl
      case isFalse => split <;> rfl

end Turned

variable (steps) in
/-- Two commands were both refused, both stuck or both carried out, one as the other turned.  When the
first has dealt anew, nothing is said of the second. -/
inductive Turns : Except (Failure TableError) (Answer × Table) →
    Except (Failure TableError) (Answer × Table) → Prop
  | refused (error : TableError) :
      Turns (.error (.refused error)) (.error (.refused (error.rotate steps)))
  | stuck (fault : Fault) : Turns (.error (.fault fault)) (.error (.fault fault))
  | done {table turned : Table} (answer : Answer) (h : table.Turned steps turned) :
      Turns (.ok (answer, table)) (.ok (answer.rotate steps, turned))
  | anew {answer : Answer} {table : Table} (h : isRedeal (.ok answer) = true)
      (result : Except (Failure TableError) (Answer × Table)) : Turns (.ok (answer, table)) result

section Turns

variable {table turned : Table} (h : table.Turned steps turned)

include h

theorem Turned.passOut :
    Turns steps (labelled .bid table.passOut) (labelled .bid turned.passOut) := by
  rw [Table.passOut, redeal_eq]
  cases hshuffle : Deal.shuffle table.generator with
  | ok shuffled => exact .anew rfl _
  | error fault =>
      rw [Table.passOut, redeal_eq, h.stalls fault hshuffle]
      exact .stuck fault

theorem Turned.beginPlay :
    Turns steps (labelled .bid table.beginPlay) (labelled .bid turned.beginPlay) := by
  have hresolve : turned.auction.resolve =
      table.auction.resolve.map (Declaration.rotate steps) := by
    rw [h.auction, Auction.resolve_rotate]
  unfold Table.beginPlay
  rw [hresolve]
  cases table.auction.resolve with
  | error failure => cases failure <;> exact .stuck _
  | ok declaration =>
      have hstart : CardPlay.start turned.dealt (declaration.rotate steps) =
          (CardPlay.start table.dealt declaration).rotate steps := by
        rw [h.dealt, CardPlay.start_rotate]
      simp only [Except.map, hstart, CardPlay.pending?_rotate]
      cases (CardPlay.start table.dealt declaration).pending? with
      | none => exact .stuck _
      | some offer => exact .done _ (h.withStage _)

theorem Turned.enter (seat : Seat) (value : BidValue) :
    Turns steps (labelled .bid (table.enter seat value))
      (labelled .bid (turned.enter (seat.rotate steps) value)) := by
  have hnote := h.note seat value
  rw [enter_eq, enter_eq]
  generalize table.note seat value = noted at hnote ⊢
  generalize turned.note (seat.rotate steps) value = noted' at hnote ⊢
  rw [hnote.auction, Auction.status_rotate]
  cases noted.auction.status with
  | passedOut => exact hnote.passOut
  | settled => exact hnote.beginPlay
  | ongoing =>
      have hforbidden : noted'.auction.forbidden (seat.next.rotate steps) =
          noted.auction.forbidden seat.next := by
        rw [hnote.auction, Auction.forbidden_rotate]
      simp only [passTurn, Seat.next_rotate, hforbidden]
      exact .done _ (hnote.withStage _)

theorem Turned.call (seat : Seat) (value : BidValue) :
    Turns steps (labelled .bid (table.call seat value))
      (labelled .bid (turned.call (seat.rotate steps) value)) := by
  unfold Table.call
  rw [h.callRefusal?]
  cases table.callRefusal? seat value with
  | some error => exact .refused error
  | none => exact h.enter seat value

theorem Turned.bid (seat : Seat) (code : UInt8) :
    Turns steps (labelled .bid (table.bid seat code))
      (labelled .bid (turned.bid (seat.rotate steps) (TaggedBid.rotateCode steps code))) := by
  unfold Table.bid
  rw [TaggedBid.decode_rotateCode]
  cases TaggedBid.decode code with
  | error error => exact .refused (.bid error)
  | ok tagged =>
      simp only [TaggedBid.rotate, ne_eq, Seat.rotate_eq_rotate_iff]
      split
      case isTrue => exact .refused (.seatMismatch seat tagged.seat)
      case isFalse => exact h.call seat tagged.value

theorem Turned.playCard (actor seat : Seat) (card : Card) :
    Turns steps (labelled .played (table.playCard actor seat card))
      (labelled .played (turned.playCard (actor.rotate steps) (seat.rotate steps) card)) := by
  unfold Table.playCard
  rw [h.stage]
  cases table.stage with
  | bidding next => exact .refused _
  | playing play =>
      have hexhausted : (play.rotate steps).isExhausted = play.isExhausted := rfl
      simp only [Stage.rotate, hexhausted, playOn, CardPlay.playCard_rotate]
      split
      case isTrue => exact .refused _
      case isFalse =>
        cases play.playCard actor seat card with
        | ok result => exact .done _ (h.withStage _)
        | error failure =>
            cases failure with
            | refused error => exact .refused (.play error)
            | fault fault => exact .stuck _

theorem Turned.play (actor seat : Seat) (code : UInt8) :
    Turns steps (labelled .played (table.play actor seat code))
      (labelled .played (turned.play (actor.rotate steps) (seat.rotate steps) code)) := by
  unfold Table.play
  cases Card.decode code with
  | error error => exact .refused (.card error)
  | ok card => exact h.playCard actor seat card

theorem Turned.autoPlay :
    Turns steps (labelled .played table.autoPlay) (labelled .played turned.autoPlay) := by
  unfold Table.autoPlay
  rw [h.turn?, h.phase]
  cases table.turn? with
  | none => exact .refused _
  | some offer => exact h.playCard offer.1.actor offer.1.seat offer.2.defaultCard

theorem Turned.nextDeal :
    Turns steps (labelled .dealer table.nextDeal) (labelled .dealer turned.nextDeal) := by
  unfold Table.nextDeal
  rw [h.phase]
  cases table.phase with
  | bidding | playing => exact .refused _
  | finished =>
      simp only [redeal_eq]
      cases hshuffle : Deal.shuffle table.generator with
      | ok shuffled => exact .anew rfl _
      | error fault =>
          rw [h.stalls fault hshuffle]
          exact .stuck fault

theorem Turned.perform (command : Command) :
    Turns steps (table.perform command) (turned.perform (command.rotate steps)) := by
  cases command with
  | bid seat code => exact h.bid seat code
  | call seat value => exact h.call seat value
  | play actor seat code => exact h.play actor seat code
  | playCard actor seat card => exact h.playCard actor seat card
  | autoPlay => exact h.autoPlay
  | nextDeal => exact h.nextDeal

theorem Turned.step {command : Command} (hundealt : isRedeal (table.step command).1 = false) :
    (turned.step (command.rotate steps)).1 = rotateReply steps (table.step command).1 ∧
      (table.step command).2.Turned steps (turned.step (command.rotate steps)).2 := by
  have turns := h.perform command
  unfold Table.step at hundealt ⊢
  generalize table.perform command = result at turns hundealt ⊢
  generalize turned.perform (command.rotate steps) = result' at turns ⊢
  cases turns with
  | refused error => exact ⟨rfl, h⟩
  | done answer hnext => exact ⟨rfl, hnext⟩
  | anew hanew =>
      rw [hanew] at hundealt
      cases hundealt
  | stuck fault => exact ⟨rfl, h⟩

theorem Turned.run {commands : List Command}
    (hundealt : ∀ reply ∈ (table.run commands).1, isRedeal reply = false) :
    (turned.run (commands.map (Command.rotate steps))).1 =
        (table.run commands).1.map (rotateReply steps) ∧
      (table.run commands).2.Turned steps
        (turned.run (commands.map (Command.rotate steps))).2 := by
  induction commands generalizing table turned with
  | nil => exact ⟨rfl, h⟩
  | cons command commands ih =>
      rw [run_cons] at hundealt
      obtain ⟨hfirst, hrest⟩ := List.forall_mem_cons.mp hundealt
      obtain ⟨hreply, hnext⟩ := h.step hfirst
      obtain ⟨hreplies, hlast⟩ := ih hnext hrest
      rw [List.map_cons, run_cons, run_cons, hreply, hreplies]
      exact ⟨rfl, hlast⟩

end Turns

/-! ## All seats alike -/

variable (steps) in
/-- What can be read off two tables, one with everybody moved clockwise. -/
structure SameTurned (table turned : Table) : Prop where
  phase : turned.phase = table.phase
  dealer : turned.dealer = table.dealer.rotate steps
  deal : ∀ seat, turned.deal.get (seat.rotate steps) = table.deal.get seat
  nextBidder? : turned.nextBidder? = table.nextBidder?.map (Seat.rotate · steps)
  forbidden? : turned.forbidden? = table.forbidden?
  entries : turned.auction.entries = table.auction.entries.map (Entry.rotate steps)
  firstBids : ∀ seat strain,
    turned.auction.firstBid? (seat.rotate steps) strain = table.auction.firstBid? seat strain
  declaration? : turned.declaration? = table.declaration?.map (Declaration.rotate steps)
  turn? : turned.turn? = table.turn?.map (CardPlay.rotateOffer steps)
  trick : turned.play?.map CardPlay.trick =
    table.play?.map fun play => play.trick.rotate steps
  tricksPlayed : turned.play?.map CardPlay.tricksPlayed = table.play?.map CardPlay.tricksPlayed
  tricksWon : turned.play?.map CardPlay.tricksWon = table.play?.map fun play =>
    if steps % 2 = 0 then play.tricksWon
    else ⟨play.tricksWon.eastWest, play.tricksWon.northSouth⟩
  tricksOf : ∀ seat, (turned.play?.map fun play => play.tricksOf (seat.rotate steps)) =
    table.play?.map fun play => play.tricksOf seat

theorem Turned.same {table turned : Table} (h : table.Turned steps turned) :
    SameTurned steps table turned := by
  have hplays : ∀ {α : Type} (f : CardPlay → α),
      turned.play?.map f = table.play?.map fun play => f (play.rotate steps) := by
    intro α f
    rw [h.play?, Option.map_map]
    rfl
  constructor
  case phase => exact h.phase
  case dealer => exact h.dealer
  case deal =>
    intro seat
    rw [h.deal]
    exact BySeat.get_rotate ..
  case nextBidder? => exact h.nextBidder?
  case forbidden? => exact h.forbidden?
  case entries => rw [h.auction, Auction.rotate]
  case firstBids =>
    intro seat strain
    rw [h.auction, Auction.firstBid?_rotate]
  case declaration? => exact h.declaration?
  case turn? => exact h.turn?
  case trick => exact hplays _
  case tricksPlayed => exact hplays _
  case tricksWon =>
    rw [hplays]
    simp only [CardPlay.rotate, BySide.rotate_eq]
  case tricksOf =>
    intro seat
    rw [hplays]
    simp only [CardPlay.tricksOf_rotate]

/-- A board whose hands, dealer and commands are moved clockwise by the same number of seats is
answered and played in the same way, everything moved along, until the cards are dealt anew.  The
two tables may draw their deals differently, unless the first one cannot shuffle at all. -/
theorem seats_alike (steps : Nat) {config config' : TableConfig} {entropy entropy' : Generator}
    {deal deal' : Deal} {table : Table} (hopen : withDeal config entropy deal = .ok table)
    (hdealer : config'.dealer = config.dealer.rotate steps)
    (hdeal : ∀ seat, deal'.get (seat.rotate steps) = deal.get seat)
    (hstall : ∀ fault, Deal.shuffle (config.generator entropy) = .error fault →
      Deal.shuffle (config'.generator entropy') = .error fault) {commands : List Command}
    (hundealt : ∀ reply ∈ (table.run commands).1, isRedeal reply = false) :
    ∃ turned, withDeal config' entropy' deal' = .ok turned ∧
      (turned.run (commands.map (Command.rotate steps))).1 =
        (table.run commands).1.map (rotateReply steps) ∧
      SameTurned steps (table.run commands).2
        (turned.run (commands.map (Command.rotate steps))).2 := by
  obtain ⟨valid, rfl⟩ := withDeal_eq_ok_iff.mp hopen
  obtain rfl : deal' = BySeat.rotate deal steps := BySeat.eq_rotate deal steps hdeal
  have hstart : (start config (config.generator entropy) deal).Turned steps
      (start config' (config'.generator entropy') (BySeat.rotate deal steps)) := by
    constructor
    case dealer => exact hdealer
    case dealt => rfl
    case auction => exact (Auction.rotate_empty steps).symm
    case stage => exact congrArg Stage.bidding hdealer
    case stalls => exact hstall
  obtain ⟨hreplies, hlast⟩ := hstart.run hundealt
  exact ⟨_, withDeal_eq_ok_iff.mpr ⟨valid.rotate steps, rfl⟩, hreplies, hlast.same⟩

/-- A byte tagged for East that carries no bid, and then North's club. -/
def oneClubAfterBlank : List Command :=
  .bid .north 64 :: oneClubLed

theorem seats_alike_oneClub :
    ∃ turned, withDeal { dealer := .east } (.ofWords fun _ => 0)
        (BySeat.rotate (Deal.unsorted Card.pack) 1) = .ok turned ∧
      (turned.run (oneClubAfterBlank.map (Command.rotate 1))).1.head? =
        some (.error (.refused (.bid (.unset 128)))) ∧
      ((turned.run (oneClubAfterBlank.map (Command.rotate 1))).2.declaration?.map
        Declaration.declarer) = some .east ∧
      SameTurned 1 ((unshuffled .north).run oneClubAfterBlank).2
        (turned.run (oneClubAfterBlank.map (Command.rotate 1))).2 := by
  have hopen : withDeal { dealer := .north } (.ofWords fun _ => 0) (Deal.unsorted Card.pack) =
      .ok (unshuffled .north) :=
    withDeal_eq_ok_iff.mpr ⟨Deal.valid_unsorted (.refl _), rfl⟩
  have hundealt : ∀ reply ∈ ((unshuffled .north).run oneClubAfterBlank).1,
      isRedeal reply = false := by decide +kernel
  have hdealer : TableConfig.dealer { dealer := .east } = Seat.rotate .north 1 := rfl
  obtain ⟨turned, hturned, hreplies, hsame⟩ :=
    seats_alike 1 hopen hdealer (BySeat.get_rotate (Deal.unsorted Card.pack) 1)
      (fun _ hfault => hfault) hundealt
  refine ⟨turned, hturned, ?_, ?_, hsame⟩
  · rw [hreplies, List.head?_map]
    rfl
  · have hdeclarer : ((unshuffled .north).run oneClubAfterBlank).2.declaration?.map
        (fun declaration => (Declaration.rotate 1 declaration).declarer) = some .east := by
      decide +kernel
    rwa [hsame.declaration?, Option.map_map]

end Table

end ContractBridge
