import ContractBridge.CardPlay.Step
import ContractBridge.Proofs.CardPlay.Trick

/-!
# Order of play

Whatever the hands, the play of a board keeps its order: the turn goes clockwise from the leader of
the trick, a trick is closed with its fourth card, and the tricks of the two sides add up.  From
there no play runs into a dead end.
-/

namespace ContractBridge

theorem BySide.sum_raise (tricks : BySide Nat) (side : Side) :
    (tricks.set side (tricks.get side + 1)).northSouth +
        (tricks.set side (tricks.get side + 1)).eastWest =
      tricks.northSouth + tricks.eastWest + 1 := by
  cases side <;> simp [BySide.set, BySide.get] <;> omega

theorem BySide.get_le_sum (tricks : BySide Nat) (side : Side) :
    tricks.get side ≤ tricks.northSouth + tricks.eastWest := by
  cases side <;> simp [BySide.get]

namespace CardPlay

structure Orderly (play : CardPlay) : Prop where
  inTurn : play.trick.InTurn
  short : play.trick.plays.length < 4
  due : play.due =
    .ofSeat play.declaration (play.trick.leader.rotate play.trick.plays.length)
  count : play.tricksPlayed ≤ handSize
  sum : play.tricksWon.northSouth + play.tricksWon.eastWest = play.tricksPlayed
  idle : play.isExhausted = true → play.trick.plays = []

theorem orderly_start (deal : Deal) (declaration : Declaration) :
    (start deal declaration).Orderly where
  inTurn := Trick.inTurn_ledBy _
  short := by simp [start, Trick.ledBy]
  due := by simp [start, Trick.ledBy]
  count := Nat.zero_le _
  sum := rfl
  idle := by simp [start, isExhausted, handSize]

theorem Orderly.due_actor {play : CardPlay} (h : play.Orderly) :
    play.due.actor = play.declaration.controller play.due.seat := by
  rw [h.due]
  rfl

theorem refusal?_eq_none_iff {play : CardPlay} {actor seat : Seat} {card : Card} :
    play.refusal? actor seat card = none ↔
      play.isExhausted = false ∧ seat = play.due.seat ∧ actor = play.due.actor ∧
        card ∈ (play.deal.get seat).cards ∧
        (play.round.contains card = true ∨
          ∀ other ∈ (play.deal.get seat).cards, play.round.contains other = false) := by
  unfold refusal? turn?
  cases hexhausted : play.isExhausted with
  | true => simp
  | false =>
      simp only [Bool.false_eq_true, if_false, true_and]
      by_cases hseat : seat = play.due.seat
      case neg => simp [hseat]
      by_cases hactor : actor = play.due.actor
      case neg => simp [hseat, hactor]
      subst hseat hactor
      rw [if_neg (not_not_intro rfl), if_neg (not_not_intro rfl)]
      cases hlegal : play.legalPlay? play.due.seat with
      | none =>
          have hempty := Hand.legalPlay?_eq_none_iff.mp hlegal
          simp [hempty]
      | some legal =>
          by_cases hheld : card ∈ (play.deal.get play.due.seat).cards
          · have hcontains := Hand.contains_iff.mpr hheld
            have hrange := Hand.contains_range_iff hlegal hheld
            simp [hcontains, hheld, ← hrange]
          · have hcontains : (play.deal.get play.due.seat).contains card = false := by
              simpa [← Hand.contains_iff] using hheld
            simp [hcontains, hheld]

theorem pending?_eq_some_iff {play : CardPlay} {turn : Turn} {legal : LegalPlay} :
    play.pending? = some (turn, legal) ↔
      play.isExhausted = false ∧ turn = play.due ∧ play.legalPlay? turn.seat = some legal := by
  unfold pending? turn?
  cases play.isExhausted with
  | true => simp
  | false =>
      simp only [Bool.false_eq_true, if_false, Option.bind_some, Option.map_eq_some_iff,
        Prod.mk.injEq, true_and]
      constructor
      · rintro ⟨offer, hoffer, rfl, rfl⟩
        exact ⟨rfl, hoffer⟩
      · rintro ⟨rfl, hoffer⟩
        exact ⟨legal, hoffer, rfl, rfl⟩

theorem pending?_of_exhausted {play : CardPlay} (h : play.isExhausted = true) :
    play.pending? = none := by
  simp [pending?, turn?, h]

/-! ## What an accepted card does -/

def lay (play : CardPlay) (seat : Seat) (card : Card) (hand : Hand) : CardPlay :=
  { play with deal := play.deal.set seat hand }.addToTrick seat card

/-- The turn passes on, or the trick that the card has filled goes to its winner. -/
inductive Advanced (laid : CardPlay) (seat : Seat) : Option TrickResult → CardPlay → Prop
  | passed (short : laid.trick.plays.length < 4) :
      Advanced laid seat none { laid with due := laid.turnAfter seat }
  | closed {winner : Seat} (full : laid.trick.plays.length = 4)
      (won : laid.trick.winner? laid.declaration.strain.trump? = some winner) :
      Advanced laid seat (some ⟨laid.trick.plays, winner, laid.tricksPlayed + 1⟩)
        (laid.credit winner (laid.tricksPlayed + 1) (laid.tricksOf winner + 1))

section Lay

variable (play : CardPlay) (seat : Seat) (card : Card) (hand : Hand)

@[simp] theorem lay_deal : (play.lay seat card hand).deal = play.deal.set seat hand := rfl

@[simp] theorem lay_declaration : (play.lay seat card hand).declaration = play.declaration := rfl

@[simp] theorem lay_trick : (play.lay seat card hand).trick = play.trick.add seat card := rfl

@[simp] theorem lay_tricksPlayed : (play.lay seat card hand).tricksPlayed = play.tricksPlayed := rfl

@[simp] theorem lay_tricksWon : (play.lay seat card hand).tricksWon = play.tricksWon := rfl

end Lay

theorem Orderly.isExhausted_eq_false_iff {play : CardPlay} (h : play.Orderly) :
    play.isExhausted = false ↔ play.tricksPlayed < handSize := by
  have count := h.count
  rw [isExhausted, beq_eq_false_iff_ne]
  omega

theorem Orderly.tricksPlayed_lt {play : CardPlay} (h : play.Orderly)
    (hopen : play.isExhausted = false) : play.tricksPlayed < handSize :=
  h.isExhausted_eq_false_iff.mp hopen

theorem Orderly.exists_advanced {play : CardPlay} (h : play.Orderly)
    (hopen : play.isExhausted = false) (card : Card) (hand : Hand) :
    ∃ trick next, (play.lay play.due.seat card hand).advance play.due.seat = .ok (trick, next) ∧
      Advanced (play.lay play.due.seat card hand) play.due.seat trick next := by
  have hinTurn : (play.trick.add play.due.seat card).InTurn := by
    rw [h.due]
    exact h.inTurn.add card
  have short := h.short
  generalize hlaid : play.lay play.due.seat card hand = laid
  have htrick : laid.trick = play.trick.add play.due.seat card := by rw [← hlaid, lay_trick]
  have hlength : laid.trick.plays.length = play.trick.plays.length + 1 := by simp [htrick]
  rw [← htrick] at hinTurn
  have hcomplete := hinTurn.isComplete_iff (by omega)
  unfold advance
  split
  case isFalse hopenTrick =>
    rw [hcomplete] at hopenTrick
    exact ⟨none, _, rfl, .passed (by omega)⟩
  case isTrue hfull =>
    have hnonempty : laid.trick.plays ≠ [] := by simp [htrick, Trick.add]
    obtain ⟨winner, hwinner⟩ :=
      Trick.exists_winner hnonempty laid.declaration.strain.trump?
    have hplayed : laid.tricksPlayed < handSize := by
      rw [← hlaid]
      exact h.tricksPlayed_lt hopen
    have htricks : laid.tricksOf winner ≤ laid.tricksPlayed := by
      rw [← hlaid, lay_tricksPlayed, ← h.sum]
      exact BySide.get_le_sum _ _
    have raise_played : raise? laid.tricksPlayed = some (laid.tricksPlayed + 1) := by
      refine if_pos ?_
      simp only [handSize, UInt8.size] at hplayed ⊢
      omega
    have raise_tricks : raise? (laid.tricksOf winner) = some (laid.tricksOf winner + 1) := by
      refine if_pos ?_
      simp only [handSize, UInt8.size] at hplayed ⊢
      omega
    refine ⟨_, _, ?_, .closed (hcomplete.mp hfull) hwinner⟩
    simp [closeTrick, hwinner, raise_played, raise_tricks]

theorem Orderly.of_advanced {play next : CardPlay} (h : play.Orderly)
    (hopen : play.isExhausted = false) {card : Card} {hand : Hand} {trick : Option TrickResult}
    (hstep : Advanced (play.lay play.due.seat card hand) play.due.seat trick next) :
    next.Orderly := by
  have hplayed := h.tricksPlayed_lt hopen
  have hdue : play.due.seat = play.trick.leader.rotate play.trick.plays.length := by
    rw [h.due]
    rfl
  cases hstep with
  | passed short =>
      constructor
      case inTurn =>
        rw [lay_trick, hdue]
        exact h.inTurn.add card
      case short => exact short
      case due =>
        simp only [turnAfter, Turn.after, lay_declaration, lay_trick, Trick.length_plays_add, hdue,
          Seat.next_eq_rotate, Seat.rotate_rotate]
        rfl
      case count => exact h.count
      case sum => exact h.sum
      case idle =>
        intro hexhausted
        change play.isExhausted = true at hexhausted
        rw [hopen] at hexhausted
        cases hexhausted
  | closed full won =>
      constructor
      case inTurn => exact Trick.inTurn_ledBy _
      case short => simp [credit, Trick.ledBy]
      case due => simp [credit, Trick.ledBy]
      case count => exact hplayed
      case sum =>
        simp only [credit, tricksOf, lay_tricksWon, lay_tricksPlayed, BySide.sum_raise, h.sum]
      case idle =>
        intro _
        rfl

/-- Every play is refused or carried out: an accepted one takes the card out of its slot, lays it
and moves on. -/
theorem Orderly.playCard_of_accepted {play : CardPlay} (h : play.Orderly) {actor seat : Seat}
    {card : Card} (haccepted : play.refusal? actor seat card = none) :
    ∃ slot hand trick next, (play.deal.get seat).remove? card = some (slot, hand) ∧
      Advanced (play.lay seat card hand) seat trick next ∧
      play.playCard actor seat card =
        .ok (⟨seat, card, hand.cards, slot, trick, next.pending?⟩, next) := by
  obtain ⟨hopen, rfl, -, hheld, -⟩ := refusal?_eq_none_iff.mp haccepted
  obtain ⟨slot, hposition⟩ := Hand.exists_position? hheld
  have hremove : (play.deal.get play.due.seat).remove? card =
      some (slot, (play.deal.get play.due.seat).clear slot) := by
    rw [Hand.remove?, hposition, Option.map_some]
  obtain ⟨trick, next, hadvance, hstep⟩ :=
    h.exists_advanced hopen card ((play.deal.get play.due.seat).clear slot)
  refine ⟨slot, _, trick, next, hremove, hstep, ?_⟩
  rw [lay] at hadvance
  simp only [playCard, haccepted, commit, takeCard, hremove, hadvance]

theorem Orderly.playCard_eq_ok {play next : CardPlay} (h : play.Orderly) {actor seat : Seat}
    {card : Card} {result : Played} (hplay : play.playCard actor seat card = .ok (result, next)) :
    play.refusal? actor seat card = none ∧
      ∃ slot hand trick, (play.deal.get seat).remove? card = some (slot, hand) ∧
        Advanced (play.lay seat card hand) seat trick next ∧
        result = ⟨seat, card, hand.cards, slot, trick, next.pending?⟩ := by
  cases hrefusal : play.refusal? actor seat card with
  | some error => simp [playCard, hrefusal] at hplay
  | none =>
      obtain ⟨slot, hand, trick, after, hremove, hstep, hok⟩ := h.playCard_of_accepted hrefusal
      rw [hok] at hplay
      cases hplay
      exact ⟨rfl, slot, hand, trick, hremove, hstep, rfl⟩

theorem Orderly.playCard {play next : CardPlay} (h : play.Orderly) {actor seat : Seat}
    {card : Card} {result : Played} (hplay : play.playCard actor seat card = .ok (result, next)) :
    next.Orderly := by
  obtain ⟨haccepted, slot, hand, trick, -, hstep, -⟩ := h.playCard_eq_ok hplay
  obtain ⟨hopen, rfl, -⟩ := refusal?_eq_none_iff.mp haccepted
  exact h.of_advanced hopen hstep

theorem Orderly.declaration_playCard {play next : CardPlay} (h : play.Orderly) {actor seat : Seat}
    {card : Card} {result : Played} (hplay : play.playCard actor seat card = .ok (result, next)) :
    next.declaration = play.declaration := by
  obtain ⟨-, slot, hand, trick, -, hstep, -⟩ := h.playCard_eq_ok hplay
  cases hstep <;> rfl

theorem Orderly.due_of_playCard {play next : CardPlay} (h : play.Orderly) {actor seat : Seat}
    {card : Card} {result : Played} (hplay : play.playCard actor seat card = .ok (result, next)) :
    next.due.seat = seat.next ∨
      ∃ trick, result.trick = some trick ∧ next.due.seat = trick.winner := by
  obtain ⟨-, slot, hand, trick, -, hstep, rfl⟩ := h.playCard_eq_ok hplay
  cases hstep with
  | passed => exact .inl rfl
  | closed => exact .inr ⟨_, rfl, rfl⟩

theorem Orderly.playCard_ne_fault {play : CardPlay} (h : play.Orderly) {actor seat : Seat}
    {card : Card} {fault : Fault} : play.playCard actor seat card ≠ .error (.fault fault) := by
  intro hfault
  cases hrefusal : play.refusal? actor seat card with
  | some error => simp [CardPlay.playCard, hrefusal] at hfault
  | none =>
      obtain ⟨_, _, _, _, -, -, hok⟩ := h.playCard_of_accepted hrefusal
      rw [hok] at hfault
      cases hfault

end CardPlay

end ContractBridge
