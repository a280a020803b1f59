import ContractBridge.Proofs.CardPlay.Account

/-!
# The law of play in the state

The round and the hands that are left stand for the plays of the board: the checks of a play refuse
exactly what breaks the law, and the offer to the seat due singles out its lawful cards.
-/

namespace ContractBridge

namespace CardPlay

theorem contains_roundOf_iff {trick : List (Seat × Card)} {card : Card} :
    (roundOf trick).contains card = true ↔ ∀ lead ∈ trick.head?, card.suit = lead.2.suit := by
  cases trick with
  | nil => simp [roundOf]
  | cons lead rest => simp [roundOf, CardRange.ledBy, CardRange.contains_ofSuit]

section Recorded

variable {dealt : Deal} {plays : List (Seat × Card)} {play : CardPlay}

theorem Recorded.followsSuit_iff (h : play.Recorded dealt plays) {seat : Seat} {card : Card} :
    FollowsSuit dealt plays play.trick.plays seat card ↔
      play.round.contains card = true ∨
        ∀ other ∈ (play.deal.get seat).cards, play.round.contains other = false := by
  have not_contains : ∀ other, play.round.contains other = false ↔
      ¬ ∀ lead ∈ play.trick.plays.head?, other.suit = lead.2.suit := by
    intro other
    rw [← contains_roundOf_iff, ← h.round, Bool.not_eq_true]
  simp only [FollowsSuit, not_contains, h.mem_hand_iff]
  rw [h.round, contains_roundOf_iff]
  cases play.trick.plays with
  | nil => simp
  | cons lead rest => simp

theorem Recorded.refusal?_eq_none_iff (h : play.Recorded dealt plays)
    (hopen : play.isExhausted = false) {actor seat : Seat} {card : Card} :
    play.refusal? actor seat card = none ↔
      Lawful dealt play.declaration plays play.trick actor seat card := by
  rw [CardPlay.refusal?_eq_none_iff, h.mem_hand_iff, ← h.followsSuit_iff, Lawful, h.orderly.due]
  constructor
  · rintro ⟨-, hseat, hactor, hcard, hfollows⟩
    refine ⟨hseat, ?_, hcard, hfollows⟩
    rw [hactor, hseat]
    rfl
  · rintro ⟨hseat, hactor, hcard, hfollows⟩
    refine ⟨hopen, hseat, ?_, hcard, hfollows⟩
    rw [hactor, hseat]
    rfl

theorem Recorded.playCard_isOk_iff (h : play.Recorded dealt plays)
    (hopen : play.isExhausted = false) {actor seat : Seat} {card : Card} :
    (∃ result next, play.playCard actor seat card = .ok (result, next)) ↔
      Lawful dealt play.declaration plays play.trick actor seat card := by
  rw [← h.refusal?_eq_none_iff hopen]
  constructor
  · rintro ⟨result, next, hplay⟩
    exact (h.orderly.playCard_eq_ok hplay).1
  · intro haccepted
    obtain ⟨slot, hand, trick, next, -, -, hok⟩ := h.orderly.playCard_of_accepted haccepted
    exact ⟨_, next, hok⟩

theorem Recorded.contains_range_iff (h : play.Recorded dealt plays) {legal : LegalPlay}
    (hlegal : play.legalPlay? play.due.seat = some legal) {card : Card}
    (hcard : Unplayed dealt plays play.due.seat card) :
    legal.range.contains card = true ↔
      Lawful dealt play.declaration plays play.trick play.due.actor play.due.seat card := by
  rw [Hand.contains_range_iff hlegal (h.mem_hand_iff.mpr hcard), ← h.followsSuit_iff, Lawful]
  constructor
  · intro hfollows
    refine ⟨?_, ?_, hcard, hfollows⟩
    · rw [h.orderly.due]
      rfl
    · rw [h.orderly.due]
      rfl
  · rintro ⟨-, -, -, hfollows⟩
    exact hfollows

end Recorded

end CardPlay

end ContractBridge
