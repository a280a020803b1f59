import ContractBridge.Proofs.CardPlay.Range

/-!
# The offer to a hand

Whatever the hand holds and whatever is asked for, the offer is the exact answer.  It spans the
cards in the round from the lowest to the highest, or else is the whole pack with the first card of
the hand as its default.  The block of a suit asks for the cards of that suit.
-/

namespace ContractBridge

namespace Hand

theorem pairwise_held (hand : Hand) :
    hand.held.Pairwise fun entry later => entry.1 < later.1 := by
  have ascending : hand.slots.zipIdx.Pairwise fun entry later => entry.2 < later.2 := by
    rw [← List.pairwise_map, List.zipIdx_map_snd]
    exact List.pairwise_lt_range'
  rw [held, List.pairwise_filterMap]
  refine ascending.imp ?_
  rintro ⟨content, index⟩ ⟨other, place⟩ hless entry hentry later hlater
  obtain ⟨card, -, rfl⟩ := Option.map_eq_some_iff.mp hentry
  obtain ⟨next, -, rfl⟩ := Option.map_eq_some_iff.mp hlater
  exact hless

theorem empty_before_head {hand : Hand} {first : Nat × Card} (h : hand.held.head? = some first) :
    ∀ slot < first.1, hand.slots[slot]? = some none := by
  intro slot hless
  obtain ⟨rest, hheld⟩ := List.head?_eq_some_iff.mp h
  have hfirst : hand.slots[first.1]? = some (some first.2) :=
    mem_held.mp (List.mem_of_head? h)
  have hlt : slot < hand.slots.length := by
    rw [hand.length_slots]
    exact Nat.lt_trans hless (slot_lt hfirst)
  rw [List.getElem?_eq_getElem hlt]
  cases hcontent : hand.slots[slot] with
  | none => rfl
  | some card =>
      have hmem : (slot, card) ∈ hand.held := by
        rw [mem_held, List.getElem?_eq_getElem hlt, hcontent]
      have ordered := hand.pairwise_held
      rw [hheld] at hmem ordered
      rcases List.mem_cons.mp hmem with rfl | hrest
      · exact absurd hless (Nat.lt_irrefl _)
      · exact absurd hless (Nat.lt_asymm ((List.pairwise_cons.mp ordered).1 _ hrest))

theorem cards_eq_nil_iff {hand : Hand} : hand.cards = [] ↔ ∀ slot ∈ hand.slots, slot = none := by
  simp [cards, List.filterMap_eq_nil_iff]

/-- The offer spans the cards of the hand that are in the round, and its default is the lowest. -/
structure Spans (hand : Hand) (round : CardRange) (legal : LegalPlay) : Prop where
  low : legal.range.low ∈ hand.cards ∧ round.contains legal.range.low = true
  high : legal.range.high ∈ hand.cards ∧ round.contains legal.range.high = true
  bounds : ∀ card ∈ hand.cards, round.contains card = true →
    legal.range.low.code ≤ card.code ∧ card.code ≤ legal.range.high.code
  default : legal.defaultCard = legal.range.low

/-- The offer is the whole pack, and its default is the card in the first slot that holds one. -/
structure Unbound (hand : Hand) (legal : LegalPlay) : Prop where
  range : legal.range = .full
  default : hand.slots[legal.defaultSlot]? = some (some legal.defaultCard)
  first : ∀ slot < legal.defaultSlot, hand.slots[slot]? = some none

section Offer

variable {hand : Hand} {round : CardRange} {legal : LegalPlay}

theorem spans_of_follower (h : hand.legalPlay? round = some legal)
    (hfollower : ∃ card ∈ hand.cards, round.contains card = true) : hand.Spans round legal := by
  rcases legalPlay?_cases h with ⟨first, rest, heq, rfl⟩ | ⟨hnone, -⟩
  case inr =>
    obtain ⟨card, hcard, hround⟩ := hfollower
    rw [hnone card hcard] at hround
    cases hround
  case inl =>
    obtain ⟨hdefault, hlow, hhigh, hall⟩ := LegalPlay.spanning_spec first rest
    have follower_iff : ∀ card, card ∈ (first :: rest).map Prod.snd ↔
        card ∈ hand.cards ∧ round.contains card = true := by
      intro card
      rw [← heq, ← map_snd_held]
      simp only [List.mem_map, List.mem_filter, Prod.exists]
      constructor
      · rintro ⟨slot, card, ⟨hheld, hround⟩, rfl⟩
        exact ⟨⟨slot, card, hheld, rfl⟩, hround⟩
      · rintro ⟨⟨slot, card, hheld, rfl⟩, hround⟩
        exact ⟨slot, card, ⟨hheld, hround⟩, rfl⟩
    constructor
    case low =>
      rw [hlow]
      exact (follower_iff _).mp (List.mem_map_of_mem hdefault)
    case high => exact (follower_iff _).mp hhigh
    case bounds =>
      intro card hcard hround
      obtain ⟨entry, hentry, rfl⟩ := List.mem_map.mp ((follower_iff card).mpr ⟨hcard, hround⟩)
      exact CardRange.contains_iff.mp (hall entry hentry)
    case default => exact hlow.symm

theorem Spans.inside (h : hand.Spans round legal) {card : Card}
    (hcard : legal.range.contains card = true) : round.contains card = true := by
  have hbetween := CardRange.contains_iff.mp hcard
  have hlow := CardRange.contains_iff.mp h.low.2
  have hhigh := CardRange.contains_iff.mp h.high.2
  exact CardRange.contains_iff.mpr
    ⟨Nat.le_trans hlow.1 hbetween.1, Nat.le_trans hbetween.2 hhigh.2⟩

theorem unbound_of_void (h : hand.legalPlay? round = some legal)
    (hvoid : ∀ card ∈ hand.cards, round.contains card = false) : hand.Unbound legal := by
  rcases legalPlay?_cases h with ⟨first, rest, heq, -⟩ | ⟨-, first, hfirst, rfl⟩
  case inl =>
    have hfirst : first ∈ hand.held.filter fun entry => round.contains entry.2 := by
      rw [heq]
      exact List.mem_cons_self ..
    obtain ⟨hheld, hround⟩ := List.mem_filter.mp hfirst
    rw [hvoid first.2 (snd_mem_cards hheld)] at hround
    cases hround
  case inr => exact ⟨rfl, mem_held.mp (List.mem_of_head? hfirst), empty_before_head hfirst⟩

theorem contains_range_ledBy_iff {led : Card} (h : hand.legalPlay? (.ledBy led) = some legal)
    {card : Card} (hcard : card ∈ hand.cards) :
    legal.range.contains card = true ↔
      card.suit = led.suit ∨ ∀ other ∈ hand.cards, other.suit ≠ led.suit := by
  rw [contains_range_iff h hcard]
  simp only [CardRange.ledBy, ← Bool.not_eq_true, CardRange.contains_ofSuit, ne_eq]

end Offer

/-- The offer is exact for every hand and every round: nothing is offered to an empty hand; a hand
with cards in the round is bound to them, by the range from the lowest to the highest; any other
hand may play what it likes.  The default is always held and on offer. -/
theorem offer_exact (hand : Hand) (round : CardRange) :
    (hand.legalPlay? round = none ↔ ∀ slot ∈ hand.slots, slot = none) ∧
    ∀ legal, hand.legalPlay? round = some legal →
      ((∃ card ∈ hand.cards, round.contains card = true) →
        hand.Spans round legal ∧
        (∀ card, legal.range.contains card = true → round.contains card = true) ∧
        ∀ card ∈ hand.cards, legal.range.contains card = true ↔ round.contains card = true) ∧
      ((∀ card ∈ hand.cards, round.contains card = false) → hand.Unbound legal) ∧
      hand.slots[legal.defaultSlot]? = some (some legal.defaultCard) ∧
      legal.range.contains legal.defaultCard = true ∧
      (∀ led, round = .ledBy led → ∀ card ∈ hand.cards, legal.range.contains card = true ↔
        card.suit = led.suit ∨ ∀ other ∈ hand.cards, other.suit ≠ led.suit) ∧
      ∀ led, round = .ledBy led → (∃ other ∈ hand.cards, other.suit = led.suit) →
        ∀ card ∈ hand.cards, legal.range.contains card = true ↔ card.suit = led.suit := by
  refine ⟨legalPlay?_eq_none_iff.trans cards_eq_nil_iff, ?_⟩
  intro legal h
  obtain ⟨hheld, hoffered⟩ := default_spec h
  refine ⟨?_, unbound_of_void h, hheld, hoffered, ?_, ?_⟩
  · intro hfollower
    have spans := spans_of_follower h hfollower
    refine ⟨spans, fun card => spans.inside, ?_⟩
    intro card hcard
    refine ⟨spans.inside, ?_⟩
    intro hround
    exact CardRange.contains_iff.mpr (spans.bounds card hcard hround)
  · rintro led rfl card hcard
    exact contains_range_ledBy_iff h hcard
  · rintro led rfl ⟨other, hother, hsuit⟩ card hcard
    rw [contains_range_ledBy_iff h hcard]
    exact or_iff_left fun hvoid => hvoid other hother hsuit

def unsorted : Hand :=
  ⟨([0, 40, 9, 0, 3, 11] ++ List.replicate 7 0).map Card.ofCode?, rfl⟩

/-- When clubs are led the four is the default and the spade is not on offer; an inverted round asks
for nothing, and the default is the spade. -/
theorem offer_exact_unsorted :
    (∃ legal, unsorted.legalPlay? (.ledBy ⟨1, by decide, by decide⟩) = some legal ∧
      unsorted.Spans (.ledBy ⟨1, by decide, by decide⟩) legal ∧ legal.defaultSlot = 4 ∧
      ∀ card ∈ unsorted.cards, legal.range.contains card = true ↔ card.suit = .clubs) ∧
    ∃ legal, unsorted.legalPlay? ⟨⟨13, by decide, by decide⟩, ⟨1, by decide, by decide⟩⟩ =
        some legal ∧
      unsorted.Unbound legal ∧ legal.defaultSlot = 1 := by
  constructor
  · have hoffer : unsorted.legalPlay? (.ledBy ⟨1, by decide, by decide⟩) =
        some ⟨⟨⟨3, by decide, by decide⟩, ⟨11, by decide, by decide⟩⟩,
          ⟨3, by decide, by decide⟩, 4⟩ := by decide
    obtain ⟨-, offers⟩ := offer_exact unsorted (.ledBy ⟨1, by decide, by decide⟩)
    obtain ⟨spans, -, -, -, -, follows⟩ := offers _ hoffer
    have hten : (⟨9, by decide, by decide⟩ : Card) ∈ unsorted.cards := by decide
    exact ⟨_, hoffer, (spans ⟨_, hten, by decide⟩).1, rfl, follows _ rfl ⟨_, hten, by decide⟩⟩
  · have hoffer : unsorted.legalPlay? ⟨⟨13, by decide, by decide⟩, ⟨1, by decide, by decide⟩⟩ =
        some ⟨.full, ⟨40, by decide, by decide⟩, 1⟩ := by decide
    obtain ⟨-, offers⟩ :=
      offer_exact unsorted ⟨⟨13, by decide, by decide⟩, ⟨1, by decide, by decide⟩⟩
    obtain ⟨-, unbound, -⟩ := offers _ hoffer
    exact ⟨_, hoffer, unbound (by decide), rfl⟩

end Hand

end ContractBridge
