import ContractBridge.Hand.Basic
import Mathlib.Data.List.Nodup

/-!
# Slots of a hand

A hand is read through its cards in slot order.  Cards that leave a hand empty their slots and
move nothing: what is left of a hand is the same hand with some of its slots cleared.
-/

namespace ContractBridge

namespace Hand

theorem ext_slots {hand other : Hand} (h : hand.slots = other.slots) : hand = other := by
  cases hand
  cases other
  simpa using h

theorem mem_cards {hand : Hand} {card : Card} : card ∈ hand.cards ↔ some card ∈ hand.slots := by
  simp [cards]

theorem contains_iff {hand : Hand} {card : Card} :
    hand.contains card = true ↔ card ∈ hand.cards := by
  rw [mem_cards, contains, position?, List.isSome_idxOf?]

theorem isEmpty_iff {hand : Hand} : hand.isEmpty = true ↔ hand.cards = [] := by
  simp [isEmpty, cards, List.filterMap_eq_nil_iff]

theorem slot_lt {hand : Hand} {slot : Nat} {content : Option Card}
    (h : hand.slots[slot]? = some content) : slot < handSize := by
  rw [← hand.length_slots]
  exact (List.getElem?_eq_some_iff.mp h).1

theorem getElem?_of_position? {hand : Hand} {card : Card} {slot : Nat}
    (h : hand.position? card = some slot) : hand.slots[slot]? = some (some card) := by
  obtain ⟨hlt, hslot, -⟩ := List.idxOf?_eq_some_iff.mp h
  exact List.getElem?_eq_some_iff.mpr ⟨hlt, hslot⟩

theorem slot_unique {hand : Hand} (h : hand.cards.Nodup) {card : Card} {slot other : Nat}
    (hslot : hand.slots[slot]? = some (some card))
    (hother : hand.slots[other]? = some (some card)) : slot = other := by
  rw [cards, List.Nodup, List.pairwise_filterMap, List.pairwise_iff_getElem] at h
  obtain ⟨hlt, heq⟩ := List.getElem?_eq_some_iff.mp hslot
  obtain ⟨hlt', heq'⟩ := List.getElem?_eq_some_iff.mp hother
  rcases Nat.lt_trichotomy slot other with hless | hsame | hmore
  · exact absurd rfl (h slot other hlt hlt' hless card heq card heq')
  · exact hsame
  · exact absurd rfl (h other slot hlt' hlt hmore card heq' card heq)

theorem exists_position? {hand : Hand} {card : Card} (h : card ∈ hand.cards) :
    ∃ slot, hand.position? card = some slot :=
  Option.isSome_iff_exists.mp (contains_iff.mpr h)

theorem position?_eq_some_iff {hand : Hand} (distinct : hand.cards.Nodup) {card : Card}
    {slot : Nat} : hand.position? card = some slot ↔ hand.slots[slot]? = some (some card) := by
  constructor
  · exact getElem?_of_position?
  · intro hslot
    obtain ⟨found, hfound⟩ := exists_position? (mem_cards.mpr (List.mem_of_getElem? hslot))
    rw [hfound, slot_unique distinct (getElem?_of_position? hfound) hslot]

theorem slots_of_full {hand : Hand} (h : hand.size = handSize) :
    hand.slots = hand.cards.map some := by
  have hlength : (hand.slots.filterMap id).length = hand.slots.length := by
    rw [hand.length_slots, ← h]
    rfl
  have hsome := List.filterMap_length_eq_length.mp hlength
  rw [cards]
  generalize hand.slots = slots at hsome
  induction slots with
  | nil => rfl
  | cons slot slots ih =>
      obtain ⟨hfirst, hrest⟩ := List.forall_mem_cons.mp hsome
      obtain ⟨card, rfl⟩ := Option.isSome_iff_exists.mp hfirst
      exact congrArg _ (ih hrest)

theorem exists_card_of_full {hand : Hand} (h : hand.size = handSize) {slot : Nat}
    (hlt : slot < handSize) : ∃ card, hand.slots[slot]? = some (some card) := by
  have hslot : slot < hand.cards.length := by
    rw [← h] at hlt
    exact hlt
  refine ⟨hand.cards[slot], ?_⟩
  rw [slots_of_full h, List.getElem?_map, List.getElem?_eq_getElem hslot, Option.map_some]

theorem ofCards_eq_ok_iff {cards : List Card} {hand : Hand} :
    ofCards cards = .ok hand ↔
      ∃ h : cards.length ≤ handSize, cards.Nodup ∧ fill cards h = hand := by
  unfold ofCards
  by_cases hlength : cards.length ≤ handSize
  · by_cases hnodup : cards.Nodup <;> simp [hlength, hnodup]
  · simp [hlength]

theorem ofCards_eq_error_iff {cards : List Card} {error : HandError} :
    ofCards cards = .error error ↔
      (handSize < cards.length ∧ error = .tooManyCards) ∨
        (cards.length ≤ handSize ∧ ¬ cards.Nodup ∧ error = .repeatedCard) := by
  unfold ofCards
  by_cases hlength : cards.length ≤ handSize
  · have fits : ¬ handSize < cards.length := Nat.not_lt.mpr hlength
    by_cases hnodup : cards.Nodup <;> simp [hlength, fits, hnodup, eq_comm]
  · simp [hlength, Nat.lt_of_not_le hlength, eq_comm]

theorem getElem?_fill {cards : List Card} (h : cards.length ≤ handSize) {place : Nat}
    (hplace : place < handSize) : (fill cards h).slots[place]? = some cards[place]? := by
  unfold fill
  by_cases hlt : place < cards.length
  · rw [List.getElem?_append_left (by simpa using hlt), List.getElem?_map,
      List.getElem?_eq_getElem hlt, Option.map_some]
  · have rest : place - cards.length < handSize - cards.length := by omega
    rw [List.getElem?_append_right (by simpa using hlt), List.length_map,
      List.getElem?_replicate_of_lt rest, List.getElem?_eq_none (Nat.le_of_not_lt hlt)]

theorem length_cards_clear {hand : Hand} {slot : Nat} (h : hand.slots[slot]? = some (some card)) :
    (hand.clear slot).cards.length + 1 = hand.cards.length := by
  obtain ⟨hlt, hslot⟩ := List.getElem?_eq_some_iff.mp h
  have hpos : 0 < hand.slots.countP Option.isSome :=
    List.countP_pos_iff.mpr ⟨some card, hslot ▸ List.getElem_mem hlt, rfl⟩
  simp only [cards, clear, List.length_filterMap_eq_countP]
  rw [List.countP_set hlt, hslot]
  exact Nat.sub_add_cancel hpos

/-- The hand without the cards that fail a test; the others stay where they are. -/
def keep (hand : Hand) (p : Card → Bool) : Hand :=
  ⟨hand.slots.map (·.filter p), by rw [List.length_map, hand.length_slots]⟩

theorem getElem?_keep (hand : Hand) (p : Card → Bool) (slot : Nat) :
    (hand.keep p).slots[slot]? = hand.slots[slot]?.map (·.filter p) :=
  List.getElem?_map

theorem cards_keep (hand : Hand) (p : Card → Bool) : (hand.keep p).cards = hand.cards.filter p := by
  change (hand.slots.map (·.filter p)).filterMap id = (hand.slots.filterMap id).filter p
  rw [List.filterMap_map, List.filter_filterMap]
  rfl

theorem keep_congr {hand : Hand} {p q : Card → Bool}
    (h : ∀ card ∈ hand.cards, p card = q card) : hand.keep p = hand.keep q := by
  apply ext_slots
  refine List.map_congr_left ?_
  intro content hcontent
  cases content with
  | none => rfl
  | some card => simp [Option.filter, h card (mem_cards.mpr hcontent)]

theorem keep_all (hand : Hand) : (hand.keep fun _ => true) = hand := by
  apply ext_slots
  refine (List.map_congr_left ?_).trans (List.map_id _)
  intro content _
  cases content <;> rfl

theorem clear_keep {hand : Hand} (h : hand.cards.Nodup) (p : Card → Bool) {card : Card} {slot : Nat}
    (hslot : hand.slots[slot]? = some (some card)) :
    (hand.keep p).clear slot = hand.keep fun other => p other && other != card := by
  apply ext_slots
  apply List.ext_getElem?
  intro index
  rw [getElem?_keep, clear, List.getElem?_set]
  split
  case isTrue hindex =>
    subst hindex
    have hlt : slot < (hand.keep p).slots.length := by
      rw [(hand.keep p).length_slots]
      exact slot_lt hslot
    rw [if_pos hlt, hslot]
    simp [Option.filter]
  case isFalse hindex =>
    rw [getElem?_keep]
    cases hcontent : hand.slots[index]? with
    | none => rfl
    | some content =>
        cases content with
        | none => rfl
        | some other =>
            have hne : other ≠ card := by
              rintro rfl
              exact hindex (slot_unique h hslot hcontent)
            simp [Option.filter, hne]

theorem remove?_keep {hand : Hand} (h : hand.cards.Nodup) {p : Card → Bool} {card : Card}
    (hcard : card ∈ hand.cards) (hp : p card = true) :
    ∃ slot : Nat, hand.slots[slot]? = some (some card) ∧
      (hand.keep p).remove? card =
        some (slot, hand.keep fun other => p other && other != card) := by
  have hheld : card ∈ (hand.keep p).cards := by
    rw [cards_keep]
    exact List.mem_filter.mpr ⟨hcard, hp⟩
  obtain ⟨slot, hposition⟩ := exists_position? hheld
  have hkept := getElem?_of_position? hposition
  have hdealt : hand.slots[slot]? = some (some card) := by
    rw [getElem?_keep] at hkept
    obtain ⟨content, hcontent, hfilter⟩ := Option.map_eq_some_iff.mp hkept
    rw [hcontent, (Option.filter_eq_some_iff.mp hfilter).1]
  refine ⟨slot, hdealt, ?_⟩
  rw [remove?, hposition, Option.map_some, clear_keep h p hdealt]

end Hand

end ContractBridge
