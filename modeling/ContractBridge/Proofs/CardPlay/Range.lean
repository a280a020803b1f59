import ContractBridge.CardPlay.Range
import ContractBridge.Proofs.Hand.Slots

/-!
# What a hand may play

The range offered to a hand spans its cards in the round from the lowest to the highest, or is the
whole pack when it holds none of them.  Among the cards held, it therefore singles out those in the
round, as long as there is one.
-/

namespace ContractBridge

namespace Hand

theorem mem_held {hand : Hand} {slot : Nat} {card : Card} :
    (slot, card) ∈ hand.held ↔ hand.slots[slot]? = some (some card) := by
  unfold held
  constructor
  · intro h
    obtain ⟨⟨content, index⟩, hmem, hcontent⟩ := List.mem_filterMap.mp h
    obtain ⟨other, rfl, heq⟩ := Option.map_eq_some_iff.mp hcontent
    cases heq
    exact List.mem_zipIdx_iff_getElem?.mp hmem
  · intro h
    exact List.mem_filterMap.mpr ⟨(some card, slot), List.mem_zipIdx_iff_getElem?.mpr h, rfl⟩

theorem map_snd_held (hand : Hand) : hand.held.map Prod.snd = hand.cards := by
  unfold held cards
  rw [List.map_filterMap]
  conv => rhs; rw [← List.zipIdx_map_fst 0 hand.slots, List.filterMap_map]
  congr 1
  funext ⟨content, index⟩
  cases content <;> rfl

theorem snd_mem_cards {hand : Hand} {entry : Nat × Card} (h : entry ∈ hand.held) :
    entry.2 ∈ hand.cards := by
  rw [← map_snd_held]
  exact List.mem_map_of_mem h

end Hand

/-- Folding with a choice between two elements ends at an element that precedes all the others,
if the chosen one always precedes both. -/
theorem foldl_choice {α : Type} {choose : α → α → α} (precedes : α → α → Prop)
    (refl : ∀ a, precedes a a) (trans : ∀ {a b c}, precedes a b → precedes b c → precedes a c)
    (choice : ∀ a b, (choose a b = a ∨ choose a b = b) ∧ precedes (choose a b) a ∧
      precedes (choose a b) b) (first : α) (rest : List α) :
    rest.foldl choose first ∈ first :: rest ∧
      ∀ a ∈ first :: rest, precedes (rest.foldl choose first) a := by
  induction rest generalizing first with
  | nil =>
      refine ⟨List.mem_singleton_self _, ?_⟩
      intro a ha
      rw [List.mem_singleton.mp ha]
      exact refl first
  | cons second rest ih =>
      obtain ⟨hmem, hall⟩ := ih (choose first second)
      obtain ⟨hwhich, hfirst, hsecond⟩ := choice first second
      have hbest := hall _ (List.mem_cons_self ..)
      rw [List.foldl_cons]
      constructor
      · rcases List.mem_cons.mp hmem with heq | hrest
        · rw [heq]
          rcases hwhich with h | h <;> simp [h]
        · simp [hrest]
      · intro a ha
        rcases List.mem_cons.mp ha with rfl | ha
        · exact trans hbest hfirst
        · rcases List.mem_cons.mp ha with rfl | ha
          · exact trans hbest hsecond
          · exact hall a (List.mem_cons_of_mem _ ha)

namespace LegalPlay

theorem foldl_lower (first : Nat × Card) (rest : List (Nat × Card)) :
    rest.foldl lower first ∈ first :: rest ∧
      ∀ entry ∈ first :: rest, (rest.foldl lower first).2.code ≤ entry.2.code := by
  apply foldl_choice (fun low entry : Nat × Card => low.2.code ≤ entry.2.code)
    (fun _ => Nat.le_refl _) Nat.le_trans
  intro best next
  unfold lower
  split
  case isTrue hless => exact ⟨.inr rfl, Nat.le_of_lt hless, Nat.le_refl _⟩
  case isFalse hless => exact ⟨.inl rfl, Nat.le_refl _, Nat.not_lt.mp hless⟩

theorem foldl_higher (first : Card) (rest : List Card) :
    rest.foldl higher first ∈ first :: rest ∧
      ∀ card ∈ first :: rest, card.code ≤ (rest.foldl higher first).code := by
  apply foldl_choice (fun high card : Card => card.code ≤ high.code) (fun _ => Nat.le_refl _)
    fun hab hbc => Nat.le_trans hbc hab
  intro best next
  unfold higher
  split
  case isTrue hmore => exact ⟨.inr rfl, hmore, Nat.le_refl _⟩
  case isFalse hmore => exact ⟨.inl rfl, Nat.le_refl _, Nat.le_of_lt (Nat.not_le.mp hmore)⟩

theorem spanning_spec (first : Nat × Card) (rest : List (Nat × Card)) :
    ((spanning first rest).defaultSlot, (spanning first rest).defaultCard) ∈ first :: rest ∧
      (spanning first rest).range.low = (spanning first rest).defaultCard ∧
      (spanning first rest).range.high ∈ (first :: rest).map Prod.snd ∧
      ∀ entry ∈ first :: rest, (spanning first rest).range.contains entry.2 = true := by
  obtain ⟨hlow, hlowest⟩ := foldl_lower first rest
  obtain ⟨hhigh, hhighest⟩ := foldl_higher first.2 (rest.map Prod.snd)
  refine ⟨hlow, rfl, hhigh, ?_⟩
  intro entry hentry
  rw [CardRange.contains_iff]
  exact ⟨hlowest entry hentry, hhighest entry.2 (List.mem_map_of_mem (f := Prod.snd) hentry)⟩

end LegalPlay

namespace Hand

theorem legalPlay?_eq_none_iff {hand : Hand} {round : CardRange} :
    hand.legalPlay? round = none ↔ hand.cards = [] := by
  unfold legalPlay?
  rw [← map_snd_held, List.map_eq_nil_iff]
  split
  case h_1 first rest heq =>
    have hmem : first ∈ hand.held := by
      have hfirst : first ∈ first :: rest := List.mem_cons_self ..
      rw [← heq] at hfirst
      exact (List.mem_filter.mp hfirst).1
    simp [List.ne_nil_of_mem hmem]
  case h_2 => simp [List.head?_eq_none_iff]

theorem legalPlay?_cases {hand : Hand} {round : CardRange} {legal : LegalPlay}
    (h : hand.legalPlay? round = some legal) :
    (∃ first rest, (hand.held.filter fun entry => round.contains entry.2) = first :: rest ∧
      legal = .spanning first rest) ∨
    ((∀ card ∈ hand.cards, round.contains card = false) ∧
      ∃ first, hand.held.head? = some first ∧ legal = .anyCard first) := by
  unfold legalPlay? at h
  split at h
  case h_1 first rest heq =>
    cases h
    exact .inl ⟨first, rest, heq, rfl⟩
  case h_2 heq =>
    obtain ⟨first, hfirst, rfl⟩ := Option.map_eq_some_iff.mp h
    refine .inr ⟨?_, first, hfirst, rfl⟩
    intro card hcard
    rw [← map_snd_held] at hcard
    obtain ⟨entry, hentry, rfl⟩ := List.mem_map.mp hcard
    simpa using List.filter_eq_nil_iff.mp heq entry hentry

theorem contains_range_iff {hand : Hand} {round : CardRange} {legal : LegalPlay}
    (h : hand.legalPlay? round = some legal) {card : Card} (hcard : card ∈ hand.cards) :
    legal.range.contains card = true ↔
      round.contains card = true ∨ ∀ other ∈ hand.cards, round.contains other = false := by
  rcases legalPlay?_cases h with ⟨first, rest, heq, rfl⟩ | ⟨hnone, first, -, rfl⟩
  · obtain ⟨hdefault, hlow, hhigh, hall⟩ := LegalPlay.spanning_spec first rest
    have inRound : ∀ other ∈ (first :: rest).map Prod.snd,
        other ∈ hand.cards ∧ round.contains other = true := by
      intro other hother
      rw [← heq] at hother
      obtain ⟨entry, hentry, rfl⟩ := List.mem_map.mp hother
      obtain ⟨hheld, hround⟩ := List.mem_filter.mp hentry
      exact ⟨snd_mem_cards hheld, hround⟩
    have hlowRound := inRound _ (List.mem_map_of_mem hdefault)
    have hhighRound := inRound _ hhigh
    constructor
    · intro hcontains
      rw [CardRange.contains_iff, hlow] at hcontains
      have hbelow := CardRange.contains_iff.mp hlowRound.2
      have habove := CardRange.contains_iff.mp hhighRound.2
      exact .inl (CardRange.contains_iff.mpr
        ⟨Nat.le_trans hbelow.1 hcontains.1, Nat.le_trans hcontains.2 habove.2⟩)
    · rintro (hround | hnone)
      · rw [← map_snd_held] at hcard
        obtain ⟨entry, hentry, rfl⟩ := List.mem_map.mp hcard
        refine hall entry ?_
        rw [← heq]
        exact List.mem_filter.mpr ⟨hentry, hround⟩
      · exact absurd hlowRound.2 (by simp [hnone _ hlowRound.1])
  · simpa [LegalPlay.anyCard] using .inr hnone

theorem default_spec {hand : Hand} {round : CardRange} {legal : LegalPlay}
    (h : hand.legalPlay? round = some legal) :
    hand.slots[legal.defaultSlot]? = some (some legal.defaultCard) ∧
      legal.range.contains legal.defaultCard = true := by
  rcases legalPlay?_cases h with ⟨first, rest, heq, rfl⟩ | ⟨-, first, hfirst, rfl⟩
  · obtain ⟨hdefault, -, -, hall⟩ := LegalPlay.spanning_spec first rest
    refine ⟨?_, hall _ hdefault⟩
    rw [← heq] at hdefault
    exact mem_held.mp (List.mem_filter.mp hdefault).1
  · exact ⟨mem_held.mp (List.mem_of_head? hfirst), CardRange.contains_full _⟩

end Hand

end ContractBridge
