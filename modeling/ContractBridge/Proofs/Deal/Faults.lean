import ContractBridge.Proofs.Deal.Valid
import ContractBridge.Proofs.Hand.Slots

/-!
# Faults of a deal

The check of a prearranged deal counts the hands and looks for a card that it has met before.  It
never asks which cards are missing: four full hands without a repetition leave none out, so that the
accepted deals have every card in exactly one slot.  Of a deal that is not accepted the check names
the first fault, clockwise from North and slot by slot.
-/

namespace ContractBridge

theorem Seat.find?_all_eq_some_iff {p : Seat → Bool} {seat : Seat} :
    Seat.all.find? p = some seat ↔
      p seat = true ∧ ∀ earlier : Seat, earlier.index < seat.index → p earlier = false := by
  have forall_seat : ∀ {q : Seat → Prop},
      (∀ seat, q seat) ↔ q .north ∧ q .east ∧ q .south ∧ q .west := by
    intro q
    constructor
    · intro h
      exact ⟨h _, h _, h _, h _⟩
    · rintro ⟨hn, he, hs, hw⟩ seat
      cases seat <;> assumption
  rw [forall_seat]
  cases seat <;> cases hn : p .north <;> cases he : p .east <;> cases hs : p .south <;>
    cases hw : p .west <;> simp [Seat.all, Seat.index, hn, he, hs, hw]

namespace Deal

theorem find?_size_eq (deal : Deal) :
    ((deal.around .north).find? fun (_, hand) => hand.size != handSize) =
      (Seat.all.find? fun seat => (deal.get seat).size != handSize).map fun seat =>
        (seat, deal.get seat) := by
  change (Seat.all.map fun seat => (seat, deal.get seat)).find? _ = _
  rw [List.find?_map]
  rfl

/-- The first card of a list that is equal to an earlier one. -/
def FirstRepeat (cards : List Card) (card : Card) : Prop :=
  ∃ before after, cards = before ++ card :: after ∧ card ∈ before ∧ before.Nodup

theorem firstRepeated?_append (seen before rest : List Card) :
    firstRepeated? seen (before ++ rest) =
      (firstRepeated? seen before).or (firstRepeated? (before.reverse ++ seen) rest) := by
  induction before generalizing seen with
  | nil => simp [firstRepeated?]
  | cons first before ih =>
      by_cases hseen : first ∈ seen
      · simp [firstRepeated?, hseen]
      · simp [firstRepeated?, hseen, ih]

theorem exists_stop_of_firstRepeated? {seen cards : List Card} {card : Card}
    (h : firstRepeated? seen cards = some card) :
    ∃ before after, cards = before ++ card :: after ∧ card ∈ before.reverse ++ seen ∧
      firstRepeated? seen before = none := by
  induction cards generalizing seen with
  | nil => cases h
  | cons first rest ih =>
      unfold firstRepeated? at h
      split at h
      case isTrue hseen =>
        cases h
        exact ⟨[], rest, rfl, hseen, rfl⟩
      case isFalse hseen =>
        obtain ⟨before, after, rfl, hcard, hbefore⟩ := ih h
        refine ⟨first :: before, after, rfl, ?_, ?_⟩
        · simpa using hcard
        · simpa [firstRepeated?, hseen] using hbefore

theorem firstRepeated?_eq_some_iff {cards : List Card} {card : Card} :
    firstRepeated? [] cards = some card ↔ FirstRepeat cards card := by
  constructor
  · intro h
    obtain ⟨before, after, heq, hcard, hbefore⟩ := exists_stop_of_firstRepeated? h
    refine ⟨before, after, heq, ?_, (firstRepeated?_eq_none_iff.mp hbefore).1⟩
    simpa using hcard
  · rintro ⟨before, after, rfl, hcard, hbefore⟩
    have passed : firstRepeated? [] before = none :=
      firstRepeated?_eq_none_iff.mpr ⟨hbefore, by simp⟩
    rw [firstRepeated?_append, passed]
    simp [firstRepeated?, hcard]

section Answer

variable {deal : Deal}

theorem validate_eq_error_iff {fault : Invalid} :
    deal.validate = .error fault ↔ deal.invalid? = some fault := by
  unfold validate
  cases deal.invalid? <;> simp

theorem invalid?_eq_wrongHandSize_iff {seat : Seat} {size : Nat} :
    deal.invalid? = some (.wrongHandSize seat size) ↔
      (deal.get seat).size = size ∧ size ≠ handSize ∧
        ∀ earlier : Seat, earlier.index < seat.index → (deal.get earlier).size = handSize := by
  unfold invalid?
  rw [find?_size_eq]
  cases hfind : Seat.all.find? fun seat => (deal.get seat).size != handSize with
  | none =>
      have full : (deal.get seat).size = handSize := by
        simpa using List.find?_eq_none.mp hfind seat seat.mem_all
      simp [full]
      omega
  | some first =>
      have named := Seat.find?_all_eq_some_iff.mp hfind
      simp only [bne_iff_ne, ne_eq, bne_eq_false_iff_eq] at named
      simp only [Option.map_some, Option.some.injEq, Invalid.wrongHandSize.injEq]
      constructor
      · rintro ⟨rfl, rfl⟩
        exact ⟨rfl, named⟩
      · rintro ⟨rfl, hsize, hearlier⟩
        have not_less : ¬ first.index < seat.index := fun hless => named.1 (hearlier first hless)
        have not_more : ¬ seat.index < first.index := fun hmore => hsize (named.2 seat hmore)
        have same : first = seat := Seat.index_injective (by omega)
        exact ⟨same, by rw [same]⟩

theorem invalid?_eq_repeatedCard_iff {card : Card} :
    deal.invalid? = some (.repeatedCard card) ↔
      (∀ seat, (deal.get seat).size = handSize) ∧ FirstRepeat deal.cards card := by
  unfold invalid?
  rw [find?_size_eq]
  cases hfind : Seat.all.find? fun seat => (deal.get seat).size != handSize with
  | none =>
      have full : ∀ seat, (deal.get seat).size = handSize := by
        intro seat
        simpa using List.find?_eq_none.mp hfind seat seat.mem_all
      simp [full, firstRepeated?_eq_some_iff]
  | some first =>
      have wrong : (deal.get first).size ≠ handSize := by
        simpa using List.find?_some hfind
      constructor
      · intro h
        cases h
      · rintro ⟨full, -⟩
        exact absurd (full first) wrong

end Answer

def Holds (deal : Deal) (place : Seat × Nat) (card : Card) : Prop :=
  (deal.get place.1).slots[place.2]? = some (some card)

theorem mem_cards_iff_holds {deal : Deal} {card : Card} :
    card ∈ deal.cards ↔ ∃ place, deal.Holds place card := by
  simp only [mem_cards, Hand.mem_cards]
  simp only [List.mem_iff_getElem?, Prod.exists, Holds]

theorem Valid.existsUnique_holds {deal : Deal} (h : deal.Valid) (card : Card) :
    ∃! place, deal.Holds place card := by
  obtain ⟨place, hplace⟩ := mem_cards_iff_holds.mp (h.perm_pack.mem_iff.mpr card.mem_pack)
  refine ⟨place, hplace, ?_⟩
  intro other hother
  have held : ∀ {place : Seat × Nat}, deal.Holds place card →
      card ∈ (deal.get place.1).cards :=
    fun hholds => Hand.mem_cards.mpr (List.mem_of_getElem? hholds)
  have same_seat : other.1 = place.1 := h.seat_eq (held hother) (held hplace)
  unfold Holds at hother
  rw [same_seat] at hother
  exact Prod.ext same_seat (Hand.slot_unique (h.nodup_hand place.1) hother hplace)

/-- Fifty-two slots among which every card is found have no room for a repetition. -/
theorem valid_of_holds {deal : Deal} (full : ∀ seat, (deal.get seat).size = handSize)
    (held : ∀ card, ∃ place, deal.Holds place card) : deal.Valid := by
  have included : Card.pack.Subperm deal.cards :=
    List.subperm_of_subset Card.nodup_pack fun card _ => mem_cards_iff_holds.mpr (held card)
  have whole : Card.pack.Perm deal.cards :=
    included.perm_of_length_le (Nat.le_of_eq ((length_cards full).trans Card.length_pack.symm))
  exact ⟨full, whole.nodup_iff.mp Card.nodup_pack⟩

theorem valid_iff_existsUnique {deal : Deal} :
    deal.Valid ↔ (∀ seat, (deal.get seat).size = handSize) ∧
      ∀ card, ∃! place, deal.Holds place card := by
  constructor
  · intro h
    exact ⟨h.full, h.existsUnique_holds⟩
  · rintro ⟨full, placed⟩
    exact valid_of_holds full fun card => (placed card).exists

/-- The check accepts exactly the full packs.  Else it names the first hand of a wrong size and its
count, or, where all hands have their size, the first card in reading order that was met before. -/
theorem validate_exact (deal : Deal) :
    (deal.validate = .ok () ↔
      (∀ seat, (deal.get seat).size = 13) ∧ ∀ card, ∃! place, deal.Holds place card) ∧
    (∀ seat size, deal.validate = .error (.wrongHandSize seat size) ↔
      (deal.get seat).size = size ∧ size ≠ 13 ∧
        ∀ earlier : Seat, earlier.index < seat.index → (deal.get earlier).size = 13) ∧
    ∀ card, deal.validate = .error (.repeatedCard card) ↔
      (∀ seat, (deal.get seat).size = 13) ∧
        FirstRepeat (Seat.all.flatMap fun seat => (deal.get seat).cards) card := by
  refine ⟨?_, ?_, ?_⟩
  · exact validate_eq_ok_iff.trans valid_iff_existsUnique
  · intro seat size
    exact validate_eq_error_iff.trans invalid?_eq_wrongHandSize_iff
  · intro card
    exact validate_eq_error_iff.trans invalid?_eq_repeatedCard_iff

/-- East holds the clubs that North holds, the other way round. -/
def clubsTwice : Deal :=
  let deal := unsorted Card.pack
  deal.set .east (Hand.layOut deal.north.cards.reverse)

def clubsTwiceShort : Deal :=
  clubsTwice.set .north (clubsTwice.north.clear 4)

theorem validate_exact_clubsTwice :
    clubsTwice.validate = .error (.repeatedCard ⟨13, by decide, by decide⟩) ∧
    clubsTwiceShort.validate = .error (.wrongHandSize .north 12) := by
  constructor
  · apply ((validate_exact clubsTwice).2.2 _).mpr
    constructor
    · intro seat
      cases seat <;> decide
    · refine ⟨clubsTwice.north.cards, clubsTwice.east.cards.tail ++ clubsTwice.south.cards ++
        clubsTwice.west.cards, ?_, ?_, ?_⟩ <;> decide
  · apply ((validate_exact clubsTwiceShort).2.1 _ _).mpr
    refine ⟨by decide, by decide, ?_⟩
    intro earlier hless
    exact absurd hless (Nat.not_lt_zero _)

end Deal

end ContractBridge
