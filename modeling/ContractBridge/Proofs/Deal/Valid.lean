import ContractBridge.Deal.Shuffle
import Mathlib.Data.List.Nodup
import Mathlib.Data.List.Pairwise
import Mathlib.Data.List.Perm.Subperm

/-!
# Valid deals

Four full hands without a repeated card are the whole pack.  The check of a prearranged deal
accepts exactly these deals, and every shuffled deal is one of them.
-/

namespace ContractBridge

namespace Card

theorem length_pack : pack.length = 52 := by
  decide

theorem nodup_pack : pack.Nodup := by
  have codes : (pack.map code).Nodup := by decide
  exact codes.of_map

end Card

theorem Seat.mem_all (seat : Seat) : seat ∈ Seat.all := by
  cases seat <;> decide

namespace Deal

structure Valid (deal : Deal) : Prop where
  full : ∀ seat, (deal.get seat).size = handSize
  distinct : deal.cards.Nodup

theorem cards_eq (deal : Deal) :
    deal.cards = Seat.all.flatMap fun seat => (deal.get seat).cards := rfl

theorem mem_cards {deal : Deal} {card : Card} :
    card ∈ deal.cards ↔ ∃ seat, card ∈ (deal.get seat).cards := by
  simp [cards_eq, Seat.mem_all]

theorem Valid.nodup_hand {deal : Deal} (h : deal.Valid) (seat : Seat) :
    (deal.get seat).cards.Nodup := by
  have distinct := h.distinct
  rw [cards_eq, List.nodup_flatMap] at distinct
  exact distinct.1 seat seat.mem_all

theorem Valid.seat_eq {deal : Deal} (h : deal.Valid) {seat other : Seat} {card : Card}
    (hseat : card ∈ (deal.get seat).cards) (hother : card ∈ (deal.get other).cards) :
    seat = other := by
  have distinct := h.distinct
  rw [cards_eq, List.nodup_flatMap] at distinct
  have symm : Std.Symm (Function.onFun List.Disjoint fun seat => (deal.get seat).cards) :=
    ⟨fun _ _ hdisjoint => List.disjoint_symm hdisjoint⟩
  by_contra hne
  exact distinct.2.forall seat.mem_all other.mem_all hne hseat hother

theorem length_cards {deal : Deal} (full : ∀ seat, (deal.get seat).size = handSize) :
    deal.cards.length = 52 := by
  simp only [Hand.size, handSize] at full
  simp [cards_eq, Seat.all, full]

theorem Valid.length_cards {deal : Deal} (h : deal.Valid) : deal.cards.length = 52 :=
  Deal.length_cards h.full

theorem Valid.perm_pack {deal : Deal} (h : deal.Valid) : deal.cards.Perm Card.pack := by
  have included : deal.cards.Subperm Card.pack :=
    List.subperm_of_subset h.distinct fun card _ => card.mem_pack
  exact included.perm_of_length_le (Nat.le_of_eq (Card.length_pack.trans h.length_cards.symm))

theorem Valid.exists_seat {deal : Deal} (h : deal.Valid) (card : Card) :
    ∃ seat, card ∈ (deal.get seat).cards :=
  mem_cards.mp (h.perm_pack.mem_iff.mpr card.mem_pack)

theorem firstRepeated?_eq_none_iff {seen cards : List Card} :
    firstRepeated? seen cards = none ↔ cards.Nodup ∧ ∀ card ∈ cards, card ∉ seen := by
  induction cards generalizing seen with
  | nil => simp [firstRepeated?]
  | cons first rest ih =>
      unfold firstRepeated?
      split
      case isTrue hseen => simp [hseen]
      case isFalse hseen =>
        rw [ih, List.nodup_cons]
        constructor
        · rintro ⟨hrest, hfresh⟩
          refine ⟨⟨fun hfirst => hfresh first hfirst (by simp), hrest⟩, ?_⟩
          intro card hcard
          rcases List.mem_cons.mp hcard with rfl | hcard
          · exact hseen
          · exact fun hmem => hfresh card hcard (List.mem_cons_of_mem _ hmem)
        · rintro ⟨⟨hfirst, hrest⟩, hfresh⟩
          refine ⟨hrest, ?_⟩
          intro card hcard hmem
          rcases List.mem_cons.mp hmem with rfl | hmem
          · exact hfirst hcard
          · exact hfresh card (List.mem_cons_of_mem _ hcard) hmem

theorem invalid?_eq_none_iff {deal : Deal} : deal.invalid? = none ↔ deal.Valid := by
  have full_iff : ((deal.around .north).find? fun entry => entry.2.size != handSize) = none ↔
      ∀ seat, (deal.get seat).size = handSize := by
    rw [List.find?_eq_none]
    constructor
    · intro h seat
      have hmem : (seat, deal.get seat) ∈ deal.around .north := by
        refine List.mem_map.mpr ⟨seat.index, List.mem_range.mpr seat.index_lt, ?_⟩
        cases seat <;> rfl
      simpa using h _ hmem
    · intro h entry hentry
      obtain ⟨steps, -, rfl⟩ := List.mem_map.mp hentry
      simp [h]
  unfold invalid?
  split
  case h_1 hfind =>
    simp only [reduceCtorEq, false_iff]
    intro hvalid
    rw [full_iff.mpr hvalid.full] at hfind
    cases hfind
  case h_2 hfind =>
    rw [Option.map_eq_none_iff, firstRepeated?_eq_none_iff]
    constructor
    · rintro ⟨distinct, -⟩
      exact ⟨full_iff.mp hfind, distinct⟩
    · intro hvalid
      exact ⟨hvalid.distinct, by simp⟩

theorem validate_eq_ok_iff {deal : Deal} : deal.validate = .ok () ↔ deal.Valid := by
  rw [← invalid?_eq_none_iff]
  unfold validate
  cases deal.invalid? <;> simp

theorem perm_exchange {α : Type} (list : List α) (i j : Nat) : (exchange list i j).Perm list := by
  unfold exchange
  split
  case h_1 a b ha hb =>
    obtain ⟨hi, rfl⟩ := List.getElem?_eq_some_iff.mp ha
    obtain ⟨hj, rfl⟩ := List.getElem?_eq_some_iff.mp hb
    exact List.set_set_perm hi hj
  case h_2 => exact .refl _

theorem perm_exchangeDown {α : Type} (indices : List Nat) (list : List α) :
    (exchangeDown indices list).Perm list := by
  induction indices generalizing list with
  | nil => exact .refl _
  | cons index indices ih => exact (ih _).trans (perm_exchange _ _ _)

def share (cards : List Card) (seat : Seat) : List Card :=
  (cards.drop (handSize * seat.index)).take handSize

theorem flatMap_share {cards : List Card} (h : cards.length = 52) :
    Seat.all.flatMap (share cards) = cards := by
  have last : (cards.drop 39).take 13 = cards.drop 39 :=
    List.take_of_length_le (by simp [h])
  have third : (cards.drop 26).take 13 ++ cards.drop 39 = cards.drop 26 := by
    simpa using List.take_append_drop 13 (cards.drop 26)
  have second : (cards.drop 13).take 13 ++ cards.drop 26 = cards.drop 13 := by
    simpa using List.take_append_drop 13 (cards.drop 13)
  simp [Seat.all, share, Seat.index, handSize, last, third, second]

theorem length_share_le (cards : List Card) (seat : Seat) :
    (share cards seat).length ≤ handSize :=
  List.length_take_le ..

theorem valid_of_perm_share {deal : Deal} {cards : List Card} (h : cards.Perm Card.pack)
    (hshare : ∀ seat, (deal.get seat).cards.Perm (share cards seat)) : deal.Valid := by
  have hlength : cards.length = 52 := h.length_eq.trans Card.length_pack
  constructor
  · intro seat
    have index_lt := seat.index_lt
    rw [Hand.size, (hshare seat).length_eq]
    simp only [share, handSize, List.length_take, List.length_drop, hlength]
    omega
  · have perm_cards : deal.cards.Perm (Seat.all.flatMap (share cards)) := by
      rw [cards_eq]
      exact List.Perm.flatMap_left _ fun seat _ => hshare seat
    rw [flatMap_share hlength] at perm_cards
    exact (perm_cards.trans h).nodup_iff.mpr Card.nodup_pack

theorem cards_handOut (cards : List Card) (seat : Seat) :
    ((handOut cards).get seat).cards = Card.sortAscending (share cards seat) := by
  rw [handOut, BySeat.get_ofFn]
  unfold Hand.layOut
  rw [Hand.cards_fill]
  apply List.take_of_length_le
  rw [(Card.perm_sortAscending _).length_eq]
  exact length_share_le cards seat

theorem valid_handOut {cards : List Card} (h : cards.Perm Card.pack) : (handOut cards).Valid := by
  apply valid_of_perm_share h
  intro seat
  rw [cards_handOut]
  exact Card.perm_sortAscending _

/-- Thirteen cards to a seat, laid out as they lie. -/
def unsorted (cards : List Card) : Deal :=
  BySeat.ofFn fun seat => Hand.layOut (share cards seat)

theorem valid_unsorted {cards : List Card} (h : cards.Perm Card.pack) : (unsorted cards).Valid := by
  apply valid_of_perm_share h
  intro seat
  rw [unsorted, BySeat.get_ofFn]
  unfold Hand.layOut
  rw [Hand.cards_fill, List.take_of_length_le (length_share_le cards seat)]

theorem valid_of_shuffle {generator rest : Generator} {deal : Deal}
    (h : shuffle generator = .ok (deal, rest)) : deal.Valid := by
  unfold shuffle at h
  split at h
  case h_1 =>
    cases h
    exact valid_handOut (perm_exchangeDown _ _)
  case h_2 => cases h

theorem fault_of_shuffle {generator : Generator} {fault : Fault}
    (h : shuffle generator = .error fault) : fault = .stalledShuffle := by
  unfold shuffle at h
  split at h
  case h_1 => cases h
  case h_2 =>
    cases h
    rfl

end Deal

end ContractBridge
