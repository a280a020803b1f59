import ContractBridge.Proofs.Deal.Valid
import ContractBridge.Proofs.Hand.Slots
import Mathlib.Data.Finset.Card
import Mathlib.Data.Finset.Dedup

/-!
# What a shuffle deals

No word takes the draw of an index out of its bound, so that every exchange of a shuffle is between
two places of the pack.  The hands that come of it are full, in ascending order, and share the codes
of the pack among themselves.
-/

namespace ContractBridge

namespace Generator

theorem index?_lt {bound : Nat} (hpos : 0 < bound) {word : UInt32} {index : Nat}
    (h : index? bound word = some index) : index < bound := by
  unfold index? at h
  dsimp only at h
  split at h
  case isFalse => cases h
  case isTrue =>
    cases h
    refine Nat.div_lt_of_lt_mul ?_
    exact Nat.mul_lt_mul_of_pos_right word.toNat_lt_size hpos

theorem drawWithin?_lt {bound : Nat} (hpos : 0 < bound) {tries : Nat} {generator rest : Generator}
    {index : Nat} (h : drawWithin? bound tries generator = some (index, rest)) :
    index < bound := by
  induction tries generalizing generator with
  | zero => cases h
  | succ tries ih =>
      unfold drawWithin? at h
      split at h
      case h_1 found hindex =>
        cases h
        exact index?_lt hpos hindex
      case h_2 => exact ih h

end Generator

/-- The indices of a shuffle down to the second place, each of them at or below its place. -/
def InReach : List Nat → Prop
  | [] => True
  | index :: indices => index ≤ indices.length + 1 ∧ InReach indices

theorem inReach_of_drawDescending? {generator rest : Generator} {count : Nat} {indices : List Nat}
    (h : generator.drawDescending? count = some (indices, rest)) :
    indices.length = count ∧ InReach indices := by
  induction count generalizing generator indices with
  | zero =>
      cases h
      exact ⟨rfl, trivial⟩
  | succ count ih =>
      unfold Generator.drawDescending? at h
      split at h
      case h_1 => cases h
      case h_2 index between hdraw =>
        split at h
        case h_1 => cases h
        case h_2 later last hlater =>
          cases h
          obtain ⟨hlength, hreach⟩ := ih hlater
          have hindex := Generator.drawWithin?_lt (Nat.succ_pos _) hdraw
          refine ⟨congrArg Nat.succ hlength, ?_, hreach⟩
          rw [hlength]
          exact Nat.lt_succ_iff.mp hindex

theorem Deal.shuffle_eq_ok_iff {generator rest : Generator} {deal : Deal} :
    shuffle generator = .ok (deal, rest) ↔
      ∃ indices,
        generator.drawDescending? 51 = some (indices, rest) ∧ deal = ofIndices indices := by
  unfold shuffle
  cases generator.drawDescending? 51 with
  | none => simp
  | some drawn => grind

theorem Deal.shuffle_eq_ok {generator rest : Generator} {deal : Deal}
    (h : shuffle generator = .ok (deal, rest)) :
    ∃ indices, indices.length = 51 ∧ InReach indices ∧ deal = ofIndices indices := by
  obtain ⟨indices, hdraw, hdeal⟩ := shuffle_eq_ok_iff.mp h
  obtain ⟨hlength, hreach⟩ := inReach_of_drawDescending? hdraw
  exact ⟨indices, hlength, hreach, hdeal⟩

namespace Hand

/-- No slot is empty, and the codes rise from slot to slot. -/
structure Arranged (hand : Hand) : Prop where
  filled : hand.slots = hand.cards.map some
  ascending : hand.cards.Pairwise fun card later => card.code < later.code

end Hand

namespace Deal

theorem arranged_handOut {cards : List Card} (h : cards.Perm Card.pack) (seat : Seat) :
    ((handOut cards).get seat).Arranged := by
  have valid := valid_handOut h
  have distinct := valid.nodup_hand seat
  refine ⟨Hand.slots_of_full (valid.full seat), ?_⟩
  rw [cards_handOut] at distinct ⊢
  exact Card.strictly_sortAscending ((Card.perm_sortAscending _).nodup_iff.mp distinct)

theorem arranged_ofIndices (indices : List Nat) (seat : Seat) :
    ((ofIndices indices).get seat).Arranged :=
  arranged_handOut (perm_exchangeDown _ _) seat

def codes (deal : Deal) (seat : Seat) : Finset Nat :=
  ((deal.get seat).cards.map Card.code).toFinset

theorem mem_codes {deal : Deal} {seat : Seat} {code : Nat} :
    code ∈ deal.codes seat ↔ ∃ card ∈ (deal.get seat).cards, card.code = code := by
  simp [codes]

/-- The four hands share the codes of the pack, thirteen each. -/
structure Partitions (deal : Deal) : Prop where
  share : ∀ seat, (deal.codes seat).card = handSize
  disjoint : ∀ seat other, seat ≠ other → Disjoint (deal.codes seat) (deal.codes other)
  union : ∀ code, (∃ seat, code ∈ deal.codes seat) ↔ 1 ≤ code ∧ code ≤ 52

theorem Valid.partitions {deal : Deal} (h : deal.Valid) : deal.Partitions := by
  constructor
  case share =>
    intro seat
    have distinct : ((deal.get seat).cards.map Card.code).Nodup :=
      (h.nodup_hand seat).map fun _ _ => Card.ext_code
    rw [codes, List.toFinset_card_of_nodup distinct, List.length_map]
    exact h.full seat
  case disjoint =>
    intro seat other hne
    rw [Finset.disjoint_left]
    intro code hseat hother
    obtain ⟨card, hcard, hcode⟩ := mem_codes.mp hseat
    obtain ⟨same, hsame, hcode'⟩ := mem_codes.mp hother
    obtain rfl : card = same := Card.ext_code (hcode.trans hcode'.symm)
    exact hne (h.seat_eq hcard hsame)
  case union =>
    intro code
    constructor
    · rintro ⟨seat, hseat⟩
      obtain ⟨card, -, rfl⟩ := mem_codes.mp hseat
      exact ⟨card.pos, card.le_max⟩
    · rintro ⟨hpos, hle⟩
      obtain ⟨seat, hseat⟩ := h.exists_seat ⟨code, hpos, hle⟩
      exact ⟨seat, mem_codes.mpr ⟨_, hseat, rfl⟩⟩

end Deal

end ContractBridge
