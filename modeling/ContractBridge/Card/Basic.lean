import ContractBridge.Contract.Strain

/-!
# Cards

A card is a code from 1 to 52: four blocks of thirteen, clubs first, deuce to ace within a block.
Code 0 stands for the cover that a played card leaves behind and is no card.
-/

namespace ContractBridge

structure Card where
  code : Nat
  pos : 1 ≤ code
  le_max : code ≤ 52
  deriving DecidableEq, Ord, Repr

namespace Card

def ofCode? (code : Nat) : Option Card :=
  if h : 1 ≤ code ∧ code ≤ 52 then some ⟨code, h.1, h.2⟩ else none

def pack : List Card :=
  (List.range' 1 52).filterMap ofCode?

theorem ext_code {card other : Card} (h : card.code = other.code) : card = other := by
  cases card
  cases other
  simpa using h

@[simp] theorem ofCode?_code (card : Card) : ofCode? card.code = some card := by
  simp [ofCode?, card.pos, card.le_max]

theorem mem_pack (card : Card) : card ∈ pack := by
  have pos := card.pos
  have le_max := card.le_max
  refine List.mem_filterMap.mpr ⟨card.code, ?_, ofCode?_code card⟩
  simp only [List.mem_range'_1]
  omega

def suit (card : Card) : Suit :=
  match (card.code - 1) / 13 with
  | 0 => .clubs
  | 1 => .diamonds
  | 2 => .hearts
  | _ => .spades

theorem index_suit (card : Card) : card.suit.index = (card.code - 1) / 13 := by
  have le_max := card.le_max
  have block : (card.code - 1) / 13 = 0 ∨ (card.code - 1) / 13 = 1 ∨ (card.code - 1) / 13 = 2 ∨
      (card.code - 1) / 13 = 3 := by omega
  rcases block with h | h | h | h <;> simp [suit, h, Suit.index]

def rank (card : Card) : Nat :=
  (card.code - 1) % 13 + 2

def new? (suit : Suit) (rank : Nat) : Option Card :=
  if 2 ≤ rank ∧ rank ≤ 14 then ofCode? (suit.index * 13 + rank - 1) else none

theorem rank_bounds (card : Card) : 2 ≤ card.rank ∧ card.rank ≤ 14 := by
  unfold rank
  omega

@[simp] theorem new?_suit_rank (card : Card) : new? card.suit card.rank = some card := by
  have pos := card.pos
  have bounds := card.rank_bounds
  have code_eq : card.suit.index * 13 + card.rank - 1 = card.code := by
    rw [index_suit]
    unfold rank
    omega
  rw [new?, if_pos bounds, code_eq, ofCode?_code]

inductive DecodeError where
  | cover
  | outOfRange (code : UInt8)
  deriving DecidableEq, Repr

def DecodeError.message : DecodeError → String
  | .cover => "card code 0 is the cover value"
  | .outOfRange code => "card code " ++ toString code.toNat ++ " is out of range"

def decode (code : UInt8) : Except DecodeError Card :=
  if code = 0 then .error .cover
  else
    match ofCode? code.toNat with
    | some card => .ok card
    | none => .error (.outOfRange code)

def sortAscending (cards : List Card) : List Card :=
  cards.mergeSort fun card later => card.code ≤ later.code

theorem perm_sortAscending (cards : List Card) : (sortAscending cards).Perm cards :=
  List.mergeSort_perm cards _

def Ascending (cards : List Card) : Prop :=
  cards.Pairwise fun card later => card.code ≤ later.code

theorem ascending_sortAscending (cards : List Card) : Ascending (sortAscending cards) := by
  have sorted : (sortAscending cards).Pairwise fun card later =>
      decide (card.code ≤ later.code) = true := by
    apply List.pairwise_mergeSort
    · intro first second third hfirst hsecond
      exact decide_eq_true (Nat.le_trans (of_decide_eq_true hfirst) (of_decide_eq_true hsecond))
    · intro first second
      simpa using Nat.le_total first.code second.code
  exact sorted.imp of_decide_eq_true

theorem strictly_sortAscending {cards : List Card} (h : cards.Nodup) :
    (sortAscending cards).Pairwise fun card later => card.code < later.code := by
  have distinct := (perm_sortAscending cards).nodup_iff.mpr h
  apply ((ascending_sortAscending cards).and distinct).imp
  rintro card later ⟨hle, hne⟩
  exact Nat.lt_of_le_of_ne hle fun heq => hne (ext_code heq)

theorem sortAscending_eq_of_perm {cards sorted : List Card} (h : cards.Perm sorted)
    (hsorted : Ascending sorted) : sortAscending cards = sorted := by
  apply List.Perm.eq_of_pairwise _ (ascending_sortAscending cards) hsorted
  · exact (perm_sortAscending cards).trans h
  · intro card other _ _ hle hge
    exact ext_code (Nat.le_antisymm hle hge)

end Card

end ContractBridge
