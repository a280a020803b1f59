import ContractBridge.BiddingBox.Value

/-!
# Sets of bid values

A 64-bit word with bit `v` set when the value `v` is a member.  Bit 0 and the bits above 56 stand
for nothing and stay clear.
-/

namespace ContractBridge

structure BidSet where
  bits : BitVec 64
  deriving DecidableEq, Repr

namespace BidSet

def empty : BidSet := ⟨0⟩

def all : BidSet := ⟨((1#64 <<< 56) - 1) <<< 1⟩

def size (set : BidSet) : Nat :=
  set.bits.cpop.toNat

def isEmpty (set : BidSet) : Bool :=
  set.bits == 0

def contains (set : BidSet) (value : BidValue) : Bool :=
  set.bits.getLsbD value.number

def bit (value : BidValue) : BitVec 64 :=
  BitVec.twoPow 64 value.number

def insert (set : BidSet) (value : BidValue) : BidSet :=
  ⟨set.bits ||| bit value⟩

def erase (set : BidSet) (value : BidValue) : BidSet :=
  ⟨set.bits &&& ~~~bit value⟩

def insertNew (set : BidSet) (value : BidValue) : Bool × BidSet :=
  (!set.contains value, set.insert value)

def eraseOld (set : BidSet) (value : BidValue) : Bool × BidSet :=
  (set.contains value, set.erase value)

def ofList (values : List BidValue) : BidSet :=
  values.foldl insert empty

def toList (set : BidSet) : List BidValue :=
  BidValue.all.filter set.contains

def union (set other : BidSet) : BidSet :=
  ⟨set.bits ||| other.bits⟩

def complement (set : BidSet) : BidSet :=
  ⟨all.bits &&& ~~~set.bits⟩

theorem getLsbD_bit (value : BidValue) (position : Nat) :
    (bit value).getLsbD position = decide (value.number = position) := by
  have le_max := value.le_max
  have inside : value.number < 64 := by omega
  simp [bit, BitVec.getLsbD_twoPow, inside]

@[simp] theorem contains_empty (value : BidValue) : empty.contains value = false := by
  simp [contains, empty]

theorem getLsbD_all (position : Nat) :
    all.bits.getLsbD position = decide (0 < position ∧ position ≤ 56) := by
  by_cases inside : position < 64
  · have all_bits : ∀ i : Fin 64, all.bits.getLsbD i = decide (0 < i.val ∧ i.val ≤ 56) := by decide
    exact all_bits ⟨position, inside⟩
  · rw [BitVec.getLsbD_of_ge _ _ (by omega)]
    simp only [Bool.false_eq, decide_eq_false_iff_not]
    omega

@[simp] theorem contains_all (value : BidValue) : all.contains value = true := by
  simp [contains, getLsbD_all, value.pos, value.le_max]

theorem contains_insert (set : BidSet) (value other : BidValue) :
    (set.insert value).contains other = (set.contains other || decide (value = other)) := by
  have same : (value.number = other.number) = (value = other) :=
    propext ⟨BidValue.ext_number, congrArg BidValue.number⟩
  simp [contains, insert, getLsbD_bit, same]

theorem contains_erase (set : BidSet) (value other : BidValue) :
    (set.erase value).contains other = (set.contains other && !decide (value = other)) := by
  have le_max := other.le_max
  have inside : other.number < 64 := by omega
  have same : (value.number = other.number) = (value = other) :=
    propext ⟨BidValue.ext_number, congrArg BidValue.number⟩
  simp only [contains, erase, BitVec.getLsbD_and, BitVec.getLsbD_not, inside, decide_true,
    Bool.true_and, getLsbD_bit, same]

@[simp] theorem contains_union (set other : BidSet) (value : BidValue) :
    (set.union other).contains value = (set.contains value || other.contains value) := by
  simp [contains, union]

@[simp] theorem contains_complement (set : BidSet) (value : BidValue) :
    set.complement.contains value = !set.contains value := by
  have le_max := value.le_max
  have inside : value.number < 64 := by omega
  simp only [contains, complement, BitVec.getLsbD_and, BitVec.getLsbD_not, getLsbD_all, value.pos,
    le_max, inside, and_self, decide_true, Bool.true_and]

private theorem contains_foldl_insert (values : List BidValue) (set : BidSet) (value : BidValue) :
    (values.foldl insert set).contains value = true ↔ set.contains value = true ∨ value ∈ values := by
  induction values generalizing set with
  | nil => simp
  | cons first rest ih =>
      rw [List.foldl_cons, ih, contains_insert, Bool.or_eq_true, decide_eq_true_eq, or_assoc,
        List.mem_cons, @eq_comm _ value first]

@[simp] theorem contains_ofList (values : List BidValue) (value : BidValue) :
    (ofList values).contains value = true ↔ value ∈ values := by
  simp [ofList, contains_foldl_insert]

@[simp] theorem mem_toList (set : BidSet) (value : BidValue) :
    value ∈ set.toList ↔ set.contains value = true := by
  simp [toList, BidValue.mem_all]

end BidSet

end ContractBridge
