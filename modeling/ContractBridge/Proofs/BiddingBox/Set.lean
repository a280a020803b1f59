import ContractBridge.BiddingBox.Set
import Mathlib.Data.Finset.Card
import Mathlib.Order.Interval.Finset.Nat

/-!
# Sets of values as sets of numbers

A word of bits stands for the set of the numbers of its members.  However a set is put together, its
word stands for the set of numbers that is put together in the same way, and whatever is read off
the word is told by that set.
-/

namespace ContractBridge

namespace BidSet

/-- The bits of the word are the numbers of a set, all of them on cards of the box. -/
structure Represents (set : BidSet) (numbers : Finset Nat) : Prop where
  inside : numbers ⊆ Finset.Icc 1 56
  bits : ∀ position, set.bits.getLsbD position = true ↔ position ∈ numbers

theorem number_mem_box (value : BidValue) : value.number ∈ Finset.Icc 1 56 :=
  Finset.mem_Icc.mpr ⟨value.pos, value.le_max⟩

theorem represents_empty : empty.Represents ∅ := by
  constructor
  · exact Finset.empty_subset _
  · intro position
    simp [empty]

theorem represents_all : all.Represents (Finset.Icc 1 56) := by
  constructor
  · exact Finset.Subset.refl _
  · intro position
    rw [getLsbD_all, decide_eq_true_iff, Finset.mem_Icc]
    rfl

section Operations

variable {set other : BidSet} {numbers others : Finset Nat} (h : set.Represents numbers)

include h

theorem Represents.lt_width {position : Nat} (hposition : position ∈ numbers) : position < 64 := by
  have bounds := Finset.mem_Icc.mp (h.inside hposition)
  omega

theorem Represents.insert (value : BidValue) :
    (set.insert value).Represents (Insert.insert value.number numbers) := by
  constructor
  · exact Finset.insert_subset (number_mem_box value) h.inside
  · intro position
    simp only [BidSet.insert, BitVec.getLsbD_or, getLsbD_bit, Bool.or_eq_true, decide_eq_true_iff,
      h.bits, Finset.mem_insert]
    rw [or_comm, eq_comm]

theorem Represents.erase (value : BidValue) :
    (set.erase value).Represents (numbers.erase value.number) := by
  constructor
  · exact (Finset.erase_subset _ _).trans h.inside
  · intro position
    simp only [BidSet.erase, BitVec.getLsbD_and, BitVec.getLsbD_not, getLsbD_bit, Bool.and_eq_true,
      Bool.not_eq_true', decide_eq_true_iff, decide_eq_false_iff_not, h.bits, Finset.mem_erase]
    constructor
    · rintro ⟨hposition, -, hne⟩
      exact ⟨Ne.symm hne, hposition⟩
    · rintro ⟨hne, hposition⟩
      exact ⟨hposition, h.lt_width hposition, Ne.symm hne⟩

theorem Represents.union (h' : other.Represents others) :
    (set.union other).Represents (numbers ∪ others) := by
  constructor
  · exact Finset.union_subset h.inside h'.inside
  · intro position
    simp only [BidSet.union, BitVec.getLsbD_or, Bool.or_eq_true, h.bits, h'.bits, Finset.mem_union]

theorem Represents.complement : set.complement.Represents (Finset.Icc 1 56 \ numbers) := by
  constructor
  · exact Finset.sdiff_subset
  · intro position
    simp only [BidSet.complement, BitVec.getLsbD_and, BitVec.getLsbD_not, Bool.and_eq_true,
      Bool.not_eq_true', decide_eq_true_iff, ← Bool.not_eq_true, h.bits, represents_all.bits,
      Finset.mem_sdiff]
    constructor
    · rintro ⟨inside, -, hposition⟩
      exact ⟨inside, hposition⟩
    · rintro ⟨inside, hposition⟩
      exact ⟨inside, represents_all.lt_width inside, hposition⟩

theorem Represents.foldl_insert (values : List BidValue) :
    (values.foldl BidSet.insert set).Represents
      (numbers ∪ (values.map BidValue.number).toFinset) := by
  induction values generalizing set numbers with
  | nil => simpa using h
  | cons value values ih => simpa using ih (h.insert value)

end Operations

theorem represents_ofList (values : List BidValue) :
    (ofList values).Represents (values.map BidValue.number).toFinset := by
  simpa [ofList] using represents_empty.foldl_insert values

theorem cpopNatRec_eq_card {width : Nat} (word : BitVec width) (position : Nat) :
    word.cpopNatRec position 0 =
      ((Finset.range position).filter fun place => word.getLsbD place = true).card := by
  induction position with
  | zero => simp
  | succ position ih =>
      rw [BitVec.cpopNatRec_succ, BitVec.cpopNatRec_add, ih, Finset.range_add_one,
        Finset.filter_insert]
      cases word.getLsbD position <;> simp

section Reading

variable {set other : BidSet} {numbers : Finset Nat} (h : set.Represents numbers)

include h

theorem Represents.unique (h' : other.Represents numbers) : set = other := by
  have same : set.bits = other.bits := by
    apply BitVec.eq_of_getLsbD_eq
    intro position _
    rw [Bool.eq_iff_iff, h.bits, h'.bits]
  cases set
  cases other
  simpa using same

theorem Represents.contains_iff (value : BidValue) :
    set.contains value = true ↔ value.number ∈ numbers := by
  rw [BidSet.contains, h.bits]

theorem Represents.size_eq : set.size = numbers.card := by
  have members : ((Finset.range 64).filter fun place => set.bits.getLsbD place = true) = numbers := by
    ext position
    simpa [h.bits] using h.lt_width
  rw [size, BitVec.toNat_cpop, cpopNatRec_eq_card, members]

theorem Represents.isEmpty_iff : set.isEmpty = true ↔ numbers = ∅ := by
  rw [isEmpty, beq_iff_eq]
  constructor
  · intro hzero
    apply Finset.eq_empty_of_forall_notMem
    intro position hposition
    have hbit := (h.bits position).mpr hposition
    simp [hzero] at hbit
  · rintro rfl
    exact congrArg BidSet.bits (h.unique represents_empty)

theorem Represents.toFinset_toList :
    (set.toList.map BidValue.number).toFinset = numbers := by
  ext position
  simp only [List.mem_toFinset, List.mem_map, mem_toList, h.contains_iff]
  constructor
  · rintro ⟨value, hvalue, rfl⟩
    exact hvalue
  · intro hposition
    have inside := Finset.mem_Icc.mp (h.inside hposition)
    exact ⟨⟨position, inside.1, inside.2⟩, hposition, rfl⟩

theorem Represents.ofList_toList : ofList set.toList = set := by
  have collected := represents_ofList set.toList
  rw [h.toFinset_toList] at collected
  exact collected.unique h

end Reading

theorem pairwise_toList (set : BidSet) :
    set.toList.Pairwise fun value later => value.number < later.number := by
  have ascending : BidValue.all.Pairwise fun value later => value.number < later.number := by
    decide
  exact ascending.filter _

/-! ## Sets put together -/

/-- The ways of putting a set together. -/
inductive Recipe where
  | empty
  | all
  | insert (base : Recipe) (value : BidValue)
  | erase (base : Recipe) (value : BidValue)
  | ofList (values : List BidValue)
  | union (base other : Recipe)
  | complement (base : Recipe)
  deriving DecidableEq, Repr

namespace Recipe

def build : Recipe → BidSet
  | empty => .empty
  | all => .all
  | insert base value => (base.build.insertNew value).2
  | erase base value => (base.build.eraseOld value).2
  | ofList values => .ofList values
  | union base other => base.build.union other.build
  | complement base => base.build.complement

def numbers : Recipe → Finset Nat
  | empty => ∅
  | all => Finset.Icc 1 56
  | insert base value => Insert.insert value.number base.numbers
  | erase base value => base.numbers.erase value.number
  | ofList values => (values.map BidValue.number).toFinset
  | union base other => base.numbers ∪ other.numbers
  | complement base => Finset.Icc 1 56 \ base.numbers

theorem represents_build (recipe : Recipe) : recipe.build.Represents recipe.numbers := by
  induction recipe with
  | empty => exact represents_empty
  | all => exact represents_all
  | insert base value ih => exact ih.insert value
  | erase base value ih => exact ih.erase value
  | ofList values => exact represents_ofList values
  | union base other ih ih' => exact ih.union ih'
  | complement base ih => exact ih.complement

end Recipe

/-- What is read off a word, and off the words that one more value makes of it, told by the set of
numbers that it stands for. -/
structure Tells (set : BidSet) (numbers : Finset Nat) : Prop where
  within : ∀ number ∈ numbers, 1 ≤ number ∧ number ≤ 56
  bits : ∀ position, set.bits.getLsbD position = true ↔ position ∈ numbers
  contains : ∀ value, set.contains value = true ↔ value.number ∈ numbers
  inserted : ∀ value,
    (set.insertNew value).1 = true ↔ Insert.insert value.number numbers ≠ numbers
  erased : ∀ value, (set.eraseOld value).1 = true ↔ numbers.erase value.number ≠ numbers
  insert_only : ∀ value position, position ≠ value.number →
    (set.insertNew value).2.bits.getLsbD position = set.bits.getLsbD position
  erase_only : ∀ value position, position ≠ value.number →
    (set.eraseOld value).2.bits.getLsbD position = set.bits.getLsbD position
  size : set.size = numbers.card
  isEmpty : set.isEmpty = true ↔ numbers = ∅
  listed : ∀ value, value ∈ set.toList ↔ value.number ∈ numbers
  ascending : set.toList.Pairwise fun value later => value.number < later.number
  collected : ofList set.toList = set

theorem Represents.tells {set : BidSet} {numbers : Finset Nat} (h : set.Represents numbers) :
    set.Tells numbers := by
  constructor
  case within => exact fun number hnumber => Finset.mem_Icc.mp (h.inside hnumber)
  case bits => exact h.bits
  case contains => exact h.contains_iff
  case inserted =>
    intro value
    rw [ne_eq, Finset.insert_eq_self, ← h.contains_iff]
    simp [insertNew]
  case erased =>
    intro value
    rw [ne_eq, Finset.erase_eq_self, not_not, ← h.contains_iff]
    rfl
  case insert_only =>
    intro value position hposition
    change (set.insert value).bits.getLsbD position = _
    rw [Bool.eq_iff_iff, (h.insert value).bits, h.bits]
    simp [hposition]
  case erase_only =>
    intro value position hposition
    change (set.erase value).bits.getLsbD position = _
    rw [Bool.eq_iff_iff, (h.erase value).bits, h.bits]
    simp [hposition]
  case size => exact h.size_eq
  case isEmpty => exact h.isEmpty_iff
  case listed =>
    intro value
    rw [mem_toList, h.contains_iff]
  case ascending => exact pairwise_toList set
  case collected => exact h.ofList_toList

/-- Whatever is inserted, erased, collected, united and complemented, in whatever order, the word
that comes of it is the set of numbers that comes of it. -/
theorem build_tells (recipe : Recipe) : recipe.build.Tells recipe.numbers :=
  recipe.represents_build.tells

/-- One redouble is missing from the box, and it is all that the complement holds. -/
example :
    let redouble : BidValue := ⟨56, by decide, by decide⟩
    (Recipe.complement (.erase .all redouble)).build.toList = [redouble] := by
  decide

end BidSet

end ContractBridge
