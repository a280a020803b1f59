import ContractBridge.Contract.Basic

/-!
# The bidding box

The box holds 56 cards in seven blocks of eight, one block a level: a pass, the five strains in
ascending order, a double and a redouble.  A value is the number of a card, from 1.
-/

namespace ContractBridge

structure BidValue where
  number : Nat
  pos : 0 < number
  le_max : number ≤ 56
  deriving DecidableEq, Ord, Repr

namespace BidValue

def ofNumber? (number : Nat) : Option BidValue :=
  if h : 0 < number ∧ number ≤ 56 then some ⟨number, h.1, h.2⟩ else none

def all : List BidValue :=
  (List.range' 1 56).filterMap ofNumber?

theorem ext_number {value other : BidValue} (h : value.number = other.number) : value = other := by
  cases value
  cases other
  simpa using h

@[simp] theorem ofNumber?_number (value : BidValue) : ofNumber? value.number = some value := by
  simp [ofNumber?, value.pos, value.le_max]

theorem mem_all (value : BidValue) : value ∈ all := by
  have pos := value.pos
  have le_max := value.le_max
  refine List.mem_filterMap.mpr ⟨value.number, ?_, ofNumber?_number value⟩
  simp only [List.mem_range'_1]
  omega

def level (value : BidValue) : Nat :=
  (value.number - 1) / 8 + 1

def slot (value : BidValue) : Nat :=
  (value.number - 1) % 8

theorem level_pos (value : BidValue) : 1 ≤ value.level :=
  Nat.le_add_left 1 _

theorem level_le (value : BidValue) : value.level ≤ 7 := by
  have le_max := value.le_max
  unfold level
  omega

theorem slot_lt (value : BidValue) : value.slot < 8 :=
  Nat.mod_lt _ (by decide)

def ofSlot? (level slot : Nat) : Option BidValue :=
  if Bid.IsLevel level ∧ slot < 8 then ofNumber? ((level - 1) * 8 + slot + 1) else none

def isPass (value : BidValue) : Bool :=
  value.slot == 0

/-- Whether the value is a double or a redouble. -/
def isDouble (value : BidValue) : Bool :=
  6 ≤ value.slot

def isRedouble (value : BidValue) : Bool :=
  value.slot == 7

def isCrucial (value : BidValue) : Bool :=
  !value.isPass

def strain? (value : BidValue) : Option Strain :=
  Strain.ofSlot? value.slot

def call (value : BidValue) : Call :=
  match value.strain? with
  | some strain => .bid ⟨value.level, strain⟩
  | none => if value.isPass then .pass else if value.isRedouble then .redouble else .double

/-- The card for a call announced at a level.  A bid brings its own level. -/
def ofCall? (call : Call) (level : Nat) : Option BidValue :=
  match call with
  | .pass => ofSlot? level 0
  | .double => ofSlot? level 6
  | .redouble => ofSlot? level 7
  | .bid proposal => ofSlot? proposal.level proposal.strain.slot

def ofBid? (bid : Bid) : Option BidValue :=
  ofCall? (.bid bid) bid.level

def text (value : BidValue) : String :=
  value.call.text

/-- No value counts as a pass. -/
def passes (value? : Option BidValue) : Bool :=
  value?.all isPass

def doubles (value? : Option BidValue) : Bool :=
  value?.any isDouble

def changes (value? : Option BidValue) : Bool :=
  !passes value?

end BidValue

inductive Doubling where
  | none
  | double
  | redouble
  deriving DecidableEq, Ord, Repr

namespace Doubling

def ofValue (value : BidValue) : Doubling :=
  if value.isRedouble then redouble else if value.isDouble then double else none

def penalty : Doubling → Penalty
  | none => .none
  | double => .doubled
  | redouble => .redoubled

end Doubling

end ContractBridge
