/-!
# Random draws

A generator is an endless sequence of 32-bit words and the number of words already drawn from it.
An index below a bound is drawn by widening multiplication: the high half of the product is the
index, and a word is passed over when the low half would favour some indices.
-/

namespace ContractBridge

/-- `patience` is the number of words one draw may look at before it gives up. -/
structure Generator where
  words : Nat → UInt32
  drawn : Nat
  patience : Nat

namespace Generator

def ofWords (words : Nat → UInt32) : Generator :=
  ⟨words, 0, UInt32.size⟩

def current (generator : Generator) : UInt32 :=
  generator.words generator.drawn

def advance (generator : Generator) : Generator :=
  { generator with drawn := generator.drawn + 1 }

/-- The largest low half of a product with `bound` that is accepted: `bound` shifted until it fills
32 bits, less one. -/
def zone (bound : Nat) : Nat :=
  bound <<< (31 - bound.log2) - 1

def index? (bound : Nat) (word : UInt32) : Option Nat :=
  let product := word.toNat * bound
  if product % UInt32.size ≤ zone bound then some (product / UInt32.size) else none

def drawWithin? (bound : Nat) : Nat → Generator → Option (Nat × Generator)
  | 0, _ => none
  | tries + 1, generator =>
      match index? bound generator.current with
      | some index => some (index, generator.advance)
      | none => drawWithin? bound tries generator.advance

def draw? (generator : Generator) (bound : Nat) : Option (Nat × Generator) :=
  drawWithin? bound generator.patience generator

/-- Draws an index below each of `count + 1`, `count`, …, 2, in that order. -/
def drawDescending? (generator : Generator) : Nat → Option (List Nat × Generator)
  | 0 => some ([], generator)
  | count + 1 =>
      match generator.draw? (count + 2) with
      | none => none
      | some (index, rest) =>
          match rest.drawDescending? count with
          | none => none
          | some (indices, last) => some (index :: indices, last)

end Generator

end ContractBridge
