import ContractBridge.Deal.Basic
import ContractBridge.Failure
import ContractBridge.Random.Generator

/-!
# Shuffling

The pack is shuffled from its last place to its second: the card there changes places with the one
at an index drawn at or below it.  Thirteen cards at a time then go to North, East, South and West,
and every hand is laid out in ascending order.
-/

namespace ContractBridge

def exchange {α : Type} (list : List α) (i j : Nat) : List α :=
  match list[i]?, list[j]? with
  | some a, some b => (list.set i b).set j a
  | _, _ => list

/-- Exchanges each place, from the one numbered by the count of indices down to the first, with
the place its index names. -/
def exchangeDown {α : Type} : List Nat → List α → List α
  | [], list => list
  | index :: indices, list => exchangeDown indices (exchange list (indices.length + 1) index)

namespace Deal

def handOut (cards : List Card) : Deal :=
  BySeat.ofFn fun seat =>
    Hand.layOut (Card.sortAscending ((cards.drop (handSize * seat.index)).take handSize))

def ofIndices (indices : List Nat) : Deal :=
  handOut (exchangeDown indices Card.pack)

def shuffle (generator : Generator) : Except Fault (Deal × Generator) :=
  match generator.drawDescending? 51 with
  | some (indices, rest) => .ok (ofIndices indices, rest)
  | none => .error .stalledShuffle

end Deal

end ContractBridge
