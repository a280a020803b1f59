import ContractBridge.Card.Text

/-!
# Hands

A hand has thirteen slots.  A card that is played leaves its slot empty, so the cards still held
keep the places in which they were laid out.
-/

namespace ContractBridge

def handSize : Nat := 13

structure Hand where
  slots : List (Option Card)
  length_slots : slots.length = handSize
  deriving DecidableEq, Repr

namespace Hand

def empty : Hand :=
  ⟨List.replicate handSize none, by simp⟩

def fill (cards : List Card) (h : cards.length ≤ handSize) : Hand :=
  ⟨cards.map some ++ List.replicate (handSize - cards.length) none, by
    simp only [List.length_append, List.length_map, List.length_replicate]
    omega⟩

def layOut (cards : List Card) : Hand :=
  fill (cards.take handSize) (List.length_take_le ..)

/-- A hand too long is reported before a repetition. -/
def ofCards (cards : List Card) : Except HandError Hand :=
  if h : cards.length ≤ handSize then
    if cards.Nodup then .ok (fill cards h) else .error .repeatedCard
  else .error .tooManyCards

def held (hand : Hand) : List (Nat × Card) :=
  hand.slots.zipIdx.filterMap fun (slot, index) => slot.map (index, ·)

def cards (hand : Hand) : List Card :=
  hand.slots.filterMap id

def size (hand : Hand) : Nat :=
  hand.cards.length

def isEmpty (hand : Hand) : Bool :=
  hand.slots.all Option.isNone

def slot? (hand : Hand) (index : Nat) : Option (Option Card) :=
  hand.slots[index]?

def position? (hand : Hand) (card : Card) : Option Nat :=
  hand.slots.idxOf? (some card)

def contains (hand : Hand) (card : Card) : Bool :=
  (hand.position? card).isSome

theorem cards_fill (cards : List Card) (h : cards.length ≤ handSize) :
    (fill cards h).cards = cards := by
  have filled : (cards.map some).filterMap id = cards := by
    rw [List.filterMap_map]
    exact List.filterMap_some
  unfold Hand.cards fill
  rw [List.filterMap_append, filled]
  simp

theorem size_le (hand : Hand) : hand.size ≤ handSize := by
  have bound := List.length_filterMap_le id hand.slots
  rw [hand.length_slots] at bound
  exact bound

def clear (hand : Hand) (index : Nat) : Hand :=
  ⟨hand.slots.set index none, by rw [List.length_set, hand.length_slots]⟩

def remove? (hand : Hand) (card : Card) : Option (Nat × Hand) :=
  (hand.position? card).map fun index => (index, hand.clear index)

end Hand

end ContractBridge
