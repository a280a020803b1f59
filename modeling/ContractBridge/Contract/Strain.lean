/-!
# Suits and strains

A bid proposes trumps: one of the four suits, or none.  The strains rank as the bidding box lists
them, clubs lowest and notrump highest.
-/

namespace ContractBridge

inductive Suit where
  | clubs
  | diamonds
  | hearts
  | spades
  deriving DecidableEq, Ord, Repr

namespace Suit

def ascending : List Suit := [clubs, diamonds, hearts, spades]

def descending : List Suit := [spades, hearts, diamonds, clubs]

def index : Suit → Nat
  | clubs => 0
  | diamonds => 1
  | hearts => 2
  | spades => 3

theorem index_inj {suit other : Suit} : suit.index = other.index ↔ suit = other := by
  cases suit <;> cases other <;> decide

def symbol : Suit → Char
  | clubs => '♣'
  | diamonds => '♦'
  | hearts => '♥'
  | spades => '♠'

end Suit

inductive Strain where
  | suit (suit : Suit)
  | notrump
  deriving DecidableEq, Ord, Repr

namespace Strain

def ascending : List Strain := Suit.ascending.map suit ++ [notrump]

def index : Strain → Nat
  | suit s => s.index
  | notrump => 4

def slot (strain : Strain) : Nat :=
  strain.index + 1

/-- The strain at a place of a level.  Place 0 is the pass; the places after notrump hold the
double and the redouble. -/
def ofSlot? : Nat → Option Strain
  | 1 => some (suit .clubs)
  | 2 => some (suit .diamonds)
  | 3 => some (suit .hearts)
  | 4 => some (suit .spades)
  | 5 => some notrump
  | _ => none

@[simp] theorem ofSlot?_slot (strain : Strain) : ofSlot? strain.slot = some strain := by
  rcases strain with suit | _
  · cases suit <;> rfl
  · rfl

def isNotrump : Strain → Bool
  | suit _ => false
  | notrump => true

def isSuit (strain : Strain) : Bool :=
  !strain.isNotrump

def text : Strain → String
  | suit s => s.symbol.toString
  | notrump => "NT"

inductive TrumpError where
  | notrump
  deriving DecidableEq, Repr

def TrumpError.message : TrumpError → String
  | .notrump => "notrump has no trump suit"

def trump : Strain → Except TrumpError Suit
  | suit s => .ok s
  | notrump => .error .notrump

def trump? (strain : Strain) : Option Suit :=
  strain.trump.toOption

@[simp] theorem trump?_suit (s : Suit) : (suit s).trump? = some s :=
  rfl

@[simp] theorem trump?_notrump : notrump.trump? = none :=
  rfl

end Strain

structure ByStrain (α : Type) where
  clubs : α
  diamonds : α
  hearts : α
  spades : α
  notrump : α
  deriving DecidableEq, Repr

namespace ByStrain

variable {α : Type}

def replicate (a : α) : ByStrain α :=
  ⟨a, a, a, a, a⟩

def get (values : ByStrain α) : Strain → α
  | .suit .clubs => values.clubs
  | .suit .diamonds => values.diamonds
  | .suit .hearts => values.hearts
  | .suit .spades => values.spades
  | .notrump => values.notrump

def set (values : ByStrain α) (strain : Strain) (a : α) : ByStrain α :=
  match strain with
  | .suit .clubs => { values with clubs := a }
  | .suit .diamonds => { values with diamonds := a }
  | .suit .hearts => { values with hearts := a }
  | .suit .spades => { values with spades := a }
  | .notrump => { values with notrump := a }

def toList (values : ByStrain α) : List α :=
  [values.clubs, values.diamonds, values.hearts, values.spades, values.notrump]

@[simp] theorem get_replicate (a : α) (strain : Strain) : (replicate a).get strain = a := by
  rcases strain with suit | _
  · cases suit <;> rfl
  · rfl

theorem get_set (values : ByStrain α) (strain other : Strain) (a : α) :
    (values.set strain a).get other = if strain = other then a else values.get other := by
  rcases strain with suit | _ <;> rcases other with suit' | _
  · cases suit <;> cases suit' <;> rfl
  · cases suit <;> rfl
  · cases suit' <;> rfl
  · rfl

end ByStrain

end ContractBridge
