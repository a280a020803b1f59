import ContractBridge.Seat.Basic

/-!
# Values held per seat and per side

A record with one field a seat (or a side), read and written by seat.
-/

namespace ContractBridge

structure BySeat (α : Type) where
  north : α
  east : α
  south : α
  west : α
  deriving DecidableEq, Repr

namespace BySeat

variable {α β : Type}

def ofFn (f : Seat → α) : BySeat α :=
  ⟨f .north, f .east, f .south, f .west⟩

def replicate (a : α) : BySeat α :=
  ⟨a, a, a, a⟩

def get (values : BySeat α) : Seat → α
  | .north => values.north
  | .east => values.east
  | .south => values.south
  | .west => values.west

def set (values : BySeat α) (seat : Seat) (a : α) : BySeat α :=
  match seat with
  | .north => { values with north := a }
  | .east => { values with east := a }
  | .south => { values with south := a }
  | .west => { values with west := a }

def toList (values : BySeat α) : List α :=
  [values.north, values.east, values.south, values.west]

@[simp] theorem get_ofFn (f : Seat → α) (seat : Seat) : (ofFn f).get seat = f seat := by
  cases seat <;> rfl

@[simp] theorem get_replicate (a : α) (seat : Seat) : (replicate a).get seat = a := by
  cases seat <;> rfl

theorem get_set (values : BySeat α) (seat other : Seat) (a : α) :
    (values.set seat a).get other = if seat = other then a else values.get other := by
  cases seat <;> cases other <;> rfl

@[ext] theorem ext_get {values others : BySeat α}
    (h : ∀ seat, values.get seat = others.get seat) : values = others := by
  cases values
  cases others
  simp only [mk.injEq]
  exact ⟨h .north, h .east, h .south, h .west⟩

end BySeat

structure BySide (α : Type) where
  northSouth : α
  eastWest : α
  deriving DecidableEq, Repr

namespace BySide

variable {α : Type}

def get (values : BySide α) : Side → α
  | .northSouth => values.northSouth
  | .eastWest => values.eastWest

def set (values : BySide α) (side : Side) (a : α) : BySide α :=
  match side with
  | .northSouth => { values with northSouth := a }
  | .eastWest => { values with eastWest := a }

theorem get_set (values : BySide α) (side other : Side) (a : α) :
    (values.set side a).get other = if side = other then a else values.get other := by
  cases side <;> cases other <;> rfl

end BySide

end ContractBridge
