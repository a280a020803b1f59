/-!
# Seats

The four compass positions of a table, in clockwise order from North.  Every rule about turns and
partners is a rotation of this ring.
-/

namespace ContractBridge

inductive Seat where
  | north
  | east
  | south
  | west
  deriving DecidableEq, Ord, Repr

namespace Seat

def all : List Seat := [north, east, south, west]

def index : Seat → Nat
  | north => 0
  | east => 1
  | south => 2
  | west => 3

/-- The seat at a clockwise distance from North, however often it goes round. -/
def ofIndex (position : Nat) : Seat :=
  match position % 4 with
  | 0 => north
  | 1 => east
  | 2 => south
  | _ => west

@[simp] theorem ofIndex_index (seat : Seat) : ofIndex seat.index = seat := by
  cases seat <;> rfl

theorem index_lt (seat : Seat) : seat.index < 4 := by
  cases seat <;> decide

theorem index_ofIndex (position : Nat) : (ofIndex position).index = position % 4 := by
  have cases_mod : position % 4 = 0 ∨ position % 4 = 1 ∨ position % 4 = 2 ∨ position % 4 = 3 := by
    omega
  rcases cases_mod with h | h | h | h <;> simp [ofIndex, h, index]

theorem index_injective {seat other : Seat} (h : seat.index = other.index) : seat = other := by
  rw [← ofIndex_index seat, h, ofIndex_index]

def next : Seat → Seat
  | north => east
  | east => south
  | south => west
  | west => north

def rotate (seat : Seat) (steps : Nat) : Seat :=
  ofIndex (seat.index + steps)

def prev (seat : Seat) : Seat :=
  seat.rotate 3

def partner (seat : Seat) : Seat :=
  seat.rotate 2

def openingLeader (declarer : Seat) : Seat :=
  declarer.next

theorem next_eq_rotate (seat : Seat) : seat.next = seat.rotate 1 := by
  cases seat <;> rfl

@[simp] theorem rotate_zero (seat : Seat) : seat.rotate 0 = seat := by
  cases seat <;> rfl

theorem index_rotate (seat : Seat) (steps : Nat) :
    (seat.rotate steps).index = (seat.index + steps) % 4 :=
  index_ofIndex _

theorem rotate_rotate (seat : Seat) (steps more : Nat) :
    (seat.rotate steps).rotate more = seat.rotate (steps + more) := by
  apply index_injective
  simp only [index_rotate]
  omega

@[simp] theorem partner_partner (seat : Seat) : seat.partner.partner = seat := by
  cases seat <;> rfl

theorem next_ne (seat : Seat) : seat.next ≠ seat := by
  cases seat <;> decide

theorem partner_ne (seat : Seat) : seat.partner ≠ seat := by
  cases seat <;> decide

end Seat

inductive Side where
  | northSouth
  | eastWest
  deriving DecidableEq, Ord, Repr

namespace Seat

def side : Seat → Side
  | north => .northSouth
  | east => .eastWest
  | south => .northSouth
  | west => .eastWest

/-- Whether two seats play together; a seat is its own partner here. -/
def isPartnerOf (seat other : Seat) : Bool :=
  seat.side == other.side

theorem isPartnerOf_iff {seat other : Seat} :
    seat.isPartnerOf other = true ↔ other = seat ∨ other = seat.partner := by
  cases seat <;> cases other <;> decide

end Seat

end ContractBridge
