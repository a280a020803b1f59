import ContractBridge.Seat.Basic

/-!
# Sets of seats

A byte with one bit a seat, North lowest.  The four high bits name no seat; the bitwise operations
carry them along, and only `truncate` and `complement` clear them.
-/

namespace ContractBridge

structure SeatSet where
  bits : BitVec 8
  deriving DecidableEq, Repr

namespace SeatSet

def empty : SeatSet := ⟨0⟩

def all : SeatSet := ⟨0b1111⟩

def singleton (seat : Seat) : SeatSet :=
  ⟨1#8 <<< seat.index⟩

def ofSide : Side → SeatSet
  | .northSouth => ⟨0b0101⟩
  | .eastWest => ⟨0b1010⟩

def union (s t : SeatSet) : SeatSet := ⟨s.bits ||| t.bits⟩

def inter (s t : SeatSet) : SeatSet := ⟨s.bits &&& t.bits⟩

def diff (s t : SeatSet) : SeatSet := ⟨s.bits &&& ~~~t.bits⟩

def symmDiff (s t : SeatSet) : SeatSet := ⟨s.bits ^^^ t.bits⟩

def truncate (s : SeatSet) : SeatSet := s.inter all

def complement (s : SeatSet) : SeatSet := truncate ⟨~~~s.bits⟩

def ofBits? (bits : BitVec 8) : Option SeatSet :=
  if bits &&& ~~~all.bits = 0 then some ⟨bits⟩ else none

/-- Whether every bit of `t` is set in `s`. -/
def contains (s t : SeatSet) : Bool := s.inter t == t

def intersects (s t : SeatSet) : Bool := s.inter t != empty

def isEmpty (s : SeatSet) : Bool := s == empty

def isAll (s : SeatSet) : Bool := s.contains all

end SeatSet

end ContractBridge
