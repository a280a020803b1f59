import ContractBridge.Seat.Indexed
import ContractBridge.Seat.Set

/-!
# Turning the table

Everybody moves the same number of seats clockwise.  Neighbours stay neighbours and partners stay
partners, the two sides change places when the number is odd, and whatever is kept by seat, by side
or as a set of seats moves along.
-/

namespace ContractBridge

namespace Seat

variable (seat other : Seat) (steps : Nat)

theorem rotate_mod : seat.rotate (steps % 4) = seat.rotate steps := by
  apply index_injective
  rw [index_rotate, index_rotate, Nat.add_mod_mod]

theorem rotate_comm (more : Nat) :
    (seat.rotate steps).rotate more = (seat.rotate more).rotate steps := by
  rw [rotate_rotate, rotate_rotate, Nat.add_comm]

theorem rotate_succ : seat.rotate (steps + 1) = (seat.rotate steps).next := by
  rw [next_eq_rotate, rotate_rotate]

@[simp] theorem rotate_back : (seat.rotate steps).rotate (3 * steps) = seat := by
  apply index_injective
  have index_lt := seat.index_lt
  rw [index_rotate, index_rotate]
  omega

@[simp] theorem rotate_forth : (seat.rotate (3 * steps)).rotate steps = seat := by
  rw [rotate_comm, rotate_back]

@[simp] theorem rotate_eq_rotate_iff : seat.rotate steps = other.rotate steps ↔ seat = other := by
  constructor
  · intro h
    rw [← rotate_back seat steps, h, rotate_back]
  · rintro rfl
    rfl

@[simp] theorem next_rotate : (seat.rotate steps).next = seat.next.rotate steps := by
  rw [next_eq_rotate, next_eq_rotate, rotate_comm]

@[simp] theorem partner_rotate : (seat.rotate steps).partner = seat.partner.rotate steps :=
  rotate_comm ..

@[simp] theorem openingLeader_rotate :
    (seat.rotate steps).openingLeader = seat.openingLeader.rotate steps :=
  next_rotate ..

end Seat

namespace Side

def other : Side → Side
  | northSouth => eastWest
  | eastWest => northSouth

def rotate (side : Side) (steps : Nat) : Side :=
  if steps % 2 = 0 then side else side.other

variable (side : Side) (steps : Nat)

theorem rotate_succ : side.rotate (steps + 1) = (side.rotate steps).other := by
  unfold rotate
  rcases Nat.mod_two_eq_zero_or_one steps with h | h
  · have hsucc : (steps + 1) % 2 = 1 := by omega
    simp [h, hsucc]
  · have hsucc : (steps + 1) % 2 = 0 := by omega
    cases side <;> simp [h, hsucc, other]

@[simp] theorem rotate_rotate : (side.rotate steps).rotate steps = side := by
  unfold rotate
  cases side <;> split <;> simp [other]

theorem rotate_eq_iff (side' : Side) : side.rotate steps = side' ↔ side = side'.rotate steps := by
  constructor
  · rintro rfl
    rw [rotate_rotate]
  · rintro rfl
    rw [rotate_rotate]

end Side

namespace Seat

@[simp] theorem side_rotate (seat : Seat) (steps : Nat) :
    (seat.rotate steps).side = seat.side.rotate steps := by
  induction steps with
  | zero => simp [Side.rotate]
  | succ steps ih =>
      rw [rotate_succ, Side.rotate_succ, ← ih]
      cases seat.rotate steps <;> rfl

@[simp] theorem isPartnerOf_rotate (seat other : Seat) (steps : Nat) :
    (seat.rotate steps).isPartnerOf (other.rotate steps) = seat.isPartnerOf other := by
  rw [Bool.eq_iff_iff, isPartnerOf_iff, isPartnerOf_iff, partner_rotate, rotate_eq_rotate_iff,
    rotate_eq_rotate_iff]

end Seat

namespace BySeat

variable {α : Type}

def rotate (values : BySeat α) (steps : Nat) : BySeat α :=
  ofFn fun seat => values.get (seat.rotate (3 * steps))

variable (values : BySeat α) (steps : Nat)

@[simp] theorem get_rotate (seat : Seat) :
    (values.rotate steps).get (seat.rotate steps) = values.get seat := by
  rw [rotate, get_ofFn, Seat.rotate_back]

@[simp] theorem rotate_replicate (a : α) : (replicate a).rotate steps = replicate a := by
  simp only [rotate, get_replicate]
  rfl

theorem eq_rotate {values' : BySeat α}
    (h : ∀ seat, values'.get (seat.rotate steps) = values.get seat) :
    values' = values.rotate steps := by
  apply ext_get
  intro seat
  rw [← Seat.rotate_forth seat steps, h, get_rotate]

@[simp] theorem set_rotate (seat : Seat) (a : α) :
    (values.rotate steps).set (seat.rotate steps) a = (values.set seat a).rotate steps := by
  apply eq_rotate
  intro other
  rw [get_set, get_set, get_rotate]
  simp only [Seat.rotate_eq_rotate_iff]

end BySeat

namespace BySide

variable {α : Type}

def rotate (values : BySide α) (steps : Nat) : BySide α :=
  ⟨values.get (Side.northSouth.rotate steps), values.get (Side.eastWest.rotate steps)⟩

variable (values : BySide α) (steps : Nat)

theorem ext_get {values values' : BySide α} (h : ∀ side, values.get side = values'.get side) :
    values = values' := by
  cases values
  cases values'
  simp only [mk.injEq]
  exact ⟨h .northSouth, h .eastWest⟩

theorem get_rotate_side (side : Side) :
    (values.rotate steps).get side = values.get (side.rotate steps) := by
  cases side <;> rfl

theorem rotate_eq : values.rotate steps =
    if steps % 2 = 0 then values else ⟨values.eastWest, values.northSouth⟩ := by
  unfold rotate Side.rotate
  split <;> rfl

theorem rotate_equal (a : α) : (mk a a).rotate steps = mk a a := by
  rw [rotate_eq, ite_self]

@[simp] theorem get_rotate (side : Side) :
    (values.rotate steps).get (side.rotate steps) = values.get side := by
  rw [get_rotate_side, Side.rotate_rotate]

@[simp] theorem set_rotate (side : Side) (a : α) :
    (values.rotate steps).set (side.rotate steps) a = (values.set side a).rotate steps := by
  apply ext_get
  intro other
  rw [get_set, get_rotate_side, get_rotate_side, get_set]
  simp only [Side.rotate_eq_iff]

end BySide

namespace SeatSet

/-- The bits that name no seat stay where they are. -/
def rotate (set : SeatSet) (steps : Nat) : SeatSet :=
  ⟨set.bits.extractLsb' 4 4 ++ (set.bits.extractLsb' 0 4).rotateLeft steps⟩

theorem rotateLeft_or {width : Nat} (x y : BitVec width) (steps : Nat) :
    (x ||| y).rotateLeft steps = x.rotateLeft steps ||| y.rotateLeft steps := by
  simp only [BitVec.rotateLeft_def, BitVec.shiftLeft_or_distrib, BitVec.ushiftRight_or_distrib]
  ac_rfl

theorem rotate_mod (set : SeatSet) (steps : Nat) : set.rotate (steps % 4) = set.rotate steps := by
  simp [rotate, BitVec.rotateLeft]

@[simp] theorem union_rotate (s t : SeatSet) (steps : Nat) :
    (s.rotate steps).union (t.rotate steps) = (s.union t).rotate steps := by
  simp only [union, rotate, BitVec.extractLsb'_or, rotateLeft_or, mk.injEq]
  exact BitVec.or_append

@[simp] theorem empty_rotate (steps : Nat) : empty.rotate steps = empty := by
  have hturns : ∀ turns < 4, empty.rotate turns = empty := by decide
  rw [← rotate_mod]
  exact hturns _ (Nat.mod_lt _ (by decide))

@[simp] theorem singleton_rotate (seat : Seat) (steps : Nat) :
    singleton (seat.rotate steps) = (singleton seat).rotate steps := by
  have hturns : ∀ turns < 4, singleton (seat.rotate turns) = (singleton seat).rotate turns := by
    cases seat <;> decide
  rw [← rotate_mod, ← Seat.rotate_mod]
  exact hturns _ (Nat.mod_lt _ (by decide))

@[simp] theorem rotate_eq_all_iff {set : SeatSet} {steps : Nat} :
    set.rotate steps = all ↔ set = all := by
  have hturns : ∀ turns < 4, ∀ bits, (mk bits).rotate turns = all ↔ mk bits = all := by
    decide +kernel
  rw [← rotate_mod]
  exact hturns _ (Nat.mod_lt _ (by decide)) set.bits

end SeatSet

end ContractBridge
