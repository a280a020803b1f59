import ContractBridge.BiddingBox.Value
import ContractBridge.Seat.Basic
import ContractBridge.Text.Quoted

/-!
# Tagged bids

A bid travels as one byte: the seat in the two high bits, the value in the six low ones.
-/

namespace ContractBridge

structure TaggedBid where
  seat : Seat
  value : BidValue
  deriving DecidableEq, Repr

namespace TaggedBid

inductive DecodeError where
  | unset (code : UInt8)
  | outOfRange (code : UInt8)
  deriving DecidableEq, Repr

def DecodeError.message : DecodeError → String
  | .unset code => "bid code 0x" ++ Text.hexByte code.toNat ++ " carries no bid"
  | .outOfRange code => "bid code 0x" ++ Text.hexByte code.toNat ++ " is out of range"

def encode (bid : TaggedBid) : UInt8 :=
  UInt8.ofNat (bid.seat.index * 64 + bid.value.number)

def decode (code : UInt8) : Except DecodeError TaggedBid :=
  if code.toNat % 64 = 0 then .error (.unset code)
  else
    match BidValue.ofNumber? (code.toNat % 64) with
    | some value => .ok ⟨Seat.ofIndex (code.toNat / 64), value⟩
    | none => .error (.outOfRange code)

@[simp] theorem decode_encode (bid : TaggedBid) : decode bid.encode = .ok bid := by
  have seat_lt := bid.seat.index_lt
  have pos := bid.value.pos
  have le_max := bid.value.le_max
  have toNat_encode : bid.encode.toNat = bid.seat.index * 64 + bid.value.number := by
    unfold encode
    rw [UInt8.toNat_ofNat']
    omega
  have value_eq : bid.encode.toNat % 64 = bid.value.number := by omega
  have seat_eq : bid.encode.toNat / 64 = bid.seat.index := by omega
  unfold decode
  rw [value_eq, seat_eq, if_neg (by omega)]
  simp

/-- The strain a byte names; none for passes, doubles and bytes that carry no bid. -/
def strainOfCode? (code : UInt8) : Option Strain :=
  match decode code with
  | .ok bid => bid.value.strain?
  | .error _ => none

def strain? (bid : TaggedBid) : Option Strain :=
  strainOfCode? bid.encode

end TaggedBid

end ContractBridge
