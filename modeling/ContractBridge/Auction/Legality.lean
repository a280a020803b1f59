import ContractBridge.Auction.Basic

/-!
# Forbidden bids

What the seat due may not call.  A strain bid must outrank the last one, a double needs an
undoubled bid of the opponents, a redouble needs a double of theirs, and a pass is never forbidden.
-/

namespace ContractBridge

namespace Auction

def facesOpposing (auction : Auction) (seat : Seat) (doubling : Doubling) : Bool :=
  auction.lastCrucial?.any fun entry =>
    !entry.seat.isPartnerOf seat && entry.doubling == doubling

def forbids (auction : Auction) (seat : Seat) (value : BidValue) : Bool :=
  if value.isPass then false
  else
    match Doubling.ofValue value with
    | .none => auction.lastStrainBid?.any fun entry => value.number ≤ entry.value.number
    | .double => !auction.facesOpposing seat .none
    | .redouble => !auction.facesOpposing seat .double

def forbidden (auction : Auction) (seat : Seat) : BidSet :=
  BidSet.ofList (BidValue.all.filter (auction.forbids seat))

@[simp] theorem contains_forbidden (auction : Auction) (seat : Seat) (value : BidValue) :
    (auction.forbidden seat).contains value = auction.forbids seat value := by
  rw [Bool.eq_iff_iff]
  simp [forbidden, BidValue.mem_all]

end Auction

end ContractBridge
