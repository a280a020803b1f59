import ContractBridge.Auction.Basic
import ContractBridge.Contract.Basic
import ContractBridge.Failure

/-!
# Declarations

A settled auction fixes the contract and who plays what.  The contract is the last strain bid with
the double or redouble that stands on it.  Declarer is the member of the bidding side who named the
strain first, who need not be the one who made the last bid.
-/

namespace ContractBridge

structure Declaration where
  contract : Contract
  bidder : Seat
  declarer : Seat
  dummy : Seat
  lead : Seat
  defender : Seat
  deriving DecidableEq, Repr

namespace Declaration

def strain (declaration : Declaration) : Strain :=
  declaration.contract.bid.strain

def controller (declaration : Declaration) (seat : Seat) : Seat :=
  if seat = declaration.dummy then declaration.declarer else seat

def ofDeclarer (contract : Contract) (bidder declarer : Seat) : Declaration :=
  { contract, bidder, declarer
    dummy := declarer.partner
    lead := declarer.openingLeader
    defender := declarer.openingLeader.partner }

end Declaration

namespace Auction

inductive ResolveError where
  | unsettled
  deriving DecidableEq, Repr

def ResolveError.message : ResolveError → String
  | .unsettled => "resolution requested on an unsettled auction"

/-- Splits the crucial entries, latest first, into the doubles and redoubles after the last strain
bid and that bid. -/
def splitDoubles : List Entry → Option (List Entry × Entry)
  | [] => none
  | entry :: earlier =>
      if entry.doubling = .none then some ([], entry)
      else (splitDoubles earlier).map fun (doubles, bid) => (entry :: doubles, bid)

def standingPenalty (doubles : List Entry) : Penalty :=
  match doubles with
  | [] => .none
  | latest :: _ => latest.doubling.penalty

def declarerFor (auction : Auction) (bidder : Seat) (strain : Strain) : Seat :=
  match auction.firstBid? bidder strain, auction.firstBid? bidder.partner strain with
  | some own, some partners => if partners < own then bidder.partner else bidder
  | none, some _ => bidder.partner
  | _, none => bidder

def declare (auction : Auction) (doubles : List Entry) (bid : Entry) :
    Except (Failure ResolveError) Declaration :=
  match TaggedBid.strain? ⟨bid.seat, bid.value⟩ with
  | none => .error (.fault .strainlessBid)
  | some strain =>
      match Contract.new? bid.value.level strain (standingPenalty doubles) with
      | none => .error (.fault .levelOffBox)
      | some contract =>
          .ok (.ofDeclarer contract bid.seat (auction.declarerFor bid.seat strain))

def resolve (auction : Auction) : Except (Failure ResolveError) Declaration :=
  match auction.status with
  | .settled =>
      match splitDoubles (auction.entries.reverse.filter (·.value.isCrucial)) with
      | none => .error (.refused .unsettled)
      | some (doubles, bid) => auction.declare doubles bid
  | _ => .error (.refused .unsettled)

end Auction

end ContractBridge
