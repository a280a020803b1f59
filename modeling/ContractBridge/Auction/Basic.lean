import ContractBridge.BiddingBox.Set
import ContractBridge.BiddingBox.Tagged
import ContractBridge.Seat.Indexed

/-!
# Auctions

The ledger of one auction: its entries, oldest first, each stamped with its place.  Beside them an
index remembers for each seat and strain the stamp of the first bid in which that seat named that
strain; an indexed stamp is never overwritten.
-/

namespace ContractBridge

/-- Stamps are 32-bit words and start again from 0 when those run out. -/
structure Entry where
  stamp : Nat
  seat : Seat
  value : BidValue
  deriving DecidableEq, Repr

def Entry.doubling (entry : Entry) : Doubling :=
  Doubling.ofValue entry.value

def Entry.isPass (entry : Entry) : Bool :=
  entry.value.isPass

def Entry.isStrainBid (entry : Entry) : Bool :=
  entry.value.isCrucial && !entry.value.isDouble

structure Auction where
  entries : List Entry
  firstBids : BySeat (ByStrain (Option Nat))
  deriving DecidableEq, Repr

namespace Auction

def empty : Auction :=
  ⟨[], .replicate (.replicate none)⟩

def length (auction : Auction) : Nat :=
  auction.entries.length

def isEmpty (auction : Auction) : Bool :=
  auction.entries.isEmpty

def nextStamp (auction : Auction) : Nat :=
  auction.length % UInt32.size

def firstBid? (auction : Auction) (seat : Seat) (strain : Strain) : Option Nat :=
  (auction.firstBids.get seat).get strain

/-- Indexes a stamp unless the seat has named the strain before. -/
def index (auction : Auction) (seat : Seat) (strain : Strain) (stamp : Nat) :
    BySeat (ByStrain (Option Nat)) :=
  match auction.firstBid? seat strain with
  | some _ => auction.firstBids
  | none =>
      auction.firstBids.set seat ((auction.firstBids.get seat).set strain (some stamp))

def newEntry (auction : Auction) (seat : Seat) (value : BidValue) : Entry :=
  ⟨auction.nextStamp, seat, value⟩

def append (auction : Auction) (seat : Seat) (value : BidValue) : Auction :=
  { entries := auction.entries ++ [auction.newEntry seat value]
    firstBids :=
      match TaggedBid.strain? ⟨seat, value⟩ with
      | some strain => auction.index seat strain auction.nextStamp
      | none => auction.firstBids }

def clear (auction : Auction) : Auction :=
  let forgotten := { auction with entries := [] }
  { forgotten with firstBids := .replicate (.replicate none) }

@[simp] theorem clear_eq_empty (auction : Auction) : auction.clear = empty := rfl

@[simp] theorem entries_append (auction : Auction) (seat : Seat) (value : BidValue) :
    (auction.append seat value).entries = auction.entries ++ [auction.newEntry seat value] := rfl

@[simp] theorem length_append (auction : Auction) (seat : Seat) (value : BidValue) :
    (auction.append seat value).length = auction.length + 1 := by
  simp [length]

def last? (auction : Auction) : Option Entry :=
  auction.entries.getLast?

def lastCrucial? (auction : Auction) : Option Entry :=
  auction.entries.reverse.find? (·.value.isCrucial)

def lastStrainBid? (auction : Auction) : Option Entry :=
  auction.entries.reverse.find? (·.isStrainBid)

inductive Status where
  | ongoing
  | settled
  | passedOut
  deriving DecidableEq, Repr

/-- An auction ends with three passes in a row, but not before its fourth call.  It is passed out
when the call before those three is a pass too. -/
def status (auction : Auction) : Status :=
  match auction.entries.reverse with
  | last :: second :: third :: fourth :: _ =>
      if third.isPass && second.isPass && last.isPass then
        if fourth.isPass then .passedOut else .settled
      else .ongoing
  | _ => .ongoing

def Status.isComplete (status : Status) : Bool :=
  status != .ongoing

def Status.isPassedOut (status : Status) : Bool :=
  status == .passedOut

end Auction

end ContractBridge
