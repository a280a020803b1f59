import ContractBridge.Table.Error

/-!
# Bidding at a table

A call by the seat due is checked against the auction and entered in it.  It leaves the auction
open, settles it and starts the play, or passes the board out and has it dealt again.
-/

namespace ContractBridge

inductive BidOutcome where
  | continued (next : Seat) (forbidden : BidSet)
  | completed (declaration : Declaration) (turn : Turn) (legal : LegalPlay)
  | reshuffled (dealer : Seat) (forbidden : BidSet)
  deriving DecidableEq, Repr

namespace Table

def callRefusal? (table : Table) (seat : Seat) (value : BidValue) : Option TableError :=
  match table.stage with
  | .playing _ => some (.phaseMismatch table.phase)
  | .bidding next =>
      if seat ≠ next then some (.outOfTurn next seat)
      else if (table.auction.forbidden seat).contains value then some (.forbiddenBid seat value)
      else none

/-- A passed-out board is dealt again by the same dealer. -/
def passOut (table : Table) : Except (Failure TableError) (BidOutcome × Table) :=
  match table.redeal with
  | .error fault => .error (.fault fault)
  | .ok fresh => .ok (.reshuffled fresh.dealer (fresh.auction.forbidden fresh.dealer), fresh)

def passTurn (table : Table) (next : Seat) : BidOutcome × Table :=
  (.continued next (table.auction.forbidden next), { table with stage := .bidding next })

def beginPlay (table : Table) : Except (Failure TableError) (BidOutcome × Table) :=
  match table.auction.resolve with
  | .error (.refused _) => .error (.fault .unsettledAuction)
  | .error (.fault fault) => .error (.fault fault)
  | .ok declaration =>
      let play := CardPlay.start table.dealt declaration
      match play.pending? with
      | none => .error (.fault .noOpeningLead)
      | some (turn, legal) =>
          .ok (.completed declaration turn legal, { table with stage := .playing play })

def enter (table : Table) (seat : Seat) (value : BidValue) :
    Except (Failure TableError) (BidOutcome × Table) :=
  let entered := { table with auction := table.auction.append seat value }
  match entered.auction.status with
  | .passedOut => entered.passOut
  | .ongoing => .ok (entered.passTurn seat.next)
  | .settled => entered.beginPlay

def call (table : Table) (seat : Seat) (value : BidValue) :
    Except (Failure TableError) (BidOutcome × Table) :=
  match table.callRefusal? seat value with
  | some error => .error (.refused error)
  | none => table.enter seat value

/-- Handles a bid byte, which must be tagged with the seat that sends it. -/
def bid (table : Table) (seat : Seat) (code : UInt8) :
    Except (Failure TableError) (BidOutcome × Table) :=
  match TaggedBid.decode code with
  | .error error => .error (.refused (.bid error))
  | .ok tagged =>
      if tagged.seat ≠ seat then .error (.refused (.seatMismatch seat tagged.seat))
      else table.call seat tagged.value

end Table

end ContractBridge
