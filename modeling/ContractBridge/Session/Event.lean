import ContractBridge.Table.Bidding
import ContractBridge.Table.Playing

/-!
# Events

What a table announces to those who follow it: fresh hands, every accepted action, and whose turn
comes next with the time allowed for it.  Each event describes a state already reached.
-/

namespace ContractBridge

inductive Event where
  | dealt (dealer : Seat) (deal : Deal)
  | called (seat : Seat) (value : BidValue)
  | bidTurn (seat : Seat) (forbidden : BidSet) (decisionTime : Nat)
  | reshuffled
  | declared (declaration : Declaration)
  | played (result : CardPlay.Played)
  | playTurn (turn : Turn) (legal : LegalPlay) (decisionTime : Nat)
  | finished (declarerTricks : Nat)
  deriving DecidableEq, Repr

namespace Table

def announceBidTurn (table : Table) (seat : Seat) (forbidden : BidSet) : List Event :=
  [.bidTurn seat forbidden table.config.decisionTime]

def announcePlayTurn (table : Table) (turn : Turn) (legal : LegalPlay) : List Event :=
  [.playTurn turn legal table.config.decisionTime]

def announceDeal (table : Table) : List Event :=
  .dealt table.dealer table.dealt ::
    match table.nextBidder? with
    | some seat => table.announceBidTurn seat (table.auction.forbidden seat)
    | none => []

def announceCall (table : Table) (seat : Seat) (value : BidValue) (outcome : BidOutcome) :
    List Event :=
  .called seat value ::
    match outcome with
    | .continued next forbidden => table.announceBidTurn next forbidden
    | .completed declaration turn legal =>
        .declared declaration :: table.announcePlayTurn turn legal
    | .reshuffled _ _ => .reshuffled :: table.announceDeal

def announceBid (table : Table) (code : UInt8) (outcome : BidOutcome) : List Event :=
  match TaggedBid.decode code with
  | .ok tagged => table.announceCall tagged.seat tagged.value outcome
  | .error _ => []

def declarerTricks (table : Table) : Nat :=
  match table.play? with
  | some play => play.tricksOf play.declaration.declarer
  | none => 0

def announcePlay (table : Table) (result : CardPlay.Played) : List Event :=
  .played result ::
    match result.next with
    | some (turn, legal) => table.announcePlayTurn turn legal
    | none => [.finished table.declarerTricks]

end Table

end ContractBridge
