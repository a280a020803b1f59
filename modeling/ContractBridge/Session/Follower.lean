import ContractBridge.Auction.Law
import ContractBridge.Session.Event

/-!
# Followers

What somebody knows of a table who is told its events and nothing else: the hands, the auction, the
phase, who is due with what choice, the tricks of both sides, and what declarer took in the end.
-/

namespace ContractBridge

inductive Pending where
  | nobody
  | bid (seat : Seat) (forbidden : BidSet)
  | play (turn : Turn) (legal : LegalPlay)
  deriving DecidableEq, Repr

structure Follower where
  dealer : Seat
  hands : Deal
  calls : List TaggedBid
  phase : Phase
  pending : Pending
  declaration : Option Declaration
  tricks : BySide Nat
  declarerTricks : Option Nat
  deriving DecidableEq, Repr

namespace Follower

def ofDeal (dealer : Seat) (hands : Deal) : Follower :=
  { dealer, hands
    calls := []
    phase := .bidding
    pending := .nobody
    declaration := none
    tricks := ⟨0, 0⟩
    declarerTricks := none }

def credited (tricks : BySide Nat) : Option CardPlay.TrickResult → BySide Nat
  | some trick =>
      let side := trick.winner.side
      tricks.set side (tricks.get side + 1)
  | none => tricks

def noteCard (follower : Follower) (played : CardPlay.Played) : Follower :=
  let hand := (follower.hands.get played.seat).clear played.slot
  { follower with
    hands := follower.hands.set played.seat hand
    pending := .nobody
    tricks := credited follower.tricks played.trick }

def note (follower : Follower) : Event → Follower
  | .dealt dealer hands => ofDeal dealer hands
  | .called seat value =>
      { follower with calls := follower.calls ++ [⟨seat, value⟩], pending := .nobody }
  | .bidTurn seat forbidden _ => { follower with pending := .bid seat forbidden }
  | .reshuffled => follower
  | .declared declaration =>
      { follower with phase := .playing, declaration := some declaration }
  | .played result => follower.noteCard result
  | .playTurn turn legal _ => { follower with pending := .play turn legal }
  | .finished declarerTricks =>
      { follower with
        phase := .finished
        pending := .nobody
        declarerTricks := some declarerTricks }

def follow (follower : Follower) (events : List Event) : Follower :=
  events.foldl note follower

end Follower

namespace Table

def pending (table : Table) : Pending :=
  match table.stage with
  | .bidding next => .bid next (table.auction.forbidden next)
  | .playing play =>
      match play.pending? with
      | some (turn, legal) => .play turn legal
      | none => .nobody

def known (table : Table) : Follower :=
  { dealer := table.dealer
    hands := table.deal
    calls := table.auction.calls
    phase := table.phase
    pending := table.pending
    declaration := table.declaration?
    tricks :=
      match table.play? with
      | some play => play.tricksWon
      | none => ⟨0, 0⟩
    declarerTricks :=
      if table.phase = .finished then
        table.play?.map fun play => play.tricksOf play.declaration.declarer
      else none }

end Table

end ContractBridge
