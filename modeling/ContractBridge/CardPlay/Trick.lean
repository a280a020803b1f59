import ContractBridge.Card.Basic
import ContractBridge.Seat.Set

/-!
# Tricks

The cards of one trick in order of play, together with the set of seats that have played.  The
highest trump wins, or the highest card of the suit led when no trump was played.
-/

namespace ContractBridge

structure Trick where
  leader : Seat
  plays : List (Seat × Card)
  played : SeatSet
  deriving DecidableEq, Repr

namespace Trick

def ledBy (leader : Seat) : Trick :=
  ⟨leader, [], .empty⟩

def led? (trick : Trick) : Option Card :=
  trick.plays.head?.map Prod.snd

def isComplete (trick : Trick) : Bool :=
  trick.played == .all

def add (trick : Trick) (seat : Seat) (card : Card) : Trick :=
  { trick with
    plays := trick.plays ++ [(seat, card)]
    played := trick.played.union (.singleton seat) }

/-- Trumps stand above the suit led, which stands above the rest; within a class the code counts. -/
def strength (trump : Option Suit) (led : Suit) (card : Card) : Nat :=
  if some card.suit = trump then 2 * 52 + card.code
  else if card.suit = led then 52 + card.code
  else card.code

def stronger (trump : Option Suit) (led : Suit) (best next : Seat × Card) : Seat × Card :=
  if strength trump led best.2 ≤ strength trump led next.2 then next else best

def best? (trick : Trick) (trump : Option Suit) : Option (Seat × Card) :=
  match trick.plays with
  | [] => none
  | lead :: rest => some (rest.foldl (stronger trump lead.2.suit) lead)

def winner? (trick : Trick) (trump : Option Suit) : Option Seat :=
  (trick.best? trump).map Prod.fst

end Trick

end ContractBridge
