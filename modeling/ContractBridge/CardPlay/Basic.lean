import ContractBridge.Auction.Declaration
import ContractBridge.CardPlay.Range
import ContractBridge.CardPlay.Trick
import ContractBridge.Deal.Basic

/-!
# Card play

The state of the play of one board: the hands as they stand, the trick in progress with the range
that follows suit in it, whose turn it is, and the tricks taken.  Play starts with the opening lead
and is over after thirteen tricks.
-/

namespace ContractBridge

/-- The seat whose card is played, and the seat that decides: declarer when it is dummy's card. -/
structure Turn where
  seat : Seat
  actor : Seat
  deriving DecidableEq, Repr

def Turn.ofSeat (declaration : Declaration) (seat : Seat) : Turn :=
  ⟨seat, declaration.controller seat⟩

def Turn.after (declaration : Declaration) (seat : Seat) : Turn :=
  Turn.ofSeat declaration seat.next

structure CardPlay where
  deal : Deal
  declaration : Declaration
  trick : Trick
  round : CardRange
  due : Turn
  tricksPlayed : Nat
  tricksWon : BySide Nat
  deriving DecidableEq, Repr

namespace CardPlay

def start (deal : Deal) (declaration : Declaration) : CardPlay :=
  { deal, declaration
    trick := .ledBy declaration.lead
    round := .full
    due := .ofSeat declaration declaration.lead
    tricksPlayed := 0
    tricksWon := ⟨0, 0⟩ }

def isExhausted (play : CardPlay) : Bool :=
  play.tricksPlayed == handSize

def turn? (play : CardPlay) : Option Turn :=
  if play.isExhausted then none else some play.due

def tricksOf (play : CardPlay) (seat : Seat) : Nat :=
  play.tricksWon.get seat.side

def legalPlay? (play : CardPlay) (seat : Seat) : Option LegalPlay :=
  (play.deal.get seat).legalPlay? play.round

def pending? (play : CardPlay) : Option (Turn × LegalPlay) :=
  play.turn?.bind fun turn => (play.legalPlay? turn.seat).map (turn, ·)

def turnAfter (play : CardPlay) (seat : Seat) : Turn :=
  Turn.after play.declaration seat

def setRound (play : CardPlay) (led : Card) : CardPlay :=
  { play with round := .ledBy led }

end CardPlay

end ContractBridge
