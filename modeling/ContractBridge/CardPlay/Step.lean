import ContractBridge.CardPlay.Basic

/-!
# Playing a card

A play is checked before anything changes.  Then the card leaves the hand and joins the trick; the
first card of a trick fixes the range that follows suit, and the fourth one decides who won.
-/

namespace ContractBridge

inductive PlayError where
  | handExhausted
  | outOfTurn (expected got : Seat)
  | notController (seat actor : Seat)
  | cardNotInHand (seat : Seat) (card : Card)
  | mustFollowSuit (seat : Seat) (card : Card)
  deriving DecidableEq, Repr

def PlayError.message : PlayError → String
  | .handExhausted => "every trick has been played"
  | .outOfTurn expected got => expected.text ++ " is due to play, not " ++ got.text
  | .notController seat actor => actor.text ++ " cannot play from the hand of " ++ seat.text
  | .cardNotInHand seat card => seat.text ++ " does not hold " ++ card.text
  | .mustFollowSuit seat card =>
      seat.text ++ " must follow suit instead of playing " ++ card.text

namespace CardPlay

def refusal? (play : CardPlay) (actor seat : Seat) (card : Card) : Option PlayError :=
  match play.turn? with
  | none => some .handExhausted
  | some turn =>
      if seat ≠ turn.seat then some (.outOfTurn turn.seat seat)
      else if actor ≠ turn.actor then some (.notController seat actor)
      else
        match play.legalPlay? seat with
        | none => some (.cardNotInHand seat card)
        | some legal =>
            if !(play.deal.get seat).contains card then some (.cardNotInHand seat card)
            else if !legal.range.contains card then some (.mustFollowSuit seat card)
            else none

structure TakenCard where
  remaining : List Card
  slot : Nat
  deriving DecidableEq, Repr

/-- Takes a card out of a hand, whoever is on turn. -/
def takeCard (play : CardPlay) (seat : Seat) (card : Card) :
    Except PlayError (TakenCard × CardPlay) :=
  match (play.deal.get seat).remove? card with
  | none => .error (.cardNotInHand seat card)
  | some (slot, hand) => .ok (⟨hand.cards, slot⟩, { play with deal := play.deal.set seat hand })

def addToTrick (play : CardPlay) (seat : Seat) (card : Card) : CardPlay :=
  { play with
    round := if play.trick.plays.isEmpty then .ledBy card else play.round
    trick := play.trick.add seat card }

structure TrickResult where
  plays : List (Seat × Card)
  winner : Seat
  tricksPlayed : Nat
  deriving DecidableEq, Repr

/-- Trick counts are kept in bytes, so a full one cannot be raised. -/
def raise? (count : Nat) : Option Nat :=
  if count + 1 < UInt8.size then some (count + 1) else none

def credit (play : CardPlay) (winner : Seat) (tricksPlayed tricks : Nat) : CardPlay :=
  { play with
    trick := .ledBy winner
    round := .full
    due := .ofSeat play.declaration winner
    tricksPlayed
    tricksWon := play.tricksWon.set winner.side tricks }

def closeTrick (play : CardPlay) : Except Fault (TrickResult × CardPlay) :=
  match play.trick.winner? play.declaration.strain.trump? with
  | none => .error .noTrickWinner
  | some winner =>
      match raise? play.tricksPlayed, raise? (play.tricksOf winner) with
      | some tricksPlayed, some tricks =>
          .ok (⟨play.trick.plays, winner, tricksPlayed⟩, play.credit winner tricksPlayed tricks)
      | _, _ => .error .trickCountOverflow

def advance (play : CardPlay) (seat : Seat) : Except Fault (Option TrickResult × CardPlay) :=
  if play.trick.isComplete then
    match play.closeTrick with
    | .error fault => .error fault
    | .ok (trick, closed) => .ok (some trick, closed)
  else .ok (none, { play with due := play.turnAfter seat })

structure Played where
  seat : Seat
  card : Card
  remaining : List Card
  slot : Nat
  trick : Option TrickResult
  next : Option (Turn × LegalPlay)
  deriving DecidableEq, Repr

def commit (play : CardPlay) (seat : Seat) (card : Card) :
    Except (Failure PlayError) (Played × CardPlay) :=
  match play.takeCard seat card with
  | .error error => .error (.refused error)
  | .ok (taken, held) =>
      match (held.addToTrick seat card).advance seat with
      | .error fault => .error (.fault fault)
      | .ok (trick, next) =>
          .ok (⟨seat, card, taken.remaining, taken.slot, trick, next.pending?⟩, next)

def playCard (play : CardPlay) (actor seat : Seat) (card : Card) :
    Except (Failure PlayError) (Played × CardPlay) :=
  match play.refusal? actor seat card with
  | some error => .error (.refused error)
  | none => play.commit seat card

end CardPlay

end ContractBridge
