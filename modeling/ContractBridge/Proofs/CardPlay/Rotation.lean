import ContractBridge.CardPlay.Step
import ContractBridge.Proofs.Auction.Rotation

/-!
# Card play on a turned table

The cards do not care who holds them.  When hands, turns and the seats that play move along, every
play is refused for the same reason or leads to the same trick, won by the seat that has moved.
-/

namespace ContractBridge

variable (steps : Nat)

namespace Turn

def rotate (turn : Turn) : Turn :=
  ⟨turn.seat.rotate steps, turn.actor.rotate steps⟩

theorem ofSeat_rotate (declaration : Declaration) (seat : Seat) :
    ofSeat (declaration.rotate steps) (seat.rotate steps) =
      (ofSeat declaration seat).rotate steps := by
  rw [ofSeat, Declaration.controller_rotate]
  rfl

theorem after_rotate (declaration : Declaration) (seat : Seat) :
    after (declaration.rotate steps) (seat.rotate steps) =
      (after declaration seat).rotate steps := by
  rw [after, Seat.next_rotate, ofSeat_rotate, after]

end Turn

def rotateEntry (entry : Seat × Card) : Seat × Card :=
  (entry.1.rotate steps, entry.2)

namespace Trick

def rotate (trick : Trick) : Trick where
  leader := trick.leader.rotate steps
  plays := trick.plays.map (rotateEntry steps)
  played := trick.played.rotate steps

theorem ledBy_rotate (leader : Seat) :
    ledBy (leader.rotate steps) = (ledBy leader).rotate steps := by
  simp [ledBy, rotate]

theorem add_rotate (trick : Trick) (seat : Seat) (card : Card) :
    (trick.rotate steps).add (seat.rotate steps) card = (trick.add seat card).rotate steps := by
  simp [add, rotate, rotateEntry]

theorem isComplete_rotate (trick : Trick) : (trick.rotate steps).isComplete = trick.isComplete := by
  rw [Bool.eq_iff_iff]
  simp [isComplete, rotate]

theorem foldl_stronger_rotate (trump : Option Suit) (led : Suit) (rest : List (Seat × Card))
    (lead : Seat × Card) :
    (rest.map (rotateEntry steps)).foldl (stronger trump led) (rotateEntry steps lead) =
      rotateEntry steps (rest.foldl (stronger trump led) lead) := by
  induction rest generalizing lead with
  | nil => rfl
  | cons next rest ih =>
      have hstronger : stronger trump led (rotateEntry steps lead) (rotateEntry steps next) =
          rotateEntry steps (stronger trump led lead next) :=
        (apply_ite (rotateEntry steps) _ _ _).symm
      rw [List.map_cons, List.foldl_cons, hstronger, ih, List.foldl_cons]

theorem winner?_rotate (trick : Trick) (trump : Option Suit) :
    (trick.rotate steps).winner? trump = (trick.winner? trump).map (Seat.rotate · steps) := by
  simp only [winner?, best?, rotate]
  cases trick.plays with
  | nil => rfl
  | cons lead rest =>
      simp only [List.map_cons, Option.map_some, Option.some.injEq]
      exact congrArg Prod.fst (foldl_stronger_rotate ..)

end Trick

namespace CardPlay

def rotate (play : CardPlay) : CardPlay where
  deal := play.deal.rotate steps
  declaration := play.declaration.rotate steps
  trick := play.trick.rotate steps
  round := play.round
  due := play.due.rotate steps
  tricksPlayed := play.tricksPlayed
  tricksWon := play.tricksWon.rotate steps

def rotateOffer (offer : Turn × LegalPlay) : Turn × LegalPlay :=
  (offer.1.rotate steps, offer.2)

theorem start_rotate (deal : Deal) (declaration : Declaration) :
    start (deal.rotate steps) (declaration.rotate steps) =
      (start deal declaration).rotate steps := by
  simp only [start, rotate, mk.injEq, true_and]
  exact ⟨Trick.ledBy_rotate .., Turn.ofSeat_rotate .., (BySide.rotate_equal ..).symm⟩

variable (play : CardPlay) (seat : Seat) (card : Card)

theorem turn?_rotate : (play.rotate steps).turn? = play.turn?.map (Turn.rotate steps) := by
  have hexhausted : (play.rotate steps).isExhausted = play.isExhausted := rfl
  rw [turn?, turn?, hexhausted]
  cases play.isExhausted <;> rfl

theorem hand_rotate :
    (play.rotate steps).deal.get (seat.rotate steps) = play.deal.get seat :=
  BySeat.get_rotate ..

theorem tricksOf_rotate : (play.rotate steps).tricksOf (seat.rotate steps) = play.tricksOf seat := by
  simp [tricksOf, rotate]

theorem legalPlay?_rotate :
    (play.rotate steps).legalPlay? (seat.rotate steps) = play.legalPlay? seat := by
  simp [legalPlay?, rotate]

theorem pending?_rotate :
    (play.rotate steps).pending? = play.pending?.map (rotateOffer steps) := by
  rw [pending?, pending?, turn?_rotate]
  cases play.turn? with
  | none => rfl
  | some turn =>
      have hlegal := play.legalPlay?_rotate steps turn.seat
      simp only [Option.map_some, Option.bind_some, Turn.rotate, hlegal, Option.map_map]
      rfl

end CardPlay

def PlayError.rotate : PlayError → PlayError
  | .handExhausted => .handExhausted
  | .outOfTurn expected got => .outOfTurn (expected.rotate steps) (got.rotate steps)
  | .notController seat actor => .notController (seat.rotate steps) (actor.rotate steps)
  | .cardNotInHand seat card => .cardNotInHand (seat.rotate steps) card
  | .mustFollowSuit seat card => .mustFollowSuit (seat.rotate steps) card

namespace CardPlay

def TrickResult.rotate (trick : TrickResult) : TrickResult where
  plays := trick.plays.map (rotateEntry steps)
  winner := trick.winner.rotate steps
  tricksPlayed := trick.tricksPlayed

def Played.rotate (played : Played) : Played where
  seat := played.seat.rotate steps
  card := played.card
  remaining := played.remaining
  slot := played.slot
  trick := played.trick.map (TrickResult.rotate steps)
  next := played.next.map (rotateOffer steps)

def rotateResult : Except (Failure PlayError) (Played × CardPlay) →
    Except (Failure PlayError) (Played × CardPlay)
  | .ok (played, play) => .ok (played.rotate steps, play.rotate steps)
  | .error failure => .error (failure.map (PlayError.rotate steps))

variable (play : CardPlay) (actor seat : Seat) (card : Card)

theorem refusal?_rotate :
    (play.rotate steps).refusal? (actor.rotate steps) (seat.rotate steps) card =
      (play.refusal? actor seat card).map (PlayError.rotate steps) := by
  unfold refusal?
  rw [turn?_rotate, legalPlay?_rotate, hand_rotate]
  cases play.turn? with
  | none => rfl
  | some turn =>
      simp only [Option.map_some, Turn.rotate, ne_eq, Seat.rotate_eq_rotate_iff]
      split
      case isTrue => rfl
      case isFalse =>
        split
        case isTrue => rfl
        case isFalse =>
          cases play.legalPlay? seat with
          | none => rfl
          | some legal =>
              dsimp only
              split
              case isTrue => rfl
              case isFalse => split <;> rfl

theorem addToTrick_rotate :
    (play.rotate steps).addToTrick (seat.rotate steps) card =
      (play.addToTrick seat card).rotate steps := by
  simp only [addToTrick, rotate, Trick.add_rotate, mk.injEq, true_and, and_true]
  simp [Trick.rotate]

theorem credit_rotate (tricksPlayed tricks : Nat) :
    (play.rotate steps).credit (seat.rotate steps) tricksPlayed tricks =
      (play.credit seat tricksPlayed tricks).rotate steps := by
  simp [credit, rotate, Trick.ledBy_rotate, Turn.ofSeat_rotate]

theorem closeTrick_rotate :
    (play.rotate steps).closeTrick =
      play.closeTrick.map fun (trick, closed) => (trick.rotate steps, closed.rotate steps) := by
  have hwinner : (play.rotate steps).trick.winner? (play.rotate steps).declaration.strain.trump? =
      (play.trick.winner? play.declaration.strain.trump?).map (Seat.rotate · steps) :=
    play.trick.winner?_rotate steps _
  unfold closeTrick
  rw [hwinner]
  cases play.trick.winner? play.declaration.strain.trump? with
  | none => rfl
  | some winner =>
      have hplayed : (play.rotate steps).tricksPlayed = play.tricksPlayed := rfl
      simp only [Option.map_some, tricksOf_rotate, credit_rotate, hplayed]
      cases raise? play.tricksPlayed with
      | none => rfl
      | some tricksPlayed => cases raise? (play.tricksOf winner) <;> rfl

theorem advance_rotate :
    (play.rotate steps).advance (seat.rotate steps) =
      (play.advance seat).map fun (trick, next) =>
        (trick.map (TrickResult.rotate steps), next.rotate steps) := by
  have hcomplete : (play.rotate steps).trick.isComplete = play.trick.isComplete :=
    play.trick.isComplete_rotate steps
  unfold advance
  rw [hcomplete, closeTrick_rotate]
  split
  case isTrue => cases play.closeTrick <;> rfl
  case isFalse =>
    have hturn : (play.rotate steps).turnAfter (seat.rotate steps) =
        (play.turnAfter seat).rotate steps :=
      Turn.after_rotate ..
    rw [hturn]
    rfl

theorem commit_rotate :
    (play.rotate steps).commit (seat.rotate steps) card =
      rotateResult steps (play.commit seat card) := by
  unfold commit takeCard
  rw [hand_rotate]
  cases (play.deal.get seat).remove? card with
  | none => rfl
  | some taken =>
      obtain ⟨slot, hand⟩ := taken
      have hdeal : (play.rotate steps).deal.set (seat.rotate steps) hand =
          (play.deal.set seat hand).rotate steps :=
        BySeat.set_rotate ..
      have hheld : { play.rotate steps with deal := (play.deal.set seat hand).rotate steps } =
          { play with deal := play.deal.set seat hand }.rotate steps := rfl
      simp only [hdeal, hheld, addToTrick_rotate, advance_rotate]
      cases ({ play with deal := play.deal.set seat hand }.addToTrick seat card).advance seat with
      | error fault => rfl
      | ok advanced =>
          obtain ⟨trick, next⟩ := advanced
          simp only [Except.map, pending?_rotate]
          rfl

theorem playCard_rotate :
    (play.rotate steps).playCard (actor.rotate steps) (seat.rotate steps) card =
      rotateResult steps (play.playCard actor seat card) := by
  unfold playCard
  rw [refusal?_rotate]
  cases play.refusal? actor seat card with
  | some error => rfl
  | none => exact play.commit_rotate steps seat card

end CardPlay

end ContractBridge
