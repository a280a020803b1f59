import ContractBridge.CardPlay.Step

/-!
# Requests

Everything that can be asked of a play, as data.  Apart from the plays in turn, a card can be taken
out of any hand and the round be fixed from any card, at any time.  A request that fails leaves the
play as it was, so a run of requests always has a final state.
-/

namespace ContractBridge

namespace CardPlay

inductive Request where
  | play (actor seat : Seat) (card : Card)
  | take (seat : Seat) (card : Card)
  | setRound (led : Card)
  deriving DecidableEq, Repr

inductive Response where
  | played (result : Played)
  | taken (result : TakenCard)
  | roundSet
  deriving DecidableEq, Repr

abbrev Reply := Except (Failure PlayError) Response

def perform (play : CardPlay) : Request → Except (Failure PlayError) (Response × CardPlay)
  | .play actor seat card =>
      (play.playCard actor seat card).map (Prod.map .played id)
  | .take seat card =>
      ((play.takeCard seat card).mapError .refused).map (Prod.map .taken id)
  | .setRound led => .ok (.roundSet, play.setRound led)

def step (play : CardPlay) (request : Request) : Reply × CardPlay :=
  match play.perform request with
  | .ok (response, next) => (.ok response, next)
  | .error failure => (.error failure, play)

def run (play : CardPlay) : List Request → List Reply × CardPlay
  | [] => ([], play)
  | request :: requests =>
      let (reply, next) := play.step request
      let (replies, last) := next.run requests
      (reply :: replies, last)

end CardPlay

end ContractBridge
