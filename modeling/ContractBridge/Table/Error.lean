import ContractBridge.Table.Basic

/-!
# Refused actions

Why a table refuses an action.  A refused action changes nothing.
-/

namespace ContractBridge

inductive TableError where
  | bid (error : TaggedBid.DecodeError)
  | card (error : Card.DecodeError)
  | phaseMismatch (phase : Phase)
  | seatMismatch (seat tagged : Seat)
  | outOfTurn (expected got : Seat)
  | forbiddenBid (seat : Seat) (value : BidValue)
  | play (error : PlayError)
  deriving DecidableEq, Repr

def TableError.message : TableError → String
  | .bid error => error.message
  | .card error => error.message
  | .phaseMismatch phase => "action not allowed during " ++ phase.text
  | .seatMismatch seat tagged => seat.text ++ " sent a bid tagged for " ++ tagged.text
  | .outOfTurn expected got => expected.text ++ " is due to bid, not " ++ got.text
  | .forbiddenBid seat value => seat.text ++ " may not bid " ++ value.text
  | .play error => error.message

end ContractBridge
