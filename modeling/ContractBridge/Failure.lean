/-!
# Refusals and faults

A step that is not carried out either *refuses* what somebody asked for, with an error for the
asker, or runs into a *fault*: a dead end of the rules that no well-kept table comes to.  Keeping
the two apart makes "this never happens" a statement about results.
-/

namespace ContractBridge

/-- Where the rules give out: a draw that found no acceptable word, a finished auction without a
contract, a contract bid without a strain or level, an opening leader with nothing to play, a full
trick that nobody won, and a trick count that does not fit into its byte. -/
inductive Fault where
  | stalledShuffle
  | unsettledAuction
  | strainlessBid
  | levelOffBox
  | noOpeningLead
  | noTrickWinner
  | trickCountOverflow
  deriving DecidableEq, Repr

inductive Failure (ε : Type) where
  | refused (error : ε)
  | fault (fault : Fault)
  deriving DecidableEq, Repr

namespace Failure

variable {ε δ : Type}

def map (f : ε → δ) : Failure ε → Failure δ
  | refused error => refused (f error)
  | fault dead => fault dead

@[simp] theorem map_refused (f : ε → δ) (error : ε) :
    map f (refused error) = refused (f error) := rfl

@[simp] theorem map_fault (f : ε → δ) (dead : Fault) : map f (fault dead) = fault dead := rfl

end Failure

end ContractBridge
