import ContractBridge.Contract.Strain

/-!
# Bids and calls

A bid pairs a level with a strain and is ranked by level first.  A call is a bid or one of the
three announcements that propose nothing.
-/

namespace ContractBridge

/-- The level is not confined to 1–7 here: `Bid.new?` is the constructor that checks it. -/
structure Bid where
  level : Nat
  strain : Strain
  deriving DecidableEq, Ord, Repr

namespace Bid

def IsLevel (level : Nat) : Prop := 1 ≤ level ∧ level ≤ 7

instance (level : Nat) : Decidable (IsLevel level) :=
  inferInstanceAs (Decidable (1 ≤ level ∧ level ≤ 7))

def new? (level : Nat) (strain : Strain) : Option Bid :=
  if IsLevel level then some ⟨level, strain⟩ else none

def text (bid : Bid) : String :=
  toString bid.level ++ bid.strain.text

end Bid

inductive Call where
  | pass
  | double
  | redouble
  | bid (proposal : Bid)
  deriving DecidableEq, Repr

def Call.text : Call → String
  | .pass => "Pass"
  | .double => "X"
  | .redouble => "XX"
  | .bid proposal => proposal.text

end ContractBridge
