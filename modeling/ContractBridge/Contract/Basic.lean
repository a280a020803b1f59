import ContractBridge.Contract.Bid

/-!
# Contracts

The final bid of an auction together with the double or redouble that stands on it, the number of
tricks it asks for, and the over- or undertricks of a result.
-/

namespace ContractBridge

inductive Penalty where
  | none
  | doubled
  | redoubled
  deriving DecidableEq, Ord, Repr

def Penalty.suffix : Penalty → String
  | .none => ""
  | .doubled => "X"
  | .redoubled => "XX"

structure Contract where
  bid : Bid
  penalty : Penalty
  deriving DecidableEq, Repr

namespace Contract

def book : Nat := 6

def new? (level : Nat) (strain : Strain) (penalty : Penalty) : Option Contract :=
  (Bid.new? level strain).map (⟨·, penalty⟩)

def isDoubled (contract : Contract) : Bool :=
  contract.penalty != .none

def target? (contract : Contract) : Option Nat :=
  let target := contract.bid.level + book
  if target < UInt8.size then some target else none

/-- Overtricks, or undertricks when negative.  Both counts are read as signed bytes, and so is the
difference, which is absent when it does not fit. -/
def result? (contract : Contract) (tricks : Nat) : Option Int :=
  contract.target?.bind fun target =>
    let margin := (tricks : Int).bmod UInt8.size - (target : Int).bmod UInt8.size
    if -128 ≤ margin ∧ margin < 128 then some margin else none

def text (contract : Contract) : String :=
  contract.bid.text ++ contract.penalty.suffix

end Contract

end ContractBridge
