import ContractBridge.Table.Bidding
import ContractBridge.Table.Playing

/-!
# Commands

Everything that can be asked of a table, as data.  A command that fails leaves the table as it was,
so a run of commands always has a final table.
-/

namespace ContractBridge

namespace Table

inductive Command where
  | bid (seat : Seat) (code : UInt8)
  | call (seat : Seat) (value : BidValue)
  | play (actor seat : Seat) (code : UInt8)
  | playCard (actor seat : Seat) (card : Card)
  | autoPlay
  | nextDeal
  deriving DecidableEq, Repr

inductive Answer where
  | bid (outcome : BidOutcome)
  | played (result : CardPlay.Played)
  | dealer (seat : Seat)
  deriving DecidableEq, Repr

abbrev Reply := Except (Failure TableError) Answer

def labelled {α : Type} (label : α → Answer) :
    Except (Failure TableError) (α × Table) → Except (Failure TableError) (Answer × Table)
  | .ok (answer, table) => .ok (label answer, table)
  | .error failure => .error failure

def perform (table : Table) : Command → Except (Failure TableError) (Answer × Table)
  | .bid seat code => labelled .bid (table.bid seat code)
  | .call seat value => labelled .bid (table.call seat value)
  | .play actor seat code => labelled .played (table.play actor seat code)
  | .playCard actor seat card => labelled .played (table.playCard actor seat card)
  | .autoPlay => labelled .played table.autoPlay
  | .nextDeal => labelled .dealer table.nextDeal

def step (table : Table) (command : Command) : Reply × Table :=
  match table.perform command with
  | .ok (answer, next) => (.ok answer, next)
  | .error failure => (.error failure, table)

def run (table : Table) : List Command → List Reply × Table
  | [] => ([], table)
  | command :: commands =>
      let (reply, next) := table.step command
      let (replies, last) := next.run commands
      (reply :: replies, last)

end Table

end ContractBridge
