import ContractBridge.Table.Command

/-!
# Reachable tables

The tables that a run of commands can lead to from one that was just opened, on a shuffled deal or
on a valid prearranged one.
-/

namespace ContractBridge

namespace Table

inductive Opened : Table → Prop
  | shuffled {config : TableConfig} {entropy : Generator} {table : Table}
      (opening : new config entropy = .ok table) : Opened table
  | prearranged {config : TableConfig} {entropy : Generator} {deal : Deal} {table : Table}
      (opening : withDeal config entropy deal = .ok table) : Opened table

inductive Reachable : Table → Prop
  | opened {table : Table} (opening : Opened table) : Reachable table
  | step {table : Table} (command : Command) (before : Reachable table) :
      Reachable (table.step command).2

theorem Reachable.run {table : Table} (h : Reachable table) (commands : List Command) :
    Reachable (table.run commands).2 := by
  induction commands generalizing table with
  | nil => exact h
  | cons command commands ih => exact ih (h.step command)

end Table

end ContractBridge
