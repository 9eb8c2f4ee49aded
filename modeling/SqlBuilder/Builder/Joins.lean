import SqlBuilder.Builder.Conditions

/-!
# Joins

Joins with other tables. The conditions of a join are collected by a builder of their own: `on`
compares columns, `onShared` names columns that both tables have.
-/

set_option autoImplicit false

namespace SqlBuilder.Builder

open SqlBuilder.Session

/-- Adds a comparison of columns to a join. -/
def on (b : Nat) (key operator value joiner : Value) : Action Unit := do
  let key ← addPrefix b key true
  let value ← addPrefix b value true
  addCondition b .criteria
    { Condition.plain key operator value joiner with leading := .text "ON" }

/-- Names columns that both tables of a join have: one, or those of a list. -/
def onShared (b : Nat) (columns : Value) : Action Unit := do
  let columns ← match columns with
    | .text _ => pure [columns]
    | v => ofResult v.toItems
  addCondition b .criteria
    { Condition.plain .null .null .null (.text "AND USING") with columns }

/-- The table of a join, with prefix: a name, a raw fragment, or a pair of table and alias. -/
def joinTable (b : Nat) (table : Value) : Action Value := do
  match table with
  | .list [main, name] | .tuple [main, name] =>
    pure (.tuple [← addPrefix b main false, name])
  | .list _ | .tuple _ => throw (.misuse .badValue)
  | table => addPrefix b table false

/-- Adds a join of a kind. -/
def addJoin (b : Nat) (kind table : Value) (criteria : List Condition) : Action Unit := do
  let table ← joinTable b table
  let overwrite ← overwrites b
  match kind.lower with
  | .ok kind => tryEdit b (·.addJoin? overwrite { kind, table, criteria })
  | .error f => do
    tryEdit b (·.openJoins? overwrite table)
    throw f

/-- Adds a join on conditions: those a callback collects, a comparison, or none. -/
def join (b : Nat) (kind table : Value) (key : Operand) (operator value : Value) :
    Action Unit := do
  let criteria ← match key with
    | .value .null => pure []
    | .callback _ f => collected b .join f
    | key => collected b .join fun j => on j key.plain operator value (.text "AND")
  addJoin b kind table criteria

/-- Adds a join on columns that both tables have. -/
def joinUsing (b : Nat) (kind table columns : Value) : Action Unit := do
  addJoin b kind table (← collected b .join fun j => onShared j columns)

end SqlBuilder.Builder
