import SqlBuilder.Builder.Prefix
import SqlBuilder.Statements.Edit
import SqlBuilder.Value.Case

/-!
# Tables

The tables a builder selects from and their aliases. A map of tables declares an alias for each of
its keys; an alias is kept in lower case.
-/

set_option autoImplicit false

namespace SqlBuilder.Builder

open SqlBuilder.Session

/-- A new builder on the connection of a builder. -/
def newQuery (b : Nat) : Action Nat := do
  newBuilder (← connectionOf b) .query .empty

/-- Declares an alias of a table. -/
def setAlias (b : Nat) (name table : Value) : Action Unit := do
  edit b (·.openAliases)
  let name ← ofResult name.lower
  change b (·.addAlias table name)

/-- The tables of one argument, with prefix. -/
def collectTables (b : Nat) (item : Value) : Action (List Value) := do
  match item with
  | .map entries =>
    entries.mapM fun (table, name) => do
      let table ← addPrefix b table false
      setAlias b name table
      pure table
  | .list items | .tuple items => addPrefixAll b items false
  | item => pure [← addPrefix b item false]

/-- Nothing is given, or nothing but a null. -/
def isNothing : List Value → Bool
  | [] | [.null] => true
  | _ => false

/-- Adds tables to select from; none at all clears them. -/
def fromTables (b : Nat) (tables : List Value) : Action Unit := do
  if isNothing tables then edit b (·.clearTables)
  else
    let collected ← tables.mapM (collectTables b)
    change b (·.addTables collected.flatten)

/-- A builder on the tables: a new one, or this one without tables if none is given. -/
def table (b : Nat) (tables : List Value) : Action Nat := do
  let target ← if isNothing tables then pure b else newQuery b
  fromTables target tables
  pure target

/-- Declares an alias of a table, by default of the first one. -/
def aliasTable (b : Nat) (name table : Value) : Action Unit := do
  match table with
  | .null =>
    let s ← statementsOf b
    if !s.hasTables then throw (.validation .noTable)
    setAlias b name (← ofResult s.tables.front)
  | table => setAlias b name (← addPrefix b table false)

/-- The first table, unless it is a raw fragment. -/
def tableName (s : Statements) : Result Value := do
  if !s.hasTables then return .null
  let table ← s.tables.front
  return if table.isRaw then .null else table

/-- The alias of the first table. -/
def aliasName (s : Statements) : Result Value := do
  let table ← tableName s
  if table.isNull || !s.aliases.isTrue then return .null
  s.aliasOf table

end SqlBuilder.Builder
