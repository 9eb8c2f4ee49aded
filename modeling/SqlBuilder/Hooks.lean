import SqlBuilder.Value.Conversion

/-!
# Hooks

A connection calls listeners before and after each activity on its back end, and passes its table
prefix through filters. `Hooks` holds who is registered, by name: the same listener may be
registered several times and is then called as often. A name may be any value that can be a key of a
map, but only the known ones have anyone registered. A `FilterRule` says what a filter makes of a
value.
-/

set_option autoImplicit false

namespace SqlBuilder

/-- What a builder does on its back end. -/
inductive Activity where
  | select
  | selectRow
  | selectValue
  | selectColumn
  | insert
  | update
  | delete
  | query
  deriving Repr, DecidableEq

namespace Activity

/-- The name of an activity. -/
def name : Activity → String
  | .select => "select"
  | .selectRow => "select_row"
  | .selectValue => "select_value"
  | .selectColumn => "select_column"
  | .insert => "insert"
  | .update => "update"
  | .delete => "delete"
  | .query => "query"

/-- Every activity. -/
def all : List Activity :=
  [.select, .selectRow, .selectValue, .selectColumn, .insert, .update, .delete, .query]

/-- The event before an activity. -/
def before (a : Activity) : String := "fluentql.before_" ++ a.name

/-- The event after an activity. -/
def after (a : Activity) : String := "fluentql.after_" ++ a.name

end Activity

/-- The events listeners can be registered for, sorted. -/
def knownEvents : List String :=
  let events := Activity.all.map Activity.before ++ Activity.all.map Activity.after
  events.mergeSort fun a b => !(b < a)

/-- The filter for table prefixes. -/
def prefixFilter : String := "fluentql.add_table_prefix"

/-- The filters that are applied, sorted. -/
def knownFilters : List String := [prefixFilter]

/-- A table of those who are registered, by name and in order of registration. Anything that can be
a key of a map can be registered. -/
abbrev HookTable := List (String × List Value)

/-- Who is registered under which name. -/
structure Hooks where
  actions : HookTable := []
  filters : HookTable := []
  deriving Repr

namespace Hooks

/-- A name as a text; the empty text for anything else that can be a key of a map. -/
def keyName (name : Value) : Result String :=
  if name.isKey then .ok (name.text?.getD "") else misuse .wrongType

/-- Those registered under a name. -/
def registered (table : HookTable) (name : Value) : Result (List Value) := do
  pure ((table.lookup (← keyName name)).getD [])

/-- The table with one more under a name. -/
def enter (table : HookTable) (name : String) (id : Value) : HookTable :=
  match table with
  | [] => [(name, [id])]
  | (n, ids) :: rest =>
    if n == name then (n, ids ++ [id]) :: rest else (n, ids) :: enter rest name id

/-- The table without the first entry of one under a name. -/
def leave (table : HookTable) (name : String) (id : Value) : HookTable :=
  table.map fun (n, ids) => if n == name then (n, ids.eraseP (·.same id)) else (n, ids)

/-- Those who listen to an event. -/
def listeners (h : Hooks) (event : Value) : Result (List Value) := registered h.actions event

/-- The filters under a name. -/
def filtersOf (h : Hooks) (name : Value) : Result (List Value) := registered h.filters name

/-- Someone listens to the event. -/
def hasListener (h : Hooks) (event : Value) : Result Bool := do
  pure !(← h.listeners event).isEmpty

/-- One more listener to a known event. -/
def addListener (h : Hooks) (event id : Value) : Result Hooks := do
  let name ← keyName event
  if knownEvents.contains name then pure { h with actions := enter h.actions name id }
  else throw (.configuration (.unknownAction event.toText knownEvents))

/-- One listener less. -/
def removeListener (h : Hooks) (event id : Value) : Result Hooks := do
  pure { h with actions := leave h.actions (← keyName event) id }

/-- One more filter under a known name. -/
def addFilter (h : Hooks) (name id : Value) : Result Hooks := do
  let key ← keyName name
  if knownFilters.contains key then pure { h with filters := enter h.filters key id }
  else throw (.configuration (.unknownFilter name.toText knownFilters))

/-- One filter less. -/
def removeFilter (h : Hooks) (name id : Value) : Result Hooks := do
  pure { h with filters := leave h.filters (← keyName name) id }

end Hooks

/-- How a filter uses its operand. -/
inductive FilterKind where
  /-- In place of the value. -/
  | constant
  /-- After the value. -/
  | append
  /-- In front of the value. -/
  | prepend
  deriving Repr, DecidableEq

/-- What a filter makes of a value. -/
structure FilterRule where
  kind : FilterKind
  operand : Value
  deriving Repr

namespace FilterRule

/-- The filtered value. Only values of one kind go together. -/
def apply (rule : FilterRule) (v : Value) : Result Value :=
  match rule.kind with
  | .constant => .ok rule.operand
  | .append => v.plus rule.operand
  | .prepend => rule.operand.plus v

/-- The filter that leaves nothing. -/
def nothing : FilterRule := ⟨.constant, .null⟩

/-- What comes of telling a filter of an event, which goes together with no value. -/
def tell (rule : FilterRule) : Result Unit :=
  match rule.kind with
  | .constant => .ok ()
  | .append | .prepend => misuse .wrongType

end FilterRule

end SqlBuilder
