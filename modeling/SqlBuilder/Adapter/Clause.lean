import SqlBuilder.Adapter.Criteria
import SqlBuilder.Statements.Listing

/-!
# Clauses

The clauses of a statement, each compiled to a fragment: the list of columns, the tables with their
aliases, joins, conditions, grouping, order, limits and assignments.
-/

set_option autoImplicit false

namespace SqlBuilder.Adapter

open SqlBuilder.Text

/-! ## Columns -/

/-- A name as it is written, with the values of a raw fragment. -/
def nameFragment (a : Adapter) : Value → Fragment
  | .raw sql bindings => ⟨sql, bindings⟩
  | v => Fragment.ofText (a.wrap v)

/-- An expression in front of an alias. One with a closing parenthesis is no plain name and stays as
it is. -/
def aliasedHead (a : Adapter) : Value → Result Fragment
  | .raw sql bindings => .ok ⟨sql, bindings⟩
  | expression => do
    if ← expression.contains ")" then pure (Fragment.ofText expression.toText)
    else pure (Fragment.ofText (a.wrap expression))

/-- A selected expression. -/
def columnItem (a : Adapter) : Value → Result Fragment
  | .aliased expression name => do
    pure ((← a.aliasedHead expression) ++ Fragment.ofText (" AS " ++ a.wrap name))
  | expression => .ok (a.nameFragment expression)

/-- Selected expressions, separated by commas. -/
def columnList (a : Adapter) (items : List Value) : Result Fragment := do
  pure (Fragment.intercalate ", " (← items.mapM a.columnItem))

/-! ## Tables -/

/-- A table with its alias in small letters, and that alias or null. -/
def aliasedTable (a : Adapter) (s : Statements) (table : Value) : Result (String × Value) := do
  match ← s.aliasOf table with
  | .null => pure (a.wrap table, .null)
  | name =>
    let name ← name.lower
    pure (a.wrap table ++ " AS " ++ a.wrap name, name)

/-- A table to select from, and its alias. -/
def tableFragment (a : Adapter) (s : Statements) : Value → Result (Fragment × Value)
  | .raw sql bindings => .ok (⟨sql, bindings⟩, .null)
  | table => do
    let (sql, name) ← a.aliasedTable s table
    pure (Fragment.ofText sql, name)

/-- The tables to select from, and the alias of the last one. -/
def tableList (a : Adapter) (s : Statements) : Result (Fragment × Value) := do
  let tables ← (← s.sources).mapM (a.tableFragment s)
  let last := (tables.getLast?.map Prod.snd).getD .null
  pure (Fragment.intercalate "," (tables.map Prod.fst), last)

/-- The table a statement writes to: the last one. -/
def targetTable (s : Statements) (clause : String) : Result Value := do
  if !s.hasTables then throw (.compilation (.noTarget clause))
  match ← s.tables.back with
  | .raw sql _ => pure (.text sql)
  | table => pure table

/-! ## Joins -/

/-- The table of a join. -/
def joinTable (a : Adapter) : Value → Result Fragment
  | .tuple [main, name] => .ok (Fragment.ofText (a.wrap main ++ " AS " ++ a.wrap name))
  | .tuple _ => misuse .badValue
  | table => .ok (a.nameFragment table)

/-- The kind of a join in capitals. Octets that are not blank cannot be written. -/
def joinKind (kind : Value) : Result String := do
  match ← kind.upper with
  | .text s => pure s
  | .bytes octets => if octets.all Value.isBlankOctet then pure "" else misuse .wrongType
  | _ => misuse .missingAttribute

/-- A join. Right-hand sides of its conditions are names. -/
def joinClause (a : Adapter) (join : JoinEntry) : Result Fragment := do
  let table ← a.joinTable join.table
  let criteria ← if join.criteria.isEmpty then pure Fragment.empty
    else a.criteria { bindValues := false } join.criteria
  pure (Fragment.concatenate
    [Fragment.ofText (← joinKind join.kind), Fragment.ofText "JOIN", table, criteria])

/-- The joins, in order. -/
def joinList (a : Adapter) (s : Statements) : Result Fragment := do
  pure (Fragment.intercalate " " (← (s.joins.getD []).mapM a.joinClause))

/-! ## Conditions, grouping, order and limits -/

/-- A list of conditions after its keyword, or nothing. -/
def conditionClause (a : Adapter) (keyword : String) (qualifier : Value)
    (conditions : Option (List Condition)) : Result Fragment :=
  match conditions.getD [] with
  | [] => .ok Fragment.empty
  | conditions => do
    let criteria ← a.criteria { qualifier } conditions
    pure (Fragment.ofText (keyword ++ " ") ++ criteria)

/-- The grouping. -/
def groupClause (a : Adapter) (s : Statements) : Result Fragment := do
  match ← s.groupings with
  | [] => pure Fragment.empty
  | items => pure (Fragment.ofText "GROUP BY " ++ (← a.columnList items))

/-- The order. -/
def orderClause (a : Adapter) (s : Statements) : Fragment :=
  match s.orderBys.getD [] with
  | [] => Fragment.empty
  | entries =>
    Fragment.ofText "ORDER BY " ++ Fragment.intercalate ", " (entries.map fun entry =>
      a.nameFragment entry.field ++ Fragment.ofText (" " ++ entry.direction.toText))

/-- A keyword with a number, or nothing. -/
def countClause (keyword : String) (v : Value) : Result Fragment :=
  if v.isNull then .ok Fragment.empty
  else do pure (Fragment.ofText (keyword ++ " " ++ (← v.written)))

/-- The order with the limits after it. -/
def pagingClauses (a : Adapter) (s : Statements) : Result (List Fragment) := do
  pure [a.orderClause s, ← countClause "LIMIT" s.limit, ← countClause "OFFSET" s.offset]

/-- The locking clause. -/
def lockClause (s : Statements) : Fragment :=
  if s.lock.isTrue then Fragment.ofText ("FOR " ++ s.lock.toText) else Fragment.empty

/-! ## Assignments -/

/-- A value in an insert or an assignment: bound, or a raw fragment as it stands. -/
def dataValue : Value → Fragment
  | .raw sql bindings => ⟨sql, bindings⟩
  | v => Fragment.bound v.normalize

/-- The entries of a row of data. -/
def rowEntries : Value → Result (List (Value × Value))
  | .map entries => .ok entries
  | _ => misuse .missingAttribute

/-- Assignments of values to columns. -/
def assignments (a : Adapter) (row : List (Value × Value)) : Fragment :=
  Fragment.intercalate ", " (row.map fun (column, v) =>
    Fragment.ofText (a.wrap column ++ " = ") ++ dataValue v)

end SqlBuilder.Adapter
