import SqlBuilder.Adapter.Clause

/-!
# Statements as SQL

`Adapter.compile` writes the statements of a builder as one of the operations. The clauses are
compiled in the order in which they stand in the text, so the values are in the order of their
placeholders, and the first clause that cannot be written decides the fault.
-/

set_option autoImplicit false

namespace SqlBuilder.Adapter

/-! ## Selecting -/

/-- The selected expressions, or a star if there are none at all. -/
def selectItems (s : Statements) : Result (List Value) := do
  match ← s.selected with
  | [] => pure [.text "*"]
  | items => pure items

/-- A select without its unions. -/
def selectMember (a : Adapter) (s : Statements) : Result Fragment := do
  let columns ← a.columnList (← selectItems s)
  let (tables, qualifier) ← a.tableList s
  let joins ← a.joinList s
  let wheres ← a.conditionClause "WHERE" qualifier s.wheres
  let groups ← a.groupClause s
  let havings ← a.conditionClause "HAVING" qualifier s.havings
  let paging ← a.pagingClauses s
  pure (Fragment.concatenate ([
    Fragment.ofText (if s.isDistinct then "SELECT DISTINCT" else "SELECT"), columns,
    Fragment.ofText (if tables.sql = "" then "" else "FROM"), tables, joins, wheres, groups,
    havings] ++ paging ++ [lockClause s]))

/-- A select as a member of a union. -/
def asMember (a : Adapter) (s : Statements) (f : Fragment) : Fragment :=
  ⟨a.dialect.unionMember f.sql s, f.bindings⟩

mutual

/-- A select with its unions. -/
def select (a : Adapter) : Statements → Result Fragment
  | s@{ unions, .. } => do
    let member ← a.selectMember s
    let others ← furtherMembers a unions
    pure (if others.isEmpty then member
      else Fragment.intercalate " " (a.asMember s member :: others))

/-- The further members of a union, if there is a list of them. -/
def furtherMembers (a : Adapter) : Option (List UnionEntry) → Result (List Fragment)
  | none => pure []
  | some entries => unionList a entries

/-- Members of a union, each after its operator. -/
def unionList (a : Adapter) : List UnionEntry → Result (List Fragment)
  | [] => pure []
  | { statements, type, .. } :: entries => do
    let member ← select a statements
    let rest ← unionList a entries
    pure (Fragment.ofText (a.dialect.unionOperator type) :: a.asMember statements member :: rest)

end

/-! ## Writing -/

/-- The update of a row that is already there, if there is one. -/
def upsert (a : Adapter) (s : Statements) : Result Fragment :=
  if s.onDuplicate.isNull then .ok Fragment.empty
  else if !s.onDuplicate.isTrue then
    .error (.validation (.emptyData (.text Dialect.upsertClause)))
  else do
    let assigned := a.assignments (← rowEntries s.onDuplicate)
    pure ⟨← a.dialect.onDuplicate assigned.sql, assigned.bindings⟩

/-- An insert of a row. -/
def insert (a : Adapter) (op : Operation) (s : Statements) (data : Value) : Result Fragment := do
  let table ← targetTable s "INSERT"
  if !data.isTrue then throw (.validation (.emptyData (.text "INSERT")))
  let row ← rowEntries data
  let verb ← a.dialect.insertVerb op
  let columns := row.map fun (column, _) => Fragment.ofText (a.wrap column)
  let values := row.map fun (_, v) => dataValue v
  let update ← a.upsert s
  pure (Fragment.concatenate [
    Fragment.ofText (verb ++ " INTO"), Fragment.ofText (a.wrap table),
    (Fragment.intercalate ", " columns).parenthesized,
    Fragment.ofText "VALUES " ++ (Fragment.intercalate ", " values).parenthesized,
    update, Fragment.ofText (a.dialect.insertSuffix op)])

/-- An update of the rows that meet the conditions. -/
def update (a : Adapter) (s : Statements) (data : Value) : Result Fragment := do
  if !data.isTrue then throw (.validation (.emptyData (.text "UPDATE")))
  let table ← targetTable s "UPDATE"
  let (tableSql, qualifier) ← a.aliasedTable s table
  let joins ← a.joinList s
  let row ← rowEntries data
  let wheres ← a.conditionClause "WHERE" qualifier s.wheres
  let groups ← a.groupClause s
  let paging ← a.pagingClauses s
  pure (Fragment.concatenate ([
    Fragment.ofText "UPDATE", Fragment.ofText tableSql, joins,
    Fragment.ofText "SET " ++ a.assignments row, wheres, groups] ++ paging))

/-- The columns of a delete, if any are given. -/
def deleteColumns (a : Adapter) (columns : Value) : Result Fragment :=
  if !columns.isTrue then .ok Fragment.empty
  else match columns.elements? with
    | some items => a.columnList items
    | none => misuse .wrongType

/-- A delete of the rows that meet the conditions. -/
def delete (a : Adapter) (s : Statements) (columns : Value) : Result Fragment := do
  let table ← targetTable s "DELETE"
  let columns ← a.deleteColumns columns
  let joins ← a.joinList s
  let wheres ← a.conditionClause "WHERE" .null s.wheres
  let groups ← a.groupClause s
  let paging ← a.pagingClauses s
  pure (Fragment.concatenate ([
    Fragment.ofText "DELETE", columns, Fragment.ofText "FROM", Fragment.ofText (a.wrap table),
    joins, wheres, groups] ++ paging))

/-- The collected conditions alone. -/
def criteriaOnly (a : Adapter) (s : Statements) (bindValues : Bool) : Result Fragment :=
  match s.criteria.getD [] with
  | [] => .ok Fragment.empty
  | conditions => a.criteria { bindValues } conditions

/-! ## Compiling -/

/-- The statements as an operation. `payload` is what the operation takes besides: the row to
insert, the assignments of an update, the columns of a delete, or whether right-hand sides of bare
conditions are bound. -/
def fragment (a : Adapter) (op : Operation) (s : Statements) (payload : List Value) :
    Result Fragment :=
  match op, payload with
  | .select, [] => a.select s
  | .insert, [data] | .insertIgnore, [data] | .replace, [data] => a.insert op s data
  | .update, [data] => a.update s data
  | .delete, [] => a.delete s .null
  | .delete, [columns] => a.delete s columns
  | .criteria, [] => a.criteriaOnly s true
  | .criteria, [bindValues] => a.criteriaOnly s bindValues.isTrue
  | _, _ => misuse .wrongType

/-- The statements compiled as an operation. -/
def compile (a : Adapter) (op : Operation) (s : Statements) (payload : List Value) :
    Result CompiledQuery := do
  let f ← a.fragment op s payload
  pure { sql := .text f.sql, bindings := .positional f.bindings, adapter := some a }

end SqlBuilder.Adapter
