import SqlBuilder.Builder.Tables
import SqlBuilder.Dialect.Clause
import SqlBuilder.Identifier
import SqlBuilder.Value.Conversion

/-!
# Conditions

The conditions of a builder. A builder of a group or a join collects them for that group or join,
any other builder for its `WHERE` clause. A callback as key makes a group of what it adds to a fresh
builder; a builder as value becomes a subquery.
-/

set_option autoImplicit false

namespace SqlBuilder.Builder

open SqlBuilder.Session

/-! ## Raw fragments and subqueries -/

/-- A raw fragment from a text and its bindings. -/
def rawOf (sql : Value) (bindings : Value) : Value := .ofRaw sql.toText bindings

/-- A raw fragment from a text and what follows it: a single list gives its items. -/
def rawSpread (sql : Value) (bindings : List Value) : Value :=
  .raw sql.toText (Placeholder.spread bindings)

/-- The select of a builder in parentheses, with an alias if there is one. -/
def subQuery (b : Nat) (name : Value) : Action Value := do
  let q ← compileSelect b
  let sql := "(" ++ q.sql.toText ++ ")"
  pure (.raw (if name.isTrue then sql ++ " AS " ++ name.toText else sql) q.rawBindings)

/-! ## Adding conditions -/

/-- The list the conditions of a kind of builder go to. -/
def conditionList : BuilderKind → ConditionList
  | .query | .transaction => .wheres
  | .criteria | .join => .criteria

/-- Adds a condition. -/
def addCondition (b : Nat) (list : ConditionList) (c : Condition) : Action Unit := do
  let overwrite ← overwrites b
  tryEdit b (·.addCondition? list overwrite c)

/-- The conditions a callback adds to a fresh builder of a kind. -/
def collected (b : Nat) (kind : BuilderKind) (callback : Nat → Action Unit) :
    Action (List Condition) := do
  let g ← newBuilder (← connectionOf b) kind .empty
  callback g
  pure ((← statementsOf g).criteria.getD [])

/-- A condition from its parts. -/
def condition (b : Nat) (key : Operand) (operator value joiner : Value) : Action Condition := do
  let key ← match key, operator with
    | .callback _ f, .null => do pure (.group (← collected b .criteria f))
    | key, _ => addPrefix b key.plain true
  let value ← match value with
    | .builder id _ => subQuery id .null
    | v => pure v
  pure (.plain key operator value joiner)

/-- Adds a condition from its parts to the list of the builder. -/
def addWhere (b : Nat) (key : Operand) (operator value : Value) (joiner : Joiner) :
    Action Unit := do
  let c ← condition b key operator value (.text joiner.words)
  addCondition b (conditionList (← builder b).kind) c

/-- Adds a raw condition. -/
def addRaw (b : Nat) (sql : String) (bindings : List Value) : Action Unit :=
  addWhere b (.value (.raw sql bindings)) .null .null .and

/-! ## Comparisons -/

/-- A value to compare with: a truth value counts as a number. -/
def comparand : Value → Value
  | .bool b => .int (if b then 1 else 0)
  | v => v

/-- The operator and the value of a comparison: a value alone is compared for equality. -/
def operands (operator value : Option Value) : Value × Value :=
  match operator, value with
  | none, _ => (.null, .null)
  | some v, none => (.text "=", comparand v)
  | some operator, some v => (operator, comparand v)

/-- Adds a comparison, a group, or a condition that stands alone. -/
def compare (b : Nat) (joiner : Joiner) (key : Operand) (operator value : Option Value) :
    Action Unit :=
  let (operator, value) := operands operator value
  addWhere b key operator value joiner

/-- An operator, negated or not. -/
def negatable (negated : Bool) (operator : String) : Value :=
  .text (if negated then "NOT " ++ operator else operator)

/-- Adds a comparison with the values of a list, a subquery or a raw fragment. -/
def among (b : Nat) (negated : Bool) (joiner : Joiner) (key : Operand) (values : Value) :
    Action Unit := do
  let values ← match values with
    | .builder _ _ | .raw _ _ => pure values
    | v => do pure (.list (← ofResult v.toItems))
  addWhere b key (negatable negated "IN") values joiner

/-- Adds a comparison with two values. -/
def between (b : Nat) (negated : Bool) (joiner : Joiner) (key : Operand) (least most : Value) :
    Action Unit :=
  addWhere b key (negatable negated "BETWEEN") (.list [least, most]) joiner

/-- Adds a comparison with two dates. -/
def dateBetween (b : Nat) (negated : Bool) (key : Operand) (least most : Value) :
    Action Unit := do
  let cast := (← adapterOf b).dialect.castDate "?"
  addWhere b key (negatable negated "BETWEEN") (.raw (cast ++ " AND " ++ cast) [least, most]) .and

/-- Adds a test for null. -/
def isNull (b : Nat) (negated : Bool) (joiner : Joiner) (key : Operand) : Action Unit :=
  addWhere b key (.text (if negated then "IS NOT" else "IS")) (.raw "NULL" []) joiner

/-- Adds a comparison with a pattern. -/
def like (b : Nat) (negated : Bool) (key : Operand) (pattern : Value) : Action Unit :=
  addWhere b key (negatable negated "LIKE") pattern .and

/-- Adds a test that the query a callback makes has rows. -/
def whereExists (b : Nat) (callback : Operand) : Action Unit := do
  let target ← newQuery b
  callback.apply target
  let q ← compileSelect target
  addRaw b ("EXISTS (" ++ q.sql.toText ++ ")") q.rawBindings

/-- Adds a comparison of a part of a date or time. -/
def whereDatePart (b : Nat) (part : String) (column operator : Value) (value : Option Value) :
    Action Unit := do
  let (operator, value) : Value × Value := match value with
    | none => (.text "=", operator)
    | some v => (operator, v)
  let a ← adapterOf b
  addRaw b (a.dialect.datePart part (a.wrap column) ++ " " ++ operator.toText ++ " ?") [value]

/-! ## Comparing columns -/

/-- A comparison of columns that is asked for, or a request that has not the right number of parts.
-/
inductive ColumnRequest where
  | comparison (first operator second : Value)
  | malformed

/-- The comparison of a column with further parts. -/
def columnRequest (first : Value) (rest : List Value) : ColumnRequest :=
  match rest with
  | [second] => .comparison first (.text "=") second
  | [operator, second] => .comparison first operator second
  | _ => .malformed

mutual

/-- What is asked for by a first part and further parts. A list as first part holds a request in
each of its items. -/
def columnRequests (first : Value) (rest : List Value) : List ColumnRequest :=
  match first with
  | .list rows | .tuple rows => if rest.length ≤ 2 then rowRequests rows else [.malformed]
  | first => [columnRequest first rest]

/-- What is asked for by the items of a list. -/
def rowRequests : List Value → List ColumnRequest
  | [] => []
  | row :: rows => rowRequest row ++ rowRequests rows

/-- What is asked for by an item of a list: anything that can be looped over gives its elements. -/
def rowRequest : Value → List ColumnRequest
  | .list (first :: rest) | .tuple (first :: rest) => columnRequests first rest
  | .list [] | .tuple [] => [.malformed]
  | .map ((first, _) :: entries) => columnRequests first (entries.map Prod.fst)
  | row =>
    match row.elements? with
    | some (first :: rest) => [columnRequest first rest]
    | _ => [.malformed]

end

/-- Adds what is asked for. -/
def addRequest (b : Nat) : ColumnRequest → Action Unit
  | .comparison first operator second => do
    let a ← adapterOf b
    addRaw b (a.wrap first ++ " " ++ operator.toText ++ " " ++ a.wrap second) []
  | .malformed => throw (.misuse .wrongType)

/-- Adds comparisons of columns, up to the first that is malformed. -/
def whereColumn (b : Nat) (first : Value) (rest : List Value) : Action Unit :=
  (columnRequests first rest).forM (addRequest b)

/-! ## Groups -/

/-- Adds a condition on groups. -/
def having (b : Nat) (key : Operand) (operator value : Option Value) (joiner : Value) :
    Action Unit := do
  let (operator, value) := operands operator value
  addCondition b .havings (← condition b key operator value joiner)

end SqlBuilder.Builder
