import SqlBuilder.Program.Call
import SqlBuilder.Proofs.Session.Reading

/-!
# Calls on the builder of a join

A `JoinCall` is a call that the callback of a join makes on its builder, groups and subqueries
included. `performAll` makes the calls on a builder; `conditionsAll` is the list of conditions they
come to, given what the builder reads (`Context`).

* `asked`: the comparisons that a method of the `where` family asks for. A comparison has a value
  if the call is given one.
-/

set_option autoImplicit false

namespace SqlBuilder

open Builder Session

/-- What the calls on a builder depend on besides its statements. -/
structure Context where
  adapter : Adapter
  tablePrefix : Result Value
  subQuery : Nat → Result Value

/-- What a builder on a connection reads. -/
def Session.context (s : Session) (conn : Connection) : Context :=
  ⟨conn.adapter, s.prefixOf conn, s.subQueryOf⟩

/-- A comparison that a call asks for. -/
structure Comparison where
  key : Value
  operator : Value := .null
  value? : Option Value := none
  joiner : Joiner := .and

namespace Comparison

/-- What the condition has as its value. -/
def value (q : Comparison) : Value := q.value?.getD .null

/-- A comparison that is raw SQL. -/
def ofRaw (sql : String) (bindings : List Value) : Comparison := { key := .raw sql bindings }

end Comparison

/-- A method that adds conditions from values. Subqueries are made by a callback, and conditions on
groups go to a list of their own. -/
def ConditionMethod.isWhere : ConditionMethod → Bool
  | .rowsExist | .having | .orHaving | .havingRaw => false
  | _ => true

/-- The values of a list to compare with, or what stands for them. -/
def membersOf : Value → Result Value
  | .builder id kind => .ok (.builder id kind)
  | .raw sql bindings => .ok (.raw sql bindings)
  | v => do pure (.list (← v.toItems))

/-- The comparison of columns that is asked for. -/
def columnComparison (a : Adapter) : ColumnRequest → Result Comparison
  | .comparison first operator second =>
    .ok (.ofRaw (a.wrap first ++ " " ++ operator.toText ++ " " ++ a.wrap second) [])
  | .malformed => misuse .wrongType

/-- The comparison of a part of a date. -/
def datePartComparison (a : Adapter) (part : String) (column operator v : Value) : Comparison :=
  .ofRaw (a.dialect.datePart part (a.wrap column) ++ " " ++ operator.toText ++ " ?") [v]

/-- The comparison with two dates. -/
def dateRange (a : Adapter) (least most : Value) : Value :=
  .raw (a.dialect.castDate "?" ++ " AND " ++ a.dialect.castDate "?") [least, most]

/-- The comparisons that a method of the `where` family asks for with its arguments. A key that
stands alone and is not raw is compared with null. -/
def asked (a : Adapter) : ConditionMethod → List Value → List (Result Comparison)
  | .compare joiner, [key] =>
    [.ok { key, joiner, value? := if key.isRaw then none else some .null }]
  | .compare joiner, [key, v] => [.ok ⟨key, .text "=", some (comparand v), joiner⟩]
  | .compare joiner, [key, operator, v] => [.ok ⟨key, operator, some (comparand v), joiner⟩]
  | .raw, [sql] => [.ok { key := rawOf sql Call.noBindings }]
  | .raw, [sql, bindings] => [.ok { key := rawOf sql bindings }]
  | .among negated joiner, [key, values] =>
    [do pure ⟨key, negatable negated "IN", some (← membersOf values), joiner⟩]
  | .between negated joiner, [key, least, most] =>
    [.ok ⟨key, negatable negated "BETWEEN", some (.list [least, most]), joiner⟩]
  | .dateBetween negated, [key, least, most] =>
    [.ok ⟨key, negatable negated "BETWEEN", some (dateRange a least most), .and⟩]
  | .isNull negated joiner, [key] =>
    [.ok ⟨key, .text (if negated then "IS NOT" else "IS"), some (.raw "NULL" []), joiner⟩]
  | .like negated, [key, v] => [.ok ⟨key, negatable negated "LIKE", some v, .and⟩]
  | .startsWith, [key, v] =>
    [.ok ⟨key, negatable false "LIKE", some (Call.pattern false v), .and⟩]
  | .search, [key] => [.ok ⟨key, negatable false "LIKE", some (Call.pattern true (.text "")), .and⟩]
  | .search, [key, v] => [.ok ⟨key, negatable false "LIKE", some (Call.pattern true v), .and⟩]
  | .column, first :: rest => (columnRequests first rest).map (columnComparison a)
  | .datePart part, [column, v] => [.ok (datePartComparison a part column (.text "=") v)]
  | .datePart part, [column, operator, v] => [.ok (datePartComparison a part column operator v)]
  | _, _ => [misuse .wrongType]

/-- A call on the builder of a join or of a group. -/
inductive JoinCall where
  | on (key operator value joiner : Value)
  | orOn (key operator value : Value)
  | shared (columns : Value)
  | condition (m : ConditionMethod) (hwhere : m.isWhere = true) (args : List Value)
  /-- A callback that makes calls on the builder of a group. -/
  | group (joiner : Joiner) (calls : List JoinCall)
  /-- A callback that leaves a fresh builder with statements. -/
  | rowsExist (s : Statements)

namespace JoinCall

/-! ## Performing -/

/-- Calls a method of a builder. -/
def invoke (b : Nat) (m : BuilderMethod) (args : List Operand) : Action Unit := do
  Call.find (.builder m) (some b)
  let _ ← Call.perform (.builder m) (some b) args

mutual

/-- Makes a call on a builder. -/
def perform : JoinCall → Nat → Action Unit
  | .on key operator value joiner, b =>
    invoke b (.change .on) [.value key, .value operator, .value value, .value joiner]
  | .orOn key operator value, b =>
    invoke b (.change .orOn) [.value key, .value operator, .value value]
  | .shared columns, b => invoke b (.change .onShared) [.value columns]
  | .condition m _ args, b => invoke b (.condition m) (args.map .value)
  | .group joiner calls, b =>
    invoke b (.condition (.compare joiner)) [.callback 0 fun g => performAll calls g]
  | .rowsExist s, b => invoke b (.condition .rowsExist) [.callback 0 fun q => edit q fun _ => s]

/-- Makes calls on a builder, one after another. -/
def performAll : List JoinCall → Nat → Action Unit
  | [], _ => pure ()
  | call :: calls, b => do
    perform call b
    performAll calls b

end

end JoinCall

/-! ## What calls come to -/

namespace Context

variable (ctx : Context)

/-- A column reference with the prefix. -/
def named (v : Value) : Result Value := do prefixed (← ctx.tablePrefix) true v

/-- A value to compare with; a builder stands for its subquery. -/
def resolved : Value → Result Value
  | .builder id _ => ctx.subQuery id
  | v => .ok v

/-- The condition of a comparison. -/
def condition (q : Comparison) : Result Condition := do
  let key ← ctx.named q.key
  let value ← ctx.resolved q.value
  pure (.plain key q.operator value (.text q.joiner.words))

/-- The condition of a comparison of columns, which only the builder of a join has. -/
def on (kind : BuilderKind) (key operator value joiner : Value) : Result (List Condition) :=
  if kind = .join then do
    let key ← ctx.named key
    let value ← ctx.named value
    pure [{ Condition.plain key operator value joiner with leading := .text "ON" }]
  else misuse .missingAttribute

end Context

/-- The columns that both tables of a join have. -/
def sharedColumns : Value → Result (List Value)
  | .text s => .ok [.text s]
  | v => v.toItems

namespace JoinCall

mutual

/-- The conditions that a call on a builder of a kind comes to. -/
def conditions (ctx : Context) (kind : BuilderKind) : JoinCall → Result (List Condition)
  | .on key operator value joiner => ctx.on kind key operator value joiner
  | .orOn key operator value => ctx.on kind key operator value (.text "OR")
  | .shared columns =>
    if kind = .join then do
      let columns ← sharedColumns columns
      pure [{ Condition.plain .null .null .null (.text "AND USING") with columns }]
    else misuse .missingAttribute
  | .condition m _ args => (asked ctx.adapter m args).mapM fun q => do ctx.condition (← q)
  | .group joiner calls => do
    let inner ← conditionsAll ctx .criteria calls
    pure [.plain (.group inner) .null .null (.text joiner.words)]
  | .rowsExist s => do
    let q ← ctx.adapter.compile .select s []
    let c ← ctx.condition (.ofRaw ("EXISTS (" ++ q.sql.toText ++ ")") q.rawBindings)
    pure [c]

/-- The conditions that calls come to, one after another. -/
def conditionsAll (ctx : Context) (kind : BuilderKind) :
    List JoinCall → Result (List Condition)
  | [] => pure []
  | call :: calls => do
    let first ← conditions ctx kind call
    let rest ← conditionsAll ctx kind calls
    pure (first ++ rest)

end

end JoinCall

end SqlBuilder
