import SqlBuilder.Statements
import SqlBuilder.Value.Conversion

/-!
# Reading statements

Statements, conditions and their parts from objects with named fields. A field that is not given
keeps its default; a name that means nothing here is refused (`Statements.ofValue`,
`Condition.ofValue`).
-/

set_option autoImplicit false

namespace SqlBuilder

/-! ## Parts -/

/-- A condition with one of its fields. -/
def Condition.readField (c : Condition) (field : Value × Value) : Result Condition :=
  match field with
  | (.text "key", key) => .ok { c with key }
  | (.text "operator", operator) => .ok { c with operator }
  | (.text "value", value) => .ok { c with value }
  | (.text "joiner", joiner) => .ok { c with joiner }
  | (.text "condition", leading) => .ok { c with leading }
  | (.text "columns", columns) => do pure { c with columns := ← columns.toItems }
  | _ => misuse .wrongType

/-- The fields of an object. -/
def Value.toFields : Value → Result (List (Value × Value))
  | .record _ fields => .ok fields
  | _ => misuse .wrongType

/-- A condition, joined by `AND` unless it says otherwise. -/
def Condition.ofValue (v : Value) : Result Condition := do
  (← v.toFields).foldlM Condition.readField (.plain .null .null .null (.text "AND"))

/-- A join with one of its fields. -/
def JoinEntry.readField (e : JoinEntry) (field : Value × Value) : Result JoinEntry :=
  match field with
  | (.text "type", kind) => .ok { e with kind }
  | (.text "table", table) => .ok { e with table }
  | (.text "criteria", cs) => do
    pure { e with criteria := ← (← cs.toItems).mapM Condition.ofValue }
  | _ => misuse .wrongType

/-- A join. -/
def JoinEntry.ofValue (v : Value) : Result JoinEntry := do
  (← v.toFields).foldlM readField { kind := .text "", table := .null }

/-- An ordering with one of its fields. -/
def OrderEntry.readField (e : OrderEntry) (field : Value × Value) : Result OrderEntry :=
  match field with
  | (.text "field", field) => .ok { e with field }
  | (.text "direction", direction) => .ok { e with direction }
  | _ => misuse .wrongType

/-- An ordering. -/
def OrderEntry.ofValue (v : Value) : Result OrderEntry := do
  (← v.toFields).foldlM readField { field := .null }

namespace Statements

/-! ## Clauses -/

/-- Statements with a clause that is a value, whatever it is; none if the clause is a list. -/
def readValue? (s : Statements) (name : String) (v : Value) : Option Statements :=
  match name with
  | "selects" => some { s with selects := v }
  | "distincts" => some { s with distincts := v }
  | "tables" => some { s with tables := v }
  | "aliases" => some { s with aliases := v }
  | "group_bys" => some { s with groupBys := v }
  | "limit" => some { s with limit := v }
  | "offset" => some { s with offset := v }
  | "lock" => some { s with lock := v }
  | "on_duplicate" => some { s with onDuplicate := v }
  | _ => none

/-- Statements with a clause that is a list, unions aside. -/
def readList (s : Statements) (name : String) (items : List Value) : Result Statements :=
  match name with
  | "wheres" => do pure { s with wheres := some (← items.mapM Condition.ofValue) }
  | "havings" => do pure { s with havings := some (← items.mapM Condition.ofValue) }
  | "criteria" => do pure { s with criteria := some (← items.mapM Condition.ofValue) }
  | "joins" => do pure { s with joins := some (← items.mapM JoinEntry.ofValue) }
  | "order_bys" => do pure { s with orderBys := some (← items.mapM OrderEntry.ofValue) }
  | _ => misuse .wrongType

/-- Statements without a clause that is a list. -/
def readNothing (s : Statements) (name : String) : Result Statements :=
  match name with
  | "wheres" => .ok { s with wheres := none }
  | "havings" => .ok { s with havings := none }
  | "criteria" => .ok { s with criteria := none }
  | "joins" => .ok { s with joins := none }
  | "order_bys" => .ok { s with orderBys := none }
  | "unions" => .ok { s with unions := none }
  | _ => misuse .wrongType

mutual

/-- Statements from an object with their clauses. -/
def ofValue : Value → Result Statements
  | .record .statements fields => readClauses .empty fields
  | _ => misuse .wrongType

/-- Statements with the clauses of an object. -/
def readClauses (s : Statements) : List (Value × Value) → Result Statements
  | [] => .ok s
  | (name, v) :: fields => do
    match s.readValue? name.toText v with
    | some s => readClauses s fields
    | none => readClauses (← readClause s name.toText v) fields

/-- Statements with a clause that is a list. -/
def readClause (s : Statements) (name : String) : Value → Result Statements
  | .list items =>
    if name = "unions" then do pure { s with unions := some (← readUnions items) }
    else readList s name items
  | .null => readNothing s name
  | _ => misuse .wrongType

/-- The members of a union. -/
def readUnions : List Value → Result (List UnionEntry)
  | [] => .ok []
  | .record .union fields :: members => do
    let member ← readMember { statements := .empty } fields
    pure (member :: (← readUnions members))
  | _ => misuse .wrongType

/-- A member of a union with the fields of an object. No statements are empty ones. -/
def readMember (u : UnionEntry) : List (Value × Value) → Result UnionEntry
  | [] => .ok u
  | (.text "statements", .null) :: fields => readMember u fields
  | (name, v) :: fields => do
    if name.toText = "statements" then readMember { u with statements := ← ofValue v } fields
    else readMember { u with type := v } fields

end

end Statements

end SqlBuilder
