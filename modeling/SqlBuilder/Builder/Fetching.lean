import SqlBuilder.Builder.Clauses
import SqlBuilder.Builder.Columns
import SqlBuilder.Builder.Running

/-!
# Fetching

The operations that return rows, values or aggregates of a builder's select. Rows come in the shape
that is asked for, or in the one of the connection's settings.
-/

set_option autoImplicit false

namespace SqlBuilder.Builder

open SqlBuilder.Session SqlBuilder.Number

/-! ## Shapes -/

/-- The shape, if it is among the allowed ones; `shown` is what messages call it. -/
def checkShape (shape? : Option OutputShape) (shown : String) (allowed : List OutputShape) :
    Result OutputShape :=
  match shape?.filter allowed.contains with
  | some shape => .ok shape
  | none => .error (.validation (.invalidOutput shown (allowed.map OutputShape.name)))

/-- The shape in which rows are returned where none is asked for. -/
def defaultShape (settings : Settings) (allowed : List OutputShape) : Result OutputShape :=
  let shape := settings.defaultOutput
  checkShape (some shape) ("OutputType." ++ shape.name) allowed

/-- The shape that is asked for, or the default one. -/
def shapeOf (b : Nat) (output : Value) (allowed : List OutputShape) : Action OutputShape := do
  match output with
  | .null => do
    let conn ← Session.connection (← connectionOf b)
    ofResult (defaultShape conn.settings allowed)
  | output => ofResult (checkShape (OutputShape.ofValue? output) output.toText allowed)

/-- A row as an object; its columns must have names. -/
def asRecord (row : Row) : Result Value :=
  if row.all (·.1.isText) then .ok (.record .row row) else misuse .wrongType

/-- A row in a shape. -/
def shapedRow (shape : OutputShape) (row : Row) : Result Value :=
  match shape with
  | .namedArray => .ok (.map row)
  | .plainArray => .ok (.tuple (row.map Prod.snd))
  | .object | .keyedObject => asRecord row

/-- Rows as objects by the value of their first column; of rows with one value the first counts. -/
def keyedRows (rows : List Row) : Result (List (Value × Value)) :=
  rows.foldlM (fun keyed row => do
    let key := Driver.firstValue row
    let object ← asRecord row
    if !key.isKey then misuse .wrongType
    else match Value.lookup keyed key with
      | some _ => pure keyed
      | none => pure (keyed ++ [(key, object)])) []

/-- Rows in a shape. -/
def shapedRows (shape : OutputShape) (rows : List Row) : Result Value := do
  match shape with
  | .keyedObject => pure (.map (← keyedRows rows))
  | shape => pure (.list (← rows.mapM (shapedRow shape)))

/-! ## Rows -/

/-- All rows. -/
def get (b : Nat) (output : Value) : Action Value := do
  let shape ← shapeOf b output OutputShape.all
  ofResult (shapedRows shape (← runSelect b .select Driver.fetchAll))

/-- The shapes of a single row. -/
def rowShapes : List OutputShape := [.object, .namedArray, .plainArray]

/-- The first row, if there is one. -/
def row? (b : Nat) (output : Value) : Action (Option Value) := do
  let shape ← shapeOf b output rowShapes
  let row? ← runSelect b .selectRow Driver.fetchRow
  ofResult (row?.mapM (shapedRow shape))

/-- The first row, or null. -/
def row (b : Nat) (output : Value) : Action Value := do
  pure ((← row? b output).getD .null)

/-- The first row when ordered by a field from its greatest value down. -/
def last (b : Nat) (output field : Value) : Action Value := do
  orderBy b field (.text "DESC")
  row b output

/-- Adds the condition that a field has a value. -/
def whereEqual (b : Nat) (field : Operand) (v : Value) : Action Unit :=
  compare b .and field (some (.text "=")) (some v)

/-- The first row in which a field has a value. -/
def find (b : Nat) (field : Operand) (v : Value) : Action Value := do
  whereEqual b field v
  row b .null

/-- The rows in which a field has a value. -/
def findAll (b : Nat) (field : Operand) (v : Value) : Action Value := do
  whereEqual b field v
  get b .null

/-- There is a row. -/
def exists? (b : Nat) : Action Bool := do
  pure (← row? b .null).isSome

/-! ## Values -/

/-- The first value of the first row. -/
def scalar (b : Nat) : Action Value := runSelect b .selectValue Driver.fetchScalar

/-- Selects a column; its value in the first row. -/
def value (b : Nat) (column : Value) : Action Value := do
  select b [column]
  scalar b

/-- Selects a column; its values in all rows. -/
def pluck (b : Nat) (column : Value) : Action (List Value) := do
  select b [column]
  runSelect b .selectColumn Driver.fetchColumn

/-! ## Aggregates -/

/-- The names an aggregate can be taken of: selected names, then aliases. -/
def declaredColumns (items : List Value) : List Value :=
  items.filter Value.isText ++ items.filterMap fun
    | .aliased _ name => some name
    | _ => none

/-- The value equals one of the others; none if a comparison on the way there is invalid. -/
def isAmong? (v : Value) : List Value → Option Bool
  | [] => some false
  | w :: ws => do if ← Value.alike w v (w.equal? v) then some true else isAmong? v ws

/-- A column is among those that are selected, or everything is meant or selected. -/
def checkDeclared (s : Statements) (field : Value) : Result Unit := do
  match field, s.selects with
  | .text "*", _ | _, .null => pure ()
  | field, selects =>
    let declared := declaredColumns (← selects.toItems)
    match isAmong? field declared with
    | some true => pure ()
    | some false => throw (.validation (.columnNotFound field (.list declared)))
    | none => misuse .invalidOperation

/-- Some table is selected from. -/
def checkTables (s : Statements) : Result Unit :=
  if s.hasTables then .ok () else .error (.validation .noTable)

/-- An aggregate over a column of the builder's select; zero if there is no value. -/
def aggregate (b : Nat) (function : String) (field : Value) : Action Double := do
  let s ← statementsOf b
  ofResult (checkDeclared s field)
  ofResult (checkTables s)
  let outer ← newQuery b
  fromTables outer [← subQuery b (.text "count")]
  select outer [.raw (function ++ "(" ++ field.toText ++ ") AS field") []]
  match ← scalar outer with
  | .null => pure (Double.nearest false 0 1)
  | v => ofResult v.toDouble

/-- The number of rows with a value in a column. -/
def count (b : Nat) (field : Value) : Action Int := do
  ofResult (Value.double (← aggregate b "COUNT" field)).toWhole

end SqlBuilder.Builder
