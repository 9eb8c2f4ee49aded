import SqlBuilder.Builder.Joins
import SqlBuilder.Builder.Writing
import SqlBuilder.Program.Arity
import SqlBuilder.Schema.Creation
import SqlBuilder.Session.Connecting

/-!
# Calls

What a method does with its evaluated arguments, and what it gives back (`Output`). An argument that
is left out takes its default value. A wrong number of arguments is a misuse like one that is of the
wrong type.
-/

set_option autoImplicit false

namespace SqlBuilder

/-- What a call gives back. -/
inductive Output where
  /-- A builder, or none where one is asked for that was not there to be kept. -/
  | builder (id : Option Nat)
  | value (v : Value)
  | query (q : Option CompiledQuery)
  | statements (s : Statements)
  | transaction (id : Nat)
  | caught (f : Fault)

namespace Call

open SqlBuilder.Session

/-! ## Arguments -/

/-- An argument that must be there. -/
def operand (args : List Operand) (i : Nat) : Action Operand :=
  match args[i]? with
  | some a => pure a
  | none => throw (.misuse .wrongType)

/-- An argument that must be there, as a value. -/
def value (args : List Operand) (i : Nat) : Action Value := do pure (← operand args i).plain

/-- An argument as a value, if it is there. -/
def value? (args : List Operand) (i : Nat) : Option Value := args[i]?.map Operand.plain

/-- An argument as a value, with a default. -/
def valueOr (args : List Operand) (i : Nat) (default : Value) : Value :=
  (value? args i).getD default

/-- No bindings. -/
def noBindings : Value := .tuple []

/-! ## Builders -/

/-- The kind of builders that have a method, where not all of them do. -/
def kindOf? : BuilderMethod → Option BuilderKind
  | .change .on | .change .orOn | .change .onShared => some .join
  | .result .commit | .result .rollback => some .transaction
  | _ => none

/-- Only a builder that has the method can be asked for it. -/
def require (b : Nat) (m : BuilderMethod) : Action Unit := do
  match kindOf? m with
  | some kind => if (← Session.builder b).kind != kind then throw (.misuse .missingAttribute)
  | none => pure ()

/-- Does something with a builder and gives the builder back. -/
def fluent (b : Nat) (act : Action Unit) : Action Output := do
  act
  pure (.builder (some b))

/-- A text with a percent sign after it, and one in front of it if it is `floating`. -/
def pattern (floating : Bool) (v : Value) : Value :=
  .text ((if floating then "%" else "") ++ v.toText ++ "%")

/-- Adds a condition. -/
def condition (b : Nat) (args : List Operand) : ConditionMethod → Action Unit
  | .compare joiner => do
    Builder.compare b joiner (← operand args 0) (value? args 1) (value? args 2)
  | .raw => do
    let raw := Builder.rawOf (← value args 0) (valueOr args 1 noBindings)
    Builder.addWhere b (.value raw) .null .null .and
  | .among negated joiner => do
    Builder.among b negated joiner (← operand args 0) (← value args 1)
  | .between negated joiner => do
    Builder.between b negated joiner (← operand args 0) (← value args 1) (← value args 2)
  | .dateBetween negated => do
    Builder.dateBetween b negated (← operand args 0) (← value args 1) (← value args 2)
  | .isNull negated joiner => do Builder.isNull b negated joiner (← operand args 0)
  | .like negated => do Builder.like b negated (← operand args 0) (← value args 1)
  | .startsWith => do
    Builder.like b false (← operand args 0) (pattern false (← value args 1))
  | .search => do
    Builder.like b false (← operand args 0) (pattern true (valueOr args 1 (.text "")))
  | .rowsExist => do Builder.whereExists b (← operand args 0)
  | .column => do
    Builder.whereColumn b (← value args 0) ((args.drop 1).map Operand.plain)
  | .datePart part => do
    Builder.whereDatePart b part (← value args 0) (← value args 1) (value? args 2)
  | .having => do
    Builder.having b (← operand args 0) (value? args 1) (value? args 2)
      (valueOr args 3 (.text "AND"))
  | .orHaving => do
    Builder.having b (← operand args 0) (value? args 1) (value? args 2) (.text "OR")
  | .havingRaw => do
    let raw := Builder.rawOf (← value args 0) (valueOr args 1 noBindings)
    Builder.having b (.value raw) none none (.text "AND")

/-- Changes a builder or makes it run something. -/
def change (b : Nat) (args : List Operand) : ChangeMethod → Action Unit
  | .setOverwrite => do
    let overwrite := valueOr args 0 (.bool true)
    updateBuilder b fun builder => { builder with overwrite }
  | .fromTables => do Builder.fromTables b (args.map Operand.plain)
  | .aliasTable => do Builder.aliasTable b (← value args 0) (valueOr args 1 .null)
  | .select => do Builder.select b (args.map Operand.plain)
  | .selectRaw => do
    Builder.select b [Builder.rawOf (← value args 0) (valueOr args 1 noBindings)]
  | .selectDistinct => do Builder.selectDistinct b (args.map Operand.plain)
  | .join => do
    Builder.join b (valueOr args 4 (.text "")) (← value args 0) ((args[1]?).getD (.value .null))
      (valueOr args 2 .null) (valueOr args 3 .null)
  | .joinAs kind => do
    Builder.join b (.text kind) (← value args 0) (← operand args 1)
      (valueOr args 2 .null) (valueOr args 3 .null)
  | .crossJoin => do
    Builder.join b (.text "cross") (← value args 0) (.value .null) .null .null
  | .joinUsing => do
    Builder.joinUsing b (valueOr args 2 (.text "")) (← value args 0) (← value args 1)
  | .on => do
    Builder.on b (← value args 0) (valueOr args 1 .null) (valueOr args 2 .null)
      (valueOr args 3 (.text "AND"))
  | .orOn => do
    Builder.on b (← value args 0) (valueOr args 1 .null) (valueOr args 2 .null) (.text "OR")
  | .onShared => do Builder.onShared b (← value args 0)
  | .orderBy => do Builder.orderBy b (← value args 0) (valueOr args 1 (.text "ASC"))
  | .orderByDesc => do Builder.orderBy b (← value args 0) (.text "DESC")
  | .groupBy => do Builder.groupBy b (args.map Operand.plain)
  | .limit => do Builder.limit b (← value args 0)
  | .offset => do Builder.offset b (← value args 0)
  | .lock => do Builder.lock b (← value args 0)
  | .onDuplicate => do Builder.onDuplicate b (← value args 0)
  | .union => do Builder.union b (← value args 0) (valueOr args 1 (.text ""))
  | .run => do Builder.runText b (← value args 0) (valueOr args 1 noBindings)

/-- Gives a value back. -/
def result (b : Nat) (args : List Operand) : ResultMethod → Action Value
  | .isOverwrite => do pure (← Session.builder b).overwrite
  | .close => do
    updateBuilder b fun builder => { builder with connection := none }
    pure .null
  | .display => do
    pure (.text (← Builder.displayed b (← value args 0) (valueOr args 1 noBindings)))
  | .raw => do
    pure (Builder.rawSpread (← value args 0) ((args.drop 1).map Operand.plain))
  | .subQuery => do
    Builder.subQuery (← Operand.builderOf (← value args 0)) (valueOr args 1 .null)
  | .addPrefix => do
    Builder.addPrefix b (← value args 0) (valueOr args 1 (.bool true)).isTrue
  | .tableName => do ofResult (Builder.tableName (← statementsOf b))
  | .aliasName => do ofResult (Builder.aliasName (← statementsOf b))
  | .columns => do pure (.map (← ofResult (Builder.outputColumns (← statementsOf b))))
  | .get => Builder.get b (valueOr args 0 .null)
  | .row => Builder.row b (valueOr args 0 .null)
  | .last => Builder.last b (valueOr args 0 .null) (valueOr args 1 (.text "ID"))
  | .find => do
    Builder.find b ((args[1]?).getD (.value (.text "id"))) (← value args 0)
  | .findAll => do Builder.findAll b (← operand args 0) (← value args 1)
  | .rowExists negated => do pure (.bool ((← Builder.exists? b) != negated))
  | .value => do Builder.value b (← value args 0)
  | .pluck => do pure (.list (← Builder.pluck b (← value args 0)))
  | .count => do pure (.int (← Builder.count b (valueOr args 0 (.text "*"))))
  | .aggregate a => do pure (.double (← Builder.aggregate b a.function (← value args 0)))
  | .insert op => do Builder.insert op (← value args 0) b
  | .update => do Builder.update b (← value args 0)
  | .delete => do Builder.delete b (valueOr args 0 .null)
  | .updateOrInsert => do Builder.updateOrInsert b (← value args 0)
  | .commit => do
    Builder.finish b Driver.commit
    pure .null
  | .rollback => do
    Builder.finish b Driver.rollback
    pure .null

/-- Gives back another builder, a query or statements. -/
def product (b : Nat) (args : List Operand) : ProductMethod → Action Output
  | .newQuery => do pure (.builder (some (← Builder.newQuery b)))
  | .table => do pure (.builder (some (← Builder.table b (args.map Operand.plain))))
  | .statements => do pure (.statements (← statementsOf b))
  | .lastQuery => do
    pure (.query (← Session.connection (← connectionOf b)).lastQuery)
  | .compile => do
    let op := match value? args 0 with
      | some name => Operation.parse name
      | none => .ok .select
    pure (.query (some (← compileAs b op ((args.drop 1).map Operand.plain))))

/-- Calls a method of a builder. -/
def builder (m : BuilderMethod) (b : Nat) (args : List Operand) : Action Output :=
  match m with
  | .condition m => fluent b (condition b args m)
  | .change m => fluent b (change b args m)
  | .result m => do pure (.value (← result b args m))
  | .product m => product b args m

/-! ## Drivers -/

/-- Rows as maps. -/
def rowsValue (rows : List Row) : Value := .list (rows.map .map)

/-- Runs a statement or query of the arguments on a driver. -/
def onDriverWith {α : Type} (c : Nat) (args : List Operand)
    (act : Value → Bindings → Driver.Action α) : Action α := do
  let sql ← value args 0
  let style := (← Session.connection c).driver.style
  let bindings ← ofResult (Placeholder.given style (valueOr args 1 noBindings))
  onDriver c (act sql bindings)

/-- Calls a method of a connection's driver. -/
def driver (m : DriverMethod) (c : Nat) (args : List Operand) : Action Value := do
  match m with
  | .execute => onDriverWith c args Driver.execute
  | .fetchAll => pure (rowsValue (← onDriverWith c args Driver.fetchAll))
  | .fetchRow => pure (((← onDriverWith c args Driver.fetchRow).map .map).getD .null)
  | .fetchScalar => onDriverWith c args Driver.fetchScalar
  | .fetchColumn => pure (.list (← onDriverWith c args Driver.fetchColumn))
  | .lastInsertId => onDriver c Driver.insertId
  | .lastErrorMessage => pure (.text (← Session.connection c).driver.lastError)
  | .begin => onDriver c Driver.begin; pure .null
  | .commit => onDriver c Driver.commit; pure .null
  | .rollback => onDriver c Driver.rollback; pure .null
  | .inTransaction => pure (.bool (← inTransaction c))
  | .prepare =>
    let values := Placeholder.spread ((args.drop 1).map Operand.plain)
    pure (.text (← ofResult (Placeholder.prepare (← value args 0) values)))
  | .tablePrefix => pure (← Session.connection c).driver.tablePrefix
  | .setPrefix =>
    setDriverPrefix c (← value args 0)
    pure .null
  | .close => onDriver c Driver.close; pure .null
  | .handle =>
    match (← Session.connection c).driver.backend with
    | .recorder _ => throw (.misuse .missingAttribute)
    | .cursors _ _ | .engine _ => pure (.bool true)

/-! ## Connections -/

/-- Calls a method of a connection. -/
def connection (m : ConnectionMethod) (c : Nat) (args : List Operand) : Action Output := do
  match m with
  | .setPrefix =>
    setTablePrefix c (prefixChoice (valueOr args 0 (.bool true)))
    pure (.value (← Session.connection c).tablePrefix)
  | .tablePrefix => pure (.value (← Session.connection c).tablePrefix)
  | .lastQuery => pure (.query (← Session.connection c).lastQuery)
  | .close => onDriver c Driver.close; pure (.value .null)
  | .newBuilder => pure (.builder (some (← newBuilder c .query .empty)))

/-- Changes the hooks of a connection. -/
def updateHooks (c : Nat) (f : Hooks → Result Hooks) : Action Unit := do
  let hooks ← ofResult (f (← Session.connection c).hooks)
  updateConnection c fun conn => { conn with hooks }

/-- Calls a method of a connection's hooks. -/
def hooks (m : HooksMethod) (c : Nat) (args : List Operand) : Action Value := do
  let name := valueOr args 0 .null
  let id := valueOr args 1 .null
  match m with
  | .removeListener =>
    let id ← introduce id (pure (.listener .observe))
    updateHooks c (·.removeListener name id)
    pure .null
  | .hasListener =>
    pure (.bool (← ofResult ((← Session.connection c).hooks.hasListener name)))
  | .fire =>
    fire c { name, arguments := valueOr args 1 (.map []) }
    pure .null
  | .removeFilter =>
    let id ← introduce id (pure (.filter .nothing))
    updateHooks c (·.removeFilter name id)
    pure .null
  | .applyFilters => applyFilters c name (← value args 1)
  | .clear => updateHooks c (fun _ => .ok {}); pure .null

/-! ## Tables -/

/-- Calls a method of the tables of a connection. -/
def tables (m : TableMethod) (c : Nat) (args : List Operand) : Action Value := do
  match m with
  | .create ifNotExists =>
    let lines ← value args 1
    let name ← Schema.fullName c (← value args 0) (valueOr args 2 (.bool true)).isTrue
    pure (.bool (← Schema.create c name lines ifNotExists))
  | .exists => pure (.bool (← Schema.exists? c (← value args 0)))
  | .parts =>
    let d := (← Session.connection c).adapter.dialect
    let name ← value args 0
    let lines ← ofResult (← value args 1).toItems
    let parts ← ofResult
      (Schema.tableParts d name lines (valueOr args 2 (.bool false)).isTrue)
    pure (.tuple [.text (", ".intercalate parts.definitions),
      .list (parts.statements.map .text)])

/-! ## The standing connection -/

/-- Starts a query on the standing connection. -/
def standingBuilder : Action Nat := do
  newBuilder (← standingConnection) .query .empty

/-- Calls a method of the standing connection. -/
def standing (m : StandingMethod) (args : List Operand) : Action Output := do
  match m with
  | .table =>
    let tables ← ofResult (valueOr args 0 .null).toItems
    let c ← standingConnection
    setTablePrefix c (prefixChoice (valueOr args 1 (.bool false)))
    let b ← newBuilder c .query .empty
    fluent b (Builder.fromTables b tables)
  | .select =>
    let b ← standingBuilder
    fluent b (Builder.select b (args.map Operand.plain))
  | .raw =>
    pure (.value (Builder.rawSpread (← value args 0) ((args.drop 1).map Operand.plain)))
  | .run =>
    let b ← standingBuilder
    fluent b (Builder.runText b (← value args 0) (valueOr args 1 noBindings))
  | .schema m => do pure (.value (← tables m (← standingConnection) args))
  | .isFirst =>
    let c ← standingConnection
    pure (.value (.bool ((← get).first == some c)))
  | .choose =>
    let s ← get
    let chosen := match valueOr args 0 .null with
      | .int 0 => s.first
      | .int 1 => s.second
      | _ => none
    set { s with standing := chosen }
    pure (.value .null)
  | .disconnect =>
    match (← get).standing with
    | none => pure (.value .null)
    | some c =>
      onDriver c Driver.close
      modify fun s => { s with standing := none }
      pure (.value .null)

/-! ## All methods -/

/-- What has a method is there. This is found out before the arguments are evaluated. -/
def find (m : Method) (current : Option Nat) : Action Unit := do
  match m with
  | .builder m => require (← present current) m
  | .driver _ | .connection _ | .hooks _ | .tables _ => do let _ ← firstConnection
  | .standing _ => pure ()
  | .missing => throw (.misuse .missingAttribute)

/-- Calls a method, on the `current` builder if it is a builder's. -/
def perform (m : Method) (current : Option Nat) (args : List Operand) : Action Output := do
  if !m.arity.allows args.length then throw (.misuse .wrongType)
  match m with
  | .builder m => builder m (← present current) args
  | .driver m => pure (.value (← driver m (← firstConnection) args))
  | .connection m => connection m (← firstConnection) args
  | .hooks m => pure (.value (← hooks m (← firstConnection) args))
  | .tables m => pure (.value (← tables m (← firstConnection) args))
  | .standing m => standing m args
  | .missing => throw (.misuse .missingAttribute)

end Call

end SqlBuilder
