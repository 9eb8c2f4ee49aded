import SqlBuilder.Adapter.Statement
import SqlBuilder.Driver
import SqlBuilder.Program.Answer
import SqlBuilder.Program.Step
import SqlBuilder.Registry
import SqlBuilder.Settings
import SqlBuilder.Statements.Members
import SqlBuilder.Value.Order

/-!
# Sessions

A session holds the connections, the builders and the statements they work on, and everything that
can be observed of them. Builders are known by their numbers. Several builders may work on the same
statements, so statements are kept apart from builders. A builder may also work on the statements of
a member of a union; `Session.settled` shows what it does there to all who have that member.

An `Action` is a computation on a session that may fail; what it did before failing stays done. It
also knows how to run the program of a listener (`Reaction`), because listeners may run queries and
thereby call listeners again.
-/

set_option autoImplicit false

namespace SqlBuilder

/-- A driver with everything a builder needs to use it. -/
structure Connection where
  driver : Driver
  scenario : Scenario
  settings : Settings
  adapter : Adapter
  hooks : Hooks := {}
  /-- What goes in front of table names, or null. -/
  tablePrefix : Value := .null
  lastQuery : Option CompiledQuery := none

/-- A builder: the connection it uses, unless it is closed, and the statements it works on. Repeated
clauses replace earlier ones if `overwrite` counts as true. -/
structure Builder where
  connection : Option Nat
  record : Nat
  overwrite : Value := .bool false
  kind : BuilderKind := .query
  deriving Repr

/-- Connections, builders and statements by number, and what has been observed. -/
structure Session where
  connections : Array Connection := #[]
  builders : Array Builder := #[]
  records : Array Statements := #[]
  /-- The records of builders that work on members of unions, by the identities of these. -/
  members : List (List Nat × Nat) := []
  /-- The first connection of the program. -/
  first : Option Nat := none
  second : Option Nat := none
  /-- The connection to use where none is named. -/
  standing : Option Nat := none
  /-- The objects made so far, by which they are told apart. -/
  objects : Nat := 0
  /-- The builders kept under names; one may be kept where there is none. -/
  kept : List (String × Option Nat) := []
  /-- The functions that have been introduced, by their names. -/
  functions : List (Value × Function) := []
  /-- The answers so far of the program that is running. -/
  answers : List Answer := []
  /-- What happened since the last answer. -/
  journal : List Entry := []
  /-- Builders are compiled in the answers. -/
  tracing : Bool := true
  /-- Logged messages appear in the answers. -/
  logging : Bool := false

namespace Session

/-- How the program of a listener is run, on the builder of the event if it has one. -/
abbrev Reaction := List Step → Option Nat → ExceptT Fault (StateM Session) Unit

/-- A computation on a session. -/
abbrev Action := ReaderT Reaction (ExceptT Fault (StateM Session))

/-! ## Basics -/

/-- A result as an action. -/
def ofResult {α : Type} : Result α → Action α
  | .ok a => pure a
  | .error f => throw f

/-- The outcome of an action, faults included. -/
def outcomeOf {α : Type} (act : Action α) : Action (Except Fault α) := do
  try pure (.ok (← act)) catch f => pure (.error f)

/-- What is there, or the fault that nothing is. -/
def present {α : Type} (a? : Option α) : Action α :=
  match a? with
  | some a => pure a
  | none => throw (.misuse .missingAttribute)

/-- A number that no object has yet. -/
def newObject : Action Nat := do
  modify fun s => { s with objects := s.objects + 1 }
  pure (← get).objects

/-- Writes an entry into the journal. -/
def note (e : Entry) : Action Unit :=
  modify fun s => { s with journal := s.journal ++ [e] }

/-- Logs a message. -/
def log (level : LogLevel) (logger message : String) : Action Unit :=
  note (.logged level logger message)

/-! ## Connections -/

/-- A connection by its number. -/
def connection (c : Nat) : Action Connection := do present ((← get).connections[c]?)

/-- Changes a connection. -/
def updateConnection (c : Nat) (f : Connection → Connection) : Action Unit :=
  modify fun s => { s with connections := s.connections.modify c f }

/-- The number of the first connection. -/
def firstConnection : Action Nat := do present (← get).first

/-- The number of the standing connection. -/
def standingConnection : Action Nat := do
  match (← get).standing with
  | some c => pure c
  | none => throw (.configuration .noConnection)

/-- Runs an action of a connection's driver, which writes the journal of the session. -/
def onDriver {α : Type} (c : Nat) (act : Driver.Action α) : Action α := do
  let { driver, .. } ← connection c
  let (outcome, channel) := act.run.run { driver, journal := (← get).journal }
  modify fun s => { s with journal := channel.journal }
  updateConnection c fun conn => { conn with driver := channel.driver }
  ofResult outcome

/-- A transaction is open on a connection. -/
def inTransaction (c : Nat) : Action Bool := do
  pure (← connection c).driver.inTransaction

/-! ## Builders -/

/-- A builder by its number. -/
def builder (b : Nat) : Action Builder := do present ((← get).builders[b]?)

/-- Changes a builder. -/
def updateBuilder (b : Nat) (f : Builder → Builder) : Action Unit :=
  modify fun s => { s with builders := s.builders.modify b f }

/-- The number of a builder's connection; a closed builder has none. -/
def connectionOf (b : Nat) : Action Nat := do
  match (← builder b).connection with
  | some c => pure c
  | none => throw (.configuration .noConnection)

/-- The adapter of a builder. -/
def adapterOf (b : Nat) : Action Adapter := do
  pure (← connection (← connectionOf b)).adapter

/-- The statements of a builder. -/
def statementsOf (b : Nat) : Action Statements := do
  let { record, .. } ← builder b
  present ((← get).records[record]?)

/-- Changes the statements of a builder. -/
def edit (b : Nat) (f : Statements → Statements) : Action Unit := do
  let { record, .. } ← builder b
  modify fun s => { s with records := s.records.modify record f }

/-- Changes the statements of a builder, unless that fails. -/
def change (b : Nat) (f : Statements → Result Statements) : Action Unit := do
  let s ← ofResult (f (← statementsOf b))
  edit b fun _ => s

/-- Changes the statements of a builder, unless that takes a comparison that is invalid. -/
def tryEdit (b : Nat) (f : Statements → Option Statements) : Action Unit :=
  change b fun s =>
    match f s with
    | some s => .ok s
    | none => misuse .invalidOperation

/-- Repeated clauses of a builder replace earlier ones. -/
def overwrites (b : Nat) : Action Bool := do pure (← builder b).overwrite.isTrue

/-- New statements; their number. -/
def newRecord (st : Statements) : Action Nat := do
  let s ← get
  set { s with records := s.records.push st }
  pure s.records.size

/-- A new builder with statements of its own; its number. -/
def newBuilder (c : Nat) (kind : BuilderKind) (st : Statements) : Action Nat := do
  let record ← newRecord st
  let s ← get
  set { s with builders := s.builders.push { connection := some c, record, kind } }
  pure s.builders.size

/-- Makes a builder work on other statements. -/
def setRecord (b record : Nat) : Action Unit :=
  updateBuilder b fun builder => { builder with record }

/-! ## Members of unions -/

/-- The record that a builder works on. -/
def recordOf (s : Session) (b? : Option Nat) : Option Nat :=
  b?.bind fun b => s.builders[b]?.map Builder.record

/-- New members in the statements of the record are told apart. Whoever has the record as a member
has it as it is now. -/
def settled (s : Session) (record : Nat) : Session :=
  match s.records[record]? with
  | none => s
  | some st =>
    let st := st.toldApart [s.objects + 1]
    let identities := (s.members.filter (·.2 == record)).map (·.1)
    { s with
      records := (s.records.map (·.mirrored identities st)).setIfInBounds record st
      objects := s.objects + 1 }

@[simp]
theorem settled_connections (s : Session) (record : Nat) :
    (s.settled record).connections = s.connections := by
  unfold settled
  split <;> rfl

/-- Settles the statements that a builder works on, if there is one. -/
def settle (record : Option Nat) : Action Unit :=
  modify fun s => record.elim s s.settled

/-- The record of a member of a union, which it gets if it has none yet. -/
def memberRecord (e : UnionEntry) : Action Nat := do
  match (← get).members.lookup e.identity with
  | some record => pure record
  | none =>
    let record ← newRecord e.statements
    modify fun s => { s with members := (e.identity, record) :: s.members }
    pure record

/-! ## Compiling -/

/-- The statements of a builder as an operation. -/
def compileAs (b : Nat) (op : Result Operation) (payload : List Value) :
    Action CompiledQuery := do
  let adapter ← adapterOf b
  let op ← ofResult op
  let q ← ofResult (adapter.compile op (← statementsOf b) payload)
  log .debug "fluentql.compile.base"
    ("Compiled " ++ op.name ++ " for " ++ adapter.dialect.name ++ ": " ++ q.sql.toText)
  pure q

/-- A builder's statements as a select. -/
def compileSelect (b : Nat) : Action CompiledQuery := compileAs b (.ok .select) []

/-! ## Events -/

/-- Something listeners are told of. What is given as its arguments should be a map. -/
structure Event where
  name : Value
  query : Option CompiledQuery := none
  builder : Option Nat := none
  arguments : Value := .map []

namespace Event

/-- The argument with the time a query took. -/
def executionTime : Value := .text "execution_time"

/-- The argument with the identifier of an inserted row. -/
def insertId : Value := .text "insert_id"

/-- The arguments by their names. -/
def entries (ev : Event) : Result (List (Value × Value)) :=
  match ev.arguments.entries? with
  | some entries => .ok entries
  | none => misuse .missingAttribute

/-- What a listener is told of an event. -/
def notice (ev : Event) (listener : Value) (onFirst : Option Bool) : Result Notice := do
  let entries ← ev.entries
  let arguments ← Value.sorted (entries.map Prod.fst)
  pure {
    listener
    event := ev.name.toText
    query := ev.query
    insertId := (Value.lookup entries insertId).getD .null
    timed := !((Value.lookup entries executionTime).getD .null).isNull
    arguments
    onFirst }

end Event

/-- The function of a name, with the name in the form it was first given. -/
def introduced? (known : List (Value × Function)) (name : Value) :
    Result (Option (Value × Function)) :=
  if name.isKey then .ok (known.find? fun (first, _) => first.same name) else misuse .wrongType

/-- Introduces a function under a name, made by `make`, unless there is one of that name, whatever
it is; the name in the form it was first given. -/
def introduce (name : Value) (make : Action Function) : Action Value := do
  match ← ofResult (introduced? (← get).functions name) with
  | some (first, _) => pure first
  | none =>
    let f ← make
    modify fun s => { s with functions := s.functions ++ [(name, f)] }
    pure name

/-- The name of a function that has been introduced, in the form it was first given. -/
def introducedName (name : Value) : Action Value := do
  match ← ofResult (introduced? (← get).functions name) with
  | some (first, _) => pure first
  | none => throw (.misuse .missingKey)

/-- What a listener does when it is told of an event. -/
def react (ev : Event) : Behaviour → Action Unit
  | .observe => pure ()
  | .raise message => throw (.raised message)
  | .remove event name => do
    let c ← firstConnection
    let name ← introducedName name
    let hooks ← ofResult ((← connection c).hooks.removeListener event name)
    updateConnection c fun conn => { conn with hooks }
  | .apply steps => fun reaction => reaction steps ev.builder

/-- Tells a function of an event, on the connection whose hooks it listens to. -/
def tell (ev : Event) (name : Value) : Action Unit := do
  match (Value.lookup (← get).functions name).getD (.listener .observe) with
  | .filter rule => ofResult rule.tell
  | .listener behaviour =>
    let onFirst ← match ev.builder with
      | none => pure none
      | some b => do
        let c ← connectionOf b
        pure (some ((← get).first == some c))
    note (.notified (← ofResult (ev.notice name onFirst)))
    react ev behaviour

/-- Tells everyone who listens to an event when it happens, in order of registration. -/
def fire (c : Nat) (ev : Event) : Action Unit := do
  let listeners ← ofResult ((← connection c).hooks.listeners ev.name)
  log .debug "fluentql.events"
    ("Firing " ++ ev.name.toText ++ " to " ++ listeners.length.repr ++ " listener(s)")
  listeners.forM (tell ev)

/-- Tells the listeners of a builder's connection, if there are any. -/
def announce (b : Nat) (event : String) (q : CompiledQuery) (arguments : List (Value × Value)) :
    Action Unit := do
  let c ← connectionOf b
  if ← ofResult ((← connection c).hooks.hasListener (.text event)) then
    fire c { name := .text event, query := some q, builder := some b, arguments := .map arguments }

/-! ## Filters -/

/-- A value passed through the filters of a name. -/
def applyFilters (c : Nat) (name v : Value) : Action Value := do
  let names ← ofResult ((← connection c).hooks.filtersOf name)
  let known := (← get).functions
  let functions := names.filterMap (Value.lookup known)
  ofResult (functions.foldlM (fun v f => f.apply v) v)

/-- What goes in front of a builder's table names: the prefix of its connection, filtered. -/
def tablePrefixOf (b : Nat) : Action Value := do
  let c ← connectionOf b
  let { tablePrefix, .. } ← connection c
  if tablePrefix.isTrue then applyFilters c (.text prefixFilter) tablePrefix else pure .null

end Session

end SqlBuilder
