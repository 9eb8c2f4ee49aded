import SqlBuilder.Journal
import SqlBuilder.Placeholder
import SqlBuilder.Scenario

/-!
# Drivers

A `Driver` runs statements on a back end. It writes placeholders in the style of the back end,
turns the errors it knows into driver faults, and commits every statement at once unless a
transaction is open.

* A *recorder* writes down what it is asked to do and answers from a scenario.
* A *cursor* driver runs each statement through a cursor of a client library; a bare one takes every
  error for an error of the library.
* An *engine* driver runs statements on a connection that opens transactions by itself.

An `Action` is a computation on a channel: the driver with the journal it writes. Driver and journal
survive a fault.
-/

set_option autoImplicit false

namespace SqlBuilder

/-- What a driver runs statements on. -/
inductive Backend where
  | recorder (scenario : Scenario)
  | cursors (bare : Bool) (client : Client)
  | engine (client : Client)

/-- A driver and its state. -/
structure Driver where
  backend : Backend
  style : Value
  tablePrefix : Value := .text ""
  /-- A transaction is open. -/
  inTransaction : Bool := false
  /-- The connection of an engine has begun a transaction. -/
  engineOpen : Bool := false
  /-- The calls of the client library made so far. -/
  history : History := []
  /-- The statements a recorder has run. -/
  recorded : Int := 0
  lastInsertId : Value := .null
  lastError : String := ""

/-- A driver and the journal it writes. -/
structure Channel where
  driver : Driver
  journal : List Entry := []

namespace Driver

/-- A computation of a driver. -/
abbrev Action := ExceptT Fault (StateM Channel)

/-! ## Set-up -/

/-- The back end of a scenario. -/
def backendOf (s : Scenario) : Backend :=
  match s.kind with
  | .recorder => .recorder s
  | .cursor => .cursors false s.client
  | .bareCursor => .cursors true s.client
  | .engine => .engine s.client

/-- The style of a scenario: its own, unless the client library decides. -/
def styleOf (s : Scenario) : Value :=
  let own := s.style.getD .null
  match s.kind with
  | .recorder => s.style.getD (.text "qmark")
  | .cursor => if own.isTrue then own else .text "pyformat"
  | .bareCursor => if own.isTrue then own else .text "qmark"
  | .engine => .text "named"

/-- The driver of a scenario. -/
def ofScenario (s : Scenario) : Driver :=
  { backend := backendOf s, style := styleOf s, tablePrefix := s.tablePrefix }

/-! ## Steps -/

/-- A result as an action. -/
def ofResult {α : Type} : Result α → Action α
  | .ok a => pure a
  | .error f => throw f

/-- Writes an entry into the journal. -/
def note (e : Entry) : Action Unit :=
  modify fun ch => { ch with journal := ch.journal ++ [e] }

/-- Changes the driver. -/
def update (f : Driver → Driver) : Action Unit :=
  modify fun ch => { ch with driver := f ch.driver }

/-- The driver as it is. -/
def current : Action Driver := do pure (← get).driver

/-- Makes a call of the client library and remembers it. -/
def call {α : Type} (what : ClientCall) (f : History → Except Failure α) :
    Action (Except Failure α) := do
  let outcome := f (← current).history
  update fun d => { d with history := (what, outcome.isOk) :: d.history }
  pure outcome

/-- The name under which a driver logs. -/
def loggerName : Backend → String
  | .engine _ => "fluentql.drivers.sqlalchemy"
  | .recorder _ | .cursors _ _ => "fluentql.drivers.base"

/-- Logs a message of the driver. -/
def log (level : LogLevel) (message : String) : Action Unit := do
  note (.logged level (loggerName (← current).backend) message)

/-- The failures a driver takes for failures of its back end. -/
def recognizes (b : Backend) (kind : ClientKind) : Bool :=
  match b with
  | .recorder _ => false
  | .cursors bare _ => bare || kind == .library
  | .engine _ => kind == .engine

/-- What is done to the text around the placeholders. -/
def escapeOf : Backend → String → String
  | .engine _ => Placeholder.escapeColons
  | .recorder _ | .cursors _ _ => id

/-- A query in the style of the driver. -/
def restyle (sql : Value) (bindings : Bindings) : Action (Value × Bindings) := do
  let d ← current
  ofResult (Placeholder.restyle d.style (escapeOf d.backend) sql bindings)

/-! ## The client library -/

/-- Ends the transaction of the client library. -/
def ending (entry : Entry) (what : ClientCall) (f : History → Except Failure Unit) :
    Action (Except Failure Unit) := do
  note entry
  let outcome ← call what f
  if outcome.isOk then update fun d => { d with engineOpen := false }
  pure outcome

/-- Commits what the client library has pending. -/
def commitClient (c : Client) : Action (Except Failure Unit) := ending .committed .commit c.commit

/-- Rolls back what the client library has pending. -/
def rollbackClient (c : Client) : Action (Except Failure Unit) :=
  ending .rolledBack .rollback c.rollback

/-- Passes a failure on as it is. -/
def passing {α : Type} : Except Failure α → Action α
  | .ok a => pure a
  | .error f => throw f.fault

/-- Turns a failure the driver knows into a driver fault for a statement. -/
def reporting {α : Type} (sql : String) (outcome : Except Failure α) : Action α := do
  match outcome with
  | .ok a => pure a
  | .error f =>
    if recognizes (← current).backend f.kind then throw (.driver f.message (.text sql))
    else throw f.fault

/-- Commits what the client library has pending, unless a transaction is open. -/
def autocommit (c : Client) : Action Unit := do
  if !(← current).inTransaction then passing (← commitClient c)

/-- A cursor has to be closed after use. -/
def hasCursor : Backend → Bool
  | .cursors _ _ => true
  | .recorder _ | .engine _ => false

/-- Deals with a failed statement: a known failure is remembered and logged, pending work is rolled
back unless a transaction is open, and a driver fault names the statement. -/
def failStatement {α : Type} (c : Client) (statement : Value) (f : Failure) : Action α := do
  let d ← current
  if recognizes d.backend f.kind then
    update fun d => { d with lastError := f.message }
    log .error ("Query failed: " ++ statement.toText ++ " (" ++ f.message ++ ")")
    if hasCursor d.backend then note .cursorClosed
    if !d.inTransaction then passing (← rollbackClient c)
    throw (.driver f.message statement)
  else throw f.fault

/-- Gets ready for a statement: a cursor is opened; an engine, which reads the statement itself and
takes nothing but texts, begins a transaction. -/
def prepareClient (c : Client) (statement : Value) : Action Unit := do
  if hasCursor (← current).backend then passing (← call .openCursor c.openCursor)
  else if statement.isText then update fun d => { d with engineOpen := true }
  else throw (.misuse .wrongType)

/-- Sends a statement through the client library. -/
def send (c : Client) (sql : Value) (bindings : Bindings) : Action Reply := do
  let (statement, params) ← restyle sql bindings
  prepareClient c statement
  note (.sent statement params)
  match ← call (.run statement params) fun past => c.run past statement params with
  | .ok reply =>
    update fun d => { d with lastError := "" }
    pure reply
  | .error f => failStatement c statement f

/-- Fails a recorder's statement if the scenario says so. -/
def failRecorded (s : Scenario) (sql : Value) : Action Unit := do
  if ← ofResult (s.fails sql) then throw (.driver Scenario.failureMessage sql)

/-- What a driver journals when it is done with a statement. -/
def release (b : Backend) : Action Unit :=
  match b with
  | .cursors _ _ => note .cursorClosed
  | .engine _ => note .resultClosed
  | .recorder _ => pure ()

/-! ## Statements -/

/-- Runs a statement; the number of rows it concerned. -/
def execute (sql : Value) (bindings : Bindings) : Action Value := do
  let b := (← current).backend
  match b with
  | .recorder s =>
    let (statement, params) ← restyle sql bindings
    note (.executed statement params)
    failRecorded s sql
    update fun d => { d with recorded := d.recorded + 1 }
    pure s.affected
  | .cursors _ c | .engine c =>
    let reply ← send c sql bindings
    update fun d => { d with lastInsertId := reply.lastId.getD .null }
    release b
    autocommit c
    ofResult reply.rowCount.atLeastZero

/-- The rows of a reply, fetched if there are any to fetch. A cursor is closed in any case. -/
def fetchRows (b : Backend) (c : Client) (reply : Reply) : Action (List Row) := do
  let outcome ← if reply.columns.isSome then call .fetch c.fetch else pure (.ok ())
  if hasCursor b then note .cursorClosed
  passing outcome
  ofResult reply.namedRows

/-- Runs a query; its rows. -/
def fetchAll (sql : Value) (bindings : Bindings) : Action (List Row) := do
  let b := (← current).backend
  match b with
  | .recorder s =>
    let (statement, params) ← restyle sql bindings
    note (.fetched statement params)
    failRecorded s sql
    pure s.rows
  | .cursors _ c | .engine c =>
    let reply ← send c sql bindings
    let rows ← fetchRows b c reply
    autocommit c
    pure rows

/-- The value in the first column of a row, if there is a column. -/
def firstValue (row : Row) : Value :=
  match row with
  | (_, v) :: _ => v
  | [] => .null

/-- Runs a query; its first row. -/
def fetchRow (sql : Value) (bindings : Bindings) : Action (Option Row) := do
  pure (← fetchAll sql bindings).head?

/-- Runs a query; the first value of its first row. -/
def fetchScalar (sql : Value) (bindings : Bindings) : Action Value := do
  pure (((← fetchRow sql bindings).map firstValue).getD .null)

/-- Runs a query; the first values of its rows. -/
def fetchColumn (sql : Value) (bindings : Bindings) : Action (List Value) := do
  pure ((← fetchAll sql bindings).map firstValue)

/-- The identifier of the row inserted last, if the back end reports one. -/
def insertId : Action Value := do
  let d ← current
  pure <| match d.backend with
    | .recorder _ => .int d.recorded
    | .cursors _ _ | .engine _ => d.lastInsertId

/-! ## Transactions -/

/-- Marks a transaction as open or not. -/
def setInTransaction (isOpen : Bool) : Action Unit :=
  update fun d => { d with inTransaction := isOpen }

/-- A recorder's step of a transaction, which the scenario may let fail. -/
def recordStep (entry : Entry) (failing : Bool) (name capitals : String) (isOpen : Bool) :
    Action Unit := do
  note entry
  if failing then throw (.driver (name ++ " failed") (.text capitals))
  setInTransaction isOpen

/-- Opens a transaction. What an engine has begun by itself is committed first. -/
def begin : Action Unit := do
  let d ← current
  match d.backend with
  | .recorder s => recordStep .began s.failBegin "begin" "BEGIN" true
  | .cursors _ _ =>
    log .debug "BEGIN"
    setInTransaction true
  | .engine c =>
    log .debug "BEGIN"
    if d.engineOpen then passing (← commitClient c)
    note .began
    update fun d => { d with engineOpen := true }
    passing (← call .start c.start)
    setInTransaction true

/-- Commits the open transaction. It is over even if the commit fails. -/
def commit : Action Unit := do
  match (← current).backend with
  | .recorder s => recordStep .committed s.failCommit "commit" "COMMIT" false
  | .cursors _ c | .engine c =>
    log .debug "COMMIT"
    let outcome ← commitClient c
    setInTransaction false
    reporting "COMMIT" outcome

/-- Rolls the open transaction back. It is over even if the rollback fails. -/
def rollback : Action Unit := do
  match (← current).backend with
  | .recorder s => recordStep .rolledBack s.failRollback "rollback" "ROLLBACK" false
  | .cursors _ c | .engine c =>
    log .warning "ROLLBACK"
    setInTransaction false
    reporting "ROLLBACK" (← rollbackClient c)

/-- Closes the connection to the back end. -/
def close : Action Unit := note .closed

end Driver

end SqlBuilder
