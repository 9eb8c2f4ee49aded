import SqlBuilder.Client
import SqlBuilder.Value.Conversion

/-!
# Scenarios

A scripted back end: which statements fail, what the others return, and whether transactions can be
ended. Each thing a scenario says is a `Provision` with a value, and it may be said anew while the
scenario is in use. `Scenario.client` is the client library that behaves as the scenario says.
-/

set_option autoImplicit false

namespace SqlBuilder

/-- The kinds of drivers. -/
inductive DriverKind where
  /-- Records what it is asked to do. -/
  | recorder
  /-- Over a client library with cursors and an error type of its own. -/
  | cursor
  /-- Over a client library with cursors that declares nothing about itself. -/
  | bareCursor
  /-- Over an engine. -/
  | engine
  deriving Repr, DecidableEq

/-- A scripted back end. -/
structure Scenario where
  kind : DriverKind := .recorder
  tablePrefix : Value := .text ""
  /-- The placeholder style, where it is not left to the client library. -/
  style : Option Value := none
  /-- Statements with this text fail, unless it is empty. -/
  failOn : String := ""
  failBegin : Bool := false
  failCommit : Bool := false
  failRollback : Bool := false
  /-- Failures are of a kind the driver does not know. -/
  foreign : Bool := false
  /-- What a recorder returns for a statement. -/
  affected : Value := .int 1
  /-- What a recorder returns for a query. -/
  rows : List Row := []
  rowCount : Value := .int 1
  lastId : Option Value := none
  columns : Option (List Value) := none
  data : List (List Value) := []
  deriving Repr

/-- What a scenario can say something about. -/
inductive Provision where
  | kind (k : DriverKind)
  | tablePrefix
  | style
  | failOn
  | failBegin
  | failCommit
  | failRollback
  /-- The kind of failures: the driver does not know those of the kind `other`. -/
  | failKind
  | affected
  | rows
  | rowCount
  | lastId
  | columns
  | data
  /-- Something that nothing depends on. -/
  | ignored
  deriving Repr, DecidableEq

namespace Scenario

/-! ## Setting up -/

/-- A row from a list of pairs. -/
def readRow (v : Value) : Result Row := do
  Reply.namedRow (← (← v.toItems).mapM Value.toPair)

/-- The scenario with one thing said anew. -/
def provide (s : Scenario) (what : Provision) (v : Value) : Result Scenario :=
  match what with
  | .kind kind => .ok { s with kind }
  | .tablePrefix => .ok { s with tablePrefix := v }
  | .style => .ok { s with style := some v }
  | .failOn => .ok { s with failOn := v.text?.getD "" }
  | .failBegin => .ok { s with failBegin := v.isTrue }
  | .failCommit => .ok { s with failCommit := v.isTrue }
  | .failRollback => .ok { s with failRollback := v.isTrue }
  | .failKind => .ok { s with foreign := v.text? == some "other" }
  | .affected => .ok { s with affected := v }
  | .rows => do pure { s with rows := ← (← v.toItems).mapM readRow }
  | .rowCount => .ok { s with rowCount := v }
  | .ignored => .ok s
  | .lastId => .ok { s with lastId := some v }
  | .columns => .ok { s with columns := v.elements? }
  | .data => do pure { s with data := ← (← v.toItems).mapM Value.toItems }

/-- The scenario that says some things and is plain besides. -/
def ofProvisions (provisions : List (Provision × Value)) : Result Scenario :=
  provisions.foldlM (fun s (what, v) => s.provide what v) {}

/-! ## Behaviour -/

/-- The scenario makes a statement fail. Only what can contain a text can be looked at. -/
def fails (s : Scenario) (sql : Value) : Result Bool :=
  if s.failOn = "" then .ok false else sql.contains s.failOn

/-- The message of a statement that fails. -/
def failureMessage : String := "forced failure"

/-- The kind of error the client library of the scenario reports. -/
def failureKind (s : Scenario) : ClientKind :=
  if s.foreign then .foreign
  else match s.kind with
    | .engine => .engine
    | .recorder | .cursor | .bareCursor => .library

/-- How a call ends that fails with a message when `failing` holds. -/
def failIf (s : Scenario) (failing : Bool) (message : String) : Except Failure Unit :=
  if failing then .error ⟨s.failureKind, message⟩ else .ok ()

/-- Why a statement cannot be looked at for a text. -/
def unreadableMessage (sql : Value) : String :=
  match sql with
  | .bytes _ => "a bytes-like object is required, not 'str'"
  | sql => "argument of type '" ++ sql.typeName ++ "' is not iterable"

/-- How a statement ends. -/
def reply (s : Scenario) (sql : Value) : Except Failure Reply :=
  match s.fails sql with
  | .ok true => .error ⟨s.failureKind, failureMessage⟩
  | .ok false =>
    .ok { rowCount := s.rowCount, lastId := s.lastId, columns := s.columns, rows := s.data }
  | .error _ => .error ⟨.misuse, unreadableMessage sql⟩

/-- The client library that behaves as the scenario says. -/
def client (s : Scenario) : Client where
  openCursor _ := .ok ()
  run _ sql _ := s.reply sql
  fetch _ := .ok ()
  start _ := .ok ()
  commit _ := s.failIf s.failCommit "commit failed"
  rollback _ := s.failIf s.failRollback "rollback failed"

end Scenario

end SqlBuilder
