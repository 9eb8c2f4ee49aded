import SqlBuilder.Fault

/-!
# Clients

A driver reaches its back end through a client library. A `Client` says how each call of the library
ends, given the calls made before and how they ended (`History`). Any behaviour whatsoever is a
client, and a driver may be used with all of them.
-/

set_option autoImplicit false

namespace SqlBuilder

/-- How a call of the client library fails. -/
structure Failure where
  kind : ClientKind
  message : String
  deriving Repr, DecidableEq

namespace Failure

/-- A failure that the driver does not turn into one of its own. -/
def fault (f : Failure) : Fault :=
  match f.kind with
  | .misuse => .misuse .wrongType
  | kind => .client kind f.message

end Failure

/-- What a statement that ran gives. -/
structure Reply where
  /-- The number of rows it concerned, as far as the library knows it. -/
  rowCount : Value
  /-- The identifier of the inserted row, if the library has one. -/
  lastId : Option Value
  /-- The columns of the result, if there is one. -/
  columns : Option (List Value)
  rows : List (List Value)
  deriving Repr

/-- A call of the client library. -/
inductive ClientCall where
  | openCursor
  | run (sql : Value) (bindings : Bindings)
  | fetch
  | start
  | commit
  | rollback
  deriving Repr

/-- The calls made so far, the latest first, each with whether it succeeded. -/
abbrev History := List (ClientCall × Bool)

/-- How the calls of a client library end after the calls made before. -/
structure Client where
  openCursor : History → Except Failure Unit
  run : History → Value → Bindings → Except Failure Reply
  fetch : History → Except Failure Unit
  start : History → Except Failure Unit
  commit : History → Except Failure Unit
  rollback : History → Except Failure Unit

/-- A row of a result: columns and values, no column twice. -/
abbrev Row := List (Value × Value)

namespace Reply

/-- A row from the names of its columns and their values; of columns with one name the last counts.
-/
def namedRow (entries : List (Value × Value)) : Result Row :=
  if entries.all fun (name, _) => name.isKey then .ok (Value.ofPairs entries)
  else misuse .wrongType

/-- The rows of a reply by the names of their columns. -/
def namedRows (r : Reply) : Result (List Row) :=
  match r.columns with
  | none => .ok []
  | some columns => r.rows.mapM fun row => namedRow (columns.zip row)

end Reply

end SqlBuilder
