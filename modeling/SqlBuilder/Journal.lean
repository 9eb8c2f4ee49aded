import SqlBuilder.CompiledQuery

/-!
# Journal

What happens outside the builders is written into a journal, in order: what a driver sends to its
back end, what listeners are told, and what is logged. A `Notice` is what one listener was told of
one event.
-/

set_option autoImplicit false

namespace SqlBuilder

/-- How grave a logged message is. -/
inductive LogLevel where
  | debug
  | info
  | warning
  | error
  deriving Repr, DecidableEq

/-- What a listener is told. -/
structure Notice where
  listener : Value
  event : String
  query : Option CompiledQuery
  insertId : Value
  /-- An execution time is given. -/
  timed : Bool
  /-- The names of everything that is given, sorted. -/
  arguments : List Value
  /-- The builder works on the first connection; none if there is no builder. -/
  onFirst : Option Bool
  deriving Repr

/-- An entry of the journal. -/
inductive Entry where
  /-- A statement run by a recorder, in the form its placeholders were given. -/
  | executed (sql : Value) (bindings : Bindings)
  /-- A query run by a recorder. -/
  | fetched (sql : Value) (bindings : Bindings)
  /-- A statement or query sent to a client library. -/
  | sent (sql : Value) (bindings : Bindings)
  | began
  | committed
  | rolledBack
  | closed
  | cursorClosed
  | resultClosed
  | notified (notice : Notice)
  | logged (level : LogLevel) (logger message : String)
  deriving Repr

namespace LogLevel

/-- The name of a level. -/
def name : LogLevel → String
  | .debug => "DEBUG"
  | .info => "INFO"
  | .warning => "WARNING"
  | .error => "ERROR"

end LogLevel

namespace Entry

/-- The entry is a logged message. -/
def isLogged : Entry → Bool
  | .logged _ _ _ => true
  | _ => false

end Entry

end SqlBuilder
