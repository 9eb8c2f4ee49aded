import SqlBuilder.Builder.Conditions
import SqlBuilder.CompiledQuery.Interpolation

/-!
# Running queries

A compiled query becomes the last query of its connection, listeners are told of it before and
after, and in between it goes to the driver. The query is compiled before the first listener is
told, so nothing a listener does changes what is run.
-/

set_option autoImplicit false

namespace SqlBuilder.Builder

open SqlBuilder.Session SqlBuilder.Number

/-- The time a query took. A session has no clock, so none passes. -/
def elapsed : Value := .double (.finite false 0 Double.minExponent)

/-- Logs a query that was run, with its bindings as literals, if anything is logged at all. -/
def logExecuted (q : CompiledQuery) : Action Unit := do
  if (← get).logging then
    log .debug "fluentql.query.builder" ("Executed: " ++ (← ofResult q.interpolated).toText)

/-- Runs a query as an activity of a builder. The driver's part returns what the listeners are told
besides. -/
def run {α : Type} (b : Nat) (activity : Activity) (q : CompiledQuery)
    (act : Driver.Action (α × List (Value × Value))) : Action α := do
  let c ← connectionOf b
  updateConnection c fun conn => { conn with lastQuery := some q }
  announce b activity.before q []
  let (result, arguments) ← onDriver c act
  logExecuted q
  announce b activity.after q ((Event.executionTime, elapsed) :: arguments)
  pure result

/-- Runs a query as an activity of a builder; listeners are told nothing besides. -/
def runPlain {α : Type} (b : Nat) (activity : Activity) (q : CompiledQuery)
    (act : Value → Bindings → Driver.Action α) : Action α :=
  run b activity q do pure (← act q.sql q.bindings, [])

/-- Compiles a builder's select and runs it. -/
def runSelect {α : Type} (b : Nat) (activity : Activity)
    (act : Value → Bindings → Driver.Action α) : Action α := do
  runPlain b activity (← compileSelect b) act

/-- Runs a statement given as SQL. -/
def runText (b : Nat) (sql bindings : Value) : Action Unit := do
  let values ← ofResult bindings.toItems
  let a ← adapterOf b
  let q : CompiledQuery := { sql, bindings := .positional values, adapter := some a }
  let _ ← runPlain b .query q Driver.execute

/-- A statement with its bindings as literals, for display. -/
def displayed (b : Nat) (sql bindings : Value) : Action String := do
  let _ ← connectionOf b
  let values ← ofResult (do (← bindings.toItems).mapM Placeholder.check)
  ofResult (Placeholder.prepare sql values)

end SqlBuilder.Builder
