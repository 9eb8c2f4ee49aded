import SqlBuilder.Builder.Operand

/-!
# Transactions

`transaction` applies a callback to a builder of its own while a transaction is open. Only the call
that opened the transaction ends it: with a commit if the callback came to its end, with a rollback
if it failed. A failure of the callback or of the commit becomes a transaction fault with that
failure as its cause.
-/

set_option autoImplicit false

namespace SqlBuilder.Builder

open SqlBuilder.Session

/-- Rolls back after a fault. A failure that the driver reports is kept with what the message adds
for it; any other is passed on. -/
def rollbackAfter (c : Nat) : Action (String × Option Fault) := do
  match ← outcomeOf (onDriver c Driver.rollback) with
  | .ok _ => pure ("", none)
  | .error (.driver message sql) =>
    let f := Fault.driver message sql
    log .error "fluentql.query.builder" ("Rollback failed: " ++ f.asText)
    pure (" (rollback failed: " ++ f.asText ++ ")", some f)
  | .error f => throw f

/-- Gives a transaction up: what this call has `opened` is rolled back. Faults are errors that have
a text. What stops a program without being an error, such as an interrupt or the request to exit, is
no fault: it passes without a rollback. The text of the cause is made before anything is rolled
back, so an error that cannot be shown would leave the transaction open. -/
def abandon {α : Type} (c : Nat) (opened : Bool) (cause : Fault) : Action α := do
  let (note, rollback) ←
    if opened && (← inTransaction c) then rollbackAfter c else pure ("", none)
  throw (.transaction (some cause) note (← Session.connection c).lastQuery rollback)

/-- Opens a transaction unless one is open; whether it did. -/
def openTransaction (c : Nat) : Action Bool := do
  if ← inTransaction c then pure false
  else do
    onDriver c Driver.begin
    pure true

/-- Commits what this call has `opened`, unless it is over already. -/
def closeTransaction (c : Nat) (opened : Bool) : Action Unit := do
  if opened && (← inTransaction c) then onDriver c Driver.commit

/-- Runs a body in a transaction of a connection. -/
def within {α : Type} (c : Nat) (body : Action α) : Action α := do
  match ← outcomeOf (openTransaction c) with
  | .error cause => abandon c false cause
  | .ok opened =>
    match ← outcomeOf (do let a ← body; closeTransaction c opened; pure a) with
    | .error cause => abandon c opened cause
    | .ok a => pure a

/-- Applies a callback in a transaction; the builder it was applied to and its result. A builder of
a transaction is that builder itself, any other gets one with a copy of its statements. -/
def transaction {α : Type} (b : Nat) (callback : Nat → Action α) : Action (Nat × α) := do
  match (← builder b).kind with
  | .transaction => pure (b, ← callback b)
  | .query | .criteria | .join => do
    let c ← connectionOf b
    let t ← newBuilder c .transaction (← ofResult (← statementsOf b).copied)
    pure (t, ← within c (callback t))

/-- Ends the transaction of a builder early. -/
def finish (b : Nat) (act : Driver.Action Unit) : Action Unit := do
  let c ← connectionOf b
  match ← outcomeOf (onDriver c act) with
  | .ok _ => pure ()
  | .error (.driver message sql) =>
    throw (.transaction (some (.driver message sql)) "" (← Session.connection c).lastQuery none)
  | .error f => throw f

end SqlBuilder.Builder
