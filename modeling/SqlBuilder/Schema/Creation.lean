import SqlBuilder.Schema.Table
import SqlBuilder.Session

/-!
# Creating tables

Tables are created and looked for through the driver of a connection. The statement that creates a
table is followed by those that create its indexes, and then by the question whether it is there.
-/

set_option autoImplicit false

namespace SqlBuilder.Schema

open SqlBuilder.Session

/-- A table of the name is there. -/
def exists? (c : Nat) (name : Value) : Action Bool := do
  let sql := (← connection c).adapter.dialect.tableExistsQuery
  let row? ← onDriver c (Driver.fetchRow (.text sql) (.positional [name]))
  pure row?.isSome

/-- The name of a table to be created, with the driver's prefix if that is wanted. -/
def fullName (c : Nat) (name : Value) (usePrefix : Bool) : Action Value := do
  if usePrefix then ofResult ((← connection c).driver.tablePrefix.plus name) else pure name

/-- Creates a table of the lines that are given; whether it is there then. -/
def create (c : Nat) (name lines : Value) (ifNotExists : Bool) : Action Bool := do
  if !lines.isTrue then throw (.validation (.noColumns name))
  let d := (← connection c).adapter.dialect
  let parts ← ofResult (do tableParts d name (← lines.toItems) ifNotExists)
  let statement ← ofResult (createStatement d name ifNotExists parts)
  (statement :: parts.statements).forM fun sql => do
    log .info "fluentql.query.table" ("Creating table " ++ name.toText ++ ": " ++ sql)
    let _ ← onDriver c (Driver.execute (.text sql) (.positional []))
  exists? c name

end SqlBuilder.Schema
