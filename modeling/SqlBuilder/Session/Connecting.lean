import SqlBuilder.Session
import SqlBuilder.Text.Quoted

/-!
# Connecting

A connection is made of a driver and settings. Its table prefix is off, adopted from the driver, or
given, and then the driver takes it over.
-/

set_option autoImplicit false

namespace SqlBuilder.Session

/-- The prefix of a driver, or null if it does not count as true. -/
def adoptedPrefix (d : Driver) : Value :=
  if d.tablePrefix.isTrue then d.tablePrefix else .null

/-- Takes the prefix of a connection's driver for its tables. -/
def adoptPrefix (c : Nat) : Action Unit := do
  let p := adoptedPrefix (← connection c).driver
  updateConnection c fun conn => { conn with tablePrefix := p }
  log .debug "fluentql.connection" ("Table prefix set to " ++ p.display)

/-- Gives the driver of a connection a prefix. -/
def setDriverPrefix (c : Nat) (p : Value) : Action Unit :=
  updateConnection c fun conn => { conn with driver := { conn.driver with tablePrefix := p } }

/-- Sets the prefix for the tables of a connection. -/
def setTablePrefix (c : Nat) (choice : PrefixChoice) : Action Unit := do
  match choice with
  | .off => updateConnection c fun conn => { conn with tablePrefix := .null }
  | .adopted => adoptPrefix c
  | .given p =>
    setDriverPrefix c (.text p)
    adoptPrefix c

/-- What a value says about the prefix: `false` turns it off, a text gives it. -/
def prefixChoice (v : Value) : PrefixChoice :=
  match v with
  | .bool false => .off
  | .text s => .given s
  | _ => .adopted

/-- A new connection; its number. -/
def connect (settings : Settings) (scenario : Scenario) : Action Nat := do
  let adapter ← ofResult
    (Registry.standard.create (.text settings.dialect) settings.quoteIdentifiers)
  let s ← get
  let c := s.connections.size
  let conn : Connection :=
    { driver := Driver.ofScenario scenario, scenario, settings, adapter }
  set { s with connections := s.connections.push conn }
  setTablePrefix c settings.tablePrefix
  pure c

/-- Changes what the scenario of a connection says; its driver stays of the kind it is. -/
def configure (c : Nat) (what : Provision) (v : Value) : Action Unit := do
  let conn ← connection c
  let scenario ← ofResult (conn.scenario.provide what v)
  let scenario := { scenario with kind := conn.scenario.kind }
  updateConnection c fun conn =>
    { conn with scenario, driver := { conn.driver with backend := Driver.backendOf scenario } }

end SqlBuilder.Session
