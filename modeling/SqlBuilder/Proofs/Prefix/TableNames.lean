import SqlBuilder.Program.Call
import SqlBuilder.Proofs.Session.Reading

/-!
# The name of a created table

Creating a table runs statements on the table with the driver's prefix in front, and looks for that
table then (`Schema.runIn_create`): the first statement creates it, and those behind it make indexes
on it (`Schema.concerns_creation`).
-/

set_option autoImplicit false

namespace SqlBuilder

open Session

namespace Schema

/-! ## Creating -/

/-- A statement that creates a table or an index on it. -/
inductive Concerns (d : Dialect) (table : String) : String → Prop
  | table (ifNotExists : Bool) (definitions : String) :
    Concerns d table ("CREATE TABLE " ++ guard ifNotExists ++ d.quoteIdentifier table ++
      " (" ++ definitions ++ ")")
  | index (ifNotExists : Bool) (name column : String) :
    Concerns d table ("CREATE INDEX " ++ guard ifNotExists ++ name ++ " ON " ++
      d.quoteIdentifier table ++ " (" ++ column ++ ")")

/-- The statements that create a table of the lines that are given. -/
def creation (d : Dialect) (name lines : Value) (ifNotExists : Bool) : Result (List String) := do
  if !lines.isTrue then throw (.validation (.noColumns name))
  let parts ← tableParts d name (← lines.toItems) ifNotExists
  pure ((← createStatement d name ifNotExists parts) :: parts.statements)

/-- Runs the statements that create a table, and looks for it then. -/
def carryOut (c : Nat) (name : Value) (statements : List String) : Action Bool := do
  statements.forM fun sql => do
    log .info "fluentql.query.table" ("Creating table " ++ name.toText ++ ": " ++ sql)
    let _ ← onDriver c (Driver.execute (.text sql) (.positional []))
  exists? c name

variable {d : Dialect} {table : String}

theorem concerns_index {ifNotExists : Bool} {column : Column} {sql : String}
    (h : indexStatement d (.text table) ifNotExists column = .ok sql) : Concerns d table sql := by
  cases h
  exact .index ifNotExists _ _

theorem concerns_parts {items : List Value} {ifNotExists : Bool} {parts : Parts}
    (h : tableParts d (.text table) items ifNotExists = .ok parts) :
    ∀ sql ∈ parts.statements, Concerns d table sql := by
  obtain ⟨lines, -, h⟩ := bind_ok h
  dsimp only at h
  split at h
  · cases h
    simp
  · obtain ⟨statements, hstatements, h⟩ := bind_ok h
    cases h
    intro sql hsql
    obtain ⟨column, -, hcolumn⟩ := (mapM_ok hstatements).2 sql hsql
    exact concerns_index hcolumn

/-- All that creating a table runs is about this table, and the first of it creates it. -/
theorem concerns_creation {lines : Value} {ifNotExists : Bool} {statements : List String}
    (h : creation d (.text table) lines ifNotExists = .ok statements) :
    (∃ definitions rest, statements = ("CREATE TABLE " ++ guard ifNotExists ++
      d.quoteIdentifier table ++ " (" ++ definitions ++ ")") :: rest) ∧
    ∀ sql ∈ statements, Concerns d table sql := by
  unfold creation at h
  split at h
  · cases h
  · obtain ⟨items, -, h⟩ := bind_ok h
    obtain ⟨parts, hparts, h⟩ := bind_ok h
    cases h
    refine ⟨⟨_, _, rfl⟩, fun sql hsql => ?_⟩
    rcases List.mem_cons.1 hsql with rfl | hsql
    · exact .table ifNotExists _
    · exact concerns_parts hparts sql hsql

theorem runIn_create {r : Reaction} {s : Session} {c : Nat} {conn : Connection}
    (hconn : s.connections[c]? = some conn) (name lines : Value) (ifNotExists : Bool) :
    runIn r (create c name lines ifNotExists) s =
      runIn r (ofResult (creation conn.adapter.dialect name lines ifNotExists) >>= carryOut c name)
        s := by
  unfold create creation
  split
  · rfl
  · dsimp only
    rw [runIn_bind_ok (runIn_connection hconn), runIn_bind, runIn_bind,
      runIn_ofResult, runIn_ofResult]
    cases lines.toItems with
    | error f => rfl
    | ok items =>
      dsimp only [bind, Except.bind]
      cases tableParts conn.adapter.dialect name items ifNotExists with
      | error f => rfl
      | ok parts =>
        dsimp only
        cases createStatement conn.adapter.dialect name ifNotExists parts with
        | error f => rfl
        | ok statement => rfl

/-- Whether a table is there is asked by its name, which is bound to the one placeholder of the
question. -/
theorem runIn_exists {r : Reaction} {s : Session} {c : Nat} {conn : Connection}
    (hconn : s.connections[c]? = some conn) (name : Value) :
    runIn r (exists? c name) s = runIn r (do
      let row? ← onDriver c
        (Driver.fetchRow (.text conn.adapter.dialect.tableExistsQuery) (.positional [name]))
      pure row?.isSome) s := by
  rw [exists?, runIn_bind_ok (runIn_connection hconn)]

end Schema

/-! ## Prefixes -/

namespace Session

theorem prefixed_of_not_true {p : Value} (h : p.isTrue = false) (mixed : Bool) (v : Value) :
    Builder.prefixed p mixed v = .ok v := by
  unfold Builder.prefixed
  rw [if_pos (by simp [h])]

theorem prefixed_name {p : Value} (h : p.isTrue = true) (n : String) :
    Builder.prefixed p false (.text n) = p.plus (.text n) := by
  unfold Builder.prefixed
  rw [if_neg (by simp [h])]
  rfl

end Session

/-- A connection that has a prefix and shares it with its driver, which records what it is asked. -/
def prefixedConnection (p : String) : Connection where
  driver := Driver.ofScenario { tablePrefix := .text p }
  scenario := { tablePrefix := .text p }
  settings := { tablePrefix := .given p }
  adapter := { dialect := .mysql }
  tablePrefix := .text p

/-- A session with one builder, on a connection that has a prefix. -/
def prefixedSession (p : String) : Session where
  connections := #[prefixedConnection p]
  builders := #[{ connection := some 0, record := 0 }]
  records := #[.empty]
  first := some 0
  standing := some 0

end SqlBuilder
