import SqlBuilder.Builder.Conditions
import SqlBuilder.Proofs.Session.Running

/-!
# What a builder reads

A builder reads the prefix and the adapter of its connection (`Session.Open`) and the statements of
the builders it makes subqueries of. `prefixOf` and `subQueryOf` are what it finds, read off the
session. They stay the same while a session grows (`Grown`): new builders with statements of their
own are made, and those that were there are left alone.
-/

set_option autoImplicit false

namespace SqlBuilder.Session

open Builder

variable {r : Reaction}

/-- The builder works on a connection. -/
def Open (s : Session) (b c : Nat) (conn : Connection) : Prop :=
  ∃ x, s.builders[b]? = some x ∧ x.connection = some c ∧ s.connections[c]? = some conn

/-- The prefix of a connection, filtered. -/
def prefixOf (s : Session) (conn : Connection) : Result Value :=
  if conn.tablePrefix.isTrue then do
    let names ← conn.hooks.filtersOf (.text prefixFilter)
    (names.filterMap (Value.lookup s.functions)).foldlM (fun v f => f.apply v) conn.tablePrefix
  else .ok .null

/-- The select of a builder. -/
def selectOf (s : Session) (b : Nat) : Result CompiledQuery :=
  match s.builders[b]? with
  | none => misuse .missingAttribute
  | some x =>
    match x.connection with
    | none => .error (.configuration .noConnection)
    | some c =>
      match s.connections[c]?, s.records[x.record]? with
      | some conn, some st => conn.adapter.compile .select st []
      | _, _ => misuse .missingAttribute

/-- The subquery a builder stands for. -/
def subQueryOf (s : Session) (b : Nat) : Result Value := do
  let q ← s.selectOf b
  pure (.raw ("(" ++ q.sql.toText ++ ")") q.rawBindings)

/-! ## Reading -/

theorem runIn_connection {s : Session} {c : Nat} {conn : Connection}
    (h : s.connections[c]? = some conn) : runIn r (connection c) s = (.ok conn, s) := by
  rw [connection, runIn_bind_ok (runIn_get s), h]
  rfl

theorem runIn_builder {s : Session} {b : Nat} {x : Builder} (h : s.builders[b]? = some x) :
    runIn r (builder b) s = (.ok x, s) := by
  rw [builder, runIn_bind_ok (runIn_get s), h]
  rfl

theorem runIn_connectionOf {s : Session} {b c : Nat} {conn : Connection} (h : s.Open b c conn) :
    runIn r (connectionOf b) s = (.ok c, s) := by
  obtain ⟨x, hx, hc, -⟩ := h
  rw [connectionOf, runIn_bind_ok (runIn_builder hx), hc]
  rfl

theorem runIn_adapterOf {s : Session} {b c : Nat} {conn : Connection} (h : s.Open b c conn) :
    runIn r (adapterOf b) s = (.ok conn.adapter, s) := by
  have hconn := h
  obtain ⟨x, -, -, hc⟩ := hconn
  rw [adapterOf, runIn_bind_ok (runIn_connectionOf h), runIn_bind_ok (runIn_connection hc)]
  rfl

theorem runIn_tablePrefixOf {s : Session} {b c : Nat} {conn : Connection} (h : s.Open b c conn) :
    runIn r (tablePrefixOf b) s = (s.prefixOf conn, s) := by
  have hconn := h
  obtain ⟨x, -, -, hc⟩ := hconn
  rw [tablePrefixOf, runIn_bind_ok (runIn_connectionOf h), runIn_bind_ok (runIn_connection hc)]
  unfold prefixOf
  dsimp only
  split
  · rw [applyFilters, runIn_bind_ok (runIn_connection hc), runIn_bind_result (runIn_ofResult _ s)]
    cases conn.hooks.filtersOf (.text prefixFilter) with
    | error f => rfl
    | ok names => exact runIn_ofResult _ s
  · rfl

theorem runIn_addPrefix {s : Session} {b c : Nat} {conn : Connection} (h : s.Open b c conn)
    (v : Value) (mixed : Bool) :
    runIn r (addPrefix b v mixed) s = (s.prefixOf conn >>= (prefixed · mixed v), s) := by
  rw [addPrefix, runIn_bind_result (runIn_tablePrefixOf h)]
  cases s.prefixOf conn with
  | error f => rfl
  | ok p => exact runIn_ofResult _ s

theorem runIn_statementsOf {s : Session} {b : Nat} {x : Builder} {st : Statements}
    (hx : s.builders[b]? = some x) (hst : s.records[x.record]? = some st) :
    runIn r (statementsOf b) s = (.ok st, s) := by
  rw [statementsOf, runIn_bind_ok (runIn_builder hx)]
  dsimp only
  rw [runIn_bind_ok (runIn_get s), hst]
  rfl

theorem runIn_overwrites {s : Session} {b : Nat} {x : Builder} (h : s.builders[b]? = some x) :
    runIn r (overwrites b) s = (.ok x.overwrite.isTrue, s) := by
  rw [overwrites, runIn_bind_ok (runIn_builder h)]
  rfl

theorem runIn_edit {s : Session} {b : Nat} {x : Builder} (hx : s.builders[b]? = some x)
    (f : Statements → Statements) :
    runIn r (edit b f) s = (.ok (), { s with records := s.records.modify x.record f }) := by
  rw [edit, runIn_bind_ok (runIn_builder hx)]
  rfl

theorem runIn_change {s : Session} {b : Nat} {x : Builder} {st : Statements}
    {f : Statements → Result Statements} {st' : Statements}
    (hx : s.builders[b]? = some x) (hst : s.records[x.record]? = some st) (h : f st = .ok st') :
    runIn r (change b f) s =
      (.ok (), { s with records := s.records.modify x.record fun _ => st' }) := by
  rw [change, runIn_bind_ok (runIn_statementsOf hx hst), h]
  exact runIn_edit hx _

theorem runIn_tryEdit_some {s : Session} {b : Nat} {x : Builder} {st : Statements}
    {f : Statements → Option Statements} {st' : Statements}
    (hx : s.builders[b]? = some x) (hst : s.records[x.record]? = some st) (h : f st = some st') :
    runIn r (tryEdit b f) s =
      (.ok (), { s with records := s.records.modify x.record fun _ => st' }) :=
  runIn_change hx hst (by rw [h])

theorem runIn_tryEdit_none {s : Session} {b : Nat} {x : Builder} {st : Statements}
    {f : Statements → Option Statements}
    (hx : s.builders[b]? = some x) (hst : s.records[x.record]? = some st) (h : f st = none) :
    runIn r (tryEdit b f) s = (misuse .invalidOperation, s) := by
  rw [tryEdit, change, runIn_bind_ok (runIn_statementsOf hx hst), h]
  rfl

/-- Compiling only logs. -/
theorem runIn_compileAs_logged {s : Session} {b c : Nat} {conn : Connection} {x : Builder}
    {st : Statements} (hopen : s.Open b c conn) (hx : s.builders[b]? = some x)
    (hst : s.records[x.record]? = some st) (op : Operation) (payload : List Value) :
    ∃ lines, (∀ e ∈ lines, e.isLogged = true) ∧ runIn r (compileAs b (.ok op) payload) s =
      (conn.adapter.compile op st payload, { s with journal := s.journal ++ lines }) := by
  rw [compileAs, runIn_bind_ok (runIn_adapterOf hopen), runIn_bind_ok (runIn_ofResult _ s),
    runIn_bind_ok (runIn_statementsOf hx hst), runIn_bind_result (runIn_ofResult _ s)]
  cases conn.adapter.compile op st payload with
  | error f => exact ⟨[], nofun, by rw [List.append_nil]; rfl⟩
  | ok q => exact ⟨[_], fun e he => by rw [List.mem_singleton.1 he]; rfl, rfl⟩

theorem runIn_compileAs {s : Session} {b c : Nat} {conn : Connection} {x : Builder}
    {st : Statements} (hopen : s.Open b c conn) (hx : s.builders[b]? = some x)
    (hst : s.records[x.record]? = some st) (op : Operation) (payload : List Value) :
    ∃ journal, runIn r (compileAs b (.ok op) payload) s =
      (conn.adapter.compile op st payload, { s with journal }) := by
  obtain ⟨lines, -, hrun⟩ := runIn_compileAs_logged (r := r) hopen hx hst op payload
  exact ⟨_, hrun⟩

/-- So it is with the select of a builder, connected or not. -/
theorem runIn_compileSelect {s : Session} {b : Nat} {x : Builder} {st : Statements}
    (hx : s.builders[b]? = some x) (hst : s.records[x.record]? = some st) :
    ∃ journal, runIn r (compileSelect b) s = (s.selectOf b, { s with journal }) := by
  unfold selectOf
  rw [hx]
  dsimp only
  cases hc : x.connection with
  | none =>
    have hclosed : runIn r (connectionOf b) s = (.error (.configuration .noConnection), s) := by
      rw [connectionOf, runIn_bind_ok (runIn_builder hx), hc]
      rfl
    refine ⟨s.journal, ?_⟩
    rw [compileSelect, compileAs, runIn_bind, adapterOf, runIn_bind, hclosed]
  | some c =>
    have hc' : runIn r (connectionOf b) s = (.ok c, s) := by
      rw [connectionOf, runIn_bind_ok (runIn_builder hx), hc]
      rfl
    dsimp only
    cases hconn : s.connections[c]? with
    | none =>
      have hmissing : runIn r (connection c) s = (.error (.misuse .missingAttribute), s) := by
        rw [connection, runIn_bind_ok (runIn_get s), hconn]
        rfl
      refine ⟨s.journal, ?_⟩
      rw [compileSelect, compileAs, runIn_bind, adapterOf, runIn_bind_ok hc', runIn_bind, hmissing]
      rfl
    | some conn =>
      rw [compileSelect, hst]
      exact runIn_compileAs ⟨x, hx, hc, hconn⟩ hx hst .select []

theorem runIn_subQuery {s : Session} {b : Nat} {x : Builder} {st : Statements}
    (hx : s.builders[b]? = some x) (hst : s.records[x.record]? = some st) :
    ∃ journal, runIn r (subQuery b .null) s = (s.subQueryOf b, { s with journal }) := by
  obtain ⟨journal, hrun⟩ := runIn_compileSelect (r := r) hx hst
  refine ⟨journal, ?_⟩
  rw [subQuery, runIn_bind, hrun, subQueryOf]
  cases s.selectOf b <;> rfl

/-- The subquery of a builder depends on its statements and its connection only. -/
theorem subQueryOf_congr {s s' : Session} {b : Nat} {x : Builder} {st : Statements}
    (hconnections : s'.connections = s.connections) (hx : s.builders[b]? = some x)
    (hx' : s'.builders[b]? = some x) (hst : s.records[x.record]? = some st)
    (hst' : s'.records[x.record]? = some st) : s'.subQueryOf b = s.subQueryOf b := by
  have hselect : s'.selectOf b = s.selectOf b := by
    rw [selectOf, selectOf, hx, hx']
    dsimp only
    rw [hst, hst', hconnections]
  rw [subQueryOf, subQueryOf, hselect]

/-! ## Prefixes -/

/-- Only a text goes in front of a text. -/
theorem plus_text {p v : Value} {s : String} (h : p.plus (.text s) = .ok v) :
    ∃ t, p = .text t ∧ v = .text (t ++ s) := by
  cases p with
  | text t =>
    cases h
    exact ⟨t, rfl, rfl⟩
  | _ =>
    unfold Value.plus at h
    dsimp only at h
    rw [if_neg (by simp [Value.number?])] at h
    cases h

/-! ## Growing -/

/-- What was there is there: the session has at most new builders with new statements. -/
structure Grown (s₀ s : Session) : Prop where
  connections : s.connections = s₀.connections
  functions : s.functions = s₀.functions
  builders : ∀ (b : Nat) (x : Builder), s₀.builders[b]? = some x → s.builders[b]? = some x
  records : ∀ (n : Nat) (st : Statements), s₀.records[n]? = some st → s.records[n]? = some st

namespace Grown

variable {s₀ s s' : Session}

theorem refl (s : Session) : Grown s s := ⟨rfl, rfl, fun _ _ h => h, fun _ _ h => h⟩

theorem trans (h : Grown s₀ s) (h' : Grown s s') : Grown s₀ s' where
  connections := h'.connections.trans h.connections
  functions := h'.functions.trans h.functions
  builders b x hx := h'.builders b x (h.builders b x hx)
  records n st hst := h'.records n st (h.records n st hst)

theorem prefixOf_eq (h : Grown s₀ s) (conn : Connection) : s.prefixOf conn = s₀.prefixOf conn := by
  rw [prefixOf, prefixOf, h.functions]

/-- The subquery of a builder that was there with its statements. -/
theorem subQueryOf_eq (h : Grown s₀ s) {b : Nat} {x : Builder} {st : Statements}
    (hx : s₀.builders[b]? = some x) (hst : s₀.records[x.record]? = some st) :
    s.subQueryOf b = s₀.subQueryOf b :=
  subQueryOf_congr h.connections hx (h.builders b x hx) hst (h.records _ st hst)

theorem journal (h : Grown s₀ s) (journal : List Entry) : Grown s₀ { s with journal } :=
  ⟨h.connections, h.functions, h.builders, h.records⟩

/-- Statements that were not there may change. -/
theorem edited (h : Grown s₀ s) {n : Nat} (hn : s₀.records[n]? = none)
    (f : Statements → Statements) : Grown s₀ { s with records := s.records.modify n f } := by
  refine ⟨h.connections, h.functions, h.builders, fun m st hst => ?_⟩
  have hne : n ≠ m := by
    rintro rfl
    rw [hn] at hst
    cases hst
  rw [Array.getElem?_modify, if_neg hne]
  exact h.records m st hst

end Grown

/-! ## New builders -/

/-- The session with a new builder on statements of its own. -/
def withBuilder (s : Session) (c : Nat) (kind : BuilderKind) (st : Statements) : Session :=
  { s with
    records := s.records.push st
    builders := s.builders.push { connection := some c, record := s.records.size, kind } }

theorem runIn_newBuilder {s : Session} {c : Nat} {kind : BuilderKind} {st : Statements} :
    runIn r (newBuilder c kind st) s = (.ok s.builders.size, s.withBuilder c kind st) := rfl

theorem grown_withBuilder (s : Session) (c : Nat) (kind : BuilderKind) (st : Statements) :
    Grown s (s.withBuilder c kind st) where
  connections := rfl
  functions := rfl
  builders b x hx := by
    have hlt := (Array.getElem?_eq_some_iff.1 hx).1
    exact (Array.getElem?_push_lt hlt).trans ((Array.getElem?_eq_getElem hlt).symm.trans hx)
  records n st hst := by
    have hlt := (Array.getElem?_eq_some_iff.1 hst).1
    exact (Array.getElem?_push_lt hlt).trans ((Array.getElem?_eq_getElem hlt).symm.trans hst)

end SqlBuilder.Session

namespace SqlBuilder.Builder

open Session

/-! ## Conditions -/

/-- The key of a condition: what a callback collects, or a name with its prefix. -/
def conditionKey (b : Nat) (key : Operand) (operator : Value) : Action Value :=
  match key, operator with
  | .callback _ f, .null => do pure (.group (← collected b .criteria f))
  | key, _ => addPrefix b key.plain true

/-- The value of a condition: a builder becomes a subquery. -/
def conditionValue (v : Value) : Action Value :=
  match v with
  | .builder id _ => subQuery id .null
  | v => pure v

theorem condition_parts (b : Nat) (key : Operand) (operator v joiner : Value) :
    condition b key operator v joiner = (do
      let key ← conditionKey b key operator
      let v ← conditionValue v
      pure (.plain key operator v joiner)) := by
  have hvalue (key : Value) : (do
      let v ← match v with
        | .builder id _ => subQuery id .null
        | v => pure v
      pure (Condition.plain key operator v joiner)) = (do
      let v ← conditionValue v
      pure (Condition.plain key operator v joiner)) := by
    cases v <;> rfl
  cases key with
  | value v => exact bind_congr hvalue
  | callback identity f =>
    cases operator with
    | null =>
      show _ = (collected b .criteria f >>= fun cs => pure (Value.group cs)) >>= _
      rw [bind_assoc]
      exact bind_congr fun cs => hvalue (.group cs)
    | _ => exact bind_congr hvalue

end SqlBuilder.Builder
