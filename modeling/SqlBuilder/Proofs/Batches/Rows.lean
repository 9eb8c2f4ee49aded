import SqlBuilder.Builder.Writing
import SqlBuilder.Proofs.Batches.Effects
import SqlBuilder.Proofs.Transaction.Orderly

/-!
# Inserting rows one after another

A row is compiled, becomes the last query of its connection and goes to the driver. So the rows of a
batch are inserted in order (`Inserts`) up to the first one that fails (`Fails`): one that does not
compile leaves the connection alone, one whose query fails is its last query. What is logged on the
way says nothing about the rows, so entries are compared without it (`traffic`).
-/

set_option autoImplicit false

namespace SqlBuilder

open Session
open Driver (Effect Appends effect runOn)

/-- The operation inserts a row. -/
def Operation.isInsert : Operation → Bool
  | .insert | .insertIgnore | .replace => true
  | .select | .update | .delete | .criteria => false

/-- What goes to the back end and to listeners. -/
def traffic (entries : List Entry) : List Entry := entries.filter fun e => !e.isLogged

/-- The driver's part of an insert: the statement is executed, and if it concerned one row, its
identifier is asked for. -/
def Driver.inserting (q : CompiledQuery) : Driver.Action Value := do
  let affected ← execute q.sql q.bindings
  let single ← ofResult (affected.equals (.int 1))
  if single then insertId else pure .null

/-- Whether a query can be displayed, if it is to be logged. -/
def CompiledQuery.loggable (q : CompiledQuery) (logging : Bool) : Result Unit :=
  if logging then do let _ ← q.interpolated else .ok ()

/-- What inserting a row comes to on a driver, given its query. Where queries are logged, one that
cannot be displayed fails once it was executed. -/
def Driver.attempt (logging : Bool) (q : CompiledQuery) (d : Driver) : Effect Value :=
  let done := effect (inserting q) d
  { done with outcome := do
      let id ← done.outcome
      q.loggable logging
      pure id }

/-- The connection with its driver in another state. -/
def Connection.driving (conn : Connection) (d : Driver) : Connection := { conn with driver := d }

/-- The connection after it was given a query. -/
def Connection.served (conn : Connection) (q : CompiledQuery) (d : Driver) : Connection :=
  { conn with driver := d, lastQuery := some q }

section

variable (compile : Value → Result CompiledQuery) (logging : Bool)

/-- The rows are inserted in order; their identifiers, the connection after them, and the entries
they add. -/
inductive Inserts : Connection → List Value → List Value → Connection → List Entry → Prop
  | nil (conn : Connection) : Inserts conn [] [] conn []
  | cons {conn conn' : Connection} {row id : Value} {rows ids : List Value} {q : CompiledQuery}
      {d : Driver} {entries entries' : List Entry} :
      compile row = .ok q → Driver.attempt logging q conn.driver = ⟨.ok id, d, entries⟩ →
      Inserts (conn.served q d) rows ids conn' entries' →
      Inserts conn (row :: rows) (id :: ids) conn' (entries ++ entries')

/-- Inserting the row fails. -/
inductive Fails (conn : Connection) (row : Value) : Fault → Connection → List Entry → Prop
  | uncompiled {cause : Fault} : compile row = .error cause → Fails conn row cause conn []
  | attempted {q : CompiledQuery} {cause : Fault} {d : Driver} {entries : List Entry} :
      compile row = .ok q → Driver.attempt logging q conn.driver = ⟨.error cause, d, entries⟩ →
      Fails conn row cause (conn.served q d) entries

/-- The rows are inserted in order up to one that fails. -/
def Stops (conn : Connection) (rows : List Value) (cause : Fault) (conn' : Connection)
    (entries : List Entry) : Prop :=
  ∃ earlier row later ids between entries₁ entries₂, rows = earlier ++ row :: later ∧
    Inserts compile logging conn earlier ids between entries₁ ∧
    Fails compile logging between row cause conn' entries₂ ∧ entries = entries₁ ++ entries₂

/-- What inserting the rows in order comes to. -/
inductive Proceeds (conn : Connection) (rows : List Value) :
    Result (List Value) → Connection → List Entry → Prop
  | inserted {ids : List Value} {conn' : Connection} {entries : List Entry} :
      Inserts compile logging conn rows ids conn' entries →
      Proceeds conn rows (.ok ids) conn' entries
  | stopped {cause : Fault} {conn' : Connection} {entries : List Entry} :
      Stops compile logging conn rows cause conn' entries →
      Proceeds conn rows (.error cause) conn' entries

end

section

variable {compile : Value → Result CompiledQuery} {logging : Bool} {conn conn' : Connection}
  {row : Value} {rows : List Value} {entries entries' : List Entry}

/-- The first row is inserted before the others. -/
theorem Proceeds.cons {id : Value} {q : CompiledQuery} {d : Driver} {outcome : Result (List Value)}
    (hcompile : compile row = .ok q)
    (hattempt : Driver.attempt logging q conn.driver = ⟨.ok id, d, entries⟩)
    (hrest : Proceeds compile logging (conn.served q d) rows outcome conn' entries') :
    Proceeds compile logging conn (row :: rows) (outcome >>= fun ids => .ok (id :: ids)) conn'
      (entries ++ entries') := by
  cases hrest with
  | inserted h => exact .inserted (.cons hcompile hattempt h)
  | stopped h =>
    obtain ⟨earlier, row', later, ids, between, entries₁, entries₂, rfl, hearlier, hfails, rfl⟩ :=
      h
    exact .stopped ⟨row :: earlier, row', later, id :: ids, between, entries ++ entries₁, entries₂,
      rfl, .cons hcompile hattempt hearlier, hfails, (List.append_assoc ..).symm⟩

/-- The first row fails. -/
theorem Proceeds.head {cause : Fault} (h : Fails compile logging conn row cause conn' entries)
    (rows : List Value) :
    Proceeds compile logging conn (row :: rows) (.error cause) conn' entries :=
  .stopped ⟨[], row, rows, [], conn, [], entries, rfl, .nil conn, h, rfl⟩

/-- The first row fails, or is inserted before the others. -/
theorem Proceeds.uncons {outcome : Result (List Value)}
    (h : Proceeds compile logging conn (row :: rows) outcome conn' entries) :
    (∃ cause, outcome = .error cause ∧ Fails compile logging conn row cause conn' entries) ∨
    ∃ q id d rest entries₁ entries₂, compile row = .ok q ∧
      Driver.attempt logging q conn.driver = ⟨.ok id, d, entries₁⟩ ∧
      Proceeds compile logging (conn.served q d) rows rest conn' entries₂ ∧
      outcome = (rest >>= fun ids => .ok (id :: ids)) ∧ entries = entries₁ ++ entries₂ := by
  cases h with
  | inserted h =>
    cases h with | cons hcompile hattempt hrest =>
    exact .inr ⟨_, _, _, _, _, _, hcompile, hattempt, .inserted hrest, rfl, rfl⟩
  | stopped h =>
    obtain ⟨earlier, last, later, ids, between, _, _, hrows, hearlier, hfails, rfl⟩ := h
    cases hearlier with
    | nil =>
      cases hrows
      exact .inl ⟨_, rfl, hfails⟩
    | cons hcompile hattempt hearlier =>
      cases hrows
      exact .inr ⟨_, _, _, _, _, _, hcompile, hattempt,
        .stopped ⟨_, _, _, _, _, _, _, rfl, hearlier, hfails, rfl⟩, rfl, List.append_assoc ..⟩

/-- Of two rows the second one fails: the driver has made an attempt at each. -/
theorem Proceeds.second {row' : Value} {q q' : CompiledQuery} {outcome : Result (List Value)}
    (h : Proceeds compile logging conn [row, row'] outcome conn' entries)
    (hq : compile row = .ok q) (hq' : compile row' = .ok q')
    (hok : (Driver.attempt logging q conn.driver).outcome.isOk = true)
    (hfails :
      (Driver.attempt logging q' (Driver.attempt logging q conn.driver).driver).outcome.isOk
        = false) :
    outcome.isOk = false ∧ conn'.driver =
      (Driver.attempt logging q' (Driver.attempt logging q conn.driver).driver).driver := by
  obtain ⟨cause, rfl, hfirst⟩ | ⟨_, id, d, rest, _, _, hcompile, hattempt, hrest, rfl, -⟩ :=
    h.uncons
  · cases hfirst with
    | uncompiled hcompile => cases hq.symm.trans hcompile
    | attempted hcompile hattempt =>
      cases hq.symm.trans hcompile
      rw [hattempt] at hok
      cases hok
  · cases hq.symm.trans hcompile
    rw [hattempt] at hfails ⊢
    obtain ⟨cause, rfl, hlast⟩ | ⟨_, _, _, _, _, _, hcompile', hattempt', -⟩ := hrest.uncons
    · cases hlast with
      | uncompiled hcompile' => cases hq'.symm.trans hcompile'
      | attempted hcompile' hattempt' =>
        cases hq'.symm.trans hcompile'
        rw [Connection.served] at hattempt'
        rw [hattempt']
        exact ⟨rfl, rfl⟩
    · cases hq'.symm.trans hcompile'
      rw [Connection.served] at hattempt'
      rw [hattempt'] at hfails
      cases hfails

/-! ## What is kept -/

variable {D : Driver → Prop} (hD : ∀ q, Driver.Keeps D (Driver.inserting q))
include hD

theorem Driver.keeps_attempt {q : CompiledQuery} {d d' : Driver} {outcome : Result Value}
    (hattempt : Driver.attempt logging q d = ⟨outcome, d', entries⟩) (h : D d) : D d' := by
  have hkept : D (Driver.attempt logging q d).driver := hD q ⟨d, []⟩ h
  rwa [hattempt] at hkept

theorem Inserts.keeps {ids : List Value} (h : Inserts compile logging conn rows ids conn' entries)
    (hconn : D conn.driver) : D conn'.driver := by
  induction h with
  | nil conn => exact hconn
  | cons _ hattempt _ ih => exact ih (Driver.keeps_attempt hD hattempt hconn)

theorem Fails.keeps {cause : Fault} (h : Fails compile logging conn row cause conn' entries)
    (hconn : D conn.driver) : D conn'.driver := by
  cases h with
  | uncompiled => exact hconn
  | attempted _ hattempt => exact Driver.keeps_attempt hD hattempt hconn

theorem Proceeds.keeps {outcome : Result (List Value)}
    (h : Proceeds compile logging conn rows outcome conn' entries) (hconn : D conn.driver) :
    D conn'.driver := by
  cases h with
  | inserted h => exact h.keeps hD hconn
  | stopped h =>
    obtain ⟨_, _, _, _, _, _, _, -, hearlier, hfails, -⟩ := h
    exact hfails.keeps hD (hearlier.keeps hD hconn)

end

variable {r : Reaction} {s : Session} {b c : Nat} {x : Builder} {conn : Connection}
  {st : Statements} {op : Operation}

/-! ## Drivers -/

theorem Driver.appends_inserting (q : CompiledQuery) : Appends (inserting q) :=
  (Appends.execute _ _).bind fun _ => (Appends.ofResult _).bind fun _ => .ite .insertId (.pure _)

theorem Driver.keeps_inserting {D : Driver → Prop} (q : CompiledQuery)
    (hexecute : Keeps D (execute q.sql q.bindings)) (hinsertId : Keeps D insertId) :
    Keeps D (inserting q) := by
  refine hexecute.bind fun _ => (Keeps.ofResult _).bind fun _ => ?_
  split
  · exact hinsertId
  · exact .pure _

/-! ## One row -/

/-- Nobody listens where nobody is registered. -/
theorem Hooks.hasListener_of_nil {hooks : Hooks} (h : hooks.actions = []) (event : String) :
    hooks.hasListener (.text event) = .ok false := by
  rw [hasListener, listeners, h]
  rfl

/-- The session after a connection was used. -/
def Session.used (s : Session) (c : Nat) (conn : Connection) (journal : List Entry) : Session :=
  { s with journal, connections := s.connections.modify c fun _ => conn }

/-- A builder with statements on a connection that nobody listens to. -/
structure Session.Serves (s : Session) (b c : Nat) (x : Builder) (conn : Connection)
    (st : Statements) : Prop where
  builder : s.builders[b]? = some x
  connection : x.connection = some c
  connected : s.connections[c]? = some conn
  record : s.records[x.record]? = some st
  unheard : conn.hooks.actions = []

namespace Session

theorem used_used (s : Session) (c : Nat) (conn conn' : Connection)
    (journal journal' : List Entry) :
    (s.used c conn journal).used c conn' journal' = s.used c conn' journal' := by
  simp only [used, mk.injEq, and_true]
  refine Array.ext_getElem? fun n => ?_
  simp only [Array.getElem?_modify]
  split
  · rw [Option.map_map]
    rfl
  · rfl

theorem used_connected (h : s.connections[c]? = some conn) (conn' : Connection)
    (journal : List Entry) : (s.used c conn' journal).connections[c]? = some conn' := by
  rw [used, Array.getElem?_modify, if_pos rfl, h]
  rfl

/-- A change of a connection that is known. -/
theorem modify_eq_used (h : s.connections[c]? = some conn) {f : Connection → Connection}
    {journal : List Entry} :
    { s with journal, connections := s.connections.modify c f } = s.used c (f conn) journal := by
  simp only [used, mk.injEq, and_true]
  refine Array.ext_getElem? fun n => ?_
  simp only [Array.getElem?_modify]
  split
  · rename_i hn
    subst hn
    rw [h]
    rfl
  · rfl

/-- A session in which nothing but the journal changes. -/
theorem journal_eq_used (h : s.connections[c]? = some conn) (journal : List Entry) :
    { s with journal } = s.used c conn journal := by
  simp only [used, mk.injEq, and_true]
  refine Array.ext_getElem? fun n => ?_
  rw [Array.getElem?_modify]
  split
  · rename_i hn
    subst hn
    rw [h]
    rfl
  · rfl

namespace Serves

theorem opened (h : s.Serves b c x conn st) : s.Open b c conn :=
  ⟨x, h.builder, h.connection, h.connected⟩

/-- What was served is there still, and so is who serves it. -/
theorem used (h : s.Serves b c x conn st) (conn' : Connection)
    (hhooks : conn'.hooks = conn.hooks) (journal : List Entry) :
    (s.used c conn' journal).Serves b c x conn' st where
  builder := h.builder
  connection := h.connection
  connected := used_connected h.connected conn' journal
  record := h.record
  unheard := hhooks ▸ h.unheard

end Serves

end Session

namespace Builder

/-- What a driver does on a connection. -/
theorem runIn_onDriver_used {α : Type} (h : s.connections[c]? = some conn)
    {act : Driver.Action α} (hact : Appends act) :
    runIn r (onDriver c act) s = ((effect act conn.driver).outcome,
      s.used c (conn.driving (effect act conn.driver).driver)
        (s.journal ++ (effect act conn.driver).entries)) := by
  rw [runIn_onDriver h, hact conn.driver s.journal, Session.driven, modify_eq_used h]
  rfl

theorem runIn_announce (h : s.Serves b c x conn st) (event : String) (q : CompiledQuery)
    (arguments : List (Value × Value)) :
    runIn r (announce b event q arguments) s = (.ok (), s) := by
  rw [announce, runIn_bind_ok (runIn_connectionOf h.opened),
    runIn_bind_ok (runIn_connection h.connected), Hooks.hasListener_of_nil h.unheard]
  rfl

theorem runIn_logExecuted (q : CompiledQuery) (s : Session) : ∃ lines,
    (∀ e ∈ lines, e.isLogged = true) ∧ runIn r (logExecuted q) s =
      (q.loggable s.logging, { s with journal := s.journal ++ lines }) := by
  rw [logExecuted, runIn_bind_ok (runIn_get s), CompiledQuery.loggable]
  by_cases hlogging : s.logging = true
  · rw [if_pos hlogging, if_pos hlogging, runIn_bind_result (runIn_ofResult _ s)]
    cases q.interpolated with
    | error f => exact ⟨[], nofun, by rw [List.append_nil]; rfl⟩
    | ok text =>
      refine ⟨[.logged .debug "fluentql.query.builder" ("Executed: " ++ text.toText)],
        fun e he => ?_, rfl⟩
      rw [List.mem_singleton.1 he]
      rfl
  · rw [if_neg hlogging, if_neg hlogging]
    exact ⟨[], nofun, by rw [List.append_nil]; rfl⟩

/-- A query is run: it is the last query, the driver does its part, and then it is logged. -/
theorem runIn_run {α : Type} (h : s.Serves b c x conn st) (activity : Activity) (q : CompiledQuery)
    {act : Driver.Action (α × List (Value × Value))} (hact : Appends act) :
    let done := effect act conn.driver
    ∃ lines, (∀ e ∈ lines, e.isLogged = true) ∧ runIn r (run b activity q act) s =
      (done.outcome >>= fun (result, _) => q.loggable s.logging >>= fun _ => .ok result,
       s.used c (conn.served q done.driver) (s.journal ++ done.entries ++ lines)) := by
  intro done
  let asked := conn.served q conn.driver
  let s₁ := s.used c asked s.journal
  let s₂ := s.used c (conn.served q done.driver) (s.journal ++ done.entries)
  have h₁ : s₁.Serves b c x asked st := h.used asked rfl s.journal
  have hlast : runIn r (updateConnection c fun conn => { conn with lastQuery := some q }) s =
      (.ok (), s₁) := by
    rw [updateConnection, runIn_modify]
    exact congrArg (Prod.mk _) (modify_eq_used h.connected)
  have hdriver : runIn r (onDriver c act) s₁ = (done.outcome, s₂) := by
    rw [runIn_onDriver_used h₁.connected hact, used_used]
    rfl
  rw [run, runIn_bind_ok (runIn_connectionOf h.opened), runIn_bind_ok hlast,
    runIn_bind_ok (runIn_announce h₁ _ q _), runIn_bind, hdriver]
  cases done.outcome with
  | error f => exact ⟨[], nofun, by rw [List.append_nil]; rfl⟩
  | ok result =>
    obtain ⟨result, arguments⟩ := result
    obtain ⟨lines, hlines, hlog⟩ := runIn_logExecuted (r := r) q s₂
    let s₃ := s.used c (conn.served q done.driver) (s.journal ++ done.entries ++ lines)
    have h₃ : s₃.Serves b c x (conn.served q done.driver) st :=
      h.used (conn.served q done.driver) rfl _
    refine ⟨lines, hlines, ?_⟩
    have hloggable : q.loggable s₂.logging = q.loggable s.logging := rfl
    dsimp only
    rw [runIn_bind, hlog, hloggable]
    cases q.loggable s.logging with
    | error f => rfl
    | ok u =>
      show runIn r (do announce b activity.after q _; pure result) s₃ = _
      rw [runIn_bind_ok (runIn_announce h₃ _ q _)]
      rfl

theorem traffic_append (entries entries' : List Entry) :
    traffic (entries ++ entries') = traffic entries ++ traffic entries' :=
  List.filter_append ..

theorem traffic_of_logged {lines : List Entry} (h : ∀ e ∈ lines, e.isLogged = true) :
    traffic lines = [] := by
  rw [traffic, List.filter_eq_nil_iff]
  intro e he
  rw [h e he]
  decide

theorem insertRow_eq (b : Nat) (op : Operation) (row : Value) :
    insertRow b op row = compileAs b (.ok op) [row] >>= fun q =>
      run b .insert q (Driver.inserting q >>= fun id => pure (id, [(Event.insertId, id)])) := by
  refine bind_congr fun q => congrArg (run b .insert q) ?_
  rw [Driver.inserting, bind_assoc]
  refine bind_congr fun affected => ?_
  rw [bind_assoc]
  refine bind_congr fun single => ?_
  cases single <;> rfl

section

variable (h : s.Serves b c x conn st) {row : Value}
include h

theorem runIn_compileRow (op : Operation) (row : Value) :
    ∃ journal, traffic journal = traffic s.journal ∧
    runIn r (compileAs b (.ok op) [row]) s =
      (conn.adapter.compile op st [row], s.used c conn journal) := by
  obtain ⟨lines, hlines, hrun⟩ := runIn_compileAs_logged (r := r) h.opened h.builder h.record op
    [row]
  refine ⟨s.journal ++ lines, ?_, ?_⟩
  · rw [traffic_append, traffic_of_logged hlines, List.append_nil]
  · rw [hrun, journal_eq_used h.connected]

/-- A row that does not compile. -/
theorem runIn_insertRow_uncompiled {cause : Fault}
    (hcompile : conn.adapter.compile op st [row] = .error cause) :
    ∃ journal, traffic journal = traffic s.journal ∧
      runIn r (insertRow b op row) s = (.error cause, s.used c conn journal) := by
  obtain ⟨journal, hjournal, hrun⟩ := runIn_compileRow (r := r) h op row
  refine ⟨journal, hjournal, ?_⟩
  rw [insertRow, runIn_bind, hrun, hcompile]

/-- A row that compiles. -/
theorem runIn_insertRow {q : CompiledQuery}
    (hcompile : conn.adapter.compile op st [row] = .ok q) :
    let done := Driver.attempt s.logging q conn.driver
    ∃ journal, traffic journal = traffic s.journal ++ traffic done.entries ∧
      runIn r (insertRow b op row) s =
        (done.outcome, s.used c (conn.served q done.driver) journal) := by
  intro done
  obtain ⟨journal, hjournal, hrun⟩ := runIn_compileRow (r := r) h op row
  have hact := (Driver.appends_inserting q).bind fun id => Appends.pure (id, [(Event.insertId, id)])
  obtain ⟨lines, hlines, hrun'⟩ := runIn_run (r := r) (h.used conn rfl journal) .insert q hact
  rw [Driver.effect_map, used_used] at hrun'
  refine ⟨journal ++ done.entries ++ lines, ?_, ?_⟩
  · rw [traffic_append, traffic_append, traffic_of_logged hlines, List.append_nil, hjournal]
  · rw [insertRow_eq, runIn_bind, hrun, hcompile]
    dsimp only
    rw [hrun', bind_assoc]
    rfl

end

/-! ## All rows -/

theorem runIn_insertAll (h : s.Serves b c x conn st) (op : Operation) {rows : List Value}
    (hrows : ∀ row ∈ rows, ∃ entries, row = .map entries) :
    ∃ outcome conn' entries journal,
      Proceeds (fun row => conn.adapter.compile op st [row]) s.logging conn rows outcome conn'
        entries ∧
      traffic journal = traffic s.journal ++ traffic entries ∧
      runIn r (insertAll op rows b) s = (outcome, s.used c conn' journal) := by
  induction rows generalizing s conn with
  | nil =>
    refine ⟨.ok [], conn, [], s.journal, .inserted (.nil conn), (List.append_nil _).symm, ?_⟩
    rw [insertAll, ← journal_eq_used h.connected]
    rfl
  | cons row rows ih =>
    obtain ⟨fields, rfl⟩ := hrows _ List.mem_cons_self
    rw [insertAll, insert]
    cases hcompile : conn.adapter.compile op st [.map fields] with
    | error cause =>
      obtain ⟨journal, hjournal, hrun⟩ := runIn_insertRow_uncompiled (r := r) h hcompile
      refine ⟨.error cause, conn, [], journal, .head (.uncompiled hcompile) rows, ?_, ?_⟩
      · rw [hjournal]
        exact (List.append_nil _).symm
      · rw [runIn_bind, hrun]
    | ok q =>
      obtain ⟨journal, hjournal, hrun⟩ := runIn_insertRow (r := r) h hcompile
      cases hattempt : Driver.attempt s.logging q conn.driver with
      | mk outcome d entries =>
      rw [hattempt] at hjournal hrun
      cases outcome with
      | error cause =>
        refine ⟨.error cause, _, entries, journal, .head (.attempted hcompile hattempt) rows,
          hjournal, ?_⟩
        rw [runIn_bind, hrun]
      | ok id =>
        obtain ⟨outcome, conn', entries', journal', hproceeds, hjournal', hrest⟩ :=
          ih (h.used (conn.served q d) rfl journal) fun row hrow =>
            hrows row (List.mem_cons_of_mem _ hrow)
        rw [used_used] at hrest
        refine ⟨_, conn', entries ++ entries', journal', .cons hcompile hattempt hproceeds, ?_, ?_⟩
        · rw [hjournal', traffic_append, ← List.append_assoc, ← hjournal]
          rfl
        · rw [runIn_bind, hrun]
          dsimp only
          rw [runIn_bind, hrest]
          cases outcome <;> rfl

end Builder

end SqlBuilder
