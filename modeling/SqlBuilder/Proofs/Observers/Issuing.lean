import SqlBuilder.Proofs.Batches.Rows
import SqlBuilder.Proofs.Frame.Reads
import SqlBuilder.Proofs.Session.Reading

/-!
# Issuing a query

A `Terminal` is an operation of a builder that runs one query. It first issues the query: whatever
it checks, selects and compiles is done by then (`Terminal.issue`), and then it runs the query with
one method of the driver (`Terminal.perform_eq`).

Issuing is silent (`Session.Silent`): it leaves connections, functions and existing builders alone
and writes nothing but log lines. So nobody is told of anything and no driver is asked for anything
until the query is there, with its values in order and on a builder that is connected
(`Terminal.issuing_issue`).
-/

set_option autoImplicit false

namespace SqlBuilder

open Session Builder Number

namespace Session

variable {α β γ : Type} {r : Reaction} {s u : Session} {b c : Nat}

/-! ## Sequences -/

theorem ofResult_ok (a : α) : ofResult (.ok a : Result α) = pure a := rfl

theorem ofResult_bind (y : Result α) (k : α → Result β) :
    ofResult (y >>= k) = ofResult y >>= fun a => ofResult (k a) := by
  cases y <;> rfl

theorem ofResult_pure (a : α) : ofResult (pure a : Result α) = pure a := rfl

/-- What a sequence that succeeds went through. -/
theorem runIn_bind_inv {x : Action α} {k : α → Action β} {y : β}
    (h : runIn r (x >>= k) s = (.ok y, u)) :
    ∃ a v, runIn r x s = (.ok a, v) ∧ runIn r (k a) v = (.ok y, u) := by
  rw [runIn_bind] at h
  generalize runIn r x s = p at h
  obtain ⟨_ | a, v⟩ := p
  · cases h
  · exact ⟨a, v, rfl, h⟩

theorem of_runIn_present {a? : Option α} {a : α} (h : runIn r (present a?) s = (.ok a, u)) :
    a? = some a := by
  cases a? with
  | none => cases h
  | some a => cases h; rfl

/-! ## Builders on connections -/

/-- The builder works on the connection. -/
def On (s : Session) (b c : Nat) : Prop := ∃ conn, s.Open b c conn

/-- A builder whose adapter is found works on some connection. -/
theorem on_of_adapterOf {a : Adapter} (h : runIn r (adapterOf b) s = (.ok a, u)) :
    ∃ c, s.On b c := by
  obtain ⟨c, v, hc, h⟩ := runIn_bind_inv h
  have hv : v = s := by
    have hreads := reads_connectionOf b r s
    rwa [hc] at hreads
  obtain ⟨conn, _, hconn, -⟩ := runIn_bind_inv h
  rw [hv, connection, runIn_bind_ok (runIn_get s)] at hconn
  obtain ⟨x, _, hx, hc⟩ := runIn_bind_inv hc
  rw [builder, runIn_bind_ok (runIn_get s)] at hx
  refine ⟨c, conn, x, of_runIn_present hx, ?_, of_runIn_present hconn⟩
  cases hclosed : x.connection with
  | none =>
    rw [hclosed] at hc
    cases hc
  | some d =>
    rw [hclosed] at hc
    cases hc
    rfl

/-! ## Silent actions -/

/-- Nothing happened to connections, functions and builders that were there, and the journal has
more log lines at most. -/
structure Quiet (s₀ s : Session) : Prop where
  connections : s.connections = s₀.connections
  functions : s.functions = s₀.functions
  builders : ∀ (b : Nat) (x : Builder), s₀.builders[b]? = some x → s.builders[b]? = some x
  journal : ∃ lines, (∀ e ∈ lines, e.isLogged = true) ∧ s.journal = s₀.journal ++ lines

namespace Quiet

variable {s₀ s s' : Session}

theorem of_records (s : Session) (records : Array Statements) : Quiet s { s with records } :=
  ⟨rfl, rfl, fun _ _ h => h, [], fun _ h => absurd h List.not_mem_nil, (List.append_nil _).symm⟩

theorem refl (s : Session) : Quiet s s := of_records s s.records

theorem trans (h : Quiet s₀ s) (h' : Quiet s s') : Quiet s₀ s' := by
  obtain ⟨lines, hlines, hjournal⟩ := h.journal
  obtain ⟨lines', hlines', hjournal'⟩ := h'.journal
  refine ⟨h'.connections.trans h.connections, h'.functions.trans h.functions,
    fun b x hx => h'.builders b x (h.builders b x hx), lines ++ lines', fun e he => ?_, ?_⟩
  · exact (List.mem_append.1 he).elim (hlines e) (hlines' e)
  · rw [hjournal', hjournal, List.append_assoc]

end Quiet

theorem On.quiet (h : s.On b c) (hquiet : Quiet s u) : u.On b c := by
  obtain ⟨conn, x, hx, hc, hconn⟩ := h
  exact ⟨conn, x, hquiet.builders b x hx, hc, hquiet.connections ▸ hconn⟩

/-- The action does nothing that could be noticed from outside, also where it fails. -/
def Silent (x : Action α) : Prop := ∀ s₀, Keeps (Quiet s₀) (fun _ => True) x

theorem Silent.quiet {x : Action α} {y : Result α} (h : Silent x) (hrun : runIn r x s = (y, u)) :
    Quiet s u := by
  have hquiet := (h s r s (.refl s)).1
  rwa [hrun] at hquiet

theorem Reads.silent {x : Action α} (h : Reads x) : Silent x := fun _ => h.keeps

namespace Silent

theorem of_modify {f : Session → Session} (h : ∀ s, Quiet s (f s)) :
    Silent (modify f : Action Unit) :=
  fun _ => .modified fun s hs => hs.trans (h s)

theorem pure (a : α) : Silent (Pure.pure a) := (Reads.pure a).silent

theorem ofResult (y : Result α) : Silent (Session.ofResult y) := (Reads.ofResult y).silent

theorem bind {x : Action α} {k : α → Action β} (hx : Silent x) (hk : ∀ a, Silent (k a)) :
    Silent (x >>= k) :=
  fun s₀ => (hx s₀).bind fun a _ => hk a s₀

theorem mapM {xs : List γ} {f : γ → Action α} (h : ∀ x, Silent (f x)) : Silent (xs.mapM f) :=
  fun s₀ => (Keeps.mapM fun x _ => h x s₀).mono fun _ _ => trivial

theorem log (level : LogLevel) (logger message : String) : Silent (log level logger message) :=
  of_modify fun _ => ⟨rfl, rfl, fun _ _ h => h, [.logged level logger message],
    fun _ h => List.mem_singleton.1 h ▸ rfl, rfl⟩

theorem edit (b : Nat) (f : Statements → Statements) : Silent (edit b f) :=
  (reads_builder b).silent.bind fun _ => of_modify fun s => .of_records s _

theorem change (b : Nat) (f : Statements → Result Statements) : Silent (change b f) :=
  (reads_statementsOf b).silent.bind fun _ => (ofResult _).bind fun _ => edit b _

theorem newBuilder (c : Nat) (kind : BuilderKind) (st : Statements) :
    Silent (newBuilder c kind st) := by
  intro s₀ r s hs
  have hgrown := grown_withBuilder s c kind st
  rw [runIn_newBuilder]
  exact ⟨hs.trans ⟨hgrown.connections, hgrown.functions, hgrown.builders, [],
    fun _ h => absurd h List.not_mem_nil, (List.append_nil _).symm⟩, fun _ _ => trivial⟩

theorem compileAs (b : Nat) (op : Result Operation) (payload : List Value) :
    Silent (compileAs b op payload) :=
  (reads_adapterOf b).silent.bind fun _ => (ofResult _).bind fun _ =>
    (reads_statementsOf b).silent.bind fun _ => (ofResult _).bind fun _ =>
      (log _ _ _).bind fun _ => pure _

end Silent

end Session

namespace Builder

theorem silent_select (b : Nat) (fields : List Value) : Silent (select b fields) :=
  (reads_collectFields b fields).silent.bind fun _ => (reads_overwrites b).silent.bind fun _ =>
    .change b _

theorem silent_newQuery (b : Nat) : Silent (newQuery b) :=
  (reads_connectionOf b).silent.bind fun c => .newBuilder c _ _

theorem silent_setAlias (b : Nat) (name table : Value) : Silent (setAlias b name table) :=
  (Silent.edit b _).bind fun _ => (Silent.ofResult _).bind fun _ => .change b _

theorem silent_collectTables (b : Nat) (item : Value) : Silent (collectTables b item) := by
  unfold collectTables
  split
  · exact .mapM fun _ => (reads_addPrefix b _ _).silent.bind fun _ =>
      (silent_setAlias b _ _).bind fun _ => .pure _
  · exact (reads_addPrefixAll b _ _).silent
  · exact (reads_addPrefixAll b _ _).silent
  · exact (reads_addPrefix b _ _).silent.bind fun _ => .pure _

theorem silent_fromTables (b : Nat) (tables : List Value) : Silent (fromTables b tables) := by
  unfold fromTables
  split
  · exact .edit b _
  · exact (Silent.mapM (silent_collectTables b)).bind fun _ => .change b _

theorem silent_logExecuted (q : CompiledQuery) : Silent (logExecuted q) := by
  refine Reads.get.silent.bind fun s => ?_
  split
  · exact (Silent.ofResult _).bind fun _ => .log _ _ _
  · exact .pure ()

theorem silent_subQuery (b : Nat) (name : Value) : Silent (subQuery b name) :=
  (Silent.compileAs b _ []).bind fun _ => .pure _

end Builder

/-! ## Operations that run one query -/

/-- An operation of a builder that compiles one statement and runs it. -/
inductive Terminal where
  | get (output : Value)
  | row (output : Value)
  | value (column : Value)
  | pluck (column : Value)
  | count (field : Value)
  | aggregate (function : String) (field : Value)
  | insert (op : Operation) (entries : List (Value × Value))
  | update (entries : Value)
  | delete (columns : Value)
  | query (sql bindings : Value)

namespace Terminal

/-- The operation on a builder. -/
def perform : Terminal → Nat → Action Value
  | .get output, b => Builder.get b output
  | .row output, b => Builder.row b output
  | .value column, b => Builder.value b column
  | .pluck column, b => do pure (.list (← Builder.pluck b column))
  | .count field, b => do pure (.int (← Builder.count b field))
  | .aggregate function field, b => do pure (.double (← Builder.aggregate b function field))
  | .insert op entries, b => Builder.insert op (.map entries) b
  | .update entries, b => Builder.update b entries
  | .delete columns, b => Builder.delete b columns
  | .query sql bindings, b => do
    Builder.runText b sql bindings
    pure .null

/-- The activity that listeners are told of. -/
def activity : Terminal → Activity
  | .get _ => .select
  | .row _ => .selectRow
  | .value _ | .count _ | .aggregate _ _ => .selectValue
  | .pluck _ => .selectColumn
  | .insert _ _ => .insert
  | .update _ => .update
  | .delete _ => .delete
  | .query _ _ => .query

/-- What the driver answers. -/
abbrev Answer : Terminal → Type
  | .get _ => List Row
  | .row _ => Option Row
  | .pluck _ => List Value
  | .value _ | .count _ | .aggregate _ _ | .insert _ _ | .update _ | .delete _ | .query _ _ => Value

/-- The operation's method of the driver, on the text and the bindings of a query. -/
def ask : (t : Terminal) → CompiledQuery → Driver.Action t.Answer
  | .get _, q => Driver.fetchAll q.sql q.bindings
  | .row _, q => Driver.fetchRow q.sql q.bindings
  | .value _, q | .count _, q | .aggregate _ _, q => Driver.fetchScalar q.sql q.bindings
  | .pluck _, q => Driver.fetchColumn q.sql q.bindings
  | .insert _ _, q => Driver.inserting q
  | .update _, q | .delete _, q | .query _ _, q => Driver.execute q.sql q.bindings

/-- What listeners are told of the answer. -/
def reports : (t : Terminal) → t.Answer → List (Value × Value)
  | .insert _ _, id => [(Event.insertId, id)]
  | .get _, _ | .row _, _ | .value _, _ | .pluck _, _ | .count _, _ | .aggregate _ _, _
  | .update _, _ | .delete _, _ | .query _ _, _ => []

end Terminal

/-- A query that is ready to be run: the builder it is run for, and what is made of the answer. -/
structure Issue (α : Type) where
  builder : Nat
  query : CompiledQuery
  finish : α → Result Value

/-- The query can be run: its builder is on a connection and its values are in order. -/
structure Issue.Ready {α : Type} (i : Issue α) (s : Session) : Prop where
  on : ∃ c, s.On i.builder c
  positional : ∃ values, i.query.bindings = .positional values

/-- The action silently issues a query that can be run. -/
structure Issuing {α : Type} (x : Action (Issue α)) : Prop where
  silent : Silent x
  ready : ∀ r s i u, runIn r x s = (.ok i, u) → i.Ready u

namespace Builder

/-- Compiles the statements of a builder for running them. -/
def issued {α : Type} (b : Nat) (op : Operation) (payload : List Value)
    (finish : α → Result Value) : Action (Issue α) := do
  pure ⟨b, ← compileAs b (.ok op) payload, finish⟩

/-- The builder of an aggregate over a column: it selects from the given one. -/
def aggregated (b : Nat) (function : String) (field : Value) : Action Nat := do
  let s ← statementsOf b
  ofResult (checkDeclared s field)
  ofResult (checkTables s)
  let outer ← newQuery b
  fromTables outer [← subQuery b (.text "count")]
  select outer [.raw (function ++ "(" ++ field.toText ++ ") AS field") []]
  pure outer

/-- The number an aggregate comes to; zero if there is no value. -/
def aggregateOf (v : Value) : Result Double :=
  match v with
  | .null => pure (Double.nearest false 0 1)
  | v => v.toDouble

/-- An aggregate is a value of a builder that is made for it. -/
theorem aggregate_eq (b : Nat) (function : String) (field : Value) :
    aggregate b function field = (do
      let outer ← aggregated b function field
      let v ← scalar outer
      ofResult (aggregateOf v)) := by
  simp only [aggregate, aggregated, bind_assoc, pure_bind]
  refine bind_congr fun s => bind_congr fun _ => bind_congr fun _ => bind_congr fun outer =>
    bind_congr fun v => bind_congr fun _ => bind_congr fun _ => bind_congr fun v => ?_
  cases v <;> rfl

end Builder

namespace Terminal

/-- What comes before the query is run. -/
def issue : (t : Terminal) → Nat → Action (Issue t.Answer)
  | .get output, b => do
    let shape ← shapeOf b output OutputShape.all
    issued b .select [] (shapedRows shape)
  | .row output, b => do
    let shape ← shapeOf b output rowShapes
    issued b .select [] fun row? => do pure ((← row?.mapM (shapedRow shape)).getD .null)
  | .value column, b => do
    select b [column]
    issued b .select [] .ok
  | .pluck column, b => do
    select b [column]
    issued b .select [] fun vs => .ok (.list vs)
  | .count field, b => do
    let outer ← aggregated b "COUNT" field
    issued outer .select [] fun v => do pure (.int (← (Value.double (← aggregateOf v)).toWhole))
  | .aggregate function field, b => do
    let outer ← aggregated b function field
    issued outer .select [] fun v => do pure (.double (← aggregateOf v))
  | .insert op entries, b => issued b op [.map entries] .ok
  | .update entries, b => issued b .update [entries] .ok
  | .delete columns, b => issued b .delete [columns] .ok
  | .query sql bindings, b => do
    let values ← ofResult bindings.toItems
    let a ← adapterOf b
    pure ⟨b, { sql, bindings := .positional values, adapter := some a }, fun _ => .ok .null⟩

/-- The query is issued, then it is run with one method of the driver. -/
theorem perform_eq (t : Terminal) (b : Nat) : t.perform b = (do
    let i ← t.issue b
    let a ← run i.builder t.activity i.query do
      let a ← t.ask i.query
      pure (a, t.reports a)
    ofResult (i.finish a)) := by
  -- Both sides are one sequence, cut in different places.
  cases t <;>
  simp only [perform, issue, issued, activity, ask, reports, Builder.get, Builder.row, row?,
    Builder.value, Builder.pluck, Builder.count, aggregate_eq, scalar, Builder.insert, insertRow_eq,
    Builder.update, Builder.delete, runText, runSelect, runPlain, compileSelect, bind_assoc,
    pure_bind, bind_pure, ofResult_bind, ofResult_ok, ofResult_pure]

end Terminal

/-! ## Issuing is silent -/

theorem Adapter.compile_positional {a : Adapter} {op : Operation} {st : Statements}
    {payload : List Value} {q : CompiledQuery} (h : a.compile op st payload = .ok q) :
    ∃ values, q.bindings = .positional values := by
  obtain ⟨f, -, hq⟩ := bind_ok h
  cases hq
  exact ⟨f.bindings, rfl⟩

section

variable {α β : Type}

/-- What comes first is silent. -/
theorem Issuing.after {x : Action β} {k : β → Action (Issue α)} (hx : Silent x)
    (hk : ∀ a, Issuing (k a)) : Issuing (x >>= k) where
  silent := hx.bind fun a => (hk a).silent
  ready r s i u h := by
    obtain ⟨a, v, -, h⟩ := runIn_bind_inv h
    exact (hk a).ready r v i u h

theorem issuing_issued (b : Nat) (op : Operation) (payload : List Value)
    (finish : α → Result Value) : Issuing (issued b op payload finish) where
  silent := (Silent.compileAs b _ payload).bind fun _ => .pure _
  ready r s i u h := by
    obtain ⟨q, v, hcompiled, h⟩ := runIn_bind_inv h
    cases h
    have hquiet := (Silent.compileAs b _ payload).quiet hcompiled
    obtain ⟨a, _, ha, hcompiled⟩ := runIn_bind_inv hcompiled
    obtain ⟨_, _, -, hcompiled⟩ := runIn_bind_inv hcompiled
    obtain ⟨st, _, -, hcompiled⟩ := runIn_bind_inv hcompiled
    obtain ⟨q', _, hq, hcompiled⟩ := runIn_bind_inv hcompiled
    obtain ⟨_, _, -, hcompiled⟩ := runIn_bind_inv hcompiled
    cases hcompiled
    rw [runIn_ofResult] at hq
    obtain ⟨c, hc⟩ := on_of_adapterOf ha
    exact ⟨⟨c, hc.quiet hquiet⟩, Adapter.compile_positional (Prod.mk.inj hq).1⟩

end

namespace Builder

theorem silent_aggregated (b : Nat) (function : String) (field : Value) :
    Silent (aggregated b function field) :=
  (reads_statementsOf b).silent.bind fun _ => (Silent.ofResult _).bind fun _ =>
    (Silent.ofResult _).bind fun _ => (silent_newQuery b).bind fun outer =>
      (silent_subQuery b _).bind fun _ => (silent_fromTables outer _).bind fun _ =>
        (silent_select outer _).bind fun _ => .pure _

end Builder

/-- Whatever the operation does before its query is there, nobody notices. -/
theorem Terminal.issuing_issue (t : Terminal) (b : Nat) : Issuing (t.issue b) := by
  cases t with
  | get output =>
    exact .after (reads_shapeOf b output _).silent fun _ => issuing_issued b _ _ _
  | row output =>
    exact .after (reads_shapeOf b output _).silent fun _ => issuing_issued b _ _ _
  | value column => exact .after (silent_select b _) fun _ => issuing_issued b _ _ _
  | pluck column => exact .after (silent_select b _) fun _ => issuing_issued b _ _ _
  | count field => exact .after (silent_aggregated b _ _) fun outer => issuing_issued outer _ _ _
  | aggregate function field =>
    exact .after (silent_aggregated b _ _) fun outer => issuing_issued outer _ _ _
  | insert op entries => exact issuing_issued b _ _ _
  | update entries => exact issuing_issued b _ _ _
  | delete columns => exact issuing_issued b _ _ _
  | query sql bindings =>
    refine .after (.ofResult _) fun values => ⟨?_, fun r s i u h => ?_⟩
    · exact (reads_adapterOf b).silent.bind fun _ => .pure _
    · obtain ⟨a, v, ha, h⟩ := runIn_bind_inv h
      cases h
      obtain ⟨c, hc⟩ := on_of_adapterOf ha
      exact ⟨⟨c, hc.quiet ((reads_adapterOf b).silent.quiet ha)⟩, values, rfl⟩

end SqlBuilder
