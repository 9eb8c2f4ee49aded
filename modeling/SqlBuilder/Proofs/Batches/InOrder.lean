import SqlBuilder.Proofs.Batches.Rows
import SqlBuilder.Proofs.Transaction.AllOrNothing

/-!
# A batch is its single inserts, in order

A batch that a builder inserts outside any transaction begins one, inserts its rows one after
another as single inserts would, and ends the transaction: it commits once every row is in and rolls
back after the first row that fails (`batch_in_order`). The fault of that row is the cause of the
transaction's. Its query is the last one of the connection: the query of that row, or the one before
if the row did not compile.
-/

set_option autoImplicit false

namespace SqlBuilder

open Session Builder
open Driver (Effect Appends Poised Keeps effect)

/-- A builder, not of a transaction, on a connection that is in no transaction and that nobody
listens to. -/
structure Session.Plain (s : Session) (b c : Nat) (x : Builder) (conn : Connection)
    (st : Statements) : Prop extends s.Serves b c x conn st where
  kind : x.kind ≠ .transaction
  idle : conn.driver.inTransaction = false

/-- The transactions of a back end end well. -/
structure Backend.EndsWell (back : Backend) : Prop where
  commit : ∀ d : Driver, d.backend = back → (effect Driver.commit d).outcome = .ok ()
  rollback : ∀ d : Driver, d.backend = back → (effect Driver.rollback d).outcome = .ok ()

/-- What a batch comes to: its identifiers or its fault, the connection after it, and the entries it
adds. -/
inductive InOrder (compile : Value → Result CompiledQuery) (logging : Bool) (conn : Connection)
    (rows : List Value) : Result (List Value) → Connection → List Entry → Prop
  /-- No transaction begins. -/
  | unbegun {cause : Fault} {d : Driver} {entries : List Entry} :
      effect Driver.begin conn.driver = ⟨.error cause, d, entries⟩ →
      InOrder compile logging conn rows (.error (.transaction (some cause) "" conn.lastQuery none))
        (conn.driving d) entries
  /-- Every row is inserted. -/
  | inserted {d d' : Driver} {entries entries₁ entries₂ : List Entry} {ids : List Value}
      {conn' : Connection} :
      effect Driver.begin conn.driver = ⟨.ok (), d, entries⟩ →
      Inserts compile logging (conn.driving d) rows ids conn' entries₁ →
      effect Driver.commit conn'.driver = ⟨.ok (), d', entries₂⟩ →
      InOrder compile logging conn rows (.ok ids) (conn'.driving d')
        (entries ++ entries₁ ++ entries₂)
  /-- A row fails. -/
  | stopped {d d' : Driver} {entries entries₁ entries₂ : List Entry} {cause : Fault}
      {conn' : Connection} :
      effect Driver.begin conn.driver = ⟨.ok (), d, entries⟩ →
      Stops compile logging (conn.driving d) rows cause conn' entries₁ →
      effect Driver.rollback conn'.driver = ⟨.ok (), d', entries₂⟩ →
      InOrder compile logging conn rows (.error (.transaction (some cause) "" conn'.lastQuery none))
        (conn'.driving d') (entries ++ entries₁ ++ entries₂)

/-- So they do over a client library that never fails to commit or to roll back. -/
theorem Backend.endsWell_cursors {bare : Bool} {client : Client}
    (hcommit : ∀ past, client.commit past = .ok ())
    (hrollback : ∀ past, client.rollback past = .ok ()) : (cursors bare client).EndsWell where
  commit d hd := by
    obtain ⟨journal, hrun⟩ := Driver.runOn_commit ⟨d, []⟩ hd
    rw [effect, hrun, hcommit]
    rfl
  rollback d hd := by
    obtain ⟨journal, hrun⟩ := Driver.runOn_rollback ⟨d, []⟩ hd
    rw [effect, hrun, hrollback]
    rfl

variable {r : Reaction} {s : Session} {b c : Nat} {x : Builder} {conn : Connection}
  {st : Statements} {op : Operation}

/-! ## The parts of a batch -/

/-- Statements and their copy insert alike. -/
theorem Adapter.compile_copied {copy : Statements} (h : st.copied = .ok copy)
    (hop : op.isInsert = true) (a : Adapter) (row : Value) :
    a.compile op copy [row] = a.compile op st [row] := by
  obtain ⟨groupings, -, h⟩ := bind_ok h
  have hcopy : copy = { st with groupBys := .list groupings } := by
    cases hunions : st.unions with
    | none =>
      rw [hunions] at h
      cases h
    | some members =>
      rw [hunions] at h
      cases h
      rfl
  subst hcopy
  cases op with
  | insert | insertIgnore | replace => rfl
  | select | update | delete | criteria => cases hop

/-- Running statements leaves a transaction open and the back end as it is. -/
theorem Driver.keeps_inserting_poised (back : Backend) (isOpen : Bool) (q : CompiledQuery) :
    Keeps (Poised back isOpen) (inserting q) :=
  keeps_inserting q (keeps_execute_poised _ _) keeps_insertId_poised

namespace Builder

section

variable (hconn : s.connections[c]? = some conn)
include hconn

theorem runIn_openTransaction (hidle : conn.driver.inTransaction = false) {outcome : Result Unit}
    {d : Driver} {entries : List Entry}
    (hbegin : effect Driver.begin conn.driver = ⟨outcome, d, entries⟩) :
    runIn r (openTransaction c) s = (outcome >>= fun _ => .ok true,
      s.used c (conn.driving d) (s.journal ++ entries)) := by
  rw [openTransaction, runIn_bind_ok (runIn_inTransaction hconn), hidle]
  show runIn r (onDriver c Driver.begin >>= fun _ => pure true) s = _
  rw [runIn_bind, runIn_onDriver_used hconn Appends.begin, hbegin]
  cases outcome <;> rfl

theorem runIn_commitTransaction (hopen : conn.driver.inTransaction = true) {outcome : Result Unit}
    {d : Driver} {entries : List Entry}
    (hcommit : effect Driver.commit conn.driver = ⟨outcome, d, entries⟩) :
    runIn r (closeTransaction c true) s =
      (outcome, s.used c (conn.driving d) (s.journal ++ entries)) := by
  rw [closeTransaction, runIn_bind_ok (runIn_inTransaction hconn), hopen]
  show runIn r (onDriver c Driver.commit) s = _
  rw [runIn_onDriver_used hconn Appends.commit, hcommit]

/-- Nothing is rolled back where nothing was opened. -/
theorem runIn_abandon_unopened (α : Type) (cause : Fault) :
    runIn r (abandon c false cause : Action α) s =
      (.error (.transaction (some cause) "" conn.lastQuery none), s) := by
  rw [abandon, runIn_bind_ok (runIn_inTransaction hconn), Bool.false_and]
  exact runIn_bind_ok (runIn_connection hconn)

theorem runIn_rollbackTransaction (α : Type) (hopen : conn.driver.inTransaction = true)
    {d : Driver} {entries : List Entry}
    (hrollback : effect Driver.rollback conn.driver = ⟨.ok (), d, entries⟩) (cause : Fault) :
    runIn r (abandon c true cause : Action α) s =
      (.error (.transaction (some cause) "" conn.lastQuery none),
        s.used c (conn.driving d) (s.journal ++ entries)) := by
  have hend : runIn r (onDriver c Driver.rollback) s =
      (.ok (), s.used c (conn.driving d) (s.journal ++ entries)) := by
    rw [runIn_onDriver_used hconn Appends.rollback, hrollback]
  have hafter : runIn r (rollbackAfter c) s =
      (.ok ("", none), s.used c (conn.driving d) (s.journal ++ entries)) := by
    rw [rollbackAfter, runIn_bind_ok (a := .ok ()) (by rw [runIn_outcomeOf, hend])]
    rfl
  rw [abandon, runIn_bind_ok (runIn_inTransaction hconn), hopen]
  dsimp only
  rw [Bool.and_self, if_pos rfl, runIn_bind_ok hafter,
    runIn_bind_ok (runIn_connection (used_connected hconn _ _))]
  rfl

end

/-- Rows inserted in a transaction of their own. -/
theorem runIn_within_rows {t : Nat} {y : Builder} {copy : Statements}
    (h : s.Serves t c y conn copy) (hidle : conn.driver.inTransaction = false)
    (hends : conn.driver.backend.EndsWell) (op : Operation) {rows : List Value}
    (hrows : ∀ row ∈ rows, ∃ entries, row = .map entries) :
    ∃ outcome after entries journal,
      InOrder (fun row => conn.adapter.compile op copy [row]) s.logging conn rows outcome after
        entries ∧
      traffic journal = traffic s.journal ++ traffic entries ∧
      runIn r (within c (insertAll op rows t)) s =
        (outcome, s.used c after journal) := by
  cases hbegin : effect Driver.begin conn.driver with
  | mk begun d entries =>
  let s₁ := s.used c (conn.driving d) (s.journal ++ entries)
  have hopen := runIn_openTransaction (r := r) h.connected hidle hbegin
  cases begun with
  | error cause =>
    refine ⟨_, _, _, s.journal ++ entries, .unbegun hbegin, traffic_append _ _, ?_⟩
    rw [within, runIn_bind_ok (a := .error cause) (by rw [runIn_outcomeOf, hopen]; rfl)]
    exact runIn_abandon_unopened (used_connected h.connected _ _) _ cause
  | ok u =>
    have h₁ : s₁.Serves t c y (conn.driving d) copy := h.used (conn.driving d) rfl _
    obtain ⟨outcome, conn₂, entries₁, journal, hproceeds, hjournal, hrun⟩ :=
      runIn_insertAll (r := r) h₁ op hrows
    have hpoised : Poised conn.driver.backend true conn₂.driver :=
      hproceeds.keeps (Driver.keeps_inserting_poised _ _) (Driver.poised_of_begin hbegin)
    have hconn₂ : (s₁.used c conn₂ journal).connections[c]? = some conn₂ :=
      used_connected h₁.connected _ _
    have htraffic (entries₂ : List Entry) : traffic (journal ++ entries₂) =
        traffic s.journal ++ traffic (entries ++ entries₁ ++ entries₂) := by
      have hbegun : traffic s₁.journal = traffic s.journal ++ traffic entries := traffic_append _ _
      simp only [traffic_append, hjournal, hbegun, List.append_assoc]
    cases hproceeds with
    | inserted hinserts =>
      cases hcommit : effect Driver.commit conn₂.driver with
      | mk ended d' entries₂ =>
      obtain rfl : ended = .ok () :=
        (congrArg Effect.outcome hcommit).symm.trans (hends.commit _ hpoised.1)
      have hclose := runIn_commitTransaction (r := r) hconn₂ hpoised.2 hcommit
      refine ⟨_, _, _, journal ++ entries₂, .inserted hbegin hinserts hcommit, htraffic _, ?_⟩
      rw [runIn_within_closed hopen hrun hclose, used_used, used_used]
      rfl
    | stopped hstops =>
      cases hrollback : effect Driver.rollback conn₂.driver with
      | mk ended d' entries₂ =>
      obtain rfl : ended = .ok () :=
        (congrArg Effect.outcome hrollback).symm.trans (hends.rollback _ hpoised.1)
      refine ⟨_, _, _, journal ++ entries₂, .stopped hbegin hstops hrollback, htraffic _, ?_⟩
      rw [runIn_within_failed hopen hrun,
        runIn_rollbackTransaction hconn₂ _ hpoised.2 hrollback, used_used, used_used]
      rfl

theorem insert_rows {rows : List Value} (hsome : rows.isEmpty = false) (op : Operation) (b : Nat) :
    insert op (.list rows) b = insertBatch b fun t => insertAll op rows t := by
  rw [insert, hsome]
  rfl

/-- A batch outside any transaction has one of its own. -/
theorem runIn_insert_rows (h : s.Plain b c x conn st) (hends : conn.driver.backend.EndsWell)
    (hop : op.isInsert = true) {rows : List Value}
    (hrows : ∀ row ∈ rows, ∃ entries, row = .map entries) (hsome : rows.isEmpty = false) :
    match st.copied with
    | .error f => runIn r (insert op (.list rows) b) s = (.error f, s)
    | .ok copy => ∃ outcome after entries journal,
      InOrder (fun row => conn.adapter.compile op st [row]) s.logging conn rows outcome after
        entries ∧
      traffic journal = traffic s.journal ++ traffic entries ∧
      runIn r (insert op (.list rows) b) s =
        (outcome.map Value.list, (s.withBuilder c .transaction copy).used c after journal) := by
  rw [insert_rows hsome, insertBatch, runIn_bind_ok (runIn_connectionOf h.opened),
    runIn_bind_ok (runIn_inTransaction h.connected), h.idle, if_neg Bool.false_ne_true, runIn_bind,
    runIn_transaction h.builder h.kind h.opened h.record]
  cases hcopy : st.copied with
  | error f => rfl
  | ok copy =>
    let begun := s.withBuilder c .transaction copy
    have ht : begun.Serves s.builders.size c
        { connection := some c, record := s.records.size, kind := .transaction } conn copy :=
      ⟨Array.getElem?_push_size, rfl, h.connected, Array.getElem?_push_size, h.unheard⟩
    obtain ⟨outcome, after, entries, journal, hinOrder, hjournal, hrun⟩ :=
      runIn_within_rows (r := r) ht h.idle hends op hrows
    simp only [Adapter.compile_copied hcopy hop] at hinOrder
    refine ⟨outcome, after, entries, journal, hinOrder, hjournal, ?_⟩
    dsimp only
    rw [hrun]
    cases outcome <;> rfl

end Builder

/-- Single inserts of the rows, one after another, and the batch of the rows: the rows are compiled
and executed alike, but the batch does so in a transaction of its own. -/
theorem batch_in_order (h : s.Plain b c x conn st) (hends : conn.driver.backend.EndsWell)
    (hop : op.isInsert = true) {rows : List Value}
    (hrows : ∀ row ∈ rows, ∃ entries, row = .map entries) :
    let compile (row : Value) := conn.adapter.compile op st [row]
    (∃ outcome after entries journal,
      Proceeds compile s.logging conn rows outcome after entries ∧
      traffic journal = traffic s.journal ++ traffic entries ∧
      runIn r (insertAll op rows b) s = (outcome, s.used c after journal)) ∧
    if rows.isEmpty then runIn r (insert op (.list rows) b) s = (.ok (.list []), s)
    else match st.copied with
      | .error f => runIn r (insert op (.list rows) b) s = (.error f, s)
      | .ok copy => ∃ outcome after entries journal,
        InOrder compile s.logging conn rows outcome after entries ∧
        traffic journal = traffic s.journal ++ traffic entries ∧
        runIn r (insert op (.list rows) b) s =
          (outcome.map Value.list, (s.withBuilder c .transaction copy).used c after journal) := by
  intro compile
  refine ⟨runIn_insertAll h.toServes op hrows, ?_⟩
  cases rows with
  | nil => rfl
  | cons row rows => exact runIn_insert_rows h hends hop hrows rfl

/-! ## A row that fails -/

/-- Statements about one table. -/
def oneTable : Statements := { tables := .list [.text "t"] }

/-- A session with one builder, of a kind and on one table. -/
def oneWriter (kind : BuilderKind) (client : Client) : Session :=
  { oneBuilder client with
    builders := #[{ connection := some 0, record := 0, kind }], records := #[oneTable] }

/-- Rows for two columns. -/
def twoRows : List Value :=
  [.map [(.text "a", .int 1)], .map [(.text "b", .int 2)]]

theorem rows_twoRows : ∀ row ∈ twoRows, ∃ entries, row = .map entries := by
  intro row hrow
  simp only [twoRows, List.mem_cons, List.not_mem_nil, or_false] at hrow
  obtain rfl | rfl := hrow
  · exact ⟨_, rfl⟩
  · exact ⟨_, rfl⟩

theorem serves_oneWriter (kind : BuilderKind) (client : Client) : (oneWriter kind client).Serves 0 0
    { connection := some 0, record := 0, kind } (connected client) oneTable :=
  ⟨rfl, rfl, rfl, rfl, rfl⟩

/-- The query of a row with one column. -/
def rowQuery (column : String) (n : Int) : CompiledQuery where
  sql := .text ("INSERT INTO t (" ++ column ++ ") VALUES (?)")
  bindings := .positional [.int n]
  adapter := some { dialect := .sqlite }

theorem compile_twoRows (client : Client) :
    (connected client).adapter.compile .insert oneTable [.map [(.text "a", .int 1)]] =
        .ok (rowQuery "a" 1) ∧
      (connected client).adapter.compile .insert oneTable [.map [(.text "b", .int 2)]] =
        .ok (rowQuery "b" 2) := by
  constructor <;> cbv

/-- A driver that fails at the second column does so in a transaction as well. -/
theorem attempts_begun :
    let d := (effect Driver.begin (connected (Scenario.client { failOn := "(b)" })).driver).driver
    let first := Driver.attempt false (rowQuery "a" 1) d
    first.outcome.isOk = true ∧
      (Driver.attempt false (rowQuery "b" 2) first.driver).outcome.isOk = false := by
  decide +kernel

theorem batch_in_order_of_failing_row :
    let client := Scenario.client { failOn := "(b)" }
    let r : Reaction := fun _ _ => pure ()
    let s := oneWriter .query client
    let compile (row : Value) := (connected client).adapter.compile .insert oneTable [row]
    s.Plain 0 0 { connection := some 0, record := 0 } (connected client) oneTable ∧
    (connected client).driver.backend.EndsWell ∧ Operation.insert.isInsert = true ∧
    (∀ row ∈ twoRows, ∃ entries, row = .map entries) ∧
    ∃ outcome after entries journal,
      InOrder compile s.logging (connected client) twoRows outcome after entries ∧
      traffic journal = traffic s.journal ++ traffic entries ∧
      runIn r (insert .insert (.list twoRows) 0) s =
        (outcome.map Value.list, (s.withBuilder 0 .transaction oneTable).used 0 after journal) ∧
      outcome.isOk = false := by
  intro client r s compile
  have hplain : s.Plain 0 0 { connection := some 0, record := 0 } (connected client) oneTable :=
    ⟨serves_oneWriter .query client, nofun, rfl⟩
  have hends : (connected client).driver.backend.EndsWell :=
    Backend.endsWell_cursors (fun _ => rfl) fun _ => rfl
  have hop : Operation.insert.isInsert = true := rfl
  obtain ⟨outcome, after, entries, journal, hinOrder, hjournal, hrun⟩ :=
    (batch_in_order (r := r) hplain hends hop rows_twoRows).2
  refine ⟨hplain, hends, hop, rows_twoRows, outcome, after, entries, journal, hinOrder, hjournal,
    hrun, ?_⟩
  cases hinOrder with
  | unbegun => rfl
  | stopped => rfl
  | inserted hbegin hinserts =>
    obtain ⟨hok, hfails⟩ := attempts_begun
    rw [show effect Driver.begin (connected (Scenario.client { failOn := "(b)" })).driver = _ from
      hbegin] at hok hfails
    have hfirst : compile (.map [(.text "a", .int 1)]) = .ok (rowQuery "a" 1) :=
      (compile_twoRows client).1
    have hsecond : compile (.map [(.text "b", .int 2)]) = .ok (rowQuery "b" 2) :=
      (compile_twoRows client).2
    exact ((Proceeds.inserted hinserts).second hfirst hsecond hok hfails).1

end SqlBuilder
