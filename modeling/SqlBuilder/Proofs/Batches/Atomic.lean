import SqlBuilder.Proofs.Batches.InOrder
import SqlBuilder.Proofs.Transaction.Implicit

/-!
# Whether a batch is atomic

A batch that a builder inserts outside any transaction is one transaction: it is ended once, and its
rows become durable together or not at all. A builder of a transaction takes it for granted that a
transaction is open. Where none is, its batch begins none, and each row is committed on its own, so
the rows before one that fails are durable (`batch_durable`).
-/

set_option autoImplicit false

namespace SqlBuilder

open Session Builder
open Driver (Keeps Leads Outside Unended effect)

/-! ## Statements outside a transaction -/

theorem Ran.of_lt {calls past : History} {n : Nat} (h : Ran (calls ++ past) n)
    (hn : n < past.length) : Ran past n := by
  induction calls with
  | nil => exact h
  | cons call calls ih =>
    obtain ⟨hlength, -⟩ | h := (ran_cons call).1 h
    · have hle : (calls ++ past).length = n := hlength
      rw [List.length_append] at hle
      omega
    · exact ih h

/-- Every statement made since `past` that succeeded is durable. -/
structure Swept (past history : History) : Prop where
  since : ∃ calls, history = calls ++ past
  durable : ∀ n, past.length ≤ n → Ran history n → n ∈ (ledger history).durable

namespace Swept

variable {past middle history : History}

theorem refl (past : History) : Swept past past :=
  ⟨⟨[], rfl⟩, fun _ hle hran => absurd hran.lt (Nat.not_lt.2 hle)⟩

theorem trans (h : Swept past middle) (h' : Swept middle history) : Swept past history := by
  obtain ⟨⟨calls, rfl⟩, hdurable⟩ := h
  obtain ⟨⟨calls', rfl⟩, hdurable'⟩ := h'
  refine ⟨⟨calls' ++ calls, (List.append_assoc ..).symm⟩, fun n hle hran => ?_⟩
  by_cases hn : (calls ++ past).length ≤ n
  · exact hdurable' n hn hran
  · exact durable_mono (hdurable n hle (hran.of_lt (Nat.lt_of_not_le hn))) calls'

/-- A call that is no statement or fails. -/
theorem cons (h : Swept past history) {call : ClientCall × Bool}
    (hcall : ∀ sql bindings, call ≠ (.run sql bindings, true)) : Swept past (call :: history) := by
  obtain ⟨⟨calls, rfl⟩, hdurable⟩ := h
  refine ⟨⟨call :: calls, rfl⟩, fun n hle hran => ?_⟩
  obtain ⟨-, sql, bindings, heq⟩ | hran := (ran_cons call).1 hran
  · exact absurd heq (hcall sql bindings)
  · exact durable_mono (hdurable n hle hran) [call]

/-- A statement that is committed at once. -/
theorem committed (h : Swept past history) (sql : Value) (bindings : Bindings) :
    Swept past ((.commit, true) :: (.run sql bindings, true) :: history) := by
  obtain ⟨⟨calls, rfl⟩, hdurable⟩ := h
  refine ⟨⟨(.commit, true) :: (.run sql bindings, true) :: calls, rfl⟩, fun n hle hran => ?_⟩
  obtain ⟨-, _, _, heq⟩ | hran := (ran_cons _).1 hran
  · cases heq
  obtain ⟨rfl, -⟩ | hran := (ran_cons _).1 hran
  · exact List.mem_append_right _ (List.mem_append_right _ (List.mem_singleton_self _))
  · exact durable_mono (hdurable n hle hran) [(.commit, true), (.run sql bindings, true)]

end Swept

namespace Driver

variable {bare : Bool} {client : Client} {style : Value} {past : History}

/-- A failure the driver does not recognize is passed on. -/
theorem leads_failStatement_unknown (statement : Value) {f : Failure}
    (hunknown : recognizes (.cursors bare client) f.kind = false) (α : Type) :
    Leads bare client style (failStatement client statement f : Action α) past (.error f.fault)
      past := by
  refine .read fun d hd => ?_
  rw [hd.backend, hunknown]
  exact .throw _

variable (hcommit : ∀ past, client.commit past = .ok ())
  (hrollback : ∀ past, client.rollback past = .ok ())
include hrollback

/-- A statement that fails has not run, rolled back or not. -/
theorem swept_send_rejected {sql statement : Value} {bindings params : Bindings}
    (hrestyle : Placeholder.restyle style id sql bindings = .ok (statement, params))
    (hopen : client.openCursor past = .ok ()) {f : Failure}
    (hrun : client.run ((.openCursor, true) :: past) statement params = .error f) :
    ∃ fault history,
      Leads bare client style (send client sql bindings) past (.error fault) history ∧
      Swept past history := by
  have hopened : Swept past ((.openCursor, true) :: past) := (Swept.refl past).cons nofun
  have hrejected : Swept past ((.run statement params, false) :: (.openCursor, true) :: past) :=
    hopened.cons nofun
  have hfailed {history : History} {fault : Fault} (h : Leads bare client style
      (failStatement client statement f : Action Reply)
      ((.run statement params, false) :: (.openCursor, true) :: past) (.error fault) history) :
      Leads bare client style (send client sql bindings) past (.error fault) history := by
    refine leads_send hrestyle hopen ?_
    rw [hrun]
    exact h
  cases hknown : recognizes (.cursors bare client) f.kind with
  | true =>
    exact ⟨_, _, hfailed (leads_failStatement statement hknown (hrollback _)),
      hrejected.cons nofun⟩
  | false =>
    exact ⟨_, _, hfailed (leads_failStatement_unknown statement hknown Reply), hrejected⟩

include hcommit

/-- A statement outside a transaction that succeeds is durable. -/
theorem swept_execute (style : Value) (past : History) (sql : Value) (bindings : Bindings) :
    ∃ outcome history, Leads bare client style (execute sql bindings) past outcome history ∧
      Swept past history := by
  have hsent {outcome : Result Value} {history : History}
      (h : Leads bare client style (do
        let reply ← send client sql bindings
        update fun d => { d with lastInsertId := reply.lastId.getD .null }
        release (.cursors bare client)
        autocommit client
        ofResult reply.rowCount.atLeastZero) past outcome history) :
      Leads bare client style (execute sql bindings) past outcome history := by
    refine .read fun d hd => ?_
    rw [hd.backend]
    exact h
  cases hrestyle : Placeholder.restyle style id sql bindings with
  | error f =>
    have hfails : Leads bare client style (restyle sql bindings) past (.error f) past := by
      refine .read fun d hd => ?_
      rw [hd.backend, hd.style]
      change Leads bare client style (ofResult (Placeholder.restyle style id sql bindings)) _ _ _
      rw [hrestyle]
      exact .ofResult _
    exact ⟨_, _, hsent (.fails (.fails hfails)), .refl past⟩
  | ok restyled =>
  obtain ⟨statement, params⟩ := restyled
  cases hopen : client.openCursor past with
  | error f =>
    exact ⟨_, _, hsent (.fails (leads_send_unopened hrestyle hopen)), (Swept.refl past).cons nofun⟩
  | ok u =>
  have hopened : Swept past ((.openCursor, true) :: past) := (Swept.refl past).cons nofun
  cases hrun : client.run ((.openCursor, true) :: past) statement params with
  | ok reply =>
    have hdone : Leads bare client style (autocommit client)
        ((.run statement params, true) :: (.openCursor, true) :: past) (.ok ())
        ((.commit, true) :: (.run statement params, true) :: (.openCursor, true) :: past) := by
      have h : Leads bare client style (autocommit client)
          ((.run statement params, true) :: (.openCursor, true) :: past) _ _ := leads_autocommit
      rw [hcommit] at h
      exact h
    exact ⟨_, _, hsent (.bind (leads_send_ran hrestyle hopen hrun) (.bind
      (leads_update fun d hd => ⟨hd.backend, hd.style, hd.inTransaction, hd.history⟩)
      (.bind (leads_note _) (.bind hdone (.ofResult _))))), hopened.committed statement params⟩
  | error f =>
    obtain ⟨_, _, hsend, hswept⟩ := swept_send_rejected hrollback hrestyle hopen hrun
    exact ⟨_, _, hsent (.fails hsend), hswept⟩

/-- So every row that was inserted by a statement of its own is durable. -/
theorem keeps_inserting_swept (style : Value) (past : History) (q : CompiledQuery) :
    Keeps (fun d => ∃ history, Outside bare client style history d ∧ Swept past history)
      (inserting q) := by
  refine keeps_inserting q ?_ (.read fun _ _ => .pure _)
  rintro ch ⟨history, houtside, hswept⟩
  obtain ⟨outcome, history', hleads, hswept'⟩ :=
    swept_execute hcommit hrollback style history q.sql q.bindings
  exact ⟨history', (hleads ch houtside).2, hswept.trans hswept'⟩

end Driver

variable {r : Reaction} {s : Session} {b c : Nat} {x : Builder} {conn after : Connection}
  {st : Statements} {op : Operation} {bare : Bool} {client : Client}
  {compile : Value → Result CompiledQuery} {logging : Bool} {rows : List Value}
  {entries : List Entry}

/-! ## Ends -/

/-- Once a transaction is ended, its statements are durable just if it was committed. -/
theorem EndedOnce.durable_iff {outcome : Result Unit} {before inside : Connection}
    (h : EndedOnce outcome before inside after) {n : Nat} (hle : before.driver.history.length ≤ n)
    (hran : Ran after.driver.history n) :
    n ∈ (ledger after.driver.history).durable ↔ outcome.isOk = true := by
  rw [h.ended] at hran ⊢
  have hinside : Ran inside.driver.history n := by
    refine ((ran_cons _).1 hran).resolve_left ?_
    rintro ⟨-, sql, bindings, heq⟩
    cases outcome <;> cases heq
  obtain ⟨hdurable, hpending⟩ := ledger_of_unended h.unended hle
  cases outcome with
  | ok u => exact ⟨fun _ => rfl, fun _ => List.mem_append_right _ (hpending.2 hinside)⟩
  | error f => exact ⟨fun hn => absurd hn hdurable, nofun⟩

section

variable (hbackend : conn.driver.backend = .cursors bare client)
  (hcommit : ∀ past, client.commit past = .ok ())
  (hrollback : ∀ past, client.rollback past = .ok ())
include hbackend hcommit hrollback

/-- A batch in a transaction of its own is ended once. -/
theorem InOrder.endedOnce {outcome : Result (List Value)}
    (h : InOrder compile logging conn rows outcome after entries) :
    ∃ inside, EndedOnce (outcome.map fun _ => ()) conn inside after := by
  have hkeeps (q : CompiledQuery) :
      Keeps (Driver.Held bare client true (Unended conn.driver.history)) (Driver.inserting q) :=
    Driver.keeps_inserting q (Driver.keeps_execute (Driver.kept_unended _) _ _)
      Driver.keeps_insertId
  obtain ⟨journal, hrun⟩ := Driver.runOn_begin ⟨conn.driver, []⟩ hbackend
  have hbegun : effect Driver.begin conn.driver =
      ⟨.ok (), { conn.driver with inTransaction := true }, journal⟩ := by
    rw [effect, hrun]
  have hheld : Driver.Held bare client true (Unended conn.driver.history)
      { conn.driver with inTransaction := true } :=
    ⟨hbackend, fun _ => rfl, [], rfl, fun _ h => absurd h List.not_mem_nil⟩
  cases h with
  | unbegun hbegin =>
    rw [hbegun] at hbegin
    cases hbegin
  | @inserted d d' _ _ _ ids inside hbegin hinserts hend =>
    rw [hbegun] at hbegin
    cases hbegin
    have hinside := hinserts.keeps hkeeps hheld
    obtain ⟨journal', hrun'⟩ := Driver.runOn_commit ⟨inside.driver, []⟩ hinside.backend
    rw [effect, hrun', hcommit] at hend
    cases hend
    exact ⟨inside, hinside.history, rfl, rfl⟩
  | @stopped d d' _ _ _ cause inside hbegin hstops hend =>
    rw [hbegun] at hbegin
    cases hbegin
    have hinside := (Proceeds.stopped hstops).keeps hkeeps hheld
    obtain ⟨journal', hrun'⟩ := Driver.runOn_rollback ⟨inside.driver, []⟩ hinside.backend
    rw [effect, hrun', hrollback] at hend
    cases hend
    exact ⟨inside, hinside.history, rfl, rfl⟩

/-- Rows that are inserted outside a transaction are durable, whatever becomes of the others. -/
theorem Proceeds.durable (hidle : conn.driver.inTransaction = false)
    {outcome : Result (List Value)} (h : Proceeds compile logging conn rows outcome after entries)
    {n : Nat} (hle : conn.driver.history.length ≤ n) (hran : Ran after.driver.history n) :
    n ∈ (ledger after.driver.history).durable := by
  have hswept := h.keeps
    (Driver.keeps_inserting_swept hcommit hrollback conn.driver.style conn.driver.history)
    ⟨_, ⟨hbackend, rfl, hidle, rfl⟩, .refl _⟩
  obtain ⟨history, houtside, hswept⟩ := hswept
  rw [houtside.history] at hran ⊢
  exact hswept.durable n hle hran

end

/-- A batch of a builder outside any transaction is all or nothing; that of a builder of a
transaction, where none is open, is not: each of its rows that is executed is durable. -/
theorem batch_durable (h : s.Serves b c x conn st)
    (hbackend : conn.driver.backend = .cursors bare client)
    (hidle : conn.driver.inTransaction = false) (hcommit : ∀ past, client.commit past = .ok ())
    (hrollback : ∀ past, client.rollback past = .ok ()) (hop : op.isInsert = true)
    (hrows : ∀ row ∈ rows, ∃ entries, row = .map entries) (hsome : rows.isEmpty = false) :
    let compile (row : Value) := conn.adapter.compile op st [row]
    (x.kind ≠ .transaction → match st.copied with
      | .error f => runIn r (insert op (.list rows) b) s = (.error f, s)
      | .ok _ => ∃ outcome s' inside after entries,
        runIn r (insert op (.list rows) b) s = (outcome.map Value.list, s') ∧
        s'.connections[c]? = some after ∧
        InOrder compile s.logging conn rows outcome after entries ∧
        EndedOnce (outcome.map fun _ => ()) conn inside after ∧
        ∀ n, conn.driver.history.length ≤ n → Ran after.driver.history n →
          (n ∈ (ledger after.driver.history).durable ↔ outcome.isOk = true)) ∧
    (x.kind = .transaction → ∃ outcome s' after entries,
      runIn r (insert op (.list rows) b) s = (outcome.map Value.list, s') ∧
      s'.connections[c]? = some after ∧
      Proceeds compile s.logging conn rows outcome after entries ∧
      ∀ n, conn.driver.history.length ≤ n → Ran after.driver.history n →
        n ∈ (ledger after.driver.history).durable) := by
  intro compile
  constructor
  · intro hkind
    have hends : conn.driver.backend.EndsWell :=
      hbackend ▸ Backend.endsWell_cursors hcommit hrollback
    have hbatch := runIn_insert_rows (r := r) ⟨h, hkind, hidle⟩ hends hop hrows hsome
    cases hcopy : st.copied with
    | error f =>
      rw [hcopy] at hbatch
      exact hbatch
    | ok copy =>
      rw [hcopy] at hbatch
      obtain ⟨outcome, after, entries, journal, hinOrder, -, hrun⟩ := hbatch
      obtain ⟨inside, hended⟩ := hinOrder.endedOnce hbackend hcommit hrollback
      have hconn : (s.withBuilder c .transaction copy).connections[c]? = some conn := h.connected
      refine ⟨outcome, _, inside, after, entries, hrun, used_connected hconn _ journal, hinOrder,
        hended, fun n hle hran => ?_⟩
      rw [hended.durable_iff hle hran]
      cases outcome <;> rfl
  · intro hkind
    obtain ⟨outcome, after, entries, journal, hproceeds, -, hrun⟩ :=
      runIn_insertAll (r := r) h op hrows
    refine ⟨outcome, _, after, entries, ?_, used_connected h.connected _ journal, hproceeds,
      fun n hle hran => hproceeds.durable hbackend hcommit hrollback hidle hle hran⟩
    rw [insert_rows hsome, insertBatch, runIn_bind_ok (runIn_connectionOf h.opened),
      runIn_bind_ok (runIn_inTransaction h.connected), hidle, if_neg Bool.false_ne_true,
      transaction, runIn_bind, runIn_bind_ok (runIn_builder h.builder), hkind]
    dsimp only
    rw [runIn_bind, hrun]
    cases outcome <;> rfl

/-! ## A batch without a transaction -/

/-- The call is a statement that succeeded. -/
def isRun : ClientCall × Bool → Bool
  | (.run _ _, true) => true
  | _ => false

theorem ran_of_isRun {history : History} {n : Nat}
    (h : history.reverse[n]?.map isRun = some true) : Ran history n := by
  obtain ⟨call, hcall, hrun⟩ := Option.map_eq_some_iff.1 h
  obtain ⟨hlt, hget⟩ := List.getElem?_eq_some_iff.1 hcall
  have hsplit : history.reverse =
      history.reverse.take n ++ call :: history.reverse.drop (n + 1) := by
    rw [← hget, ← List.drop_eq_getElem_cons hlt, List.take_append_drop]
  have hhistory := congrArg List.reverse hsplit
  rw [List.reverse_reverse, List.reverse_append, List.reverse_cons, List.append_assoc] at hhistory
  unfold isRun at hrun
  split at hrun
  · refine ⟨_, _, _, _, hhistory, ?_⟩
    show (history.reverse.take n).reverse.length = n
    rw [List.length_reverse, List.length_take]
    omega
  · cases hrun

/-- The batch of a builder of a transaction, where none is open. -/
def unopened : Result Value × Session :=
  runIn (fun _ _ => pure ()) (insert .insert (.list twoRows) 0)
    (oneWriter .transaction (Scenario.client { failOn := "(b)" }))

/-- Outside a transaction the driver runs the first query and fails at the second. -/
theorem attempts_unopened :
    let first := Driver.attempt false (rowQuery "a" 1)
      (connected (Scenario.client { failOn := "(b)" })).driver
    let second := Driver.attempt false (rowQuery "b" 2) first.driver
    first.outcome.isOk = true ∧ second.outcome.isOk = false ∧
      second.driver.history.reverse[1]?.map isRun = some true := by
  decide +kernel

/-- The batch fails at its second row, and its first one is durable. -/
theorem batch_durable_of_unopened :
    let client := Scenario.client { failOn := "(b)" }
    let s := oneWriter .transaction client
    s.Serves 0 0 { connection := some 0, record := 0, kind := .transaction } (connected client)
      oneTable ∧
    (connected client).driver.backend = .cursors false client ∧
    (connected client).driver.inTransaction = false ∧
    (∀ past, client.commit past = .ok ()) ∧ (∀ past, client.rollback past = .ok ()) ∧
    Operation.insert.isInsert = true ∧ (∀ row ∈ twoRows, ∃ entries, row = .map entries) ∧
    twoRows.isEmpty = false ∧
    ∃ outcome s' after, unopened = (outcome, s') ∧ outcome.isOk = false ∧
      s'.connections[0]? = some after ∧ 1 ∈ (ledger after.driver.history).durable := by
  intro client s
  have hserves := serves_oneWriter .transaction client
  have hcommit : ∀ past, client.commit past = .ok () := fun _ => rfl
  have hrollback : ∀ past, client.rollback past = .ok () := fun _ => rfl
  have hop : Operation.insert.isInsert = true := rfl
  obtain ⟨outcome, s', after, entries, hrun, hafter, hproceeds, hdurable⟩ :=
    (batch_durable (r := fun _ _ => pure ()) hserves rfl rfl hcommit hrollback hop rows_twoRows
      rfl).2 rfl
  obtain ⟨hfirst, hsecond⟩ := compile_twoRows client
  obtain ⟨hok, hfails, hran⟩ := attempts_unopened
  obtain ⟨hfailed, hdriver⟩ := hproceeds.second hfirst hsecond hok hfails
  refine ⟨hserves, rfl, rfl, hcommit, hrollback, hop, rows_twoRows, rfl, outcome.map Value.list, s',
    after, hrun, ?_, hafter, hdurable 1 (Nat.zero_le 1) ?_⟩
  · cases outcome with
    | error cause => rfl
    | ok ids => cases hfailed
  · subst client
    refine ran_of_isRun ?_
    rw [hdriver]
    exact hran

end SqlBuilder
