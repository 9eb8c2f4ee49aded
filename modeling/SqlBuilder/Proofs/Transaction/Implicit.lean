import SqlBuilder.Proofs.Transaction.AllOrNothing
import SqlBuilder.Proofs.Transaction.Ledger

/-!
# The end of an implicit transaction

Where no transaction is open, a statement on a cursor driver is to end with a commit, or with a
rollback and a driver fault (`Ended`). The driver deals with one kind of failure only, that of the
statement itself. Where no cursor can be opened, the rows cannot be fetched or the commit fails, the
failure of the client library is passed on as it is and nothing is rolled back.

`Client.course` reads off a client library how far a statement gets. A request ends its implicit
transaction just if the statement fails or nothing does (`request_ended_iff`). Otherwise a statement
that ran stays pending.
-/

set_option autoImplicit false

namespace SqlBuilder

/-- How far a statement gets on a client library. -/
inductive Course where
  /-- No cursor is opened. -/
  | unopened (f : Failure)
  /-- The statement fails. -/
  | rejected (f : Failure)
  /-- The statement runs, and its rows are not fetched. -/
  | unread (f : Failure)
  /-- The statement runs, and it is not committed. -/
  | uncommitted (f : Failure)
  | done (reply : Reply)

namespace Course

/-- The statement fails, or nothing does. -/
def settles : Course → Bool
  | .rejected _ | .done _ => true
  | .unopened _ | .unread _ | .uncommitted _ => false

/-- What the driver makes of it: of the reply what `g` says, and of a failure of the statement a
fault of its own. -/
def outcome {α : Type} (statement : Value) (g : Reply → Result α) : Course → Result α
  | .rejected f => .error (.driver f.message statement)
  | .unopened f | .unread f | .uncommitted f => .error f.fault
  | .done reply => g reply

end Course

namespace Client

/-- A statement with a reply is committed. -/
def committing (client : Client) (reply : Reply) (past : History) : Course × History :=
  match client.commit past with
  | .error f => (.uncommitted f, (.commit, false) :: past)
  | .ok () => (.done reply, (.commit, true) :: past)

/-- The rows of a reply are fetched if the statement `reads`, and it is committed. -/
def closing (client : Client) (reads : Bool) (reply : Reply) (past : History) : Course × History :=
  if reads && reply.columns.isSome then
    match client.fetch past with
    | .error f => (.unread f, (.fetch, false) :: past)
    | .ok () => client.committing reply ((.fetch, true) :: past)
  else client.committing reply past

/-- How far a statement gets after the calls `past`, and all calls. Its rows are fetched if it
`reads`, and a statement that fails is rolled back. -/
def course (client : Client) (reads : Bool) (statement : Value) (params : Bindings)
    (past : History) : Course × History :=
  match client.openCursor past with
  | .error f => (.unopened f, (.openCursor, false) :: past)
  | .ok () =>
    match client.run ((.openCursor, true) :: past) statement params with
    | .error f =>
      (.rejected f,
       (.rollback, true) :: (.run statement params, false) :: (.openCursor, true) :: past)
    | .ok reply =>
      client.closing reads reply ((.run statement params, true) :: (.openCursor, true) :: past)

end Client

/-- A reply is of the form client libraries agree on: it counts rows with an integer and names
columns with something that can be a key. -/
structure Reply.Conforms (r : Reply) : Prop where
  rowCount : ∃ n, r.rowCount = .int n
  columns : ∀ names, r.columns = some names → ∀ name ∈ names, name.isKey = true

/-- What is known of a client library: the driver recognizes its failures to run a statement, its
replies are of the agreed form, and it can always roll back. -/
structure Client.Agreed (client : Client) (bare : Bool) : Prop where
  rejected : ∀ past sql bindings f, client.run past sql bindings = .error f →
    Driver.recognizes (.cursors bare client) f.kind = true
  reply : ∀ past sql bindings r, client.run past sql bindings = .ok r → r.Conforms
  rollback : ∀ past, client.rollback past = .ok ()

/-- A call ends its implicit transaction: it succeeds after a commit, or fails with a driver fault
after a rollback, and nothing is pending. -/
structure Ended {α : Type} (past : History) (outcome : Result α) (history : History) : Prop where
  last : ∃ calls, (history = (.commit, true) :: (calls ++ past) ∧ outcome.isOk = true) ∨
    (history = (.rollback, true) :: (calls ++ past) ∧
      ∃ message sql, outcome = .error (.driver message sql))
  pending : (ledger history).pending = []

/-- A reply whose columns are named by keys has rows. -/
theorem Reply.exists_namedRows {r : Reply}
    (h : ∀ names, r.columns = some names → ∀ name ∈ names, name.isKey = true) :
    ∃ rows, r.namedRows = .ok rows := by
  rw [Reply.namedRows]
  cases hcolumns : r.columns with
  | none => exact ⟨[], rfl⟩
  | some names =>
    have hrow (row : List Value) :
        namedRow (names.zip row) = pure (Value.ofPairs (names.zip row)) := by
      rw [namedRow, if_pos]
      · rfl
      · rw [List.all_eq_true]
        rintro ⟨name, v⟩ hmem
        exact h names hcolumns name (List.of_mem_zip hmem).1
    simp only [hrow, List.mapM_pure]
    exact ⟨_, rfl⟩

namespace Reply.Conforms

variable {r : Reply}

theorem rowCount_atLeastZero (h : r.Conforms) : ∃ v, r.rowCount.atLeastZero = .ok v := by
  obtain ⟨n, hn⟩ := h.rowCount
  exact ⟨_, by rw [hn]; rfl⟩

theorem namedRows (h : r.Conforms) : ∃ rows, r.namedRows = .ok rows :=
  exists_namedRows h.columns

end Reply.Conforms

namespace Driver

/-- A cursor driver that is in no transaction, after some calls. -/
structure Outside (bare : Bool) (client : Client) (style : Value) (past : History) (d : Driver) :
    Prop where
  backend : d.backend = .cursors bare client
  style : d.style = style
  inTransaction : d.inTransaction = false
  history : d.history = past

/-- From the calls `past` the action comes to the outcome and has made the calls `history` then. -/
def Leads {α : Type} (bare : Bool) (client : Client) (style : Value) (x : Action α)
    (past : History) (outcome : Result α) (history : History) : Prop :=
  ∀ ch, Outside bare client style past ch.driver →
    (runOn x ch).1 = outcome ∧ Outside bare client style history (runOn x ch).2.driver

variable {α β : Type} {bare : Bool} {client : Client} {style : Value}
  {past middle history : History}

/-! ## Sequences -/

namespace Leads

theorem pure (a : α) : Leads bare client style (Pure.pure a) past (.ok a) past :=
  fun _ h => ⟨rfl, h⟩

theorem throw (f : Fault) :
    Leads bare client style (MonadExcept.throw f : Action α) past (.error f) past :=
  fun _ h => ⟨rfl, h⟩

theorem ofResult (y : Result α) : Leads bare client style (Driver.ofResult y) past y past := by
  intro ch h
  rw [runOn_ofResult]
  exact ⟨rfl, h⟩

theorem bind {x : Action α} {k : α → Action β} {a : α} {outcome : Result β}
    (hx : Leads bare client style x past (.ok a) middle)
    (hk : Leads bare client style (k a) middle outcome history) :
    Leads bare client style (x >>= k) past outcome history := by
  intro ch h
  obtain ⟨ha, hmiddle⟩ := hx ch h
  rw [runOn_bind]
  generalize runOn x ch = p at ha hmiddle
  obtain ⟨_, ch'⟩ := p
  dsimp only at ha hmiddle ⊢
  rw [ha]
  exact hk ch' hmiddle

theorem fails {x : Action α} {k : α → Action β} {f : Fault}
    (hx : Leads bare client style x past (.error f) history) :
    Leads bare client style (x >>= k) past (.error f) history := by
  intro ch h
  obtain ⟨hf, hhistory⟩ := hx ch h
  rw [runOn_bind]
  generalize runOn x ch = p at hf hhistory
  obtain ⟨_, ch'⟩ := p
  dsimp only at hf hhistory ⊢
  rw [hf]
  exact ⟨rfl, hhistory⟩

theorem read {k : Driver → Action α} {outcome : Result α}
    (hk : ∀ d, Outside bare client style past d →
      Leads bare client style (k d) past outcome history) :
    Leads bare client style (current >>= k) past outcome history := by
  intro ch h
  rw [runOn_bind_ok (runOn_current ch)]
  exact hk ch.driver h ch h

/-- What is made of the result in the end. -/
theorem map {x : Action α} {g : α → β} {outcome : Result α}
    (hx : Leads bare client style x past outcome history) :
    Leads bare client style (x >>= fun a => Pure.pure (g a)) past (outcome.map g) history := by
  cases outcome with
  | ok a => exact hx.bind (.pure _)
  | error f => exact hx.fails

end Leads

/-! ## Steps -/

theorem leads_update {f : Driver → Driver}
    (h : ∀ d, Outside bare client style past d → Outside bare client style history (f d)) :
    Leads bare client style (update f) past (.ok ()) history :=
  fun ch hch => ⟨rfl, h ch.driver hch⟩

theorem leads_note (e : Entry) : Leads bare client style (note e) past (.ok ()) past :=
  fun _ h => ⟨rfl, h⟩

theorem leads_log (level : LogLevel) (message : String) :
    Leads bare client style (log level message) past (.ok ()) past :=
  .read fun _ _ => leads_note _

theorem leads_call (what : ClientCall) (f : History → Except Failure α) :
    Leads bare client style (call what f) past (.ok (f past)) ((what, (f past).isOk) :: past) := by
  refine .read fun d hd => ?_
  rw [hd.history]
  refine .bind (leads_update fun d hd => ?_) (.pure _)
  exact ⟨hd.backend, hd.style, hd.inTransaction, by rw [hd.history]⟩

theorem leads_openCursor (bare : Bool) (client : Client) (style : Value) (past : History) :
    Leads bare client style (call .openCursor client.openCursor) past (.ok (client.openCursor past))
      ((.openCursor, (client.openCursor past).isOk) :: past) :=
  leads_call _ _

theorem leads_ending (entry : Entry) (what : ClientCall) (f : History → Except Failure Unit) :
    Leads bare client style (ending entry what f) past (.ok (f past))
      ((what, (f past).isOk) :: past) := by
  refine .bind (leads_note entry) (.bind (leads_call what f) ?_)
  split
  · exact .bind (leads_update fun d hd => ⟨hd.backend, hd.style, hd.inTransaction, hd.history⟩)
      (.pure _)
  · exact .pure _

theorem leads_passing (outcome : Except Failure α) :
    Leads bare client style (passing outcome) past (outcome.mapError Failure.fault) past := by
  cases outcome with
  | ok a => exact .pure a
  | error f => exact .throw _

theorem leads_autocommit :
    Leads bare client style (autocommit client) past
      ((client.commit past).mapError Failure.fault)
      ((.commit, (client.commit past).isOk) :: past) := by
  refine .read fun d hd => ?_
  rw [hd.inTransaction]
  exact .bind (leads_ending _ _ _) (leads_passing _)

/-- A failure the driver recognizes is rolled back and becomes a fault of its own. -/
theorem leads_failStatement (statement : Value) {f : Failure}
    (hknown : recognizes (.cursors bare client) f.kind = true)
    (hrollback : client.rollback past = .ok ()) :
    Leads bare client style (failStatement client statement f : Action α) past
      (.error (.driver f.message statement)) ((.rollback, true) :: past) := by
  have hback : Leads bare client style (rollbackClient client) past (.ok (.ok ()))
      ((.rollback, true) :: past) := by
    have h : Leads bare client style (rollbackClient client) past (.ok (client.rollback past))
        ((.rollback, (client.rollback past).isOk) :: past) := leads_ending _ _ _
    rw [hrollback] at h
    exact h
  refine .read fun d hd => ?_
  rw [hd.backend, hd.inTransaction, if_pos hknown]
  exact .bind (leads_update fun d hd => ⟨hd.backend, hd.style, hd.inTransaction, hd.history⟩)
    (.bind (leads_log _ _)
      (.bind (leads_note _) (.bind hback (.bind (leads_passing _) (.throw _)))))

/-! ## Statements -/

section

variable {sql statement : Value} {bindings params : Bindings}
  (hrestyle : Placeholder.restyle style id sql bindings = .ok (statement, params))
include hrestyle

theorem leads_restyle :
    Leads bare client style (restyle sql bindings) past (.ok (statement, params)) past := by
  refine .read fun d hd => ?_
  rw [hd.backend, hd.style]
  change Leads bare client style (Driver.ofResult (Placeholder.restyle style id sql bindings)) _ _ _
  rw [hrestyle]
  exact .ofResult _

/-- Without a cursor nothing is sent. -/
theorem leads_send_unopened {f : Failure} (hopen : client.openCursor past = .error f) :
    Leads bare client style (send client sql bindings) past (.error f.fault)
      ((.openCursor, false) :: past) := by
  refine .bind (leads_restyle hrestyle) (.fails (.read fun d hd => ?_))
  rw [hd.backend]
  have hcall := leads_openCursor bare client style past
  rw [hopen] at hcall
  exact .bind hcall (leads_passing _)

variable (hopen : client.openCursor past = .ok ())
include hopen

/-- With a cursor the statement is run. -/
theorem leads_send {outcome : Result Reply}
    (hrest : Leads bare client style
      (match client.run ((.openCursor, true) :: past) statement params with
        | .ok reply => do
          update fun d => { d with lastError := "" }
          pure reply
        | .error f => failStatement client statement f)
      ((.run statement params,
        (client.run ((.openCursor, true) :: past) statement params).isOk) ::
          (.openCursor, true) :: past) outcome history) :
    Leads bare client style (send client sql bindings) past outcome history := by
  have hcursor : Leads bare client style (prepareClient client statement) past (.ok ())
      ((.openCursor, true) :: past) := by
    refine .read fun d hd => ?_
    rw [hd.backend]
    have hcall := leads_openCursor bare client style past
    rw [hopen] at hcall
    exact .bind hcall (leads_passing _)
  exact .bind (leads_restyle hrestyle) (.bind hcursor (.bind (leads_note _)
    (.bind (leads_call _ _) hrest)))

theorem leads_send_rejected (hagreed : client.Agreed bare) {f : Failure}
    (hrun : client.run ((.openCursor, true) :: past) statement params = .error f) :
    Leads bare client style (send client sql bindings) past (.error (.driver f.message statement))
      ((.rollback, true) :: (.run statement params, false) :: (.openCursor, true) :: past) := by
  refine leads_send hrestyle hopen ?_
  rw [hrun]
  exact leads_failStatement statement (hagreed.rejected _ _ _ _ hrun) (hagreed.rollback _)

theorem leads_send_ran {reply : Reply}
    (hrun : client.run ((.openCursor, true) :: past) statement params = .ok reply) :
    Leads bare client style (send client sql bindings) past (.ok reply)
      ((.run statement params, true) :: (.openCursor, true) :: past) := by
  refine leads_send hrestyle hopen ?_
  rw [hrun]
  exact .bind (leads_update fun d hd => ⟨hd.backend, hd.style, hd.inTransaction, hd.history⟩)
    (.pure _)

end

/-- The commit, and what is made of the reply after it. -/
theorem leads_committing (statement : Value) {k : Unit → Action α} {reply : Reply}
    {g : Reply → Result α} (hk : ∀ after, Leads bare client style (k ()) after (g reply) after) :
    Leads bare client style (autocommit client >>= k) past
      ((client.committing reply past).1.outcome statement g) (client.committing reply past).2 := by
  have hcommit : Leads bare client style (autocommit client) past
      ((client.commit past).mapError Failure.fault)
      ((.commit, (client.commit past).isOk) :: past) := leads_autocommit
  unfold Client.committing
  cases h : client.commit past with
  | ok u =>
    rw [h] at hcommit
    exact .bind hcommit (hk _)
  | error f =>
    rw [h] at hcommit
    exact .fails hcommit

/-- The rows are fetched where there are any, and the cursor is closed in any case. -/
theorem leads_fetchRows {reply : Reply} {outcome : Except Failure Unit}
    (hfetch : (if reply.columns.isSome then
      (client.fetch past, (.fetch, (client.fetch past).isOk) :: past) else (.ok (), past)) =
        (outcome, history)) :
    Leads bare client style (fetchRows (.cursors bare client) client reply) past
      (outcome.mapError Failure.fault >>= fun _ => reply.namedRows) history := by
  have hrest : Leads bare client style (do
      note .cursorClosed
      passing outcome
      ofResult reply.namedRows) history (outcome.mapError Failure.fault >>= fun _ =>
        reply.namedRows) history := by
    refine .bind (leads_note _) ?_
    cases outcome with
    | ok u => exact .bind (leads_passing _) (.ofResult _)
    | error f => exact .fails (leads_passing _)
  simp only [fetchRows, hasCursor, ↓reduceIte]
  split at hfetch
  · rename_i hsome
    cases hfetch
    rw [if_pos hsome]
    exact .bind (leads_call _ _) hrest
  · rename_i hnone
    cases hfetch
    rw [if_neg hnone]
    exact .bind (.pure _) hrest

/-- Once its rows are there a query is committed. -/
theorem leads_closing (statement : Value) {reply : Reply} {rows : List Row}
    (hrows : reply.namedRows = .ok rows) :
    Leads bare client style (do
        let rows ← fetchRows (.cursors bare client) client reply
        autocommit client
        pure rows) past
      ((client.closing true reply past).1.outcome statement (·.namedRows))
      (client.closing true reply past).2 := by
  have hcommits (read : History) : Leads bare client style (do
      autocommit client
      pure rows) read ((client.committing reply read).1.outcome statement (·.namedRows))
      (client.committing reply read).2 := by
    refine leads_committing statement fun after => ?_
    rw [hrows]
    exact .pure rows
  unfold Client.closing
  rw [Bool.true_and]
  split
  · rename_i hsome
    cases hfetch : client.fetch past with
    | ok u =>
      refine .bind (a := rows) ?_ (hcommits _)
      rw [← hrows]
      refine leads_fetchRows (show _ = (.ok (), _) from ?_)
      rw [if_pos hsome, hfetch]
      rfl
    | error f =>
      refine .fails (leads_fetchRows (show _ = (.error f, _) from ?_))
      rw [if_pos hsome, hfetch]
      rfl
  · rename_i hnone
    refine .bind (a := rows) ?_ (hcommits _)
    rw [← hrows]
    refine leads_fetchRows (show _ = (.ok (), _) from ?_)
    rw [if_neg hnone]

/-- What a request does with a statement follows the course of the statement. -/
theorem leads_course {sql statement : Value} {bindings params : Bindings}
    (hrestyle : Placeholder.restyle style id sql bindings = .ok (statement, params))
    (hagreed : client.Agreed bare) (reads : Bool) {k : Reply → Action α} {g : Reply → Result α}
    (hk : ∀ reply history, reply.Conforms →
      Leads bare client style (k reply) history
        ((client.closing reads reply history).1.outcome statement g)
        (client.closing reads reply history).2) :
    Leads bare client style (send client sql bindings >>= k) past
      ((client.course reads statement params past).1.outcome statement g)
      (client.course reads statement params past).2 := by
  unfold Client.course
  cases hopen : client.openCursor past with
  | error f => exact .fails (leads_send_unopened hrestyle hopen)
  | ok u =>
    dsimp only
    cases hrun : client.run ((.openCursor, true) :: past) statement params with
    | error f => exact .fails (leads_send_rejected hrestyle hopen hagreed hrun)
    | ok reply =>
      exact .bind (leads_send_ran hrestyle hopen hrun) (hk reply _ (hagreed.reply _ _ _ _ hrun))

section

variable {sql statement : Value} {bindings params : Bindings}
  (hrestyle : Placeholder.restyle style id sql bindings = .ok (statement, params))
  (hagreed : client.Agreed bare)
include hrestyle hagreed

theorem leads_execute :
    Leads bare client style (execute sql bindings) past
      ((client.course false statement params past).1.outcome statement (·.rowCount.atLeastZero))
      (client.course false statement params past).2 := by
  refine .read fun d hd => ?_
  rw [hd.backend]
  refine leads_course hrestyle hagreed false fun reply history _ => ?_
  exact .bind (leads_update fun d hd => ⟨hd.backend, hd.style, hd.inTransaction, hd.history⟩)
    (.bind (leads_note _) (leads_committing statement fun _ => .ofResult _))

theorem leads_fetchAll :
    Leads bare client style (fetchAll sql bindings) past
      ((client.course true statement params past).1.outcome statement (·.namedRows))
      (client.course true statement params past).2 := by
  refine .read fun d hd => ?_
  rw [hd.backend]
  refine leads_course hrestyle hagreed true fun reply history hconforms => ?_
  obtain ⟨rows, hrows⟩ := hconforms.namedRows
  exact leads_closing statement hrows

end

end Driver

/-! ## Requests -/

/-- A call that runs a statement or a query. -/
inductive Request where
  | execute
  | fetchAll
  | fetchRow
  | fetchScalar
  | fetchColumn
  deriving Repr, DecidableEq

namespace Request

/-- What a request gives. -/
abbrev Answer : Request → Type
  | .execute => Value
  | .fetchAll => List Row
  | .fetchRow => Option Row
  | .fetchScalar => Value
  | .fetchColumn => List Value

/-- The request, made to a driver. -/
def make (sql : Value) (bindings : Bindings) : (q : Request) → Driver.Action q.Answer
  | .execute => Driver.execute sql bindings
  | .fetchAll => Driver.fetchAll sql bindings
  | .fetchRow => Driver.fetchRow sql bindings
  | .fetchScalar => Driver.fetchScalar sql bindings
  | .fetchColumn => Driver.fetchColumn sql bindings

/-- The request reads rows. -/
def reads : Request → Bool
  | .execute => false
  | .fetchAll | .fetchRow | .fetchScalar | .fetchColumn => true

/-- What a request makes of a reply. -/
def answer (reply : Reply) : (q : Request) → Result q.Answer
  | .execute => reply.rowCount.atLeastZero
  | .fetchAll => reply.namedRows
  | .fetchRow => reply.namedRows.map (·.head?)
  | .fetchScalar => (reply.namedRows.map (·.head?)).map fun row? =>
      (row?.map Driver.firstValue).getD .null
  | .fetchColumn => reply.namedRows.map (·.map Driver.firstValue)

end Request

variable {bare : Bool} {client : Client} {style sql statement : Value} {bindings params : Bindings}
  {past : History}

theorem Course.outcome_map {α β : Type} (statement : Value) (g : Reply → Result α) (f : α → β)
    (course : Course) :
    (course.outcome statement g).map f = course.outcome statement fun reply => (g reply).map f := by
  cases course <;> rfl

theorem Reply.Conforms.answer {r : Reply} (h : r.Conforms) (q : Request) :
    (q.answer r).isOk = true := by
  obtain ⟨v, hv⟩ := h.rowCount_atLeastZero
  obtain ⟨rows, hrows⟩ := h.namedRows
  cases q <;> simp only [Request.answer, hv, hrows] <;> rfl

/-- A request follows the course of its statement. -/
theorem leads_request
    (hrestyle : Placeholder.restyle style id sql bindings = .ok (statement, params))
    (hagreed : client.Agreed bare) (q : Request) :
    Driver.Leads bare client style (q.make sql bindings) past
      ((client.course q.reads statement params past).1.outcome statement (Request.answer · q))
      (client.course q.reads statement params past).2 := by
  have hall : Driver.Leads bare client style (Driver.fetchAll sql bindings) past
      ((client.course true statement params past).1.outcome statement (·.namedRows))
      (client.course true statement params past).2 := Driver.leads_fetchAll hrestyle hagreed
  have hrow := hall.map (g := fun rows : List Row => rows.head?)
  rw [Course.outcome_map] at hrow
  have hscalar := hrow.map (g := fun row? : Option Row => (row?.map Driver.firstValue).getD .null)
  rw [Course.outcome_map] at hscalar
  have hcolumn := hall.map (g := fun rows : List Row => rows.map Driver.firstValue)
  rw [Course.outcome_map] at hcolumn
  cases q with
  | execute => exact Driver.leads_execute hrestyle hagreed
  | fetchAll => exact hall
  | fetchRow => exact hrow
  | fetchScalar => exact hscalar
  | fetchColumn => exact hcolumn

/-- The calls of a statement that runs. -/
def ranCalls (statement : Value) (params : Bindings) : History :=
  [(.run statement params, true), (.openCursor, true)]

/-- Where the course of a statement can end, and with which calls. -/
theorem course_cases (client : Client) (reads : Bool) (statement : Value) (params : Bindings)
    (past : History) :
    (∃ f, client.course reads statement params past =
      (.unopened f, (.openCursor, false) :: past)) ∨
    (∃ f, client.course reads statement params past =
      (.rejected f,
        (.rollback, true) :: ([(.run statement params, false), (.openCursor, true)] ++ past))) ∨
    (∃ f, client.course reads statement params past =
      (.unread f, (.fetch, false) :: (ranCalls statement params ++ past))) ∨
    ∃ fetched : History, (fetched = [] ∨ fetched = [(.fetch, true)]) ∧
      ((∃ f, client.course reads statement params past =
        (.uncommitted f, (.commit, false) :: (fetched ++ ranCalls statement params ++ past))) ∨
      ∃ reply, client.run ((.openCursor, true) :: past) statement params = .ok reply ∧
        client.course reads statement params past =
          (.done reply, (.commit, true) :: (fetched ++ ranCalls statement params ++ past))) := by
  unfold Client.course Client.closing Client.committing ranCalls
  cases hopen : client.openCursor past with
  | error f => exact .inl ⟨f, rfl⟩
  | ok u =>
    dsimp only
    cases hrun : client.run ((.openCursor, true) :: past) statement params with
    | error f => exact .inr (.inl ⟨f, rfl⟩)
    | ok reply =>
      dsimp only
      split
      · cases hfetch :
            client.fetch ((.run statement params, true) :: (.openCursor, true) :: past) with
        | error f => exact .inr (.inr (.inl ⟨f, rfl⟩))
        | ok u =>
          refine .inr (.inr (.inr ⟨[(.fetch, true)], .inr rfl, ?_⟩))
          dsimp only
          split
          · exact .inl ⟨_, rfl⟩
          · exact .inr ⟨reply, rfl, rfl⟩
      · refine .inr (.inr (.inr ⟨[], .inl rfl, ?_⟩))
        split
        · exact .inl ⟨_, rfl⟩
        · exact .inr ⟨reply, rfl, rfl⟩

theorem Failure.fault_ne_driver (f : Failure) (message : String) (sql : Value) :
    f.fault ≠ .driver message sql := by
  rw [Failure.fault]
  split <;> nofun

/-- A failure that is passed on as it is ends no implicit transaction. -/
theorem not_ended_of_passed {α : Type} (past : History) (f : Failure) (history : History) :
    ¬ Ended past (.error f.fault : Result α) history := by
  rintro ⟨⟨calls, ⟨-, hok⟩ | ⟨-, message, sql, hdriver⟩⟩, -⟩
  · cases hok
  · exact f.fault_ne_driver message sql (Except.error.inj hdriver)

/-- A request that is made outside a transaction ends its implicit transaction just if its statement
fails or nothing fails. Else the failure of the client library is passed on as it is; a statement
that ran is pending then. -/
theorem request_ended_iff {ch : Channel} (hout : Driver.Outside bare client style past ch.driver)
    (hrestyle : Placeholder.restyle style id sql bindings = .ok (statement, params))
    (hagreed : client.Agreed bare) (q : Request) :
    let course := (client.course q.reads statement params past).1
    let outcome := (Driver.runOn (q.make sql bindings) ch).1
    let history := (Driver.runOn (q.make sql bindings) ch).2.driver.history
    (Ended past outcome history ↔ course.settles = true) ∧
    (∀ f, course = .unopened f → outcome = .error f.fault ∧ ledger history = ledger past) ∧
    ∀ f, course = .unread f ∨ course = .uncommitted f → outcome = .error f.fault ∧
      ledger history =
        { ledger past with pending := (ledger past).pending ++ [past.length + 1] } := by
  obtain ⟨houtcome, hafter⟩ := leads_request hrestyle hagreed q ch hout
  dsimp only
  rw [houtcome, hafter.history]
  obtain ⟨f, h⟩ | ⟨f, h⟩ | ⟨f, h⟩ | ⟨fetched, hfetched, ⟨f, h⟩ | ⟨reply, hrun, h⟩⟩ :=
    course_cases client q.reads statement params past
  · rw [h]
    refine ⟨⟨fun hended => absurd hended (not_ended_of_passed past f _), nofun⟩, ?_, by simp⟩
    rintro _ ⟨⟩
    exact ⟨rfl, rfl⟩
  · rw [h]
    refine ⟨⟨fun _ => rfl, fun _ => ⟨⟨_, .inr ⟨rfl, f.message, statement, rfl⟩⟩, rfl⟩⟩, nofun, ?_⟩
    simp
  · rw [h]
    refine ⟨⟨fun hended => absurd hended (not_ended_of_passed past f _), nofun⟩, nofun, ?_⟩
    rintro _ (⟨⟨⟩⟩ | ⟨⟨⟩⟩)
    exact ⟨rfl, rfl⟩
  · rw [h]
    refine ⟨⟨fun hended => absurd hended (not_ended_of_passed past f _), nofun⟩, nofun, ?_⟩
    rintro _ (⟨⟨⟩⟩ | ⟨⟨⟩⟩)
    rcases hfetched with rfl | rfl
    · exact ⟨rfl, rfl⟩
    · exact ⟨rfl, rfl⟩
  · rw [h]
    refine ⟨⟨fun _ => rfl, fun _ => ⟨⟨_, .inl ⟨rfl, ?_⟩⟩, rfl⟩⟩, nofun, by simp⟩
    exact (hagreed.reply _ _ _ _ hrun).answer q

/-! ## A commit that fails -/

/-- The client library of a scenario in which every commit fails. -/
def uncommitting : Client := Scenario.client { failCommit := true }

theorem agreed_uncommitting : uncommitting.Agreed false where
  rejected _ _ _ _ h := nomatch h
  reply _ _ _ _ h := by
    cases h
    exact ⟨⟨1, rfl⟩, nofun⟩
  rollback _ := rfl

/-- The statement runs and stays pending, and the failure of the commit is passed on. -/
theorem not_ended_of_uncommitting :
    let ch : Channel := { driver := (connected uncommitting).driver }
    let sql := Value.text "INSERT INTO a VALUES (1)"
    let run := Driver.runOn (Request.execute.make sql (.positional [])) ch
    Driver.Outside false uncommitting (connected uncommitting).driver.style [] ch.driver ∧
      Placeholder.restyle (connected uncommitting).driver.style id sql (.positional []) =
        .ok (sql, .positional []) ∧
      uncommitting.Agreed false ∧
      ¬ Ended [] run.1 run.2.driver.history ∧
      run.1 = .error (.client .library "commit failed") ∧
      ledger run.2.driver.history = { pending := [1] } := by
  intro ch sql run
  have hout :
      Driver.Outside false uncommitting (connected uncommitting).driver.style [] ch.driver :=
    ⟨rfl, rfl, rfl, rfl⟩
  have hrestyle :
      Placeholder.restyle (connected uncommitting).driver.style id sql (.positional []) =
      .ok (sql, .positional []) := by rfl
  obtain ⟨hended, -, hpassed⟩ := request_ended_iff hout hrestyle agreed_uncommitting .execute
  have hcourse : (uncommitting.course false sql (.positional []) []).1 =
      .uncommitted ⟨.library, "commit failed"⟩ := rfl
  obtain ⟨hfault, hledger⟩ := hpassed _ (.inr hcourse)
  refine ⟨hout, hrestyle, agreed_uncommitting, fun h => ?_, hfault, hledger⟩
  have hsettles := hended.1 h
  rw [Request.reads, hcourse] at hsettles
  cases hsettles

end SqlBuilder
