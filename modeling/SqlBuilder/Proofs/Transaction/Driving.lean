import SqlBuilder.Driver

/-!
# What a cursor driver keeps

`Driver.Keeps D x`: the action leaves the driver with the property `D`, also where it fails.

`Held bare client inside H` is a property of a cursor driver that whatever is run on it keeps, and
whatever its client library does: its calls so far meet `H`, and if `inside` it is in a transaction.
`H` has to be kept by every call (`Kept`), inside a transaction by those that do not end it: no
other call is made there until the driver is told to commit or to roll back.
-/

set_option autoImplicit false

namespace SqlBuilder

/-- The call ends what the client library has pending. -/
def ClientCall.isEnd : ClientCall → Bool
  | .commit | .rollback => true
  | .openCursor | .run _ _ | .fetch | .start => false

namespace Driver

/-- What an action comes to on a channel, and the channel after it. -/
def runOn {α : Type} (x : Action α) (ch : Channel) : Result α × Channel := x.run.run ch

/-- The action leaves the driver with a property. -/
def Keeps {α : Type} (D : Driver → Prop) (x : Action α) : Prop :=
  ∀ ch, D ch.driver → D (runOn x ch).2.driver

variable {α β : Type}

/-! ## Running -/

theorem runOn_bind (x : Action α) (k : α → Action β) (ch : Channel) :
    runOn (x >>= k) ch = match runOn x ch with
      | (.ok a, ch') => runOn (k a) ch'
      | (.error f, ch') => (.error f, ch') := by
  simp only [runOn, ExceptT.run_bind, StateT.run_bind]
  generalize StateT.run (ExceptT.run x) ch = p
  obtain ⟨_ | _, _⟩ := p <;> rfl

theorem runOn_bind_ok {x : Action α} {k : α → Action β} {ch ch' : Channel} {a : α}
    (h : runOn x ch = (.ok a, ch')) : runOn (x >>= k) ch = runOn (k a) ch' := by
  rw [runOn_bind, h]

theorem runOn_current (ch : Channel) : runOn current ch = (.ok ch.driver, ch) := rfl

theorem runOn_update (f : Driver → Driver) (ch : Channel) :
    runOn (update f) ch = (.ok (), { ch with driver := f ch.driver }) := rfl

theorem runOn_note (e : Entry) (ch : Channel) :
    runOn (note e) ch = (.ok (), { ch with journal := ch.journal ++ [e] }) := rfl

theorem runOn_call (what : ClientCall) (f : History → Except Failure α) (ch : Channel) :
    runOn (call what f) ch = (.ok (f ch.driver.history), { ch with
      driver := { ch.driver with
        history := (what, (f ch.driver.history).isOk) :: ch.driver.history } }) := rfl

theorem runOn_ofResult (y : Result α) (ch : Channel) : runOn (ofResult y) ch = (y, ch) := by
  cases y <;> rfl

/-! ## Keeping a property -/

namespace Keeps

variable {D : Driver → Prop}

theorem pure (a : α) : Keeps D (Pure.pure a) := fun _ h => h

theorem throw (f : Fault) : Keeps D (MonadExcept.throw f : Action α) := fun _ h => h

theorem bind {x : Action α} {k : α → Action β} (hx : Keeps D x) (hk : ∀ a, Keeps D (k a)) :
    Keeps D (x >>= k) := by
  intro ch h
  have hch := hx ch h
  rw [runOn_bind]
  generalize runOn x ch = p at hch
  obtain ⟨_ | a, ch'⟩ := p
  · exact hch
  · exact hk a ch' hch

/-- What depends on the driver as it is. -/
theorem read {k : Driver → Action α} (h : ∀ d, D d → Keeps D (k d)) :
    Keeps D (current >>= k) := by
  intro ch hch
  rw [runOn_bind_ok (runOn_current ch)]
  exact h ch.driver hch ch hch

theorem ofResult (y : Result α) : Keeps D (Driver.ofResult y) := by
  intro ch h
  rw [runOn_ofResult]
  exact h

theorem update {f : Driver → Driver} (h : ∀ d, D d → D (f d)) : Keeps D (Driver.update f) :=
  fun ch hch => h ch.driver hch

theorem note (e : Entry) : Keeps D (Driver.note e) := fun _ h => h

theorem log (level : LogLevel) (message : String) : Keeps D (Driver.log level message) :=
  .read fun _ _ => .note _

theorem passing (outcome : Except Failure α) : Keeps D (Driver.passing outcome) := by
  cases outcome with
  | ok a => exact .pure a
  | error f => exact .throw _

theorem reporting (sql : String) (outcome : Except Failure α) :
    Keeps D (Driver.reporting sql outcome) := by
  cases outcome with
  | ok a => exact .pure a
  | error f =>
    refine .read fun d _ => ?_
    split
    · exact .throw _
    · exact .throw _

theorem restyle (sql : Value) (bindings : Bindings) : Keeps D (Driver.restyle sql bindings) :=
  .read fun _ _ => .ofResult _

theorem release (b : Backend) : Keeps D (Driver.release b) := by
  cases b with
  | recorder s => exact .pure ()
  | cursors bare c => exact .note _
  | engine c => exact .note _

end Keeps

/-! ## Cursor drivers -/

/-- A cursor driver whose calls so far meet `H`, and which is in a transaction if `inside`. -/
structure Held (bare : Bool) (client : Client) (inside : Bool) (H : History → Prop) (d : Driver) :
    Prop where
  backend : d.backend = .cursors bare client
  inTransaction : inside = true → d.inTransaction = true
  history : H d.history

/-- Calls keep the property, inside a transaction those that do not end it. -/
def Kept (inside : Bool) (H : History → Prop) : Prop :=
  ∀ what succeeded h, (inside = true → what.isEnd = false) → H h → H ((what, succeeded) :: h)

/-- The calls since `past` end nothing. -/
def Unended (past history : History) : Prop :=
  ∃ calls, history = calls ++ past ∧ ∀ call ∈ calls, call.1.isEnd = false

theorem kept_unended (past : History) : Kept true (Unended past) := by
  rintro what succeeded _ hwhat ⟨calls, rfl, hcalls⟩
  refine ⟨(what, succeeded) :: calls, rfl, fun call hcall => ?_⟩
  rcases List.mem_cons.1 hcall with rfl | hcall
  · exact hwhat rfl
  · exact hcalls call hcall

section

variable {bare : Bool} {client : Client} {inside : Bool} {H : History → Prop}
  (hH : Kept inside H)
include hH

theorem keeps_call {what : ClientCall} {f : History → Except Failure α}
    (h : inside = true → what.isEnd = false) :
    Keeps (Held bare client inside H) (call what f) := by
  refine .read fun d _ => (Keeps.update fun d hd => ?_).bind fun _ => .pure _
  exact { hd with history := hH _ _ _ h hd.history }

theorem keeps_ending {entry : Entry} {what : ClientCall} {f : History → Except Failure Unit}
    (h : inside = true → what.isEnd = false) :
    Keeps (Held bare client inside H) (ending entry what f) := by
  refine (Keeps.note entry).bind fun _ => (keeps_call hH h).bind fun outcome => ?_
  split
  · exact (Keeps.update fun d hd => ⟨hd.backend, hd.inTransaction, hd.history⟩).bind fun _ =>
    .pure _
  · exact .pure _

/-- A transaction keeps what is pending from being committed. -/
theorem keeps_autocommit (c : Client) : Keeps (Held bare client inside H) (autocommit c) := by
  refine .read fun d hd => ?_
  split
  · rename_i hidle
    have houtside : inside = true → ClientCall.commit.isEnd = false := by
      intro hinside
      rw [hd.inTransaction hinside] at hidle
      cases hidle
    exact (keeps_ending hH houtside).bind fun _ => .passing _
  · exact .pure _

theorem keeps_failStatement (c : Client) (statement : Value) (f : Failure) :
    Keeps (Held bare client inside H) (failStatement c statement f : Action α) := by
  refine .read fun d hd => ?_
  have hrest : Keeps (Held bare client inside H) (do
      if !d.inTransaction then passing (← rollbackClient c)
      throw (.driver f.message statement) : Action α) := by
    split
    · rename_i hidle
      have houtside : inside = true → ClientCall.rollback.isEnd = false := by
        intro hinside
        rw [hd.inTransaction hinside] at hidle
        cases hidle
      exact (keeps_ending hH houtside).bind fun _ => (Keeps.passing _).bind fun _ => .throw _
    · exact .throw _
  split
  · refine (Keeps.update fun d hd => ⟨hd.backend, hd.inTransaction, hd.history⟩).bind fun _ =>
      (Keeps.log _ _).bind fun _ => ?_
    rw [hd.backend]
    exact (Keeps.note _).bind fun _ => hrest
  · exact .throw _

theorem keeps_prepareClient (c : Client) (statement : Value) :
    Keeps (Held bare client inside H) (prepareClient c statement) := by
  refine .read fun d hd => ?_
  rw [hd.backend]
  exact (keeps_call hH fun _ => rfl).bind fun _ => .passing _

theorem keeps_send (c : Client) (sql : Value) (bindings : Bindings) :
    Keeps (Held bare client inside H) (send c sql bindings) := by
  refine (Keeps.restyle sql bindings).bind fun (statement, params) =>
    (keeps_prepareClient hH c statement).bind fun _ => (Keeps.note _).bind fun _ =>
      (keeps_call hH fun _ => rfl).bind fun outcome => ?_
  cases outcome with
  | ok reply =>
    exact (Keeps.update fun d hd => ⟨hd.backend, hd.inTransaction, hd.history⟩).bind fun _ =>
      .pure _
  | error f => exact keeps_failStatement hH c statement f

theorem keeps_fetchRows (c : Client) (reply : Reply) :
    Keeps (Held bare client inside H) (fetchRows (.cursors bare client) c reply) := by
  have hrest (outcome : Except Failure Unit) : Keeps (Held bare client inside H) (do
      note .cursorClosed
      passing outcome
      ofResult reply.namedRows) :=
    (Keeps.note _).bind fun _ => (Keeps.passing _).bind fun _ => .ofResult _
  simp only [fetchRows, hasCursor, ↓reduceIte]
  split
  · exact (keeps_call hH fun _ => rfl).bind hrest
  · exact (Keeps.pure _).bind hrest

/-! ## Statements -/

theorem keeps_execute (sql : Value) (bindings : Bindings) :
    Keeps (Held bare client inside H) (execute sql bindings) := by
  refine .read fun d hd => ?_
  rw [hd.backend]
  exact (keeps_send hH client sql bindings).bind fun _ =>
    (Keeps.update fun d hd => ⟨hd.backend, hd.inTransaction, hd.history⟩).bind fun _ =>
      (Keeps.release _).bind fun _ => (keeps_autocommit hH client).bind fun _ => .ofResult _

theorem keeps_fetchAll (sql : Value) (bindings : Bindings) :
    Keeps (Held bare client inside H) (fetchAll sql bindings) := by
  refine .read fun d hd => ?_
  rw [hd.backend]
  exact (keeps_send hH client sql bindings).bind fun reply =>
    (keeps_fetchRows hH client reply).bind fun _ =>
      (keeps_autocommit hH client).bind fun _ => .pure _

theorem keeps_fetchRow (sql : Value) (bindings : Bindings) :
    Keeps (Held bare client inside H) (fetchRow sql bindings) :=
  (keeps_fetchAll hH sql bindings).bind fun _ => .pure _

theorem keeps_fetchScalar (sql : Value) (bindings : Bindings) :
    Keeps (Held bare client inside H) (fetchScalar sql bindings) :=
  (keeps_fetchRow hH sql bindings).bind fun _ => .pure _

theorem keeps_fetchColumn (sql : Value) (bindings : Bindings) :
    Keeps (Held bare client inside H) (fetchColumn sql bindings) :=
  (keeps_fetchAll hH sql bindings).bind fun _ => .pure _

omit hH in
theorem keeps_insertId : Keeps (Held bare client inside H) insertId :=
  .read fun _ _ => .pure _

/-! ## Transactions -/

omit hH in
theorem keeps_begin : Keeps (Held bare client inside H) begin := by
  refine .read fun d hd => ?_
  rw [hd.backend]
  exact (Keeps.log _ _).bind fun _ => .update fun d hd => ⟨hd.backend, fun _ => rfl, hd.history⟩

theorem keeps_commit (houtside : inside = false) : Keeps (Held bare client inside H) commit := by
  subst houtside
  refine .read fun d hd => ?_
  rw [hd.backend]
  exact (Keeps.log _ _).bind fun _ => (keeps_ending hH nofun).bind fun _ =>
    (Keeps.update fun d hd => ⟨hd.backend, nofun, hd.history⟩).bind fun _ => .reporting _ _

theorem keeps_rollback (houtside : inside = false) :
    Keeps (Held bare client inside H) rollback := by
  subst houtside
  refine .read fun d hd => ?_
  rw [hd.backend]
  exact (Keeps.log _ _).bind fun _ =>
    (Keeps.update fun d hd => ⟨hd.backend, nofun, hd.history⟩).bind fun _ =>
      (keeps_ending hH nofun).bind fun _ => .reporting _ _

end

/-! ## The ends of a transaction -/

/-- The driver after its client library was told to end what is pending. -/
def afterEnd (d : Driver) (what : ClientCall) (succeeded : Bool) : Driver :=
  { d with
    history := (what, succeeded) :: d.history
    inTransaction := false
    engineOpen := d.engineOpen && !succeeded }

/-- A failure of the client library as a cursor driver reports it. -/
def reported (bare : Bool) (client : Client) (sql : String) : Except Failure Unit → Result Unit
  | .ok () => .ok ()
  | .error f =>
    if recognizes (.cursors bare client) f.kind then .error (.driver f.message (.text sql))
    else .error f.fault

theorem runOn_ending (entry : Entry) (what : ClientCall) (f : History → Except Failure Unit)
    (ch : Channel) : runOn (ending entry what f) ch = (.ok (f ch.driver.history), {
      driver := { ch.driver with
        history := (what, (f ch.driver.history).isOk) :: ch.driver.history
        engineOpen := ch.driver.engineOpen && !(f ch.driver.history).isOk }
      journal := ch.journal ++ [entry] }) := by
  rw [ending, runOn_bind_ok (runOn_note _ _), runOn_bind_ok (runOn_call _ _ _)]
  cases f ch.driver.history with
  | ok u =>
    simp only [Except.isOk, Except.toBool, ↓reduceIte, Bool.not_true, Bool.and_false]
    rfl
  | error f =>
    simp only [Except.isOk, Except.toBool, Bool.false_eq_true, ↓reduceIte, Bool.not_false,
      Bool.and_true]
    rfl

theorem reported_error (bare : Bool) (client : Client) (sql : String) (f : Failure) :
    ∃ cause, reported bare client sql (.error f) = .error cause := by
  rw [reported]
  split
  · exact ⟨_, rfl⟩
  · exact ⟨_, rfl⟩

section

variable {bare : Bool} {client : Client} (ch : Channel)
  (hbackend : ch.driver.backend = .cursors bare client)
include hbackend

theorem runOn_log (level : LogLevel) (message : String) :
    runOn (log level message) ch = (.ok (), { ch with
      journal := ch.journal ++ [.logged level "fluentql.drivers.base" message] }) := by
  rw [log, runOn_bind_ok (runOn_current ch), hbackend]
  rfl

theorem runOn_reporting (sql : String) (outcome : Except Failure Unit) :
    runOn (reporting sql outcome) ch = (reported bare client sql outcome, ch) := by
  cases outcome with
  | ok u => rfl
  | error f =>
    rw [reporting, runOn_bind_ok (runOn_current ch), hbackend, reported]
    split
    · rfl
    · rfl

theorem runOn_begin : ∃ journal,
    runOn begin ch = (.ok (), ⟨{ ch.driver with inTransaction := true }, journal⟩) := by
  refine ⟨ch.journal ++ [Entry.logged .debug "fluentql.drivers.base" "BEGIN"], ?_⟩
  rw [begin, runOn_bind_ok (runOn_current ch), hbackend]
  dsimp only
  rw [runOn_bind_ok (runOn_log ch hbackend _ _), setInTransaction, runOn_update]

theorem runOn_commit : ∃ journal,
    runOn commit ch = (reported bare client "COMMIT" (client.commit ch.driver.history),
      ⟨ch.driver.afterEnd .commit (client.commit ch.driver.history).isOk, journal⟩) := by
  refine ⟨ch.journal ++ [Entry.logged .debug "fluentql.drivers.base" "COMMIT"] ++
    [Entry.committed], ?_⟩
  rw [commit, runOn_bind_ok (runOn_current ch), hbackend]
  dsimp only
  rw [runOn_bind_ok (runOn_log ch hbackend _ _), commitClient, runOn_bind_ok (runOn_ending _ _ _ _),
    setInTransaction, runOn_bind_ok (runOn_update _ _)]
  refine runOn_reporting _ ?_ _ _
  exact hbackend

theorem runOn_rollback : ∃ journal,
    runOn rollback ch = (reported bare client "ROLLBACK" (client.rollback ch.driver.history),
      ⟨ch.driver.afterEnd .rollback (client.rollback ch.driver.history).isOk, journal⟩) := by
  refine ⟨ch.journal ++ [Entry.logged .warning "fluentql.drivers.base" "ROLLBACK"] ++
    [Entry.rolledBack], ?_⟩
  rw [rollback, runOn_bind_ok (runOn_current ch), hbackend]
  dsimp only
  rw [runOn_bind_ok (runOn_log ch hbackend _ _), setInTransaction, runOn_bind_ok (runOn_update _ _),
    rollbackClient, runOn_bind_ok (runOn_ending _ _ _ _)]
  refine runOn_reporting _ ?_ _ _
  exact hbackend

end

end Driver

end SqlBuilder
