import SqlBuilder.Proofs.Transaction.Driving

/-!
# What an action does to a driver

Nothing a driver does depends on the journal it writes. So an action has an *effect* on a driver: an
outcome, the driver after it and the entries it adds to the journal, whatever stands there already
(`Appends`). Running a statement leaves the back end of a driver alone and does not tell whether a
transaction is open (`keeps_execute_poised`); that is so of every kind of driver.
-/

set_option autoImplicit false

namespace SqlBuilder

namespace Driver

variable {α β : Type}

/-- The outcome of an action on a driver, the driver after it and its entries. -/
structure Effect (α : Type) where
  outcome : Result α
  driver : Driver
  entries : List Entry

/-- What an action does to a driver. -/
def effect (x : Action α) (d : Driver) : Effect α :=
  ⟨(runOn x ⟨d, []⟩).1, (runOn x ⟨d, []⟩).2.driver, (runOn x ⟨d, []⟩).2.journal⟩

/-- The action adds its entries to the journal and does not look at it. -/
def Appends (x : Action α) : Prop :=
  ∀ d journal, runOn x ⟨d, journal⟩ =
    ((effect x d).outcome, ⟨(effect x d).driver, journal ++ (effect x d).entries⟩)

theorem effect_eq {x : Action α} {d d' : Driver} {outcome : Result α} {entries : List Entry}
    (h : ∀ journal, runOn x ⟨d, journal⟩ = (outcome, ⟨d', journal ++ entries⟩)) :
    effect x d = ⟨outcome, d', entries⟩ := by
  rw [effect, h]
  rfl

/-- What an action returns, put in another form. -/
theorem effect_map (x : Action α) (f : α → β) (d : Driver) :
    effect (x >>= fun a => pure (f a)) d =
      ⟨(effect x d).outcome >>= fun a => pure (f a), (effect x d).driver,
        (effect x d).entries⟩ := by
  simp only [effect, runOn_bind]
  generalize runOn x ⟨d, []⟩ = p
  obtain ⟨_ | _, _⟩ := p <;> rfl

namespace Appends

theorem of_eq {x : Action α} (h : ∀ d, ∃ outcome d' entries, ∀ journal,
    runOn x ⟨d, journal⟩ = (outcome, ⟨d', journal ++ entries⟩)) : Appends x := by
  intro d journal
  obtain ⟨outcome, d', entries, h⟩ := h d
  rw [effect_eq h, h]

theorem pure (a : α) : Appends (Pure.pure a) :=
  of_eq fun d => ⟨.ok a, d, [], fun journal => by rw [List.append_nil]; rfl⟩

theorem throw (f : Fault) : Appends (MonadExcept.throw f : Action α) :=
  of_eq fun d => ⟨.error f, d, [], fun journal => by rw [List.append_nil]; rfl⟩

theorem bind {x : Action α} {k : α → Action β} (hx : Appends x) (hk : ∀ a, Appends (k a)) :
    Appends (x >>= k) := by
  refine of_eq fun d => ?_
  cases houtcome : (effect x d).outcome with
  | error f =>
    refine ⟨.error f, (effect x d).driver, (effect x d).entries, fun journal => ?_⟩
    rw [runOn_bind, hx d journal, houtcome]
  | ok a =>
    let rest := effect (k a) (effect x d).driver
    refine ⟨rest.outcome, rest.driver, (effect x d).entries ++ rest.entries, fun journal => ?_⟩
    rw [runOn_bind, hx d journal, houtcome]
    dsimp only
    rw [hk a, List.append_assoc]

/-- What depends on the driver as it is. -/
theorem read {k : Driver → Action α} (h : ∀ d, Appends (k d)) : Appends (current >>= k) :=
  of_eq fun d => ⟨_, _, _, fun journal => (runOn_bind_ok (runOn_current _)).trans (h d d journal)⟩

theorem update (f : Driver → Driver) : Appends (Driver.update f) :=
  of_eq fun d => ⟨.ok (), f d, [], fun journal => by rw [List.append_nil]; rfl⟩

theorem note (e : Entry) : Appends (Driver.note e) :=
  of_eq fun d => ⟨.ok (), d, [e], fun _ => rfl⟩

theorem log (level : LogLevel) (message : String) : Appends (Driver.log level message) :=
  .read fun _ => .note _

theorem ofResult (y : Result α) : Appends (Driver.ofResult y) := by
  cases y with
  | ok a => exact .pure a
  | error f => exact .throw f

theorem ite {p : Prop} [Decidable p] {x y : Action α} (hx : Appends x) (hy : Appends y) :
    Appends (if p then x else y) := by
  split
  · exact hx
  · exact hy

theorem call (what : ClientCall) (f : History → Except Failure α) : Appends (Driver.call what f) :=
  .read fun _ => .bind (.update _) fun _ => .pure _

theorem passing (outcome : Except Failure α) : Appends (Driver.passing outcome) := by
  cases outcome with
  | ok a => exact .pure a
  | error f => exact .throw _

theorem reporting (sql : String) (outcome : Except Failure α) :
    Appends (Driver.reporting sql outcome) := by
  cases outcome with
  | ok a => exact .pure a
  | error f => exact .read fun _ => .ite (.throw _) (.throw _)

theorem ending (entry : Entry) (what : ClientCall) (f : History → Except Failure Unit) :
    Appends (Driver.ending entry what f) :=
  .bind (.note entry) fun _ => .bind (.call what f) fun _ =>
    .ite (.bind (.update _) fun _ => .pure _) (.pure _)

theorem restyle (sql : Value) (bindings : Bindings) : Appends (Driver.restyle sql bindings) :=
  .read fun _ => .ofResult _

theorem autocommit (c : Client) : Appends (Driver.autocommit c) :=
  .read fun _ => .ite (.bind (.ending _ _ _) fun _ => .passing _) (.pure _)

theorem failStatement (c : Client) (statement : Value) (f : Failure) :
    Appends (Driver.failStatement c statement f : Action α) := by
  refine .read fun d => .ite (.bind (.update _) fun _ => .bind (.log _ _) fun _ => ?_) (.throw _)
  have hrest : Appends (do
      if !d.inTransaction then Driver.passing (← rollbackClient c)
      MonadExcept.throw (.driver f.message statement) : Action α) :=
    .ite (.bind (.ending _ _ _) fun _ => .bind (.passing _) fun _ => .throw _) (.throw _)
  exact .ite (.bind (.note _) fun _ => hrest) hrest

theorem prepareClient (c : Client) (statement : Value) :
    Appends (Driver.prepareClient c statement) :=
  .read fun _ => .ite (.bind (.call _ _) fun _ => .passing _) (.ite (.update _) (.throw _))

theorem send (c : Client) (sql : Value) (bindings : Bindings) :
    Appends (Driver.send c sql bindings) := by
  refine .bind (.restyle sql bindings) fun (statement, params) =>
    .bind (.prepareClient c statement) fun _ => .bind (.note _) fun _ =>
      .bind (.call _ _) fun outcome => ?_
  cases outcome with
  | ok reply => exact .bind (.update _) fun _ => .pure _
  | error f => exact .failStatement c statement f

theorem release (b : Backend) : Appends (Driver.release b) := by
  cases b with
  | recorder s => exact .pure ()
  | cursors bare c => exact .note _
  | engine c => exact .note _

theorem execute (sql : Value) (bindings : Bindings) : Appends (Driver.execute sql bindings) := by
  have hsent (b : Backend) (c : Client) : Appends (do
      let reply ← Driver.send c sql bindings
      Driver.update fun d => { d with lastInsertId := reply.lastId.getD .null }
      Driver.release b
      Driver.autocommit c
      Driver.ofResult reply.rowCount.atLeastZero) :=
    .bind (.send c sql bindings) fun _ => .bind (.update _) fun _ => .bind (.release b) fun _ =>
      .bind (.autocommit c) fun _ => .ofResult _
  refine .read fun d => ?_
  generalize d.backend = b
  cases b with
  | cursors bare c => exact hsent _ c
  | engine c => exact hsent _ c
  | recorder s =>
    refine .bind (.restyle sql bindings) fun (statement, params) => .bind (.note _) fun _ =>
      .bind ?_ fun _ => .bind (.update _) fun _ => .pure _
    exact .bind (.ofResult _) fun _ => .ite (.throw _) (.pure _)

theorem insertId : Appends Driver.insertId := .read fun _ => .pure _

theorem recordStep (entry : Entry) (failing : Bool) (name capitals : String) (isOpen : Bool) :
    Appends (Driver.recordStep entry failing name capitals isOpen) :=
  .bind (.note _) fun _ => .ite (.bind (.throw _) fun _ => .update _) (.update _)

theorem begin : Appends Driver.begin := by
  refine .read fun d => ?_
  cases d.backend with
  | recorder s => exact .recordStep _ _ _ _ _
  | cursors bare c => exact .bind (.log _ _) fun _ => .update _
  | engine c =>
    have hrest : Appends (do
        Driver.note .began
        Driver.update fun d => { d with engineOpen := true }
        Driver.passing (← Driver.call .start c.start)
        setInTransaction true) :=
      .bind (.note _) fun _ => .bind (.update _) fun _ => .bind (.call _ _) fun _ =>
        .bind (.passing _) fun _ => .update _
    exact .bind (.log _ _) fun _ =>
      .ite (.bind (.ending _ _ _) fun _ => .bind (.passing _) fun _ => hrest) hrest

theorem commit : Appends Driver.commit := by
  have hsent (c : Client) : Appends (do
      Driver.log .debug "COMMIT"
      let outcome ← commitClient c
      setInTransaction false
      Driver.reporting "COMMIT" outcome) :=
    .bind (.log _ _) fun _ => .bind (.ending _ _ _) fun _ => .bind (.update _) fun _ =>
      .reporting _ _
  refine .read fun d => ?_
  cases d.backend with
  | recorder s => exact .recordStep _ _ _ _ _
  | cursors bare c => exact hsent c
  | engine c => exact hsent c

theorem rollback : Appends Driver.rollback := by
  have hsent (c : Client) : Appends (do
      Driver.log .warning "ROLLBACK"
      setInTransaction false
      Driver.reporting "ROLLBACK" (← rollbackClient c)) :=
    .bind (.log _ _) fun _ => .bind (.update _) fun _ => .bind (.ending _ _ _) fun _ =>
      .reporting _ _
  refine .read fun d => ?_
  cases d.backend with
  | recorder s => exact .recordStep _ _ _ _ _
  | cursors bare c => exact hsent c
  | engine c => exact hsent c

end Appends

/-! ## What statements leave alone -/

/-- The driver has a back end, and a transaction is open or not. -/
def Poised (b : Backend) (isOpen : Bool) (d : Driver) : Prop :=
  d.backend = b ∧ d.inTransaction = isOpen

theorem Keeps.ite {D : Driver → Prop} {p : Prop} [Decidable p] {x y : Action α} (hx : Keeps D x)
    (hy : Keeps D y) : Keeps D (if p then x else y) := by
  split
  · exact hx
  · exact hy

theorem Keeps.call {D : Driver → Prop} (hD : ∀ d history, D d → D { d with history })
    (what : ClientCall) (f : History → Except Failure α) : Keeps D (Driver.call what f) :=
  .read fun _ _ => (Keeps.update fun d hd => hD d _ hd).bind fun _ => .pure _

theorem Keeps.ending {D : Driver → Prop} (hD : ∀ d history, D d → D { d with history })
    (hclosed : ∀ d, D d → D { d with engineOpen := false }) (entry : Entry) (what : ClientCall)
    (f : History → Except Failure Unit) : Keeps D (Driver.ending entry what f) :=
  (Keeps.note entry).bind fun _ => (Keeps.call hD what f).bind fun _ =>
    .ite ((Keeps.update hclosed).bind fun _ => .pure _) (.pure _)

section

variable {b : Backend} {isOpen : Bool}

theorem keeps_call_poised (what : ClientCall) (f : History → Except Failure α) :
    Keeps (Poised b isOpen) (call what f) :=
  .call (fun _ _ hd => ⟨hd.1, hd.2⟩) what f

theorem keeps_ending_poised (entry : Entry) (what : ClientCall)
    (f : History → Except Failure Unit) : Keeps (Poised b isOpen) (ending entry what f) :=
  .ending (fun _ _ hd => ⟨hd.1, hd.2⟩) (fun _ hd => ⟨hd.1, hd.2⟩) entry what f

theorem keeps_autocommit_poised (c : Client) : Keeps (Poised b isOpen) (autocommit c) :=
  .read fun _ _ => .ite ((keeps_ending_poised _ _ _).bind fun _ => .passing _) (.pure _)

theorem keeps_failStatement_poised (c : Client) (statement : Value) (f : Failure) :
    Keeps (Poised b isOpen) (failStatement c statement f : Action α) := by
  refine .read fun d _ => ?_
  have hrest : Keeps (Poised b isOpen) (do
      if !d.inTransaction then passing (← rollbackClient c)
      throw (.driver f.message statement) : Action α) :=
    .ite ((keeps_ending_poised _ _ _).bind fun _ => (Keeps.passing _).bind fun _ => .throw _)
      (.throw _)
  exact .ite ((Keeps.update fun _ hd => ⟨hd.1, hd.2⟩).bind fun _ => (Keeps.log _ _).bind fun _ =>
    .ite ((Keeps.note _).bind fun _ => hrest) hrest) (.throw _)

theorem keeps_prepareClient_poised (c : Client) (statement : Value) :
    Keeps (Poised b isOpen) (prepareClient c statement) :=
  .read fun _ _ => .ite ((keeps_call_poised _ _).bind fun _ => .passing _)
    (.ite (.update fun _ hd => ⟨hd.1, hd.2⟩) (.throw _))

theorem keeps_send_poised (c : Client) (sql : Value) (bindings : Bindings) :
    Keeps (Poised b isOpen) (send c sql bindings) := by
  refine (Keeps.restyle sql bindings).bind fun (statement, params) =>
    (keeps_prepareClient_poised c statement).bind fun _ => (Keeps.note _).bind fun _ =>
      (keeps_call_poised _ _).bind fun outcome => ?_
  cases outcome with
  | ok reply => exact (Keeps.update fun _ hd => ⟨hd.1, hd.2⟩).bind fun _ => .pure _
  | error f => exact keeps_failStatement_poised c statement f

theorem keeps_execute_poised (sql : Value) (bindings : Bindings) :
    Keeps (Poised b isOpen) (execute sql bindings) := by
  have hsent (b' : Backend) (c : Client) : Keeps (Poised b isOpen) (do
      let reply ← send c sql bindings
      update fun d => { d with lastInsertId := reply.lastId.getD .null }
      release b'
      autocommit c
      ofResult reply.rowCount.atLeastZero) :=
    (keeps_send_poised c sql bindings).bind fun _ =>
      (Keeps.update fun _ hd => ⟨hd.1, hd.2⟩).bind fun _ => (Keeps.release b').bind fun _ =>
        (keeps_autocommit_poised c).bind fun _ => .ofResult _
  refine .read fun d _ => ?_
  generalize d.backend = b'
  cases b' with
  | cursors bare c => exact hsent _ c
  | engine c => exact hsent _ c
  | recorder s =>
    exact (Keeps.restyle sql bindings).bind fun (statement, params) =>
      (Keeps.note _).bind fun _ =>
        ((Keeps.ofResult _).bind fun _ => Keeps.ite (.throw _) (.pure _)).bind fun _ =>
          (Keeps.update fun _ hd => ⟨hd.1, hd.2⟩).bind fun _ => .pure _

theorem keeps_insertId_poised : Keeps (Poised b isOpen) insertId := .read fun _ _ => .pure _

end

/-- Where the action succeeds on a driver with `D`, it leaves the driver with `E`. -/
def Reaches (D E : Driver → Prop) (x : Action α) : Prop :=
  ∀ ch a, D ch.driver → (runOn x ch).1 = .ok a → E (runOn x ch).2.driver

namespace Reaches

variable {D E : Driver → Prop}

theorem throw (f : Fault) : Reaches D E (MonadExcept.throw f : Action α) := by
  intro ch a _ hok
  cases hok

theorem bind {x : Action α} {k : α → Action β} (hx : Keeps D x) (hk : ∀ a, Reaches D E (k a)) :
    Reaches D E (x >>= k) := by
  intro ch b hch hok
  have hkept := hx ch hch
  rw [runOn_bind] at hok ⊢
  generalize runOn x ch = p at hok hkept ⊢
  obtain ⟨_ | a, ch'⟩ := p
  · cases hok
  · exact hk a ch' b hkept hok

theorem read {k : Driver → Action α} (h : ∀ d, D d → Reaches D E (k d)) :
    Reaches D E (current >>= k) := by
  intro ch a hch hok
  rw [runOn_bind_ok (runOn_current ch)] at hok ⊢
  exact h ch.driver hch ch a hch hok

theorem update {f : Driver → Driver} (h : ∀ d, D d → E (f d)) : Reaches D E (Driver.update f) :=
  fun ch _ hch _ => h ch.driver hch

theorem ite {p : Prop} [Decidable p] {x y : Action α} (hx : Reaches D E x) (hy : Reaches D E y) :
    Reaches D E (if p then x else y) := by
  split
  · exact hx
  · exact hy

end Reaches

theorem reaches_begin (b : Backend) :
    Reaches (·.backend = b) (Poised b true) begin := by
  have hset : Reaches (·.backend = b) (Poised b true) (setInTransaction true) :=
    .update fun _ hbackend => ⟨hbackend, rfl⟩
  refine .read fun d _ => ?_
  generalize d.backend = b'
  cases b' with
  | recorder s =>
    exact .bind (.note _) fun _ => .ite (.bind (.throw _) fun _ => hset) hset
  | cursors bare c => exact .bind (.log _ _) fun _ => hset
  | engine c =>
    have hrest : Reaches (·.backend = b) (Poised b true) (do
        note .began
        update fun d => { d with engineOpen := true }
        passing (← call .start c.start)
        setInTransaction true) :=
      .bind (.note _) fun _ => .bind (.update fun _ hbackend => hbackend) fun _ =>
        .bind (.call (fun _ _ hbackend => hbackend) _ _) fun _ => .bind (.passing _) fun _ => hset
    exact .bind (.log _ _) fun _ => .ite
      (.bind (.ending (fun _ _ hbackend => hbackend) (fun _ hbackend => hbackend) _ _ _) fun _ =>
        .bind (.passing _) fun _ => hrest)
      hrest

/-- A transaction that begins is open, on the same back end. -/
theorem poised_of_begin {d d' : Driver} {entries : List Entry}
    (h : effect begin d = ⟨.ok (), d', entries⟩) : Poised d.backend true d' := by
  have hreached := reaches_begin d.backend ⟨d, []⟩ () rfl (congrArg Effect.outcome h)
  have hdriver : (runOn begin ⟨d, []⟩).2.driver = d' := congrArg Effect.driver h
  rwa [hdriver] at hreached

end Driver

end SqlBuilder
