import SqlBuilder.Proofs.Restyling.Substitution
import SqlBuilder.Proofs.Transaction.Implicit

/-!
# Two drivers on one back end

A `Script` says how a back end answers statements after the statements, commits and rollbacks
before. A cursor driver and an engine driver that write named placeholders are run on back ends that
follow one script. They make different calls: the one opens and closes cursors and begins nothing,
the other begins transactions and commits what the engine has begun by itself.

`Paired script bare inside pending a b` is the invariant: both channels are `inside` a transaction
or not, the back ends were asked for the same statements and ends, and what the drivers show is the
same. `pending` says whether the engine has a transaction open. Between calls that is so just inside
a transaction, which is why the engine driver has nothing to commit when it begins one.

`Mirrors` is the relation of two actions that lead from paired channels to paired channels and come
to the same. Every call of a driver mirrors itself (`mirrors_call`), and `drivers_interchange`
carries this through a run.
-/

set_option autoImplicit false

namespace SqlBuilder

namespace Placeholder

open SqlBuilder.Text

/-! ## Queries without colons -/

theorem escapeColonChars_of_not_mem {cs : List Char} (h : ':' ∉ cs) : escapeColonChars cs = cs := by
  induction cs with
  | nil => rfl
  | cons c cs ih =>
    rw [List.mem_cons, not_or] at h
    cases cs with
    | nil => rfl
    | cons d cs =>
      rw [escapeColonChars, if_neg (by simp [Ne.symm h.1]), ih h.2]

theorem map_escapeColons_split {sql : String} (h : ':' ∉ sql.toList) :
    (split sql).map escapeColons = split sql := by
  have hsegment : ∀ cs ∈ splitFrom '?' '\'' false sql.toList,
      escapeColons (String.ofList cs) = String.ofList cs := by
    intro cs hcs
    have hcolon : ':' ∉ cs := fun hmem => h (mem_of_mem_splitFrom hcs _ hmem)
    rw [escapeColons, String.toList_ofList, escapeColonChars_of_not_mem hcolon]
  rw [split, List.map_map]
  exact List.map_congr_left hsegment

/-- Without colons there is nothing to escape. -/
theorem restyle_escapeColons {sql : String} (h : ':' ∉ sql.toList) (style : Value)
    (bindings : Bindings) :
    restyle style escapeColons (.text sql) bindings = restyle style id (.text sql) bindings := by
  have hsegments (style : Style) :
      escapeSegments style escapeColons (split sql) = escapeSegments style id (split sql) := by
    rw [escapeSegments, escapeSegments, map_escapeColons_split h, List.map_id]
  have hvalues (style : Style) (values : List Value) :
      restyleValues style escapeColons (.text sql) values =
        restyleValues style id (.text sql) values := by
    simp only [restyleValues, segments_text, hsegments, bind, Except.bind]
  simp only [restyle, hvalues]

/-- A text is restyled to a text. -/
theorem text_of_restyle {style : Value} {escape : String → String} {sql : String}
    {bindings : Bindings} {p : Value × Bindings}
    (h : restyle style escape (.text sql) bindings = .ok p) :
    ∃ statement, p.1 = .text statement := by
  obtain ⟨style, -, h⟩ := bind_ok h
  cases bindings with
  | named entries =>
    cases h
    exact ⟨sql, rfl⟩
  | positional values =>
    obtain ⟨⟨restyled, params⟩, -, h⟩ := bind_ok h
    cases h
    exact ⟨restyled, rfl⟩

end Placeholder

/-! ## Scripts -/

/-- The call is a statement or ends a transaction. -/
def ClientCall.isScripted : ClientCall → Bool
  | .run _ _ | .commit | .rollback => true
  | .openCursor | .fetch | .start => false

/-- The statements, commits and rollbacks among the calls. -/
def scripted (h : History) : History := h.filter fun call => call.1.isScripted

/-- The columns of the result, if there is one, are named by distinct texts. -/
def Reply.Tabular (r : Reply) : Prop :=
  ∀ names, r.columns = some names → names.Nodup ∧ ∀ name ∈ names, ∃ s, name = .text s

/-- What a back end answers to a statement after statements and ends: a reply, or the message of its
error. -/
structure Script where
  answer : History → Value → Bindings → Except String Reply
  tabular : ∀ past sql bindings r, answer past sql bindings = .ok r → r.Tabular

namespace Script

/-- The client library of a back end that follows a script, with errors of one kind. Nothing but a
statement fails. -/
def client (script : Script) (kind : ClientKind) : Client where
  openCursor _ := .ok ()
  run past sql bindings :=
    match script.answer (scripted past) sql bindings with
    | .ok reply => .ok reply
    | .error message => .error ⟨kind, message⟩
  fetch _ := .ok ()
  start _ := .ok ()
  commit _ := .ok ()
  rollback _ := .ok ()

/-- A cursor driver with named placeholders. -/
def cursorDriver (script : Script) (bare : Bool) (tablePrefix : Value) : Driver :=
  { backend := .cursors bare (script.client .library), style := .text "named", tablePrefix }

/-- An engine driver. -/
def engineDriver (script : Script) (tablePrefix : Value) : Driver :=
  { backend := .engine (script.client .engine), style := .text "named", tablePrefix }

end Script

/-! ## Calls and what they show -/

/-- A call of a driver. -/
inductive DriverCall where
  | request (q : Request) (sql : String) (bindings : Value)
  | begin
  | commit
  | rollback

namespace DriverCall

/-- What a call gives. -/
abbrev Answer : DriverCall → Type
  | .request q _ _ => q.Answer
  | .begin | .commit | .rollback => Unit

/-- The call, made to a driver. -/
def make : (call : DriverCall) → Driver.Action call.Answer
  | .request q sql bindings => do
    let style := (← Driver.current).style
    q.make (.text sql) (← Driver.ofResult (Placeholder.given style bindings))
  | .begin => Driver.begin
  | .commit => Driver.commit
  | .rollback => Driver.rollback

/-- The SQL of the call, if it has any, is free of colons. -/
def Colonless : DriverCall → Prop
  | .request _ sql _ => ':' ∉ sql.toList
  | .begin | .commit | .rollback => True

instance : DecidablePred Colonless
  | .request _ sql _ => inferInstanceAs (Decidable (':' ∉ sql.toList))
  | .begin | .commit | .rollback => inferInstanceAs (Decidable True)

end DriverCall

/-- The entry is a statement, a commit or a rollback that is sent to a client library. -/
def Entry.isTraffic : Entry → Bool
  | .sent _ _ | .committed | .rolledBack => true
  | _ => false

/-- The statements, commits and rollbacks sent so far. -/
def Channel.traffic (ch : Channel) : List Entry := ch.journal.filter Entry.isTraffic

/-- What a driver shows after a call. -/
structure Observation (α : Type) where
  outcome : Result α
  inTransaction : Bool
  insertId : Result Value
  lastError : String
  traffic : List Entry

namespace Driver

/-- What a driver shows after a call that came to `outcome`. -/
def observation {α : Type} (outcome : Result α) (ch : Channel) : Observation α where
  outcome
  inTransaction := ch.driver.inTransaction
  insertId := (runOn insertId ch).1
  lastError := ch.driver.lastError
  traffic := ch.traffic

/-- What a driver shows after each of some calls. -/
def observe (ch : Channel) : List DriverCall → List ((call : DriverCall) × Observation call.Answer)
  | [] => []
  | call :: calls =>
    ⟨call, observation (runOn call.make ch).1 (runOn call.make ch).2⟩ ::
      observe (runOn call.make ch).2 calls

/-- Transactions are begun where none is open. -/
def BeginsOutside (ch : Channel) : List DriverCall → Prop
  | [] => True
  | call :: calls => (call = .begin → ch.driver.inTransaction = false) ∧
    BeginsOutside (runOn call.make ch).2 calls

/-! ## Paired channels -/

/-- A cursor driver and an engine driver, both `inside` a transaction or not, whose back ends follow
one script and have been asked for the same. The engine has a transaction open if `pending`. -/
structure Paired (script : Script) (bare inside pending : Bool) (a b : Channel) : Prop where
  cursors : a.driver.backend = .cursors bare (script.client .library)
  engine : b.driver.backend = .engine (script.client .engine)
  cursorStyle : a.driver.style = .text "named"
  engineStyle : b.driver.style = .text "named"
  cursorInside : a.driver.inTransaction = inside
  engineInside : b.driver.inTransaction = inside
  engineOpen : b.driver.engineOpen = pending
  history : scripted a.driver.history = scripted b.driver.history
  insertId : a.driver.lastInsertId = b.driver.lastInsertId
  lastError : a.driver.lastError = b.driver.lastError
  traffic : a.traffic = b.traffic

namespace Paired

variable {script : Script} {bare inside pending : Bool} {a b : Channel}

theorem observation {α : Type} (h : Paired script bare inside pending a b) (outcome : Result α) :
    Driver.observation outcome a = Driver.observation outcome b := by
  have hid : (runOn Driver.insertId a).1 = (runOn Driver.insertId b).1 := by
    rw [Driver.insertId, runOn_bind_ok (runOn_current a), runOn_bind_ok (runOn_current b),
      h.cursors, h.engine, h.insertId]
    rfl
  simp only [Driver.observation, h.cursorInside, h.engineInside, hid, h.lastError, h.traffic]

/-- Entries that are no traffic may be written on either side. -/
theorem journals (h : Paired script bare inside pending a b) (left right : List Entry)
    (hentries : left.filter Entry.isTraffic = right.filter Entry.isTraffic) :
    Paired script bare inside pending { a with journal := a.journal ++ left }
      { b with journal := b.journal ++ right } := by
  have htraffic := h.traffic
  rw [Channel.traffic, Channel.traffic] at htraffic
  refine { h with traffic := ?_ }
  rw [Channel.traffic, Channel.traffic, List.filter_append, List.filter_append, htraffic, hentries]

/-- Both client libraries are called. -/
theorem called (h : Paired script bare inside pending a b) (what : ClientCall) (succeeded : Bool) :
    Paired script bare inside pending
      { a with driver := { a.driver with history := (what, succeeded) :: a.driver.history } }
      { b with driver := { b.driver with history := (what, succeeded) :: b.driver.history } } := by
  have hhistory := h.history
  rw [scripted, scripted] at hhistory
  refine { h with history := ?_ }
  rw [scripted, scripted, List.filter_cons, List.filter_cons, hhistory]

end Paired

/-! ## Mirrored actions -/

section

variable {α β γ : Type} {P P' Q E : Channel → Channel → Prop} {V : α → Prop} {W : β → Prop}

/-- From channels with `P` both actions come to the same: they succeed with a result in `V` and
leave channels with `Q`, or they fail and leave channels with `E`. -/
def Mirrors (P : Channel → Channel → Prop) (V : α → Prop) (Q E : Channel → Channel → Prop)
    (x y : Action α) : Prop :=
  ∀ a b, P a b → (runOn x a).1 = (runOn y b).1 ∧
    match (runOn x a).1 with
    | .ok u => V u ∧ Q (runOn x a).2 (runOn y b).2
    | .error _ => E (runOn x a).2 (runOn y b).2

/-- Any result. -/
abbrev Any (_ : α) : Prop := True

/-- From channels with `P` both actions succeed, with `u` and with `v`, and leave channels with
`P'`.
-/
def Succeed (P P' : Channel → Channel → Prop) (x : Action α) (u : α)
    (y : Action β) (v : β) : Prop :=
  ∀ a b, P a b → ∃ a' b', runOn x a = (.ok u, a') ∧ runOn y b = (.ok v, b') ∧ P' a' b'

namespace Mirrors

theorem pure {u : α} (hu : V u) : Mirrors P V P E (Pure.pure u) (Pure.pure u) :=
  fun _ _ h => ⟨rfl, hu, h⟩

theorem throw (f : Fault) :
    Mirrors E V Q E (MonadExcept.throw f : Action α) (MonadExcept.throw f) := fun _ _ h => ⟨rfl, h⟩

theorem ofResult {y : Result α} (hy : ∀ u, y = .ok u → V u) :
    Mirrors E V E E (Driver.ofResult y) (Driver.ofResult y) := by
  cases y with
  | ok u => exact .pure (hy u rfl)
  | error f => exact .throw f

theorem bind {x y : Action α} {k l : α → Action β} (hxy : Mirrors P V P' E x y)
    (hkl : ∀ u, V u → Mirrors P' W Q E (k u) (l u)) : Mirrors P W Q E (x >>= k) (y >>= l) := by
  intro a b hab
  obtain ⟨hsame, hafter⟩ := hxy a b hab
  rw [runOn_bind, runOn_bind]
  generalize runOn x a = p at hsame hafter
  generalize runOn y b = q at hsame hafter
  obtain ⟨u, a'⟩ := p
  obtain ⟨v, b'⟩ := q
  dsimp only at hsame hafter
  subst hsame
  cases u with
  | ok u => exact hkl u hafter.1 a' b' hafter.2
  | error f => exact ⟨rfl, hafter⟩

/-- What is made of the result in the end. -/
theorem map {x y : Action α} (f : α → β) (hxy : Mirrors P V Q E x y) :
    Mirrors P Any Q E (x >>= fun u => Pure.pure (f u)) (y >>= fun u => Pure.pure (f u)) :=
  hxy.bind fun _ _ => .pure trivial

/-- What depends on the drivers as they are. -/
theorem read {k l : Driver → Action α}
    (h : ∀ a b, P a b → Mirrors P V Q E (k a.driver) (l b.driver)) :
    Mirrors P V Q E (current >>= k) (current >>= l) := by
  intro a b hab
  rw [runOn_bind_ok (runOn_current a), runOn_bind_ok (runOn_current b)]
  exact h a b hab a b hab

/-- Steps that succeed with something known go before. -/
theorem after {x : Action β} {u : β} {y : Action γ} {v : γ} {k : β → Action α} {l : γ → Action α}
    (hxy : Succeed P P' x u y v) (hkl : Mirrors P' V Q E (k u) (l v)) :
    Mirrors P V Q E (x >>= k) (y >>= l) := by
  intro a b hab
  obtain ⟨a', b', ha, hb, hafter⟩ := hxy a b hab
  rw [runOn_bind_ok ha, runOn_bind_ok hb]
  exact hkl a' b' hafter

/-- A step on the left alone. -/
theorem afterLeft {x : Action β} {u : β} {k : β → Action α} {y : Action α}
    (hx : Succeed P P' x u (Pure.pure ()) ()) (hky : Mirrors P' V Q E (k u) y) :
    Mirrors P V Q E (x >>= k) y := by
  intro a b hab
  obtain ⟨a', b', ha, hb, hafter⟩ := hx a b hab
  obtain rfl : b = b' := congrArg Prod.snd hb
  rw [runOn_bind_ok ha]
  exact hky a' b hafter

end Mirrors

end

/-! ## Steps -/

section

variable {α : Type} (script : Script) (bare inside : Bool) {pending : Bool}

theorem succeed_update {P P' : Channel → Channel → Prop} {f g : Driver → Driver}
    (h : ∀ a b, P a b → P' { a with driver := f a.driver } { b with driver := g b.driver }) :
    Succeed P P' (update f) () (update g) () :=
  fun a b hab => ⟨_, _, runOn_update f a, runOn_update g b, h a b hab⟩

/-- Entries that count alike as traffic. -/
theorem succeed_note (e f : Entry)
    (h : [e].filter Entry.isTraffic = [f].filter Entry.isTraffic) :
    Succeed (Paired script bare inside pending) (Paired script bare inside pending)
      (note e) () (note f) () :=
  fun a b hab => ⟨_, _, runOn_note e a, runOn_note f b, hab.journals [e] [f] h⟩

/-- The entry that a cursor is closed is no traffic. -/
theorem succeed_cursorClosed :
    Succeed (Paired script bare inside pending) (Paired script bare inside pending)
      (note .cursorClosed) () (pure () : Action Unit) () := by
  intro a b hab
  have hpaired := hab.journals [.cursorClosed] [] rfl
  rw [List.append_nil] at hpaired
  exact ⟨_, _, runOn_note .cursorClosed a, rfl, hpaired⟩

/-- What is logged is no traffic. -/
theorem succeed_log (level : LogLevel) (message : String) :
    Succeed (Paired script bare inside pending) (Paired script bare inside pending)
      (log level message) () (log level message) () := by
  intro a b hab
  rw [log, runOn_bind_ok (runOn_current a), runOn_bind_ok (runOn_current b)]
  exact succeed_note script bare inside (.logged level (loggerName a.driver.backend) message)
    (.logged level (loggerName b.driver.backend) message) rfl a b hab

/-- The end of what is pending, which no back end of a script refuses. -/
theorem succeed_ending (entry : Entry) (what : ClientCall) {f g : History → Except Failure Unit}
    (hf : ∀ past, f past = .ok ()) (hg : ∀ past, g past = .ok ()) :
    Succeed (Paired script bare inside pending) (Paired script bare inside false)
      (ending entry what f) (.ok ()) (ending entry what g) (.ok ()) := by
  intro a b hab
  refine ⟨_, _, by rw [runOn_ending, hf], by rw [runOn_ending, hg], ?_⟩
  have hpaired := (hab.journals [entry] [entry] rfl).called what true
  simp only [Except.isOk, Except.toBool, Bool.not_true, Bool.and_false]
  exact { hpaired with engineOpen := rfl }

theorem succeed_commitClient :
    Succeed (Paired script bare inside pending) (Paired script bare inside false)
      (commitClient (script.client .library)) (.ok ())
      (commitClient (script.client .engine)) (.ok ()) :=
  succeed_ending script bare inside .committed .commit (fun _ => rfl) fun _ => rfl

theorem succeed_rollbackClient :
    Succeed (Paired script bare inside pending) (Paired script bare inside false)
      (rollbackClient (script.client .library)) (.ok ())
      (rollbackClient (script.client .engine)) (.ok ()) :=
  succeed_ending script bare inside .rolledBack .rollback (fun _ => rfl) fun _ => rfl

theorem succeed_setLastError (message : String) :
    Succeed (Paired script bare inside pending) (Paired script bare inside pending)
      (update fun d => { d with lastError := message }) ()
      (update fun d => { d with lastError := message }) () :=
  succeed_update fun _ _ hab => { hab with lastError := rfl }

theorem succeed_setInsertId (v : Value) :
    Succeed (Paired script bare inside pending) (Paired script bare inside pending)
      (update fun d => { d with lastInsertId := v }) ()
      (update fun d => { d with lastInsertId := v }) () :=
  succeed_update fun _ _ hab => { hab with insertId := rfl }

theorem succeed_setInTransaction (isOpen : Bool) :
    Succeed (Paired script bare inside pending) (Paired script bare isOpen pending)
      (setInTransaction isOpen) () (setInTransaction isOpen) () :=
  succeed_update fun _ _ hab => { hab with cursorInside := rfl, engineInside := rfl }

/-- Outside a transaction what is pending is committed, and inside it stays. -/
theorem mirrors_autocommit :
    Mirrors (Paired script bare inside true) Any (Paired script bare inside inside)
      (Paired script bare inside inside)
      (autocommit (script.client .library)) (autocommit (script.client .engine)) := by
  refine .read fun a b hab => ?_
  rw [hab.cursorInside, hab.engineInside]
  cases inside with
  | true => exact .pure trivial
  | false => exact .after (succeed_commitClient script bare false) (.pure trivial)

/-- A failed statement is reported alike, and what is pending is rolled back outside a transaction.
-/
theorem mirrors_failStatement {V : α → Prop} {Q : Channel → Channel → Prop} (statement : Value)
    (message : String) :
    Mirrors (Paired script bare inside true) V Q (Paired script bare inside inside)
      (failStatement (script.client .library) statement ⟨.library, message⟩ : Action α)
      (failStatement (script.client .engine) statement ⟨.engine, message⟩) := by
  refine .read fun a b hab => ?_
  rw [hab.cursors, hab.engine, hab.cursorInside, hab.engineInside]
  simp only [recognizes, hasCursor, BEq.rfl, Bool.or_true, ↓reduceIte, Bool.false_eq_true]
  refine .after (succeed_setLastError script bare inside message) <|
    .after (succeed_log script bare inside _ _) <|
    .afterLeft (succeed_cursorClosed script bare inside) ?_
  cases inside with
  | true => exact .throw _
  | false => exact .after (succeed_rollbackClient script bare false) (.throw _)

/-- Getting ready, the engine driver has its engine begin a transaction. -/
theorem succeed_prepareClient (statement : String) :
    Succeed (Paired script bare inside pending) (Paired script bare inside true)
      (prepareClient (script.client .library) (.text statement)) ()
      (prepareClient (script.client .engine) (.text statement)) () := by
  intro a b hab
  rw [prepareClient, prepareClient, runOn_bind_ok (runOn_current a),
    runOn_bind_ok (runOn_current b), hab.cursors, hab.engine]
  refine ⟨_, _, rfl, rfl, ?_⟩
  exact { hab with engineOpen := rfl }

/-! ## Requests -/

/-- A query is restyled alike where it has no colons to escape, and stays a text. -/
theorem mirrors_restyle {sql : String} (hsql : ':' ∉ sql.toList) (bindings : Bindings) :
    Mirrors (Paired script bare inside pending) (fun p => ∃ statement, p.1 = .text statement)
      (Paired script bare inside pending) (Paired script bare inside pending)
      (restyle (.text sql) bindings) (restyle (.text sql) bindings) := by
  refine .read fun a b hab => ?_
  rw [hab.cursorStyle, hab.engineStyle, hab.cursors, hab.engine]
  dsimp only [escapeOf]
  rw [Placeholder.restyle_escapeColons hsql]
  exact .ofResult fun p hp => Placeholder.text_of_restyle hp

/-- A statement comes to the same reply, or fails alike. -/
theorem mirrors_send {sql : String} (hsql : ':' ∉ sql.toList) (bindings : Bindings) :
    Mirrors (Paired script bare inside inside) Reply.Tabular (Paired script bare inside true)
      (Paired script bare inside inside)
      (send (script.client .library) (.text sql) bindings)
      (send (script.client .engine) (.text sql) bindings) := by
  have hreply (reply : Reply) (h : reply.Tabular) :
      Mirrors (Paired script bare inside true) Reply.Tabular (Paired script bare inside true)
        (Paired script bare inside inside)
        (do update fun d => { d with lastError := "" }; pure reply)
        (do update fun d => { d with lastError := "" }; pure reply) := by
    exact .after (succeed_setLastError script bare inside "") (.pure h)
  refine (mirrors_restyle script bare inside hsql bindings).bind ?_
  rintro ⟨_, params⟩ ⟨statement, rfl⟩
  refine .after (succeed_prepareClient script bare inside statement)
    (.after (succeed_note script bare inside _ _ rfl) fun a b hab => ?_)
  rw [runOn_bind_ok (runOn_call _ _ _), runOn_bind_ok (runOn_call _ _ _)]
  dsimp only [Script.client]
  rw [hab.history]
  cases hanswer : script.answer (scripted b.driver.history) (.text statement) params with
  | ok reply =>
    exact hreply reply (script.tabular _ _ _ _ hanswer) _ _
      (hab.called (.run (.text statement) params) true)
  | error message =>
    exact mirrors_failStatement script bare inside _ message _ _
      (hab.called (.run (.text statement) params) false)

/-- The rows of a result with proper names are read alike. -/
theorem mirrors_fetchRows {reply : Reply} (h : reply.Tabular) :
    Mirrors (Paired script bare inside true) Any (Paired script bare inside true)
      (Paired script bare inside inside)
      (fetchRows (.cursors bare (script.client .library)) (script.client .library) reply)
      (fetchRows (.engine (script.client .engine)) (script.client .engine) reply) := by
  have hkeys : ∀ names, reply.columns = some names → ∀ name ∈ names, name.isKey = true := by
    intro names hnames name hname
    obtain ⟨s, rfl⟩ := (h names hnames).2 name hname
    rfl
  obtain ⟨rows, hrows⟩ := Reply.exists_namedRows hkeys
  have hfetch : Succeed (Paired script bare inside true) (Paired script bare inside true)
      (call .fetch (script.client .library).fetch) (.ok ())
      (call .fetch (script.client .engine).fetch) (.ok ()) :=
    fun a b hab => ⟨_, _, runOn_call _ _ a, runOn_call _ _ b, hab.called .fetch true⟩
  simp only [fetchRows, hasCursor, hrows, ↓reduceIte, Bool.false_eq_true, pure_bind]
  split
  · exact .after hfetch (.afterLeft (succeed_cursorClosed script bare inside) (.pure trivial))
  · exact .afterLeft (succeed_cursorClosed script bare inside) (.pure trivial)

section

variable {sql : String} (hsql : ':' ∉ sql.toList) (bindings : Bindings)
include hsql

theorem mirrors_execute :
    Mirrors (Paired script bare inside inside) Any (Paired script bare inside inside)
      (Paired script bare inside inside)
      (execute (.text sql) bindings) (execute (.text sql) bindings) := by
  refine .read fun a b hab => ?_
  rw [hab.cursors, hab.engine]
  refine (mirrors_send script bare inside hsql bindings).bind fun reply _ => ?_
  refine .after (succeed_setInsertId script bare inside _)
    (.after (succeed_note script bare inside .cursorClosed .resultClosed rfl) ?_)
  exact (mirrors_autocommit script bare inside).bind fun _ _ => .ofResult fun _ _ => trivial

theorem mirrors_fetchAll :
    Mirrors (Paired script bare inside inside) Any (Paired script bare inside inside)
      (Paired script bare inside inside)
      (fetchAll (.text sql) bindings) (fetchAll (.text sql) bindings) := by
  refine .read fun a b hab => ?_
  rw [hab.cursors, hab.engine]
  refine (mirrors_send script bare inside hsql bindings).bind fun reply htabular => ?_
  refine (mirrors_fetchRows script bare inside htabular).bind fun rows _ => ?_
  exact (mirrors_autocommit script bare inside).bind fun _ _ => .pure trivial

theorem mirrors_request (q : Request) :
    Mirrors (Paired script bare inside inside) Any (Paired script bare inside inside)
      (Paired script bare inside inside)
      (q.make (.text sql) bindings) (q.make (.text sql) bindings) := by
  have hall := mirrors_fetchAll script bare inside hsql bindings
  have hrow := hall.map fun rows : List Row => rows.head?
  cases q with
  | execute => exact mirrors_execute script bare inside hsql bindings
  | fetchAll => exact hall
  | fetchRow => exact hrow
  | fetchScalar => exact hrow.map fun row? => (row?.map firstValue).getD .null
  | fetchColumn => exact hall.map fun rows => rows.map firstValue

end

/-! ## Transactions -/

/-- Outside a transaction the engine has none open, so that both drivers just begin one. -/
theorem mirrors_begin :
    Mirrors (Paired script bare false false) Any (Paired script bare true true)
      (Paired script bare true true) begin begin := by
  refine .read fun a b hab => ?_
  rw [hab.cursors, hab.engine, hab.engineOpen]
  simp only [Bool.false_eq_true, ↓reduceIte]
  refine .after (succeed_log script bare false _ _) fun a b hab => ⟨rfl, trivial, ?_⟩
  have hbegan := hab.journals [] [.began] rfl
  rw [List.append_nil] at hbegan
  exact { hbegan with cursorInside := rfl, engineInside := rfl, engineOpen := rfl }

theorem mirrors_commit :
    Mirrors (Paired script bare inside inside) Any (Paired script bare false false)
      (Paired script bare false false) commit commit := by
  refine .read fun a b hab => ?_
  rw [hab.cursors, hab.engine]
  exact .after (succeed_log script bare inside _ _) <|
    .after (succeed_commitClient script bare inside) <|
    .after (succeed_setInTransaction script bare inside false) (.pure trivial)

theorem mirrors_rollback :
    Mirrors (Paired script bare inside inside) Any (Paired script bare false false)
      (Paired script bare false false) rollback rollback := by
  refine .read fun a b hab => ?_
  rw [hab.cursors, hab.engine]
  exact .after (succeed_log script bare inside _ _) <|
    .after (succeed_setInTransaction script bare inside false) <|
    .after (succeed_rollbackClient script bare false) (.pure trivial)

end

/-! ## Runs -/

variable (script : Script) (bare : Bool) {inside : Bool} {a b : Channel}

/-- A call leads settled drivers to settled drivers and comes to the same. -/
theorem mirrors_call {call : DriverCall} (hcolons : call.Colonless)
    (hbegin : call = .begin → inside = false) :
    ∃ inside', Mirrors (Paired script bare inside inside) Any (Paired script bare inside' inside')
      (Paired script bare inside' inside') call.make call.make := by
  cases call with
  | request q sql bindings =>
    refine ⟨inside, .read fun a b hab => ?_⟩
    rw [hab.cursorStyle, hab.engineStyle]
    exact .bind (.ofResult fun _ _ => trivial) fun given _ =>
      mirrors_request script bare inside hcolons given q
  | begin =>
    obtain rfl := hbegin rfl
    exact ⟨true, mirrors_begin script bare⟩
  | commit => exact ⟨false, mirrors_commit script bare inside⟩
  | rollback => exact ⟨false, mirrors_rollback script bare inside⟩

variable {script bare} in
theorem observe_eq {calls : List DriverCall} (hab : Paired script bare inside inside a b)
    (hcolons : ∀ call ∈ calls, call.Colonless) (hbegins : BeginsOutside a calls) :
    observe a calls = observe b calls := by
  induction calls generalizing inside a b with
  | nil => rfl
  | cons call calls ih =>
    obtain ⟨hbegin, hrest⟩ := hbegins
    rw [hab.cursorInside] at hbegin
    obtain ⟨hcall, hcalls⟩ := List.forall_mem_cons.1 hcolons
    obtain ⟨inside', hmirrors⟩ := mirrors_call script bare hcall hbegin
    obtain ⟨hsame, hafter⟩ := hmirrors a b hab
    have hpaired :
        Paired script bare inside' inside' (runOn call.make a).2 (runOn call.make b).2 := by
      cases houtcome : (runOn call.make a).1 with
      | ok u =>
        rw [houtcome] at hafter
        exact hafter.2
      | error f =>
        rw [houtcome] at hafter
        exact hafter
    rw [observe, observe, hsame, hpaired.observation, ih hpaired hcalls hrest]

/-- A new cursor driver and a new engine driver on back ends of one script. -/
theorem paired_new (cursorPrefix enginePrefix : Value) :
    Paired script bare false false ⟨script.cursorDriver bare cursorPrefix, []⟩
      ⟨script.engineDriver enginePrefix, []⟩ :=
  ⟨rfl, rfl, rfl, rfl, rfl, rfl, rfl, rfl, rfl, rfl, rfl⟩

/-- A cursor driver with named placeholders and an engine driver, on back ends that follow one
script, show the same after every call: what it comes to, whether a transaction is open, the
identifier of the last insertion, the last error, and the statements, commits and rollbacks sent so
far. -/
theorem drivers_interchange (cursorPrefix enginePrefix : Value)
    {calls : List DriverCall} (hcolons : ∀ call ∈ calls, call.Colonless)
    (hbegins : BeginsOutside ⟨script.cursorDriver bare cursorPrefix, []⟩ calls) :
    observe ⟨script.cursorDriver bare cursorPrefix, []⟩ calls =
      observe ⟨script.engineDriver enginePrefix, []⟩ calls :=
  observe_eq (paired_new script bare cursorPrefix enginePrefix) hcolons hbegins

/-- A back end that has no table `ghost`, and else answers with the number of what it was asked. -/
def countingScript : Script where
  answer past sql _ :=
    match sql with
    | .text "DELETE FROM ghost" => .error "no such table"
    | _ => .ok {
      rowCount := .int 1
      lastId := some (.int past.length)
      columns := some [.text "n"]
      rows := [[.int past.length]] }
  tabular past sql bindings r h := by
    intro names hnames
    split at h
    · cases h
    · cases h
      cases hnames
      exact ⟨List.nodup_singleton _, fun name hname => ⟨"n", List.mem_singleton.1 hname⟩⟩

/-- Statements fail inside and outside a transaction, and bindings do not fit. -/
def mixedCalls : List DriverCall :=
  [.request .execute "INSERT INTO t VALUES (?)" (.list [.int 5]), .begin,
    .request .fetchScalar "SELECT n FROM t" (.list []),
    .request .execute "DELETE FROM ghost" (.list []), .rollback,
    .request .fetchColumn "DELETE FROM ghost" (.list []),
    .request .fetchRow "SELECT ?" (.list []), .begin, .commit]

/-- What is sent for these calls: of the statements outside the transaction the one that succeeds is
committed and the one that fails rolled back, and bindings that do not fit are not sent. -/
def mixedTraffic : List Entry := [
  .sent (.text "INSERT INTO t VALUES (:p0)") (.named [(.text "p0", .int 5)]), .committed,
  .sent (.text "SELECT n FROM t") (.named []),
  .sent (.text "DELETE FROM ghost") (.named []), .rolledBack,
  .sent (.text "DELETE FROM ghost") (.named []), .rolledBack, .committed]

set_option maxRecDepth 4000 in
theorem drivers_interchange_of_mixed :
    (∀ call ∈ mixedCalls, call.Colonless) ∧
    BeginsOutside ⟨countingScript.cursorDriver false (.text ""), []⟩ mixedCalls ∧
    observe ⟨countingScript.cursorDriver false (.text ""), []⟩ mixedCalls =
      observe ⟨countingScript.engineDriver (.text ""), []⟩ mixedCalls ∧
    ((observe ⟨countingScript.cursorDriver false (.text ""), []⟩ mixedCalls).map
      fun shown => shown.2.traffic).getLast? = some mixedTraffic := by
  have hcolons : ∀ call ∈ mixedCalls, call.Colonless := by decide
  have hbegins : BeginsOutside ⟨countingScript.cursorDriver false (.text ""), []⟩ mixedCalls :=
    ⟨nofun, fun _ => rfl, nofun, nofun, nofun, nofun, nofun, fun _ => rfl, nofun, trivial⟩
  have hshown := drivers_interchange countingScript false (.text "") (.text "") hcolons hbegins
  exact ⟨hcolons, hbegins, hshown, by rw [hshown]; rfl⟩

end Driver

end SqlBuilder
