import Mathlib
import SqlBuilder.Proofs.Observers.Telling

/-!
# Observers do not alter the query that runs

An operation that runs one query goes through fixed stages, whoever listens (`Terminal.Goes`): the
query is issued; it becomes the last query of its connection; those who listen to what comes before
are told of it; the driver's method is called with the text and the bindings of the query as it was
issued; and if that does not fail, those who listen by then to what comes after are told.

`observers_only_observe`: so it is from every session, for every reaction to the events, as long as
those who are told are polite (`Terminal.Courteous`). What listeners do in between to the statements
of the builder, to the last query of the connection or to the listeners that are registered changes
nothing about it.
-/

set_option autoImplicit false

namespace SqlBuilder

open Session Builder

/-! ## What has run can be logged -/

namespace Driver

variable {α β : Type} {sql : Value}

/-- The action succeeds only if the text can be cut at its placeholders. -/
def Cuts (sql : Value) (x : Action α) : Prop :=
  ∀ ch a ch', runOn x ch = (.ok a, ch') → ∃ pieces, Placeholder.segments sql = .ok pieces

theorem Cuts.bind {x : Action α} (h : Cuts sql x) (k : α → Action β) : Cuts sql (x >>= k) := by
  intro ch b ch' hrun
  rw [runOn_bind] at hrun
  generalize hx : runOn x ch = p at hrun
  obtain ⟨_ | a, ch₁⟩ := p
  · cases hrun
  · exact h ch a ch₁ hx

/-- What depends on the driver as it is. -/
theorem Cuts.read {k : Driver → Action α} (h : ∀ d, Cuts sql (k d)) :
    Cuts sql (current >>= k) := by
  intro ch a ch' hrun
  rw [runOn_bind_ok (runOn_current ch)] at hrun
  exact h ch.driver ch a ch' hrun

theorem cuts_restyle (values : List Value) : Cuts sql (restyle sql (.positional values)) := by
  refine .read fun d ch styled ch' hrun => ?_
  rw [runOn_ofResult] at hrun
  obtain ⟨style, -, hstyled⟩ := bind_ok (Prod.mk.inj hrun).1
  obtain ⟨_, hvalues, -⟩ := bind_ok hstyled
  obtain ⟨_, -, hrest⟩ := bind_ok hvalues
  obtain ⟨pieces, hpieces, -⟩ := bind_ok hrest
  exact ⟨pieces, hpieces⟩

theorem cuts_send (c : Client) (values : List Value) : Cuts sql (send c sql (.positional values)) :=
  (cuts_restyle values).bind _

theorem cuts_execute (values : List Value) : Cuts sql (execute sql (.positional values)) := by
  refine .read fun d => ?_
  cases d.backend with
  | recorder s => exact (cuts_restyle values).bind _
  | cursors bare c => exact (cuts_send c values).bind _
  | engine c => exact (cuts_send c values).bind _

theorem cuts_fetchAll (values : List Value) : Cuts sql (fetchAll sql (.positional values)) := by
  refine .read fun d => ?_
  cases d.backend with
  | recorder s => exact (cuts_restyle values).bind _
  | cursors bare c => exact (cuts_send c values).bind _
  | engine c => exact (cuts_send c values).bind _

end Driver

/-- No method of a driver succeeds with a text that cannot be cut at its placeholders. -/
theorem Terminal.cuts_ask (t : Terminal) {q : CompiledQuery} {values : List Value}
    (h : q.bindings = .positional values) : Driver.Cuts q.sql (t.ask q) := by
  have hall :
      Driver.Cuts q.sql (Driver.fetchAll q.sql q.bindings) := h ▸ Driver.cuts_fetchAll values
  have hexecute : Driver.Cuts q.sql (Driver.execute q.sql q.bindings) :=
    h ▸ Driver.cuts_execute values
  have hrow : Driver.Cuts q.sql (Driver.fetchRow q.sql q.bindings) := hall.bind _
  cases t with
  | get => exact hall
  | row => exact hrow
  | pluck => exact hall.bind _
  | value | count | aggregate => exact hrow.bind _
  | insert => exact hexecute.bind _
  | update | delete | query => exact hexecute

theorem CompiledQuery.interpolated_ok {q : CompiledQuery} {values : List Value}
    {pieces : List String} (h : q.bindings = .positional values)
    (hpieces : Placeholder.segments q.sql = .ok pieces) : ∃ v, q.interpolated = .ok v := by
  unfold interpolated
  rw [h]
  dsimp only
  rw [hpieces]
  cases pieces with
  | nil => exact ⟨_, rfl⟩
  | cons piece pieces => cases pieces <;> exact ⟨_, rfl⟩

/-! ## Stages -/

/-- The session in which a query has become the last one of a connection. -/
def Session.asking (s : Session) (c : Nat) (q : CompiledQuery) : Session :=
  { s with connections := s.connections.modify c fun conn => { conn with lastQuery := some q } }

namespace Terminal

/-- What listeners are told of before the query is run. -/
def beforehand (t : Terminal) (i : Issue t.Answer) : Event :=
  .ofQuery t.activity.before i.builder i.query []

/-- What listeners are told of when the query was run. -/
def afterwards (t : Terminal) (i : Issue t.Answer) (a : t.Answer) : Event :=
  .ofQuery t.activity.after i.builder i.query ((Event.executionTime, elapsed) :: t.reports a)

/-- A query is run on a connection: those who listen to what comes before are told, the driver's
method is called with the query, and if it answers, the query is logged and those who listen by then
to what comes after are told. -/
inductive Ran (r : Reaction) (t : Terminal) (i : Issue t.Answer) (c : Nat) (s : Session) :
    Result t.Answer → Session → Prop
  | failed {u v : Session} {f : Fault} :
      Heard r c (t.beforehand i) s u →
      runIn r (onDriver c (t.ask i.query)) u = (.error f, v) →
      Ran r t i c s (.error f) v
  | answered {u v w z : Session} {a : t.Answer} :
      Heard r c (t.beforehand i) s u →
      runIn r (onDriver c (t.ask i.query)) u = (.ok a, v) →
      runIn r (logExecuted i.query) v = (.ok (), w) →
      Heard r c (t.afterwards i a) w z →
      Ran r t i c s (.ok a) z

/-- Those who are told of a query that is run are polite, each time at the moment of the event. -/
structure Courteous (r : Reaction) (t : Terminal) (i : Issue t.Answer) (c : Nat) (s : Session) :
    Prop where
  before : AllPolite r i.builder c (t.beforehand i) s
  after : ∀ u v w a, Heard r c (t.beforehand i) s u →
    runIn r (onDriver c (t.ask i.query)) u = (.ok a, v) →
    runIn r (logExecuted i.query) v = (.ok (), w) →
    AllPolite r i.builder c (t.afterwards i a) w

/-- The operation comes to run a query: it is issued without anyone's notice, for a builder on a
connection, and becomes the last query there. -/
def Begins (r : Reaction) (t : Terminal) (b : Nat) (s : Session) (i : Issue t.Answer) (c : Nat)
    (u : Session) : Prop :=
  ∃ v, runIn r (t.issue b) s = (.ok i, v) ∧ Quiet s v ∧ v.On i.builder c ∧ u = v.asking c i.query

/-- What becomes of an operation: it issues no query, and no one notices, or it issues one, which is
run, and makes something of the answer. -/
inductive Goes (r : Reaction) (t : Terminal) (b : Nat) (s : Session) : Result Value → Session → Prop
  | unissued {u : Session} {f : Fault} :
      runIn r (t.issue b) s = (.error f, u) → Quiet s u → Goes r t b s (.error f) u
  | issued {i : Issue t.Answer} {c : Nat} {u z : Session} {y : Result t.Answer} :
      Begins r t b s i c u → Ran r t i c u y z → Goes r t b s (y >>= i.finish) z

end Terminal

/-! ## Running a query -/

section

variable {r : Reaction} {t : Terminal} {i : Issue t.Answer} {s u : Session} {b c : Nat}
  {α β : Type}

/-- What a driver returns, put in another form. -/
theorem Session.runIn_onDriver_map (h : s.On b c) (x : Driver.Action α) (f : α → β) :
    runIn r (onDriver c (x >>= fun a => pure (f a))) s =
      ((runIn r (onDriver c x) s).1.map f, (runIn r (onDriver c x) s).2) := by
  obtain ⟨conn, _, -, -, hconn⟩ := h
  rw [runIn_onDriver hconn, runIn_onDriver hconn, Driver.runOn_bind]
  generalize Driver.runOn x _ = p
  obtain ⟨_ | _, _⟩ := p <;> rfl

theorem Session.On.driver (h : s.On b c) {act : Driver.Action α} {y : Result α}
    (hrun : runIn r (onDriver c act) s = (y, u)) : u.On b c := by
  have hopen := h
  obtain ⟨conn, _, -, -, hconn⟩ := hopen
  rw [runIn_onDriver hconn] at hrun
  cases hrun
  exact h.modify c _ _

/-- A query that was run can be logged. -/
theorem Terminal.runIn_logExecuted_of_answered (h : s.On b c) {a : t.Answer}
    (hpositional : ∃ values, i.query.bindings = .positional values)
    (hrun : runIn r (onDriver c (t.ask i.query)) s = (.ok a, u)) :
    ∃ w, runIn r (logExecuted i.query) u = (.ok (), w) ∧ w.On b c := by
  have hu := h.driver hrun
  obtain ⟨values, hvalues⟩ := hpositional
  obtain ⟨conn, _, -, -, hconn⟩ := h
  rw [runIn_onDriver hconn] at hrun
  obtain ⟨pieces, hpieces⟩ :=
    t.cuts_ask hvalues _ _ _ (Prod.ext (Prod.mk.inj hrun).1 rfl)
  obtain ⟨text, htext⟩ := CompiledQuery.interpolated_ok hvalues hpieces
  obtain ⟨lines, -, hlog⟩ := runIn_logExecuted (r := r) i.query u
  have hloggable : i.query.loggable u.logging = .ok () := by
    unfold CompiledQuery.loggable
    rw [htext]
    split <;> rfl
  rw [hloggable] at hlog
  exact ⟨_, hlog, hu⟩

/-- What the listeners are told besides is fit for a notice. -/
theorem Terminal.sorted_reports (t : Terminal) (a : t.Answer) :
    ∃ names, Value.sorted (((Event.executionTime, elapsed) :: t.reports a).map Prod.fst) =
      .ok names := by
  have htime : Value.sorted [Event.executionTime] = .ok [Event.executionTime] := by cbv
  have hboth : Value.sorted [Event.executionTime, Event.insertId] =
      .ok [Event.executionTime, Event.insertId] := by cbv
  cases t with
  | insert => exact ⟨_, hboth⟩
  | _ => exact ⟨_, htime⟩

theorem Terminal.runIn_run_ran (h : s.On i.builder c)
    (hpositional : ∃ values, i.query.bindings = .positional values)
    (hcourteous : t.Courteous r i c (s.asking c i.query)) :
    ∃ y z, t.Ran r i c (s.asking c i.query) y z ∧
      runIn r (run i.builder t.activity i.query do
        let a ← t.ask i.query
        pure (a, t.reports a)) s = (y, z) := by
  have hopen := h
  obtain ⟨conn, hopen⟩ := hopen
  have hasking : runIn r (updateConnection c fun conn =>
      { conn with lastQuery := some i.query }) s = (.ok (), s.asking c i.query) := rfl
  have hon : (s.asking c i.query).On i.builder c := h.modify c _ _
  obtain ⟨u, hheard, hu, hbefore⟩ := runIn_announce_told hon sorted_nothing hcourteous.before
  rw [run, runIn_bind_ok (runIn_connectionOf hopen), runIn_bind_ok hasking, runIn_bind_ok hbefore,
    runIn_bind, runIn_onDriver_map hu]
  cases hdriver : runIn r (onDriver c (t.ask i.query)) u with
  | mk y v =>
  cases y with
  | error f => exact ⟨_, _, .failed hheard hdriver, rfl⟩
  | ok a =>
    obtain ⟨w, hlog, hw⟩ := t.runIn_logExecuted_of_answered hu hpositional hdriver
    obtain ⟨names, hnames⟩ := t.sorted_reports a
    obtain ⟨z, hheard', hz, hafter⟩ := runIn_announce_told hw hnames
      (hcourteous.after u v w a hheard hdriver hlog)
    refine ⟨_, z, .answered hheard hdriver hlog hheard', ?_⟩
    show runIn r (logExecuted i.query >>= _) v = _
    rw [runIn_bind_ok hlog, runIn_bind_ok hafter]
    rfl

/-- Whatever those who listen do to the statements, to the last query or to the listeners that are
registered, the query that was issued is run once, and each of them is told once. -/
theorem observers_only_observe
    (h : ∀ i c u, t.Begins r b s i c u → t.Courteous r i c u) :
    t.Goes r b s (runIn r (t.perform b) s).1 (runIn r (t.perform b) s).2 := by
  have hissuing := t.issuing_issue b
  cases hissue : runIn r (t.issue b) s with
  | mk y v =>
  have hquiet := hissuing.silent.quiet hissue
  cases y with
  | error f =>
    have hend : runIn r (t.perform b) s = (.error f, v) := by rw [t.perform_eq, runIn_bind, hissue]
    rw [hend]
    exact .unissued hissue hquiet
  | ok i =>
    obtain ⟨⟨c, hon⟩, hpositional⟩ := hissuing.ready r s i v hissue
    have hbegins : t.Begins r b s i c (v.asking c i.query) := ⟨v, hissue, hquiet, hon, rfl⟩
    obtain ⟨y, z, hran, hrun⟩ := t.runIn_run_ran hon hpositional (h i c _ hbegins)
    have hend : runIn r (t.perform b) s = (y >>= i.finish, z) := by
      rw [t.perform_eq, runIn_bind_ok hissue, runIn_bind, hrun]
      cases y with
      | error f => rfl
      | ok a => exact runIn_ofResult _ z
    rw [hend]
    exact .issued hbegins hran

end

/-! ## A listener that meddles -/

/-- What a listener does: it limits the rows of the builder, runs another query on it, no longer
listens itself, and has someone else listen to what comes after. -/
def meddle (b : Nat) : Action Unit := do
  limit b (.int 1)
  runText b (.text "SELECT 2") (.list [])
  updateConnection 0 fun conn =>
    let actions := Hooks.leave conn.hooks.actions Activity.select.before (.text "meddler")
    { conn with hooks := { conn.hooks with
      actions := Hooks.enter actions Activity.select.after (.text "onlooker") } }

/-- Whatever the program of a listener is, it meddles. -/
def meddling : Reaction := fun _ b? =>
  (do meddle (← present b?) : Action Unit).run fun _ _ => pure ()

/-- A session with one builder, and a listener before its selects. -/
def overheard : Session where
  connections := #[{
    driver := .ofScenario {}
    scenario := {}
    settings := {}
    adapter := { dialect := .sqlite }
    hooks := { actions := [(Activity.select.before, [.text "meddler"])] } }]
  builders := #[{ connection := some 0, record := 0 }]
  records := #[{ tables := .list [.text "t"] }]
  first := some 0
  functions := [(.text "meddler", .listener (.apply []))]

/-- The query that is issued there. -/
def selectAll : Issue (List Row) where
  builder := 0
  query := {
    sql := .text "SELECT * FROM t"
    bindings := .positional []
    adapter := some { dialect := .sqlite } }
  finish := shapedRows .object

/-- The session in which it is issued. -/
def overheardIssue : Session :=
  { overheard with journal := [.logged .debug "fluentql.compile.base"
    "Compiled select for sqlite: SELECT * FROM t"] }

theorem issues_overheard :
    runIn meddling ((Terminal.get .null).issue 0) overheard = (.ok selectAll, overheardIssue) := by
  obtain ⟨conn, hopen, hadapter⟩ : ∃ conn, overheard.Open 0 0 conn ∧
      conn.adapter = { dialect := .sqlite } := ⟨_, ⟨_, rfl, rfl, rfl⟩, rfl⟩
  have hshape : runIn meddling (shapeOf 0 .null OutputShape.all) overheard =
      (.ok .object, overheard) := rfl
  have hstatements : runIn meddling (statementsOf 0) overheard =
      (.ok { tables := .list [.text "t"] }, overheard) := rfl
  have hcompile :
      Adapter.compile { dialect := .sqlite } .select { tables := .list [.text "t"] } [] =
      .ok selectAll.query := by
    cbv
  rw [Terminal.issue, runIn_bind_ok hshape, issued, compileAs, bind_assoc,
    runIn_bind_ok (runIn_adapterOf hopen), bind_assoc, runIn_bind_ok (runIn_ofResult _ _),
    bind_assoc, runIn_bind_ok hstatements, hadapter, hcompile]
  rfl

/-- What the meddler listens to. -/
def beforeSelect : Event := (Terminal.get .null).beforehand selectAll

/-- The notice the meddler is given. -/
def meddlerNotice : Notice where
  listener := .text "meddler"
  event := Activity.select.before
  query := some selectAll.query
  insertId := .null
  timed := false
  arguments := []
  onFirst := some true

/-- The session in which the event comes that the meddler listens to. -/
def aboutToSelect : Session := overheardIssue.asking 0 selectAll.query

/-- The session in which the meddler is called. -/
def aboutToMeddle : Session :=
  let s := aboutToSelect.firing 0 beforeSelect
  { s with journal := s.journal ++ [.notified meddlerNotice] }

/-- What the meddler leaves. -/
def meddled : Session := (runIn meddling (meddling [] (some 0)) aboutToMeddle).2

theorem runs_meddler : runIn meddling (meddling [] (some 0)) aboutToMeddle = (.ok (), meddled) := by
  have hok : (runIn meddling (meddling [] (some 0)) aboutToMeddle).1.isOk = true := by
    decide +kernel
  rw [meddled]
  generalize runIn meddling (meddling [] (some 0)) aboutToMeddle = p at hok
  obtain ⟨_ | _, _⟩ := p
  · cases hok
  · rfl

/-- There is but one way to call the meddler. -/
theorem meddles {act : Action Unit} {u : Session}
    (h : Called 0 beforeSelect (.text "meddler") (aboutToSelect.firing 0 beforeSelect) act u) :
    runIn meddling act u = (.ok (), meddled) := by
  have hknown : (Value.lookup overheard.functions (.text "meddler")).getD (.listener .observe) =
      .listener (.apply []) := by
    have hsame : (Value.text "meddler").same (.text "meddler") = true := by decide +kernel
    have hfunctions : overheard.functions = [(.text "meddler", .listener (.apply []))] := rfl
    rw [hfunctions, Value.lookup, if_pos hsame, Option.getD_some]
  obtain ⟨rfl, rfl⟩ := h.unique (.listener hknown (notice_ofQuery sorted_nothing _ _))
  exact runs_meddler

theorem courteous_overheard (i : Issue (List Row)) (c : Nat) (u : Session)
    (h : (Terminal.get .null).Begins meddling 0 overheard i c u) :
    (Terminal.get .null).Courteous meddling i c u := by
  obtain ⟨v, hissue, -, hon, rfl⟩ := h
  cases issues_overheard.symm.trans hissue
  obtain ⟨_, _, hx, hc, -⟩ := hon
  cases hx
  cases hc
  refine ⟨fun act u hcalled => ⟨meddled, meddles hcalled, by decide +kernel, trivial⟩, ?_⟩
  intro u v w a hheard hdriver hlog
  cases hheard with
  | cons hcalled hrun hrest =>
  cases hrest
  cases (meddles hcalled).symm.trans hrun
  have hmeddled : meddled.On 0 0 := by decide +kernel
  have hv := hmeddled.driver hdriver
  have hquiet := (silent_logExecuted selectAll.query).quiet hlog
  refine polite_observers (hv.quiet hquiet).firing fun name hname => ?_
  have hunknown : (Value.lookup overheard.functions (.text "onlooker")).getD (.listener .observe) =
      .listener .observe := by
    have hother : (Value.text "meddler").same (.text "onlooker") = false := by decide +kernel
    have hfunctions : overheard.functions = [(.text "meddler", .listener (.apply []))] := rfl
    rw [hfunctions, Value.lookup, if_neg (Bool.not_eq_true _ ▸ hother)]
    rfl
  obtain ⟨conn, _, -, -, hconn⟩ := hmeddled
  rw [runIn_onDriver hconn] at hdriver
  obtain ⟨-, rfl⟩ := Prod.mk.inj hdriver
  rw [listening, hquiet.connections] at hname
  have honlooker : name ∈ [Value.text "onlooker"] := hname
  obtain rfl := List.mem_singleton.1 honlooker
  rw [firing_functions, hquiet.functions]
  exact hunknown

theorem observers_only_observe_of_meddling :
    let t := Terminal.get .null
    (∀ i c u, t.Begins meddling 0 overheard i c u → t.Courteous meddling i c u) ∧
      t.Goes meddling 0 overheard (runIn meddling (t.perform 0) overheard).1
        (runIn meddling (t.perform 0) overheard).2 :=
  ⟨courteous_overheard, observers_only_observe courteous_overheard⟩

end SqlBuilder
