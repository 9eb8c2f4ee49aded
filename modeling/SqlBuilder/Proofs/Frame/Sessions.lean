import SqlBuilder.Builder.Transaction
import SqlBuilder.Proofs.Frame.Basic
import SqlBuilder.Session.Connecting

/-!
# Operations of a session in a frame

What the operations of a session do to what a frame knows is said here once. A builder that changes
itself or its statements has to act; anyone may read, compile, make new builders, use a driver and
tell listeners.
-/

set_option autoImplicit false

namespace SqlBuilder

open Session

variable {α β γ : Type} {F : Frame}

/-! ## Changes apart from connections and builders -/

/-- What is observed changes, and nothing else. -/
structure Session.Apart (s s' : Session) : Prop where
  connections : s'.connections = s.connections
  builders : s'.builders = s.builders
  records : s'.records = s.records
  members : s'.members = s.members
  functions : s'.functions = s.functions
  first : s'.first = s.first
  second : s'.second = s.second
  standing : s'.standing = s.standing

theorem Frame.Holds.apart {s s' : Session} (h : F.Holds s) (hs : s.Apart s') : F.Holds s' where
  sane := h.sane.kept (Nat.le_of_eq (congrArg Array.size hs.connections.symm)) hs.builders
    (congrArg Array.size hs.records) hs.members fun c hc => by
      rw [hs.connections]
      rw [hs.first, hs.second, hs.standing] at hc
      exact h.sane.connected c (.inr hc)
  heard := h.heard.of_eq hs.connections hs.functions
  inv := F.kept h.inv hs.connections hs.builders hs.records hs.members

/-- Connections get names or lose them. -/
theorem Frame.Holds.named {s s' : Session} (h : F.Holds s)
    (hconnections : s'.connections = s.connections)
    (hbuilders : s'.builders = s.builders) (hrecords : s'.records = s.records)
    (hmembers : s'.members = s.members) (hfunctions : s'.functions = s.functions)
    (hnamed : ∀ c, s'.first = some c ∨ s'.second = some c ∨ s'.standing = some c →
      c < s.connections.size) : F.Holds s' where
  sane := h.sane.kept (Nat.le_of_eq (congrArg Array.size hconnections.symm)) hbuilders
    (congrArg Array.size hrecords) hmembers fun c hc => hconnections ▸ hnamed c hc
  heard := h.heard.of_eq hconnections hfunctions
  inv := F.kept h.inv hconnections hbuilders hrecords hmembers

theorem framed_modify {f : Session → Session} (h : ∀ s, F.Holds s → F.Holds (f s)) :
    Framed F (modify f) :=
  fun _ s _ hs => ⟨h s hs, fun _ _ => trivial⟩

theorem framed_apart {f : Session → Session} (h : ∀ s : Session, s.Apart (f s)) :
    Framed F (modify f) :=
  framed_modify fun s hs => hs.apart (h s)

theorem framed_note (e : Entry) : Framed F (note e) :=
  framed_apart fun _ => ⟨rfl, rfl, rfl, rfl, rfl, rfl, rfl, rfl⟩

theorem framed_log (level : LogLevel) (logger message : String) :
    Framed F (log level logger message) :=
  framed_note _

theorem framed_newObject : Framed F newObject :=
  Framed.bind (framed_apart fun _ => ⟨rfl, rfl, rfl, rfl, rfl, rfl, rfl, rfl⟩) fun _ =>
    Reads.get.andThen fun _ => .pure trivial

/-! ## Connections -/

/-- A connection keeps its adapter. Nobody comes to listen where nobody may. -/
theorem framed_updateConnection {c : Nat} {f : Connection → Connection}
    (hadapter : ∀ conn, (f conn).adapter = conn.adapter)
    (hhooks : ∀ conn, F.licence.listens = false → conn.hooks.actions = [] →
      (f conn).hooks.actions = []) :
    Framed F (updateConnection c f) :=
  framed_modify fun _ hs => ⟨hs.sane.modify c f, hs.heard.modify hhooks, F.modify hs.inv hadapter⟩

/-- Where nobody may listen, nobody listens to a connection. -/
theorem framedWith_connection (c : Nat) :
    FramedWith F (fun conn => F.licence.listens = false → conn.hooks.actions = [])
      (connection c) := by
  refine FramedWith.get.bind fun s hs => ?_
  cases hconn : s.connections[c]? with
  | none => exact .throw _
  | some conn => exact .pure fun hl => hs.heard.unheard hl c conn hconn

theorem framed_onDriver (c : Nat) (act : Driver.Action α) : Framed F (onDriver c act) := by
  have hdriven (driver : Driver) :
      Framed F (updateConnection c fun conn => { conn with driver }) :=
    framed_updateConnection (fun _ => rfl) fun _ _ h => h
  have hnoted (journal : List Entry) :
      Framed F (modify fun s : Session => { s with journal }) :=
    framed_apart fun _ => ⟨rfl, rfl, rfl, rfl, rfl, rfl, rfl, rfl⟩
  exact (reads_connection c).andThen fun _ => Reads.get.andThen fun _ =>
    (hnoted _).bind fun _ => (hdriven _).bind fun _ => (Reads.ofResult _).framed

/-- A connection that the session knows is one of its connections. -/
theorem framedWith_known {Q : α → Prop} {x : Action Nat} {k : Nat → Action α} (hreads : Reads x)
    (hx : ∀ r s c, (runIn r x s).1 = .ok c → s.Knows c)
    (hk : ∀ c, FramedFrom F c Q (k c)) : FramedWith F Q (x >>= k) :=
  hreads.andThenAt fun r s c hr hs hc => hk c r s hr hs (hs.sane.connected c (hx r s c hc))

theorem framedWith_connectionOf {Q : α → Prop} {b : Nat} {k : Nat → Action α}
    (hk : ∀ c, FramedFrom F c Q (k c)) : FramedWith F Q (connectionOf b >>= k) := by
  refine framedWith_known (reads_connectionOf b) (fun r s c hc => ?_) hk
  cases hx : s.builders[b]? with
  | none =>
    have hmissing : runIn r (connectionOf b) s = (.error (.misuse .missingAttribute), s) := by
      rw [connectionOf, runIn_bind, Session.builder, runIn_bind_ok (runIn_get s), hx]
      rfl
    rw [hmissing] at hc
    cases hc
  | some x =>
    rw [connectionOf, runIn_bind_ok (runIn_builder hx)] at hc
    cases hconnection : x.connection with
    | none =>
      rw [hconnection] at hc
      cases hc
    | some c' =>
      rw [hconnection] at hc
      cases hc
      exact .inl ⟨b, x, hx, hconnection⟩

theorem framedWith_firstConnection {Q : α → Prop} {k : Nat → Action α}
    (hk : ∀ c, FramedFrom F c Q (k c)) : FramedWith F Q (firstConnection >>= k) := by
  refine framedWith_known reads_firstConnection (fun r s c hc => ?_) hk
  rw [firstConnection, runIn_bind_ok (runIn_get s)] at hc
  cases hfirst : s.first with
  | none =>
    rw [hfirst] at hc
    cases hc
  | some c' =>
    rw [hfirst] at hc
    cases hc
    exact .inr (.inl hfirst)

theorem framedWith_standingConnection {Q : α → Prop} {k : Nat → Action α}
    (hk : ∀ c, FramedFrom F c Q (k c)) : FramedWith F Q (standingConnection >>= k) := by
  refine framedWith_known reads_standingConnection (fun r s c hc => ?_) hk
  rw [standingConnection, runIn_bind_ok (runIn_get s)] at hc
  cases hstanding : s.standing with
  | none =>
    rw [hstanding] at hc
    cases hc
  | some c' =>
    rw [hstanding] at hc
    cases hc
    exact .inr (.inr (.inr hstanding))

/-! ## Builders and statements -/

/-- A builder that is read is one of the builders. -/
theorem builder_eq {r : Reaction} {s : Session} {b : Nat} {x : Builder}
    (h : (runIn r (builder b) s).1 = .ok x) : s.builders[b]? = some x := by
  rw [Session.builder, runIn_bind_ok (runIn_get s)] at h
  cases hx : s.builders[b]? with
  | none =>
    rw [hx] at h
    cases h
  | some x' =>
    rw [hx] at h
    cases h
    rfl

/-- A new builder acts. -/
theorem framedFrom_newBuilder (c : Nat) (kind : BuilderKind) {st : Statements} (hst : F.sound st) :
    FramedFrom F c F.acts (newBuilder c kind st) := by
  intro r s _ hs hc
  rw [FramedAt, runIn_newBuilder]
  refine ⟨⟨hs.sane.withBuilder hc kind st, ⟨hs.heard.unheard, hs.heard.functions⟩,
    F.build hs.sane hs.inv hst⟩, ?_⟩
  rintro _ ⟨⟩
  exact F.fresh hs.inv

theorem framedWith_statementsOf (b : Nat) : FramedWith F F.sound (statementsOf b) := by
  refine (reads_builder b).andThen fun x => FramedWith.get.bind fun s hs => ?_
  cases hst : s.records[x.record]? with
  | none => exact .throw _
  | some st => exact .pure (F.read hs.inv hst)

section

variable {b : Nat} (hb : F.acts b)
include hb

theorem framed_edit {f : Statements → Statements} (hf : ∀ st, F.sound st → F.sound (f st)) :
    Framed F (Session.edit b f) := by
  refine (reads_builder b).andThenAt fun r s x _ hs hx => ?_
  exact ⟨⟨hs.sane.edit _ f, ⟨hs.heard.unheard, hs.heard.functions⟩,
    F.edit hs.inv hb (builder_eq hx) hf⟩, fun _ _ => trivial⟩

theorem framed_change {f : Statements → Result Statements}
    (hf : ∀ st st', F.sound st → f st = .ok st' → F.sound st') : Framed F (change b f) := by
  refine (framedWith_statementsOf b).bind fun st hst =>
    FramedWith.bind (FramedWith.ofResult fun st' hst' => hf st st' hst hst') fun st' hst' => ?_
  exact framed_edit hb fun _ _ => hst'

/-- A change besides that of unions. -/
theorem framed_reshaping {f : Statements → Result Statements}
    (hf : ∀ st st', f st = .ok st' → st.Reshaped st') : Framed F (change b f) :=
  framed_change hb fun _ _ hst h => F.reshape hst (hf _ _ h)

theorem framed_tryEdit {f : Statements → Option Statements}
    (hf : ∀ st st', f st = some st' → st.Reshaped st') : Framed F (tryEdit b f) := by
  refine framed_reshaping hb fun st st' h => ?_
  cases hst : f st with
  | none =>
    rw [hst] at h
    cases h
  | some st'' =>
    rw [hst] at h
    cases h
    exact hf st _ hst

/-- A builder is changed, but for its record, and is given no connection. -/
theorem framed_updateBuilder {f : Builder → Builder} (hrecord : ∀ x, (f x).record = x.record)
    (hconnection : ∀ x c, (f x).connection = some c → x.connection = some c) :
    Framed F (updateBuilder b f) :=
  framed_modify fun _ hs => ⟨hs.sane.update b hrecord fun x c hc => .inl (hconnection x c hc),
    ⟨hs.heard.unheard, hs.heard.functions⟩, F.update hs.inv hb hrecord⟩

/-- A builder gets statements of its own. -/
theorem framedWith_replace {Q : α → Prop} {st : Statements} {k : PUnit → Action α}
    (hst : F.sound st) (hk : FramedWith F Q (k ())) :
    FramedWith F Q (newRecord st >>= fun n => setRecord b n >>= k) := by
  have hreplaced : Framed F (newRecord st >>= setRecord b) := by
    intro r s _ hs
    refine ⟨⟨(hs.sane.records_push st).rerecorded b ?_, ⟨hs.heard.unheard, hs.heard.functions⟩,
      F.replace hs.sane hs.inv hb hst⟩, fun _ _ => trivial⟩
    rw [Array.size_push]
    exact Nat.lt_succ_self _
  rw [← bind_assoc]
  exact hreplaced.bind fun _ => hk

end

theorem framed_compileAs (b : Nat) (op : Result Operation) (payload : List Value) :
    Framed F (compileAs b op payload) :=
  (reads_adapterOf b).andThen fun _ => (Reads.ofResult op).andThen fun _ =>
    (reads_statementsOf b).andThen fun _ => (Reads.ofResult _).andThen fun _ =>
      (framed_log _ _ _).bind fun _ => .pure trivial

theorem framed_compileSelect (b : Nat) : Framed F (compileSelect b) := framed_compileAs b _ _

/-! ## Events -/

theorem framed_introduce (name : Value) {make : Action Function}
    (h : FramedWith F (fun f => f.allowed F.licence = true) make) :
    Framed F (introduce name make) := by
  refine Reads.get.andThen fun s => (Reads.ofResult _).andThen fun known? => ?_
  cases known? with
  | some known => exact .pure trivial
  | none =>
    refine h.bind fun f hf => Framed.bind (framed_modify fun s hs => ?_) fun _ => .pure trivial
    refine ⟨hs.sane.kept (Nat.le_refl _) rfl rfl rfl fun c hc => hs.sane.connected c (.inr hc),
      ⟨hs.heard.unheard, fun hl entry hentry => ?_⟩, F.kept hs.inv rfl rfl rfl rfl⟩
    rcases List.mem_append.1 hentry with hentry | hentry
    · exact hs.heard.functions hl entry hentry
    · rw [List.mem_singleton.1 hentry]
      exact hf

theorem reads_introducedName (name : Value) : Reads (introducedName name) := by
  refine Reads.get.bind fun s => (Reads.ofResult _).bind fun known? => ?_
  cases known? with
  | some known => exact .pure _
  | none => exact .throw _

/-- Whoever may listen does what is allowed. -/
theorem framed_react (hl : F.licence.listens = true) (ev : Event) {behaviour : Behaviour}
    (h : behaviour.allowed F.licence = true) : Framed F (react ev behaviour) := by
  cases behaviour with
  | observe => exact .pure trivial
  | raise message => exact .throw _
  | remove event name =>
    have hunhooked (c : Nat) (hooks : Hooks) :
        Framed F (updateConnection c fun conn => { conn with hooks }) :=
      framed_updateConnection (fun _ => rfl) fun _ hnone => by rw [hl] at hnone; cases hnone
    exact reads_firstConnection.andThen fun c => (reads_introducedName name).andThen fun _ =>
      (reads_connection c).andThen fun _ => (Reads.ofResult _).andThen fun _ => hunhooked c _
  | apply steps =>
    rw [Behaviour.allowed] at h
    exact fun r s hr hs => ⟨(hr hl steps h ev.builder s hs).1, fun _ _ => trivial⟩

theorem framed_tell (hl : F.licence.listens = true) (ev : Event) (name : Value) :
    Framed F (tell ev name) := by
  refine FramedWith.get.bind fun s hs => ?_
  have hknown : ((Value.lookup s.functions name).getD (.listener .observe)).allowed F.licence =
      true := by
    cases hlookup : Value.lookup s.functions name with
    | none => rfl
    | some f =>
      obtain ⟨name', hname'⟩ := Value.mem_of_lookup hlookup
      exact hs.heard.functions hl _ hname'
  have hnotified (behaviour : Behaviour) (h : behaviour.allowed F.licence = true)
      (onFirst : Option Bool) : Framed F (do
        note (.notified (← ofResult (ev.notice name onFirst)))
        react ev behaviour) :=
    (Reads.ofResult _).andThen fun _ => (framed_note _).bind fun _ => framed_react hl ev h
  generalize (Value.lookup s.functions name).getD (.listener .observe) = f at hknown
  cases f with
  | filter rule => exact (Reads.ofResult _).framed
  | listener behaviour =>
    dsimp only
    split
    · exact (Reads.pure _).andThen fun _ => hnotified behaviour hknown _
    · exact (reads_connectionOf _).andThen fun _ => Reads.get.andThen fun _ =>
        (Reads.pure _).andThen fun _ => hnotified behaviour hknown _

theorem framed_fire (c : Nat) (ev : Event) : Framed F (fire c ev) := by
  refine (framedWith_connection c).bind fun conn hconn => ?_
  have hnone : ∀ listeners, conn.hooks.listeners ev.name = .ok listeners →
      F.licence.listens = false → listeners = [] := by
    intro listeners hlisteners hl
    rw [Hooks.listeners, hconn hl, Hooks.registered] at hlisteners
    cases hname : Hooks.keyName ev.name with
    | error f =>
      rw [hname] at hlisteners
      cases hlisteners
    | ok name =>
      rw [hname] at hlisteners
      cases hlisteners
      rfl
  refine FramedWith.bind (FramedWith.ofResult hnone) fun listeners hlisteners =>
    (framed_log _ _ _).bind fun _ => ?_
  cases hl : F.licence.listens with
  | true => exact Framed.forM fun name => framed_tell hl ev name
  | false =>
    rw [hlisteners hl]
    exact .pure trivial

theorem framed_announce (b : Nat) (event : String) (q : CompiledQuery)
    (arguments : List (Value × Value)) : Framed F (announce b event q arguments) := by
  refine (reads_connectionOf b).andThen fun c => (reads_connection c).andThen fun _ =>
    (Reads.ofResult _).andThen fun heard => ?_
  split
  · exact framed_fire c _
  · exact .pure trivial

/-! ## Connecting -/

theorem framed_adoptPrefix (c : Nat) : Framed F (adoptPrefix c) := by
  have hadopted (p : Value) : Framed F (updateConnection c fun conn =>
      { conn with tablePrefix := p }) :=
    framed_updateConnection (fun _ => rfl) fun _ _ h => h
  exact (reads_connection c).andThen fun _ => (hadopted _).bind fun _ => framed_log _ _ _

theorem framed_setDriverPrefix (c : Nat) (p : Value) : Framed F (setDriverPrefix c p) := by
  apply framed_updateConnection
  · exact fun _ => rfl
  · exact fun _ _ h => h

theorem framed_setTablePrefix (c : Nat) (choice : PrefixChoice) :
    Framed F (setTablePrefix c choice) := by
  have hoff : Framed F (updateConnection c fun conn => { conn with tablePrefix := .null }) :=
    framed_updateConnection (fun _ => rfl) fun _ _ h => h
  cases choice with
  | off => exact hoff
  | adopted => exact framed_adoptPrefix c
  | given p => exact (framed_setDriverPrefix c _).bind fun _ => framed_adoptPrefix c

theorem framed_configure (c : Nat) (what : Provision) (v : Value) :
    Framed F (configure c what v) := by
  have hset (scenario : Scenario) : Framed F (updateConnection c fun conn =>
      { conn with
        scenario, driver := { conn.driver with backend := Driver.backendOf scenario } }) :=
    framed_updateConnection (fun _ => rfl) fun _ _ h => h
  exact (reads_connection c).andThen fun _ => (Reads.ofResult _).andThen fun _ => hset _

theorem runIn_connect {r : Reaction} {settings : Settings} {adapter : Adapter}
    (h : Registry.standard.create (.text settings.dialect) settings.quoteIdentifiers = .ok adapter)
    (scenario : Scenario) (k : Nat → Action α) (s : Session) :
    ∃ conn : Connection, conn.hooks.actions = [] ∧
      runIn r (connect settings scenario >>= k) s = runIn r (do
        setTablePrefix s.connections.size settings.tablePrefix
        k s.connections.size) { s with connections := s.connections.push conn } := by
  refine ⟨{ driver := Driver.ofScenario scenario, scenario, settings, adapter }, rfl, ?_⟩
  rw [connect, h]
  simp only [runIn_bind, runIn_ofResult, runIn_get, runIn_set, runIn_pure]
  generalize runIn r (setTablePrefix _ _) _ = p
  obtain ⟨_ | _, _⟩ := p <;> rfl

/-- A new connection is one of the connections. -/
theorem framedWith_connect {Q : α → Prop} (settings : Settings) (scenario : Scenario)
    {k : Nat → Action α} (hk : ∀ c, FramedFrom F c Q (k c)) :
    FramedWith F Q (connect settings scenario >>= k) := by
  intro r s hr hs
  unfold FramedAt
  cases hadapter : Registry.standard.create (.text settings.dialect) settings.quoteIdentifiers with
  | error f =>
    have hfailed : runIn r (connect settings scenario) s = (.error f, s) := by
      rw [connect, hadapter]
      rfl
    rw [runIn_bind, hfailed]
    exact ⟨hs, nofun⟩
  | ok adapter =>
    obtain ⟨conn, hhooks, hrun⟩ := runIn_connect (r := r) hadapter scenario k s
    have hprefixed : FramedFrom F s.connections.size Q
        (setTablePrefix s.connections.size settings.tablePrefix >>= fun _ =>
          k s.connections.size) :=
      .after (framed_setTablePrefix _ _) fun _ _ => hk _
    rw [hrun]
    refine hprefixed r _ hr ⟨hs.sane.push conn, hs.heard.push hhooks, F.push hs.inv⟩ ?_
    rw [Array.size_push]
    exact Nat.lt_succ_self _

end SqlBuilder
