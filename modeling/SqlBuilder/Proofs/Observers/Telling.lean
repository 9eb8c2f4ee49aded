import SqlBuilder.Proofs.Observers.Issuing

/-!
# Telling listeners

When an event of a query happens, those who listen to it at that time are told of it one after
another (`Told`), each by a call of its function (`Called`), and what one of them does to the
session is what the next one finds. A listener can do anything that a reaction does: change the
builder of the event, run queries and thereby have other listeners told, add and remove listeners.
As long as listeners are `Polite`, that is, none of them raises and the builder stays on its
connection, all who were registered when the event happened are told (`runIn_announce_told`).
-/

set_option autoImplicit false

namespace SqlBuilder

open Session

variable {r : Reaction} {s u w : Session} {b c : Nat} {ev : Event}

/-! ## Builders on connections -/

namespace Session

/-- Whatever happens to connections, they stay there. -/
theorem On.modify (h : s.On b c) (d : Nat) (f : Connection → Connection) (journal : List Entry) :
    On { s with journal, connections := s.connections.modify d f } b c := by
  obtain ⟨conn, x, hx, hc, hconn⟩ := h
  refine ⟨if d = c then f conn else conn, x, hx, hc, ?_⟩
  rw [Array.getElem?_modify]
  split
  · rw [hconn]
    rfl
  · exact hconn

/-! ## Events -/

/-- The event of a query that is run for a builder. -/
def Event.ofQuery (name : String) (b : Nat) (q : CompiledQuery)
    (arguments : List (Value × Value)) : Event :=
  { name := .text name, query := some q, builder := some b, arguments := .map arguments }

/-- Those who listen to an event on a connection, in order of registration. -/
def listening (s : Session) (c : Nat) (ev : Event) : List Value :=
  (s.connections[c]?.bind fun conn => conn.hooks.actions.lookup ev.name.toText).getD []

/-- The session when the first listener is told of an event. That it happens is logged if there is
someone to tell. -/
def firing (s : Session) (c : Nat) (ev : Event) : Session :=
  let names := s.listening c ev
  if names.isEmpty then s
  else { s with journal := s.journal ++ [.logged .debug "fluentql.events"
    ("Firing " ++ ev.name.toText ++ " to " ++ names.length.repr ++ " listener(s)")] }

/-- The function of a name is called for an event: what it does, and the session it does that in. A
listener is given a notice; a filter that is registered as a listener is given the event as if it
were a value. -/
inductive Called (c : Nat) (ev : Event) (name : Value) (s : Session) : Action Unit → Session → Prop
  | listener {behaviour : Behaviour} {n : Notice} :
      (Value.lookup s.functions name).getD (.listener .observe) = .listener behaviour →
      ev.notice name (some (s.first == some c)) = .ok n →
      Called c ev name s (react ev behaviour) { s with journal := s.journal ++ [.notified n] }
  | filter {rule : FilterRule} :
      (Value.lookup s.functions name).getD (.listener .observe) = .filter rule →
      Called c ev name s (ofResult rule.tell) s

/-- All of them are told of an event, each once and in order. -/
inductive Told (r : Reaction) (c : Nat) (ev : Event) : List Value → Session → Session → Prop
  | nil (s : Session) : Told r c ev [] s s
  | cons {name : Value} {names : List Value} {s u v w : Session} {act : Action Unit} :
      Called c ev name s act u → runIn r act u = (.ok (), v) → Told r c ev names v w →
      Told r c ev (name :: names) s w

/-- None of them raises when told of an event, closes the builder or gives it another connection. -/
def Polite (r : Reaction) (b c : Nat) (ev : Event) : List Value → Session → Prop
  | [], _ => True
  | name :: names, s => ∀ act u, Called c ev name s act u →
      ∃ v, runIn r act u = (.ok (), v) ∧ v.On b c ∧ Polite r b c ev names v

/-- Everyone who listens to an event of a query when it happens is told of it. -/
def Heard (r : Reaction) (c : Nat) (ev : Event) (s w : Session) : Prop :=
  Told r c ev (s.listening c ev) (s.firing c ev) w

/-- No one who listens to an event of a query when it happens is impolite. -/
def AllPolite (r : Reaction) (b c : Nat) (ev : Event) (s : Session) : Prop :=
  Polite r b c ev (s.listening c ev) (s.firing c ev)

theorem On.firing (h : s.On b c) : (s.firing c ev).On b c := by
  unfold Session.firing
  dsimp only
  split
  · exact h
  · exact h

theorem firing_functions (s : Session) (c : Nat) (ev : Event) :
    (s.firing c ev).functions = s.functions := by
  unfold firing
  dsimp only
  split <;> rfl

/-! ## Telling them -/

theorem Hooks.listeners_text (hooks : Hooks) (event : String) :
    hooks.listeners (.text event) = .ok ((hooks.actions.lookup event).getD []) := rfl

/-- Telling one of them is to call its function. -/
theorem runIn_tell (h : s.On b c) (hb : ev.builder = some b)
    (hnotice : ∀ name onFirst, ∃ n, ev.notice name onFirst = .ok n) (name : Value) :
    ∃ act u, Called c ev name s act u ∧ runIn r (tell ev name) s = runIn r act u := by
  obtain ⟨conn, hopen⟩ := h
  rw [tell, runIn_bind_ok (runIn_get s)]
  cases hfunction : (Value.lookup s.functions name).getD (.listener .observe) with
  | filter rule => exact ⟨_, s, .filter hfunction, rfl⟩
  | listener behaviour =>
    obtain ⟨n, hn⟩ := hnotice name (some (s.first == some c))
    refine ⟨_, _, .listener hfunction hn, ?_⟩
    rw [hb]
    dsimp only
    rw [runIn_bind_ok (runIn_connectionOf hopen), runIn_bind_ok (runIn_get s), pure_bind, hn]
    rfl

/-- Polite listeners are told one after another. -/
theorem runIn_forM_tell (h : s.On b c) (hb : ev.builder = some b)
    (hnotice : ∀ name onFirst, ∃ n, ev.notice name onFirst = .ok n) {names : List Value}
    (hpolite : Polite r b c ev names s) :
    ∃ w, Told r c ev names s w ∧ w.On b c ∧ runIn r (names.forM (tell ev)) s = (.ok (), w) := by
  induction names generalizing s with
  | nil => exact ⟨s, .nil s, h, rfl⟩
  | cons name names ih =>
    obtain ⟨act, u, hcalled, htell⟩ := runIn_tell (r := r) h hb hnotice name
    obtain ⟨v, hrun, hv, hrest⟩ := hpolite act u hcalled
    obtain ⟨w, htold, hw, hforM⟩ := ih hv hrest
    refine ⟨w, .cons hcalled hrun htold, hw, ?_⟩
    exact (runIn_bind_ok (htell.trans hrun)).trans hforM

/-- Announcing an event is to tell those who listen to it. -/
theorem runIn_announce_eq (h : s.On b c) (event : String) (q : CompiledQuery)
    (arguments : List (Value × Value)) :
    let ev := Event.ofQuery event b q arguments
    runIn r (announce b event q arguments) s =
      runIn r ((s.listening c ev).forM (tell ev)) (s.firing c ev) := by
  intro ev
  obtain ⟨conn, hopen⟩ := h
  have hconn := hopen
  obtain ⟨x, -, -, hconn⟩ := hconn
  have hlistening : s.listening c ev = (conn.hooks.actions.lookup event).getD [] := by
    rw [listening, hconn]
    rfl
  rw [announce, runIn_bind_ok (runIn_connectionOf hopen), runIn_bind_ok (runIn_connection hconn),
    firing, hlistening, Hooks.hasListener, Hooks.listeners_text]
  cases hnames : (conn.hooks.actions.lookup event).getD [] with
  | nil => rfl
  | cons name names =>
    show runIn r (fire c ev) s = _
    rw [fire, runIn_bind_ok (runIn_connection hconn)]
    show runIn r (ofResult (conn.hooks.listeners (.text event)) >>= _) s = _
    rw [Hooks.listeners_text, hnames]
    rfl

theorem sorted_nothing : Value.sorted (List.map Prod.fst ([] : List (Value × Value))) = .ok [] :=
  Sorting.sorted_nil _

/-- A listener is told of the query itself, and of whatever comes with it. -/
theorem notice_ofQuery {event : String} {q : CompiledQuery} {arguments : List (Value × Value)}
    {names : List Value} (h : Value.sorted (arguments.map Prod.fst) = .ok names) (name : Value)
    (onFirst : Option Bool) :
    (Event.ofQuery event b q arguments).notice name onFirst = .ok {
      listener := name
      event
      query := some q
      insertId := (Value.lookup arguments Event.insertId).getD .null
      timed := !((Value.lookup arguments Event.executionTime).getD .null).isNull
      arguments := names
      onFirst } := by
  show (Value.sorted (arguments.map Prod.fst) >>= _) = _
  rw [h]
  rfl

/-- Everyone who listens is told, if those who do are polite. -/
theorem runIn_announce_told (h : s.On b c) {event : String} {q : CompiledQuery}
    {arguments : List (Value × Value)}
    {names : List Value} (hnames : Value.sorted (arguments.map Prod.fst) = .ok names)
    (hpolite : AllPolite r b c (Event.ofQuery event b q arguments) s) :
    ∃ w, Heard r c (Event.ofQuery event b q arguments) s w ∧ w.On b c ∧
      runIn r (announce b event q arguments) s = (.ok (), w) := by
  rw [runIn_announce_eq h]
  exact runIn_forM_tell h.firing rfl (fun _ _ => ⟨_, notice_ofQuery hnames _ _⟩) hpolite

/-! ## Checking who is polite -/

instance (s : Session) (b c : Nat) : Decidable (s.On b c) :=
  decidable_of_iff
      (s.builders[b]?.bind Builder.connection = some c ∧ s.connections[c]?.isSome) <| by
    rw [Option.bind_eq_some_iff, Option.isSome_iff_exists]
    exact ⟨fun ⟨⟨x, hx, hc⟩, conn, hconn⟩ => ⟨conn, x, hx, hc, hconn⟩,
      fun ⟨conn, x, hx, hc, hconn⟩ => ⟨⟨x, hx, hc⟩, conn, hconn⟩⟩

/-- A call is determined by the session. -/
theorem Called.unique {name : Value} {act act' : Action Unit} {u' : Session}
    (h : Called c ev name s act u) (h' : Called c ev name s act' u') : act = act' ∧ u = u' := by
  cases h with
  | listener hfunction hnotice =>
    cases h' with
    | listener hfunction' hnotice' =>
      cases hfunction.symm.trans hfunction'
      cases hnotice.symm.trans hnotice'
      exact ⟨rfl, rfl⟩
    | filter hfunction' => cases hfunction.symm.trans hfunction'
  | filter hfunction =>
    cases h' with
    | listener hfunction' _ => cases hfunction.symm.trans hfunction'
    | filter hfunction' =>
      cases hfunction.symm.trans hfunction'
      exact ⟨rfl, rfl⟩

/-- Those who only observe are polite. -/
theorem polite_observers (h : s.On b c) {names : List Value}
    (hnames : ∀ name ∈ names,
      (Value.lookup s.functions name).getD (.listener .observe) = .listener .observe) :
    Polite r b c ev names s := by
  induction names generalizing s with
  | nil => trivial
  | cons name names ih =>
    intro act u hcalled
    have hrest : ∀ name ∈ names, _ := fun name hname => hnames name (List.mem_cons_of_mem _ hname)
    cases hcalled with
    | listener hfunction _ =>
      cases hfunction.symm.trans (hnames name List.mem_cons_self)
      exact ⟨_, rfl, h, ih h hrest⟩
    | filter hfunction => cases hfunction.symm.trans (hnames name List.mem_cons_self)

end Session

end SqlBuilder
