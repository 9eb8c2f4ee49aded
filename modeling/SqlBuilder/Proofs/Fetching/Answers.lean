import SqlBuilder.Proofs.Observers.Operations

/-!
# What a fetch returns

A fetch asks the driver for the rows of its query and makes something of them. The listeners who are
told of the query beforehand may do anything that is polite, so what counts is what the driver
answers when the query is on its way to it (`Terminal.Answered`). `Terminal.returns`: an operation
that issued its query returns what it makes of these rows.
-/

set_option autoImplicit false

namespace SqlBuilder

open Session Builder

/-- Nothing else runs. -/
def idle : Reaction := fun _ _ => pure ()

namespace Terminal

theorem runIn_connection_none {r : Reaction} {s : Session} {c : Nat}
    (h : s.connections[c]? = none) :
    runIn r (Session.connection c) s = (.error (.misuse .missingAttribute), s) := by
  rw [Session.connection, runIn_bind_ok (runIn_get s), h]
  rfl

/-- What a driver answers, put in another form. -/
theorem outcome_onDriver_map {α β : Type} {r : Reaction} (s : Session) (c : Nat)
    (act : Driver.Action α) (f : α → β) :
    (runIn r (onDriver c (do pure (f (← act)))) s).1 = (runIn r (onDriver c act) s).1.map f := by
  cases hconn : s.connections[c]? with
  | none =>
    rw [onDriver, runIn_bind, onDriver, runIn_bind, runIn_connection_none hconn]
    rfl
  | some conn =>
    rw [runIn_onDriver hconn, runIn_onDriver hconn, Driver.runOn_bind]
    generalize Driver.runOn act _ = p
    obtain ⟨_ | _, _⟩ := p <;> rfl

/-- Whenever the query of the operation is on its way to the driver, the driver has these rows. -/
def Answered (r : Reaction) (t : Terminal) (b : Nat) (s : Session) (rows : List Row) : Prop :=
  ∀ i c u v, t.Begins r b s i c u → Heard r c (t.beforehand i) u v →
    (runIn r (onDriver c (Driver.fetchAll i.query.sql i.query.bindings)) v).1 = .ok rows

variable {r : Reaction} {t : Terminal} {s u : Session} {b : Nat}

/-- The operation returns what it makes of the rows the driver answers with. -/
theorem returns (t : Terminal) (answer : List Row → t.Answer)
    (hask : ∀ q, t.ask q = (do pure (answer (← Driver.fetchAll q.sql q.bindings))))
    {i : Issue t.Answer} (hissue : runIn r (t.issue b) s = (.ok i, u))
    (hcourteous : ∀ i c u, t.Begins r b s i c u → t.Courteous r i c u) {rows : List Row}
    (hrows : t.Answered r b s rows) : (runIn r (t.perform b) s).1 = i.finish (answer rows) := by
  have hissuing := t.issuing_issue b
  obtain ⟨⟨c, hon⟩, hpositional⟩ := hissuing.ready r s i u hissue
  have hbegins : t.Begins r b s i c (u.asking c i.query) :=
    ⟨u, hissue, hissuing.silent.quiet hissue, hon, rfl⟩
  obtain ⟨y, z, hran, hrun⟩ := t.runIn_run_ran hon hpositional (hcourteous i c _ hbegins)
  have hasked {v z : Session} {y : Result t.Answer}
      (hheard : Heard r c (t.beforehand i) (u.asking c i.query) v)
      (hrun : runIn r (onDriver c (t.ask i.query)) v = (y, z)) : y = .ok (answer rows) := by
    have hanswer := hrows i c _ v hbegins hheard
    have hmap := outcome_onDriver_map (r := r) v c
      (Driver.fetchAll i.query.sql i.query.bindings) answer
    rw [← hask, hrun, hanswer] at hmap
    exact hmap
  have hy : y = .ok (answer rows) := by
    cases hran with
    | failed hheard hdriver => exact hasked hheard hdriver
    | answered hheard hdriver _ _ => exact hasked hheard hdriver
  rw [t.perform_eq, runIn_bind_ok hissue, runIn_bind, hrun, hy]
  dsimp only
  rw [runIn_ofResult]

/-- Where nobody listens everyone is polite. -/
theorem courteous_of_unheard (hs : s.Unheard) (i : Issue t.Answer) (c : Nat) (u : Session)
    (h : t.Begins r b s i c u) : t.Courteous r i c u := by
  obtain ⟨v, -, hquiet, -, rfl⟩ := h
  have hsilence {w : Session} (hw : w.Unheard) (ev : Event) : w.listening c ev = [] := by
    unfold listening
    cases hconn : w.connections[c]? with
    | none => rfl
    | some conn =>
      show (conn.hooks.actions.lookup ev.name.toText).getD [] = []
      rw [hw c conn hconn]
      rfl
  have hasking : (v.asking c i.query).Unheard :=
    (hs.of_connections hquiet.connections).modify fun _ hnone => hnone
  refine ⟨?_, ?_⟩
  · unfold AllPolite
    rw [hsilence hasking]
    trivial
  · intro u w z a hheard hdriver hlog
    have hu : u.Unheard := by
      have hfiring : (v.asking c i.query).firing c (t.beforehand i) = v.asking c i.query := by
        unfold firing
        rw [hsilence hasking]
        rfl
      rw [Heard, hsilence hasking, hfiring] at hheard
      cases hheard
      exact hasking
    have hw : w.Unheard := by
      cases hconn : u.connections[c]? with
      | none =>
        rw [onDriver, runIn_bind, runIn_connection_none hconn] at hdriver
        cases hdriver
      | some conn =>
        rw [runIn_onDriver hconn] at hdriver
        obtain ⟨-, rfl⟩ := Prod.mk.inj hdriver
        exact hu.driven c _
    have hz : z.Unheard := hw.of_connections ((silent_logExecuted i.query).quiet hlog).connections
    unfold AllPolite
    rw [hsilence hz]
    trivial

end Terminal

end SqlBuilder
