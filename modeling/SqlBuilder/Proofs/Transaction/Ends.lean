import SqlBuilder.Proofs.Transaction.Orderly

/-!
# How a transaction begins and ends

What opening, committing and giving up a transaction do to a connection with a cursor driver, and
what a transaction comes to (`runIn_within`): its body runs between its begin and its end.
-/

set_option autoImplicit false

namespace SqlBuilder

open Session Builder

variable {α : Type} {w : Watch} {r : Reaction} {s : Session} {c : Nat}
  {conn : Connection} {bare : Bool} {client : Client}

theorem Session.driven_connection (hconn : s.connections[c]? = some conn) (ch : Channel) :
    (s.driven c ch).connections[c]? = some { conn with driver := ch.driver } := by
  rw [driven, Array.getElem?_modify, if_pos rfl, hconn]
  rfl

namespace Builder

section

variable (hconn : s.connections[c]? = some conn)
  (hbackend : conn.driver.backend = .cursors bare client)
include hconn hbackend

theorem runIn_closeTransaction (hopen : conn.driver.inTransaction = true) : ∃ journal,
    runIn r (closeTransaction c true) s =
      (Driver.reported bare client "COMMIT" (client.commit conn.driver.history),
        s.driven c ⟨conn.driver.afterEnd .commit (client.commit conn.driver.history).isOk,
          journal⟩) := by
  obtain ⟨journal, hrun⟩ := Driver.runOn_commit ⟨conn.driver, s.journal⟩ hbackend
  refine ⟨journal, ?_⟩
  rw [closeTransaction, runIn_bind_ok (runIn_inTransaction hconn), hopen]
  show runIn r (onDriver c Driver.commit) s = _
  rw [runIn_onDriver hconn, hrun]

theorem runIn_abandon (α : Type) (hopen : conn.driver.inTransaction = true)
    (hrollback : client.rollback conn.driver.history = .ok ()) (cause : Fault) : ∃ journal,
    runIn r (abandon c true cause : Action α) s =
      (.error (.transaction (some cause) "" conn.lastQuery none),
        s.driven c ⟨conn.driver.afterEnd .rollback true, journal⟩) := by
  obtain ⟨journal, hrun⟩ := Driver.runOn_rollback ⟨conn.driver, s.journal⟩ hbackend
  refine ⟨journal, ?_⟩
  have hend : runIn r (onDriver c Driver.rollback) s =
      (.ok (), s.driven c ⟨conn.driver.afterEnd .rollback true, journal⟩) := by
    rw [runIn_onDriver hconn, hrun, hrollback]
    rfl
  have hafter : runIn r (rollbackAfter c) s =
      (.ok ("", none), s.driven c ⟨conn.driver.afterEnd .rollback true, journal⟩) := by
    rw [rollbackAfter, runIn_bind_ok (a := .ok ()) (by rw [runIn_outcomeOf, hend])]
    rfl
  rw [abandon, runIn_bind_ok (runIn_inTransaction hconn), hopen]
  dsimp only
  rw [Bool.and_self, if_pos rfl, runIn_bind_ok hafter,
    runIn_bind_ok (runIn_connection (driven_connection hconn _))]
  rfl

end

theorem runIn_abandon_over (hconn : s.connections[c]? = some conn)
    (hover : conn.driver.inTransaction = false) (opened : Bool) (cause : Fault) :
    runIn r (abandon c opened cause : Action α) s =
      (.error (.transaction (some cause) "" conn.lastQuery none), s) := by
  rw [abandon, runIn_bind_ok (runIn_inTransaction hconn), hover, Bool.and_false]
  dsimp only
  rw [if_neg Bool.false_ne_true]
  exact runIn_bind_ok (runIn_connection hconn)

/-! ## The whole transaction -/

section

variable {s₁ s₂ s₃ : Session} {opened : Bool} {body : Action α}
  (hopen : runIn r (openTransaction c) s = (.ok opened, s₁))
include hopen

theorem runIn_within_failed {cause : Fault} (hbody : runIn r body s₁ = (.error cause, s₂)) :
    runIn r (within c body) s = runIn r (abandon c opened cause) s₂ := by
  rw [within, runIn_bind_ok (a := .ok opened) (by rw [runIn_outcomeOf, hopen])]
  dsimp only
  have hrun : runIn r (do let a ← body; closeTransaction c opened; pure a) s₁ =
      (.error cause, s₂) := by
    rw [runIn_bind, hbody]
  rw [runIn_bind_ok (runIn_outcomeOf _ s₁), hrun]

theorem runIn_within_closed {a : α} (hbody : runIn r body s₁ = (.ok a, s₂))
    (hclose : runIn r (closeTransaction c opened) s₂ = (.ok (), s₃)) :
    runIn r (within c body) s = (.ok a, s₃) := by
  rw [within, runIn_bind_ok (a := .ok opened) (by rw [runIn_outcomeOf, hopen])]
  dsimp only
  have hrun : runIn r (do let a ← body; closeTransaction c opened; pure a) s₁ = (.ok a, s₃) := by
    rw [runIn_bind_ok hbody, runIn_bind_ok hclose]
    rfl
  rw [runIn_bind_ok (runIn_outcomeOf _ s₁), hrun]
  rfl

theorem runIn_within_unclosed {a : α} {cause : Fault} (hbody : runIn r body s₁ = (.ok a, s₂))
    (hclose : runIn r (closeTransaction c opened) s₂ = (.error cause, s₃)) :
    runIn r (within c body) s = runIn r (abandon c opened cause) s₃ := by
  rw [within, runIn_bind_ok (a := .ok opened) (by rw [runIn_outcomeOf, hopen])]
  dsimp only
  have hrun : runIn r (do let a ← body; closeTransaction c opened; pure a) s₁ =
      (.error cause, s₃) := by
    rw [runIn_bind_ok hbody, runIn_bind, hclose]
  rw [runIn_bind_ok (runIn_outcomeOf _ s₁), hrun]

end

/-- A builder, not of a transaction, makes one of its own with a copy of its statements. -/
theorem runIn_transaction {b : Nat} {x : Builder} {st : Statements} (hx : s.builders[b]? = some x)
    (hkind : x.kind ≠ .transaction) (hopen : s.Open b c conn)
    (hst : s.records[x.record]? = some st) (callback : Nat → Action α) :
    runIn r (transaction b callback) s =
      match st.copied with
      | .error f => (.error f, s)
      | .ok copy =>
        match runIn r (within c (callback s.builders.size)) (s.withBuilder c .transaction copy) with
        | (.ok a, s') => (.ok (s.builders.size, a), s')
        | (.error f, s') => (.error f, s') := by
  rw [transaction, runIn_bind_ok (runIn_builder hx)]
  cases hk : x.kind with
  | transaction => exact absurd hk hkind
  | _ =>
    dsimp only
    rw [runIn_bind_ok (runIn_connectionOf hopen), runIn_bind_ok (runIn_statementsOf hx hst),
      runIn_bind, runIn_ofResult]
    cases st.copied with
    | error f => rfl
    | ok copy =>
      dsimp only
      rw [runIn_bind_ok runIn_newBuilder, runIn_bind]
      generalize runIn r (within c (callback s.builders.size)) _ = p
      obtain ⟨_ | _, _⟩ := p <;> rfl

end Builder

/-! ## What transactions keep -/

section

variable {P E : History → Prop} {c : Nat}
  (hends : ∀ act ∈ [Driver.begin, Driver.commit, Driver.rollback],
    Session.Keeps (Watched w P E) (fun _ => True) (onDriver c act))
include hends

theorem keeps_openTransaction :
    Session.Keeps (Watched w P E) (fun _ => True) (Builder.openTransaction c) := by
  refine (keeps_inTransaction c).bind fun isOpen _ => ?_
  split
  · exact .pure trivial
  · exact (hends _ (by simp)).bind fun _ _ => .pure trivial

theorem keeps_closeTransaction (opened : Bool) :
    Session.Keeps (Watched w P E) (fun _ => True) (Builder.closeTransaction c opened) := by
  refine (keeps_inTransaction c).bind fun isOpen _ => ?_
  split
  · exact hends _ (by simp)
  · exact .pure trivial

theorem keeps_abandon (opened : Bool) (cause : Fault) :
    Session.Keeps (Watched w P E) (fun _ => True)
      (Builder.abandon c opened cause : Action α) := by
  have hafter : Session.Keeps (Watched w P E) (fun _ => True) (Builder.rollbackAfter c) := by
    refine (hends _ (by simp)).outcomeOf.bind fun outcome _ => ?_
    split
    · exact .pure trivial
    · exact (keeps_note _).bind fun _ _ => .pure trivial
    · exact .throw _
  have hrest (ended : String × Option Fault) :
      Session.Keeps (Watched w P E) (fun _ => True) (do
        throw (.transaction (some cause) ended.1 (← connection c).lastQuery ended.2) : Action α) :=
    (keeps_connection c).bind fun _ _ => .throw _
  refine (keeps_inTransaction c).bind fun isOpen _ => ?_
  split
  · exact hafter.bind fun ended _ => hrest ended
  · exact hrest ("", none)

/-- A transaction keeps what its body and its ends keep. -/
theorem keeps_within {body : Action α}
    (hbody : Session.Keeps (Watched w P E) (fun _ => True) body) :
    Session.Keeps (Watched w P E) (fun _ => True) (Builder.within c body) := by
  refine (keeps_openTransaction hends).outcomeOf.bind fun outcome _ => ?_
  cases outcome with
  | error cause => exact keeps_abandon hends false cause
  | ok opened =>
    have hrun : Session.Keeps (Watched w P E) (fun _ => True)
        (do let a ← body; Builder.closeTransaction c opened; pure a) :=
      hbody.bind fun _ _ => (keeps_closeTransaction hends opened).bind fun _ _ => .pure trivial
    refine hrun.outcomeOf.bind fun outcome _ => ?_
    cases outcome with
    | error cause => exact keeps_abandon hends opened cause
    | ok a => exact .pure trivial

end

/-- Once nothing is open any more, every end of a transaction is allowed. -/
theorem keeps_end {E : History → Prop} (hE : Driver.Kept false E) (c : Nat) :
    ∀ act ∈ [Driver.begin, Driver.commit, Driver.rollback],
      Session.Keeps (Watched w (fun _ => False) E) (fun _ => True) (onDriver c act) := by
  refine fun act hact => keeps_onDriver fun _ ch hch => ?_
  cases hch with
  | inl hopen => exact hopen.history.elim
  | inr hover =>
    refine .inr ?_
    simp only [List.mem_cons, List.not_mem_nil, or_false] at hact
    obtain rfl | rfl | rfl := hact
    · exact Driver.keeps_begin ch hover
    · exact Driver.keeps_commit hE rfl ch hover
    · exact Driver.keeps_rollback hE rfl ch hover

/-- A transaction inside an open one leaves the session as its body does. -/
theorem runIn_within_open {r : Reaction} {s : Session} {c : Nat} {conn : Connection}
    (hconn : s.connections[c]? = some conn) (hopen : conn.driver.inTransaction = true)
    (body : Action α) : (runIn r (Builder.within c body) s).2 = (runIn r body s).2 := by
  have hopened : runIn r (Builder.openTransaction c) s = (.ok false, s) := by
    rw [Builder.openTransaction, runIn_bind_ok (runIn_inTransaction hconn), hopen]
    rfl
  have hleft (s' : Session) (cause : Fault) :
      Session.Keeps (· = s') (fun _ => True) (Builder.abandon c false cause : Action α) := by
    refine (keeps_inTransaction c).bind fun isOpen _ => ?_
    exact (keeps_connection c).bind fun _ _ => .throw _
  have hclosed (s' : Session) :
      Session.Keeps (· = s') (fun _ => True) (Builder.closeTransaction c false) :=
    (keeps_inTransaction c).bind fun _ _ => .pure trivial
  rw [Builder.within, runIn_bind_ok (a := .ok false) (by rw [runIn_outcomeOf, hopened])]
  dsimp only
  rw [runIn_bind_ok (runIn_outcomeOf _ s), runIn_bind]
  generalize runIn r body s = p
  obtain ⟨_ | a, s'⟩ := p
  · exact (hleft s' _ r s' rfl).1
  · have hrest : Session.Keeps (· = s') (fun _ => True)
        (do Builder.closeTransaction c false; pure a) :=
      (hclosed s').bind fun _ _ => .pure trivial
    have hs' := (hrest r s' rfl).1
    dsimp only
    generalize runIn r (do Builder.closeTransaction c false; pure a) s' = p at hs'
    obtain ⟨_ | a, s''⟩ := p
    · subst hs'
      exact (hleft _ _ r _ rfl).1
    · exact hs'

theorem orderly_within (c : Nat) {body : Action α} (hbody : Orderly w body) :
    Orderly w (Builder.within c body) := by
  intro P E hPE
  by_cases hc : c = w.connection
  · subst hc
    intro r s hs
    obtain ⟨conn, hconn, hguards⟩ := hs.driver
    cases hguards with
    | inl hopen =>
      rw [runIn_within_open hconn (hopen.inTransaction rfl)]
      exact ⟨(hbody P E hPE r s hs).1, fun _ _ => trivial⟩
    | inr hover =>
      have hnever : Regime w (fun _ => False) E := ⟨nofun, hPE.ended, nofun⟩
      have hkept := keeps_within (keeps_end hPE.ended w.connection) (hbody _ E hnever) r s
        ⟨⟨conn, hconn, .inr hover⟩, hs.unheard⟩
      refine ⟨⟨?_, hkept.1.unheard⟩, fun _ _ => trivial⟩
      obtain ⟨conn', hconn', hguards'⟩ := hkept.1.driver
      exact ⟨conn', hconn', hguards'.imp (fun hopen => hopen.history.elim) id⟩
  · exact keeps_within (fun _ _ => keeps_onDriver fun h => absurd h hc) (hbody P E hPE)

/-- After an early end, the end of a transaction changes nothing about it. -/
theorem watched_within_over {E : History → Prop} (hE : Driver.Kept false E) {s₁ s₂ : Session}
    {opened : Bool} {body : Action α} {outcome : Result α}
    (hopen : runIn r (openTransaction c) s = (.ok opened, s₁))
    (hbody : runIn r body s₁ = (outcome, s₂)) (hs₂ : Watched w (fun _ => False) E s₂) :
    Watched w (fun _ => False) E (runIn r (within c body) s).2 := by
  have hends := keeps_end (w := w) hE c
  cases outcome with
  | error cause =>
    rw [runIn_within_failed hopen hbody]
    exact (keeps_abandon hends opened cause r s₂ hs₂).1
  | ok a =>
    have hkept := (keeps_closeTransaction hends opened r s₂ hs₂).1
    cases hclose : runIn r (closeTransaction c opened) s₂ with
    | mk closed s₃ =>
    rw [hclose] at hkept
    cases closed with
    | ok u =>
      rw [runIn_within_closed hopen hbody hclose]
      exact hkept
    | error cause =>
      rw [runIn_within_unclosed hopen hbody hclose]
      exact (keeps_abandon hends opened cause r s₃ hkept).1

end SqlBuilder
