import SqlBuilder.Builder.Transaction
import SqlBuilder.Proofs.Session.Reading
import SqlBuilder.Proofs.Transaction.Driving
import SqlBuilder.Session.Connecting

/-!
# Orderly actions

A `Watch` is on one connection, which uses a cursor driver. An action is `Orderly` if it leaves the
end of a transaction that is open there to whoever opened it: where the driver is in a transaction
the action commits nothing and rolls nothing back, unless the watch allows an early rollback, after
which anything may happen.

What is known of the calls of the client library (`Regime`) are a property `P` for as long as the
transaction is open and a property `E` for the time after an early rollback. Orderly actions keep
them (`Watched`). Listeners could do anything, so there must be none.
-/

set_option autoImplicit false

namespace SqlBuilder

/-- A connection to a client library, on which a transaction may be rolled back early or not. -/
structure Watch where
  connection : Nat
  bare : Bool
  client : Client
  early : Bool

/-- What holds of the calls while a transaction is open, and after an early rollback. -/
structure Regime (w : Watch) (P E : History → Prop) : Prop where
  opened : Driver.Kept true P
  ended : Driver.Kept false E
  early : w.early = true → ∀ h, P h → E ((.rollback, (w.client.rollback h).isOk) :: h)

/-- The driver is in a transaction with calls that meet `P`, or its calls meet `E`. -/
def Watch.Guards (w : Watch) (P E : History → Prop) (d : Driver) : Prop :=
  Driver.Held w.bare w.client true P d ∨ Driver.Held w.bare w.client false E d

/-- There are no listeners. -/
def Session.Unheard (s : Session) : Prop :=
  ∀ (c : Nat) (conn : Connection), s.connections[c]? = some conn → conn.hooks.actions = []

theorem Session.Unheard.of_connections {s s' : Session} (hs : s.Unheard)
    (h : s'.connections = s.connections) : s'.Unheard := by
  intro c conn hconn
  rw [h] at hconn
  exact hs c conn hconn

theorem Session.Unheard.of_single {s : Session} {conn : Connection} (h : s.connections = #[conn])
    (hconn : conn.hooks.actions = []) : s.Unheard := by
  intro c conn' hc
  rw [h] at hc
  obtain ⟨hlt, hget⟩ := Array.getElem?_eq_some_iff.1 hc
  obtain rfl : c = 0 := Nat.lt_one_iff.1 hlt
  cases hget
  exact hconn

theorem Session.Unheard.modify {s : Session} (hs : s.Unheard) {c : Nat}
    {f : Connection → Connection}
    (hhooks : ∀ conn, conn.hooks.actions = [] → (f conn).hooks.actions = []) :
    Session.Unheard { s with connections := s.connections.modify c f } := by
  intro c' conn hconn
  rw [Array.getElem?_modify] at hconn
  split at hconn
  · obtain ⟨conn', hconn', rfl⟩ := Option.map_eq_some_iff.1 hconn
    exact hhooks conn' (hs c' conn' hconn')
  · exact hs c' conn hconn

/-- What orderly actions keep. -/
structure Watched (w : Watch) (P E : History → Prop) (s : Session) : Prop where
  driver : ∃ conn, s.connections[w.connection]? = some conn ∧ w.Guards P E conn.driver
  unheard : s.Unheard

/-- The action leaves the end of a transaction to whoever opened it. What it returns meets `Q`. -/
def OrderlyWith {α : Type} (w : Watch) (Q : α → Prop) (x : Session.Action α) : Prop :=
  ∀ P E, Regime w P E → Session.Keeps (Watched w P E) Q x

/-- The action leaves the end of a transaction to whoever opened it. -/
def Orderly {α : Type} (w : Watch) (x : Session.Action α) : Prop :=
  OrderlyWith w (fun _ => True) x

open Session

variable {α β γ : Type} {w : Watch}

/-! ## Sequences -/

namespace OrderlyWith

variable {Q : α → Prop} {R : β → Prop}

theorem pure {a : α} (h : Q a) : OrderlyWith w Q (Pure.pure a) := fun _ _ _ => .pure h

theorem throw (f : Fault) : OrderlyWith w Q (MonadExcept.throw f) := fun _ _ _ => .throw f

theorem bind {x : Action α} {k : α → Action β} (hx : OrderlyWith w Q x)
    (hk : ∀ a, Q a → OrderlyWith w R (k a)) : OrderlyWith w R (x >>= k) :=
  fun P E h => (hx P E h).bind fun a ha => hk a ha P E h

theorem mono {Q' : α → Prop} {x : Action α} (hx : OrderlyWith w Q x) (h : ∀ a, Q a → Q' a) :
    OrderlyWith w Q' x :=
  fun P E hPE => (hx P E hPE).mono h

theorem ofResult {y : Result α} (h : ∀ a, y = .ok a → Q a) :
    OrderlyWith w Q (Session.ofResult y) :=
  fun _ _ _ => .ofResult h

theorem orderly {x : Action α} (hx : OrderlyWith w Q x) : Orderly w x := hx.mono fun _ _ => trivial

end OrderlyWith

theorem Orderly.bind {x : Action α} {k : α → Action β} (hx : Orderly w x)
    (hk : ∀ a, Orderly w (k a)) : Orderly w (x >>= k) :=
  OrderlyWith.bind hx fun a _ => hk a

@[simp] theorem orderly_pure (a : α) : Orderly w (pure a) := OrderlyWith.pure trivial

@[simp] theorem orderly_throw (f : Fault) : Orderly w (throw f : Action α) := .throw f

@[simp] theorem orderly_bind {x : Action α} {k : α → Action β} (hx : Orderly w x)
    (hk : ∀ a, Orderly w (k a)) : Orderly w (x >>= k) :=
  hx.bind hk

@[simp] theorem orderly_map {x : Action α} {f : α → β} (hx : Orderly w x) :
    Orderly w (f <$> x) := by
  rw [map_eq_pure_bind]
  exact hx.bind fun a => orderly_pure (f a)

@[simp] theorem orderly_ofResult (y : Result α) : Orderly w (ofResult y) :=
  .ofResult fun _ _ => trivial

@[simp] theorem orderly_get : Orderly w (get : Action Session) := fun _ _ _ =>
  Keeps.get.mono fun _ _ => trivial

@[simp] theorem orderly_ite {p : Prop} [Decidable p] {x y : Action α} (hx : Orderly w x)
    (hy : Orderly w y) : Orderly w (if p then x else y) := by
  split
  · exact hx
  · exact hy

/-- What follows a check. -/
theorem orderly_unless {p : Prop} [Decidable p] {f : Fault} {k : PUnit → Action α}
    (h : ∀ u, Orderly w (k u)) : Orderly w (if p then throw f >>= k else k ()) :=
  orderly_ite (.bind (orderly_throw f) h) (h ())

@[simp] theorem orderly_present (a? : Option α) : Orderly w (present a?) := by
  cases a? with
  | some a => exact orderly_pure a
  | none => exact .throw _

/-- Changes besides those of connections. -/
theorem keeps_modify {P E : History → Prop} {f : Session → Session}
    (h : ∀ s, (f s).connections = s.connections) :
    Session.Keeps (Watched w P E) (fun _ => True) (modify f) := by
  refine .modified fun s hs => ?_
  exact ⟨(h s).symm ▸ hs.driver, hs.unheard.of_connections (h s)⟩

theorem orderly_modify {f : Session → Session} (h : ∀ s, (f s).connections = s.connections) :
    Orderly w (modify f) :=
  fun _ _ _ => keeps_modify h

/-- A session is read and set anew, but for its connections. -/
theorem orderly_get_set {f : Session → Session} {k : Session → Action α}
    (h : ∀ s, (f s).connections = s.connections) (hk : ∀ s, Orderly w (k s)) :
    Orderly w (get >>= fun s => set (f s) >>= fun _ => k s) := by
  intro P E hPE
  refine Keeps.get.bind fun s hs => Keeps.bind (Q := fun _ => True) ?_ fun _ _ => hk s P E hPE
  exact fun _ _ _ =>
    ⟨⟨(h s).symm ▸ hs.driver, hs.unheard.of_connections (h s)⟩, fun _ _ => trivial⟩

theorem keeps_note {P E : History → Prop} (e : Entry) :
    Session.Keeps (Watched w P E) (fun _ => True) (note e) :=
  keeps_modify fun _ => rfl

@[simp] theorem orderly_outcomeOf {x : Action α} (hx : Orderly w x) : Orderly w (outcomeOf x) :=
  fun P E h => (hx P E h).outcomeOf.mono fun _ _ => trivial

theorem orderly_forM {xs : List γ} {f : γ → Action PUnit} (h : ∀ x ∈ xs, Orderly w (f x)) :
    Orderly w (xs.forM f) :=
  fun P E hPE => .forM fun x hx => h x hx P E hPE

theorem orderlyWith_mapM {Q : α → Prop} {xs : List γ} {f : γ → Action α}
    (h : ∀ x ∈ xs, OrderlyWith w Q (f x)) : OrderlyWith w (fun ys => ∀ y ∈ ys, Q y) (xs.mapM f) :=
  fun P E hPE => .mapM fun x hx => h x hx P E hPE

theorem orderly_mapM {xs : List γ} {f : γ → Action α} (h : ∀ x ∈ xs, Orderly w (f x)) :
    Orderly w (xs.mapM f) :=
  (orderlyWith_mapM h).orderly

/-! ## Connections -/

namespace Watched

variable {P E : History → Prop} {s : Session}

/-- A connection is changed, but for what is known of it. -/
theorem modify (h : Watched w P E s) {c : Nat} {f : Connection → Connection}
    (hdriver : ∀ conn, s.connections[c]? = some conn → c = w.connection →
      w.Guards P E conn.driver → w.Guards P E (f conn).driver)
    (hhooks : ∀ conn, conn.hooks.actions = [] → (f conn).hooks.actions = []) :
    Watched w P E { s with connections := s.connections.modify c f } where
  driver := by
    obtain ⟨conn, hconn, hguards⟩ := h.driver
    by_cases hc : c = w.connection
    · subst hc
      refine ⟨f conn, ?_, hdriver conn hconn rfl hguards⟩
      rw [Array.getElem?_modify, if_pos rfl, hconn]
      rfl
    · exact ⟨conn, by rw [Array.getElem?_modify, if_neg hc, hconn], hguards⟩
  unheard := h.unheard.modify hhooks

/-- A new connection has no listeners. -/
theorem push (h : Watched w P E s) {conn : Connection} (hhooks : conn.hooks.actions = []) :
    Watched w P E { s with connections := s.connections.push conn } where
  driver := by
    obtain ⟨old, hold, hguards⟩ := h.driver
    refine ⟨old, ?_, hguards⟩
    obtain ⟨hlt, -⟩ := Array.getElem?_eq_some_iff.1 hold
    rw [Array.getElem?_push_lt hlt, ← Array.getElem?_eq_getElem hlt, hold]
  unheard := by
    intro c conn' hconn'
    rw [Array.getElem?_push] at hconn'
    split at hconn'
    · cases hconn'
      exact hhooks
    · exact h.unheard c conn' hconn'

end Watched

theorem keeps_connection {I : Session → Prop} (c : Nat) :
    Session.Keeps I (fun _ => True) (connection c) := by
  refine Keeps.get.bind fun s _ => ?_
  cases s.connections[c]? with
  | none => exact .throw _
  | some conn => exact .pure trivial

theorem keeps_inTransaction {I : Session → Prop} (c : Nat) :
    Session.Keeps I (fun _ => True) (inTransaction c) :=
  (keeps_connection c).bind fun _ _ => .pure trivial

/-- Whatever is known of a session, reading a connection leaves it as it is. -/
theorem runIn_inTransaction {r : Reaction} {s : Session} {c : Nat} {conn : Connection}
    (h : s.connections[c]? = some conn) :
    runIn r (inTransaction c) s = (.ok conn.driver.inTransaction, s) := by
  rw [inTransaction, runIn_bind_ok (runIn_connection h)]
  rfl

theorem orderlyWith_connection (c : Nat) :
    OrderlyWith w (fun conn => conn.hooks.actions = []) (connection c) := by
  refine fun P E _ => Keeps.get.bind fun s hs => ?_
  cases hconn : s.connections[c]? with
  | none => exact .throw _
  | some conn => exact .pure (hs.unheard c conn hconn)

@[simp] theorem orderly_connection (c : Nat) : Orderly w (connection c) :=
  (orderlyWith_connection c).orderly

theorem orderly_updateConnection {c : Nat} {f : Connection → Connection}
    (hdriver : ∀ conn, (f conn).driver = conn.driver)
    (hhooks : ∀ conn, conn.hooks.actions = [] → (f conn).hooks.actions = []) :
    Orderly w (updateConnection c f) := by
  refine fun P E _ => .modified fun s hs => ?_
  refine hs.modify (fun conn _ _ hconn => ?_) hhooks
  rw [hdriver]
  exact hconn

@[simp] theorem orderly_firstConnection : Orderly w firstConnection :=
  orderly_get.bind fun _ => orderly_present _

@[simp] theorem orderly_standingConnection : Orderly w standingConnection := by
  refine orderly_get.bind fun s => ?_
  cases s.standing with
  | some c => exact orderly_pure c
  | none => exact .throw _

/-! ## Drivers -/

/-- The session after a driver's action on a connection. -/
def Session.driven (s : Session) (c : Nat) (ch : Channel) : Session :=
  { s with
    journal := ch.journal
    connections := s.connections.modify c fun conn => { conn with driver := ch.driver } }

theorem Session.Unheard.driven {s : Session} (hs : s.Unheard) (c : Nat) (ch : Channel) :
    (s.driven c ch).Unheard :=
  hs.modify (f := fun conn => { conn with driver := ch.driver }) fun _ hactions => hactions

theorem runIn_onDriver {r : Reaction} {s : Session} {c : Nat} {conn : Connection}
    (h : s.connections[c]? = some conn) (act : Driver.Action α) :
    runIn r (onDriver c act) s =
      ((Driver.runOn act ⟨conn.driver, s.journal⟩).1,
        s.driven c (Driver.runOn act ⟨conn.driver, s.journal⟩).2) := by
  rw [onDriver, runIn_bind_ok (runIn_connection h), runIn_bind_ok (runIn_get s)]
  exact runIn_ofResult _ _

/-- What keeps the calls of a cursor driver orderly. -/
def Watch.Allows (w : Watch) (act : Driver.Action α) : Prop :=
  ∀ P E, Regime w P E → Driver.Keeps (w.Guards P E) act

theorem keeps_onDriver {P E : History → Prop} {c : Nat} {act : Driver.Action α}
    (h : c = w.connection → Driver.Keeps (w.Guards P E) act) :
    Session.Keeps (Watched w P E) (fun _ => True) (onDriver c act) := by
  intro r s hs
  cases hconn : s.connections[c]? with
  | none =>
    have hmissing : runIn r (connection c) s = (.error (.misuse .missingAttribute), s) := by
      rw [connection, runIn_bind_ok (runIn_get s), hconn]
      rfl
    rw [onDriver, runIn_bind, hmissing]
    exact ⟨hs, fun _ _ => trivial⟩
  | some conn =>
    rw [runIn_onDriver hconn]
    generalize hch : (Driver.runOn act ⟨conn.driver, s.journal⟩).2 = ch
    have hkept : Watched w P E { s with connections := s.connections.modify c fun conn =>
        { conn with driver := ch.driver } } := by
      refine hs.modify (fun conn' hconn' hc hguards => ?_) fun _ hactions => hactions
      rw [hconn, Option.some_inj] at hconn'
      subst hconn'
      rw [← hch]
      exact h hc ⟨conn.driver, s.journal⟩ hguards
    exact ⟨⟨hkept.driver, hkept.unheard⟩, fun _ _ => trivial⟩

/-- What a driver does is orderly where it is not watched or is allowed. -/
theorem orderly_onDriver {c : Nat} {act : Driver.Action α} (h : c = w.connection → w.Allows act) :
    Orderly w (onDriver c act) :=
  fun P E hPE => keeps_onDriver fun hc => h hc P E hPE

/-! ### What is allowed -/

/-- What every cursor driver keeps is allowed. -/
theorem allows_of_held {act : Driver.Action α}
    (h : ∀ inside H, Driver.Kept inside H →
      Driver.Keeps (Driver.Held w.bare w.client inside H) act) : w.Allows act :=
  fun P E hPE ch hch => hch.imp (h true P hPE.opened ch) (h false E hPE.ended ch)

@[simp] theorem allows_bind {x : Driver.Action α} {k : α → Driver.Action β} (hx : w.Allows x)
    (hk : ∀ a, w.Allows (k a)) : w.Allows (x >>= k) :=
  fun P E h => (hx P E h).bind fun a => hk a P E h

@[simp] theorem allows_pure (a : α) : w.Allows (pure a : Driver.Action α) :=
  fun _ _ _ => .pure a

@[simp] theorem allows_ofResult (y : Result α) : w.Allows (Driver.ofResult y) :=
  fun _ _ _ => .ofResult y

@[simp] theorem allows_execute (sql : Value) (bindings : Bindings) :
    w.Allows (Driver.execute sql bindings) :=
  allows_of_held fun _ _ hH => Driver.keeps_execute hH sql bindings

@[simp] theorem allows_fetchAll (sql : Value) (bindings : Bindings) :
    w.Allows (Driver.fetchAll sql bindings) :=
  allows_of_held fun _ _ hH => Driver.keeps_fetchAll hH sql bindings

@[simp] theorem allows_fetchRow (sql : Value) (bindings : Bindings) :
    w.Allows (Driver.fetchRow sql bindings) :=
  allows_of_held fun _ _ hH => Driver.keeps_fetchRow hH sql bindings

@[simp] theorem allows_fetchScalar (sql : Value) (bindings : Bindings) :
    w.Allows (Driver.fetchScalar sql bindings) :=
  allows_of_held fun _ _ hH => Driver.keeps_fetchScalar hH sql bindings

@[simp] theorem allows_fetchColumn (sql : Value) (bindings : Bindings) :
    w.Allows (Driver.fetchColumn sql bindings) :=
  allows_of_held fun _ _ hH => Driver.keeps_fetchColumn hH sql bindings

@[simp] theorem allows_insertId : w.Allows Driver.insertId :=
  allows_of_held fun _ _ _ => Driver.keeps_insertId

@[simp] theorem allows_begin : w.Allows Driver.begin :=
  allows_of_held fun _ _ _ => Driver.keeps_begin

@[simp] theorem allows_close : w.Allows Driver.close := fun _ _ _ => .note _

/-- An early rollback ends the transaction. -/
theorem allows_rollback (h : w.early = true) : w.Allows Driver.rollback := by
  intro P E hPE ch hch
  cases hch with
  | inl hopen =>
    obtain ⟨journal, hrun⟩ := Driver.runOn_rollback ch hopen.backend
    rw [hrun]
    exact .inr ⟨hopen.backend, nofun, hPE.early h _ hopen.history⟩
  | inr hover => exact .inr (Driver.keeps_rollback hPE.ended rfl ch hover)

end SqlBuilder
