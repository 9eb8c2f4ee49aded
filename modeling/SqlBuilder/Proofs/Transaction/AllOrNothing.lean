import SqlBuilder.Proofs.Transaction.Ends
import SqlBuilder.Proofs.Transaction.Programs

/-!
# A transaction has exactly one end

A transaction on an idle cursor driver is ended once, however calls nest inside it: while its
callback runs nothing is committed and nothing rolled back, then there is one commit if the callback
came to its end and one rollback if it failed (`transaction_all_or_nothing`).
-/

set_option autoImplicit false

namespace SqlBuilder

open Session Builder

variable {r : Reaction} {s : Session} {b c : Nat} {x : Builder} {conn : Connection} {bare : Bool}
  {client : Client} {st : Statements}

/-- A builder, not of a transaction, on a connection whose cursor driver is in no transaction.
Nobody listens. -/
structure Idle (s : Session) (b c : Nat) (x : Builder) (conn : Connection) (st : Statements)
    (bare : Bool) (client : Client) : Prop where
  builder : s.builders[b]? = some x
  kind : x.kind ≠ .transaction
  connection : x.connection = some c
  connected : s.connections[c]? = some conn
  record : s.records[x.record]? = some st
  backend : conn.driver.backend = .cursors bare client
  idle : conn.driver.inTransaction = false
  unheard : s.Unheard

/-- The session in which the callback of a transaction is applied. -/
def Session.Begun (r : Reaction) (s : Session) (c t : Nat) (st : Statements) (s₁ : Session) :
    Prop :=
  runIn r (do
    let t ← newBuilder c .transaction st
    onDriver c Driver.begin
    pure t) s = (.ok t, s₁)

/-- The end of a transaction whose callback comes to `outcome`. -/
def endOf : Result Unit → ClientCall
  | .ok () => .commit
  | .error _ => .rollback

/-- What a transaction comes to whose callback comes to `outcome`. -/
def settled (t : Nat) (lastQuery : Option CompiledQuery) : Result Unit → Result (Nat × Unit)
  | .ok () => .ok (t, ())
  | .error cause => .error (.transaction (some cause) "" lastQuery none)

/-- The connection before a transaction, after its callback, which comes to `outcome`, and after the
transaction: its only end is the one after the callback. -/
structure EndedOnce (outcome : Result Unit) (before inside after : Connection) : Prop where
  unended : Driver.Unended before.driver.history inside.driver.history
  ended : after.driver.history = (endOf outcome, true) :: inside.driver.history
  idle : after.driver.inTransaction = false

/-- A transaction that nothing ends early. -/
theorem regime_unended (c : Nat) (bare : Bool) (client : Client) (past : History) :
    Regime ⟨c, bare, client, false⟩ (Driver.Unended past) fun _ => False where
  opened := Driver.kept_unended past
  ended := nofun
  early := nofun

theorem Idle.opened (h : Idle s b c x conn st bare client) : s.Open b c conn :=
  ⟨x, h.builder, h.connection, h.connected⟩

/-- The transaction begins, with the calls made so far. -/
theorem Idle.begins (h : Idle s b c x conn st bare client) (r : Reaction) (copy : Statements) :
    ∃ s₁, s.Begun r c s.builders.size copy s₁ ∧
      runIn r (openTransaction c) (s.withBuilder c .transaction copy) = (.ok true, s₁) ∧
      ∀ early P E, P conn.driver.history → Watched ⟨c, bare, client, early⟩ P E s₁ := by
  let s₀ := s.withBuilder c .transaction copy
  have hconn₀ : s₀.connections[c]? = some conn := h.connected
  obtain ⟨journal, hbegin⟩ := Driver.runOn_begin ⟨conn.driver, s₀.journal⟩ h.backend
  let s₁ := s₀.driven c ⟨{ conn.driver with inTransaction := true }, journal⟩
  have hdriven : runIn r (onDriver c Driver.begin) s₀ = (.ok (), s₁) := by
    rw [runIn_onDriver hconn₀, hbegin]
  refine ⟨s₁, ?_, ?_, fun early P E hP => ⟨⟨_, driven_connection hconn₀ _, ?_⟩, ?_⟩⟩
  · rw [Session.Begun, runIn_bind_ok runIn_newBuilder, runIn_bind_ok hdriven]
    rfl
  · rw [openTransaction, runIn_bind_ok (runIn_inTransaction hconn₀), h.idle]
    exact runIn_bind_ok hdriven
  · exact .inl ⟨h.backend, fun _ => rfl, hP⟩
  · have hunheard : s₀.Unheard := h.unheard.of_connections rfl
    exact hunheard.driven c _

theorem transaction_all_or_nothing (h : Idle s b c x conn st bare client)
    (hcommit : ∀ past, client.commit past = .ok ())
    (hrollback : ∀ past, client.rollback past = .ok ())
    {steps : List Step} (hsteps : orderlySteps false steps = true) :
    let callback (t : Nat) : Action Unit := Program.runAll steps (some t)
    match st.copied with
    | .error f => runIn r (transaction b callback) s = (.error f, s)
    | .ok copy => ∃ s₁ s₂ s₃ outcome inside after,
      s.Begun r c s.builders.size copy s₁ ∧
      runIn r (callback s.builders.size) s₁ = (outcome, s₂) ∧
      runIn r (transaction b callback) s =
        (settled s.builders.size inside.lastQuery outcome, s₃) ∧
      s₂.connections[c]? = some inside ∧ s₃.connections[c]? = some after ∧
      EndedOnce outcome conn inside after := by
  intro callback
  rw [runIn_transaction h.builder h.kind h.opened h.record]
  cases st.copied with
  | error f => rfl
  | ok copy =>
    obtain ⟨s₁, hbegun, hopen, hwatched⟩ := h.begins r copy
    have hkept := (Program.orderly_runAll (w := ⟨c, bare, client, false⟩) steps hsteps
      (some s.builders.size)) _ _ (regime_unended c bare client conn.driver.history) r s₁
        (hwatched _ _ _ ⟨[], rfl, nofun⟩)
    cases hcallback : runIn r (callback s.builders.size) s₁ with
    | mk outcome s₂ =>
    rw [hcallback] at hkept
    obtain ⟨inside, hinside, hguards⟩ := hkept.1.driver
    change s₂.connections[c]? = some inside at hinside
    have hheld : Driver.Held bare client true (Driver.Unended conn.driver.history) inside.driver :=
      hguards.resolve_right fun hover => hover.history
    have hinTransaction := hheld.inTransaction rfl
    cases outcome with
    | ok u =>
      obtain ⟨journal, hclose⟩ := runIn_closeTransaction (r := r) hinside hheld.backend
        hinTransaction
      rw [hcommit] at hclose
      let ended : Channel := ⟨inside.driver.afterEnd .commit true, journal⟩
      have hwithin := runIn_within_closed hopen hcallback hclose
      refine ⟨s₁, s₂, s₂.driven c ended, .ok u, inside, _, hbegun, hcallback, ?_, hinside,
        driven_connection hinside ended, ⟨hheld.history, rfl, rfl⟩⟩
      dsimp only
      rw [hwithin]
      rfl
    | error cause =>
      obtain ⟨journal, habandon⟩ := runIn_abandon (r := r) hinside hheld.backend Unit
        hinTransaction (hrollback _) cause
      let ended : Channel := ⟨inside.driver.afterEnd .rollback true, journal⟩
      have hwithin := (runIn_within_failed hopen hcallback).trans habandon
      refine ⟨s₁, s₂, s₂.driven c ended, .error cause, inside, _, hbegun, hcallback, ?_, hinside,
        driven_connection hinside ended, ⟨hheld.history, rfl, rfl⟩⟩
      dsimp only
      rw [hwithin]
      rfl

/-! ## A transaction with nested calls -/

/-- A connection to a client library. -/
def connected (client : Client) : Connection where
  driver := { backend := .cursors false client, style := .text "qmark" }
  scenario := {}
  settings := {}
  adapter := { dialect := .sqlite }

/-- A session with one builder, on one connection. -/
def oneBuilder (client : Client) : Session where
  connections := #[connected client]
  builders := #[{ connection := some 0, record := 0 }]
  records := #[.empty]
  first := some 0
  standing := some 0

theorem idle_oneBuilder (client : Client) : Idle (oneBuilder client) 0 0
    { connection := some 0, record := 0 } (connected client) .empty false client where
  builder := rfl
  kind := nofun
  connection := rfl
  connected := rfl
  record := rfl
  backend := rfl
  idle := rfl
  unheard := .of_single rfl rfl

/-- A statement, a batch, a nested transaction that fails and is caught, and a failure. -/
def nestedCalls : List Step :=
  [.call (.builder (.change .run)) [.value (.text "INSERT INTO a VALUES (1)")],
    .call (.builder (.change .fromTables)) [.value (.text "a")],
    .call (.builder (.result (.insert .insert)))
      [.list [.map [(.value (.text "n"), .value (.int 2))]]],
    .attempt (.transaction true (.callback [.raise (.value (.text "inner"))])),
    .raise (.value (.text "outer"))]

theorem transaction_all_or_nothing_of_nested :
    let client := Scenario.client {}
    let callback (t : Nat) : Action Unit := Program.runAll nestedCalls (some t)
    let r : Reaction := fun _ _ => pure ()
    Idle (oneBuilder client) 0 0 { connection := some 0, record := 0 } (connected client) .empty
      false client ∧
    (∀ past, client.commit past = .ok ()) ∧ (∀ past, client.rollback past = .ok ()) ∧
    orderlySteps false nestedCalls = true ∧
    ∃ s₁ s₂ s₃ outcome inside after,
      (oneBuilder client).Begun r 0 1 .empty s₁ ∧
      runIn r (callback 1) s₁ = (outcome, s₂) ∧
      runIn r (transaction 0 callback) (oneBuilder client) =
        (settled 1 inside.lastQuery outcome, s₃) ∧
      s₂.connections[0]? = some inside ∧ s₃.connections[0]? = some after ∧
      EndedOnce outcome (connected client) inside after := by
  intro client callback r
  have hidle := idle_oneBuilder client
  have hcommit : ∀ past, client.commit past = .ok () := fun _ => rfl
  have hrollback : ∀ past, client.rollback past = .ok () := fun _ => rfl
  have hsteps : orderlySteps false nestedCalls = true := by decide
  exact ⟨hidle, hcommit, hrollback, hsteps,
    transaction_all_or_nothing hidle hcommit hrollback hsteps⟩

end SqlBuilder
