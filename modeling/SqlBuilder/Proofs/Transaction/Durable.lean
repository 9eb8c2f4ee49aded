import SqlBuilder.Proofs.Transaction.AllOrNothing
import SqlBuilder.Proofs.Transaction.Ledger

/-!
# What a failed transaction leaves behind

A transaction that fails is rolled back, early or at its end, unless what fails is the commit at its
end: the driver takes the transaction for over then, so nothing rolls it back
(`failed_transaction_ended`). Its statements stay pending, and they become durable with the next
commit (`durable_iff_of_failed_transaction`).
-/

set_option autoImplicit false

namespace SqlBuilder

open Session Builder
open Driver (Unended kept_unended)

variable {r : Reaction} {s : Session} {b c : Nat} {x : Builder} {conn : Connection} {bare : Bool}
  {client : Client} {st : Statements}

/-- A transaction that may be rolled back early, and what comes after that. -/
theorem regime_rolledBack (c : Nat) (bare : Bool) {client : Client}
    (hrollback : ∀ past, client.rollback past = .ok ()) (past : History) :
    Regime ⟨c, bare, client, true⟩ (Unended past) (RolledBack past) where
  opened := kept_unended past
  ended := by
    rintro what succeeded _ - ⟨later, stretch, rfl, hstretch⟩
    exact ⟨(what, succeeded) :: later, stretch, rfl, hstretch⟩
  early := by
    intro _ history hunended
    rw [hrollback]
    exact ⟨[], history, rfl, hunended⟩

/-- What a transaction leaves that fails while it is still open at the end of its callback: it is
rolled back, or its commit failed. -/
theorem ended_of_held {s₁ s₂ s₃ : Session} {inside after : Connection} {past : History}
    {body : Action Unit} {outcome : Result Unit} {f : Fault}
    (hrollback : ∀ past, client.rollback past = .ok ())
    (hopen : runIn r (openTransaction c) s = (.ok true, s₁))
    (hbody : runIn r body s₁ = (outcome, s₂)) (hinside : s₂.connections[c]? = some inside)
    (hheld : Driver.Held bare client true (Unended past) inside.driver)
    (hwithin : runIn r (within c body) s = (.error f, s₃))
    (hafter : s₃.connections[c]? = some after) :
    RolledBack past after.driver.history ∨ CommitFailed past after.driver.history := by
  cases outcome with
  | ok u =>
    obtain ⟨journal, hclose⟩ := runIn_closeTransaction (r := r) hinside hheld.backend
      (hheld.inTransaction rfl)
    cases hcommit : client.commit inside.driver.history with
    | ok u =>
      rw [hcommit] at hclose
      rw [runIn_within_closed hopen hbody hclose] at hwithin
      cases hwithin
    | error failure =>
      obtain ⟨cause, hcause⟩ := Driver.reported_error bare client "COMMIT" failure
      rw [hcommit, hcause] at hclose
      rw [runIn_within_unclosed hopen hbody hclose,
        runIn_abandon_over (driven_connection hinside _) rfl, Prod.mk.injEq] at hwithin
      rw [← hwithin.2, driven_connection hinside, Option.some_inj] at hafter
      rw [← hafter]
      exact .inr ⟨inside.driver.history, rfl, hheld.history⟩
  | error cause =>
    obtain ⟨journal, habandon⟩ := runIn_abandon (r := r) hinside hheld.backend Unit
      (hheld.inTransaction rfl) (hrollback _) cause
    rw [runIn_within_failed hopen hbody, habandon, Prod.mk.injEq] at hwithin
    rw [← hwithin.2, driven_connection hinside, Option.some_inj] at hafter
    rw [← hafter]
    exact .inl ⟨[], inside.driver.history, rfl, hheld.history⟩

/-- A failed transaction was rolled back, or its commit failed, or it never began. -/
theorem failed_transaction_ended (h : Idle s b c x conn st bare client)
    (hrollback : ∀ past, client.rollback past = .ok ()) {callback : Nat → Action Unit}
    (hcallback : ∀ t, Orderly ⟨c, bare, client, true⟩ (callback t)) {f : Fault} {s₃ : Session}
    (hfailed : runIn r (transaction b callback) s = (.error f, s₃)) {after : Connection}
    (hafter : s₃.connections[c]? = some after) :
    RolledBack conn.driver.history after.driver.history ∨
      CommitFailed conn.driver.history after.driver.history ∨
      after.driver.history = conn.driver.history := by
  rw [runIn_transaction h.builder h.kind h.opened h.record] at hfailed
  cases hcopy : st.copied with
  | error f' =>
    rw [hcopy, Prod.mk.injEq] at hfailed
    rw [← hfailed.2, h.connected, Option.some_inj] at hafter
    rw [hafter]
    exact .inr (.inr rfl)
  | ok copy =>
    rw [hcopy] at hfailed
    obtain ⟨s₁, -, hopen, hwatched⟩ := h.begins r copy
    have hwithin : runIn r (within c (callback s.builders.size))
        (s.withBuilder c .transaction copy) = (.error f, s₃) := by
      dsimp only at hfailed
      generalize runIn r (within c (callback s.builders.size))
        (s.withBuilder c .transaction copy) = p at hfailed ⊢
      obtain ⟨_ | _, _⟩ := p
      · cases hfailed
        rfl
      · cases hfailed
    have hkept := hcallback s.builders.size _ _ (regime_rolledBack c bare hrollback
      conn.driver.history) r s₁ (hwatched _ _ _ ⟨[], rfl, nofun⟩)
    cases hrun : runIn r (callback s.builders.size) s₁ with
    | mk outcome s₂ =>
    rw [hrun] at hkept
    obtain ⟨inside, hinside, hguards⟩ := hkept.1.driver
    change s₂.connections[c]? = some inside at hinside
    cases hguards with
    | inl hheld =>
      exact (ended_of_held hrollback hopen hrun hinside hheld hwithin hafter).imp_right .inl
    | inr hover =>
      have hover₂ : Watched ⟨c, bare, client, true⟩ (fun _ => False)
          (RolledBack conn.driver.history) s₂ :=
        ⟨⟨inside, hinside, .inr hover⟩, hkept.1.unheard⟩
      have hended := watched_within_over (regime_rolledBack c bare hrollback _).ended hopen hrun
        hover₂
      rw [hwithin] at hended
      obtain ⟨after', hafter', hguards⟩ := hended.driver
      change s₃.connections[c]? = some after' at hafter'
      rw [hafter, Option.some_inj] at hafter'
      rw [hafter']
      exact .inl (hguards.resolve_left fun hopen => hopen.history).history

/-- A statement of a failed transaction becomes durable just if the commit at the end failed, the
statement itself did not, and a commit is the first that succeeds after the transaction. -/
theorem durable_iff_of_failed_transaction (h : Idle s b c x conn st bare client)
    (hrollback : ∀ past, client.rollback past = .ok ()) {steps : List Step}
    (hsteps : orderlySteps true steps = true) {f : Fault} {s₃ : Session}
    (hfailed : runIn r (transaction b fun t => Program.runAll steps (some t)) s = (.error f, s₃))
    {after : Connection} (hafter : s₃.connections[c]? = some after) {n : Nat}
    (hn : Inside conn.driver.history after.driver.history n) (later : History) :
    n ∈ (ledger (later ++ after.driver.history)).durable ↔
      CommitFailed conn.driver.history after.driver.history ∧ Ran after.driver.history n ∧
        CommittedFirst later := by
  have hcallback (t : Nat) : Orderly ⟨c, bare, client, true⟩ (Program.runAll steps (some t)) :=
    Program.orderly_runAll steps hsteps (some t)
  obtain hback | hcommit | hnone := failed_transaction_ended h hrollback hcallback hfailed hafter
  · exact ⟨fun hdurable => absurd hdurable (not_durable_of_rolledBack hback hn later),
      fun hcommit => absurd hcommit.1 (not_commitFailed_of_rolledBack hback)⟩
  · rw [durable_iff_of_commitFailed hcommit hn]
    exact ⟨fun hran => ⟨hcommit, hran⟩, fun hran => hran.2⟩
  · rw [hnone] at hn
    exact absurd hn.length_lt (Nat.lt_irrefl _)

/-! ## A commit that fails -/

/-- A transaction of one statement, where every commit fails. -/
def uncommitted : Result (Nat × Unit) × Session :=
  runIn (fun _ _ => pure ()) (transaction 0 fun t =>
    Program.runAll [.call (.driver .execute) [.value (.text "DELETE FROM a")]] (some t))
    (oneBuilder (Scenario.client { failCommit := true }))

/-- The calls are a statement and a commit that fails. -/
def isUncommitted : History → Bool
  | [(.commit, false), (.run _ _, true), (.openCursor, true)] => true
  | _ => false

theorem eq_of_isUncommitted {history : History} (h : isUncommitted history = true) :
    ∃ sql bindings,
      history = [(.commit, false), (.run sql bindings, true), (.openCursor, true)] := by
  unfold isUncommitted at h
  split at h
  · exact ⟨_, _, rfl⟩
  · cases h

/-- The transaction fails, and the next commit makes its statement durable. -/
theorem durable_of_uncommitted :
    let client := Scenario.client { failCommit := true }
    let steps : List Step := [.call (.driver .execute) [.value (.text "DELETE FROM a")]]
    Idle (oneBuilder client) 0 0 { connection := some 0, record := 0 } (connected client) .empty
      false client ∧
    (∀ past, client.rollback past = .ok ()) ∧ orderlySteps true steps = true ∧
    ∃ f s₃ after, uncommitted = (.error f, s₃) ∧ s₃.connections[0]? = some after ∧
      Inside (connected client).driver.history after.driver.history 1 ∧
      1 ∈ (ledger ([(.commit, true)] ++ after.driver.history)).durable := by
  intro client steps
  have hidle : Idle (oneBuilder client) 0 0 { connection := some 0, record := 0 }
      (connected client) .empty false client := idle_oneBuilder client
  have hrollback : ∀ past, client.rollback past = .ok () := fun _ => rfl
  have hsteps : orderlySteps true steps = true := by decide
  have hcalls : (uncommitted.2.connections[0]?.map fun conn =>
      isUncommitted conn.driver.history) = some true := by decide +kernel
  have hnot : uncommitted.1.isOk = false := by decide +kernel
  cases hfailed : uncommitted with
  | mk outcome s₃ =>
  rw [hfailed] at hcalls hnot
  obtain ⟨after, hafter, hhistory⟩ := Option.map_eq_some_iff.1 hcalls
  cases outcome with
  | ok a => cases hnot
  | error f =>
    obtain ⟨sql, bindings, hhistory⟩ := eq_of_isUncommitted hhistory
    have hcommit : CommitFailed (connected client).driver.history after.driver.history :=
      ⟨_, hhistory, [(.run sql bindings, true), (.openCursor, true)], rfl, by
        simp [ClientCall.isEnd]⟩
    have hran : Ran after.driver.history 1 :=
      ⟨[(.commit, false)], sql, bindings, [(.openCursor, true)], hhistory, rfl⟩
    have hinside : Inside (connected client).driver.history after.driver.history 1 :=
      ⟨[(.commit, false)], _, hhistory, ⟨[(.run sql bindings, true), (.openCursor, true)], rfl, by
        simp [ClientCall.isEnd]⟩, Nat.zero_le 1, Nat.lt_add_one 1⟩
    refine ⟨hidle, hrollback, hsteps, f, s₃, after, rfl, hafter, hinside, ?_⟩
    exact (durable_iff_of_failed_transaction hidle hrollback hsteps hfailed hafter hinside
      [(.commit, true)]).2 ⟨hcommit, hran, [], [], rfl,
        fun call hcall => absurd hcall List.not_mem_nil⟩

end SqlBuilder
