import Mathlib.Data.List.Basic
import SqlBuilder.Proofs.Transaction.Driving

/-!
# What becomes durable

A client library has statements pending and statements that are durable. A statement that succeeds
is pending, a commit that succeeds makes what is pending durable, a rollback that succeeds drops it,
and what fails changes nothing. A `Ledger` knows each statement by the number of calls made before
it.

The statements of a transaction (`Inside`) are those that follow its beginning with no end in
between. Where a rollback that succeeds is its first end, they never become durable
(`not_durable_of_rolledBack`). Where its only end is a commit that fails, they do if what succeeds
next, a commit or a rollback, is a commit (`durable_iff_of_commitFailed`).
-/

set_option autoImplicit false

namespace SqlBuilder

open Driver

/-- The statements that are pending and those that are durable. -/
structure Ledger where
  pending : List Nat := []
  durable : List Nat := []
  deriving Repr, DecidableEq

/-- The ledger after calls of a client library. -/
def ledger : History → Ledger
  | [] => {}
  | (.run _ _, true) :: past =>
    { ledger past with pending := (ledger past).pending ++ [past.length] }
  | (.commit, true) :: past => { durable := (ledger past).durable ++ (ledger past).pending }
  | (.rollback, true) :: past => { ledger past with pending := [] }
  | _ :: past => ledger past

/-- The first end since `past` is a rollback, which succeeds. -/
def RolledBack (past history : History) : Prop :=
  ∃ later stretch, history = later ++ (.rollback, true) :: stretch ∧ Unended past stretch

/-- The only end since `past` is a commit, which fails, and nothing comes after it. -/
def CommitFailed (past history : History) : Prop :=
  ∃ stretch, history = (.commit, false) :: stretch ∧ Unended past stretch

/-- A statement is executed after `past`, before anything is ended. -/
def Inside (past history : History) (n : Nat) : Prop :=
  ∃ later stretch, history = later ++ stretch ∧ Unended past stretch ∧
    past.length ≤ n ∧ n < stretch.length

/-- A statement succeeds after `n` other calls. -/
def Ran (history : History) (n : Nat) : Prop :=
  ∃ later sql bindings past, history = later ++ (.run sql bindings, true) :: past ∧ past.length = n

/-- The call ends what is pending and succeeds in doing so. -/
def Settles (call : ClientCall × Bool) : Prop := call.1.isEnd = true ∧ call.2 = true

/-- What is pending before the calls is committed by the first of them that settles it. -/
def CommittedFirst (calls : History) : Prop :=
  ∃ later earlier, calls = later ++ (.commit, true) :: earlier ∧ ∀ call ∈ earlier, ¬ Settles call

variable {past history stretch : History} {n : Nat}

/-! ## Ledgers -/

theorem ledger_lt (history : History) :
    (∀ n ∈ (ledger history).pending, n < history.length) ∧
      ∀ n ∈ (ledger history).durable, n < history.length := by
  fun_induction ledger history <;> grind

theorem ran_cons (call : ClientCall × Bool) :
    Ran (call :: past) n ↔
      (past.length = n ∧ ∃ sql bindings, call = (.run sql bindings, true)) ∨ Ran past n := by
  constructor
  · rintro ⟨later, sql, bindings, before, hsplit, rfl⟩
    cases later with
    | nil =>
      rw [List.nil_append, List.cons.injEq] at hsplit
      exact .inl ⟨by rw [hsplit.2], sql, bindings, hsplit.1⟩
    | cons first later =>
      rw [List.cons_append, List.cons.injEq] at hsplit
      exact .inr ⟨later, sql, bindings, before, hsplit.2, rfl⟩
  · rintro (⟨rfl, sql, bindings, rfl⟩ | ⟨later, sql, bindings, before, rfl, rfl⟩)
    · exact ⟨[], sql, bindings, past, rfl, rfl⟩
    · exact ⟨call :: later, sql, bindings, before, rfl, rfl⟩

/-- A call that settles nothing leaves what is durable, and adds its statement if it is one. -/
theorem ledger_cons_of_unsettled (past : History) {call : ClientCall × Bool} (h : ¬ Settles call) :
    (ledger (call :: past)).durable = (ledger past).durable ∧
      ∀ n, n ∈ (ledger (call :: past)).pending ↔
        n ∈ (ledger past).pending ∨
          past.length = n ∧ ∃ sql bindings, call = (.run sql bindings, true) := by
  obtain ⟨what, succeeded⟩ := call
  cases what <;> cases succeeded <;> simp_all [ledger, Settles, ClientCall.isEnd, eq_comm]

theorem Ran.lt (h : Ran history n) : n < history.length := by
  obtain ⟨later, sql, bindings, before, rfl, rfl⟩ := h
  simp only [List.length_append, List.length_cons]
  omega

/-- What calls that settle nothing do to a ledger: their statements are pending. -/
theorem ledger_of_unsettled (past : History) {calls : History}
    (h : ∀ call ∈ calls, ¬ Settles call) :
    (ledger (calls ++ past)).durable = (ledger past).durable ∧
      ∀ n, n ∈ (ledger (calls ++ past)).pending ↔
        n ∈ (ledger past).pending ∨ past.length ≤ n ∧ Ran (calls ++ past) n := by
  induction calls with
  | nil =>
    refine ⟨rfl, fun n => ⟨.inl, ?_⟩⟩
    rintro (hn | ⟨hle, hran⟩)
    · exact hn
    · exact absurd hran.lt (Nat.not_lt.2 hle)
  | cons call calls ih =>
    obtain ⟨hdurable, hpending⟩ := ih fun c hc => h c (List.mem_cons_of_mem _ hc)
    obtain ⟨hdurable', hpending'⟩ :=
      ledger_cons_of_unsettled (calls ++ past) (h call List.mem_cons_self)
    refine ⟨hdurable'.trans hdurable, fun n => ?_⟩
    rw [List.cons_append, hpending', hpending, ran_cons]
    constructor
    · rintro ((hn | ⟨hle, hran⟩) | ⟨rfl, hcall⟩)
      · exact .inl hn
      · exact .inr ⟨hle, .inr hran⟩
      · exact .inr ⟨by simp, .inl ⟨rfl, hcall⟩⟩
    · rintro (hn | ⟨hle, hcall | hran⟩)
      · exact .inl (.inl hn)
      · exact .inr hcall
      · exact .inl (.inr ⟨hle, hran⟩)

/-- A statement that was sent and is neither pending nor durable never becomes durable. -/
theorem not_durable_of_gone (past : History) (hlt : n < past.length)
    (hpending : n ∉ (ledger past).pending) (hdurable : n ∉ (ledger past).durable)
    (later : History) :
    n ∉ (ledger (later ++ past)).pending ∧ n ∉ (ledger (later ++ past)).durable := by
  induction later with
  | nil => exact ⟨hpending, hdurable⟩
  | cons call later ih =>
    have hne : n ≠ (later ++ past).length := by
      rw [List.length_append]
      omega
    obtain ⟨what, succeeded⟩ := call
    cases what <;> cases succeeded <;> simp_all [ledger]

/-- What is durable stays durable. -/
theorem durable_mono (hdurable : n ∈ (ledger past).durable) (later : History) :
    n ∈ (ledger (later ++ past)).durable := by
  induction later with
  | nil => exact hdurable
  | cons call later ih =>
    obtain ⟨what, succeeded⟩ := call
    cases what <;> cases succeeded <;> simp_all [ledger]

/-- The calls settle nothing, or there is a first one that does. -/
theorem unsettled_or_first (calls : History) : (∀ call ∈ calls, ¬ Settles call) ∨
    ∃ later call earlier, calls = later ++ call :: earlier ∧ Settles call ∧
      ∀ call ∈ earlier, ¬ Settles call := by
  induction calls with
  | nil => exact .inl nofun
  | cons call calls ih =>
    obtain hnone | ⟨later, first, earlier, rfl, hfirst, hearlier⟩ := ih
    · by_cases hcall : Settles call
      · exact .inr ⟨[], call, calls, rfl, hcall, hnone⟩
      · refine .inl fun c hc => ?_
        rcases List.mem_cons.1 hc with rfl | hc
        · exact hcall
        · exact hnone c hc
    · exact .inr ⟨call :: later, first, earlier, rfl, hfirst, hearlier⟩

/-- What is pending becomes durable if it is committed before it is rolled back. -/
theorem durable_iff_committedFirst (past : History) (hpending : n ∈ (ledger past).pending)
    (hdurable : n ∉ (ledger past).durable) (later : History) :
    n ∈ (ledger (later ++ past)).durable ↔ CommittedFirst later := by
  constructor
  · intro hn
    obtain hnone | ⟨rest, call, earlier, rfl, hcall, hearlier⟩ := unsettled_or_first later
    · rw [(ledger_of_unsettled past hnone).1] at hn
      exact absurd hn hdurable
    · obtain ⟨what, succeeded⟩ := call
      obtain ⟨hend, rfl⟩ : what.isEnd = true ∧ succeeded = true := hcall
      cases what with
      | commit => exact ⟨rest, earlier, rfl, hearlier⟩
      | rollback =>
        have hlt := (ledger_lt past).1 n hpending
        have hearly : n ∉ (ledger (earlier ++ past)).durable := by
          rw [(ledger_of_unsettled past hearlier).1]
          exact hdurable
        have hgone := not_durable_of_gone (n := n) ((.rollback, true) :: (earlier ++ past))
          (by simp only [List.length_cons, List.length_append]; omega) (by simp [ledger])
          hearly rest
        rw [List.append_assoc, List.cons_append] at hn
        exact absurd hn hgone.2
      | _ => cases hend
  · rintro ⟨rest, earlier, rfl, hearlier⟩
    have hstill : n ∈ (ledger (earlier ++ past)).pending :=
      ((ledger_of_unsettled past hearlier).2 n).2 (.inl hpending)
    have hnow : n ∈ (ledger ((.commit, true) :: (earlier ++ past))).durable :=
      List.mem_append_right _ hstill
    rw [List.append_assoc, List.cons_append]
    exact durable_mono hnow rest

/-! ## The statements of a transaction -/

theorem Inside.length_lt (h : Inside past history n) : past.length < history.length := by
  obtain ⟨later, stretch, rfl, -, hle, hlt⟩ := h
  rw [List.length_append]
  omega

/-- The statements of a transaction come before whatever ends it. -/
theorem Inside.lt_of_end {later : History} {call : ClientCall × Bool} (hcall : call.1.isEnd = true)
    (hstretch : Unended past stretch) (h : Inside past (later ++ call :: stretch) n) :
    past.length ≤ n ∧ n < stretch.length := by
  obtain ⟨rest, stretch', hsplit, ⟨calls', rfl, hcalls'⟩, hle, hlt⟩ := h
  obtain ⟨calls, rfl, -⟩ := hstretch
  refine ⟨hle, ?_⟩
  rw [← List.cons_append, ← List.append_assoc, ← List.append_assoc,
    List.append_cancel_right_eq] at hsplit
  have hout : call ∉ calls' := fun hmem => by
    rw [hcalls' call hmem] at hcall
    cases hcall
  obtain ⟨front, -, hback⟩ | ⟨front, -, hback⟩ := List.append_eq_append_iff.1 hsplit
  · cases front with
    | nil =>
      rw [List.nil_append] at hback
      exact absurd (hback ▸ List.mem_cons_self) hout
    | cons first front =>
      rw [List.cons_append, List.cons.injEq] at hback
      rw [hback.2]
      simp only [List.length_append] at hlt ⊢
      omega
  · exact absurd (hback ▸ List.mem_append_right _ List.mem_cons_self) hout

/-- Nothing before a transaction is one of its statements, and none of them is settled while it is
open. -/
theorem ledger_of_unended (hstretch : Unended past stretch) (hle : past.length ≤ n) :
    n ∉ (ledger stretch).durable ∧ (n ∈ (ledger stretch).pending ↔ Ran stretch n) := by
  obtain ⟨calls, rfl, hcalls⟩ := hstretch
  have hunsettled : ∀ call ∈ calls, ¬ Settles call := fun call hcall hsettles => by
    have hend := hsettles.1
    rw [hcalls call hcall] at hend
    cases hend
  obtain ⟨hdurable, hpending⟩ := ledger_of_unsettled past hunsettled
  refine ⟨fun hn => ?_, (hpending n).trans ⟨?_, fun hran => .inr ⟨hle, hran⟩⟩⟩
  · rw [hdurable] at hn
    exact Nat.not_lt.2 hle ((ledger_lt past).2 n hn)
  · rintro (hn | ⟨-, hran⟩)
    · exact absurd ((ledger_lt past).1 n hn) (Nat.not_lt.2 hle)
    · exact hran

theorem not_durable_of_rolledBack (hback : RolledBack past history) (hn : Inside past history n)
    (later : History) : n ∉ (ledger (later ++ history)).durable := by
  obtain ⟨rest, stretch, rfl, hstretch⟩ := hback
  obtain ⟨hle, hlt⟩ := hn.lt_of_end rfl hstretch
  obtain ⟨hdurable, -⟩ := ledger_of_unended hstretch hle
  have hgone := not_durable_of_gone (n := n) ((.rollback, true) :: stretch)
    (by rw [List.length_cons]; omega) (by simp [ledger]) hdurable (later ++ rest)
  rw [List.append_assoc] at hgone
  exact hgone.2

theorem durable_iff_of_commitFailed (hfailed : CommitFailed past history)
    (hn : Inside past history n) (later : History) :
    n ∈ (ledger (later ++ history)).durable ↔ Ran history n ∧ CommittedFirst later := by
  obtain ⟨stretch, rfl, hstretch⟩ := hfailed
  have hn' : Inside past ([] ++ (.commit, false) :: stretch) n := hn
  obtain ⟨hle, hlt⟩ := hn'.lt_of_end rfl hstretch
  obtain ⟨hdurable, hpending⟩ := ledger_of_unended hstretch hle
  have hran : Ran ((.commit, false) :: stretch) n ↔ Ran stretch n := by
    rw [ran_cons]
    refine ⟨fun h => h.resolve_left ?_, .inr⟩
    rintro ⟨-, sql, bindings, hcall⟩
    cases hcall
  rw [hran]
  by_cases hpend : n ∈ (ledger stretch).pending
  · have hdone := hpending.1 hpend
    rw [durable_iff_committedFirst ((.commit, false) :: stretch) hpend hdurable]
    exact ⟨fun h => ⟨hdone, h⟩, fun h => h.2⟩
  · have hgone := not_durable_of_gone (n := n) ((.commit, false) :: stretch)
      (Nat.lt_succ_of_lt hlt) hpend hdurable later
    exact ⟨fun h => absurd h hgone.2, fun h => absurd (hpending.2 h.1) hpend⟩

/-- Where the first end is a rollback, the only one is no commit. -/
theorem not_commitFailed_of_rolledBack (hback : RolledBack past history) :
    ¬ CommitFailed past history := by
  rintro ⟨stretch', hcommit, calls', rfl, hcalls'⟩
  obtain ⟨rest, stretch, rfl, calls, rfl, -⟩ := hback
  rw [← List.cons_append, ← List.append_assoc, ← List.cons_append,
    List.append_cancel_right_eq] at hcommit
  have hmem : (ClientCall.rollback, true) ∈ (ClientCall.commit, false) :: calls' :=
    hcommit ▸ List.mem_append_right _ List.mem_cons_self
  rcases List.mem_cons.1 hmem with h | h
  · cases h
  · exact absurd (hcalls' _ h) (by simp [ClientCall.isEnd])

end SqlBuilder
