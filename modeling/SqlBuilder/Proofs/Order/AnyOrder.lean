import Mathlib.Data.List.Rotate
import SqlBuilder.Proofs.Order.Calls

/-!
# Clauses in any order

Calls that fill different clauses do not depend on each other. What calls on a builder come to is
what the calls of each clause come to alone (`foldlM_ok_iff`), so only the order within each clause
matters: `clauses_in_any_order`, and for two calls `calls_commute`.
-/

set_option autoImplicit false

namespace SqlBuilder

open Session Builder

namespace Scene

variable {S : Scene} {kind : BuilderKind} {ι : Type}

/-! ## Calls as edits -/

/-- An edit as a function of the desk. Its mode stays as it is. -/
def editing (T : Value → Statements → Result Statements) (d : Desk) : Result (Unit × Desk) :=
  (fun st => ((), ⟨d.overwrite, st⟩)) <$> T d.overwrite d.statements

/-- What fills a clause is an edit in this clause. -/
theorem Fills.exists_edit {C : ClauseKind} {x : Nat → Action Unit} (h : S.Fills kind (some C) x) :
    ∃ T : Value → Statements → Result Statements,
      (∀ o, Statements.InClause C (T o)) ∧ S.Means kind x (editing T) := by
  obtain ⟨E, hE, hin⟩ := h
  refine ⟨fun o st => (fun p => p.2.statements) <$> E ⟨o, st⟩, fun o st rest => ?_, ?_⟩
  · dsimp only
    rw [hin C rfl]
    cases E ⟨o, st⟩ <;> rfl
  · have hedit : editing (fun o st => (fun p => p.2.statements) <$> E ⟨o, st⟩) = E := by
      funext d
      show _ <$> _ <$> E d = E d
      cases hd : E d with
      | error f => rfl
      | ok p =>
        obtain ⟨⟨⟩, d'⟩ := p
        show Except.ok ((), Desk.mk d.overwrite d'.statements) = _
        rw [← hin.overwrite_eq rfl hd]
    rw [hedit]
    exact hE

theorem Means.forM {x : ι → Nat → Action Unit} {T : ι → Value → Statements → Result Statements}
    {cs : List ι} (h : ∀ c ∈ cs, S.Means kind (x c) (editing (T c))) :
    S.Means kind (fun g => cs.forM fun c => x c g)
      (editing fun o st => cs.foldlM (fun st c => T c o st) st) := by
  induction cs with
  | nil =>
    intro r t g m d hd
    exact .ok (.ofGrown (.refl t)) hd
  | cons c cs ih =>
    have hrest := ih fun c hc => h c (List.mem_cons_of_mem _ hc)
    have hcons := (h c List.mem_cons_self).bind fun _ => hrest
    have hedit : (fun d => editing (T c) d >>= fun p =>
        editing (fun o st => cs.foldlM (fun st c => T c o st) st) p.2) =
        editing fun o st => (c :: cs).foldlM (fun st c => T c o st) st := by
      funext d
      unfold editing
      dsimp only
      rw [List.foldlM_cons]
      cases T c d.overwrite d.statements <;> rfl
    rw [hedit] at hcons
    exact hcons

variable (S)

/-- The call fills a clause on the builder of the scene, and its arguments are given. -/
structure Ready (call : ReadyCall) : Prop where
  clause : ∃ K, call.clause? S.start.kind = some K
  given : ∀ op ∈ call.args, S.Given op

/-- How calls on the builder of the scene end. -/
def ended (r : Reaction) (calls : List ReadyCall) : Result Unit × Session :=
  runIn r (ReadyCall.invokeAll calls S.builder) S.session

/-- The calls that fill a clause. -/
def ofClause (K : ClauseKind) (calls : List ReadyCall) : List ReadyCall :=
  calls.filter (·.clause? S.start.kind = some K)

variable {S} {r : Reaction} {calls calls' : List ReadyCall}

/-- Calls are edits of the statements, each in its clause. -/
theorem exists_edits (hready : ∀ call ∈ calls, S.Ready call) :
    ∃ T : ReadyCall → Statements → Result Statements,
      (∀ call ∈ calls, ∃ K, call.clause? S.start.kind = some K ∧ Statements.InClause K (T call)) ∧
      ∀ cs : List ReadyCall, (∀ call ∈ cs, call ∈ calls) →
        S.Ends S.start.kind S.session S.builder S.start.record (S.ended r cs)
          ((fun st => ((), ⟨S.start.overwrite, st⟩)) <$>
            cs.foldlM (fun st call => T call st) S.statements) := by
  have hedit (call : ReadyCall) : ∃ T : Value → Statements → Result Statements, call ∈ calls →
      (∃ K, call.clause? S.start.kind = some K ∧ ∀ o, Statements.InClause K (T o)) ∧
        S.Means S.start.kind call.invoke (editing T) := by
    by_cases hcall : call ∈ calls
    · obtain ⟨⟨K, hK⟩, hgiven⟩ := hready call hcall
      have hfills : S.Fills S.start.kind (some K) call.invoke :=
        fills_invoke hgiven fun C hC => hC.symm.trans hK.symm
      obtain ⟨T, hT, hmeans⟩ := hfills.exists_edit
      exact ⟨T, fun _ => ⟨⟨K, hK, hT⟩, hmeans⟩⟩
    · exact ⟨fun _ => .ok, fun h => absurd h hcall⟩
  choose T hT using hedit
  refine ⟨fun call => T call S.start.overwrite, fun call hcall => ?_, fun cs hcs => ?_⟩
  · obtain ⟨⟨K, hK, hin⟩, -⟩ := hT call hcall
    exact ⟨K, hK, hin _⟩
  · have hmeans := Means.forM fun call hcall => (hT call (hcs call hcall)).2
    exact hmeans r _ _ _ _ stands_desk

/-! ## Runs with one end -/

variable {α : Type} {K : Option ClauseKind} {x : Nat → Action α} {t t' : Session} {g m g' m' : Nat}
  {d : Desk}

theorem Ends.fst_eq {p : Result α × Session} {y : Result (α × Desk)} (h : S.Ends kind t g m p y) :
    p.1 = Prod.fst <$> y := by
  cases h <;> rfl

theorem Ends.stands {p : Result α × Session} {a : α} (h : S.Ends kind t g m p (.ok (a, d))) :
    ∃ t', p = (.ok a, t') ∧ S.Stands kind t' g m d := by
  cases h with
  | ok hspared hstands => exact ⟨_, rfl, hstands⟩

/-- What has a meaning comes to the same on builders with the same desk. -/
theorem Fills.same (h : S.Fills kind K x) (ht : S.Stands kind t g m d)
    (ht' : S.Stands kind t' g' m' d) : (runIn r (x g') t').1 = (runIn r (x g) t).1 := by
  obtain ⟨E, hE, -⟩ := h
  rw [(hE r t g m d ht).fst_eq, (hE r t' g' m' d ht').fst_eq]

variable (S) in
/-- Both sequences of calls succeed. They leave the builder with the same statements, and it
compiles alike as every operation. -/
def SameEnd (r : Reaction) (calls calls' : List ReadyCall) : Prop :=
  ∃ t t' st, S.ended r calls = (.ok (), t) ∧ S.ended r calls' = (.ok (), t') ∧
    (runIn r (statementsOf S.builder) t).1 = .ok st ∧
    (runIn r (statementsOf S.builder) t').1 = .ok st ∧
    ∀ op payload, (runIn r (compileAs S.builder (.ok op) payload) t').1 =
      (runIn r (compileAs S.builder (.ok op) payload) t).1

theorem ended_ok_iff {y : Result Statements}
    (h : S.Ends S.start.kind S.session S.builder S.start.record (S.ended r calls)
      ((fun st => ((), ⟨S.start.overwrite, st⟩)) <$> y)) :
    (S.ended r calls).1 = .ok () ↔ ∃ st, y = .ok st := by
  rw [h.fst_eq]
  cases y with
  | error f => exact iff_of_false nofun nofun
  | ok st => exact iff_of_true rfl ⟨st, rfl⟩

/-- Calls succeed if those of each clause do. -/
theorem ended_ok_iff_clauses (hready : ∀ call ∈ calls, S.Ready call) :
    (S.ended r calls).1 = .ok () ↔ ∀ K, (S.ended r (S.ofClause K calls)).1 = .ok () := by
  obtain ⟨T, hT, hends⟩ := exists_edits (r := r) hready
  rw [ended_ok_iff (hends calls fun _ h => h), Statements.exists_foldlM_iff hT]
  exact forall_congr' fun K => (ended_ok_iff (hends _ fun _ h => (List.mem_filter.1 h).1)).symm

/-- Calls that are in one order within each clause have the same end. -/
theorem sameEnd_of_clauses (hready : ∀ call ∈ calls, S.Ready call)
    (hmem : ∀ call ∈ calls', call ∈ calls)
    (horder : ∀ K, S.ofClause K calls' = S.ofClause K calls)
    (hok : (S.ended r calls).1 = .ok ()) : S.SameEnd r calls calls' := by
  obtain ⟨T, hT, hends⟩ := exists_edits (r := r) hready
  obtain ⟨st, hst⟩ := (ended_ok_iff (hends calls fun _ h => h)).1 hok
  have hst' := (Statements.foldlM_ok_reorder hT hmem horder).2 hst
  have hend := hends calls fun _ h => h
  have hend' := hends calls' hmem
  rw [hst] at hend
  rw [hst'] at hend'
  obtain ⟨t, hrun, ht⟩ := hend.stands
  obtain ⟨t', hrun', ht'⟩ := hend'.stands
  have hread (u : Session) (hu : S.Stands S.start.kind u S.builder S.start.record
      ⟨S.start.overwrite, st⟩) : (runIn r (statementsOf S.builder) u).1 = .ok st := by
    rw [runIn_statementsOf hu.builder hu.record]
  exact ⟨t, t', st, hrun, hrun', hread t ht, hread t' ht', fun op payload =>
    (fills_compileAs (.ok op) payload).same ht ht'⟩

/-- Two calls that fill different clauses, and succeed, can be made in either order. -/
theorem calls_commute {call call' : ReadyCall} (hready : S.Ready call) (hready' : S.Ready call')
    (hclauses : call.clause? S.start.kind ≠ call'.clause? S.start.kind)
    (hok : (S.ended r [call]).1 = .ok ()) (hok' : (S.ended r [call']).1 = .ok ()) :
    S.SameEnd r [call, call'] [call', call] := by
  have hboth : ∀ c ∈ [call, call'], S.Ready c := by
    rintro c (_ | ⟨_, _ | ⟨_, ⟨⟩⟩⟩)
    · exact hready
    · exact hready'
  have hmine (K : ClauseKind) (hK : call.clause? S.start.kind = some K) :
      call'.clause? S.start.kind ≠ some K := fun hK' => hclauses (hK.trans hK'.symm)
  refine sameEnd_of_clauses hboth (fun c hc => (List.Perm.swap call call' []).mem_iff.1 hc)
    (fun K => ?_) ((ended_ok_iff_clauses hboth).2 fun K => ?_)
  · unfold ofClause
    by_cases hK : call.clause? S.start.kind = some K
    · simp [hK, hmine K hK]
    · simp [List.filter_cons, hK]
  · unfold ofClause
    by_cases hK : call.clause? S.start.kind = some K
    · simpa [hK, hmine K hK] using hok
    · by_cases hK' : call'.clause? S.start.kind = some K
      · simpa [hK, hK'] using hok'
      · simp [hK, hK']
        rfl

end Scene

open Scene

/-- Clauses may be given in any order. Calls succeed if those of each clause do on their own, as two
calls that fill different clauses and both succeed. If so, they leave the builder with the same
statements in any other order that is the same within each clause, and what it compiles to is the
same. -/
theorem clauses_in_any_order {S : Scene} {calls calls' : List ReadyCall}
    (hready : ∀ call ∈ calls, S.Ready call) (hperm : calls'.Perm calls)
    (horder : ∀ K, S.ofClause K calls' = S.ofClause K calls) (r : Reaction) :
    ((S.ended r calls).1 = .ok () ↔ ∀ K, (S.ended r (S.ofClause K calls)).1 = .ok ()) ∧
      ((S.ended r calls).1 = .ok () → S.SameEnd r calls calls') :=
  ⟨ended_ok_iff_clauses hready,
    sameEnd_of_clauses hready (fun _ hcall => hperm.mem_iff.1 hcall) horder⟩

/-- A builder in overwrite mode, and another one that selects from a table. -/
def Scene.replacing : Scene where
  session := {
    connections := #[{ driver := .ofScenario {}, scenario := {}, settings := {},
                       adapter := ⟨.mysql, true⟩, tablePrefix := .text "wp_" }]
    builders := #[{ connection := some 0, record := 0, overwrite := .bool true },
      { connection := some 0, record := 1 }]
    records := #[{ tables := .list [.text "wp_p"] }, { tables := .list [.text "wp_u"] }] }
  builder := 0
  start := { connection := some 0, record := 0, overwrite := .bool true }
  statements := { tables := .list [.text "wp_p"] }
  present := rfl
  recorded := rfl

/-- Calls inside a callback. -/
def FluentCall.inner : List FluentCall :=
  [.call (.condition (.compare .and)) [.value (.text "p.a"), .value (.int 1)]]

/-- A group of conditions, columns, a condition with a subquery, and a limit. -/
def ReadyCall.nested : List ReadyCall :=
  [⟨.condition (.compare .and), [.callback 0 (performAll FluentCall.inner)]⟩,
    ⟨.change .select nofun, [.value (.text "p.a")]⟩,
    ⟨.condition (.among false .and), [.value (.text "p.u"), .value (.builder 1 .query)]⟩,
    ⟨.change .limit nofun, [.value (.int 10)]⟩]

theorem ready_nested : ∀ call ∈ ReadyCall.nested, Scene.replacing.Ready call := by
  have hcallback : Scene.replacing.Confined (performAll FluentCall.inner) :=
    confined_performAll ⟨⟨known_text _, nofun, trivial⟩, trivial⟩
  have hbuilder : Scene.replacing.Known (.builder 1 .query) := by
    rintro _ _ ⟨⟩
    exact ⟨_, _, rfl, nofun, rfl⟩
  have hlimit : Scene.replacing.Known (.int 10) := nofun
  simp only [ReadyCall.nested, List.forall_mem_cons]
  refine ⟨⟨⟨_, rfl⟩, ?_⟩, ⟨⟨_, rfl⟩, ?_⟩, ⟨⟨_, rfl⟩, ?_⟩, ⟨⟨_, rfl⟩, ?_⟩,
    fun _ h => absurd h List.not_mem_nil⟩
  · exact List.forall_mem_singleton.2 hcallback
  · exact List.forall_mem_singleton.2 (known_text _)
  · exact List.forall_mem_cons.2 ⟨known_text _, List.forall_mem_singleton.2 hbuilder⟩
  · exact List.forall_mem_singleton.2 hlimit

theorem ended_nested :
    (Scene.replacing.ended (fun _ _ => pure ()) ReadyCall.nested).1 = .ok () := by
  have hok : (Scene.replacing.ended (fun _ _ => pure ()) ReadyCall.nested).1.isOk = true := by
    decide +kernel
  cases hended : (Scene.replacing.ended (fun _ _ => pure ()) ReadyCall.nested).1 with
  | ok u => rfl
  | error cause =>
    rw [hended] at hok
    cases hok

/-- The limit comes first. -/
theorem clauses_in_any_order_of_nested :
    let r : Reaction := fun _ _ => pure ()
    (∀ call ∈ ReadyCall.nested, Scene.replacing.Ready call) ∧
    (ReadyCall.nested.rotate 3).Perm ReadyCall.nested ∧
    (∀ K, Scene.replacing.ofClause K (ReadyCall.nested.rotate 3) =
      Scene.replacing.ofClause K ReadyCall.nested) ∧
    (∀ K, (Scene.replacing.ended r (Scene.replacing.ofClause K ReadyCall.nested)).1 = .ok ()) ∧
    Scene.replacing.SameEnd r ReadyCall.nested (ReadyCall.nested.rotate 3) := by
  intro r
  have hperm : (ReadyCall.nested.rotate 3).Perm ReadyCall.nested := List.rotate_perm _ 3
  have horder : ∀ K, Scene.replacing.ofClause K (ReadyCall.nested.rotate 3) =
      Scene.replacing.ofClause K ReadyCall.nested := by
    intro K
    cases K <;> rfl
  obtain ⟨hclauses, hsame⟩ := clauses_in_any_order ready_nested hperm horder r
  exact ⟨ready_nested, hperm, horder, hclauses.1 ended_nested, hsame ended_nested⟩

end SqlBuilder
