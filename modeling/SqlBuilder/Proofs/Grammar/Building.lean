import SqlBuilder.Proofs.Grammar.Rendering
import SqlBuilder.Proofs.Joining.Bound

/-!
# Conditions that calls build

A `Clause` is a call of the `where` family with a plain name, or one with a callback that makes
at least one such call. `Clause.clause` is the clause it builds.

`performAll_keeps`: the calls leave the conditions of clauses they built, in order, all of them
unless the builder overwrites. `built_conditions_parse`: what is written for these conditions is
read as their tree.
-/

set_option autoImplicit false

namespace SqlBuilder.Grammar

open Session Builder

/-! ## Calls -/

theorem LeafCall.isWhere (l : LeafCall) : l.method.isWhere = true := by cases l <;> rfl

mutual

/-- The call on a builder. -/
def Clause.call : Clause → JoinCall
  | leaf l => .condition l.method l.isWhere l.args
  | group joiner first rest => .group joiner (call first :: calls rest)

/-- The calls on a builder, one after another. -/
def Clause.calls : List Clause → List JoinCall
  | [] => []
  | cl :: cls => call cl :: calls cls

end

/-! ## What calls come to -/

theorem comparand_value (t : Test) : comparand t.value = t.compared.value := by
  cases t with
  | among negated isTuple items => cases isTuple <;> rfl
  | between negated isTuple least most => cases isTuple <;> rfl
  | _ => rfl

theorem operator_compared (t : Test) : t.compared.operator = t.operator := by
  cases t <;> rfl

/-- A plain name gets no prefix. -/
theorem named_ok {ctx : Context} {key : PlainName} {v : Value}
    (h : ctx.named (.text key.text) = .ok v) : v = .text key.text := by
  obtain ⟨p, -, h⟩ := bind_ok h
  have hdot := not_mem_of_isName key.plain (c := '.') (by decide)
  have hprefixed : prefixed p true (.text key.text) = .ok (.text key.text) := by
    unfold prefixed prefixedName
    simp [hdot]
  rw [hprefixed] at h
  cases h
  rfl

theorem Test.value_not_builder (t : Test) : ∀ id kind, t.value ≠ .builder id kind := by
  cases t with
  | scalar o v => exact v.not_builder
  | among negated isTuple items => cases isTuple <;> nofun
  | between negated isTuple least most => cases isTuple <;> nofun
  | null negated => nofun

/-- The calls with a plain name are one call of the builder. -/
theorem perform_leaf (b : Nat) (l : LeafCall) :
    (Clause.leaf l).call.perform b = addWhere b (.value (.text l.leaf.key.text))
      (.text l.leaf.test.operator) l.leaf.test.value l.leaf.joiner := by
  have harity : (BuilderMethod.condition l.method).arity.allows
      (l.args.map Operand.value).length = true := by
    cases l <;> rfl
  rw [Clause.call, JoinCall.perform, invoke_eq harity rfl]
  cases l with
  | compare joiner key t =>
    show addWhere b (.value (.text key.text)) (.text t.operator) (comparand t.value) joiner = _
    rw [comparand_value, LeafCall.leaf, operator_compared]
  | among negated joiner key isTuple items =>
    show among b negated joiner (.value (.text key.text)) (listing isTuple items) = _
    rw [among_eq]
    cases isTuple <;> rfl
  | _ => rfl

theorem perform_group (b : Nat) (joiner : Joiner) (first : Clause) (rest : List Clause) :
    (Clause.group joiner first rest).call.perform b = (do
      let inner ← collected b .criteria (JoinCall.performAll (Clause.calls (first :: rest)))
      addCondition b (conditionList (← Session.builder b).kind)
        (.plain (.group inner) .null .null (.text joiner.words))) := by
  rw [Clause.call, JoinCall.perform, invoke_eq rfl rfl]
  exact group_eq _ _

theorem condition_of_not_builder {b : Nat} {key operator v joiner : Value}
    (hv : ∀ id kind, v ≠ .builder id kind) :
    Builder.condition b (.value key) operator v joiner = (do
      let key ← addPrefix b key true
      pure (.plain key operator v joiner)) := by
  rw [condition_eq]
  cases v with
  | builder id kind => exact absurd rfl (hv id kind)
  | _ => rfl

/-! ## Running -/

/-- The builder stands in the session, on a connection and with its statements. -/
structure Standing (b : Nat) (x : Builder) (c : Nat) (conn : Connection) (st : Statements)
    (s : Session) : Prop where
  builder : s.builders[b]? = some x
  connected : x.connection = some c
  connection : s.connections[c]? = some conn
  statements : s.records[x.record]? = some st

/-- The statements with one more clause. -/
def added (x : Builder) (st : Statements) (cl : Clause) : Option Statements :=
  st.addCondition? (conditionList x.kind) x.overwrite.isTrue cl.condition

variable {r : Reaction} {s s' : Session} {b c : Nat} {x : Builder} {conn : Connection}
  {st : Statements}

/-- The builder stands with new statements; what else was there before they were is left alone. -/
structure Moved (b : Nat) (x : Builder) (c : Nat) (conn : Connection) (st : Statements)
    (s s' : Session) : Prop where
  standing : Standing b x c conn st s'
  grown : ∀ s₀, s₀.records[x.record]? = none → Grown s₀ s → Grown s₀ s'

namespace Standing

theorem opened (h : Standing b x c conn st s) : s.Open b c conn :=
  ⟨x, h.builder, h.connected, h.connection⟩

theorem grow (h : Standing b x c conn st s) (hs : Grown s s') : Standing b x c conn st s' where
  builder := hs.builders b x h.builder
  connected := h.connected
  connection := hs.connections ▸ h.connection
  statements := hs.records _ st h.statements

/-- A fresh builder on the connection stands with empty statements. -/
theorem fresh (h : Standing b x c conn st s) (kind : BuilderKind) :
    Standing s.builders.size { connection := some c, record := s.records.size, kind } c conn .empty
      (s.withBuilder c kind .empty) where
  builder := Array.getElem?_push_size
  connected := rfl
  connection := h.connection
  statements := Array.getElem?_push_size

theorem edited (h : Standing b x c conn st s) (f : Statements → Statements) :
    Standing b x c conn (f st) { s with records := s.records.modify x.record f } where
  builder := h.builder
  connected := h.connected
  connection := h.connection
  statements := by
    show (s.records.modify x.record f)[x.record]? = some (f st)
    rw [Array.getElem?_modify, if_pos rfl, h.statements]
    rfl

end Standing

/-- A condition that could be added stands in the statements. -/
theorem addCondition_ok (h : Standing b x c conn st s) (cl : Clause)
    (hrun : runIn r (addCondition b (conditionList x.kind) cl.condition) s = (.ok (), s')) :
    ∃ st', added x st cl = some st' ∧ Moved b x c conn st' s s' := by
  rw [addCondition, runIn_bind_ok (runIn_overwrites h.builder)] at hrun
  cases hadded : added x st cl with
  | none =>
    rw [runIn_tryEdit_none h.builder h.statements hadded] at hrun
    cases hrun
  | some st' =>
    rw [runIn_tryEdit_some h.builder h.statements hadded] at hrun
    cases hrun
    exact ⟨st', rfl, h.edited fun _ => st', fun s₀ hnone hs => hs.edited hnone _⟩

theorem leaf_ok (h : Standing b x c conn st s) (l : LeafCall)
    (hrun : runIn r ((Clause.leaf l).call.perform b) s = (.ok (), s')) :
    ∃ st', added x st (.leaf l) = some st' ∧ Moved b x c conn st' s s' := by
  have hprefix : runIn r (addPrefix b (.text l.leaf.key.text) true) s =
      ((s.context conn).named (.text l.leaf.key.text), s) := runIn_addPrefix h.opened _ _
  rw [perform_leaf, addWhere, condition_of_not_builder l.leaf.test.value_not_builder, bind_assoc,
    runIn_bind, hprefix] at hrun
  cases hnamed : (s.context conn).named (.text l.leaf.key.text) with
  | error f =>
    rw [hnamed] at hrun
    cases hrun
  | ok name =>
    rw [hnamed, named_ok hnamed] at hrun
    dsimp only at hrun
    rw [pure_bind, runIn_bind_ok (runIn_builder h.builder)] at hrun
    exact addCondition_ok h (.leaf l) hrun

/-! ## Keeping the clauses -/

/-- What is left of a list in which an entry may be replaced. -/
theorem kept_of_replaced {overwrite : Bool} {test : Condition → Option Bool}
    {earlier : List Clause} {old : List Condition}
    (h : Statements.replaced? overwrite test (Clause.conditions earlier) = some old) :
    ∃ kept, old = Clause.conditions kept ∧ kept.Sublist earlier ∧
      (overwrite = false → kept = earlier) := by
  cases overwrite with
  | false =>
    cases h
    exact ⟨earlier, rfl, .refl _, fun _ => rfl⟩
  | true =>
    have herased : eraseFirst? test (Clause.conditions earlier) = some old := h
    clear h
    induction earlier generalizing old with
    | nil =>
      cases herased
      exact ⟨[], rfl, .refl _, fun _ => rfl⟩
    | cons cl earlier ih =>
      rw [Clause.conditions, eraseFirst?] at herased
      cases htest : test cl.condition with
      | none =>
        rw [htest] at herased
        cases herased
      | some found =>
        rw [htest] at herased
        cases found with
        | true =>
          cases herased
          exact ⟨earlier, rfl, List.sublist_cons_self cl earlier, Bool.noConfusion⟩
        | false =>
          obtain ⟨rest, hrest, hold⟩ := Option.map_eq_some_iff.1 herased
          obtain ⟨kept, hkept, hsublist, -⟩ := ih hrest
          refine ⟨cl :: kept, ?_, hsublist.cons_cons cl, Bool.noConfusion⟩
          rw [← hold, hkept]
          rfl

theorem conditions_setConditions (st : Statements) (list : ConditionList) (cs : List Condition) :
    (st.setConditions list cs).conditions list = some cs := by
  cases list <;> rfl

theorem conditions_append (xs ys : List Clause) :
    Clause.conditions (xs ++ ys) = Clause.conditions xs ++ Clause.conditions ys := by
  simp only [Clause.conditions_eq_map, List.map_append]

/-- Clauses that are added stand behind those that were there. A builder that overwrites may leave
out some of the earlier ones, but never the last. -/
theorem kept_of_added (earlier : List Clause) {clauses : List Clause} {st st' : Statements}
    (hst : (st.conditions (conditionList x.kind)).getD [] = Clause.conditions earlier)
    (h : clauses.foldlM (added x) st = some st') :
    ∃ kept, (st'.conditions (conditionList x.kind)).getD [] = Clause.conditions kept ∧
      kept.Sublist (earlier ++ clauses) ∧
      (x.overwrite.isTrue = false → kept = earlier ++ clauses) ∧
      (earlier ++ clauses ≠ [] → kept ≠ []) := by
  induction clauses generalizing earlier st with
  | nil =>
    cases h
    exact ⟨earlier, hst, by simp, by simp, by simp⟩
  | cons cl clauses ih =>
    rw [List.foldlM_cons] at h
    obtain ⟨st₁, hadded, h⟩ := Option.bind_eq_some_iff.1 h
    obtain ⟨old, hold, hst₁⟩ := Option.bind_eq_some_iff.1 hadded
    rw [hst] at hold
    obtain ⟨kept, rfl, hsublist, hkept⟩ := kept_of_replaced hold
    cases hst₁
    have hlist : (((st.setConditions (conditionList x.kind)
        (Clause.conditions kept ++ [cl.condition])).conditions (conditionList x.kind)).getD []) =
        Clause.conditions (kept ++ [cl]) := by
      rw [conditions_setConditions, conditions_append]
      rfl
    obtain ⟨kept', hconditions, hsublist', hkept', hne⟩ := ih _ hlist h
    refine ⟨kept', hconditions, hsublist'.trans ?_, fun hoverwrite => ?_, fun _ => hne (by simp)⟩
    · simpa using hsublist.append_right (cl :: clauses)
    · rw [hkept' hoverwrite, hkept hoverwrite]
      simp

/-- The call adds its clause wherever it succeeds. -/
def Clause.Adds (cl : Clause) : Prop :=
  ∀ {r : Reaction} {s s' : Session} {b c : Nat} {x : Builder} {conn : Connection}
    {st : Statements}, Standing b x c conn st s → runIn r (cl.call.perform b) s = (.ok (), s') →
      ∃ st', added x st cl = some st' ∧ Moved b x c conn st' s s'

/-- Calls that succeed add their clauses, one after another. -/
theorem performAll_adds {cls : List Clause} (hcls : ∀ cl ∈ cls, cl.Adds)
    (h : Standing b x c conn st s)
    (hrun : runIn r (JoinCall.performAll (Clause.calls cls) b) s = (.ok (), s')) :
    ∃ st', cls.foldlM (added x) st = some st' ∧ Moved b x c conn st' s s' := by
  induction cls generalizing s st with
  | nil =>
    cases hrun
    exact ⟨st, rfl, h, fun _ _ hs => hs⟩
  | cons cl cls ih =>
    rw [Clause.calls, JoinCall.performAll, runIn_bind] at hrun
    generalize hfirst : runIn r (cl.call.perform b) s = p at hrun
    obtain ⟨_ | ⟨⟨⟩⟩, s₁⟩ := p
    · cases hrun
    · obtain ⟨st₁, hadded, hmoved⟩ := hcls cl List.mem_cons_self h hfirst
      obtain ⟨st', hrest, hmoved'⟩ :=
        ih (fun d hd => hcls d (List.mem_cons_of_mem _ hd)) hmoved.standing hrun
      refine ⟨st', ?_, hmoved'.standing, fun s₀ hnone hs =>
        hmoved'.grown s₀ hnone (hmoved.grown s₀ hnone hs)⟩
      rw [List.foldlM_cons, hadded]
      exact hrest

/-- What a callback leaves on a fresh builder are the conditions of its calls. -/
theorem collected_ok {cls : List Clause} (hcls : ∀ cl ∈ cls, cl.Adds)
    (h : Standing b x c conn st s) {inner : List Condition}
    (hrun : runIn r (collected b .criteria (JoinCall.performAll (Clause.calls cls))) s =
      (.ok inner, s')) :
    inner = Clause.conditions cls ∧ Grown s s' := by
  rw [collected, runIn_bind_ok (runIn_connectionOf h.opened), runIn_bind_ok runIn_newBuilder,
    runIn_bind] at hrun
  generalize hcalls : runIn r (JoinCall.performAll (Clause.calls cls) s.builders.size)
    (s.withBuilder c .criteria .empty) = p at hrun
  obtain ⟨_ | ⟨⟨⟩⟩, s₁⟩ := p
  · cases hrun
  · obtain ⟨st₁, hadded, hmoved⟩ := performAll_adds hcls (h.fresh .criteria) hcalls
    obtain ⟨kept, hkept, -, hall, -⟩ := kept_of_added [] rfl hadded
    dsimp only at hrun
    rw [runIn_bind_ok (runIn_statementsOf hmoved.standing.builder hmoved.standing.statements)]
      at hrun
    cases hrun
    refine ⟨?_, hmoved.grown s (Array.getElem?_eq_none (Nat.le_refl _))
      (grown_withBuilder s c .criteria .empty)⟩
    have hkept_eq : kept = cls := hall rfl
    exact hkept_eq ▸ hkept

theorem Clause.adds (cl : Clause) : cl.Adds := by
  induction cl using Clause.induction with
  | leaf l => exact fun h hrun => leaf_ok h l hrun
  | group joiner first rest hfirst hrest =>
    intro r s s' b c x conn st h hrun
    have hcls : ∀ cl ∈ first :: rest, cl.Adds := by
      rintro cl hcl
      rcases List.mem_cons.1 hcl with rfl | hcl
      · exact hfirst
      · exact hrest cl hcl
    rw [perform_group, runIn_bind] at hrun
    generalize hinner : runIn r (collected b .criteria
      (JoinCall.performAll (Clause.calls (first :: rest)))) s = p at hrun
    obtain ⟨_ | inner, s₁⟩ := p
    · cases hrun
    · obtain ⟨rfl, hgrown⟩ := collected_ok hcls h hinner
      dsimp only at hrun
      rw [runIn_bind_ok (runIn_builder (h.grow hgrown).builder)] at hrun
      obtain ⟨st', hadded, hmoved⟩ :=
        addCondition_ok (h.grow hgrown) (.group joiner first rest) hrun
      exact ⟨st', hadded, hmoved.standing, fun s₀ hnone hs =>
        hmoved.grown s₀ hnone (hs.trans hgrown)⟩

/-! ## Building and reading back -/

/-- **What calls build reads back as built.** After calls of the `where` family that all succeed, on
a builder that had conditions of such calls before, if any, its conditions are those of the calls in
order; a builder that overwrites may have left out some that were replaced. Whatever the dialect,
and with identifiers quoted or not, what is written for the conditions is one expression, and its
tree is the one that was built. -/
theorem built_conditions_parse {earlier cls : List Clause} (h : Standing b x c conn st s)
    (hearlier : (st.conditions (conditionList x.kind)).getD [] = Clause.conditions earlier)
    (hne : earlier ++ cls ≠ [])
    (hrun : runIn r (JoinCall.performAll (Clause.calls cls) b) s = (.ok (), s')) :
    ∃ st' kept, s'.records[x.record]? = some st' ∧
      (st'.conditions (conditionList x.kind)).getD [] = Clause.conditions kept ∧
      kept.Sublist (earlier ++ cls) ∧
      (x.overwrite.isTrue = false → kept = earlier ++ cls) ∧
      ∀ a : Adapter, ∃ f, a.criteria {} (Clause.conditions kept) = .ok f ∧
        parse f.sql = some (Clause.tree kept) := by
  obtain ⟨st', hadded, hmoved⟩ := performAll_adds (fun cl _ => cl.adds) h hrun
  obtain ⟨kept, hkept, hsublist, hall, hnonempty⟩ := kept_of_added earlier hearlier hadded
  refine ⟨st', kept, hmoved.standing.statements, hkept, hsublist, hall, fun a => ?_⟩
  cases kept with
  | nil => exact absurd rfl (hnonempty hne)
  | cons cl kept => exact criteria_parses a cl kept

/-- A negated comparison, a negated group with a test of nothing and of a range, and one for
null. -/
def nestedCalls : List Clause :=
  let name (s : String) (h : isName s.toList = true) : PlainName := ⟨s, h⟩
  [.leaf (.equal .andNot (name "a" (by decide)) ⟨.bool true, rfl, nofun⟩),
    .group .orNot (.leaf (.among false .and (name "b" (by decide)) false []))
      [.leaf (.between true .or (name "c" (by decide)) (.int 1) (.int 9))],
    .leaf (.isNull true .and (name "d" (by decide)))]

theorem built_conditions_parse_of_nested :
    let s := Session.selecting (.text "t")
    let x : Builder := { connection := some 0, record := 0 }
    let st : Statements := { tables := .list [.text "t"] }
    let run := runIn (fun _ _ => pure ()) (JoinCall.performAll (Clause.calls nestedCalls) 0) s
    (∃ conn, Standing 0 x 0 conn st s) ∧
      (st.conditions (conditionList x.kind)).getD [] = Clause.conditions [] ∧
      [] ++ nestedCalls ≠ [] ∧ run = (.ok (), run.2) ∧
      ∃ st' kept, run.2.records[x.record]? = some st' ∧
        (st'.conditions (conditionList x.kind)).getD [] = Clause.conditions kept ∧
        kept.Sublist ([] ++ nestedCalls) ∧
        (x.overwrite.isTrue = false → kept = [] ++ nestedCalls) ∧
        ∀ a : Adapter, ∃ f, a.criteria {} (Clause.conditions kept) = .ok f ∧
          parse f.sql = some (Clause.tree kept) := by
  intro s x st run
  have hstanding : Standing 0 x 0 _ st s := ⟨rfl, rfl, rfl, rfl⟩
  have hempty : (st.conditions (conditionList x.kind)).getD [] = Clause.conditions [] := rfl
  have hne : [] ++ nestedCalls ≠ [] := by simp [nestedCalls]
  have hok : run.1.isOk = true := by decide +kernel
  have hrun : run = (.ok (), run.2) := by
    obtain ⟨y, s'⟩ := run
    cases y with
    | ok => rfl
    | error f => cases hok
  exact ⟨⟨_, hstanding⟩, hempty, hne, hrun, built_conditions_parse hstanding hempty hne hrun⟩

example : parse "NOT a = ? OR NOT (0 = 1 OR c NOT BETWEEN ? AND ?) AND d IS NOT NULL" =
    some (Clause.tree nestedCalls) := by rfl

end SqlBuilder.Grammar
