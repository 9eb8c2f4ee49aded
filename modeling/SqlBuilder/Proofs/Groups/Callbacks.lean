import SqlBuilder.Proofs.Grammar.Building
import SqlBuilder.Proofs.Groups.Pruning

/-!
# Callbacks that add nothing

A `GroupCall` is a call of `where`, `or_where`, `where_not`, `or_where_not`, `having` or `or_having`
with a callback. It adds a group of the conditions that the calls of the callback come to.

* `hollows_of_conditionsAll`: no group among the conditions is without conditions if and only if
  each callback adds a condition (`JoinCall.fillsAll`).
* `compile_grouped`: what this means for the query.
-/

set_option autoImplicit false

namespace SqlBuilder

open Builder Session Grammar

/-! ## What callbacks add -/

namespace JoinCall

/-- The call adds a condition. -/
def adds (a : Adapter) : JoinCall → Bool
  | condition m _ args => !(asked a m args).isEmpty
  | _ => true

mutual

/-- The callback of the call adds a condition, and so do those of the calls it makes. Keys that are
groups already have conditions. -/
def fills (a : Adapter) : JoinCall → Bool
  | .condition m _ args => (asked a m args).all fun q => q.toOption.all (·.key.hollows == 0)
  | .group _ calls => calls.any (·.adds a) && fillsAll a calls
  | _ => true

/-- The callbacks of the calls all add a condition. -/
def fillsAll (a : Adapter) : List JoinCall → Bool
  | [] => true
  | call :: calls => fills a call && fillsAll a calls

end

mutual

/-- The conditions of keys that are groups already are joined by words. -/
def Linked (a : Adapter) : JoinCall → Prop
  | .condition m _ args => ∀ q : Comparison, .ok q ∈ asked a m args → q.key.Linked
  | .group _ calls => LinkedAll a calls
  | _ => True

/-- So are those of keys in calls. -/
def LinkedAll (a : Adapter) : List JoinCall → Prop
  | [] => True
  | call :: calls => Linked a call ∧ LinkedAll a calls

end

end JoinCall

section

variable {ctx : Context}

theorem condition_hollows {q : Comparison} {c : Condition} (h : ctx.condition q = .ok c) :
    c.hollows = q.key.hollows ∧ (q.key.Linked → c.Linked) := by
  obtain ⟨key, hkey, h⟩ := bind_ok h
  obtain ⟨v, -, h⟩ := bind_ok h
  cases h
  have hplain {k : Value} (h : ∀ cs, k ≠ .group cs) : k.hollows = 0 ∧ k.Linked := by
    cases k <;> first | exact ⟨rfl, trivial⟩ | exact absurd rfl (h _)
  show key.hollows = _ ∧ (_ → key.Linked ∧ _)
  cases sameName_named hkey with
  | refl => exact ⟨rfl, fun hlinked => ⟨hlinked, ⟨_, rfl⟩, rfl, rfl⟩⟩
  | renamed _ _ hgroup hgroup' =>
    exact ⟨(hplain hgroup').1.trans (hplain hgroup).1.symm,
      fun _ => ⟨(hplain hgroup').2, ⟨_, rfl⟩, rfl, rfl⟩⟩

/-- The conditions of comparisons have the groups that the comparisons have. -/
theorem hollows_of_asked {qs : List (Result Comparison)} {cs : List Condition}
    (h : (qs.mapM fun q => do ctx.condition (← q)) = .ok cs) :
    (Condition.hollowsAll cs = 0 ↔ qs.all (fun q => q.toOption.all (·.key.hollows == 0)) = true) ∧
      ((∀ q : Comparison, .ok q ∈ qs → q.key.Linked) → Condition.LinkedAll cs) := by
  induction qs generalizing cs with
  | nil =>
    cases h
    exact ⟨iff_of_true rfl rfl, fun _ => trivial⟩
  | cons q qs ih =>
    rw [List.mapM_cons] at h
    obtain ⟨c, hc, h⟩ := bind_ok h
    obtain ⟨rest, hrest, h⟩ := bind_ok h
    cases h
    obtain ⟨q, rfl, hc⟩ := bind_ok hc
    obtain ⟨hhollows, hlinked⟩ := condition_hollows hc
    obtain ⟨hrest, hlinkedAll⟩ := ih hrest
    refine ⟨?_, fun hqs => ⟨hlinked (hqs q List.mem_cons_self),
      hlinkedAll fun q hq => hqs q (List.mem_cons_of_mem _ hq)⟩⟩
    rw [Condition.hollowsAll, Nat.add_eq_zero_iff, hrest, hhollows, List.all_cons,
      Bool.and_eq_true]
    simp [Except.toOption]

namespace JoinCall

/-- What a call comes to on the builder of a group. -/
structure Comes (ctx : Context) (cs : List Condition) (fills adds : Bool) (linked : Prop) :
    Prop where
  hollows : Condition.hollowsAll cs = 0 ↔ fills = true
  nothing : cs = [] ↔ adds = false
  linked : linked → Condition.LinkedAll cs

mutual

theorem hollows_of_conditions {call : JoinCall} {cs : List Condition}
    (h : call.conditions ctx .criteria = .ok cs) :
    Comes ctx cs (call.fills ctx.adapter) (call.adds ctx.adapter) (call.Linked ctx.adapter) := by
  match call with
  | .on .. | .orOn .. | .shared .. => cases h
  | .condition m hwhere args =>
    rw [conditions] at h
    obtain ⟨hhollows, hlinked⟩ := hollows_of_asked h
    have hlength := (mapM_ok h).1
    refine ⟨by rw [fills]; exact hhollows, ?_, fun hargs => hlinked hargs⟩
    rw [adds, ← List.length_eq_zero_iff, hlength]
    simp
  | .group joiner calls =>
    rw [conditions] at h
    obtain ⟨inner, hinner, h⟩ := bind_ok h
    cases h
    have hcalls := hollows_of_conditionsAll hinner
    refine ⟨?_, by simp [adds],
      fun hlinked => ⟨⟨hcalls.linked hlinked, ⟨_, rfl⟩, rfl, rfl⟩, trivial⟩⟩
    show (if inner.isEmpty then 1 else Condition.hollowsAll inner) + 0 = 0 ↔ _
    rw [fills, Bool.and_eq_true, ← hcalls.hollows]
    cases inner with
    | nil => simp [hcalls.nothing.1 rfl]
    | cons c cs =>
      have hadds : calls.any (·.adds ctx.adapter) = true := by
        rw [← Bool.not_eq_false, ← hcalls.nothing]
        exact List.cons_ne_nil c cs
      simp [hadds]
  | .rowsExist s =>
    rw [conditions] at h
    obtain ⟨q, -, h⟩ := bind_ok h
    obtain ⟨c, hc, h⟩ := bind_ok h
    cases h
    obtain ⟨hhollows, hlinked⟩ := condition_hollows hc
    refine ⟨?_, by simp [adds], fun _ => ⟨hlinked trivial, trivial⟩⟩
    rw [Condition.hollowsAll, hhollows]
    exact iff_of_true rfl rfl

theorem hollows_of_conditionsAll {calls : List JoinCall} {cs : List Condition}
    (h : conditionsAll ctx .criteria calls = .ok cs) :
    Comes ctx cs (fillsAll ctx.adapter calls) (calls.any (·.adds ctx.adapter))
      (LinkedAll ctx.adapter calls) := by
  match calls with
  | [] =>
    cases h
    exact ⟨iff_of_true rfl rfl, iff_of_true rfl rfl, fun _ => trivial⟩
  | call :: calls =>
    rw [conditionsAll] at h
    obtain ⟨first, hfirst, h⟩ := bind_ok h
    obtain ⟨rest, hrest, h⟩ := bind_ok h
    cases h
    have hcall := hollows_of_conditions hfirst
    have hcalls := hollows_of_conditionsAll hrest
    refine ⟨?_, ?_, fun hlinked => ?_⟩
    · rw [Condition.hollowsAll_append, Nat.add_eq_zero_iff, hcall.hollows, hcalls.hollows, fillsAll,
        Bool.and_eq_true]
    · rw [List.append_eq_nil_iff, hcall.nothing, hcalls.nothing,
        List.any_cons, Bool.or_eq_false_iff]
    · rw [Condition.linkedAll_iff, List.forall_mem_append, ← Condition.linkedAll_iff,
        ← Condition.linkedAll_iff]
      exact ⟨hcall.linked hlinked.1, hcalls.linked hlinked.2⟩

end

end JoinCall

end

/-! ## Calls with callbacks -/

/-- A method that makes a group of what a callback adds. -/
inductive GroupMethod where
  | filter (joiner : Joiner)
  | having
  | orHaving

namespace GroupMethod

/-- The method of a builder. -/
def method : GroupMethod → ConditionMethod
  | filter joiner => .compare joiner
  | having => .having
  | orHaving => .orHaving

/-- What joins the group to the conditions before it. -/
def words : GroupMethod → String
  | filter joiner => joiner.words
  | having => "AND"
  | orHaving => "OR"

/-- The list that the group goes to, on a query. -/
def list : GroupMethod → ConditionList
  | filter _ => .wheres
  | having | orHaving => .havings

/-- The operation writes the group. -/
def isRead (op : Operation) (m : GroupMethod) : Bool := m.list = .wheres || op = .select

end GroupMethod

/-- A call with a callback that makes calls on the builder of a group. -/
structure GroupCall where
  method : GroupMethod
  calls : List JoinCall

namespace GroupCall

/-- Makes the call on a builder. -/
def perform (g : GroupCall) (b : Nat) : Action Unit :=
  JoinCall.invoke b (.condition g.method.method) [.callback 0 (JoinCall.performAll g.calls)]

/-- Makes calls on a builder, one after another. -/
def performAll : List GroupCall → Nat → Action Unit
  | [], _ => pure ()
  | g :: gs, b => do
    g.perform b
    performAll gs b

/-- The group of conditions. -/
def condition (g : GroupCall) (inner : List Condition) : Condition :=
  .plain (.group inner) .null .null (.text g.method.words)

end GroupCall

theorem having_eq (b : Nat) (f : Nat → Action Unit) (joiner : Value) :
    Builder.having b (.callback 0 f) none none joiner = (do
      let inner ← collected b .criteria f
      addCondition b .havings (.plain (.group inner) .null .null joiner)) := by
  unfold Builder.having Builder.condition
  simp only [operands, bind_assoc, pure_bind]

/-! ## What stands in the statements -/

/-- What is left of a list in which an entry may be replaced. -/
theorem sublist_of_replaced {overwrite : Bool} {test : Condition → Option Bool}
    {cs old : List Condition} (h : Statements.replaced? overwrite test cs = some old) :
    old.Sublist cs ∧ (overwrite = false → old = cs) := by
  cases overwrite with
  | false =>
    cases h
    exact ⟨.refl _, fun _ => rfl⟩
  | true =>
    refine ⟨?_, Bool.noConfusion⟩
    have herased : eraseFirst? test cs = some old := h
    clear h
    induction cs generalizing old with
    | nil =>
      cases herased
      exact .refl _
    | cons c cs ih =>
      obtain ⟨found, -, h⟩ := Option.bind_eq_some_iff.1 herased
      cases found with
      | true =>
        cases h
        exact List.sublist_cons_self c cs
      | false =>
        obtain ⟨rest, hrest, rfl⟩ := Option.map_eq_some_iff.1 h
        exact (ih hrest).cons_cons c

theorem Condition.hollowsAll_sublist {cs ds : List Condition} (h : cs.Sublist ds) :
    hollowsAll cs ≤ hollowsAll ds := by
  induction h with
  | slnil => exact Nat.le_refl _
  | cons c _ ih =>
    rw [hollowsAll]
    omega
  | cons_cons c _ ih =>
    rw [hollowsAll, hollowsAll]
    omega

/-- A group that is added to the conditions of statements. -/
theorem GroupCall.hollows_added {g : GroupCall} {inner : List Condition} {st st' : Statements}
    {overwrite : Bool}
    (h : st.addCondition? g.method.list overwrite (g.condition inner) = some st') (op : Operation) :
    (st.hollowsIn op = 0 → (g.method.isRead op = true → (g.condition inner).hollows = 0) →
      st'.hollowsIn op = 0) ∧
    (overwrite = false → st'.hollowsIn op = 0 →
      st.hollowsIn op = 0 ∧ (g.method.isRead op = true → (g.condition inner).hollows = 0)) := by
  obtain ⟨old, hold, h⟩ := Option.bind_eq_some_iff.1 h
  cases h
  obtain ⟨hsublist, hkept⟩ := sublist_of_replaced hold
  have hfewer := Condition.hollowsAll_sublist hsublist
  have hsame : overwrite = false →
      Condition.hollowsAll old = Condition.hollowsAll ((st.conditions g.method.list).getD []) :=
    fun hoverwrite => by rw [hkept hoverwrite]
  have hadded : Condition.hollowsAll (old ++ [g.condition inner]) =
      Condition.hollowsAll old + (g.condition inner).hollows := by
    rw [Condition.hollowsAll_append]
    rfl
  generalize (g.condition inner).hollows = k at hadded ⊢
  generalize old ++ [g.condition inner] = cs at hadded ⊢
  have hcount : (st.setConditions g.method.list cs).hollowsIn op +
      (if g.method.isRead op then
        Condition.hollowsAll ((st.conditions g.method.list).getD []) else 0) =
      st.hollowsIn op + if g.method.isRead op then Condition.hollowsAll old + k else 0 := by
    rw [Statements.hollowsIn_eq, Statements.hollowsIn_eq]
    cases g.method with
    | filter joiner =>
      simp only [GroupMethod.list, GroupMethod.isRead, Statements.setConditions,
        Statements.conditions, Option.getD_some, hadded, decide_true, Bool.true_or, if_true]
      omega
    | having | orHaving =>
      by_cases hop : op = .select
      · simp only [GroupMethod.list, GroupMethod.isRead, Statements.setConditions,
          Statements.conditions, Option.getD_some, hadded, hop, decide_true, Bool.or_true, if_true]
        omega
      · simp [GroupMethod.list, GroupMethod.isRead, Statements.setConditions, hop]
  cases hread : g.method.isRead op with
  | true =>
    simp only [hread, if_true, true_imp_iff] at hcount ⊢
    refine ⟨fun hst hk => by omega, fun hoverwrite hst' => ?_⟩
    have := hsame hoverwrite
    omega
  | false =>
    simp only [hread, Bool.false_eq_true, if_false, false_imp_iff,
      and_true, true_imp_iff] at hcount ⊢
    omega

theorem GroupCall.linked_added {g : GroupCall} {inner : List Condition} {st st' : Statements}
    {overwrite : Bool} (hst : st.Linked) (hinner : Condition.LinkedAll inner)
    (h : st.addCondition? g.method.list overwrite (g.condition inner) = some st') : st'.Linked := by
  obtain ⟨old, hold, h⟩ := Option.bind_eq_some_iff.1 h
  cases h
  obtain ⟨hsublist, -⟩ := sublist_of_replaced hold
  obtain ⟨hwheres, hhavings, hunions⟩ := Statements.linked_iff.1 hst
  have hcondition : (g.condition inner).Linked := ⟨hinner, ⟨_, rfl⟩, rfl, rfl⟩
  have hadded {cs : List Condition} (hcs : Condition.LinkedAll cs) (hold : old.Sublist cs) :
      Condition.LinkedAll (old ++ [g.condition inner]) := by
    rw [Condition.linkedAll_iff] at hcs ⊢
    simp only [List.mem_append, List.mem_singleton]
    rintro c (hc | rfl)
    · exact hcs c (hold.subset hc)
    · exact hcondition
  rw [Statements.linked_iff]
  cases hmethod : g.method with
  | filter joiner =>
    rw [hmethod] at hsublist
    exact ⟨hadded hwheres hsublist, hhavings, hunions⟩
  | having | orHaving =>
    rw [hmethod] at hsublist
    exact ⟨hwheres, hadded hhavings hsublist, hunions⟩

/-! ## Running -/

/-- The builders that were there are there, and there are statements where there were some. -/
structure Remains (s s' : Session) : Prop where
  builders : ∀ (b : Nat) (x : Builder), s.builders[b]? = some x → s'.builders[b]? = some x
  records : ∀ (n : Nat) (st : Statements), s.records[n]? = some st →
    ∃ st', s'.records[n]? = some st'

namespace Remains

variable {s s' : Session}

theorem known (h : Remains s s') {v : Value} (hv : s.Known v) : s'.Known v := by
  intro id kind hid
  obtain ⟨x, st, hx, hst⟩ := hv id kind hid
  obtain ⟨st', hst'⟩ := h.records _ st hst
  exact ⟨x, st', h.builders id x hx, hst'⟩

mutual

theorem knownCall (h : Remains s s') {call : JoinCall} (hcall : call.Known s) : call.Known s' := by
  match call with
  | .on .. | .orOn .. | .shared .. | .rowsExist .. => trivial
  | .condition m hwhere args => exact fun v hv => h.known (hcall v hv)
  | .group joiner calls => exact knownCalls h hcall

theorem knownCalls (h : Remains s s') {calls : List JoinCall}
    (hcalls : JoinCall.KnownAll s calls) : JoinCall.KnownAll s' calls := by
  match calls with
  | [] => trivial
  | call :: calls => exact ⟨knownCall h hcalls.1, knownCalls h hcalls.2⟩

end

end Remains

section

variable {r : Reaction} {s s' : Session} {b c : Nat} {x : Builder} {conn : Connection}
  {st : Statements}

/-- A condition that could be added stands in the statements, and nothing else has changed. -/
theorem addCondition_runs (h : Standing b x c conn st s) {list : ConditionList} {cond : Condition}
    (hrun : runIn r (addCondition b list cond) s = (.ok (), s')) :
    ∃ st', st.addCondition? list x.overwrite.isTrue cond = some st' ∧
      Standing b x c conn st' s' ∧ Remains s s' := by
  rw [addCondition, runIn_bind_ok (runIn_overwrites h.builder)] at hrun
  cases hadded : st.addCondition? list x.overwrite.isTrue cond with
  | none =>
    rw [runIn_tryEdit_none h.builder h.statements hadded] at hrun
    cases hrun
  | some st' =>
    rw [runIn_tryEdit_some h.builder h.statements hadded] at hrun
    cases hrun
    have hrecord (n : Nat) : (s.records.modify x.record fun _ => st')[n]? =
        if x.record = n then s.records[n]?.map fun _ => st' else s.records[n]? :=
      Array.getElem?_modify
    refine ⟨st', rfl, h.edited fun _ => st', fun _ _ hx => hx, fun n st₀ hst₀ => ?_⟩
    by_cases hn : x.record = n
    · exact ⟨st', by rw [hrecord, if_pos hn, hst₀]; rfl⟩
    · exact ⟨st₀, by rw [hrecord, if_neg hn, hst₀]⟩

/-- A call with a callback that succeeds adds the group of what the calls of the callback come
to. -/
theorem GroupCall.perform_ok {g : GroupCall} (hkind : conditionList x.kind = .wheres)
    (h : Standing b x c conn st s) (hknown : JoinCall.KnownAll s g.calls)
    (hrun : runIn r (g.perform b) s = (.ok (), s')) :
    ∃ inner st', JoinCall.conditionsAll (s.context conn) .criteria g.calls = .ok inner ∧
      st.addCondition? g.method.list x.overwrite.isTrue (g.condition inner) = some st' ∧
      Standing b x c conn st' s' ∧ Remains s s' := by
  have hfollows : Follows (Grown s) (collected b .criteria (JoinCall.performAll g.calls))
      (JoinCall.conditionsAll (s.context conn) .criteria g.calls)
      fun ds ds' s₁ => ds = ds' ∧ Grown s s₁ :=
    collected_follows h.connection (fun s₁ hs => ⟨hs, (h.grow hs).opened⟩)
      (fun _ _ hs hs' => hs.trans hs')
      fun hcall => JoinCall.performAll_follows hcall rfl hknown
  have hcollected := hfollows r s (.refl s)
  have hparts : ∃ k : List Condition → Action Unit,
      g.perform b = (do k (← collected b .criteria (JoinCall.performAll g.calls))) ∧
      ∀ inner s₁, Grown s s₁ →
        runIn r (k inner) s₁ = runIn r (addCondition b g.method.list (g.condition inner)) s₁ := by
    obtain ⟨method, calls⟩ := g
    cases method with
    | filter joiner =>
      refine ⟨_, (invoke_eq rfl rfl).trans (group_eq _ joiner), fun inner s₁ hs => ?_⟩
      rw [runIn_bind_ok (runIn_builder (h.grow hs).builder), hkind]
      rfl
    | having => exact ⟨_, (invoke_eq rfl rfl).trans (having_eq b _ _), fun _ _ _ => rfl⟩
    | orHaving => exact ⟨_, (invoke_eq rfl rfl).trans (having_eq b _ _), fun _ _ _ => rfl⟩
  obtain ⟨k, hperform, hk⟩ := hparts
  rw [hperform, runIn_bind] at hrun
  generalize runIn r (collected b .criteria (JoinCall.performAll g.calls)) s = p
    at hrun hcollected
  obtain ⟨_ | inner, s₁⟩ := p
  · cases hrun
  · obtain ⟨_, hinner, rfl, hgrown⟩ := hcollected.exists_ok
    dsimp only at hrun
    rw [hk inner s₁ hgrown] at hrun
    obtain ⟨st', hadded, hstanding, hremains⟩ := addCondition_runs (h.grow hgrown) hrun
    refine ⟨inner, st', hinner, hadded, hstanding, fun b x hx => ?_, fun n st hst => ?_⟩
    · exact hremains.builders b x (hgrown.builders b x hx)
    · exact hremains.records n st (hgrown.records n st hst)

/-- The callback of the call adds a condition, and so do those of the calls it makes. -/
def GroupCall.fills (a : Adapter) (g : GroupCall) : Bool := (JoinCall.group .and g.calls).fills a

theorem GroupCall.hollows_condition {ctx : Context} {g : GroupCall} {inner : List Condition}
    (h : JoinCall.conditionsAll ctx .criteria g.calls = .ok inner) :
    (g.condition inner).hollows = 0 ↔ g.fills ctx.adapter = true := by
  have hgroup : (JoinCall.group .and g.calls).conditions ctx .criteria =
      .ok [.plain (.group inner) .null .null (.text Joiner.and.words)] := by
    rw [JoinCall.conditions, h]
    rfl
  exact (JoinCall.hollows_of_conditions hgroup).hollows

/-- Calls with callbacks that all succeed leave no group without conditions if each callback adds a
condition, and only then unless the builder overwrites, and an earlier group may be replaced. -/
theorem GroupCall.performAll_ok {gs : List GroupCall} (hkind : conditionList x.kind = .wheres)
    (h : Standing b x c conn st s) (hst : st.Linked)
    (hknown : ∀ g ∈ gs, JoinCall.KnownAll s g.calls)
    (hlinked : ∀ g ∈ gs, JoinCall.LinkedAll conn.adapter g.calls)
    (hrun : runIn r (GroupCall.performAll gs b) s = (.ok (), s')) (op : Operation) :
    ∃ st', Standing b x c conn st' s' ∧ st'.Linked ∧
      (st.hollowsIn op = 0 →
        (∀ g ∈ gs, g.method.isRead op = true → g.fills conn.adapter = true) →
        st'.hollowsIn op = 0) ∧
      (x.overwrite.isTrue = false → st'.hollowsIn op = 0 → st.hollowsIn op = 0 ∧
        ∀ g ∈ gs, g.method.isRead op = true → g.fills conn.adapter = true) := by
  induction gs generalizing s st with
  | nil =>
    cases hrun
    exact ⟨st, h, hst, fun hnone _ => hnone, fun _ hnone => ⟨hnone, by simp⟩⟩
  | cons g gs ih =>
    rw [List.forall_mem_cons] at hknown hlinked
    rw [GroupCall.performAll, runIn_bind] at hrun
    generalize hfirst : runIn r (g.perform b) s = p at hrun
    obtain ⟨_ | ⟨⟨⟩⟩, s₁⟩ := p
    · cases hrun
    · obtain ⟨inner, st₁, hinner, hadded, hstanding, hremains⟩ :=
        GroupCall.perform_ok hkind h hknown.1 hfirst
      have hcomes := JoinCall.hollows_of_conditionsAll hinner
      have hst₁ := GroupCall.linked_added hst (hcomes.linked hlinked.1) hadded
      obtain ⟨st', hstanding', hst', hfull, honly⟩ := ih hstanding hst₁
        (fun g hg => hremains.knownCalls (hknown.2 g hg)) hlinked.2 hrun
      obtain ⟨hfull₁, honly₁⟩ := GroupCall.hollows_added hadded op
      rw [GroupCall.hollows_condition hinner] at hfull₁ honly₁
      refine ⟨st', hstanding', hst', fun hnone hfills => ?_, fun hoverwrite hnone => ?_⟩
      · rw [List.forall_mem_cons] at hfills
        exact hfull (hfull₁ hnone hfills.1) hfills.2
      · obtain ⟨hnone₁, hrest⟩ := honly hoverwrite hnone
        obtain ⟨hnone₀, hfirst⟩ := honly₁ hoverwrite hnone₁
        exact ⟨hnone₀, List.forall_mem_cons.2 ⟨hfirst, hrest⟩⟩

/-! ## Queries -/

/-- Calls of `where`, `or_where`, `where_not`, `or_where_not`, `having` and `or_having` with
callbacks on a builder that has no group without conditions so far. The query comes to what is
written without the groups that come to nothing, or fails as it: the bindings are in any case the
same, and so is the text if each callback, and each callback in it, adds a condition; else it is
not, unless the builder overwrites, and what comes to nothing may have been replaced. -/
theorem compileAs_grouped {op : Operation} (hop : op = .select ∨ op = .update ∨ op = .delete)
    {gs : List GroupCall} (hkind : conditionList x.kind = .wheres)
    (h : Standing b x c conn st s) (hst : st.Linked) (hnone : st.hollowsIn op = 0)
    (hknown : ∀ g ∈ gs, JoinCall.KnownAll s g.calls)
    (hlinked : ∀ g ∈ gs, JoinCall.LinkedAll conn.adapter g.calls)
    (hrun : runIn r (GroupCall.performAll gs b) s = (.ok (), s')) (payload : List Value) :
    ∃ st', s'.records[x.record]? = some st' ∧ st'.pruned.hollowsIn op = 0 ∧
      Agree (fun q q' => q.bindings = q'.bindings ∧
          ((∀ g ∈ gs, g.method.isRead op = true → g.fills conn.adapter = true) → q.sql = q'.sql) ∧
          (x.overwrite.isTrue = false → q.sql = q'.sql →
            ∀ g ∈ gs, g.method.isRead op = true → g.fills conn.adapter = true))
        (runIn r (compileAs b (.ok op) payload) s').1
        (conn.adapter.compile op st'.pruned payload) := by
  obtain ⟨st', hstanding, hst', hfull, honly⟩ :=
    GroupCall.performAll_ok hkind h hst hknown hlinked hrun op
  obtain ⟨journal, hcompiled⟩ := runIn_compileAs (r := r) hstanding.opened hstanding.builder
    hstanding.statements op payload
  refine ⟨st', hstanding.statements, st'.hollowsIn_pruned op, ?_⟩
  rw [hcompiled]
  refine (conn.adapter.compile_pruned hop hst' payload).mono ?_
  rintro q q' ⟨hbindings, hsql⟩
  exact ⟨hbindings, fun hfills => hsql.2 (hfull hnone hfills),
    fun hoverwrite hsame => (honly hoverwrite (hsql.1 hsame)).2⟩

end

/-- A callback that adds nothing. -/
def GroupCall.hollow : GroupCall := ⟨.filter .and, []⟩

/-- The text is not what is written without the group. -/
theorem compileAs_grouped_of_hollow :
    let s := Session.selecting (.text "t")
    let x : Builder := { connection := some 0, record := 0 }
    let run := runIn (fun _ _ => pure ()) (GroupCall.performAll [.hollow] 0) s
    let query := (runIn (fun _ _ => pure ()) (compileAs 0 (.ok .select) []) run.2).1
    ∃ conn st st', Standing 0 x 0 conn st s ∧ st.Linked ∧ st.hollowsIn .select = 0 ∧
      run = (.ok (), run.2) ∧ GroupCall.hollow.fills conn.adapter = false ∧
      run.2.records[0]? = some st' ∧
      ∃ q q', query = .ok q ∧ conn.adapter.compile .select st'.pruned [] = .ok q' ∧
        q.bindings = q'.bindings ∧ q.sql ≠ q'.sql := by
  intro s x run query
  have hstanding : Standing 0 x 0 _ { tables := .list [.text "t"] } s := ⟨rfl, rfl, rfl, rfl⟩
  have hlinked : Statements.Linked { tables := .list [.text "t"] } := ⟨trivial, trivial, trivial⟩
  have hok : run.1.isOk = true := by decide +kernel
  have hrun : run = (.ok (), run.2) := by
    obtain ⟨y, s'⟩ := run
    cases y with
    | ok => rfl
    | error f => cases hok
  have hknown : ∀ g ∈ [GroupCall.hollow], JoinCall.KnownAll s g.calls := by
    simp [GroupCall.hollow, JoinCall.KnownAll]
  obtain ⟨st', hst', -, hagree⟩ := compileAs_grouped (.inl rfl) rfl hstanding hlinked rfl hknown
    (by simp [GroupCall.hollow, JoinCall.LinkedAll]) hrun []
  have hqueried : query.isOk = true := by decide +kernel
  obtain ⟨q, hq⟩ : ∃ q, query = .ok q := by
    cases hquery : query with
    | ok q => exact ⟨q, rfl⟩
    | error fault =>
      rw [hquery] at hqueried
      cases hqueried
  change Agree _ query _ at hagree
  rw [hq] at hagree
  obtain ⟨q', hq', hbindings, -, honly⟩ := hagree.exists_ok
  refine ⟨_, _, st', hstanding, hlinked, rfl, hrun, rfl, hst', q, q', hq, hq', hbindings,
    fun hsame => ?_⟩
  have hfills := honly rfl hsame .hollow List.mem_cons_self rfl
  cases hfills

example : (Adapter.compile ⟨.mysql, false⟩ .select
    { tables := .list [.text "t"],
      wheres := some [GroupCall.hollow.condition []] } []).map (·.sql) =
      .ok (.text "SELECT * FROM t WHERE ()") := by cbv

end SqlBuilder
