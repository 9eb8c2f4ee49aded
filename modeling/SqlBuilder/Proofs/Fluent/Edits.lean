import SqlBuilder.Proofs.Fluent.Given
import SqlBuilder.Statements.Edit

/-!
# Aligned statements

The statements of a builder are aligned (`Statements.Aligned`) if whatever they select is written
with a value for each placeholder. Those of the builder of a join have conditions that are so as
well where scalars are names. Each edit keeps statements aligned, given aligned parts; of lists of
conditions, joins and members of unions all that matters is their entries.
-/

set_option autoImplicit false

namespace SqlBuilder

open Value Placeholder

/-- A member of a union that is written with a value for each placeholder. -/
structure UnionEntry.Aligned (e : UnionEntry) : Prop where
  clauses : ClausesSound Any Any e.statements
  members : MembersSound Any Any (e.statements.unions.getD [])
  lost : e.statements.lostInSelect = 0
  type : e.type.Plain

namespace Statements

/-- Statements of a kind of builder of which everything is written with a value for each
placeholder. -/
structure Aligned (kind : BuilderKind) (s : Statements) : Prop where
  clauses : ClausesSound Any Any s
  criteria : ConditionsSound Any Any true (s.criteria.getD [])
  named : kind = .join → ConditionsSound Any Any false (s.criteria.getD [])
  bare : ∀ join ∈ s.joins.getD [], join.lost = 0
  members : ∀ e ∈ s.unions.getD [], e.Aligned

end Statements

/-- A query that is written with a value for each placeholder. -/
def CompiledQuery.Aligned (q : CompiledQuery) : Prop :=
  ∃ f : Fragment, f.Lacks Any 0 ∧ q.sql = .text f.sql ∧ q.bindings = .positional f.bindings

/-- Between texts that close their quotes and have no placeholder. -/
theorem CompiledQuery.Aligned.between {q : CompiledQuery} (h : q.Aligned) {before after : String}
    (hbefore : Quiet before) (hafter : Quiet after) :
    (⟨before ++ q.sql.toText ++ after, q.rawBindings⟩ : Fragment).Lacks Any 0 := by
  obtain ⟨f, hf, hsql, hbindings⟩ := h
  have hall := ((Fragment.lacks_ofText (Q := Any) hbefore).append hf).append
    (Fragment.lacks_ofText hafter)
  rw [CompiledQuery.rawBindings, hsql, hbindings]
  dsimp only [toText]
  exact congrArg (Fragment.mk _) (List.append_nil f.bindings) ▸ hall

/-- A condition that is written with a value for each placeholder. If its scalars are names, it is
so whether scalars are bound or not. -/
def Condition.Aligned (bound : Bool) (cond : Condition) : Prop :=
  ∀ bindValues, (bindValues = false → bound = false) → ConditionsSound Any Any bindValues [cond]

/-! ## Entries -/

theorem conditionsSound_append {P Q : Value → Prop} {bindValues : Bool} {cs ds : List Condition}
    (h : ConditionsSound P Q bindValues cs) (hds : ConditionsSound P Q bindValues ds) :
    ConditionsSound P Q bindValues (cs ++ ds) := by
  induction h with
  | nil => exact hds
  | columns hjoiner hleading hne h _ ih => exact .columns hjoiner hleading hne h (ih hds)
  | group hjoiner hleading inner _ _ ih => exact .group hjoiner hleading inner (ih hds)
  | comparison hjoiner hleading hgroup hkey hop h _ ih =>
    exact .comparison hjoiner hleading hgroup hkey hop h (ih hds)

theorem conditionsSound_iff {P Q : Value → Prop} {bindValues : Bool} {cs : List Condition} :
    ConditionsSound P Q bindValues cs ↔ ∀ c ∈ cs, ConditionsSound P Q bindValues [c] := by
  constructor
  · intro h
    induction h with
    | nil => simp
    | columns hjoiner hleading hne h _ ih =>
      exact List.forall_mem_cons.2 ⟨.columns hjoiner hleading hne h .nil, ih⟩
    | group hjoiner hleading inner _ _ ih =>
      exact List.forall_mem_cons.2 ⟨.group hjoiner hleading inner .nil, ih⟩
    | comparison hjoiner hleading hgroup hkey hop h _ ih =>
      exact List.forall_mem_cons.2 ⟨.comparison hjoiner hleading hgroup hkey hop h .nil, ih⟩
  · intro h
    induction cs with
    | nil => exact .nil
    | cons c cs ih =>
      obtain ⟨hc, hcs⟩ := List.forall_mem_cons.1 h
      exact conditionsSound_append hc (ih hcs)

theorem membersSound_of_aligned {entries : List UnionEntry} (h : ∀ e ∈ entries, e.Aligned) :
    MembersSound Any Any entries ∧ Statements.lostInMembers entries = 0 := by
  induction entries with
  | nil =>
    refine ⟨.nil, ?_⟩
    rw [Statements.lostInMembers]
  | cons e entries ih =>
    obtain ⟨st, type, identity⟩ := e
    obtain ⟨⟨hclauses, hmembers, hlost, htype⟩, hrest⟩ := List.forall_mem_cons.1 h
    obtain ⟨hsound, hzero⟩ := ih hrest
    refine ⟨.cons hclauses hmembers htype hsound, ?_⟩
    rw [Statements.lostInMembers]
    exact Nat.add_eq_zero_iff.2 ⟨hlost, hzero⟩

theorem mem_of_eraseFirst? {α : Type} {test : α → Option Bool} {xs ys : List α}
    (h : eraseFirst? test xs = some ys) : ∀ y ∈ ys, y ∈ xs := by
  induction xs generalizing ys with
  | nil =>
    cases h
    simp
  | cons x xs ih =>
    obtain ⟨found, -, h⟩ := Option.bind_eq_some_iff.1 h
    split at h
    · cases h
      exact fun y hy => List.mem_cons_of_mem x hy
    · obtain ⟨zs, hzs, rfl⟩ := Option.map_eq_some_iff.1 h
      intro y hy
      rcases List.mem_cons.1 hy with rfl | hy
      · exact List.mem_cons_self
      · exact List.mem_cons_of_mem x (ih hzs y hy)

theorem mem_of_replaced? {α : Type} {overwrite : Bool} {test : α → Option Bool} {xs ys : List α}
    (h : Statements.replaced? overwrite test xs = some ys) : ∀ y ∈ ys, y ∈ xs := by
  unfold Statements.replaced? at h
  split at h
  · exact mem_of_eraseFirst? h
  · cases h
    exact fun _ hy => hy

theorem mem_insert {entries : List (Value × Value)} {key v : Value} {e : Value × Value}
    (h : e ∈ Value.insert entries key v) : e ∈ entries ∨ e.2 = v := by
  induction entries with
  | nil =>
    rw [Value.insert, List.mem_singleton] at h
    exact .inr (h ▸ rfl)
  | cons first rest ih =>
    obtain ⟨k, w⟩ := first
    rw [Value.insert] at h
    split at h
    · rcases List.mem_cons.1 h with rfl | h
      · exact .inr rfl
      · exact .inl (List.mem_cons_of_mem _ h)
    · rcases List.mem_cons.1 h with rfl | h
      · exact .inl List.mem_cons_self
      · exact (ih h).imp (List.mem_cons_of_mem _) id

namespace Statements

theorem aligned_empty (kind : BuilderKind) : Aligned kind .empty where
  clauses := {
    selects := .null
    distincts := .null
    tables := .null
    aliases := .null
    wheres := .nil
    havings := .nil
    joins := fun _ h => by cases h
    groupBys := .list fun _ h => by cases h
    orderBys := fun _ h => by cases h
    limit := .inl rfl
    offset := .inl rfl
    lock := ⟨rfl, by decide⟩
    onDuplicate := fun _ h => by cases h }
  criteria := .nil
  named _ := .nil
  bare _ h := by cases h
  members _ h := by cases h

theorem listSound_extended {sound : Value → Prop} {clause v : Value} {items : List Value}
    (hclause : clause.ListSound sound) (hitems : ∀ v ∈ items, sound v)
    (hv : clause.extended items = .ok v) : v.ListSound sound := by
  cases hclause with
  | list hclause =>
    cases hv
    exact .list fun v hv => (List.mem_append.1 hv).elim (hclause v) (hitems v)
  | null | tuple => cases hv

theorem listSound_selection {sound : Value → Prop} {overwrite : Bool} {old v : Value}
    {items : List Value} (hold : old.ListSound sound) (hitems : ∀ v ∈ items, sound v)
    (hv : Statements.selection overwrite old items = .ok v) : v.ListSound sound := by
  unfold Statements.selection at hv
  split at hv
  · cases hv
    exact .list hitems
  · exact listSound_extended hold hitems hv

theorem listSound_toItems {sound : Value → Prop} {clause : Value} {items : List Value}
    (hclause : clause.ListSound sound) (h : clause.toItems = .ok items) :
    ∀ v ∈ items, sound v := by
  cases hclause with
  | null => cases h
  | list hclause | tuple hclause =>
    cases h
    exact hclause

/-- Only the conditions themselves are written with the conditions of a group or a join. -/
theorem fragment_criteria {a : Adapter} {op : Operation} (hop : op ≠ .criteria) (s : Statements)
    (payload : List Value) :
    a.fragment op { s with criteria := none } payload = a.fragment op s payload := by
  cases op with
  | criteria => exact absurd rfl hop
  | select =>
    cases payload with
    | nil =>
      cases s
      simp only [Adapter.fragment, Adapter.select]
      rfl
    | cons => rfl
  | _ => rcases payload with _ | ⟨_, _ | ⟨_, _⟩⟩ <;> rfl

namespace Aligned

variable {kind : BuilderKind} {s : Statements} (h : s.Aligned kind)
include h

theorem lostInJoins : Statements.lostInJoins s.joins = 0 := by
  unfold Statements.lostInJoins
  refine List.sum_eq_zero_iff_forall_eq_nat.2 fun n hn => ?_
  obtain ⟨join, hjoin, rfl⟩ := List.mem_map.1 hn
  exact h.bare join hjoin

theorem lostInSelect : s.lostInSelect = 0 := by
  rw [lostInSelect_eq, h.lostInJoins, (membersSound_of_aligned h.members).2]

/-! ## Edits -/

theorem addTables {tables : List Value} (htables : ∀ v ∈ tables, v.NameSound Any)
    {s' : Statements} (hs : s.addTables tables = .ok s') : s'.Aligned kind := by
  obtain ⟨v, hv, hs⟩ := bind_ok hs
  cases hs
  exact { h with
    clauses := { h.clauses with tables := listSound_selection h.clauses.tables htables hv } }

theorem clearTables : s.clearTables.Aligned kind :=
  { h with clauses := { h.clauses with tables := .null } }

theorem openAliases : s.openAliases.Aligned kind := by
  unfold Statements.openAliases
  split
  · exact { h with clauses := { h.clauses with aliases := .map fun _ h => by cases h } }
  · exact h

theorem addAlias {table name : Value} (hname : name.LabelGiven) {s' : Statements}
    (hs : s.addAlias table name = .ok s') : s'.Aligned kind := by
  obtain ⟨v, hv, hs⟩ := bind_ok hs
  cases hs
  have haliases : v.AliasesSound := by
    have hold := h.clauses.aliases
    revert hold hv
    generalize s.aliases = aliases
    intro hv hold
    cases hold with
    | null => cases hv
    | @map entries hentries =>
      unfold Value.assigned at hv
      dsimp only at hv
      split at hv
      · cases hv
        refine .map fun e he => ?_
        rcases mem_insert he with he | heq
        · exact hentries e he
        · cases hname with
          | text hquiet => exact ⟨_, heq, hquiet⟩
      · cases hv
  exact { h with clauses := { h.clauses with aliases := haliases } }

theorem addSelects {overwrite : Bool} {items : List Value} (hitems : ∀ v ∈ items, v.ItemSound Any)
    {s' : Statements} (hs : s.addSelects overwrite items = .ok s') : s'.Aligned kind := by
  obtain ⟨v, hv, hs⟩ := bind_ok hs
  cases hs
  exact { h with
    clauses := { h.clauses with selects := listSound_selection h.clauses.selects hitems hv } }

theorem addDistincts {overwrite : Bool} {items : List Value}
    (hitems : ∀ v ∈ items, v.ItemSound Any) {s' : Statements}
    (hs : s.addDistincts overwrite items = .ok s') : s'.Aligned kind := by
  obtain ⟨v, hv, hs⟩ := bind_ok hs
  cases hs
  exact { h with
    clauses := { h.clauses with distincts := listSound_selection h.clauses.distincts hitems hv } }

theorem conditions (list : ConditionList) :
    ConditionsSound Any Any true ((s.conditions list).getD []) := by
  cases list with
  | wheres => exact h.clauses.wheres
  | havings => exact h.clauses.havings
  | criteria => exact h.criteria

theorem setConditions {list : ConditionList} {cs : List Condition}
    (hcs : ConditionsSound Any Any true cs)
    (hnamed : kind = .join → list = .criteria → ConditionsSound Any Any false cs) :
    (s.setConditions list cs).Aligned kind := by
  cases list with
  | wheres => exact { h with clauses := { h.clauses with wheres := hcs } }
  | havings => exact { h with clauses := { h.clauses with havings := hcs } }
  | criteria =>
    exact { h with
      clauses := { h.clauses with }, criteria := hcs, named := fun hkind => hnamed hkind rfl }

theorem addCondition? {list : ConditionList} {overwrite : Bool} {c : Condition}
    (hc : ConditionsSound Any Any true [c])
    (hnamed : kind = .join → list = .criteria → ConditionsSound Any Any false [c])
    {s' : Statements} (hs : s.addCondition? list overwrite c = some s') : s'.Aligned kind := by
  obtain ⟨old, hold, hs⟩ := Option.bind_eq_some_iff.1 hs
  cases hs
  have hmem := mem_of_replaced? hold
  refine h.setConditions ?_ fun hkind hlist => ?_
  · have hconditions := conditionsSound_iff.1 (h.conditions list)
    exact conditionsSound_append (conditionsSound_iff.2 fun d hd => hconditions d (hmem d hd)) hc
  · subst hlist
    have hconditions := conditionsSound_iff.1 (h.named hkind)
    exact conditionsSound_append (conditionsSound_iff.2 fun d hd => hconditions d (hmem d hd))
      (hnamed hkind rfl)

theorem openJoins? {overwrite : Bool} {table : Value} {s' : Statements}
    (hs : s.openJoins? overwrite table = some s') : s'.Aligned kind := by
  obtain ⟨old, hold, hs⟩ := Option.bind_eq_some_iff.1 hs
  cases hs
  have hmem := mem_of_replaced? hold
  exact { h with
    clauses := { h.clauses with joins := fun join hjoin => h.clauses.joins join (hmem join hjoin) }
    bare := fun join hjoin => h.bare join (hmem join hjoin) }

theorem addJoin? {overwrite : Bool} {entry : JoinEntry} (hentry : entry.Sound Any Any)
    (hlost : entry.lost = 0) {s' : Statements} (hs : s.addJoin? overwrite entry = some s') :
    s'.Aligned kind := by
  obtain ⟨t, ht, hs⟩ := Option.bind_eq_some_iff.1 hs
  cases hs
  have h := h.openJoins? ht
  refine { h with
    clauses := { h.clauses with joins := fun join hjoin => ?_ }
    bare := fun join hjoin => ?_ }
  · rcases List.mem_append.1 hjoin with hjoin | hjoin
    · exact h.clauses.joins join hjoin
    · exact List.mem_singleton.1 hjoin ▸ hentry
  · rcases List.mem_append.1 hjoin with hjoin | hjoin
    · exact h.bare join hjoin
    · exact List.mem_singleton.1 hjoin ▸ hlost

theorem addOrder? {overwrite : Bool} {entry : OrderEntry}
    (hentry : entry.field.NameSound Any ∧ entry.direction.Plain) {s' : Statements}
    (hs : s.addOrder? overwrite entry = some s') : s'.Aligned kind := by
  obtain ⟨old, hold, hs⟩ := Option.bind_eq_some_iff.1 hs
  cases hs
  refine { h with clauses := { h.clauses with orderBys := fun e he => ?_ } }
  rcases List.mem_append.1 he with he | he
  · exact h.clauses.orderBys e (mem_of_replaced? hold e he)
  · exact List.mem_singleton.1 he ▸ hentry

theorem openGroups (overwrite : Bool) : (s.openGroups overwrite).Aligned kind := by
  unfold Statements.openGroups
  split
  · exact { h with clauses := { h.clauses with groupBys := .list fun _ h => by cases h } }
  · exact h

theorem addGroups {fields : List Value} (hfields : ∀ v ∈ fields, v.ItemSound Any)
    {s' : Statements} (hs : s.addGroups fields = .ok s') : s'.Aligned kind := by
  obtain ⟨v, hv, hs⟩ := bind_ok hs
  cases hs
  exact { h with
    clauses := { h.clauses with groupBys := listSound_extended h.clauses.groupBys hfields hv } }

theorem limit (n : Int) : Aligned kind { s with limit := .int n } :=
  { h with clauses := { h.clauses with limit := .inr ⟨n, rfl⟩ } }

theorem offset (n : Int) : Aligned kind { s with offset := .int n } :=
  { h with clauses := { h.clauses with offset := .inr ⟨n, rfl⟩ } }

theorem lock {v : Value} (hv : v.Plain) : Aligned kind { s with lock := v } :=
  { h with clauses := { h.clauses with lock := hv } }

theorem onDuplicate {v : Value} (hv : v.DataSound Any Any) :
    Aligned kind { s with onDuplicate := v } :=
  { h with clauses := { h.clauses with onDuplicate := hv } }

theorem copied {s' : Statements} (hs : s.copied = .ok s') : s'.Aligned kind := by
  obtain ⟨groupings, hgroupings, hs⟩ := bind_ok hs
  split at hs
  · cases hs
  · cases hs
    exact { h with
      clauses := { h.clauses with
        groupBys := .list (listSound_toItems h.clauses.groupBys hgroupings) } }

theorem addUnion {kind' : BuilderKind} {other : Statements} (hother : other.Aligned kind')
    {type : Value} (htype : type.Plain) {s' : Statements} (hs : s.addUnion other type = .ok s') :
    s'.Aligned kind := by
  obtain ⟨member, hmember, hs⟩ := bind_ok hs
  have hmember := hother.copied hmember
  cases hunions : s.unions with
  | none =>
    rw [hunions] at hs
    cases hs
  | some members =>
    rw [hunions] at hs
    cases hs
    have hmembers : ∀ e ∈ members, e.Aligned := by
      have := h.members
      rwa [hunions] at this
    refine { h with clauses := { h.clauses with }, members := fun e he => ?_ }
    rcases List.mem_append.1 he with he | he
    · rcases List.mem_append.1 he with he | he
      · exact hmembers e he
      · exact hmember.members e he
    · rw [List.mem_singleton.1 he]
      refine ⟨{ hmember.clauses with }, .nil, ?_, htype⟩
      show Statements.lostInSelect { member with unions := some [] } = 0
      rw [lostInSelect_eq]
      exact Nat.add_eq_zero_iff.2 ⟨hmember.lostInJoins, by rw [Option.getD_some, lostInMembers]⟩

/-! ## Compiling -/

/-- What aligned statements are written as has a value for each placeholder. A statement that writes
does so if its table leaves no values behind. -/
theorem compiled {a : Adapter} {op : Operation} {payload : List Value} (hop : op ≠ .criteria)
    (hpayload : PayloadSound Any Any op payload) (htarget : op = .select ∨ s.lostInTarget = 0)
    {q : CompiledQuery} (hq : a.compile op s payload = .ok q) : q.Aligned := by
  obtain ⟨f, hf, hq⟩ := bind_ok hq
  cases hq
  -- the conditions of a group or a join are not part of the statement
  rw [← fragment_criteria hop] at hf
  have hbare : Aligned kind { s with criteria := none } :=
    { h with clauses := { h.clauses with }, criteria := .nil, named := fun _ => .nil }
  have hsound : { s with criteria := none }.Sound Any Any (Replacement.bindsCriteria payload) :=
    ⟨hbare.clauses, (membersSound_of_aligned hbare.members).1, .nil⟩
  have hlost : { s with criteria := none }.lost op = 0 := by
    cases op with
    | select => exact hbare.lostInSelect
    | criteria => rfl
    | insert | insertIgnore | replace => exact htarget.resolve_left (by simp)
    | update | delete =>
      exact Nat.add_eq_zero_iff.2 ⟨htarget.resolve_left (by simp), h.lostInJoins⟩
  exact ⟨f, hlost ▸ Adapter.fragment_lacks (fun _ _ => trivial) hsound hpayload hf, rfl, rfl⟩

end Aligned

end Statements

end SqlBuilder
