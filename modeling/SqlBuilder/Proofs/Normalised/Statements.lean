import SqlBuilder.Proofs.Fluent.Edits
import SqlBuilder.Proofs.Joining.Bindings

/-!
# The values that statements bind

`Statements.Fits Q`: whatever the statements bind when they are written meets `Q`. A value that is
given on its own is bound in its normal form, so that is what must meet `Q`; the values of a raw
fragment are bound as they are.

* `Fits.fragment_binds`: the statements are written with values that meet `Q`, whatever the
  operation.
* `Fits.addCondition?` and the others: an edit keeps statements fitting if what is added fits.
-/

set_option autoImplicit false

namespace SqlBuilder

open Adapter

variable {Q : Value → Prop}

/-! ## Fragments -/

/-- Every value that the fragment binds meets `Q`. -/
def Fragment.Binds (Q : Value → Prop) (f : Fragment) : Prop := ∀ v ∈ f.bindings, Q v

namespace Fragment

theorem binds_ofText (s : String) : (ofText s).Binds Q := fun _ hv => absurd hv List.not_mem_nil

theorem Binds.append {f g : Fragment} (hf : f.Binds Q) (hg : g.Binds Q) : (f ++ g).Binds Q :=
  fun v hv => (List.mem_append.1 hv).elim (hf v) (hg v)

theorem Binds.flatMap {fs : List Fragment} (h : ∀ f ∈ fs, f.Binds Q) :
    ∀ v ∈ fs.flatMap Fragment.bindings, Q v := by
  intro v hv
  obtain ⟨f, hf, hv⟩ := List.mem_flatMap.1 hv
  exact h f hf v hv

theorem binds_intercalate {separator : String} {fs : List Fragment} (h : ∀ f ∈ fs, f.Binds Q) :
    (intercalate separator fs).Binds Q := Binds.flatMap h

theorem binds_concatenate {fs : List Fragment} (h : ∀ f ∈ fs, f.Binds Q) :
    (concatenate fs).Binds Q := Binds.flatMap h

theorem Binds.parenthesized {f : Fragment} (h : f.Binds Q) : f.parenthesized.Binds Q :=
  ((binds_ofText "(").append h).append (binds_ofText ")")

end Fragment

open Fragment

/-! ## What values bring along -/

namespace Value

/-- The values that come along with an expression: those of a raw fragment, also behind an alias. -/
def carried : Value → List Value
  | .aliased expression _ => expression.rawBindings
  | v => v.rawBindings

/-- The values that something to compare with is bound as, if all of it is: the normal form of each
item, or that of the value itself, and those of a raw fragment as they are. -/
def operands (v : Value) : List Value :=
  match v.items? with
  | some items => items.map Value.normalize
  | none =>
    match v with
    | .raw _ bindings => bindings
    | v => [v.normalize]

/-- The values that come along with an expression meet `Q`. -/
def Carries (Q : Value → Prop) (v : Value) : Prop := ∀ x ∈ v.carried, Q x

/-- The values that come along with what the clause lists meet `Q`. -/
def Lists (Q : Value → Prop) (clause : Value) : Prop :=
  ∀ items, clause.toItems = .ok items → ∀ v ∈ items, v.Carries Q

/-- What a row of data is bound as meets `Q`. -/
def RowFits (Q : Value → Prop) (row : Value) : Prop :=
  ∀ entries, row = .map entries → ∀ e ∈ entries, (dataValue e.2).Binds Q

theorem mem_carried {v x : Value} (h : x ∈ v.rawBindings) : x ∈ v.carried := by
  cases v <;> first | exact h | exact absurd h List.not_mem_nil

theorem operands_of_items {v : Value} {items : List Value} (h : v.items? = some items) :
    v.operands = items.map Value.normalize := by
  cases v <;> cases h <;> rfl

theorem carries_of_not_raw {v : Value} (hraw : v.isRaw = false)
    (haliased : ∀ expression name, v ≠ .aliased expression name) : v.Carries Q := by
  cases v with
  | raw => cases hraw
  | aliased expression name => exact absurd rfl (haliased expression name)
  | _ => exact fun _ hx => absurd hx List.not_mem_nil

theorem Lists.listed {clause : Value} (h : clause.Lists Q) {items : List Value}
    (hitems : clause.listed = .ok items) : ∀ v ∈ items, v.Carries Q := by
  unfold Value.listed at hitems
  split at hitems
  · exact h items hitems
  · cases hitems
    exact fun _ hv => absurd hv List.not_mem_nil

theorem lists_list {items : List Value} (h : ∀ v ∈ items, v.Carries Q) :
    (Value.list items).Lists Q := by
  rintro _ ⟨⟩
  exact h

theorem lists_null : Value.null.Lists Q := by
  rintro _ ⟨⟩

end Value

/-! ## Conditions -/

/-- Everything that the conditions bind meets `Q`, even where scalars are names. -/
def ConditionsFit (Q : Value → Prop) (cs : List Condition) : Prop :=
  ∀ v ∈ boundConditions true cs, Q v

theorem mem_boundConditions {bindValues : Bool} {cs : List Condition} {v : Value} :
    v ∈ boundConditions bindValues cs ↔ ∃ c ∈ cs, v ∈ boundCondition bindValues c := by
  induction cs with
  | nil => simp [boundConditions]
  | cons c cs ih => simp [boundConditions, ih]

theorem conditionsFit_iff {cs : List Condition} :
    ConditionsFit Q cs ↔ ∀ c ∈ cs, ConditionsFit Q [c] := by
  simp only [ConditionsFit, mem_boundConditions, List.mem_singleton, exists_eq_left]
  exact ⟨fun h c hc v hv => h v ⟨c, hc, hv⟩, fun h v ⟨c, hc, hv⟩ => h c hc v hv⟩

theorem conditionsFit_nil : ConditionsFit Q [] := conditionsFit_iff.2 (by simp)

theorem ConditionsFit.append {cs ds : List Condition} (hcs : ConditionsFit Q cs)
    (hds : ConditionsFit Q ds) : ConditionsFit Q (cs ++ ds) := by
  intro v hv
  rw [boundConditions_append] at hv
  exact (List.mem_append.1 hv).elim (hcs v) (hds v)

theorem ConditionsFit.of_mem {cs ds : List Condition} (h : ConditionsFit Q cs)
    (hmem : ∀ d ∈ ds, d ∈ cs) : ConditionsFit Q ds :=
  conditionsFit_iff.2 fun d hd => conditionsFit_iff.1 h d (hmem d hd)

theorem mem_boundOperand {bindValues : Bool} {operator value v : Value}
    (h : v ∈ boundOperand bindValues operator value) : v ∈ value.operands := by
  cases value with
  | raw => exact h
  | list items | tuple items =>
    obtain ⟨item, hitem, rfl⟩ := List.mem_map.1 h
    refine List.mem_map_of_mem ?_
    split at hitem
    · exact List.mem_of_mem_take hitem
    · exact hitem
  | _ =>
    cases bindValues with
    | true => exact h
    | false => exact absurd h List.not_mem_nil

/-- A comparison binds what its key and its value bring along. -/
theorem mem_boundComparison {bindValues : Bool} {key operator value v : Value}
    (h : v ∈ boundComparison bindValues key operator value) :
    v ∈ key.rawBindings ∨ v ∈ value.operands := by
  unfold boundComparison at h
  split at h
  · exact absurd h List.not_mem_nil
  · refine (List.mem_append.1 h).imp_right fun h => ?_
    split at h
    · exact absurd h List.not_mem_nil
    · exact mem_boundOperand h

/-- Where scalars are names nothing is bound that is not bound otherwise. -/
theorem mem_boundComparison_true {bindValues : Bool} {key operator value v : Value}
    (h : v ∈ boundComparison bindValues key operator value) :
    v ∈ boundComparison true key operator value := by
  cases bindValues with
  | true => exact h
  | false =>
    unfold boundComparison at h ⊢
    split at h
    · exact absurd h List.not_mem_nil
    · rename_i hempty
      rw [if_neg hempty]
      refine List.mem_append.2 ((List.mem_append.1 h).imp_right fun h => ?_)
      split at h
      · exact absurd h List.not_mem_nil
      · unfold boundOperand at h
        split at h
        · rename_i items hitems
          have halone : standsAlone true key operator value = false := by
            simp [standsAlone, hitems]
          simpa [halone, boundOperand, hitems] using h
        · split at h
          · exact h
          · exact absurd h List.not_mem_nil

theorem mem_boundCondition_true {bindValues : Bool} {c : Condition} {v : Value}
    (h : v ∈ boundCondition bindValues c) : v ∈ boundCondition true c := by
  obtain ⟨key, operator, value, joiner, leading, columns⟩ := c
  rw [boundCondition] at h ⊢
  split at h
  · rename_i hcolumns
    rw [if_pos hcolumns]
    cases key with
    | group => exact h
    | _ => exact mem_boundComparison_true h
  · exact absurd h List.not_mem_nil

theorem ConditionsFit.binds {a : Adapter} {style : CriteriaStyle} {cs : List Condition}
    {f : Fragment} (h : ConditionsFit Q cs) (hf : a.criteria style cs = .ok f) : f.Binds Q := by
  intro v hv
  rw [bindings_of_criteria hf] at hv
  obtain ⟨c, hc, hv⟩ := mem_boundConditions.1 hv
  exact h v (mem_boundConditions.2 ⟨c, hc, mem_boundCondition_true hv⟩)

/-! ## Statements -/

/-- A join binds nothing but what meets `Q`. -/
structure JoinEntry.Fits (Q : Value → Prop) (join : JoinEntry) : Prop where
  table : join.table.Carries Q
  criteria : ConditionsFit Q join.criteria

/-- The clauses bind nothing but what meets `Q`. -/
structure ClausesFit (Q : Value → Prop) (s : Statements) : Prop where
  selects : s.selects.Lists Q
  distincts : s.distincts.Lists Q
  tables : s.tables.Lists Q
  wheres : ConditionsFit Q (s.wheres.getD [])
  havings : ConditionsFit Q (s.havings.getD [])
  criteria : ConditionsFit Q (s.criteria.getD [])
  joins : ∀ join ∈ s.joins.getD [], join.Fits Q
  groupBys : s.groupBys.Lists Q
  orderBys : ∀ entry ∈ s.orderBys.getD [], entry.field.Carries Q
  onDuplicate : s.onDuplicate.RowFits Q

/-- Members of unions that bind nothing but what meets `Q`. -/
inductive MembersFit (Q : Value → Prop) : List UnionEntry → Prop where
  | nil : MembersFit Q []
  | cons {s : Statements} {type : Value} {identity : List Nat} {entries : List UnionEntry}
      (clauses : ClausesFit Q s) (inner : MembersFit Q (s.unions.getD []))
      (rest : MembersFit Q entries) : MembersFit Q (⟨s, type, identity⟩ :: entries)

theorem MembersFit.append {es fs : List UnionEntry} (hes : MembersFit Q es)
    (hfs : MembersFit Q fs) : MembersFit Q (es ++ fs) := by
  induction hes with
  | nil => exact hfs
  | cons clauses inner _ _ ih => exact .cons clauses inner ih

/-- The statements bind nothing but what meets `Q`. -/
structure Statements.Fits (Q : Value → Prop) (s : Statements) : Prop where
  clauses : ClausesFit Q s
  members : MembersFit Q (s.unions.getD [])

/-- What an operation is given besides binds nothing but what meets `Q`. -/
def PayloadFits (Q : Value → Prop) (op : Operation) (payload : List Value) : Prop :=
  match op with
  | .insert | .insertIgnore | .replace | .update => ∀ v ∈ payload, v.RowFits Q
  | .delete => ∀ v ∈ payload, v.Lists Q
  | .select | .criteria => True

/-! ## Writing clauses -/

namespace Adapter

variable {a : Adapter} {s : Statements} {f : Fragment}

theorem binds_raw {sql : String} {bindings : List Value} (h : (Value.raw sql bindings).Carries Q) :
    (⟨sql, bindings⟩ : Fragment).Binds Q := h

theorem binds_nameFragment {v : Value} (h : v.Carries Q) : (a.nameFragment v).Binds Q := by
  cases v with
  | raw => exact binds_raw h
  | _ => exact binds_ofText _

theorem binds_columnItem {v : Value} (h : v.Carries Q) (hf : a.columnItem v = .ok f) :
    f.Binds Q := by
  cases v with
  | aliased expression name =>
    obtain ⟨head, hhead, hf⟩ := bind_ok hf
    cases hf
    refine Binds.append ?_ (binds_ofText _)
    cases expression with
    | raw =>
      cases hhead
      exact h
    | _ =>
      obtain ⟨plain, -, hhead⟩ := bind_ok hhead
      split at hhead <;> cases hhead <;> exact binds_ofText _
  | _ =>
    cases hf
    exact binds_nameFragment h

theorem binds_columnList {items : List Value} (h : ∀ v ∈ items, v.Carries Q)
    (hf : a.columnList items = .ok f) : f.Binds Q := by
  obtain ⟨fs, hfs, hf⟩ := bind_ok hf
  obtain rfl := Except.ok.inj hf
  refine binds_intercalate fun g hg => ?_
  obtain ⟨v, hv, hg⟩ := (mapM_ok hfs).2 g hg
  exact binds_columnItem (h v hv) hg

theorem binds_tableFragment {table : Value} (h : table.Carries Q) {p : Fragment × Value}
    (hp : a.tableFragment s table = .ok p) : p.1.Binds Q := by
  cases table with
  | raw =>
    cases hp
    exact h
  | _ =>
    obtain ⟨written, -, hp⟩ := bind_ok hp
    cases hp
    exact binds_ofText _

theorem binds_tableList (h : s.tables.Lists Q) {p : Fragment × Value}
    (hp : a.tableList s = .ok p) : p.1.Binds Q := by
  obtain ⟨sources, hsources, hp⟩ := bind_ok hp
  obtain ⟨tables, htables, hp⟩ := bind_ok hp
  cases hp
  refine binds_intercalate fun g hg => ?_
  obtain ⟨table, htable, rfl⟩ := List.mem_map.1 hg
  obtain ⟨v, hv, htable⟩ := (mapM_ok htables).2 table htable
  exact binds_tableFragment (h.listed hsources v hv) htable

theorem binds_joinTable {table : Value} (h : table.Carries Q) (hf : a.joinTable table = .ok f) :
    f.Binds Q := by
  unfold joinTable at hf
  split at hf
  · cases hf
    exact binds_ofText _
  · cases hf
  · cases hf
    exact binds_nameFragment h

theorem binds_joinClause {join : JoinEntry} (h : join.Fits Q) (hf : a.joinClause join = .ok f) :
    f.Binds Q := by
  rw [joinClause_eq] at hf
  obtain ⟨table, htable, hf⟩ := bind_ok hf
  obtain ⟨criteria, hcriteria, hf⟩ := bind_ok hf
  obtain ⟨kind, -, hf⟩ := bind_ok hf
  obtain rfl := Except.ok.inj hf
  have hbound : criteria.Binds Q := by
    unfold joinCriteria at hcriteria
    split at hcriteria
    · cases hcriteria
      exact binds_ofText ""
    · exact h.criteria.binds hcriteria
  refine binds_concatenate ?_
  simp only [List.forall_mem_cons]
  exact ⟨binds_ofText _, binds_ofText _, binds_joinTable h.table htable, hbound, by simp⟩

theorem binds_joinList (h : ∀ join ∈ s.joins.getD [], join.Fits Q) (hf : a.joinList s = .ok f) :
    f.Binds Q := by
  obtain ⟨fs, hfs, hf⟩ := bind_ok hf
  obtain rfl := Except.ok.inj hf
  refine binds_intercalate fun g hg => ?_
  obtain ⟨join, hjoin, hg⟩ := (mapM_ok hfs).2 g hg
  exact binds_joinClause (h join hjoin) hg

theorem binds_conditionClause {keyword : String} {qualifier : Value}
    {conditions : Option (List Condition)} (h : ConditionsFit Q (conditions.getD []))
    (hf : a.conditionClause keyword qualifier conditions = .ok f) : f.Binds Q := by
  unfold conditionClause at hf
  split at hf
  · cases hf
    exact binds_ofText ""
  · obtain ⟨criteria, hcriteria, hf⟩ := bind_ok hf
    cases hf
    exact (binds_ofText _).append (h.binds hcriteria)

theorem binds_groupClause (h : s.groupBys.Lists Q) (hf : a.groupClause s = .ok f) :
    f.Binds Q := by
  obtain ⟨items, hitems, hf⟩ := bind_ok hf
  split at hf
  · cases hf
    exact binds_ofText ""
  · obtain ⟨list, hlist, hf⟩ := bind_ok hf
    cases hf
    exact (binds_ofText _).append (binds_columnList (h.listed hitems) hlist)

theorem binds_orderClause (h : ∀ entry ∈ s.orderBys.getD [], entry.field.Carries Q) :
    (a.orderClause s).Binds Q := by
  unfold orderClause
  split
  · exact binds_ofText ""
  · refine (binds_ofText _).append (binds_intercalate fun g hg => ?_)
    obtain ⟨entry, hentry, rfl⟩ := List.mem_map.1 hg
    exact (binds_nameFragment (h entry hentry)).append (binds_ofText _)

theorem binds_countClause {keyword : String} {v : Value} (hf : countClause keyword v = .ok f) :
    f.Binds Q := by
  unfold countClause at hf
  split at hf
  · cases hf
    exact binds_ofText ""
  · obtain ⟨written, -, hf⟩ := bind_ok hf
    cases hf
    exact binds_ofText _

theorem binds_pagingClauses (h : ∀ entry ∈ s.orderBys.getD [], entry.field.Carries Q)
    {fs : List Fragment} (hfs : a.pagingClauses s = .ok fs) : ∀ f ∈ fs, f.Binds Q := by
  obtain ⟨limit, hlimit, hfs⟩ := bind_ok hfs
  obtain ⟨offset, hoffset, hfs⟩ := bind_ok hfs
  cases hfs
  simp only [List.forall_mem_cons]
  exact ⟨binds_orderClause h, binds_countClause hlimit, binds_countClause hoffset, by simp⟩

theorem binds_lockClause : (lockClause s).Binds Q := by
  unfold lockClause
  split <;> exact binds_ofText _

theorem binds_assignments {row : List (Value × Value)} (h : ∀ e ∈ row, (dataValue e.2).Binds Q) :
    (a.assignments row).Binds Q := by
  refine binds_intercalate fun g hg => ?_
  obtain ⟨e, he, rfl⟩ := List.mem_map.1 hg
  exact (binds_ofText _).append (h e he)

theorem rowFits_entries {data : Value} (h : data.RowFits Q) {row : List (Value × Value)}
    (hrow : rowEntries data = .ok row) : ∀ e ∈ row, (dataValue e.2).Binds Q := by
  cases data with
  | map entries =>
    cases hrow
    exact h _ rfl
  | _ => cases hrow

/-! ## Writing statements -/

theorem binds_selectMember (h : ClausesFit Q s) (hf : a.selectMember s = .ok f) : f.Binds Q := by
  obtain ⟨items, hitems, hf⟩ := bind_ok hf
  obtain ⟨columns, hcolumns, hf⟩ := bind_ok hf
  obtain ⟨⟨tables, qualifier⟩, htables, hf⟩ := bind_ok hf
  obtain ⟨joins, hjoins, hf⟩ := bind_ok hf
  obtain ⟨wheres, hwheres, hf⟩ := bind_ok hf
  obtain ⟨groups, hgroups, hf⟩ := bind_ok hf
  obtain ⟨havings, hhavings, hf⟩ := bind_ok hf
  obtain ⟨paging, hpaging, hf⟩ := bind_ok hf
  obtain rfl := Except.ok.inj hf
  have hselected : ∀ v ∈ items, v.Carries Q := by
    obtain ⟨selected, hselected, hitems⟩ := bind_ok hitems
    obtain ⟨selects, hselects, hselected⟩ := bind_ok hselected
    obtain ⟨distincts, hdistincts, hselected⟩ := bind_ok hselected
    cases hselected
    split at hitems <;> cases hitems
    · exact List.forall_mem_singleton.2 fun _ hx => absurd hx List.not_mem_nil
    · exact List.forall_mem_append.2 ⟨h.distincts.listed hdistincts, h.selects.listed hselects⟩
  refine binds_concatenate ?_
  simp only [List.forall_mem_append, List.forall_mem_cons]
  exact ⟨⟨⟨binds_ofText _, binds_columnList hselected hcolumns, binds_ofText _,
    binds_tableList h.tables htables, binds_joinList h.joins hjoins,
    binds_conditionClause h.wheres hwheres, binds_groupClause h.groupBys hgroups,
    binds_conditionClause h.havings hhavings, by simp⟩, binds_pagingClauses h.orderBys hpaging⟩,
    binds_lockClause, by simp⟩

/-- A select binds what meets `Q` if the further members of its union do. -/
theorem binds_select_of_members (h : ClausesFit Q s)
    (hmembers : ∀ fs, unionList a (s.unions.getD []) = .ok fs → ∀ f ∈ fs, f.Binds Q)
    (hf : select a s = .ok f) : f.Binds Q := by
  rw [select_eq] at hf
  obtain ⟨member, hmember, hf⟩ := bind_ok hf
  obtain ⟨others, hothers, hf⟩ := bind_ok hf
  have hbound := binds_selectMember h hmember
  obtain rfl := Except.ok.inj hf
  split
  · exact hbound
  · exact binds_intercalate (List.forall_mem_cons.2 ⟨hbound, hmembers others hothers⟩)

theorem binds_unionList {entries : List UnionEntry} (h : MembersFit Q entries)
    {fs : List Fragment} (hfs : unionList a entries = .ok fs) : ∀ f ∈ fs, f.Binds Q := by
  induction h generalizing fs with
  | nil =>
    rw [unionList] at hfs
    cases hfs
    exact fun _ hf => absurd hf List.not_mem_nil
  | @cons s type identity entries clauses _ _ ihInner ihRest =>
    rw [unionList] at hfs
    obtain ⟨member, hmember, hfs⟩ := bind_ok hfs
    obtain ⟨rest, hrest, hfs⟩ := bind_ok hfs
    cases hfs
    have hbound : member.Binds Q := binds_select_of_members clauses (fun _ => ihInner) hmember
    exact List.forall_mem_cons.2 ⟨binds_ofText _, List.forall_mem_cons.2 ⟨hbound, ihRest hrest⟩⟩

theorem binds_upsert (h : s.onDuplicate.RowFits Q) (hf : a.upsert s = .ok f) : f.Binds Q := by
  unfold upsert at hf
  split at hf
  · cases hf
    exact binds_ofText ""
  · split at hf
    · cases hf
    · obtain ⟨row, hrow, hf⟩ := bind_ok hf
      obtain ⟨sql, -, hf⟩ := bind_ok hf
      cases hf
      exact binds_assignments (a := a) (rowFits_entries h hrow)

theorem binds_insert (h : ClausesFit Q s) {op : Operation} {data : Value} (hdata : data.RowFits Q)
    (hf : a.insert op s data = .ok f) : f.Binds Q := by
  obtain ⟨table, -, hf⟩ := bind_ok hf
  split at hf
  · cases hf
  obtain ⟨row, hrow, hf⟩ := bind_ok hf
  obtain ⟨verb, -, hf⟩ := bind_ok hf
  obtain ⟨update, hupdate, hf⟩ := bind_ok hf
  obtain rfl := Except.ok.inj hf
  have hcolumns : ∀ g ∈ row.map fun e => ofText (a.wrap e.1), g.Binds Q := by
    intro g hg
    obtain ⟨e, -, rfl⟩ := List.mem_map.1 hg
    exact binds_ofText _
  have hvalues : ∀ g ∈ row.map fun e => dataValue e.2, g.Binds Q := by
    intro g hg
    obtain ⟨e, he, rfl⟩ := List.mem_map.1 hg
    exact rowFits_entries hdata hrow e he
  refine binds_concatenate ?_
  simp only [List.forall_mem_cons]
  exact ⟨binds_ofText _, binds_ofText _, (binds_intercalate hcolumns).parenthesized,
    (binds_ofText _).append (binds_intercalate hvalues).parenthesized,
    binds_upsert h.onDuplicate hupdate, binds_ofText _, by simp⟩

theorem binds_update (h : ClausesFit Q s) {data : Value} (hdata : data.RowFits Q)
    (hf : a.update s data = .ok f) : f.Binds Q := by
  unfold Adapter.update at hf
  split at hf
  · cases hf
  obtain ⟨table, -, hf⟩ := bind_ok hf
  obtain ⟨⟨tableSql, qualifier⟩, -, hf⟩ := bind_ok hf
  obtain ⟨joins, hjoins, hf⟩ := bind_ok hf
  obtain ⟨row, hrow, hf⟩ := bind_ok hf
  obtain ⟨wheres, hwheres, hf⟩ := bind_ok hf
  obtain ⟨groups, hgroups, hf⟩ := bind_ok hf
  obtain ⟨paging, hpaging, hf⟩ := bind_ok hf
  obtain rfl := Except.ok.inj hf
  refine binds_concatenate ?_
  simp only [List.forall_mem_append, List.forall_mem_cons]
  exact ⟨⟨binds_ofText _, binds_ofText _, binds_joinList h.joins hjoins,
    (binds_ofText _).append (binds_assignments (rowFits_entries hdata hrow)),
    binds_conditionClause h.wheres hwheres, binds_groupClause h.groupBys hgroups, by simp⟩,
    binds_pagingClauses h.orderBys hpaging⟩

theorem binds_delete (h : ClausesFit Q s) {columns : Value} (hcolumns : columns.Lists Q)
    (hf : a.delete s columns = .ok f) : f.Binds Q := by
  obtain ⟨table, -, hf⟩ := bind_ok hf
  obtain ⟨listed, hlisted, hf⟩ := bind_ok hf
  obtain ⟨joins, hjoins, hf⟩ := bind_ok hf
  obtain ⟨wheres, hwheres, hf⟩ := bind_ok hf
  obtain ⟨groups, hgroups, hf⟩ := bind_ok hf
  obtain ⟨paging, hpaging, hf⟩ := bind_ok hf
  obtain rfl := Except.ok.inj hf
  have hbound : listed.Binds Q := by
    rw [deleteColumns_eq] at hlisted
    split at hlisted
    · cases hlisted
      exact binds_ofText ""
    · obtain ⟨items, hitems, hlisted⟩ := bind_ok hlisted
      exact binds_columnList (hcolumns items hitems) hlisted
  refine binds_concatenate ?_
  simp only [List.forall_mem_append, List.forall_mem_cons]
  exact ⟨⟨binds_ofText _, hbound, binds_ofText _, binds_ofText _, binds_joinList h.joins hjoins,
    binds_conditionClause h.wheres hwheres, binds_groupClause h.groupBys hgroups, by simp⟩,
    binds_pagingClauses h.orderBys hpaging⟩

theorem binds_criteriaOnly (h : ConditionsFit Q (s.criteria.getD [])) {bindValues : Bool}
    (hf : a.criteriaOnly s bindValues = .ok f) : f.Binds Q := by
  unfold criteriaOnly at hf
  split at hf
  · cases hf
    exact binds_ofText ""
  · exact h.binds hf

end Adapter

namespace Statements

/-- Whatever the operation, the statements are written with values that meet `Q`. -/
theorem Fits.fragment_binds {s : Statements} (h : s.Fits Q) {a : Adapter} {op : Operation}
    {payload : List Value} (hpayload : PayloadFits Q op payload) {f : Fragment}
    (hf : a.fragment op s payload = .ok f) : f.Binds Q := by
  unfold Adapter.fragment at hf
  split at hf
  · exact binds_select_of_members h.clauses (fun _ => binds_unionList h.members) hf
  · exact binds_insert h.clauses (List.forall_mem_singleton.1 hpayload) hf
  · exact binds_insert h.clauses (List.forall_mem_singleton.1 hpayload) hf
  · exact binds_insert h.clauses (List.forall_mem_singleton.1 hpayload) hf
  · exact binds_update h.clauses (List.forall_mem_singleton.1 hpayload) hf
  · exact binds_delete h.clauses Value.lists_null hf
  · exact binds_delete h.clauses (List.forall_mem_singleton.1 hpayload) hf
  · exact binds_criteriaOnly h.clauses.criteria hf
  · exact binds_criteriaOnly h.clauses.criteria hf
  · cases hf

theorem fits_empty : Fits Q .empty where
  clauses := {
    selects := Value.lists_null
    distincts := Value.lists_null
    tables := Value.lists_null
    wheres := conditionsFit_nil
    havings := conditionsFit_nil
    criteria := conditionsFit_nil
    joins := fun _ h => absurd h List.not_mem_nil
    groupBys := Value.lists_list fun _ h => absurd h List.not_mem_nil
    orderBys := fun _ h => absurd h List.not_mem_nil
    onDuplicate := by rintro _ ⟨⟩ }
  members := .nil

/-! ## Edits -/

theorem lists_extended {clause v : Value} {items : List Value} (hclause : clause.Lists Q)
    (hitems : ∀ v ∈ items, v.Carries Q) (hv : clause.extended items = .ok v) : v.Lists Q := by
  cases clause with
  | list old =>
    cases hv
    exact Value.lists_list (List.forall_mem_append.2 ⟨hclause old rfl, hitems⟩)
  | _ => cases hv

theorem lists_selection {overwrite : Bool} {old v : Value} {items : List Value}
    (hold : old.Lists Q) (hitems : ∀ v ∈ items, v.Carries Q)
    (hv : selection overwrite old items = .ok v) : v.Lists Q := by
  unfold selection at hv
  split at hv
  · cases hv
    exact Value.lists_list hitems
  · exact lists_extended hold hitems hv

namespace Fits

variable {s s' : Statements} (h : s.Fits Q)
include h

theorem addTables {tables : List Value} (htables : ∀ v ∈ tables, v.Carries Q)
    (hs : s.addTables tables = .ok s') : s'.Fits Q := by
  obtain ⟨v, hv, hs⟩ := bind_ok hs
  cases hs
  exact { h with
    clauses := { h.clauses with tables := lists_selection h.clauses.tables htables hv } }

theorem clearTables : s.clearTables.Fits Q :=
  { h with clauses := { h.clauses with tables := Value.lists_null } }

theorem openAliases : s.openAliases.Fits Q := by
  unfold Statements.openAliases
  split
  · exact { h with clauses := { h.clauses with } }
  · exact h

theorem addAlias {table name : Value} (hs : s.addAlias table name = .ok s') : s'.Fits Q := by
  obtain ⟨v, -, hs⟩ := bind_ok hs
  cases hs
  exact { h with clauses := { h.clauses with } }

theorem addSelects {overwrite : Bool} {items : List Value} (hitems : ∀ v ∈ items, v.Carries Q)
    (hs : s.addSelects overwrite items = .ok s') : s'.Fits Q := by
  obtain ⟨v, hv, hs⟩ := bind_ok hs
  cases hs
  exact { h with
    clauses := { h.clauses with selects := lists_selection h.clauses.selects hitems hv } }

theorem addDistincts {overwrite : Bool} {items : List Value} (hitems : ∀ v ∈ items, v.Carries Q)
    (hs : s.addDistincts overwrite items = .ok s') : s'.Fits Q := by
  obtain ⟨v, hv, hs⟩ := bind_ok hs
  cases hs
  exact { h with
    clauses := { h.clauses with distincts := lists_selection h.clauses.distincts hitems hv } }

theorem conditions (list : ConditionList) : ConditionsFit Q ((s.conditions list).getD []) := by
  cases list with
  | wheres => exact h.clauses.wheres
  | havings => exact h.clauses.havings
  | criteria => exact h.clauses.criteria

theorem setConditions {list : ConditionList} {cs : List Condition} (hcs : ConditionsFit Q cs) :
    (s.setConditions list cs).Fits Q := by
  cases list with
  | wheres => exact { h with clauses := { h.clauses with wheres := hcs } }
  | havings => exact { h with clauses := { h.clauses with havings := hcs } }
  | criteria => exact { h with clauses := { h.clauses with criteria := hcs } }

theorem addCondition? {list : ConditionList} {overwrite : Bool} {c : Condition}
    (hc : ConditionsFit Q [c]) (hs : s.addCondition? list overwrite c = some s') :
    s'.Fits Q := by
  obtain ⟨old, hold, hs⟩ := Option.bind_eq_some_iff.1 hs
  cases hs
  exact h.setConditions (((h.conditions list).of_mem (mem_of_replaced? hold)).append hc)

theorem openJoins? {overwrite : Bool} {table : Value}
    (hs : s.openJoins? overwrite table = some s') : s'.Fits Q := by
  obtain ⟨old, hold, hs⟩ := Option.bind_eq_some_iff.1 hs
  cases hs
  exact { h with
    clauses := { h.clauses with
      joins := fun join hjoin => h.clauses.joins join (mem_of_replaced? hold join hjoin) } }

theorem addJoin? {overwrite : Bool} {entry : JoinEntry} (hentry : entry.Fits Q)
    (hs : s.addJoin? overwrite entry = some s') : s'.Fits Q := by
  obtain ⟨t, ht, hs⟩ := Option.bind_eq_some_iff.1 hs
  cases hs
  have h := h.openJoins? ht
  exact { h with
    clauses := { h.clauses with
      joins := List.forall_mem_append.2
        ⟨h.clauses.joins, List.forall_mem_singleton.2 hentry⟩ } }

theorem addOrder? {overwrite : Bool} {entry : OrderEntry} (hentry : entry.field.Carries Q)
    (hs : s.addOrder? overwrite entry = some s') : s'.Fits Q := by
  obtain ⟨old, hold, hs⟩ := Option.bind_eq_some_iff.1 hs
  cases hs
  have hkept : ∀ e ∈ old, e.field.Carries Q := fun e he =>
    h.clauses.orderBys e (mem_of_replaced? hold e he)
  exact { h with
    clauses := { h.clauses with
      orderBys := List.forall_mem_append.2 ⟨hkept, List.forall_mem_singleton.2 hentry⟩ } }

theorem openGroups (overwrite : Bool) : (s.openGroups overwrite).Fits Q := by
  unfold Statements.openGroups
  split
  · exact { h with
      clauses := { h.clauses with
        groupBys := Value.lists_list fun _ hv => absurd hv List.not_mem_nil } }
  · exact h

theorem addGroups {fields : List Value} (hfields : ∀ v ∈ fields, v.Carries Q)
    (hs : s.addGroups fields = .ok s') : s'.Fits Q := by
  obtain ⟨v, hv, hs⟩ := bind_ok hs
  cases hs
  exact { h with
    clauses := { h.clauses with groupBys := lists_extended h.clauses.groupBys hfields hv } }

theorem limit (v : Value) : Fits Q { s with limit := v } :=
  { h with clauses := { h.clauses with } }

theorem offset (v : Value) : Fits Q { s with offset := v } :=
  { h with clauses := { h.clauses with } }

theorem lock (v : Value) : Fits Q { s with lock := v } :=
  { h with clauses := { h.clauses with } }

theorem onDuplicate {v : Value} (hv : v.RowFits Q) : Fits Q { s with onDuplicate := v } :=
  { h with clauses := { h.clauses with onDuplicate := hv } }

theorem copied (hs : s.copied = .ok s') : s'.Fits Q := by
  obtain ⟨groupings, hgroupings, hs⟩ := bind_ok hs
  split at hs
  · cases hs
  · cases hs
    exact { h with
      clauses := { h.clauses with
        groupBys := Value.lists_list (h.clauses.groupBys groupings hgroupings) } }

theorem addUnion {other : Statements} (hother : other.Fits Q) {type : Value}
    (hs : s.addUnion other type = .ok s') : s'.Fits Q := by
  obtain ⟨member, hmember, hs⟩ := bind_ok hs
  have hmember := hother.copied hmember
  cases hunions : s.unions with
  | none =>
    rw [hunions] at hs
    cases hs
  | some members =>
    rw [hunions] at hs
    cases hs
    have hmembers : MembersFit Q members := by
      have := h.members
      rwa [hunions] at this
    have hlast : MembersFit Q [{ statements := { member with unions := some [] }, type }] :=
      .cons { hmember.clauses with } .nil .nil
    exact { h with
      clauses := { h.clauses with }
      members := (hmembers.append hmember.members).append hlast }

end Fits

end Statements

end SqlBuilder
