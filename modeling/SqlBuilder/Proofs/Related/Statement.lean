import SqlBuilder.Adapter.Statement
import SqlBuilder.Proofs.Related.Clause

/-!
# Related statements

Whole statements that are written alike. `fragment_agree`: for every operation, related requests
fail with one fault or are written as related fragments, whose grade is the sum of what the tables
lack. One lemma for each operation leads to it; for a select it is an induction over the members of
its unions (`unionList_agree`).
-/

set_option autoImplicit false

namespace SqlBuilder.Adapter

open Fragment

section Related

variable (R : Nat → Fragment → Fragment → Prop) (a : Adapter)

/-! ## Relations -/

/-- The clauses of a select. -/
structure SelectingRel (n : Nat) (s s' : Statements) : Prop extends SharedRel R a n s s' where
  distinct : s'.isDistinct = s.isDistinct
  columns : Agree (ItemsRel R a) s.selected s'.selected
  sources : Agree (List.Forall₂ fun t t' =>
    Agree (TableRel R a 0) (a.tableFragment s t) (a.tableFragment s' t')) s.sources s'.sources
  havings : ConditionsRel R a true (s.havings.getD []) (s'.havings.getD [])
  lock_eq : s'.lock = s.lock
  lock : Steady R s.lock.toText

/-- Members of unions in order, by the sum of their grades. -/
inductive MembersRel : Nat → List UnionEntry → List UnionEntry → Prop where
  | nil : MembersRel 0 [] []
  | cons {n m k : Nat} {s s' : Statements} {type : Value} {identity identity' : List Nat}
      {entries entries' : List UnionEntry} (clauses : SelectingRel R a n s s')
      (inner : MembersRel m (s.unions.getD []) (s'.unions.getD []))
      (operator : Steady R (a.dialect.unionOperator type)) (rest : MembersRel k entries entries') :
      MembersRel (n + m + k) (⟨s, type, identity⟩ :: entries) (⟨s', type, identity'⟩ :: entries')

/-- The tables that are written to, alone and with their aliases. -/
def TargetRel (n : Nat) (s s' : Statements) : Prop :=
  ∀ clause, Agree (fun t t' => R n (ofText (a.wrap t)) (ofText (a.wrap t')) ∧
    Agree (fun p p' => TableRel R a n (ofText p.1, p.2) (ofText p'.1, p'.2))
      (a.aliasedTable s t) (a.aliasedTable s' t'))
    (targetTable s clause) (targetTable s' clause)

/-- The columns of two deletes. -/
structure ColumnsRel (columns columns' : Value) : Prop where
  isTrue_eq : columns'.isTrue = columns.isTrue
  items : Agree (ItemsRel R a) columns.toItems columns'.toItems

/-- An operation with what it is given, in both runs. -/
inductive RequestRel : Nat → Operation → Statements → Statements → List Value → List Value →
    Prop where
  | select {n m : Nat} {s s' : Statements} (clauses : SelectingRel R a n s s')
      (members : MembersRel R a m (s.unions.getD []) (s'.unions.getD [])) :
      RequestRel (n + m) .select s s' [] []
  | insert {n : Nat} {op : Operation} {s s' : Statements} {data data' : Value}
      (hop : op = .insert ∨ op = .insertIgnore ∨ op = .replace) (target : TargetRel R a n s s')
      (row : DataRel R a data data') (update : DataRel R a s.onDuplicate s'.onDuplicate) :
      RequestRel n op s s' [data] [data']
  | update {n m : Nat} {s s' : Statements} {data data' : Value} (target : TargetRel R a n s s')
      (clauses : SharedRel R a m s s') (row : DataRel R a data data') :
      RequestRel (n + m) .update s s' [data] [data']
  | deleteAll {n m : Nat} {s s' : Statements} (target : TargetRel R a n s s')
      (clauses : SharedRel R a m s s') : RequestRel (n + m) .delete s s' [] []
  | delete {n m : Nat} {s s' : Statements} {columns columns' : Value}
      (target : TargetRel R a n s s') (clauses : SharedRel R a m s s')
      (items : ColumnsRel R a columns columns') :
      RequestRel (n + m) .delete s s' [columns] [columns']
  | criteria {s s' : Statements}
      (conditions : ConditionsRel R a true (s.criteria.getD []) (s'.criteria.getD [])) :
      RequestRel 0 .criteria s s' [] []
  | criteriaWith {s s' : Statements} {bound bound' : Value} (hbound : bound'.isTrue = bound.isTrue)
      (conditions : ConditionsRel R a bound.isTrue (s.criteria.getD []) (s'.criteria.getD [])) :
      RequestRel 0 .criteria s s' [bound] [bound']
  | refused {n : Nat} {op : Operation} {s s' : Statements} {payload payload' : List Value}
      (h : a.fragment op s payload = misuse .wrongType)
      (h' : a.fragment op s' payload' = misuse .wrongType) : RequestRel n op s s' payload payload'

variable {R a}

/-! ## Selecting -/

theorem columns_agree (hR : Congruence R) {s s' : Statements}
    (h : Agree (ItemsRel R a) s.selected s'.selected) :
    Agree (R 0) (selectItems s >>= a.columnList) (selectItems s' >>= a.columnList) := by
  have hstar : Agree (R 0) (a.columnList [.text "*"]) (a.columnList [.text "*"]) := by
    refine columnList_agree hR (.cons (.ok ?_) .nil)
    exact hR.word ((a.signs_wrapText _).trans (by decide))
  unfold selectItems
  revert h
  generalize s.selected = items
  generalize s'.selected = items'
  intro h
  cases h with
  | error fault => exact .error fault
  | ok h =>
    have hlist := columnList_agree hR h
    cases h with
    | nil => exact hstar
    | cons => exact hlist

theorem tableList_agree (hR : Congruence R) {s s' : Statements}
    (h : Agree (List.Forall₂ fun t t' =>
      Agree (TableRel R a 0) (a.tableFragment s t) (a.tableFragment s' t')) s.sources s'.sources) :
    Agree (TableRel R a 0) (a.tableList s) (a.tableList s') := by
  refine h.bind fun _ _ h => (Agree.mapM h).bind fun tables tables' h => .ok ⟨?_, ?_⟩
  · refine hR.intercalate (hR.word (by decide)) (.of_forall₂ ?_)
    exact List.forall₂_map_left_iff.2 (List.forall₂_map_right_iff.2 (h.imp fun _ _ h => h.1))
  · have hlast : ∀ {tables tables' : List (Fragment × Value)},
        List.Forall₂ (TableRel R a 0) tables tables' →
        (tables.getLast?.map Prod.snd).getD .null = (tables'.getLast?.map Prod.snd).getD .null ∧
          Steady R (a.wrap ((tables.getLast?.map Prod.snd).getD .null)) := by
      intro tables tables' h
      induction h with
      | nil => exact ⟨rfl, steady_wrap_null hR⟩
      | @cons t t' ts ts' h hs ih =>
        cases hs with
        | nil => exact ⟨h.2.1, h.2.2⟩
        | cons => simpa using ih
    exact hlast h

theorem selectMember_agree (hR : Congruence R) {n : Nat} {s s' : Statements}
    (h : SelectingRel R a n s s') : Agree (R n) (a.selectMember s) (a.selectMember s') := by
  have hlock : R 0 (lockClause s) (lockClause s') := by
    unfold lockClause
    rw [h.lock_eq]
    split
    · exact hR.steady_append (hR.word (by decide)) h.lock
    · exact hR.empty
  rw [selectMember, selectMember, ← bind_assoc, ← bind_assoc]
  refine (columns_agree hR h.columns).bind fun columns columns' hcolumns =>
    (tableList_agree hR h.sources).bind ?_
  rintro ⟨tables, qualifier⟩ ⟨tables', _⟩ ⟨htables, rfl, hqualifier⟩
  refine (joinList_agree hR h.joins).bind fun joins joins' hjoins =>
    (conditionClause_agree hR (by decide) hqualifier h.wheres).bind fun wheres wheres' hwheres =>
    (groupClause_agree hR h.groups).bind fun groups groups' hgroups =>
    (conditionClause_agree hR (by decide) hqualifier h.havings).bind
      fun havings havings' hhavings =>
    (pagingClauses_agree hR h.toSharedRel).bind fun paging paging' hpaging => .ok ?_
  have hfrom : R 0 (ofText (if tables.sql = "" then "" else "FROM"))
      (ofText (if tables'.sql = "" then "" else "FROM")) := by
    by_cases hempty : tables.sql = ""
    · rw [if_pos hempty, if_pos ((hR.empty_iff htables).1 hempty)]
      exact hR.word rfl
    · rw [if_neg hempty, if_neg (mt (hR.empty_iff htables).2 hempty)]
      exact hR.word (by decide)
  have hverb : Steady R (if s.isDistinct then "SELECT DISTINCT" else "SELECT") := by
    split
    · exact hR.word (by decide)
    · exact hR.word (by decide)
  rw [h.distinct]
  refine hR.concatenate ?_
  rw [List.append_assoc, List.append_assoc]
  refine .cons_zero hverb (.cons_zero hcolumns (.cons_zero hfrom (.cons_zero htables
    (.cons_of_zero hjoins (.cons_zero hwheres (.cons_zero hgroups (.cons_zero hhavings ?_)))))))
  exact hpaging.append (.cons_zero hlock .nil)

theorem asMember_related (hR : Congruence R) {n k : Nat} {s s' : Statements}
    (h : SharedRel R a k s s') {f f' : Fragment} (hf : R n f f') :
    R n (a.asMember s f) (a.asMember s' f') := by
  have hframe : a.dialect.memberFrame s' = a.dialect.memberFrame s := by
    have horders : (s'.orderBys.getD []).isEmpty = (s.orderBys.getD []).isEmpty := by
      have := h.orders
      revert this
      generalize s.orderBys.getD [] = entries
      generalize s'.orderBys.getD [] = entries'
      intro h
      cases h <;> rfl
    unfold Dialect.memberFrame
    rw [horders, h.limit_eq, h.offset_eq]
  have hwords : ∀ before after, a.dialect.memberFrame s = some (before, after) →
      Placeholder.signs before.toList = [] ∧ Placeholder.signs after.toList = [] := by
    intro before after hsome
    unfold Dialect.memberFrame at hsome
    split at hsome
    · split at hsome
      · cases hsome
      · cases hsome
        exact ⟨by decide, by decide⟩
    all_goals
      cases hsome
      exact ⟨by decide, by decide⟩
  unfold asMember Dialect.unionMember
  rw [hframe]
  split
  · rename_i before after hsome
    have hb := hR.word (hwords _ _ hsome).1
    have ha := hR.word (hwords _ _ hsome).2
    rw [← framed_eq, ← framed_eq]
    exact hR.append_zero (hR.zero_append hb hf) ha
  · exact hf

theorem furtherMembers_eq (members : Option (List UnionEntry)) :
    furtherMembers a members = unionList a (members.getD []) := by
  cases members with
  | none => rw [furtherMembers, Option.getD_none, unionList]
  | some entries => rw [furtherMembers, Option.getD_some]

theorem select_eq (s : Statements) :
    select a s = (do
      let member ← a.selectMember s
      let others ← unionList a (s.unions.getD [])
      pure (if others.isEmpty then member
        else Fragment.intercalate " " (a.asMember s member :: others))) := by
  cases s
  rw [select, furtherMembers_eq]

/-- A select agrees with another if the further members of the union do. -/
theorem select_agree_of_members (hR : Congruence R) {n m : Nat} {s s' : Statements}
    (h : SelectingRel R a n s s')
    (hothers : Agree (Graded R m) (unionList a (s.unions.getD []))
      (unionList a (s'.unions.getD []))) :
    Agree (R (n + m)) (select a s) (select a s') := by
  rw [select_eq, select_eq]
  refine (selectMember_agree hR h).bind fun member member' hmember =>
    hothers.bind fun others others' hothers => .ok ?_
  have hall := Graded.cons (asMember_related hR h.toSharedRel hmember) hothers
  rw [hothers.isEmpty_eq]
  cases hothers with
  | nil => exact hmember
  | cons => exact hR.intercalate (hR.word (by decide)) hall

theorem unionList_agree (hR : Congruence R) {n : Nat} {entries entries' : List UnionEntry}
    (h : MembersRel R a n entries entries') :
    Agree (Graded R n) (unionList a entries) (unionList a entries') := by
  induction h with
  | nil =>
    rw [unionList]
    exact .ok .nil
  | cons clauses inner operator rest ihInner ihRest =>
    rw [unionList, unionList]
    refine (select_agree_of_members hR clauses ihInner).bind fun member member' hmember =>
      ihRest.bind fun others others' hothers => .ok ?_
    exact .cons_zero operator (.cons (asMember_related hR clauses.toSharedRel hmember) hothers)

/-! ## Writing -/

theorem upsert_agree (hR : Congruence R) {s s' : Statements}
    (h : DataRel R a s.onDuplicate s'.onDuplicate) : Agree (R 0) (a.upsert s) (a.upsert s') := by
  unfold upsert
  rw [h.isNull_eq, h.isTrue_eq]
  split
  · exact .ok hR.empty
  · split
    · exact .error _
    · refine h.row.bind fun row row' hrow => ?_
      have hassigned := assignments_related hR hrow
      cases a.dialect with
      | mysql =>
        have := hR.append_zero (hR.word (s := Dialect.upsertClause ++ " ") (by decide)) hassigned
        exact .ok this
      | sqlite => exact .error _
      | postgres => exact .error _

theorem signs_insertVerb {d : Dialect} {op : Operation} {verb : String}
    (h : d.insertVerb op = .ok verb) : Placeholder.signs verb.toList = [] := by
  cases d <;> cases op <;> cases h <;> decide

theorem signs_insertSuffix (d : Dialect) (op : Operation) :
    Placeholder.signs (d.insertSuffix op).toList = [] := by
  cases d <;> cases op <;> decide

theorem columns_related (hR : Congruence R) {row row' : List (Value × Value)}
    (h : RowRel R a row row') :
    R 0 (Fragment.intercalate ", " (row.map fun (column, _) => ofText (a.wrap column)))
      (Fragment.intercalate ", " (row'.map fun (column, _) => ofText (a.wrap column))) := by
  refine hR.intercalate (hR.word (by decide)) (.of_forall₂ ?_)
  refine List.forall₂_map_left_iff.2 (List.forall₂_map_right_iff.2 (h.imp ?_))
  rintro ⟨column, v⟩ ⟨column', v'⟩ ⟨hcolumn, hsteady, -⟩
  dsimp only at hcolumn hsteady ⊢
  rw [← hcolumn]
  exact hsteady

theorem values_related (hR : Congruence R) {row row' : List (Value × Value)}
    (h : RowRel R a row row') :
    R 0 (Fragment.intercalate ", " (row.map fun (_, v) => dataValue v))
      (Fragment.intercalate ", " (row'.map fun (_, v) => dataValue v)) :=
  hR.intercalate (hR.word (by decide)) (.of_forall₂
    (List.forall₂_map_left_iff.2 (List.forall₂_map_right_iff.2 (h.imp fun _ _ h => h.2.2))))

theorem insert_agree (hR : Congruence R) {n : Nat} {s s' : Statements} {data data' : Value}
    (op : Operation) (target : TargetRel R a n s s') (row : DataRel R a data data')
    (update : DataRel R a s.onDuplicate s'.onDuplicate) :
    Agree (R n) (a.insert op s data) (a.insert op s' data') := by
  unfold insert
  rw [row.isTrue_eq]
  refine (target "INSERT").bind fun table table' htable => ?_
  split
  · exact .error _
  · refine row.row.bind fun row row' hrow =>
      (Agree.refl (R := fun verb verb' => verb = verb' ∧ Placeholder.signs verb.toList = [])
        fun verb hverb => ⟨rfl, signs_insertVerb hverb⟩).bind ?_
    rintro verb _ ⟨rfl, hverb⟩
    refine (upsert_agree hR update).bind fun update update' hupdate => .ok (hR.concatenate ?_)
    refine .cons_zero (hR.word (by simp [hverb]; decide)) (.cons_of_zero htable.1
      (.cons_zero (hR.parenthesized (columns_related hR hrow)) (.cons_zero ?_
        (.cons_zero hupdate (.cons_zero (hR.word (signs_insertSuffix _ _)) .nil)))))
    exact hR.append_zero (hR.word (by decide)) (hR.parenthesized (values_related hR hrow))

theorem update_agree (hR : Congruence R) {n m : Nat} {s s' : Statements} {data data' : Value}
    (target : TargetRel R a n s s') (clauses : SharedRel R a m s s')
    (row : DataRel R a data data') :
    Agree (R (n + m)) (a.update s data) (a.update s' data') := by
  unfold update
  rw [row.isTrue_eq]
  split
  · exact .error _
  · refine (target "UPDATE").bind fun table table' htable => htable.2.bind ?_
    rintro ⟨sql, qualifier⟩ ⟨sql', _⟩ ⟨hsql, rfl, hqualifier⟩
    refine (joinList_agree hR clauses.joins).bind fun joins joins' hjoins =>
      row.row.bind fun row row' hrow =>
      (conditionClause_agree hR (by decide) hqualifier clauses.wheres).bind
        fun wheres wheres' hwheres =>
      (groupClause_agree hR clauses.groups).bind fun groups groups' hgroups =>
      (pagingClauses_agree hR clauses).bind fun paging paging' hpaging => .ok (hR.concatenate ?_)
    refine .cons_zero (hR.word (by decide)) (.cons hsql (.cons_of_zero hjoins
      (.cons_zero ?_ (.cons_zero hwheres (.cons_zero hgroups hpaging)))))
    exact hR.append_zero (hR.word (by decide)) (assignments_related hR hrow)

theorem deleteColumns_eq (columns : Value) :
    a.deleteColumns columns =
      if !columns.isTrue then .ok Fragment.empty else columns.toItems >>= a.columnList := by
  unfold deleteColumns Value.toItems
  cases columns.elements? <;> rfl

theorem delete_agree (hR : Congruence R) {n m : Nat} {s s' : Statements} {columns columns' : Value}
    (target : TargetRel R a n s s') (clauses : SharedRel R a m s s')
    (items : ColumnsRel R a columns columns') :
    Agree (R (n + m)) (a.delete s columns) (a.delete s' columns') := by
  have hcolumns : Agree (R 0) (a.deleteColumns columns) (a.deleteColumns columns') := by
    rw [deleteColumns_eq, deleteColumns_eq, items.isTrue_eq]
    split
    · exact .ok hR.empty
    · exact items.items.bind fun _ _ h => columnList_agree hR h
  unfold delete
  refine (target "DELETE").bind fun table table' htable =>
    hcolumns.bind fun columns columns' hcolumns =>
    (joinList_agree hR clauses.joins).bind fun joins joins' hjoins =>
    (conditionClause_agree hR (by decide) (steady_wrap_null hR) clauses.wheres).bind
      fun wheres wheres' hwheres =>
    (groupClause_agree hR clauses.groups).bind fun groups groups' hgroups =>
    (pagingClauses_agree hR clauses).bind fun paging paging' hpaging => .ok (hR.concatenate ?_)
  exact .cons_zero (hR.word (by decide)) (.cons_zero hcolumns (.cons_zero (hR.word (by decide))
    (.cons htable.1 (.cons_of_zero hjoins (.cons_zero hwheres (.cons_zero hgroups hpaging))))))

theorem criteriaOnly_agree (hR : Congruence R) {bindValues : Bool} {s s' : Statements}
    (h : ConditionsRel R a bindValues (s.criteria.getD []) (s'.criteria.getD [])) :
    Agree (R 0) (a.criteriaOnly s bindValues) (a.criteriaOnly s' bindValues) := by
  unfold criteriaOnly
  revert h
  generalize s.criteria.getD [] = cs
  generalize s'.criteria.getD [] = cs'
  intro h
  have hcriteria := criteria_agree hR { bindValues } h (steady_wrap_null hR)
  cases h with
  | nil => exact .ok hR.empty
  | columns | group | comparison => exact hcriteria

/-! ## Every operation -/

/-- Related requests have one outcome. -/
theorem fragment_agree (hR : Congruence R) {n : Nat} {op : Operation} {s s' : Statements}
    {payload payload' : List Value} (h : RequestRel R a n op s s' payload payload') :
    Agree (R n) (a.fragment op s payload) (a.fragment op s' payload') := by
  cases h with
  | select clauses members =>
    exact select_agree_of_members hR clauses (unionList_agree hR members)
  | insert hop target row update =>
    rcases hop with rfl | rfl | rfl <;> exact insert_agree hR _ target row update
  | update target clauses row => exact update_agree hR target clauses row
  | deleteAll target clauses =>
    exact delete_agree hR target clauses ⟨rfl, .misuse _⟩
  | delete target clauses items => exact delete_agree hR target clauses items
  | criteria conditions => exact criteriaOnly_agree hR conditions
  | @criteriaWith s s' bound bound' hbound conditions =>
    have := criteriaOnly_agree hR conditions
    show Agree (R 0) (a.criteriaOnly s bound.isTrue) (a.criteriaOnly s' bound'.isTrue)
    rwa [hbound]
  | refused h h' =>
    rw [h, h']
    exact .misuse _

end Related

end SqlBuilder.Adapter
