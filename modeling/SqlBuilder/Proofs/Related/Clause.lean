import SqlBuilder.Proofs.Related.Criteria

/-!
# Related clauses

What two statements must have in common for their clauses to be written alike, clause by clause.

* `ItemsRel`: lists of expressions, compared by what is written for each (`columnList_agree`).
* `JoinsRel`: joins in order; their grade is what their tables lack (`joinList_agree`).
* `RowRel`, `DataRel`: rows of data and assignments (`assignments_related`).
* `SharedRel`: the clauses that select, update and delete have in common.
-/

set_option autoImplicit false

namespace SqlBuilder.Adapter

open Fragment

section Related

variable (R : Nat → Fragment → Fragment → Prop) (a : Adapter)

/-! ## Relations -/

/-- Expressions for which related fragments are written. -/
def ItemsRel (items items' : List Value) : Prop :=
  List.Forall₂ (fun v v' => Agree (R 0) (a.columnItem v) (a.columnItem v')) items items'

/-- A table and its alias, which is the same in both runs. -/
def TableRel (n : Nat) (table table' : Fragment × Value) : Prop :=
  R n table.1 table'.1 ∧ table.2 = table'.2 ∧ Steady R (a.wrap table.2)

/-- Joins of one kind. -/
structure JoinRel (n : Nat) (join join' : JoinEntry) : Prop where
  kind_eq : join'.kind = join.kind
  kind : ∀ word, joinKind join.kind = .ok word → Steady R word
  table : Agree (R n) (a.joinTable join.table) (a.joinTable join'.table)
  criteria : ConditionsRel R a false join.criteria join'.criteria

/-- Joins in order, by the sum of their grades. -/
inductive JoinsRel : Nat → List JoinEntry → List JoinEntry → Prop where
  | nil : JoinsRel 0 [] []
  | cons {n m : Nat} {join join' : JoinEntry} {joins joins' : List JoinEntry}
      (h : JoinRel R a n join join') (hs : JoinsRel m joins joins') :
      JoinsRel (n + m) (join :: joins) (join' :: joins')

/-- Fields to order by, in one direction. -/
structure OrderRel (entry entry' : OrderEntry) : Prop where
  field : Named R a entry.field entry'.field
  direction_eq : entry'.direction = entry.direction
  direction : Steady R entry.direction.toText

/-- A limit that may be written in both runs. -/
def CountRel (v : Value) : Prop := ∀ text, v.written = .ok text → Steady R text

/-- Rows with the same columns. -/
def RowRel : List (Value × Value) → List (Value × Value) → Prop :=
  List.Forall₂ fun entry entry' => a.wrap entry.1 = a.wrap entry'.1 ∧ Steady R (a.wrap entry.1) ∧
    R 0 (dataValue entry.2) (dataValue entry'.2)

/-- Data that are both missing, both no rows, or rows with the same columns. -/
structure DataRel (data data' : Value) : Prop where
  isNull_eq : data'.isNull = data.isNull
  isTrue_eq : data'.isTrue = data.isTrue
  row : Agree (RowRel R a) (rowEntries data) (rowEntries data')

/-- The clauses that several operations write. -/
structure SharedRel (n : Nat) (s s' : Statements) : Prop where
  joins : JoinsRel R a n (s.joins.getD []) (s'.joins.getD [])
  wheres : ConditionsRel R a true (s.wheres.getD []) (s'.wheres.getD [])
  groups : Agree (ItemsRel R a) s.groupings s'.groupings
  orders : List.Forall₂ (OrderRel R a) (s.orderBys.getD []) (s'.orderBys.getD [])
  limit_eq : s'.limit = s.limit
  limit : CountRel R s.limit
  offset_eq : s'.offset = s.offset
  offset : CountRel R s.offset

variable {R a}

/-! ## Columns and tables -/

theorem columnItem_named {v v' : Value} (h : Named R a v v')
    (haliased : ∀ expression name, v ≠ .aliased expression name) :
    Agree (R 0) (a.columnItem v) (a.columnItem v') := by
  have hitem : ∀ {w : Value}, (∀ expression name, w ≠ .aliased expression name) →
      a.columnItem w = .ok (a.nameFragment w) := by
    intro w hw
    cases w <;> first | rfl | exact absurd rfl (hw _ _)
  have haliased' : ∀ expression name, v' ≠ .aliased expression name := by
    cases h with
    | raw h => intro _ _ h; cases h
    | name hraw h => exact haliased
  rw [hitem haliased, hitem haliased']
  exact .ok h.nameFragment

theorem columnList_agree (hR : Congruence R) {items items' : List Value}
    (h : ItemsRel R a items items') : Agree (R 0) (a.columnList items) (a.columnList items') :=
  (Agree.mapM h).bind fun _ _ h => .ok (hR.intercalate (hR.word (by decide)) (.of_forall₂ h))

/-! ## Joins -/

/-- The conditions of a join. -/
def joinCriteria (a : Adapter) (conditions : List Condition) : Result Fragment :=
  if conditions.isEmpty then pure Fragment.empty
  else a.criteria { bindValues := false } conditions

theorem joinClause_eq (join : JoinEntry) :
    a.joinClause join = (do
      let table ← a.joinTable join.table
      let criteria ← a.joinCriteria join.criteria
      let kind ← joinKind join.kind
      pure (Fragment.concatenate [ofText kind, ofText "JOIN", table, criteria])) := by
  unfold joinClause joinCriteria
  split <;> rfl

theorem joinCriteria_agree (hR : Congruence R) {cs cs' : List Condition}
    (h : ConditionsRel R a false cs cs') :
    Agree (R 0) (a.joinCriteria cs) (a.joinCriteria cs') := by
  have hcriteria := criteria_agree hR { bindValues := false } h (steady_wrap_null hR)
  unfold joinCriteria
  cases h with
  | nil => exact .ok hR.empty
  | columns | group | comparison => exact hcriteria

theorem joinClause_agree (hR : Congruence R) {n : Nat} {join join' : JoinEntry}
    (h : JoinRel R a n join join') : Agree (R n) (a.joinClause join) (a.joinClause join') := by
  rw [joinClause_eq, joinClause_eq, h.kind_eq]
  refine h.table.bind fun table table' htable =>
    (joinCriteria_agree hR h.criteria).bind fun criteria criteria' hcriteria =>
    (Agree.refl (R := fun word word' => word = word' ∧ Steady R word)
      fun word hword => ⟨rfl, h.kind word hword⟩).bind ?_
  rintro word _ ⟨rfl, hword⟩
  exact .ok (hR.concatenate (.cons_zero hword (.cons_zero (hR.word (by decide))
    (.cons htable (.cons_zero hcriteria .nil)))))

theorem joinList_agree (hR : Congruence R) {n : Nat} {s s' : Statements}
    (h : JoinsRel R a n (s.joins.getD []) (s'.joins.getD [])) :
    Agree (R n) (a.joinList s) (a.joinList s') := by
  have hpieces : ∀ {n joins joins'}, JoinsRel R a n joins joins' →
      Agree (Graded R n) (joins.mapM a.joinClause) (joins'.mapM a.joinClause) := by
    intro n joins joins' h
    induction h with
    | nil => exact .ok .nil
    | cons h _ ih =>
      rw [List.mapM_cons, List.mapM_cons]
      exact (joinClause_agree hR h).bind fun _ _ hf => ih.bind fun _ _ hfs => .ok (.cons hf hfs)
  exact (hpieces h).bind fun _ _ h => .ok (hR.intercalate (hR.word (by decide)) h)

/-! ## Conditions, grouping, order and limits -/

theorem conditionClause_agree (hR : Congruence R) {keyword : String} {qualifier : Value}
    (hkeyword : Placeholder.signs keyword.toList = []) (hqualifier : Steady R (a.wrap qualifier))
    {conditions conditions' : Option (List Condition)}
    (h : ConditionsRel R a true (conditions.getD []) (conditions'.getD [])) :
    Agree (R 0) (a.conditionClause keyword qualifier conditions)
      (a.conditionClause keyword qualifier conditions') := by
  have hwords : Steady R (keyword ++ " ") := hR.word (by simp [hkeyword]; decide)
  rw [conditionClause, conditionClause]
  revert h
  generalize conditions.getD [] = cs
  generalize conditions'.getD [] = cs'
  intro h
  have hcriteria := criteria_agree hR { qualifier } h hqualifier
  cases h with
  | nil => exact .ok hR.empty
  | columns | group | comparison =>
    exact hcriteria.bind fun _ _ h => .ok (hR.append_zero hwords h)

theorem groupClause_agree (hR : Congruence R) {s s' : Statements}
    (h : Agree (ItemsRel R a) s.groupings s'.groupings) :
    Agree (R 0) (a.groupClause s) (a.groupClause s') := by
  refine h.bind fun items items' h => ?_
  have hlist := columnList_agree hR h
  cases h with
  | nil => exact .ok hR.empty
  | cons =>
    exact hlist.bind fun _ _ h => .ok (hR.append_zero (hR.word (by decide)) h)

theorem orderClause_related (hR : Congruence R) {s s' : Statements}
    (h : List.Forall₂ (OrderRel R a) (s.orderBys.getD []) (s'.orderBys.getD [])) :
    R 0 (a.orderClause s) (a.orderClause s') := by
  have hfield : ∀ {entry entry' : OrderEntry}, OrderRel R a entry entry' →
      R 0 (a.nameFragment entry.field ++ ofText (" " ++ entry.direction.toText))
        (a.nameFragment entry'.field ++ ofText (" " ++ entry'.direction.toText)) := by
    intro entry entry' h
    rw [h.direction_eq]
    exact hR.append_zero h.field.nameFragment
      (hR.steady_append (hR.word (by decide)) h.direction)
  rw [orderClause, orderClause]
  revert h
  generalize s.orderBys.getD [] = entries
  generalize s'.orderBys.getD [] = entries'
  intro h
  cases h with
  | nil => exact hR.empty
  | cons h hs =>
    refine hR.append_zero (hR.word (by decide)) (hR.intercalate (hR.word (by decide))
      (.of_forall₂ ?_))
    exact .cons (hfield h) (List.forall₂_map_left_iff.2 (List.forall₂_map_right_iff.2
      (hs.imp fun _ _ => hfield)))

theorem countClause_agree (hR : Congruence R) {keyword : String}
    (hkeyword : Placeholder.signs keyword.toList = []) {v : Value} (h : CountRel R v) :
    Agree (R 0) (countClause keyword v) (countClause keyword v) := by
  unfold countClause
  split
  · exact .ok hR.empty
  · refine (Agree.refl (R := fun text text' => text = text' ∧ Steady R text)
      fun text htext => ⟨rfl, h text htext⟩).bind ?_
    rintro text _ ⟨rfl, htext⟩
    exact .ok (hR.steady_append (hR.word (by simp [hkeyword]; decide)) htext)

theorem pagingClauses_agree (hR : Congruence R) {n : Nat} {s s' : Statements}
    (h : SharedRel R a n s s') :
    Agree (Graded R 0) (a.pagingClauses s) (a.pagingClauses s') := by
  rw [pagingClauses, pagingClauses, h.limit_eq, h.offset_eq]
  exact (countClause_agree hR (by decide) h.limit).bind fun _ _ hlimit =>
    (countClause_agree hR (by decide) h.offset).bind fun _ _ hoffset =>
      .ok (.cons_zero (orderClause_related hR h.orders)
        (.cons_zero hlimit (.cons_zero hoffset .nil)))

/-! ## Assignments -/

theorem assignments_related (hR : Congruence R) {row row' : List (Value × Value)}
    (h : RowRel R a row row') : R 0 (a.assignments row) (a.assignments row') := by
  refine hR.intercalate (hR.word (by decide)) (.of_forall₂ ?_)
  refine List.forall₂_map_left_iff.2 (List.forall₂_map_right_iff.2 (h.imp ?_))
  rintro ⟨column, v⟩ ⟨column', v'⟩ ⟨hcolumn, hsteady, hv⟩
  dsimp only at hcolumn hsteady hv ⊢
  rw [← hcolumn]
  exact hR.append_zero (hR.steady_append hsteady (hR.word (by decide))) hv

end Related

end SqlBuilder.Adapter
