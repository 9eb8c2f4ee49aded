import SqlBuilder.Proofs.Related.Statement
import SqlBuilder.Proofs.Splicing.Context

/-!
# Statements of which one clause varies

If what is written for one clause has a context in the clause, what is written for the whole
statement has a context in the statement (`Uniform`, `Fragment.Framed`): for the tables, the joins
and the conditions of a select, of its members in a union, of an update and of a delete, and for the
data of an insert.
-/

set_option autoImplicit false

namespace SqlBuilder.Adapter

open Fragment Text

variable {α : Type} {w : α → Fragment} (a : Adapter) (s : Statements)

/-- The tables and their alias: only what is written for the tables varies. -/
def NamedTables (w : α → Fragment) (g : α → Fragment × Value) : Prop :=
  ∃ f name, Framed w f ∧ ∀ x, g x = (f x, name)

/-! ## Joins and conditions -/

/-- One of the joins varies. -/
theorem uniform_joinList {joins : α → List JoinEntry} {front back : List JoinEntry}
    {hole : α → JoinEntry} (hjoins : ∀ x, joins x = front ++ hole x :: back)
    (h : Uniform (Framed w) fun x => a.joinClause (hole x)) :
    Uniform (Framed w) fun x => a.joinList { s with joins := some (joins x) } := by
  simp only [joinList, Option.getD_some, hjoins]
  exact (h.mapM front back).bind fun _ hgs => .ok (Framed.intercalate hgs " ")

/-- A list of conditions that is not empty. -/
theorem uniform_conditionClause {keyword : String} {qualifier : Value}
    {conditions : α → List Condition} (hne : ∀ x, conditions x ≠ [])
    (h : Uniform (Framed w) fun x => a.criteria { qualifier } (conditions x)) :
    Uniform (Framed w) fun x => a.conditionClause keyword qualifier (some (conditions x)) := by
  have hclause : ∀ x, a.conditionClause keyword qualifier (some (conditions x)) = (do
      let criteria ← a.criteria { qualifier } (conditions x)
      pure (Fragment.ofText (keyword ++ " ") ++ criteria)) := by
    intro x
    rw [conditionClause, Option.getD_some]
    split
    · exact absurd ‹_› (hne x)
    · rfl
  simp only [hclause]
  exact h.bind fun _ hg => .ok (hg.const_append _)

/-! ## Selects -/

/-- The leading words of a select. -/
def selectVerb (s : Statements) : Fragment :=
  ofText (if s.isDistinct then "SELECT DISTINCT" else "SELECT")

section Select

variable (hw : ∀ x, Visible (w x).sql.toList)
include hw

theorem uniform_selectMember_tables {tables : α → Value}
    (h : Uniform (NamedTables w) fun x => a.tableList { s with tables := tables x }) :
    Uniform (Framed w) fun x => a.selectMember { s with tables := tables x } := by
  simp only [selectMember]
  refine .read (selectItems s) fun items => .read _ fun columns => h.bind ?_
  rintro g ⟨f, name, hf, hg⟩
  have hfrom : ∀ x, (if (f x).sql = "" then "" else "FROM") = "FROM" := fun x =>
    if_neg (hf.visible hw x).ne_empty
  simp only [hg, hfrom]
  exact .read (a.joinList s) fun joins => .read _ fun wheres => .read (a.groupClause s)
    fun groups => .read _ fun havings => .read (a.pagingClauses s) fun paging =>
      .ok (Framed.concatenate
        ⟨[selectVerb s, _, _], f, [_, _, _, _] ++ paging ++ [lockClause s], hf, fun _ => rfl⟩ hw)

theorem uniform_selectMember_joins {joins : α → Option (List JoinEntry)}
    (h : Uniform (Framed w) fun x => a.joinList { s with joins := joins x }) :
    Uniform (Framed w) fun x => a.selectMember { s with joins := joins x } := by
  simp only [selectMember]
  exact .read (selectItems s) fun items => .read _ fun columns => .read (a.tableList s)
    fun tables => h.bind fun f hf => .read _ fun wheres => .read (a.groupClause s) fun groups =>
      .read _ fun havings => .read (a.pagingClauses s) fun paging =>
        .ok (Framed.concatenate
          ⟨[selectVerb s, _, _, _], f, [_, _, _] ++ paging ++ [lockClause s], hf, fun _ => rfl⟩ hw)

/-- The conditions vary, qualified by the alias of the last table. -/
theorem uniform_selectMember_wheres_of {wheres : α → Option (List Condition)}
    (h : ∀ tables qualifier, a.tableList s = .ok (tables, qualifier) →
      Uniform (Framed w) fun x => a.conditionClause "WHERE" qualifier (wheres x)) :
    Uniform (Framed w) fun x => a.selectMember { s with wheres := wheres x } := by
  simp only [selectMember]
  exact .read (selectItems s) fun items => .read _ fun columns => .read_of (a.tableList s)
    fun tables htables => .read (a.joinList s) fun joins => (h _ _ htables).bind fun f hf =>
      .read (a.groupClause s) fun groups => .read _ fun havings => .read (a.pagingClauses s)
        fun paging => .ok (Framed.concatenate ⟨[selectVerb s, _, _, _, _], f,
          [_, _] ++ paging ++ [lockClause s], hf, fun _ => rfl⟩ hw)

theorem uniform_selectMember_wheres {wheres : α → Option (List Condition)}
    (h : ∀ qualifier, Uniform (Framed w) fun x => a.conditionClause "WHERE" qualifier (wheres x)) :
    Uniform (Framed w) fun x => a.selectMember { s with wheres := wheres x } :=
  a.uniform_selectMember_wheres_of s hw fun _ qualifier _ => h qualifier

theorem uniform_selectMember_havings {havings : α → Option (List Condition)}
    (h : ∀ qualifier,
      Uniform (Framed w) fun x => a.conditionClause "HAVING" qualifier (havings x)) :
    Uniform (Framed w) fun x => a.selectMember { s with havings := havings x } := by
  simp only [selectMember]
  exact .read (selectItems s) fun items => .read _ fun columns => .read (a.tableList s)
    fun tables => .read (a.joinList s) fun joins => .read _ fun wheres =>
      .read (a.groupClause s) fun groups => (h _).bind fun f hf => .read (a.pagingClauses s)
        fun paging => .ok (Framed.concatenate ⟨[selectVerb s, _, _, _, _, _, _], f,
          paging ++ [lockClause s], hf, fun _ => rfl⟩ hw)

end Select

/-! ## Unions -/

theorem framed_asMember {S : α → Statements} {frame : Option (String × String)}
    (hframe : ∀ x, a.dialect.memberFrame (S x) = frame) {f : α → Fragment} (hf : Framed w f) :
    Framed w fun x => a.asMember (S x) (f x) := by
  simp only [asMember, Dialect.unionMember, hframe]
  cases frame with
  | none => exact hf
  | some frame =>
    refine ((hf.append_const (ofText frame.2)).const_append (ofText frame.1)).congr fun x => ?_
    rw [← append_assoc, framed_eq]

/-- A clause of the select itself varies. -/
theorem uniform_select {S : α → Statements}
    (hframe : ∀ x, a.dialect.memberFrame (S x) = a.dialect.memberFrame s)
    (hunions : ∀ x, (S x).unions = s.unions)
    (h : Uniform (Framed w) fun x => a.selectMember (S x)) :
    Uniform (Framed w) fun x => a.select (S x) := by
  simp only [select_eq, hunions]
  refine h.bind fun f hf => .read _ fun others => .ok ?_
  cases others with
  | nil => exact hf
  | cons => exact .intercalate ⟨[], _, _, framed_asMember a hframe hf, fun _ => rfl⟩ " "

/-- One of the further members varies. -/
theorem uniform_unionList {S : α → Statements} {frame : Option (String × String)}
    (hframe : ∀ x, a.dialect.memberFrame (S x) = frame)
    (h : Uniform (Framed w) fun x => a.select (S x)) (front back : List UnionEntry) (type : Value)
    (identity : List Nat) :
    Uniform (Among (Framed w)) fun x => unionList a (front ++ ⟨S x, type, identity⟩ :: back) := by
  induction front with
  | nil =>
    simp only [List.nil_append, unionList]
    exact h.bind fun f hf => .read _ fun rest =>
      .ok ⟨[_], _, rest, framed_asMember a hframe hf, fun _ => rfl⟩
  | cons entry front ih =>
    obtain ⟨statements, type', identity'⟩ := entry
    simp only [List.cons_append, unionList]
    refine .read _ fun member => ih.bind ?_
    rintro gs ⟨front, g, back, hg, hgs⟩
    exact .ok ⟨ofText (a.dialect.unionOperator type') :: a.asMember statements member :: front, g,
      back, hg, fun x => by simp only [hgs, List.cons_append]⟩

theorem uniform_select_unions {unions : α → List UnionEntry}
    (h : Uniform (Among (Framed w)) fun x => unionList a (unions x)) :
    Uniform (Framed w) fun x => a.select { s with unions := some (unions x) } := by
  simp only [select_eq, Option.getD_some]
  refine .read (a.selectMember s) fun member => h.bind ?_
  rintro gs ⟨front, g, back, hg, hgs⟩
  have hothers : ∀ x, (gs x).isEmpty = false := fun x => by rw [hgs]; cases front <;> rfl
  simp only [hothers, Bool.false_eq_true, if_false]
  exact .ok (.intercalate ⟨a.asMember s member :: front, g, back, hg,
    fun x => congrArg (a.asMember s member :: ·) (hgs x)⟩ " ")

/-! ## Updates and deletes -/

section Write

variable (hw : ∀ x, Visible (w x).sql.toList)
include hw

theorem uniform_update_joins (data : Value) {joins : α → Option (List JoinEntry)}
    (h : Uniform (Framed w) fun x => a.joinList { s with joins := joins x }) :
    Uniform (Framed w) fun x => a.update { s with joins := joins x } data := by
  simp only [update]
  cases data.isTrue with
  | false => exact .error _
  | true =>
    exact .read (targetTable s "UPDATE") fun table => .read (a.aliasedTable s table)
      fun named => h.bind fun f hf => .read _ fun row => .read _ fun wheres =>
        .read (a.groupClause s) fun groups => .read (a.pagingClauses s) fun paging =>
          .ok (Framed.concatenate ⟨[_, _], f, [_, _, _] ++ paging, hf, fun _ => rfl⟩ hw)

/-- The conditions vary, qualified by the alias of the table that is written to. -/
theorem uniform_update_wheres_of (data : Value) {wheres : α → Option (List Condition)}
    (h : ∀ table named qualifier, targetTable s "UPDATE" = .ok table →
      a.aliasedTable s table = .ok (named, qualifier) →
      Uniform (Framed w) fun x => a.conditionClause "WHERE" qualifier (wheres x)) :
    Uniform (Framed w) fun x => a.update { s with wheres := wheres x } data := by
  simp only [update]
  cases data.isTrue with
  | false => exact .error _
  | true =>
    exact .read_of (targetTable s "UPDATE") fun table htable =>
      .read_of (a.aliasedTable s table) fun named hnamed => .read (a.joinList s)
        fun joins => .read _ fun row => (h _ _ _ htable hnamed).bind fun f hf =>
          .read (a.groupClause s) fun groups => .read (a.pagingClauses s) fun paging =>
            .ok (Framed.concatenate ⟨[_, _, _, _], f, [_] ++ paging, hf, fun _ => rfl⟩ hw)

theorem uniform_update_wheres (data : Value) {wheres : α → Option (List Condition)}
    (h : ∀ qualifier, Uniform (Framed w) fun x => a.conditionClause "WHERE" qualifier (wheres x)) :
    Uniform (Framed w) fun x => a.update { s with wheres := wheres x } data :=
  a.uniform_update_wheres_of s hw data fun _ _ qualifier _ _ => h qualifier

theorem uniform_delete_joins (columns : Value) {joins : α → Option (List JoinEntry)}
    (h : Uniform (Framed w) fun x => a.joinList { s with joins := joins x }) :
    Uniform (Framed w) fun x => a.delete { s with joins := joins x } columns := by
  simp only [delete]
  exact .read (targetTable s "DELETE") fun table => .read _ fun columns => h.bind fun f hf =>
    .read _ fun wheres => .read (a.groupClause s) fun groups => .read (a.pagingClauses s)
      fun paging => .ok (Framed.concatenate ⟨[_, _, _, _], f, [_, _] ++ paging, hf,
        fun _ => rfl⟩ hw)

theorem uniform_delete_wheres (columns : Value) {wheres : α → Option (List Condition)}
    (h : ∀ qualifier, Uniform (Framed w) fun x => a.conditionClause "WHERE" qualifier (wheres x)) :
    Uniform (Framed w) fun x => a.delete { s with wheres := wheres x } columns := by
  simp only [delete]
  exact .read (targetTable s "DELETE") fun table => .read _ fun columns => .read (a.joinList s)
    fun joins => (h _).bind fun f hf => .read (a.groupClause s) fun groups =>
      .read (a.pagingClauses s) fun paging => .ok (Framed.concatenate ⟨[_, _, _, _, _], f,
        [_] ++ paging, hf, fun _ => rfl⟩ hw)

end Write

/-! ## Queries -/

/-- Either every query is refused with one fault, or there is one text before and one behind what is
written for the place, and one list of values bound before its own and one behind them. -/
def InContext (w : α → Fragment) (query : α → Result CompiledQuery) : Prop :=
  (∃ fault, ∀ x, query x = .error fault) ∨
  ∃ before after : Fragment, ∀ x, ∃ text : String, Trims (w x).sql.toList text.toList ∧
    query x = .ok
      { sql := .text (before.sql ++ text ++ after.sql)
        bindings := .positional (before.bindings ++ (w x).bindings ++ after.bindings)
        adapter := some a }

theorem compile_inContext {op : Operation} {S : α → Statements} {payload : α → List Value}
    (h : Uniform (Framed w) fun x => a.fragment op (S x) (payload x)) :
    a.InContext w fun x => a.compile op (S x) (payload x) := by
  rcases h with ⟨fault, h⟩ | ⟨g, ⟨before, after, hg⟩, h⟩
  · exact .inl ⟨fault, fun x => by simp only [compile, h]; rfl⟩
  · refine .inr ⟨before, after, fun x => ?_⟩
    obtain ⟨text, htext, heq⟩ := hg x
    exact ⟨text, htext, by simp only [compile, h, heq]; rfl⟩

end SqlBuilder.Adapter
