import SqlBuilder.Adapter.Statement
import SqlBuilder.Proofs.Quoting.Clauses
import SqlBuilder.Proofs.Related.Statement

/-!
# Quoting adds quotes only

`compile_quoting`: statements with clean names, compiled with quoted names and without, fail with
one fault or become queries with the same values, the second of which has the text of the first
without the identifier quotes. One lemma for each operation leads to it; for a select it is an
induction over the members of its unions (`unionList_unquoted`).
-/

set_option autoImplicit false

namespace SqlBuilder

open Text Adapter Fragment

section

variable (d : Dialect)

/-- Members of unions with clean names. -/
inductive MembersClean : List UnionEntry → Prop where
  | nil : MembersClean []
  | cons {s : Statements} {type : Value} {identity : List Nat} {entries : List UnionEntry}
      (clauses : ClausesClean d s) (inner : MembersClean (s.unions.getD []))
      (htype : d.Free type.toText) (rest : MembersClean entries) :
      MembersClean (⟨s, type, identity⟩ :: entries)

/-- Right-hand sides of bare conditions are bound. -/
def bindsCriteria : List Value → Bool
  | [] => true
  | bindValues :: _ => bindValues.isTrue

/-- What an operation is given besides the statements. -/
def PayloadClean (op : Operation) (payload : List Value) : Prop :=
  match op with
  | .insert | .insertIgnore | .replace | .update => ∀ v ∈ payload, v.RowClean d
  | .delete => ∀ v ∈ payload, ∀ items, v.elements? = some items → ∀ w ∈ items, w.ItemClean d
  | .select | .criteria => True

/-- A request whose names are clean and whose other texts have no quotes. The table that is written
to is a name. -/
structure RequestClean (op : Operation) (s : Statements) (payload : List Value) : Prop where
  clauses : ClausesClean d s
  members : MembersClean d (s.unions.getD [])
  criteria : op = .criteria → ConditionsClean d (bindsCriteria payload) (s.criteria.getD [])
  target : op ≠ .select → op ≠ .criteria →
    ∀ clause table, targetTable s clause = .ok table → table.Clean d
  payload : PayloadClean d op payload

end

namespace Adapter

variable {d : Dialect}

/-! ## Joins, grouping, order and limits -/

theorem joinTable_unquoted {table : Value} (h : table.JoinTableClean d) :
    Agree (Unquoted d) (d.quoting.joinTable table) (d.plain.joinTable table) := by
  have hname : table.Clean d → Agree (Unquoted d) (.ok (d.quoting.nameFragment table))
      (.ok (d.plain.nameFragment table)) := fun h => .ok (nameFragment_unquoted h)
  unfold joinTable
  split
  · have has : d.Free " AS " := by cases d <;> decide
    exact .ok ((h.1.wrap.append (.word has)).append h.2.wrap)
  · exact .misuse _
  · rename_i hpair hother
    refine hname ?_
    unfold Value.JoinTableClean at h
    split at h
    · exact absurd rfl (hpair _ _)
    · exact absurd rfl (hother _)
    · exact h

theorem free_joinKind {kind : Value} (h : kind.WordClean d) {word : String}
    (hword : joinKind kind = .ok word) : d.Free word := by
  obtain ⟨upper, hupper, hword⟩ := bind_ok hword
  cases kind with
  | text s =>
    cases hupper
    cases hword
    exact Value.free_upper (h s rfl)
  | bytes octets =>
    cases hupper
    dsimp only at hword
    split at hword
    · cases hword
      cases d <;> decide
    · cases hword
  | _ => cases hupper

theorem joinClause_unquoted {join : JoinEntry} (h : join.Clean d) :
    Agree (Unquoted d) (d.quoting.joinClause join) (d.plain.joinClause join) := by
  have hcriteria : Agree (Unquoted d) (d.quoting.joinCriteria join.criteria)
      (d.plain.joinCriteria join.criteria) := by
    unfold joinCriteria
    split
    · exact .ok .empty
    · exact criteria_unquoted _ h.criteria (clean_null d)
  rw [joinClause_eq, joinClause_eq]
  refine (joinTable_unquoted h.table).bind fun table table' htable =>
    hcriteria.bind fun criteria criteria' hcriteria =>
    (Agree.refl (R := fun word word' => word = word' ∧ d.Free word)
      fun word hword => ⟨rfl, free_joinKind h.kind hword⟩).bind ?_
  rintro word _ ⟨rfl, hword⟩
  exact .ok (.concatenate (.cons (.word hword) (.cons (.word (by cases d <;> decide))
    (.cons htable (.cons hcriteria .nil)))))

theorem joinList_unquoted {s : Statements} (h : ClausesClean d s) :
    Agree (Unquoted d) (d.quoting.joinList s) (d.plain.joinList s) :=
  (Agree.mapM (List.forall₂_same.2 fun join hjoin => joinClause_unquoted (h.joins join hjoin))).bind
    fun _ _ h => .ok (.intercalate (by cases d <;> decide) h)

theorem conditionClause_unquoted {keyword : String} {qualifier : Value}
    (hkeyword : d.Free (keyword ++ " ")) (hqualifier : qualifier.Clean d)
    {conditions : Option (List Condition)} (h : ConditionsClean d true (conditions.getD [])) :
    Agree (Unquoted d) (d.quoting.conditionClause keyword qualifier conditions)
      (d.plain.conditionClause keyword qualifier conditions) := by
  unfold conditionClause
  split
  · exact .ok .empty
  · exact (criteria_unquoted _ h hqualifier).bind fun _ _ h =>
    .ok ((Unquoted.word hkeyword).append h)

theorem groupClause_unquoted {s : Statements} (h : ClausesClean d s) :
    Agree (Unquoted d) (d.quoting.groupClause s) (d.plain.groupClause s) := by
  unfold groupClause
  refine (Agree.refl (R := fun items items' => items = items' ∧ ∀ v ∈ items, v.ItemClean d)
    fun items hitems => ⟨rfl, h.groupings items hitems⟩).bind ?_
  rintro items _ ⟨rfl, hclean⟩
  split
  · exact .ok .empty
  · exact (columnList_unquoted hclean).bind fun _ _ h =>
      .ok ((Unquoted.word (by cases d <;> decide)).append h)

theorem orderClause_unquoted {s : Statements} (h : ClausesClean d s) :
    Unquoted d (d.quoting.orderClause s) (d.plain.orderClause s) := by
  have hclean := h.orders
  unfold orderClause
  split
  · exact .empty
  · refine (Unquoted.word (by cases d <;> decide)).append (.intercalate (by cases d <;> decide)
      (Unquoted.map_same fun entry hentry => ?_))
    obtain ⟨hfield, hdirection⟩ := hclean entry hentry
    exact (nameFragment_unquoted hfield).append (.word (free_operator hdirection).1)

theorem countClause_unquoted {keyword : String} (hkeyword : d.Free (keyword ++ " ")) {v : Value}
    (h : d.Free v.toText) : Agree (Unquoted d) (countClause keyword v) (countClause keyword v) := by
  unfold countClause
  split
  · exact .ok .empty
  · have hwritten : ∀ text, v.written = .ok text → d.Free text := by
      intro text htext
      unfold Value.written at htext
      split at htext
      · split at htext
        · cases htext
        · cases htext
          exact h
      · cases htext
        exact h
    refine (Agree.refl (R := fun text text' => text = text' ∧ d.Free text)
      fun text htext => ⟨rfl, hwritten text htext⟩).bind ?_
    rintro text _ ⟨rfl, htext⟩
    exact .ok (.word (hkeyword.append htext))

theorem pagingClauses_unquoted {s : Statements} (h : ClausesClean d s) :
    Agree (List.Forall₂ (Unquoted d)) (d.quoting.pagingClauses s) (d.plain.pagingClauses s) :=
  (countClause_unquoted (by cases d <;> decide) h.limit).bind fun _ _ hlimit =>
    (countClause_unquoted (by cases d <;> decide) h.offset).bind fun _ _ hoffset =>
      .ok (.cons (orderClause_unquoted h) (.cons hlimit (.cons hoffset .nil)))

/-! ## Selecting -/

theorem selectMember_unquoted {s : Statements} (h : ClausesClean d s) :
    Agree (Unquoted d) (d.quoting.selectMember s) (d.plain.selectMember s) := by
  have hstar : ∀ v ∈ [Value.text "*"], v.ItemClean d := by
    intro v hv
    rw [List.mem_singleton.1 hv]
    exact ⟨by cases d <;> decide, fun _ => by decide⟩
  have hitems : ∀ items, selectItems s = .ok items → ∀ v ∈ items, v.ItemClean d := by
    intro items hitems
    obtain ⟨selected, hselected, hitems⟩ := bind_ok hitems
    split at hitems
    · cases hitems
      exact hstar
    · cases hitems
      exact h.selected _ hselected
  have hlock : Unquoted d (lockClause s) (lockClause s) := by
    unfold lockClause
    split
    · exact .word (Dialect.Free.append (by cases d <;> decide) h.lock)
    · exact .empty
  unfold selectMember
  refine (Agree.refl (R := fun items items' => items = items' ∧ ∀ v ∈ items, v.ItemClean d)
    fun items hok => ⟨rfl, hitems items hok⟩).bind ?_
  rintro items _ ⟨rfl, hclean⟩
  refine (columnList_unquoted hclean).bind fun columns columns' hcolumns =>
    (tableList_unquoted h).bind ?_
  rintro ⟨tables, qualifier⟩ ⟨tables', _⟩ ⟨htables, rfl, hqualifier⟩
  refine (joinList_unquoted h).bind fun joins joins' hjoins =>
    (conditionClause_unquoted (by cases d <;> decide) hqualifier h.wheres).bind
      fun wheres wheres' hwheres =>
    (groupClause_unquoted h).bind fun groups groups' hgroups =>
    (conditionClause_unquoted (by cases d <;> decide) hqualifier h.havings).bind
      fun havings havings' hhavings =>
    (pagingClauses_unquoted h).bind fun paging paging' hpaging => .ok ?_
  have hverb : d.Free (if s.isDistinct then "SELECT DISTINCT" else "SELECT") := by
    split <;> cases d <;> decide
  have hfrom : Unquoted d (ofText (if tables.sql = "" then "" else "FROM"))
      (ofText (if tables'.sql = "" then "" else "FROM")) := by
    by_cases hempty : tables.sql = ""
    · rw [if_pos hempty, if_pos (htables.empty_iff.1 hempty)]
      exact .empty
    · rw [if_neg hempty, if_neg (mt htables.empty_iff.2 hempty)]
      exact .word (by cases d <;> decide)
  refine .concatenate (List.rel_append (List.rel_append ?_ hpaging) (.cons hlock .nil))
  exact .cons (.word hverb) (.cons hcolumns (.cons hfrom (.cons htables (.cons hjoins
    (.cons hwheres (.cons hgroups (.cons hhavings .nil)))))))

theorem asMember_unquoted (s : Statements) {f f' : Fragment} (h : Unquoted d f f') :
    Unquoted d (d.quoting.asMember s f) (d.plain.asMember s f') := by
  have hframe : ∀ before after, d.memberFrame s = some (before, after) →
      d.Free before ∧ d.Free after := by
    intro before after hsome
    unfold Dialect.memberFrame at hsome
    split at hsome
    · split at hsome
      · cases hsome
      · cases hsome
        exact ⟨by decide, by decide⟩
    all_goals
      cases hsome
      exact ⟨by decide, by decide⟩
  show Unquoted d ⟨d.unionMember f.sql s, f.bindings⟩ ⟨d.unionMember f'.sql s, f'.bindings⟩
  unfold Dialect.unionMember
  cases hsome : d.memberFrame s with
  | none => exact h
  | some frame =>
    obtain ⟨hbefore, hafter⟩ := hframe frame.1 frame.2 hsome
    have hframed := ((Unquoted.word hbefore).append h).append (.word hafter)
    rwa [framed_eq, framed_eq] at hframed

theorem free_unionOperator {type : Value} (h : d.Free type.toText) :
    d.Free (d.unionOperator type) := by
  unfold Dialect.unionOperator
  split
  · decide
  · decide
  · split
    · exact Dialect.Free.append (by cases d <;> decide) h
    · cases d <;> decide

/-- A select with its unions, as far as the further members agree. -/
theorem select_unquoted_of_members {s : Statements} (h : ClausesClean d s)
    (hothers : Agree (List.Forall₂ (Unquoted d)) (unionList d.quoting (s.unions.getD []))
      (unionList d.plain (s.unions.getD []))) :
    Agree (Unquoted d) (select d.quoting s) (select d.plain s) := by
  rw [select_eq, select_eq]
  refine (selectMember_unquoted h).bind fun member member' hmember =>
    hothers.bind fun others others' hothers => .ok ?_
  cases hothers with
  | nil => exact hmember
  | cons hother hrest =>
    exact .intercalate (by cases d <;> decide)
      (.cons (asMember_unquoted s hmember) (.cons hother hrest))

theorem unionList_unquoted {entries : List UnionEntry} (h : MembersClean d entries) :
    Agree (List.Forall₂ (Unquoted d)) (unionList d.quoting entries)
      (unionList d.plain entries) := by
  induction h with
  | nil =>
    rw [unionList, unionList]
    exact .ok .nil
  | @cons s type identity entries clauses inner htype rest ihInner ihRest =>
    rw [unionList, unionList]
    exact (select_unquoted_of_members clauses ihInner).bind fun member member' hmember =>
      ihRest.bind fun others others' hothers => .ok (.cons (.word (free_unionOperator htype))
        (.cons (asMember_unquoted s hmember) hothers))

/-! ## Writing -/

theorem row_clean {data : Value} (h : data.RowClean d) {row : List (Value × Value)}
    (hrow : rowEntries data = .ok row) : ∀ e ∈ row, e.1.Clean d ∧ e.2.RawClean d := by
  cases data with
  | map =>
    cases hrow
    exact h _ rfl
  | _ => cases hrow

theorem rowEntries_agree {data : Value} (h : data.RowClean d) :
    Agree (fun row row' => row = row' ∧ ∀ e ∈ row, e.1.Clean d ∧ e.2.RawClean d)
      (rowEntries data) (rowEntries data) :=
  .refl fun _ hrow => ⟨rfl, row_clean h hrow⟩

theorem dataValue_unquoted {v : Value} (h : v.RawClean d) :
    Unquoted d (dataValue v) (dataValue v) := by
  cases v with
  | raw sql bindings => exact .raw (h rfl) bindings
  | _ => exact .bound _

theorem assignments_unquoted {row : List (Value × Value)}
    (h : ∀ e ∈ row, e.1.Clean d ∧ e.2.RawClean d) :
    Unquoted d (d.quoting.assignments row) (d.plain.assignments row) := by
  refine .intercalate (by cases d <;> decide) (Unquoted.map_same fun e he => ?_)
  have hequals : d.Free " = " := by cases d <;> decide
  exact ((h e he).1.wrap.append (.word hequals)).append (dataValue_unquoted (h e he).2)

theorem upsert_unquoted {s : Statements} (h : s.onDuplicate.RowClean d) :
    Agree (Unquoted d) (d.quoting.upsert s) (d.plain.upsert s) := by
  unfold upsert
  split
  · exact .ok .empty
  · split
    · exact .error _
    · refine (rowEntries_agree h).bind ?_
      rintro row _ ⟨rfl, hrow⟩
      have hassigned := assignments_unquoted hrow
      cases d with
      | mysql =>
        have hclause : Dialect.mysql.Free (Dialect.upsertClause ++ " ") := by decide
        exact .ok ((Unquoted.word hclause).append hassigned)
      | sqlite => exact .error _
      | postgres => exact .error _

theorem free_insertVerb {op : Operation} {verb : String} (h : d.insertVerb op = .ok verb) :
    d.Free (verb ++ " INTO") := by
  cases d <;> cases op <;> cases h <;> decide

theorem free_insertSuffix (op : Operation) : d.Free (d.insertSuffix op) := by
  cases d <;> cases op <;> decide

theorem insert_unquoted (op : Operation) {s : Statements} {data : Value}
    (target : ∀ table, targetTable s "INSERT" = .ok table → table.Clean d)
    (hdata : data.RowClean d) (hupdate : s.onDuplicate.RowClean d) :
    Agree (Unquoted d) (d.quoting.insert op s data) (d.plain.insert op s data) := by
  unfold insert
  refine (Agree.refl (R := fun table table' => table = table' ∧ table.Clean d)
    fun table htable => ⟨rfl, target table htable⟩).bind ?_
  rintro table _ ⟨rfl, htable⟩
  split
  · exact .error _
  · refine (rowEntries_agree hdata).bind ?_
    rintro row _ ⟨rfl, hrow⟩
    refine (Agree.refl (R := fun verb verb' => verb = verb' ∧ d.Free (verb ++ " INTO"))
      fun verb hverb => ⟨rfl, free_insertVerb hverb⟩).bind ?_
    rintro verb _ ⟨rfl, hverb⟩
    refine (upsert_unquoted hupdate).bind fun update update' hupdate => .ok (.concatenate ?_)
    have hcomma : d.Free ", " := by cases d <;> decide
    have hcolumns := Unquoted.intercalate hcomma (Unquoted.map_same fun e he => (hrow e he).1.wrap)
    have hvalues := Unquoted.intercalate hcomma
      (Unquoted.map_same fun e he => dataValue_unquoted (hrow e he).2)
    exact .cons (.word hverb) (.cons htable.wrap (.cons hcolumns.parenthesized
      (.cons ((Unquoted.word (by cases d <;> decide)).append hvalues.parenthesized)
        (.cons hupdate (.cons (.word (free_insertSuffix op)) .nil)))))

theorem update_unquoted {s : Statements} {data : Value} (h : ClausesClean d s)
    (target : ∀ table, targetTable s "UPDATE" = .ok table → table.Clean d)
    (hdata : data.RowClean d) :
    Agree (Unquoted d) (d.quoting.update s data) (d.plain.update s data) := by
  unfold update
  split
  · exact .error _
  refine (Agree.refl (R := fun table table' => table = table' ∧ table.Clean d)
    fun table htable => ⟨rfl, target table htable⟩).bind ?_
  rintro table _ ⟨rfl, htable⟩
  refine (aliasedTable_unquoted h htable).bind ?_
  rintro ⟨tableSql, qualifier⟩ ⟨tableSql', _⟩ ⟨htable, rfl, hqualifier⟩
  refine (joinList_unquoted h).bind fun joins joins' hjoins => (rowEntries_agree hdata).bind ?_
  rintro row _ ⟨rfl, hrow⟩
  refine (conditionClause_unquoted (by cases d <;> decide) hqualifier h.wheres).bind
      fun wheres wheres' hwheres =>
    (groupClause_unquoted h).bind fun groups groups' hgroups =>
    (pagingClauses_unquoted h).bind fun paging paging' hpaging => .ok (.concatenate ?_)
  refine List.rel_append ?_ hpaging
  exact .cons (.word (by cases d <;> decide)) (.cons htable (.cons hjoins
    (.cons ((Unquoted.word (by cases d <;> decide)).append (assignments_unquoted hrow))
      (.cons hwheres (.cons hgroups .nil)))))

theorem deleteColumns_unquoted {columns : Value}
    (h : ∀ items, columns.elements? = some items → ∀ v ∈ items, v.ItemClean d) :
    Agree (Unquoted d) (d.quoting.deleteColumns columns) (d.plain.deleteColumns columns) := by
  unfold deleteColumns
  split
  · exact .ok .empty
  · split
    · rename_i items hitems
      exact columnList_unquoted (h items hitems)
    · exact .misuse _

theorem delete_unquoted {s : Statements} {columns : Value} (h : ClausesClean d s)
    (target : ∀ table, targetTable s "DELETE" = .ok table → table.Clean d)
    (hcolumns : ∀ items, columns.elements? = some items → ∀ v ∈ items, v.ItemClean d) :
    Agree (Unquoted d) (d.quoting.delete s columns) (d.plain.delete s columns) := by
  unfold delete
  refine (Agree.refl (R := fun table table' => table = table' ∧ table.Clean d)
    fun table htable => ⟨rfl, target table htable⟩).bind ?_
  rintro table _ ⟨rfl, htable⟩
  refine (deleteColumns_unquoted hcolumns).bind fun columns columns' hcolumns =>
    (joinList_unquoted h).bind fun joins joins' hjoins =>
    (conditionClause_unquoted (by cases d <;> decide) (clean_null d) h.wheres).bind
      fun wheres wheres' hwheres =>
    (groupClause_unquoted h).bind fun groups groups' hgroups =>
    (pagingClauses_unquoted h).bind fun paging paging' hpaging => .ok (.concatenate ?_)
  refine List.rel_append ?_ hpaging
  exact .cons (.word (by cases d <;> decide)) (.cons hcolumns
    (.cons (.word (by cases d <;> decide)) (.cons htable.wrap (.cons hjoins
      (.cons hwheres (.cons hgroups .nil))))))

theorem criteriaOnly_unquoted {bindValues : Bool} {s : Statements}
    (h : ConditionsClean d bindValues (s.criteria.getD [])) :
    Agree (Unquoted d) (d.quoting.criteriaOnly s bindValues)
      (d.plain.criteriaOnly s bindValues) := by
  unfold criteriaOnly
  split
  · exact .ok .empty
  · exact criteria_unquoted { bindValues } h (clean_null d)

/-! ## Every operation -/

theorem fragment_unquoted {op : Operation} {s : Statements} {payload : List Value}
    (h : RequestClean d op s payload) :
    Agree (Unquoted d) (d.quoting.fragment op s payload) (d.plain.fragment op s payload) := by
  unfold fragment
  split
  · exact select_unquoted_of_members h.clauses (unionList_unquoted h.members)
  · exact insert_unquoted _ (h.target (by decide) (by decide) _) (h.payload _ (by simp))
      h.clauses.onDuplicate
  · exact insert_unquoted _ (h.target (by decide) (by decide) _) (h.payload _ (by simp))
      h.clauses.onDuplicate
  · exact insert_unquoted _ (h.target (by decide) (by decide) _) (h.payload _ (by simp))
      h.clauses.onDuplicate
  · exact update_unquoted h.clauses (h.target (by decide) (by decide) _) (h.payload _ (by simp))
  · exact delete_unquoted h.clauses (h.target (by decide) (by decide) _)
      fun _ hitems => nomatch hitems
  · exact delete_unquoted h.clauses (h.target (by decide) (by decide) _) (h.payload _ (by simp))
  · exact criteriaOnly_unquoted (h.criteria rfl)
  · exact criteriaOnly_unquoted (h.criteria rfl)
  · exact .misuse _

/-- **Quoting adds quotes only.** Where names are not empty, have no identifier quotes in them and
no white space around them, and all other texts have no identifier quotes, the statements compiled
with quoted names and without fail with one fault, or become queries with the same values, and
erasing the quotes from the text of the first gives that of the second. -/
theorem compile_quoting (d : Dialect) (op : Operation) (s : Statements) (payload : List Value)
    (h : RequestClean d op s payload) :
    Agree (fun quoted unquoted => quoted.bindings = unquoted.bindings ∧
        ∃ sql, quoted.sql = .text sql ∧ unquoted.sql = .text (d.eraseQuotes sql))
      (Adapter.compile ⟨d, true⟩ op s payload) (Adapter.compile ⟨d, false⟩ op s payload) := by
  refine (fragment_unquoted h).bind fun f f' hf => .ok ⟨?_, f.sql, rfl, ?_⟩
  · rw [hf.bindings]
  · rw [hf.erased]

/-- A select with dots, stars and aliases in its names, a join, a nested group and a union. -/
def namedSelect : Statements :=
  { selects := .list [.text "u.*", .aliased (.text "COUNT(p.id)") (.text "posts")]
    tables := .list [.text "users"]
    aliases := .map [(.text "users", .text "U")]
    joins := some [⟨.text "left", .tuple [.text "posts", .text "p"],
      [⟨.text "p.user_id", .text "=", .text "u.id", .text "AND", .text "ON", []⟩]⟩]
    wheres := some
      [⟨.group [.plain (.text "age") (.text ">") (.int 7) (.text "AND")], .null, .null,
        .text "AND", .null, []⟩]
    unions := some
      [{ statements := { tables := .list [.text "old.users as o"] }, type := .text "ALL" }]
    limit := .int 3 }

theorem namedSelect_clean : RequestClean .mysql .select namedSelect [] := by
  have hword : ∀ s : String, Dialect.mysql.Free s → (Value.text s).WordClean .mysql := by
    rintro s h _ ⟨⟩
    exact h
  have hnull : Value.null.WordClean .mysql := by
    rintro _ ⟨⟩
  have hcomparison : ∀ {bindValues : Bool} {key operator value : Value}, (∀ gs, key ≠ .group gs) →
      key.Clean .mysql → Dialect.mysql.Free operator.toText → value.Clean .mysql →
      ∀ {leading}, leading.WordClean .mysql →
      ConditionsClean .mysql bindValues [⟨key, operator, value, .text "AND", leading, []⟩] :=
    fun hgroup hkey hop hvalue _ hleading => .comparison (hword _ (by decide)) hleading hgroup hkey
      hop ⟨fun _ => hvalue.free, fun _ _ => hvalue⟩ .nil
  have hjoin : JoinEntry.Clean .mysql ⟨.text "left", .tuple [.text "posts", .text "p"],
      [⟨.text "p.user_id", .text "=", .text "u.id", .text "AND", .text "ON", []⟩]⟩ :=
    ⟨hword _ (by decide), ⟨by decide, by decide⟩, hcomparison (by simp) (by decide)
      (by decide) (by decide) (hword _ (by decide))⟩
  have hgroup : ConditionsClean .mysql true (namedSelect.wheres.getD []) :=
    .group (hword _ (by decide)) hnull (hcomparison (by simp) (by decide) (by decide)
      (by decide) hnull) .nil
  have hmember : ClausesClean .mysql { tables := .list [.text "old.users as o"] } :=
    { selected := by rintro _ ⟨⟩; decide
      sources := by rintro _ ⟨⟩; decide
      aliases := by rintro _ ⟨⟩
      wheres := .nil
      havings := .nil
      joins := by simp
      groupings := by rintro _ ⟨⟩; decide
      orders := by simp
      limit := by decide
      offset := by decide
      lock := by decide
      onDuplicate := by rintro _ ⟨⟩ }
  refine ⟨?_, ?_, (nomatch ·), (absurd rfl ·), trivial⟩
  · exact {
      selected := by rintro _ ⟨⟩; decide
      sources := by rintro _ ⟨⟩; decide
      aliases := by rintro _ ⟨⟩; decide
      wheres := hgroup
      havings := .nil
      joins := by simpa [namedSelect] using hjoin
      groupings := by rintro _ ⟨⟩; decide
      orders := by simp [namedSelect]
      limit := by decide
      offset := by decide
      lock := by decide
      onDuplicate := by rintro _ ⟨⟩ }
  · exact .cons hmember .nil (by decide) .nil

theorem compile_quoting_of_named :
    RequestClean .mysql .select namedSelect [] ∧
      Agree (fun quoted unquoted => quoted.bindings = unquoted.bindings ∧
          ∃ sql, quoted.sql = .text sql ∧ unquoted.sql = .text (Dialect.mysql.eraseQuotes sql))
        (Adapter.compile ⟨.mysql, true⟩ .select namedSelect [])
        (Adapter.compile ⟨.mysql, false⟩ .select namedSelect []) :=
  ⟨namedSelect_clean, compile_quoting .mysql .select namedSelect [] namedSelect_clean⟩

end Adapter

end SqlBuilder
