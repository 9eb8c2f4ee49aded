import SqlBuilder.Proofs.Quoting.Names
import SqlBuilder.Proofs.Related.Clause

/-!
# Clauses with and without quotes

A clause is compiled for a dialect with quoted names and without. Where the names in it are clean
and the other texts are free of quotes (`ConditionsClean`, `ClausesClean`), both runs fail with one
fault or write fragments that are `Unquoted`: first the expressions and tables, then conditions,
then the clauses that select, update and delete have in common.
-/

set_option autoImplicit false

namespace SqlBuilder

open Text Adapter Fragment

/-! ## Clean clauses -/

namespace Value

variable (d : Dialect)

/-- What is written if it is a text has no quotes. -/
def WordClean (v : Value) : Prop := ∀ s, v = .text s → d.Free s

/-- A raw fragment has no quotes. -/
def RawClean (v : Value) : Prop := v.isRaw = true → d.Free v.toText

/-- A selected expression. -/
def ItemClean : Value → Prop
  | .aliased expression name => expression.Clean d ∧ name.Clean d
  | v => v.Clean d

instance (v : Value) : Decidable (v.ItemClean d) := by
  unfold ItemClean
  split <;> infer_instance

/-- What a condition compares with: a single value is a name where values are not bound. -/
structure OperandClean (bindValues : Bool) (v : Value) : Prop where
  raw : v.RawClean d
  name : bindValues = false → v.items? = none → v.Clean d

/-- The table of a join. -/
def JoinTableClean : Value → Prop
  | .tuple [main, name] => main.Clean d ∧ name.Clean d
  | .tuple _ => True
  | v => v.Clean d

/-- A row, if the data are one. -/
def RowClean (v : Value) : Prop :=
  ∀ entries, v = .map entries → ∀ e ∈ entries, e.1.Clean d ∧ e.2.RawClean d

end Value

section

variable (d : Dialect)

/-- Conditions with clean names whose words have no quotes. -/
inductive ConditionsClean : Bool → List Condition → Prop where
  | nil {bindValues : Bool} : ConditionsClean bindValues []
  | columns {bindValues : Bool} {key operator value joiner leading : Value} {columns : List Value}
      {cs : List Condition} (hjoiner : joiner.WordClean d) (hleading : leading.WordClean d)
      (hne : columns ≠ []) (h : ∀ v ∈ columns, v.Clean d) (rest : ConditionsClean bindValues cs) :
      ConditionsClean bindValues (⟨key, operator, value, joiner, leading, columns⟩ :: cs)
  | group {bindValues : Bool} {operator value joiner leading : Value} {gs cs : List Condition}
      (hjoiner : joiner.WordClean d) (hleading : leading.WordClean d)
      (inner : ConditionsClean true gs) (rest : ConditionsClean bindValues cs) :
      ConditionsClean bindValues (⟨.group gs, operator, value, joiner, leading, []⟩ :: cs)
  | comparison {bindValues : Bool} {key operator value joiner leading : Value}
      {cs : List Condition} (hjoiner : joiner.WordClean d) (hleading : leading.WordClean d)
      (hgroup : ∀ gs, key ≠ .group gs) (hkey : key.Clean d) (hop : d.Free operator.toText)
      (h : value.OperandClean d bindValues) (rest : ConditionsClean bindValues cs) :
      ConditionsClean bindValues (⟨key, operator, value, joiner, leading, []⟩ :: cs)

/-- A join with clean names. Right-hand sides of its conditions are names. -/
structure JoinEntry.Clean (join : JoinEntry) : Prop where
  kind : join.kind.WordClean d
  table : join.table.JoinTableClean d
  criteria : ConditionsClean d false join.criteria

/-- Clauses with clean names and without quotes elsewhere. -/
structure ClausesClean (s : Statements) : Prop where
  selected : ∀ items, s.selected = .ok items → ∀ v ∈ items, v.ItemClean d
  sources : ∀ tables, s.sources = .ok tables → ∀ v ∈ tables, v.Clean d
  aliases : ∀ entries, s.aliases = .map entries → ∀ e ∈ entries, e.2.Clean d
  wheres : ConditionsClean d true (s.wheres.getD [])
  havings : ConditionsClean d true (s.havings.getD [])
  joins : ∀ join ∈ s.joins.getD [], join.Clean d
  groupings : ∀ items, s.groupings = .ok items → ∀ v ∈ items, v.ItemClean d
  orders : ∀ entry ∈ s.orderBys.getD [], entry.field.Clean d ∧ d.Free entry.direction.toText
  limit : d.Free s.limit.toText
  offset : d.Free s.offset.toText
  lock : d.Free s.lock.toText
  onDuplicate : s.onDuplicate.RowClean d

end

namespace Adapter

variable {d : Dialect}

/-! ## Columns and tables -/

theorem nameFragment_unquoted {v : Value} (h : v.Clean d) :
    Unquoted d (d.quoting.nameFragment v) (d.plain.nameFragment v) := by
  cases hraw : v.isRaw with
  | true =>
    obtain ⟨sql, bindings, rfl⟩ := Value.exists_eq_raw hraw
    exact .raw h.free bindings
  | false =>
    rw [nameFragment_of_not_raw hraw, nameFragment_of_not_raw hraw]
    exact h.wrap

theorem aliasedHead_of_not_raw (a : Adapter) {v : Value} (h : v.isRaw = false) :
    a.aliasedHead v = (do
      if ← v.contains ")" then pure (ofText v.toText) else pure (ofText (a.wrap v))) := by
  cases v <;> first | rfl | simp [Value.isRaw] at h

theorem aliasedHead_unquoted {v : Value} (h : v.Clean d) :
    Agree (Unquoted d) (d.quoting.aliasedHead v) (d.plain.aliasedHead v) := by
  cases hraw : v.isRaw with
  | true =>
    obtain ⟨sql, bindings, rfl⟩ := Value.exists_eq_raw hraw
    exact .ok (.raw h.free bindings)
  | false =>
    rw [aliasedHead_of_not_raw _ hraw, aliasedHead_of_not_raw _ hraw]
    refine (Agree.self _).bind fun contained _ heq => heq ▸ ?_
    cases contained with
    | true => exact .ok (.word h.free)
    | false => exact .ok h.wrap

theorem columnItem_unquoted {v : Value} (h : v.ItemClean d) :
    Agree (Unquoted d) (d.quoting.columnItem v) (d.plain.columnItem v) := by
  cases v with
  | aliased expression name =>
    refine (aliasedHead_unquoted h.1).bind fun head head' hhead => .ok (hhead.append ?_)
    rw [← ofText_append, ← ofText_append]
    exact (Unquoted.word (by cases d <;> decide)).append h.2.wrap
  | _ => exact .ok (nameFragment_unquoted h)

theorem columnList_unquoted {items : List Value} (h : ∀ v ∈ items, v.ItemClean d) :
    Agree (Unquoted d) (d.quoting.columnList items) (d.plain.columnList items) := by
  have hitems : List.Forall₂
      (fun v v' =>
        Agree (Unquoted d) (d.quoting.columnItem v) (d.plain.columnItem v')) items items :=
    List.forall₂_same.2 fun v hv => columnItem_unquoted (h v hv)
  exact (Agree.mapM hitems).bind fun _ _ h => .ok (.intercalate (by cases d <;> decide) h)

/-- A table and its alias, which is a clean name if there is one. -/
def TableUnquoted (d : Dialect) (table table' : Fragment × Value) : Prop :=
  Unquoted d table.1 table'.1 ∧ table.2 = table'.2 ∧ table.2.Clean d

theorem clean_null (d : Dialect) : Value.null.Clean d := by
  refine ⟨?_, fun _ => ?_⟩
  · cases d <;> decide
  · decide

theorem aliasOf_clean {s : Statements} (h : ClausesClean d s) {table name : Value}
    (hname : s.aliasOf table = .ok name) : name.Clean d := by
  unfold Statements.aliasOf at hname
  split at hname
  · rename_i entries haliases
    split at hname
    · cases hname
      cases hfound : Value.lookup entries table with
      | none => exact clean_null d
      | some v =>
        obtain ⟨key, hmem⟩ := Value.mem_of_lookup hfound
        exact h.aliases entries haliases _ hmem
    · cases hname
  · split at hname
    · cases hname
    · split at hname
      · cases hname
        exact clean_null d
      · cases hname

theorem aliasedTable_unquoted {s : Statements} (h : ClausesClean d s) {table : Value}
    (htable : table.Clean d) :
    Agree (fun p p' => TableUnquoted d (ofText p.1, p.2) (ofText p'.1, p'.2))
      (d.quoting.aliasedTable s table) (d.plain.aliasedTable s table) := by
  unfold aliasedTable
  refine (Agree.refl (R := fun name name' => name = name' ∧ name.Clean d)
    fun name hname => ⟨rfl, aliasOf_clean h hname⟩).bind ?_
  rintro name _ ⟨rfl, hname⟩
  split
  · exact .ok ⟨htable.wrap, rfl, clean_null d⟩
  · refine (Agree.refl (R := fun small small' => small = small' ∧ small.Clean d)
      fun small hsmall => ⟨rfl, hname.lower hsmall⟩).bind ?_
    rintro small _ ⟨rfl, hsmall⟩
    refine .ok ⟨?_, rfl, hsmall⟩
    have has : d.Free " AS " := by cases d <;> decide
    exact (htable.wrap.append (.word has)).append hsmall.wrap

theorem tableFragment_unquoted {s : Statements} (h : ClausesClean d s) {table : Value}
    (htable : table.Clean d) :
    Agree (TableUnquoted d) (d.quoting.tableFragment s table) (d.plain.tableFragment s table) := by
  cases hraw : table.isRaw with
  | true =>
    obtain ⟨sql, bindings, rfl⟩ := Value.exists_eq_raw hraw
    exact .ok ⟨.raw htable.free bindings, rfl, clean_null d⟩
  | false =>
    have hname : ∀ a : Adapter, a.tableFragment s table = (do
        let named ← a.aliasedTable s table
        pure (ofText named.1, named.2)) := by
      intro a
      cases table <;> first | rfl | simp [Value.isRaw] at hraw
    rw [hname, hname]
    exact (aliasedTable_unquoted h htable).bind fun _ _ h => .ok h

theorem last_unquoted {tables tables' : List (Fragment × Value)}
    (h : List.Forall₂ (TableUnquoted d) tables tables') :
    (tables.getLast?.map Prod.snd).getD .null = (tables'.getLast?.map Prod.snd).getD .null ∧
      ((tables.getLast?.map Prod.snd).getD .null).Clean d := by
  induction h with
  | nil => exact ⟨rfl, clean_null d⟩
  | cons h hs ih =>
    cases hs with
    | nil => exact ⟨h.2.1, h.2.2⟩
    | cons => simpa using ih

theorem tableList_unquoted {s : Statements} (h : ClausesClean d s) :
    Agree (TableUnquoted d) (d.quoting.tableList s) (d.plain.tableList s) := by
  unfold tableList
  refine (Agree.refl (R := fun tables tables' => tables = tables' ∧ ∀ v ∈ tables, v.Clean d)
    fun tables htables => ⟨rfl, h.sources tables htables⟩).bind ?_
  rintro tables _ ⟨rfl, hclean⟩
  refine (Agree.mapM (List.forall₂_same.2 fun v hv =>
    tableFragment_unquoted h (hclean v hv))).bind fun written written' hwritten => .ok ?_
  refine ⟨.intercalate (by cases d <;> decide) ?_, last_unquoted hwritten⟩
  exact List.forall₂_map_left_iff.2 (List.forall₂_map_right_iff.2 (hwritten.imp fun _ _ h => h.1))

/-! ## Conditions -/

theorem contains_dot {v : Value} (h : v.Clean d) :
    (d.quoting.wrap v).toList.contains '.' = (d.plain.wrap v).toList.contains '.' := by
  have herased : (d.plain.wrap v).toList = without d.identifierQuote (d.quoting.wrap v).toList :=
    h.wrap.sql.erased d.isBlank_identifierQuote
  have hdot : ('.' != d.identifierQuote) = true := by cases d <;> decide
  rw [herased, Bool.eq_iff_iff, List.contains_iff_mem, List.contains_iff_mem, without,
    List.mem_filter]
  exact ⟨fun h => ⟨h, hdot⟩, And.left⟩

theorem conditionKey_unquoted {style : CriteriaStyle} (hqualifier : style.qualifier.Clean d)
    {key : Value} (h : key.Clean d) :
    Unquoted d (d.quoting.conditionKey style key) (d.plain.conditionKey style key) := by
  cases hraw : key.isRaw with
  | true =>
    obtain ⟨sql, bindings, rfl⟩ := Value.exists_eq_raw hraw
    exact .raw h.free bindings
  | false =>
    rw [conditionKey_of_not_raw hraw, conditionKey_of_not_raw hraw, contains_dot h]
    split
    · have hdot : d.Free "." := by cases d <;> decide
      exact (hqualifier.wrap.append (.word hdot)).append h.wrap
    · exact h.wrap

theorem free_operator {operator : Value} (h : d.Free operator.toText) :
    d.Free (" " ++ operator.toText) ∧ d.Free (" " ++ operator.toText ++ " ") := by
  have hspace : d.Free " " := by cases d <;> decide
  exact ⟨hspace.append h, (hspace.append h).append hspace⟩

theorem placeholders_unquoted (items : List Value) :
    Unquoted d (placeholders ", " items) (placeholders ", " items) :=
  .intercalate (by cases d <;> decide) (Unquoted.map_same fun v _ => .bound v.normalize)

theorem listComparison_unquoted {left left' : Fragment} (hleft : Unquoted d left left')
    {operator : Value} (hop : d.Free operator.toText) (items : List Value) :
    Agree (List.Forall₂ (Unquoted d)) (listComparison left operator items)
      (listComparison left' operator items) := by
  have hhead := hleft.append (.word (free_operator hop).1)
  unfold listComparison
  split
  · exact .misuse _
  · split
    · exact .ok (.cons hhead (.cons (.raw (by cases d <;> decide) _) .nil))
    · exact .ok (.cons hhead (.cons (placeholders_unquoted items).parenthesized .nil))

theorem scalarSide_unquoted {bindValues : Bool} {value : Value}
    (h : value.OperandClean d bindValues) (hitems : value.items? = none) :
    Unquoted d (d.quoting.scalarSide bindValues value) (d.plain.scalarSide bindValues value) := by
  cases hraw : value.isRaw with
  | true =>
    obtain ⟨sql, bindings, rfl⟩ := Value.exists_eq_raw hraw
    exact .raw (h.raw rfl) bindings
  | false =>
    have hscalar : ∀ a : Adapter, a.scalarSide bindValues value =
        if bindValues then Fragment.bound value.normalize else ofText (a.wrap value) := by
      intro a
      cases value <;> first | rfl | simp [Value.isRaw] at hraw
    rw [hscalar, hscalar]
    cases bindValues with
    | true => exact .bound _
    | false => exact (h.name rfl hitems).wrap

theorem free_emptySetPredicate {word predicate : String}
    (h : emptySetPredicate? word = some predicate) : d.Free predicate := by
  unfold emptySetPredicate? at h
  split at h
  · cases h
    cases d <;> decide
  · cases h
    cases d <;> decide
  · cases h

theorem comparison_unquoted {style : CriteriaStyle} (hqualifier : style.qualifier.Clean d)
    {key operator value : Value} (hkey : key.Clean d) (hop : d.Free operator.toText)
    (hvalue : value.OperandClean d style.bindValues) :
    Agree (List.Forall₂ (Unquoted d)) (d.quoting.comparison style key operator value)
      (d.plain.comparison style key operator value) := by
  have hleft := conditionKey_unquoted hqualifier hkey
  cases hitems : value.items? with
  | none =>
    rw [comparison_scalar _ style key operator hitems,
      comparison_scalar _ style key operator hitems]
    refine (Agree.self _).bind fun _ _ _ => ?_
    split
    · exact .ok (.cons hleft .nil)
    · exact .ok (.cons ((hleft.append (.word (free_operator hop).2)).append
        (scalarSide_unquoted hvalue hitems)) .nil)
  | some items =>
    rw [comparison_list _ style key operator hitems, comparison_list _ style key operator hitems]
    refine (Agree.self _).bind fun word _ hword => hword ▸ ?_
    have hlist := listComparison_unquoted hleft hop items
    cases hpredicate : emptySetPredicate? word with
    | none => exact hlist
    | some predicate =>
      cases items with
      | nil => exact .ok (.cons (.word (free_emptySetPredicate hpredicate)) .nil)
      | cons => exact hlist

/-- Pieces of two lists that are related one by one. -/
abbrev PiecesUnquoted (d : Dialect) : List Piece → List Piece → Prop :=
  List.Forall₂ (Option.Rel (Unquoted d))

/-- Either all pieces of both lists can be written, or neither list can. -/
theorem piecesUnquoted_cases {ps ps' : List Piece} (h : PiecesUnquoted d ps ps') :
    (∃ fs fs', ps = fs.map some ∧ ps' = fs'.map some ∧ List.Forall₂ (Unquoted d) fs fs') ∨
      none ∈ ps ∧ none ∈ ps' := by
  induction h with
  | nil => exact .inl ⟨[], [], rfl, rfl, .nil⟩
  | cons hp _ ih =>
    cases hp with
    | none => exact .inr ⟨List.mem_cons_self, List.mem_cons_self⟩
    | some hf =>
      obtain ⟨fs, fs', rfl, rfl, hfs⟩ | ⟨hnone, hnone'⟩ := ih
      · exact .inl ⟨_ :: fs, _ :: fs', rfl, rfl, .cons hf hfs⟩
      · exact .inr ⟨List.mem_cons_of_mem _ hnone, List.mem_cons_of_mem _ hnone'⟩

theorem joinPieces_unquoted {ps ps' : List Piece} (h : PiecesUnquoted d ps ps') :
    Agree (Unquoted d) (joinPieces ps) (joinPieces ps') := by
  obtain ⟨fs, fs', rfl, rfl, hfs⟩ | ⟨hnone, hnone'⟩ := piecesUnquoted_cases h
  · rw [joinPieces_some, joinPieces_some]
    exact .ok (.intercalate (by cases d <;> decide) hfs)
  · rw [joinPieces_none hnone, joinPieces_none hnone']
    exact .misuse _

theorem wordPieces_unquoted {v : Value} (h : v.WordClean d) :
    PiecesUnquoted d (wordPieces v) (wordPieces v) := by
  unfold wordPieces
  split
  · cases v with
    | text s => exact .cons (.some (.word (h s rfl))) .nil
    | _ => exact .cons .none .nil
  · exact .nil

theorem mem_of_mem_wordsFrom {word cs w : List Char} (h : w ∈ wordsFrom word cs) {c : Char}
    (hc : c ∈ w) : c ∈ word ∨ c ∈ cs := by
  induction cs generalizing word with
  | nil =>
    unfold wordsFrom at h
    split at h
    · cases h
    · rw [List.mem_singleton.1 h, List.mem_reverse] at hc
      exact .inl hc
  | cons e cs ih =>
    have hrest : ∀ {word'}, w ∈ wordsFrom word' cs → (c ∈ word' → c ∈ word ∨ c ∈ e :: cs) →
        c ∈ word ∨ c ∈ e :: cs :=
      fun h hword => (ih h).elim hword fun h => .inr (List.mem_cons_of_mem e h)
    rw [wordsFrom] at h
    split at h
    · split at h
      · exact hrest h fun h => absurd h List.not_mem_nil
      · rcases List.mem_cons.1 h with rfl | h
        · exact .inl (List.mem_reverse.1 hc)
        · exact hrest h fun h => absurd h List.not_mem_nil
    · refine hrest h fun h => ?_
      rcases List.mem_cons.1 h with rfl | h
      · exact .inr List.mem_cons_self
      · exact .inl h

theorem free_firstWords {joiner : String} (h : d.Free joiner) : d.Free (firstWords joiner) := by
  refine Dialect.Free.intercalate (by cases d <;> decide) fun word hword hquote => ?_
  obtain ⟨w, hw, rfl⟩ := List.mem_map.1 (List.mem_filter.1 hword).1
  rw [String.toList_ofList] at hquote
  exact (mem_of_mem_wordsFrom hw hquote).elim (fun h => absurd h List.not_mem_nil) h

theorem joinerWord_clean {first : Bool} {joiner word : Value} (h : joiner.WordClean d)
    (hword : joinerWord first joiner = .ok word) : word.WordClean d := by
  intro s hs
  subst hs
  unfold joinerWord at hword
  split at hword
  · cases hword
    exact h s rfl
  · split at hword
    · cases hword
      exact free_firstWords (h _ rfl)
    · split at hword
      · cases hword
        cases d <;> decide
      · cases hword
    · cases hword

theorem criteriaPieces_cons_unquoted {style : CriteriaStyle} {first : Bool} {c : Condition}
    {cs : List Condition} (hjoiner : c.joiner.WordClean d) (hleading : c.leading.WordClean d)
    (hbody : Agree (List.Forall₂ (Unquoted d)) (conditionBody d.quoting style c)
      (conditionBody d.plain style c))
    (hrest : Agree (PiecesUnquoted d) (criteriaPieces d.quoting style false cs)
      (criteriaPieces d.plain style false cs)) :
    Agree (PiecesUnquoted d) (criteriaPieces d.quoting style first (c :: cs))
      (criteriaPieces d.plain style first (c :: cs)) := by
  have hlead : PiecesUnquoted d (if first then wordPieces c.leading else [])
      (if first then wordPieces c.leading else []) := by
    split
    · exact wordPieces_unquoted hleading
    · exact .nil
  rw [criteriaPieces, criteriaPieces]
  refine (Agree.refl (R := fun word word' => word = word' ∧ word.WordClean d)
    fun word hword => ⟨rfl, joinerWord_clean hjoiner hword⟩).bind ?_
  rintro word _ ⟨rfl, hword⟩
  refine hbody.bind fun body body' hbody => hrest.bind fun rest rest' hrest => .ok ?_
  have hbody : PiecesUnquoted d (body.map some) (body'.map some) :=
    List.forall₂_map_left_iff.2 (List.forall₂_map_right_iff.2 (hbody.imp fun _ _ h => .some h))
  exact List.rel_append (List.rel_append (List.rel_append hlead (wordPieces_unquoted hword)) hbody)
    hrest

theorem criteriaPieces_unquoted {bindValues : Bool} {cs : List Condition}
    (h : ConditionsClean d bindValues cs) (style : CriteriaStyle) (first : Bool)
    (hbind : style.bindValues = bindValues) (hqualifier : style.qualifier.Clean d) :
    Agree (PiecesUnquoted d) (criteriaPieces d.quoting style first cs)
      (criteriaPieces d.plain style first cs) := by
  induction h generalizing style first with
  | nil =>
    rw [criteriaPieces, criteriaPieces]
    exact .ok .nil
  | @columns _ _ _ _ _ _ columns _ hjoiner hleading hne hcolumns rest ih =>
    refine criteriaPieces_cons_unquoted hjoiner hleading ?_ (ih style false hbind hqualifier)
    simp only [conditionBody, List.isEmpty_eq_false_iff.2 hne, Bool.false_eq_true, if_false]
    refine .ok (.cons (Unquoted.parenthesized ?_) .nil)
    rw [← Unquoted.intercalate_ofText, ← Unquoted.intercalate_ofText, List.map_map, List.map_map]
    exact .intercalate (by cases d <;> decide) (Unquoted.map_same fun v hv => (hcolumns v hv).wrap)
  | @group _ _ _ _ _ gs _ hjoiner hleading inner rest ihInner ih =>
    refine criteriaPieces_cons_unquoted hjoiner hleading ?_ (ih style false hbind hqualifier)
    simp only [conditionBody, List.isEmpty_nil, if_true, keyBody]
    exact (ihInner {} true rfl (clean_null d)).bind fun _ _ h => (joinPieces_unquoted h).bind
      fun _ _ h => .ok (.cons h.parenthesized .nil)
  | comparison hjoiner hleading hgroup hkey hop hvalue rest ih =>
    refine criteriaPieces_cons_unquoted hjoiner hleading ?_ (ih style false hbind hqualifier)
    simp only [conditionBody, List.isEmpty_nil, if_true]
    rw [keyBody_of_not_group _ _ hgroup, keyBody_of_not_group _ _ hgroup]
    exact comparison_unquoted hqualifier hkey hop (hbind ▸ hvalue)

theorem criteria_unquoted (style : CriteriaStyle) {cs : List Condition}
    (h : ConditionsClean d style.bindValues cs) (hqualifier : style.qualifier.Clean d) :
    Agree (Unquoted d) (d.quoting.criteria style cs) (d.plain.criteria style cs) :=
  (criteriaPieces_unquoted h style true rfl hqualifier).bind fun _ _ h => joinPieces_unquoted h

end Adapter

end SqlBuilder
