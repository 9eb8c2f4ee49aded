import Mathlib.Data.List.Infix
import Mathlib.Data.String.Basic
import SqlBuilder.Proofs.Columns.Names
import SqlBuilder.Proofs.Fetching.FirstColumn

/-!
# Three notions of an output column

Statements select columns. What their names are is told by the text of the select (`Outputs`), by
the keys of the output columns (`HasKey`), and by the fields that an aggregate finds declared
(`declaredNames`, `checkDeclared_eq`). The statement that is compiled holds the text of each column
(`columns_in_select`).

`names_agree_iff`: the three tell the same exactly if every reference is nothing but the name of a
column and no alias of a raw fragment stands alone.
-/

set_option autoImplicit false

namespace SqlBuilder

open Text Adapter Builder Grammar

/-- The statements select these columns and nothing else. -/
structure Statements.Lists (st : Statements) (t : String) (cols : List OutputColumn) : Prop where
  selects : st.selects = .list (cols.map (OutputColumn.value t))
  distincts : st.distincts = .null

/-! ## The text of the select -/

/-- The select has a column whose text ends in this name. -/
def Outputs (a : Adapter) (st : Statements) (n : String) : Prop :=
  ∃ items, selectItems st = .ok items ∧ ∃ item ∈ items, ∃ f, a.columnItem item = .ok f ∧
    endName f.sql.toList = a.writePart (.name n.toList)

section Outputs

variable {a : Adapter} {st : Statements} {t n : String} {cols : List OutputColumn}

theorem infix_intercalate {w : String} {ws : List String} (separator : String) (h : w ∈ ws) :
    w.toList <:+: (separator.intercalate ws).toList := by
  induction ws with
  | nil => cases h
  | cons v ws ih =>
    cases ws with
    | nil =>
      rw [List.mem_singleton.1 h, String.intercalate_singleton]
    | cons v' ws =>
      rw [String.intercalate_cons_of_ne_nil (by simp), String.toList_append, String.toList_append]
      rcases List.mem_cons.1 h with rfl | h
      · exact ((List.prefix_append _ _).trans (List.prefix_append _ _)).isInfix
      · exact (ih h).trans (List.suffix_append _ _).isInfix

/-- The texts of the columns, separated by commas, stand in the text of the select. -/
theorem columns_in_select {q : CompiledQuery} (h : a.compile .select st [] = .ok q) :
    ∃ items fs sql, selectItems st = .ok items ∧ items.mapM a.columnItem = .ok fs ∧
      q.sql = .text sql ∧
      (strip (", ".intercalate (fs.map Fragment.sql))).toList <:+: sql.toList := by
  obtain ⟨f, hf, hq⟩ := bind_ok h
  cases hq
  replace hf : a.select st = .ok f := hf
  rw [a.select_eq] at hf
  obtain ⟨member, hmember, hf⟩ := bind_ok hf
  obtain ⟨others, -, hf⟩ := bind_ok hf
  obtain ⟨items, hitems, hmember⟩ := bind_ok hmember
  obtain ⟨columns, hcolumns, hmember⟩ := bind_ok hmember
  obtain ⟨fs, hfs, hcolumns⟩ := bind_ok hcolumns
  cases hcolumns
  obtain ⟨tables, -, hmember⟩ := bind_ok hmember
  obtain ⟨joins, -, hmember⟩ := bind_ok hmember
  obtain ⟨wheres, -, hmember⟩ := bind_ok hmember
  obtain ⟨groups, -, hmember⟩ := bind_ok hmember
  obtain ⟨havings, -, hmember⟩ := bind_ok hmember
  obtain ⟨paging, -, hmember⟩ := bind_ok hmember
  obtain ⟨gs, hgs, rfl⟩ : ∃ gs, Fragment.intercalate ", " fs ∈ gs ∧
      member = Fragment.concatenate gs := by
    exact ⟨_, by simp, (Except.ok.inj hmember).symm⟩
  refine ⟨items, fs, f.sql, hitems, hfs, rfl, ?_⟩
  have hcolumns : (strip (", ".intercalate (fs.map Fragment.sql))).toList <:+:
      (Fragment.concatenate gs).sql.toList := by
    -- A clause that is blank is left out.
    by_cases hblank : strip (", ".intercalate (fs.map Fragment.sql)) = ""
    · rw [hblank]
      exact List.nil_infix
    · refine infix_intercalate " " (List.mem_filter.2 ⟨List.mem_map.2 ⟨_, hgs, rfl⟩, ?_⟩)
      simpa using hblank
  have hframed : (Fragment.concatenate gs).sql.toList <:+:
      (a.asMember st (Fragment.concatenate gs)).sql.toList := by
    rw [asMember, Dialect.unionMember]
    split
    · rename_i before after _
      rw [String.toList_append, String.toList_append]
      exact ⟨before.toList, after.toList, rfl⟩
    · exact List.infix_rfl
  cases hf
  split
  · exact hcolumns
  · exact (hcolumns.trans hframed).trans
      (infix_intercalate " " (List.mem_map_of_mem List.mem_cons_self))

theorem selectItems_eq (h : st.Lists t cols) :
    selectItems st =
      .ok (if cols.isEmpty then [.text "*"] else cols.map (OutputColumn.value t)) := by
  have hselected : st.selected = .ok (cols.map (OutputColumn.value t)) := by
    rw [Statements.selected, h.selects, h.distincts, Statements.listed_list]
    rfl
  rw [selectItems, hselected]
  cases cols <;> rfl

/-- A star is no name. -/
theorem endName_star_ne (hn : n ≠ "*") : endName ['*'] ≠ a.writePart (.name n.toList) := by
  have hend : endName ['*'] = ['*'] := by decide
  rw [hend, writePart]
  split
  · intro h
    have hlength := congrArg List.length h
    simp [Dialect.quoteName] at hlength
  · exact fun h => hn (String.toList_inj.1 h.symm)

/-- The text of the select has the names of the columns. -/
theorem outputs_iff (h : st.Lists t cols) (hcols : ∀ col ∈ cols, '.' ∉ t.toList ∨ col.IsBare)
    (hn : n ≠ "*") : Outputs a st n ↔ ∃ col ∈ cols, col.name.text = n := by
  rw [Outputs, selectItems_eq h]
  cases hempty : cols.isEmpty with
  | true =>
    rw [List.isEmpty_iff] at hempty
    subst hempty
    refine ⟨?_, by simp⟩
    rintro ⟨_, hitems, item, hitem, f, hf, hend⟩
    cases hitems
    rw [if_pos rfl, List.mem_singleton] at hitem
    subst hitem
    cases hf
    have hstar : (a.wrap (.text "*")).toList = ['*'] := by
      show (String.ofList (a.wrapChars ['*'])).toList = _
      have hparts : partsFrom true ['*'] = [.star ['*']] := by cbv
      rw [String.toList_ofList, wrapChars, hparts]
      rfl
    exact absurd (hstar ▸ hend) (endName_star_ne hn)
  | false =>
    rw [if_neg Bool.false_ne_true]
    constructor
    · rintro ⟨_, hitems, item, hitem, f, hf, hend⟩
      cases hitems
      obtain ⟨col, hcol, rfl⟩ := List.mem_map.1 hitem
      obtain ⟨f', hf', hend'⟩ := a.columnItem_ends (hcols col hcol)
      cases hf.symm.trans hf'
      exact ⟨col, hcol, String.toList_inj.1 (a.writePart_name_injective (hend'.symm.trans hend))⟩
    · rintro ⟨col, hcol, rfl⟩
      exact ⟨_, rfl, col.value t, List.mem_map_of_mem hcol, a.columnItem_ends (hcols col hcol)⟩

/-- What has a dot or a blank is no name in the text of the select. -/
theorem not_outputs_of_mem (h : '.' ∈ n.toList ∨ ' ' ∈ n.toList) : ¬ Outputs a st n := by
  rintro ⟨_, -, _, -, f, -, hend⟩
  have hfree : ∀ c ∈ n.toList, c ≠ '.' ∧ c ≠ ' ' := fun c hc =>
    not_mem_endName (hend ▸ a.mem_writePart_name hc)
  rcases h with h | h
  · exact (hfree _ h).1 rfl
  · exact (hfree _ h).2 rfl

end Outputs

/-! ## The keys of the output columns -/

/-- An output column has this key. -/
def HasKey (st : Statements) (n : String) : Prop :=
  ∃ columns, outputColumns st = .ok columns ∧ .text n ∈ columns.map Prod.fst

section Keys

theorem splitOnAux_of_not_mem {m : List Char} (l : List Char) (h : '.' ∉ m) :
    String.splitOnAux (String.ofList (l ++ m)) "." 0 ⟨String.utf8Len l⟩ 0 [] =
      [String.ofList (l ++ m)] := by
  induction m generalizing l with
  | nil =>
    have hwhole := String.extract_of_valid [] l []
    unfold String.splitOnAux
    rw [if_pos ((String.atEnd_of_valid l []).2 rfl)]
    simpa using hwhole
  | cons c m ih =>
    obtain ⟨hc, hm⟩ : c ≠ '.' ∧ '.' ∉ m := by simpa [eq_comm] using h
    have hget : String.Pos.Raw.get (String.ofList (l ++ c :: m)) ⟨String.utf8Len l⟩ = c :=
      String.get_of_valid l (c :: m)
    have hdot : String.Pos.Raw.get "." 0 = '.' := rfl
    have hnext : String.Pos.Raw.next (String.ofList (l ++ c :: m))
        (String.Pos.Raw.unoffsetBy ⟨String.utf8Len l⟩ 0) = ⟨String.utf8Len (l ++ [c])⟩ := by
      simpa [String.Pos.Raw.unoffsetBy] using String.next_of_valid l c m
    have hend : ¬ String.Pos.Raw.atEnd (String.ofList (l ++ c :: m)) ⟨String.utf8Len l⟩ = true :=
      fun hend => nomatch (String.atEnd_of_valid l (c :: m)).1 hend
    have hrest := ih (l ++ [c]) hm
    rw [List.append_assoc] at hrest
    unfold String.splitOnAux
    rw [if_neg hend, hget, hdot, if_neg (by simpa using hc), hnext]
    exact hrest

/-- A text without dots is in one piece. -/
theorem splitOn_of_not_mem {s : String} (h : '.' ∉ s.toList) : s.splitOn "." = [s] := by
  have hs := splitOnAux_of_not_mem [] h
  rw [List.nil_append, String.ofList_toList] at hs
  exact hs

theorem columnName?_text (n : SimpleName) : columnName? n.text = some n.text := by
  have hstar : ¬ [n.text].contains "*" = true := by
    rw [List.contains_iff_mem, List.mem_singleton]
    exact fun h => n.ne_star (by rw [← h]; rfl)
  rw [columnName?, splitOn_of_not_mem n.dot_not_mem, if_neg hstar]
  rfl

theorem mem_keys_insert (entries : List (Value × Value)) (m n : String) (v : Value) :
    .text n ∈ (Value.insert entries (.text m) v).map Prod.fst ↔
      .text n ∈ entries.map Prod.fst ∨ n = m := by
  induction entries with
  | nil => simp [Value.insert]
  | cons entry entries ih =>
    obtain ⟨k, w⟩ := entry
    rw [Value.insert]
    split
    · rename_i hk
      obtain rfl := (Value.same_text_iff k m).1 hk
      simp only [List.map_cons, List.mem_cons, Value.text.injEq]
      tauto
    · rw [List.map_cons, List.mem_cons, ih, List.map_cons, List.mem_cons, or_assoc]

variable {t : String}

/-- What one more column adds to the output columns. -/
def keyStep (columns : List (Value × Value)) (item : Value) : Result (List (Value × Value)) :=
  match item with
  | .aliased (.text expression) name =>
    if name.isKey then .ok (Value.insert columns name (.text expression)) else misuse .wrongType
  | .text name =>
    .ok <| match columnName? name with
      | some column => Value.insert columns (.text column) (.text name)
      | none => columns
  | _ => .ok columns

/-- A column adds its name, unless it is under a raw fragment. -/
theorem keyStep_value {col : OutputColumn} (hcol : col.IsBare) (columns : List (Value × Value)) :
    ∃ new, keyStep columns (col.value t) = .ok new ∧
      ∀ n, .text n ∈ new.map Prod.fst ↔
        .text n ∈ columns.map Prod.fst ∨ ¬ col.IsRaw ∧ col.name.text = n := by
  cases col with
  | named ref =>
    have htext : fieldUnder t ref.text = ref.column.text := by
      rw [Reference.fieldUnder_text t hcol.1, Reference.text_of_isBare hcol]
    have hname : (OutputColumn.named ref).name = ref.column := by
      rw [OutputColumn.name, hcol.2, Option.getD_none]
    refine ⟨Value.insert columns (.text ref.column.text) (.text ref.column.text), ?_, fun n => ?_⟩
    · rw [OutputColumn.value, htext, keyStep, columnName?_text]
    · rw [mem_keys_insert, hname]
      simp [OutputColumn.IsRaw, eq_comm]
  | aliased expression name =>
    cases expression with
    | text s =>
      refine ⟨_, rfl, fun n => ?_⟩
      rw [mem_keys_insert]
      simp [OutputColumn.IsRaw, OutputColumn.name, eq_comm]
    | raw sql bindings =>
      refine ⟨columns, rfl, fun n => ?_⟩
      simp [OutputColumn.IsRaw]

theorem foldlM_keyStep {cols : List OutputColumn} (hcols : ∀ col ∈ cols, col.IsBare)
    (columns : List (Value × Value)) :
    ∃ new, (cols.map (OutputColumn.value t)).foldlM keyStep columns = .ok new ∧
      ∀ n, .text n ∈ new.map Prod.fst ↔ .text n ∈ columns.map Prod.fst ∨
        ∃ col ∈ cols, ¬ col.IsRaw ∧ col.name.text = n := by
  induction cols generalizing columns with
  | nil => exact ⟨columns, rfl, by simp⟩
  | cons col cols ih =>
    obtain ⟨hcol, hcols⟩ := List.forall_mem_cons.1 hcols
    obtain ⟨mid, hmid, hmidKeys⟩ := keyStep_value (t := t) hcol columns
    obtain ⟨new, hnew, hnewKeys⟩ := ih hcols mid
    refine ⟨new, ?_, fun n => ?_⟩
    · rw [List.map_cons, List.foldlM_cons, hmid]
      exact hnew
    · rw [hnewKeys, hmidKeys, List.exists_mem_cons_iff, or_assoc]

/-- The keys are the names of the columns that are not under raw fragments. -/
theorem hasKey_iff {st : Statements} {cols : List OutputColumn} (h : st.Lists t cols)
    (hcols : ∀ col ∈ cols, col.IsBare) {n : String} :
    HasKey st n ↔ ∃ col ∈ cols, ¬ col.IsRaw ∧ col.name.text = n := by
  obtain ⟨columns, hcolumns, hkeys⟩ := foldlM_keyStep (t := t) hcols []
  have houtput : outputColumns st = .ok columns := by
    rw [outputColumns, h.selects, Statements.listed_list]
    exact hcolumns
  rw [HasKey, houtput]
  constructor
  · rintro ⟨_, heq, hmem⟩
    cases heq
    simpa using (hkeys n).1 hmem
  · exact fun hcol => ⟨columns, rfl, (hkeys n).2 (.inr hcol)⟩

end Keys

/-! ## What aggregates find declared -/

/-- The references as they are selected, then the aliases. -/
def declaredNames (t : String) (cols : List OutputColumn) : List String :=
  cols.filterMap (OutputColumn.reference? t) ++ cols.filterMap OutputColumn.alias?

section Declared

variable {t n : String} {cols : List OutputColumn}

theorem declaredColumns_map (t : String) (cols : List OutputColumn) :
    declaredColumns (cols.map (OutputColumn.value t)) = (declaredNames t cols).map .text := by
  have hreferences : (cols.map (OutputColumn.value t)).filter Value.isText =
      (cols.filterMap (OutputColumn.reference? t)).map .text := by
    induction cols with
    | nil => rfl
    | cons col cols ih =>
      cases col with
      | named ref => exact congrArg (List.cons _) ih
      | aliased expression name => exact ih
  rw [declaredNames, List.map_append]
  refine congrArg₂ (· ++ ·) hreferences ?_
  rw [List.filterMap_map, List.map_filterMap]
  refine List.filterMap_congr fun col _ => ?_
  cases col with
  | named ref => rfl
  | aliased expression name => rfl

theorem isAmong?_texts (n : String) (names : List String) :
    isAmong? (.text n) (names.map .text) = some (decide (n ∈ names)) := by
  induction names with
  | nil => rfl
  | cons m names ih =>
    have hequal : Value.alike (.text m) (.text n) ((Value.text m).equal? (.text n)) =
        some (decide (m = n)) := by
      simp [Value.alike, Value.identical, Value.equal?, Value.equalScalar?, Bool.beq_eq_decide_eq]
    rw [List.map_cons, isAmong?, hequal, ih]
    by_cases hm : m = n
    · simp [hm]
    · simp [hm, Ne.symm hm]

/-- A field is found if it is declared. -/
theorem checkDeclared_eq {st : Statements} (h : st.Lists t cols) (hn : n ≠ "*") :
    checkDeclared st (.text n) =
      if n ∈ declaredNames t cols then .ok () else .error (.validation
        (.columnNotFound (.text n) (.list ((declaredNames t cols).map .text)))) := by
  unfold checkDeclared
  rw [h.selects]
  split
  · rename_i heq
    exact absurd (Value.text.inj heq) hn
  · rename_i heq _
    cases heq
  · have hitems : (Value.list (cols.map (OutputColumn.value t))).toItems =
        .ok (cols.map (OutputColumn.value t)) := rfl
    rw [hitems]
    dsimp only [bind, Except.bind]
    rw [declaredColumns_map, isAmong?_texts]
    by_cases hmem : n ∈ declaredNames t cols
    · simp only [hmem, decide_true, if_true]
      rfl
    · simp only [hmem, decide_false, if_false]
      rfl

/-- Where references are nothing but names, the names of all columns are declared. -/
theorem mem_declaredNames (hcols : ∀ col ∈ cols, col.IsBare) :
    n ∈ declaredNames t cols ↔ ∃ col ∈ cols, col.name.text = n := by
  have hcol (col : OutputColumn) (hbare : col.IsBare) :
      col.reference? t = some n ∨ col.alias? = some n ↔ col.name.text = n := by
    cases col with
    | named ref =>
      rw [OutputColumn.reference?, Reference.fieldUnder_text t hbare.1,
        Reference.text_of_isBare hbare, OutputColumn.name, hbare.2]
      simp [OutputColumn.alias?]
    | aliased expression name => simp [OutputColumn.reference?, OutputColumn.alias?,
        OutputColumn.name]
  rw [declaredNames, List.mem_append, List.mem_filterMap, List.mem_filterMap, ← exists_or]
  refine exists_congr fun col => ?_
  rw [← and_or_left]
  exact and_congr_right fun hmem => hcol col (hcols col hmem)

end Declared

/-! ## Agreement -/

/-- Every alias of a raw fragment is also the name of a column that is no raw fragment. -/
def RawsAccompanied (cols : List OutputColumn) : Prop :=
  ∀ col ∈ cols, col.IsRaw → ∃ other ∈ cols, ¬ other.IsRaw ∧ other.name.text = col.name.text

/-- The three notions agree exactly if every reference is nothing but the name of a column and no
alias of a raw fragment stands alone. -/
theorem names_agree_iff {st : Statements} {t : String} {cols : List OutputColumn} (a : Adapter)
    (h : st.Lists t cols) :
    (∀ n ≠ "*", (Outputs a st n ↔ HasKey st n) ∧ (Outputs a st n ↔ n ∈ declaredNames t cols)) ↔
      (∀ col ∈ cols, col.IsBare) ∧ RawsAccompanied cols := by
  constructor
  · intro hagree
    have hbare : ∀ col ∈ cols, col.IsBare := by
      intro col hcol
      cases col with
      | aliased expression name => trivial
      | named ref =>
        -- What is declared for a longer reference cannot end the text of a column.
        by_contra hbare
        have hmem := Reference.mem_text_of_not_isBare t hbare
        have hstar : fieldUnder t ref.text ≠ "*" := by
          intro heq
          rw [heq] at hmem
          revert hmem
          decide
        have hdeclared : fieldUnder t ref.text ∈ declaredNames t cols :=
          List.mem_append_left _ (List.mem_filterMap.2 ⟨_, hcol, rfl⟩)
        exact not_outputs_of_mem hmem ((hagree _ hstar).2.2 hdeclared)
    refine ⟨hbare, fun col hcol _ => ?_⟩
    have hstar : col.name.text ≠ "*" := fun heq => col.name.ne_star (by rw [heq]; rfl)
    have houtputs := (outputs_iff (a := a) h (fun col hcol => .inr (hbare col hcol)) hstar).2
      ⟨col, hcol, rfl⟩
    exact (hasKey_iff h hbare).1 ((hagree _ hstar).1.1 houtputs)
  · rintro ⟨hbare, hraws⟩ n hn
    rw [outputs_iff h (fun col hcol => .inr (hbare col hcol)) hn, hasKey_iff h hbare,
      mem_declaredNames hbare]
    refine ⟨⟨?_, fun ⟨col, hcol, _, hname⟩ => ⟨col, hcol, hname⟩⟩, Iff.rfl⟩
    rintro ⟨col, hcol, rfl⟩
    by_cases hraw : col.IsRaw
    · exact hraws col hcol hraw
    · exact ⟨col, hcol, hraw, rfl⟩

end SqlBuilder
