import Mathlib.Data.List.DropRight
import SqlBuilder.Proofs.Aliases.Declared
import SqlBuilder.Proofs.Overwriting.Naming

/-!
# The names of selected columns

An `OutputColumn` is selected by a `Reference`, which may name a table in front and an alias behind,
or is an expression under an alias. Its column in the result has the alias as its name, or else the
name of the column (`OutputColumn.name`).

* `columnItem_ends`: the text of every column ends in its name, whatever is in front.
* `writePart_name_injective`: two names that are written alike are one name, in every dialect.
-/

set_option autoImplicit false

namespace SqlBuilder

open Text Adapter Builder Grammar

/-! ## Columns -/

/-- A name of a table or a column: neither empty nor a star, without dots and white space. -/
structure SimpleName where
  text : String
  ne_nil : text.toList ≠ []
  ne_star : text.toList ≠ ['*']
  free : ∀ c ∈ text.toList, c ≠ '.' ∧ isBlank c = false

/-- A column by its name, with that of its table in front or an alias behind, or both. -/
structure Reference where
  table : Option SimpleName
  column : SimpleName
  name : Option SimpleName

namespace Reference

/-- The column with its alias. -/
def behind (ref : Reference) : List Char :=
  match ref.name with
  | none => ref.column.text.toList
  | some name => ref.column.text.toList ++ (aliasSeparator ++ name.text.toList)

/-- The reference as a text. -/
def text (ref : Reference) : String :=
  match ref.table with
  | none => String.ofList ref.behind
  | some table => table.text ++ String.ofList ('.' :: ref.behind)

/-- The reference is nothing but the name of a column. -/
def IsBare (ref : Reference) : Prop := ref.table = none ∧ ref.name = none

end Reference

/-- An expression that gets an alias. -/
inductive Expression where
  | text (s : String)
  | raw (sql : String) (bindings : List Value)

namespace Expression

/-- The expression as an argument. -/
def value : Expression → Value
  | text s => .text s
  | raw sql bindings => .raw sql bindings

/-- The expression with a prefix. -/
def under (t : String) : Expression → Value
  | text s => .text (fieldUnder t s)
  | raw sql bindings => .raw sql bindings

end Expression

/-- A selected column. -/
inductive OutputColumn where
  | named (ref : Reference)
  | aliased (expression : Expression) (name : SimpleName)

namespace OutputColumn

/-- The column as statements hold it. -/
def value (t : String) : OutputColumn → Value
  | named ref => .text (fieldUnder t ref.text)
  | aliased expression name => .aliased (expression.under t) (.text name.text)

/-- The name of the column in the result: the alias, or else what it is called in its table. -/
def name : OutputColumn → SimpleName
  | named ref => ref.name.getD ref.column
  | aliased _ name => name

/-- The reference with a prefix, if the column is one. -/
def reference? (t : String) : OutputColumn → Option String
  | named ref => some (fieldUnder t ref.text)
  | aliased _ _ => none

/-- The alias, if the column is an expression. -/
def alias? : OutputColumn → Option String
  | named _ => none
  | aliased _ name => some name.text

/-- A reference is nothing but the name of a column. -/
def IsBare : OutputColumn → Prop
  | named ref => ref.IsBare
  | aliased _ _ => True

/-- The column is under an alias and a raw fragment. -/
def IsRaw : OutputColumn → Prop
  | named _ => False
  | aliased expression _ => ∃ sql bindings, expression = .raw sql bindings

end OutputColumn

/-! ## Simple names -/

namespace SimpleName

theorem free_of_all {s : String} (h : (s.toList.all fun c => c != '.' && !isBlank c) = true) :
    ∀ c ∈ s.toList, c ≠ '.' ∧ isBlank c = false := by
  simpa using h

theorem dot_not_mem (n : SimpleName) : '.' ∉ n.text.toList := fun h => (n.free _ h).1 rfl

theorem blank_not_mem (n : SimpleName) : ' ' ∉ n.text.toList := fun h => by
  have hblank := (n.free _ h).2
  revert hblank
  decide

/-- A simple name is one part. -/
theorem partsFrom_eq (n : SimpleName) (dotted : Bool) :
    partsFrom dotted n.text.toList = [.name n.text.toList] := by
  have hstrip : stripChars n.text.toList = n.text.toList := by
    have htrim : ∀ cs : List Char, (∀ c ∈ cs, isBlank c = false) → cs.dropWhile isBlank = cs := by
      intro cs hcs
      rw [List.dropWhile_eq_self_iff]
      intro hlength
      simpa using hcs _ (List.getElem_mem hlength)
    unfold stripChars trimBy
    rw [htrim _ fun c hc => (n.free c hc).2,
      htrim _ fun c hc => (n.free c (List.mem_reverse.1 hc)).2,
      List.reverse_reverse]
  have hplain : partsFrom false n.text.toList = [.name n.text.toList] := by
    rw [partsFrom_plain (cut_of_not_mem (c := ' ') (by decide) n.blank_not_mem), hstrip,
      if_neg n.ne_star]
  cases dotted with
  | false => exact hplain
  | true => rw [partsFrom_undotted (cut_of_not_mem (c := '.') (by simp) n.dot_not_mem), hplain]

end SimpleName

namespace Reference

variable {ref : Reference}

theorem dot_not_mem_behind (ref : Reference) : '.' ∉ ref.behind := by
  unfold behind
  cases hname : ref.name with
  | none => exact ref.column.dot_not_mem
  | some name => simp [aliasSeparator, ref.column.dot_not_mem, name.dot_not_mem]

theorem text_of_no_table (h : ref.table = none) : ref.text = String.ofList ref.behind := by
  rw [text, h]

/-- What begins with no table gets no prefix. -/
theorem fieldUnder_text (t : String) (h : ref.table = none) : fieldUnder t ref.text = ref.text := by
  rw [text_of_no_table h, fieldUnder, String.toList_ofList,
    if_neg (by simpa using ref.dot_not_mem_behind)]

theorem text_of_isBare (h : ref.IsBare) : ref.text = ref.column.text := by
  rw [text_of_no_table h.1, behind, h.2, String.ofList_toList]

/-- A reference that is more than a name has a dot or a blank. -/
theorem mem_text_of_not_isBare (t : String) (h : ¬ ref.IsBare) :
    '.' ∈ (fieldUnder t ref.text).toList ∨ ' ' ∈ (fieldUnder t ref.text).toList := by
  cases htable : ref.table with
  | none =>
    cases hname : ref.name with
    | none => exact absurd ⟨htable, hname⟩ h
    | some name =>
      rw [fieldUnder_text t htable, text_of_no_table htable, String.toList_ofList, behind, hname]
      exact .inr (by simp [aliasSeparator])
  | some table =>
    have hdot : '.' ∈ ref.text.toList := by simp [text, htable]
    rw [fieldUnder, if_pos (by simpa using hdot), String.toList_append]
    exact .inl (List.mem_append_right _ hdot)

/-- The parts of the column with its alias: the last one is the name in the result. -/
theorem partsFrom_behind (ref : Reference) (dotted : Bool) :
    ∃ parts, partsFrom dotted ref.behind =
        parts ++ [.name (ref.name.getD ref.column).text.toList] ∧
      ∀ part ∈ parts.getLast?, part = .dot ∨ part = .as := by
  have hplain : ∃ parts, partsFrom false ref.behind =
        parts ++ [.name (ref.name.getD ref.column).text.toList] ∧
      ∀ part ∈ parts.getLast?, part = .dot ∨ part = .as := by
    unfold behind
    cases hname : ref.name with
    | none => exact ⟨[], ref.column.partsFrom_eq false, by simp⟩
    | some name =>
      refine ⟨[.name ref.column.text.toList, .as], ?_, by simp⟩
      have hcut :
          cut aliasSeparator (ref.column.text.toList ++ (aliasSeparator ++ name.text.toList))
          = some (ref.column.text.toList, name.text.toList) :=
        cut_append ref.column.blank_not_mem name.text.toList
      dsimp only
      rw [partsFrom_as hcut, ref.column.partsFrom_eq, name.partsFrom_eq]
      rfl
  cases dotted with
  | false => exact hplain
  | true =>
    rwa [partsFrom_undotted (cut_of_not_mem (c := '.') (by simp) ref.dot_not_mem_behind)]

/-- So it is for the whole reference with a prefix, unless there is a dot in that. -/
theorem partsFrom_text {t : String} {ref : Reference} (ht : '.' ∉ t.toList ∨ ref.table = none) :
    ∃ parts, partsFrom true (fieldUnder t ref.text).toList =
        parts ++ [.name (ref.name.getD ref.column).text.toList] ∧
      ∀ part ∈ parts.getLast?, part = .dot ∨ part = .as := by
  cases htable : ref.table with
  | none =>
    rw [fieldUnder_text t htable, text_of_no_table htable, String.toList_ofList]
    exact ref.partsFrom_behind true
  | some table =>
    replace ht : '.' ∉ t.toList := ht.resolve_right (by simp [htable])
    obtain ⟨parts, hparts, hlast⟩ := ref.partsFrom_behind false
    have hcut : cut ['.'] (t.toList ++ table.text.toList ++ ('.' :: ref.behind)) =
        some (t.toList ++ table.text.toList, ref.behind) :=
      cut_append (by simp [ht, table.dot_not_mem]) ref.behind
    rw [text, htable]
    dsimp only
    rw [fieldUnder, String.toList_append, String.toList_ofList, if_pos (by simp),
      String.toList_append, String.toList_append, String.toList_ofList, ← List.append_assoc,
      partsFrom_dotted hcut, hparts]
    refine ⟨partsFrom false (t.toList ++ table.text.toList) ++ .dot :: parts, by simp, ?_⟩
    intro part hpart
    rw [List.getLast?_append, List.getLast?_cons] at hpart
    cases hl : parts.getLast? with
    | none => simp_all
    | some last => simp_all

end Reference

/-! ## The text of columns -/

/-- What stands behind the last dot or blank. -/
def endName (cs : List Char) : List Char := cs.rtakeWhile fun c => c != '.' && c != ' '

theorem not_mem_endName {c : Char} {cs : List Char} (h : c ∈ endName cs) : c ≠ '.' ∧ c ≠ ' ' := by
  simpa using List.mem_rtakeWhile_imp h

theorem endName_append {front tail : List Char} (htail : ∀ c ∈ tail, c ≠ '.' ∧ c ≠ ' ')
    (hfront : ∀ c ∈ front.getLast?, c = '.' ∨ c = ' ') : endName (front ++ tail) = tail := by
  have hstop : front.reverse.takeWhile (fun c => c != '.' && c != ' ') = [] := by
    rw [← List.head?_reverse] at hfront
    generalize front.reverse = cs at hfront
    cases cs with
    | nil => rfl
    | cons c cs =>
      have hc := hfront c rfl
      exact List.takeWhile_cons_of_neg (by simpa [Decidable.imp_iff_not_or] using hc)
  rw [endName, List.rtakeWhile, List.reverse_append, List.takeWhile_append_of_pos, hstop,
    List.append_nil, List.reverse_reverse]
  intro c hc
  simpa using htail c (List.mem_reverse.1 hc)

namespace Adapter

variable (a : Adapter)

/-- Different names are written differently. -/
theorem writePart_name_injective : Function.Injective fun cs => a.writePart (.name cs) := by
  intro cs ds h
  simp only [writePart, Dialect.quoteName] at h
  split at h
  · rw [List.cons_append, List.cons_append] at h
    exact Text.doubled_injective _ (List.append_cancel_right (List.cons.inj h).2)
  · exact h

theorem mem_writePart_name {c : Char} {cs : List Char} (h : c ∈ cs) :
    c ∈ a.writePart (.name cs) := by
  rw [writePart]
  split
  · simp [Dialect.quoteName, Text.mem_doubled, h]
  · exact h

theorem free_writePart (n : SimpleName) :
    ∀ c ∈ a.writePart (.name n.text.toList), c ≠ '.' ∧ c ≠ ' ' := by
  have hname : ∀ c ∈ n.text.toList, c ≠ '.' ∧ c ≠ ' ' := fun c hc =>
    ⟨(n.free c hc).1, fun hblank => n.blank_not_mem (hblank ▸ hc)⟩
  have hquote : a.dialect.identifierQuote ≠ '.' ∧ a.dialect.identifierQuote ≠ ' ' := by
    cases a.dialect <;> decide
  intro c hc
  rw [writePart] at hc
  split at hc
  · simp only [Dialect.quoteName, List.cons_append, List.mem_cons, List.mem_append,
      Text.mem_doubled, List.not_mem_nil, or_false] at hc
    obtain rfl | hc | rfl := hc
    · exact hquote
    · exact hname c hc
    · exact hquote
  · exact hname c hc

/-- What ends in a name is read so. -/
theorem endName_parts (n : SimpleName) {parts : List NamePart}
    (h : ∀ part ∈ parts.getLast?, part = .dot ∨ part = .as) :
    endName ((parts ++ [NamePart.name n.text.toList]).flatMap a.writePart) =
      a.writePart (.name n.text.toList) := by
  rw [List.flatMap_append, List.flatMap_singleton]
  refine endName_append (a.free_writePart n) ?_
  cases hparts : parts.getLast? with
  | none =>
    rw [List.getLast?_eq_none_iff] at hparts
    simp [hparts]
  | some part =>
    obtain ⟨front, rfl⟩ := List.getLast?_eq_some_iff.1 hparts
    obtain rfl | rfl := h part hparts
    · simp [writePart]
    · simp [writePart]

/-- The text of a column ends in its name, whatever is in front. -/
theorem columnItem_ends {t : String} {col : OutputColumn} (h : '.' ∉ t.toList ∨ col.IsBare) :
    ∃ f, a.columnItem (col.value t) = .ok f ∧
      endName f.sql.toList = a.writePart (.name col.name.text.toList) := by
  cases col with
  | named ref =>
    obtain ⟨parts, hparts, hlast⟩ := Reference.partsFrom_text (t := t) (h.imp_right And.left)
    refine ⟨_, rfl, ?_⟩
    show endName (String.ofList (a.wrapChars (fieldUnder t ref.text).toList)).toList = _
    rw [String.toList_ofList, wrapChars, hparts]
    exact a.endName_parts (ref.name.getD ref.column) hlast
  | aliased expression name =>
    obtain ⟨head, hhead⟩ : ∃ head, a.aliasedHead (expression.under t) = .ok head := by
      cases expression with
      | text s =>
        show ∃ head, (do
          if ← (Value.text (fieldUnder t s)).contains ")" then _ else _ : Result Fragment) =
            .ok head
        rw [Value.contains]
        dsimp only [bind, Except.bind]
        split <;> exact ⟨_, rfl⟩
      | raw sql bindings => exact ⟨_, rfl⟩
    refine ⟨head ++ Fragment.ofText (" AS " ++ a.wrap (.text name.text)), ?_, ?_⟩
    · rw [OutputColumn.value, columnItem, hhead]
      rfl
    · have hname : a.wrapChars name.text.toList = a.writePart (.name name.text.toList) := by
        rw [wrapChars, name.partsFrom_eq, List.flatMap_singleton]
      have hfront :
          ∀ c ∈ (head.sql.toList ++ [' ', 'A', 'S', ' ']).getLast?, c = '.' ∨ c = ' ' := by
        simp
      show endName (head.sql ++ (" AS " ++ String.ofList (a.wrapChars name.text.toList))).toList = _
      rw [hname, String.toList_append, String.toList_append, ← List.append_assoc]
      simp only [String.toList_ofList]
      exact endName_append (a.free_writePart name) hfront

end Adapter

end SqlBuilder
