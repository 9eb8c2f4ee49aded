import SqlBuilder.Proofs.Quoting.Lowering
import SqlBuilder.Proofs.Splicing.Operands

/-!
# The alias in front of column keys

A `KeyHole` is a place for the key of a comparison in a list of conditions, itself in groups or not.
`written` is what is written for the key, in one context whatever the key is (`uniform_key`).

Under the alias of a table a plain key is qualified, a key with a dot and a raw fragment are not. A
group is written without the alias, so a plain key in it stands by itself.
-/

set_option autoImplicit false

namespace SqlBuilder

open Fragment Text

/-! ## Conditions with a place for a key -/

/-- The key of the condition is written: it has no columns, and is not compared with an empty list
in a way that amounts to a constant. -/
def Condition.WritesKey (c : Condition) : Prop :=
  c.columns = [] ∧ (c.value.items? = some [] →
    ∀ word, operatorWord c.operator = .ok word → emptySetPredicate? word = none)

/-- A condition with a place for a key, itself in groups or not. -/
inductive KeyHole where
  | here (c : Condition)
  | grouped (c : Condition) (front : List Condition) (inner : KeyHole) (back : List Condition)

namespace KeyHole

/-- The condition with a key in the place. -/
def fill : KeyHole → Value → Condition
  | here c, k => { c with key := k }
  | grouped c front inner back, k => { c with key := .group (front ++ inner.fill k :: back) }

/-- The key is written. -/
def Reads : KeyHole → Prop
  | here c => c.WritesKey
  | grouped c _ inner _ => c.columns = [] ∧ inner.Reads

/-- The key is written without the operator and the value. -/
def standsAlone : KeyHole → Value → Bool
  | here c, k => Adapter.standsAlone true k c.operator c.value
  | grouped _ _ inner _, k => inner.standsAlone k

/-- The place is in no group. -/
def isOuter : KeyHole → Bool
  | here _ => true
  | grouped .. => false

/-- What is written for the key under an alias; in groups there is none. -/
def written (a : Adapter) : (qualifier : Value) → KeyHole → Value → Fragment
  | qualifier, here _, k => a.conditionKey { qualifier } k
  | _, grouped _ _ inner _, k => inner.written a .null k

/-- A key that is no group, of which something is written. -/
structure Fits (a : Adapter) (qualifier : Value) (alone : Bool) (hole : KeyHole) (k : Value) :
    Prop where
  single : ∀ conditions, k ≠ .group conditions
  alone_eq : hole.standsAlone k = alone
  visible : Visible (hole.written a qualifier k).sql.toList

theorem fill_joiner (hole : KeyHole) (k : Value) :
    (hole.fill k).joiner = (hole.fill .null).joiner := by
  cases hole <;> rfl

theorem fill_leading (hole : KeyHole) (k : Value) :
    (hole.fill k).leading = (hole.fill .null).leading := by
  cases hole <;> rfl

theorem standsAlone_of_not_raw {k : Value} (h : k.isRaw = false) (hole : KeyHole) :
    hole.standsAlone k = false := by
  induction hole with
  | here c => simp [standsAlone, Adapter.standsAlone, h]
  | grouped _ _ _ _ ih => exact ih

/-- Outside groups the alias counts, inside them it does not. -/
theorem written_eq (a : Adapter) (qualifier : Value) (hole : KeyHole) (k : Value) :
    hole.written a qualifier k =
      a.conditionKey { qualifier := if hole.isOuter then qualifier else .null } k := by
  induction hole generalizing qualifier with
  | here c => rfl
  | grouped _ _ inner _ ih =>
    rw [written, ih]
    cases inner.isOuter <;> rfl

end KeyHole

namespace Adapter

variable {α : Type} {w : α → Fragment} {k : α → Value} (a : Adapter)

/-! ## Lists of conditions -/

/-- A comparison whose key varies. -/
theorem uniform_keyComparison (style : CriteriaStyle) {operator value : Value} {alone : Bool}
    (h : value.items? = some [] →
      ∀ word, operatorWord operator = .ok word → emptySetPredicate? word = none)
    (hk : ∀ x, standsAlone style.bindValues (k x) operator value = alone) :
    Uniform (Among (Framed fun x => a.conditionKey style (k x)))
      fun x => a.comparison style (k x) operator value := by
  cases hitems : value.items? with
  | none =>
    simp only [comparison_scalar a style _ operator hitems, hk]
    refine .read _ fun _ => ?_
    cases alone with
    | true => exact .ok ⟨[], _, [], .self _, fun _ => rfl⟩
    | false =>
      refine .ok ⟨[], _, [], ?_, fun _ => rfl⟩
      exact ((Framed.self _).append_const _).append_const _
  | some items =>
    simp only [comparison_list a style _ operator hitems]
    refine .read_of _ fun word hword => ?_
    suffices hlist : Uniform (Among (Framed fun x => a.conditionKey style (k x)))
        fun x => listComparison (a.conditionKey style (k x)) operator items from
      hlist.congr fun x => by
        cases items with
        | nil => simp only [h hitems word hword]
        | cons => cases emptySetPredicate? word <;> rfl
    simp only [listComparison]
    cases operator.isKey with
    | false => exact .error _
    | true =>
      simp only [Bool.not_true, Bool.false_eq_true, if_false]
      split
      · exact .ok ⟨[], _, [_], (Framed.self _).append_const _, fun _ => rfl⟩
      · exact .ok ⟨[], _, [_], (Framed.self _).append_const _, fun _ => rfl⟩

/-- What is written for a condition with a key in the place. -/
theorem uniform_keyBody {hole : KeyHole} (h : hole.Reads) (qualifier : Value) {alone : Bool}
    (hk : ∀ x, hole.Fits a qualifier alone (k x)) :
    Uniform (Among (Framed fun x => hole.written a qualifier (k x)))
      fun x => conditionBody a { qualifier } (hole.fill (k x)) := by
  induction hole generalizing qualifier with
  | here c =>
    simp only [KeyHole.fill, conditionBody, h.1, List.isEmpty_nil, if_true,
      keyBody_of_not_group _ _ (hk _).single]
    exact a.uniform_keyComparison { qualifier } h.2 fun x => (hk x).alone_eq
  | grouped c front inner back ih =>
    obtain ⟨hcolumns, hread⟩ := h
    have hinner : ∀ x, inner.Fits a .null alone (k x) := fun x =>
      ⟨(hk x).single, (hk x).alone_eq, (hk x).visible⟩
    have hpieces := a.uniform_criteriaPieces (fun x => inner.fill_joiner (k x))
      (fun x => inner.fill_leading (k x)) (ih hread .null hinner) front back true
    simp only [KeyHole.fill, conditionBody, hcolumns, List.isEmpty_nil, if_true, keyBody]
    exact hpieces.bind fun ps hps => (uniform_joinPieces hps).bind fun g hg =>
      .ok ⟨[], _, [], hg.parenthesized, fun _ => rfl⟩

/-- A `WHERE` with a key in the place. -/
theorem uniform_keyClause {hole : KeyHole} (h : hole.Reads) (qualifier : Value) {alone : Bool}
    (hk : ∀ x, hole.Fits a qualifier alone (k x)) (front back : List Condition) :
    Uniform (Framed fun x => hole.written a qualifier (k x))
      fun x => a.conditionClause "WHERE" qualifier (some (front ++ hole.fill (k x) :: back)) := by
  refine a.uniform_conditionClause (by simp) ?_
  have hpieces := a.uniform_criteriaPieces (fun x => hole.fill_joiner (k x))
    (fun x => hole.fill_leading (k x)) (a.uniform_keyBody h qualifier hk) front back true
  exact hpieces.bind fun ps hps => uniform_joinPieces hps

end Adapter

/-! ## One table with an alias -/

/-- There is one table, and it has an alias. The text of a raw fragment is no name that has an alias
of its own. -/
structure Statements.Declares (s : Statements) (table : Value) (name : String) : Prop where
  tables : s.tables = .list [table]
  named : s.aliasOf table = .ok (.text name)
  unnamed : ∀ sql bindings, table = .raw sql bindings → s.aliasOf (.text sql) = .ok .null

/-- What qualifies the keys where the table has the alias: a raw fragment is written without one. -/
def aliasFor (table : Value) (name : String) : Value :=
  if table.isRaw then .null else .text (lower name)

theorem Text.lower_eq_empty {s : String} : lower s = "" ↔ s = "" := by
  constructor
  · intro h
    apply String.toList_injective
    have hnone : (lower s).toList = [] := by simp [h]
    cases hs : s.toList with
    | nil => rfl
    | cons c cs =>
      have hsafe : LowersSafely fun _ => false := ⟨by decide +kernel, by decide⟩
      rw [lower, String.toList_ofList, hs, lowerFrom_cons, List.append_eq_nil_iff] at hnone
      exact absurd hnone.1 (smallAt_avoids hsafe [] cs rfl).1
  · rintro rfl
    rfl

namespace Adapter

variable {α : Type} {k : α → Value} (a : Adapter)

section Declared

variable {s : Statements} {table : Value} {name : String} (h : s.Declares table name)
include h

theorem tableList_qualifier {tables : Fragment} {qualifier : Value}
    (htables : a.tableList s = .ok (tables, qualifier)) : qualifier = aliasFor table name := by
  have hsources : s.sources = .ok [table] := by
    rw [Statements.sources, h.tables]
    rfl
  rw [tableList, hsources] at htables
  cases hraw : table.isRaw with
  | true =>
    obtain ⟨sql, bindings, rfl⟩ := Value.exists_eq_raw hraw
    cases htables
    rfl
  | false =>
    simp only [bind, Except.bind, List.mapM_cons, a.tableFragment_of_not_raw s hraw,
      a.aliasedTable_named h.named] at htables
    cases htables
    simp [aliasFor, hraw]

theorem aliasedTable_qualifier {target : Value} (htarget : targetTable s "UPDATE" = .ok target)
    {named : String} {qualifier : Value}
    (hnamed : a.aliasedTable s target = .ok (named, qualifier)) :
    qualifier = aliasFor table name := by
  have hback : s.tables.back = .ok table := by
    rw [h.tables]
    rfl
  have htables : s.hasTables = true := by
    rw [Statements.hasTables, h.tables]
    rfl
  simp only [targetTable, htables, hback] at htarget
  cases hraw : table.isRaw with
  | true =>
    obtain ⟨sql, bindings, rfl⟩ := Value.exists_eq_raw hraw
    cases htarget
    rw [aliasedTable, h.unnamed sql bindings rfl] at hnamed
    cases hnamed
    rfl
  | false =>
    have hsame : target = table := by
      cases table <;> first | (cases htarget; rfl) | simp [Value.isRaw] at hraw
    rw [hsame, a.aliasedTable_named h.named] at hnamed
    cases hnamed
    simp [aliasFor, hraw]

/-- A select or an update with a key in a place among its conditions. -/
theorem uniform_key {op : Operation} (hop : op = .select ∨ op = .update) {hole : KeyHole}
    (hread : hole.Reads) {alone : Bool}
    (hk : ∀ x, hole.Fits a (aliasFor table name) alone (k x)) (front back : List Condition)
    (payload : List Value) :
    Uniform (Framed fun x => hole.written a (aliasFor table name) (k x)) fun x =>
      a.fragment op { s with wheres := some (front ++ hole.fill (k x) :: back) } payload := by
  have hclause := a.uniform_keyClause hread (aliasFor table name) hk front back
  rcases hop with rfl | rfl
  · cases payload with
    | cons => exact .error _
    | nil =>
      refine a.uniform_select s (fun _ => rfl) (fun _ => rfl)
        (a.uniform_selectMember_wheres_of s (fun x => (hk x).visible) ?_)
      intro tables qualifier htables
      rw [a.tableList_qualifier h htables]
      exact hclause
  · rcases payload with _ | ⟨data, _ | _⟩
    · exact .error _
    · refine a.uniform_update_wheres_of s (fun x => (hk x).visible) data ?_
      intro target named qualifier htarget hnamed
      rw [a.aliasedTable_qualifier h htarget hnamed]
      exact hclause
    · exact .error _

end Declared

/-! ## Plain keys, keys with a dot and raw fragments -/

/-- A name is written with a dot just if it has one. -/
theorem dot_mem_wrapText (s : String) : '.' ∈ (a.wrapText s).toList ↔ '.' ∈ s.toList := by
  have hparts (dotted : Bool) (cs : List Char) :
      '.' ∈ (partsFrom dotted cs).flatMap a.writePart ↔ '.' ∈ cs := by
    induction dotted, cs using partsFrom.induct with
    | case1 cs front rest hcut =>
      rw [partsFrom_dotted hcut, cut_eq_some hcut]
      simp [writePart]
    | case2 cs hcut ih => rw [partsFrom_undotted hcut, ih]
    | case3 dotted cs hdotted front rest hcut ihf ihr =>
      rw [eq_false_of_ne_true hdotted, partsFrom_as hcut, cut_eq_some hcut, List.flatMap_append,
        List.flatMap_cons, List.mem_append, List.mem_append, ihf, ihr]
      simp [writePart, aliasSeparator]
    | case4 dotted cs hdotted hcut =>
      have hquote : '.' ≠ a.dialect.identifierQuote := by cases a.dialect <;> decide
      have hdoubled : '.' ∈ doubled a.dialect.identifierQuote cs ↔ '.' ∈ cs := by
        rw [doubled, List.mem_flatMap]
        constructor
        · rintro ⟨c, hc, hmem⟩
          have hsame : '.' = c := by split at hmem <;> simpa using hmem
          exact hsame ▸ hc
        · intro hmem
          exact ⟨'.', hmem, by simp [hquote]⟩
      rw [eq_false_of_ne_true hdotted, partsFrom_plain hcut, List.flatMap_singleton]
      split
      · rfl
      · rw [writePart]
        split
        · simp [Dialect.quoteName, hquote, hdoubled]
        · rfl
  rw [wrapText, String.toList_ofList]
  exact hparts true s.toList

/-- What is written for a key without a dot. -/
theorem written_plain (table : Value) (name : String) (hole : KeyHole) {key : String}
    (hkey : '.' ∉ key.toList) :
    hole.written a (aliasFor table name) (.text key) =
      ofText (if hole.isOuter ∧ name ≠ "" ∧ table.isRaw = false then
        a.wrapText (lower name) ++ "." ++ a.wrapText key else a.wrapText key) := by
  have hdot : (a.wrap (.text key)).toList.contains '.' = false := by
    simpa [wrap, Value.toText] using mt (a.dot_mem_wrapText key).1 hkey
  rw [KeyHole.written_eq, conditionKey_of_not_raw rfl, hdot]
  refine congrArg ofText ?_
  cases houter : hole.isOuter with
  | false => simp [Value.isTrue, wrap, Value.toText]
  | true =>
    cases hraw : table.isRaw with
    | true => simp [aliasFor, hraw, Value.isTrue, wrap, Value.toText]
    | false => simp [aliasFor, hraw, Value.isTrue, Text.lower_eq_empty, wrap, Value.toText]

/-- A key with a dot is written as a name wherever it stands. -/
theorem written_dotted (qualifier : Value) (hole : KeyHole) {key : String}
    (hkey : '.' ∈ key.toList) :
    hole.written a qualifier (.text key) = ofText (a.wrapText key) := by
  have hdot : (a.wrap (.text key)).toList.contains '.' = true := by
    simpa [wrap, Value.toText] using (a.dot_mem_wrapText key).2 hkey
  rw [KeyHole.written_eq, conditionKey_of_not_raw rfl, hdot]
  simp [wrap, Value.toText]

theorem fits_text (qualifier : Value) (hole : KeyHole) {key : String} (h : Visible key.toList) :
    hole.Fits a qualifier false (.text key) := by
  refine ⟨by simp, KeyHole.standsAlone_of_not_raw rfl hole, ?_⟩
  have hname : Visible (a.wrap (.text key)).toList := a.visible_wrapText h
  rw [KeyHole.written_eq, conditionKey_of_not_raw rfl]
  generalize (if hole.isOuter then qualifier else .null) = outer
  simp only [ofText]
  split
  · rw [String.toList_append]
    exact hname.append_left _
  · exact hname

theorem fits_raw (qualifier : Value) (hole : KeyHole) {sql : String} (h : Visible sql.toList)
    (bindings : List Value) :
    hole.Fits a qualifier (hole.standsAlone (.raw sql bindings)) (.raw sql bindings) :=
  ⟨by simp, rfl, by rw [KeyHole.written_eq]; exact h⟩

/-- The key of a comparison is written in one place of a select or an update, whatever the key is.
Under the alias of the only table, a key without a dot is qualified with the alias in small letters
exactly if the comparison is in no group (and the table is no raw fragment, the alias not empty);
otherwise the key stands by itself. Keys with a dot and raw fragments are nowhere qualified. -/
theorem compile_key {op : Operation} (hop : op = .select ∨ op = .update) {s : Statements}
    {table : Value} {name : String} (h : s.Declares table name) {hole : KeyHole}
    (hread : hole.Reads) (front back : List Condition) (payload : List Value) :
    let written := hole.written a (aliasFor table name)
    let fits := hole.Fits a (aliasFor table name)
    (∀ alone, a.InContext (fun k : { k // fits alone k } => written k) fun k =>
      a.compile op { s with wheres := some (front ++ hole.fill k :: back) } payload) ∧
    (∀ key : String, Visible key.toList → fits false (.text key) ∧
      written (.text key) = ofText (
        if '.' ∉ key.toList ∧ hole.isOuter ∧ name ≠ "" ∧ table.isRaw = false then
          a.wrapText (lower name) ++ "." ++ a.wrapText key
        else a.wrapText key)) ∧
    ∀ sql bindings, Visible sql.toList →
      fits (hole.standsAlone (.raw sql bindings)) (.raw sql bindings) ∧
      written (.raw sql bindings) = ⟨sql, bindings⟩ := by
  intro written fits
  refine ⟨fun alone => a.compile_inContext
    (a.uniform_key h hop hread (fun k => k.2) front back payload), fun key hkey => ?_,
    fun sql bindings hsql => ⟨a.fits_raw _ hole hsql bindings, KeyHole.written_eq ..⟩⟩
  refine ⟨a.fits_text _ hole hkey, ?_⟩
  by_cases hdot : '.' ∈ key.toList
  · simp only [hdot, not_true_eq_false, false_and, if_false]
    exact a.written_dotted _ hole hdot
  · simp only [hdot, not_false_eq_true, true_and]
    exact a.written_plain table name hole hdot

/-- The same key beside a group and in it: only the first is qualified. -/
theorem compile_key_of_group :
    let a : Adapter := ⟨.mysql, false⟩
    let s : Statements := { Statements.empty with
      tables := .list [.text "t"], aliases := .map [(.text "t", .text "a")] }
    let condition (key : String) : Condition :=
      .plain (.text key) (.text "=") (.int 1) (.text "AND")
    let hole : KeyHole := .grouped (condition "") [] (.here (condition "")) []
    s.Declares (.text "t") "a" ∧ hole.Reads ∧
    hole.written a (aliasFor (.text "t") "a") (.text "x") = ofText "x" ∧
    a.compile .select
      { s with wheres := some ([condition "x"] ++ hole.fill (.text "x") :: []) } [] = .ok
      { sql := .text "SELECT * FROM t AS a WHERE a.x = ? AND (x = ?)"
        bindings := .positional [.int 1, .int 1]
        adapter := some a } := by
  intro a s condition hole
  have hdeclares : s.Declares (.text "t") "a" :=
    ⟨rfl, by cbv, fun _ _ hraw => by cases hraw⟩
  have hread : hole.Reads := ⟨rfl, rfl, fun hnone => by cases hnone⟩
  obtain ⟨-, hplain, -⟩ := compile_key a (.inl rfl) hdeclares hread [condition "x"] [] []
  have hwrapped : a.wrapText "x" = "x" := by cbv
  refine ⟨hdeclares, hread, ?_, by cbv⟩
  rw [(hplain "x" ⟨'x', by decide, by decide⟩).2, hwrapped]
  rfl

end Adapter

end SqlBuilder
