import SqlBuilder.Proofs.Aligned.Alignment
import SqlBuilder.Proofs.Interpolation.Literal

/-!
# Interpolating and compiling

A query can be shown with its values as literals in two ways: by filling them into the compiled
text (`CompiledQuery.interpolated`), or by writing them into the statements first and compiling
those (`Adapter.literals`). `compile_literals`: for a sound request both give the same text, unless
a raw fragment leaves values behind. These come before the others, so with them every value would be
filled into the wrong placeholder.
-/

set_option autoImplicit false

namespace SqlBuilder

open Placeholder Fragment Value CompiledQuery

namespace Adapter

/-! ## Literals in the statements -/

/-- The text of a list: two items of a comparison between values, all items in parentheses
otherwise. -/
def listLiteral (a : Adapter) (operator : Value) (items : List Value) : String :=
  if isBetween operator then " AND ".intercalate ((items.take 2).map a.dialect.literal)
  else "(" ++ ", ".intercalate (items.map a.dialect.literal) ++ ")"

/-- Raw fragments that stand for what is bound: literals of values and lists, and raw fragments with
their own values filled in. A list without items and a scalar that is not bound stay. -/
def literals (a : Adapter) : Replacement where
  raw f := ⟨f.filled (literalOf (some a)), []⟩
  operand bindValues key operator v :=
    match v.items? with
    | some [] => v
    | some items => .raw (a.listLiteral operator items) []
    | none =>
      if bindValues && !standsAlone bindValues key operator v then .raw (a.dialect.literal v) []
      else v
  datum v := .raw (a.dialect.literal v) []

variable {a : Adapter}

/-! ## Filling in -/

theorem filling_bound {v : Value} (h : v.Bindable) :
    Filling Bound (literalOf (some a)) 0 (Fragment.bound v.normalize)
      ⟨a.dialect.literal v, []⟩ := by
  refine ⟨rfl, lacks_bound h.bound, rfl, ?_⟩
  apply String.toList_injective
  rw [toList_filled, ← literalOf_normalize h]
  simp [Fragment.bound, fillFrom_cons]

theorem filling_steady {s : String} (h : Quiet s) :
    Steady (Filling Bound (literalOf (some a))) s :=
  ⟨rfl, lacks_ofText h, rfl, (filled_ofText s).symm⟩

/-- The placeholders of a list, with a text between them, are filled to its literals. -/
theorem filling_items (separator : String) (hs : signs separator.toList = []) {items : List Value}
    (h : ∀ v ∈ items, v.Bindable) :
    Filling Bound (literalOf (some a)) 0 (placeholders separator items)
      (ofText (separator.intercalate (items.map a.dialect.literal))) := by
  have hR := filling_congruence (fills_literalOf a)
  have hlist := hR.intercalate (hR.word hs) (.of_forall₂ (List.forall₂_map_left_iff.2
    (List.forall₂_map_right_iff.2 (List.forall₂_same.2 fun v hv => filling_bound (h v hv)))))
  have hsql : Fragment.intercalate separator (items.map fun v => ⟨a.dialect.literal v, []⟩) =
      ofText (separator.intercalate (items.map a.dialect.literal)) := by
    refine congrArg₂ Fragment.mk ?_ ?_
    · rw [List.map_map]
      rfl
    · simp
  rw [hsql] at hlist
  exact hlist

theorem filling_listSide {operator : Value} {items : List Value}
    (hbetween : isBetween operator = true → 2 ≤ items.length)
    (h : ∀ v ∈ boundItems operator items, v.Bindable) :
    Filling Bound (literalOf (some a)) 0 (listSide operator items)
      ⟨a.listLiteral operator items, []⟩ := by
  unfold boundItems at h
  unfold listSide listLiteral
  split
  · rename_i hop
    rw [if_pos hop] at h
    match items, hbetween hop, h with
    | [_], hlength, _ => exact absurd hlength (by simp)
    | x :: y :: rest, _, h =>
      have htext : " AND ".intercalate (List.replicate 2 "?") = "? AND ?" := by decide
      have hmarks : (⟨"? AND ?", [x, y].map Value.normalize⟩ : Fragment) =
          placeholders " AND " [x, y] :=
        congrArg₂ Fragment.mk ((sql_placeholders " AND " [x, y]).trans htext).symm
          (bindings_placeholders " AND " [x, y]).symm
      have hitems := filling_items (a := a) " AND " (by decide) h
      rw [List.take_succ_cons, List.take_succ_cons, List.take_zero, ← hmarks] at hitems
      exact hitems
  · rename_i hop
    rw [if_neg hop] at h
    have hR := filling_congruence (fills_literalOf a)
    exact hR.parenthesized (filling_items ", " (by decide) h)

/-- The operand that is kept. -/
theorem operandRel_kept {bindValues : Bool} {key operator v : Value}
    (hkept : a.literals.operand bindValues key operator v = v)
    (hright : standsAlone bindValues key operator v = false →
      Filling Bound (literalOf (some a)) 0 (a.rightSide bindValues operator v)
        (a.rightSide bindValues operator v)) :
    OperandRel (Filling Bound (literalOf (some a))) a bindValues key operator v
      (a.literals.operand bindValues key operator v) := by
  rw [hkept]
  exact ⟨.rfl, .inr rfl, rfl, hright⟩

/-- The operand that is written out. -/
theorem operandRel_written {bindValues : Bool} {key operator v : Value} {sql : String}
    (hkey : operator.isKey = true) (hitems : v.items? ≠ some [])
    (hnot : standsAlone bindValues key operator v = false)
    (hwritten : a.literals.operand bindValues key operator v = .raw sql [])
    (hright : Filling Bound (literalOf (some a)) 0 (a.rightSide bindValues operator v) ⟨sql, []⟩) :
    OperandRel (Filling Bound (literalOf (some a))) a bindValues key operator v
      (a.literals.operand bindValues key operator v) := by
  rw [hwritten]
  refine ⟨⟨fun h => absurd h hitems, nofun⟩, .inl hkey, ?_, fun _ => hright⟩
  rw [hnot]
  simp [standsAlone, isRaw]

/-- What is not compared with anything has no literal. -/
theorem operandRel_alone {bindValues : Bool} {key operator v : Value}
    (h : standsAlone bindValues key operator v = true) :
    OperandRel (Filling Bound (literalOf (some a))) a bindValues key operator v
      (a.literals.operand bindValues key operator v) := by
  have hkept : a.literals.operand bindValues key operator v = v := by
    simp only [literals, items?_of_standsAlone h, h, Bool.not_true, Bool.and_false,
      Bool.false_eq_true, if_false]
  exact operandRel_kept hkept fun hnot => absurd h (by simp [hnot])

theorem operandRel_listLiteral {bindValues : Bool} {key operator v : Value} {items : List Value}
    (hkey : operator.isKey = true) (hitems : v.items? = some items)
    (hbetween : isBetween operator = true → 2 ≤ items.length)
    (h : ∀ v ∈ boundItems operator items, v.Bindable) :
    OperandRel (Filling Bound (literalOf (some a))) a bindValues key operator v
      (a.literals.operand bindValues key operator v) := by
  cases items with
  | nil =>
    have hkept : a.literals.operand bindValues key operator v = v := by
      simp only [literals, hitems]
    refine operandRel_kept hkept fun _ => ?_
    have hop : isBetween operator = false := by
      cases hop : isBetween operator with
      | false => rfl
      | true => exact absurd (hbetween hop) (by decide)
    have hside : a.rightSide bindValues operator v = ofText "()" := by
      simp only [rightSide, hitems, listSide, hop]
      rfl
    rw [hside]
    exact filling_steady (by decide)
  | cons x xs =>
    have hnot : standsAlone bindValues key operator v = false := by
      simp [standsAlone, hitems]
    have hwritten : a.literals.operand bindValues key operator v =
        .raw (a.listLiteral operator (x :: xs)) [] := by
      simp only [literals, hitems]
    have hside : a.rightSide bindValues operator v = listSide operator (x :: xs) := by
      rw [rightSide, hitems]
    refine operandRel_written hkey (by simp [hitems]) hnot hwritten ?_
    rw [hside]
    exact filling_listSide hbetween h

theorem operandRel_literals {bindValues : Bool} {key operator v : Value} (hraw : v.isRaw = false)
    (hop : operator.OperatorSound) (h : OperandSound Bindable Bound bindValues key operator v) :
    OperandRel (Filling Bound (literalOf (some a))) a bindValues key operator v
      (a.literals.operand bindValues key operator v) := by
  have hkey : operator.isKey = true := by
    rcases hop with rfl | ⟨s, rfl, -⟩ <;> rfl
  cases h with
  | raw hf => cases hraw
  | items hitems hbetween h => exact operandRel_listLiteral hkey hitems hbetween h
  | alone h => exact operandRel_alone h
  | bound hscalar hbind h =>
    subst hbind
    cases hnot : standsAlone true key operator v with
    | true => exact operandRel_alone hnot
    | false =>
      have hitems := (isScalar_iff.1 hscalar).1
      have hwritten : a.literals.operand true key operator v = .raw (a.dialect.literal v) [] := by
        simp only [literals, hitems, hnot, Bool.not_false, Bool.and_self, if_true]
      refine operandRel_written hkey (by simp [hitems]) hnot hwritten ?_
      rw [a.rightSide_bound hscalar]
      exact filling_bound h
  | name hscalar hbind h =>
    subst hbind
    have hitems := (isScalar_iff.1 hscalar).1
    have hkept : a.literals.operand false key operator v = v := by
      simp only [literals, hitems, Bool.false_and, Bool.false_eq_true, if_false]
    refine operandRel_kept hkept fun _ => ?_
    rw [a.rightSide_name hscalar]
    exact filling_steady (a.quiet_wrapText h)

theorem filling_datum {v : Value} (hraw : v.isRaw = false) (h : v.Bindable) :
    Filling Bound (literalOf (some a)) 0 (dataValue v) (dataValue (a.literals.datum v)) := by
  rw [dataValue_of_not_raw hraw]
  exact filling_bound h

/-- Where nothing is left behind, the literals stand where the values are filled in. -/
theorem respects_literals :
    Replacement.Respects Bindable Bound (Filling Bound (literalOf (some a))) a False .none
      a.literals where
  quiet h := filling_steady h
  raw h := ⟨rfl, h, rfl, rfl⟩
  dropped {f} h hlost := by
    have hnone : f.bindings = [] :=
      List.length_eq_zero_iff.1 (hlost.resolve_left not_false)
    have hsame : f.filled (literalOf (some a)) = f.sql := by
      have : f = ofText f.sql := congrArg (Fragment.mk f.sql) hnone
      rw [this, filled_ofText]
      rfl
    refine ⟨hsame, fun s hs => ⟨by rw [hnone]; rfl, ?_, rfl, (filled_ofText s).symm⟩⟩
    have htext := h.text.of_signs hs
    rw [hnone] at htext
    exact htext
  operand hraw hop h := operandRel_literals hraw hop h
  datum hraw h := filling_datum hraw h

/-! ## Statements with literals -/

/-- What is filled in needs no values. -/
theorem lacks_of_filling {n : Nat} {f f' : Fragment}
    (h : Filling Bound (literalOf (some a)) n f f') : f'.Lacks (fun _ => False) 0 := by
  obtain ⟨hbalanced, hcount⟩ := count_filled (fills_literalOf a) h.lacks
  exact ⟨h.sql ▸ hbalanced, by rw [h.sql, hcount, h.bindings]; rfl, by simp [h.bindings]⟩

theorem lacking_of_filling {n : Nat} {f f' : Fragment}
    (h : Filling Bound (literalOf (some a)) n f f') : Lacking (fun _ => False) 0 f' f' :=
  ⟨rfl, lacks_of_filling h⟩

/-- With the literals in the statements nothing is bound, whatever is left behind. -/
theorem respects_literals_self :
    Replacement.Respects Bindable Bound (fun _ => Lacking (fun _ => False) 0) a True a.literals
      a.literals where
  quiet h := ⟨rfl, lacks_ofText h⟩
  raw h := lacking_of_filling (respects_literals.raw h)
  dropped h _ := by
    refine ⟨rfl, fun s hs => ⟨rfl, ?_⟩⟩
    exact (lacks_of_filling (respects_literals.raw (a := a) h)).of_signs hs
  operand hraw hop h :=
    (operandRel_literals (a := a) hraw hop h).second (S := fun _ => Lacking (fun _ => False) 0)
      lacking_of_filling
  datum hraw h := lacking_of_filling (filling_datum hraw h)

/-! ## Both ways -/

theorem interpolated_eq (a : Adapter) (f : Fragment) :
    (⟨.text f.sql, .positional f.bindings, some a⟩ : CompiledQuery).interpolated =
      .ok (.text (f.filled (literalOf (some a)))) := by
  have hnone : (split f.sql).length ≤ 1 → f.filled (literalOf (some a)) = f.sql := by
    intro h
    have hholes : holes false f.sql.toList = 0 := by
      rw [← count_eq_holes, Placeholder.count]
      omega
    apply String.toList_injective
    rw [toList_filled, fillFrom_of_no_holes hholes]
  simp only [interpolated, segments_text]
  dsimp only [bind, Except.bind]
  split
  · rename_i h
    rw [hnone (by simp [h])]
    rfl
  · rename_i h
    rw [hnone (by simp [h])]
    rfl
  · rfl

theorem fragment_of_compile {op : Operation} {s : Statements} {values : List Value}
    {q : CompiledQuery} (h : a.compile op s values = .ok q) :
    ∃ f, a.fragment op s values = .ok f ∧ q = ⟨.text f.sql, .positional f.bindings, some a⟩ := by
  unfold compile at h
  cases hf : a.fragment op s values with
  | error => rw [hf] at h; cases h
  | ok f =>
    rw [hf] at h
    cases h
    exact ⟨f, rfl, rfl⟩

section Requests

variable {op : Operation} {s : Statements} {values : List Value}

/-- With the literals in the statements no placeholder is left. -/
theorem fragment_literals_lacks (hs : s.Sound Bindable Bound (Replacement.bindsCriteria values))
    (hvalues : PayloadSound Bindable Bound op values) {f : Fragment}
    (hf : a.fragment op (a.literals.statements (Replacement.bindsCriteria values) s)
      (a.literals.payload op values) = .ok f) : f.Lacks (fun _ => False) 0 := by
  have hR := (lacking_congruence (Q := fun _ => False)).ungraded
  have hagree := fragment_agree hR ((respects_literals_self (a := a)).requestRel hR op hs hvalues
    (.inl trivial))
  rw [hf] at hagree
  obtain ⟨_, -, -, hclosed⟩ := hagree.exists_ok
  exact hclosed

/-- If nothing is left behind, the statements with literals are written as the filled text. -/
theorem fragment_literals (hs : s.Sound Bindable Bound (Replacement.bindsCriteria values))
    (hvalues : PayloadSound Bindable Bound op values) (hlost : s.lost op = 0) {f : Fragment}
    (hf : a.fragment op s values = .ok f) :
    a.fragment op (a.literals.statements (Replacement.bindsCriteria values) s)
      (a.literals.payload op values) = .ok (ofText (f.filled (literalOf (some a)))) := by
  have hR := filling_congruence (fills_literalOf a)
  have hagree := fragment_agree hR (respects_literals.requestRel hR op hs hvalues (.inr hlost))
  rw [Replacement.none_statements, Replacement.none_payload, hf] at hagree
  obtain ⟨⟨sql, bindings⟩, hg, -, -, hbindings, hsql⟩ := hagree.exists_ok
  dsimp only at hbindings hsql
  rw [hg, hbindings, hsql]
  rfl

end Requests

/-! ## A select with a value in each place -/

theorem exists_of_isOk {α : Type} {x : Result α} (h : x.isOk = true) : ∃ y, x = .ok y := by
  cases x with
  | ok y => exact ⟨y, rfl⟩
  | error fault => cases h

/-- A raw column, a list with a quote and a question mark in it, and a comparison between two values
inside a group. -/
def mixedStatements : Statements where
  selects := .list [.raw "SUM(x + ?)" [.int 1]]
  tables := .list [.text "t"]
  wheres := some [
    .plain (.text "a") (.text "IN") (.list [.int 2, .text "it's?"]) (.text "AND"),
    .plain (.group [.plain (.text "b") (.text "BETWEEN") (.list [.int 3, .int 4]) (.text "OR")])
      .null .null (.text "AND")]

theorem mixedStatements_sound : ClausesSound Bindable Bound mixedStatements where
  selects := by
    refine .list fun v hv => ?_
    rw [List.mem_singleton.1 hv]
    refine .raw ⟨by decide, by decide +kernel, fun w hw => ?_⟩
    rw [List.mem_singleton.1 hw]
    exact ⟨rfl, bindable_int 1⟩
  distincts := .null
  tables := by
    refine .list fun v hv => ?_
    rw [List.mem_singleton.1 hv]
    exact .name ⟨rfl, by decide⟩
  aliases := .null
  wheres := by
    have hword : ∀ s, Quiet s → (Value.text s).Worded := fun s hs t ht => by
      cases ht
      exact hs
    have hnull : Value.null.Worded := fun _ h => nomatch h
    have hname : ∀ s, Quiet s → NameSound Bound (.text s) := fun s hs => .name ⟨rfl, hs⟩
    have hop : ∀ s, Quiet s → (Value.text s).OperatorSound := fun s hs => .inr ⟨s, rfl, hs⟩
    refine .comparison (hword _ (by decide)) hnull (fun _ h => nomatch h) (hname _ (by decide))
      (hop _ (by decide)) (.items rfl (fun h => nomatch h) fun v hv => ?_)
      (.group (hword _ (by decide)) hnull (.comparison (hword _ (by decide)) hnull
        (fun _ h => nomatch h) (hname _ (by decide)) (hop _ (by decide))
        (.items rfl (fun _ => by decide) fun v hv => ?_) .nil) .nil)
    · rcases List.mem_cons.1 hv with rfl | hv
      · exact bindable_int 2
      · rw [List.mem_singleton.1 hv]
        exact bindable_text _
    · rcases List.mem_cons.1 hv with rfl | hv
      · exact bindable_int 3
      · rw [List.mem_singleton.1 hv]
        exact bindable_int 4
  havings := .nil
  joins := by simp [mixedStatements]
  groupBys := .list (by simp)
  orderBys := by simp [mixedStatements]
  limit := .inl rfl
  offset := .inl rfl
  lock := ⟨rfl, by decide⟩
  onDuplicate := fun _ h => nomatch h

/-! ## Compiling literals -/

/-- The compiled text with its values filled in is what the statements with literals compile to,
without anything left to bind, exactly if no raw fragment leaves values behind. -/
theorem compile_literals (a : Adapter) (op : Operation) {s : Statements} {values : List Value}
    (hs : s.Sound Bindable Bound (Replacement.bindsCriteria values))
    (hvalues : PayloadSound Bindable Bound op values) {q : CompiledQuery}
    (hq : a.compile op s values = .ok q) :
    (∃ sql, q.interpolated = .ok sql ∧
      a.compile op (a.literals.statements (Replacement.bindsCriteria values) s)
        (a.literals.payload op values) = .ok ⟨sql, .positional [], some a⟩) ↔ s.lost op = 0 := by
  obtain ⟨f, hf, rfl⟩ := fragment_of_compile hq
  have hlacks := fragment_lacks (fun _ => Bindable.bound) hs hvalues hf
  constructor
  · rintro ⟨sql, hsql, hcompile⟩
    rw [interpolated_eq] at hsql
    cases hsql
    obtain ⟨⟨sql, bindings⟩, hg, hgq⟩ := fragment_of_compile hcompile
    cases hgq
    -- the filled text has a placeholder for each value that is lacking, the other text has none
    have hfilled := (count_filled (fills_literalOf a) hlacks).2
    have hclosed := (fragment_literals_lacks hs hvalues hg).count
    exact hfilled.symm.trans hclosed
  · intro hlost
    refine ⟨_, interpolated_eq a f, ?_⟩
    rw [compile, fragment_literals hs hvalues hlost hf]
    rfl

theorem compile_literals_of_mixed : ∃ q sql,
    (Adapter.mk .mysql true).compile .select mixedStatements [] = .ok q ∧
    q.interpolated = .ok sql ∧
    (Adapter.mk .mysql true).compile .select
        ((Adapter.mk .mysql true).literals.statements true mixedStatements) [] =
      .ok ⟨sql, .positional [], some (.mk .mysql true)⟩ := by
  have hok : ((Adapter.mk .mysql true).compile .select mixedStatements []).isOk = true := by
    decide +kernel
  obtain ⟨q, hq⟩ := exists_of_isOk hok
  obtain ⟨sql, hsql, hcompile⟩ :=
    (compile_literals _ .select ⟨mixedStatements_sound, .nil, .nil⟩ trivial hq).2 rfl
  exact ⟨q, sql, hq, hsql, hcompile⟩

end Adapter

end SqlBuilder
