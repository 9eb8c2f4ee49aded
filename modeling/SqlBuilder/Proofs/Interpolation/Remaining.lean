import SqlBuilder.Proofs.Interpolation.Compile

/-!
# Placeholders that remain

Filling values into a query takes its first placeholders away, one for each value, and leaves the
others as they are: `placeholders_left` says so of the text that is displayed, whatever the values
are and however many of them are given. A literal is read without a placeholder outside its quotes
and leaves the reader where it was (`tail_splitFrom_append`), also where the quotes of the query
itself are never closed; so from one placeholder to the next nothing is split off that the query did
not have (`tail_splitFrom_fillFrom`).
-/

set_option autoImplicit false

namespace SqlBuilder

open Placeholder Value

namespace Placeholder

theorem tail_consFirst {α : Type} (c : α) {segments : List (List α)} (h : segments ≠ []) :
    (consFirst c segments).tail = segments.tail := by
  cases segments with
  | nil => exact absurd rfl h
  | cons segment segments => rfl

/-- A text without placeholders goes into the first segment. -/
theorem tail_splitFrom_append {quoted : Bool} {a : List Char} (h : holes quoted a = 0)
    (b : List Char) :
    (splitFrom '?' '\'' quoted (a ++ b)).tail =
      (splitFrom '?' '\'' (quotedAfter quoted a) b).tail := by
  induction a generalizing quoted with
  | nil => rfl
  | cons c a ih =>
    have hc : ¬ (c == '?' && !quoted) = true := fun hc => by simp [holes, hc] at h
    have hrest : holes (toggled quoted c) a = 0 := by simpa [holes, hc] using h
    rw [List.cons_append, splitFrom, if_neg hc, tail_consFirst c (splitFrom_ne_nil _ _ _ _)]
    exact ih hrest

/-- The segments behind the first marks are those of the text that is filled. -/
theorem tail_splitFrom_fillFrom {marks : List (List Char)}
    (hmarks : ∀ mark ∈ marks, ∀ quoted, holes false mark = 0 ∧ quotedAfter quoted mark = quoted)
    (quoted : Bool) (cs : List Char) :
    (splitFrom '?' '\'' quoted (fillFrom quoted marks cs)).tail =
      (splitFrom '?' '\'' quoted cs).drop (marks.length + 1) := by
  induction cs generalizing quoted marks with
  | nil => simp [splitFrom]
  | cons c cs ih =>
    cases marks with
    | nil => simp
    | cons mark marks =>
      obtain ⟨hmark, hrest⟩ := List.forall_mem_cons.1 hmarks
      rw [fillFrom_cons]
      by_cases hc : (c == '?' && !quoted) = true
      · obtain ⟨-, rfl⟩ : c = '?' ∧ quoted = false := by simpa using hc
        rw [if_pos hc, tail_splitFrom_append (hmark false).1, (hmark false).2, ih hrest false,
          splitFrom, if_pos hc, List.length_cons, List.drop_succ_cons]
      · rw [if_neg hc, splitFrom, if_neg hc, splitFrom, if_neg hc,
          tail_consFirst c (splitFrom_ne_nil _ _ _ _), ← List.drop_tail,
          tail_consFirst c (splitFrom_ne_nil _ _ _ _), List.drop_tail]
        exact ih hmarks (toggled quoted c)

theorem count_eq_length_tail (s : String) : count s = (split s).tail.length := by
  rw [count, List.length_tail]

end Placeholder

namespace CompiledQuery

/-- The text that is displayed has, behind as many placeholders as values are given, the
placeholders of the query with the texts between them. -/
theorem placeholders_left (a : Adapter) (sql : String) {vs : List Value}
    (h : ∀ v ∈ vs, v.Bound) :
    ∃ shown : String,
      (⟨.text sql, .positional vs, some a⟩ : CompiledQuery).interpolated = .ok (.text shown) ∧
      (split shown).tail = (split sql).drop (vs.length + 1) ∧
      count shown = count sql - vs.length := by
  let f : Fragment := ⟨sql, vs⟩
  refine ⟨f.filled (literalOf (some a)), Adapter.interpolated_eq a f, ?_⟩
  have htail : (split (f.filled (literalOf (some a)))).tail =
      (split sql).drop (vs.length + 1) := by
    have hsplit := tail_splitFrom_fillFrom ((fills_literalOf a).quiet_marks h) false sql.toList
    rw [List.length_map] at hsplit
    rw [split, split, ← List.map_tail, ← List.map_drop, Fragment.toList_filled, hsplit]
  refine ⟨htail, ?_⟩
  rw [count_eq_length_tail, htail, List.length_drop, count]
  omega

/-- A query with a question mark in quotes, and at its end a quote that is never closed. -/
def openQuery : String := "SELECT '?', ?, ?, ?, ? WHERE a = 'open?"

/-- Values with quotes, question marks and backslashes in them, and a decimal. -/
def signedValues : List Value :=
  [.text "it's ?\\", .bytes [0x27, 0x3F, 0x5C], .decimal "-1.5E+3" 0]

theorem bound_signedValues : ∀ v ∈ signedValues, v.Bound := by
  have hbytes : (Value.bytes [0x27, 0x3F, 0x5C]).Bindable := ⟨rfl, fun _ _ h => nomatch h⟩
  have hdecimal : (Value.decimal "-1.5E+3" 0).Bindable := by
    refine ⟨rfl, fun numeral identity h => ?_⟩
    cases h
    exact ⟨by decide, List.all_eq_true.1 (by decide)⟩
  simp only [signedValues, List.forall_mem_cons, List.not_mem_nil, false_imp_iff, implies_true,
    and_true]
  exact ⟨⟨rfl, bindable_text _⟩, ⟨rfl, hbytes⟩, rfl, hdecimal⟩

theorem placeholders_left_of_open :
    (∀ v ∈ signedValues, v.Bound) ∧ ∃ shown : String,
      (⟨.text openQuery, .positional signedValues, some ⟨.mysql, false⟩⟩ :
        CompiledQuery).interpolated = .ok (.text shown) ∧
      (split shown).tail = [" WHERE a = 'open?"] ∧ count shown = 1 := by
  obtain ⟨shown, hshown, htail, hcount⟩ :=
    placeholders_left ⟨.mysql, false⟩ openQuery bound_signedValues
  refine ⟨bound_signedValues, shown, hshown, ?_, ?_⟩
  · rw [htail]
    decide
  · rw [hcount]
    decide

end CompiledQuery

end SqlBuilder
