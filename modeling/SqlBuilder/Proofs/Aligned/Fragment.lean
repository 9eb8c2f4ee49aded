import Mathlib.Data.List.TakeWhile
import SqlBuilder.Proofs.Related.Fragment
import SqlBuilder.Proofs.Text.Signs

/-!
# Placeholders and their values

`Fragment.Lacks Q n f`: the quotes of a fragment are closed, every value it binds meets `Q`, and it
has `n` placeholders more than values. With `n = 0` each placeholder has its value, and
`Fragment.filled` puts a text for each value in its place.

Both notions go through whatever the compiler does with fragments: `lacking_congruence` for the
counts, `filling_congruence` for the texts that are filled in.
-/

set_option autoImplicit false

namespace SqlBuilder

open Placeholder

namespace Text

/-! ## White space round a text -/

/-- A text without white space at either end. -/
structure Tight (cs : List Char) : Prop where
  first : ∀ c rest, cs = c :: rest → isBlank c = false
  last : ∀ c rest, cs = rest ++ [c] → isBlank c = false

theorem dropWhile_append_of_forall {p : Char → Bool} {lead cs : List Char}
    (hlead : ∀ c ∈ lead, p c = true) (hcs : ∀ c rest, cs = c :: rest → p c = false) :
    (lead ++ cs).dropWhile p = cs := by
  rw [List.dropWhile_append_of_pos hlead]
  cases cs with
  | nil => rfl
  | cons c cs => simp [hcs c cs rfl]

theorem tight_stripChars (cs : List Char) : Tight (stripChars cs) := by
  obtain ⟨_, _, _, _, _, hfirst, hlast⟩ := trimBy_spec isBlank cs
  exact ⟨hfirst, hlast⟩

/-- Stripping takes white space from the ends and leaves what has none there. -/
theorem stripChars_append {lead cs trail : List Char} (hlead : ∀ c ∈ lead, isBlank c = true)
    (hcs : Tight cs) (htrail : ∀ c ∈ trail, isBlank c = true) :
    stripChars (lead ++ cs ++ trail) = cs := by
  have hblank : ∀ blanks : List Char, (∀ c ∈ blanks, isBlank c = true) →
      blanks.dropWhile isBlank = [] := fun blanks h => List.dropWhile_eq_nil_iff.2 h
  rw [stripChars, trimBy]
  cases cs with
  | nil =>
    have hall : ∀ c ∈ lead ++ trail, isBlank c = true := fun c hc =>
      (List.mem_append.1 hc).elim (hlead c) (htrail c)
    rw [List.append_nil, hblank _ hall]
    rfl
  | cons c cs =>
    have hfirst : ∀ d rest, c :: cs ++ trail = d :: rest → isBlank d = false := by
      intro d rest h
      rw [List.cons_append, List.cons.injEq] at h
      exact h.1 ▸ hcs.first c cs rfl
    have hlast : ∀ d rest, (c :: cs).reverse = d :: rest → isBlank d = false := by
      intro d rest h
      refine hcs.last d rest.reverse ?_
      rw [← List.reverse_reverse (c :: cs), h, List.reverse_cons]
    rw [List.append_assoc, dropWhile_append_of_forall hlead hfirst, List.reverse_append,
      dropWhile_append_of_forall (fun d hd => htrail d (List.mem_reverse.1 hd)) hlast,
      List.reverse_reverse]

end Text

namespace Placeholder

/-! ## Filling and white space -/

open Text

/-- Texts that may be put in the place of a placeholder: not empty and without white space at either
end. -/
def Solid (mark : List Char) : Prop := mark ≠ [] ∧ Tight mark

theorem fillFrom_ne_nil {quoted : Bool} {marks : List (List Char)}
    (hmarks : ∀ mark ∈ marks, Solid mark) {cs : List Char} (h : cs ≠ []) :
    fillFrom quoted marks cs ≠ [] := by
  cases cs with
  | nil => exact absurd rfl h
  | cons c cs =>
    cases marks with
    | nil => simp
    | cons mark marks =>
      rw [fillFrom_cons]
      split
      · have := (hmarks mark List.mem_cons_self).1
        simp [this]
      · simp

/-- What a single character is filled to. -/
theorem fillFrom_singleton (quoted : Bool) (marks : List (List Char)) (c : Char) :
    fillFrom quoted marks [c] = [c] ∨ fillFrom quoted marks [c] ∈ marks := by
  cases marks with
  | nil => exact .inl (by simp)
  | cons mark marks =>
    rw [fillFrom_cons]
    split
    · exact .inr (by simp)
    · exact .inl (by simp)

theorem tight_fillFrom_singleton (quoted : Bool) {marks : List (List Char)}
    (hmarks : ∀ mark ∈ marks, Solid mark) {c : Char} (hc : isBlank c = false) :
    Solid (fillFrom quoted marks [c]) := by
  rcases fillFrom_singleton quoted marks c with h | h
  · rw [h]
    refine ⟨by simp, fun d rest hd => ?_, fun d rest hd => ?_⟩
    · rw [List.cons.injEq] at hd
      exact hd.1 ▸ hc
    · have : [] ++ [c] = rest ++ [d] := hd
      rw [List.append_singleton_inj] at this
      exact this.2 ▸ hc
  · exact hmarks _ h

/-- Filling a text without white space at its ends leaves none there. -/
theorem tight_fillFrom {quoted : Bool} {marks : List (List Char)}
    (hmarks : ∀ mark ∈ marks, Solid mark) {cs : List Char} (h : Tight cs) :
    Tight (fillFrom quoted marks cs) := by
  constructor
  · intro c rest hfill
    cases cs with
    | nil => simp at hfill
    | cons d cs =>
      have hd := h.first d cs rfl
      have hsplit := fillFrom_append quoted marks [d] cs
      have hmarks' : ∀ mark ∈ marks.take (holes quoted [d]), Solid mark :=
        fun mark hm => hmarks mark (List.mem_of_mem_take hm)
      obtain ⟨hne, hfirst⟩ := tight_fillFrom_singleton quoted hmarks' hd
      obtain ⟨e, es, he⟩ := List.exists_cons_of_ne_nil hne
      rw [List.singleton_append, hfill, he, List.cons_append, List.cons.injEq] at hsplit
      exact hsplit.1 ▸ hfirst.first e es he
  · intro c rest hfill
    rcases List.eq_nil_or_concat cs with rfl | ⟨cs, d, rfl⟩
    · simp at hfill
    · rw [List.concat_eq_append] at hfill h
      have hd := h.last d cs rfl
      have hmarks' : ∀ mark ∈ marks.drop (holes quoted cs), Solid mark :=
        fun mark hm => hmarks mark (List.mem_of_mem_drop hm)
      obtain ⟨hne, hlast⟩ := tight_fillFrom_singleton (quotedAfter quoted cs) hmarks' hd
      rw [fillFrom_append] at hfill
      rcases List.eq_nil_or_concat
        (fillFrom (quotedAfter quoted cs) (marks.drop (holes quoted cs)) [d]) with he | ⟨es, e, he⟩
      · exact absurd he hne
      · rw [List.concat_eq_append] at he
        rw [he, ← List.append_assoc, List.append_singleton_inj] at hfill
        exact hfill.2 ▸ hlast.last e es he

/-- Stripping and filling can be done in either order. -/
theorem stripChars_fillFrom {marks : List (List Char)} (hmarks : ∀ mark ∈ marks, Solid mark)
    (cs : List Char) (h : marks.length = holes false cs) :
    stripChars (fillFrom false marks cs) = fillFrom false marks (stripChars cs) := by
  obtain ⟨lead, trail, hcs, hlead, htrail, -⟩ := trimBy_spec isBlank cs
  change cs = lead ++ stripChars cs ++ trail at hcs
  have hquiet : ∀ blanks : List Char, (∀ c ∈ blanks, isBlank c = true) → ∀ quoted,
      holes quoted blanks = 0 ∧ quotedAfter quoted blanks = quoted := by
    intro blanks hb quoted
    rw [← holes_signs, ← quotedAfter_signs, signs_of_blank hb]
    exact ⟨rfl, rfl⟩
  have hholes : marks.length = holes false (stripChars cs) := by
    rw [h, ← holes_signs, ← signs_stripChars, holes_signs]
  have hfill : fillFrom false marks cs = lead ++ fillFrom false marks (stripChars cs) ++ trail := by
    conv_lhs => rw [hcs]
    rw [List.append_assoc, fillFrom_append, (hquiet lead hlead false).1,
      (hquiet lead hlead false).2, List.take_zero, List.drop_zero, fillFrom_no_marks,
      fillFrom_append, ← hholes, List.take_length, List.drop_length, fillFrom_no_marks,
      List.append_assoc]
  rw [hfill, stripChars_append hlead (tight_fillFrom hmarks (tight_stripChars cs)) htrail]

end Placeholder

namespace Fragment

/-! ## Fragments and the values they lack -/

variable {Q : Value → Prop}

/-- The quotes are closed, and there are `n` placeholders more than values. -/
structure Lacks (Q : Value → Prop) (n : Nat) (f : Fragment) : Prop where
  balanced : Balanced f.sql
  count : count f.sql = f.bindings.length + n
  values : ∀ v ∈ f.bindings, Q v

theorem lacks_iff {n : Nat} {f : Fragment} :
    f.Lacks Q n ↔ quotedAfter false f.sql.toList = false ∧
      holes false f.sql.toList = f.bindings.length + n ∧ ∀ v ∈ f.bindings, Q v := by
  constructor
  · intro h
    exact ⟨balanced_iff.1 h.balanced, count_eq_holes f.sql ▸ h.count, h.values⟩
  · intro h
    exact ⟨balanced_iff.2 h.1, (count_eq_holes f.sql).trans h.2.1, h.2.2⟩

theorem lacks_ofText {s : String} (h : Quiet s) : (ofText s).Lacks Q 0 :=
  ⟨h.balanced, h.count, by simp⟩

theorem Lacks.append {n m : Nat} {f g : Fragment} (hf : f.Lacks Q n) (hg : g.Lacks Q m) :
    (f ++ g).Lacks Q (n + m) := by
  rw [lacks_iff] at hf hg ⊢
  refine ⟨by simp [hf.1, hg.1], ?_, ?_⟩
  · simp only [sql_append, String.toList_append, holes_append, hf.1, hf.2.1, hg.2.1,
      bindings_append, List.length_append]
    omega
  · intro v hv
    exact (List.mem_append.1 hv).elim (hf.2.2 v) (hg.2.2 v)

/-- Only the placeholders and quotes of the text matter. -/
theorem Lacks.of_signs {n : Nat} {f : Fragment} (h : f.Lacks Q n) {s : String}
    (hs : signs s.toList = signs f.sql.toList) : (⟨s, f.bindings⟩ : Fragment).Lacks Q n := by
  rw [lacks_iff] at h ⊢
  dsimp only
  rw [← quotedAfter_signs, ← holes_signs, hs, quotedAfter_signs, holes_signs]
  exact h

/-- The text alone lacks all the values. -/
theorem Lacks.text {n : Nat} {f : Fragment} (h : f.Lacks Q n) :
    (ofText f.sql).Lacks Q (f.bindings.length + n) :=
  ⟨h.balanced, by simpa [ofText] using h.count, by simp⟩

theorem lacks_bound {v : Value} (h : Q v) : (bound v).Lacks Q 0 :=
  have hmark : Balanced "?" ∧ Placeholder.count "?" = 1 := by decide
  ⟨hmark.1, hmark.2, by simpa [bound] using h⟩

/-- Nothing is bound where there is no text. -/
theorem Lacks.bare {n : Nat} {f : Fragment} (h : f.Lacks Q n) (hsql : f.sql = "") :
    n = 0 ∧ f.bindings = [] := by
  have hcount := h.count
  have hnone : Placeholder.count "" = 0 := by decide
  rw [hsql, hnone] at hcount
  exact ⟨by omega, List.length_eq_zero_iff.1 (by omega)⟩

/-! ## Putting clauses together -/

/-- The fragment without the white space around its text. -/
def stripped (f : Fragment) : Fragment := ⟨Text.strip f.sql, f.bindings⟩

/-- The fragments with a text, without the white space around it. -/
def kept (fs : List Fragment) : List Fragment := (fs.map stripped).filter (·.sql != "")

theorem concatenate_eq {fs : List Fragment}
    (h : ∀ f ∈ fs, f.stripped.sql = "" → f.bindings = []) :
    Fragment.concatenate fs = Fragment.intercalate " " (kept fs) := by
  have hparts : (fs.map fun f => Text.strip f.sql).filter (· != "") = (kept fs).map sql ∧
      fs.flatMap bindings = (kept fs).flatMap bindings := by
    induction fs with
    | nil => exact ⟨rfl, rfl⟩
    | cons f fs ih =>
      obtain ⟨hsql, hbindings⟩ := ih fun g hg => h g (List.mem_cons_of_mem _ hg)
      by_cases hempty : f.stripped.sql = ""
      · have hkept : kept (f :: fs) = kept fs := by simp [kept, hempty]
        have hstrip : Text.strip f.sql = "" := hempty
        rw [hkept, ← hsql, ← hbindings, List.flatMap_cons, h f List.mem_cons_self hempty]
        simp [hstrip]
      · have hkept : kept (f :: fs) = f.stripped :: kept fs := by simp [kept, hempty]
        have hstrip : Text.strip f.sql ≠ "" := hempty
        have hhead : (kept (f :: fs)).map sql = Text.strip f.sql :: (kept fs).map sql := by
          rw [hkept]
          rfl
        rw [hhead, hkept, List.flatMap_cons, List.flatMap_cons, ← hbindings, ← hsql]
        simp [hstrip, stripped]
  rw [Fragment.concatenate, Fragment.intercalate, hparts.1, hparts.2]

/-- A relation that goes through stripping goes through putting clauses together, if what has no
text binds nothing. -/
theorem congruence_of_stripped {R : Nat → Fragment → Fragment → Prop}
    (word : ∀ {s : String}, signs s.toList = [] → R 0 (ofText s) (ofText s))
    (append : ∀ {n m : Nat} {f f' g g' : Fragment}, R n f f' → R m g g' →
      R (n + m) (f ++ g) (f' ++ g'))
    (stripped : ∀ {n : Nat} {f f' : Fragment}, R n f f' → R n f.stripped f'.stripped)
    (empty_iff : ∀ {n : Nat} {f f' : Fragment}, R n f f' → (f.sql = "" ↔ f'.sql = ""))
    (bare : ∀ {n : Nat} {f f' : Fragment}, R n f f' → f.sql = "" →
      n = 0 ∧ f.bindings = [] ∧ f'.bindings = []) : Congruence R := by
  have hkept : ∀ {n : Nat} {fs fs' : List Fragment}, Graded R n fs fs' →
      Graded R n (kept fs) (kept fs') ∧ (∀ f ∈ fs, f.stripped.sql = "" → f.bindings = []) ∧
        ∀ f ∈ fs', f.stripped.sql = "" → f.bindings = [] := by
    intro n fs fs' h
    induction h with
    | nil => exact ⟨.nil, by simp, by simp⟩
    | @cons n m f f' fs fs' h _ ih =>
      obtain ⟨ih, hbare, hbare'⟩ := ih
      have hstripped := stripped h
      have hiff := empty_iff hstripped
      refine ⟨?_, ?_, ?_⟩
      · by_cases hempty : f.stripped.sql = ""
        · have hk : kept (f :: fs) = kept fs := by simp [kept, hempty]
          have hk' : kept (f' :: fs') = kept fs' := by simp [kept, hiff.1 hempty]
          rw [hk, hk', (bare hstripped hempty).1, Nat.zero_add]
          exact ih
        · have hk : kept (f :: fs) = f.stripped :: kept fs := by simp [kept, hempty]
          have hk' : kept (f' :: fs') = f'.stripped :: kept fs' := by
            simp [kept, mt hiff.2 hempty]
          rw [hk, hk']
          exact .cons hstripped ih
      · intro g hg hempty
        rcases List.mem_cons.1 hg with rfl | hg
        · exact (bare hstripped hempty).2.1
        · exact hbare g hg hempty
      · intro g hg hempty
        rcases List.mem_cons.1 hg with rfl | hg
        · exact (bare hstripped (hiff.2 hempty)).2.2
        · exact hbare' g hg hempty
  have hintercalate : ∀ {n : Nat} {fs fs' : List Fragment}, Graded R n fs fs' →
      R n (Fragment.intercalate " " fs) (Fragment.intercalate " " fs') := by
    intro n fs fs' h
    induction h with
    | nil => exact word rfl
    | @cons n m f f' fs fs' hf hfs ih =>
      cases hfs with
      | nil => simpa using hf
      | cons hg hgs =>
        rw [intercalate_cons " " f (by simp), intercalate_cons " " f' (by simp)]
        have htail := append (word (s := " ") (by decide)) ih
        rw [Nat.zero_add] at htail
        exact append hf htail
  refine ⟨word, append, fun h => ?_, empty_iff⟩
  obtain ⟨hgraded, hbare, hbare'⟩ := hkept h
  rw [concatenate_eq hbare, concatenate_eq hbare']
  exact hintercalate hgraded

/-! ## Counting -/

/-- One fragment in both runs, which lacks as many values as the grade says. -/
def Lacking (Q : Value → Prop) (n : Nat) (f f' : Fragment) : Prop := f = f' ∧ f.Lacks Q n

theorem lacking_congruence : Congruence (Lacking Q) := by
  apply congruence_of_stripped
  · intro s h
    exact ⟨rfl, lacks_ofText (.of_signs_nil h)⟩
  · rintro n m f _ g _ ⟨rfl, hf⟩ ⟨rfl, hg⟩
    exact ⟨rfl, hf.append hg⟩
  · rintro n f _ ⟨rfl, h⟩
    exact ⟨rfl, h.of_signs (Text.signs_strip _)⟩
  · rintro n f _ ⟨rfl, -⟩
    exact .rfl
  · rintro n f _ ⟨rfl, h⟩ hsql
    exact ⟨(h.bare hsql).1, (h.bare hsql).2, (h.bare hsql).2⟩

/-! ## Filling -/

/-- The text with a text for each value in the place of its placeholder. -/
def filled (literal : Value → String) (f : Fragment) : String :=
  fill (split f.sql) (f.bindings.map literal)

variable {literal : Value → String}

theorem toList_filled (f : Fragment) :
    (f.filled literal).toList =
      fillFrom false (f.bindings.map fun v => (literal v).toList) f.sql.toList := by
  rw [filled, fill_split, String.toList_ofList, List.map_map]
  rfl

theorem filled_ofText (s : String) : (ofText s).filled literal = s := by
  apply String.toList_injective
  rw [toList_filled]
  simp [ofText]

theorem filled_append {f g : Fragment} (h : f.Lacks Q 0) :
    (f ++ g).filled literal = f.filled literal ++ g.filled literal := by
  rw [lacks_iff] at h
  apply String.toList_injective
  rw [String.toList_append, toList_filled, toList_filled, toList_filled, sql_append,
    String.toList_append, bindings_append, List.map_append,
    fillFrom_append_of_length (by simp [h.2.1]), h.1]

/-- The second run writes the text of the first with everything filled in. -/
structure Filling (Q : Value → Prop) (literal : Value → String) (n : Nat) (f f' : Fragment) :
    Prop where
  grade : n = 0
  lacks : f.Lacks Q 0
  bindings : f'.bindings = []
  sql : f'.sql = f.filled literal

/-- The literals of values that meet `Q` may stand in the place of a placeholder. -/
def Fills (Q : Value → Prop) (literal : Value → String) : Prop :=
  ∀ v, Q v → Quiet (literal v) ∧ Solid (literal v).toList

theorem Fills.solid (hQ : Fills Q literal) {n : Nat} {f : Fragment} (h : f.Lacks Q n) :
    ∀ mark ∈ f.bindings.map fun v => (literal v).toList, Solid mark := by
  intro mark hmark
  obtain ⟨v, hv, rfl⟩ := List.mem_map.1 hmark
  exact (hQ v (h.values v hv)).2

theorem filled_eq_empty_iff (hQ : Fills Q literal) {n : Nat} {f : Fragment} (h : f.Lacks Q n) :
    f.sql = "" ↔ f.filled literal = "" := by
  rw [← String.toList_eq_nil_iff, ← String.toList_eq_nil_iff, toList_filled]
  constructor
  · intro hsql
    rw [hsql, fillFrom_nil]
  · intro hfill
    by_contra hsql
    exact fillFrom_ne_nil (hQ.solid h) hsql hfill

theorem filled_stripped (hQ : Fills Q literal) {f : Fragment} (h : f.Lacks Q 0) :
    f.stripped.filled literal = Text.strip (f.filled literal) := by
  have hmarks := hQ.solid h
  rw [lacks_iff] at h
  apply String.toList_injective
  rw [toList_filled, stripped, Text.strip, Text.strip, String.toList_ofList, String.toList_ofList,
    toList_filled, stripChars_fillFrom hmarks _ (by simp [h.2.1])]

theorem filling_congruence (hQ : Fills Q literal) : Congruence (Filling Q literal) := by
  apply congruence_of_stripped
  · intro s h
    exact ⟨rfl, lacks_ofText (.of_signs_nil h), rfl, (filled_ofText s).symm⟩
  · rintro n m f f' g g' ⟨rfl, hf, hfb, hfs⟩ ⟨rfl, hg, hgb, hgs⟩
    refine ⟨rfl, hf.append hg, by simp [hfb, hgb], ?_⟩
    rw [sql_append, hfs, hgs, filled_append hf]
  · rintro n f f' ⟨rfl, hf, hfb, hfs⟩
    refine ⟨rfl, hf.of_signs (Text.signs_strip _), hfb, ?_⟩
    rw [filled_stripped hQ hf, ← hfs]
    rfl
  · rintro n f f' ⟨rfl, hf, -, hfs⟩
    rw [hfs]
    exact filled_eq_empty_iff hQ hf
  · rintro n f f' ⟨rfl, hf, hfb, -⟩ hsql
    exact ⟨rfl, (hf.bare hsql).2, hfb⟩

/-- With a quiet literal for every value a text has as many placeholders as it lacks values. -/
theorem holes_fillFrom {marks : List (List Char)}
    (hmarks : ∀ mark ∈ marks, ∀ quoted, holes false mark = 0 ∧ quotedAfter quoted mark = quoted)
    (quoted : Bool) (cs : List Char) (h : marks.length ≤ holes quoted cs) :
    holes quoted (fillFrom quoted marks cs) = holes quoted cs - marks.length ∧
      quotedAfter quoted (fillFrom quoted marks cs) = quotedAfter quoted cs := by
  induction cs generalizing quoted marks with
  | nil => simp [holes]
  | cons c cs ih =>
    cases marks with
    | nil => simp
    | cons mark marks =>
      obtain ⟨hmark, hquoted⟩ := hmarks mark List.mem_cons_self quoted
      rw [fillFrom_cons]
      by_cases hc : (c == '?' && !quoted) = true
      · have hq : c = '?' ∧ quoted = false := by simpa using hc
        obtain ⟨rfl, rfl⟩ := hq
        simp only [holes, hc, if_true, toggled_mark, List.length_cons] at h
        obtain ⟨hholes, hafter⟩ := ih (fun m hm => hmarks m (List.mem_cons_of_mem _ hm)) false
          (by omega)
        simp only [hc, if_true, holes_append, quotedAfter_append, hmark, hquoted, hholes, hafter,
          holes, toggled_mark, List.length_cons, quotedAfter_cons, and_true]
        omega
      · simp only [holes, hc, Bool.false_eq_true, if_false, Nat.zero_add] at h
        obtain ⟨hholes, hafter⟩ := ih hmarks (toggled quoted c) h
        simp only [hc, Bool.false_eq_true, if_false, holes, quotedAfter_cons, hholes, hafter,
          Nat.zero_add, and_self]

/-- The literals of the values open no quote and have no placeholder. -/
theorem Fills.quiet_marks (hQ : Fills Q literal) {vs : List Value} (hvs : ∀ v ∈ vs, Q v) :
    ∀ mark ∈ vs.map fun v => (literal v).toList, ∀ quoted,
      holes false mark = 0 ∧ quotedAfter quoted mark = quoted := by
  intro mark hmark quoted
  obtain ⟨v, hv, rfl⟩ := List.mem_map.1 hmark
  obtain ⟨hafter, hholes⟩ := quiet_iff.1 (hQ v (hvs v hv)).1
  refine ⟨hholes, ?_⟩
  rw [quotedAfter_eq] at hafter ⊢
  simp only [Bool.false_bne] at hafter
  simp [hafter]

theorem count_filled (hQ : Fills Q literal) {n : Nat} {f : Fragment} (h : f.Lacks Q n) :
    Balanced (f.filled literal) ∧ count (f.filled literal) = n := by
  have hquiet := hQ.quiet_marks h.values
  rw [lacks_iff] at h
  obtain ⟨hholes, hafter⟩ := holes_fillFrom hquiet false f.sql.toList (by simp [h.2.1])
  rw [balanced_iff, count_eq_holes, toList_filled, hholes, hafter, h.1, h.2.1]
  simp

end Fragment

end SqlBuilder
