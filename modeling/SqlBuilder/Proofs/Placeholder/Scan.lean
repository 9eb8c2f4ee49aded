import SqlBuilder.Placeholder

/-!
# Scanning a text for placeholders

What `Placeholder.split` and `Placeholder.fill` do with a text that is put together from others. A
text is read character by character; all that is carried along is whether a quote is open
(`quotedAfter`).

* `holes` counts the placeholders from there on, and `count_eq_holes` ties it to `count`.
* `fillFrom` puts texts in their places in one pass, and `fill_split` ties it to `fill`.
* `holes_append`, `fillFrom_append`: both go through appended texts piece by piece.
* `Quiet`: a text that opens no quote and has no placeholder, so it may stand anywhere.
-/

set_option autoImplicit false

namespace SqlBuilder.Placeholder

/-! ## Reading on -/

/-- A quote is open behind a character. -/
def toggled (quoted : Bool) (c : Char) : Bool := if c == '\'' then !quoted else quoted

/-- A quote is open behind a text. -/
def quotedAfter (quoted : Bool) (cs : List Char) : Bool := cs.foldl toggled quoted

@[simp] theorem quotedAfter_nil (quoted : Bool) : quotedAfter quoted [] = quoted := rfl

@[simp] theorem quotedAfter_cons (quoted : Bool) (c : Char) (cs : List Char) :
    quotedAfter quoted (c :: cs) = quotedAfter (toggled quoted c) cs := rfl

@[simp] theorem quotedAfter_append (quoted : Bool) (a b : List Char) :
    quotedAfter quoted (a ++ b) = quotedAfter (quotedAfter quoted a) b := by
  simp [quotedAfter]

theorem toggled_mark (quoted : Bool) : toggled quoted '?' = quoted := rfl

/-- Only the number of quotes matters. -/
theorem quotedAfter_eq (quoted : Bool) (cs : List Char) :
    quotedAfter quoted cs = (quoted ^^ (cs.count '\'' % 2 == 1)) := by
  induction cs generalizing quoted with
  | nil => simp
  | cons c cs ih =>
    rw [quotedAfter_cons, ih]
    by_cases hc : c = '\''
    · subst hc
      rcases Nat.mod_two_eq_zero_or_one (cs.count '\'') with h | h <;>
        cases quoted <;> simp [toggled, Nat.add_mod, h]
    · simp [toggled, hc]

/-- The number of placeholders in a text that begins inside or outside quotes. -/
def holes (quoted : Bool) : List Char → Nat
  | [] => 0
  | c :: cs => (if c == '?' && !quoted then 1 else 0) + holes (toggled quoted c) cs

@[simp] theorem holes_append (quoted : Bool) (a b : List Char) :
    holes quoted (a ++ b) = holes quoted a + holes (quotedAfter quoted a) b := by
  induction a generalizing quoted with
  | nil => simp [holes]
  | cons c a ih => simp [holes, ih, Nat.add_assoc]

theorem length_consFirst {α : Type} (c : α) {segments : List (List α)} (h : segments ≠ []) :
    (consFirst c segments).length = segments.length := by
  cases segments with
  | nil => exact absurd rfl h
  | cons segment segments => rfl

theorem length_splitFrom (quoted : Bool) (cs : List Char) :
    (splitFrom '?' '\'' quoted cs).length = holes quoted cs + 1 := by
  induction cs generalizing quoted with
  | nil => rfl
  | cons c cs ih =>
    by_cases hc : (c == '?' && !quoted) = true
    · have hmark : c = '?' := by simp at hc; exact hc.1
      subst hmark
      simp only [splitFrom, holes, hc, if_true, List.length_cons, ih, toggled_mark]
      omega
    · simp only [splitFrom, holes, hc, Bool.false_eq_true, if_false]
      rw [length_consFirst c (splitFrom_ne_nil _ _ _ _)]
      exact (ih _).trans (by simp [toggled])

theorem count_eq_holes (s : String) : count s = holes false s.toList := by
  simp [count, split, length_splitFrom]

/-! ## Filling -/

/-- The text with texts in place of its placeholders, as far as they go. -/
def fillFrom (quoted : Bool) : List (List Char) → List Char → List Char
  | _, [] => []
  | [], cs => cs
  | mark :: marks, c :: cs =>
    if c == '?' && !quoted then mark ++ fillFrom quoted marks cs
    else c :: fillFrom (toggled quoted c) (mark :: marks) cs

@[simp] theorem fillFrom_nil (quoted : Bool) (marks : List (List Char)) :
    fillFrom quoted marks [] = [] := by
  cases marks <;> rfl

@[simp] theorem fillFrom_no_marks (quoted : Bool) (cs : List Char) :
    fillFrom quoted [] cs = cs := by
  cases cs <;> rfl

theorem fillFrom_cons (quoted : Bool) (mark : List Char) (marks : List (List Char)) (c : Char)
    (cs : List Char) :
    fillFrom quoted (mark :: marks) (c :: cs) =
      if c == '?' && !quoted then mark ++ fillFrom quoted marks cs
      else c :: fillFrom (toggled quoted c) (mark :: marks) cs := rfl

/-- The first marks go to the first text, the others to the second. -/
theorem fillFrom_append (quoted : Bool) (marks : List (List Char)) (a b : List Char) :
    fillFrom quoted marks (a ++ b) =
      fillFrom quoted (marks.take (holes quoted a)) a ++
        fillFrom (quotedAfter quoted a) (marks.drop (holes quoted a)) b := by
  induction a generalizing quoted marks with
  | nil => simp [holes]
  | cons c a ih =>
    cases marks with
    | nil => simp
    | cons mark marks =>
      by_cases hc : (c == '?' && !quoted) = true
      · have hmark : c = '?' := by simp at hc; exact hc.1
        subst hmark
        simp only [List.cons_append, fillFrom_cons, holes, hc, if_true, ih, toggled_mark,
          quotedAfter_cons, Nat.add_comm 1, List.take_succ_cons, List.drop_succ_cons,
          List.append_assoc]
      · simp only [List.cons_append, fillFrom_cons, holes, hc, Bool.false_eq_true, if_false, ih,
          quotedAfter_cons, Nat.zero_add]
        cases hn : holes (toggled quoted c) a with
        | zero => simp
        | succ n => simp [fillFrom_cons, hc]

/-- Where there is no placeholder nothing is filled in. -/
theorem fillFrom_of_no_holes {quoted : Bool} {cs : List Char} (h : holes quoted cs = 0)
    (marks : List (List Char)) : fillFrom quoted marks cs = cs := by
  have hfill := fillFrom_append quoted marks cs []
  rw [h, List.take_zero, List.append_nil, fillFrom_no_marks, fillFrom_nil, List.append_nil] at hfill
  exact hfill

theorem interleave_consFirst (c : Char) (segments : List (List Char)) (h : segments ≠ [])
    (marks : List String) :
    (interleave ((consFirst c segments).map String.ofList) marks).flatMap String.toList =
      c :: (interleave (segments.map String.ofList) marks).flatMap String.toList := by
  cases segments with
  | nil => exact absurd rfl h
  | cons segment segments =>
    cases segments with
    | nil => simp [consFirst, interleave]
    | cons next segments => cases marks <;> simp [consFirst, interleave]

theorem interleave_nil_cons (segments : List (List Char)) (h : segments ≠ [])
    (marks : List String) :
    (interleave (([] :: segments).map String.ofList) marks).flatMap String.toList =
      (marks.head?.getD "?").toList ++
        (interleave (segments.map String.ofList) marks.tail).flatMap String.toList := by
  cases segments with
  | nil => exact absurd rfl h
  | cons segment segments => cases marks <;> simp [interleave]

theorem interleave_splitFrom (quoted : Bool) (marks : List String) (cs : List Char) :
    (interleave ((splitFrom '?' '\'' quoted cs).map String.ofList) marks).flatMap String.toList =
      fillFrom quoted (marks.map String.toList) cs := by
  induction cs generalizing quoted marks with
  | nil => simp [splitFrom, interleave]
  | cons c cs ih =>
    by_cases hc : (c == '?' && !quoted) = true
    · have hmark : c = '?' := by simp at hc; exact hc.1
      subst hmark
      simp only [splitFrom, hc, if_true]
      rw [interleave_nil_cons _ (splitFrom_ne_nil _ _ _ _), ih]
      cases marks with
      | nil => simp
      | cons mark marks =>
        rw [List.map_cons, fillFrom_cons, if_pos hc]
        rfl
    · simp only [splitFrom, hc, Bool.false_eq_true, if_false]
      rw [interleave_consFirst _ _ (splitFrom_ne_nil _ _ _ _)]
      have := ih (toggled quoted c) marks
      simp only [toggled] at this
      rw [this]
      cases marks with
      | nil => simp
      | cons mark marks => simp only [List.map_cons, fillFrom_cons, hc, Bool.false_eq_true,
          if_false, toggled]

/-- Splitting and filling is one pass over the text. -/
theorem fill_split (s : String) (marks : List String) :
    fill (split s) marks = String.ofList (fillFrom false (marks.map String.toList) s.toList) := by
  apply String.toList_injective
  rw [fill, String.toList_join, split, interleave_splitFrom, String.toList_ofList]

/-- A fill goes on behind what uses up its marks. -/
theorem fillFrom_append_of_length {quoted : Bool} {marks more : List (List Char)} {a : List Char}
    (h : marks.length = holes quoted a) (b : List Char) :
    fillFrom quoted (marks ++ more) (a ++ b) =
      fillFrom quoted marks a ++ fillFrom (quotedAfter quoted a) more b := by
  rw [fillFrom_append, ← h, List.take_left, List.drop_left]

/-! ## Texts that may stand anywhere -/

/-- The characters that a scan looks at. -/
def isSign (c : Char) : Bool := c == '?' || c == '\''

/-- The placeholders and quotes of a text. -/
def signs (cs : List Char) : List Char := cs.filter isSign

@[simp] theorem signs_nil : signs [] = [] := rfl

@[simp] theorem signs_append (a b : List Char) : signs (a ++ b) = signs a ++ signs b := by
  simp [signs]

theorem signs_cons_of_not {c : Char} (h : isSign c = false) (cs : List Char) :
    signs (c :: cs) = signs cs := by
  simp [signs, h]

theorem toggled_of_not {c : Char} (h : isSign c = false) (quoted : Bool) :
    toggled quoted c = quoted := by
  simp only [isSign, Bool.or_eq_false_iff] at h
  simp [toggled, h.2]

theorem quotedAfter_signs (quoted : Bool) (cs : List Char) :
    quotedAfter quoted (signs cs) = quotedAfter quoted cs := by
  induction cs generalizing quoted with
  | nil => rfl
  | cons c cs ih =>
    cases hc : isSign c with
    | true => simpa [signs, hc] using ih (toggled quoted c)
    | false => rw [signs_cons_of_not hc, ih, quotedAfter_cons, toggled_of_not hc]

theorem holes_signs (quoted : Bool) (cs : List Char) :
    holes quoted (signs cs) = holes quoted cs := by
  induction cs generalizing quoted with
  | nil => rfl
  | cons c cs ih =>
    cases hc : isSign c with
    | true => simpa [signs, hc, holes] using ih (toggled quoted c)
    | false =>
      rw [signs_cons_of_not hc, ih, holes, toggled_of_not hc]
      simp only [isSign, Bool.or_eq_false_iff] at hc
      simp [hc.1]

/-- Every quote that is opened is closed. -/
def Balanced (s : String) : Prop := s.toList.count '\'' % 2 = 0

instance (s : String) : Decidable (Balanced s) := inferInstanceAs (Decidable (_ = _))

theorem balanced_iff {s : String} : Balanced s ↔ quotedAfter false s.toList = false := by
  rw [quotedAfter_eq, Balanced]
  rcases Nat.mod_two_eq_zero_or_one (s.toList.count '\'') with h | h <;> simp [h]

/-- A text that closes its quotes and has no placeholder. -/
structure Quiet (s : String) : Prop where
  balanced : Balanced s
  count : count s = 0

instance (s : String) : Decidable (Quiet s) :=
  decidable_of_iff (Balanced s ∧ Placeholder.count s = 0)
    ⟨fun h => ⟨h.1, h.2⟩, fun h => ⟨h.1, h.2⟩⟩

theorem quiet_iff {s : String} :
    Quiet s ↔ quotedAfter false s.toList = false ∧ holes false s.toList = 0 := by
  constructor
  · intro h
    exact ⟨balanced_iff.1 h.balanced, count_eq_holes s ▸ h.count⟩
  · intro h
    exact ⟨balanced_iff.2 h.1, (count_eq_holes s).trans h.2⟩

/-- Texts with the same signs are quiet together. -/
theorem Quiet.of_signs {s t : String} (h : signs s.toList = signs t.toList) (ht : Quiet t) :
    Quiet s := by
  rw [quiet_iff] at ht ⊢
  rwa [← quotedAfter_signs, ← holes_signs, h, quotedAfter_signs, holes_signs]

/-- A text without placeholders and quotes is quiet. -/
theorem Quiet.of_signs_nil {s : String} (h : signs s.toList = []) : Quiet s := by
  rw [quiet_iff, ← quotedAfter_signs, ← holes_signs, h]
  exact ⟨rfl, rfl⟩

theorem Quiet.append {s t : String} (hs : Quiet s) (ht : Quiet t) : Quiet (s ++ t) := by
  rw [quiet_iff] at hs ht ⊢
  simp [hs, ht]

end SqlBuilder.Placeholder
