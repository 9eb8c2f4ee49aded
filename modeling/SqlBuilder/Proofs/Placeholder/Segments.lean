import SqlBuilder.Proofs.Placeholder.Scan

/-!
# The segments of a text

`Placeholder.split` loses nothing of a text and splits it nowhere else than at its placeholders:

* The segments with question marks between them are the text (`intercalate_split`).
* There is one segment more than there are question marks with an even number of quotes in front of
  them (`openMarks`), which are the placeholders a reader counts (`holes_eq_countP`).
* Appended texts are split one after the other (`splitFrom_append`). The second is read from where
  the first leaves the reader, so it is split as it is by itself where the first closes its quotes;
  the segment that the first ends with goes on with the one that the second begins with.
-/

set_option autoImplicit false

namespace SqlBuilder.Placeholder

/-! ## Question marks outside quotes -/

/-- How many question marks of a text have an even number of quotes in front of them. -/
def openMarks (s : String) : Nat :=
  (List.range s.toList.length).countP fun i =>
    s.toList[i]? == some '?' && (s.toList.take i).count '\'' % 2 == 0

/-- A question mark is a placeholder if no quote is open where it stands. -/
theorem holes_eq_countP (quoted : Bool) (cs : List Char) :
    holes quoted cs = (List.range cs.length).countP fun i =>
      cs[i]? == some '?' && !quotedAfter quoted (cs.take i) := by
  induction cs generalizing quoted with
  | nil => rfl
  | cons c cs ih =>
    have hbehind : ((List.range cs.length).map Nat.succ).countP (fun i =>
        (c :: cs)[i]? == some '?' && !quotedAfter quoted ((c :: cs).take i)) =
        holes (toggled quoted c) cs := by
      rw [List.countP_map, ih]
      rfl
    rw [holes, List.length_cons, List.range_succ_eq_map, List.countP_cons, hbehind, Nat.add_comm]
    rfl

theorem length_split (s : String) : (split s).length = openMarks s + 1 := by
  have hclosed : ∀ cs : List Char, (!quotedAfter false cs) = (cs.count '\'' % 2 == 0) := by
    intro cs
    rw [quotedAfter_eq]
    rcases Nat.mod_two_eq_zero_or_one (cs.count '\'') with h | h <;> rw [h] <;> rfl
  rw [split, List.length_map, length_splitFrom, holes_eq_countP, openMarks]
  simp only [hclosed]

/-! ## Putting together -/

/-- Without marks the segments have question marks between them. -/
theorem fill_nil (segments : List String) : fill segments [] = "?".intercalate segments := by
  rw [fill]
  induction segments with
  | nil => rfl
  | cons segment segments ih =>
    cases segments with
    | nil => simp [interleave]
    | cons next segments =>
      have hstep : interleave (segment :: next :: segments) [] =
          segment :: "?" :: interleave (next :: segments) [] := rfl
      rw [hstep, String.join_cons, String.join_cons, ih,
        String.intercalate_cons_of_ne_nil (List.cons_ne_nil _ _), String.append_assoc]

theorem intercalate_split (s : String) : "?".intercalate (split s) = s := by
  rw [← fill_nil, fill_split, List.map_nil, fillFrom_no_marks, String.ofList_toList]

/-! ## Appended texts -/

/-- Appended texts are split one after the other, the second from where the first leaves the reader.
-/
theorem splitFrom_append (quoted : Bool) (a b : List Char) :
    ∃ front last first rest, splitFrom '?' '\'' quoted a = front ++ [last] ∧
      splitFrom '?' '\'' (quotedAfter quoted a) b = first :: rest ∧
      splitFrom '?' '\'' quoted (a ++ b) = front ++ (last ++ first) :: rest := by
  induction a generalizing quoted with
  | nil =>
    obtain ⟨first, rest, hb⟩ := List.exists_cons_of_ne_nil (splitFrom_ne_nil '?' '\'' quoted b)
    exact ⟨[], [], first, rest, rfl, hb, hb⟩
  | cons c a ih =>
    obtain ⟨front, last, first, rest, ha, hb, hab⟩ := ih (toggled quoted c)
    by_cases hc : (c == '?' && !quoted) = true
    · have hmark : c = '?' := by simp at hc; exact hc.1
      subst hmark
      rw [toggled_mark] at ha hab
      refine ⟨[] :: front, last, first, rest, ?_, hb, ?_⟩
      · rw [splitFrom, if_pos hc, ha, List.cons_append]
      · rw [List.cons_append, splitFrom, if_pos hc, hab, List.cons_append]
    · -- the character goes into the first segment, which may be the last one as well
      have hstep : ∀ cs, splitFrom '?' '\'' quoted (c :: cs) =
          consFirst c (splitFrom '?' '\'' (toggled quoted c) cs) := fun cs => by
        rw [splitFrom, if_neg hc]
        rfl
      rw [List.cons_append, hstep, hstep, ha, hab]
      cases front with
      | nil => exact ⟨[], c :: last, first, rest, rfl, hb, rfl⟩
      | cons segment front => exact ⟨(c :: segment) :: front, last, first, rest, rfl, hb, rfl⟩

theorem split_append {a : String} (h : Balanced a) (b : String) :
    ∃ front last first rest, split a = front ++ [last] ∧ split b = first :: rest ∧
      split (a ++ b) = front ++ (last ++ first) :: rest := by
  obtain ⟨front, last, first, rest, ha, hb, hab⟩ := splitFrom_append false a.toList b.toList
  rw [balanced_iff.1 h] at hb
  refine ⟨front.map String.ofList, String.ofList last, String.ofList first, rest.map String.ofList,
    ?_, ?_, ?_⟩
  · rw [split, ha, List.map_append, List.map_singleton]
  · rw [split, hb, List.map_cons]
  · rw [split, String.toList_append, hab, List.map_append, List.map_cons, String.ofList_append]

/-- The segments with question marks between them are the text. There is one more of them than there
are question marks with an even number of quotes in front. Behind a text with an even number of
quotes a second text is split as it is by itself, and only the segments where the two meet are one.
-/
theorem split_exact (s a b : String) :
    "?".intercalate (split s) = s ∧ (split s).length = openMarks s + 1 ∧
    (Balanced a → ∃ front last first rest, split a = front ++ [last] ∧ split b = first :: rest ∧
      split (a ++ b) = front ++ (last ++ first) :: rest) :=
  ⟨intercalate_split s, length_split s, fun h => split_append h b⟩

/-- Both texts have a question mark in quotes, and the second a quote that is never closed. -/
theorem split_exact_of_quotes :
    Balanced "f('?', ?, " ∧ openMarks "f('?', ?, " = 1 ∧
    split ("f('?', ?, " ++ "?, 'it''s ?') + 'open?") =
      ["f('?', ", ", ", ", 'it''s ?') + 'open?"] := by
  have hbalanced : Balanced "f('?', ?, " := by decide
  obtain ⟨-, hlength, happend⟩ :=
    split_exact "f('?', ?, " "f('?', ?, " "?, 'it''s ?') + 'open?"
  obtain ⟨front, last, first, rest, ha, hb, hab⟩ := happend hbalanced
  have hfirst : split "f('?', ?, " = ["f('?', "] ++ [", "] := by decide
  have hsecond : split "?, 'it''s ?') + 'open?" = ["", ", 'it''s ?') + 'open?"] := by decide
  obtain ⟨rfl, hlast⟩ := List.append_inj' (ha.symm.trans hfirst) rfl
  obtain ⟨rfl, rfl⟩ := List.cons_eq_cons.1 (hb.symm.trans hsecond)
  cases hlast
  refine ⟨hbalanced, ?_, ?_⟩
  · rw [hfirst] at hlength
    exact (Nat.succ.inj hlength).symm
  · rw [hab]
    decide

/-- Behind an open quote the second text is quoted. -/
example : split ("'" ++ "a ? b") = ["'a ? b"] := by decide

end SqlBuilder.Placeholder
