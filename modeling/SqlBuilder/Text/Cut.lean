/-!
# Cutting a text

`cut` splits at the first occurrence of a pattern, `doubled` writes every occurrence of a character
twice. Both work on characters; quoting, identifiers and placeholders are built from them.
-/

set_option autoImplicit false

namespace SqlBuilder.Text

/-- The rest of the second list after the first, when it starts with it. -/
def dropFront? : List Char → List Char → Option (List Char)
  | [], cs => some cs
  | _ :: _, [] => none
  | p :: ps, c :: cs => if p = c then dropFront? ps cs else none

/-- What stands before and after the first occurrence of `pattern`. -/
def cut (pattern : List Char) : List Char → Option (List Char × List Char)
  | [] => (dropFront? pattern []).map ([], ·)
  | c :: cs =>
    match dropFront? pattern (c :: cs) with
    | some rest => some ([], rest)
    | none => (cut pattern cs).map fun (front, rest) => (c :: front, rest)

/-- Every `quote` written twice and every other character once. -/
def doubled (quote : Char) (cs : List Char) : List Char :=
  cs.flatMap fun c => if c = quote then [c, c] else [c]

/-! ## Laws -/

theorem dropFront?_eq_some {pattern cs rest : List Char} (h : dropFront? pattern cs = some rest) :
    cs = pattern ++ rest := by
  induction pattern generalizing cs with
  | nil => simpa [dropFront?] using h
  | cons p ps ih =>
    cases cs with
    | nil => simp [dropFront?] at h
    | cons c cs =>
      by_cases hp : p = c
      · subst hp
        simp only [dropFront?, if_true] at h
        simp [ih h]
      · simp [dropFront?, hp] at h

theorem dropFront?_append (pattern rest : List Char) :
    dropFront? pattern (pattern ++ rest) = some rest := by
  induction pattern with
  | nil => rfl
  | cons p ps ih => rw [List.cons_append, dropFront?, if_pos rfl, ih]

theorem dropFront?_eq_none_iff {pattern cs : List Char} :
    dropFront? pattern cs = none ↔ ¬ pattern <+: cs := by
  rw [Option.eq_none_iff_forall_ne_some]
  constructor
  · rintro h ⟨rest, rfl⟩
    exact h rest (dropFront?_append pattern rest)
  · exact fun h rest hrest => h ⟨rest, (dropFront?_eq_some hrest).symm⟩

/-- The two parts of a cut, with the pattern between them, are the whole. -/
theorem cut_eq_some {pattern cs front rest : List Char} (h : cut pattern cs = some (front, rest)) :
    cs = front ++ pattern ++ rest := by
  induction cs generalizing front with
  | nil =>
    simp only [cut, Option.map_eq_some_iff, Prod.mk.injEq] at h
    obtain ⟨r, hr, rfl, rfl⟩ := h
    simpa using dropFront?_eq_some hr
  | cons c cs ih =>
    simp only [cut] at h
    split at h
    · next r hr =>
      simp only [Option.some.injEq, Prod.mk.injEq] at h
      obtain ⟨rfl, rfl⟩ := h
      simpa using dropFront?_eq_some hr
    · simp only [Option.map_eq_some_iff, Prod.mk.injEq, Prod.exists] at h
      obtain ⟨f, r, hc, rfl, rfl⟩ := h
      simp [ih hc]

/-- A text is cut just where the pattern stands in it. -/
theorem cut_eq_none_iff {p : Char} {ps cs : List Char} :
    cut (p :: ps) cs = none ↔ ¬ (p :: ps) <:+: cs := by
  induction cs with
  | nil => simp [cut, dropFront?]
  | cons c cs ih =>
    rw [List.infix_cons_iff, not_or, ← dropFront?_eq_none_iff, ← ih, cut]
    split
    · rename_i rest h
      simp [h]
    · rename_i h
      simp [h]

theorem cut_length {pattern cs front rest : List Char} (h : cut pattern cs = some (front, rest)) :
    front.length + pattern.length + rest.length = cs.length := by
  rw [cut_eq_some h]
  simp
  omega

/-- The first occurrence of a pattern whose first character is nowhere ahead. -/
theorem cut_append {p : Char} {ps front : List Char} (h : p ∉ front) (rest : List Char) :
    cut (p :: ps) (front ++ (p :: ps ++ rest)) = some (front, rest) := by
  induction front with
  | nil =>
    have hfound := dropFront?_append (p :: ps) rest
    rw [List.nil_append, List.cons_append] at *
    rw [cut, hfound]
  | cons c front ih =>
    obtain ⟨hc, hfront⟩ : p ≠ c ∧ p ∉ front := by simpa using h
    rw [List.cons_append, cut, dropFront?, if_neg hc, ih hfront]
    rfl

@[simp] theorem doubled_nil (quote : Char) : doubled quote [] = [] := rfl

theorem doubled_cons (quote c : Char) (cs : List Char) :
    doubled quote (c :: cs) = (if c = quote then [c, c] else [c]) ++ doubled quote cs := rfl

theorem doubled_append (quote : Char) (a b : List Char) :
    doubled quote (a ++ b) = doubled quote a ++ doubled quote b := by
  simp [doubled]

theorem doubled_of_not_mem {quote : Char} {cs : List Char} (h : quote ∉ cs) :
    doubled quote cs = cs := by
  induction cs with
  | nil => rfl
  | cons c cs ih =>
    rw [List.mem_cons, not_or] at h
    rw [doubled_cons, if_neg (Ne.symm h.1), ih h.2, List.singleton_append]

theorem mem_doubled {q c : Char} {cs : List Char} : c ∈ doubled q cs ↔ c ∈ cs := by
  rw [doubled, List.mem_flatMap]
  constructor
  · rintro ⟨d, hd, hc⟩
    split at hc <;> simp_all
  · intro hc
    exact ⟨c, hc, by split <;> simp⟩

theorem doubled_injective (q : Char) : Function.Injective (doubled q) := by
  intro cs ds h
  induction cs generalizing ds with
  | nil =>
    cases ds with
    | nil => rfl
    | cons d ds =>
      rw [doubled_cons] at h
      split at h <;> cases h
  | cons c cs ih =>
    cases ds with
    | nil =>
      rw [doubled_cons] at h
      split at h <;> cases h
    | cons d ds =>
      rw [doubled_cons, doubled_cons] at h
      obtain rfl : c = d := by
        have hhead := congrArg List.head? h
        split at hhead <;> split at hhead <;> simpa using hhead
      rw [ih (List.append_cancel_left h)]

end SqlBuilder.Text
