/-!
# White space

`isSpace` is the white space of the Unicode character database; `isBlank` takes in the ASCII
separators U+001C to U+001F as well. `strip` removes blanks at both ends of a text and `words`
splits a text on them, while a number may stand between spaces only (`trimChars`).
-/

set_option autoImplicit false

namespace SqlBuilder.Text

/-- White space. -/
def isSpace (c : Char) : Bool :=
  let n := c.toNat
  (9 ≤ n && n ≤ 13) || n == 0x20 || n == 0x85 || n == 0xA0 || n == 0x1680 ||
    (0x2000 ≤ n && n ≤ 0x200A) || n == 0x2028 || n == 0x2029 || n == 0x202F || n == 0x205F ||
    n == 0x3000

/-- White space or a separator, as recognised when a text is stripped or split into words. -/
def isBlank (c : Char) : Bool :=
  isSpace c || (0x1C ≤ c.toNat && c.toNat ≤ 0x1F)

/-- The characters without those at either end that meet `p`. -/
def trimBy (p : Char → Bool) (cs : List Char) : List Char :=
  ((cs.dropWhile p).reverse.dropWhile p).reverse

/-- The characters without the blanks at either end. -/
def stripChars (cs : List Char) : List Char := trimBy isBlank cs

/-- The characters without the spaces at either end. -/
def trimChars (cs : List Char) : List Char := trimBy isSpace cs

/-- The text without the blanks at either end. -/
def strip (s : String) : String :=
  String.ofList (stripChars s.toList)

/-- The words of a text behind `word`, the one being read, whose last character comes first. -/
def wordsFrom (word : List Char) : List Char → List (List Char)
  | [] => if word.isEmpty then [] else [word.reverse]
  | c :: cs =>
    if isBlank c then
      if word.isEmpty then wordsFrom [] cs else word.reverse :: wordsFrom [] cs
    else wordsFrom (c :: word) cs

/-- The words of a text: its longest parts without white space. -/
def words (s : String) : List String :=
  (wordsFrom [] s.toList).map String.ofList

/-! ## Laws -/

theorem isBlank_of_isSpace {c : Char} (h : isSpace c = true) : isBlank c = true := by
  simp [isBlank, h]

/-- Everything core counts as white space is white space. -/
theorem isSpace_of_isWhitespace {c : Char} (h : c.isWhitespace = true) : isSpace c = true := by
  simp only [Char.isWhitespace, Bool.or_eq_true, decide_eq_true_eq] at h
  rcases h with ((h | h) | h) | h <;> subst h <;> decide

theorem stripChars_nil : stripChars [] = [] := rfl

/-- A word has a character, and none of its characters is blank. -/
theorem of_mem_wordsFrom {word cs w : List Char} (hword : ∀ c ∈ word, isBlank c = false)
    (h : w ∈ wordsFrom word cs) : w ≠ [] ∧ ∀ c ∈ w, isBlank c = false := by
  induction cs generalizing word with
  | nil =>
    by_cases hnil : word = []
    · simp [wordsFrom, hnil] at h
    · have : w = word.reverse := by simpa [wordsFrom, hnil] using h
      exact this ▸ ⟨by simpa using hnil, fun c hc => hword c (List.mem_reverse.1 hc)⟩
  | cons c cs ih =>
    rw [wordsFrom] at h
    split at h
    · by_cases hnil : word = []
      · exact @ih [] (by simp) (by simpa [hnil] using h)
      · rcases List.mem_cons.1 (by simpa [hnil] using h) with rfl | h
        · exact ⟨by simpa using hnil, fun c hc => hword c (List.mem_reverse.1 hc)⟩
        · exact ih (by simp) h
    · exact ih (by simp_all) h

/-! ## Examples -/

example : words " and\tor " = ["and", "or"] := by decide +kernel
example : words "  " = [] := by decide +kernel

end SqlBuilder.Text
