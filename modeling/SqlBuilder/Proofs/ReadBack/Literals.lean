import SqlBuilder.Literal

/-!
# Text literals read back

`Dialect.readLiteral?` reads a text literal off the front of a query by the rule of a dialect:
inside the quotes a doubled quote is a quote, and in MySQL a backslash makes the next character
literal. `literal_readBack`: behind the literal of a text the reader stops where the literal ends
and has the text itself, exactly if no quote follows. Each character is read back by itself
(`readText?_escaped`), so it does not matter what stands next to it in the text.
-/

set_option autoImplicit false

namespace SqlBuilder

open Text

namespace Dialect

/-! ## Reading -/

/-- A backslash inside a text of the dialect makes the next character literal. -/
def escapes : Dialect → Bool
  | .mysql => true
  | .sqlite | .postgres => false

/-- A text behind its opening quote, and what stands behind the closing one. -/
def readText? (d : Dialect) : List Char → Option (List Char × List Char)
  | [] => none
  | '\'' :: '\'' :: cs => (readText? d cs).map (Prod.map ('\'' :: ·) id)
  | '\'' :: cs => some ([], cs)
  | '\\' :: c :: cs =>
    if d.escapes then (readText? d cs).map (Prod.map (c :: ·) id)
    else (readText? d (c :: cs)).map (Prod.map ('\\' :: ·) id)
  | c :: cs => (readText? d cs).map (Prod.map (c :: ·) id)

/-- A text literal at the front of a query: its text, and what stands behind it. -/
def readLiteral? (d : Dialect) (query : String) : Option (String × String) :=
  match query.toList with
  | '\'' :: cs => (d.readText? cs).map (Prod.map String.ofList String.ofList)
  | _ => none

/-! ## Writing -/

/-- A character inside a text literal. -/
def escapeChar (d : Dialect) (c : Char) : List Char :=
  if c = '\'' || (d.escapes && c = '\\') then [c, c] else [c]

theorem toList_quoteText (d : Dialect) (s : String) :
    (d.quoteText s).toList = '\'' :: s.toList.flatMap d.escapeChar ++ ['\''] := by
  have hdoubled : ∀ d : Dialect, d.escapes = false → doubled '\'' s.toList =
      s.toList.flatMap d.escapeChar := by
    intro d hd
    rw [doubled]
    congr 1
    funext c
    simp [escapeChar, hd]
  cases d with
  | mysql =>
    rw [quoteText, String.toList_ofList, doubled, doubled, List.flatMap_assoc]
    congr 4
    funext c
    by_cases hquote : c = '\''
    · subst hquote
      decide
    · by_cases hslash : c = '\\' <;> simp [escapeChar, escapes, hquote, hslash]
  | sqlite => rw [quoteText, SqlBuilder.quoteText, String.toList_ofList, hdoubled .sqlite rfl]
  | postgres => rw [quoteText, SqlBuilder.quoteText, String.toList_ofList, hdoubled .postgres rfl]

/-! ## Reading back -/

variable (d : Dialect)

theorem readText?_quotes (cs : List Char) :
    d.readText? ('\'' :: '\'' :: cs) = (d.readText? cs).map (Prod.map ('\'' :: ·) id) := by
  rw [readText?]

theorem readText?_quote {cs : List Char} (h : cs.head? ≠ some '\'') :
    d.readText? ('\'' :: cs) = some ([], cs) := by
  rw [readText?]
  rintro rest rfl
  exact h rfl

theorem readText?_slashes (h : d.escapes = true) (cs : List Char) :
    d.readText? ('\\' :: '\\' :: cs) = (d.readText? cs).map (Prod.map ('\\' :: ·) id) := by
  rw [readText?, if_pos h]

theorem readText?_char {c : Char} (hquote : c ≠ '\'') (hslash : d.escapes = true → c ≠ '\\')
    (cs : List Char) : d.readText? (c :: cs) = (d.readText? cs).map (Prod.map (c :: ·) id) := by
  by_cases hc : c = '\\'
  · subst hc
    cases cs with
    | nil => rfl
    | cons e cs => rw [readText?, if_neg fun h => hslash h rfl]
  · rw [readText?] <;> simp_all

theorem readText?_escapeChar (c : Char) (cs : List Char) :
    d.readText? (d.escapeChar c ++ cs) = (d.readText? cs).map (Prod.map (c :: ·) id) := by
  rw [escapeChar]
  split
  · rename_i h
    simp only [Bool.or_eq_true, decide_eq_true_eq, Bool.and_eq_true] at h
    obtain rfl | ⟨hescapes, rfl⟩ := h
    · exact d.readText?_quotes cs
    · exact d.readText?_slashes hescapes cs
  · rename_i h
    simp only [Bool.or_eq_true, decide_eq_true_eq, Bool.and_eq_true, not_or, not_and] at h
    exact d.readText?_char h.1 h.2 cs

theorem readText?_escaped (s cs : List Char) :
    d.readText? (s.flatMap d.escapeChar ++ cs) = (d.readText? cs).map (Prod.map (s ++ ·) id) := by
  induction s with
  | nil =>
    show d.readText? cs = (d.readText? cs).map (Prod.map id id)
    rw [Prod.map_id, Option.map_id]
    rfl
  | cons c s ih =>
    rw [List.flatMap_cons, List.append_assoc, readText?_escapeChar, ih, Option.map_map]
    rfl

theorem readLiteral?_of_toList {query : String} {cs : List Char} (h : query.toList = '\'' :: cs) :
    d.readLiteral? query = (d.readText? cs).map (Prod.map String.ofList String.ofList) := by
  rw [readLiteral?, h]
  rfl

/-- Behind the text of a literal the reader comes to the quote that ends it. -/
theorem readLiteral?_quoteText (s r : String) :
    d.readLiteral? (d.quoteText s ++ r) =
      (d.readText? ('\'' :: r.toList)).map (Prod.map (s ++ String.ofList ·) String.ofList) := by
  have hlist : (d.quoteText s ++ r).toList =
      '\'' :: (s.toList.flatMap d.escapeChar ++ '\'' :: r.toList) := by
    rw [String.toList_append, toList_quoteText]
    simp
  rw [readLiteral?_of_toList d hlist, readText?_escaped, Option.map_map, Prod.map_comp_map]
  congr 2
  funext t
  simp [String.ofList_append]

/-- The literal of a text is read back, and nothing behind it is lost or taken in, exactly if no
quote follows. -/
theorem literal_readBack (s r : String) :
    d.readLiteral? (d.literal (.text s) ++ r) = some (s, r) ↔ r.toList.head? ≠ some '\'' := by
  show d.readLiteral? (d.quoteText s ++ r) = some (s, r) ↔ _
  rw [readLiteral?_quoteText]
  constructor
  · intro hread hquote
    obtain ⟨cs, hcs⟩ := List.head?_eq_some_iff.1 hquote
    -- the quote that ends the literal and the one that follows are read as one in the text
    rw [hcs, readText?_quotes, Option.map_map] at hread
    obtain ⟨⟨t, rest⟩, -, ht⟩ := Option.map_eq_some_iff.1 hread
    have hlength := congrArg (fun p => p.1.length) ht
    simp at hlength
  · intro hquote
    rw [readText?_quote d hquote]
    simp

example : Dialect.mysql.readLiteral? "'a\\\\''' OR 1" = some ("a\\'", " OR 1") := by decide
example : Dialect.sqlite.readLiteral? "'it''s''" = none := by decide

end Dialect

end SqlBuilder
