import SqlBuilder.Identifier
import SqlBuilder.Text.Word

/-!
# Tokens of a condition

`tokens` reads a text as keywords, names, numbers, comparison signs and single marks. A name may
stand between identifier quotes, and then it is no keyword; a keyword may be written in small
letters as well.

`Spells cs ts`: the characters are read as the tokens wherever no word and no comparison goes on
behind them (`Parted`).
-/

set_option autoImplicit false

namespace SqlBuilder.Grammar

open SqlBuilder.Text

/-! ## Tokens -/

/-- The words of conditions that are no names. -/
inductive Keyword where
  | and
  | or
  | not
  | among
  | between
  | like
  | is
  | null
  deriving Repr, DecidableEq

namespace Keyword

/-- How a keyword is written. -/
def word : Keyword → String
  | and => "AND"
  | or => "OR"
  | not => "NOT"
  | among => "IN"
  | between => "BETWEEN"
  | like => "LIKE"
  | is => "IS"
  | null => "NULL"

/-- Every keyword. -/
def all : List Keyword := [and, or, not, among, between, like, is, null]

/-- The keyword that a word is, in capitals or not. -/
def read? (w : List Char) : Option Keyword :=
  all.find? fun k => k.word.toList == w.map Char.toUpper

end Keyword

/-- A token. -/
inductive Token where
  | keyword (k : Keyword)
  | name (s : String)
  | number (s : String)
  | sign (s : String)
  /-- A parenthesis, a comma, a placeholder, or a character that has no business in a condition. -/
  | mark (c : Char)
  deriving Repr, DecidableEq

/-- The token that a word is. -/
def Token.ofWord (w : List Char) : Token :=
  match Keyword.read? w with
  | some k => .keyword k
  | none => if w.all Char.isDigit then .number (String.ofList w) else .name (String.ofList w)

/-- A plain identifier: word characters that are no number and no keyword. -/
def isName (w : List Char) : Bool :=
  w.all isWord && !w.all Char.isDigit && (Keyword.read? w).isNone

/-! ## Reading tokens -/

/-- The characters of comparison signs. -/
def isSignChar (c : Char) : Bool := c == '=' || c == '<' || c == '>'

/-- The characters that names stand between. -/
def isQuote (c : Char) : Bool := c == '`' || c == '"'

/-- A token of which a part is read, the last character first. -/
inductive Pending where
  | nothing
  | word (w : List Char)
  | sign (w : List Char)
  | quoted (quote : Char) (w : List Char)
  deriving Repr, DecidableEq

namespace Pending

/-- The token, where it ends. A quote that is not closed is left as a mark. -/
def tokens : Pending → List Token
  | .nothing => []
  | .word w => [.ofWord w.reverse]
  | .sign w => [.sign (String.ofList w.reverse)]
  | .quoted quote _ => [.mark quote]

/-- What a character behind a token begins. -/
def start (c : Char) : List Token × Pending :=
  if isWord c then ([], .word [c])
  else if isSignChar c then ([], .sign [c])
  else if isQuote c then ([], .quoted c [])
  else if isBlank c then ([], .nothing)
  else ([.mark c], .nothing)

/-- The tokens that a further character ends, and what is pending after it. -/
def next : Pending → Char → List Token × Pending
  | .nothing, c => start c
  | .word w, c =>
    if isWord c then ([], .word (c :: w)) else ((word w).tokens ++ (start c).1, (start c).2)
  | .sign w, c =>
    if isSignChar c then ([], .sign (c :: w)) else ((sign w).tokens ++ (start c).1, (start c).2)
  | .quoted quote w, c =>
    if c = quote then ([.name (String.ofList w.reverse)], .nothing)
    else ([], .quoted quote (c :: w))

end Pending

/-- The tokens of characters behind a token of which a part is read. -/
def tokensFrom (p : Pending) : List Char → List Token
  | [] => p.tokens
  | c :: cs => (p.next c).1 ++ tokensFrom (p.next c).2 cs

/-- The tokens of a text. -/
def tokens (s : String) : List Token := tokensFrom .nothing s.toList

/-! ## Spelling -/

/-- No word and no comparison goes on with these characters. -/
def Parted (cs : List Char) : Prop := ∀ c ∈ cs.head?, isWord c = false ∧ isSignChar c = false

theorem parted_nil : Parted [] := by simp [Parted]

theorem parted_cons {c : Char} {cs : List Char} (h : isWord c = false ∧ isSignChar c = false) :
    Parted (c :: cs) := by simpa [Parted] using h

theorem parted_append {a b : List Char} (ha : Parted a) (hb : Parted b) : Parted (a ++ b) := by
  cases a with
  | nil => exact hb
  | cons c cs => exact parted_cons (ha c (by simp))

/-- A word ends where no word goes on. -/
theorem tokensFrom_word {w cs : List Char} (h : Parted cs) :
    tokensFrom (.word w) cs = (Pending.word w).tokens ++ tokensFrom .nothing cs := by
  cases cs with
  | nil => simp [tokensFrom, Pending.tokens]
  | cons c cs => simp [tokensFrom, Pending.next, (h c (by simp)).1]

/-- A comparison sign ends where none goes on. -/
theorem tokensFrom_sign {w cs : List Char} (h : Parted cs) :
    tokensFrom (.sign w) cs = (Pending.sign w).tokens ++ tokensFrom .nothing cs := by
  cases cs with
  | nil => simp [tokensFrom, Pending.tokens]
  | cons c cs => simp [tokensFrom, Pending.next, (h c (by simp)).2]

/-- The characters are read as the tokens, whatever comes behind them that is parted from them. -/
def Spells (cs : List Char) (ts : List Token) : Prop :=
  ∀ rest, Parted rest → tokensFrom .nothing (cs ++ rest) = ts ++ tokensFrom .nothing rest

namespace Spells

theorem nil : Spells [] [] := fun _ _ => rfl

theorem append {a b : List Char} {ts us : List Token} (ha : Spells a ts) (hb : Spells b us)
    (hparted : Parted b) : Spells (a ++ b) (ts ++ us) := by
  intro rest hrest
  rw [List.append_assoc, ha _ (parted_append hparted hrest), hb rest hrest, List.append_assoc]

/-- Behind a mark anything may come. -/
theorem mark {c : Char} {b : List Char} {us : List Token}
    (hc : Pending.start c = ([.mark c], .nothing)) (hb : Spells b us) :
    Spells (c :: b) (.mark c :: us) := by
  intro rest hrest
  simp [tokensFrom, Pending.next, hc, hb rest hrest]

theorem space {b : List Char} {us : List Token} (hb : Spells b us) : Spells (' ' :: b) us := by
  intro rest hrest
  have hstart : Pending.start ' ' = ([], .nothing) := by decide
  simp [tokensFrom, Pending.next, hstart, hb rest hrest]

/-- One after another with a space between them. -/
theorem spaced {a b : List Char} {ts us : List Token} (ha : Spells a ts) (hb : Spells b us) :
    Spells (a ++ ' ' :: b) (ts ++ us) :=
  ha.append hb.space (parted_cons (by decide))

theorem parenthesized {a : List Char} {ts : List Token} (ha : Spells a ts) :
    Spells ('(' :: (a ++ [')'])) (.mark '(' :: (ts ++ [.mark ')'])) :=
  (ha.append (mark (by decide) nil) (parted_cons (by decide))).mark (by decide)

theorem word {w : List Char} (hne : w ≠ []) (h : w.all isWord = true) :
    Spells w [.ofWord w] := by
  have hfrom : ∀ {w u rest : List Char}, w.all isWord = true → Parted rest →
      tokensFrom (.word u) (w ++ rest) =
        .ofWord (u.reverse ++ w) :: tokensFrom .nothing rest := by
    intro w
    induction w with
    | nil =>
      intro u rest _ hrest
      simp [tokensFrom_word hrest, Pending.tokens]
    | cons c w ih =>
      intro u rest hw hrest
      rw [List.all_cons, Bool.and_eq_true] at hw
      simp [tokensFrom, Pending.next, hw.1, ih hw.2 hrest]
  intro rest hrest
  cases w with
  | nil => exact absurd rfl hne
  | cons c w =>
    rw [List.all_cons, Bool.and_eq_true] at h
    simp [tokensFrom, Pending.next, Pending.start, h.1, hfrom h.2 hrest]

theorem keyword (k : Keyword) : Spells k.word.toList [.keyword k] := by
  have hword : Token.ofWord k.word.toList = .keyword k := by cases k <;> decide +kernel
  have hall : k.word.toList.all isWord = true := by cases k <;> decide +kernel
  exact hword ▸ word (by cases k <;> decide) hall

theorem ofName {w : List Char} (h : isName w = true) : Spells w [.name (String.ofList w)] := by
  simp only [isName, Bool.and_eq_true, Bool.not_eq_true'] at h
  obtain ⟨⟨hall, hdigits⟩, hkeyword⟩ := h
  have hword : Token.ofWord w = .name (String.ofList w) := by
    unfold Token.ofWord
    rw [Option.isNone_iff_eq_none.1 hkeyword, hdigits]
    rfl
  refine hword ▸ word ?_ hall
  rintro rfl
  exact absurd hdigits (by decide)

theorem sign {w : List Char} (hne : w ≠ []) (h : w.all isSignChar = true)
    (hword : w.all (fun c => !isWord c) = true) : Spells w [.sign (String.ofList w)] := by
  have hfrom : ∀ {w u rest : List Char}, w.all isSignChar = true → Parted rest →
      tokensFrom (.sign u) (w ++ rest) =
        .sign (String.ofList (u.reverse ++ w)) :: tokensFrom .nothing rest := by
    intro w
    induction w with
    | nil =>
      intro u rest _ hrest
      simp [tokensFrom_sign hrest, Pending.tokens]
    | cons c w ih =>
      intro u rest hw hrest
      rw [List.all_cons, Bool.and_eq_true] at hw
      simp [tokensFrom, Pending.next, hw.1, ih hw.2 hrest]
  intro rest hrest
  cases w with
  | nil => exact absurd rfl hne
  | cons c w =>
    rw [List.all_cons, Bool.and_eq_true] at h hword
    have hc : isWord c = false := by simpa using hword.1
    simp [tokensFrom, Pending.next, Pending.start, h.1, hc, hfrom h.2 hrest]

/-- A name between quotes is read as it is, also where it is a keyword. -/
theorem quoted {quote : Char} {w : List Char}
    (hstart : Pending.start quote = ([], .quoted quote []))
    (h : quote ∉ w) : Spells (quote :: (w ++ [quote])) [.name (String.ofList w)] := by
  have hfrom : ∀ {w u rest : List Char}, quote ∉ w →
      tokensFrom (.quoted quote u) (w ++ quote :: rest) =
        .name (String.ofList (u.reverse ++ w)) :: tokensFrom .nothing rest := by
    intro w
    induction w with
    | nil =>
      intro u rest _
      simp [tokensFrom, Pending.next]
    | cons c w ih =>
      intro u rest hw
      rw [List.mem_cons, not_or] at hw
      simp [tokensFrom, Pending.next, Ne.symm hw.1, ih hw.2]
  intro rest _
  simp [tokensFrom, Pending.next, hstart, hfrom h]

end Spells

end SqlBuilder.Grammar
