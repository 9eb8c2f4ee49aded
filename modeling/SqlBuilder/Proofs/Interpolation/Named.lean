import SqlBuilder.Proofs.Interpolation.Literal

/-!
# One name after another

Named values are put into the text one at a time, each in place of the first `:name` that ends at
the end of a word. What a text has of these is told by the words behind its colons (`colonWords`):
`replaceFirst_of_not_mem` says what is replaced where no earlier one stands in the way, and
`replaceFirst_of_mem` where one does. A text that once had something else in the place of a colon
stays different from the text with the colon, whatever else is put in (`Astray.foldl`), because no
literal begins with a colon (`opens_literalOf`).
-/

set_option autoImplicit false

namespace SqlBuilder.CompiledQuery

open Text

/-! ## Words behind colons -/

/-- The words behind the colons of a text, one for each colon. -/
def colonWords : List Char → List (List Char)
  | [] => []
  | c :: cs => if c = ':' then cs.takeWhile isWord :: colonWords cs else colonWords cs

/-- No word goes on into the text. -/
def Breaks (cs : List Char) : Prop := ∀ c ∈ cs.head?, isWord c = false

/-- A name of a binding: word characters, one at least. -/
def IsName (name : List Char) : Prop := name ≠ [] ∧ ∀ c ∈ name, isWord c = true

theorem breaks_nil : Breaks [] := fun _ h => nomatch h

theorem breaks_colon (cs : List Char) : Breaks (':' :: cs) := by
  intro c hc
  cases hc
  decide

theorem Breaks.append {x y : List Char} (hx : Breaks x) (hy : x = [] → Breaks y) :
    Breaks (x ++ y) := by
  cases x with
  | nil => exact hy rfl
  | cons c cs => exact hx

theorem takeWhile_append_of_breaks {x y : List Char} (h : Breaks y) :
    (x ++ y).takeWhile isWord = x.takeWhile isWord := by
  induction x with
  | nil =>
    cases y with
    | nil => rfl
    | cons c cs => simp [h c rfl]
  | cons c cs ih => simp only [List.cons_append, List.takeWhile_cons, ih]

theorem breaks_dropWhile (cs : List Char) : Breaks (cs.dropWhile isWord) := by
  intro c hc
  have h := List.head?_dropWhile_not isWord cs
  rw [hc] at h
  exact h

theorem IsName.takeWhile {name : List Char} (hname : IsName name) {y : List Char} (h : Breaks y) :
    (name ++ y).takeWhile isWord = name := by
  rw [takeWhile_append_of_breaks h, List.takeWhile_eq_self_iff]
  exact hname.2

theorem IsName.dropWhile {name : List Char} (hname : IsName name) {y : List Char} (h : Breaks y) :
    (name ++ y).dropWhile isWord = y := by
  have hwhole := List.takeWhile_append_dropWhile (p := isWord) (l := name ++ y)
  rw [hname.takeWhile h] at hwhole
  exact List.append_cancel_left hwhole

/-- Colons on both sides of a place where no word goes on have their words for themselves. -/
theorem colonWords_append {x y : List Char} (h : Breaks y) :
    colonWords (x ++ y) = colonWords x ++ colonWords y := by
  induction x with
  | nil => rfl
  | cons c cs ih =>
    simp only [List.cons_append, colonWords, ih, takeWhile_append_of_breaks h]
    split <;> rfl

theorem mem_colonWords_append_right {word x y : List Char} (h : word ∈ colonWords y) :
    word ∈ colonWords (x ++ y) := by
  induction x with
  | nil => exact h
  | cons c cs ih =>
    simp only [List.cons_append, colonWords]
    split
    · exact List.mem_cons_of_mem _ ih
    · exact ih

theorem colonWords_named {name : List Char} (h : IsName name) :
    colonWords (':' :: name) = [name] := by
  have hnone : ∀ cs : List Char, (∀ c ∈ cs, isWord c = true) → colonWords cs = [] := by
    intro cs hcs
    induction cs with
    | nil => rfl
    | cons c cs ih =>
      have hne : c ≠ ':' := fun hc => absurd (hcs c List.mem_cons_self) (hc ▸ by decide)
      rw [colonWords, if_neg hne]
      exact ih fun d hd => hcs d (List.mem_cons_of_mem _ hd)
  have hword : name.takeWhile isWord = name := by simpa using h.takeWhile breaks_nil
  rw [colonWords, if_pos rfl, hword, hnone name h.2]

/-! ## The first occurrence -/

theorem isBoundary_iff {last : Char} (hlast : isWord last = true) {rest : List Char} :
    isBoundary last rest = true ↔ Breaks rest := by
  cases rest with
  | nil => simp [isBoundary, hlast, Breaks]
  | cons c cs => simp [isBoundary, hlast, Breaks]

/-- At a colon the word behind it decides, at anything else nothing is replaced. -/
theorem replaceFirst_cons {name : List Char} (hname : IsName name) (literal : List Char) (c : Char)
    (cs : List Char) :
    replaceFirst (':' :: name) literal (c :: cs) =
      if c = ':' ∧ cs.takeWhile isWord = name then literal ++ cs.dropWhile isWord
      else c :: replaceFirst (':' :: name) literal cs := by
  have hlast : isWord ((':' :: name).getLast?.getD ':') = true := by
    rw [List.getLast?_cons, List.getLast?_eq_getLast_of_ne_nil hname.1]
    exact hname.2 _ (List.getLast_mem _)
  rw [replaceFirst]
  split
  · rename_i rest hfront
    have hcs : c = ':' ∧ cs = name ++ rest := by
      have h := dropFront?_eq_some hfront
      rw [List.cons_append, List.cons.injEq] at h
      exact h
    obtain ⟨rfl, rfl⟩ := hcs
    by_cases hbreaks : Breaks rest
    · rw [if_pos ((isBoundary_iff hlast).2 hbreaks), if_pos ⟨rfl, hname.takeWhile hbreaks⟩,
        hname.dropWhile hbreaks]
    · rw [if_neg fun h => hbreaks ((isBoundary_iff hlast).1 h), if_neg]
      rintro ⟨-, hword⟩
      have hwhole := List.takeWhile_append_dropWhile (p := isWord) (l := name ++ rest)
      rw [hword] at hwhole
      exact hbreaks (List.append_cancel_left hwhole ▸ breaks_dropWhile _)
  · rename_i hfront
    rw [if_neg]
    rintro ⟨rfl, hword⟩
    have hwhole := List.takeWhile_append_dropWhile (p := isWord) (l := cs)
    rw [hword] at hwhole
    have : dropFront? (':' :: name) (':' :: cs) = some (cs.dropWhile isWord) := by
      conv_lhs => rw [← hwhole]
      exact dropFront?_append (':' :: name) _
    rw [this] at hfront
    cases hfront

section First

variable {name : List Char} (hname : IsName name) (literal : List Char)

include hname

/-- Where no `:name` stands ahead, the literal takes the place of the next one. -/
theorem replaceFirst_of_not_mem {x y : List Char} (hx : name ∉ colonWords x) (hy : Breaks y) :
    replaceFirst (':' :: name) literal (x ++ ':' :: (name ++ y)) = x ++ (literal ++ y) := by
  induction x with
  | nil =>
    rw [List.nil_append, replaceFirst_cons hname, if_pos ⟨rfl, hname.takeWhile hy⟩,
      hname.dropWhile hy]
    rfl
  | cons c cs ih =>
    rw [List.cons_append, replaceFirst_cons hname, takeWhile_append_of_breaks (breaks_colon _)]
    rw [colonWords] at hx
    split at hx
    · rw [List.mem_cons, not_or] at hx
      rw [if_neg fun h => hx.1 h.2.symm, ih hx.2]
      rfl
    · rename_i hc
      rw [if_neg fun h => hc h.1, ih hx]
      rfl

/-- Where a `:name` stands ahead, the literal comes in the place of a colon ahead. -/
theorem replaceFirst_of_mem {x z : List Char} (hx : name ∈ colonWords x) (hz : Breaks z) :
    ∃ u v w, x = u ++ ':' :: v ∧
      replaceFirst (':' :: name) literal (x ++ z) = u ++ (literal ++ w) := by
  induction x with
  | nil => cases hx
  | cons c cs ih =>
    rw [List.cons_append, replaceFirst_cons hname, takeWhile_append_of_breaks hz]
    split
    · rename_i h
      exact ⟨[], cs, _, by rw [h.1]; rfl, rfl⟩
    · rename_i h
      have hrest : name ∈ colonWords cs := by
        rw [colonWords] at hx
        split at hx
        · rename_i hc
          exact (List.mem_cons.1 hx).resolve_left fun hword => h ⟨hc, hword.symm⟩
        · exact hx
      obtain ⟨u, v, w, hcs, hput⟩ := ih hrest
      exact ⟨c :: u, v, w, by rw [hcs]; rfl, by rw [hput]; rfl⟩

theorem replaceFirst_eq_or (cs : List Char) :
    replaceFirst (':' :: name) literal cs = cs ∨ ∃ u v w, cs = u ++ ':' :: v ∧
      replaceFirst (':' :: name) literal cs = u ++ (literal ++ w) := by
  induction cs with
  | nil => exact .inl rfl
  | cons c cs ih =>
    rw [replaceFirst_cons hname]
    split
    · rename_i h
      exact .inr ⟨[], cs, _, by rw [h.1]; rfl, rfl⟩
    · rcases ih with ih | ⟨u, v, w, hcs, hput⟩
      · exact .inl (by rw [ih])
      · exact .inr ⟨c :: u, v, w, by rw [hcs]; rfl, by rw [hput]; rfl⟩

end First

/-! ## Literals do not begin with a colon -/

/-- The text begins, and not with a colon. -/
def Opens (cs : List Char) : Prop := ∃ c rest, cs = c :: rest ∧ c ≠ ':'

theorem opens_cons {c : Char} {cs : List Char} (h : c ≠ ':') : Opens (c :: cs) := ⟨c, cs, rfl, h⟩

theorem opens_of_isNumeral {cs : List Char} (h : IsNumeral cs) : Opens cs := by
  obtain ⟨c, rest, rfl⟩ := List.exists_cons_of_ne_nil h.1
  exact opens_cons fun hc => absurd (h.2 c List.mem_cons_self) (hc ▸ by decide)

theorem opens_append {s t : String} (h : Opens s.toList) : Opens (s ++ t).toList := by
  obtain ⟨c, rest, hs, hc⟩ := h
  rw [String.toList_append, hs]
  exact opens_cons hc

theorem opens_ascii {s : String} (h : s.toList.head? ≠ none ∧ s.toList.head? ≠ some ':') :
    Opens s.toList := by
  cases hs : s.toList with
  | nil => simp [hs] at h
  | cons c cs => exact opens_cons fun hc => h.2 (by rw [hs, hc]; rfl)

theorem opens_quoteText (d : Dialect) (s : String) : Opens (d.quoteText s).toList := by
  cases d <;> rw [Dialect.quoteText] <;> try rw [SqlBuilder.quoteText]
  all_goals
    rw [String.toList_ofList]
    exact opens_cons (by decide)

theorem displayQuote_ne_colon (cs : List Char) : displayQuote cs ≠ ':' := by
  unfold displayQuote
  split <;> decide

theorem opens_display {v : Value} (h : v.Bound) : Opens v.display.toList := by
  obtain ⟨hraw, hkind, -⟩ := h
  cases v with
  | null => exact opens_ascii (s := "None") (by decide)
  | bool b => cases b <;> exact opens_ascii (by decide)
  | int n => exact opens_of_isNumeral (Value.isNumeral_intText n)
  | float x identity => exact opens_of_isNumeral (Number.Double.isNumeral_text x)
  | text s =>
    have hshown : (Value.text s).display = Text.display s := rfl
    rw [hshown, Text.display, String.toList_ofList]
    exact opens_cons (displayQuote_ne_colon _)
  | decimal numeral identity =>
    exact opens_append (opens_append (opens_ascii (s := "Decimal(") (by decide)))
  | bytes octets =>
    have hshown : (Value.bytes octets).display = displayOctets octets := rfl
    rw [hshown, displayOctets, String.toList_ofList]
    exact opens_cons (by decide)
  | moment kind s =>
    have hshown : (Value.moment kind s).display = (Moment.read kind s).display := rfl
    rw [hshown, Moment.display]
    split
    exact opens_append (opens_append (opens_append (opens_append (opens_ascii (by decide)))))
  | member className name value identity =>
    exact opens_append (opens_append (opens_append (opens_append (opens_append (opens_append
      (opens_ascii (s := "<") (by decide)))))))
  | printable className s identity =>
    exact opens_append (opens_append (opens_ascii (s := "<") (by decide)))
  | column c => exact opens_append (opens_append (opens_ascii (s := "Column(") (by decide)))
  | raw sql bindings => cases hraw
  | _ => cases hkind

theorem opens_literalOf (adapter : Option Adapter) {v : Value} (h : v.Bound) :
    Opens (literalOf adapter v).toList := by
  cases adapter with
  | some a =>
    rw [literalOf_eq h.1 h.2.kind]
    rcases Value.literal_shape a.dialect h.2 with hnumeral | ⟨s, hs⟩
    · exact opens_of_isNumeral hnumeral
    · exact hs ▸ opens_quoteText _ s
  | none =>
    have hdisplay : literalOf none v = v.display := by
      obtain ⟨hraw, hkind, -⟩ := h
      cases v <;> first
        | rfl
        | simp [Value.normalize, Value.isBasic] at hkind; done
        | cases hraw
    exact hdisplay ▸ opens_display h

/-! ## Texts that went astray -/

/-- The text has something else where `target` has a colon, and is the same up to there. -/
def Astray (target cs : List Char) : Prop :=
  ∃ u v c w, target = u ++ ':' :: v ∧ cs = u ++ c :: w ∧ c ≠ ':'

namespace Astray

variable {target cs : List Char}

theorem ne (h : Astray target cs) : cs ≠ target := by
  obtain ⟨u, v, c, w, rfl, rfl, hc⟩ := h
  intro heq
  exact hc (List.cons.inj (List.append_cancel_left heq)).1

/-- A literal that is put in behind the place leaves it, one that is put in ahead is such a place
itself. -/
theorem replaceFirst (h : Astray target cs) {name : List Char} (hname : IsName name)
    {literal : List Char} (hopens : Opens literal) :
    Astray target (replaceFirst (':' :: name) literal cs) := by
  obtain ⟨u, v, c, w, rfl, rfl, hc⟩ := h
  rcases replaceFirst_eq_or hname literal (u ++ c :: w) with hsame | ⟨u', v', w', hcs, hput⟩
  · exact ⟨u, v, c, w, rfl, hsame, hc⟩
  · obtain ⟨d, rest, rfl, hd⟩ := hopens
    rcases List.append_eq_append_iff.1 hcs with ⟨mid, rfl, htail⟩ | ⟨mid, rfl, htail⟩
    · cases mid with
      | nil => exact absurd (List.cons.inj htail).1 hc
      | cons c' mid =>
        obtain ⟨rfl, -⟩ := List.cons.inj htail
        exact ⟨u, v, c, mid ++ (d :: rest ++ w'), rfl, by rw [hput]; simp, hc⟩
    · cases mid with
      | nil => exact absurd (List.cons.inj htail).1.symm hc
      | cons c' mid =>
        obtain ⟨rfl, -⟩ := List.cons.inj htail
        exact ⟨u', mid ++ ':' :: v, d, _, by simp, by rw [hput]; rfl, hd⟩

end Astray

end SqlBuilder.CompiledQuery
