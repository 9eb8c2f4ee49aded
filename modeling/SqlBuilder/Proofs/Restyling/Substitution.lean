import Mathlib.Data.List.Nodup
import SqlBuilder.Proofs.Placeholder.Scan
import SqlBuilder.Proofs.Restyling.Reading

/-!
# Restyling and substituting gives the prepared query

Whatever is read is a query in pieces: its segments character by character, and a parameter between
each two of them (`written`).

* `readPercent_interleave`, `readColons_interleave`: this is what the two readers find in the
  segments of a query, escaped for them.
* `putInOrder_written`, `putByName_written`: putting literals in for the parameters puts them
  between the segments.
-/

set_option autoImplicit false

namespace SqlBuilder.Placeholder

open SqlBuilder.Text

/-- The segments character by character, with a parameter between each two. -/
def written : List (List Char) → List Token → List Token
  | [], _ => []
  | segment :: segments, [] => (segment :: segments).flatMap fun cs => cs.map .char
  | segment :: segments, t :: ts => segment.map .char ++ t :: written segments ts

/-- The characters of segments with marks between them. -/
def joined (segments : List String) (marks : List String) : List Char :=
  (interleave segments marks).flatMap String.toList

theorem toList_fill (segments marks : List String) :
    (fill segments marks).toList = joined segments marks := by
  rw [fill, String.toList_join, joined]

@[simp] theorem joined_singleton (segment : String) (marks : List String) :
    joined [segment] marks = segment.toList := by
  simp [joined, interleave]

theorem joined_cons (segment : String) {segments : List String} (h : segments ≠ []) (mark : String)
    (marks : List String) :
    joined (segment :: segments) (mark :: marks) =
      segment.toList ++ (mark.toList ++ joined segments marks) := by
  cases segments with
  | nil => exact absurd rfl h
  | cons next segments => rfl

/-! ## Reading percent signs -/

theorem readPercent_char {c : Char} (h : c ≠ '%') (cs : List Char) :
    readPercent (c :: cs) = (readPercent cs).map (.char c :: ·) := by
  rw [readPercent]
  all_goals
    intros
    simp_all

/-- Doubled percent signs read as they were. -/
theorem readPercent_doubled (cs rest : List Char) :
    readPercent (doubled '%' cs ++ rest) = (readPercent rest).map (cs.map .char ++ ·) := by
  induction cs with
  | nil => simp
  | cons c cs ih =>
    have hcons : doubled '%' (c :: cs) = (if c = '%' then [c, c] else [c]) ++ doubled '%' cs := rfl
    rw [hcons, List.append_assoc]
    by_cases hc : c = '%'
    · subst hc
      rw [if_pos rfl]
      show readPercent ('%' :: '%' :: (doubled '%' cs ++ rest)) = _
      rw [readPercent, ih, Option.map_map]
      rfl
    · rw [if_neg hc]
      show readPercent (c :: (doubled '%' cs ++ rest)) = _
      rw [readPercent_char hc, ih, Option.map_map]
      rfl

theorem readPercent_named {name : List Char} (h : ')' ∉ name) (rest : List Char) :
    readPercent ('%' :: '(' :: (name ++ ')' :: 's' :: rest)) =
      (readPercent rest).map (.named (String.ofList name) :: ·) := by
  have hcut : cut [')'] (name ++ ')' :: 's' :: rest) = some (name, 's' :: rest) :=
    cut_append h ('s' :: rest)
  rw [readPercent]
  split
  · rename_i hcut'
    rw [hcut] at hcut'
    cases hcut'
    rfl
  · rename_i hne
    exact absurd hcut (hne _ _)

/-- The mark is read as the parameter. -/
def MarksPercent (mark : String) (t : Token) : Prop :=
  ∀ rest, readPercent (mark.toList ++ rest) = (readPercent rest).map (t :: ·)

theorem readPercent_interleave {segments : List (List Char)} {marks : List String}
    {tokens : List Token} (h : List.Forall₂ MarksPercent marks tokens)
    (hlength : segments.length = marks.length + 1) :
    readPercent (joined (segments.map fun cs => String.ofList (doubled '%' cs)) marks) =
      some (written segments tokens) := by
  induction h generalizing segments with
  | nil =>
    obtain ⟨segment, rfl⟩ := List.length_eq_one_iff.1 hlength
    have hread := readPercent_doubled segment []
    rw [List.append_nil] at hread
    simpa [written, readPercent] using hread
  | @cons mark t marks tokens hmark _ ih =>
    obtain ⟨segment, segments, rfl⟩ := List.exists_of_length_succ segments hlength
    have hsegments : segments.length = marks.length + 1 := by simpa using hlength
    have hne : (segments.map fun cs => String.ofList (doubled '%' cs)) ≠ [] :=
      List.map_eq_nil_iff.not.2 (List.ne_nil_of_length_eq_add_one hsegments)
    rw [List.map_cons, joined_cons _ hne, String.toList_ofList, readPercent_doubled, hmark,
      ih hsegments]
    rfl

/-! ## Reading colons -/

@[simp] theorem readColons_nil (last : Option Char) : readColons last [] = [] := by
  rw [readColons]

theorem readColons_escaped (last : Option Char) (cs : List Char) :
    readColons last ('\\' :: ':' :: cs) = .char ':' :: readColons (some ':') cs := by
  rw [readColons]

theorem readColons_cons (last : Option Char) {c : Char} (h : c ≠ '\\') (cs : List Char) :
    readColons last (c :: cs) =
      if c == ':' && marksBehind last && beginsWord cs then
        .named (String.ofList (cs.takeWhile isWord)) ::
          readColons ((cs.takeWhile isWord).getLast?) (cs.dropWhile isWord)
      else .char c :: readColons (some c) cs := by
  rw [readColons]
  intros
  simp_all

theorem readColons_char (last : Option Char) {c : Char} (h : c ≠ '\\') {cs : List Char}
    (hcs : c = ':' → beginsWord cs = false) :
    readColons last (c :: cs) = .char c :: readColons (some c) cs := by
  rw [readColons_cons last h, if_neg]
  simp only [Bool.and_eq_true, beq_iff_eq, not_and, Bool.not_eq_true]
  exact fun hc => hcs hc.1

theorem beginsWord_cons (c : Char) (cs : List Char) : beginsWord (c :: cs) = isWord c := rfl

/-- Escaping puts nothing but backslashes in front of what a text begins with. -/
theorem beginsWord_escapeColonChars (c : Char) (cs rest : List Char) (h : isWord c = false) :
    beginsWord (escapeColonChars (c :: cs) ++ rest) = false := by
  have hslash : isWord '\\' = false := by decide
  cases cs with
  | nil => simpa [escapeColonChars, beginsWord] using h
  | cons d cs =>
    rw [escapeColonChars]
    split
    · simpa [beginsWord] using hslash
    · simpa [beginsWord] using h

/-- Escaped colons read as they were, unless what follows makes a parameter of the last one. -/
theorem readColons_escapeColonChars {cs : List Char} (hcs : '\\' ∉ cs) (last : Option Char)
    {rest : List Char} (hrest : beginsWord rest = false) :
    readColons last (escapeColonChars cs ++ rest) =
      cs.map .char ++ readColons (cs.getLast?.or last) rest := by
  induction cs generalizing last with
  | nil => rfl
  | cons c cs ih =>
    have hmem : '\\' ≠ c ∧ '\\' ∉ cs := by simpa using hcs
    cases cs with
    | nil =>
      show readColons last (c :: rest) = _
      rw [readColons_char last (Ne.symm hmem.1) fun _ => hrest]
      rfl
    | cons d cs =>
      have hlast : ∀ e, ((d :: cs).getLast?.or (some e)) = (c :: d :: cs).getLast?.or last := by
        intro e
        rw [List.getLast?_cons_cons, List.getLast?_cons]
        rfl
      rw [escapeColonChars]
      split
      · rename_i hcolon
        obtain ⟨rfl, -⟩ : c = ':' ∧ isWord d = true := by simpa using hcolon
        show readColons last ('\\' :: ':' :: (escapeColonChars (d :: cs) ++ rest)) = _
        rw [readColons_escaped, ih hmem.2, hlast]
        rfl
      · rename_i hplain
        have hnext : c = ':' → beginsWord (escapeColonChars (d :: cs) ++ rest) = false := by
          rintro rfl
          exact beginsWord_escapeColonChars d cs rest (by simpa using hplain)
        show readColons last (c :: (escapeColonChars (d :: cs) ++ rest)) = _
        rw [readColons_char last (Ne.symm hmem.1) hnext, ih hmem.2, hlast]
        rfl

theorem takeWhile_of_begins {word rest : List Char} (hword : ∀ c ∈ word, isWord c = true)
    (hrest : beginsWord rest = false) :
    (word ++ rest).takeWhile isWord = word ∧ (word ++ rest).dropWhile isWord = rest := by
  rw [List.takeWhile_append_of_pos hword, List.dropWhile_append_of_pos hword]
  cases rest with
  | nil => simp
  | cons c rest =>
    have hc : isWord c = false := by simpa [beginsWord] using hrest
    simp [hc]

/-- A mark of a word is read as the parameter the word names. -/
theorem readColons_mark {last : Option Char} (hlast : marksBehind last = true) {word : List Char}
    (hne : word ≠ []) (hword : ∀ c ∈ word, isWord c = true) {rest : List Char}
    (hrest : beginsWord rest = false) :
    readColons last (':' :: (word ++ rest)) =
      .named (String.ofList word) :: readColons word.getLast? rest := by
  obtain ⟨htake, hdrop⟩ := takeWhile_of_begins hword hrest
  have hbegins : beginsWord (word ++ rest) = true := by
    obtain ⟨c, word, rfl⟩ := List.exists_cons_of_ne_nil hne
    simpa [beginsWord] using hword c List.mem_cons_self
  rw [readColons_cons last (by decide), if_pos (by simp [hlast, hbegins]), htake, hdrop]

/-- The segments keep apart from the marks between them. -/
structure SegmentsApart (segments : List (List Char)) : Prop where
  plain : ∀ cs ∈ segments, '\\' ∉ cs
  behind : ∀ cs ∈ segments.dropLast, cs.getLast?.all (fun c => c != ':' && !isWord c) = true
  between : ∀ cs ∈ segments.dropLast.tail, cs ≠ []
  before : ∀ cs ∈ segments.tail, beginsWord cs = false

namespace SegmentsApart

variable {segment next : List Char} {segments : List (List Char)}

theorem tail (h : SegmentsApart (segment :: next :: segments)) :
    SegmentsApart (next :: segments) where
  plain cs hcs := h.plain cs (List.mem_cons_of_mem _ hcs)
  behind cs hcs := h.behind cs (List.mem_cons_of_mem _ hcs)
  between cs hcs := h.between cs (List.mem_of_mem_tail hcs)
  before cs hcs := h.before cs (List.mem_cons_of_mem _ hcs)

theorem marksBehind (h : SegmentsApart (segment :: next :: segments)) {last : Option Char}
    (hlast : segment ≠ [] ∨ Placeholder.marksBehind last = true) :
    Placeholder.marksBehind (segment.getLast?.or last) = true := by
  have hbehind := h.behind segment List.mem_cons_self
  have hplain := h.plain segment List.mem_cons_self
  cases hc : segment.getLast? with
  | none =>
    rw [List.getLast?_eq_none_iff] at hc
    exact hlast.resolve_left (not_not_intro hc)
  | some c =>
    have hmem := List.mem_of_getLast? hc
    have hslash : c ≠ '\\' := by
      rintro rfl
      exact hplain hmem
    simpa [hc, Placeholder.marksBehind, hslash] using hbehind

end SegmentsApart

theorem beginsWord_joined {segment : List Char} (h : beginsWord segment = false)
    (segments : List String) (words : List (List Char)) :
    beginsWord (joined (String.ofList (escapeColonChars segment) :: segments)
      (words.map fun word => String.ofList (':' :: word))) = false := by
  have hempty : ∀ rest : List Char, beginsWord rest = false →
      beginsWord (escapeColonChars segment ++ rest) = false := by
    intro rest hrest
    cases segment with
    | nil => exact hrest
    | cons c cs => exact beginsWord_escapeColonChars c cs rest (by simpa [beginsWord] using h)
  cases segments with
  | nil => simpa [beginsWord] using hempty [] rfl
  | cons next segments =>
    cases words with
    | nil =>
      have hmark := hempty ('?' :: joined (next :: segments) [])
        ((beginsWord_cons _ _).trans (by decide))
      simpa [joined, interleave] using hmark
    | cons word words =>
      rw [List.map_cons, joined_cons _ (by simp), String.toList_ofList, String.toList_ofList]
      exact hempty _ ((beginsWord_cons _ _).trans (by decide))

theorem readColons_interleave {segments words : List (List Char)} (h : SegmentsApart segments)
    (hwords : ∀ word ∈ words, word ≠ [] ∧ ∀ c ∈ word, isWord c = true)
    (hlength : segments.length = words.length + 1) (last : Option Char)
    (hlast : words ≠ [] → segments.head? ≠ some [] ∨ marksBehind last = true) :
    readColons last (joined (segments.map fun cs => String.ofList (escapeColonChars cs))
        (words.map fun word => String.ofList (':' :: word))) =
      written segments (words.map fun word => .named (String.ofList word)) := by
  induction words generalizing segments last with
  | nil =>
    obtain ⟨segment, rfl⟩ := List.length_eq_one_iff.1 hlength
    have hread := readColons_escapeColonChars (h.plain segment List.mem_cons_self) last
      (show beginsWord [] = false from rfl)
    rw [List.append_nil, readColons_nil] at hread
    simpa [written] using hread
  | cons word words ih =>
    obtain ⟨segment, segments, rfl⟩ := List.exists_of_length_succ segments hlength
    have hsegments : segments.length = words.length + 1 := by simpa using hlength
    obtain ⟨next, segments, rfl⟩ := List.exists_of_length_succ segments hsegments
    obtain ⟨⟨hne, hword⟩, hwords⟩ := List.forall_mem_cons.1 hwords
    have hfirst : segment ≠ [] ∨ marksBehind last = true := by simpa using hlast
    have hnext : beginsWord next = false := h.before next List.mem_cons_self
    -- behind a mark, a segment that another mark follows has a character
    have hbetween : words ≠ [] → (next :: segments).head? ≠ some [] := by
      intro hne
      have hmore : segments ≠ [] := by
        rintro rfl
        exact hne (List.length_eq_zero_iff.1 (by simpa using hsegments.symm))
      obtain ⟨third, segments, rfl⟩ := List.exists_cons_of_ne_nil hmore
      simpa using h.between next List.mem_cons_self
    have hrest := ih h.tail hwords hsegments word.getLast? fun hne => .inl (hbetween hne)
    rw [List.map_cons] at hrest
    rw [List.map_cons, List.map_cons, List.map_cons, joined_cons _ (by simp),
      String.toList_ofList, String.toList_ofList, List.cons_append,
      readColons_escapeColonChars (h.plain segment List.mem_cons_self) last
        ((beginsWord_cons _ _).trans (by decide)),
      readColons_mark (h.marksBehind hfirst) hne hword (beginsWord_joined hnext _ _), hrest]
    rfl

/-! ## Putting parameters in -/

theorem putInOrder_map_char (literal : Value → String) (vs : List Value) (cs : List Char)
    (ts : List Token) :
    putInOrder literal vs (cs.map .char ++ ts) = (putInOrder literal vs ts).map (cs ++ ·) := by
  induction cs with
  | nil => simp
  | cons c cs ih =>
    have hcons : putInOrder literal vs (.char c :: (cs.map .char ++ ts)) =
        (putInOrder literal vs (cs.map .char ++ ts)).map (c :: ·) := by
      cases vs <;> rfl
    rw [List.map_cons, List.cons_append, hcons, ih, Option.map_map]
    rfl

theorem putInOrder_written (literal : Value → String) {segments : List (List Char)}
    {vs : List Value} (h : segments.length = vs.length + 1) :
    putInOrder literal vs (written segments (vs.map fun _ => .next)) =
      some (joined (segments.map String.ofList) (vs.map literal)) := by
  induction vs generalizing segments with
  | nil =>
    obtain ⟨segment, rfl⟩ := List.length_eq_one_iff.1 h
    have hput := putInOrder_map_char literal [] segment []
    rw [List.append_nil] at hput
    simpa [written, putInOrder] using hput
  | cons v vs ih =>
    obtain ⟨segment, segments, rfl⟩ := List.exists_of_length_succ segments h
    have hsegments : segments.length = vs.length + 1 := by simpa using h
    have hne : segments.map String.ofList ≠ [] :=
      List.map_eq_nil_iff.not.2 (List.ne_nil_of_length_eq_add_one hsegments)
    show putInOrder literal (v :: vs) (segment.map .char ++ .next :: written segments _) = _
    rw [putInOrder_map_char, putInOrder, ih hsegments, List.map_cons, List.map_cons,
      joined_cons _ hne, String.toList_ofList]
    rfl

theorem putByName_map_char (literal : Value → String) (entries : List (Value × Value))
    (cs : List Char) (ts : List Token) :
    putByName literal entries (cs.map .char ++ ts) =
      (putByName literal entries ts).map (cs ++ ·) := by
  induction cs with
  | nil => simp
  | cons c cs ih =>
    rw [List.map_cons, List.cons_append, putByName, ih, Option.map_map]
    rfl

theorem putByName_written (literal : Value → String) {entries : List (Value × Value)}
    {segments : List (List Char)} {names : List String} {vs : List Value}
    (hnames : List.Forall₂ (fun name v => Value.lookup entries (.text name) = some v) names vs)
    (h : segments.length = vs.length + 1) :
    putByName literal entries (written segments (names.map .named)) =
      some (joined (segments.map String.ofList) (vs.map literal)) := by
  induction hnames generalizing segments with
  | nil =>
    obtain ⟨segment, rfl⟩ := List.length_eq_one_iff.1 h
    have hput := putByName_map_char literal entries segment []
    rw [List.append_nil] at hput
    simpa [written, putByName] using hput
  | @cons name v names vs hname _ ih =>
    obtain ⟨segment, segments, rfl⟩ := List.exists_of_length_succ segments h
    have hsegments : segments.length = vs.length + 1 := by simpa using h
    have hne : segments.map String.ofList ≠ [] :=
      List.map_eq_nil_iff.not.2 (List.ne_nil_of_length_eq_add_one hsegments)
    show putByName literal entries
      (segment.map .char ++ .named name :: written segments (names.map .named)) = _
    rw [putByName_map_char, putByName, hname, List.map_cons, List.map_cons, joined_cons _ hne,
      String.toList_ofList]
    dsimp only
    rw [ih hsegments]
    rfl

/-! ## Counting parameters -/

/-- A parameter stands as often in what is written as among the parameters. -/
theorem count_written {t : Token} (ht : ∀ c, t ≠ .char c) {segments : List (List Char)}
    {ts : List Token} (h : segments.length = ts.length + 1) :
    (written segments ts).count t = ts.count t := by
  have hchars : ∀ cs : List Char, (cs.map Token.char).count t = 0 := by
    intro cs
    refine List.count_eq_zero.2 fun hmem => ?_
    obtain ⟨c, -, hc⟩ := List.mem_map.1 hmem
    exact ht c hc.symm
  induction ts generalizing segments with
  | nil =>
    obtain ⟨segment, rfl⟩ := List.length_eq_one_iff.1 h
    simpa [written] using hchars segment
  | cons s ts ih =>
    obtain ⟨segment, segments, rfl⟩ := List.exists_of_length_succ segments h
    have hsegments : segments.length = ts.length + 1 := by simpa using h
    rw [written, List.count_append, hchars, Nat.zero_add, List.count_cons, ih hsegments,
      List.count_cons]

/-! ## Names of parameters -/

theorem toList_bindingName (i : Nat) :
    (Style.bindingName i).toList = 'p' :: Nat.toDigits 10 i := by
  simp [Style.bindingName, Nat.repr_eq_ofList_toDigits]

theorem bindingName_injective : Function.Injective Style.bindingName := by
  intro i j h
  have hdigits : Nat.toDigits 10 i = Nat.toDigits 10 j := by
    have hlist := congrArg String.toList h
    rw [toList_bindingName, toList_bindingName] at hlist
    exact List.tail_eq_of_cons_eq hlist
  have hvalue := congrArg (Nat.ofDigitChars 10 · 0) hdigits
  simpa [Nat.ofDigitChars_toDigits] using hvalue

/-- The name of a parameter is a word. -/
theorem isWord_bindingName (i : Nat) : ∀ c ∈ (Style.bindingName i).toList, isWord c = true := by
  intro c hc
  rw [toList_bindingName] at hc
  rcases List.mem_cons.1 hc with rfl | hc
  · decide
  · have hdigit := Nat.isDigit_of_mem_toDigits (by decide) (by decide) hc
    have hascii : c.toNat < 128 := by
      simp only [Char.isDigit, Bool.and_eq_true, decide_eq_true_eq,
        UInt32.le_iff_toNat_le] at hdigit
      exact Nat.lt_of_le_of_lt hdigit.2 (by decide)
    simp [isWord, hascii, Char.isAlphanum, hdigit]

@[simp] theorem same_text (s t : String) : (Value.text s).same (.text t) = (s == t) := by
  simp [Value.same, Value.alike, Value.equal?, Value.identical, Value.equalScalar?, Value.samePlace]

/-- Each value is found under the name of its number. -/
theorem lookup_bindingName (vs : List Value) (k i : Nat) :
    Value.lookup (vs.mapIdx fun j v => (Value.text (Style.bindingName (k + j)), v))
      (.text (Style.bindingName (k + i))) = vs[i]? := by
  induction vs generalizing k i with
  | nil => rfl
  | cons v vs ih =>
    rw [List.mapIdx_cons, Value.lookup, same_text]
    cases i with
    | zero => simp
    | succ i =>
      have hne : Style.bindingName (k + 0) ≠ Style.bindingName (k + (i + 1)) :=
        bindingName_injective.ne (by omega)
      have hshift : (fun j v => (Value.text (Style.bindingName (k + (j + 1))), v)) =
          fun j (v : Value) => (Value.text (Style.bindingName (k + 1 + j)), v) := by
        funext j v
        rw [Nat.add_assoc, Nat.add_comm 1]
      rw [if_neg (by simpa using hne), hshift, List.getElem?_cons_succ,
        ← ih (k + 1) i, Nat.add_assoc, Nat.add_comm 1]

/-- The names of the parameters. -/
def names (n : Nat) : List String := (List.range n).map Style.bindingName

theorem nodup_names (n : Nat) : (names n).Nodup := List.nodup_range.map bindingName_injective

theorem lookup_nameBindings (vs : List Value) :
    List.Forall₂ (fun name v => Value.lookup (nameBindings vs) (.text name) = some v)
      (names vs.length) vs := by
  refine List.forall₂_iff_get.2 ⟨by simp [names], fun i hi hi' => ?_⟩
  have hlookup := lookup_bindingName vs 0 i
  simp only [Nat.zero_add] at hlookup
  simp [nameBindings, names, hlookup]

theorem usedOnce_named {vs : List Value} {segments : List (List Char)}
    (h : segments.length = vs.length + 1) :
    UsedOnce (.named (nameBindings vs)) (written segments ((names vs.length).map .named)) := by
  intro e he
  obtain ⟨i, hi, rfl⟩ := List.mem_mapIdx.1 he
  refine ⟨Style.bindingName i, rfl, ?_⟩
  have hmem : Style.bindingName i ∈ names vs.length :=
    List.mem_map.2 ⟨i, List.mem_range.2 hi, rfl⟩
  have hinj : Function.Injective Token.named := fun _ _ h => by cases h; rfl
  rw [count_written (by simp) (by simpa [names] using h)]
  exact List.count_eq_one_of_mem ((nodup_names _).map hinj) (List.mem_map_of_mem hmem)

/-! ## Restyling -/

theorem mapM_check {vs : List Value} (h : ∀ v ∈ vs, isBindable v = true) :
    vs.mapM check = .ok vs := by
  induction vs with
  | nil => rfl
  | cons v vs ih =>
    obtain ⟨hv, hvs⟩ := List.forall_mem_cons.1 h
    rw [List.mapM_cons, ih hvs, check, if_pos hv]
    rfl

section

variable {name sql : String} {style : Style} {escape : String → String} {vs : List Value}

theorem restyle_eq (hname : Style.ofName? name = some style)
    (hvalues : ∀ v ∈ vs, isBindable v = true) (hcount : count sql = vs.length) :
    restyle (.text name) escape (.text sql) (.positional vs) =
      .ok (.text (fill (escapeSegments style escape (split sql))
          ((List.range vs.length).map style.mark)),
        if style.isNamed then .named (nameBindings vs) else .positional vs) := by
  have hstyle : styleNamed (.text name) = .ok style := by
    simp [styleNamed, Value.text?, hname]
  have hlength : ((split sql).length - 1 != vs.length) = false := by
    simpa [count] using hcount
  have hrestyled : restyleValues style escape (.text sql) vs =
      .ok (fill (escapeSegments style escape (split sql)) ((List.range vs.length).map style.mark),
        if style.isNamed then .named (nameBindings vs) else .positional vs) := by
    rw [restyleValues, mapM_check hvalues, segments_text]
    dsimp only [bind, Except.bind]
    rw [hlength]
    rfl
  rw [restyle, hstyle]
  dsimp only [bind, Except.bind]
  rw [hrestyled]
  rfl

/-- A query is read back if its segments and marks are. -/
theorem faithful_of_read {read : List Char → Option (List Token)} {params : List Token}
    (hname : Style.ofName? name = some style) (hvalues : ∀ v ∈ vs, isBindable v = true)
    (hcount : count sql = vs.length)
    (hread : read (joined (escapeSegments style escape (split sql))
        ((List.range vs.length).map style.mark)) =
      some (written (splitFrom '?' '\'' false sql.toList) params))
    (hparams : params = if style.isNamed then (names vs.length).map .named
      else vs.map fun _ => .next) : Faithful name escape read sql vs := by
  have hlength : (splitFrom '?' '\'' false sql.toList).length = vs.length + 1 := by
    rw [length_splitFrom, ← count_eq_holes, hcount]
  have hprepared : joined ((splitFrom '?' '\'' false sql.toList).map String.ofList)
      (vs.map Value.literal) = (fill (split sql) (vs.map Value.literal)).toList :=
    (toList_fill _ _).symm
  refine ⟨_, _, written (splitFrom '?' '\'' false sql.toList) params, _,
    restyle_eq hname hvalues hcount, rfl, ?_, ?_, ?_⟩
  · rw [toList_fill]
    exact hread
  · cases hnamed : style.isNamed with
    | true =>
      simp only [hparams, hnamed, if_true, substituted,
        putByName_written _ (lookup_nameBindings vs) hlength, hprepared]
      simp [spread]
    | false =>
      simp only [hparams, hnamed, Bool.false_eq_true, if_false, substituted,
        putInOrder_written _ hlength, hprepared]
      simp [spread]
  · cases hnamed : style.isNamed with
    | true =>
      simp only [hparams, hnamed, if_true]
      exact usedOnce_named hlength
    | false =>
      simp only [hparams, hnamed, Bool.false_eq_true, if_false, UsedOnce]
      rw [count_written (by simp) (by simpa using hlength),
        List.map_const', List.count_replicate_self]

end

/-! ## The styles -/

theorem marksPercent_format (i : Nat) : MarksPercent (Style.format.mark i) .next := by
  intro rest
  have hmark : (Style.format.mark i).toList ++ rest = '%' :: 's' :: rest := by simp [Style.mark]
  rw [hmark, readPercent]

theorem marksPercent_formatNamed (i : Nat) :
    MarksPercent (Style.formatNamed.mark i) (.named (Style.bindingName i)) := by
  intro rest
  have hclose : ')' ∉ (Style.bindingName i).toList := fun h =>
    absurd (isWord_bindingName i _ h) (by decide)
  have hmark : (Style.formatNamed.mark i).toList ++ rest =
      '%' :: '(' :: ((Style.bindingName i).toList ++ ')' :: 's' :: rest) := by
    simp [Style.mark]
  rw [hmark, readPercent_named hclose, String.ofList_toList]

theorem forall₂_map_range {R : String → Token → Prop} {mark : Nat → String} {t : Nat → Token}
    (h : ∀ i, R (mark i) (t i)) (n : Nat) :
    List.Forall₂ R ((List.range n).map mark) ((List.range n).map t) := by
  rw [List.forall₂_map_left_iff, List.forall₂_map_right_iff]
  exact List.forall₂_same.2 fun i _ => h i

theorem escapeSegments_percent {style : Style} (h : style.escapesPercent = true) (sql : String) :
    escapeSegments style id (split sql) =
      (splitFrom '?' '\'' false sql.toList).map fun cs => String.ofList (doubled '%' cs) := by
  simp [escapeSegments, h, split, escapePercent, Function.comp_def]

theorem escapeSegments_colons (sql : String) :
    escapeSegments .named escapeColons (split sql) =
      (splitFrom '?' '\'' false sql.toList).map fun cs => String.ofList (escapeColonChars cs) := by
  simp [escapeSegments, Style.escapesPercent, split, escapeColons, Function.comp_def]

/-- A segment has no character that the text has not. -/
theorem mem_of_mem_splitFrom {quoted : Bool} {cs segment : List Char}
    (h : segment ∈ splitFrom '?' '\'' quoted cs) : ∀ c ∈ segment, c ∈ cs := by
  induction cs generalizing quoted segment with
  | nil =>
    rw [splitFrom, List.mem_singleton] at h
    simp [h]
  | cons d cs ih =>
    rw [splitFrom] at h
    split at h
    · rcases List.mem_cons.1 h with rfl | h
      · simp
      · exact fun c hc => List.mem_cons_of_mem d (ih h c hc)
    · obtain ⟨first, segments, hsplit⟩ := List.exists_cons_of_ne_nil
        (splitFrom_ne_nil '?' '\'' (if d == '\'' then !quoted else quoted) cs)
      rw [hsplit, consFirst] at h
      have hrest : ∀ segment ∈ first :: segments, ∀ c ∈ segment, c ∈ cs := by
        intro segment hsegment
        rw [← hsplit] at hsegment
        exact ih hsegment
      rcases List.mem_cons.1 h with rfl | h
      · intro c hc
        rcases List.mem_cons.1 hc with rfl | hc
        · exact List.mem_cons_self
        · exact List.mem_cons_of_mem d (hrest first List.mem_cons_self c hc)
      · exact fun c hc => List.mem_cons_of_mem d (hrest segment (List.mem_cons_of_mem _ h) c hc)

theorem Apart.segments {sql : String} (h : Apart sql) (hslash : '\\' ∉ sql.toList) :
    SegmentsApart (splitFrom '?' '\'' false sql.toList) := by
  obtain ⟨hbehind, hbetween, hbefore⟩ := h
  simp only [split, ← List.map_dropLast, ← List.map_tail, List.forall_mem_map,
    String.toList_ofList] at hbehind hbetween hbefore
  exact {
    plain := fun cs hcs hmem => hslash (mem_of_mem_splitFrom hcs _ hmem)
    behind := hbehind
    between := fun cs hcs hnil => hbetween cs hcs (by rw [hnil])
    before := hbefore }

/-- Restyling a query and putting its values in as the client library reads it gives the query
prepared for display: with percent signs in any query, with colons in a query without backslashes
whose placeholders keep apart from words. -/
theorem faithful_restyle {sql : String} {vs : List Value} (hvalues : ∀ v ∈ vs, isBindable v = true)
    (hcount : count sql = vs.length) :
    Faithful "format" id readPercent sql vs ∧ Faithful "pyformat" id readPercent sql vs ∧
      ('\\' ∉ sql.toList → Apart sql →
        Faithful "named" escapeColons (fun cs => some (readColons none cs)) sql vs) := by
  have hlength : (splitFrom '?' '\'' false sql.toList).length = vs.length + 1 := by
    rw [length_splitFrom, ← count_eq_holes, hcount]
  refine ⟨?_, ?_, fun hslash hapart => ?_⟩
  · have hname : Style.ofName? "format" = some .format := rfl
    refine faithful_of_read hname hvalues hcount ?_ rfl
    have hparams : vs.map (fun _ => Token.next) = (List.range vs.length).map fun _ => .next := by
      simp [List.map_const']
    rw [escapeSegments_percent rfl, hparams]
    exact readPercent_interleave (forall₂_map_range marksPercent_format _) (by simpa using hlength)
  · have hname : Style.ofName? "pyformat" = some .formatNamed := rfl
    refine faithful_of_read hname hvalues hcount ?_ rfl
    rw [escapeSegments_percent rfl, names, List.map_map]
    exact readPercent_interleave (forall₂_map_range marksPercent_formatNamed _)
      (by simpa using hlength)
  · have hname : Style.ofName? "named" = some .named := rfl
    refine faithful_of_read hname hvalues hcount ?_ rfl
    let words := (names vs.length).map String.toList
    have hmarks : (List.range vs.length).map Style.named.mark =
        words.map fun word => String.ofList (':' :: word) := by
      simp only [words, names, List.map_map]
      refine List.map_congr_left fun i _ => String.toList_injective ?_
      simp [Style.mark]
    have hparams : (names vs.length).map Token.named =
        words.map fun word => .named (String.ofList word) := by
      simp [words, Function.comp_def]
    have hwords : ∀ word ∈ words, word ≠ [] ∧ ∀ c ∈ word, isWord c = true := by
      intro word hword
      simp only [words, names, List.map_map, List.mem_map] at hword
      obtain ⟨i, -, rfl⟩ := hword
      refine ⟨?_, isWord_bindingName i⟩
      rw [Function.comp_apply, toList_bindingName]
      exact List.cons_ne_nil _ _
    rw [escapeSegments_colons, hmarks, hparams]
    exact congrArg some (readColons_interleave (hapart.segments hslash) hwords
      (by simpa [words, names] using hlength) none fun _ => .inr rfl)

/-- A query with signs of every kind around its placeholders. -/
def signedQuery : String := "SELECT '50%?' || a::text, b % ? FROM t WHERE c='10:30' AND d = ?::int"

theorem apart_signedQuery : Apart signedQuery where
  behind := by decide
  between := by decide
  before := by decide

theorem faithful_restyle_of_signs :
    (∀ v ∈ [Value.int 7, .text "it's :p0 %s"], isBindable v = true) ∧ count signedQuery = 2 ∧
      '\\' ∉ signedQuery.toList ∧ Apart signedQuery ∧
      Faithful "named" escapeColons (fun cs => some (readColons none cs)) signedQuery
        [.int 7, .text "it's :p0 %s"] := by
  have hvalues : ∀ v ∈ [Value.int 7, .text "it's :p0 %s"], isBindable v = true := by decide
  have hcount : count signedQuery = 2 := by decide
  have hslash : '\\' ∉ signedQuery.toList := by decide
  exact ⟨hvalues, hcount, hslash, apart_signedQuery,
    (faithful_restyle hvalues hcount).2.2 hslash apart_signedQuery⟩

end SqlBuilder.Placeholder
