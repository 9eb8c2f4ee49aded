import SqlBuilder.Identifier
import SqlBuilder.Proofs.Placeholder.Scan
import SqlBuilder.Text.Case

/-!
# Rewriting that leaves placeholders and quotes alone

Stripping a text (`signs_stripChars`), taking it apart into words (`signs_words`), changing its case
(`signs_upper`, `signs_lower`) and writing it as a name (`signs_wrapText`) keep its placeholders and
quotes in their order. What is quiet stays so.
-/

set_option autoImplicit false

namespace SqlBuilder

open Placeholder

namespace Text

/-! ## White space -/

theorem isSign_of_isBlank {c : Char} (h : isBlank c = true) : isSign c = false := by
  cases hc : isSign c with
  | false => rfl
  | true =>
    simp only [isSign, Bool.or_eq_true, beq_iff_eq] at hc
    rcases hc with rfl | rfl <;> exact absurd h (by decide)

theorem signs_eq_nil_of_forall {cs : List Char} (h : ∀ c ∈ cs, isSign c = false) :
    signs cs = [] :=
  List.filter_eq_nil_iff.2 fun c hc => by simp [h c hc]

theorem signs_of_blank {cs : List Char} (h : ∀ c ∈ cs, isBlank c = true) : signs cs = [] :=
  signs_eq_nil_of_forall fun c hc => isSign_of_isBlank (h c hc)

theorem dropWhile_spec (p : Char → Bool) (cs : List Char) :
    ∃ lead, cs = lead ++ cs.dropWhile p ∧ (∀ c ∈ lead, p c = true) ∧
      ∀ c rest, cs.dropWhile p = c :: rest → p c = false := by
  refine ⟨cs.takeWhile p, List.takeWhile_append_dropWhile.symm, fun c hc => ?_, fun c rest h => ?_⟩
  · exact List.all_eq_true.1 (List.all_takeWhile) c hc
  · have hne : cs.dropWhile p ≠ [] := by simp [h]
    have := List.head_dropWhile_not p hne
    simpa [h] using this

/-- What is cut off at either end meets the test, and what is left neither begins nor ends with
something that does. -/
theorem trimBy_spec (p : Char → Bool) (cs : List Char) :
    ∃ lead trail, cs = lead ++ trimBy p cs ++ trail ∧ (∀ c ∈ lead, p c = true) ∧
      (∀ c ∈ trail, p c = true) ∧ (∀ c rest, trimBy p cs = c :: rest → p c = false) ∧
      ∀ c rest, trimBy p cs = rest ++ [c] → p c = false := by
  obtain ⟨lead, hlead, hp, hfirst⟩ := dropWhile_spec p cs
  obtain ⟨trail, htrail, hq, hlast⟩ := dropWhile_spec p (cs.dropWhile p).reverse
  have hmid : cs.dropWhile p = trimBy p cs ++ trail.reverse := by
    rw [trimBy, ← List.reverse_append, ← htrail, List.reverse_reverse]
  refine ⟨lead, trail.reverse, ?_, hp, fun c hc => hq c (List.mem_reverse.1 hc), ?_, ?_⟩
  · rw [List.append_assoc, ← hmid]
    exact hlead
  · intro c rest h
    exact hfirst c (rest ++ trail.reverse) (by rw [hmid, h]; rfl)
  · intro c rest h
    refine hlast c rest.reverse ?_
    rw [trimBy, List.reverse_eq_iff] at h
    simpa using h

theorem signs_stripChars (cs : List Char) : signs (stripChars cs) = signs cs := by
  obtain ⟨lead, trail, hcs, hlead, htrail, -⟩ := trimBy_spec isBlank cs
  calc signs (stripChars cs) = signs (lead ++ stripChars cs ++ trail) := by
        simp [signs_of_blank hlead, signs_of_blank htrail]
    _ = signs cs := by rw [stripChars, ← hcs]

theorem signs_strip (s : String) : signs (strip s).toList = signs s.toList := by
  rw [strip, String.toList_ofList, signs_stripChars]

/-! ## Words -/

theorem signs_wordsFrom (word cs : List Char) :
    signs (wordsFrom word cs).flatten = signs (word.reverse ++ cs) := by
  induction cs generalizing word with
  | nil => cases word <;> simp [wordsFrom]
  | cons c cs ih =>
    rw [wordsFrom]
    split
    · rename_i hblank
      have hc := isSign_of_isBlank hblank
      cases word with
      | nil => simpa [signs_cons_of_not hc] using ih []
      | cons d word =>
        have := ih []
        simp only [List.isEmpty_cons, Bool.false_eq_true, if_false, List.flatten_cons, signs_append,
          this, signs_cons_of_not hc, List.reverse_nil, List.nil_append]
    · simpa using ih (c :: word)

theorem signs_words (s : String) :
    signs ((words s).flatMap String.toList) = signs s.toList := by
  have h : (words s).flatMap String.toList = (wordsFrom [] s.toList).flatten := by
    simp [words, List.flatMap_map]
  rw [h, signs_wordsFrom]
  rfl

/-! ## Case -/

theorem isSign_ofNat {n : Nat} (h : 63 < n) : isSign (Char.ofNat n) = false := by
  cases hc : isSign (Char.ofNat n) with
  | false => rfl
  | true =>
    have hn : (Char.ofNat n).toNat = n ∨ (Char.ofNat n).toNat = 0 := by
      unfold Char.ofNat
      by_cases hvalid : n.isValidChar
      · rw [dif_pos hvalid]
        exact .inl rfl
      · rw [dif_neg hvalid]
        exact .inr rfl
    simp only [isSign, Bool.or_eq_true, beq_iff_eq] at hc
    rcases hc with hc | hc <;> rw [hc] at hn <;>
      rcases hn with hn | hn <;> simp at hn <;> omega

theorem isSign_of_not_ascii {c : Char} (h : ¬c.toNat < 128) : isSign c = false := by
  have := isSign_ofNat (n := c.toNat) (by omega)
  rwa [Char.ofNat_toNat] at this

/-- No run moves a character in front of the letters. -/
def staysAbove (runs : List CaseRun) : Bool :=
  runs.all fun (first, _, _, shift) => decide (63 < Int.ofNat first + shift)

theorem isSign_shiftCase {runs : List CaseRun} (hruns : staysAbove runs = true) {n : Nat}
    (hn : ¬n < 128) : isSign (Char.ofNat (shiftCase runs n)) = false := by
  apply isSign_ofNat
  unfold shiftCase
  split
  · rename_i first last step shift hfind
    have hmem := List.mem_of_find?_eq_some hfind
    have hle := List.find?_some hfind
    have habove := of_decide_eq_true (List.all_eq_true.1 hruns _ hmem)
    simp only [Bool.and_eq_true, decide_eq_true_eq] at hle
    have : first ≤ n := hle.1.1
    simp only [Int.ofNat_eq_natCast] at habove ⊢
    omega
  · omega

/-- Every character a letter expands to is beyond the signs. -/
def expandsAbove (expansions : List (Nat × List Nat)) : Bool :=
  expansions.all fun (_, ns) => ns.all (63 < ·)

theorem lookup_mem {α : Type} {entries : List (Nat × α)} {n : Nat} {x : α}
    (h : entries.lookup n = some x) : (n, x) ∈ entries := by
  induction entries with
  | nil => simp at h
  | cons entry entries ih =>
    obtain ⟨m, y⟩ := entry
    by_cases hm : n = m
    · subst hm
      simp at h
      simp [h]
    · have hm' : (n == m) = false := by simpa using hm
      rw [List.lookup_cons, hm'] at h
      exact List.mem_cons_of_mem _ (ih h)

theorem signs_expansion {expansions : List (Nat × List Nat)}
    (hall : expandsAbove expansions = true) {n : Nat} {ns : List Nat}
    (h : expansions.lookup n = some ns) : signs (ns.map Char.ofNat) = [] := by
  refine signs_eq_nil_of_forall fun c hc => ?_
  obtain ⟨m, hm, rfl⟩ := List.mem_map.1 hc
  have hns := List.all_eq_true.1 hall _ (lookup_mem h)
  exact isSign_ofNat (by simpa using List.all_eq_true.1 hns m hm)

theorem signs_upperChar (c : Char) : signs (upperChar c) = signs [c] := by
  unfold upperChar
  split
  · rename_i hc
    have hall : ∀ n < 128, signs [(Char.ofNat n).toUpper] = signs [Char.ofNat n] := by
      decide +kernel
    simpa using hall c.toNat hc
  · rename_i hc
    rw [signs_cons_of_not (isSign_of_not_ascii hc)]
    split
    · rename_i hns
      exact signs_expansion (by decide +kernel) hns
    · rw [signs_cons_of_not (isSign_shiftCase (by decide +kernel) hc)]

theorem signs_lowerChar (c : Char) : signs (lowerChar c) = signs [c] := by
  unfold lowerChar
  split
  · rename_i hc
    have hall : ∀ n < 128, signs [(Char.ofNat n).toLower] = signs [Char.ofNat n] := by
      decide +kernel
    simpa using hall c.toNat hc
  · rename_i hc
    rw [signs_cons_of_not (isSign_of_not_ascii hc)]
    split
    · rename_i hns
      exact signs_expansion (by decide +kernel) hns
    · rw [signs_cons_of_not (isSign_shiftCase (by decide +kernel) hc)]

theorem signs_upper (s : String) : signs (upper s).toList = signs s.toList := by
  rw [upper, String.toList_ofList]
  induction s.toList with
  | nil => rfl
  | cons c cs ih =>
    rw [List.flatMap_cons, signs_append, signs_upperChar, ih, ← signs_append]
    rfl

theorem signs_lowerFrom (before cs : List Char) : signs (lowerFrom before cs) = signs cs := by
  induction cs generalizing before with
  | nil => rfl
  | cons c cs ih =>
    have hsmall : ∀ small : List Char, signs small = signs [c] →
        signs (small ++ lowerFrom (c :: before) cs) = signs (c :: cs) := by
      intro small h
      rw [signs_append, h, ih, ← signs_append]
      rfl
    rw [lowerFrom]
    apply hsmall
    split
    · -- a capital sigma and its two small forms are no signs
      rename_i hsigma
      have hc : c = Char.ofNat 0x3A3 := by
        rw [← Char.ofNat_toNat c, beq_iff_eq.1 hsigma]
      subst hc
      split <;> decide
    · exact signs_lowerChar c

theorem signs_lower (s : String) : signs (lower s).toList = signs s.toList := by
  rw [lower, String.toList_ofList, signs_lowerFrom]

end Text

/-! ## Names -/

open Text

theorem partsFrom_dotted {cs front rest : List Char} (h : cut ['.'] cs = some (front, rest)) :
    partsFrom true cs = partsFrom false front ++ .dot :: partsFrom false rest := by
  rw [partsFrom, if_pos rfl]
  split
  · rename_i h'
    rw [h, Option.some.injEq, Prod.mk.injEq] at h'
    rw [h'.1, h'.2]
  · rename_i h'
    simp [h] at h'

theorem partsFrom_undotted {cs : List Char} (h : cut ['.'] cs = none) :
    partsFrom true cs = partsFrom false cs := by
  rw [partsFrom, if_pos rfl]
  split
  · rename_i h'
    simp [h] at h'
  · rfl

theorem partsFrom_as {cs front rest : List Char}
    (h : cut aliasSeparator cs = some (front, rest)) :
    partsFrom false cs = partsFrom true front ++ .as :: partsFrom true rest := by
  rw [partsFrom, if_neg Bool.false_ne_true]
  split
  · rename_i h'
    rw [h, Option.some.injEq, Prod.mk.injEq] at h'
    rw [h'.1, h'.2]
  · rename_i h'
    simp [h] at h'

theorem partsFrom_plain {cs : List Char} (h : cut aliasSeparator cs = none) :
    partsFrom false cs = [if stripChars cs = ['*'] then .star cs else .name cs] := by
  rw [partsFrom, if_neg Bool.false_ne_true]
  split
  · rename_i h'
    simp [h] at h'
  · rfl

theorem signs_doubled {quote : Char} (h : isSign quote = false) (cs : List Char) :
    signs (doubled quote cs) = signs cs := by
  induction cs with
  | nil => rfl
  | cons c cs ih =>
    rw [doubled_cons, signs_append, ih]
    by_cases hc : c = quote
    · subst hc
      simp [signs_cons_of_not h]
    · rw [if_neg hc, ← signs_append]
      rfl

theorem signs_quoteName (d : Dialect) (cs : List Char) : signs (d.quoteName cs) = signs cs := by
  have hquote : isSign d.identifierQuote = false := by cases d <;> rfl
  simp [Dialect.quoteName, signs_cons_of_not hquote, signs_doubled hquote]

namespace Adapter

variable (a : Adapter)

/-- A name has the signs of its parts, whichever way these are written. -/
theorem signs_writeParts (dotted : Bool) (cs : List Char) :
    signs ((partsFrom dotted cs).flatMap a.writePart) = signs cs := by
  induction dotted, cs using partsFrom.induct with
  | case1 cs front rest hcut ihf ihr =>
    have hdot : signs ['.'] = [] := by decide
    rw [partsFrom_dotted hcut, cut_eq_some hcut, List.flatMap_append, List.flatMap_cons]
    simp only [signs_append, ihf, ihr, writePart, hdot, List.nil_append, List.append_nil]
  | case2 cs hcut ih => rw [partsFrom_undotted hcut, ih]
  | case3 dotted cs hdotted front rest hcut ihf ihr =>
    have has : signs [' ', 'A', 'S', ' '] = [] := by decide
    have hsep : signs aliasSeparator = [] := by decide
    rw [eq_false_of_ne_true hdotted, partsFrom_as hcut, cut_eq_some hcut,
      List.flatMap_append, List.flatMap_cons]
    simp only [signs_append, ihf, ihr, writePart, has, hsep, List.nil_append, List.append_nil]
  | case4 dotted cs hdotted hcut =>
    rw [eq_false_of_ne_true hdotted, partsFrom_plain hcut, List.flatMap_singleton]
    split
    · rfl
    · rw [writePart]
      split
      · exact signs_quoteName _ _
      · rfl

theorem signs_wrapText (s : String) : signs (a.wrapText s).toList = signs s.toList := by
  rw [wrapText, String.toList_ofList, wrapChars, signs_writeParts]

theorem quiet_wrapText {s : String} (h : Quiet s) : Quiet (a.wrapText s) :=
  .of_signs (a.signs_wrapText s) h

end Adapter

end SqlBuilder
