import SqlBuilder.CompiledQuery.Interpolation
import SqlBuilder.Proofs.Aligned.Sound

/-!
# Literals may stand anywhere

A literal of a value that can be bound closes its quotes, has no placeholder outside them, and
neither begins nor ends with white space (`fills_literalOf`). Numbers are written without quotes and
placeholders at all (`Bare`), with the characters of a numeral (`IsNumeral`); in a text the quotes
are doubled (`quiet_quoteText`).
-/

set_option autoImplicit false

namespace SqlBuilder

open Placeholder

/-! ## Bare texts -/

/-- A text without placeholders, quotes and white space. -/
def Bare (cs : List Char) : Prop := cs ≠ [] ∧ ∀ c ∈ cs, isSign c = false ∧ Text.isBlank c = false

namespace Bare

theorem quiet {s : String} (h : Bare s.toList) : Quiet s :=
  .of_signs_nil (Text.signs_eq_nil_of_forall fun c hc => (h.2 c hc).1)

theorem solid {cs : List Char} (h : Bare cs) : Solid cs := by
  refine ⟨h.1, fun c rest hcs => ?_, fun c rest hcs => ?_⟩
  · exact (h.2 c (hcs ▸ List.mem_cons_self)).2
  · exact (h.2 c (hcs ▸ List.mem_append_right _ List.mem_cons_self)).2

end Bare

/-- The characters of a numeral: letters, digits, signs and points. -/
def isNumeralChar (c : Char) : Bool := c.isAlphanum || c == '+' || c == '-' || c == '.'

theorem bare_of_isNumeralChar {c : Char} (h : isNumeralChar c = true) :
    isSign c = false ∧ Text.isBlank c = false := by
  have hall : ∀ n < 128, isNumeralChar (Char.ofNat n) = true →
      isSign (Char.ofNat n) = false ∧ Text.isBlank (Char.ofNat n) = false := by
    decide +kernel
  have hascii : c.toNat < 128 := by
    delta isNumeralChar Char.isAlphanum Char.isAlpha Char.isUpper Char.isLower Char.isDigit at h
    simp only [Bool.or_eq_true, Bool.and_eq_true, decide_eq_true_eq, beq_iff_eq,
      UInt32.le_iff_toNat_le] at h
    have hval : c.toNat = c.val.toNat := rfl
    rcases h with ((h | rfl) | rfl) | rfl
    · rcases h with (h | h) | h <;> simp at h <;> omega
    all_goals decide
  have := hall c.toNat hascii
  rw [Char.ofNat_toNat] at this
  exact this h

/-- The characters of a numeral, one at least. -/
def IsNumeral (cs : List Char) : Prop := cs ≠ [] ∧ ∀ c ∈ cs, isNumeralChar c = true

namespace IsNumeral

theorem bare {cs : List Char} (h : IsNumeral cs) : Bare cs :=
  ⟨h.1, fun c hc => bare_of_isNumeralChar (h.2 c hc)⟩

theorem of_all (cs : List Char) (hne : cs ≠ []) (h : cs.all isNumeralChar = true) : IsNumeral cs :=
  ⟨hne, List.all_eq_true.1 h⟩

theorem cons {c : Char} {cs : List Char} (hc : isNumeralChar c = true)
    (h : ∀ d ∈ cs, isNumeralChar d = true) : IsNumeral (c :: cs) :=
  ⟨by simp, List.forall_mem_cons.2 ⟨hc, h⟩⟩

end IsNumeral

theorem isNumeralChar_of_mem_toDigits {n : Nat} {c : Char} (h : c ∈ Nat.toDigits 10 n) :
    isNumeralChar c = true := by
  have := Nat.isDigit_of_mem_toDigits (by decide) (by decide) h
  simp [isNumeralChar, Char.isAlphanum, this]

theorem isNumeralChar_of_mem_zeros {n : Nat} {c : Char} (h : c ∈ List.replicate n '0') :
    isNumeralChar c = true :=
  List.eq_of_mem_replicate h ▸ by decide

namespace Value

theorem isNumeral_repr (n : Nat) : IsNumeral n.repr.toList := by
  rw [Nat.toList_repr]
  exact ⟨Nat.toDigits_ne_nil, fun c hc => isNumeralChar_of_mem_toDigits hc⟩

theorem isNumeral_intText (n : Int) : IsNumeral (intText n).toList := by
  unfold intText
  split
  · rw [String.toList_append]
    exact .cons (c := '-') (by decide) (isNumeral_repr _).2
  · exact isNumeral_repr _

theorem isNumeral_fixed (places : Nat) (x : Number.Double) : IsNumeral (x.fixed places).toList := by
  have hplaced : ∀ units : Nat, IsNumeral (Number.Double.placed places units) := by
    intro units
    have hdigit : ∀ c ∈ List.replicate (places + 1 - (Nat.toDigits 10 units).length) '0' ++
        Nat.toDigits 10 units, isNumeralChar c = true := by
      intro c hc
      rcases List.mem_append.1 hc with hc | hc
      · exact isNumeralChar_of_mem_zeros hc
      · exact isNumeralChar_of_mem_toDigits hc
    refine ⟨by simp [Number.Double.placed], fun c hc => ?_⟩
    unfold Number.Double.placed at hc
    rcases List.mem_append.1 hc with hc | hc
    · exact hdigit c (List.mem_of_mem_take hc)
    · rcases List.mem_cons.1 hc with rfl | hc
      · decide
      · exact hdigit c (List.mem_of_mem_drop hc)
  unfold Number.Double.fixed
  split
  · exact .of_all _ (by decide) (by decide +kernel)
  · split <;> exact .of_all _ (by decide) (by decide +kernel)
  · rw [String.toList_ofList]
    split
    · exact .cons (by decide) (hplaced _).2
    · exact hplaced _

end Value

namespace Number.Double

theorem isNumeralChar_of_mem_shortest {m : Nat} {e : Int} {c : Char}
    (h : c ∈ (shortest m e).1) : isNumeralChar c = true := by
  unfold shortest at h
  dsimp only at h
  rw [List.mem_reverse] at h
  exact isNumeralChar_of_mem_toDigits (List.mem_reverse.1 ((List.dropWhile_sublist _).mem h))

section Digits

variable {ds : List Char} (h : ∀ c ∈ ds, isNumeralChar c = true)

include h

theorem isNumeral_positional (point : Int) : IsNumeral (positional ds point) := by
  unfold positional
  split
  · split
    · exact .cons (by decide) (IsNumeral.cons (by decide) h).2
    · refine ⟨by simp, List.forall_mem_append.2 ⟨List.forall_mem_append.2 ⟨?_, ?_⟩,
        (IsNumeral.cons (by decide) ?_).2⟩⟩
      · exact fun c hc => h c (List.mem_of_mem_take hc)
      · exact fun c hc => isNumeralChar_of_mem_zeros hc
      · split
        · exact fun c hc => isNumeralChar_of_mem_zeros (n := 1) hc
        · exact fun c hc => h c (List.mem_of_mem_drop hc)
  · refine .cons (by decide) (IsNumeral.cons (by decide) ?_).2
    exact List.forall_mem_append.2 ⟨fun c hc => isNumeralChar_of_mem_zeros hc, h⟩

theorem isNumeral_scientific (l : Layout) (point : Int) : IsNumeral (scientific l ds point) := by
  have hexponent : ∀ c ∈ padZeros l.exponentWidth (Nat.toDigits 10 (point - 1).natAbs),
      isNumeralChar c = true :=
    List.forall_mem_append.2 ⟨fun c hc => isNumeralChar_of_mem_zeros hc,
      fun c hc => isNumeralChar_of_mem_toDigits hc⟩
  unfold scientific
  refine ⟨by simp, List.forall_mem_append.2 ⟨?_, (IsNumeral.cons (by decide)
    (IsNumeral.cons ?_ hexponent).2).2⟩⟩
  · split
    · exact h
    · rename_i d more _
      obtain ⟨hd, hmore⟩ := List.forall_mem_cons.1 h
      exact (IsNumeral.cons hd (IsNumeral.cons (by decide) hmore).2).2
    · exact (IsNumeral.of_all ['0'] (by decide) (by decide)).2
  · split <;> decide

end Digits

theorem isNumeral_text (x : Double) : IsNumeral x.text.toList := by
  unfold text
  split
  · exact .of_all _ (by decide) (by decide +kernel)
  · split <;> exact .of_all _ (by decide) (by decide +kernel)
  · rename_i negative m e
    let digits := (shortest m e).1
    let point := (shortest m e).2
    have hbody : IsNumeral (if m = 0 then "0.0".toList else
        if layout.leastPositional ≤ point - 1 && point - 1 < layout.positionalLimit then
          positional digits point
        else scientific layout digits point) := by
      split
      · exact .of_all _ (by decide) (by decide)
      · split
        · exact isNumeral_positional (fun c hc => isNumeralChar_of_mem_shortest hc) _
        · exact isNumeral_scientific (fun c hc => isNumeralChar_of_mem_shortest hc) _ _
    rw [String.toList_ofList]
    split
    · exact .cons (by decide) hbody.2
    · exact hbody

end Number.Double

/-! ## Quoted texts -/

/-- Inside quotes nothing is a placeholder, and doubled quotes do not end the text. -/
theorem holes_doubled (cs : List Char) :
    quotedAfter true (Text.doubled '\'' cs) = true ∧ holes true (Text.doubled '\'' cs) = 0 := by
  induction cs with
  | nil => exact ⟨rfl, rfl⟩
  | cons c cs ih =>
    have hstep : Text.doubled '\'' (c :: cs) =
        (if c = '\'' then [c, c] else [c]) ++ Text.doubled '\'' cs := rfl
    rw [hstep, quotedAfter_append, holes_append]
    by_cases hc : c = '\''
    · subst hc
      simpa [holes, toggled] using ih
    · have htoggled : toggled true c = true := by simp [toggled, hc]
      simpa [hc, holes, htoggled] using ih

theorem quiet_between {s : String} {cs : List Char} (hs : s.toList = '\'' :: cs ++ ['\''])
    (h : quotedAfter true cs = true ∧ holes true cs = 0) : Quiet s := by
  rw [quiet_iff, hs]
  simp [holes, toggled, h]

theorem solid_between (cs : List Char) : Solid ('\'' :: cs ++ ['\'']) := by
  refine ⟨by simp, fun c rest h => ?_, fun c rest h => ?_⟩
  · rw [List.cons_append, List.cons.injEq] at h
    exact h.1 ▸ by decide
  · rw [List.append_singleton_inj] at h
    exact h.2 ▸ by decide

theorem quiet_quoteText (s : String) : Quiet (quoteText s) ∧ Solid (quoteText s).toList := by
  have hlist : (quoteText s).toList = '\'' :: Text.doubled '\'' s.toList ++ ['\''] := by
    rw [quoteText, String.toList_ofList]
  exact ⟨quiet_between hlist (holes_doubled _), hlist ▸ solid_between _⟩

theorem Dialect.quiet_quoteText (d : Dialect) (s : String) :
    Quiet (d.quoteText s) ∧ Solid (d.quoteText s).toList := by
  cases d with
  | mysql =>
    have hlist : (Dialect.mysql.quoteText s).toList =
        '\'' :: Text.doubled '\\' (Text.doubled '\'' s.toList) ++ ['\''] := by
      rw [quoteText, String.toList_ofList]
    refine ⟨quiet_between hlist ?_, hlist ▸ solid_between _⟩
    -- a doubled backslash is neither a placeholder nor a quote
    rw [← quotedAfter_signs, ← holes_signs, signs_doubled (by decide), quotedAfter_signs,
      holes_signs]
    exact holes_doubled _
  | sqlite | postgres => exact SqlBuilder.quiet_quoteText s

/-! ## Literals -/

namespace Value

/-- What a client library knows once it is normalised. A decimal is written as a numeral. -/
structure Bindable (v : Value) : Prop where
  kind : v.normalize.isBasic = true
  numeral : ∀ numeral identity, v.normalize = .decimal numeral identity →
    numeral ≠ "" ∧ ∀ c ∈ numeral.toList, isNumeralChar c = true

theorem normalize_of_isBasic {v : Value} (h : v.isBasic = true) : v.normalize = v := by
  cases v <;> first | rfl | simp [isBasic] at h

theorem Bindable.normalize {v : Value} (h : v.Bindable) : v.normalize.Bindable := by
  have hidem : v.normalize.normalize = v.normalize := normalize_of_isBasic h.kind
  exact ⟨hidem.symm ▸ h.kind, hidem.symm ▸ h.numeral⟩

theorem bindable_int (n : Int) : (Value.int n).Bindable := ⟨rfl, fun _ _ h => nomatch h⟩

theorem bindable_text (s : String) : (Value.text s).Bindable := ⟨rfl, fun _ _ h => nomatch h⟩

/-- A literal is a numeral, or a text in quotes. -/
theorem literal_shape (d : Dialect) {v : Value} (h : v.Bindable) :
    IsNumeral (d.literal v).toList ∨ ∃ s, d.literal v = d.quoteText s := by
  unfold Dialect.literal
  obtain ⟨hkind, hnumeral⟩ := h
  generalize v.normalize = w at hkind hnumeral
  cases w with
  | null => exact .inl (.of_all "NULL".toList (by decide) (by decide +kernel))
  | bool b =>
    cases b with
    | true => exact .inl (.of_all "1".toList (by decide) (by decide +kernel))
    | false => exact .inl (.of_all "0".toList (by decide) (by decide +kernel))
  | int n => exact .inl (isNumeral_intText n)
  | float x identity => exact .inl (isNumeral_fixed _ x)
  | decimal numeral identity =>
    obtain ⟨hne, hall⟩ := hnumeral numeral identity rfl
    have hwritten : IsNumeral numeral.toList := ⟨by simpa using hne, hall⟩
    exact .inl hwritten
  | text s => exact .inr ⟨s, rfl⟩
  | bytes octets => exact .inr ⟨_, rfl⟩
  | moment kind s => exact .inr ⟨_, rfl⟩
  | _ => cases hkind

theorem quiet_literal (d : Dialect) {v : Value} (h : v.Bindable) :
    Quiet (d.literal v) ∧ Solid (d.literal v).toList := by
  rcases literal_shape d h with hnumeral | ⟨s, hs⟩
  · exact ⟨hnumeral.bare.quiet, hnumeral.bare.solid⟩
  · exact hs ▸ d.quiet_quoteText s

/-- A value that is bound, by itself or with a raw fragment: no fragment, and bindable. -/
def Bound (v : Value) : Prop := v.isRaw = false ∧ v.Bindable

theorem Bindable.bound {v : Value} (h : v.Bindable) : v.normalize.Bound := by
  refine ⟨?_, h.normalize⟩
  have hkind := h.kind
  cases hv : v.normalize <;> first | rfl | simp [hv, isBasic] at hkind

end Value

namespace CompiledQuery

open Value

theorem literalOf_eq {a : Adapter} {v : Value} (hraw : v.isRaw = false)
    (hkind : v.normalize.isBasic = true) : literalOf (some a) v = a.dialect.literal v := by
  cases v <;> first
    | rfl
    | simp [Value.normalize, isBasic] at hkind; done
    | cases hraw

/-- Interpolation writes the literal of the value that was given. -/
theorem literalOf_normalize {a : Adapter} {v : Value} (h : v.Bindable) :
    literalOf (some a) v.normalize = a.dialect.literal v := by
  rw [literalOf_eq h.bound.1 h.bound.2.kind, Dialect.literal, Dialect.literal,
    normalize_of_isBasic h.kind]

theorem fills_literalOf (a : Adapter) : Fragment.Fills Bound (literalOf (some a)) := by
  intro v h
  rw [literalOf_eq h.1 h.2.kind]
  exact quiet_literal _ h.2

end CompiledQuery

end SqlBuilder
