import SqlBuilder.Proofs.Related.Fragment
import SqlBuilder.Text.Case

/-!
# Operators in capitals

What is written is an `Outline` that is filled: a list of pieces of which some are operators. A
fragment is `Recased` to another if both fill one outline, the other with its operators in capitals.

Fragments that differ otherwise are told apart by their opening parentheses, since capitals make
none. `Raised k` says both: the first fragment has `k` opening parentheses more than the second, and
it is recased to it if `k` is none (`Raised.recased_iff`). It goes through whatever is put together
(`Raised.append`, `Raised.joined`).
-/

set_option autoImplicit false

namespace SqlBuilder

namespace Text

/-- The ASCII letters of a text in capitals. -/
def upperAscii (s : String) : String := String.ofList (s.toList.map Char.toUpper)

theorem toUpper_of_not_ascii {c : Char} (h : ¬c.toNat < 128) : c.toUpper = c :=
  dif_neg fun hsmall => by
    have hlast : c.toNat ≤ 122 := hsmall.2
    omega

/-- What a character is in capitals does not change if its ASCII capital is taken first. -/
theorem upperChar_toUpper (c : Char) : upperChar c.toUpper = upperChar c := by
  by_cases hc : c.toNat < 128
  · have hall : ∀ n < 128, upperChar (Char.ofNat n).toUpper = upperChar (Char.ofNat n) := by
      decide +kernel
    simpa using hall c.toNat hc
  · rw [toUpper_of_not_ascii hc]

theorem upper_upperAscii (s : String) : upper (upperAscii s) = upper s := by
  rw [upper, upperAscii, String.toList_ofList, List.flatMap_map]
  exact congrArg (fun f => String.ofList (s.toList.flatMap f)) (funext upperChar_toUpper)

/-- Of an ASCII text these are all the letters. -/
theorem upper_eq_upperAscii {s : String} (h : ∀ c ∈ s.toList, c.toNat < 128) :
    upper s = upperAscii s := by
  rw [upper, upperAscii, List.map_eq_flatMap]
  exact congrArg String.ofList (List.flatMap_congr fun c hc => if_pos (h c hc))

theorem count_upperAscii (s : String) :
    (upperAscii s).toList.count '(' = s.toList.count '(' := by
  have hchar : ∀ c : Char, (c.toUpper == '(') = (c == '(') := fun c => by
    by_cases hc : c.toNat < 128
    · have hall : ∀ n < 128, ((Char.ofNat n).toUpper == '(') = (Char.ofNat n == '(') := by decide
      simpa using hall c.toNat hc
    · rw [toUpper_of_not_ascii hc]
  rw [upperAscii, String.toList_ofList, List.count, List.countP_map]
  exact List.countP_congr fun c _ => by rw [Function.comp_apply, hchar]

end Text

/-- An operator in capitals, if it is a text. -/
def Value.raised : Value → Value
  | .text s => .text (Text.upperAscii s)
  | v => v

/-! ## Outlines -/

/-- A part of what is written: a fragment, or an operator by itself. -/
inductive Span where
  | fragment (f : Fragment)
  | operator (v : Value)
  deriving Repr

namespace Span

/-- The part with its operator changed. -/
def write (change : Value → Value) : Span → Fragment
  | fragment f => f
  | operator v => .ofText (change v).toText

/-- The operator, of a part that is one. -/
def operator? : Span → Option Value
  | fragment _ => none
  | operator v => some v

end Span

/-- What is written, with the places of its operators. -/
abbrev Outline := List Span

namespace Outline

open Fragment

/-- The operators, in order. -/
def operators (o : Outline) : List Value := o.filterMap Span.operator?

/-- What is written with the operators changed. -/
def fill (change : Value → Value) : Outline → Fragment
  | [] => .empty
  | s :: o => s.write change ++ fill change o

theorem operators_append (o o' : Outline) : operators (o ++ o') = o.operators ++ o'.operators :=
  List.filterMap_append

theorem fill_append (change : Value → Value) (o o' : Outline) :
    fill change (o ++ o') = fill change o ++ fill change o' := by
  induction o with
  | nil =>
    rw [List.nil_append]
    exact congrArg₂ Fragment.mk (String.empty_append).symm rfl
  | cons s o ih => rw [List.cons_append, fill, fill, ih, append_assoc]

end Outline

namespace Fragment

/-! ## Opening parentheses -/

/-- The number of opening parentheses. -/
def opens (f : Fragment) : Nat := f.sql.toList.count '('

theorem opens_append (f g : Fragment) : (f ++ g).opens = f.opens + g.opens := by
  rw [opens, sql_append, String.toList_append, List.count_append]
  rfl

theorem opens_raised (v : Value) : (ofText v.raised.toText).opens = (ofText v.toText).opens := by
  cases v with
  | text s => exact Text.count_upperAscii s
  | _ => rfl

/-- Operators in capitals have no other parentheses. -/
theorem opens_fill (o : Outline) : (o.fill Value.raised).opens = (o.fill id).opens := by
  induction o with
  | nil => rfl
  | cons s o ih =>
    rw [Outline.fill, Outline.fill, opens_append, opens_append, ih]
    cases s with
    | fragment f => rfl
    | operator v => exact congrArg (· + _) (opens_raised v)

/-! ## Operators raised -/

/-- The second fragment is the first one with operators in capitals, which are some of the given
ones in order. -/
def Recased (operators : List Value) (f g : Fragment) : Prop :=
  ∃ o : Outline, o.operators.Sublist operators ∧ o.fill id = f ∧ o.fill Value.raised = g

/-- The first fragment has `k` opening parentheses more. If it has none more, the second one is the
first one with operators in capitals. -/
structure Raised (operators : List Value) (k : Nat) (f g : Fragment) : Prop where
  opens_eq : f.opens = g.opens + k
  recased : k = 0 → Recased operators f g

namespace Raised

variable {operators operators' : List Value} {k m : Nat} {f f' g g' : Fragment}

theorem recased_iff (h : Raised operators k f g) : Recased operators f g ↔ k = 0 := by
  refine ⟨?_, h.recased⟩
  rintro ⟨o, -, rfl, rfl⟩
  have hopens := h.opens_eq
  rw [opens_fill] at hopens
  omega

theorem refl (operators : List Value) (f : Fragment) : Raised operators 0 f f where
  opens_eq := rfl
  recased _ := by
    have hfill : ∀ change, Outline.fill change [.fragment f] = f := fun _ =>
      congrArg₂ Fragment.mk String.append_empty (List.append_nil _)
    exact ⟨[.fragment f], List.nil_sublist _, hfill id, hfill Value.raised⟩

theorem operator (v : Value) : Raised [v] 0 (ofText v.toText) (ofText v.raised.toText) where
  opens_eq := (opens_raised v).symm
  recased _ := by
    have hfill : ∀ change, Outline.fill change [.operator v] = ofText (change v).toText := fun _ =>
      congrArg₂ Fragment.mk String.append_empty rfl
    exact ⟨[.operator v], .refl _, hfill id, hfill Value.raised⟩

theorem mono (h : Raised operators k f g) (hsub : operators.Sublist operators') :
    Raised operators' k f g where
  opens_eq := h.opens_eq
  recased hk := by
    obtain ⟨o, ho, hf, hg⟩ := h.recased hk
    exact ⟨o, ho.trans hsub, hf, hg⟩

theorem append (hf : Raised operators k f f') (hg : Raised operators' m g g') :
    Raised (operators ++ operators') (k + m) (f ++ g) (f' ++ g') where
  opens_eq := by
    rw [opens_append, opens_append, hf.opens_eq, hg.opens_eq]
    omega
  recased hzero := by
    obtain ⟨hk, hm⟩ := Nat.add_eq_zero_iff.1 hzero
    obtain ⟨o, ho, rfl, rfl⟩ := hf.recased hk
    obtain ⟨o', ho', rfl, rfl⟩ := hg.recased hm
    refine ⟨o ++ o', ?_, Outline.fill_append .., Outline.fill_append ..⟩
    rw [Outline.operators_append]
    exact ho.append ho'

theorem enclosed (before after : Fragment) (h : Raised operators k f g) :
    Raised operators k (before ++ f ++ after) (before ++ g ++ after) := by
  have hwhole := ((refl [] before).append h).append (refl [] after)
  rwa [List.nil_append, List.append_nil, Nat.zero_add] at hwhole

/-- Pieces of lists of conditions, one list after another. -/
theorem joined {fs fs' gs gs' : List Fragment}
    (hf : Joined (fun _ => Raised operators k) fs fs')
    (hg : Joined (fun _ => Raised operators' m) gs gs') :
    Joined (fun _ => Raised (operators ++ operators') (k + m)) (fs ++ gs) (fs' ++ gs') := by
  have hnone : ∀ {os n}, Raised os n (ofText "") (ofText "") → n = 0 := fun h => by
    simpa using h.opens_eq
  refine Joined.glue (fun hempty f f' h => ?_) (fun hempty g g' h => ?_)
    (fun f f' g g' hf hg => ?_) hf hg
  · obtain rfl := hnone hempty
    exact h.mono (List.sublist_append_left ..)
  · obtain rfl := hnone hempty
    rw [Nat.zero_add]
    exact h.mono (List.sublist_append_right ..)
  · have hright := (refl [] (ofText " ")).append hg
    rw [List.nil_append, Nat.zero_add] at hright
    exact hf.append hright

end Raised

end Fragment

end SqlBuilder
