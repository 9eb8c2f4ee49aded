import SqlBuilder.Fragment
import SqlBuilder.Proofs.Placeholder.Scan
import SqlBuilder.Proofs.Related.Outcome

/-!
# Relations between fragments

Two runs of the compiler are compared piece by piece. A relation between what they write is a
`Congruence` if it holds of a word without placeholders and quotes and goes through everything the
compiler does with fragments: putting one after another, and putting clauses together.

Each pair of fragments has a grade, a number that adds up (`Graded`): what the pieces lack, the
whole lacks. Most pieces have the grade `0`.

* `Steady`: a text that is related to itself, so it may be written in both runs.
* `Congruence.intercalate`: lists of related fragments with a steady text between them.
* `Joined`: pieces of a list of conditions, related when written one after another.
-/

set_option autoImplicit false

namespace SqlBuilder.Fragment

open Placeholder

/-- Lists of related fragments, by the sum of the grades. -/
inductive Graded (R : Nat → Fragment → Fragment → Prop) :
    Nat → List Fragment → List Fragment → Prop where
  | nil : Graded R 0 [] []
  | cons {n m : Nat} {f f' : Fragment} {fs fs' : List Fragment} (h : R n f f')
      (hs : Graded R m fs fs') : Graded R (n + m) (f :: fs) (f' :: fs')

/-- The relation goes through whatever the compiler does with fragments. -/
structure Congruence (R : Nat → Fragment → Fragment → Prop) : Prop where
  word {s : String} (h : signs s.toList = []) : R 0 (ofText s) (ofText s)
  append {n m : Nat} {f f' g g' : Fragment} (hf : R n f f') (hg : R m g g') :
    R (n + m) (f ++ g) (f' ++ g')
  concatenate {n : Nat} {fs fs' : List Fragment} (h : Graded R n fs fs') :
    R n (Fragment.concatenate fs) (Fragment.concatenate fs')
  empty_iff {f f' : Fragment} (h : R 0 f f') : f.sql = "" ↔ f'.sql = ""

/-- The text may be written in both runs. -/
def Steady (R : Nat → Fragment → Fragment → Prop) (s : String) : Prop :=
  R 0 (ofText s) (ofText s)

variable {R : Nat → Fragment → Fragment → Prop}

namespace Graded

theorem cons_zero {n : Nat} {f f' : Fragment} {fs fs' : List Fragment} (h : R 0 f f')
    (hs : Graded R n fs fs') : Graded R n (f :: fs) (f' :: fs') :=
  Nat.zero_add n ▸ .cons h hs

theorem cons_of_zero {n : Nat} {f f' : Fragment} {fs fs' : List Fragment} (h : R n f f')
    (hs : Graded R 0 fs fs') : Graded R n (f :: fs) (f' :: fs') := .cons h hs

/-- Pieces of the grade `0` make a list of that grade. -/
theorem of_forall₂ {fs fs' : List Fragment} (h : List.Forall₂ (R 0) fs fs') :
    Graded R 0 fs fs' := by
  induction h with
  | nil => exact .nil
  | cons h _ ih => exact .cons_zero h ih

theorem append {n m : Nat} {fs fs' gs gs' : List Fragment} (hf : Graded R n fs fs')
    (hg : Graded R m gs gs') : Graded R (n + m) (fs ++ gs) (fs' ++ gs') := by
  induction hf with
  | nil => rwa [Nat.zero_add]
  | cons h _ ih => exact Nat.add_assoc _ _ m ▸ .cons h ih

theorem isEmpty_eq {n : Nat} {fs fs' : List Fragment} (h : Graded R n fs fs') :
    fs.isEmpty = fs'.isEmpty := by
  cases h <;> rfl

end Graded

/-! ## Texts between fragments -/

@[simp] theorem ofText_append (s t : String) : ofText s ++ ofText t = ofText (s ++ t) := rfl

theorem append_assoc (f g k : Fragment) : f ++ g ++ k = f ++ (g ++ k) :=
  congrArg₂ Fragment.mk (String.append_assoc ..) (List.append_assoc ..)

theorem framed_eq (before after : String) (f : Fragment) :
    ofText before ++ f ++ ofText after = ⟨before ++ f.sql ++ after, f.bindings⟩ :=
  congrArg₂ Fragment.mk rfl (List.append_nil _)

@[simp] theorem intercalate_nil (s : String) : intercalate s [] = ofText "" := rfl

@[simp] theorem intercalate_singleton (s : String) (f : Fragment) : intercalate s [f] = f := by
  simp [intercalate]

theorem intercalate_cons (s : String) (f : Fragment) {fs : List Fragment} (h : fs ≠ []) :
    intercalate s (f :: fs) = f ++ (ofText s ++ intercalate s fs) := by
  refine congrArg₂ Fragment.mk ?_ rfl
  rw [List.map_cons, String.intercalate_cons_of_ne_nil (by simpa using h), String.append_assoc]
  rfl

theorem intercalate_append (s : String) {fs gs : List Fragment} (hf : fs ≠ []) (hg : gs ≠ []) :
    intercalate s (fs ++ gs) = intercalate s fs ++ (ofText s ++ intercalate s gs) := by
  refine congrArg₂ Fragment.mk ?_ (by simp)
  rw [List.map_append, String.intercalate_append_of_ne_nil (by simpa using hf) (by simpa using hg),
    String.append_assoc]
  rfl

namespace Congruence

variable (hR : Congruence R)
include hR

theorem append_zero {n : Nat} {f f' g g' : Fragment} (hf : R n f f') (hg : R 0 g g') :
    R n (f ++ g) (f' ++ g') := hR.append hf hg

theorem zero_append {n : Nat} {f f' g g' : Fragment} (hf : R 0 f f') (hg : R n g g') :
    R n (f ++ g) (f' ++ g') := Nat.zero_add n ▸ hR.append hf hg

/-- Without the grades the relation still goes through everything. -/
theorem ungraded : Congruence fun _ => R 0 where
  word := hR.word
  append hf hg := hR.append hf hg
  concatenate h := by
    refine hR.concatenate (.of_forall₂ ?_)
    induction h with
    | nil => exact .nil
    | cons h _ ih => exact .cons h ih
  empty_iff := hR.empty_iff

theorem empty : R 0 Fragment.empty Fragment.empty := hR.word rfl

theorem steady_append {s t : String} (hs : Steady R s) (ht : Steady R t) : Steady R (s ++ t) :=
  hR.append_zero hs ht

theorem intercalate {s : String} (hs : Steady R s) {n : Nat} {fs fs' : List Fragment}
    (h : Graded R n fs fs') : R n (Fragment.intercalate s fs) (Fragment.intercalate s fs') := by
  induction h with
  | nil => exact hR.word rfl
  | @cons n m f f' fs fs' hf hfs ih =>
    cases hfs with
    | nil => simpa using hf
    | cons hg hgs =>
      rw [intercalate_cons s f (by simp), intercalate_cons s f' (by simp)]
      exact hR.append hf (hR.zero_append hs ih)

theorem parenthesized {n : Nat} {f f' : Fragment} (h : R n f f') :
    R n f.parenthesized f'.parenthesized :=
  hR.append_zero (hR.zero_append (hR.word rfl) h) (hR.word rfl)

end Congruence

/-! ## Pieces -/

/-- The pieces are related when written one after another, and neither list is empty without the
other. -/
structure Joined (R : Nat → Fragment → Fragment → Prop) (fs fs' : List Fragment) : Prop where
  nil_iff : fs = [] ↔ fs' = []
  related : R 0 (intercalate " " fs) (intercalate " " fs')

namespace Joined

theorem nil (hR : Congruence R) : Joined R [] [] := ⟨.rfl, hR.word rfl⟩

theorem single {f f' : Fragment} (h : R 0 f f') : Joined R [f] [f'] :=
  ⟨by simp, by simpa using h⟩

/-- Lists under two relations are joined under a third if it holds of what the others hold of, by
themselves and with a space between them. -/
theorem glue {S T : Nat → Fragment → Fragment → Prop}
    (hleft : S 0 (ofText "") (ofText "") → ∀ f f', R 0 f f' → T 0 f f')
    (hright : R 0 (ofText "") (ofText "") → ∀ g g', S 0 g g' → T 0 g g')
    (hboth : ∀ f f' g g', R 0 f f' → S 0 g g' →
      T 0 (f ++ (ofText " " ++ g)) (f' ++ (ofText " " ++ g')))
    {fs fs' gs gs' : List Fragment} (hf : Joined R fs fs') (hg : Joined S gs gs') :
    Joined T (fs ++ gs) (fs' ++ gs') := by
  by_cases hnil : fs = []
  · obtain rfl := hf.nil_iff.1 hnil
    obtain rfl := hnil
    exact ⟨hg.nil_iff, hright hf.related _ _ hg.related⟩
  by_cases hnil' : gs = []
  · obtain rfl := hg.nil_iff.1 hnil'
    obtain rfl := hnil'
    rw [List.append_nil, List.append_nil]
    exact ⟨hf.nil_iff, hleft hg.related _ _ hf.related⟩
  have hf' : fs' ≠ [] := mt hf.nil_iff.2 hnil
  have hg' : gs' ≠ [] := mt hg.nil_iff.2 hnil'
  refine ⟨by simp [hnil, hf'], ?_⟩
  rw [intercalate_append " " hnil hnil', intercalate_append " " hf' hg']
  exact hboth _ _ _ _ hf.related hg.related

theorem append (hR : Congruence R) {fs fs' gs gs' : List Fragment} (hf : Joined R fs fs')
    (hg : Joined R gs gs') : Joined R (fs ++ gs) (fs' ++ gs') :=
  glue (fun _ _ _ h => h) (fun _ _ _ h => h)
    (fun _ _ _ _ hf hg => hR.append_zero hf (hR.append_zero (hR.word (by decide)) hg)) hf hg

end Joined

end SqlBuilder.Fragment
