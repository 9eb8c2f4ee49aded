import Mathlib.Algebra.GroupWithZero.Nat
import SqlBuilder.Proofs.Related.Fragment
import SqlBuilder.Proofs.Text.Signs

/-!
# Visible characters

`ink` counts the characters that are not white space. Putting fragments together, with single spaces
between them or as clauses, keeps all of them (`ink_intercalate`, `ink_concatenate`).

* `Exceeds k fs gs`: both lists bind the same, and the first has at least `k` visible characters
  more. Lists of which this holds are written differently unless `k` is `0` (`Exceeds.sql_ne`).
* `Discerns p fs gs`: the lists are the same if and only if `p` holds, and else told apart in this
  way.
-/

set_option autoImplicit false

namespace SqlBuilder

namespace Text

/-- How many characters are not white space. -/
def ink (cs : List Char) : Nat := cs.countP (!isBlank ·)

@[simp] theorem ink_nil : ink [] = 0 := rfl

@[simp] theorem ink_append (cs ds : List Char) : ink (cs ++ ds) = ink cs + ink ds :=
  List.countP_append

theorem ink_of_blank {cs : List Char} (h : ∀ c ∈ cs, isBlank c = true) : ink cs = 0 := by
  rw [ink, List.countP_eq_zero]
  intro c hc
  simp [h c hc]

theorem ink_stripChars (cs : List Char) : ink (stripChars cs) = ink cs := by
  obtain ⟨lead, trail, hcs, hlead, htrail, -⟩ := trimBy_spec isBlank cs
  have hcount := congrArg ink hcs
  rw [ink_append, ink_append, ink_of_blank hlead, ink_of_blank htrail] at hcount
  rw [hcount, stripChars]
  omega

/-- A blank text between other texts does not count. -/
theorem ink_textIntercalate {s : String} (hs : ink s.toList = 0) (ts : List String) :
    ink (s.intercalate ts).toList = (ts.map fun t => ink t.toList).sum := by
  induction ts with
  | nil => rfl
  | cons t ts ih =>
    by_cases hnil : ts = []
    · simp [hnil]
    · rw [String.intercalate_cons_of_ne_nil hnil, String.toList_append, String.toList_append,
        ink_append, ink_append, hs, ih, List.map_cons, List.sum_cons, Nat.add_zero]

theorem ink_wordsFrom (word cs : List Char) :
    ink (wordsFrom word cs).flatten = ink (word.reverse ++ cs) := by
  induction cs generalizing word with
  | nil => cases word <;> simp [wordsFrom]
  | cons c cs ih =>
    rw [wordsFrom]
    split
    · rename_i hblank
      have hc : ink (c :: cs) = ink cs := by simp [ink, hblank]
      have hrest := ih []
      rw [ink_append, hc]
      cases word with
      | nil => simpa using hrest
      | cons d word =>
        simp only [List.isEmpty_cons, Bool.false_eq_true, if_false, List.flatten_cons, ink_append]
        rw [hrest, List.reverse_nil, List.nil_append]
    · simpa using ih (c :: word)

/-- The words of a text have all its visible characters. -/
theorem ink_words (s : String) :
    ((words s).map fun w => ink w.toList).sum = ink s.toList := by
  have hflatten (ws : List (List Char)) : (ws.map ink).sum = ink ws.flatten := by
    induction ws with
    | nil => rfl
    | cons w ws ih => rw [List.map_cons, List.sum_cons, ih, List.flatten_cons, ink_append]
  have hwords : ((words s).map fun w => ink w.toList) = (wordsFrom [] s.toList).map ink := by
    simp [words]
  rw [hwords, hflatten, ink_wordsFrom]
  rfl

end Text

namespace Fragment

open Text

/-- The visible characters of a fragment. -/
def ink (f : Fragment) : Nat := Text.ink f.sql.toList

/-- The visible characters of fragments. -/
def inkAll (fs : List Fragment) : Nat := (fs.map ink).sum

@[simp] theorem inkAll_nil : inkAll [] = 0 := rfl

@[simp] theorem inkAll_cons (f : Fragment) (fs : List Fragment) :
    inkAll (f :: fs) = f.ink + inkAll fs := List.sum_cons

@[simp] theorem inkAll_append (fs gs : List Fragment) :
    inkAll (fs ++ gs) = inkAll fs + inkAll gs := by
  simp [inkAll]

@[simp] theorem ink_append (f g : Fragment) : (f ++ g).ink = f.ink + g.ink := by
  simp [ink]

theorem ink_intercalate (fs : List Fragment) : (intercalate " " fs).ink = inkAll fs := by
  show Text.ink (" ".intercalate (fs.map sql)).toList = _
  rw [ink_textIntercalate (by decide), List.map_map]
  rfl

theorem ink_concatenate (fs : List Fragment) : (concatenate fs).ink = inkAll fs := by
  show Text.ink (" ".intercalate ((fs.map fun f => strip f.sql).filter (· != ""))).toList = _
  rw [ink_textIntercalate (by decide)]
  induction fs with
  | nil => rfl
  | cons f fs ih =>
    have hstrip : Text.ink (strip f.sql).toList = f.ink := by
      rw [strip, String.toList_ofList, ink_stripChars]
      rfl
    rw [inkAll_cons, ← ih, ← hstrip, List.map_cons, List.filter_cons]
    split
    · rw [List.map_cons, List.sum_cons]
    · rename_i hblank
      have hempty : strip f.sql = "" := by simpa using hblank
      rw [hempty]
      exact (Nat.zero_add _).symm

/-! ## Lists with more in them -/

/-- The first fragments bind what the second ones do, and have at least `k` visible characters more.
-/
structure Exceeds (k : Nat) (fs gs : List Fragment) : Prop where
  bindings : fs.flatMap Fragment.bindings = gs.flatMap Fragment.bindings
  ink : inkAll gs + k ≤ inkAll fs

namespace Exceeds

variable {k m : Nat} {fs gs fs' gs' : List Fragment} {f g : Fragment}

theorem refl (fs : List Fragment) : Exceeds 0 fs fs := ⟨rfl, Nat.le_refl _⟩

theorem mono (h : Exceeds k fs gs) (hm : m ≤ k) : Exceeds m fs gs where
  bindings := h.bindings
  ink := by
    have := h.ink
    omega

theorem append (h : Exceeds k fs gs) (h' : Exceeds m fs' gs') :
    Exceeds (k + m) (fs ++ fs') (gs ++ gs') where
  bindings := by rw [List.flatMap_append, List.flatMap_append, h.bindings, h'.bindings]
  ink := by
    have := h.ink
    have := h'.ink
    rw [inkAll_append, inkAll_append]
    omega

theorem of_ink {k : Nat} {f g : Fragment} (hbindings : f.bindings = g.bindings)
    (hink : g.ink + k ≤ f.ink) : Exceeds k [f] [g] :=
  ⟨by simp [hbindings], by simpa using hink⟩

theorem intercalate (h : Exceeds k fs gs) :
    Exceeds k [Fragment.intercalate " " fs] [Fragment.intercalate " " gs] :=
  of_ink h.bindings (by simpa only [ink_intercalate] using h.ink)

theorem concatenate (h : Exceeds k fs gs) :
    Exceeds k [Fragment.concatenate fs] [Fragment.concatenate gs] :=
  of_ink h.bindings (by simpa only [ink_concatenate] using h.ink)

theorem enclosed (h : Exceeds k [f] [g]) (before after : Fragment) :
    Exceeds k [before ++ f ++ after] [before ++ g ++ after] := by
  have hbindings : f.bindings = g.bindings := by simpa using h.bindings
  have hink : g.ink + k ≤ f.ink := by simpa using h.ink
  refine of_ink (by simp [hbindings]) ?_
  rw [Fragment.ink_append, Fragment.ink_append, Fragment.ink_append, Fragment.ink_append]
  omega

/-- Texts with different counts are different. -/
theorem sql_ne (h : Exceeds k [f] [g]) (hk : 0 < k) : f.sql ≠ g.sql := by
  intro hsql
  have hink := h.ink
  simp only [inkAll_cons, inkAll_nil, Fragment.ink, hsql] at hink
  omega

end Exceeds

/-- The same fragments, or some with at least `k` visible characters more. -/
structure Fuller (k : Nat) (fs gs : List Fragment) : Prop where
  exceeds : Exceeds k fs gs
  eq : k = 0 → fs = gs

namespace Fuller

variable {k m : Nat} {fs gs fs' gs' : List Fragment} {f g : Fragment}

theorem refl (fs : List Fragment) : Fuller 0 fs fs := ⟨.refl fs, fun _ => rfl⟩

theorem append (h : Fuller k fs gs) (h' : Fuller m fs' gs') :
    Fuller (k + m) (fs ++ fs') (gs ++ gs') where
  exceeds := h.exceeds.append h'.exceeds
  eq hzero := by rw [h.eq (by omega), h'.eq (by omega)]

/-- Something else may stand round both. -/
theorem around (h : Fuller k fs gs) (front back : List Fragment) :
    Fuller k (front ++ fs ++ back) (front ++ gs ++ back) := by
  simpa using ((Fuller.refl front).append h).append (.refl back)

theorem enclosed (h : Fuller k [f] [g]) (before after : Fragment) :
    Fuller k [before ++ f ++ after] [before ++ g ++ after] where
  exceeds := h.exceeds.enclosed before after
  eq hzero := by rw [List.singleton_inj.1 (h.eq hzero)]

theorem concatenate (h : Fuller k fs gs) :
    Fuller k [Fragment.concatenate fs] [Fragment.concatenate gs] where
  exceeds := h.exceeds.concatenate
  eq hzero := by rw [h.eq hzero]

theorem intercalate (h : Fuller k fs gs) :
    Fuller k [Fragment.intercalate " " fs] [Fragment.intercalate " " gs] where
  exceeds := h.exceeds.intercalate
  eq hzero := by rw [h.eq hzero]

/-- The texts are the same if and only if there are no more visible characters. -/
theorem sql_eq_iff (h : Fuller k [f] [g]) : f.bindings = g.bindings ∧ (f.sql = g.sql ↔ k = 0) := by
  refine ⟨by simpa using h.exceeds.bindings, fun hsql => ?_, fun hzero => ?_⟩
  · by_contra hne
    exact h.exceeds.sql_ne (by omega) hsql
  · rw [List.singleton_inj.1 (h.eq hzero)]

end Fuller

/-! ## Lists that are told apart -/

/-- Two lists are the same if `p` holds; if not, they bind the same, and one of them has more
visible characters. -/
inductive Discerns (p : Prop) (fs gs : List Fragment) : Prop where
  | same (h : p) (heq : fs = gs)
  | more (h : ¬p) (hmore : Exceeds 1 fs gs)
  | fewer (h : ¬p) (hfewer : Exceeds 1 gs fs)

namespace Discerns

variable {p q : Prop} {fs gs : List Fragment} {f g : Fragment}

/-- Something else may stand round both. -/
theorem around (h : Discerns p fs gs) (front back : List Fragment) :
    Discerns p (front ++ fs ++ back) (front ++ gs ++ back) := by
  have hexceeds {fs gs : List Fragment} (h : Exceeds 1 fs gs) :
      Exceeds 1 (front ++ fs ++ back) (front ++ gs ++ back) :=
    (((Exceeds.refl front).append h).append (.refl back)).mono (Nat.le_refl _)
  cases h with
  | same h heq => exact .same h (by rw [heq])
  | more h hmore => exact .more h (hexceeds hmore)
  | fewer h hfewer => exact .fewer h (hexceeds hfewer)

theorem concatenate (h : Discerns p fs gs) :
    Discerns p [Fragment.concatenate fs] [Fragment.concatenate gs] := by
  cases h with
  | same h heq => exact .same h (by rw [heq])
  | more h hmore => exact .more h hmore.concatenate
  | fewer h hfewer => exact .fewer h hfewer.concatenate

theorem intercalate (h : Discerns p fs gs) :
    Discerns p [Fragment.intercalate " " fs] [Fragment.intercalate " " gs] := by
  cases h with
  | same h heq => exact .same h (by rw [heq])
  | more h hmore => exact .more h hmore.intercalate
  | fewer h hfewer => exact .fewer h hfewer.intercalate

/-- So the texts are the same if and only if `p` holds. -/
theorem sql_eq_iff (h : Discerns p [f] [g]) : f.bindings = g.bindings ∧ (f.sql = g.sql ↔ p) := by
  have hbindings {k : Nat} {f g : Fragment} (h : Exceeds k [f] [g]) : f.bindings = g.bindings := by
    simpa using h.bindings
  cases h with
  | same h heq =>
    cases heq
    exact ⟨rfl, iff_of_true rfl h⟩
  | more h hmore => exact ⟨hbindings hmore, iff_of_false (hmore.sql_ne (by omega)) h⟩
  | fewer h hfewer =>
    exact ⟨(hbindings hfewer).symm, iff_of_false (hfewer.sql_ne (by omega)).symm h⟩

end Discerns

end Fragment

end SqlBuilder
