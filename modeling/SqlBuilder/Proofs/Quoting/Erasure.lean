import Mathlib.Data.List.TakeWhile
import SqlBuilder.Proofs.Related.Fragment
import SqlBuilder.Proofs.Text.Signs

/-!
# Texts with and without identifier quotes

What is written with quoted names and what is written without them differ in quotes alone. Erasing
the quotes must also go through the trimming of a clause, which looks at its ends: `Bare q cs ds`
says that `ds` is `cs` without the character `q`, and that either is blank or neither has a `q`
between the white space at an end and the first visible character there.

* `Bare.append`, `Bare.strip`: texts one after another, and a text without the blanks at its ends.
* `Unquoted d f f'`: fragments with the same values, of which the second is the first without the
  quotes of the dialect. It goes through everything the compiler does with fragments
  (`Unquoted.append`, `Unquoted.intercalate`, `Unquoted.concatenate`).
-/

set_option autoImplicit false

namespace SqlBuilder

namespace Text

/-- The text begins with a visible character. -/
def begins : List Char → Bool
  | [] => false
  | c :: _ => !isBlank c

/-- The text begins and ends with a visible character. -/
def Solid (cs : List Char) : Prop := begins cs = true ∧ begins cs.reverse = true

instance (cs : List Char) : Decidable (Solid cs) := inferInstanceAs (Decidable (_ ∧ _))

/-- The text without a character. -/
def without (q : Char) (cs : List Char) : List Char := cs.filter (· != q)

/-- The second text is the first without `q`, which does not hide where a visible character comes
first or last. -/
inductive Bare (q : Char) : List Char → List Char → Prop where
  | blank {cs : List Char} (h : ∀ c ∈ cs, isBlank c = true) : Bare q cs cs
  | solid {lead core trail : List Char} (hlead : ∀ c ∈ lead, isBlank c = true)
      (htrail : ∀ c ∈ trail, isBlank c = true) (h : Solid core) (h' : Solid (without q core)) :
      Bare q (lead ++ core ++ trail) (lead ++ without q core ++ trail)

/-! ## Trimming -/

theorem begins_append {xs : List Char} (h : begins xs = true) (ys : List Char) :
    begins (xs ++ ys) = true := by
  cases xs with
  | nil => cases h
  | cons => exact h

theorem Solid.ne_nil {cs : List Char} (h : Solid cs) : cs ≠ [] := by
  rintro rfl
  cases h.1

theorem Solid.reverse {cs : List Char} (h : Solid cs) : Solid cs.reverse :=
  ⟨h.2, cs.reverse_reverse.symm ▸ h.1⟩

theorem Solid.append {xs ys : List Char} (hx : Solid xs) (mid : List Char) (hy : Solid ys) :
    Solid (xs ++ mid ++ ys) := by
  refine ⟨?_, ?_⟩
  · rw [List.append_assoc]
    exact begins_append hx.1 _
  · rw [List.reverse_append]
    exact begins_append hy.2 _

theorem dropWhile_blank {lead cs : List Char} (hlead : ∀ c ∈ lead, isBlank c = true)
    (h : begins cs = true) : (lead ++ cs).dropWhile isBlank = cs := by
  rw [List.dropWhile_append_of_pos hlead]
  cases cs with
  | nil => cases h
  | cons c cs => exact List.dropWhile_cons_of_neg (by simpa [begins] using h)

theorem stripChars_of_blank {cs : List Char} (h : ∀ c ∈ cs, isBlank c = true) :
    stripChars cs = [] := by
  rw [stripChars, trimBy, List.dropWhile_eq_nil_iff.2 h]
  rfl

theorem stripChars_solid {lead core trail : List Char} (hlead : ∀ c ∈ lead, isBlank c = true)
    (htrail : ∀ c ∈ trail, isBlank c = true) (h : Solid core) :
    stripChars (lead ++ core ++ trail) = core := by
  have hback : (core ++ trail).reverse.dropWhile isBlank = core.reverse := by
    rw [List.reverse_append]
    exact dropWhile_blank (fun c hc => htrail c (List.mem_reverse.1 hc)) h.2
  rw [stripChars, trimBy, List.append_assoc, dropWhile_blank hlead (begins_append h.1 trail), hback,
    List.reverse_reverse]

/-! ## Erasing -/

variable {q : Char}

@[simp] theorem without_append (xs ys : List Char) :
    without q (xs ++ ys) = without q xs ++ without q ys := List.filter_append ..

theorem without_of_free {cs : List Char} (h : q ∉ cs) : without q cs = cs :=
  List.filter_eq_self.2 fun c hc => by
    have : c ≠ q := fun heq => h (heq ▸ hc)
    simpa using this

theorem without_of_blank (hq : isBlank q = false) {cs : List Char}
    (h : ∀ c ∈ cs, isBlank c = true) : without q cs = cs :=
  without_of_free fun hmem => by simp [h q hmem] at hq

namespace Bare

theorem erased (hq : isBlank q = false) {cs ds : List Char} (h : Bare q cs ds) :
    ds = without q cs := by
  cases h with
  | blank h => rw [without_of_blank hq h]
  | solid hlead htrail h h' =>
    rw [without_append, without_append, without_of_blank hq hlead, without_of_blank hq htrail]

/-- A text without `q` in it. -/
theorem free {cs : List Char} (h : q ∉ cs) : Bare q cs cs := by
  obtain ⟨lead, trail, hcs, hlead, htrail, hfirst, hlast⟩ := trimBy_spec isBlank cs
  generalize trimBy isBlank cs = core at hcs hfirst hlast
  by_cases hnil : core = []
  · subst hnil hcs
    refine .blank fun c hc => ?_
    rw [List.append_nil, List.mem_append] at hc
    exact hc.elim (hlead c) (htrail c)
  · have hsolid : Solid core := by
      obtain ⟨c, rest, hc⟩ := List.exists_cons_of_ne_nil hnil
      have hlast := hlast _ _ (List.dropLast_append_getLast hnil).symm
      refine ⟨by simp [hc, begins, hfirst c rest hc], ?_⟩
      rw [← List.dropLast_append_getLast hnil, List.reverse_append]
      simp [begins, hlast]
    have hcore : without q core = core := without_of_free fun hmem => h (by simp [hcs, hmem])
    have hbare := Bare.solid hlead htrail hsolid (hcore.symm ▸ hsolid)
    rwa [hcore, ← hcs] at hbare

/-- A text that is visible at both ends, with `q` in it and without. -/
theorem of_solid {cs : List Char} (h : Solid cs) (h' : Solid (without q cs)) :
    Bare q cs (without q cs) := by
  have hnone : ∀ c ∈ ([] : List Char), isBlank c = true := by simp
  simpa using Bare.solid hnone hnone h h'

theorem append (hq : isBlank q = false) {cs cs' ds ds' : List Char} (hc : Bare q cs cs')
    (hd : Bare q ds ds') : Bare q (cs ++ ds) (cs' ++ ds') := by
  cases hc with
  | blank hc =>
    cases hd with
    | blank hd => exact .blank fun c h => (List.mem_append.1 h).elim (hc c) (hd c)
    | solid hlead htrail h h' =>
      rw [← List.append_assoc, ← List.append_assoc, ← List.append_assoc, ← List.append_assoc]
      exact .solid (fun c hmem => (List.mem_append.1 hmem).elim (hc c) (hlead c)) htrail h h'
  | @solid lead core trail hlead htrail h h' =>
    cases hd with
    | blank hd =>
      rw [List.append_assoc _ trail, List.append_assoc _ trail]
      exact .solid hlead (fun c hmem => (List.mem_append.1 hmem).elim (htrail c) (hd c)) h h'
    | @solid lead₂ core₂ trail₂ hlead₂ htrail₂ h₂ h₂' =>
      -- the blanks between the two visible parts belong to what is visible of the whole
      have hmid : without q (trail ++ lead₂) = trail ++ lead₂ := without_of_blank hq
        fun c hmem => (List.mem_append.1 hmem).elim (htrail c) (hlead₂ c)
      have hcore : without q (core ++ (trail ++ lead₂) ++ core₂) =
          without q core ++ (trail ++ lead₂) ++ without q core₂ := by
        rw [without_append, without_append, hmid]
      have := Bare.solid (q := q) hlead htrail₂ (h.append (trail ++ lead₂) h₂)
        (hcore.symm ▸ h'.append (trail ++ lead₂) h₂')
      rw [hcore] at this
      simpa only [List.append_assoc] using this

theorem strip {cs ds : List Char} (h : Bare q cs ds) :
    Bare q (stripChars cs) (stripChars ds) ∧ (stripChars cs = [] ↔ stripChars ds = []) := by
  cases h with
  | blank h => exact ⟨.free (by simp [stripChars_of_blank h]), .rfl⟩
  | solid hlead htrail h h' =>
    rw [stripChars_solid hlead htrail h, stripChars_solid hlead htrail h']
    exact ⟨of_solid h h', by simp [h.ne_nil, h'.ne_nil]⟩

theorem nil_iff {cs ds : List Char} (h : Bare q cs ds) : cs = [] ↔ ds = [] := by
  cases h with
  | blank h => exact .rfl
  | solid hlead htrail h h' => simp [h.ne_nil, h'.ne_nil]

end Bare

end Text

open Text

namespace Dialect

/-- The text has no identifier quotes. -/
def Free (d : Dialect) (s : String) : Prop := d.identifierQuote ∉ s.toList

instance (d : Dialect) (s : String) : Decidable (d.Free s) :=
  inferInstanceAs (Decidable (d.identifierQuote ∉ s.toList))

/-- The text without identifier quotes. -/
def eraseQuotes (d : Dialect) (s : String) : String :=
  String.ofList (without d.identifierQuote s.toList)

theorem isBlank_identifierQuote (d : Dialect) : isBlank d.identifierQuote = false := by
  cases d <;> decide

theorem Free.append {d : Dialect} {s t : String} (hs : d.Free s) (ht : d.Free t) :
    d.Free (s ++ t) := by
  unfold Free at *
  simp [hs, ht]

theorem Free.intercalate {d : Dialect} {separator : String} (hseparator : d.Free separator)
    {ss : List String} (h : ∀ s ∈ ss, d.Free s) : d.Free (separator.intercalate ss) := by
  induction ss with
  | nil => simp [Free]
  | cons s ss ih =>
    have hs := h s List.mem_cons_self
    by_cases hnil : ss = []
    · subst hnil
      simpa using hs
    · rw [String.intercalate_cons_of_ne_nil hnil]
      exact (hs.append hseparator).append (ih fun t ht => h t (List.mem_cons_of_mem s ht))

end Dialect

/-- Fragments with the same values, of which the second has the text of the first without the
identifier quotes of the dialect. -/
structure Unquoted (d : Dialect) (f f' : Fragment) : Prop where
  bindings : f.bindings = f'.bindings
  sql : Bare d.identifierQuote f.sql.toList f'.sql.toList

namespace Unquoted

open Fragment

variable {d : Dialect} {f f' g g' : Fragment}

theorem erased (h : Unquoted d f f') : f'.sql = d.eraseQuotes f.sql := by
  rw [Dialect.eraseQuotes, ← h.sql.erased d.isBlank_identifierQuote, String.ofList_toList]

theorem raw {sql : String} (h : d.Free sql) (bindings : List Value) :
    Unquoted d ⟨sql, bindings⟩ ⟨sql, bindings⟩ := ⟨rfl, .free h⟩

theorem word {s : String} (h : d.Free s) : Unquoted d (ofText s) (ofText s) := raw h []

theorem bound (v : Value) : Unquoted d (Fragment.bound v) (Fragment.bound v) :=
  raw (by cases d <;> decide) _

theorem append (hf : Unquoted d f f') (hg : Unquoted d g g') : Unquoted d (f ++ g) (f' ++ g') where
  bindings := congrArg₂ (· ++ ·) hf.bindings hg.bindings
  sql := by
    rw [sql_append, sql_append, String.toList_append, String.toList_append]
    exact hf.sql.append d.isBlank_identifierQuote hg.sql

theorem empty : Unquoted d Fragment.empty Fragment.empty := word (by simp [Dialect.Free])

theorem parenthesized (h : Unquoted d f f') : Unquoted d f.parenthesized f'.parenthesized :=
  ((word (by cases d <;> decide)).append h).append (word (by cases d <;> decide))

theorem empty_iff (h : Unquoted d f f') : f.sql = "" ↔ f'.sql = "" := by
  rw [← String.toList_eq_nil_iff, h.sql.nil_iff, String.toList_eq_nil_iff]

theorem intercalate {s : String} (hs : d.Free s) {fs fs' : List Fragment}
    (h : List.Forall₂ (Unquoted d) fs fs') :
    Unquoted d (Fragment.intercalate s fs) (Fragment.intercalate s fs') := by
  induction h with
  | nil => exact empty
  | cons hf hfs ih =>
    cases hfs with
    | nil => simpa using hf
    | cons hg hgs =>
      rw [intercalate_cons s _ (List.cons_ne_nil _ _), intercalate_cons s _ (List.cons_ne_nil _ _)]
      exact hf.append ((word hs).append ih)

/-- Two runs over the same items. -/
theorem map_same {α : Type} {xs : List α} {write write' : α → Fragment}
    (h : ∀ x ∈ xs, Unquoted d (write x) (write' x)) :
    List.Forall₂ (Unquoted d) (xs.map write) (xs.map write') :=
  List.forall₂_map_left_iff.2 (List.forall₂_map_right_iff.2 (List.forall₂_same.2 h))

theorem intercalate_ofText (separator : String) (ss : List String) :
    Fragment.intercalate separator (ss.map ofText) = ofText (separator.intercalate ss) := by
  simp [Fragment.intercalate, List.map_map, Function.comp_def, ofText, List.flatMap_map]

/-- A clause without the blanks around it is empty in both runs or in neither. -/
theorem strip (h : Unquoted d f f') :
    Unquoted d ⟨Text.strip f.sql, f.bindings⟩ ⟨Text.strip f'.sql, f'.bindings⟩ ∧
      (Text.strip f.sql = "" ↔ Text.strip f'.sql = "") := by
  obtain ⟨hbare, hnil⟩ := h.sql.strip
  refine ⟨⟨h.bindings, by simpa [Text.strip] using hbare⟩, ?_⟩
  simpa [Text.strip, ← String.toList_eq_nil_iff] using hnil

/-- The clauses that are left when blank ones are dropped. -/
def shown (fs : List Fragment) : List String :=
  (fs.map fun f => Text.strip f.sql).filter (· != "")

theorem shown_cons (f : Fragment) (fs : List Fragment) :
    shown (f :: fs) =
      if Text.strip f.sql = "" then shown fs else Text.strip f.sql :: shown fs := by
  by_cases hempty : Text.strip f.sql = "" <;> simp [shown, hempty]

theorem concatenate {fs fs' : List Fragment} (h : List.Forall₂ (Unquoted d) fs fs') :
    Unquoted d (Fragment.concatenate fs) (Fragment.concatenate fs') := by
  have hshown : List.Forall₂ (Unquoted d) ((shown fs).map ofText) ((shown fs').map ofText) := by
    induction h with
    | nil => exact .nil
    | @cons f _ _ _ hf _ ih =>
      rw [shown_cons, shown_cons]
      by_cases hempty : Text.strip f.sql = ""
      · rwa [if_pos hempty, if_pos (hf.strip.2.1 hempty)]
      · rw [if_neg hempty, if_neg (mt hf.strip.2.2 hempty)]
        exact .cons ⟨rfl, hf.strip.1.sql⟩ ih
  have hspace : d.Free " " := by cases d <;> decide
  have hsql := (intercalate hspace hshown).sql
  rw [intercalate_ofText, intercalate_ofText] at hsql
  refine ⟨?_, ?_⟩
  · rw [bindings_concatenate, bindings_concatenate]
    clear hshown hsql
    induction h with
    | nil => rfl
    | cons hf _ ih => rw [List.flatMap_cons, List.flatMap_cons, hf.bindings, ih]
  · exact hsql

end Unquoted

end SqlBuilder
