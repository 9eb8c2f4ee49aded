import SqlBuilder.Proofs.Aligned.Fragment
import SqlBuilder.Proofs.Related.Fragment
import SqlBuilder.Proofs.Related.Outcome

/-!
# Contexts

Statements are compiled that differ in one place only. `Framed w g` says that what is written for
them (`g`) is in every case what is written for that place (`w`), between one fragment before it and
one after it. White space round a clause is cut off, so where the place is at the end of a clause
the text there may lose white space at its ends (`Text.Trims`).

* `Uniform P F`: either every run of the compiler ends with one fault, or every run succeeds and the
  family of the results has the property `P`. It goes through sequencing (`Uniform.bind`) and
  through a loop in which one item varies (`Uniform.mapM`).
* `Framed.intercalate`, `Framed.concatenate`: contexts go through whatever the compiler does with
  lists of fragments.
-/

set_option autoImplicit false

namespace SqlBuilder

namespace Text

/-! ## White space at the ends -/

/-- Some character is not white space. -/
def Visible (cs : List Char) : Prop := ∃ c ∈ cs, isBlank c = false

/-- The characters but for white space at either end. -/
def Trims (cs ds : List Char) : Prop :=
  ∃ lead trail, (∀ c ∈ lead, isBlank c = true) ∧ (∀ c ∈ trail, isBlank c = true) ∧
    cs = lead ++ ds ++ trail

theorem Trims.refl (cs : List Char) : Trims cs cs := ⟨[], [], by simp, by simp, by simp⟩

theorem Trims.trans {cs ds es : List Char} (h : Trims cs ds) (h' : Trims ds es) : Trims cs es := by
  obtain ⟨lead, trail, hlead, htrail, rfl⟩ := h
  obtain ⟨lead', trail', hlead', htrail', rfl⟩ := h'
  refine ⟨lead ++ lead', trail' ++ trail, ?_, ?_, by simp only [List.append_assoc]⟩
  · exact fun c hc => (List.mem_append.1 hc).elim (hlead c) (hlead' c)
  · exact fun c hc => (List.mem_append.1 hc).elim (htrail' c) (htrail c)

theorem Trims.visible {cs ds : List Char} (h : Trims cs ds) (hcs : Visible cs) : Visible ds := by
  obtain ⟨lead, trail, hlead, htrail, rfl⟩ := h
  obtain ⟨c, hc, hblank⟩ := hcs
  refine ⟨c, ?_, hblank⟩
  rcases List.mem_append.1 hc with hc | hc
  · rcases List.mem_append.1 hc with hc | hc
    · exact absurd (hlead c hc) (by simp [hblank])
    · exact hc
  · exact absurd (htrail c hc) (by simp [hblank])

theorem Visible.reverse {cs : List Char} (h : Visible cs) : Visible cs.reverse := by
  obtain ⟨c, hc, hblank⟩ := h
  exact ⟨c, List.mem_reverse.2 hc, hblank⟩

theorem Visible.append_left {cs : List Char} (h : Visible cs) (ds : List Char) :
    Visible (ds ++ cs) := by
  obtain ⟨c, hc, hblank⟩ := h
  exact ⟨c, List.mem_append_right _ hc, hblank⟩

theorem Visible.append_right {cs : List Char} (h : Visible cs) (ds : List Char) :
    Visible (cs ++ ds) := by
  obtain ⟨c, hc, hblank⟩ := h
  exact ⟨c, List.mem_append_left _ hc, hblank⟩

theorem Visible.ne_empty {s : String} (h : Visible s.toList) : s ≠ "" := by
  rintro rfl
  obtain ⟨c, hc, -⟩ := h
  simp at hc

/-- What stands in front of a visible text loses its white space, and if nothing else is there the
text does. -/
theorem dropWhile_around (before after : List Char) {cs : List Char} (h : Visible cs) :
    ∃ lead ds, (∀ c ∈ lead, isBlank c = true) ∧ cs = lead ++ ds ∧
      (before ++ cs ++ after).dropWhile isBlank = before.dropWhile isBlank ++ ds ++ after := by
  rw [List.append_assoc, List.dropWhile_append]
  split
  · rename_i hnil
    refine ⟨cs.takeWhile isBlank, cs.dropWhile isBlank, fun c hc => List.mem_takeWhile_imp hc,
      List.takeWhile_append_dropWhile.symm, ?_⟩
    have hne : (cs.dropWhile isBlank).isEmpty = false := by
      rw [List.isEmpty_eq_false_iff]
      intro hnone
      obtain ⟨c, hc, hblank⟩ := h
      exact absurd (List.dropWhile_eq_nil_iff.1 hnone c hc) (by simp [hblank])
    rw [List.dropWhile_append, hne, List.isEmpty_iff.1 hnil]
    rfl
  · exact ⟨[], cs, by simp, rfl, (List.append_assoc ..).symm⟩

/-- Stripping cuts white space from what stands round a visible text, and from the text itself where
nothing else is left there. -/
theorem stripChars_around (before after : List Char) {cs : List Char} (h : Visible cs) :
    ∃ ds, Trims cs ds ∧ stripChars (before ++ cs ++ after) =
      before.dropWhile isBlank ++ ds ++ (after.reverse.dropWhile isBlank).reverse := by
  obtain ⟨lead, ds, hlead, hcs, hfront⟩ := dropWhile_around before after h
  have htrims : Trims cs ds := ⟨lead, [], hlead, by simp, by simpa using hcs⟩
  obtain ⟨trail, es, htrail, hds, hback⟩ := dropWhile_around after.reverse
    (before.dropWhile isBlank).reverse (htrims.visible h).reverse
  refine ⟨es.reverse, htrims.trans ⟨[], trail.reverse, by simp, by simpa using htrail, ?_⟩, ?_⟩
  · simpa using congrArg List.reverse hds
  · have hreverse : (before.dropWhile isBlank ++ ds ++ after).reverse =
        after.reverse ++ ds.reverse ++ (before.dropWhile isBlank).reverse := by
      simp [List.append_assoc]
    rw [stripChars, trimBy, hfront, hreverse, hback]
    simp [List.append_assoc]

end Text

open Text

namespace Fragment

/-! ## A fragment in its context -/

/-- A fragment between two others, but for white space at the ends of its text. -/
def Spliced (before f after g : Fragment) : Prop :=
  ∃ s : String, Trims f.sql.toList s.toList ∧ g = before ++ ⟨s, f.bindings⟩ ++ after

theorem Spliced.refl (f : Fragment) : Spliced .empty f .empty f :=
  ⟨f.sql, .refl _, congrArg₂ Fragment.mk (by simp [empty]) (by simp [empty])⟩

variable {before f after g : Fragment}

theorem Spliced.append_left (h : Spliced before f after g) (k : Fragment) :
    Spliced (k ++ before) f after (k ++ g) := by
  obtain ⟨s, hs, rfl⟩ := h
  exact ⟨s, hs, by simp only [append_assoc]⟩

theorem Spliced.append_right (h : Spliced before f after g) (k : Fragment) :
    Spliced before f (after ++ k) (g ++ k) := by
  obtain ⟨s, hs, rfl⟩ := h
  exact ⟨s, hs, by simp only [append_assoc]⟩

theorem Spliced.visible (h : Spliced before f after g) (hf : Visible f.sql.toList) :
    Visible g.sql.toList := by
  obtain ⟨s, hs, rfl⟩ := h
  simp only [sql_append, String.toList_append]
  exact ((hs.visible hf).append_left _).append_right _

/-- White space before and after a fragment is cut off whatever the fragment is. -/
theorem Spliced.stripped (h : Spliced before f after g) (hf : Visible f.sql.toList) :
    Spliced ⟨String.ofList (before.sql.toList.dropWhile isBlank), before.bindings⟩ f
      ⟨String.ofList (after.sql.toList.reverse.dropWhile isBlank).reverse, after.bindings⟩
      g.stripped := by
  obtain ⟨s, hs, rfl⟩ := h
  obtain ⟨ds, hds, hstrip⟩ := stripChars_around before.sql.toList after.sql.toList (hs.visible hf)
  refine ⟨String.ofList ds, by simpa using hs.trans hds, congrArg₂ Fragment.mk ?_ rfl⟩
  apply String.toList_injective
  simpa [Text.strip] using hstrip

/-! ## Families of fragments -/

section Families

variable {α β γ : Type}

/-- What is written in every case is what is written for one place, in one context. -/
def Framed (w g : α → Fragment) : Prop :=
  ∃ before after, ∀ x, Spliced before (w x) after (g x)

/-- Lists of which one member varies. -/
def Among (P : (α → β) → Prop) (gs : α → List β) : Prop :=
  ∃ front g back, P g ∧ ∀ x, gs x = front ++ g x :: back

variable {w g : α → Fragment} {gs : α → List Fragment}

namespace Framed

theorem self (w : α → Fragment) : Framed w w := ⟨_, _, fun x => .refl (w x)⟩

theorem congr {g' : α → Fragment} (h : Framed w g) (heq : ∀ x, g' x = g x) : Framed w g' :=
  (funext heq : g' = g) ▸ h

theorem const_append (h : Framed w g) (k : Fragment) : Framed w fun x => k ++ g x := by
  obtain ⟨before, after, h⟩ := h
  exact ⟨_, _, fun x => (h x).append_left k⟩

theorem append_const (h : Framed w g) (k : Fragment) : Framed w fun x => g x ++ k := by
  obtain ⟨before, after, h⟩ := h
  exact ⟨_, _, fun x => (h x).append_right k⟩

theorem parenthesized (h : Framed w g) : Framed w fun x => (g x).parenthesized :=
  (h.const_append _).append_const _

theorem visible (h : Framed w g) (hw : ∀ x, Visible (w x).sql.toList) (x : α) :
    Visible (g x).sql.toList := by
  obtain ⟨before, after, h⟩ := h
  exact (h x).visible (hw x)

theorem stripped (h : Framed w g) (hw : ∀ x, Visible (w x).sql.toList) :
    Framed w fun x => (g x).stripped := by
  obtain ⟨before, after, h⟩ := h
  exact ⟨_, _, fun x => (h x).stripped (hw x)⟩

/-- A list written with a text between its members, one of which varies. -/
theorem intercalate (h : Among (Framed w) gs) (separator : String) :
    Framed w fun x => Fragment.intercalate separator (gs x) := by
  obtain ⟨front, g, back, hg, hgs⟩ := h
  have hback : Framed w fun x => Fragment.intercalate separator (g x :: back) := by
    by_cases hnil : back = []
    · exact hg.congr fun x => by rw [hnil, intercalate_singleton]
    · exact (hg.append_const _).congr fun x => intercalate_cons separator (g x) hnil
  by_cases hnil : front = []
  · exact hback.congr fun x => by rw [hgs, hnil, List.nil_append]
  · have hfront := (hback.const_append (ofText separator)).const_append
      (Fragment.intercalate separator front)
    exact hfront.congr fun x => by rw [hgs, intercalate_append separator hnil (by simp)]

/-- Clauses put together, one of which varies but is never blank. -/
theorem concatenate (h : Among (Framed w) gs) (hw : ∀ x, Visible (w x).sql.toList) :
    Framed w fun x => Fragment.concatenate (gs x) := by
  obtain ⟨front, g, back, hg, hgs⟩ := h
  -- Blank clauses are left out, but not the values they bind: these go to the one that varies.
  let texts (fs : List Fragment) : List Fragment := (kept fs).map (ofText ·.sql)
  have hbinding : Framed w fun x => ⟨"", front.flatMap bindings⟩ ++
      ((g x).stripped ++ ⟨"", back.flatMap bindings⟩) :=
    ((hg.stripped hw).append_const _).const_append _
  refine (intercalate ⟨texts front, _, texts back, hbinding, fun _ => rfl⟩ " ").congr fun x => ?_
  have hvisible : Text.strip (g x).sql ≠ "" := ((hg.stripped hw).visible hw x).ne_empty
  have hkept (fs : List Fragment) :
      (fs.map fun f => Text.strip f.sql).filter (· != "") = (texts fs).map sql := by
    simp only [texts, kept, List.map_map, List.filter_map]
    rfl
  have hmember : ([g x].map fun f => Text.strip f.sql).filter (· != "") =
      [(g x).stripped.sql] := by
    simp [hvisible, Fragment.stripped]
  have hbare (fs : List Fragment) : (texts fs).flatMap bindings = [] := by
    simp [texts, List.flatMap_map]
  rw [hgs]
  refine congrArg₂ Fragment.mk ?_ ?_
  · rw [← List.singleton_append, List.map_append, List.map_append, List.filter_append,
      List.filter_append, hmember, hkept, hkept]
    simp
  · have hvalues : (g x).stripped.bindings = (g x).bindings := rfl
    simp [hbare, hvalues]

end Framed

end Families

end Fragment

/-! ## Uniform outcomes -/

/-- One fault in every case, or a result in every case, and the results have the property. -/
def Uniform {α β : Type} (P : (α → β) → Prop) (F : α → Result β) : Prop :=
  (∃ fault, ∀ x, F x = .error fault) ∨ ∃ g, P g ∧ ∀ x, F x = .ok (g x)

namespace Uniform

variable {α β γ : Type} {P : (α → β) → Prop} {Q : (α → γ) → Prop}

theorem ok {g : α → β} (h : P g) : Uniform P fun x => .ok (g x) := .inr ⟨g, h, fun _ => rfl⟩

theorem error (fault : Fault) : Uniform P fun _ => .error fault := .inl ⟨fault, fun _ => rfl⟩

theorem congr {F F' : α → Result β} (h : Uniform P F) (heq : ∀ x, F' x = F x) : Uniform P F' :=
  (funext heq : F' = F) ▸ h

theorem bind {F : α → Result β} (h : Uniform P F) {G : α → β → Result γ}
    (hG : ∀ g, P g → Uniform Q fun x => G x (g x)) : Uniform Q fun x => F x >>= G x := by
  rcases h with ⟨fault, h⟩ | ⟨g, hg, h⟩
  · exact .inl ⟨fault, fun x => by simp only [h]; rfl⟩
  · exact (hG g hg).congr fun x => by simp only [h]; rfl

/-- What does not vary comes to one outcome. -/
theorem read_of (y : Result β) {G : α → β → Result γ}
    (hG : ∀ b, y = .ok b → Uniform Q fun x => G x b) : Uniform Q fun x => y >>= G x := by
  cases y with
  | error fault => exact .error fault
  | ok b => exact hG b rfl

theorem read (y : Result β) {G : α → β → Result γ} (hG : ∀ b, Uniform Q fun x => G x b) :
    Uniform Q fun x => y >>= G x :=
  read_of y fun b _ => hG b

/-- What is known to succeed. -/
theorem given {F : α → Result β} {g : α → β} (h : ∀ x, F x = .ok (g x)) {G : α → β → Result γ}
    (hG : Uniform Q fun x => G x (g x)) : Uniform Q fun x => F x >>= G x :=
  hG.congr fun x => by simp only [h]; rfl

/-- A loop over a list of which one member varies. -/
theorem mapM {f : γ → Result β} {hole : α → γ} (h : Uniform P fun x => f (hole x))
    (front back : List γ) :
    Uniform (Fragment.Among P) fun x => (front ++ hole x :: back).mapM f := by
  simp only [List.mapM_append, List.mapM_cons]
  refine .read _ fun before => ?_
  simp only [bind_assoc, pure_bind]
  exact h.bind fun g hg => .read _ fun after => .ok ⟨before, g, after, hg, fun _ => rfl⟩

end Uniform

end SqlBuilder
