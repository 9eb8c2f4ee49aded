import Mathlib.Data.List.Forall2
import SqlBuilder.Fault

/-!
# Two computations with one outcome

`Agree R x y`: the computations fail with the same fault, or both succeed and their results are
related by `R`. Agreement goes through sequencing (`Agree.bind`) and through a loop over two lists
(`Agree.mapM`).
-/

set_option autoImplicit false

namespace SqlBuilder

/-- A sequence that succeeds does so in both its parts. -/
theorem bind_ok {α β : Type} {x : Result α} {f : α → Result β} {b : β} (h : x >>= f = .ok b) :
    ∃ a, x = .ok a ∧ f a = .ok b := by
  cases x with
  | ok a => exact ⟨a, rfl, h⟩
  | error => cases h

/-- A sequence that fails does so in its first part or in its second. -/
theorem bind_error {α β : Type} {x : Result α} {f : α → Result β} {e : Fault}
    (h : x >>= f = .error e) : x = .error e ∨ ∃ a, x = .ok a ∧ f a = .error e := by
  cases x with
  | ok a => exact .inr ⟨a, rfl, h⟩
  | error e' =>
    cases h
    exact .inl rfl

/-- A loop that succeeds comes to as many results as there are items, each of them an item's. -/
theorem mapM_ok {α β : Type} {f : α → Result β} {xs : List α} {ys : List β}
    (h : xs.mapM f = .ok ys) : ys.length = xs.length ∧ ∀ y ∈ ys, ∃ x ∈ xs, f x = .ok y := by
  induction xs generalizing ys with
  | nil =>
    cases h
    simp
  | cons x xs ih =>
    rw [List.mapM_cons] at h
    obtain ⟨y, hy, h⟩ := bind_ok h
    obtain ⟨rest, hrest, h⟩ := bind_ok h
    cases h
    obtain ⟨hlength, hmem⟩ := ih hrest
    refine ⟨congrArg (· + 1) hlength, fun z hz => ?_⟩
    rcases List.mem_cons.1 hz with rfl | hz
    · exact ⟨x, List.mem_cons_self, hy⟩
    · obtain ⟨w, hw, hz⟩ := hmem z hz
      exact ⟨w, List.mem_cons_of_mem x hw, hz⟩

/-- The results are those of the items, in order. -/
theorem mapM_forall₂ {α β : Type} {f : α → Result β} {xs : List α} {ys : List β}
    (h : xs.mapM f = .ok ys) : List.Forall₂ (fun x y => f x = .ok y) xs ys := by
  induction xs generalizing ys with
  | nil =>
    cases h
    exact .nil
  | cons x xs ih =>
    rw [List.mapM_cons] at h
    obtain ⟨y, hy, h⟩ := bind_ok h
    obtain ⟨rest, hrest, h⟩ := bind_ok h
    cases h
    exact .cons hy (ih hrest)

/-- A loop that fails does so at an item. -/
theorem mapM_error {α β : Type} {f : α → Result β} {xs : List α} {e : Fault}
    (h : xs.mapM f = .error e) : ∃ x ∈ xs, f x = .error e := by
  induction xs with
  | nil => cases h
  | cons x xs ih =>
    rw [List.mapM_cons] at h
    obtain hx | ⟨y, -, h⟩ := bind_error h
    · exact ⟨x, List.mem_cons_self, hx⟩
    obtain hxs | ⟨ys, -, h⟩ := bind_error h
    · obtain ⟨x', hx', he⟩ := ih hxs
      exact ⟨x', List.mem_cons_of_mem _ hx', he⟩
    · cases h

/-- Both computations fail with one fault, or their results are related. -/
inductive Agree {α β : Type} (R : α → β → Prop) : Result α → Result β → Prop where
  | ok {x : α} {y : β} (h : R x y) : Agree R (.ok x) (.ok y)
  | error (fault : Fault) : Agree R (.error fault) (.error fault)

namespace Agree

variable {α β γ δ : Type} {R : α → β → Prop} {S : γ → δ → Prop}

theorem pure {x : α} {y : β} (h : R x y) : Agree R (Pure.pure x) (Pure.pure y) := .ok h

theorem misuse (kind : Misuse) : Agree R (SqlBuilder.misuse kind) (SqlBuilder.misuse kind) :=
  .error _

theorem mono {R' : α → β → Prop} (hR : ∀ x y, R x y → R' x y) {x : Result α} {y : Result β}
    (h : Agree R x y) : Agree R' x y := by
  cases h with
  | ok h => exact .ok (hR _ _ h)
  | error fault => exact .error fault

theorem bind {x : Result α} {y : Result β} {f : α → Result γ} {g : β → Result δ}
    (h : Agree R x y) (hf : ∀ a b, R a b → Agree S (f a) (g b)) :
    Agree S (x >>= f) (y >>= g) := by
  cases h with
  | ok h => exact hf _ _ h
  | error fault => exact .error fault

/-- A computation agrees with itself where its results are related to themselves. -/
theorem refl {R : α → α → Prop} {x : Result α} (h : ∀ a, x = .ok a → R a a) : Agree R x x := by
  cases x with
  | ok a => exact .ok (h a rfl)
  | error fault => exact .error fault

theorem self (x : Result α) : Agree Eq x x := refl fun _ _ => rfl

theorem mapM {f : α → Result γ} {g : β → Result δ} {xs : List α} {ys : List β}
    (h : List.Forall₂ (fun x y => Agree S (f x) (g y)) xs ys) :
    Agree (List.Forall₂ S) (xs.mapM f) (ys.mapM g) := by
  induction h with
  | nil => exact .ok .nil
  | cons hx _ ih =>
    rw [List.mapM_cons, List.mapM_cons]
    exact hx.bind fun _ _ hx => ih.bind fun _ _ hxs => .ok (.cons hx hxs)

/-- What is known of the second computation by itself. -/
theorem second {x : Result α} {y : Result β} {Q : β → Prop} (h : Agree R x y)
    (hQ : ∀ b, y = .ok b → Q b) : Agree (fun a b => R a b ∧ Q b) x y := by
  cases h with
  | ok h => exact .ok ⟨h, hQ _ rfl⟩
  | error fault => exact .error fault

theorem eq {x y : Result α} (h : Agree Eq x y) : x = y := by
  cases h with
  | ok h => rw [h]
  | error => rfl

/-- The second computation succeeds where the first does. -/
theorem exists_ok {x : α} {y : Result β} (h : Agree R (.ok x) y) : ∃ z, y = .ok z ∧ R x z := by
  cases h with
  | ok h => exact ⟨_, rfl, h⟩

theorem symm {x : Result α} {y : Result β} (h : Agree R x y) : Agree (fun b a => R a b) y x := by
  cases h with
  | ok h => exact .ok h
  | error fault => exact .error fault

theorem trans {ε : Type} {T : β → ε → Prop} {x : Result α} {y : Result β} {z : Result ε}
    (h : Agree R x y) (h' : Agree T y z) : Agree (fun a c => ∃ b, R a b ∧ T b c) x z := by
  cases h with
  | ok h =>
    cases h' with
    | ok h' => exact .ok ⟨_, h, h'⟩
  | error fault =>
    cases h'
    exact .error fault

end Agree

end SqlBuilder
