import SqlBuilder.Statements
import SqlBuilder.Value.Equality

/-!
# Clauses about the same thing

A clause that is given again replaces the first one about the same thing: `Condition.isAbout?` says
that a condition, or one of those directly in its group, has a certain key, and `eraseFirst?` leaves
out the first entry of a list that meets a test. Both are none where an equality they come upon is
invalid.
-/

set_option autoImplicit false

namespace SqlBuilder

/-- One of the keys of the conditions equals the key. -/
def Condition.anyKey? (key : Value) : List Condition → Option Bool
  | [] => some false
  | c :: cs => do if ← c.key.equal? key then some true else anyKey? key cs

/-- The condition, or one directly in its group, has the key. -/
def Condition.isAbout? (c : Condition) (key : Value) : Option Bool :=
  match c.key with
  | .group cs => Condition.anyKey? key cs
  | k => k.equal? key

/-- The list without the first entry that meets a test. -/
def eraseFirst? {α : Type} (test : α → Option Bool) : List α → Option (List α)
  | [] => some []
  | x :: xs => do if ← test x then some xs else (eraseFirst? test xs).map (x :: ·)

/-! ## Laws -/

/-- A test that is always valid erases as a truth value does. -/
theorem eraseFirst?_some {α : Type} (p : α → Bool) (xs : List α) :
    eraseFirst? (fun x => some (p x)) xs = some (xs.eraseP p) := by
  induction xs with
  | nil => rfl
  | cons x xs ih => by_cases h : p x <;> simp [eraseFirst?, h, ih]

end SqlBuilder
