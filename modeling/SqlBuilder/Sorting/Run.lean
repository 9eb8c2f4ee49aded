import SqlBuilder.Sorting.Search

/-!
# Runs

A run is a part of a list that is in order. `firstRun` cuts the longest one off the front of a list,
turning a falling one round; `nextRun` makes a short one longer by putting the values behind it into
their places.
-/

set_option autoImplicit false

namespace SqlBuilder.Sorting

variable {α : Type} (less : α → α → Result Bool)

/-- The run that `run` begins, its last value first, and the rest. In a falling run each value comes
before the one in front of it, in any other none does. -/
def takeRun (falling : Bool) (run : List α) (last : α) : List α → Result (List α × List α)
  | [] => .ok (run, [])
  | v :: vs => do
    if (← less v last) == falling then takeRun falling (v :: run) v vs else pure (run, v :: vs)

/-- The values in order at the front, put in order if they fall, and the rest. -/
def firstRun : List α → Result (List α × List α)
  | v :: w :: vs => do
    let falling ← less w v
    let (run, rest) ← takeRun less falling [w, v] w vs
    pure (if falling then run else run.reverse, rest)
  | vs => .ok (vs, [])

/-- A run with one more value, which goes behind those it does not come before. -/
def place (run : List α) (v : α) : Result (List α) := do
  let count ← halving true (fun w => return !(← less v w)) run
  pure (run.take count ++ v :: run.drop count)

/-- The length a run has at least in a list of `count` values, unless the list ends: all of a short
list, and so much of a longer one, from 32 to 64, that the runs are a power of two or just below. -/
def leastRun (count : Nat) : Nat :=
  let unit := Nat.pow 2 (Nat.log2 count - 5)
  (count + unit - 1) / unit

/-- The run at the front of the values, of a length of at least `least`, and the rest. -/
def nextRun (least : Nat) (vs : List α) : Result (List α × List α) := do
  let (run, rest) ← firstRun less vs
  let missing := least - run.length
  pure (← (rest.take missing).foldlM (place less) run, rest.drop missing)

/-! ## Examples -/

example : leastRun 63 = 63 ∧ leastRun 64 = 32 ∧ leastRun 65 = 33 ∧ leastRun 127 = 64 ∧
    leastRun 128 = 32 := by decide +kernel

end SqlBuilder.Sorting
