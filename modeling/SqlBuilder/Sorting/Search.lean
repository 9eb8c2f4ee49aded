import SqlBuilder.Fault

/-!
# Searching

How many values at the front of a list meet a test that holds up to some place and not behind it:
`halving` looks for the place by cutting the list in halves, `doubling` first at distances that
double, which is quicker where the place is near the front. Where the test holds here and there, the
count depends on which values are tested.
-/

set_option autoImplicit false

namespace SqlBuilder.Sorting

variable {α : Type}

/-- The place in the middle of so many. Of two it is the one further from the front, and nearer to
it where the list is a reversed one (`forward` is false). -/
def middle (forward : Bool) (count : Nat) : Nat :=
  if forward then count / 2 else (count - 1) / 2

/-- What is behind a value of a list is shorter than the list. -/
theorem length_lt_of_drop {xs after : List α} {x : α} {n : Nat} (h : xs.drop n = x :: after) :
    n < xs.length ∧ after.length < xs.length := by
  have := congrArg List.length h
  simp only [List.length_drop, List.length_cons] at this
  omega

/-- The count by halving. -/
def halving (forward : Bool) (test : α → Result Bool) (xs : List α) : Result Nat := do
  match h : xs.drop (middle forward xs.length) with
  | [] => pure 0
  | x :: after =>
    have hlt := length_lt_of_drop h
    if ← test x then
      pure (middle forward xs.length + 1 + (← halving forward test after))
    else halving forward test (xs.take (middle forward xs.length))
termination_by xs.length
decreasing_by
  · exact hlt.2
  · simp only [List.length_take]
    omega

/-- The count with `count` values known to meet the test and `gap` passed over before the next one
that is tested. -/
def widening (forward : Bool) (test : α → Result Bool) (count gap : Nat) (xs : List α) :
    Result Nat :=
  match _ : xs.drop gap with
  | [] => do pure (count + (← halving forward test xs))
  | x :: after => do
    if ← test x then widening forward test (count + gap + 1) (2 * gap + 1) after
    else pure (count + (← halving forward test (xs.take gap)))
termination_by xs.length
decreasing_by exact (length_lt_of_drop ‹_ = _›).2

/-- The count by doubling. -/
def doubling (forward : Bool) (test : α → Result Bool) : List α → Result Nat
  | [] => pure 0
  | x :: xs => do if ← test x then widening forward test 1 0 xs else pure 0

end SqlBuilder.Sorting
