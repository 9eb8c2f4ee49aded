import SqlBuilder.Sorting.Search

/-!
# Merging

Two runs become one (`mergeRuns`). What is in its place already at the two ends is left alone. The
rest is merged from the side of the shorter run, one value at a time until one run has given
`threshold` values without a break, then in whole stretches as long as these are long enough. The
threshold falls with every round of stretches and rises when they end; the next merge takes it on.

Of two values neither of which is less, the one from the left run comes first.
-/

set_option autoImplicit false

namespace SqlBuilder.Sorting

variable {α : Type}

/-- How values are taken. -/
inductive Pace where
  /-- One at a time; the run on the right or the other one has just given `wins` of them. -/
  | single (right : Bool) (wins : Nat)
  /-- In stretches. -/
  | stretches
  deriving Repr, DecidableEq

/-- A merge that is under way. If it goes backward the runs are reversed. -/
structure Merge (α : Type) where
  forward : Bool
  left : List α
  right : List α
  /-- What has been taken, the last value first. -/
  taken : List α := []
  /-- How many values one run gives before stretches are tried. -/
  threshold : Nat
  pace : Pace := .single true 0

/-- The length a stretch has at least, so that stretches go on. -/
def leastStretch : Nat := 7

namespace Merge

/-- There is nothing more to compare: one run is used up, or of the shorter one only the last value
is left, which comes behind all others. -/
def isDone (m : Merge α) : Bool :=
  if m.forward then m.right.isEmpty || (m.left.drop 1).isEmpty
  else m.left.isEmpty || (m.right.drop 1).isEmpty

/-- The merged run, where there is nothing more to compare. -/
def result (m : Merge α) : List α :=
  if m.forward then m.taken.reverse ++ m.right ++ m.left
  else m.right.reverse ++ m.left.reverse ++ m.taken

/-- Values taken from the front of one run. -/
def take (m : Merge α) (right : Bool) (count : Nat) : Merge α :=
  if right then
    { m with right := m.right.drop count, taken := (m.right.take count).reverse ++ m.taken }
  else { m with left := m.left.drop count, taken := (m.left.take count).reverse ++ m.taken }

variable (less : α → α → Result Bool)

/-- One value taken from the run whose first value comes next. -/
def single (m : Merge α) (lastRight : Bool) (wins : Nat) : Result (Merge α) := do
  match m.left, m.right with
  | x :: _, y :: _ =>
    let right := (← less y x) == m.forward
    let wins := if right == lastRight then wins + 1 else 1
    let m := m.take right 1
    if m.threshold ≤ wins && !m.isDone then
      pure { m with threshold := m.threshold + 1, pace := .stretches }
    else pure { m with pace := .single right wins }
  | _, _ => pure m

/-- What the left run gives before the first value of the right one. -/
def leftStretch (m : Merge α) : Result Nat :=
  match m.right with
  | y :: _ => doubling m.forward (fun x => return (← less y x) != m.forward) m.left
  | [] => pure 0

/-- What the right run gives before the first value of the left one. -/
def rightStretch (m : Merge α) : Result Nat :=
  match m.left with
  | x :: _ => doubling m.forward (fun y => return (← less y x) == m.forward) m.right
  | [] => pure 0

/-- A stretch and one value of the other run, from both runs. -/
def stretches (m : Merge α) : Result (Merge α) := do
  let m := { m with threshold := max 1 (m.threshold - 1) }
  let fromLeft ← m.leftStretch less
  let m := m.take false fromLeft
  if m.isDone then return m
  let m := m.take true 1
  if m.isDone then return m
  let fromRight ← m.rightStretch less
  let m := m.take true fromRight
  if m.isDone then return m
  let m := m.take false 1
  if m.isDone || leastStretch ≤ fromLeft || leastStretch ≤ fromRight then return m
  return { m with threshold := m.threshold + 1, pace := .single true 0 }

/-- The merge brought to its end, in at most so many steps. -/
def finish : Nat → Merge α → Result (Merge α)
  | 0, m => pure m
  | steps + 1, m => do
    if m.isDone then pure m
    else match m.pace with
      | .single right wins => finish steps (← m.single less right wins)
      | .stretches => finish steps (← m.stretches less)

/-- The merge of two runs of which the first value of the right one and the last value of the left
one are known to come first and last: the longer run gives a value without being asked. -/
def start (threshold : Nat) (left right : List α) : Merge α :=
  if left.length ≤ right.length then
    { forward := true, left, right, threshold : Merge α }.take true 1
  else { forward := false, left := left.reverse, right := right.reverse, threshold : Merge α }.take
    false 1

end Merge

variable (less : α → α → Result Bool)

/-- Two runs as one, and the threshold for the next ones. -/
def mergeRuns (threshold : Nat) (left right : List α) : Result (List α × Nat) := do
  let y :: _ := right | pure (left, threshold)
  let before ← doubling true (fun x => return !(← less y x)) left
  let (inPlace, left) := left.splitAt before
  let some last := left.getLast? | pure (inPlace ++ right, threshold)
  let behind ← doubling false (fun y => return !(← less y last)) right.reverse
  let (right, rest) := right.splitAt (right.length - behind)
  if right.isEmpty then pure (inPlace ++ left ++ rest, threshold)
  else
    let m ← (Merge.start threshold left right).finish less (left.length + right.length)
    pure (inPlace ++ m.result ++ rest, m.threshold)

end SqlBuilder.Sorting
