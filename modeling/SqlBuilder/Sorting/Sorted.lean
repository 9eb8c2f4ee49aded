import SqlBuilder.Sorting.Merge
import SqlBuilder.Sorting.Run

/-!
# Sorting

`sorted` puts a list in order. It finds the runs of the list from the front to the back and merges
neighbours on the way. Which ones is decided by the place where two runs meet: halving the list, its
halves and so on, the first cut between the middles of the two has a depth (`depth`), and runs that
meet at a greater depth are merged first.

Where the comparison is an order, values that are neither less nor greater keep the order they had.
Where it is none, because of a number that is not a number, the result depends on which values are
compared, and this module says which.
-/

set_option autoImplicit false

namespace SqlBuilder.Sorting

variable {α : Type}

/-- A run that waits to be merged. -/
structure Waiting (α : Type) where
  /-- Where it starts in the list. -/
  start : Nat
  run : List α
  /-- The depth of the place where the next run meets it. -/
  depth : Nat := 0

/-- The place where it ends. -/
def Waiting.stop (w : Waiting α) : Nat := w.start + w.run.length

/-- How deep the cut between two neighbours is, the first of which starts at `start`, in a list of
`count` values: the middles of the two are in different parts when the list is cut into
`2 ^ depth` of them. -/
def depth (count start length length' : Nat) : Nat :=
  let twiceMiddle := 2 * start + length
  let twiceMiddle' := twiceMiddle + length + length'
  let differ (k : Nat) : Bool :=
    Nat.pow 2 k * twiceMiddle / count != Nat.pow 2 k * twiceMiddle' / count
  ((List.range (Nat.log2 count + 1)).find? differ).getD 0 + 1

/-- The threshold of the first merge. -/
def firstThreshold : Nat := leastStretch

variable (less : α → α → Result Bool)

/-- Two neighbours as one, and the threshold for the next ones. -/
def Waiting.merge (threshold : Nat) (first second : Waiting α) : Result (Waiting α × Nat) := do
  let (run, threshold) ← mergeRuns less threshold first.run second.run
  pure ({ first with run }, threshold)

/-- The waiting runs, the last one first, when those that meet deeper than `depth` are merged. -/
def mergeDeeper (depth : Nat) (threshold : Nat) :
    List (Waiting α) → Result (List (Waiting α) × Nat)
  | second :: first :: ws => do
    if depth < first.depth then
      let (w, threshold) ← first.merge less threshold second
      mergeDeeper depth threshold (w :: ws)
    else pure (second :: first :: ws, threshold)
  | ws => pure (ws, threshold)
termination_by ws => ws.length

/-- The waiting runs with one more behind them. -/
def await (count threshold : Nat) (ws : List (Waiting α)) (run : List α) :
    Result (List (Waiting α) × Nat) := do
  match ws with
  | [] => pure ([{ start := 0, run }], threshold)
  | last :: _ =>
    let d := depth count last.start last.run.length run.length
    let (ws, threshold) ← mergeDeeper less d threshold ws
    match ws with
    | [] => pure ([], threshold)
    | w :: ws => pure ({ start := w.stop, run } :: { w with depth := d } :: ws, threshold)

/-- All waiting runs as one, the last one first: a run between two others goes with the shorter. -/
def mergeAll (threshold : Nat) : List (Waiting α) → Result (List α)
  | third :: second :: first :: ws => do
    if first.run.length < third.run.length then
      let (w, threshold) ← first.merge less threshold second
      mergeAll threshold (third :: w :: ws)
    else
      let (w, threshold) ← second.merge less threshold third
      mergeAll threshold (w :: first :: ws)
  | [second, first] => do pure (← mergeRuns less threshold first.run second.run).1
  | [w] => pure w.run
  | [] => pure []
termination_by ws => ws.length

/-- The waiting runs when the runs of a list of at most `steps` values have been added. -/
def awaitAll (count : Nat) :
    Nat → List (Waiting α) × Nat → List α → Result (List (Waiting α) × Nat)
  | 0, waiting, _ | _, waiting, [] => pure waiting
  | steps + 1, (ws, threshold), vs => do
    let (run, rest) ← nextRun less (leastRun count) vs
    awaitAll count steps (← await less count threshold ws run) rest

/-- The values in order. -/
def sorted (vs : List α) : Result (List α) := do
  let (ws, threshold) ← awaitAll less vs.length vs.length ([], firstThreshold) vs
  mergeAll less threshold ws

/-! ## Laws -/

theorem sorted_nil : sorted less [] = .ok [] := by
  simp [sorted, awaitAll, mergeAll, pure, Except.pure, bind, Except.bind]

/-! ## Examples -/

example : depth 100 0 50 50 = 1 ∧ depth 100 0 25 25 = 2 ∧ depth 100 50 10 40 = 2 := by
  decide +kernel

end SqlBuilder.Sorting
