import SqlBuilder.Statements
import SqlBuilder.Value.Conversion

/-!
# What the clauses list

The expressions, tables, groupings and aliases of statements, as they are read from the values that
stand in the clauses.
-/

set_option autoImplicit false

namespace SqlBuilder

namespace Value

/-- What a clause lists: nothing where its value counts as false, otherwise what a loop over it
meets. -/
def listed (clause : Value) : Result (List Value) :=
  if clause.isTrue then clause.toItems else .ok []

/-- A clause with more behind what it lists. Only a list grows. -/
def extended (clause : Value) (more : List Value) : Result Value :=
  match clause with
  | .list items => .ok (.list (items ++ more))
  | _ => misuse .missingAttribute

/-- One of the items in order, or in a map what is under the number that stands for it. -/
def chosen (clause : Value) (choose : List Value → Option Value) (index : Int) : Result Value :=
  let found : Option Value → Result Value
    | some item => .ok item
    | none => misuse .missingKey
  match clause with
  | .map entries => found (lookup entries (.int index))
  | .list items | .tuple items => found (choose items)
  | .text _ | .bytes _ => do found (choose (← clause.toItems))
  | _ => misuse .wrongType

/-- The first item. -/
def front (clause : Value) : Result Value := clause.chosen List.head? 0

/-- The last item. -/
def back (clause : Value) : Result Value := clause.chosen List.getLast? (-1)

/-- The place in a list that a number stands for, if it is there: negative ones count from the
end. -/
def placeOf (length : Nat) (n : Int) : Result Nat :=
  let place := if n < 0 then n + length else n
  if 0 ≤ place && place < length then .ok place.toNat else misuse .missingPlace

/-- A collection with a value under a key. In a list the keys are the numbers of the places that are
there. -/
def assigned (collection key v : Value) : Result Value :=
  match collection, key with
  | .map entries, key =>
    if key.isKey then .ok (.map (insert entries key v)) else misuse .wrongType
  | .list items, .int n => do pure (.list (items.set (← placeOf items.length n) v))
  | .list items, .bool b => do
    pure (.list (items.set (← placeOf items.length (if b then 1 else 0)) v))
  | _, _ => misuse .wrongType

end Value

namespace Statements

/-! ## Expressions -/

/-- Some expression is selected as distinct. -/
def isDistinct (s : Statements) : Bool := s.distincts.isTrue

/-- The selected expressions, the distinct ones first. -/
def selected (s : Statements) : Result (List Value) := do
  let selects ← s.selects.listed
  pure ((← s.distincts.listed) ++ selects)

/-- The fields that are grouped by. -/
def groupings (s : Statements) : Result (List Value) := s.groupBys.listed

/-! ## Tables -/

/-- Some table is selected from or written to. -/
def hasTables (s : Statements) : Bool := s.tables.isTrue

/-- The tables that are selected from. -/
def sources (s : Statements) : Result (List Value) := s.tables.listed

/-- The alias of a table, or null. -/
def aliasOf (s : Statements) (table : Value) : Result Value :=
  match s.aliases with
  | .map entries =>
    if table.isKey then .ok ((Value.lookup entries table).getD .null) else misuse .wrongType
  | aliases =>
    if aliases.isTrue then misuse .missingAttribute
    else if table.isKey then .ok .null
    else misuse .wrongType

/-! ## Copies -/

/-- Statements of their own with the same clauses; their groupings are a list. -/
def copied (s : Statements) : Result Statements := do
  let groupings ← s.groupBys.toItems
  if s.unions.isNone then misuse .wrongType
  else pure { s with groupBys := .list groupings }

/-! ## Laws -/

/-- What a builder has collected can be copied, and the copy is the same. -/
theorem copied_eq {s : Statements} {fields : List Value} {members : List UnionEntry}
    (hg : s.groupBys = .list fields) (hu : s.unions = some members) : s.copied = .ok s := by
  cases s
  simp only at hg hu
  subst hg hu
  rfl

end Statements

end SqlBuilder
