import SqlBuilder.Builder.Tables

/-!
# Selected columns

What a builder selects: names, raw fragments, lists of those, and maps from expressions to aliases.
`outputColumns` tells by which names the result will have its columns.
-/

set_option autoImplicit false

namespace SqlBuilder.Builder

open SqlBuilder.Session

mutual

/-- The selected expressions of one argument. -/
def collectField (b : Nat) : Value → Action (List Value)
  | .map entries => entries.mapM fun (expression, name) => do
    pure (.aliased (← addPrefix b expression true) name)
  | .list fields | .tuple fields => collectFields b fields
  | field => do pure [← addPrefix b field true]

/-- The selected expressions of several arguments. -/
def collectFields (b : Nat) : List Value → Action (List Value)
  | [] => pure []
  | field :: fields => do
    let items ← collectField b field
    pure (items ++ (← collectFields b fields))

end

/-- Selects more expressions. -/
def select (b : Nat) (fields : List Value) : Action Unit := do
  let items ← collectFields b fields
  let overwrite ← overwrites b
  change b (·.addSelects overwrite items)

/-- Selects more expressions as distinct. -/
def selectDistinct (b : Nat) (fields : List Value) : Action Unit := do
  let items ← collectFields b fields
  let overwrite ← overwrites b
  change b (·.addDistincts overwrite items)

/-- The part of a name by which its column is known: the second of its parts between dots, or the
only one; none if one of them is a star. -/
def columnName? (s : String) : Option String :=
  let parts := s.splitOn "."
  if parts.contains "*" then none else parts[1]?.or parts[0]?

/-- The selected columns by the names they have in the result. Of raw fragments only those with an
alias would have a name, but what they select is not known. -/
def outputColumns (s : Statements) : Result (List (Value × Value)) := do
  (← s.selects.listed).foldlM (fun columns item =>
    match item with
    | .aliased (.text expression) name =>
      if name.isKey then .ok (Value.insert columns name (.text expression)) else misuse .wrongType
    | .text name =>
      .ok <| match columnName? name with
        | some column => Value.insert columns (.text column) (.text name)
        | none => columns
    | _ => .ok columns) []

end SqlBuilder.Builder
