import SqlBuilder.Builder.Operand

/-!
# Table prefixes

Names of tables are given without the prefix that all tables of a connection share; a builder puts
it in front of them. Among column references (`mixed`) only those with a dot name a table.
-/

set_option autoImplicit false

namespace SqlBuilder.Builder

open SqlBuilder.Session

/-- A name with a prefix; what is not a text stays as it is. -/
def prefixedName (p : Value) (mixed : Bool) (v : Value) : Result Value :=
  match v with
  | .text s =>
    if mixed && !s.toList.contains '.' then .ok v else p.plus v
  | v => .ok v

/-- Names with a prefix: the items of a list, the keys of a map, or a single name. -/
def prefixed (p : Value) (mixed : Bool) (v : Value) : Result Value :=
  if !p.isTrue then .ok v
  else match v with
    | .map entries => do
      pure (.map (Value.ofPairs (← entries.mapM fun (k, x) => do
        pure (← prefixedName p mixed k, x))))
    | .list vs | .tuple vs => do pure (.list (← vs.mapM (prefixedName p mixed)))
    | v => prefixedName p mixed v

/-- Names with the prefix of a builder. -/
def addPrefix (b : Nat) (v : Value) (mixed : Bool) : Action Value := do
  ofResult (prefixed (← tablePrefixOf b) mixed v)

/-- The items of a list with the prefix of a builder. -/
def addPrefixAll (b : Nat) (vs : List Value) (mixed : Bool) : Action (List Value) := do
  pure ((← addPrefix b (.list vs) mixed).items?.getD [])

end SqlBuilder.Builder
