import SqlBuilder.Builder.Conditions

/-!
# Ordering, grouping, paging, unions

The remaining clauses of a query. A map of fields gives each its own direction; the members of a
union are taken as they are at the time of the call.
-/

set_option autoImplicit false

namespace SqlBuilder.Builder

open SqlBuilder.Session

/-- The fields to order by, each with its direction. -/
def orderings (fields direction : Value) : List (Value × Value) :=
  match fields with
  | .map entries => entries
  | .list fields | .tuple fields => fields.map (·, direction)
  | field => [(field, direction)]

/-- Orders by more fields. -/
def orderBy (b : Nat) (fields direction : Value) : Action Unit :=
  (orderings fields direction).forM fun (field, direction) => do
    let field ← addPrefix b field true
    let overwrite ← overwrites b
    let direction := Value.text (Text.upper direction.toText)
    tryEdit b (·.addOrder? overwrite { field, direction })

/-- Groups by more fields. Before a field gets its prefix it is made sure the groupings grow. -/
def groupBy (b : Nat) (fields : List Value) : Action Unit := do
  let overwrite ← overwrites b
  edit b (·.openGroups overwrite)
  fields.forM fun field => do
    change b (·.addGroups [])
    let fields ← match field with
      | .list items | .tuple items => addPrefixAll b items true
      | field => do pure [← addPrefix b field true]
    change b (·.addGroups fields)

/-- Limits the number of rows. -/
def limit (b : Nat) (v : Value) : Action Unit := do
  let n ← ofResult v.toWhole
  edit b fun s => { s with limit := .int n }

/-- Skips rows. -/
def offset (b : Nat) (v : Value) : Action Unit := do
  let n ← ofResult v.toWhole
  edit b fun s => { s with offset := .int n }

/-- Locks the rows. -/
def lock (b : Nat) (statement : Value) : Action Unit :=
  edit b fun s => { s with lock := statement }

/-- Says what an insert does to a row that is already there. -/
def onDuplicate (b : Nat) (row : Value) : Action Unit := do
  let row ← ofResult row.toEntries
  edit b fun s => { s with onDuplicate := .map row }

/-- The type of a union in capitals. -/
def unionType (type : Value) : Result String :=
  if !type.isTrue then .ok ""
  else match type with
    | .text s =>
      let name := Text.upper s
      if ValidationCause.unionTypes.contains name then .ok name
      else .error (.validation (.unknownUnion s))
    | .bytes octets => .error (.validation (.unknownUnion (Text.displayOctets octets)))
    | _ => misuse .missingAttribute

/-- A union with another builder. -/
def union (b : Nat) (other type : Value) : Action Unit := do
  let type ← ofResult (unionType type)
  let member ← statementsOf (← Operand.builderOf other)
  change b (·.addUnion member (.text type))

end SqlBuilder.Builder
