import SqlBuilder.Fault

/-!
# Registry of dialects

Dialects by the names under which connections ask for them. A name may be registered again, and a
dialect may have several names. Anything that can be a key of a map can be such a name, but only
texts can be listed in order.
-/

set_option autoImplicit false

namespace SqlBuilder

/-- Names and the dialects they stand for, in order of registration. -/
structure Registry where
  entries : List (Value × Dialect)

namespace Registry

/-- The dialects under their own names. -/
def standard : Registry := ⟨Dialect.all.map fun d => (.text d.name, d)⟩

/-- The dialect of a name. -/
def find? (r : Registry) (name : Value) : Result (Option Dialect) :=
  if name.isKey then .ok ((r.entries.find? fun (n, _) => n.same name).map Prod.snd)
  else misuse .wrongType

/-- The registered names, sorted. -/
def names (r : Registry) : Result (List String) :=
  match r.entries.mapM fun (name, _) => name.text? with
  | some names => .ok (names.mergeSort fun a b => !(b < a))
  | none => misuse .wrongType

/-- The dialect of a name, or the fault that there is none. -/
def find (r : Registry) (name : Value) : Result Dialect := do
  match ← r.find? name with
  | some dialect => pure dialect
  | none => throw (.configuration (.unsupportedDialect name.toText (← r.names)))

/-- The registry with a name for a dialect. -/
def register (r : Registry) (name : Value) (d : Dialect) : Result Registry := do
  match ← r.find? name with
  | some _ => pure ⟨r.entries.map fun (n, e) => if n.same name then (n, d) else (n, e)⟩
  | none => pure ⟨r.entries ++ [(name, d)]⟩

/-- An adapter for a registered name. -/
def create (r : Registry) (name : Value) (quoteIdentifiers : Bool) : Result Adapter := do
  pure { dialect := ← r.find name, quoteIdentifiers }

end Registry

end SqlBuilder
