import SqlBuilder.Fault
import SqlBuilder.Text.Case

/-!
# Operations

The kinds of statements a query can be compiled to, and their names.
-/

set_option autoImplicit false

namespace SqlBuilder

/-- A kind of statement. -/
inductive Operation where
  | select
  | insert
  | insertIgnore
  | replace
  | update
  | delete
  /-- The collected conditions alone. -/
  | criteria
  deriving Repr, DecidableEq

namespace Operation

/-- The name of an operation. -/
def name : Operation → String
  | .select => "select"
  | .insert => "insert"
  | .insertIgnore => "insertignore"
  | .replace => "replace"
  | .update => "update"
  | .delete => "delete"
  | .criteria => "criteriaonly"

/-- Every operation. -/
def all : List Operation :=
  [.select, .insert, .insertIgnore, .replace, .update, .delete, .criteria]

/-- The operation of a name in any case. -/
def parse (v : Value) : Result Operation :=
  match all.find? fun op => op.name == Text.lower v.toText with
  | some op => .ok op
  | none => .error (.configuration (.unknownOperation v.toText))

end Operation

end SqlBuilder
