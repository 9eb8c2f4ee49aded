import SqlBuilder.Session

/-!
# Operands

What a builder's method is given once its arguments are evaluated: a value, or a callback to be
applied to a builder.
-/

set_option autoImplicit false

namespace SqlBuilder

/-- An evaluated argument. -/
inductive Operand where
  | value (v : Value)
  /-- A callback, told from others by a number. -/
  | callback (identity : Nat) (f : Nat → Session.Action Unit)

instance : Inhabited Operand := ⟨.value .null⟩

namespace Operand

/-- The operand as a value. -/
def plain : Operand → Value
  | .value v => v
  | .callback identity _ => .function identity

/-- Applies a callback to a builder; nothing else can be applied. -/
def apply (op : Operand) (b : Nat) : Session.Action Unit :=
  match op with
  | .callback _ f => f b
  | .value _ => throw (.misuse .wrongType)

/-- The builder a value stands for, by its number; other values have no statements. -/
def builderOf (v : Value) : Session.Action Nat :=
  match v with
  | .builder id _ => pure id
  | _ => throw (.misuse .missingAttribute)

end Operand

end SqlBuilder
