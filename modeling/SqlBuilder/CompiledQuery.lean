import SqlBuilder.Dialect
import SqlBuilder.Value

/-!
# Compiled queries

A `CompiledQuery` is SQL text with the values for its placeholders. The values of `?` placeholders
are listed in textual order, those of `:name` placeholders are given by name. What is compiled is
always a text; a query that is given as SQL keeps whatever was given, to be refused when it is run.
-/

set_option autoImplicit false

namespace SqlBuilder

/-- The values for the placeholders of a text. -/
inductive Bindings where
  /-- In the order of the placeholders. -/
  | positional (values : List Value)
  /-- By the name of the placeholder. -/
  | named (entries : List (Value × Value))
  deriving Repr

/-- SQL with placeholders, the values for them, and the adapter that renders the values as literals,
if there is one. -/
structure CompiledQuery where
  sql : Value
  bindings : Bindings
  adapter : Option Adapter := none
  deriving Repr

namespace Bindings

/-- The values, in order. -/
def values : Bindings → List Value
  | .positional vs => vs
  | .named entries => entries.map Prod.snd

end Bindings

namespace CompiledQuery

/-- What a raw fragment takes over as its bindings. -/
def rawBindings (q : CompiledQuery) : List Value :=
  match q.bindings with
  | .positional vs => vs
  | .named entries => entries.map Prod.fst

end CompiledQuery

end SqlBuilder
