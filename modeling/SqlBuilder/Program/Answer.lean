import SqlBuilder.Fault
import SqlBuilder.Journal
import SqlBuilder.Statements

/-!
# Answers

What a step of a program answers: its `Outcome`, the answers of the callbacks that ran inside it,
and what was journalled since the answer before.
-/

set_option autoImplicit false

namespace SqlBuilder

/-- How a step ended. -/
inductive Outcome where
  /-- With a builder, and what it compiles to now. -/
  | compiled (result : Result CompiledQuery)
  /-- With a builder that is not compiled. -/
  | builder
  | value (v : Value)
  /-- With a query, which is shown with its bindings as literals besides. -/
  | query (q : Option (CompiledQuery × Value))
  | statements (s : Statements)
  /-- With a transaction. `same` says that it is the current builder. -/
  | transaction (handle : Value) (same : Bool)
  | failed (f : Fault)
  /-- With a fault that was to be expected. -/
  | caught (f : Fault)

/-- The answer of a step. -/
structure Answer where
  outcome : Outcome
  /-- The answers of the callbacks that ran inside the step. -/
  inner : List Answer := []
  log : List Entry := []

instance : Inhabited Answer := ⟨⟨.builder, [], []⟩⟩

end SqlBuilder
