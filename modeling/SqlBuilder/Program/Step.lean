import SqlBuilder.Hooks
import SqlBuilder.Program.Method
import SqlBuilder.Scenario
import SqlBuilder.Schema.Column

/-!
# Steps

A program is a list of steps. A `Step` is a call with its arguments, or one of the steps that are
not calls: raising a fault, trying a step, keeping a builder under a name. An argument (`Arg`) is an
expression for a value, which is evaluated anew whenever the step is run. It may itself be a
program: a query that is built on the spot, or a callback that is applied to a builder.

A `Behaviour` is what a listener does when it is told of an event. Listeners and filters are
functions alike (`Function`), and nothing keeps one of them from being registered as the other.
-/

set_option autoImplicit false

namespace SqlBuilder

mutual

/-- An expression for an argument of a call. -/
inductive Arg where
  | value (v : Value)
  | list (items : List Arg)
  | tuple (items : List Arg)
  | map (entries : List (Arg × Arg))
  /-- An object with fixed fields, some of which are given. -/
  | record (kind : RecordKind) (fields : List (String × Arg))
  | raw (sql bindings : Arg)
  | member (className name : String) (value : Arg)
  | aliased (expression name : Arg)
  /-- Conditions in parentheses, each an object. -/
  | group (conditions : List Arg)
  /-- A column by its parts in order, further parts by name, and what is said about it then. -/
  | column (parts : List Arg) (fields : List (String × Arg))
      (modifiers : List (Column.Modifier × List Arg))
  /-- The builder kept under a name. -/
  | kept (name : String)
  /-- The builder a program ends with that starts from a fresh one. -/
  | query (steps : List Step)
  /-- A program to be applied to a builder. -/
  | callback (steps : List Step)

/-- What a listener does. -/
inductive Behaviour where
  | observe
  | raise (message : String)
  /-- Removes a listener. -/
  | remove (event id : Value)
  /-- Applies a program to the builder of the event. -/
  | apply (steps : List Step)

/-- A step of a program. -/
inductive Step where
  | call (m : Method) (args : List Arg)
  /-- A transaction of the current builder, or of a builder on the standing connection. -/
  | transaction (standing : Bool) (callback : Arg)
  | raise (message : Arg)
  /-- Runs a step and goes on if it fails. -/
  | attempt (step : Step)
  | keep (name : String)
  | use (name : String)
  | setStatements (statements : Arg)
  /-- Works on the statements of a kept builder from now on. -/
  | shareStatements (name : String)
  /-- Works on those of a member of its union from now on. -/
  | shareMember (name : String) (place : Nat)
  | copyStatements (name : String)
  /-- Moves the builder to the first connection, or the second. -/
  | setConnection (second : Bool)
  | trace (on : Bool)
  /-- Changes what the scenario of the first connection says. -/
  | configure (what : Provision) (v : Arg)
  /-- Connects anew: the connection becomes the first one and the standing one. -/
  | connect (settings : List (String × Arg)) (provisions : List (Provision × Arg))
  | addListener (event id : Arg) (behaviour : Behaviour) (answersTrue : Bool)
  | addFilter (name id : Arg) (kind : FilterKind) (operand : Arg)

end

/-- Something that can be registered with the hooks of a connection. -/
inductive Function where
  | listener (behaviour : Behaviour)
  | filter (rule : FilterRule)

instance : Inhabited Arg := ⟨.value .null⟩

instance : Inhabited Step := ⟨.raise default⟩

/-- What a function makes of a value. A listener expects to be told of an event, which a value is
not. -/
def Function.apply (f : Function) (v : Value) : Result Value :=
  match f with
  | .filter rule => rule.apply v
  | .listener _ => misuse .missingAttribute

end SqlBuilder
