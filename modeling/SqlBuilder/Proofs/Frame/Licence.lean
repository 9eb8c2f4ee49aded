import SqlBuilder.Program.Run

/-!
# What a program may do

A `Licence` says which of the steps a program may have, at any depth, that reach beyond the builder
they are run on: steps that go over to another builder or share its statements, steps that bring
statements of their own, steps that go over to those of a member of a union, and steps that register
listeners.
-/

set_option autoImplicit false

namespace SqlBuilder

/-- What a program may do besides what every program may. -/
structure Licence where
  /-- Goes over to other builders and shares their statements. -/
  roams : Bool := false
  /-- Brings statements that are not those of a builder. -/
  gives : Bool := false
  /-- Works on the statements of a member of a union. -/
  adopts : Bool := false
  /-- Registers listeners. -/
  listens : Bool := false
  deriving Repr, DecidableEq

mutual

/-- Evaluating the argument, and applying it if it is a callback, is allowed. -/
def Arg.allowed (l : Licence) : Arg → Bool
  | .value _ | .kept _ => true
  | .list items | .tuple items | .group items => allowedArgs l items
  | .map entries => allowedEntries l entries
  | .record _ fields => allowedFields l fields
  | .raw a b | .aliased a b => a.allowed l && b.allowed l
  | .member _ _ a => a.allowed l
  | .column parts fields modifiers =>
    allowedArgs l parts && allowedFields l fields && allowedModifiers l modifiers
  | .query steps | .callback steps => allowedSteps l steps

/-- All of the arguments are allowed. -/
def allowedArgs (l : Licence) : List Arg → Bool
  | [] => true
  | a :: as => a.allowed l && allowedArgs l as

/-- The entries of a map are allowed. -/
def allowedEntries (l : Licence) : List (Arg × Arg) → Bool
  | [] => true
  | (k, a) :: rest => k.allowed l && a.allowed l && allowedEntries l rest

/-- Named arguments are allowed. -/
def allowedFields (l : Licence) : List (String × Arg) → Bool
  | [] => true
  | (_, a) :: rest => a.allowed l && allowedFields l rest

/-- What a scenario says is allowed. -/
def allowedProvisions (l : Licence) : List (Provision × Arg) → Bool
  | [] => true
  | (_, a) :: rest => a.allowed l && allowedProvisions l rest

/-- What is said about a column is allowed. -/
def allowedModifiers (l : Licence) : List (Column.Modifier × List Arg) → Bool
  | [] => true
  | (_, args) :: rest => allowedArgs l args && allowedModifiers l rest

/-- What a listener does is allowed. -/
def Behaviour.allowed (l : Licence) : Behaviour → Bool
  | .observe | .raise _ | .remove _ _ => true
  | .apply steps => allowedSteps l steps

/-- The step is allowed. -/
def Step.allowed (l : Licence) : Step → Bool
  | .call _ args => allowedArgs l args
  | .transaction _ a | .raise a | .configure _ a => a.allowed l
  | .attempt step => step.allowed l
  | .keep _ | .copyStatements _ | .setConnection _ | .trace _ => true
  | .use _ | .shareStatements _ => l.roams
  | .shareMember _ _ => l.roams && l.gives && l.adopts
  | .setStatements a => l.gives && a.allowed l
  | .connect settings provisions => allowedFields l settings && allowedProvisions l provisions
  | .addListener event id behaviour _ =>
    l.listens && event.allowed l && id.allowed l && behaviour.allowed l
  | .addFilter name id _ operand => name.allowed l && id.allowed l && operand.allowed l

/-- All of the steps are allowed. -/
def allowedSteps (l : Licence) : List Step → Bool
  | [] => true
  | step :: steps => step.allowed l && allowedSteps l steps

end

/-- What the function does where it listens is allowed. -/
def Function.allowed (l : Licence) : Function → Bool
  | .listener behaviour => behaviour.allowed l
  | .filter _ => true

/-- Connecting to the target is allowed. -/
def Target.allowed (l : Licence) (t : Target) : Bool :=
  allowedFields l t.settings && allowedProvisions l t.provisions

/-- The program is allowed, and so are the targets it connects to. -/
def Program.allowed (l : Licence) (p : Program) : Bool :=
  (p.first.join.all (·.allowed l)) && p.second.all (·.allowed l) && allowedSteps l p.steps

end SqlBuilder
