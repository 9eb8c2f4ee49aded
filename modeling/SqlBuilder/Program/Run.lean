import SqlBuilder.Program.Call
import SqlBuilder.Statements.Reading

/-!
# Running programs

`Program.run` connects, runs the steps one after another and returns an answer for each. A step that
fails is answered by its fault and the program goes on. The steps of a callback are answered inside
the step that calls it; there a fault is passed on once it is answered. Listeners may run programs
that call listeners again, up to a depth that is given.
-/

set_option autoImplicit false

namespace SqlBuilder

/-- What to connect to, and how. -/
structure Target where
  settings : List (String × Arg) := []
  provisions : List (Provision × Arg) := []

/-- A program with the connections it starts from. -/
structure Program where
  /-- The first connection. Without one there is no builder to start from; a builder that is to have
  a connection and has none is a fault. -/
  first : Option (Option Target)
  second : Option Target := none
  tracing : Bool := true
  logging : Bool := false
  steps : List Step

namespace Program

open SqlBuilder.Session

/-! ## Answers -/

/-- What a builder compiles to: a select, or the conditions of a group or a join. -/
def tracedQuery (b : Nat) : Action CompiledQuery := do
  let a ← adapterOf b
  let s ← statementsOf b
  ofResult <| match (← builder b).kind with
    | .query | .transaction => a.compile .select s []
    | .criteria => a.compile .criteria s []
    | .join => a.compile .criteria s [.bool false]

/-- A builder's number as a value. -/
def builderValue (b : Nat) : Action Value := do pure (.builder b (← builder b).kind)

/-- A builder's number as a value, or null where there is none. -/
def optionalValue (b : Option Nat) : Action Value := do
  pure ((← b.mapM builderValue).getD .null)

/-- How a step ended that gives something back. -/
def outcome (current : Option Nat) : Output → Action Outcome
  | .builder b => do
    if (← get).tracing then pure (.compiled (← outcomeOf (do tracedQuery (← present b))))
    else pure .builder
  | .value v => pure (.value v)
  | .query q => do pure (.query (← q.mapM fun q => do pure (q, ← ofResult q.interpolated)))
  | .statements s => pure (.statements s)
  | .transaction b => do pure (.transaction (← builderValue b) (current == some b))
  | .caught f => pure (.caught f)

/-- Answers a step after the `earlier` answers, with what has been answered inside it and journalled
since. -/
def conclude (earlier : List Answer) (outcome : Outcome) : Action Unit :=
  modify fun s =>
    let log := if s.logging then s.journal else s.journal.filter fun e => !e.isLogged
    { s with answers := earlier ++ [⟨outcome, s.answers, log⟩], journal := [] }

/-- The builder that is current after a step. -/
def next (current : Option Nat) : Output → Option Nat
  | .builder b => b
  | _ => current

/-- A step with how it ended. It fails as well if that cannot be told. Whether it fails or not, what
it did to the statements of the current builder is settled. -/
def told (current : Option Nat) (step : Action Output) : Action (Output × Outcome) := do
  let record := (← get).recordOf current
  let ended ← outcomeOf step
  settle record
  let output ← ofResult ended
  pure (output, ← outcome current output)

/-- Runs a step and answers it; the builder that is current then. -/
def answered (current : Option Nat) (step : Action Output) : Action (Option Nat) := do
  let earlier := (← get).answers
  modify fun s => { s with answers := [] }
  match ← outcomeOf (told current step) with
  | .ok (output, outcome) =>
    conclude earlier outcome
    pure (next current output)
  | .error f =>
    conclude earlier (.failed f)
    throw f

/-! ## Steps that are not calls -/

/-- What is kept under a name: a builder, or none. -/
def keptBuilder (name : String) : Action (Option Nat) := do
  match (← get).kept.lookup name with
  | some b => pure b
  | none => throw (.misuse .missingKey)

/-- Keeps a builder, or none, under a name. -/
def keep (name : String) (b : Option Nat) : Action Unit :=
  modify fun s => { s with kept := (name, b) :: s.kept.filter (·.1 != name) }

/-- Runs a transaction of a builder. -/
def transact (b : Nat) (callback : Operand) : Action Output := do
  let (t, _) ← Builder.transaction b callback.apply
  pure (.transaction t)

/-- A fresh builder of the first connection. -/
def freshBuilder : Action Nat := do
  match (← get).first with
  | some c => newBuilder c .query .empty
  | none => throw (.configuration .noConnection)

/-! ## Running -/

mutual

/-- Evaluates an argument. Everything that can be told apart is made anew. -/
def evaluate : Arg → Action Operand
  | .callback steps => do pure (.callback (← newObject) fun b => runAll steps (some b))
  | .value v => do pure (.value (v.identified (← newObject)))
  | .list items => do pure (.value (.list (← evaluateItems items)))
  | .tuple items => do pure (.value (.tuple (← evaluateItems items)))
  | .map entries => do pure (.value (.map (Value.ofPairs (← evaluateEntries entries))))
  | .record kind fields => do
    match Value.ofFields? kind (← evaluateFields fields) with
    | some v => pure (.value v)
    | none => throw (.misuse .wrongType)
  | .raw sql bindings => do
    let sql ← evaluate sql
    pure (.value (.ofRaw sql.plain.toText (← evaluate bindings).plain))
  | .member className name value => do
    let value ← evaluate value
    pure (.value (.member className name value.plain (← newObject)))
  | .aliased expression name => do
    let expression ← evaluate expression
    pure (.value (.aliased expression.plain (← evaluate name).plain))
  | .group conditions => do
    let conditions ← evaluateItems conditions
    pure (.value (.group (← ofResult (conditions.mapM Condition.ofValue))))
  | .column parts fields modifiers => do
    let parts ← evaluateItems parts
    let c ← ofResult (Column.read parts (← evaluateFields fields))
    pure (.value (.column (← modified c modifiers)))
  | .kept name => do pure (.value (← optionalValue (← keptBuilder name)))
  | .query steps => do
    let b ← freshBuilder
    pure (.value (← optionalValue (← applyAll steps (some b))))

/-- Evaluates arguments as values, in order. -/
def evaluateItems : List Arg → Action (List Value)
  | [] => pure []
  | a :: as => do
    let op ← evaluate a
    pure (op.plain :: (← evaluateItems as))

/-- Evaluates the entries of a map, in order. -/
def evaluateEntries : List (Arg × Arg) → Action (List (Value × Value))
  | [] => pure []
  | (k, a) :: rest => do
    let key := (← evaluate k).plain
    let op ← evaluate a
    if !key.isKey then throw (.misuse .wrongType)
    pure ((key, op.plain) :: (← evaluateEntries rest))

/-- Evaluates named arguments, in order. -/
def evaluateFields : List (String × Arg) → Action (List (String × Value))
  | [] => pure []
  | (name, a) :: rest => do
    let op ← evaluate a
    pure ((name, op.plain) :: (← evaluateFields rest))

/-- Evaluates what a scenario says, in order. -/
def evaluateProvisions : List (Provision × Arg) → Action (List (Provision × Value))
  | [] => pure []
  | (what, a) :: rest => do
    let op ← evaluate a
    pure ((what, op.plain) :: (← evaluateProvisions rest))

/-- A column with what is said about it, in order. -/
def modified (c : Column) : List (Column.Modifier × List Arg) → Action Column
  | [] => pure c
  | (m, args) :: rest => do
    let c ← ofResult (c.modify m (← evaluateItems args))
    modified c rest

/-- Evaluates the arguments of a call, in order. -/
def evaluateAll : List Arg → Action (List Operand)
  | [] => pure []
  | a :: as => do
    let op ← evaluate a
    pure (op :: (← evaluateAll as))

/-- Runs a step on the current builder. -/
def perform : Step → Option Nat → Action Output
  | .call m args, current => do
    Call.find m current
    Call.perform m current (← evaluateAll args)
  | .transaction true callback, _ => do
    let callback ← evaluate callback
    transact (← Call.standingBuilder) callback
  | .transaction false callback, current => do
    let b ← present current
    transact b (← evaluate callback)
  | .raise message, _ => do throw (.raised (← evaluate message).plain.toText)
  | .attempt step, current => do
    match ← outcomeOf (told current (perform step current)) with
    | .ok (output, _) => pure output
    | .error f => pure (.caught f)
  | .keep name, current => do
    keep name current
    pure (.value .null)
  | .use name, _ => do pure (.builder (← keptBuilder name))
  | .setStatements s, current => do
    let b ← present current
    let s ← evaluate s
    let st ← ofResult (Statements.ofValue s.plain)
    setRecord b (← newRecord (st.toldApart [← newObject]))
    pure (.builder (some b))
  | .shareStatements name, current => do
    let b ← present current
    setRecord b (← builder (← present (← keptBuilder name))).record
    pure (.builder (some b))
  | .shareMember name place, current => do
    let b ← present current
    let s ← statementsOf (← present (← keptBuilder name))
    setRecord b (← memberRecord (← ofResult (s.member place)))
    pure (.builder (some b))
  | .copyStatements name, current => do
    let b ← present current
    let s ← statementsOf (← present (← keptBuilder name))
    setRecord b (← newRecord (← ofResult s.copied))
    pure (.builder (some b))
  | .setConnection second, current => do
    let b ← present current
    let s ← get
    updateBuilder b fun builder =>
      { builder with connection := if second then s.second else s.first }
    pure (.builder (some b))
  | .trace on, _ => do
    modify fun s => { s with tracing := on }
    pure (.value .null)
  | .configure what v, _ => do
    let c ← firstConnection
    configure c what (← evaluate v).plain
    pure (.value .null)
  | .connect settings provisions, _ => do
    modify fun s => { s with first := none }
    let settings ← ofResult (Settings.read (← evaluateFields settings))
    let scenario ← ofResult (Scenario.ofProvisions (← evaluateProvisions provisions))
    let c ← connect settings scenario
    modify fun s => { s with first := some c, standing := some c }
    pure (.value .null)
  | .addListener event id behaviour answersTrue, _ => do
    let c ← firstConnection
    let event ← evaluate event
    let id ← introduce (← evaluate id).plain (pure (.listener behaviour))
    Call.updateHooks c (·.addListener event.plain id)
    pure (.value (if answersTrue then .bool true else .null))
  | .addFilter name id kind operand, _ => do
    let c ← firstConnection
    let name ← evaluate name
    let id ← introduce (← evaluate id).plain do
      pure (.filter ⟨kind, (← evaluate operand).plain⟩)
    Call.updateHooks c (·.addFilter name.plain id)
    pure (.value .null)

/-- Applies steps to a builder without answering them; the builder that is current at the end. -/
def applyAll : List Step → Option Nat → Action (Option Nat)
  | [], current => pure current
  | step :: steps, current => do
    let (output, _) ← told current (perform step current)
    applyAll steps (next current output)

/-- Applies steps to a builder and answers them, up to the first that fails. -/
def runAll : List Step → Option Nat → Action Unit
  | [], _ => pure ()
  | step :: steps, current => do
    runAll steps (← answered current (perform step current))

end

/-- Runs the steps of a program and answers them; a step that fails does not end the program. -/
def runSteps : List Step → Option Nat → Action Unit
  | [], _ => pure ()
  | step :: steps, current => do
    match ← outcomeOf (answered current (perform step current)) with
    | .ok current => runSteps steps current
    | .error _ => runSteps steps current

/-- Runs the steps of a listener, which find settled what the builder of the event has done so
far. -/
def listen (steps : List Step) (b : Option Nat) : Action Unit := do
  settle ((← get).recordOf b)
  runAll steps b

/-- The reaction to events that are nested no deeper than `depth`. -/
def reaction (depth : Nat) : Reaction :=
  match depth with
  | 0 => fun _ _ => throw (.general "Events are nested too deeply.")
  | depth + 1 => fun steps b => (listen steps b).run (reaction depth)

/-- Makes a connection to a target; its number. The settings are read before the scenario. -/
def connectTo (target : Target) : Action Nat := do
  let settings ← ofResult (Settings.read (← evaluateFields target.settings))
  let scenario ← ofResult (Scenario.ofProvisions (← evaluateProvisions target.provisions))
  connect settings scenario

/-- Makes the connections of a program; the builder it starts from, if there is one. -/
def start (p : Program) : Action (Option Nat) := do
  let first ← match p.first with
    | some (some target) => some <$> connectTo target
    | some none | none => pure none
  modify fun s => { s with first }
  let second ← p.second.mapM connectTo
  modify fun s => { s with second }
  match p.first with
  | some _ => some <$> freshBuilder
  | none => pure none

/-- The session a program starts in. -/
def session (p : Program) : Session := { tracing := p.tracing, logging := p.logging }

/-- The answers of the steps of a program, or the fault for which it cannot start. -/
def run (p : Program) (depth : Nat) : Result (List Answer) :=
  let act : Action Unit := do runSteps p.steps (← p.start)
  let (result, s) := ((act.run (reaction depth)).run.run p.session)
  match result with
  | .ok () => .ok s.answers
  | .error f => .error f

/-! ## Single values -/

/-- The value of an expression by itself. No builder is kept and there is nothing to connect to. -/
def valueOf (a : Arg) : Result Value :=
  let act : Action Value := do pure (← evaluate a).plain
  ((act.run (reaction 0)).run.run {}).1

end Program

end SqlBuilder
