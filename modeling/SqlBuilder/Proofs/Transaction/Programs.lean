import SqlBuilder.Program.Run
import SqlBuilder.Proofs.Transaction.Calls

/-!
# Which programs are orderly

A program is orderly if no call in it commits, or rolls back where that is not allowed, at any
depth: in its arguments, in its callbacks and in the transactions it makes of its own. Neither does
it add listeners, nor change what its client library does.
-/

set_option autoImplicit false

namespace SqlBuilder

open Session

variable {w : Watch}

mutual

/-- Evaluating the argument, and applying it if it is a callback, is orderly. -/
def Arg.orderly (early : Bool) : Arg → Bool
  | .value _ | .kept _ => true
  | .list items | .tuple items | .group items => orderlyArgs early items
  | .map entries => orderlyEntries early entries
  | .record _ fields => orderlyFields early fields
  | .raw a b | .aliased a b => a.orderly early && b.orderly early
  | .member _ _ a => a.orderly early
  | .column parts fields modifiers =>
    orderlyArgs early parts && orderlyFields early fields && orderlyModifiers early modifiers
  | .query steps | .callback steps => orderlySteps early steps

/-- All of the arguments are orderly. -/
def orderlyArgs (early : Bool) : List Arg → Bool
  | [] => true
  | a :: as => a.orderly early && orderlyArgs early as

/-- The entries of a map are orderly. -/
def orderlyEntries (early : Bool) : List (Arg × Arg) → Bool
  | [] => true
  | (k, a) :: rest => k.orderly early && a.orderly early && orderlyEntries early rest

/-- Named arguments are orderly. -/
def orderlyFields (early : Bool) : List (String × Arg) → Bool
  | [] => true
  | (_, a) :: rest => a.orderly early && orderlyFields early rest

/-- What a scenario says is orderly. -/
def orderlyProvisions (early : Bool) : List (Provision × Arg) → Bool
  | [] => true
  | (_, a) :: rest => a.orderly early && orderlyProvisions early rest

/-- What is said about a column is orderly. -/
def orderlyModifiers (early : Bool) : List (Column.Modifier × List Arg) → Bool
  | [] => true
  | (_, args) :: rest => orderlyArgs early args && orderlyModifiers early rest

/-- The step leaves the end of a transaction to whoever opened it. -/
def Step.orderly (early : Bool) : Step → Bool
  | .call m args => m.orderly early && orderlyArgs early args
  | .transaction _ a | .raise a | .setStatements a => a.orderly early
  | .attempt step => step.orderly early
  | .keep _ | .use _ | .shareStatements _ | .shareMember _ _ | .copyStatements _
  | .setConnection _ | .trace _ => true
  | .connect settings provisions =>
    orderlyFields early settings && orderlyProvisions early provisions
  | .addFilter a b _ c => a.orderly early && b.orderly early && c.orderly early
  | .configure _ _ | .addListener _ _ _ _ => false

/-- All of the steps are orderly. -/
def orderlySteps (early : Bool) : List Step → Bool
  | [] => true
  | step :: steps => step.orderly early && orderlySteps early steps

end

namespace Program

/-! ## Answers -/

theorem orderly_tracedQuery (b : Nat) : Orderly w (tracedQuery b) :=
  (orderly_adapterOf b).bind fun _ => (orderly_statementsOf b).bind fun _ =>
    (orderly_builder b).bind fun _ => orderly_ofResult _

theorem orderly_builderValue (b : Nat) : Orderly w (builderValue b) :=
  (orderly_builder b).bind fun _ => orderly_pure _

theorem orderly_optionalValue (b : Option Nat) : Orderly w (optionalValue b) := by
  cases b with
  | none => exact (orderly_pure none).bind fun _ => orderly_pure _
  | some b => exact (orderly_map (orderly_builderValue b)).bind fun _ => orderly_pure _

theorem orderly_outcome (current : Option Nat) (output : Output) :
    Orderly w (outcome current output) := by
  cases output with
  | builder b =>
    refine orderly_get.bind fun s => ?_
    split
    · exact (orderly_outcomeOf ((orderly_present b).bind orderly_tracedQuery)).bind fun _ =>
        orderly_pure _
    · exact orderly_pure _
  | query q =>
    cases q with
    | none => exact (orderly_pure none).bind fun _ => orderly_pure _
    | some q =>
      exact (orderly_map ((orderly_ofResult _).bind fun _ => orderly_pure _)).bind fun _ =>
        orderly_pure _
  | transaction b => exact (orderly_builderValue b).bind fun _ => orderly_pure _
  | _ => exact orderly_pure _

theorem orderly_conclude (earlier : List Answer) (outcome : Outcome) :
    Orderly w (conclude earlier outcome) :=
  orderly_modify fun _ => rfl

theorem orderly_settle (record : Option Nat) : Orderly w (settle record) := by
  refine orderly_modify fun s => ?_
  cases record with
  | none => rfl
  | some n => exact s.settled_connections n

theorem orderly_told (current : Option Nat) {step : Action Output} (h : Orderly w step) :
    Orderly w (told current step) :=
  orderly_get.bind fun _ => (orderly_outcomeOf h).bind fun _ => (orderly_settle _).bind fun _ =>
    (orderly_ofResult _).bind fun output => (orderly_outcome current output).bind fun _ =>
      orderly_pure _

theorem orderly_answered (current : Option Nat) {step : Action Output} (h : Orderly w step) :
    Orderly w (answered current step) := by
  refine orderly_get.bind fun s => ?_
  refine Orderly.bind (orderly_modify fun _ => rfl) fun _ => ?_
  refine (orderly_outcomeOf (orderly_told current h)).bind fun ended => ?_
  split
  · exact (orderly_conclude _ _).bind fun _ => orderly_pure _
  · exact (orderly_conclude _ _).bind fun _ => .throw _

/-! ## Steps that are not calls -/

theorem orderly_keptBuilder (name : String) : Orderly w (keptBuilder name) := by
  refine orderly_get.bind fun s => ?_
  split
  · exact orderly_pure _
  · exact .throw _

theorem orderly_transact (b : Nat) {callback : Operand} (h : callback.Orderly w) :
    Orderly w (transact b callback) :=
  (Builder.orderly_transaction b fun t => Builder.orderly_apply t h).bind fun _ => orderly_pure _

theorem orderly_freshBuilder : Orderly w freshBuilder := by
  refine orderly_get.bind fun s => ?_
  split
  · exact orderly_newBuilder _ _ _
  · exact .throw _

theorem orderly_memberRecord (e : UnionEntry) : Orderly w (memberRecord e) := by
  refine orderly_get.bind fun s => ?_
  split
  · exact orderly_pure _
  · refine (orderly_newRecord _).bind fun _ => Orderly.bind (orderly_modify fun _ => ?_) fun _ =>
      orderly_pure _
    rfl

theorem addFilter_actions {h h' : Hooks} {name id : Value} (hadded : h.addFilter name id = .ok h') :
    h'.actions = h.actions := by
  obtain ⟨key, -, hkey⟩ := bind_ok hadded
  split at hkey
  · cases hkey
    rfl
  · cases hkey

/-! ## Running -/

/-- A value is orderly as an operand. -/
theorem orderlyWith_value (v : Value) : OrderlyWith w (Operand.Orderly w) (pure (.value v)) :=
  .pure (Operand.orderly_value v)

mutual

theorem orderlyWith_evaluate : (a : Arg) → a.orderly w.early = true →
    OrderlyWith w (Operand.Orderly w) (evaluate a)
  | .callback steps, h => by
    rw [evaluate]
    refine OrderlyWith.bind orderly_newObject fun n _ => .pure fun b => ?_
    rw [Arg.orderly] at h
    exact orderly_runAll steps h (some b)
  | .value v, h => by
    rw [evaluate]
    exact OrderlyWith.bind orderly_newObject fun n _ => orderlyWith_value _
  | .list items, h => by
    rw [evaluate]
    rw [Arg.orderly] at h
    exact OrderlyWith.bind (orderly_evaluateItems items h) fun _ _ => orderlyWith_value _
  | .tuple items, h => by
    rw [evaluate]
    rw [Arg.orderly] at h
    exact OrderlyWith.bind (orderly_evaluateItems items h) fun _ _ => orderlyWith_value _
  | .map entries, h => by
    rw [evaluate]
    rw [Arg.orderly] at h
    exact OrderlyWith.bind (orderly_evaluateEntries entries h) fun _ _ => orderlyWith_value _
  | .record kind fields, h => by
    rw [evaluate]
    rw [Arg.orderly] at h
    refine OrderlyWith.bind (orderly_evaluateFields fields h) fun fields _ => ?_
    split
    · exact orderlyWith_value _
    · exact .throw _
  | .raw sql bindings, h => by
    rw [evaluate]
    rw [Arg.orderly, Bool.and_eq_true] at h
    exact (orderlyWith_evaluate sql h.1).bind fun _ _ =>
      (orderlyWith_evaluate bindings h.2).bind fun _ _ => orderlyWith_value _
  | .member className name value, h => by
    rw [evaluate]
    rw [Arg.orderly] at h
    exact (orderlyWith_evaluate value h).bind fun _ _ =>
      OrderlyWith.bind orderly_newObject fun _ _ => orderlyWith_value _
  | .aliased expression name, h => by
    rw [evaluate]
    rw [Arg.orderly, Bool.and_eq_true] at h
    exact (orderlyWith_evaluate expression h.1).bind fun _ _ =>
      (orderlyWith_evaluate name h.2).bind fun _ _ => orderlyWith_value _
  | .group conditions, h => by
    rw [evaluate]
    rw [Arg.orderly] at h
    exact OrderlyWith.bind (orderly_evaluateItems conditions h) fun _ _ =>
      OrderlyWith.bind (orderly_ofResult _) fun _ _ => orderlyWith_value _
  | .column parts fields modifiers, h => by
    rw [evaluate]
    rw [Arg.orderly, Bool.and_eq_true, Bool.and_eq_true] at h
    exact OrderlyWith.bind (orderly_evaluateItems parts h.1.1) fun _ _ =>
      OrderlyWith.bind (orderly_evaluateFields fields h.1.2) fun _ _ =>
        OrderlyWith.bind (orderly_ofResult _) fun c _ =>
          OrderlyWith.bind (orderly_modified c modifiers h.2) fun _ _ => orderlyWith_value _
  | .kept name, _ => by
    rw [evaluate]
    exact OrderlyWith.bind (orderly_keptBuilder name) fun _ _ =>
      OrderlyWith.bind (orderly_optionalValue _) fun _ _ => orderlyWith_value _
  | .query steps, h => by
    rw [evaluate]
    rw [Arg.orderly] at h
    exact OrderlyWith.bind orderly_freshBuilder fun b _ =>
      OrderlyWith.bind (orderly_applyAll steps h (some b)) fun _ _ =>
        OrderlyWith.bind (orderly_optionalValue _) fun _ _ => orderlyWith_value _

theorem orderly_evaluateItems : (as : List Arg) → orderlyArgs w.early as = true →
    Orderly w (evaluateItems as)
  | [], _ => by
    rw [evaluateItems]
    exact orderly_pure _
  | a :: as, h => by
    rw [evaluateItems]
    rw [orderlyArgs, Bool.and_eq_true] at h
    exact (orderlyWith_evaluate a h.1).orderly.bind fun _ =>
      (orderly_evaluateItems as h.2).bind fun _ => orderly_pure _

theorem orderly_evaluateEntries : (entries : List (Arg × Arg)) →
    orderlyEntries w.early entries = true → Orderly w (evaluateEntries entries)
  | [], _ => by
    rw [evaluateEntries]
    exact orderly_pure _
  | (k, a) :: rest, h => by
    rw [evaluateEntries]
    rw [orderlyEntries, Bool.and_eq_true, Bool.and_eq_true] at h
    exact (orderlyWith_evaluate k h.1.1).orderly.bind fun _ =>
      (orderlyWith_evaluate a h.1.2).orderly.bind fun _ => orderly_unless fun _ =>
        (orderly_evaluateEntries rest h.2).bind fun _ => orderly_pure _

theorem orderly_evaluateFields : (fields : List (String × Arg)) →
    orderlyFields w.early fields = true → Orderly w (evaluateFields fields)
  | [], _ => by
    rw [evaluateFields]
    exact orderly_pure _
  | (name, a) :: rest, h => by
    rw [evaluateFields]
    rw [orderlyFields, Bool.and_eq_true] at h
    exact (orderlyWith_evaluate a h.1).orderly.bind fun _ =>
      (orderly_evaluateFields rest h.2).bind fun _ => orderly_pure _

theorem orderly_evaluateProvisions : (provisions : List (Provision × Arg)) →
    orderlyProvisions w.early provisions = true → Orderly w (evaluateProvisions provisions)
  | [], _ => by
    rw [evaluateProvisions]
    exact orderly_pure _
  | (what, a) :: rest, h => by
    rw [evaluateProvisions]
    rw [orderlyProvisions, Bool.and_eq_true] at h
    exact (orderlyWith_evaluate a h.1).orderly.bind fun _ =>
      (orderly_evaluateProvisions rest h.2).bind fun _ => orderly_pure _

theorem orderly_modified (c : Column) : (modifiers : List (Column.Modifier × List Arg)) →
    orderlyModifiers w.early modifiers = true → Orderly w (modified c modifiers)
  | [], _ => by
    rw [modified]
    exact orderly_pure _
  | (m, args) :: rest, h => by
    rw [modified]
    rw [orderlyModifiers, Bool.and_eq_true] at h
    exact (orderly_evaluateItems args h.1).bind fun _ => (orderly_ofResult _).bind fun c =>
      orderly_modified c rest h.2

theorem orderlyWith_evaluateAll : (as : List Arg) → orderlyArgs w.early as = true →
    OrderlyWith w (Call.Plain w) (evaluateAll as)
  | [], _ => by
    rw [evaluateAll]
    exact .pure nofun
  | a :: as, h => by
    rw [evaluateAll]
    rw [orderlyArgs, Bool.and_eq_true] at h
    refine (orderlyWith_evaluate a h.1).bind fun op hop =>
      (orderlyWith_evaluateAll as h.2).bind fun ops hops => .pure ?_
    intro x hx
    rcases List.mem_cons.1 hx with rfl | hx
    · exact hop
    · exact hops x hx

theorem orderly_perform : (step : Step) → step.orderly w.early = true → (current : Option Nat) →
    Orderly w (perform step current)
  | .call m args, h, current => by
    rw [perform]
    rw [Step.orderly, Bool.and_eq_true] at h
    exact (Call.orderly_find m current).bind fun _ =>
      OrderlyWith.bind (orderlyWith_evaluateAll args h.2) fun _ hargs =>
        Call.orderly_perform h.1 current hargs
  | .transaction true callback, h, _ => by
    rw [perform]
    rw [Step.orderly] at h
    exact OrderlyWith.bind (orderlyWith_evaluate callback h) fun _ hcallback =>
      Call.orderly_standingBuilder.bind fun b => orderly_transact b hcallback
  | .transaction false callback, h, current => by
    rw [perform]
    rw [Step.orderly] at h
    exact (orderly_present current).bind fun b =>
      OrderlyWith.bind (orderlyWith_evaluate callback h) fun _ hcallback =>
        orderly_transact b hcallback
  | .raise message, h, _ => by
    rw [perform]
    rw [Step.orderly] at h
    exact (orderlyWith_evaluate message h).orderly.bind fun _ => .throw _
  | .attempt step, h, current => by
    rw [perform]
    rw [Step.orderly] at h
    refine (orderly_outcomeOf (orderly_told current (orderly_perform step h current))).bind
      fun ended => ?_
    split
    · exact orderly_pure _
    · exact orderly_pure _
  | .keep name, _, current => by
    rw [perform]
    refine Orderly.bind (orderly_modify fun _ => ?_) fun _ => orderly_pure _
    rfl
  | .use name, _, _ => by
    rw [perform]
    exact (orderly_keptBuilder name).bind fun _ => orderly_pure _
  | .setStatements s, h, current => by
    rw [perform]
    rw [Step.orderly] at h
    exact (orderly_present current).bind fun b => (orderlyWith_evaluate s h).orderly.bind fun _ =>
      (orderly_ofResult _).bind fun _ => orderly_newObject.bind fun _ =>
        (orderly_newRecord _).bind fun _ => (orderly_setRecord b _).bind fun _ => orderly_pure _
  | .shareStatements name, _, current => by
    rw [perform]
    exact (orderly_present current).bind fun b => (orderly_keptBuilder name).bind fun _ =>
      (orderly_present _).bind fun _ => (orderly_builder _).bind fun _ =>
        (orderly_setRecord b _).bind fun _ => orderly_pure _
  | .shareMember name place, _, current => by
    rw [perform]
    exact (orderly_present current).bind fun b => (orderly_keptBuilder name).bind fun _ =>
      (orderly_present _).bind fun _ => (orderly_statementsOf _).bind fun _ =>
        (orderly_ofResult _).bind fun _ => (orderly_memberRecord _).bind fun _ =>
          (orderly_setRecord b _).bind fun _ => orderly_pure _
  | .copyStatements name, _, current => by
    rw [perform]
    exact (orderly_present current).bind fun b => (orderly_keptBuilder name).bind fun _ =>
      (orderly_present _).bind fun _ => (orderly_statementsOf _).bind fun _ =>
        (orderly_ofResult _).bind fun _ => (orderly_newRecord _).bind fun _ =>
          (orderly_setRecord b _).bind fun _ => orderly_pure _
  | .setConnection second, _, current => by
    rw [perform]
    exact (orderly_present current).bind fun b => orderly_get.bind fun _ =>
      (orderly_updateBuilder b _).bind fun _ => orderly_pure _
  | .trace on, _, _ => by
    rw [perform]
    refine Orderly.bind (orderly_modify fun _ => ?_) fun _ => orderly_pure _
    rfl
  | .connect settings provisions, h, _ => by
    rw [perform]
    rw [Step.orderly, Bool.and_eq_true] at h
    refine Orderly.bind (orderly_modify fun _ => ?_) fun _ =>
      (orderly_evaluateFields settings h.1).bind fun _ => (orderly_ofResult _).bind fun _ =>
        (orderly_evaluateProvisions provisions h.2).bind fun _ => (orderly_ofResult _).bind fun _ =>
          (orderly_connect _ _).bind fun _ => Orderly.bind (orderly_modify fun _ => ?_) fun _ =>
            orderly_pure _
    · rfl
    · rfl
  | .addFilter name id kind operand, h, _ => by
    rw [perform]
    rw [Step.orderly, Bool.and_eq_true, Bool.and_eq_true] at h
    have hfilter : Orderly w (do pure (.filter ⟨kind, (← evaluate operand).plain⟩) :
        Action Function) :=
      (orderlyWith_evaluate operand h.2).orderly.bind fun _ => orderly_pure _
    refine orderly_firstConnection.bind fun c =>
      (orderlyWith_evaluate name h.1.1).orderly.bind fun _ =>
        (orderlyWith_evaluate id h.1.2).orderly.bind fun _ =>
          (orderly_introduce _ hfilter).bind fun _ =>
            (Call.orderly_updateHooks c fun _ _ hadded hactions => ?_).bind fun _ => orderly_pure _
    exact addFilter_actions hadded ▸ hactions

theorem orderly_applyAll : (steps : List Step) → orderlySteps w.early steps = true →
    (current : Option Nat) → Orderly w (applyAll steps current)
  | [], _, current => by
    rw [applyAll]
    exact orderly_pure _
  | step :: steps, h, current => by
    rw [applyAll]
    rw [orderlySteps, Bool.and_eq_true] at h
    exact (orderly_told current (orderly_perform step h.1 current)).bind fun _ =>
      orderly_applyAll steps h.2 _

theorem orderly_runAll : (steps : List Step) → orderlySteps w.early steps = true →
    (current : Option Nat) → Orderly w (runAll steps current)
  | [], _, current => by
    rw [runAll]
    exact orderly_pure _
  | step :: steps, h, current => by
    rw [runAll]
    rw [orderlySteps, Bool.and_eq_true] at h
    exact (orderly_answered current (orderly_perform step h.1 current)).bind fun current =>
      orderly_runAll steps h.2 current

end

end Program

end SqlBuilder
