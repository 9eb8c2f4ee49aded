import SqlBuilder.Program.Run
import SqlBuilder.Proofs.Session.Running

/-!
# Actions that only read

`Session.Reads x`: the action leaves every session as it is, also where it fails. Reading is closed
under sequencing. What looks things up only reads: the connection, the dialect and the prefix of a
builder, the names it prefixes and the columns it is given, and how a step of a program ended.
-/

set_option autoImplicit false

namespace SqlBuilder

open Session

variable {α β γ : Type}

/-- The action leaves the session as it is. -/
def Session.Reads (x : Action α) : Prop := ∀ r s, (runIn r x s).2 = s

namespace Session.Reads

@[simp] theorem pure (a : α) : Reads (Pure.pure a : Action α) := fun _ _ => rfl

@[simp] theorem throw (f : Fault) : Reads (MonadExcept.throw f : Action α) := fun _ _ => rfl

@[simp] theorem get : Reads (MonadState.get : Action Session) := fun _ _ => rfl

@[simp] theorem ofResult (y : Result α) : Reads (Session.ofResult y) := by
  intro r s
  rw [runIn_ofResult]

@[simp] theorem bind {x : Action α} {k : α → Action β} (hx : Reads x) (hk : ∀ a, Reads (k a)) :
    Reads (x >>= k) := by
  intro r s
  have hs := hx r s
  rw [runIn_bind]
  generalize runIn r x s = p at hs
  obtain ⟨_ | a, s'⟩ := p
  · exact hs
  · exact (hk a r s').trans hs

@[simp] theorem map {x : Action α} {f : α → β} (hx : Reads x) : Reads (f <$> x) := by
  rw [map_eq_pure_bind]
  exact hx.bind fun a => pure (f a)

@[simp] theorem ite {p : Prop} [Decidable p] {x y : Action α} (hx : Reads x) (hy : Reads y) :
    Reads (if p then x else y) := by
  split
  · exact hx
  · exact hy

@[simp] theorem present (a? : Option α) : Reads (Session.present a?) := by
  cases a? with
  | some a => exact pure a
  | none => exact throw _

@[simp] theorem mapM {xs : List γ} {f : γ → Action α} (h : ∀ x, Reads (f x)) :
    Reads (xs.mapM f) := by
  induction xs with
  | nil => exact pure _
  | cons x xs ih =>
    rw [List.mapM_cons]
    exact (h x).bind fun _ => ih.bind fun _ => pure _

/-- Reading keeps whatever is known of a session. -/
theorem keeps {I : Session → Prop} {x : Action α} (h : Reads x) : Keeps I (fun _ => True) x :=
  fun r s hs => ⟨(h r s).symm ▸ hs, fun _ _ => trivial⟩

end Session.Reads

/-! ## Sessions -/

namespace Session

@[simp] theorem reads_connection (c : Nat) : Reads (connection c) := by simp [connection]

@[simp] theorem reads_firstConnection : Reads firstConnection := by simp [firstConnection]

@[simp] theorem reads_standingConnection : Reads standingConnection := by
  refine Reads.get.bind fun s => ?_
  cases s.standing with
  | some c => exact .pure c
  | none => exact .throw _

@[simp] theorem reads_inTransaction (c : Nat) : Reads (inTransaction c) := by
  simp [inTransaction]

@[simp] theorem reads_builder (b : Nat) : Reads (builder b) := by simp [builder]

@[simp] theorem reads_connectionOf (b : Nat) : Reads (connectionOf b) := by
  refine (reads_builder b).bind fun x => ?_
  cases x.connection with
  | some c => exact .pure c
  | none => exact .throw _

@[simp] theorem reads_adapterOf (b : Nat) : Reads (adapterOf b) := by simp [adapterOf]

@[simp] theorem reads_statementsOf (b : Nat) : Reads (statementsOf b) := by simp [statementsOf]

@[simp] theorem reads_overwrites (b : Nat) : Reads (overwrites b) := by simp [overwrites]

@[simp] theorem reads_applyFilters (c : Nat) (name v : Value) : Reads (applyFilters c name v) :=
  (reads_connection c).bind fun _ => (Reads.ofResult _).bind fun _ => Reads.get.bind fun _ =>
    .ofResult _

@[simp] theorem reads_tablePrefixOf (b : Nat) : Reads (tablePrefixOf b) :=
  (reads_connectionOf b).bind fun c => (reads_connection c).bind fun _ =>
    .ite (reads_applyFilters c _ _) (.pure _)

end Session

/-! ## Builders -/

namespace Builder

@[simp] theorem reads_addPrefix (b : Nat) (v : Value) (mixed : Bool) :
    Reads (addPrefix b v mixed) := by
  simp [addPrefix]

@[simp] theorem reads_addPrefixAll (b : Nat) (vs : List Value) (mixed : Bool) :
    Reads (addPrefixAll b vs mixed) := by
  simp [addPrefixAll]

mutual

theorem reads_collectField (b : Nat) (v : Value) : Reads (collectField b v) := by
  cases v with
  | map entries =>
    rw [collectField]
    exact .mapM fun _ => (reads_addPrefix b _ _).bind fun _ => .pure _
  | list fields =>
    rw [collectField]
    exact reads_collectFields b fields
  | tuple fields =>
    rw [collectField]
    exact reads_collectFields b fields
  | _ => simp [collectField]

theorem reads_collectFields (b : Nat) (vs : List Value) : Reads (collectFields b vs) := by
  cases vs with
  | nil => exact .pure _
  | cons v vs =>
    rw [collectFields]
    exact (reads_collectField b v).bind fun _ => (reads_collectFields b vs).bind fun _ => .pure _

end

@[simp] theorem reads_joinTable (b : Nat) (table : Value) : Reads (joinTable b table) := by
  unfold joinTable
  split <;> simp

@[simp] theorem reads_builderOf (v : Value) : Reads (Operand.builderOf v) := by
  unfold Operand.builderOf
  split <;> simp

@[simp] theorem reads_shapeOf (b : Nat) (output : Value) (allowed : List OutputShape) :
    Reads (shapeOf b output allowed) := by
  unfold shapeOf
  split <;> simp

@[simp] theorem reads_displayed (b : Nat) (sql bindings : Value) :
    Reads (displayed b sql bindings) := by
  simp [displayed]

end Builder

theorem Schema.reads_fullName (c : Nat) (name : Value) (usePrefix : Bool) :
    Reads (fullName c name usePrefix) := by
  unfold fullName
  split <;> simp

/-! ## Calls and programs -/

namespace Call

@[simp] theorem reads_operand (args : List Operand) (i : Nat) : Reads (operand args i) := by
  unfold operand
  split <;> simp

@[simp] theorem reads_value (args : List Operand) (i : Nat) : Reads (value args i) := by
  simp [value]

theorem reads_find (m : Method) (current : Option Nat) : Reads (find m current) := by
  cases m with
  | builder m =>
    refine (Reads.present current).bind fun b => ?_
    unfold require
    split
    · exact (reads_builder b).bind fun _ => .ite (.throw _) (.pure _)
    · exact .pure _
  | standing m => exact .pure _
  | missing => exact .throw _
  | _ => exact reads_firstConnection.bind fun _ => .pure _

end Call

namespace Program

@[simp] theorem reads_tracedQuery (b : Nat) : Reads (tracedQuery b) :=
  (reads_adapterOf b).bind fun _ => (reads_statementsOf b).bind fun _ =>
    (reads_builder b).bind fun _ => .ofResult _

@[simp] theorem reads_builderValue (b : Nat) : Reads (builderValue b) := by simp [builderValue]

@[simp] theorem reads_optionalValue (b : Option Nat) : Reads (optionalValue b) := by
  cases b with
  | none => exact .bind (.pure none) fun _ => .pure _
  | some b => exact .bind (.map (reads_builderValue b)) fun _ => .pure _

@[simp] theorem reads_keptBuilder (name : String) : Reads (keptBuilder name) := by
  refine Reads.get.bind fun s => ?_
  split
  · exact .pure _
  · exact .throw _

theorem reads_outcome (current : Option Nat) (output : Output) :
    Reads (outcome current output) := by
  have houtcomeOf {x : Action CompiledQuery} (hx : Reads x) : Reads (outcomeOf x) := by
    intro r s
    rw [runIn_outcomeOf]
    exact hx r s
  cases output with
  | builder b =>
    refine Reads.get.bind fun s => ?_
    split
    · exact (houtcomeOf ((Reads.present b).bind reads_tracedQuery)).bind fun _ => .pure _
    · exact .pure _
  | query q =>
    cases q with
    | none => exact .bind (.pure none) fun _ => .pure _
    | some q => exact .bind (.map ((Reads.ofResult _).bind fun _ => .pure _)) fun _ => .pure _
  | transaction b => exact (reads_builderValue b).bind fun _ => .pure _
  | _ => exact .pure _

end Program

end SqlBuilder
