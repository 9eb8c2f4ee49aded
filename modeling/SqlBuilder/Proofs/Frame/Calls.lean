import SqlBuilder.Proofs.Frame.Building
import SqlBuilder.Proofs.Transaction.Calls

/-!
# Calls are framed

Every call keeps what a frame knows, and a builder it gives back acts (`Call.framedWith_perform`).
What a builder sends to its driver leaves the builder and its statements as they are, so calls that
change neither (`BuilderMethod.spares`) are framed whether the builder acts or not
(`Call.framed_spared`).
-/

set_option autoImplicit false

namespace SqlBuilder

open Session

variable {α : Type} {F : Frame}

namespace Builder

/-! ## Transactions -/

theorem framed_abandon (c : Nat) (opened : Bool) (cause : Fault) :
    Framed F (abandon c opened cause : Action α) := by
  have hafter : Framed F (rollbackAfter c) := by
    refine (framed_onDriver c _).outcomeOf.bind fun ended => ?_
    split
    · exact .pure trivial
    · exact (framed_log _ _ _).bind fun _ => .pure trivial
    · exact .throw _
  have hrest (ended : String × Option Fault) : Framed F (do
      throw (.transaction (some cause) ended.1 (← Session.connection c).lastQuery ended.2) :
        Action α) :=
    (reads_connection c).andThen fun _ => .throw _
  refine (reads_inTransaction c).andThen fun isOpen => ?_
  split
  · exact hafter.bind hrest
  · exact hrest ("", none)

theorem framed_within (c : Nat) {body : Action α} (h : Framed F body) :
    Framed F (within c body) := by
  have hopen : Framed F (openTransaction c) := by
    refine (reads_inTransaction c).andThen fun isOpen => ?_
    split
    · exact .pure trivial
    · exact (framed_onDriver c _).bind fun _ => .pure trivial
  have hclose (opened : Bool) : Framed F (closeTransaction c opened) := by
    refine (reads_inTransaction c).andThen fun isOpen => ?_
    split
    · exact framed_onDriver c _
    · exact .pure trivial
  refine hopen.outcomeOf.bind fun ended => ?_
  cases ended with
  | error cause => exact framed_abandon c false cause
  | ok opened =>
    have hrun : Framed F (do let a ← body; closeTransaction c opened; pure a) :=
      h.bind fun _ => (hclose opened).bind fun _ => .pure trivial
    refine hrun.outcomeOf.bind fun ended => ?_
    cases ended with
    | error cause => exact framed_abandon c opened cause
    | ok a => exact .pure trivial

/-- The callback is applied to the builder itself or to a new one. -/
theorem framed_transaction (b : Nat) {callback : Nat → Action α}
    (hself : Framed F (callback b)) (hnew : ∀ t, F.acts t → Framed F (callback t)) :
    Framed F (transaction b callback) := by
  have hstart : Framed F (do
      let c ← connectionOf b
      let t ← newBuilder c .transaction (← ofResult (← statementsOf b).copied)
      pure (t, ← within c (callback t))) :=
    framedWith_connectionOf fun c => .after (framedWith_statementsOf b) fun st hst =>
      .after (FramedWith.ofResult fun _ => F.copy hst) fun _ hcopy =>
        (framedFrom_newBuilder c .transaction hcopy).bind fun t ht =>
          (framed_within c (hnew t ht)).bind fun _ => .pure trivial
  refine (reads_builder b).andThen fun x => ?_
  split
  · exact hself.bind fun _ => .pure trivial
  · exact hstart
  · exact hstart
  · exact hstart

theorem framed_finish (b : Nat) (act : Driver.Action Unit) : Framed F (finish b act) := by
  refine (reads_connectionOf b).andThen fun c =>
    (framed_onDriver c act).outcomeOf.bind fun ended => ?_
  split
  · exact .pure trivial
  · exact (reads_connection c).andThen fun _ => .throw _
  · exact .throw _

/-! ## Running and fetching -/

section

variable (b : Nat)

theorem framed_run (activity : Activity) (q : CompiledQuery)
    (act : Driver.Action (α × List (Value × Value))) : Framed F (run b activity q act) := by
  have hset (c : Nat) : Framed F (updateConnection c fun conn =>
      { conn with lastQuery := some q }) :=
    framed_updateConnection (fun _ => rfl) fun _ _ h => h
  have hlog : Framed F (logExecuted q) := by
    refine Reads.get.andThen fun s => ?_
    split
    · exact (Reads.ofResult _).andThen fun _ => framed_log _ _ _
    · exact .pure trivial
  exact (reads_connectionOf b).andThen fun c => (hset c).bind fun _ =>
    (framed_announce b _ _ _).bind fun _ => (framed_onDriver c act).bind fun _ =>
      hlog.bind fun _ => (framed_announce b _ _ _).bind fun _ => .pure trivial

theorem framed_runSelect (activity : Activity) (act : Value → Bindings → Driver.Action α) :
    Framed F (runSelect b activity act) :=
  (framed_compileSelect b).bind fun q => framed_run b activity q _

theorem framed_runText (sql bindings : Value) : Framed F (runText b sql bindings) :=
  (Reads.ofResult _).andThen fun _ => (reads_adapterOf b).andThen fun _ =>
    (framed_run b _ _ _).bind fun _ => .pure trivial

theorem framed_fetched (output : Value) : Framed F (get b output) :=
  (reads_shapeOf b _ _).andThen fun _ =>
    (framed_runSelect b _ _).bind fun _ => (Reads.ofResult _).framed

theorem framed_row? (output : Value) : Framed F (row? b output) :=
  (reads_shapeOf b _ _).andThen fun _ =>
    (framed_runSelect b _ _).bind fun _ => (Reads.ofResult _).framed

theorem framed_row (output : Value) : Framed F (row b output) :=
  (framed_row? b output).bind fun _ => .pure trivial

theorem framed_exists? : Framed F (exists? b) := (framed_row? b _).bind fun _ => .pure trivial

theorem framed_scalar : Framed F (scalar b) := framed_runSelect b _ _

theorem framed_aggregate (function : String) (field : Value) :
    Framed F (aggregate b function field) := by
  refine (reads_statementsOf b).andThen fun s => (Reads.ofResult _).andThen fun _ =>
    (Reads.ofResult _).andThen fun _ => (framedWith_newQuery b).bind fun outer houter =>
      (framed_subQuery b _).bind fun _ => (framed_fromTables houter _).bind fun _ =>
        (framed_select houter _).bind fun _ => (framed_scalar outer).bind fun v => ?_
  split
  · exact .pure trivial
  · exact (Reads.ofResult _).framed

theorem framed_count (field : Value) : Framed F (count b field) :=
  (framed_aggregate b _ field).bind fun _ => (Reads.ofResult _).framed

/-! ## Writing -/

theorem framed_insertRow (op : Operation) (row : Value) : Framed F (insertRow b op row) :=
  (framed_compileAs b _ _).bind fun q => framed_run b _ q _

theorem framed_insertBatch {rows : Nat → Action (List Value)} (h : ∀ t, Framed F (rows t)) :
    Framed F (insertBatch b rows) := by
  refine (reads_connectionOf b).andThen fun c => (reads_inTransaction c).andThen fun isOpen => ?_
  split
  · exact (h b).bind fun _ => .pure trivial
  · exact (framed_transaction b (h b) fun t _ => h t).bind fun _ => .pure trivial

mutual

theorem framed_insert (op : Operation) (v : Value) (b : Nat) : Framed F (insert op v b) := by
  cases v with
  | map entries =>
    rw [insert]
    exact framed_insertRow b op _
  | list rows =>
    rw [insert]
    split
    · exact .pure trivial
    · exact framed_insertBatch b fun t => framed_insertAll op rows t
  | tuple rows =>
    rw [insert]
    split
    · exact .pure trivial
    · exact framed_insertBatch b fun t => framed_insertAll op rows t
  | text s =>
    rw [insert]
    split
    · exact .pure trivial
    · exact framed_insertBatch b fun _ => .throw _
  | column c =>
    rw [insert]
    exact framed_insertBatch b fun _ => .throw _
  | bytes octets =>
    rw [insert]
    split
    · exact .pure trivial
    · exact framed_insertBatch b fun _ => .throw _
  | _ =>
    simp only [insert]
    exact .throw _

theorem framed_insertAll (op : Operation) (rows : List Value) (b : Nat) :
    Framed F (insertAll op rows b) := by
  cases rows with
  | nil => exact .pure trivial
  | cons row rows =>
    rw [insertAll]
    exact (framed_insert op row b).bind fun _ => (framed_insertAll op rows b).bind fun _ =>
      .pure trivial

end

theorem framed_update (row : Value) : Framed F (update b row) :=
  (framed_compileAs b _ _).bind fun q => framed_run b _ q _

theorem framed_delete (columns : Value) : Framed F (delete b columns) :=
  (framed_compileAs b _ _).bind fun q => framed_run b _ q _

theorem framed_updateOrInsert (row : Value) : Framed F (updateOrInsert b row) := by
  refine (framed_exists? b).bind fun there => ?_
  split
  · exact framed_update b row
  · exact framed_insert _ row b

end

/-! ### Fetching by a column or a condition -/

section

variable {b : Nat} (hb : F.acts b)
include hb

theorem framed_last (output field : Value) : Framed F (last b output field) :=
  (framed_orderBy hb _ _).bind fun _ => framed_row b output

theorem framed_value (column : Value) : Framed F (value b column) :=
  (framed_select hb _).bind fun _ => framed_scalar b

theorem framed_pluck (column : Value) : Framed F (pluck b column) :=
  (framed_select hb _).bind fun _ => framed_runSelect b _ _

theorem framed_find {field : Operand} (hfield : field.Framed F) (v : Value) :
    Framed F (find b field v) :=
  (framed_compare hb hfield _ _ _).bind fun _ => framed_row b _

theorem framed_findAll {field : Operand} (hfield : field.Framed F) (v : Value) :
    Framed F (findAll b field v) :=
  (framed_compare hb hfield _ _ _).bind fun _ => framed_fetched b _

end

end Builder

/-! ## Tables -/

namespace Schema

theorem framed_tableExists (c : Nat) (name : Value) : Framed F (exists? c name) :=
  (reads_connection c).andThen fun _ => (framed_onDriver c _).bind fun _ => .pure trivial

theorem framed_create (c : Nat) (name lines : Value) (ifNotExists : Bool) :
    Framed F (create c name lines ifNotExists) := by
  refine framedWith_unless fun _ => (reads_connection c).andThen fun _ =>
    (Reads.ofResult _).andThen fun parts => (Reads.ofResult _).andThen fun statement => ?_
  refine Framed.bind (Framed.forM fun sql => ?_) fun _ => framed_tableExists c name
  exact (framed_log _ _ _).bind fun _ => (framed_onDriver c _).bind fun _ => .pure trivial

end Schema

/-! ## Calls on builders -/

/-- A builder that is given back acts. -/
def Output.Acts (F : Frame) : Output → Prop
  | .builder (some b) => F.acts b
  | _ => True

/-- The method leaves the builder and its statements as they are. -/
def BuilderMethod.spares : BuilderMethod → Bool
  | .condition _ | .product .table => false
  | .change m => m == .run
  | .result m => m ∉ [.close, .last, .find, .findAll, .value, .pluck]
  | .product _ => true

namespace Call

open Builder

/-- The callbacks among the arguments are framed. -/
def Fitting (F : Frame) (args : List Operand) : Prop := ∀ a ∈ args, a.Framed F

theorem framedWith_operand {args : List Operand} (hargs : Fitting F args) (i : Nat) :
    FramedWith F (Operand.Framed F) (operand args i) := by
  unfold operand
  split
  · exact .pure (hargs _ (List.mem_of_getElem? ‹_›))
  · exact .throw _

theorem framed_operandOr {args : List Operand} (hargs : Fitting F args) (i : Nat) (v : Value) :
    Operand.Framed F ((args[i]?).getD (.value v)) := by
  cases h : args[i]? with
  | none => exact Operand.framed_value v
  | some a => exact hargs a (List.mem_of_getElem? h)

theorem framedWith_fluent {b : Nat} (hb : F.acts b) {act : Action Unit} (h : Framed F act) :
    FramedWith F (Output.Acts F) (fluent b act) :=
  h.bind fun _ => .pure hb

section

variable {b : Nat} (hb : F.acts b) {args : List Operand} (hargs : Fitting F args)
include hb hargs

theorem framed_condition (m : ConditionMethod) : Framed F (condition b args m) := by
  have key {k : Operand → Action Unit} (h : ∀ key : Operand, key.Framed F → Framed F (k key)) :
      Framed F (operand args 0 >>= k) :=
    (framedWith_operand hargs 0).bind h
  have value {k : Value → Action Unit} (i : Nat) (h : ∀ v, Framed F (k v)) :
      Framed F (value args i >>= k) :=
    (reads_value args i).andThen h
  have hraw (v : Value) : (Operand.value v).Framed F := Operand.framed_value v
  cases m with
  | compare joiner => exact key fun _ h => framed_compare hb h _ _ _
  | raw => exact value 0 fun _ => framed_addWhere hb (hraw _) _ _ _
  | among negated joiner => exact key fun _ h => value 1 fun _ => framed_among hb h _ _ _
  | between negated joiner =>
    exact key fun _ h => value 1 fun _ => value 2 fun _ => framed_between hb h _ _ _ _
  | dateBetween negated =>
    exact key fun _ h => value 1 fun _ => value 2 fun _ => framed_dateBetween hb h _ _ _
  | isNull negated joiner => exact key fun _ h => framed_isNull hb h _ _
  | like negated => exact key fun _ h => value 1 fun _ => framed_like hb h _ _
  | startsWith => exact key fun _ h => value 1 fun _ => framed_like hb h _ _
  | search => exact key fun _ h => framed_like hb h _ _
  | rowsExist => exact key fun _ h => framed_whereExists hb h
  | column => exact value 0 fun _ => framed_whereColumn hb _ _
  | datePart part => exact value 0 fun _ => value 1 fun _ => framed_whereDatePart hb _ _ _ _
  | having => exact key fun _ h => framed_having hb h _ _ _
  | orHaving => exact key fun _ h => framed_having hb h _ _ _
  | havingRaw => exact value 0 fun _ => framed_having hb (hraw _) _ _ _

theorem framed_change (m : ChangeMethod) : Framed F (change b args m) := by
  have value {k : Value → Action Unit} (i : Nat) (h : ∀ v, Framed F (k v)) :
      Framed F (value args i >>= k) :=
    (reads_value args i).andThen h
  cases m with
  | setOverwrite => exact framed_updateBuilder hb (fun _ => rfl) fun _ _ h => h
  | fromTables => exact framed_fromTables hb _
  | aliasTable => exact value 0 fun _ => framed_aliasTable hb _ _
  | select => exact framed_select hb _
  | selectRaw => exact value 0 fun _ => framed_select hb _
  | selectDistinct => exact framed_selectDistinct hb _
  | join => exact value 0 fun _ => framed_join hb _ _ (framed_operandOr hargs 1 _) _ _
  | joinAs kind =>
    exact value 0 fun _ => (framedWith_operand hargs 1).bind fun _ h => framed_join hb _ _ h _ _
  | crossJoin => exact value 0 fun _ => framed_join hb _ _ (Operand.framed_value _) _ _
  | joinUsing => exact value 0 fun _ => value 1 fun _ => framed_joinUsing hb _ _ _
  | on => exact value 0 fun _ => framed_on hb _ _ _ _
  | orOn => exact value 0 fun _ => framed_on hb _ _ _ _
  | onShared => exact value 0 fun _ => framed_onShared hb _
  | orderBy => exact value 0 fun _ => framed_orderBy hb _ _
  | orderByDesc => exact value 0 fun _ => framed_orderBy hb _ _
  | groupBy => exact framed_groupBy hb _
  | limit => exact value 0 fun _ => framed_limit hb _
  | offset => exact value 0 fun _ => framed_offset hb _
  | lock => exact value 0 fun _ => framed_lock hb _
  | onDuplicate => exact value 0 fun _ => framed_onDuplicate hb _
  | union => exact value 0 fun _ => framed_union hb _ _
  | run => exact value 0 fun _ => framed_runText b _ _

end

section

variable (b : Nat) (args : List Operand)

/-- A value that is found without a change to the builder. -/
theorem framed_sparedResult {m : ResultMethod} (hm : (BuilderMethod.result m).spares = true) :
    Framed F (result b args m) := by
  have first {k : Value → Action Value} (h : ∀ v, Framed F (k v)) :
      Framed F (value args 0 >>= k) :=
    (reads_value args 0).andThen h
  have read {f : Statements → Action Value} (h : ∀ s, Framed F (f s)) :
      Framed F (statementsOf b >>= f) :=
    (reads_statementsOf b).andThen h
  cases m with
  | isOverwrite => exact (reads_builder b).andThen fun _ => .pure trivial
  | display => exact first fun _ => (reads_displayed b _ _).andThen fun _ => .pure trivial
  | raw => exact first fun _ => .pure trivial
  | subQuery => exact first fun _ => (reads_builderOf _).andThen fun _ => framed_subQuery _ _
  | addPrefix => exact first fun _ => (reads_addPrefix b _ _).framed
  | tableName => exact read fun _ => (Reads.ofResult _).framed
  | aliasName => exact read fun _ => (Reads.ofResult _).framed
  | columns => exact read fun _ => (Reads.ofResult _).andThen fun _ => .pure trivial
  | get => exact framed_fetched b _
  | row => exact framed_row b _
  | rowExists negated => exact (framed_exists? b).bind fun _ => .pure trivial
  | count => exact (framed_count b _).bind fun _ => .pure trivial
  | aggregate a => exact first fun _ => (framed_aggregate b _ _).bind fun _ => .pure trivial
  | insert op => exact first fun _ => framed_insert op _ b
  | update => exact first fun _ => framed_update b _
  | delete => exact framed_delete b _
  | updateOrInsert => exact first fun _ => framed_updateOrInsert b _
  | commit => exact (framed_finish b _).bind fun _ => .pure trivial
  | rollback => exact (framed_finish b _).bind fun _ => .pure trivial
  | _ => cases hm

/-- A builder or a query that is made without a change to the builder. -/
theorem framedWith_sparedProduct {m : ProductMethod}
    (hm : (BuilderMethod.product m).spares = true) :
    FramedWith F (Output.Acts F) (builder (.product m) b args) := by
  cases m with
  | newQuery => exact (framedWith_newQuery b).bind fun _ h => .pure h
  | table => cases hm
  | statements => exact (reads_statementsOf b).andThen fun _ => .pure trivial
  | lastQuery =>
    exact (reads_connectionOf b).andThen fun _ => (reads_connection _).andThen fun _ =>
      .pure trivial
  | compile => exact (framed_compileAs b _ _).bind fun _ => .pure trivial

theorem framed_spared {m : BuilderMethod} (hm : m.spares = true) :
    Framed F (builder m b args) := by
  cases m with
  | condition m => cases hm
  | change m =>
    cases m with
    | run =>
      exact Framed.bind ((reads_value args 0).andThen fun _ => framed_runText b _ _) fun _ =>
        .pure trivial
    | _ => cases hm
  | result m => exact (framed_sparedResult b args hm).bind fun _ => .pure trivial
  | product m => exact (framedWith_sparedProduct b args hm).framed

end

section

variable {b : Nat} (hb : F.acts b) {args : List Operand} (hargs : Fitting F args)
include hb hargs

theorem framed_result (m : ResultMethod) : Framed F (result b args m) := by
  cases hm : (BuilderMethod.result m).spares with
  | true => exact framed_sparedResult b args hm
  | false =>
    cases m with
    | close =>
      have hclosed :
          Framed F (updateBuilder b fun builder => { builder with connection := none }) :=
        framed_updateBuilder hb (fun _ => rfl) nofun
      exact hclosed.bind fun _ => .pure trivial
    | last => exact framed_last hb _ _
    | find =>
      exact (reads_value args 0).andThen fun _ => framed_find hb (framed_operandOr hargs 1 _) _
    | findAll =>
      exact (framedWith_operand hargs 0).bind fun _ h => (reads_value args 1).andThen fun _ =>
        framed_findAll hb h _
    | value => exact (reads_value args 0).andThen fun _ => Builder.framed_value hb _
    | pluck =>
      exact (reads_value args 0).andThen fun _ => (framed_pluck hb _).bind fun _ => .pure trivial
    | _ => cases hm

theorem framedWith_builder (m : BuilderMethod) :
    FramedWith F (Output.Acts F) (builder m b args) := by
  cases m with
  | condition m => exact framedWith_fluent hb (framed_condition hb hargs m)
  | change m => exact framedWith_fluent hb (framed_change hb hargs m)
  | result m => exact (framed_result hb hargs m).bind fun _ => .pure trivial
  | product m =>
    cases hm : (BuilderMethod.product m).spares with
    | true => exact framedWith_sparedProduct b args hm
    | false =>
      cases m with
      | table => exact (framedWith_table hb _).bind fun _ h => .pure h
      | _ => cases hm

end

/-! ## Calls besides builders -/

section

variable (c : Nat) (args : List Operand)

theorem framed_onDriverWith (act : Value → Bindings → Driver.Action α) :
    Framed F (onDriverWith c args act) :=
  (reads_value args 0).andThen fun _ => (reads_connection c).andThen fun _ =>
    (Reads.ofResult _).andThen fun _ => framed_onDriver c _

theorem framed_driver (m : DriverMethod) : Framed F (driver m c args) := by
  have ending (act : Driver.Action Unit) : Framed F (do onDriver c act; pure Value.null) :=
    (framed_onDriver c act).bind fun _ => .pure trivial
  have shown (f : Connection → Value) : Framed F (do pure (f (← Session.connection c))) :=
    (reads_connection c).andThen fun _ => .pure trivial
  cases m with
  | execute => exact framed_onDriverWith c args _
  | fetchAll => exact (framed_onDriverWith c args _).bind fun _ => .pure trivial
  | fetchRow => exact (framed_onDriverWith c args _).bind fun _ => .pure trivial
  | fetchScalar => exact framed_onDriverWith c args _
  | fetchColumn => exact (framed_onDriverWith c args _).bind fun _ => .pure trivial
  | lastInsertId => exact framed_onDriver c Driver.insertId
  | lastErrorMessage => exact shown fun conn => .text conn.driver.lastError
  | begin => exact ending _
  | commit => exact ending _
  | rollback => exact ending _
  | inTransaction => exact (reads_inTransaction c).andThen fun _ => .pure trivial
  | prepare =>
    exact (reads_value args 0).andThen fun _ => (Reads.ofResult _).andThen fun _ => .pure trivial
  | tablePrefix => exact shown fun conn => conn.driver.tablePrefix
  | setPrefix =>
    exact (reads_value args 0).andThen fun _ => (framed_setDriverPrefix c _).bind fun _ =>
      .pure trivial
  | close => exact ending _
  | handle =>
    refine (reads_connection c).andThen fun conn => ?_
    split
    · exact .throw _
    · exact .pure trivial
    · exact .pure trivial

theorem framedFrom_connection (m : ConnectionMethod) :
    FramedFrom F c (Output.Acts F) (connection m c args) := by
  have shown (f : Connection → Output) (hf : ∀ conn, (f conn).Acts F) :
      FramedWith F (Output.Acts F) (do pure (f (← Session.connection c))) :=
    (reads_connection c).andThen fun conn => .pure (hf conn)
  cases m with
  | setPrefix =>
    exact ((framed_setTablePrefix c _).bind fun _ =>
      shown (fun conn => .value conn.tablePrefix) fun _ => trivial).framedFrom
  | tablePrefix => exact (shown (fun conn => .value conn.tablePrefix) fun _ => trivial).framedFrom
  | lastQuery => exact (shown (fun conn => .query conn.lastQuery) fun _ => trivial).framedFrom
  | close => exact ((framed_onDriver c _).bind fun _ => .pure trivial).framedFrom
  | newBuilder => exact (framedFrom_newBuilder c _ F.empty).bind fun _ h => .pure h

/-- Hooks may change where nobody comes to listen. -/
theorem framed_updateHooks {f : Hooks → Result Hooks}
    (h : ∀ hooks hooks', f hooks = .ok hooks' → F.licence.listens = false → hooks.actions = [] →
      hooks'.actions = []) : Framed F (updateHooks c f) := by
  refine (framedWith_connection c).bind fun conn hconn => ?_
  refine FramedWith.bind (Q := fun hooks => F.licence.listens = false → hooks.actions = [])
    (.ofResult fun hooks hhooks hl => h _ _ hhooks hl (hconn hl)) fun hooks hhooks => ?_
  exact framed_updateConnection (fun _ => rfl) fun _ hl _ => hhooks hl

theorem framed_hooks (m : HooksMethod) : Framed F (hooks m c args) := by
  have answer (v : Value) {act : Action Unit} (h : Framed F act) : Framed F (do act; pure v) :=
    h.bind fun _ => .pure trivial
  cases m with
  | removeListener =>
    exact (framed_introduce _ (.pure rfl)).bind fun _ =>
      answer _ (framed_updateHooks c fun _ _ h _ hactions => removeListener_unheard h hactions)
  | hasListener =>
    exact (reads_connection c).andThen fun _ => (Reads.ofResult _).andThen fun _ => .pure trivial
  | fire => exact answer _ (framed_fire c _)
  | removeFilter =>
    exact (framed_introduce _ (.pure rfl)).bind fun _ =>
      answer _ (framed_updateHooks c fun _ _ h _ hactions => removeFilter_actions h ▸ hactions)
  | applyFilters => exact (reads_value args 1).andThen fun _ => (reads_applyFilters c _ _).framed
  | clear =>
    refine answer _ (framed_updateHooks c fun _ _ h _ _ => ?_)
    cases h
    rfl

theorem framed_tables (m : TableMethod) : Framed F (tables m c args) := by
  cases m with
  | create ifNotExists =>
    exact (reads_value args 1).andThen fun _ => (reads_value args 0).andThen fun _ =>
      (Schema.reads_fullName c _ _).andThen fun _ => (Schema.framed_create c _ _ _).bind fun _ =>
        .pure trivial
  | «exists» =>
    exact (reads_value args 0).andThen fun _ => (Schema.framed_tableExists c _).bind fun _ =>
      .pure trivial
  | parts =>
    exact (reads_connection c).andThen fun _ => (reads_value args 0).andThen fun _ =>
      (reads_value args 1).andThen fun _ => (Reads.ofResult _).andThen fun _ =>
        (Reads.ofResult _).andThen fun _ => .pure trivial

theorem framedWith_standingBuilder : FramedWith F F.acts standingBuilder :=
  framedWith_standingConnection fun c => framedFrom_newBuilder c _ F.empty

/-- The connection that is chosen is there. -/
theorem framedWith_choose : FramedWith F (Output.Acts F) (standing .choose args) := by
  refine Reads.get.andThenAt fun r s s₀ hr hs hs₀ => ?_
  cases hs₀
  refine ⟨hs.named rfl rfl rfl rfl rfl fun c hc => ?_, ?_⟩
  · rcases hc with hc | hc | hc
    · exact hs.sane.connected c (.inr (.inl hc))
    · exact hs.sane.connected c (.inr (.inr (.inl hc)))
    · dsimp only at hc
      split at hc
      · exact hs.sane.connected c (.inr (.inl hc))
      · exact hs.sane.connected c (.inr (.inr (.inl hc)))
      · cases hc
  · rintro _ ⟨⟩
    trivial

theorem framedWith_standing (m : StandingMethod) :
    FramedWith F (Output.Acts F) (standing m args) := by
  cases m with
  | table =>
    exact (Reads.ofResult _).andThen fun _ => framedWith_standingConnection fun c =>
      .after (framed_setTablePrefix c _) fun _ _ => (framedFrom_newBuilder c _ F.empty).bind
        fun b hb => framedWith_fluent hb (framed_fromTables hb _)
  | select =>
    exact framedWith_standingBuilder.bind fun b hb => framedWith_fluent hb (framed_select hb _)
  | raw => exact (reads_value args 0).andThen fun _ => .pure trivial
  | run =>
    exact framedWith_standingBuilder.bind fun b hb => (reads_value args 0).andThen fun _ =>
      framedWith_fluent hb (framed_runText b _ _)
  | schema m =>
    exact reads_standingConnection.andThen fun c => (framed_tables c args m).bind fun _ =>
      .pure trivial
  | isFirst =>
    exact reads_standingConnection.andThen fun _ => Reads.get.andThen fun _ => .pure trivial
  | choose => exact framedWith_choose args
  | disconnect =>
    refine Reads.get.andThen fun s => ?_
    split
    · exact .pure trivial
    · refine (framed_onDriver _ _).bind fun _ => Framed.bind (framed_modify fun s hs => ?_) fun _ =>
        .pure trivial
      refine hs.named rfl rfl rfl rfl rfl fun c hc => hs.sane.connected c ?_
      rcases hc with hc | hc | hc
      · exact .inr (.inl hc)
      · exact .inr (.inr (.inl hc))
      · cases hc

end

/-! ## All methods -/

theorem framedWith_perform (m : Method) {current : Option Nat} (hcurrent : ∀ b ∈ current, F.acts b)
    {args : List Operand} (hargs : Fitting F args) :
    FramedWith F (Output.Acts F) (perform m current args) := by
  have answer {act : Action Value} (h : Framed F act) :
      FramedWith F (Output.Acts F) (do pure (Output.value (← act))) :=
    h.bind fun _ => .pure trivial
  cases m with
  | builder m =>
    refine framedWith_unless fun _ => ?_
    cases current with
    | none => exact .throw _
    | some b => exact framedWith_builder (hcurrent b rfl) hargs m
  | driver m =>
    exact framedWith_unless fun _ => reads_firstConnection.andThen fun c =>
      answer (framed_driver c args m)
  | connection m =>
    exact framedWith_unless fun _ => framedWith_firstConnection fun c =>
      framedFrom_connection c args m
  | hooks m =>
    exact framedWith_unless fun _ => reads_firstConnection.andThen fun c =>
      answer (framed_hooks c args m)
  | tables m =>
    exact framedWith_unless fun _ => reads_firstConnection.andThen fun c =>
      answer (framed_tables c args m)
  | standing m => exact framedWith_unless fun _ => framedWith_standing args m
  | missing => exact framedWith_unless fun _ => .throw _

theorem framed_performSpared {m : BuilderMethod} (hm : m.spares = true) (current : Option Nat)
    (args : List Operand) : Framed F (perform (.builder m) current args) :=
  framedWith_unless fun _ => (Reads.present current).andThen fun b => framed_spared b args hm

end Call

end SqlBuilder
