import SqlBuilder.Proofs.Transaction.Building

/-!
# Which calls are orderly

Everything that can be called is orderly, but for committing, and for rolling back where the watch
does not allow that (`Method.orderly`).
-/

set_option autoImplicit false

namespace SqlBuilder

open Session

variable {α : Type} {w : Watch}

namespace Builder

/-! ## Running -/

theorem orderly_run (b : Nat) (activity : Activity) (q : CompiledQuery)
    {act : Driver.Action (α × List (Value × Value))} (hact : w.Allows act) :
    Orderly w (run b activity q act) := by
  have hset (c : Nat) : Orderly w (updateConnection c fun conn =>
      { conn with lastQuery := some q }) :=
    orderly_updateConnection (fun _ => rfl) fun _ h => h
  have hlog : Orderly w (logExecuted q) := by
    refine orderly_get.bind fun s => ?_
    split
    · exact (orderly_ofResult _).bind fun _ => orderly_log _ _ _
    · exact orderly_pure ()
  exact (orderly_connectionOf b).bind fun c => (hset c).bind fun _ =>
    (orderly_announce b _ _ _).bind fun _ => (orderly_onDriver fun _ => hact).bind fun _ =>
      hlog.bind fun _ => (orderly_announce b _ _ _).bind fun _ => orderly_pure _

theorem orderly_runPlain (b : Nat) (activity : Activity) (q : CompiledQuery)
    {act : Value → Bindings → Driver.Action α}
    (hact : ∀ sql bindings, w.Allows (act sql bindings)) :
    Orderly w (runPlain b activity q act) :=
  orderly_run b activity q (allows_bind (hact _ _) fun _ => allows_pure _)

theorem orderly_runSelect (b : Nat) (activity : Activity)
    {act : Value → Bindings → Driver.Action α}
    (hact : ∀ sql bindings, w.Allows (act sql bindings)) :
    Orderly w (runSelect b activity act) :=
  (orderly_compileSelect b).bind fun q => orderly_runPlain b activity q hact

theorem orderly_runText (b : Nat) (sql bindings : Value) : Orderly w (runText b sql bindings) :=
  (orderly_ofResult _).bind fun _ => (orderly_adapterOf b).bind fun _ =>
    (orderly_runPlain b _ _ allows_execute).bind fun _ => orderly_pure ()

theorem orderly_displayed (b : Nat) (sql bindings : Value) :
    Orderly w (displayed b sql bindings) :=
  (orderly_connectionOf b).bind fun _ => (orderly_ofResult _).bind fun _ => orderly_ofResult _

/-! ## Fetching -/

theorem orderly_shapeOf (b : Nat) (output : Value) (allowed : List OutputShape) :
    Orderly w (shapeOf b output allowed) := by
  unfold shapeOf
  split
  · exact (orderly_connectionOf b).bind fun _ => (orderly_connection _).bind fun _ =>
      orderly_ofResult _
  · exact orderly_ofResult _

theorem orderly_fetched (b : Nat) (output : Value) : Orderly w (get b output) :=
  (orderly_shapeOf b _ _).bind fun _ =>
    (orderly_runSelect b _ allows_fetchAll).bind fun _ => orderly_ofResult _

theorem orderly_row? (b : Nat) (output : Value) : Orderly w (row? b output) :=
  (orderly_shapeOf b _ _).bind fun _ =>
    (orderly_runSelect b _ allows_fetchRow).bind fun _ => orderly_ofResult _

theorem orderly_row (b : Nat) (output : Value) : Orderly w (row b output) :=
  (orderly_row? b output).bind fun _ => orderly_pure _

theorem orderly_last (b : Nat) (output field : Value) : Orderly w (last b output field) :=
  (orderly_orderBy b _ _).bind fun _ => orderly_row b output

theorem orderly_exists? (b : Nat) : Orderly w (exists? b) :=
  (orderly_row? b _).bind fun _ => orderly_pure _

theorem orderly_scalar (b : Nat) : Orderly w (scalar b) :=
  orderly_runSelect b _ allows_fetchScalar

theorem orderly_value (b : Nat) (column : Value) : Orderly w (value b column) :=
  (orderly_select b _).bind fun _ => orderly_scalar b

theorem orderly_pluck (b : Nat) (column : Value) : Orderly w (pluck b column) :=
  (orderly_select b _).bind fun _ => orderly_runSelect b _ allows_fetchColumn

section

variable (b : Nat) {field : Operand} (hfield : field.Orderly w) (v : Value)
include hfield

theorem orderly_whereEqual : Orderly w (whereEqual b field v) := orderly_compare b hfield _ _ _

theorem orderly_find : Orderly w (find b field v) :=
  (orderly_whereEqual b hfield v).bind fun _ => orderly_row b _

theorem orderly_findAll : Orderly w (findAll b field v) :=
  (orderly_whereEqual b hfield v).bind fun _ => orderly_fetched b _

end

theorem orderly_aggregate (b : Nat) (function : String) (field : Value) :
    Orderly w (aggregate b function field) := by
  refine (orderly_statementsOf b).bind fun s => (orderly_ofResult _).bind fun _ =>
    (orderly_ofResult _).bind fun _ => (orderly_newQuery b).bind fun outer =>
      (orderly_subQuery b _).bind fun _ => (orderly_fromTables outer _).bind fun _ =>
        (orderly_select outer _).bind fun _ => (orderly_scalar outer).bind fun v => ?_
  split
  · exact orderly_pure _
  · exact orderly_ofResult _

theorem orderly_count (b : Nat) (field : Value) : Orderly w (count b field) :=
  (orderly_aggregate b _ field).bind fun _ => orderly_ofResult _

/-! ## Transactions and writing -/

theorem orderly_transaction (b : Nat) {callback : Nat → Action α}
    (h : ∀ t, Orderly w (callback t)) : Orderly w (transaction b callback) := by
  have hnew : Orderly w (do
      let c ← connectionOf b
      let t ← newBuilder c .transaction (← ofResult (← statementsOf b).copied)
      pure (t, ← within c (callback t))) :=
    (orderly_connectionOf b).bind fun c => (orderly_statementsOf b).bind fun _ =>
      (orderly_ofResult _).bind fun _ => (orderly_newBuilder c _ _).bind fun t =>
        (orderly_within c (h t)).bind fun _ => orderly_pure _
  refine (orderly_builder b).bind fun x => ?_
  split
  · exact (h b).bind fun _ => orderly_pure _
  · exact hnew
  · exact hnew
  · exact hnew

/-- An early rollback, where it is allowed. -/
theorem orderly_finish (b : Nat) {act : Driver.Action Unit} (hact : w.Allows act) :
    Orderly w (finish b act) := by
  refine (orderly_connectionOf b).bind fun c =>
    (orderly_outcomeOf (orderly_onDriver fun _ => hact)).bind fun outcome => ?_
  split
  · exact orderly_pure ()
  · exact (orderly_connection c).bind fun _ => .throw _
  · exact .throw _

theorem orderly_insertRow (b : Nat) (op : Operation) (row : Value) :
    Orderly w (insertRow b op row) := by
  refine (orderly_compileAs b _ _).bind fun q => orderly_run b _ q ?_
  refine allows_bind (allows_execute _ _) fun _ => allows_bind (allows_ofResult _) fun single => ?_
  split
  · exact allows_bind allows_insertId fun _ => allows_pure _
  · exact allows_bind (allows_pure _) fun _ => allows_pure _

theorem orderly_insertBatch (b : Nat) {rows : Nat → Action (List Value)}
    (h : ∀ t, Orderly w (rows t)) : Orderly w (insertBatch b rows) := by
  refine (orderly_connectionOf b).bind fun c => (orderly_inTransaction c).bind fun isOpen => ?_
  split
  · exact (h b).bind fun _ => orderly_pure _
  · exact (orderly_transaction b h).bind fun _ => orderly_pure _

mutual

theorem orderly_insert (op : Operation) (v : Value) (b : Nat) : Orderly w (insert op v b) := by
  cases v with
  | map entries =>
    rw [insert]
    exact orderly_insertRow b op _
  | list rows =>
    rw [insert]
    split
    · exact orderly_pure _
    · exact orderly_insertBatch b fun t => orderly_insertAll op rows t
  | tuple rows =>
    rw [insert]
    split
    · exact orderly_pure _
    · exact orderly_insertBatch b fun t => orderly_insertAll op rows t
  | text s =>
    rw [insert]
    split
    · exact orderly_pure _
    · exact orderly_insertBatch b fun _ => .throw _
  | column c =>
    rw [insert]
    exact orderly_insertBatch b fun _ => .throw _
  | bytes octets =>
    rw [insert]
    split
    · exact orderly_pure _
    · exact orderly_insertBatch b fun _ => .throw _
  | _ =>
    simp only [insert]
    exact .throw _

theorem orderly_insertAll (op : Operation) (rows : List Value) (b : Nat) :
    Orderly w (insertAll op rows b) := by
  cases rows with
  | nil => exact orderly_pure _
  | cons row rows =>
    rw [insertAll]
    exact (orderly_insert op row b).bind fun _ => (orderly_insertAll op rows b).bind fun _ =>
      orderly_pure _

end

theorem orderly_update (b : Nat) (row : Value) : Orderly w (update b row) :=
  (orderly_compileAs b _ _).bind fun q => orderly_runPlain b _ q allows_execute

theorem orderly_delete (b : Nat) (columns : Value) : Orderly w (delete b columns) :=
  (orderly_compileAs b _ _).bind fun q => orderly_runPlain b _ q allows_execute

theorem orderly_updateOrInsert (b : Nat) (row : Value) : Orderly w (updateOrInsert b row) := by
  refine (orderly_exists? b).bind fun there => ?_
  split
  · exact orderly_update b row
  · exact orderly_insert _ row b

end Builder

/-! ## Tables -/

namespace Schema

theorem orderly_tableExists (c : Nat) (name : Value) : Orderly w (exists? c name) :=
  (orderly_connection c).bind fun _ =>
    (orderly_onDriver fun _ => allows_fetchRow _ _).bind fun _ => orderly_pure _

theorem orderly_fullName (c : Nat) (name : Value) (usePrefix : Bool) :
    Orderly w (fullName c name usePrefix) := by
  unfold fullName
  split
  · exact (orderly_connection c).bind fun _ => orderly_ofResult _
  · exact orderly_pure _

theorem orderly_create (c : Nat) (name lines : Value) (ifNotExists : Bool) :
    Orderly w (create c name lines ifNotExists) := by
  refine orderly_unless fun _ => (orderly_connection c).bind fun _ =>
    (orderly_ofResult _).bind fun parts => (orderly_ofResult _).bind fun statement => ?_
  refine Orderly.bind (orderly_forM fun sql _ => ?_) fun _ => orderly_tableExists c name
  exact (orderly_log _ _ _).bind fun _ => (orderly_onDriver fun _ => allows_execute _ _).bind
    fun _ => orderly_pure _

end Schema

/-! ## Calls -/

/-- The method commits nothing, and rolls nothing back unless that is allowed early. -/
def Method.orderly (early : Bool) : Method → Bool
  | .driver .commit | .builder (.result .commit) => false
  | .driver .rollback | .builder (.result .rollback) => early
  | _ => true

namespace Call

open Builder

/-- The callbacks among the arguments are orderly. -/
def Plain (w : Watch) (args : List Operand) : Prop := ∀ a ∈ args, a.Orderly w

theorem orderlyWith_operand {args : List Operand} (hargs : Plain w args) (i : Nat) :
    OrderlyWith w (Operand.Orderly w) (operand args i) := by
  unfold operand
  split
  · rename_i a ha
    exact .pure (hargs a (List.mem_of_getElem? ha))
  · exact .throw _

theorem orderly_value (args : List Operand) (i : Nat) : Orderly w (value args i) := by
  unfold value operand
  split
  · exact (orderly_pure _).bind fun _ => orderly_pure _
  · exact (orderly_throw _).bind fun _ => orderly_pure _

theorem orderly_require (b : Nat) (m : BuilderMethod) : Orderly w (require b m) := by
  unfold require
  split
  · refine (orderly_builder b).bind fun x => ?_
    split
    · exact .throw _
    · exact orderly_pure ()
  · exact orderly_pure ()

theorem orderly_fluent (b : Nat) {act : Action Unit} (h : Orderly w act) :
    Orderly w (fluent b act) :=
  h.bind fun _ => orderly_pure _

section

variable (b : Nat) {args : List Operand} (hargs : Plain w args)
include hargs

theorem orderly_condition (m : ConditionMethod) : Orderly w (condition b args m) := by
  have key {k : Operand → Action Unit} (h : ∀ key : Operand, key.Orderly w → Orderly w (k key)) :
      Orderly w (operand args 0 >>= k) :=
    (orderlyWith_operand hargs 0).bind h
  cases m with
  | compare joiner => exact key fun _ h => orderly_compare b h _ _ _
  | raw =>
    exact (orderly_value args 0).bind fun _ => orderly_addWhere b (Operand.orderly_value _) _ _ _
  | among negated joiner =>
    exact key fun _ h => (orderly_value args 1).bind fun _ => orderly_among b h _ _ _
  | between negated joiner =>
    exact key fun _ h => (orderly_value args 1).bind fun _ => (orderly_value args 2).bind fun _ =>
      orderly_between b h _ _ _ _
  | dateBetween negated =>
    exact key fun _ h => (orderly_value args 1).bind fun _ => (orderly_value args 2).bind fun _ =>
      orderly_dateBetween b h _ _ _
  | isNull negated joiner => exact key fun _ h => orderly_isNull b h _ _
  | like negated =>
    exact key fun _ h => (orderly_value args 1).bind fun _ => orderly_like b h _ _
  | startsWith =>
    exact key fun _ h => (orderly_value args 1).bind fun _ => orderly_like b h _ _
  | search => exact key fun _ h => orderly_like b h _ _
  | rowsExist => exact key fun _ h => orderly_whereExists b h
  | column => exact (orderly_value args 0).bind fun _ => orderly_whereColumn b _ _
  | datePart part =>
    exact (orderly_value args 0).bind fun _ => (orderly_value args 1).bind fun _ =>
      orderly_whereDatePart b _ _ _ _
  | having => exact key fun _ h => orderly_having b h _ _ _
  | orHaving => exact key fun _ h => orderly_having b h _ _ _
  | havingRaw =>
    exact (orderly_value args 0).bind fun _ => orderly_having b (Operand.orderly_value _) _ _ _

omit b in
theorem orderly_operandOr (i : Nat) (v : Value) :
    Operand.Orderly w ((args[i]?).getD (.value v)) := by
  cases h : args[i]? with
  | none => exact Operand.orderly_value v
  | some a => exact hargs a (List.mem_of_getElem? h)

theorem orderly_change (m : ChangeMethod) : Orderly w (change b args m) := by
  have first {k : Value → Action Unit} (h : ∀ v, Orderly w (k v)) :
      Orderly w (value args 0 >>= k) :=
    (orderly_value args 0).bind h
  cases m with
  | setOverwrite => exact orderly_updateBuilder b _
  | fromTables => exact orderly_fromTables b _
  | aliasTable => exact first fun _ => orderly_aliasTable b _ _
  | select => exact orderly_select b _
  | selectRaw => exact first fun _ => orderly_select b _
  | selectDistinct => exact orderly_selectDistinct b _
  | join => exact first fun _ => orderly_join b _ _ (orderly_operandOr hargs 1 _) _ _
  | joinAs kind =>
    exact first fun _ => (orderlyWith_operand hargs 1).bind fun _ h => orderly_join b _ _ h _ _
  | crossJoin => exact first fun _ => orderly_join b _ _ (Operand.orderly_value _) _ _
  | joinUsing => exact first fun _ => (orderly_value args 1).bind fun _ => orderly_joinUsing b _ _ _
  | on => exact first fun _ => orderly_on b _ _ _ _
  | orOn => exact first fun _ => orderly_on b _ _ _ _
  | onShared => exact first fun _ => orderly_onShared b _
  | orderBy => exact first fun _ => orderly_orderBy b _ _
  | orderByDesc => exact first fun _ => orderly_orderBy b _ _
  | groupBy => exact orderly_groupBy b _
  | limit => exact first fun _ => orderly_limit b _
  | offset => exact first fun _ => orderly_offset b _
  | lock => exact first fun _ => orderly_edit b _
  | onDuplicate => exact first fun _ => orderly_onDuplicate b _
  | union => exact first fun _ => orderly_union b _ _
  | run => exact first fun _ => orderly_runText b _ _

theorem orderly_result (m : ResultMethod)
    (hm : (Method.builder (.result m)).orderly w.early = true) :
    Orderly w (result b args m) := by
  have first {k : Value → Action Value} (h : ∀ v, Orderly w (k v)) :
      Orderly w (value args 0 >>= k) :=
    (orderly_value args 0).bind h
  have read {f : Statements → Action Value} (h : ∀ s, Orderly w (f s)) :
      Orderly w (statementsOf b >>= f) :=
    (orderly_statementsOf b).bind h
  cases m with
  | isOverwrite => exact (orderly_builder b).bind fun _ => orderly_pure _
  | close => exact (orderly_updateBuilder b _).bind fun _ => orderly_pure _
  | display => exact first fun _ => (orderly_displayed b _ _).bind fun _ => orderly_pure _
  | raw => exact first fun _ => orderly_pure _
  | subQuery => exact first fun _ => (orderly_builderOf _).bind fun _ => orderly_subQuery _ _
  | addPrefix => exact first fun _ => orderly_addPrefix b _ _
  | tableName => exact read fun _ => orderly_ofResult _
  | aliasName => exact read fun _ => orderly_ofResult _
  | columns => exact read fun _ => (orderly_ofResult _).bind fun _ => orderly_pure _
  | get => exact orderly_fetched b _
  | row => exact orderly_row b _
  | last => exact orderly_last b _ _
  | find => exact first fun _ => orderly_find b (orderly_operandOr hargs 1 _) _
  | findAll =>
    exact (orderlyWith_operand hargs 0).bind fun _ h => (orderly_value args 1).bind fun _ =>
      orderly_findAll b h _
  | rowExists negated => exact (orderly_exists? b).bind fun _ => orderly_pure _
  | value => exact first fun _ => Builder.orderly_value b _
  | pluck => exact first fun _ => (orderly_pluck b _).bind fun _ => orderly_pure _
  | count => exact (orderly_count b _).bind fun _ => orderly_pure _
  | aggregate a => exact first fun _ => (orderly_aggregate b _ _).bind fun _ => orderly_pure _
  | insert op => exact first fun _ => orderly_insert op _ b
  | update => exact first fun _ => orderly_update b _
  | delete => exact orderly_delete b _
  | updateOrInsert => exact first fun _ => orderly_updateOrInsert b _
  | commit => cases hm
  | rollback => exact (orderly_finish b (allows_rollback hm)).bind fun _ => orderly_pure _

omit hargs in
theorem orderly_product (m : ProductMethod) : Orderly w (product b args m) := by
  cases m with
  | newQuery => exact (orderly_newQuery b).bind fun _ => orderly_pure _
  | table => exact (orderly_table b _).bind fun _ => orderly_pure _
  | statements => exact (orderly_statementsOf b).bind fun _ => orderly_pure _
  | lastQuery =>
    exact (orderly_connectionOf b).bind fun _ => (orderly_connection _).bind fun _ =>
      orderly_pure _
  | compile => exact (orderly_compileAs b _ _).bind fun _ => orderly_pure _

theorem orderly_builderCall (m : BuilderMethod) (hm : (Method.builder m).orderly w.early = true) :
    Orderly w (builder m b args) := by
  cases m with
  | condition m => exact orderly_fluent b (orderly_condition b hargs m)
  | change m => exact orderly_fluent b (orderly_change b hargs m)
  | result m => exact (orderly_result b hargs m hm).bind fun _ => orderly_pure _
  | product m => exact orderly_product b m

end

/-! ### Besides builders -/

section

variable (c : Nat) (args : List Operand)

theorem orderly_onDriverWith {act : Value → Bindings → Driver.Action α}
    (hact : ∀ sql bindings, w.Allows (act sql bindings)) :
    Orderly w (onDriverWith c args act) :=
  (orderly_value args 0).bind fun _ => (orderly_connection c).bind fun _ =>
    (orderly_ofResult _).bind fun _ => orderly_onDriver fun _ => hact _ _

theorem orderly_driver (m : DriverMethod) (hm : (Method.driver m).orderly w.early = true) :
    Orderly w (driver m c args) := by
  have ending {act : Driver.Action Unit} (hact : w.Allows act) :
      Orderly w (do onDriver c act; pure Value.null) :=
    (orderly_onDriver fun _ => hact).bind fun _ => orderly_pure _
  have shown (f : Connection → Value) : Orderly w (do pure (f (← Session.connection c))) :=
    (orderly_connection c).bind fun _ => orderly_pure _
  cases m with
  | execute => exact orderly_onDriverWith c args allows_execute
  | fetchAll => exact (orderly_onDriverWith c args allows_fetchAll).bind fun _ => orderly_pure _
  | fetchRow => exact (orderly_onDriverWith c args allows_fetchRow).bind fun _ => orderly_pure _
  | fetchScalar => exact orderly_onDriverWith c args allows_fetchScalar
  | fetchColumn =>
    exact (orderly_onDriverWith c args allows_fetchColumn).bind fun _ => orderly_pure _
  | lastInsertId =>
    show Orderly w (onDriver c Driver.insertId)
    exact orderly_onDriver fun _ => allows_insertId
  | lastErrorMessage => exact shown fun conn => .text conn.driver.lastError
  | begin => exact ending allows_begin
  | commit => cases hm
  | rollback => exact ending (allows_rollback hm)
  | inTransaction => exact (orderly_inTransaction c).bind fun _ => orderly_pure _
  | prepare =>
    exact (orderly_value args 0).bind fun _ => (orderly_ofResult _).bind fun _ => orderly_pure _
  | tablePrefix => exact shown fun conn => conn.driver.tablePrefix
  | setPrefix =>
    exact (orderly_value args 0).bind fun _ => (orderly_setDriverPrefix c _).bind fun _ =>
      orderly_pure _
  | close => exact ending allows_close
  | handle =>
    refine (orderly_connection c).bind fun conn => ?_
    split
    · exact .throw _
    · exact orderly_pure _
    · exact orderly_pure _

theorem orderly_connectionCall (m : ConnectionMethod) : Orderly w (connection m c args) := by
  have shown (f : Connection → Output) : Orderly w (do pure (f (← Session.connection c))) :=
    (orderly_connection c).bind fun _ => orderly_pure _
  cases m with
  | setPrefix => exact (orderly_setTablePrefix c _).bind fun _ => shown _
  | tablePrefix => exact shown _
  | lastQuery => exact shown _
  | close => exact (orderly_onDriver fun _ => allows_close).bind fun _ => orderly_pure _
  | newBuilder => exact (orderly_newBuilder c _ _).bind fun _ => orderly_pure _

/-- Hooks may change where nobody comes to listen. -/
theorem orderly_updateHooks {f : Hooks → Result Hooks}
    (h : ∀ hooks hooks', f hooks = .ok hooks' → hooks.actions = [] → hooks'.actions = []) :
    Orderly w (updateHooks c f) := by
  refine OrderlyWith.bind (orderlyWith_connection c) fun conn hconn => ?_
  refine OrderlyWith.bind (Q := fun hooks => hooks.actions = []) (.ofResult fun hooks hhooks =>
    h _ _ hhooks hconn) fun hooks hhooks => ?_
  exact orderly_updateConnection (fun _ => rfl) fun _ _ => hhooks

theorem removeListener_unheard {h h' : Hooks} {event id : Value}
    (hremoved : h.removeListener event id = .ok h') (hactions : h.actions = []) :
    h'.actions = [] := by
  obtain ⟨name, -, hname⟩ := bind_ok hremoved
  cases hname
  simp [hactions, Hooks.leave]

theorem removeFilter_actions {h h' : Hooks} {name id : Value}
    (hremoved : h.removeFilter name id = .ok h') : h'.actions = h.actions := by
  obtain ⟨key, -, hkey⟩ := bind_ok hremoved
  cases hkey
  rfl

theorem orderly_hooks (m : HooksMethod) : Orderly w (hooks m c args) := by
  have answer (v : Value) {act : Action Unit} (h : Orderly w act) :
      Orderly w (do act; pure v) :=
    h.bind fun _ => orderly_pure v
  cases m with
  | removeListener =>
    exact (orderly_introduce _ (orderly_pure _)).bind fun _ =>
      answer _ (orderly_updateHooks c fun _ _ h hactions => removeListener_unheard h hactions)
  | hasListener =>
    exact (orderly_connection c).bind fun _ => (orderly_ofResult _).bind fun _ => orderly_pure _
  | fire => exact answer _ (orderly_fire c _)
  | removeFilter =>
    exact (orderly_introduce _ (orderly_pure _)).bind fun _ =>
      answer _ (orderly_updateHooks c fun _ _ h hactions => removeFilter_actions h ▸ hactions)
  | applyFilters => exact (orderly_value args 1).bind fun _ => orderly_applyFilters c _ _
  | clear =>
    refine answer _ (orderly_updateHooks c fun _ _ h _ => ?_)
    cases h
    rfl

theorem orderly_tables (m : TableMethod) : Orderly w (tables m c args) := by
  cases m with
  | create ifNotExists =>
    exact (orderly_value args 1).bind fun _ => (orderly_value args 0).bind fun _ =>
      (Schema.orderly_fullName c _ _).bind fun _ => (Schema.orderly_create c _ _ _).bind fun _ =>
        orderly_pure _
  | «exists» =>
    exact (orderly_value args 0).bind fun _ => (Schema.orderly_tableExists c _).bind fun _ =>
      orderly_pure _
  | parts =>
    exact (orderly_connection c).bind fun _ => (orderly_value args 0).bind fun _ =>
      (orderly_value args 1).bind fun _ => (orderly_ofResult _).bind fun _ =>
        (orderly_ofResult _).bind fun _ => orderly_pure _

theorem orderly_standingBuilder : Orderly w standingBuilder :=
  orderly_standingConnection.bind fun _ => orderly_newBuilder _ _ _

theorem orderly_standing (m : StandingMethod) : Orderly w (standing m args) := by
  cases m with
  | table =>
    exact (orderly_ofResult _).bind fun _ => orderly_standingConnection.bind fun c =>
      (orderly_setTablePrefix c _).bind fun _ => (orderly_newBuilder c _ _).bind fun b =>
        orderly_fluent b (orderly_fromTables b _)
  | select =>
    exact orderly_standingBuilder.bind fun b => orderly_fluent b (orderly_select b _)
  | raw => exact (orderly_value args 0).bind fun _ => orderly_pure _
  | run =>
    exact orderly_standingBuilder.bind fun b => (orderly_value args 0).bind fun _ =>
      orderly_fluent b (orderly_runText b _ _)
  | schema m =>
    exact orderly_standingConnection.bind fun c => (orderly_tables c args m).bind fun _ =>
      orderly_pure _
  | isFirst =>
    exact orderly_standingConnection.bind fun _ => orderly_get.bind fun _ => orderly_pure _
  | choose => exact orderly_get_set (fun _ => rfl) fun _ => orderly_pure _
  | disconnect =>
    refine orderly_get.bind fun s => ?_
    split
    · exact orderly_pure _
    · refine (orderly_onDriver fun _ => allows_close).bind fun _ => ?_
      exact Orderly.bind (orderly_modify fun _ => rfl) fun _ => orderly_pure _

end

/-! ### All methods -/

theorem orderly_find (m : Method) (current : Option Nat) : Orderly w (find m current) := by
  cases m with
  | builder m => exact (orderly_present current).bind fun b => orderly_require b m
  | standing m => exact orderly_pure _
  | missing => exact .throw _
  | _ => exact orderly_firstConnection.bind fun _ => orderly_pure _

theorem orderly_perform {m : Method} (hm : m.orderly w.early = true) (current : Option Nat)
    {args : List Operand} (hargs : Plain w args) : Orderly w (perform m current args) := by
  have answer {act : Action Value} (h : Orderly w act) :
      Orderly w (do pure (Output.value (← act))) :=
    h.bind fun _ => orderly_pure _
  cases m with
  | builder m =>
    exact orderly_unless fun _ => (orderly_present current).bind fun b =>
      orderly_builderCall b hargs m hm
  | driver m =>
    exact orderly_unless fun _ => orderly_firstConnection.bind fun c =>
      answer (orderly_driver c args m hm)
  | connection m =>
    exact orderly_unless fun _ => orderly_firstConnection.bind fun c =>
      orderly_connectionCall c args m
  | hooks m =>
    exact orderly_unless fun _ => orderly_firstConnection.bind fun c =>
      answer (orderly_hooks c args m)
  | tables m =>
    exact orderly_unless fun _ => orderly_firstConnection.bind fun c =>
      answer (orderly_tables c args m)
  | standing m => exact orderly_unless fun _ => orderly_standing args m
  | missing => exact orderly_unless fun _ => .throw _

end Call

end SqlBuilder
