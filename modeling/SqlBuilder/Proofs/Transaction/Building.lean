import SqlBuilder.Program.Call
import SqlBuilder.Proofs.Transaction.Ends

/-!
# What builders do is orderly

Everything a builder does to itself and to its statements leaves the connections alone. What it runs
goes to its driver, and it commits only the transactions it has opened.
-/

set_option autoImplicit false

namespace SqlBuilder

open Session

variable {w : Watch}

/-- A callback is orderly on every builder. -/
def Operand.Orderly (w : Watch) : Operand → Prop
  | .value _ => True
  | .callback _ f => ∀ b, SqlBuilder.Orderly w (f b)

theorem Operand.orderly_value (v : Value) : (Operand.value v).Orderly w := trivial

/-! ## Sessions -/

namespace Session

@[simp] theorem orderly_newObject : Orderly w newObject := by
  refine Orderly.bind (orderly_modify fun _ => ?_) fun _ => orderly_get.bind fun _ => orderly_pure _
  rfl

@[simp] theorem orderly_note (e : Entry) : Orderly w (note e) := fun _ _ _ => keeps_note e

@[simp] theorem orderly_log (level : LogLevel) (logger message : String) :
    Orderly w (log level logger message) :=
  orderly_note _

@[simp] theorem orderly_inTransaction (c : Nat) : Orderly w (inTransaction c) :=
  fun _ _ _ => keeps_inTransaction c

@[simp] theorem orderly_builder (b : Nat) : Orderly w (builder b) := by
  simp [builder]

@[simp] theorem orderly_updateBuilder (b : Nat) (f : Builder → Builder) :
    Orderly w (updateBuilder b f) :=
  orderly_modify fun _ => rfl

@[simp] theorem orderly_connectionOf (b : Nat) : Orderly w (connectionOf b) := by
  refine (orderly_builder b).bind fun x => ?_
  cases x.connection with
  | none => exact .throw _
  | some c => exact orderly_pure c

@[simp] theorem orderly_adapterOf (b : Nat) : Orderly w (adapterOf b) := by
  simp [adapterOf]

@[simp] theorem orderly_statementsOf (b : Nat) : Orderly w (statementsOf b) := by
  simp [statementsOf]

@[simp] theorem orderly_edit (b : Nat) (f : Statements → Statements) : Orderly w (edit b f) :=
  (orderly_builder b).bind fun _ => orderly_modify fun _ => rfl

@[simp] theorem orderly_change (b : Nat) (f : Statements → Result Statements) :
    Orderly w (change b f) := by
  simp [change]

@[simp] theorem orderly_tryEdit (b : Nat) (f : Statements → Option Statements) :
    Orderly w (tryEdit b f) :=
  orderly_change b _

@[simp] theorem orderly_overwrites (b : Nat) : Orderly w (overwrites b) := by
  simp [overwrites]

@[simp] theorem orderly_newRecord (st : Statements) : Orderly w (newRecord st) :=
  orderly_get_set (fun _ => rfl) fun _ => orderly_pure _

@[simp] theorem orderly_newBuilder (c : Nat) (kind : BuilderKind) (st : Statements) :
    Orderly w (newBuilder c kind st) :=
  (orderly_newRecord st).bind fun _ => orderly_get_set (fun _ => rfl) fun _ => orderly_pure _

@[simp] theorem orderly_setRecord (b record : Nat) : Orderly w (setRecord b record) :=
  orderly_updateBuilder b _

@[simp] theorem orderly_compileAs (b : Nat) (op : Result Operation) (payload : List Value) :
    Orderly w (compileAs b op payload) :=
  (orderly_adapterOf b).bind fun _ => (orderly_ofResult op).bind fun _ =>
    (orderly_statementsOf b).bind fun _ => (orderly_ofResult _).bind fun _ =>
      (orderly_log _ _ _).bind fun _ => orderly_pure _

@[simp] theorem orderly_compileSelect (b : Nat) : Orderly w (compileSelect b) :=
  orderly_compileAs b _ _

/-! ### Events -/

/-- Nobody listens. -/
theorem orderly_fire (c : Nat) (ev : Event) : Orderly w (fire c ev) := by
  refine OrderlyWith.bind (orderlyWith_connection c) fun conn hconn => ?_
  have hnone : ∀ listeners, conn.hooks.listeners ev.name = .ok listeners → listeners = [] := by
    intro listeners hlisteners
    rw [Hooks.listeners, hconn, Hooks.registered] at hlisteners
    cases hname : Hooks.keyName ev.name with
    | error f =>
      rw [hname] at hlisteners
      cases hlisteners
    | ok name =>
      rw [hname] at hlisteners
      cases hlisteners
      rfl
  refine OrderlyWith.bind (OrderlyWith.ofResult hnone) fun listeners hlisteners => ?_
  rw [hlisteners]
  exact (orderly_log _ _ _).bind fun _ => orderly_pure _

@[simp] theorem orderly_announce (b : Nat) (event : String) (q : CompiledQuery)
    (arguments : List (Value × Value)) : Orderly w (announce b event q arguments) := by
  refine (orderly_connectionOf b).bind fun c => (orderly_connection c).bind fun _ =>
    (orderly_ofResult _).bind fun heard => ?_
  split
  · exact orderly_fire c _
  · exact orderly_pure ()

@[simp] theorem orderly_introduce (name : Value) {make : Action Function}
    (h : Orderly w make) : Orderly w (introduce name make) := by
  refine orderly_get.bind fun s => (orderly_ofResult _).bind fun known? => ?_
  cases known? with
  | some known => exact orderly_pure _
  | none => exact h.bind fun f => Orderly.bind (orderly_modify fun _ => rfl) fun _ => orderly_pure _

@[simp] theorem orderly_applyFilters (c : Nat) (name v : Value) :
    Orderly w (applyFilters c name v) :=
  (orderly_connection c).bind fun _ => (orderly_ofResult _).bind fun _ =>
    orderly_get.bind fun _ => orderly_ofResult _

@[simp] theorem orderly_tablePrefixOf (b : Nat) : Orderly w (tablePrefixOf b) := by
  refine (orderly_connectionOf b).bind fun c => (orderly_connection c).bind fun conn => ?_
  dsimp only
  split
  · exact orderly_applyFilters c _ _
  · exact orderly_pure _

/-! ### Connecting -/

@[simp] theorem orderly_adoptPrefix (c : Nat) : Orderly w (adoptPrefix c) := by
  have hadopted (p : Value) : Orderly w (updateConnection c fun conn =>
      { conn with tablePrefix := p }) :=
    orderly_updateConnection (fun _ => rfl) fun _ h => h
  exact (orderly_connection c).bind fun _ => (hadopted _).bind fun _ => orderly_log _ _ _

@[simp] theorem orderly_setDriverPrefix (c : Nat) (p : Value) :
    Orderly w (setDriverPrefix c p) := by
  refine fun P E _ => .modified fun s hs => hs.modify (fun conn _ _ hguards => ?_) fun _ h => h
  exact hguards.imp (fun h => ⟨h.backend, h.inTransaction, h.history⟩)
    fun h => ⟨h.backend, h.inTransaction, h.history⟩

@[simp] theorem orderly_setTablePrefix (c : Nat) (choice : PrefixChoice) :
    Orderly w (setTablePrefix c choice) := by
  cases choice with
  | off => exact orderly_updateConnection (fun _ => rfl) fun _ h => h
  | adopted => exact orderly_adoptPrefix c
  | given p => exact (orderly_setDriverPrefix c _).bind fun _ => orderly_adoptPrefix c

theorem orderly_connect (settings : Settings) (scenario : Scenario) :
    Orderly w (connect settings scenario) := by
  unfold connect
  refine (orderly_ofResult _).bind fun adapter => ?_
  intro P E hPE
  refine Keeps.get.bind fun s hs => ?_
  dsimp only
  have hpushed (conn : Connection) (hhooks : conn.hooks.actions = []) :
      Session.Keeps (Watched w P E) (fun _ => True)
        (set { s with connections := s.connections.push conn } : Action PUnit) :=
    fun _ _ _ => ⟨hs.push hhooks, fun _ _ => trivial⟩
  have hprefixed (c : Nat) : Orderly w (do setTablePrefix c settings.tablePrefix; pure c) :=
    (orderly_setTablePrefix c _).bind fun _ => orderly_pure c
  refine Keeps.bind (Q := fun _ => True) ?_ fun _ _ => hprefixed _ P E hPE
  apply hpushed
  rfl

end Session

namespace Builder

/-! ## Statements -/

@[simp] theorem orderly_addPrefix (b : Nat) (v : Value) (mixed : Bool) :
    Orderly w (addPrefix b v mixed) := by
  simp [addPrefix]

@[simp] theorem orderly_addPrefixAll (b : Nat) (vs : List Value) (mixed : Bool) :
    Orderly w (addPrefixAll b vs mixed) := by
  simp [addPrefixAll]

@[simp] theorem orderly_newQuery (b : Nat) : Orderly w (newQuery b) := by
  simp [newQuery]

@[simp] theorem orderly_setAlias (b : Nat) (name table : Value) :
    Orderly w (setAlias b name table) := by
  simp [setAlias]

@[simp] theorem orderly_collectTables (b : Nat) (item : Value) :
    Orderly w (collectTables b item) := by
  unfold collectTables
  split
  · exact orderly_mapM fun entry _ => by simp
  · exact orderly_addPrefixAll b _ _
  · exact orderly_addPrefixAll b _ _
  · simp

@[simp] theorem orderly_fromTables (b : Nat) (tables : List Value) :
    Orderly w (fromTables b tables) := by
  unfold fromTables
  split
  · exact orderly_edit b _
  · exact (orderly_mapM fun item _ => orderly_collectTables b item).bind fun _ =>
      orderly_change b _

@[simp] theorem orderly_table (b : Nat) (tables : List Value) : Orderly w (table b tables) := by
  have hrest (target : Nat) : Orderly w (do fromTables target tables; pure target) :=
    (orderly_fromTables target tables).bind fun _ => orderly_pure _
  unfold table
  split
  · exact hrest b
  · exact (orderly_newQuery b).bind hrest

@[simp] theorem orderly_aliasTable (b : Nat) (name table : Value) :
    Orderly w (aliasTable b name table) := by
  unfold aliasTable
  split
  · refine (orderly_statementsOf b).bind fun s => ?_
    exact orderly_unless fun _ => (orderly_ofResult _).bind fun _ => orderly_setAlias b _ _
  · exact (orderly_addPrefix b _ _).bind fun _ => orderly_setAlias b _ _

mutual

theorem orderly_collectField (b : Nat) (v : Value) : Orderly w (collectField b v) := by
  cases v with
  | map entries =>
    rw [collectField]
    exact orderly_mapM fun entry _ => by simp
  | list fields =>
    rw [collectField]
    exact orderly_collectFields b fields
  | tuple fields =>
    rw [collectField]
    exact orderly_collectFields b fields
  | _ => simp [collectField]

theorem orderly_collectFields (b : Nat) (vs : List Value) : Orderly w (collectFields b vs) := by
  cases vs with
  | nil => exact orderly_pure _
  | cons v vs =>
    rw [collectFields]
    exact (orderly_collectField b v).bind fun _ => (orderly_collectFields b vs).bind fun _ =>
      orderly_pure _

end

theorem orderly_select (b : Nat) (fields : List Value) : Orderly w (select b fields) :=
  (orderly_collectFields b fields).bind fun _ => (orderly_overwrites b).bind fun _ =>
    orderly_change b _

theorem orderly_selectDistinct (b : Nat) (fields : List Value) :
    Orderly w (selectDistinct b fields) :=
  (orderly_collectFields b fields).bind fun _ => (orderly_overwrites b).bind fun _ =>
    orderly_change b _

/-! ## Conditions -/

theorem orderly_subQuery (b : Nat) (name : Value) : Orderly w (subQuery b name) :=
  (orderly_compileSelect b).bind fun _ => orderly_pure _

theorem orderly_addCondition (b : Nat) (list : ConditionList) (c : Condition) :
    Orderly w (addCondition b list c) :=
  (orderly_overwrites b).bind fun _ => orderly_tryEdit b _

theorem orderly_collected (b : Nat) (kind : BuilderKind) {callback : Nat → Action Unit}
    (h : ∀ g, Orderly w (callback g)) : Orderly w (collected b kind callback) :=
  (orderly_connectionOf b).bind fun _ => (orderly_newBuilder _ _ _).bind fun g =>
    (h g).bind fun _ => (orderly_statementsOf g).bind fun _ => orderly_pure _

theorem orderly_condition (b : Nat) {key : Operand} (hkey : key.Orderly w)
    (operator value joiner : Value) : Orderly w (condition b key operator value joiner) := by
  have hvalue : Orderly w (conditionValue value) := by
    cases value with
    | builder id kind => exact orderly_subQuery id .null
    | _ => exact orderly_pure _
  have hname : Orderly w (addPrefix b key.plain true) := orderly_addPrefix b _ _
  have hgiven : Orderly w (conditionKey b key operator) := by
    cases key with
    | value v => exact hname
    | callback identity f =>
      cases operator with
      | null => exact (orderly_collected b _ hkey).bind fun cs => orderly_pure _
      | _ => exact hname
  rw [condition_parts]
  exact hgiven.bind fun key => hvalue.bind fun value => orderly_pure _

section

variable (b : Nat) {key : Operand} (hkey : key.Orderly w)
include hkey

theorem orderly_addWhere (operator value : Value) (joiner : Joiner) :
    Orderly w (addWhere b key operator value joiner) :=
  (orderly_condition b hkey _ _ _).bind fun _ => (orderly_builder b).bind fun _ =>
    orderly_addCondition b _ _

omit hkey in
theorem orderly_addRaw (sql : String) (bindings : List Value) :
    Orderly w (addRaw b sql bindings) :=
  orderly_addWhere b (Operand.orderly_value _) _ _ _

theorem orderly_compare (joiner : Joiner) (operator value : Option Value) :
    Orderly w (compare b joiner key operator value) :=
  orderly_addWhere b hkey _ _ joiner

theorem orderly_among (negated : Bool) (joiner : Joiner) (values : Value) :
    Orderly w (among b negated joiner key values) := by
  have hadd (values : Value) : Orderly w (addWhere b key (negatable negated "IN") values joiner) :=
    orderly_addWhere b hkey _ _ joiner
  unfold among
  split
  · exact (orderly_pure _).bind hadd
  · exact (orderly_pure _).bind hadd
  · exact (orderly_ofResult _).bind fun _ => (orderly_pure _).bind hadd

theorem orderly_between (negated : Bool) (joiner : Joiner) (least most : Value) :
    Orderly w (between b negated joiner key least most) :=
  orderly_addWhere b hkey _ _ joiner

theorem orderly_dateBetween (negated : Bool) (least most : Value) :
    Orderly w (dateBetween b negated key least most) := by
  refine (orderly_adapterOf b).bind fun a => ?_
  dsimp only
  exact orderly_addWhere b hkey _ _ _

theorem orderly_isNull (negated : Bool) (joiner : Joiner) :
    Orderly w (isNull b negated joiner key) :=
  orderly_addWhere b hkey _ _ joiner

theorem orderly_like (negated : Bool) (pattern : Value) :
    Orderly w (like b negated key pattern) :=
  orderly_addWhere b hkey _ _ _

theorem orderly_having (operator value : Option Value) (joiner : Value) :
    Orderly w (having b key operator value joiner) :=
  (orderly_condition b hkey _ _ _).bind fun _ => orderly_addCondition b _ _

theorem orderly_apply : Orderly w (key.apply b) := by
  cases key with
  | value v => exact .throw _
  | callback identity f => exact hkey b

theorem orderly_whereExists : Orderly w (whereExists b key) :=
  (orderly_newQuery b).bind fun target => (orderly_apply target hkey).bind fun _ =>
    (orderly_compileSelect target).bind fun _ => orderly_addRaw b _ _

end

theorem orderly_whereDatePart (b : Nat) (part : String) (column operator : Value)
    (value : Option Value) : Orderly w (whereDatePart b part column operator value) :=
  (orderly_adapterOf b).bind fun _ => orderly_addRaw b _ _

theorem orderly_whereColumn (b : Nat) (first : Value) (rest : List Value) :
    Orderly w (whereColumn b first rest) := by
  refine orderly_forM fun request _ => ?_
  cases request with
  | comparison first operator second =>
    exact (orderly_adapterOf b).bind fun _ => orderly_addRaw b _ _
  | malformed => exact .throw _

/-! ## Joins -/

theorem orderly_on (b : Nat) (key operator value joiner : Value) :
    Orderly w (on b key operator value joiner) :=
  (orderly_addPrefix b key true).bind fun _ => (orderly_addPrefix b value true).bind fun _ =>
    orderly_addCondition b _ _

theorem orderly_onShared (b : Nat) (columns : Value) : Orderly w (onShared b columns) := by
  unfold onShared
  split
  · exact (orderly_pure _).bind fun _ => orderly_addCondition b _ _
  · exact (orderly_ofResult _).bind fun _ => orderly_addCondition b _ _

theorem orderly_joinTable (b : Nat) (table : Value) : Orderly w (joinTable b table) := by
  unfold joinTable
  split
  · simp
  · simp
  · exact .throw _
  · exact .throw _
  · exact orderly_addPrefix b _ _

theorem orderly_addJoin (b : Nat) (kind table : Value) (criteria : List Condition) :
    Orderly w (addJoin b kind table criteria) := by
  refine (orderly_joinTable b table).bind fun table => (orderly_overwrites b).bind fun _ => ?_
  split
  · exact orderly_tryEdit b _
  · exact (orderly_tryEdit b _).bind fun _ => .throw _

theorem orderly_join (b : Nat) (kind table : Value) {key : Operand} (hkey : key.Orderly w)
    (operator value : Value) : Orderly w (join b kind table key operator value) := by
  unfold join
  split
  · exact (orderly_pure _).bind fun _ => orderly_addJoin b _ _ _
  · exact (orderly_collected b .join hkey).bind fun _ => orderly_addJoin b _ _ _
  · exact (orderly_collected b .join fun j => orderly_on j _ _ _ _).bind fun _ =>
      orderly_addJoin b _ _ _

theorem orderly_joinUsing (b : Nat) (kind table columns : Value) :
    Orderly w (joinUsing b kind table columns) :=
  (orderly_collected b .join fun j => orderly_onShared j columns).bind fun _ =>
    orderly_addJoin b _ _ _

/-! ## Ordering, grouping, paging, unions -/

theorem orderly_orderBy (b : Nat) (fields direction : Value) :
    Orderly w (orderBy b fields direction) :=
  orderly_forM fun _ _ => (orderly_addPrefix b _ _).bind fun _ =>
    (orderly_overwrites b).bind fun _ => orderly_tryEdit b _

theorem orderly_groupBy (b : Nat) (fields : List Value) : Orderly w (groupBy b fields) := by
  refine (orderly_overwrites b).bind fun _ => (orderly_edit b _).bind fun _ => ?_
  refine orderly_forM fun field _ => (orderly_change b _).bind fun _ => ?_
  split
  · exact (orderly_addPrefixAll b _ _).bind fun _ => orderly_change b _
  · exact (orderly_addPrefixAll b _ _).bind fun _ => orderly_change b _
  · exact (orderly_addPrefix b _ _).bind fun _ => orderly_change b _

theorem orderly_limit (b : Nat) (v : Value) : Orderly w (limit b v) :=
  (orderly_ofResult _).bind fun _ => orderly_edit b _

theorem orderly_offset (b : Nat) (v : Value) : Orderly w (offset b v) :=
  (orderly_ofResult _).bind fun _ => orderly_edit b _

theorem orderly_onDuplicate (b : Nat) (row : Value) : Orderly w (onDuplicate b row) :=
  (orderly_ofResult _).bind fun _ => orderly_edit b _

theorem orderly_builderOf (v : Value) : Orderly w (Operand.builderOf v) := by
  unfold Operand.builderOf
  split
  · exact orderly_pure _
  · exact .throw _

theorem orderly_union (b : Nat) (other type : Value) : Orderly w (union b other type) :=
  (orderly_ofResult _).bind fun _ => (orderly_builderOf other).bind fun _ =>
    (orderly_statementsOf _).bind fun _ => orderly_change b _

end Builder

end SqlBuilder
