import SqlBuilder.Program.Call
import SqlBuilder.Proofs.Frame.Sessions

/-!
# What builders do is framed

A builder that acts may change itself and its statements by any of its methods. Subqueries, groups,
joins and `EXISTS` read what others have built and are collected by new builders, so nothing else is
changed.
-/

set_option autoImplicit false

namespace SqlBuilder

open Session

variable {F : Frame}

/-- A callback is framed on every builder that acts. -/
def Operand.Framed (F : Frame) : Operand → Prop
  | .value _ => True
  | .callback _ f => ∀ b, F.acts b → SqlBuilder.Framed F (f b)

theorem Operand.framed_value (v : Value) : (Operand.value v).Framed F := trivial

theorem Operand.Framed.apply {op : Operand} (h : op.Framed F) {b : Nat} (hb : F.acts b) :
    SqlBuilder.Framed F (op.apply b) := by
  cases op with
  | value v => exact .throw _
  | callback identity f => exact h b hb

namespace Builder

/-! ## New builders -/

/-- A new builder on the connection of a builder. -/
theorem framedWith_newBuilder (b : Nat) (kind : BuilderKind) {st : Statements} (hst : F.sound st) :
    FramedWith F F.acts (connectionOf b >>= fun c => newBuilder c kind st) :=
  framedWith_connectionOf fun c => framedFrom_newBuilder c kind hst

theorem framedWith_newQuery (b : Nat) : FramedWith F F.acts (newQuery b) :=
  framedWith_newBuilder b .query F.empty

theorem framed_subQuery (b : Nat) (name : Value) : Framed F (subQuery b name) :=
  (framed_compileSelect b).bind fun _ => .pure trivial

theorem framed_collected (b : Nat) (kind : BuilderKind) {callback : Nat → Action Unit}
    (h : ∀ g, F.acts g → Framed F (callback g)) : Framed F (collected b kind callback) :=
  framedWith_connectionOf fun c => (framedFrom_newBuilder c kind F.empty).bind fun g hg =>
    (h g hg).bind fun _ => (reads_statementsOf g).andThen fun _ => .pure trivial

theorem framed_condition (b : Nat) {key : Operand} (hkey : key.Framed F)
    (operator value joiner : Value) : Framed F (condition b key operator value joiner) := by
  have hvalue : Framed F (conditionValue value) := by
    cases value with
    | builder id kind => exact framed_subQuery id .null
    | _ => exact .pure trivial
  have hname : Framed F (addPrefix b key.plain true) := (reads_addPrefix b _ _).framed
  have hgiven : Framed F (conditionKey b key operator) := by
    cases key with
    | value v => exact hname
    | callback identity f =>
      cases operator with
      | null => exact (framed_collected b _ hkey).bind fun cs => .pure trivial
      | _ => exact hname
  rw [condition_parts]
  exact hgiven.bind fun key => hvalue.bind fun value => .pure trivial

section

variable {b : Nat} (hb : F.acts b)
include hb

/-! ## Tables and columns -/

theorem framed_setAlias (name table : Value) : Framed F (setAlias b name table) :=
  (framed_edit hb fun _ h => F.reshape h .openAliases).bind fun _ =>
    (Reads.ofResult _).andThen fun _ => framed_reshaping hb fun _ _ => .addAlias

theorem framed_collectTables (item : Value) : Framed F (collectTables b item) := by
  unfold collectTables
  split
  · exact Framed.mapM fun entry => (reads_addPrefix b _ _).andThen fun _ =>
      (framed_setAlias hb _ _).bind fun _ => .pure trivial
  · exact (reads_addPrefixAll b _ _).framed
  · exact (reads_addPrefixAll b _ _).framed
  · exact (reads_addPrefix b _ _).andThen fun _ => .pure trivial

theorem framed_fromTables (tables : List Value) : Framed F (fromTables b tables) := by
  unfold fromTables
  split
  · exact framed_edit hb fun _ h => F.reshape h (.of_eq rfl rfl)
  · exact (Framed.mapM fun item => framed_collectTables hb item).bind fun _ =>
      framed_reshaping hb fun _ _ => .addTables

theorem framedWith_table (tables : List Value) : FramedWith F F.acts (table b tables) := by
  have hrest (target : Nat) (h : F.acts target) :
      FramedWith F F.acts (do fromTables target tables; pure target) :=
    (framed_fromTables h tables).bind fun _ => .pure h
  unfold table
  split
  · exact hrest b hb
  · exact (framedWith_newQuery b).bind hrest

theorem framed_aliasTable (name table : Value) : Framed F (aliasTable b name table) := by
  unfold aliasTable
  split
  · refine (reads_statementsOf b).andThen fun s => ?_
    exact framedWith_unless fun _ => (Reads.ofResult _).andThen fun _ => framed_setAlias hb _ _
  · exact (reads_addPrefix b _ _).andThen fun _ => framed_setAlias hb _ _

theorem framed_select (fields : List Value) : Framed F (select b fields) :=
  (reads_collectFields b fields).andThen fun _ => (reads_overwrites b).andThen fun _ =>
    framed_reshaping hb fun _ _ => .addSelects

theorem framed_selectDistinct (fields : List Value) : Framed F (selectDistinct b fields) :=
  (reads_collectFields b fields).andThen fun _ => (reads_overwrites b).andThen fun _ =>
    framed_reshaping hb fun _ _ => .addDistincts

/-! ## Conditions -/

theorem framed_addCondition (list : ConditionList) (c : Condition) :
    Framed F (addCondition b list c) :=
  (reads_overwrites b).andThen fun _ => framed_tryEdit hb fun _ _ => .addCondition

theorem framed_addRaw (sql : String) (bindings : List Value) : Framed F (addRaw b sql bindings) :=
  (framed_condition b (Operand.framed_value _) _ _ _).bind fun _ =>
  (reads_builder b).andThen fun _ =>
    framed_addCondition hb _ _

section

variable {key : Operand} (hkey : key.Framed F)
include hkey

theorem framed_addWhere (operator value : Value) (joiner : Joiner) :
    Framed F (addWhere b key operator value joiner) :=
  (framed_condition b hkey _ _ _).bind fun _ => (reads_builder b).andThen fun _ =>
    framed_addCondition hb _ _

theorem framed_compare (joiner : Joiner) (operator value : Option Value) :
    Framed F (compare b joiner key operator value) :=
  framed_addWhere hb hkey _ _ joiner

theorem framed_among (negated : Bool) (joiner : Joiner) (values : Value) :
    Framed F (among b negated joiner key values) := by
  have hadd (values : Value) : Framed F (addWhere b key (negatable negated "IN") values joiner) :=
    framed_addWhere hb hkey _ _ joiner
  unfold among
  split
  · exact (Reads.pure _).andThen hadd
  · exact (Reads.pure _).andThen hadd
  · exact (Reads.ofResult _).andThen fun _ => (Reads.pure _).andThen hadd

theorem framed_between (negated : Bool) (joiner : Joiner) (least most : Value) :
    Framed F (between b negated joiner key least most) :=
  framed_addWhere hb hkey _ _ joiner

theorem framed_dateBetween (negated : Bool) (least most : Value) :
    Framed F (dateBetween b negated key least most) := by
  refine (reads_adapterOf b).andThen fun a => ?_
  dsimp only
  exact framed_addWhere hb hkey _ _ _

theorem framed_isNull (negated : Bool) (joiner : Joiner) :
    Framed F (isNull b negated joiner key) :=
  framed_addWhere hb hkey _ _ joiner

theorem framed_like (negated : Bool) (pattern : Value) : Framed F (like b negated key pattern) :=
  framed_addWhere hb hkey _ _ _

theorem framed_having (operator value : Option Value) (joiner : Value) :
    Framed F (having b key operator value joiner) :=
  (framed_condition b hkey _ _ _).bind fun _ => framed_addCondition hb _ _

theorem framed_whereExists : Framed F (whereExists b key) :=
  (framedWith_newQuery b).bind fun target htarget => (hkey.apply htarget).bind fun _ =>
    (framed_compileSelect target).bind fun _ => framed_addRaw hb _ _

end

theorem framed_whereDatePart (part : String) (column operator : Value) (value : Option Value) :
    Framed F (whereDatePart b part column operator value) :=
  (reads_adapterOf b).andThen fun _ => framed_addRaw hb _ _

theorem framed_whereColumn (first : Value) (rest : List Value) :
    Framed F (whereColumn b first rest) := by
  refine Framed.forM fun request => ?_
  cases request with
  | comparison first operator second =>
    exact (reads_adapterOf b).andThen fun _ => framed_addRaw hb _ _
  | malformed => exact .throw _

/-! ## Joins -/

theorem framed_on (key operator value joiner : Value) :
    Framed F (on b key operator value joiner) :=
  (reads_addPrefix b key true).andThen fun _ => (reads_addPrefix b value true).andThen fun _ =>
    framed_addCondition hb _ _

theorem framed_onShared (columns : Value) : Framed F (onShared b columns) := by
  unfold onShared
  split
  · exact (Reads.pure _).andThen fun _ => framed_addCondition hb _ _
  · exact (Reads.ofResult _).andThen fun _ => framed_addCondition hb _ _

theorem framed_addJoin (kind table : Value) (criteria : List Condition) :
    Framed F (addJoin b kind table criteria) := by
  refine (reads_joinTable b table).andThen fun table => (reads_overwrites b).andThen fun _ => ?_
  split
  · exact framed_tryEdit hb fun _ _ => .addJoin
  · exact (framed_tryEdit hb fun _ _ => .openJoins).bind fun _ => .throw _

theorem framed_join (kind table : Value) {key : Operand} (hkey : key.Framed F)
    (operator value : Value) : Framed F (join b kind table key operator value) := by
  unfold join
  split
  · exact (Reads.pure _).andThen fun _ => framed_addJoin hb _ _ _
  · exact (framed_collected b .join hkey).bind fun _ => framed_addJoin hb _ _ _
  · exact (framed_collected b .join fun _ hj => framed_on hj _ _ _ _).bind fun _ =>
      framed_addJoin hb _ _ _

theorem framed_joinUsing (kind table columns : Value) :
    Framed F (joinUsing b kind table columns) :=
  (framed_collected b .join fun _ hj => framed_onShared hj columns).bind fun _ =>
    framed_addJoin hb _ _ _

/-! ## Ordering, grouping, paging, unions -/

theorem framed_orderBy (fields direction : Value) : Framed F (orderBy b fields direction) :=
  Framed.forM fun _ => (reads_addPrefix b _ _).andThen fun _ =>
  (reads_overwrites b).andThen fun _ =>
    framed_tryEdit hb fun _ _ => .addOrder

theorem framed_groupBy (fields : List Value) : Framed F (groupBy b fields) := by
  have hgrow (fields : List Value) : Framed F (change b (·.addGroups fields)) :=
    framed_reshaping hb fun _ _ => .addGroups
  refine (reads_overwrites b).andThen fun overwrite =>
    (framed_edit hb fun _ h => F.reshape h (.openGroups overwrite)).bind fun _ => ?_
  refine Framed.forM fun field => (hgrow _).bind fun _ => ?_
  split
  · exact (reads_addPrefixAll b _ _).andThen fun _ => hgrow _
  · exact (reads_addPrefixAll b _ _).andThen fun _ => hgrow _
  · exact (reads_addPrefix b _ _).andThen fun _ => hgrow _

theorem framed_limit (v : Value) : Framed F (limit b v) :=
  (Reads.ofResult _).andThen fun _ => framed_edit hb fun _ h => F.reshape h (.of_eq rfl rfl)

theorem framed_offset (v : Value) : Framed F (offset b v) :=
  (Reads.ofResult _).andThen fun _ => framed_edit hb fun _ h => F.reshape h (.of_eq rfl rfl)

theorem framed_lock (statement : Value) : Framed F (lock b statement) :=
  framed_edit hb fun _ h => F.reshape h (.of_eq rfl rfl)

theorem framed_onDuplicate (row : Value) : Framed F (onDuplicate b row) :=
  (Reads.ofResult _).andThen fun _ => framed_edit hb fun _ h => F.reshape h (.of_eq rfl rfl)

/-- The other builder is only read. -/
theorem framed_union (other type : Value) : Framed F (union b other type) :=
  FramedWith.bind (FramedWith.ofResult fun _ => unionType_mem) fun _ hname =>
    (reads_builderOf other).andThen fun q => (framedWith_statementsOf q).bind fun _ hmember =>
      framed_change hb fun _ _ hst hunion => F.unite hst hmember hname hunion

end

end Builder

end SqlBuilder
