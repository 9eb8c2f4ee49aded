import SqlBuilder.Builder.Clauses
import SqlBuilder.Builder.Columns
import SqlBuilder.Builder.Joins
import SqlBuilder.Proofs.Order.Meaning

/-!
# What builders fill

Every method that puts a query together fills one clause, whichever builder of a scene it is called
on. Its arguments are `Given`: builders among them are elsewhere, with statements of their own, and
callbacks are `Confined` to the builder they receive.

Conditions go to the clause of the builder's kind. What a callback collects is found on a new
builder, so that it is no part of the builder itself.
-/

set_option autoImplicit false

namespace SqlBuilder.Scene

open Session Builder Statements

variable (S : Scene)

/-! ## Arguments -/

/-- What a callback does to the builder it receives depends on this builder and on what was in the
scene, and it does nothing else. -/
def Confined (f : Nat → Action Unit) : Prop := ∀ kind, S.Fills kind none f

/-- If the value is a builder, it has statements of its own. -/
def Known (v : Value) : Prop := ∀ id kind, v = .builder id kind → S.Elsewhere id

/-- Builders have statements of their own, and callbacks do nothing but to the builder they receive.
-/
def Given : Operand → Prop
  | .value v => S.Known v
  | .callback _ f => S.Confined f

variable {S} {α : Type} {kind : BuilderKind} {K : Option ClauseKind}

theorem known_null : S.Known .null := nofun

theorem known_raw (sql : String) (bindings : List Value) : S.Known (.raw sql bindings) := nofun

theorem known_list (vs : List Value) : S.Known (.list vs) := nofun

theorem known_text (s : String) : S.Known (.text s) := nofun

theorem given_null : S.Given (.value .null) := known_null

theorem given_raw (sql : String) (bindings : List Value) : S.Given (.value (.raw sql bindings)) :=
  known_raw sql bindings

theorem given_rawOf (sql bindings : Value) : S.Given (.value (rawOf sql bindings)) := by
  intro id kind h
  unfold rawOf Value.ofRaw at h
  split at h <;> cases h

theorem Given.plain {op : Operand} (h : S.Given op) : S.Known op.plain := by
  cases op with
  | value v => exact h
  | callback identity f => exact nofun

/-! ## Tables and columns -/

theorem fills_setAlias (hK : ∀ C ∈ K, C = .tables) (name table : Value) :
    S.Fills kind K fun g => setAlias g name table :=
  (fills_edit (inClause_openAliases.only hK)).bind fun _ => (Fills.ofResult _).bind fun _ =>
    fills_change ((inClause_addAlias table _).only hK)

theorem fills_collectTables (hK : ∀ C ∈ K, C = .tables) (item : Value) :
    S.Fills kind K fun g => collectTables g item := by
  cases item with
  | map entries =>
    exact .mapM fun entry _ => (fills_addPrefix _ false).bind fun table =>
      (fills_setAlias hK _ table).bind fun _ => .pure _
  | list items => exact fills_addPrefixAll items false
  | tuple items => exact fills_addPrefixAll items false
  | _ => exact (fills_addPrefix _ false).bind fun _ => .pure _

theorem fills_fromTables (hK : ∀ C ∈ K, C = .tables) (tables : List Value) :
    S.Fills kind K fun g => fromTables g tables := by
  unfold fromTables
  split
  · exact fills_edit (inClause_clearTables.only hK)
  · exact (Fills.mapM fun item _ => fills_collectTables hK item).bind fun collected =>
      fills_change ((inClause_addTables _).only hK)

/-- What names a table: the first one, if nothing else. -/
theorem fills_aliasTable (hK : ∀ C ∈ K, C = .tables) (name table : Value) :
    S.Fills kind K fun g => aliasTable g name table := by
  cases table with
  | null =>
    have hnamed : ∀ p : Bool × Result Value, S.Fills kind K fun g => (do
        if !p.1 then throw (.validation .noTable)
        setAlias g name (← ofResult p.2)) := by
      rintro ⟨_ | _, front⟩
      · exact (Fills.throw _).bind fun (_ : PUnit) => (Fills.ofResult _).bind fun _ =>
          fills_setAlias hK name _
      · exact (Fills.ofResult _).bind fun _ => fills_setAlias hK name _
    have hread := fills_read (f := fun st => (st.hasTables, st.tables.front))
      (fun C hC st rest => hK C hC ▸ rfl) hnamed
    exact hread
  | _ => exact (fills_addPrefix _ false).bind fun table => fills_setAlias hK name table

mutual

theorem fills_collectField (field : Value) : S.Fills kind K fun g => collectField g field := by
  cases field with
  | map entries =>
    simp only [collectField]
    exact .mapM fun _ _ => (fills_addPrefix _ true).bind fun _ => .pure _
  | list fields =>
    simp only [collectField]
    exact fills_collectFields fields
  | tuple fields =>
    simp only [collectField]
    exact fills_collectFields fields
  | _ =>
    simp only [collectField]
    exact (fills_addPrefix _ true).bind fun _ => .pure _

theorem fills_collectFields (fields : List Value) :
    S.Fills kind K fun g => collectFields g fields := by
  cases fields with
  | nil => exact .pure []
  | cons field fields =>
    simp only [collectFields]
    exact (fills_collectField field).bind fun _ =>
      (fills_collectFields fields).bind fun _ => .pure _

end

theorem fills_select (hK : ∀ C ∈ K, C = .selects) (fields : List Value) :
    S.Fills kind K fun g => select g fields :=
  (fills_collectFields fields).bind fun _ => fills_overwrites.bind fun _ =>
    fills_change ((inClause_addSelects _ _).only hK)

theorem fills_selectDistinct (hK : ∀ C ∈ K, C = .distincts) (fields : List Value) :
    S.Fills kind K fun g => selectDistinct g fields :=
  (fills_collectFields fields).bind fun _ => fills_overwrites.bind fun _ =>
    fills_change ((inClause_addDistincts _ _).only hK)

/-! ## Conditions -/

theorem fills_compileAs (op : Result Operation) (payload : List Value) :
    S.Fills kind none fun g => compileAs g op payload :=
  fills_adapterOf.bind fun _ => (Fills.ofResult _).bind fun _ => fills_statementsOf.bind fun _ =>
    (Fills.ofResult _).bind fun _ => (fills_log _ _ _).bind fun _ => .pure _

/-- What a callback collects. -/
theorem fills_collected {f : Nat → Action Unit} (hf : S.Confined f) (kind' : BuilderKind) :
    S.Fills kind K fun g => collected g kind' f := by
  have hbody : S.Fills kind' none fun q => (do
      f q
      pure ((← statementsOf q).criteria.getD [])) :=
    (hf kind').bind fun _ => fills_statementsOf.bind fun _ => .pure _
  exact hbody.fresh

theorem fills_conditionKey {key : Operand} (hkey : S.Given key) (operator : Value) :
    S.Fills kind K fun g => conditionKey g key operator := by
  cases key with
  | value v => exact fills_addPrefix v true
  | callback identity f =>
    cases operator with
    | null => exact (fills_collected hkey .criteria).bind fun _ => .pure _
    | _ => exact fills_addPrefix _ true

theorem fills_conditionValue {v : Value} (hv : S.Known v) :
    S.Fills kind K fun _ => conditionValue v := by
  cases v with
  | builder id k => exact fills_subQuery (hv id k rfl)
  | _ => exact .pure _

theorem fills_condition {key : Operand} {v : Value} (hkey : S.Given key) (hv : S.Known v)
    (operator joiner : Value) :
    S.Fills kind K fun g => condition g key operator v joiner := by
  simp only [condition_parts]
  exact (fills_conditionKey hkey operator).bind fun _ => (fills_conditionValue hv).bind fun _ =>
    .pure _

theorem fills_addCondition (list : ConditionList) (hK : ∀ C ∈ K, C = list.clause) (c : Condition) :
    S.Fills kind K fun g => addCondition g list c :=
  fills_overwrites.bind fun _ => fills_tryEdit ((inClause_addCondition list _ c).only hK)

/-- What is compared with is the last that is given. -/
theorem known_operands {operator v : Option Value} (hoperator : ∀ x ∈ operator, S.Known x)
    (hv : ∀ x ∈ v, S.Known x) : S.Known (operands operator v).2 := by
  have hcomparand {x : Value} (hx : S.Known x) : S.Known (comparand x) := by
    cases x with
    | bool b => exact nofun
    | _ => exact hx
  cases operator with
  | none => exact nofun
  | some operator =>
    cases v with
    | none => exact hcomparand (hoperator operator rfl)
    | some v => exact hcomparand (hv v rfl)

section
variable (hK : ∀ C ∈ K, C = (conditionList kind).clause)
include hK

theorem fills_addWhere {key : Operand} {v : Value} (hkey : S.Given key) (hv : S.Known v)
    (operator : Value) (joiner : Joiner) :
    S.Fills kind K fun g => addWhere g key operator v joiner :=
  (fills_condition hkey hv operator _).bind fun c =>
    fills_kind (k := fun kind g => addCondition g (conditionList kind) c)
      (fills_addCondition _ hK c)

theorem fills_addRaw (sql : String) (bindings : List Value) :
    S.Fills kind K fun g => addRaw g sql bindings :=
  fills_addWhere hK (given_raw sql bindings) known_null _ _

theorem fills_compare {key : Operand} {operator v : Option Value} (hkey : S.Given key)
    (hoperator : ∀ x ∈ operator, S.Known x) (hv : ∀ x ∈ v, S.Known x) (joiner : Joiner) :
    S.Fills kind K fun g => compare g joiner key operator v :=
  fills_addWhere hK hkey (known_operands hoperator hv) _ _

theorem fills_among {key : Operand} {values : Value} (hkey : S.Given key) (hv : S.Known values)
    (negated : Bool) (joiner : Joiner) :
    S.Fills kind K fun g => among g negated joiner key values := by
  cases values with
  | builder id k =>
    simp only [among, pure_bind]
    exact fills_addWhere hK hkey hv _ _
  | raw sql bindings =>
    simp only [among, pure_bind]
    exact fills_addWhere hK hkey (known_raw sql bindings) _ _
  | _ =>
    simp only [among, pure_bind]
    exact (Fills.ofResult _).bind fun vs => fills_addWhere hK hkey (known_list vs) _ _

theorem fills_between {key : Operand} (hkey : S.Given key) (negated : Bool) (joiner : Joiner)
    (least most : Value) : S.Fills kind K fun g => between g negated joiner key least most :=
  fills_addWhere hK hkey (known_list _) _ _

theorem fills_dateBetween {key : Operand} (hkey : S.Given key) (negated : Bool)
    (least most : Value) : S.Fills kind K fun g => dateBetween g negated key least most :=
  fills_adapterOf.bind fun _ => fills_addWhere hK hkey (known_raw _ _) _ _

theorem fills_isNull {key : Operand} (hkey : S.Given key) (negated : Bool) (joiner : Joiner) :
    S.Fills kind K fun g => Builder.isNull g negated joiner key :=
  fills_addWhere hK hkey (known_raw _ _) _ _

theorem fills_like {key : Operand} {pattern : Value} (hkey : S.Given key) (hv : S.Known pattern)
    (negated : Bool) : S.Fills kind K fun g => like g negated key pattern :=
  fills_addWhere hK hkey hv _ _

theorem fills_whereExists {callback : Operand} (h : S.Given callback) :
    S.Fills kind K fun g => whereExists g callback := by
  have happly : S.Fills .query none callback.apply := by
    cases callback with
    | value v => exact .throw _
    | callback identity f => exact h .query
  have hquery : S.Fills kind K fun g => (do
      let q ← newBuilder (← connectionOf g) .query .empty
      callback.apply q
      compileSelect q) :=
    .fresh (happly.bind fun _ => fills_compileAs (.ok .select) [])
  have hadded := hquery.bind fun q =>
    fills_addRaw hK ("EXISTS (" ++ q.sql.toText ++ ")") q.rawBindings
  simpa only [whereExists, newQuery, bind_assoc] using hadded

theorem fills_whereDatePart (part : String) (column operator : Value) (v : Option Value) :
    S.Fills kind K fun g => whereDatePart g part column operator v := by
  unfold whereDatePart
  cases v <;> exact fills_adapterOf.bind fun _ => fills_addRaw hK _ _

theorem fills_whereColumn (first : Value) (rest : List Value) :
    S.Fills kind K fun g => whereColumn g first rest := by
  refine .forM fun request _ => ?_
  cases request with
  | comparison first operator second => exact fills_adapterOf.bind fun _ => fills_addRaw hK _ _
  | malformed => exact .throw _

end

theorem fills_having {key : Operand} {operator v : Option Value} (hK : ∀ C ∈ K, C = .havings)
    (hkey : S.Given key) (hoperator : ∀ x ∈ operator, S.Known x) (hv : ∀ x ∈ v, S.Known x)
    (joiner : Value) : S.Fills kind K fun g => having g key operator v joiner :=
  (fills_condition hkey (known_operands hoperator hv) _ _).bind fun c =>
    fills_addCondition .havings hK c

/-! ## Joins -/

theorem fills_on (hK : ∀ C ∈ K, C = .criteria) (key operator v joiner : Value) :
    S.Fills kind K fun g => on g key operator v joiner :=
  (fills_addPrefix _ true).bind fun _ => (fills_addPrefix _ true).bind fun _ =>
    fills_addCondition .criteria hK _

theorem fills_onShared (hK : ∀ C ∈ K, C = .criteria) (columns : Value) :
    S.Fills kind K fun g => onShared g columns := by
  unfold onShared
  cases columns with
  | text s => exact (Fills.pure _).bind fun _ => fills_addCondition .criteria hK _
  | _ => exact (Fills.ofResult _).bind fun _ => fills_addCondition .criteria hK _

theorem fills_joinTable (table : Value) : S.Fills kind K fun g => joinTable g table := by
  unfold joinTable
  split
  · exact (fills_addPrefix _ false).bind fun _ => .pure _
  · exact (fills_addPrefix _ false).bind fun _ => .pure _
  · exact .throw _
  · exact .throw _
  · exact fills_addPrefix _ false

theorem fills_addJoin (hK : ∀ C ∈ K, C = .joins) (joinKind table : Value)
    (criteria : List Condition) : S.Fills kind K fun g => addJoin g joinKind table criteria := by
  refine (fills_joinTable table).bind fun table => fills_overwrites.bind fun overwrite => ?_
  cases joinKind.lower with
  | ok joinKind => exact fills_tryEdit ((inClause_addJoin _ _).only hK)
  | error f =>
    exact (fills_tryEdit ((inClause_openJoins _ _).only hK)).bind fun _ => .throw f

theorem fills_join {key : Operand} (hK : ∀ C ∈ K, C = .joins) (hkey : S.Given key)
    (joinKind table operator v : Value) :
    S.Fills kind K fun g => join g joinKind table key operator v := by
  unfold join
  have hon (key : Value) : S.Fills kind K fun g =>
      collected g .join fun j => on j key operator v (.text "AND") :=
    fills_collected (fun _ => fills_on (K := none) nofun key operator v _) .join
  split
  · exact (Fills.pure _).bind fun _ => fills_addJoin hK _ _ _
  · exact (fills_collected hkey .join).bind fun _ => fills_addJoin hK _ _ _
  · exact (hon _).bind fun _ => fills_addJoin hK _ _ _

theorem fills_joinUsing (hK : ∀ C ∈ K, C = .joins) (joinKind table columns : Value) :
    S.Fills kind K fun g => joinUsing g joinKind table columns :=
  (fills_collected (fun _ => fills_onShared (K := none) nofun columns) .join).bind fun _ =>
    fills_addJoin hK _ _ _

/-! ## Ordering, grouping, paging, unions -/

theorem fills_orderBy (hK : ∀ C ∈ K, C = .orderBys) (fields direction : Value) :
    S.Fills kind K fun g => orderBy g fields direction :=
  .forM fun _ _ => (fills_addPrefix _ true).bind fun _ => fills_overwrites.bind fun _ =>
    fills_tryEdit ((inClause_addOrder _ _).only hK)

theorem fills_groupBy (hK : ∀ C ∈ K, C = .groupBys) (fields : List Value) :
    S.Fills kind K fun g => groupBy g fields := by
  have hadd (fields : List Value) : S.Fills kind K fun g => change g (·.addGroups fields) :=
    fills_change ((inClause_addGroups fields).only hK)
  refine fills_overwrites.bind fun _ =>
    (fills_edit ((inClause_openGroups _).only hK)).bind fun _ => .forM fun field _ => ?_
  cases field with
  | list items => exact (hadd []).bind fun _ => (fills_addPrefixAll items true).bind hadd
  | tuple items => exact (hadd []).bind fun _ => (fills_addPrefixAll items true).bind hadd
  | _ =>
    exact (hadd []).bind fun _ => (fills_addPrefix _ true).bind fun field =>
      (Fills.pure [field]).bind hadd

theorem fills_limit (hK : ∀ C ∈ K, C = .limit) (v : Value) : S.Fills kind K fun g => limit g v :=
  (Fills.ofResult _).bind fun _ => fills_edit fun C hC => hK C hC ▸ fun _ _ => rfl

theorem fills_offset (hK : ∀ C ∈ K, C = .offset) (v : Value) :
    S.Fills kind K fun g => offset g v :=
  (Fills.ofResult _).bind fun _ => fills_edit fun C hC => hK C hC ▸ fun _ _ => rfl

theorem fills_lock (hK : ∀ C ∈ K, C = .lock) (statement : Value) :
    S.Fills kind K fun g => lock g statement :=
  fills_edit fun C hC => hK C hC ▸ fun _ _ => rfl

theorem fills_onDuplicate (hK : ∀ C ∈ K, C = .onDuplicate) (row : Value) :
    S.Fills kind K fun g => onDuplicate g row :=
  (Fills.ofResult _).bind fun _ => fills_edit fun C hC => hK C hC ▸ fun _ _ => rfl

theorem fills_union {other : Value} (hK : ∀ C ∈ K, C = .unions) (hother : S.Known other)
    (type : Value) : S.Fills kind K fun g => union g other type := by
  refine (Fills.ofResult _).bind fun type => ?_
  cases other with
  | builder id k =>
    exact (fills_statementsElsewhere (hother id k rfl)).bind fun _ =>
      fills_change ((inClause_addUnion _ _).only hK)
  | _ => exact .const (.error _) fun _ t _ _ _ _ => ⟨t, rfl, .refl t⟩

end SqlBuilder.Scene
