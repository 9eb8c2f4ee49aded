import SqlBuilder.Builder.Clauses
import SqlBuilder.Builder.Columns
import SqlBuilder.Builder.Joins
import SqlBuilder.Proofs.Fluent.Sessions

/-!
# Calls keep sessions aligned

Each method of a builder that adds to a query keeps sessions aligned, given what
`Proofs.Fluent.Given` asks for. A callback is given a new builder; it is safe if it keeps sessions
aligned with that builder at hand (`Operand.Safe`).

What the builder makes of its own (groups, subqueries, `EXISTS`, parts of dates, ranges of dates)
has a value for each placeholder, so it may stand wherever a name or a value may.
-/

set_option autoImplicit false

namespace SqlBuilder

open Value Placeholder Session

/-- Applied to a new builder of a kind, a callback keeps sessions aligned. -/
def Operand.Safe (c : Nat) (conn : Connection) (held : Held) (kind : BuilderKind) (op : Operand) :
    Prop :=
  ∀ identity f, op = .callback identity f → ∀ g, Session.Safe c conn ((g, kind) :: held) (f g)

namespace Builder

variable {c : Nat} {conn : Connection} {held : Held} {b : Nat} {kind : BuilderKind}

/-! ## Adding conditions -/

section

variable (hb : (b, kind) ∈ held)
include hb

theorem keeps_addCondition {list : ConditionList} {bound : Bool} {cond : Condition}
    (hcond : cond.Aligned bound) (hbound : kind = .join → list = .criteria → bound = false) :
    Safe c conn held (addCondition b list cond) :=
  (keeps_overwrites hb).bind fun _ _ => keeps_tryEdit hb fun _ _ hst hst' =>
    hst.addCondition? (hcond true nofun)
      (fun hkind hlist => hcond false fun _ => hbound hkind hlist) hst'

/-- The conditions that a safe callback adds to a new builder. -/
theorem keeps_collected {target : BuilderKind} {f : Nat → Action Unit}
    (hf : ∀ g, Safe c conn ((g, target) :: held) (f g)) :
    Keeps (Session.Aligned c conn held)
      (fun cs => ConditionsSound Any Any true cs ∧
        (target = .join → ConditionsSound Any Any false cs))
      (collected b target f) := by
  refine (keeps_connectionOf hb).bind ?_
  rintro _ rfl
  refine keeps_newBuilder fun g => ?_
  exact (hf g).bind fun _ _ => (keeps_statementsOf List.mem_cons_self).bind fun _ hst =>
    .pure ⟨hst.criteria, hst.named⟩

omit hb in
/-- A condition on a group or a name. A builder to compare with becomes its subquery. -/
theorem keeps_compared {bound : Bool} {operator v joiner : Value} (hjoiner : joiner.Worded)
    {key : Value} (hkey : NameGiven key ∨ ∃ gs, key = .group gs ∧ ConditionsSound Any Any true gs) :
    ComparisonGiven held bound operator v →
    Keeps (Session.Aligned c conn held) (Condition.Aligned bound) (do
      let v ← match v with
        | .builder id _ => subQuery id .null
        | v => pure v
      pure (Condition.plain key operator v joiner)) := by
  rintro ⟨hword, hsubject⟩
  have hplain {w : Value} (hw : OperandGiven bound operator w) :
      Condition.Aligned bound (.plain key operator w joiner) := by
    intro bindValues hbind
    rcases hkey with hname | ⟨gs, rfl, hgs⟩
    · exact .comparison hjoiner nofun hname.not_group hname.sound hword (hw.sound hbind) .nil
    · exact .group hjoiner nofun hgs .nil
  split
  · rename_i id kind'
    obtain ⟨_, hid⟩ := hsubject
    refine (keeps_subQuery hid (fun h => by cases h)).bind fun w ⟨hraw, haligned⟩ =>
      .pure (hplain ⟨haligned, ?_, ?_⟩)
    · obtain ⟨sql, bindings, rfl⟩ := exists_eq_raw hraw
      exact fun _ _ hitems => nomatch hitems
    · intro _ hscalar
      simp [isScalar, hraw] at hscalar
  · rename_i hbuilder
    have hoperand : OperandGiven bound operator v := by
      cases v with
      | builder id kind' => exact absurd rfl (hbuilder id kind')
      | _ => exact hsubject
    exact .pure (hplain hoperand)

theorem keeps_condition {key : Operand} (hkey : key.KeyGiven)
    (hsafe : key.Safe c conn held .criteria) {bound : Bool} {operator v joiner : Value}
    (h : ComparisonGiven held bound operator v) (hjoiner : joiner.Worded) :
    Keeps (Session.Aligned c conn held) (Condition.Aligned bound)
      (condition b key operator v joiner) := by
  unfold condition
  cases key with
  | value key =>
    exact (keeps_addPrefix_name hb (hkey key rfl) true).bind fun key hkey =>
      keeps_compared hjoiner (.inl hkey) h
  | callback identity f =>
    cases operator with
    | null =>
      exact (keeps_collected hb (hsafe identity f rfl)).bind fun gs hgs =>
        keeps_compared hjoiner (.inr ⟨gs, rfl, hgs.1⟩) h
    | _ =>
      exact (keeps_addPrefix_name hb (nameGiven_function identity) true).bind fun key hkey =>
        keeps_compared hjoiner (.inl hkey) h

theorem keeps_addWhere {key : Operand} (hkey : key.KeyGiven)
    (hsafe : key.Safe c conn held .criteria) {operator v : Value}
    (h : ComparisonGiven held kind.binds operator v) (joiner : Joiner) :
    Safe c conn held (addWhere b key operator v joiner) := by
  refine (keeps_condition hb hkey hsafe h (worded_words joiner)).bind fun cond hcond =>
    (keeps_builder hb).bind ?_
  rintro x rfl
  refine keeps_addCondition hb hcond fun hkind _ => ?_
  rw [hkind]
  rfl

omit hb in
theorem safe_value (v : Value) (target : BuilderKind) :
    (Operand.value v).Safe c conn held target := nofun

omit hb in
theorem comparisonGiven_null (bound : Bool) : ComparisonGiven held bound .null .null where
  word := .inl rfl
  subject := ⟨nofun, nofun, fun _ _ => (by decide : Quiet "None")⟩

/-- A raw condition. -/
theorem keeps_addRaw {sql : String} {bindings : List Value}
    (h : (⟨sql, bindings⟩ : Fragment).Lacks Any 0) :
    Safe c conn held (addRaw b sql bindings) :=
  keeps_addWhere hb (fun _ hv => by cases hv; exact .raw h) (safe_value _ _)
    (comparisonGiven_null _) .and

end

/-! ## Comparisons -/

section

variable (hb : (b, kind) ∈ held) {key : Operand} (hkey : key.KeyGiven)
  (hsafe : key.Safe c conn held .criteria)
include hb hkey hsafe

theorem keeps_compare (joiner : Joiner) {operator value : Option Value}
    (h : ComparisonGiven held kind.binds (operands operator value).1 (operands operator value).2) :
    Safe c conn held (compare b joiner key operator value) :=
  keeps_addWhere hb hkey hsafe h joiner

theorem keeps_among (negated : Bool) (joiner : Joiner) {values : Value}
    (h : SubjectGiven held true .null values) :
    Safe c conn held (among b negated joiner key values) := by
  have hword : (negatable negated "IN").OperatorSound := operatorSound_negatable _ (by decide)
  have hin : isBetween (negatable negated "IN") = false := by cases negated <;> rfl
  have hadd (values : Value) (h : SubjectGiven held kind.binds (negatable negated "IN") values) :
      Safe c conn held (addWhere b key (negatable negated "IN") values joiner) :=
    keeps_addWhere hb hkey hsafe ⟨hword, h⟩ joiner
  have hlist (items : List Value) :
      SubjectGiven held kind.binds (negatable negated "IN") (.list items) :=
    subjectGiven_list fun hbetween => absurd hbetween (by simp [hin])
  unfold among
  split
  · exact (Keeps.pure (subjectGiven_builder h)).bind hadd
  · exact (Keeps.pure (subjectGiven_raw (OperandGiven.raw h _ _ rfl))).bind hadd
  · exact (Keeps.ofResult fun _ _ => trivial).bind fun items _ =>
      (Keeps.pure (hlist items)).bind hadd

theorem keeps_between (negated : Bool) (joiner : Joiner) (least most : Value) :
    Safe c conn held (between b negated joiner key least most) := by
  have hitems : SubjectGiven held kind.binds (negatable negated "BETWEEN") (.list [least, most]) :=
    subjectGiven_list fun _ => Nat.le_refl 2
  exact keeps_addWhere hb hkey hsafe ⟨operatorSound_negatable _ (by decide), hitems⟩ joiner

theorem keeps_dateBetween (negated : Bool) (least most : Value) :
    Safe c conn held (dateBetween b negated key least most) :=
  (keeps_adapterOf hb).bind fun a _ =>
    keeps_addWhere hb hkey hsafe ⟨operatorSound_negatable _ (by decide),
      subjectGiven_raw (lacks_castDate a.dialect least most)⟩ .and

theorem keeps_isNull (negated : Bool) (joiner : Joiner) :
    Safe c conn held (isNull b negated joiner key) := by
  have hword : (Value.text (if negated then "IS NOT" else "IS")).OperatorSound :=
    operatorSound_text (by cases negated <;> decide)
  have hnull : (⟨"NULL", []⟩ : Fragment).Lacks Any 0 := Fragment.lacks_ofText (by decide)
  exact keeps_addWhere hb hkey hsafe ⟨hword, subjectGiven_raw hnull⟩ joiner

theorem keeps_like (negated : Bool) {pattern : Value}
    (h : SubjectGiven held kind.binds .null pattern) :
    Safe c conn held (like b negated key pattern) := by
  have hlike : isBetween (negatable negated "LIKE") = false := by cases negated <;> rfl
  exact keeps_addWhere hb hkey hsafe
    ⟨operatorSound_negatable _ (by decide), SubjectGiven.of_operator h hlike⟩ .and

theorem keeps_having {operator value : Option Value} {joiner : Value}
    (h : ComparisonGiven held true (operands operator value).1 (operands operator value).2)
    (hjoiner : joiner.Worded) :
    Safe c conn held (having b key operator value joiner) :=
  (keeps_condition hb hkey hsafe h hjoiner).bind fun _ hcond =>
    keeps_addCondition hb hcond fun _ hlist => by cases hlist

end

section

variable (hb : (b, kind) ∈ held)
include hb

/-- What follows on a new builder has it at hand. -/
theorem keeps_newQuery {α : Type} {Q : α → Prop} {next : Nat → Action α}
    (h : ∀ g, Keeps (Session.Aligned c conn ((g, .query) :: held)) Q (next g)) :
    Keeps (Session.Aligned c conn held) Q (newQuery b >>= next) := by
  unfold newQuery
  rw [bind_assoc]
  refine (keeps_connectionOf hb).bind ?_
  rintro _ rfl
  exact keeps_newBuilder h

/-- A query that a callback makes may be asked for rows. -/
theorem keeps_whereExists {callback : Operand} (hsafe : callback.Safe c conn held .query) :
    Safe c conn held (whereExists b callback) := by
  refine keeps_newQuery hb fun g => ?_
  have happly : Safe c conn ((g, .query) :: held) (callback.apply g) := by
    cases callback with
    | value v => exact .throw _
    | callback identity f => exact hsafe identity f rfl g
  refine happly.bind fun _ _ => (keeps_compileSelect List.mem_cons_self).bind fun q hq => ?_
  exact keeps_addRaw (List.mem_cons_of_mem _ hb) (hq.between (by decide) (by decide))

theorem keeps_whereDatePart {part : String} {column operator : Value} {value : Option Value}
    (hpart : Quiet part) (hcolumn : ColumnGiven column)
    (hoperator : value.isSome = true → Quiet operator.toText) :
    Safe c conn held (whereDatePart b part column operator value) := by
  unfold whereDatePart
  cases value with
  | none =>
    exact (keeps_adapterOf hb).bind fun a _ => keeps_addRaw hb (lacks_compared
      (((quiet_datePart a.dialect hpart (hcolumn.wrap a)).append (by decide)).append (by decide)) _)
  | some v =>
    exact (keeps_adapterOf hb).bind fun a _ => keeps_addRaw hb (lacks_compared
      (((quiet_datePart a.dialect hpart (hcolumn.wrap a)).append (by decide)).append
        (hoperator rfl)) _)

theorem keeps_whereColumn {first : Value} {rest : List Value}
    (h : ∀ request ∈ columnRequests first rest, request.Given) :
    Safe c conn held (whereColumn b first rest) := by
  refine Keeps.forM fun request hrequest => ?_
  have hgiven := h request hrequest
  cases request with
  | comparison first operator second =>
    obtain ⟨hfirst, hoperator, hsecond⟩ := hgiven
    refine (keeps_adapterOf hb).bind fun a _ => keeps_addRaw hb (Fragment.lacks_ofText ?_)
    have hspace : Quiet " " := by decide
    have hcompared := ((hfirst.wrap a).append hspace).append hoperator
    exact (hcompared.append hspace).append (hsecond.wrap a)
  | malformed => exact .throw _

/-! ## Joins -/

omit hb in
/-- Columns that both tables of a join have; without any the condition compares nothing. -/
theorem aligned_shared {columns : List Value} (h : ∀ v ∈ columns, v.Plain) :
    Condition.Aligned false
      { Condition.plain .null .null .null (.text "AND USING") with columns } := by
  have hjoiner : (Value.text "AND USING").Worded := worded_text (by decide)
  have hnull : Value.null.Plain := ⟨rfl, by decide⟩
  intro bindValues hbind
  cases columns with
  | nil =>
    have hoperand : OperandGiven false .null .null := ⟨nofun, nofun, fun _ _ => hnull.quiet⟩
    exact .comparison hjoiner nofun nofun (.name hnull) (.inl rfl) (hoperand.sound hbind) .nil
  | cons v vs => exact .columns hjoiner nofun (List.cons_ne_nil v vs) h .nil

theorem keeps_on {key operator v joiner : Value} (hkey : NameGiven key) (h : OnGiven operator v)
    (hjoiner : joiner.Worded) : Safe c conn held (on b key operator v joiner) := by
  refine (keeps_addPrefix_name hb hkey true).bind fun key hkey =>
    (keeps_addPrefix hb v true).bind fun v ⟨p, hp, hv⟩ => ?_
  have hleading : (Value.text "ON").Worded := worded_text (by decide)
  have hcond : Condition.Aligned false
      { Condition.plain key operator v joiner with leading := .text "ON" } := fun _ hbind =>
    .comparison hjoiner hleading hkey.not_group hkey.sound h.word
      ((operandGiven_of_prefixed hp h.operand h.single hv).sound hbind) .nil
  exact keeps_addCondition hb hcond fun _ _ => rfl

theorem keeps_onShared {columns : Value} (h : SharedGiven columns) :
    Safe c conn held (onShared b columns) := by
  have hadd (columns : List Value) (h : ∀ v ∈ columns, v.Plain) : Safe c conn held
      (addCondition b .criteria
        { Condition.plain .null .null .null (.text "AND USING") with columns }) :=
    keeps_addCondition hb (aligned_shared h) fun _ _ => rfl
  unfold onShared
  split
  · exact (Keeps.pure (h _ rfl)).bind hadd
  · rename_i htext
    refine (Keeps.ofResult fun items hitems => h items ?_).bind hadd
    cases columns with
    | text s => exact absurd rfl (htext s)
    | _ => exact hitems

theorem keeps_joinTable {table : Value} (h : JoinTableGiven table) :
    Keeps (Session.Aligned c conn held)
      (fun t => t.JoinTableSound Any ∧ (⟨.null, t, []⟩ : JoinEntry).lost = 0)
      (joinTable b table) := by
  have hpair {main name : Value} (hmain : ColumnGiven main) (hname : LabelGiven name) :
      Keeps (Session.Aligned c conn held)
        (fun t => t.JoinTableSound Any ∧ (⟨.null, t, []⟩ : JoinEntry).lost = 0)
        (do pure (.tuple [← addPrefix b main false, name])) := by
    refine (keeps_addPrefix hb main false).bind fun main' ⟨p, hp, hmain'⟩ => .pure ?_
    have hcolumn := columnGiven_of_prefixed hp hmain hmain'
    exact ⟨⟨hcolumn.name.sound, hname.plain⟩, hcolumn.bare⟩
  cases h with
  | list hmain hname | tuple hmain hname => exact hpair hmain hname
  | name h =>
    have heq : joinTable b table = addPrefix b table false := by
      have hsingle := h.single
      cases table <;> first | rfl | cases hsingle
    rw [heq]
    refine (keeps_addPrefix_name hb h false).mono fun t ht => ?_
    have hsound := ht.sound
    have hsingle := ht.single
    cases t <;> first | exact ⟨hsound, rfl⟩ | cases hsingle

omit hb in
theorem worded_lower {v v' : Value} (h : v.Worded) (hv : v.lower = .ok v') : v'.Worded := by
  rintro s rfl
  cases v with
  | text t =>
    cases hv
    exact .of_signs (Text.signs_lower t) (h t rfl)
  | _ => cases hv

theorem keeps_addJoin {kind' table : Value} {criteria : List Condition} (hkind : kind'.Worded)
    (htable : JoinTableGiven table) (hcriteria : ConditionsSound Any Any false criteria) :
    Safe c conn held (addJoin b kind' table criteria) := by
  refine (keeps_joinTable hb htable).bind fun table ⟨hsound, hlost⟩ =>
    (keeps_overwrites hb).bind fun _ _ => ?_
  split
  · rename_i word hword
    have hentry : JoinEntry.Sound Any Any ⟨word, table, criteria⟩ :=
      ⟨worded_lower hkind hword, hsound, hcriteria⟩
    exact keeps_tryEdit hb fun _ _ hst hst' => hst.addJoin? hentry hlost hst'
  · exact (keeps_tryEdit hb fun _ _ hst hst' => hst.openJoins? hst').bind fun _ _ => .throw _

theorem keeps_join {kind' table operator v : Value} {key : Operand} (hkind : kind'.Worded)
    (htable : JoinTableGiven table) (hsafe : key.Safe c conn held .join)
    (hkey : ∀ name, key = .value name → name = .null ∨ NameGiven name ∧ OnGiven operator v) :
    Safe c conn held (join b kind' table key operator v) := by
  have hadd (criteria : List Condition) (h : ConditionsSound Any Any false criteria) :
      Safe c conn held (addJoin b kind' table criteria) := keeps_addJoin hb hkind htable h
  have hword : (Value.text "AND").Worded := worded_text (by decide)
  unfold join
  split
  · exact (Keeps.pure .nil).bind hadd
  · rename_i identity f
    exact (keeps_collected hb (hsafe identity f rfl)).bind fun cs hcs => hadd cs (hcs.2 rfl)
  · rename_i hnull hcallback
    cases key with
    | callback identity f => exact absurd rfl (hcallback identity f)
    | value name =>
      obtain ⟨hname, hon⟩ := (hkey name rfl).resolve_left fun heq => hnull (heq ▸ rfl)
      exact (keeps_collected hb fun j => keeps_on List.mem_cons_self hname hon hword).bind
        fun cs hcs => hadd cs (hcs.2 rfl)

theorem keeps_joinUsing {kind' table columns : Value} (hkind : kind'.Worded)
    (htable : JoinTableGiven table) (hcolumns : SharedGiven columns) :
    Safe c conn held (joinUsing b kind' table columns) :=
  (keeps_collected hb fun _ => keeps_onShared List.mem_cons_self hcolumns).bind fun _ hcs =>
    keeps_addJoin hb hkind htable (hcs.2 rfl)

/-! ## Tables and columns -/

theorem keeps_setAlias {name : Value} (h : LabelGiven name) (table : Value) :
    Safe c conn held (setAlias b name table) := by
  cases h with
  | @text s h =>
    refine (keeps_edit hb fun _ hst => hst.openAliases).bind fun _ _ => ?_
    refine (Keeps.ofResult fun name hname => ?_).bind fun name hname =>
      keeps_change hb fun _ _ hst hst' => hst.addAlias hname hst'
    cases hname
    exact .text (.of_signs (Text.signs_lower s) h)

theorem keeps_collectTables {item : Value} (h : TableGiven item) :
    Keeps (Session.Aligned c conn held) (fun vs => ∀ v ∈ vs, NameGiven v)
      (collectTables b item) := by
  cases h with
  | list h | tuple h => exact keeps_addPrefixAll hb h false
  | map h =>
    refine Keeps.mapM fun e he => ?_
    exact (keeps_addPrefix_name hb (h e he).1 false).bind fun table htable =>
      (keeps_setAlias hb (h e he).2 table).bind fun _ _ => .pure htable
  | name h =>
    have heq : collectTables b item = (do pure [← addPrefix b item false]) := by
      have hsingle := h.single
      cases item <;> first | rfl | cases hsingle
    rw [heq]
    exact (keeps_addPrefix_name hb h false).bind fun v hv => .pure (List.forall_mem_singleton.2 hv)

theorem keeps_fromTables {tables : List Value} (h : ∀ v ∈ tables, TableGiven v) :
    Safe c conn held (fromTables b tables) := by
  unfold fromTables
  split
  · exact keeps_edit hb fun _ hst => hst.clearTables
  · refine (Keeps.mapM fun item hitem => keeps_collectTables hb (h item hitem)).bind
      fun collected hcollected => keeps_change hb fun _ _ hst hst' => hst.addTables ?_ hst'
    intro v hv
    obtain ⟨vs, hvs, hv⟩ := List.mem_flatten.1 hv
    exact (hcollected vs hvs v hv).sound

theorem keeps_aliasTable {name : Value} (h : LabelGiven name) (table : Value) :
    Safe c conn held (aliasTable b name table) := by
  unfold aliasTable
  split
  · refine (keeps_statementsOf hb).bind fun st _ => ?_
    split
    · exact Keeps.bind (Q := fun _ => False) (.throw _) nofun
    · exact Keeps.bind (Q := fun _ => True) (.ofResult fun _ _ => trivial) fun table _ =>
        keeps_setAlias hb h table
  · exact (keeps_addPrefix hb table false).bind fun table _ => keeps_setAlias hb h table

omit hb in
theorem item_of_label {expression name : Value} (hexpression : NameGiven expression)
    (hname : LabelGiven name) : ItemSound Any (.aliased expression name) :=
  ⟨hexpression.sound, hname.plain⟩

omit hb in
theorem keeps_collectFields {fields : List Value}
    (h : ∀ v ∈ fields, Keeps (Session.Aligned c conn held)
      (fun items => ∀ v ∈ items, ItemSound Any v) (collectField b v)) :
    Keeps (Session.Aligned c conn held) (fun items => ∀ v ∈ items, ItemSound Any v)
      (collectFields b fields) := by
  induction fields with
  | nil =>
    rw [collectFields]
    exact .pure fun v hv => absurd hv List.not_mem_nil
  | cons field fields ih =>
    rw [collectFields]
    obtain ⟨hfield, hfields⟩ := List.forall_mem_cons.1 h
    exact hfield.bind fun items hitems => (ih hfields).bind fun rest hrest =>
      .pure fun v hv => (List.mem_append.1 hv).elim (hitems v) (hrest v)

/-- The selected expressions are names and names with an alias, in lists of any depth. -/
theorem keeps_collectField {field : Value} (h : FieldGiven field) :
    Keeps (Session.Aligned c conn held) (fun items => ∀ v ∈ items, ItemSound Any v)
      (collectField b field) := by
  induction h with
  | @name v h =>
    have heq : collectField b v = (do pure [← addPrefix b v true]) := by
      have hsingle := h.single
      cases v <;> first | rfl | cases hsingle
    rw [heq]
    exact (keeps_addPrefix_name hb h true).bind fun v hv =>
      .pure (List.forall_mem_singleton.2 hv.item)
  | list h ih | tuple h ih =>
    rw [collectField]
    exact keeps_collectFields ih
  | map h =>
    rw [collectField]
    refine Keeps.mapM fun e he => ?_
    exact (keeps_addPrefix_name hb (h e he).1 true).bind fun _ hexpression =>
      .pure (item_of_label hexpression (h e he).2)

theorem keeps_select {fields : List Value} (h : ∀ v ∈ fields, FieldGiven v) :
    Safe c conn held (select b fields) :=
  (keeps_collectFields fun v hv => keeps_collectField hb (h v hv)).bind fun _ hitems =>
    (keeps_overwrites hb).bind fun _ _ => keeps_change hb fun _ _ hst hst' =>
      hst.addSelects hitems hst'

theorem keeps_selectDistinct {fields : List Value} (h : ∀ v ∈ fields, FieldGiven v) :
    Safe c conn held (selectDistinct b fields) :=
  (keeps_collectFields fun v hv => keeps_collectField hb (h v hv)).bind fun _ hitems =>
    (keeps_overwrites hb).bind fun _ _ => keeps_change hb fun _ _ hst hst' =>
      hst.addDistincts hitems hst'

/-! ## Ordering, grouping, paging, unions -/

theorem keeps_orderBy {fields direction : Value}
    (h : ∀ e ∈ orderings fields direction, NameGiven e.1 ∧ Quiet e.2.toText) :
    Safe c conn held (orderBy b fields direction) := by
  refine Keeps.forM fun e he => ?_
  obtain ⟨hfield, hdirection⟩ := h e he
  refine (keeps_addPrefix_name hb hfield true).bind fun field hfield =>
    (keeps_overwrites hb).bind fun _ _ => keeps_tryEdit hb fun _ _ hst hst' =>
      hst.addOrder? ⟨hfield.sound, rfl, ?_⟩ hst'
  exact .of_signs (Text.signs_upper _) hdirection

theorem keeps_groupBy {fields : List Value} (h : ∀ v ∈ fields, GroupGiven v) :
    Safe c conn held (groupBy b fields) := by
  have hadd (names : List Value) (hnames : ∀ v ∈ names, NameGiven v) :
      Safe c conn held (change b (·.addGroups names)) :=
    keeps_change hb fun _ _ hst hst' => hst.addGroups (fun v hv => (hnames v hv).item) hst'
  refine (keeps_overwrites hb).bind fun overwrite _ =>
    (keeps_edit hb fun _ hst => hst.openGroups overwrite).bind fun _ _ =>
      Keeps.forM fun field hfield => (hadd [] nofun).bind fun _ _ => ?_
  cases h field hfield with
  | list h | tuple h => exact (keeps_addPrefixAll hb h true).bind hadd
  | name h =>
    have hsingle := h.single
    have hone : Safe c conn held (do
        let v ← addPrefix b field true
        change b (·.addGroups [v])) :=
      (keeps_addPrefix_name hb h true).bind fun v hv => hadd [v] (List.forall_mem_singleton.2 hv)
    cases field with
    | list | tuple | map => cases hsingle
    | _ => exact hone

theorem keeps_limit (v : Value) : Safe c conn held (limit b v) :=
  Keeps.bind (Q := fun _ => True) (.ofResult fun _ _ => trivial) fun n _ =>
    keeps_edit hb fun _ hst => hst.limit n

theorem keeps_offset (v : Value) : Safe c conn held (offset b v) :=
  Keeps.bind (Q := fun _ => True) (.ofResult fun _ _ => trivial) fun n _ =>
    keeps_edit hb fun _ hst => hst.offset n

theorem keeps_lock {v : Value} (h : v.Plain) : Safe c conn held (lock b v) :=
  keeps_edit hb fun _ hst => hst.lock h

theorem keeps_onDuplicate {row : Value} (h : RowGiven row) : Safe c conn held (onDuplicate b row) :=
  (Keeps.ofResult fun entries hentries => h entries hentries).bind fun entries hentries =>
    keeps_edit hb fun _ hst => hst.onDuplicate <| RowGiven.dataSound fun _ heq => by
      cases heq
      exact hentries

omit hb in
theorem plain_unionType {type : Value} {word : String} (h : unionType type = .ok word) :
    (Value.text word).Plain := by
  refine ⟨rfl, ?_⟩
  unfold unionType at h
  split at h
  · cases h
    decide
  · split at h
    · rename_i s
      have hcases : ∀ w ∈ ValidationCause.unionTypes, Quiet w := by decide
      dsimp only at h
      split at h
      · cases h
        exact hcases _ (List.contains_iff_mem.1 ‹_›)
      · cases h
    · cases h
    · cases h

theorem keeps_union {other type : Value}
    (h : ∃ id kind kind', other = .builder id kind ∧ (id, kind') ∈ held) :
    Safe c conn held (union b other type) := by
  obtain ⟨id, kind', kind'', rfl, hid⟩ := h
  exact (Keeps.ofResult fun word hword => plain_unionType hword).bind fun word hword =>
    (keeps_statementsOf hid).bind fun _ hmember => keeps_change hb fun _ _ hst hst' =>
      hst.addUnion hmember hword hst'

omit hb in
theorem keeps_setOverwrite (overwrite : Value) :
    Safe c conn held (updateBuilder b fun x => { x with overwrite }) :=
  .modified fun _ hs => hs.updated fun _ => ⟨rfl, rfl, rfl⟩

end

end Builder

end SqlBuilder
