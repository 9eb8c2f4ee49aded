import SqlBuilder.Proofs.Edits.Adding

/-!
# What a failed call leaves

A call on a builder that fails may have changed the statements by then. `Leaves b plan act` says
what is left of them: what was there, or what the edits of a plan leave that were made before the
one that failed.

* Most calls collect what they add before they add it (`LeavesAll`): when they fail, nothing is
  changed.
* Calls that name tables and aliases, add joins, order and group change statements step by step, by
  the edits of their plan (`Call.Plan`).
* `failed_call_leaves`: so it is with every call that puts a query together.
-/

set_option autoImplicit false

namespace SqlBuilder

open Session Builder

variable {α β : Type}

/-! ## What is left -/

/-- When the action fails, the statements of the builder are as they were, or edits of a plan have
been made on them up to the one that failed. -/
def Leaves (b : Nat) (plan : Result Value → Bool → List Edit → Prop) (act : Action α) : Prop :=
  ∀ r s x st f s', s.Working b x st → runIn r act s = (.error f, s') →
    ∃ st', s'.Working b x st' ∧
      (st' = st ∨ ∃ es, plan (s.prefixFor b) x.overwrite.isTrue es ∧ carry es st = (.error f, st'))

/-- The statements are as they were. -/
def LeavesAll (b : Nat) (act : Action α) : Prop := Leaves b (fun _ _ _ => False) act

section

variable {b : Nat} {plan : Result Value → Bool → List Edit → Prop}

namespace Leaves

theorem mono {plan' : Result Value → Bool → List Edit → Prop} {act : Action α}
    (h : Leaves b plan act) (hplan : ∀ p ow es, plan p ow es → plan' p ow es) :
    Leaves b plan' act := by
  intro r s x st f s' hs hrun
  obtain ⟨st', hs', hst | ⟨es, hes, hst⟩⟩ := h r s x st f s' hs hrun
  · exact ⟨st', hs', .inl hst⟩
  · exact ⟨st', hs', .inr ⟨es, hplan _ _ es hes, hst⟩⟩

theorem of_makes {act : Action α} {es : Result Value → Bool → List Edit} {y : Result α}
    (h : ∀ p ow, Makes b p ow (es p ow) y act) (hes : ∀ p ow, plan p ow (es p ow)) :
    Leaves b plan act := by
  intro r s x st f s' hs hrun
  have hcarry := h (s.prefixFor b) x.overwrite.isTrue r s x st hs rfl rfl
  generalize hq : carry (es (s.prefixFor b) x.overwrite.isTrue) st = q at hcarry
  obtain ⟨e | _, st'⟩ := q
  · cases hcarry.symm.trans hrun
    exact ⟨st', hs.revised st', .inr ⟨_, hes _ _, hq⟩⟩
  · obtain ⟨a, -, hok⟩ := hcarry
    cases hok.symm.trans hrun

theorem reads {act : Action α} (h : Reads act) : Leaves b plan act := by
  intro r s x st f s' hs hrun
  have hs' := h r s
  rw [hrun] at hs'
  cases hs'
  exact ⟨st, hs, .inl rfl⟩

/-- What is looked up first changes nothing. -/
theorem after {x : Action α} {k : α → Action β} (hx : Reads x) (hk : ∀ a, Leaves b plan (k a)) :
    Leaves b plan (x >>= k) := by
  intro r s y st f s' hs hrun
  have hread := hx r s
  rw [runIn_bind] at hrun
  generalize runIn r x s = q at hread hrun
  obtain ⟨e | a, s₁⟩ := q
  · cases hrun
    cases hread
    exact ⟨st, hs, .inl rfl⟩
  · cases hread
    exact hk a r s₁ y st f s' hs hrun

/-- What is collected first leaves the builder as it is. -/
theorem afterSparing {x : Action α} {k : α → Action β} (hx : Sparing x)
    (hk : ∀ a, Leaves b plan (k a)) : Leaves b plan (x >>= k) := by
  intro r s y st f s' hs hrun
  have hspared := (hx s r s (.refl s)).1
  rw [runIn_bind] at hrun
  generalize runIn r x s = q at hspared hrun
  obtain ⟨e | a, s₁⟩ := q
  · cases hrun
    exact ⟨st, hspared.working hs, .inl rfl⟩
  · rw [← hspared.prefixes b y hs.builder]
    exact hk a r s₁ y st f s' (hspared.working hs) hrun

theorem andPure {act : Action α} (h : Leaves b plan act) (k : α → β) :
    Leaves b plan (act >>= fun a => pure (k a)) := by
  intro r s x st f s' hs hrun
  refine h r s x st f s' hs ?_
  rw [runIn_bind] at hrun
  generalize runIn r act s = q at hrun ⊢
  obtain ⟨e | a, s₁⟩ := q
  · cases hrun
    rfl
  · cases hrun

end Leaves

/-! ## Calls that collect first -/

theorem leavesAll_change (e : Edit) : LeavesAll b (change b e) := by
  intro r s x st f s' hs hrun
  cases he : e st with
  | ok st' =>
    rw [runIn_change hs.builder hs.record he] at hrun
    cases hrun
  | error f =>
    rw [change, runIn_bind_ok (runIn_statementsOf hs.builder hs.record), he] at hrun
    cases hrun
    exact ⟨st, hs, .inl rfl⟩

theorem leavesAll_edit (f : Statements → Statements) : LeavesAll b (edit b f) := by
  intro r s x st e s' hs hrun
  rw [runIn_edit hs.builder] at hrun
  cases hrun

namespace Builder

theorem leavesAll_addCondition (list : ConditionList) (c : Condition) :
    LeavesAll b (addCondition b list c) :=
  .after (reads_overwrites b) fun _ => leavesAll_change _

theorem leavesAll_select (fields : List Value) : LeavesAll b (select b fields) :=
  .after (reads_collectFields b fields) fun _ => .after (reads_overwrites b) fun _ =>
    leavesAll_change _

theorem leavesAll_selectDistinct (fields : List Value) : LeavesAll b (selectDistinct b fields) :=
  .after (reads_collectFields b fields) fun _ => .after (reads_overwrites b) fun _ =>
    leavesAll_change _

theorem leavesAll_limit (v : Value) : LeavesAll b (limit b v) :=
  .after (.ofResult _) fun _ => leavesAll_edit _

theorem leavesAll_offset (v : Value) : LeavesAll b (offset b v) :=
  .after (.ofResult _) fun _ => leavesAll_edit _

theorem leavesAll_onDuplicate (row : Value) : LeavesAll b (onDuplicate b row) :=
  .after (.ofResult _) fun _ => leavesAll_edit _

theorem leavesAll_union (other type : Value) : LeavesAll b (union b other type) :=
  .after (.ofResult _) fun _ => .after (reads_builderOf other) fun q =>
    .after (reads_statementsOf q) fun _ => leavesAll_change _

/-- Tables for a new builder leave this one alone. -/
theorem leavesAll_table (tables : List Value) : LeavesAll b (table b tables) := by
  unfold table
  split
  · rename_i hnothing
    have hclear : fromTables b tables = edit b (·.clearTables) := by
      rw [fromTables, if_pos hnothing]
    rw [pure_bind]
    show LeavesAll b (fromTables b tables >>= fun _ => pure b)
    rw [hclear]
    exact Leaves.andPure (leavesAll_edit _) fun _ => b
  · have hminding : Minding fun target => fromTables target tables >>= fun _ => pure target :=
      (Minding.of_makes fun g p ow => ⟨_, _, makes_fromTables tables⟩).bind
        fun _ target => .pure target
    have hsparing := Sparing.onNew b .query .empty hminding
    rw [newQuery, bind_assoc]
    intro r s x st f s' hs hrun
    have hspared := (hsparing s r s (.refl s)).1
    rw [hrun] at hspared
    exact ⟨st, hspared.working hs, .inl rfl⟩

end Builder

/-- What only collects before it adds a condition changes nothing until it does so. -/
theorem Adding.leavesAll {P : Condition → Prop} {act : Action Unit} (h : Adding b P act) :
    LeavesAll b act := by
  obtain ⟨collect, hcollect, rfl⟩ := h
  exact .afterSparing (fun s₀ => (hcollect s₀).mono fun _ _ => trivial) fun entry =>
    leavesAll_addCondition entry.1 entry.2

end

/-! ## Calls that change statements step by step -/

namespace Builder

variable {b : Nat}

/-- The edits of a join, whatever its criteria are. -/
def JoinPlan (kind table : Value) (p : Result Value) (ow : Bool) (es : List Edit) : Prop :=
  ∃ criteria, es = joinEdits p ow kind table criteria

theorem leaves_addJoin (kind table : Value) (criteria : List Condition) :
    Leaves b (JoinPlan kind table) (addJoin b kind table criteria) :=
  .of_makes (fun _ _ => makes_addJoin kind table criteria) fun _ _ => ⟨criteria, rfl⟩

theorem leaves_join (kind table : Value) {key : Operand} (hkey : key.Minds) (operator v : Value) :
    Leaves b (JoinPlan kind table) (join b kind table key operator v) := by
  unfold join
  split
  · exact .after (.pure _) fun _ => leaves_addJoin kind table _
  · exact .afterSparing (sparing_collected b .join hkey) fun _ => leaves_addJoin kind table _
  · exact .afterSparing (sparing_collected b .join (minding_on _ _ _ _)) fun _ =>
      leaves_addJoin kind table _

theorem leaves_joinUsing (kind table columns : Value) :
    Leaves b (JoinPlan kind table) (joinUsing b kind table columns) :=
  .afterSparing (sparing_collected b .join (minding_onShared columns)) fun _ =>
    leaves_addJoin kind table _

end Builder

/-! ## Calls -/

/-- The method changes statements step by step. -/
def ChangeMethod.changesByStep : ChangeMethod → Bool
  | .fromTables | .aliasTable | .join | .joinAs _ | .crossJoin | .joinUsing | .orderBy
  | .orderByDesc | .groupBy => true
  | _ => false

/-- The method puts a query together. -/
def ChangeMethod.composes (m : ChangeMethod) : Bool :=
  m.changesByStep || m matches .select | .selectRaw | .selectDistinct | .limit | .offset
    | .onDuplicate | .union

/-- So does that of a builder. -/
def BuilderMethod.composes : BuilderMethod → Bool
  | .condition _ | .product .table => true
  | .change m => m.composes
  | .result _ | .product _ => false

/-- It does so step by step. -/
def BuilderMethod.changesByStep : BuilderMethod → Bool
  | .change m => m.changesByStep
  | _ => false

namespace Call

variable {b : Nat} {args : List Operand} {plan : Result Value → Bool → List Edit → Prop}

theorem leaves_operand (hargs : ∀ op ∈ args, op.Minds) {k : Operand → Action α} (i : Nat)
    (hk : ∀ op : Operand, op.Minds → Leaves b plan (k op)) :
    Leaves b plan (operand args i >>= k) := by
  obtain ⟨op, hop, h⟩ | h := operand_bind args i k
  · exact h ▸ hk op (hargs op hop)
  · exact h ▸ .reads (.throw _)

theorem leaves_value {k : Value → Action α} (i : Nat)
    (hk : ∀ v, value? args i = some v → Leaves b plan (k v)) :
    Leaves b plan (value args i >>= k) := by
  obtain ⟨v, hv, h⟩ | h := value_bind args i k
  · exact h ▸ hk v hv
  · exact h ▸ .reads (.throw _)

/-- The kind of join that a method adds. -/
def joinKind? (args : List Operand) : ChangeMethod → Option Value
  | .join => some (valueOr args 4 (.text ""))
  | .joinAs kind => some (.text kind)
  | .crossJoin => some (.text "cross")
  | .joinUsing => some (valueOr args 2 (.text ""))
  | _ => none

/-- The edits of a call that changes statements step by step. -/
inductive Plan (args : List Operand) (p : Result Value) (ow : Bool) :
    ChangeMethod → List Edit → Prop
  | tables : Plan args p ow .fromTables (fromEdits p (args.map Operand.plain))
  | alias : Plan args p ow .aliasTable
      (declareEdits (valueOr args 0 .null) (aliased p (valueOr args 1 .null)))
  | join {m : ChangeMethod} {kind : Value} {es : List Edit} : joinKind? args m = some kind →
      JoinPlan kind (valueOr args 0 .null) p ow es → Plan args p ow m es
  | orderBy : Plan args p ow .orderBy
      (orderEdits p ow (valueOr args 0 .null) (valueOr args 1 (.text "ASC")))
  | orderByDesc : Plan args p ow .orderByDesc
      (orderEdits p ow (valueOr args 0 .null) (.text "DESC"))
  | groupBy : Plan args p ow .groupBy (groupEdits p ow (args.map Operand.plain))

theorem Plan.changesByStep {p : Result Value} {ow : Bool} {m : ChangeMethod} {es : List Edit}
    (h : Plan args p ow m es) : m.changesByStep = true := by
  cases h with
  | join hkind _ =>
    cases m with
    | join | joinAs _ | crossJoin | joinUsing => rfl
    | _ => cases hkind
  | _ => rfl

theorem leaves_change (hargs : ∀ op ∈ args, op.Minds) {m : ChangeMethod} (hm : m.composes = true) :
    Leaves b (fun p ow => Plan args p ow m) (change b args m) := by
  have hall {act : Action Unit} (h : LeavesAll b act) :
      Leaves b (fun p ow => Plan args p ow m) act := h.mono fun _ _ _ h => h.elim
  have hvalue {v : Value} (default : Value) {i : Nat} (h : value? args i = some v) :
      valueOr args i default = v := by rw [valueOr, h]; rfl
  have hjoin {kind table : Value} {act : Action Unit}
      (h : Leaves b (JoinPlan kind table) act) (hkind : joinKind? args m = some kind)
      (htable : value? args 0 = some table) : Leaves b (fun p ow => Plan args p ow m) act :=
    h.mono fun _ _ _ hes => .join hkind (hvalue .null htable ▸ hes)
  cases m with
  | fromTables =>
    exact .of_makes (fun _ _ => makes_fromTables _) fun _ _ => .tables
  | aliasTable =>
    refine leaves_value 0 fun name hname => .of_makes (fun _ _ => makes_aliasTable name _) ?_
    intro p ow
    rw [← hvalue .null hname]
    exact .alias
  | select => exact hall (leavesAll_select _)
  | selectRaw => exact hall (leaves_value 0 fun _ _ => leavesAll_select _)
  | selectDistinct => exact hall (leavesAll_selectDistinct _)
  | join =>
    have hkey : Operand.Minds ((args[1]?).getD (.value .null)) := by
      cases hop : args[1]? with
      | none => trivial
      | some op => exact hargs op (List.mem_of_getElem? hop)
    exact leaves_value 0 fun table htable => hjoin (leaves_join _ _ hkey _ _) rfl htable
  | joinAs kind =>
    exact leaves_value 0 fun table htable => leaves_operand hargs 1 fun key hkey =>
      hjoin (leaves_join _ _ hkey _ _) rfl htable
  | crossJoin =>
    exact leaves_value 0 fun table htable =>
      hjoin (leaves_join _ _ (Operand.minds_value .null) _ _) rfl htable
  | joinUsing =>
    exact leaves_value 0 fun table htable => leaves_value 1 fun columns _ =>
      hjoin (leaves_joinUsing _ _ _) rfl htable
  | orderBy =>
    refine leaves_value 0 fun fields hfields => .of_makes (fun _ _ => makes_orderBy _ _) ?_
    intro p ow
    rw [← hvalue .null hfields]
    exact .orderBy
  | orderByDesc =>
    refine leaves_value 0 fun fields hfields => .of_makes (fun _ _ => makes_orderBy _ _) ?_
    intro p ow
    rw [← hvalue .null hfields]
    exact .orderByDesc
  | groupBy => exact .of_makes (fun _ _ => makes_groupBy _) fun _ _ => .groupBy
  | limit => exact hall (leaves_value 0 fun _ _ => leavesAll_limit _)
  | offset => exact hall (leaves_value 0 fun _ _ => leavesAll_offset _)
  | onDuplicate => exact hall (leaves_value 0 fun _ _ => leavesAll_onDuplicate _)
  | union => exact hall (leaves_value 0 fun _ _ => leavesAll_union _ _)
  | setOverwrite | on | orOn | onShared | lock | run => cases hm

/-- With the right number of arguments a method is called, otherwise none is. -/
theorem leaves_perform {m : BuilderMethod} (h : Leaves b plan (builder m b args)) :
    Leaves b plan (perform (.builder m) (some b) args) := by
  rw [perform_builder]
  split
  · exact h
  · exact .reads (.throw _)

end Call

/-- When a call that puts a query together fails, the builder is as it was. So are its statements,
unless the call changes them step by step: then they are what its edits leave, made up to the one
that failed. -/
theorem failed_call_leaves {r : Reaction} {s s' : Session} {b : Nat} {x : Builder} {st : Statements}
    {m : BuilderMethod} {args : List Operand} {f : Fault} (hs : s.Working b x st)
    (hm : m.composes = true) (hargs : ∀ op ∈ args, op.Minds)
    (hlist : m = .condition .column → ¬ Call.ListsColumns args)
    (hfail : runIn r (Call.perform (.builder m) (some b) args) s = (.error f, s')) :
    ∃ st', s'.Working b x st' ∧ (m.changesByStep = false → st' = st) ∧
      (st' = st ∨ ∃ m' es, m = .change m' ∧
        Call.Plan args (s.prefixFor b) x.overwrite.isTrue m' es ∧
        carry es st = (.error f, st')) := by
  have hleaves : Leaves b (fun p ow es => ∃ m', m = .change m' ∧ Call.Plan args p ow m' es)
      (Call.perform (.builder m) (some b) args) := by
    refine Call.leaves_perform ?_
    cases m with
    | condition m =>
      have hall := (Call.adding_condition (b := b) hargs fun h => hlist (congrArg _ h)).leavesAll
      exact (Leaves.andPure hall fun _ => Output.builder (some b)).mono fun _ _ _ h => h.elim
    | change m =>
      refine (Leaves.andPure (Call.leaves_change hargs hm) fun _ => Output.builder (some b)).mono ?_
      exact fun _ _ es hes => ⟨m, rfl, hes⟩
    | result m => cases hm
    | product m =>
      cases m with
      | table =>
        refine (Leaves.andPure (leavesAll_table (args.map Operand.plain))
          fun target => Output.builder (some target)).mono fun _ _ _ h => h.elim
      | newQuery | statements | lastQuery | compile => cases hm
  obtain ⟨st', hs', hst⟩ := hleaves r s x st f s' hs hfail
  refine ⟨st', hs', fun hstep => ?_, ?_⟩
  · obtain hst | ⟨es, ⟨m', rfl, hplan⟩, -⟩ := hst
    · exact hst
    · exact absurd hplan.changesByStep (by rw [show m'.changesByStep = false from hstep]; simp)
  · obtain hst | ⟨es, ⟨m', hm', hplan⟩, hcarry⟩ := hst
    · exact .inl hst
    · exact .inr ⟨m', es, hm', hplan, hcarry⟩

/-! ## A join that is lost -/

/-- Statements with a join. -/
def withJoin : Statements :=
  { tables := .list [.text "t"]
    joins := some [{ kind := .text "left", table := .text "u", criteria := [] }] }

/-- A builder in overwrite mode. -/
def rewriter : Builder := { connection := some 0, record := 0, overwrite := .bool true }

/-- A session in which it works on them. -/
def rejoining : Session where
  connections := #[{
    driver := .ofScenario {}
    scenario := {}
    settings := {}
    adapter := { dialect := .sqlite } }]
  builders := #[rewriter]
  records := #[withJoin]
  first := some 0

/-- A join with the same table on a condition that a callback adds, of a kind that is no text. -/
def numberedJoin : List Operand :=
  [.value (.text "u"),
    .callback 0 fun j => on j (.text "u.a") (.text "=") (.text "t.b") (.text "AND"),
    .value .null, .value .null, .value (.int 5)]

/-- What the call comes to. -/
def numbered : Result Output × Session :=
  runIn (fun _ _ => pure ()) (Call.perform (.builder (.change .join)) (some 0) numberedJoin)
    rejoining

theorem failed_call_leaves_of_join :
    numbered.1 = .error (.misuse .missingAttribute) ∧
      ∃ st', numbered.2.Working 0 rewriter st' ∧ st'.joins = some [] ∧
        (st' = withJoin ∨ ∃ m' es, BuilderMethod.change .join = .change m' ∧
          Call.Plan numberedJoin (rejoining.prefixFor 0) true m' es ∧
          carry es withJoin = (.error (.misuse .missingAttribute), st')) := by
  have hfail : numbered.1 = .error (.misuse .missingAttribute) := by with_unfolding_all rfl
  have hminds : ∀ op ∈ numberedJoin, op.Minds := by
    simp only [numberedJoin, List.forall_mem_cons]
    exact ⟨trivial, minding_on _ _ _ _, trivial, trivial, trivial, List.forall_mem_nil _⟩
  obtain ⟨st', hs', -, hst⟩ := @failed_call_leaves (fun _ _ => pure ()) rejoining numbered.2 0
    rewriter withJoin (.change .join) numberedJoin (.misuse .missingAttribute) ⟨rfl, rfl⟩ rfl hminds
    (by simp) (Prod.ext hfail rfl)
  have hjoins : (numbered.2.records[0]?.map Statements.joins) = some (some []) := by
    with_unfolding_all rfl
  have hrecord : numbered.2.records[0]? = some st' := hs'.record
  rw [hrecord] at hjoins
  exact ⟨hfail, st', hs', Option.some.inj hjoins, hst⟩

end SqlBuilder
