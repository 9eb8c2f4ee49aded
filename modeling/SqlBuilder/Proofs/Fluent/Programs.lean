import SqlBuilder.Proofs.Fluent.Calls

/-!
# Fluent programs

A fluent program makes builders on a connection and calls their methods, one call after another;
what it does next may depend on what a call gave back, and on whether it failed (`Fluent`). Its
callbacks are fluent programs again. `BuilderMethod.Given` is what each method may be given.

`Fluent.safe`: a fluent program keeps sessions aligned.
-/

set_option autoImplicit false

namespace SqlBuilder

open Value Placeholder Builder Session Call

/-! ## What methods are given -/

/-- The argument at a position, if it is there. -/
def At (args : List Operand) (i : Nat) (P : Operand → Prop) : Prop :=
  ∀ op, args[i]? = some op → P op

/-- The argument at a position as a value, if it is there. -/
def ValueAt (args : List Operand) (i : Nat) (P : Value → Prop) : Prop :=
  At args i fun op => P op.plain

/-- The comparison of the second and the third argument. -/
def ComparedGiven (held : Held) (bound : Bool) (args : List Operand) : Prop :=
  let (operator, v) := operands (value? args 1) (value? args 2)
  ComparisonGiven held bound operator v

/-- The raw fragment of the first two arguments. -/
def RawGiven (args : List Operand) : Prop :=
  ValueAt args 0 fun sql => NameGiven (rawOf sql (valueOr args 1 noBindings))

/-- What a join is made on: nothing, what a callback collects, or a comparison. -/
def JoinKeyGiven (args : List Operand) (key : Operand) : Prop :=
  ∀ name, key = .value name →
    name = .null ∨ NameGiven name ∧ OnGiven (valueOr args 2 .null) (valueOr args 3 .null)

/-- Fields to order by, with their directions. -/
def OrderGiven (direction fields : Value) : Prop :=
  ∀ e ∈ orderings fields direction, NameGiven e.1 ∧ Quiet e.2.toText

/-- A builder at hand. -/
def BuilderGiven (held : Held) (v : Value) : Prop :=
  ∃ id kind kind', v = .builder id kind ∧ (id, kind') ∈ held

/-- What a method that adds a condition may be given, on a builder of a kind. -/
def ConditionMethod.Given (held : Held) (kind : BuilderKind) (args : List Operand) :
    ConditionMethod → Prop
  | .compare _ => At args 0 Operand.KeyGiven ∧ ComparedGiven held kind.binds args
  | .raw | .havingRaw => RawGiven args
  | .among _ _ => At args 0 Operand.KeyGiven ∧ ValueAt args 1 (SubjectGiven held true .null)
  | .between _ _ | .dateBetween _ | .isNull _ _ => At args 0 Operand.KeyGiven
  | .like _ => At args 0 Operand.KeyGiven ∧ ValueAt args 1 (SubjectGiven held kind.binds .null)
  | .startsWith =>
    At args 0 Operand.KeyGiven ∧
      ValueAt args 1 fun v => SubjectGiven held kind.binds .null (pattern false v)
  | .search =>
    At args 0 Operand.KeyGiven ∧
      SubjectGiven held kind.binds .null (pattern true (valueOr args 1 (.text "")))
  | .rowsExist => True
  | .column =>
    ValueAt args 0 fun first =>
      ∀ request ∈ columnRequests first ((args.drop 1).map Operand.plain), request.Given
  | .datePart part =>
    Quiet part ∧ ValueAt args 0 ColumnGiven ∧
      ((value? args 2).isSome = true → ValueAt args 1 fun operator => Quiet operator.toText)
  | .having =>
    At args 0 Operand.KeyGiven ∧ ComparedGiven held true args ∧
      (valueOr args 3 (.text "AND")).Worded
  | .orHaving => At args 0 Operand.KeyGiven ∧ ComparedGiven held true args

/-- What another method that changes a builder may be given. Running a statement is no change. -/
def ChangeMethod.Given (held : Held) (args : List Operand) : ChangeMethod → Prop
  | .setOverwrite | .limit | .offset => True
  | .fromTables => ∀ op ∈ args, TableGiven op.plain
  | .aliasTable => ValueAt args 0 LabelGiven
  | .select | .selectDistinct => ∀ op ∈ args, FieldGiven op.plain
  | .selectRaw => RawGiven args
  | .join =>
    ValueAt args 0 JoinTableGiven ∧ JoinKeyGiven args ((args[1]?).getD (.value .null)) ∧
      (valueOr args 4 (.text "")).Worded
  | .joinAs kind => Quiet kind ∧ ValueAt args 0 JoinTableGiven ∧ At args 1 (JoinKeyGiven args)
  | .crossJoin => ValueAt args 0 JoinTableGiven
  | .joinUsing =>
    ValueAt args 0 JoinTableGiven ∧ ValueAt args 1 SharedGiven ∧
      (valueOr args 2 (.text "")).Worded
  | .on =>
    ValueAt args 0 NameGiven ∧ OnGiven (valueOr args 1 .null) (valueOr args 2 .null) ∧
      (valueOr args 3 (.text "AND")).Worded
  | .orOn => ValueAt args 0 NameGiven ∧ OnGiven (valueOr args 1 .null) (valueOr args 2 .null)
  | .onShared => ValueAt args 0 SharedGiven
  | .orderBy => ValueAt args 0 (OrderGiven (valueOr args 1 (.text "ASC")))
  | .orderByDesc => ValueAt args 0 (OrderGiven (.text "DESC"))
  | .groupBy => ∀ op ∈ args, GroupGiven op.plain
  | .lock => ValueAt args 0 Plain
  | .onDuplicate => ValueAt args 0 RowGiven
  | .union => ValueAt args 0 (BuilderGiven held)
  | .run => False

/-- What a method may be given, on a builder of a kind. -/
def BuilderMethod.Given (held : Held) (kind : BuilderKind) (args : List Operand) :
    BuilderMethod → Prop
  | .condition m => m.Given held kind args
  | .change m => m.Given held args
  | .result .subQuery =>
    ValueAt args 0 (BuilderGiven held) ∧
      ((valueOr args 1 .null).isTrue = true → Quiet (valueOr args 1 .null).toText)
  | .result _ | .product _ => False

/-- The kind of builder that a method gives to its callback. -/
def BuilderMethod.callbackKind : BuilderMethod → BuilderKind
  | .condition .rowsExist => .query
  | .change .join | .change (.joinAs _) => .join
  | _ => .criteria

/-! ## Calls -/

/-- Calls a method of a builder. -/
def called (m : BuilderMethod) (b : Nat) (args : List Operand) : Action Output := do
  Call.find (.builder m) (some b)
  Call.perform (.builder m) (some b) args

variable {c : Nat} {conn : Connection} {held : Held} {b : Nat} {kind : BuilderKind}
  {args : List Operand}

section

variable {I : Session → Prop}

theorem keeps_operand (args : List Operand) (i : Nat) :
    Keeps I (fun op => args[i]? = some op) (operand args i) := by
  unfold operand
  split
  · exact .pure ‹_›
  · exact .throw _

theorem keeps_value (args : List Operand) (i : Nat) :
    Keeps I (fun v => ∃ op, args[i]? = some op ∧ op.plain = v) (value args i) :=
  (keeps_operand args i).bind fun op hop => .pure ⟨op, hop, rfl⟩

/-- What is known of an argument. -/
theorem keeps_operandAt {i : Nat} {P : Operand → Prop} (h : At args i P) :
    Keeps I (fun op => P op ∧ op ∈ args) (operand args i) :=
  (keeps_operand args i).mono fun op hop => ⟨h op hop, List.mem_of_getElem? hop⟩

theorem keeps_valueAt {i : Nat} {P : Value → Prop} (h : ValueAt args i P) :
    Keeps I P (value args i) :=
  (keeps_operandAt h).bind fun _ hop => .pure hop.1

theorem keeps_rawAt (h : RawGiven args) :
    Keeps I (fun sql => NameGiven (rawOf sql (valueOr args 1 noBindings))) (value args 0) :=
  keeps_valueAt h

end

theorem keeps_conditionCall (hb : (b, kind) ∈ held) {m : ConditionMethod}
    (h : m.Given held kind args)
    (hsafe : ∀ op ∈ args, op.Safe c conn held (BuilderMethod.condition m).callbackKind) :
    Safe c conn held (condition b args m) := by
  cases m with
  | compare joiner =>
    exact (keeps_operandAt h.1).bind fun key hkey =>
      keeps_compare hb hkey.1 (hsafe key hkey.2) joiner h.2
  | raw =>
    refine (keeps_rawAt h).bind fun sql hraw => ?_
    exact keeps_addWhere hb (fun _ hv => by cases hv; exact hraw) (safe_value _ _)
      (comparisonGiven_null _) .and
  | among negated joiner =>
    exact (keeps_operandAt h.1).bind fun key hkey => (keeps_valueAt h.2).bind fun _ hvalues =>
      keeps_among hb hkey.1 (hsafe key hkey.2) negated joiner hvalues
  | between negated joiner =>
    exact (keeps_operandAt h).bind fun key hkey => (keeps_value args 1).bind fun least _ =>
      (keeps_value args 2).bind fun most _ =>
        keeps_between hb hkey.1 (hsafe key hkey.2) negated joiner least most
  | dateBetween negated =>
    exact (keeps_operandAt h).bind fun key hkey => (keeps_value args 1).bind fun least _ =>
      (keeps_value args 2).bind fun most _ =>
        keeps_dateBetween hb hkey.1 (hsafe key hkey.2) negated least most
  | isNull negated joiner =>
    exact (keeps_operandAt h).bind fun key hkey =>
      keeps_isNull hb hkey.1 (hsafe key hkey.2) negated joiner
  | like negated =>
    exact (keeps_operandAt h.1).bind fun key hkey => (keeps_valueAt h.2).bind fun _ hpattern =>
      keeps_like hb hkey.1 (hsafe key hkey.2) negated hpattern
  | startsWith =>
    exact (keeps_operandAt h.1).bind fun key hkey => (keeps_valueAt h.2).bind fun _ hpattern =>
      keeps_like hb hkey.1 (hsafe key hkey.2) false hpattern
  | search =>
    exact (keeps_operandAt h.1).bind fun key hkey =>
      keeps_like hb hkey.1 (hsafe key hkey.2) false h.2
  | rowsExist =>
    exact (keeps_operandAt (P := fun _ => True) fun _ _ => trivial).bind fun key hkey =>
      keeps_whereExists hb (hsafe key hkey.2)
  | column =>
    exact (keeps_value args 0).bind fun first ⟨op, hop, hplain⟩ =>
      keeps_whereColumn hb (hplain ▸ h op hop)
  | datePart part =>
    obtain ⟨hpart, hcolumn, hoperator⟩ := h
    refine (keeps_valueAt hcolumn).bind fun column hcolumn => ?_
    refine (keeps_value args 1).bind fun operator ⟨op, hop, hplain⟩ => ?_
    exact keeps_whereDatePart hb hpart hcolumn fun hsome => hplain ▸ hoperator hsome op hop
  | having =>
    exact (keeps_operandAt h.1).bind fun key hkey =>
      keeps_having hb hkey.1 (hsafe key hkey.2) h.2.1 h.2.2
  | orHaving =>
    exact (keeps_operandAt h.1).bind fun key hkey =>
      keeps_having hb hkey.1 (hsafe key hkey.2) h.2 (worded_text (by decide))
  | havingRaw =>
    refine (keeps_rawAt h).bind fun sql hraw => ?_
    exact keeps_having hb (fun _ hv => by cases hv; exact hraw) (safe_value _ _)
      (comparisonGiven_null _) (worded_text (by decide))

theorem keeps_changeCall (hb : (b, kind) ∈ held) {m : ChangeMethod} (h : m.Given held args)
    (hsafe : ∀ op ∈ args, op.Safe c conn held (BuilderMethod.change m).callbackKind) :
    Safe c conn held (change b args m) := by
  have hplain {P : Value → Prop} (h : ∀ op ∈ args, P op.plain) :
      ∀ v ∈ args.map Operand.plain, P v := fun v hv => by
    obtain ⟨op, hop, rfl⟩ := List.mem_map.1 hv
    exact h op hop
  cases m with
  | setOverwrite => exact keeps_setOverwrite _
  | fromTables => exact keeps_fromTables hb (hplain h)
  | aliasTable => exact (keeps_valueAt h).bind fun _ hname => keeps_aliasTable hb hname _
  | select => exact keeps_select hb (hplain h)
  | selectRaw =>
    exact (keeps_rawAt h).bind fun _ hraw =>
      keeps_select hb (List.forall_mem_singleton.2 (.name hraw))
  | selectDistinct => exact keeps_selectDistinct hb (hplain h)
  | join =>
    obtain ⟨htable, hkey, hkind⟩ := h
    refine (keeps_valueAt htable).bind fun table htable => keeps_join hb hkind htable ?_ hkey
    cases hget : args[1]? with
    | none => exact safe_value _ _
    | some op => exact hsafe op (List.mem_of_getElem? hget)
  | joinAs kind' =>
    obtain ⟨hkind, htable, hkey⟩ := h
    exact (keeps_valueAt htable).bind fun table htable => (keeps_operandAt hkey).bind
      fun key hkey => keeps_join hb (worded_text hkind) htable (hsafe key hkey.2) hkey.1
  | crossJoin =>
    exact (keeps_valueAt h).bind fun table htable =>
      keeps_join hb (worded_text (by decide)) htable (safe_value _ _) fun _ hnull => by
        cases hnull
        exact .inl rfl
  | joinUsing =>
    obtain ⟨htable, hcolumns, hkind⟩ := h
    exact (keeps_valueAt htable).bind fun table htable => (keeps_valueAt hcolumns).bind
      fun _ hcolumns => keeps_joinUsing hb hkind htable hcolumns
  | on =>
    exact (keeps_valueAt h.1).bind fun _ hkey => keeps_on hb hkey h.2.1 h.2.2
  | orOn =>
    exact (keeps_valueAt h.1).bind fun _ hkey => keeps_on hb hkey h.2 (worded_text (by decide))
  | onShared => exact (keeps_valueAt h).bind fun _ hcolumns => keeps_onShared hb hcolumns
  | orderBy => exact (keeps_valueAt h).bind fun _ hfields => keeps_orderBy hb hfields
  | orderByDesc => exact (keeps_valueAt h).bind fun _ hfields => keeps_orderBy hb hfields
  | groupBy => exact keeps_groupBy hb (hplain h)
  | limit => exact (keeps_value args 0).bind fun v _ => keeps_limit hb v
  | offset => exact (keeps_value args 0).bind fun v _ => keeps_offset hb v
  | lock => exact (keeps_valueAt h).bind fun _ hlock => keeps_lock hb hlock
  | onDuplicate => exact (keeps_valueAt h).bind fun _ hrow => keeps_onDuplicate hb hrow
  | union => exact (keeps_valueAt h).bind fun _ hother => keeps_union hb hother
  | run => exact h.elim

theorem keeps_require (hb : (b, kind) ∈ held) (m : BuilderMethod) :
    Safe c conn held (require b m) := by
  unfold require
  split
  · refine (keeps_builder hb).bind fun x _ => ?_
    split
    · exact .throw _
    · exact .pure trivial
  · exact .pure trivial

/-- What an output is, if it is a value: a raw fragment with a value for each placeholder, or no raw
fragment at all. -/
def Output.Aligned (out : Output) : Prop := ∀ v, out = .value v → v.RawAligned

/-- **A step.** A call of a method, given what it may be given, keeps sessions aligned. -/
theorem keeps_called (hb : (b, kind) ∈ held) {m : BuilderMethod} (h : m.Given held kind args)
    (hsafe : ∀ op ∈ args, op.Safe c conn held m.callbackKind) :
    Keeps (Session.Aligned c conn held) Output.Aligned (called m b args) := by
  have hfluent {act : Action Unit} (hact : Safe c conn held act) :
      Keeps (Session.Aligned c conn held) Output.Aligned (fluent b act) :=
    hact.bind fun _ _ => .pure nofun
  have hmethod : Keeps (Session.Aligned c conn held) Output.Aligned (Call.builder m b args) := by
    cases m with
    | condition m => exact hfluent (keeps_conditionCall hb h hsafe)
    | change m => exact hfluent (keeps_changeCall hb h hsafe)
    | product m => exact h.elim
    | result m =>
      cases m with
      | subQuery =>
        obtain ⟨hother, hname⟩ := h
        have hresult : Keeps (Session.Aligned c conn held) RawAligned
            (Call.result b args .subQuery) := by
          refine (keeps_valueAt hother).bind fun other ⟨id, _, _, heq, hid⟩ => ?_
          subst heq
          exact (keeps_subQuery hid hname).mono fun _ hv => hv.2
        refine hresult.bind fun v hv => .pure ?_
        rintro _ ⟨⟩
        exact hv
      | _ => exact h.elim
  exact (keeps_require hb m).bind fun _ _ => Keeps.checked fun _ => hmethod

/-! ## Programs -/

/-- A fluent program on a connection, with some builders at hand. -/
inductive Fluent (c : Nat) : Held → Action Unit → Prop where
  /-- Nothing more is done. -/
  | done {held : Held} : Fluent c held (pure ())
  /-- The program gives up, or a callback does. -/
  | fail {held : Held} (f : Fault) : Fluent c held (throw f)
  /-- A builder is made, which is at hand from then on. -/
  | opens {held : Held} {next : Nat → Action Unit}
      (hnext : ∀ g, Fluent c ((g, .query) :: held) (next g)) :
      Fluent c held (newBuilder c .query .empty >>= next)
  /-- A method of a builder is called. What comes next may depend on what it gives back, or on the
  fault; a raw fragment it gives back may be used like one that is given. -/
  | calls {held : Held} {b : Nat} {kind : BuilderKind} {m : BuilderMethod} {args : List Operand}
      {next : Except Fault Output → Action Unit} (hb : (b, kind) ∈ held)
      (hgiven : m.Given held kind args)
      (hcallbacks : ∀ identity f, .callback identity f ∈ args →
        ∀ g, Fluent c ((g, m.callbackKind) :: held) (f g))
      (hnext : ∀ ended : Except Fault Output, (∀ out, ended = .ok out → out.Aligned) →
        Fluent c held (next ended)) :
      Fluent c held (outcomeOf (called m b args) >>= next)

/-- **A run.** A fluent program keeps sessions aligned. -/
theorem Fluent.safe {act : Action Unit} (h : Fluent c held act) : Safe c conn held act := by
  induction h with
  | done => exact .pure trivial
  | fail f => exact .throw f
  | opens _ ih => exact keeps_newBuilder ih
  | calls hb hgiven _ _ ihcallbacks ihnext =>
    refine (keeps_called hb hgiven ?_).outcomeOf.bind ihnext
    rintro _ hop identity f rfl
    exact ihcallbacks identity f hop

end SqlBuilder
