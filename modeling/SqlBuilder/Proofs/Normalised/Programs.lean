import Mathlib
import SqlBuilder.Proofs.Fluent.Matching
import SqlBuilder.Proofs.Normalised.Calls

/-!
# What programs bind

A program that makes builders and calls their methods, one call after another, supplies the values
of its queries (`Supplies`). `bindings_accepted`: whatever it has built, its queries bind nothing
but values of the kinds a client library can bind and values that were given to be carried in raw
fragments, and only the latter are ever rejected for their type. Members of enumerations and objects
with a text of their own are bound in their normal form, unless they are carried in a raw fragment:
the bindings of raw SQL, and the dates of the date conditions.
-/

set_option autoImplicit false

namespace SqlBuilder

open Value Placeholder Builder Session Call

variable {Q : Value → Prop} {b : Nat} {args : List Operand}

/-! ## What methods are given -/

/-- The raw fragment of the first two arguments carries nothing but what meets `Q`. -/
def RawFits (Q : Value → Prop) (args : List Operand) : Prop :=
  ValueAt args 0 fun sql => (rawOf sql (valueOr args 1 noBindings)).Carries Q

/-- What a join is made on: nothing, what a callback collects, or a comparison with no builder. -/
def JoinKeyFits (Q : Value → Prop) (v : Value) (key : Operand) : Prop :=
  ∀ name, key = .value name → name = .null ∨
    Value.Key Q name ∧ Subject Q v ∧ ∀ id kind, v ≠ .builder id kind

/-- What a method that adds a condition may be given. -/
def ConditionMethod.Fits (Q : Value → Prop) (args : List Operand) : ConditionMethod → Prop
  | .compare _ | .having | .orHaving =>
    At args 0 (Operand.Keyed Q) ∧ Compared Q (value? args 1) (value? args 2)
  | .raw | .havingRaw => RawFits Q args
  | .among _ _ => At args 0 (Operand.Keyed Q) ∧ ValueAt args 1 (Choices Q)
  | .between _ _ =>
    At args 0 (Operand.Keyed Q) ∧ ValueAt args 1 (Datum Q) ∧ ValueAt args 2 (Datum Q)
  | .dateBetween _ => At args 0 (Operand.Keyed Q) ∧ ValueAt args 1 Q ∧ ValueAt args 2 Q
  | .isNull _ _ | .startsWith | .search => At args 0 (Operand.Keyed Q)
  | .like _ => At args 0 (Operand.Keyed Q) ∧ ValueAt args 1 (Subject Q)
  | .rowsExist | .column => True
  | .datePart _ => ∀ v, (value? args 2).or (value? args 1) = some v → Q v

/-- What another method that changes a builder may be given. Running a statement is no change. -/
def ChangeMethod.Fits (Q : Value → Prop) (args : List Operand) : ChangeMethod → Prop
  | .setOverwrite | .limit | .offset | .lock | .aliasTable | .onShared | .union => True
  | .fromTables | .select | .selectDistinct | .groupBy => ∀ op ∈ args, Names Q op.plain
  | .selectRaw => RawFits Q args
  | .join =>
    ValueAt args 0 (Carries Q) ∧
      JoinKeyFits Q (valueOr args 3 .null) ((args[1]?).getD (.value .null))
  | .joinAs _ =>
    ValueAt args 0 (Carries Q) ∧ At args 1 (JoinKeyFits Q (valueOr args 3 .null))
  | .crossJoin | .joinUsing => ValueAt args 0 (Carries Q)
  | .on | .orOn =>
    ValueAt args 0 (Value.Key Q) ∧ Subject Q (valueOr args 2 .null) ∧
      ∀ id kind, valueOr args 2 .null ≠ .builder id kind
  | .orderBy | .orderByDesc => ValueAt args 0 (Names Q)
  | .onDuplicate => ValueAt args 0 (Value.Row Q)
  | .run => False

/-- What a method may be given. -/
def BuilderMethod.Fits (Q : Value → Prop) (args : List Operand) : BuilderMethod → Prop
  | .condition m => m.Fits Q args
  | .change m => m.Fits Q args
  | .result .subQuery => True
  | .result .raw => ∀ x ∈ spread ((args.drop 1).map Operand.plain), Q x
  | .product .table => ∀ op ∈ args, Names Q op.plain
  | .product .newQuery | .product .compile | .product .statements => True
  | .result _ | .product .lastQuery => False

/-- What an output is, if it is a value: a raw fragment whose values meet `Q`. -/
def Output.Fits (Q : Value → Prop) (out : Output) : Prop :=
  ∀ v, out = .value v → ∃ sql bindings, v = .raw sql bindings ∧ ∀ x ∈ bindings, Q x

/-! ## Calls -/

theorem exists_rawOf (sql bindings : Value) :
    ∃ text values, rawOf sql bindings = .raw text values := by
  cases bindings <;> exact ⟨_, _, rfl⟩

theorem RawFits.key {sql : Value} (h : (rawOf sql (valueOr args 1 noBindings)).Carries Q) :
    (Operand.value (rawOf sql (valueOr args 1 noBindings))).Keyed Q := by
  obtain ⟨text, values, heq⟩ := exists_rawOf sql (valueOr args 1 noBindings)
  rw [heq] at h ⊢
  exact Operand.key_value (key_raw h)

theorem RawFits.names {sql : Value} (h : (rawOf sql (valueOr args 1 noBindings)).Carries Q) :
    Names Q (rawOf sql (valueOr args 1 noBindings)) := by
  obtain ⟨text, values, heq⟩ := exists_rawOf sql (valueOr args 1 noBindings)
  rw [heq] at h ⊢
  exact .single rfl h

theorem keeps_rawFits {I : Session → Prop} (h : RawFits Q args) :
    Keeps I (fun sql => (rawOf sql (valueOr args 1 noBindings)).Carries Q) (value args 0) :=
  keeps_valueAt h

section

variable (hQ : ∀ v, isBindable v = true → Q v)
include hQ

theorem fitting_conditionCall {m : ConditionMethod} (h : m.Fits Q args)
    (hcall : ∀ op ∈ args, op.Fitting Q) : Fitting Q (Call.condition b args m) := by
  have hfalse (v : Value) : (Operand.value v).Fitting Q := Operand.fitting_value v
  cases m with
  | compare joiner =>
    exact (keeps_operandAt h.1).bind fun key hkey =>
      fitting_compare hQ hkey.1 (hcall key hkey.2) joiner h.2
  | raw =>
    exact (keeps_rawFits h).bind fun _ hraw =>
      fitting_addWhere hQ (RawFits.key hraw) (hfalse _) (.single datum_null) .and
  | among negated joiner =>
    exact (keeps_operandAt h.1).bind fun key hkey => (keeps_valueAt h.2).bind fun _ hvalues =>
      fitting_among hQ hkey.1 (hcall key hkey.2) negated joiner hvalues
  | between negated joiner =>
    exact (keeps_operandAt h.1).bind fun key hkey => (keeps_valueAt h.2.1).bind fun _ hleast =>
      (keeps_valueAt h.2.2).bind fun _ hmost =>
        fitting_between hQ hkey.1 (hcall key hkey.2) negated joiner hleast hmost
  | dateBetween negated =>
    exact (keeps_operandAt h.1).bind fun key hkey => (keeps_valueAt h.2.1).bind fun _ hleast =>
      (keeps_valueAt h.2.2).bind fun _ hmost =>
        fitting_dateBetween hQ hkey.1 (hcall key hkey.2) negated hleast hmost
  | isNull negated joiner =>
    exact (keeps_operandAt h).bind fun key hkey =>
      fitting_isNull hQ hkey.1 (hcall key hkey.2) negated joiner
  | like negated =>
    exact (keeps_operandAt h.1).bind fun key hkey => (keeps_valueAt h.2).bind fun _ hpattern =>
      fitting_like hQ hkey.1 (hcall key hkey.2) negated hpattern
  | startsWith =>
    exact (keeps_operandAt h).bind fun key hkey => (keeps_value args 1).bind fun _ _ =>
      fitting_like hQ hkey.1 (hcall key hkey.2) false (.single (datum_text _))
  | search =>
    exact (keeps_operandAt h).bind fun key hkey =>
      fitting_like hQ hkey.1 (hcall key hkey.2) false (.single (datum_text _))
  | rowsExist =>
    exact (keeps_operandAt (P := fun _ => True) fun _ _ => trivial).bind fun key hkey =>
      fitting_whereExists hQ (hcall key hkey.2)
  | column =>
    exact (reads_value args 0).keeps.bind fun _ _ => fitting_whereColumn hQ _ _
  | datePart part =>
    refine (reads_value args 0).keeps.bind fun column _ =>
      (keeps_value args 1).bind fun operator ⟨op, hop, hplain⟩ => fitting_whereDatePart hQ (h _ ?_)
    have hoperator : value? args 1 = some operator := by rw [value?, hop, Option.map_some, hplain]
    rw [hoperator]
    cases value? args 2 <;> rfl
  | having | orHaving =>
    exact (keeps_operandAt h.1).bind fun key hkey =>
      fitting_having hQ hkey.1 (hcall key hkey.2) h.2
  | havingRaw =>
    refine (keeps_rawFits h).bind fun _ hraw => fitting_having hQ (RawFits.key hraw) (hfalse _) ?_
    rintro _ ⟨⟩

theorem fitting_changeCall {m : ChangeMethod} (h : m.Fits Q args)
    (hcall : ∀ op ∈ args, op.Fitting Q) : Fitting Q (Call.change b args m) := by
  have hplain {P : Value → Prop} (h : ∀ op ∈ args, P op.plain) :
      ∀ v ∈ args.map Operand.plain, P v := fun v hv => by
    obtain ⟨op, hop, rfl⟩ := List.mem_map.1 hv
    exact h op hop
  cases m with
  | setOverwrite => exact fitting_updateBuilder b _
  | fromTables => exact fitting_fromTables (hplain h)
  | aliasTable => exact (reads_value args 0).keeps.bind fun _ _ => fitting_aliasTable _ _
  | select => exact fitting_select (hplain h)
  | selectRaw =>
    exact (keeps_rawFits h).bind fun _ hraw =>
      fitting_select (List.forall_mem_singleton.2 (RawFits.names hraw))
  | selectDistinct => exact fitting_selectDistinct (hplain h)
  | join =>
    obtain ⟨htable, hkey⟩ := h
    refine (keeps_valueAt htable).bind fun table htable => fitting_join hQ htable ?_ hkey
    cases hget : args[1]? with
    | none => exact Operand.fitting_value _
    | some op => exact hcall op (List.mem_of_getElem? hget)
  | joinAs kind =>
    obtain ⟨htable, hkey⟩ := h
    exact (keeps_valueAt htable).bind fun _ htable => (keeps_operandAt hkey).bind fun key hkey =>
      fitting_join hQ htable (hcall key hkey.2) hkey.1
  | crossJoin =>
    refine (keeps_valueAt h).bind fun _ htable =>
      fitting_join hQ htable (Operand.fitting_value _) ?_
    rintro _ ⟨⟩
    exact .inl rfl
  | joinUsing =>
    exact (keeps_valueAt h).bind fun _ htable => (reads_value args 1).keeps.bind fun _ _ =>
      fitting_joinUsing hQ htable _
  | on | orOn =>
    exact (keeps_valueAt h.1).bind fun _ hkey => fitting_on hQ hkey h.2.1 h.2.2
  | onShared => exact (reads_value args 0).keeps.bind fun _ _ => fitting_onShared hQ _
  | orderBy | orderByDesc =>
    exact (keeps_valueAt h).bind fun _ hfields => fitting_orderBy hfields
  | groupBy => exact fitting_groupBy (hplain h)
  | limit => exact (reads_value args 0).keeps.bind fun _ _ => fitting_limit _
  | offset => exact (reads_value args 0).keeps.bind fun _ _ => fitting_offset _
  | lock => exact (reads_value args 0).keeps.bind fun _ _ => fitting_lock _
  | onDuplicate => exact (keeps_valueAt h).bind fun _ hrow => fitting_onDuplicate hQ hrow
  | union => exact (reads_value args 0).keeps.bind fun _ _ => fitting_union _ _
  | run => exact h.elim

/-- **A step.** A call of a method, given what it may be given, keeps all statements fitting. -/
theorem fitting_called {m : BuilderMethod} (h : m.Fits Q args)
    (hcall : ∀ op ∈ args, op.Fitting Q) :
    Keeps (Session.Fits Q) (Output.Fits Q) (called m b args) := by
  have hfluent {act : Action Unit} (hact : Fitting Q act) :
      Keeps (Session.Fits Q) (Output.Fits Q) (fluent b act) :=
    hact.bind fun _ _ => .pure (by rintro _ ⟨⟩)
  have hmethod : Keeps (Session.Fits Q) (Output.Fits Q) (Call.builder m b args) := by
    cases m with
    | condition m => exact hfluent (fitting_conditionCall hQ h hcall)
    | change m => exact hfluent (fitting_changeCall hQ h hcall)
    | product m =>
      cases m with
      | newQuery => exact (fitting_newQuery b).bind fun _ _ => .pure (by rintro _ ⟨⟩)
      | table =>
        refine (fitting_table fun v hv => ?_).bind fun _ _ => .pure (by rintro _ ⟨⟩)
        obtain ⟨op, hop, rfl⟩ := List.mem_map.1 hv
        exact h op hop
      | statements =>
        exact (reads_statementsOf b).keeps.bind fun _ _ => .pure (by rintro _ ⟨⟩)
      | compile => exact (fitting_compiled b _ _).bind fun _ _ => .pure (by rintro _ ⟨⟩)
      | lastQuery => exact h.elim
    | result m =>
      cases m with
      | subQuery =>
        have hresult : Keeps (Session.Fits Q)
            (fun v => ∃ sql bindings, v = .raw sql bindings ∧ ∀ x ∈ bindings, Q x)
            (Call.result b args .subQuery) :=
          (reads_value args 0).keeps.bind fun other _ => (reads_builderOf other).keeps.bind
            fun id _ => fitting_subQuery id _
        refine hresult.bind fun v hv => .pure ?_
        rintro _ ⟨⟩
        exact hv
      | raw =>
        have hresult : Keeps (Session.Fits Q)
            (fun v => ∃ sql bindings, v = .raw sql bindings ∧ ∀ x ∈ bindings, Q x)
            (Call.result b args .raw) :=
          (reads_value args 0).keeps.bind fun _ _ => .pure ⟨_, _, rfl, h⟩
        refine hresult.bind fun v hv => .pure ?_
        rintro _ ⟨⟩
        exact hv
      | _ => exact h.elim
  exact (reads_find (.builder m) (some b)).keeps.bind fun _ _ =>
    Keeps.checked fun _ => hmethod

end

/-! ## Programs -/

/-- A program that makes builders and calls their methods with values that meet `Q` where they are
carried in a raw fragment. -/
inductive Supplies (Q : Value → Prop) : Action Unit → Prop where
  /-- Nothing more is done. -/
  | done : Supplies Q (pure ())
  /-- The program gives up, or a callback does. -/
  | fail (f : Fault) : Supplies Q (throw f)
  /-- A builder is made on a connection. -/
  | opens {c : Nat} {next : Nat → Action Unit} (hnext : ∀ g, Supplies Q (next g)) :
      Supplies Q (newBuilder c .query .empty >>= next)
  /-- A method of a builder is called. What comes next may depend on what it gives back, or on the
  fault. -/
  | calls {b : Nat} {m : BuilderMethod} {args : List Operand}
      {next : Except Fault Output → Action Unit} (hfits : m.Fits Q args)
      (hcallbacks : ∀ identity f, .callback identity f ∈ args → ∀ g, Supplies Q (f g))
      (hnext : ∀ ended : Except Fault Output, (∀ out, ended = .ok out → out.Fits Q) →
        Supplies Q (next ended)) :
      Supplies Q (outcomeOf (called m b args) >>= next)

/-- **A run.** Such a program keeps all statements fitting. -/
theorem Supplies.fitting (hQ : ∀ v, isBindable v = true → Q v) {act : Action Unit}
    (h : Supplies Q act) : Fitting Q act := by
  induction h with
  | done => exact .pure trivial
  | fail f => exact .throw f
  | opens _ ih => exact (fitting_newBuilder _ _).bind fun g _ => ih g
  | calls hfits _ _ ihcallbacks ihnext =>
    refine (fitting_called hQ hfits ?_).outcomeOf.bind ihnext
    rintro _ hop identity f rfl
    exact ihcallbacks identity f hop

/-! ## Queries -/

/-- What a query may be asked for with. -/
def RequestFits (Q : Value → Prop) (op : Operation) (payload : List Value) : Prop :=
  match op with
  | .insert | .insertIgnore | .replace | .update => ∀ v ∈ payload, v.Row Q
  | .delete => ∀ v ∈ payload, v.Lists Q
  | .select | .criteria => True

theorem RequestFits.payloadFits (hQ : ∀ v, isBindable v = true → Q v) {op : Operation}
    {payload : List Value} (h : RequestFits Q op payload) : PayloadFits Q op payload := by
  have hrows (h : ∀ v ∈ payload, v.Row Q) : ∀ v ∈ payload, v.RowFits Q := by
    rintro v hv entries rfl
    exact (h _ hv).fits hQ rfl entries rfl
  cases op with
  | insert | insertIgnore | replace | update => exact hrows h
  | delete => exact h
  | select | criteria => exact trivial

/-- A value is rejected for its type only if it is of no kind that can be bound. -/
theorem exists_of_restyle_invalidBinding {style : Value} {escape : String → String} {sql : String}
    {values : List Value} {name : String}
    (h : restyle style escape (.text sql) (.positional values) =
      .error (.validation (.invalidBinding name))) :
    ∃ v ∈ values, isBindable v = false ∧ v.typeName = name := by
  obtain hstyle | ⟨style, -, h⟩ := bind_error h
  · unfold styleNamed at hstyle
    split at hstyle
    · cases hstyle
    · split at hstyle <;> cases hstyle
  obtain h | ⟨_, -, h⟩ := bind_error h
  · obtain h | ⟨checked, -, h⟩ := bind_error h
    · obtain ⟨v, hv, hcheck⟩ := mapM_error h
      unfold check at hcheck
      split at hcheck
      · cases hcheck
      · rename_i hbindable
        cases hcheck
        exact ⟨v, hv, by simpa using hbindable, rfl⟩
    · obtain h | ⟨segments, -, h⟩ := bind_error h
      · cases h
      · by_cases hcount : (segments.length - 1 != checked.length) = true
        · rw [if_pos hcount] at h
          cases h
        · rw [if_neg hcount] at h
          cases h
  · cases h

/-- The value can be bound, or it meets `P`. -/
def Accepted (P : Value → Prop) (v : Value) : Prop := isBindable v = true ∨ P v

/-- **Bindings are accepted.** Whatever a program has built, its queries bind nothing but values
that can be bound and values that were given to be carried in raw fragments, which meet `P`. When
the style of the placeholders is changed, only the latter are ever rejected for their type. -/
theorem bindings_accepted {P : Value → Prop} (r : Reaction) {s : Session}
    (hs : s.Fits (Accepted P)) {act : Action Unit} (hact : Supplies (Accepted P) act) {b : Nat}
    {op : Operation} {payload : List Value} (hrequest : RequestFits (Accepted P) op payload)
    {q : CompiledQuery}
    (hq : (runIn r (compileAs b (.ok op) payload) (runIn r act s).2).1 = .ok q) :
    (∀ v ∈ q.bindings.values, Accepted P v) ∧
      ∀ (style : Value) (escape : String → String) (name : String),
        restyle style escape q.sql q.bindings = .error (.validation (.invalidBinding name)) →
          ∃ v ∈ q.bindings.values, P v ∧ isBindable v = false ∧ v.typeName = name := by
  have hQ (v : Value) (h : isBindable v = true) : Accepted P v := .inl h
  have hsafe : Fitting (Accepted P) act := hact.fitting hQ
  obtain ⟨f, hsql, hbindings, hbinds⟩ :=
    (fitting_compileAs b (hrequest.payloadFits hQ) r _ (hsafe r s hs).1).2 q hq
  rw [hsql, hbindings]
  refine ⟨hbinds, fun style escape name h => ?_⟩
  obtain ⟨v, hv, hrejected, hname⟩ := exists_of_restyle_invalidBinding h
  exact ⟨v, hv, (hbinds v hv).resolve_left (by simp [hrejected]), hrejected, hname⟩

/-- A member of an enumeration that stands for a date. -/
def firstDay : Value := .member "Day" "FIRST" (.text "2024-01-01") 1

/-- Members of enumerations and an object with a text of its own, in a list within a group and as
the date of a date condition. -/
def datedProgram : Action Unit := do
  let b ← newBuilder 0 .query .empty
  let _ ← outcomeOf (called (.change .fromTables) b [.value (.text "t")])
  let _ ← outcomeOf (called (.condition (.compare .and)) b [.callback 0 fun g => do
    let _ ← outcomeOf (called (.condition (.among false .and)) g [.value (.text "a"),
      .value (.list [.member "Level" "HIGH" (.int 3) 2, .printable "Name" "x" 3])])])
  let _ ← outcomeOf (called (.condition (.datePart "DATE")) b
    [.value (.text "d"), .value firstDay])

theorem supplies_datedProgram : Supplies (Accepted (· = firstDay)) datedProgram := by
  have name (s : String) : (Operand.value (.text s)).Keyed (Accepted (· = firstDay)) :=
    Operand.key_value (key_bare rfl nofun nofun)
  refine .opens fun b => ?_
  refine .calls ?table (by simp) fun _ _ => ?_
  case table => exact List.forall_mem_singleton.2 (.single rfl (carries_of_not_raw rfl nofun))
  refine .calls ⟨?conditions, by rintro _ ⟨⟩⟩ ?callback fun _ _ => ?_
  case conditions =>
    rintro _ ⟨⟩ _ ⟨⟩
  case callback =>
    rintro _ _ hf g
    cases List.mem_singleton.1 hf
    refine .calls ⟨?column, ?choices⟩ (by simp) fun _ _ => .done
    case column =>
      rintro _ ⟨⟩
      exact name "a"
    case choices =>
      rintro _ ⟨⟩
      refine .items rfl ?_
      rintro _ ⟨⟩
      exact List.forall_mem_cons.2 ⟨.member rfl, List.forall_mem_singleton.2 .printable⟩
  refine .calls ?date (by simp) fun _ _ => .done
  case date =>
    rintro _ ⟨⟩
    exact .inr rfl

theorem bindings_accepted_of_dated :
    let start : Session := { connections := #[.prefixing .null] }
    let r : Reaction := fun _ _ => pure ()
    let row : Value := .map [(.text "a", .member "Level" "LOW" (.int 1) 4)]
    let q : CompiledQuery :=
      { sql := .text "UPDATE `t` SET `a` = ? WHERE (`a` IN (?, ?)) AND DATE(`d`) = ?"
        bindings := .positional [.int 1, .int 3, .text "x", firstDay]
        adapter := some ⟨.mysql, true⟩ }
    start.Fits (Accepted (· = firstDay)) ∧ Supplies (Accepted (· = firstDay)) datedProgram ∧
      RequestFits (Accepted (· = firstDay)) .update [row] ∧
      (runIn r (compileAs 0 (.ok .update) [row]) (runIn r datedProgram start).2).1 = .ok q ∧
      (∀ v ∈ q.bindings.values, Accepted (· = firstDay) v) ∧
      restyle (.text "qmark") id q.sql q.bindings = .error (.validation (.invalidBinding "Day")) ∧
      ∃ v ∈ q.bindings.values, v = firstDay ∧ isBindable v = false ∧ v.typeName = "Day" := by
  intro start r row q
  have hstart : start.Fits (Accepted (· = firstDay)) := by
    rintro n st ⟨⟩
  have hrow : RequestFits (Accepted (· = firstDay)) .update [row] := by
    refine List.forall_mem_singleton.2 ?_
    rintro _ ⟨⟩
    exact List.forall_mem_singleton.2 (.member rfl)
  have hq :
      (runIn r (compileAs 0 (.ok .update) [row]) (runIn r datedProgram start).2).1 = .ok q := by
    cbv
  have hrejected : restyle (.text "qmark") id q.sql q.bindings =
      .error (.validation (.invalidBinding "Day")) := by
    cbv
  obtain ⟨haccepted, honly⟩ := bindings_accepted r hstart supplies_datedProgram hrow hq
  exact ⟨hstart, supplies_datedProgram, hrow, hq, haccepted, hrejected,
    honly (.text "qmark") id "Day" hrejected⟩

end SqlBuilder
