import SqlBuilder.Builder.Clauses
import SqlBuilder.Builder.Columns
import SqlBuilder.Builder.Joins
import SqlBuilder.Proofs.Frame.Reads
import SqlBuilder.Proofs.Normalised.Statements
import SqlBuilder.Proofs.Session.Reading

/-!
# Calls keep statements fitting

`Session.Fits Q`: all statements of the session bind nothing but what meets `Q`. Each method of a
builder keeps that, given values of the kinds a client library can bind, members of enumerations,
objects with a text of their own, and raw fragments whose values meet `Q` (`Value.Datum`). The date
conditions are no exception to the rule but to the normal form: they carry their values in a raw
fragment, so these must meet `Q` as they are given.

`Q` holds of every value that can be bound (`hQ`), so it holds of whatever is in normal form.
-/

set_option autoImplicit false

namespace SqlBuilder

open Value Session

variable {Q : Value → Prop}

/-! ## What calls are given -/

namespace Value

/-- A single value: one that can be bound, something that stands for such a value or for a text, or
a raw fragment that carries nothing but what meets `Q`. -/
inductive Datum (Q : Value → Prop) : Value → Prop where
  | allowed {v : Value} (h : Placeholder.isBindable v = true) : Datum Q v
  | member {enumeration : Enumeration} {name : String} {v : Value} {identity : Nat}
      (h : Placeholder.isBindable v = true) : Datum Q (.member enumeration name v identity)
  | printable {className text : String} {identity : Nat} :
      Datum Q (.printable className text identity)
  | column (c : Column) : Datum Q (.column c)
  | raw {sql : String} {bindings : List Value} (h : ∀ x ∈ bindings, Q x) :
      Datum Q (.raw sql bindings)

/-- What is compared with: a single value, several of them, or a builder, which stands for its
subquery. -/
inductive Subject (Q : Value → Prop) : Value → Prop where
  | single {v : Value} (h : Datum Q v) : Subject Q v
  | list {items : List Value} (h : ∀ v ∈ items, Datum Q v) : Subject Q (.list items)
  | tuple {items : List Value} (h : ∀ v ∈ items, Datum Q v) : Subject Q (.tuple items)
  | builder (id : Nat) (kind : BuilderKind) : Subject Q (.builder id kind)

/-- The values of a list to compare with: a builder, a raw fragment, or what a loop over it
meets. -/
inductive Choices (Q : Value → Prop) : Value → Prop where
  | builder (id : Nat) (kind : BuilderKind) : Choices Q (.builder id kind)
  | raw {sql : String} {bindings : List Value} (h : ∀ x ∈ bindings, Q x) :
      Choices Q (.raw sql bindings)
  | items {v : Value} (hraw : v.isRaw = false)
      (h : ∀ items, v.toItems = .ok items → ∀ x ∈ items, Datum Q x) : Choices Q v

/-- A name, or a raw fragment that carries nothing but what meets `Q`; no group. -/
structure Key (Q : Value → Prop) (v : Value) : Prop where
  carries : v.Carries Q
  not_group : ∀ gs, v ≠ .group gs

/-- No list and no map. -/
def isOne : Value → Bool
  | .list _ | .tuple _ | .map _ => false
  | _ => true

/-- Names of tables or columns, single or in lists of any depth, or with their aliases; the raw
fragments among them carry nothing but what meets `Q`. -/
inductive Names (Q : Value → Prop) : Value → Prop where
  | single {v : Value} (hone : v.isOne = true) (h : v.Carries Q) : Names Q v
  | list {items : List Value} (h : ∀ v ∈ items, Names Q v) : Names Q (.list items)
  | tuple {items : List Value} (h : ∀ v ∈ items, Names Q v) : Names Q (.tuple items)
  | map {entries : List (Value × Value)} (h : ∀ e ∈ entries, e.1.Carries Q) :
      Names Q (.map entries)

/-- A row of data. -/
def Row (Q : Value → Prop) (v : Value) : Prop :=
  ∀ entries, v.toEntries = .ok entries → ∀ e ∈ entries, Datum Q e.2

theorem Names.carries {v : Value} (h : Names Q v) : v.Carries Q := by
  cases h with
  | single _ h => exact h
  | _ => exact fun _ hx => absurd hx List.not_mem_nil

theorem datum_text (s : String) : Datum Q (.text s) := .allowed rfl

theorem datum_null : Datum Q .null := .allowed rfl

theorem Datum.items?_eq {v : Value} (h : Datum Q v) : v.items? = none := by
  cases h with
  | allowed h => cases v <;> first | rfl | cases h
  | _ => rfl

section

variable (hQ : ∀ v, Placeholder.isBindable v = true → Q v)
include hQ

/-- The normal form of a single value can be bound. -/
theorem Datum.normalize {v : Value} (h : Datum Q v) : Q v.normalize := by
  cases h with
  | allowed h =>
    -- What can be bound is its own normal form, or a member of an enumeration with one that can be.
    rcases Placeholder.isBindable_cases h with h | ⟨_, _, _, _, rfl, ⟨_, rfl⟩ | ⟨_, rfl⟩⟩
    · exact hQ _ (by cases v <;> first | rfl | cases h)
    · exact hQ _ rfl
    · exact hQ _ rfl
  | member h => exact hQ _ h
  | printable | column | raw => exact hQ _ rfl

theorem Datum.operands {v : Value} (h : Datum Q v) : ∀ x ∈ v.operands, Q x := by
  cases hraw : v.isRaw with
  | true =>
    obtain ⟨sql, bindings, rfl⟩ := exists_eq_raw hraw
    cases h with
    | raw h => exact h
    | allowed h => cases h
  | false =>
    have hoperands : v.operands = [v.normalize] := by
      unfold Value.operands
      rw [h.items?_eq]
      cases v <;> first | rfl | cases hraw
    rw [hoperands]
    exact List.forall_mem_singleton.2 (h.normalize hQ)

theorem Datum.dataValue {v : Value} (h : Datum Q v) : (Adapter.dataValue v).Binds Q := by
  cases v with
  | raw =>
    cases h with
    | raw h => exact h
    | allowed h => cases h
  | _ => exact List.forall_mem_singleton.2 (h.normalize hQ)

/-- What is compared with, no builder, brings along what meets `Q`. -/
theorem Subject.operands {v : Value} (h : Subject Q v)
    (hbuilder : ∀ id kind, v ≠ .builder id kind) :
    ∀ x ∈ v.operands, Q x := by
  cases h with
  | single h => exact h.operands hQ
  | list h | tuple h =>
    intro x hx
    obtain ⟨item, hitem, rfl⟩ := List.mem_map.1 hx
    exact (h item hitem).normalize hQ
  | builder id kind => exact absurd rfl (hbuilder id kind)

theorem Row.fits {row : Value} (h : Row Q row) {entries : List (Value × Value)}
    (hentries : row.toEntries = .ok entries) : (Value.map entries).RowFits Q := by
  rintro _ ⟨⟩ e he
  exact (h entries hentries e he).dataValue hQ

end

end Value

/-! ## Prefixes -/

section

open Builder

variable {p v v' : Value} {mixed : Bool}

theorem key_bare (hraw : v.isRaw = false)
    (haliased : ∀ expression name, v ≠ .aliased expression name)
    (hgroup : ∀ gs, v ≠ .group gs) : Key Q v := ⟨carries_of_not_raw hraw haliased, hgroup⟩

/-- A name with a prefix is the name it was or another text. -/
theorem prefixedName_or (h : prefixedName p mixed v = .ok v') : v' = v ∨ ∃ s, v' = .text s := by
  unfold prefixedName at h
  split at h
  · split at h
    · cases h
      exact .inl rfl
    · obtain ⟨t, -, rfl⟩ := plus_text h
      exact .inr ⟨_, rfl⟩
  · cases h
    exact .inl rfl

/-- With a prefix a value is what it was, or it carries nothing. -/
theorem prefixed_or (h : prefixed p mixed v = .ok v') : v' = v ∨ ∀ Q, Key Q v' := by
  unfold prefixed at h
  split at h
  · cases h
    exact .inl rfl
  · split at h
    · obtain ⟨entries, -, h⟩ := bind_ok h
      cases h
      exact .inr fun _ => key_bare rfl (by simp) (by simp)
    · obtain ⟨items, -, h⟩ := bind_ok h
      cases h
      exact .inr fun _ => key_bare rfl (by simp) (by simp)
    · obtain ⟨items, -, h⟩ := bind_ok h
      cases h
      exact .inr fun _ => key_bare rfl (by simp) (by simp)
    · rcases prefixedName_or h with rfl | ⟨s, rfl⟩
      · exact .inl rfl
      · exact .inr fun _ => key_bare rfl (by simp) (by simp)

theorem Value.Carries.prefixed (hv : v.Carries Q) (h : prefixed p mixed v = .ok v') :
    v'.Carries Q := by
  rcases prefixed_or h with rfl | hkey
  · exact hv
  · exact (hkey Q).carries

theorem Value.Key.prefixed (hv : Key Q v) (h : prefixed p mixed v = .ok v') : Key Q v' := by
  rcases prefixed_or h with rfl | hkey
  · exact hv
  · exact hkey Q

/-- What is compared with in a join brings along what meets `Q`, also with a prefix. -/
theorem Value.Subject.prefixed (hQ : ∀ v, Placeholder.isBindable v = true → Q v)
    (hv : Subject Q v) (hbuilder : ∀ id kind, v ≠ .builder id kind)
    (h : prefixed p mixed v = .ok v') : ∀ x ∈ v'.operands, Q x := by
  have hname {w w' : Value} (hw : Datum Q w) (h : prefixedName p mixed w = .ok w') :
      Datum Q w' := by
    rcases prefixedName_or h with rfl | ⟨s, rfl⟩
    · exact hw
    · exact datum_text s
  have hlist {items : List Value} (hv : v.items? = some items) (hitems : ∀ w ∈ items, Datum Q w) :
      ∀ x ∈ v'.operands, Q x := by
    obtain ⟨items', hsome, -, hmem⟩ := prefixed_list hv h
    intro x hx
    rw [operands_of_items hsome] at hx
    obtain ⟨item, hitem, rfl⟩ := List.mem_map.1 hx
    refine Datum.normalize hQ ?_
    rcases hmem item hitem with hitem | ⟨w, hw, hprefixed⟩
    · exact hitems item hitem
    · exact hname (hitems w hw) hprefixed
  cases hv with
  | list hitems | tuple hitems => exact hlist rfl hitems
  | builder id kind => exact absurd rfl (hbuilder id kind)
  | single hv =>
    have hmap : v.entries? = none := by
      cases hv with
      | allowed h => cases v <;> first | rfl | cases h
      | _ => rfl
    rcases prefixed_of_single hv.items?_eq hmap with heq | heq <;> rw [heq] at h
    · cases h
      exact hv.operands hQ
    · exact (hname hv h).operands hQ

end

theorem key_raw {sql : String} {bindings : List Value} (h : ∀ x ∈ bindings, Q x) :
    Key Q (.raw sql bindings) := ⟨h, nofun⟩

/-! ## Sessions -/

namespace Session

variable {α : Type}

/-- All statements bind nothing but what meets `Q`. -/
def Fits (Q : Value → Prop) (s : Session) : Prop :=
  ∀ (n : Nat) (st : Statements), s.records[n]? = some st → st.Fits Q

/-- The action keeps all statements fitting. -/
abbrev Fitting (Q : Value → Prop) (x : Action α) : Prop := Keeps (Fits Q) (fun _ => True) x

theorem fitting_statementsOf (b : Nat) : Keeps (Fits Q) (·.Fits Q) (statementsOf b) := by
  refine (reads_builder b).keeps.bind fun x _ => Keeps.get.bind fun s hs => ?_
  cases hst : s.records[x.record]? with
  | some st => exact .pure (hs x.record st hst)
  | none => exact .throw _

theorem fitting_edit {b : Nat} {f : Statements → Statements}
    (hf : ∀ st, st.Fits Q → (f st).Fits Q) : Fitting Q (edit b f) := by
  refine (reads_builder b).keeps.bind fun x _ => .modified fun s hs n st hst => ?_
  have hst : (s.records.modify x.record f)[n]? = some st := hst
  rw [Array.getElem?_modify] at hst
  split at hst
  · obtain ⟨old, hold, rfl⟩ := Option.map_eq_some_iff.1 hst
    exact hf old (hs n old hold)
  · exact hs n st hst

theorem fitting_change {b : Nat} {f : Statements → Result Statements}
    (hf : ∀ st st', st.Fits Q → f st = .ok st' → st'.Fits Q) : Fitting Q (change b f) :=
  (fitting_statementsOf b).bind fun st hst =>
    (Keeps.ofResult fun st' hst' => hf st st' hst hst').bind fun _ hst' =>
      fitting_edit fun _ _ => hst'

theorem fitting_tryEdit {b : Nat} {f : Statements → Option Statements}
    (hf : ∀ st st', st.Fits Q → f st = some st' → st'.Fits Q) : Fitting Q (tryEdit b f) := by
  refine fitting_change fun st st' hst hst' => ?_
  split at hst'
  · cases hst'
    exact hf st _ hst ‹_›
  · cases hst'

theorem fitting_newBuilder (c : Nat) (kind : BuilderKind) :
    Fitting Q (newBuilder c kind .empty) := by
  intro r s hs
  rw [runIn_newBuilder]
  refine ⟨fun n st hst => ?_, fun _ _ => trivial⟩
  have hst : (s.records.push .empty)[n]? = some st := hst
  rw [Array.getElem?_push] at hst
  split at hst
  · cases hst
    exact Statements.fits_empty
  · exact hs n st hst

theorem fitting_updateBuilder (b : Nat) (f : Builder → Builder) :
    Fitting Q (updateBuilder b f) := .modified fun _ hs => hs

end Session

/-- The query is written as a fragment whose values meet `Q`. -/
def CompiledQuery.Binds (Q : Value → Prop) (q : CompiledQuery) : Prop :=
  ∃ f : Fragment, q.sql = .text f.sql ∧ q.bindings = .positional f.bindings ∧ f.Binds Q

theorem CompiledQuery.Binds.rawBindings {q : CompiledQuery} (h : q.Binds Q) :
    ∀ v ∈ q.rawBindings, Q v := by
  obtain ⟨f, -, hbindings, hvalues⟩ := h
  rwa [CompiledQuery.rawBindings, hbindings]

namespace Session

theorem fitting_log (level : LogLevel) (logger message : String) :
    Fitting Q (log level logger message) := .modified fun _ hs => hs

theorem fitting_compiled (b : Nat) (op : Result Operation) (payload : List Value) :
    Fitting Q (compileAs b op payload) :=
  (reads_adapterOf b).keeps.bind fun _ _ => (Reads.ofResult op).keeps.bind fun _ _ =>
    (reads_statementsOf b).keeps.bind fun _ _ => (Reads.ofResult _).keeps.bind fun _ _ =>
      (fitting_log _ _ _).bind fun _ _ => .pure trivial

/-- What is compiled binds what meets `Q`. -/
theorem fitting_compileAs (b : Nat) {op : Operation} {payload : List Value}
    (h : PayloadFits Q op payload) :
    Keeps (Fits Q) (·.Binds Q) (compileAs b (.ok op) payload) := by
  refine (reads_adapterOf b).keeps.bind fun a _ => ?_
  refine (Keeps.ofResult (Q := (· = op)) fun _ hop => by cases hop; rfl).bind ?_
  rintro _ rfl
  refine (fitting_statementsOf b).bind fun st hst => ?_
  refine (Keeps.ofResult (Q := (·.Binds Q)) fun q hq => ?_).bind fun q hq =>
    (fitting_log _ _ _).bind fun _ _ => .pure hq
  obtain ⟨f, hf, hq⟩ := bind_ok hq
  cases hq
  exact ⟨f, rfl, rfl, hst.fragment_binds h hf⟩

/-- A `SELECT` is given no values, so it is the clauses alone that count. -/
theorem fitting_compileSelect (b : Nat) :
    Keeps (Fits Q) (·.Binds Q) (compileAs b (.ok .select) []) :=
  have hno : PayloadFits Q .select [] := trivial
  fitting_compileAs b hno

/-- A subquery is a raw fragment whose values meet `Q`. -/
theorem fitting_subQuery (b : Nat) (name : Value) :
    Keeps (Fits Q) (fun v => ∃ sql bindings, v = .raw sql bindings ∧ ∀ x ∈ bindings, Q x)
      (Builder.subQuery b name) :=
  (fitting_compileSelect b).bind fun _ hq =>
    .pure ⟨_, _, rfl, hq.rawBindings⟩

end Session

/-- A callback keeps all statements fitting. -/
def Operand.Fitting (Q : Value → Prop) (op : Operand) : Prop :=
  ∀ identity f, op = .callback identity f → ∀ g, Session.Fitting Q (f g)

/-- The key of a condition: a callback, or a name. -/
def Operand.Keyed (Q : Value → Prop) (op : Operand) : Prop := ∀ v, op = .value v → Value.Key Q v

theorem Operand.fitting_value (v : Value) : (Operand.value v).Fitting Q := nofun

theorem Operand.key_value {v : Value} (h : Value.Key Q v) : (Operand.value v).Keyed Q := by
  rintro _ ⟨⟩
  exact h

theorem Operand.Keyed.plain {op : Operand} (h : op.Keyed Q) : Value.Key Q op.plain := by
  cases op with
  | value v => exact h v rfl
  | callback identity f => exact key_bare rfl nofun nofun

namespace Builder

variable {b : Nat}

/-! ## Conditions -/

theorem fitting_addPrefix {P : Value → Prop} {v : Value} {mixed : Bool}
    (h : ∀ p v', prefixed p mixed v = .ok v' → P v') : Keeps (Fits Q) P (addPrefix b v mixed) :=
  (reads_tablePrefixOf b).keeps.bind fun p _ => .ofResult fun v' hv' => h p v' hv'

theorem fitting_addPrefixAll {vs : List Value} {mixed : Bool} (h : ∀ v ∈ vs, v.Carries Q) :
    Keeps (Fits Q) (fun vs' => ∀ v ∈ vs', v.Carries Q) (addPrefixAll b vs mixed) := by
  refine (fitting_addPrefix (P := fun v' => ∃ p, prefixed p mixed (.list vs) = .ok v')
    fun p v' hv' => ⟨p, hv'⟩).bind fun v' ⟨p, hv'⟩ => .pure ?_
  obtain ⟨items, hitems, -, hmem⟩ := prefixed_list rfl hv'
  rw [hitems]
  intro w hw
  rcases hmem w hw with hw | ⟨u, hu, hprefixed⟩
  · exact h w hw
  · rcases prefixedName_or hprefixed with rfl | ⟨s, rfl⟩
    · exact h w hu
    · exact carries_of_not_raw rfl nofun

theorem fitting_addCondition {list : ConditionList} {c : Condition} (h : ConditionsFit Q [c]) :
    Fitting Q (addCondition b list c) :=
  (reads_overwrites b).keeps.bind fun _ _ =>
    fitting_tryEdit fun _ _ hst hst' => hst.addCondition? h hst'

theorem fitting_collected {kind : BuilderKind} {f : Nat → Action Unit}
    (hf : ∀ g, Fitting Q (f g)) :
    Keeps (Fits Q) (ConditionsFit Q) (collected b kind f) :=
  (reads_connectionOf b).keeps.bind fun c _ => (fitting_newBuilder c kind).bind fun g _ =>
    (hf g).bind fun _ _ => (fitting_statementsOf g).bind fun _ hst => .pure hst.clauses.criteria

/-- A condition on a group or a name binds what its parts bring along. -/
theorem conditionsFit_singleton {key operator value joiner leading : Value}
    (hkey : Value.Key Q key ∨ ∃ gs, key = .group gs ∧ ConditionsFit Q gs)
    (hvalue : ∀ x ∈ value.operands, Q x) :
    ConditionsFit Q [⟨key, operator, value, joiner, leading, []⟩] := by
  intro x hx
  rw [boundConditions_singleton, boundCondition, List.isEmpty_nil, if_pos rfl] at hx
  rcases hkey with hkey | ⟨gs, rfl, hgs⟩
  · rw [boundKey_of_not_group _ _ _ hkey.not_group] at hx
    rcases mem_boundComparison hx with hx | hx
    · exact hkey.carries x (mem_carried hx)
    · exact hvalue x hx
  · exact hgs x hx

section

variable (hQ : ∀ v, Placeholder.isBindable v = true → Q v)
include hQ

theorem fitting_conditionValue {v : Value} (h : Subject Q v) :
    Keeps (Fits Q) (fun v => ∀ x ∈ v.operands, Q x) (conditionValue v) := by
  unfold conditionValue
  split
  · refine (fitting_subQuery _ _).mono ?_
    rintro _ ⟨sql, bindings, rfl, hbindings⟩
    exact hbindings
  · rename_i hbuilder
    exact .pure (h.operands hQ hbuilder)

theorem fitting_condition {key : Operand} (hkey : key.Keyed Q) (hcall : key.Fitting Q)
    {operator v joiner : Value} (hv : Subject Q v) :
    Keeps (Fits Q) (fun c => ConditionsFit Q [c]) (condition b key operator v joiner) := by
  have hparts : Keeps (Fits Q)
      (fun key => Value.Key Q key ∨ ∃ gs, key = .group gs ∧ ConditionsFit Q gs)
      (conditionKey b key operator) := by
    unfold conditionKey
    split
    · exact (fitting_collected (hcall _ _ rfl)).bind fun gs hgs => .pure (.inr ⟨gs, rfl, hgs⟩)
    · exact fitting_addPrefix fun p v' hv' => .inl (hkey.plain.prefixed hv')
  rw [condition_parts]
  exact hparts.bind fun key hkey => (fitting_conditionValue hQ hv).bind fun v hv =>
    .pure (conditionsFit_singleton hkey hv)

theorem fitting_addWhere {key : Operand} (hkey : key.Keyed Q) (hcall : key.Fitting Q)
    {operator v : Value} (hv : Subject Q v) (joiner : Joiner) :
    Fitting Q (addWhere b key operator v joiner) :=
  (fitting_condition hQ hkey hcall hv).bind fun _ hc => (reads_builder b).keeps.bind fun _ _ =>
    fitting_addCondition hc

theorem fitting_addRaw {sql : String} {bindings : List Value} (h : ∀ x ∈ bindings, Q x) :
    Fitting Q (addRaw b sql bindings) :=
  fitting_addWhere hQ (Operand.key_value (key_raw h)) (Operand.fitting_value _)
    (.single datum_null) .and

/-! ## Comparisons -/

/-- What a comparison compares with: the value, or what stands for the operator if there is none. -/
def Compared (Q : Value → Prop) (operator value : Option Value) : Prop :=
  ∀ v, value.or operator = some v → Subject Q v

omit hQ in
theorem Compared.subject {operator value : Option Value} (h : Compared Q operator value) :
    Subject Q (operands operator value).2 := by
  have hcomparand {v : Value} (hv : Subject Q v) : Subject Q (comparand v) := by
    cases v with
    | bool => exact .single (.allowed rfl)
    | _ => exact hv
  cases operator with
  | none => exact .single datum_null
  | some operator =>
    cases value with
    | none => exact hcomparand (h operator rfl)
    | some v => exact hcomparand (h v rfl)

section

variable {key : Operand} (hkey : key.Keyed Q) (hcall : key.Fitting Q)
include hkey hcall

theorem fitting_compare (joiner : Joiner) {operator value : Option Value}
    (h : Compared Q operator value) : Fitting Q (compare b joiner key operator value) :=
  fitting_addWhere hQ hkey hcall h.subject joiner

theorem fitting_among (negated : Bool) (joiner : Joiner) {values : Value} (h : Choices Q values) :
    Fitting Q (among b negated joiner key values) := by
  have hadd (v : Value) (hv : Subject Q v) :
      Fitting Q (addWhere b key (negatable negated "IN") v joiner) :=
    fitting_addWhere hQ hkey hcall hv joiner
  unfold among
  split
  · exact (Keeps.pure (.builder _ _)).bind hadd
  · cases h with
    | raw h => exact (Keeps.pure (.single (.raw h))).bind hadd
    | items hraw => cases hraw
  · rename_i hbuilder hraw
    cases h with
    | builder id kind => exact absurd rfl (hbuilder id kind)
    | raw => exact absurd rfl (hraw _ _)
    | items _ h =>
      exact (Keeps.ofResult h).bind fun _ hitems => (Keeps.pure (.list hitems)).bind hadd

theorem fitting_between (negated : Bool) (joiner : Joiner) {least most : Value}
    (hleast : Datum Q least) (hmost : Datum Q most) :
    Fitting Q (between b negated joiner key least most) :=
  fitting_addWhere hQ hkey hcall
    (.list (List.forall_mem_cons.2 ⟨hleast, List.forall_mem_singleton.2 hmost⟩)) joiner

/-- Dates are carried in a raw fragment, so they are bound as they are given. -/
theorem fitting_dateBetween (negated : Bool) {least most : Value} (hleast : Q least)
    (hmost : Q most) : Fitting Q (dateBetween b negated key least most) :=
  (reads_adapterOf b).keeps.bind fun _ _ => fitting_addWhere hQ hkey hcall
    (.single (.raw (List.forall_mem_cons.2 ⟨hleast, List.forall_mem_singleton.2 hmost⟩))) .and

theorem fitting_isNull (negated : Bool) (joiner : Joiner) :
    Fitting Q (isNull b negated joiner key) :=
  fitting_addWhere hQ hkey hcall (.single (.raw fun _ hx => absurd hx List.not_mem_nil)) joiner

theorem fitting_like (negated : Bool) {pattern : Value} (h : Subject Q pattern) :
    Fitting Q (like b negated key pattern) :=
  fitting_addWhere hQ hkey hcall h .and

theorem fitting_having {operator value : Option Value} {joiner : Value}
    (h : Compared Q operator value) : Fitting Q (having b key operator value joiner) :=
  (fitting_condition hQ hkey hcall h.subject).bind fun _ hc => fitting_addCondition hc

end

omit hQ in
theorem fitting_newQuery (b : Nat) : Fitting Q (newQuery b) :=
  (reads_connectionOf b).keeps.bind fun c _ => fitting_newBuilder c .query

theorem fitting_whereExists {callback : Operand} (hcall : callback.Fitting Q) :
    Fitting Q (whereExists b callback) := by
  have happly (g : Nat) : Fitting Q (callback.apply g) := by
    cases callback with
    | value v => exact .throw _
    | callback identity f => exact hcall identity f rfl g
  refine (fitting_newQuery b).bind fun g _ => (happly g).bind fun _ _ => ?_
  exact (fitting_compileSelect g).bind fun _ hq =>
    fitting_addRaw hQ hq.rawBindings

/-- The value is carried in a raw fragment, so it is bound as it is given. -/
theorem fitting_whereDatePart {part : String} {column operator : Value} {value : Option Value}
    (h : Q (value.getD operator)) : Fitting Q (whereDatePart b part column operator value) := by
  unfold whereDatePart
  cases value <;>
  · exact (reads_adapterOf b).keeps.bind fun _ _ =>
      fitting_addRaw hQ (List.forall_mem_singleton.2 h)

theorem fitting_whereColumn (first : Value) (rest : List Value) :
    Fitting Q (whereColumn b first rest) := by
  refine Keeps.forM fun request _ => ?_
  cases request with
  | comparison => exact (reads_adapterOf b).keeps.bind fun _ _ =>
      fitting_addRaw hQ fun _ hx => absurd hx List.not_mem_nil
  | malformed => exact .throw _

/-! ## Joins -/

theorem fitting_on {key operator v joiner : Value} (hkey : Value.Key Q key) (hv : Subject Q v)
    (hbuilder : ∀ id kind, v ≠ .builder id kind) : Fitting Q (on b key operator v joiner) :=
  (fitting_addPrefix fun _ _ h => hkey.prefixed h).bind fun _ hkey =>
    (fitting_addPrefix fun _ _ h => hv.prefixed hQ hbuilder h).bind fun _ hv =>
      fitting_addCondition (conditionsFit_singleton (.inl hkey) hv)

theorem fitting_onShared (columns : Value) : Fitting Q (onShared b columns) := by
  have hadd (columns : List Value) : Fitting Q (addCondition b .criteria
      { Condition.plain .null .null .null (.text "AND USING") with columns }) := by
    refine fitting_addCondition fun x hx => ?_
    rw [boundConditions_singleton, Condition.plain, boundCondition] at hx
    split at hx
    · rcases mem_boundComparison hx with hx | hx
      · exact absurd hx List.not_mem_nil
      · exact datum_null.operands hQ x hx
    · exact absurd hx List.not_mem_nil
  unfold onShared
  split
  · exact (Keeps.pure trivial).bind fun _ (_ : True) => hadd _
  · exact (Keeps.ofResult fun _ _ => trivial).bind fun _ (_ : True) => hadd _

end

theorem fitting_joinTable {table : Value} (h : table.Carries Q) :
    Keeps (Fits Q) (·.Carries Q) (joinTable b table) := by
  have hpair (main name : Value) :
      Keeps (Fits Q) (Carries Q) (do pure (Value.tuple [← addPrefix b main false, name])) :=
    (reads_addPrefix b main false).keeps.bind fun _ _ => .pure (carries_of_not_raw rfl nofun)
  unfold joinTable
  split
  · exact hpair _ _
  · exact hpair _ _
  · exact .throw _
  · exact .throw _
  · exact fitting_addPrefix fun _ _ hv' => h.prefixed hv'

theorem fitting_addJoin {kind table : Value} {criteria : List Condition} (htable : table.Carries Q)
    (hcriteria : ConditionsFit Q criteria) : Fitting Q (addJoin b kind table criteria) := by
  refine (fitting_joinTable htable).bind fun table htable =>
    (reads_overwrites b).keeps.bind fun _ _ => ?_
  split
  · exact fitting_tryEdit fun _ _ hst hst' => hst.addJoin? ⟨htable, hcriteria⟩ hst'
  · exact (fitting_tryEdit fun _ _ hst hst' => hst.openJoins? hst').bind fun _ _ => .throw _

section

variable (hQ : ∀ v, Placeholder.isBindable v = true → Q v)
include hQ

theorem fitting_join {kind table operator v : Value} {key : Operand} (htable : table.Carries Q)
    (hcall : key.Fitting Q)
    (hon : ∀ name, key = .value name → name = .null ∨
      Value.Key Q name ∧ Subject Q v ∧ ∀ id kind, v ≠ .builder id kind) :
    Fitting Q (join b kind table key operator v) := by
  have hadd (criteria : List Condition) (h : ConditionsFit Q criteria) :
      Fitting Q (addJoin b kind table criteria) := fitting_addJoin htable h
  unfold join
  split
  · exact (Keeps.pure conditionsFit_nil).bind hadd
  · exact (fitting_collected (hcall _ _ rfl)).bind hadd
  · rename_i hnull hcallback
    cases key with
    | callback identity f => exact absurd rfl (hcallback identity f)
    | value name =>
      obtain ⟨hkey, hv, hbuilder⟩ := (hon name rfl).resolve_left fun heq => hnull (heq ▸ rfl)
      exact (fitting_collected fun _ => fitting_on hQ hkey hv hbuilder).bind hadd

theorem fitting_joinUsing {kind table : Value} (htable : table.Carries Q) (columns : Value) :
    Fitting Q (joinUsing b kind table columns) :=
  (fitting_collected fun _ => fitting_onShared hQ columns).bind fun _ h => fitting_addJoin htable h

end

/-! ## Tables and columns -/

theorem fitting_setAlias (name table : Value) : Fitting Q (setAlias b name table) :=
  (fitting_edit fun _ hst => hst.openAliases).bind fun _ _ =>
    (Reads.ofResult name.lower).keeps.bind fun _ _ =>
      fitting_change fun _ _ hst hst' => hst.addAlias hst'

/-- A name with its prefix carries what it carried without. -/
theorem fitting_addPrefix_names {v : Value} (h : v.Carries Q) (mixed : Bool) :
    Keeps (Fits Q) (·.Carries Q) (addPrefix b v mixed) :=
  fitting_addPrefix fun _ _ hv' => h.prefixed hv'

theorem fitting_collectTables {item : Value} (h : Names Q item) :
    Keeps (Fits Q) (fun vs => ∀ v ∈ vs, v.Carries Q) (collectTables b item) := by
  have hall {items : List Value} (h : ∀ v ∈ items, Names Q v) :
      Keeps (Fits Q) (fun vs => ∀ v ∈ vs, v.Carries Q) (addPrefixAll b items false) :=
    fitting_addPrefixAll fun v hv => (h v hv).carries
  cases h with
  | list h | tuple h => exact hall h
  | map h =>
    refine Keeps.mapM fun e he => ?_
    exact (fitting_addPrefix_names (h e he) false).bind fun _ htable =>
      (fitting_setAlias _ _).bind fun _ _ => .pure htable
  | single hone h =>
    have heq : collectTables b item = (do pure [← addPrefix b item false]) := by
      cases item <;> first | rfl | cases hone
    rw [heq]
    exact (fitting_addPrefix_names h false).bind fun _ hv =>
      .pure (List.forall_mem_singleton.2 hv)

theorem fitting_fromTables {tables : List Value} (h : ∀ v ∈ tables, Names Q v) :
    Fitting Q (fromTables b tables) := by
  unfold fromTables
  split
  · exact fitting_edit fun _ hst => hst.clearTables
  · refine (Keeps.mapM fun item hitem => fitting_collectTables (h item hitem)).bind
      fun collected hcollected => fitting_change fun _ _ hst hst' => hst.addTables ?_ hst'
    intro v hv
    obtain ⟨vs, hvs, hv⟩ := List.mem_flatten.1 hv
    exact hcollected vs hvs v hv

theorem fitting_table {tables : List Value} (h : ∀ v ∈ tables, Names Q v) :
    Fitting Q (table b tables) := by
  have hfilled (target : Nat) (_ : True) :
      Fitting Q (fromTables target tables >>= fun _ => pure target) :=
    (fitting_fromTables h).bind fun _ _ => .pure trivial
  unfold table
  split
  · exact (Keeps.pure trivial).bind hfilled
  · exact (fitting_newQuery b).bind hfilled

theorem fitting_aliasTable (name table : Value) : Fitting Q (aliasTable b name table) := by
  unfold aliasTable
  split
  · refine (reads_statementsOf b).keeps.bind fun st _ => Keeps.checked fun _ => ?_
    exact (Reads.ofResult _).keeps.bind fun _ _ => fitting_setAlias _ _
  · exact (reads_addPrefix b table false).keeps.bind fun _ _ => fitting_setAlias _ _

theorem fitting_collectFields {fields : List Value}
    (h : ∀ v ∈ fields, Keeps (Fits Q) (fun items => ∀ v ∈ items, v.Carries Q) (collectField b v)) :
    Keeps (Fits Q) (fun items => ∀ v ∈ items, v.Carries Q) (collectFields b fields) := by
  induction fields with
  | nil =>
    rw [collectFields]
    exact .pure fun v hv => absurd hv List.not_mem_nil
  | cons field fields ih =>
    rw [collectFields]
    obtain ⟨hfield, hfields⟩ := List.forall_mem_cons.1 h
    exact hfield.bind fun _ hitems => (ih hfields).bind fun _ hrest =>
      .pure (List.forall_mem_append.2 ⟨hitems, hrest⟩)

theorem fitting_collectField {field : Value} (h : Names Q field) :
    Keeps (Fits Q) (fun items => ∀ v ∈ items, v.Carries Q) (collectField b field) := by
  induction h with
  | @single v hone h =>
    have heq : collectField b v = (do pure [← addPrefix b v true]) := by
      cases v <;> first | rfl | cases hone
    rw [heq]
    exact (fitting_addPrefix_names h true).bind fun _ hv => .pure (List.forall_mem_singleton.2 hv)
  | list h ih | tuple h ih =>
    rw [collectField]
    exact fitting_collectFields ih
  | map h =>
    rw [collectField]
    refine Keeps.mapM fun e he => ?_
    exact (fitting_addPrefix_names (h e he) true).bind fun _ hexpression =>
      .pure fun x hx => hexpression x (mem_carried hx)

theorem fitting_select {fields : List Value} (h : ∀ v ∈ fields, Names Q v) :
    Fitting Q (select b fields) :=
  (fitting_collectFields fun v hv => fitting_collectField (h v hv)).bind fun _ hitems =>
    (reads_overwrites b).keeps.bind fun _ _ =>
      fitting_change fun _ _ hst hst' => hst.addSelects hitems hst'

theorem fitting_selectDistinct {fields : List Value} (h : ∀ v ∈ fields, Names Q v) :
    Fitting Q (selectDistinct b fields) :=
  (fitting_collectFields fun v hv => fitting_collectField (h v hv)).bind fun _ hitems =>
    (reads_overwrites b).keeps.bind fun _ _ =>
      fitting_change fun _ _ hst hst' => hst.addDistincts hitems hst'

/-! ## Ordering, grouping, paging, unions -/

theorem carries_orderings {fields direction : Value} (h : Names Q fields) :
    ∀ e ∈ orderings fields direction, e.1.Carries Q := by
  have hpairs {items : List Value} (h : ∀ v ∈ items, Names Q v) :
      ∀ e ∈ items.map (·, direction), e.1.Carries Q := by
    intro e he
    obtain ⟨v, hv, rfl⟩ := List.mem_map.1 he
    exact (h v hv).carries
  cases h with
  | list h | tuple h => exact hpairs h
  | map h => exact h
  | single hone h =>
    have heq : orderings fields direction = [(fields, direction)] := by
      cases fields <;> first | rfl | cases hone
    rw [heq]
    exact List.forall_mem_singleton.2 h

theorem fitting_orderBy {fields direction : Value} (h : Names Q fields) :
    Fitting Q (orderBy b fields direction) :=
  Keeps.forM fun e he => (fitting_addPrefix_names (carries_orderings h e he) true).bind
    fun _ hfield => (reads_overwrites b).keeps.bind fun _ _ =>
      fitting_tryEdit fun _ _ hst hst' => hst.addOrder? hfield hst'

theorem fitting_groupBy {fields : List Value} (h : ∀ v ∈ fields, Names Q v) :
    Fitting Q (groupBy b fields) := by
  have hadd (names : List Value) (hnames : ∀ v ∈ names, v.Carries Q) :
      Fitting Q (change b (·.addGroups names)) :=
    fitting_change fun _ _ hst hst' => hst.addGroups hnames hst'
  have hall {items : List Value} (h : ∀ v ∈ items, Names Q v) :
      Keeps (Fits Q) (fun vs => ∀ v ∈ vs, v.Carries Q) (addPrefixAll b items true) :=
    fitting_addPrefixAll fun v hv => (h v hv).carries
  refine (reads_overwrites b).keeps.bind fun overwrite _ =>
    (fitting_edit fun _ hst => hst.openGroups overwrite).bind fun _ _ =>
      Keeps.forM fun field hfield =>
        (hadd [] fun _ hv => absurd hv List.not_mem_nil).bind fun _ _ => ?_
  cases h field hfield with
  | list h | tuple h => exact (hall h).bind hadd
  | map h =>
    exact (fitting_addPrefix_names (Names.map h).carries true).bind fun v hv =>
      hadd [v] (List.forall_mem_singleton.2 hv)
  | single hone h =>
    have hadded : Fitting Q (do
        let v ← addPrefix b field true
        change b (·.addGroups [v])) :=
      (fitting_addPrefix_names h true).bind fun v hv => hadd [v] (List.forall_mem_singleton.2 hv)
    cases field with
    | list | tuple | map => cases hone
    | _ => exact hadded

theorem fitting_limit (v : Value) : Fitting Q (limit b v) :=
  (Reads.ofResult v.toWhole).keeps.bind fun _ _ => fitting_edit fun _ hst => hst.limit _

theorem fitting_offset (v : Value) : Fitting Q (offset b v) :=
  (Reads.ofResult v.toWhole).keeps.bind fun _ _ => fitting_edit fun _ hst => hst.offset _

theorem fitting_lock (v : Value) : Fitting Q (lock b v) := fitting_edit fun _ hst => hst.lock v

theorem fitting_onDuplicate (hQ : ∀ v, Placeholder.isBindable v = true → Q v) {row : Value}
    (h : Value.Row Q row) : Fitting Q (onDuplicate b row) :=
  (Keeps.ofResult fun _ hentries => h.fits hQ hentries).bind fun _ hentries =>
    fitting_edit fun _ hst => hst.onDuplicate hentries

theorem fitting_union (other type : Value) : Fitting Q (union b other type) :=
  (Reads.ofResult (unionType type)).keeps.bind fun _ _ =>
    (reads_builderOf other).keeps.bind fun id _ => (fitting_statementsOf id).bind fun _ hmember =>
      fitting_change fun _ _ hst hst' => hst.addUnion hmember hst'

end Builder

end SqlBuilder
