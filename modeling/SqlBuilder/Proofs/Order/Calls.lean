import SqlBuilder.Proofs.Joining.Collecting
import SqlBuilder.Proofs.Order.Filling
import SqlBuilder.Proofs.Twins.Calls

/-!
# Calls and their clauses

`FluentMethod.clause?` is the clause that a method fills on a builder of a kind. Only the mode of a
builder is in no clause.

A call is made with evaluated arguments (`ReadyCall`). If they are given, it fills the clause of its
method (`fills_invoke`).

`confined_performAll`: callbacks that make fluent calls on the builder they receive, without queries
of their own, do nothing else.
-/

set_option autoImplicit false

namespace SqlBuilder

open Session Builder

/-! ## Clauses of methods -/

/-- The clause of a condition, on a builder of a kind. -/
def ConditionMethod.clause (kind : BuilderKind) : ConditionMethod → ClauseKind
  | .having | .orHaving | .havingRaw => .havings
  | _ => (conditionList kind).clause

/-- The clause of a change, if it is in one. -/
def ChangeMethod.clause? : ChangeMethod → Option ClauseKind
  | .setOverwrite | .run => none
  | .fromTables | .aliasTable => some .tables
  | .select | .selectRaw => some .selects
  | .selectDistinct => some .distincts
  | .join | .joinAs _ | .crossJoin | .joinUsing => some .joins
  | .on | .orOn | .onShared => some .criteria
  | .orderBy | .orderByDesc => some .orderBys
  | .groupBy => some .groupBys
  | .limit => some .limit
  | .offset => some .offset
  | .lock => some .lock
  | .onDuplicate => some .onDuplicate
  | .union => some .unions

/-- The clause of a method, if it is in one. -/
def FluentMethod.clause? (kind : BuilderKind) : FluentMethod → Option ClauseKind
  | .condition m => some (m.clause kind)
  | .change m _ => m.clause?

/-- A method with evaluated arguments. -/
structure ReadyCall where
  method : FluentMethod
  args : List Operand

namespace ReadyCall

/-- Makes the call on a builder. -/
def invoke (call : ReadyCall) (b : Nat) : Action Unit :=
  JoinCall.invoke b call.method.method call.args

/-- The clause the call fills. -/
def clause? (kind : BuilderKind) (call : ReadyCall) : Option ClauseKind :=
  call.method.clause? kind

/-- Makes calls on a builder, one after another. -/
def invokeAll (calls : List ReadyCall) (b : Nat) : Action Unit := calls.forM (·.invoke b)

end ReadyCall

namespace Scene

variable {S : Scene} {α : Type} {kind : BuilderKind} {K : Option ClauseKind}

/-! ## Arguments -/

section
variable {args : List Operand} (hargs : ∀ op ∈ args, S.Given op)
include hargs

theorem Fills.operand {k : Operand → Nat → Action α} (i : Nat)
    (hk : ∀ op, S.Given op → S.Fills kind K (k op)) :
    S.Fills kind K fun g => Call.operand args i >>= fun op => k op g := by
  unfold Call.operand
  cases hop : args[i]? with
  | none => exact .const (.error _) fun _ t _ _ _ _ => ⟨t, rfl, .refl t⟩
  | some op => exact hk op (hargs op (List.mem_of_getElem? hop))

theorem Fills.value {k : Value → Nat → Action α} (i : Nat)
    (hk : ∀ v, S.Known v → S.Fills kind K (k v)) :
    S.Fills kind K fun g => Call.value args i >>= fun v => k v g := by
  simp only [Call.value, bind_assoc, pure_bind]
  exact .operand hargs i fun op hop => hk op.plain hop.plain

theorem known_value? (i : Nat) : ∀ v ∈ Call.value? args i, S.Known v := by
  intro v hv
  obtain ⟨op, hop, rfl⟩ := Option.map_eq_some_iff.1 hv
  exact (hargs op (List.mem_of_getElem? hop)).plain

theorem given_getD (i : Nat) : S.Given ((args[i]?).getD (.value .null)) := by
  cases hop : args[i]? with
  | none => exact known_null
  | some op => exact hargs op (List.mem_of_getElem? hop)

/-! ## Methods -/

theorem fills_conditionCall (m : ConditionMethod) (hK : ∀ C ∈ K, C = m.clause kind) :
    S.Fills kind K fun g => Call.condition g args m := by
  cases m with
  | compare joiner =>
    exact .operand hargs 0 fun key hkey =>
      fills_compare hK hkey (known_value? hargs 1) (known_value? hargs 2) joiner
  | raw =>
    exact .value hargs 0 fun _ _ =>
      fills_addWhere hK (given_rawOf _ _) known_null _ _
  | among negated joiner =>
    exact .operand hargs 0 fun key hkey => .value hargs 1 fun values hvalues =>
      fills_among hK hkey hvalues negated joiner
  | between negated joiner =>
    exact .operand hargs 0 fun key hkey => .value hargs 1 fun _ _ => .value hargs 2 fun _ _ =>
      fills_between hK hkey negated joiner _ _
  | dateBetween negated =>
    exact .operand hargs 0 fun key hkey => .value hargs 1 fun _ _ => .value hargs 2 fun _ _ =>
      fills_dateBetween hK hkey negated _ _
  | isNull negated joiner =>
    exact .operand hargs 0 fun key hkey => fills_isNull hK hkey negated joiner
  | like negated =>
    exact .operand hargs 0 fun key hkey => .value hargs 1 fun _ hpattern =>
      fills_like hK hkey hpattern negated
  | startsWith =>
    exact .operand hargs 0 fun key hkey => .value hargs 1 fun _ _ =>
      fills_like hK hkey (known_text _) false
  | search => exact .operand hargs 0 fun key hkey => fills_like hK hkey (known_text _) false
  | rowsExist => exact .operand hargs 0 fun callback h => fills_whereExists hK h
  | column => exact .value hargs 0 fun _ _ => fills_whereColumn hK _ _
  | datePart part =>
    exact .value hargs 0 fun _ _ => .value hargs 1 fun _ _ => fills_whereDatePart hK part _ _ _
  | having =>
    exact .operand hargs 0 fun key hkey =>
      fills_having hK hkey (known_value? hargs 1) (known_value? hargs 2) _
  | orHaving =>
    exact .operand hargs 0 fun key hkey =>
      fills_having hK hkey (known_value? hargs 1) (known_value? hargs 2) _
  | havingRaw =>
    have hnone : ∀ v ∈ (none : Option Value), S.Known v := nofun
    exact .value hargs 0 fun _ _ => fills_having hK (given_rawOf _ _) hnone hnone _

theorem fills_changeCall {m : ChangeMethod} (hm : m ≠ .run) (hK : ∀ C ∈ K, some C = m.clause?) :
    S.Fills kind K fun g => Call.change g args m := by
  have hclause {L : ClauseKind} (hL : m.clause? = some L) : ∀ C ∈ K, C = L :=
    fun C hC => Option.some.inj ((hK C hC).trans hL)
  cases m with
  | run => exact absurd rfl hm
  | setOverwrite =>
    cases K with
    | none => exact fills_setOverwrite _
    | some C => exact nomatch hK C rfl
  | fromTables => exact fills_fromTables (hclause rfl) _
  | aliasTable => exact .value hargs 0 fun _ _ => fills_aliasTable (hclause rfl) _ _
  | select => exact fills_select (hclause rfl) _
  | selectRaw => exact .value hargs 0 fun _ _ => fills_select (hclause rfl) _
  | selectDistinct => exact fills_selectDistinct (hclause rfl) _
  | join =>
    exact .value hargs 0 fun _ _ => fills_join (hclause rfl) (given_getD hargs 1) _ _ _ _
  | joinAs joinKind =>
    exact .value hargs 0 fun _ _ => .operand hargs 1 fun key hkey =>
      fills_join (hclause rfl) hkey _ _ _ _
  | crossJoin =>
    exact .value hargs 0 fun _ _ =>
      fills_join (hclause rfl) given_null _ _ _ _
  | joinUsing =>
    exact .value hargs 0 fun _ _ => .value hargs 1 fun _ _ => fills_joinUsing (hclause rfl) _ _ _
  | on => exact .value hargs 0 fun _ _ => fills_on (hclause rfl) _ _ _ _
  | orOn => exact .value hargs 0 fun _ _ => fills_on (hclause rfl) _ _ _ _
  | onShared => exact .value hargs 0 fun _ _ => fills_onShared (hclause rfl) _
  | orderBy => exact .value hargs 0 fun _ _ => fills_orderBy (hclause rfl) _ _
  | orderByDesc => exact .value hargs 0 fun _ _ => fills_orderBy (hclause rfl) _ _
  | groupBy => exact fills_groupBy (hclause rfl) _
  | limit => exact .value hargs 0 fun _ _ => fills_limit (hclause rfl) _
  | offset => exact .value hargs 0 fun _ _ => fills_offset (hclause rfl) _
  | lock => exact .value hargs 0 fun _ _ => fills_lock (hclause rfl) _
  | onDuplicate => exact .value hargs 0 fun _ _ => fills_onDuplicate (hclause rfl) _
  | union => exact .value hargs 0 fun _ hother => fills_union (hclause rfl) hother _

end

theorem fills_require (m : BuilderMethod) : S.Fills kind K fun g => Call.require g m := by
  unfold Call.require
  cases Call.kindOf? m with
  | none => exact .pure _
  | some kind' =>
    refine fills_kind (k := fun kind _ => if kind != kind' then throw (.misuse .missingAttribute)
      else pure ()) ?_
    split
    · exact .throw _
    · exact .pure _

/-- A call fills the clause of its method. -/
theorem fills_invoke {call : ReadyCall} (hargs : ∀ op ∈ call.args, S.Given op)
    (hK : ∀ C ∈ K, some C = call.clause? kind) : S.Fills kind K call.invoke := by
  obtain ⟨m, args⟩ := call
  show S.Fills kind K fun g => JoinCall.invoke g m.method args
  cases harity : m.method.arity.allows args.length with
  | false =>
    simp only [invoke_refused harity]
    exact (fills_require _).bind fun _ => .throw _
  | true =>
    cases m with
    | condition m =>
      have hinvoke (g : Nat) : JoinCall.invoke g (.condition m) args = (do
          Call.require g (.condition m)
          Call.condition g args m) := invoke_eq harity rfl
      simp only [FluentMethod.method, hinvoke]
      exact (fills_require _).bind fun _ =>
        fills_conditionCall hargs m fun C hC => Option.some.inj (hK C hC)
    | change m hm =>
      have hinvoke (g : Nat) : JoinCall.invoke g (.change m) args = (do
          Call.require g (.change m)
          Call.change g args m) := invoke_eq harity rfl
      simp only [FluentMethod.method, hinvoke]
      exact (fills_require _).bind fun _ => fills_changeCall hargs hm hK

/-! ## Callbacks that make calls -/

variable (S)

mutual

/-- The argument is a value that is known, or a callback that makes calls with such arguments. -/
def Inside : FluentArg → Prop
  | .value v => S.Known v
  | .callback _ calls => AllInside calls
  | .query _ | .subQuery _ _ => False

/-- So are all arguments. -/
def ArgsInside : List FluentArg → Prop
  | [] => True
  | arg :: args => Inside arg ∧ ArgsInside args

/-- So are the arguments of all calls. -/
def AllInside : List FluentCall → Prop
  | [] => True
  | .call _ args :: calls => ArgsInside args ∧ AllInside calls

end

variable {S}

mutual

theorem evaluate_inside {arg : FluentArg} (h : S.Inside arg) :
    ∃ op, S.Given op ∧ ∀ g, arg.evaluate g = pure op := by
  cases arg with
  | value v => exact ⟨.value v, h, fun _ => rfl⟩
  | callback identity calls =>
    exact ⟨.callback identity fun g => performAll calls g, confined_performAll h, fun _ => rfl⟩
  | query calls => exact h.elim
  | subQuery calls name => exact h.elim

theorem evaluateAll_inside {args : List FluentArg} (h : S.ArgsInside args) :
    ∃ ops, (∀ op ∈ ops, S.Given op) ∧ ∀ g, evaluateAll args g = pure ops := by
  cases args with
  | nil => exact ⟨[], nofun, fun _ => rfl⟩
  | cons arg args =>
    obtain ⟨op, hop, heval⟩ := evaluate_inside h.1
    obtain ⟨ops, hops, hevals⟩ := evaluateAll_inside h.2
    refine ⟨op :: ops, List.forall_mem_cons.2 ⟨hop, hops⟩, fun g => ?_⟩
    rw [evaluateAll, heval, pure_bind, hevals, pure_bind]

/-- A callback that makes calls on the builder it receives does nothing else. -/
theorem confined_performAll {calls : List FluentCall} (h : S.AllInside calls) :
    S.Confined (performAll calls) := by
  intro kind
  cases calls with
  | nil => exact .pure ()
  | cons call calls =>
    obtain ⟨m, args⟩ := call
    obtain ⟨ops, hops, heval⟩ := evaluateAll_inside h.1
    have hperform (g : Nat) :
        (FluentCall.call m args).perform g = (ReadyCall.mk m ops).invoke g := by
      rw [FluentCall.perform, heval, pure_bind]
      rfl
    simp only [performAll, hperform]
    exact (fills_invoke (K := none) hops nofun).bind fun _ => confined_performAll h.2 kind

end

end Scene

end SqlBuilder
