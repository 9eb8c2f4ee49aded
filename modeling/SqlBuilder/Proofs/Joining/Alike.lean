import SqlBuilder.Proofs.Independence
import SqlBuilder.Proofs.Joining.Accounts

/-!
# Calls that differ in values only

`CallsAlike` relates two sequences of calls on the builder of a join that are one sequence but for
the values to compare with. Where nothing that is given is lost, they come to conditions that differ
in data only (`conditionsAll_agree`), so that no value can change the text.
-/

set_option autoImplicit false

namespace SqlBuilder

open Value Builder

/-! ## Values and arguments -/

namespace Value

/-- A value that stands for a subquery. -/
def isBuilder : Value → Bool
  | .builder _ _ => true
  | _ => false

/-- Values that may be given for one another: raw fragments of one text with equally many bindings,
lists of one length, and scalars. -/
inductive GivenAlike : Value → Value → Prop where
  | same {v v' : Value} (h : SameFragment v v') : GivenAlike v v'
  | list {xs ys : List Value} (h : xs.length = ys.length) : GivenAlike (.list xs) (.list ys)
  | tuple {xs ys : List Value} (h : xs.length = ys.length) : GivenAlike (.tuple xs) (.tuple ys)
  | scalar {v v' : Value} (h : v.isScalar = true) (h' : v'.isScalar = true)
      (hv : v.isBuilder = false) (hv' : v'.isBuilder = false) : GivenAlike v v'

theorem GivenAlike.refl (v : Value) : GivenAlike v v := .same (.refl v)

theorem GivenAlike.comparand {v v' : Value} (h : GivenAlike v v') :
    GivenAlike (comparand v) (comparand v') := by
  have hscalar : ∀ {v : Value}, v.isScalar = true ∧ v.isBuilder = false →
      (Builder.comparand v).isScalar = true ∧ (Builder.comparand v).isBuilder = false := by
    intro v h
    cases v with
    | bool => exact ⟨rfl, rfl⟩
    | _ => exact h
  cases h with
  | same h =>
    cases h with
    | refl => exact .refl _
    | raw sql h => exact .same (.raw sql h)
  | list h => exact .list h
  | tuple h => exact .tuple h
  | scalar h h' hv hv' =>
    obtain ⟨h, hv⟩ := hscalar ⟨h, hv⟩
    obtain ⟨h', hv'⟩ := hscalar ⟨h', hv'⟩
    exact .scalar h h' hv hv'

end Value

/-- Arguments of a method that differ in the values it compares with. -/
inductive ArgsAlike : ConditionMethod → List Value → List Value → Prop where
  | same (m : ConditionMethod) (args : List Value) : ArgsAlike m args args
  | equal (joiner : Joiner) (key : Value) {v v' : Value} (h : GivenAlike v v') :
      ArgsAlike (.compare joiner) [key, v] [key, v']
  | compared (joiner : Joiner) (key operator : Value) {v v' : Value} (h : GivenAlike v v') :
      ArgsAlike (.compare joiner) [key, operator, v] [key, operator, v']
  | raw (sql : Value) {bindings bindings' : Value}
      (h : SameFragment (rawOf sql bindings) (rawOf sql bindings')) :
      ArgsAlike .raw [sql, bindings] [sql, bindings']
  | among (negated : Bool) (joiner : Joiner) (key : Value) {values values' : Value}
      (h : Agree GivenAlike (membersOf values) (membersOf values')) :
      ArgsAlike (.among negated joiner) [key, values] [key, values']
  | between (negated : Bool) (joiner : Joiner) (key least most least' most' : Value) :
      ArgsAlike (.between negated joiner) [key, least, most] [key, least', most']
  | dateBetween (negated : Bool) (key least most least' most' : Value) :
      ArgsAlike (.dateBetween negated) [key, least, most] [key, least', most']
  | like (negated : Bool) (key : Value) {v v' : Value} (h : GivenAlike v v') :
      ArgsAlike (.like negated) [key, v] [key, v']
  | startsWith (key v v' : Value) : ArgsAlike .startsWith [key, v] [key, v']
  | search (key v v' : Value) : ArgsAlike .search [key, v] [key, v']
  | datePart (part : String) (column v v' : Value) :
      ArgsAlike (.datePart part) [column, v] [column, v']
  | datePartCompared (part : String) (column operator v v' : Value) :
      ArgsAlike (.datePart part) [column, operator, v] [column, operator, v']

/-- Calls that differ in the values they compare with. -/
inductive CallsAlike : List JoinCall → List JoinCall → Prop where
  | nil : CallsAlike [] []
  | same (call : JoinCall) {calls calls' : List JoinCall} (rest : CallsAlike calls calls') :
      CallsAlike (call :: calls) (call :: calls')
  | condition {m : ConditionMethod} (hwhere : m.isWhere = true) {args args' : List Value}
      (h : ArgsAlike m args args') {calls calls' : List JoinCall}
      (rest : CallsAlike calls calls') :
      CallsAlike (.condition m hwhere args :: calls) (.condition m hwhere args' :: calls')
  | group (joiner : Joiner) {inner inner' : List JoinCall} (h : CallsAlike inner inner')
      {calls calls' : List JoinCall} (rest : CallsAlike calls calls') :
      CallsAlike (.group joiner inner :: calls) (.group joiner inner' :: calls')
  | rowsExist {s s' : Statements} (h : s.Alike s') {calls calls' : List JoinCall}
      (rest : CallsAlike calls calls') :
      CallsAlike (.rowsExist s :: calls) (.rowsExist s' :: calls')

/-! ## Comparisons -/

/-- Comparisons that differ in what they compare with. -/
structure ComparisonAlike (q q' : Comparison) : Prop where
  key : SameFragment q.key q'.key
  operator : q'.operator = q.operator
  joiner : q'.joiner = q.joiner
  value : Option.Rel GivenAlike q.value? q'.value?

namespace ComparisonAlike

theorem refl (q : Comparison) : ComparisonAlike q q where
  key := .refl _
  operator := rfl
  joiner := rfl
  value := by cases q.value? <;> constructor; exact .refl _

/-- Comparisons of one key. -/
theorem compared (key operator : Value) (joiner : Joiner) {v v' : Value} (h : GivenAlike v v') :
    ComparisonAlike ⟨key, operator, some v, joiner⟩ ⟨key, operator, some v', joiner⟩ :=
  ⟨.refl _, rfl, rfl, .some h⟩

end ComparisonAlike

/-- A list of comparisons that are asked for agrees with itself. -/
theorem asked_refl (qs : List (Result Comparison)) :
    List.Forall₂ (Agree ComparisonAlike) qs qs :=
  List.forall₂_same.2 fun _ _ => .refl fun _ _ => .refl _

theorem asked_alike (a : Adapter) {m : ConditionMethod} {args args' : List Value}
    (h : ArgsAlike m args args') :
    List.Forall₂ (Agree ComparisonAlike) (asked a m args) (asked a m args') := by
  have text : ∀ s s' : String, GivenAlike (.text s) (.text s') :=
    fun s s' => .scalar rfl rfl rfl rfl
  cases h with
  | same => exact asked_refl _
  | equal joiner key h | compared joiner key _ h =>
    exact .cons (.ok (.compared key _ joiner h.comparand)) .nil
  | raw sql h => exact .cons (.ok ⟨h, rfl, rfl, .none⟩) .nil
  | among negated joiner key h =>
    exact .cons (h.bind fun _ _ h => .ok (.compared key _ joiner h)) .nil
  | between negated joiner key =>
    exact .cons (.ok (.compared key _ joiner (.list rfl))) .nil
  | dateBetween negated key =>
    exact .cons (.ok (.compared key _ .and (.same (.raw _ rfl)))) .nil
  | like negated key h => exact .cons (.ok (.compared key _ .and h)) .nil
  | startsWith key | search key => exact .cons (.ok (.compared key _ .and (text _ _))) .nil
  | datePart | datePartCompared => exact .cons (.ok ⟨.raw _ rfl, rfl, rfl, .none⟩) .nil

section

variable {ctx : Context} {bindValues : Bool}

theorem supplied_of_scalar {v : Value} (h : v.isScalar = true) (hv : v.isBuilder = false) :
    v.supplied ctx = [v.normalize] := by
  cases v <;> first | rfl | exact Bool.noConfusion h | exact Bool.noConfusion hv

theorem unboundOperand_of_scalar {v : Value} (h : v.isScalar = true) (hv : v.isBuilder = false)
    (key operator : Value) :
    unboundOperand bindValues key operator v =
      if bindValues && !(key.isRaw && operator.isNull) then [] else [v.normalize] := by
  cases v <;> first | rfl | exact Bool.noConfusion h | exact Bool.noConfusion hv

theorem isRaw_sameFragment {v v' : Value} (h : SameFragment v v') : v'.isRaw = v.isRaw := by
  cases h <;> rfl

/-- Of values that are alike equally many are brought along. -/
theorem length_supplied {v v' : Value} (h : GivenAlike v v') :
    (v'.supplied ctx).length = (v.supplied ctx).length := by
  cases h with
  | same h =>
    cases h with
    | refl => rfl
    | raw sql h => exact h.symm
  | @list xs ys h | @tuple xs ys h =>
    show (ys.map normalize).length = (xs.map normalize).length
    rw [List.length_map, List.length_map, h]
  | scalar h h' hv hv' => rw [supplied_of_scalar h hv, supplied_of_scalar h' hv']; rfl

theorem length_unboundOperand {key key' operator v v' : Value} (hkey : SameFragment key key')
    (h : GivenAlike v v') :
    (unboundOperand bindValues key' operator v').length =
      (unboundOperand bindValues key operator v).length := by
  cases h with
  | same h =>
    cases h with
    | refl =>
      unfold unboundOperand
      rw [isRaw_sameFragment hkey]
    | raw => rfl
  | @list xs ys h | @tuple xs ys h =>
    show (if isBetween operator then (ys.drop 2).map normalize else []).length =
      (if isBetween operator then (xs.drop 2).map normalize else []).length
    split
    · rw [List.length_map, List.length_map, List.length_drop, List.length_drop, h]
    · rfl
  | scalar h h' hv hv' =>
    rw [unboundOperand_of_scalar h hv, unboundOperand_of_scalar h' hv', isRaw_sameFragment hkey]
    split <;> rfl

/-- Of comparisons that are alike equally much is lost. -/
theorem length_lost {q q' : Comparison} (h : ComparisonAlike q q') :
    (q'.lost ctx bindValues).length = (q.lost ctx bindValues).length := by
  obtain ⟨key, operator, v?, joiner⟩ := q
  obtain ⟨key', operator', v?', joiner'⟩ := q'
  obtain ⟨hkey, rfl, rfl, hv⟩ := h
  dsimp only at hkey hv
  by_cases hgroup : ∃ gs, key = .group gs
  · obtain ⟨gs, rfl⟩ := hgroup
    cases hkey
    cases hv with
    | none => rfl
    | some hv => exact length_supplied hv
  · have hnot : ∀ gs, key ≠ .group gs := fun gs h => hgroup ⟨gs, h⟩
    have hnot' : ∀ gs, key' ≠ .group gs := by
      cases hkey with
      | refl => exact hnot
      | raw => simp
    rw [Comparison.lost_of_not_group hnot, Comparison.lost_of_not_group hnot']
    cases hv with
    | none => rfl
    | some hv => exact length_unboundOperand hkey hv

theorem named_agree {v v' : Value} (h : SameFragment v v') :
    Agree SameFragment (ctx.named v) (ctx.named v') := by
  cases h with
  | refl => exact .refl fun _ _ => .refl _
  | raw sql h =>
    have hnamed : ∀ bindings, ctx.named (.raw sql bindings) = (do
        let _ ← ctx.tablePrefix
        pure (.raw sql bindings)) := by
      intro bindings
      refine congrArg (bind ctx.tablePrefix) (funext fun p => ?_)
      unfold prefixed
      split <;> rfl
    rw [hnamed, hnamed]
    exact (Agree.self _).bind fun _ _ _ => .ok (.raw sql h)

/-- What is not lost can only be seen where it is bound. -/
theorem resolved_agree {q : Comparison} {v v' : Value} (hq : q.value? = some v)
    (hlost : q.lost ctx bindValues = []) (h : GivenAlike v v') :
    Agree (OperandAlike bindValues) (ctx.resolved v) (ctx.resolved v') := by
  cases h with
  | same h =>
    cases h with
    | refl => exact .refl fun _ _ => .same (.refl _)
    | raw sql h => exact .ok (.same (.raw sql h))
  | list h => exact .ok (.list h)
  | tuple h => exact .ok (.tuple h)
  | scalar h h' hv hv' =>
    have hresolved : ∀ {v : Value}, v.isBuilder = false → ctx.resolved v = .ok v := by
      intro v hv
      cases v <;> first | rfl | cases hv
    rw [hresolved hv, hresolved hv']
    cases bindValues with
    | true => exact .ok (.scalar h h')
    | false =>
      -- where scalars are names, a scalar is lost
      obtain ⟨key, operator, v?, joiner⟩ := q
      obtain rfl : v? = some v := hq
      by_cases hgroup : ∃ gs, key = .group gs
      · obtain ⟨gs, rfl⟩ := hgroup
        have : v.supplied ctx = [] := hlost
        rw [supplied_of_scalar h hv] at this
        cases this
      · rw [Comparison.lost_of_not_group fun gs h => hgroup ⟨gs, h⟩] at hlost
        dsimp only at hlost
        rw [unboundOperand_of_scalar h hv] at hlost
        cases hlost

theorem condition_agree {q q' : Comparison} (h : ComparisonAlike q q')
    (hlost : q.lost ctx bindValues = []) :
    Agree (fun cond cond' => ConditionsAlike bindValues [cond] [cond'])
      (ctx.condition q) (ctx.condition q') := by
  have hvalue : Agree (OperandAlike bindValues) (ctx.resolved q.value)
      (ctx.resolved q'.value) := by
    have hv := h.value
    unfold Comparison.value
    generalize hq : q.value? = v? at hv
    generalize q'.value? = v?' at hv
    cases hv with
    | none => exact .ok (.same (.refl _))
    | some hv => exact resolved_agree hq hlost hv
  refine (named_agree h.key).bind fun key key' hkey => hvalue.bind fun v v' hv => ?_
  rw [h.operator, h.joiner]
  exact .ok (.comparison hkey hv .nil .nil)

/-! ## Subqueries -/

/-- Subqueries of statements that differ in data only. -/
theorem select_agree (a : Adapter) {s s' : Statements} (h : s.Alike s') :
    Agree (fun q q' => ComparisonAlike
        (.ofRaw ("EXISTS (" ++ q.sql.toText ++ ")") q.rawBindings)
        (.ofRaw ("EXISTS (" ++ q'.sql.toText ++ ")") q'.rawBindings))
      (a.compile .select s []) (a.compile .select s' []) := by
  have hfragment := Adapter.fragment_agree (a := a) Adapter.sameShape_congruence
    (Adapter.requestRel_of_alike .select h .nil)
  refine hfragment.bind fun f f' hf => .ok ?_
  obtain ⟨hsql, hbindings⟩ := hf
  refine ⟨?_, rfl, rfl, .none⟩
  show SameFragment (.raw ("EXISTS (" ++ f.sql ++ ")") f.bindings)
    (.raw ("EXISTS (" ++ f'.sql ++ ")") f'.bindings)
  rw [hsql]
  exact .raw _ hbindings

/-! ## Conditions -/

theorem ConditionsAlike.refl (bindValues : Bool) :
    ∀ cs : List Condition, ConditionsAlike bindValues cs cs
  | [] => .nil
  | ⟨_, _, _, _, _, _⟩ :: cs =>
    .comparison (.refl _) (.same (.refl _)) (List.forall₂_same.2 fun _ _ => .refl _)
      (ConditionsAlike.refl bindValues cs)

theorem ConditionsAlike.append {cs cs' ds ds' : List Condition}
    (h : ConditionsAlike bindValues cs cs') (hds : ConditionsAlike bindValues ds ds') :
    ConditionsAlike bindValues (cs ++ ds) (cs' ++ ds') := by
  induction h with
  | nil => exact hds
  | comparison hkey hvalue hcolumns _ ih => exact .comparison hkey hvalue hcolumns (ih hds)
  | group inner hvalue hcolumns _ _ ih => exact .group inner hvalue hcolumns (ih hds)

theorem asked_agree {qs qs' : List (Result Comparison)}
    (h : List.Forall₂ (Agree ComparisonAlike) qs qs')
    (hlost : Comparison.total (Comparison.lost ctx bindValues) qs = []) :
    Agree (ConditionsAlike bindValues) (qs.mapM fun q => do ctx.condition (← q))
      (qs'.mapM fun q => do ctx.condition (← q)) := by
  induction h with
  | nil => exact .ok .nil
  | @cons q q' qs qs' h _ ih =>
    rw [List.mapM_cons, List.mapM_cons]
    cases h with
    | error fault => exact .error fault
    | ok h =>
      obtain ⟨hlost, hrest⟩ := List.append_eq_nil_iff.1 hlost
      exact (condition_agree h hlost).bind fun _ _ hcond => (ih hrest).bind fun _ _ hconds =>
        .ok (hcond.append hconds)

theorem length_total {qs qs' : List (Result Comparison)}
    (h : List.Forall₂ (Agree ComparisonAlike) qs qs') :
    (Comparison.total (Comparison.lost ctx bindValues) qs').length =
      (Comparison.total (Comparison.lost ctx bindValues) qs).length := by
  induction h with
  | nil => rfl
  | cons h _ ih =>
    cases h with
    | error => exact ih
    | ok h =>
      simp only [Comparison.total, List.length_append]
      rw [length_lost h, ih]

namespace JoinCall

/-- Where nothing is lost of what calls are given, nothing is lost of what others are given that are
alike. -/
theorem length_lostAll {calls calls' : List JoinCall} (h : CallsAlike calls calls')
    (bindValues : Bool) :
    (lostAll ctx bindValues calls').length = (lostAll ctx bindValues calls).length := by
  induction h generalizing bindValues with
  | nil => rfl
  | same call _ ih => simp only [lostAll, List.length_append, ih]
  | condition hwhere h _ ih =>
    simp only [lostAll, lost, List.length_append, ih]
    rw [length_total (asked_alike ctx.adapter h)]
  | group joiner _ _ ihInner ih => simp only [lostAll, lost, List.length_append, ih, ihInner]
  | rowsExist _ _ ih => simp only [lostAll, lost, List.length_append, ih]

/-- Calls that differ in values that are not lost fail with one fault, or come to conditions that
differ in data only. -/
theorem conditionsAll_agree {calls calls' : List JoinCall} (h : CallsAlike calls calls')
    {kind : BuilderKind} {bindValues : Bool} (hlost : lostAll ctx bindValues calls = []) :
    Agree (ConditionsAlike bindValues) (conditionsAll ctx kind calls)
      (conditionsAll ctx kind calls') := by
  induction h generalizing kind bindValues with
  | nil => exact .ok .nil
  | same call _ ih =>
    rw [lostAll] at hlost
    rw [conditionsAll, conditionsAll]
    have hfirst : Agree (ConditionsAlike bindValues) (call.conditions ctx kind)
        (call.conditions ctx kind) := .refl fun cs _ => .refl _ cs
    exact hfirst.bind fun _ _ hfirst =>
      (ih (List.append_eq_nil_iff.1 hlost).2).bind fun _ _ hrest => .ok (hfirst.append hrest)
  | condition hwhere h _ ih =>
    rw [lostAll, lost] at hlost
    obtain ⟨hlost, hrest⟩ := List.append_eq_nil_iff.1 hlost
    rw [conditionsAll, conditionsAll, conditions, conditions]
    exact (asked_agree (asked_alike ctx.adapter h) hlost).bind fun _ _ hfirst =>
      (ih hrest).bind fun _ _ hrest => .ok (hfirst.append hrest)
  | group joiner _ _ ihInner ih =>
    rw [lostAll, lost] at hlost
    obtain ⟨hlost, hrest⟩ := List.append_eq_nil_iff.1 hlost
    rw [conditionsAll, conditionsAll, conditions, conditions, bind_assoc, bind_assoc]
    exact (ihInner hlost).bind fun _ _ hinner => (ih hrest).bind fun _ _ hrest =>
      .ok (.append (.group hinner (.same (.refl _)) .nil .nil) hrest)
  | rowsExist h _ ih =>
    rw [lostAll, lost, List.nil_append] at hlost
    rw [conditionsAll, conditionsAll, conditions, conditions, bind_assoc, bind_assoc]
    refine (select_agree ctx.adapter h).bind fun q q' hq => ?_
    rw [bind_assoc, bind_assoc]
    exact (condition_agree hq rfl).bind fun _ _ hcond => (ih hlost).bind
      fun _ _ hrest => .ok (hcond.append hrest)

end JoinCall

end

end SqlBuilder
