import SqlBuilder.Program.Call
import SqlBuilder.Proofs.Twins.Building

/-!
# Fluent calls on twins

A `FluentCall` puts a query together: it calls a method of a builder that gives the builder back and
runs nothing. Its arguments are values, callbacks that make calls again, and queries of their own.
The position of an argument decides how it is read (`Role`), and that which calls are in order
(`FluentCall.proper`): a query stands only where a method looks for one.

`match_performAll`: two sequences of calls concur if they are one but for their arguments, and the
change of the arguments is `Harmless`: it makes no difference once prefixes are in front.
-/

set_option autoImplicit false

namespace SqlBuilder

open Session Builder Call

/-! ## Calls -/

/-- A method that gives its builder back and runs nothing. -/
inductive FluentMethod where
  | condition (m : ConditionMethod)
  | change (m : ChangeMethod) (h : m ≠ .run)

/-- The method of a builder. -/
def FluentMethod.method : FluentMethod → BuilderMethod
  | .condition m => .condition m
  | .change m _ => .change m

mutual

/-- An argument of a call. -/
inductive FluentArg where
  | value (v : Value)
  /-- A callback that makes calls on the builder it is given. -/
  | callback (identity : Nat) (calls : List FluentCall)
  /-- A new query of the builder's connection, after calls on it. -/
  | query (calls : List FluentCall)
  /-- Such a query as a raw fragment, with an alias if there is one. -/
  | subQuery (calls : List FluentCall) (name : Value)

/-- A call of a method of a builder. -/
inductive FluentCall where
  | call (m : FluentMethod) (args : List FluentArg)

end

mutual

/-- Evaluates an argument of a call on a builder. -/
def FluentArg.evaluate : FluentArg → Nat → Action Operand
  | .value v, _ => pure (.value v)
  | .callback identity calls, _ => pure (.callback identity fun g => performAll calls g)
  | .query calls, b => do
    let q ← newQuery b
    performAll calls q
    pure (.value (.builder q .query))
  | .subQuery calls name, b => do
    let q ← newQuery b
    performAll calls q
    pure (.value (← Builder.subQuery q name))

/-- Evaluates the arguments of a call, in order. -/
def evaluateAll : List FluentArg → Nat → Action (List Operand)
  | [], _ => pure []
  | arg :: args, b => do
    let op ← arg.evaluate b
    pure (op :: (← evaluateAll args b))

/-- Makes a call on a builder. -/
def FluentCall.perform : FluentCall → Nat → Action Unit
  | .call m args, b => do
    Call.find (.builder m.method) (some b)
    let _ ← Call.perform (.builder m.method) (some b) (← evaluateAll args b)

/-- Makes calls on a builder, one after another. -/
def performAll : List FluentCall → Nat → Action Unit
  | [], _ => pure ()
  | call :: calls, b => do
    call.perform b
    performAll calls b

end

/-! ## Roles -/

/-- How an argument is read. -/
inductive Role where
  | plain
  /-- A column that is written as it is given. -/
  | bare
  /-- A table, or a column that may name one, on its own. -/
  | name (mixed : Bool)
  | tables
  | field
  | orders
  | groups
  | joined
  /-- What may be a query. -/
  | subject
  deriving DecidableEq

namespace Role

/-- The arguments of a comparison: what is compared with comes last, after an operator if there are
three arguments or more. -/
def compared (count : Nat) : Nat → Role
  | 0 => .name true
  | 1 => if count ≤ 2 then .subject else .plain
  | 2 => .subject
  | _ => .plain

/-- A column and what it is compared with. -/
def against : Nat → Role
  | 0 => .name true
  | 1 => .subject
  | _ => .plain

/-- The arguments of a comparison of two columns in a join. -/
def paired : Nat → Role
  | 0 | 2 => .name true
  | _ => .plain

/-- The table of a join and what it is joined on. -/
def joining : Nat → Role
  | 0 => .joined
  | 1 | 3 => .name true
  | _ => .plain

/-- A first argument that is read in some way, and plain ones. -/
def first (role : Role) : Nat → Role
  | 0 => role
  | _ => .plain

/-- A second argument that is read in some way, and plain ones. -/
def second (role : Role) : Nat → Role
  | 1 => role
  | _ => .plain

end Role

/-- How the arguments of a condition are read. -/
def ConditionMethod.role (count : Nat) : ConditionMethod → Nat → Role
  | .compare _ | .having | .orHaving => .compared count
  | .raw | .havingRaw | .rowsExist => fun _ => .plain
  | .among _ _ | .like _ => .against
  | .between _ _ | .dateBetween _ | .isNull _ _ | .startsWith | .search => .first (.name true)
  | .column => fun _ => .bare
  | .datePart _ => .first .bare

/-- How the arguments of a change are read. -/
def ChangeMethod.role : ChangeMethod → Nat → Role
  | .fromTables => fun _ => .tables
  | .aliasTable => .second (.name false)
  | .select | .selectDistinct => fun _ => .field
  | .join | .joinAs _ => .joining
  | .crossJoin | .joinUsing => .first .joined
  | .on | .orOn => .paired
  | .orderBy | .orderByDesc => .first .orders
  | .groupBy => fun _ => .groups
  | .union => .first .subject
  | .selectRaw | .setOverwrite | .onShared | .limit | .offset | .lock | .onDuplicate | .run =>
    fun _ => .plain

/-- How the arguments of a method are read, if there are so many. -/
def FluentMethod.role (count : Nat) : FluentMethod → Nat → Role
  | .condition m => m.role count
  | .change m _ => m.role

/-- The arguments of two runs are read alike. Builders that both hold are alike. -/
def Role.Alike (S : Stage) (own : List Pair) : Role → Value → Value → Prop
  | .plain | .bare => Eq
  | .name mixed => S.Named mixed
  | .tables => S.Tables
  | .field => S.Field
  | .orders => S.Orders
  | .groups => S.Groups
  | .joined => S.Joined
  | .subject => Subject own

mutual

/-- Values are no builders, and queries stand where they are looked for. -/
def FluentArg.proper (role : Role) : FluentArg → Bool
  | .value v => !v.isBuilder
  | .callback _ calls => properAll calls
  | .query calls => role == .subject && properAll calls
  | .subQuery calls _ => properAll calls

/-- So it is with all arguments. -/
def properArgs (roles : Nat → Role) : List FluentArg → Bool
  | [] => true
  | arg :: args => arg.proper (roles 0) && properArgs (fun i => roles (i + 1)) args

/-- The arguments of the call are in order. -/
def FluentCall.proper : FluentCall → Bool
  | .call m args => properArgs (m.role args.length) args

/-- The calls are in order. -/
def properAll : List FluentCall → Bool
  | [] => true
  | call :: calls => call.proper && properAll calls

end

mutual

/-- The argument with its values changed according to their roles. -/
def FluentArg.map (f : Role → Value → Value) (role : Role) : FluentArg → FluentArg
  | .value v => .value (f role v)
  | .callback identity calls => .callback identity (mapAll f calls)
  | .query calls => .query (mapAll f calls)
  | .subQuery calls name => .subQuery (mapAll f calls) name

/-- All arguments with their values changed. -/
def mapArgs (f : Role → Value → Value) (roles : Nat → Role) : List FluentArg → List FluentArg
  | [] => []
  | arg :: args => arg.map f (roles 0) :: mapArgs f (fun i => roles (i + 1)) args

/-- The call with the values of its arguments changed. -/
def FluentCall.map (f : Role → Value → Value) : FluentCall → FluentCall
  | .call m args => .call m (mapArgs f (m.role args.length) args)

/-- The calls with the values of their arguments changed. -/
def mapAll (f : Role → Value → Value) : List FluentCall → List FluentCall
  | [] => []
  | call :: calls => call.map f :: mapAll f calls

end

mutual

theorem FluentArg.map_id (role : Role) :
    ∀ arg : FluentArg, arg.map (fun _ v => v) role = arg
  | .value _ => rfl
  | .callback identity calls => congrArg (FluentArg.callback identity) (mapAll_id calls)
  | .query calls => congrArg FluentArg.query (mapAll_id calls)
  | .subQuery calls name => congrArg (FluentArg.subQuery · name) (mapAll_id calls)

theorem mapArgs_id (roles : Nat → Role) :
    ∀ args : List FluentArg, mapArgs (fun _ v => v) roles args = args
  | [] => rfl
  | arg :: args => by rw [mapArgs, FluentArg.map_id, mapArgs_id]

theorem FluentCall.map_id : ∀ call : FluentCall, call.map (fun _ v => v) = call
  | .call m args => congrArg (FluentCall.call m) (mapArgs_id _ args)

/-- Nothing is changed where the values are not. -/
theorem mapAll_id : ∀ calls : List FluentCall, mapAll (fun _ v => v) calls = calls
  | [] => rfl
  | call :: calls => by rw [mapAll, FluentCall.map_id, mapAll_id]

end

/-! ## Evaluated arguments -/

variable {γ δ : Type} {S : Stage} {own : List Pair} {b b' : Nat}

/-- Evaluated arguments that are read alike. -/
inductive Operand.Alike (S : Stage) (own : List Pair) (role : Role) : Operand → Operand → Prop where
  | value {v v' : Value} (h : role.Alike S own v v') : Alike S own role (.value v) (.value v')
  | callback (identity : Nat) {f f' : Nat → Action Unit} (h : Callbacks S own f f') :
      Alike S own role (.callback identity f) (.callback identity f')

theorem Role.Alike.mono {own' : List Pair} {role : Role} {v v' : Value}
    (h : role.Alike S own v v') (hsub : own ⊆ own') : role.Alike S own' v v' := by
  cases role with
  | subject => exact Subject.mono h hsub
  | _ => exact h

/-- What is no name, no collection of names and no builder is read alike. -/
theorem Role.alike_other (role : Role) {v : Value} (htext : v.isText = false)
    (hmany : v.isMany = false) (hbuilder : v.isBuilder = false) : role.Alike S own v v := by
  have hitems : v.items? = none := by
    cases v <;> first | rfl | cases hmany
  cases role with
  | plain => rfl
  | bare => rfl
  | name mixed => exact S.named_other mixed htext hmany
  | tables => exact .name (S.named_other false htext hmany) hmany hmany
  | field => exact .name (S.named_other true htext hmany) hmany hmany
  | orders =>
    intro direction
    have horderings : orderings v direction = [(v, direction)] := by
      cases v <;> first | rfl | cases hmany
    rw [horderings]
    exact .cons ⟨S.named_other true htext hmany, rfl⟩ .nil
  | groups => exact .name (S.named_other true htext hmany) hitems hitems
  | joined => exact .name (S.named_other false htext hmany) hitems hitems
  | subject => exact .same hbuilder

theorem Role.alike_raw (role : Role) {v : Value} (h : v.isRaw = true) : role.Alike S own v v := by
  cases v with
  | raw sql bindings => exact role.alike_other rfl rfl rfl
  | _ => cases h

namespace Operand.Alike

variable {role : Role} {op op' : Operand}

theorem mono {own' : List Pair} (h : Operand.Alike S own role op op') (hsub : own ⊆ own') :
    Operand.Alike S own' role op op' := by
  cases h with
  | value h => exact .value (h.mono hsub)
  | callback identity h => exact .callback identity (h.mono hsub)

theorem plain (h : Operand.Alike S own role op op') : role.Alike S own op.plain op'.plain := by
  cases h with
  | value h => exact h
  | callback identity h => exact role.alike_other rfl rfl rfl

theorem key (h : Operand.Alike S own (.name true) op op') : Key S own op op' := by
  cases h with
  | value h => exact .value h
  | callback identity h => exact .callback identity h

/-- Only callbacks can be applied. -/
theorem apply (h : Operand.Alike S own role op op') : Callbacks S own op.apply op'.apply := by
  cases h with
  | value h => exact fun _ _ _ _ _ => .throw _
  | callback identity h => exact h

end Operand.Alike

/-- All evaluated arguments are read alike, and there are as many. -/
def Operands (S : Stage) (own : List Pair) (roles : Nat → Role) (ops ops' : List Operand) : Prop :=
  ∀ i, Option.Rel (Operand.Alike S own (roles i)) ops[i]? ops'[i]?

namespace Operands

variable {roles : Nat → Role} {ops ops' : List Operand}

theorem length_eq (h : Operands S own roles ops ops') : ops'.length = ops.length := by
  have hnone (i : Nat) : ops[i]? = none ↔ ops'[i]? = none := by
    have hi := h i
    generalize ops[i]? = op? at hi ⊢
    generalize ops'[i]? = op?' at hi ⊢
    cases hi with
    | some _ => exact iff_of_false nofun nofun
    | none => exact iff_of_true rfl rfl
  have hlength := (hnone ops.length).1 (List.getElem?_eq_none_iff.2 (Nat.le_refl _))
  have hlength' := (hnone ops'.length).2 (List.getElem?_eq_none_iff.2 (Nat.le_refl _))
  exact Nat.le_antisymm (List.getElem?_eq_none_iff.1 hlength) (List.getElem?_eq_none_iff.1 hlength')

theorem nil : Operands S own roles [] [] := fun _ => .none

theorem cons {op op' : Operand} (h : Operand.Alike S own (roles 0) op op')
    (hs : Operands S own (fun i => roles (i + 1)) ops ops') :
    Operands S own roles (op :: ops) (op' :: ops')
  | 0 => .some h
  | i + 1 => hs i

/-- Arguments that are all read in one way. -/
theorem plains {role : Role} (h : Operands S own (fun _ => role) ops ops') :
    List.Forall₂ (role.Alike S own) (ops.map Operand.plain) (ops'.map Operand.plain) := by
  induction ops generalizing ops' with
  | nil =>
    obtain rfl := List.length_eq_zero_iff.1 h.length_eq
    exact .nil
  | cons op ops ih =>
    cases ops' with
    | nil => cases h.length_eq
    | cons op' ops' =>
      refine .cons ?_ (ih fun i => h (i + 1))
      cases h 0 with
      | some h => exact h.plain

theorem value? (h : Operands S own roles ops ops') (i : Nat) :
    Option.Rel ((roles i).Alike S own) (Call.value? ops i) (Call.value? ops' i) := by
  unfold Call.value?
  have hi := h i
  generalize ops[i]? = op? at hi ⊢
  generalize ops'[i]? = op?' at hi ⊢
  cases hi with
  | some h => exact .some h.plain
  | none => exact .none

theorem valueOr (h : Operands S own roles ops ops') (i : Nat) {default : Value}
    (hdefault : (roles i).Alike S own default default) :
    (roles i).Alike S own (Call.valueOr ops i default) (Call.valueOr ops' i default) := by
  unfold Call.valueOr
  have hi := h.value? i
  generalize Call.value? ops i = v? at hi ⊢
  generalize Call.value? ops' i = v?' at hi ⊢
  cases hi with
  | some h => exact h
  | none => exact hdefault

/-- An argument that must be there. -/
theorem andOperand {R : List Pair → γ → δ → Prop} (h : Operands S own roles ops ops') (i : Nat)
    {k : Operand → Action γ} {l : Operand → Action δ}
    (hk : ∀ op op', Operand.Alike S own (roles i) op op' → Concur S own (k op) (l op') R) :
    Concur S own (operand ops i >>= k) (operand ops' i >>= l) R := by
  unfold operand
  have hi := h i
  generalize ops[i]? = op? at hi ⊢
  generalize ops'[i]? = op?' at hi ⊢
  cases hi with
  | some h => exact hk _ _ h
  | none => exact .throw _

/-- Its value. -/
theorem andValue {R : List Pair → γ → δ → Prop} (h : Operands S own roles ops ops') (i : Nat)
    {k : Value → Action γ} {l : Value → Action δ}
    (hk : ∀ v v', (roles i).Alike S own v v' → Concur S own (k v) (l v') R) :
    Concur S own (Call.value ops i >>= k) (Call.value ops' i >>= l) R := by
  unfold Call.value
  rw [bind_assoc, bind_assoc]
  exact h.andOperand i fun op op' hop => hk op.plain op'.plain hop.plain

/-- Plain arguments are the same. -/
theorem eq_of_plain (h : Operands S own roles ops ops') {i : Nat} (hrole : roles i = .plain) :
    Call.value? ops' i = Call.value? ops i := by
  have hi := h.value? i
  rw [hrole] at hi
  generalize Call.value? ops i = v? at hi ⊢
  generalize Call.value? ops' i = v?' at hi ⊢
  cases hi with
  | some h => exact congrArg some h.symm
  | none => rfl

theorem valueOr_eq (h : Operands S own roles ops ops') {i : Nat} (hrole : roles i = .plain)
    (default : Value) : Call.valueOr ops' i default = Call.valueOr ops i default :=
  congrArg (Option.getD · default) (h.eq_of_plain hrole)

/-- The operator and the value of a comparison. -/
theorem compared (h : Operands S own roles ops ops')
    (hsecond : roles 1 = if ops.length ≤ 2 then .subject else .plain)
    (hthird : roles 2 = .subject) :
    Compared own (operands (Call.value? ops 1) (Call.value? ops 2))
      (operands (Call.value? ops' 1) (Call.value? ops' 2)) := by
  have hcomparand {v v' : Value} (h : Subject own v v') :
      Subject own (comparand v) (comparand v') := by
    cases h with
    | builder kind h => exact .builder kind h
    | @same v h =>
      refine .same ?_
      cases v <;> first | rfl | cases h
  have hcount : Call.value? ops 2 = none ↔ ops.length ≤ 2 := by
    simp [Call.value?]
  have h₁ := h.value? 1
  have h₂ := h.value? 2
  rw [hsecond] at h₁
  rw [hthird] at h₂
  generalize Call.value? ops 1 = operator at h₁
  generalize Call.value? ops' 1 = operator' at h₁
  generalize Call.value? ops 2 = v at h₂ hcount
  generalize Call.value? ops' 2 = v' at h₂
  cases h₂ with
  | none =>
    rw [if_pos (hcount.1 rfl)] at h₁
    cases h₁ with
    | none => exact ⟨rfl, .same rfl⟩
    | some h => exact ⟨rfl, hcomparand h⟩
  | some hv =>
    rw [if_neg (mt hcount.2 nofun)] at h₁
    cases h₁ with
    | none => exact ⟨rfl, .same rfl⟩
    | some h => exact ⟨h.symm, hcomparand hv⟩

end Operands

/-! ## Methods -/

theorem key_rawOf (sql bindings : Value) :
    Key S own (.value (rawOf sql bindings)) (.value (rawOf sql bindings)) := by
  unfold rawOf Value.ofRaw
  split
  · exact .raw _ _
  · exact .raw _ _
  · exact .raw _ _

theorem match_conditionCall (hb : Coupled own b b') (m : ConditionMethod) {ops ops' : List Operand}
    (h : Operands S own (m.role ops.length) ops ops') :
    Match S own (Call.condition b ops m) (Call.condition b' ops' m) := by
  cases m with
  | compare joiner =>
    exact h.andOperand 0 fun key key' hkey => match_compare hb joiner hkey.key (h.compared rfl rfl)
  | raw =>
    refine h.andValue 0 fun sql sql' hsql => ?_
    obtain rfl : sql = sql' := hsql
    rw [h.valueOr_eq rfl]
    exact match_addWhere hb (key_rawOf _ _) .null (.same rfl) .and
  | among negated joiner =>
    exact h.andOperand 0 fun key key' hkey => h.andValue 1 fun v v' hv =>
      match_among hb negated joiner hkey.key hv
  | between negated joiner =>
    refine h.andOperand 0 fun key key' hkey => h.andValue 1 fun least least' hleast =>
      h.andValue 2 fun most most' hmost => ?_
    obtain rfl : least = least' := hleast
    obtain rfl : most = most' := hmost
    exact match_addWhere hb hkey.key _ (.same rfl) joiner
  | dateBetween negated =>
    refine h.andOperand 0 fun key key' hkey => h.andValue 1 fun least least' hleast =>
      h.andValue 2 fun most most' hmost => ?_
    obtain rfl : least = least' := hleast
    obtain rfl : most = most' := hmost
    exact match_dateBetween hb negated hkey.key least most
  | isNull negated joiner =>
    exact h.andOperand 0 fun key key' hkey => match_addWhere hb hkey.key _ (.same rfl) joiner
  | like negated =>
    exact h.andOperand 0 fun key key' hkey => h.andValue 1 fun v v' hv =>
      match_addWhere hb hkey.key _ hv .and
  | startsWith =>
    refine h.andOperand 0 fun key key' hkey => h.andValue 1 fun v v' hv => ?_
    obtain rfl : v = v' := hv
    exact match_addWhere hb hkey.key _ (.same rfl) .and
  | search =>
    refine h.andOperand 0 fun key key' hkey => ?_
    rw [h.valueOr_eq rfl]
    exact match_addWhere hb hkey.key _ (.same rfl) .and
  | rowsExist => exact h.andOperand 0 fun op op' hop => match_whereExists hb hop.apply
  | column =>
    refine h.andValue 0 fun first first' hfirst => ?_
    obtain rfl : first = first' := hfirst
    have hplains : ops.map Operand.plain = ops'.map Operand.plain :=
      List.forall₂_eq_eq_eq ▸ h.plains
    rw [List.map_drop, List.map_drop, hplains]
    exact match_whereColumn hb first _
  | datePart part =>
    refine h.andValue 0 fun column column' hcolumn => h.andValue 1 fun operator operator' hop => ?_
    obtain rfl : column = column' := hcolumn
    obtain rfl : operator = operator' := hop
    rw [h.eq_of_plain rfl]
    exact match_whereDatePart hb part column operator _
  | having =>
    refine h.andOperand 0 fun key key' hkey => ?_
    rw [h.valueOr_eq rfl]
    exact match_having hb hkey.key (h.compared rfl rfl) _
  | orHaving =>
    exact h.andOperand 0 fun key key' hkey => match_having hb hkey.key (h.compared rfl rfl) _
  | havingRaw =>
    refine h.andValue 0 fun sql sql' hsql => ?_
    obtain rfl : sql = sql' := hsql
    rw [h.valueOr_eq rfl]
    exact match_having hb (key_rawOf _ _) ⟨rfl, .same rfl⟩ _

/-- Selected expressions, one after another. -/
theorem fields_of_forall₂ {vs vs' : List Value} (h : List.Forall₂ S.Field vs vs') :
    S.Fields vs vs' := by
  induction h with
  | nil => exact .nil
  | cons h _ ih => exact .cons h ih

theorem field_rawOf (sql bindings : Value) : S.Field (rawOf sql bindings) (rawOf sql bindings) := by
  unfold rawOf Value.ofRaw
  split
  · exact .name (S.named_other true rfl rfl) rfl rfl
  · exact .name (S.named_other true rfl rfl) rfl rfl
  · exact .name (S.named_other true rfl rfl) rfl rfl

theorem named_null (mixed : Bool) : S.Named mixed .null .null := S.named_other mixed rfl rfl

theorem key_null : Key S own (.value .null) (.value .null) := .value (named_null true)

theorem match_changeCall (hb : Coupled own b b') {m : ChangeMethod} (hm : m ≠ .run)
    {ops ops' : List Operand} (h : Operands S own m.role ops ops') :
    Match S own (Call.change b ops m) (Call.change b' ops' m) := by
  cases m with
  | setOverwrite =>
    show Match S own (updateBuilder b fun x => { x with overwrite := _ })
      (updateBuilder b' fun x => { x with overwrite := _ })
    rw [h.valueOr_eq rfl]
    exact match_setOverwrite hb _
  | fromTables => exact match_fromTables hb h.plains
  | aliasTable =>
    refine h.andValue 0 fun name name' hname => ?_
    obtain rfl : name = name' := hname
    exact match_aliasTable hb name (h.valueOr 1 (named_null false))
  | select => exact match_select hb (fields_of_forall₂ h.plains)
  | selectRaw =>
    refine h.andValue 0 fun sql sql' hsql => ?_
    obtain rfl : sql = sql' := hsql
    rw [h.valueOr_eq rfl]
    exact match_select hb (.cons (field_rawOf _ _) .nil)
  | selectDistinct => exact match_selectDistinct hb (fields_of_forall₂ h.plains)
  | join =>
    refine h.andValue 0 fun table table' htable => ?_
    have hkey : Key S own ((ops[1]?).getD (.value .null)) ((ops'[1]?).getD (.value .null)) := by
      have hi := h 1
      generalize ops[1]? = op? at hi ⊢
      generalize ops'[1]? = op?' at hi ⊢
      cases hi with
      | some h => exact Operand.Alike.key h
      | none => exact key_null
    rw [h.valueOr_eq (i := 4) rfl, h.valueOr_eq (i := 2) rfl]
    exact match_join hb _ htable hkey _ (h.valueOr 3 (named_null true))
  | joinAs kind =>
    refine h.andValue 0 fun table table' htable => h.andOperand 1 fun key key' hkey => ?_
    rw [h.valueOr_eq (i := 2) rfl]
    exact match_join hb _ htable hkey.key _ (h.valueOr 3 (named_null true))
  | crossJoin =>
    exact h.andValue 0 fun table table' htable =>
      match_join hb _ htable key_null .null (named_null true)
  | joinUsing =>
    refine h.andValue 0 fun table table' htable => h.andValue 1 fun columns columns' hcolumns => ?_
    obtain rfl : columns = columns' := hcolumns
    rw [h.valueOr_eq rfl]
    exact match_joinUsing hb _ htable columns
  | on =>
    refine h.andValue 0 fun key key' hkey => ?_
    rw [h.valueOr_eq (i := 1) rfl, h.valueOr_eq (i := 3) rfl]
    exact match_on hb hkey _ (h.valueOr 2 (named_null true)) _
  | orOn =>
    refine h.andValue 0 fun key key' hkey => ?_
    rw [h.valueOr_eq (i := 1) rfl]
    exact match_on hb hkey _ (h.valueOr 2 (named_null true)) _
  | onShared =>
    refine h.andValue 0 fun columns columns' hcolumns => ?_
    obtain rfl : columns = columns' := hcolumns
    exact match_onShared hb columns
  | orderBy =>
    refine h.andValue 0 fun fields fields' hfields => ?_
    rw [h.valueOr_eq rfl]
    exact match_orderBy hb hfields _
  | orderByDesc =>
    exact h.andValue 0 fun fields fields' hfields => match_orderBy hb hfields _
  | groupBy => exact match_groupBy hb h.plains
  | limit =>
    refine h.andValue 0 fun v v' hv => ?_
    obtain rfl : v = v' := hv
    exact match_limit hb v
  | offset =>
    refine h.andValue 0 fun v v' hv => ?_
    obtain rfl : v = v' := hv
    exact match_offset hb v
  | lock =>
    refine h.andValue 0 fun v v' hv => ?_
    obtain rfl : v = v' := hv
    exact match_edit hb _
  | onDuplicate =>
    refine h.andValue 0 fun v v' hv => ?_
    obtain rfl : v = v' := hv
    exact match_onDuplicate hb v
  | union =>
    refine h.andValue 0 fun other other' hother => ?_
    rw [h.valueOr_eq rfl]
    exact match_union hb hother _
  | run => exact absurd rfl hm

/-- A method of a builder of each session, given arguments that are read alike. -/
theorem concur_method (hb : Coupled own b b') (m : FluentMethod) {ops ops' : List Operand}
    (h : Operands S own (m.role ops.length) ops ops') :
    Concur S own (Call.perform (.builder m.method) (some b) ops)
      (Call.perform (.builder m.method) (some b') ops') fun _ _ _ => True := by
  unfold Call.perform
  rw [h.length_eq]
  refine Concur.checked ?_
  cases m with
  | condition m =>
    exact (match_conditionCall hb m h).andThen fun _ _ _ => .pure trivial
  | change m hm =>
    exact (match_changeCall hb hm h).andThen fun _ _ _ => .pure trivial

theorem match_find (hb : Coupled own b b') (m : FluentMethod) :
    Match S own (Call.find (.builder m.method) (some b))
      (Call.find (.builder m.method) (some b')) := by
  show Match S own (require b m.method) (require b' m.method)
  unfold require
  split
  · refine (concur_builder hb).bind fun own₁ h₁ x x' hx => ?_
    rw [hx.1]
    exact Concur.checked (.pure rfl)
  · exact .pure rfl

/-! ## Programs -/

/-- A change of arguments makes no difference to how they are read. -/
def Harmless (S : Stage) (f : Role → Value → Value) : Prop :=
  ∀ (role : Role) (v : Value), v.isBuilder = false → role.Alike S [] v (f role v)

/-- Where prefixes are the same, nothing need be changed. -/
theorem Stage.Uniform.harmless (h : S.Uniform) : Harmless S fun _ v => v := by
  intro role v hv
  cases role with
  | plain => rfl
  | bare => rfl
  | name mixed => exact h.named mixed v
  | tables => exact h.tables v
  | field => exact h.field v
  | orders => exact h.orders v
  | groups => exact h.groups v
  | joined => exact h.joined v
  | subject => exact .same hv

variable {f : Role → Value → Value}

mutual

theorem concur_evaluate (hf : Harmless S f) {own : List Pair} {b b' : Nat}
    (hb : Coupled own b b') (role : Role) : ∀ arg : FluentArg, arg.proper role = true →
      Concur S own (arg.evaluate b) ((arg.map f role).evaluate b') fun own' =>
        Operand.Alike S own' role
  | .value v, h => by
    have hv : v.isBuilder = false := by simpa [FluentArg.proper] using h
    exact .pure (.value ((hf role v hv).mono (List.nil_subset own)))
  | .callback identity calls, h => by
    exact .pure (.callback identity fun own' _ g g' hg => match_performAll hf hg calls h)
  | .query calls, h => by
    obtain ⟨hrole, hcalls⟩ := Bool.and_eq_true_iff.1 h
    obtain rfl : role = .subject := of_decide_eq_true hrole
    refine (concur_newQuery hb).bind fun own₁ h₁ q q' hq => ?_
    refine (match_performAll hf hq calls hcalls).andThen fun own₂ h₂ _ => ?_
    exact .pure (.value (.builder .query (hq.mono h₂)))
  | .subQuery calls name, h => by
    refine (concur_newQuery hb).bind fun own₁ h₁ q q' hq => ?_
    refine (match_performAll hf hq calls h).andThen fun own₂ h₂ _ => ?_
    refine (concur_subQuery (hq.mono h₂) name).bind fun own₃ h₃ v v' hv => ?_
    obtain ⟨rfl, hraw⟩ := hv
    exact .pure (.value (role.alike_raw hraw))

theorem concur_evaluateAll (hf : Harmless S f) {own : List Pair} {b b' : Nat}
    (hb : Coupled own b b') (roles : Nat → Role) :
    ∀ args : List FluentArg, properArgs roles args = true →
      Concur S own (evaluateAll args b) (evaluateAll (mapArgs f roles args) b') fun own' ops ops' =>
        Operands S own' roles ops ops' ∧ ops.length = args.length
  | [], _ => .pure ⟨.nil, rfl⟩
  | arg :: args, h => by
    obtain ⟨harg, hargs⟩ := Bool.and_eq_true_iff.1 h
    refine (concur_evaluate hf hb (roles 0) arg harg).bind fun own₁ h₁ op op' hop => ?_
    refine (concur_evaluateAll hf (hb.mono h₁) _ args hargs).bind fun own₂ h₂ ops ops' hops => ?_
    exact .pure ⟨.cons (hop.mono h₂) hops.1, congrArg (· + 1) hops.2⟩

/-- **A step.** A call and the call with changed arguments concur. -/
theorem match_perform (hf : Harmless S f) {own : List Pair} {b b' : Nat}
    (hb : Coupled own b b') :
    ∀ call : FluentCall, call.proper = true →
      Match S own (call.perform b) ((call.map f).perform b')
  | .call m args, h => by
    refine (match_find hb m).andThen fun own₁ h₁ _ => ?_
    refine (concur_evaluateAll hf (hb.mono h₁) _ args h).bind fun own₂ h₂ ops ops' hops => ?_
    obtain ⟨hops, hlength⟩ := hops
    rw [← hlength] at hops
    exact (concur_method ((hb.mono h₁).mono h₂) m hops).bind fun _ _ _ _ _ => .pure rfl

/-- **A run.** Calls and the calls with changed arguments concur. -/
theorem match_performAll (hf : Harmless S f) {own : List Pair} {b b' : Nat}
    (hb : Coupled own b b') :
    ∀ calls : List FluentCall, properAll calls = true →
      Match S own (performAll calls b) (performAll (mapAll f calls) b')
  | [], _ => .pure rfl
  | call :: calls, h => by
    obtain ⟨hcall, hcalls⟩ := Bool.and_eq_true_iff.1 h
    refine (match_perform hf hb call hcall).andThen fun own₁ h₁ _ => ?_
    exact match_performAll hf (hb.mono h₁) calls hcalls

end

end SqlBuilder
