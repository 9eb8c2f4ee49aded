import Mathlib.Data.List.Flatten
import Mathlib.Data.List.Induction
import Mathlib.Data.List.Infix
import SqlBuilder.Proofs.Edits.Adding
import SqlBuilder.Proofs.Groups.Callbacks
import SqlBuilder.Proofs.Overwriting.Naming

/-!
# Conditions that replace others

In overwrite mode a condition takes the place of the first one with its key. A group counts as one
with the key of each of its own conditions, and is replaced as a whole.

* `Condition.within`: a condition and those in it at any depth. They stay where the conditions of a
  list do (`withinAll_sublist`).
* `Condition.Replaces`: what one more condition does to a list. A call of the `where` and `having`
  families adds one at most, or raw fragments (`FilterCall.grows`).
* `where_replaces`: what a further `where` on a name does to the conditions that calls left. What it
  may do where a group has been among them is seen from `ungrouped_loses`.
-/

set_option autoImplicit false

namespace SqlBuilder

open Session Builder

/-! ## Keys -/

namespace Condition

/-- The condition has the name as its key. -/
def hasKey (k : String) (c : Condition) : Bool :=
  match c.key with
  | .text n => n == k
  | _ => false

/-- The condition is a group, and one of its own conditions has the name as its key. -/
def groupsKey (k : String) (c : Condition) : Bool :=
  match c.key with
  | .group cs => cs.any (hasKey k)
  | _ => false

theorem hasKey_plain (k : String) (operator value joiner : Value) :
    (plain (.text k) operator value joiner).hasKey k = true := beq_self_eq_true k

/-- Either of both. -/
def concerns (k : String) (c : Condition) : Bool := c.hasKey k || c.groupsKey k

theorem equal?_key (c : Condition) (k : String) :
    c.key.equal? (.text k) = some (c.hasKey k) := by
  unfold hasKey
  cases c.key <;> simp [Value.equal?, Value.equalScalar?, Value.number?, Value.identical]

theorem anyKey?_text (cs : List Condition) (k : String) :
    anyKey? (.text k) cs = some (cs.any (hasKey k)) := by
  induction cs with
  | nil => rfl
  | cons c cs ih =>
    rw [anyKey?, equal?_key, ih, List.any_cons]
    cases c.hasKey k <;> rfl

theorem isAbout?_text (c : Condition) (k : String) :
    c.isAbout? (.text k) = some (c.concerns k) := by
  have hkey := c.equal?_key k
  cases h : c.key with
  | group cs =>
    have hnone : c.hasKey k = false := by rw [hasKey, h]
    simp only [isAbout?, concerns, groupsKey, h, hnone, anyKey?_text, Bool.false_or]
  | _ =>
    rw [h] at hkey
    simp only [isAbout?, concerns, groupsKey, h, hkey, Bool.or_false]

end Condition

/-! ## Conditions at any depth -/

mutual

/-- The conditions in a key, at any depth. -/
def Value.within : Value → List Condition
  | .group cs => Condition.withinAll cs
  | _ => []

/-- Conditions and those in them. -/
def Condition.withinAll : List Condition → List Condition
  | [] => []
  | c :: cs => Condition.within c ++ Condition.withinAll cs

/-- The condition and those in it. -/
def Condition.within : Condition → List Condition
  | ⟨key, operator, value, joiner, leading, columns⟩ =>
    ⟨key, operator, value, joiner, leading, columns⟩ :: Value.within key

end

namespace Condition

theorem withinAll_eq (cs : List Condition) : withinAll cs = cs.flatMap within := by
  induction cs with
  | nil => rw [withinAll, List.flatMap_nil]
  | cons c cs ih => rw [withinAll, ih, List.flatMap_cons]

/-- In order, those in a part of a list are among those in the list. -/
theorem withinAll_sublist {cs ds : List Condition} (h : cs.Sublist ds) :
    (withinAll cs).Sublist (withinAll ds) := by
  rw [withinAll_eq, withinAll_eq]
  exact h.flatMap within

/-! ## One more condition -/

/-- The list with one more condition, in overwrite mode. -/
def Replaces (c : Condition) (cs cs' : List Condition) : Prop :=
  ∃ old, Statements.replaced? true (·.isAbout? c.key) cs = some old ∧ cs' = old ++ [c]

variable {k : String} {c : Condition} {cs cs' : List Condition}

theorem key_of_hasKey (h : c.hasKey k = true) : c.key = .text k := by
  unfold hasKey at h
  split at h
  · rename_i n hn
    rw [hn, beq_iff_eq.1 h]
  · cases h

/-- A condition on a name always finds its place. -/
theorem replaced?_text (cs : List Condition) (k : String) :
    Statements.replaced? true (·.isAbout? (.text k)) cs = some (cs.eraseP (concerns k)) := by
  show eraseFirst? (·.isAbout? (.text k)) cs = _
  simp only [isAbout?_text]
  exact eraseFirst?_some _ cs

theorem countP_eraseP (p : Condition → Bool) (cs : List Condition) :
    (cs.eraseP p).countP p = cs.countP p - 1 := by
  induction cs with
  | nil => rfl
  | cons c cs ih =>
    by_cases hc : p c = true
    · rw [List.eraseP_cons_of_pos hc, List.countP_cons_of_pos hc, Nat.add_sub_cancel]
    · rw [List.eraseP_cons_of_neg hc, List.countP_cons_of_neg hc, List.countP_cons_of_neg hc, ih]

/-- What does not meet the test is kept. -/
theorem filter_sublist_eraseP (p : Condition → Bool) (cs : List Condition) :
    (cs.filter fun c => !p c).Sublist (cs.eraseP p) := by
  induction cs with
  | nil => exact .slnil
  | cons c cs ih =>
    cases hc : p c with
    | true =>
      rw [List.filter_cons_of_neg (by simp [hc]), List.eraseP_cons_of_pos hc]
      exact List.filter_sublist
    | false =>
      rw [List.filter_cons_of_pos (by simp [hc]), List.eraseP_cons_of_neg (by simp [hc])]
      exact ih.cons_cons c

/-- Where no group has the name among its keys, a condition on it replaces one with that key. -/
theorem eraseP_concerns (hgroups : ∀ d ∈ cs, d.groupsKey k = false) :
    cs.eraseP (concerns k) = cs.eraseP (hasKey k) := by
  induction cs with
  | nil => rfl
  | cons d ds ih =>
    rw [List.forall_mem_cons] at hgroups
    have hd : d.concerns k = d.hasKey k := by rw [concerns, hgroups.1, Bool.or_false]
    rw [List.eraseP_cons, List.eraseP_cons, hd, ih hgroups.2]

/-- The only one. -/
theorem countP_eraseP_concerns (hgroups : ∀ d ∈ cs, d.groupsKey k = false)
    (honce : cs.countP (hasKey k) ≤ 1) : (cs.eraseP (concerns k)).countP (hasKey k) = 0 := by
  rw [eraseP_concerns hgroups, countP_eraseP]
  omega

namespace Replaces

/-- A name that is a key once at most is so still. -/
theorem once (h : c.Replaces cs cs') (hgroups : c.hasKey k = true → ∀ d ∈ cs, d.groupsKey k = false)
    (honce : cs.countP (hasKey k) ≤ 1) : cs'.countP (hasKey k) ≤ 1 := by
  obtain ⟨old, hold, rfl⟩ := h
  rw [List.countP_append, List.countP_singleton]
  cases hc : c.hasKey k with
  | true =>
    rw [key_of_hasKey hc, replaced?_text] at hold
    obtain rfl := Option.some.inj hold
    rw [countP_eraseP_concerns (hgroups hc) honce]
    rfl
  | false => exact ((sublist_of_replaced hold).1.countP_le).trans honce

end Replaces

/-- One more condition whose key is a raw fragment. -/
def ReplacesRaw (cs cs' : List Condition) : Prop := ∃ c : Condition, c.IsRaw ∧ c.Replaces cs cs'

/-- What a call does to the conditions of a list: it adds one, or raw fragments in turn. -/
inductive Grows (cs cs' : List Condition) : Prop
  | one {c : Condition} : c.Replaces cs cs' → Grows cs cs'
  | raw : Relation.ReflTransGen ReplacesRaw cs cs' → Grows cs cs'

theorem Grows.once (h : Grows cs cs') (hgroups : ∀ d ∈ cs, d.groupsKey k = false)
    (honce : cs.countP (hasKey k) ≤ 1) : cs'.countP (hasKey k) ≤ 1 := by
  cases h with
  | one h => exact h.once (fun _ => hgroups) honce
  | raw h =>
    -- By induction on the fragments: none of them has a name as its key.
    induction h with
    | refl => exact honce
    | tail _ hadd ih =>
      obtain ⟨c, ⟨sql, bindings, hraw⟩, hadd⟩ := hadd
      refine hadd.once (fun hc => ?_) ih
      rw [key_of_hasKey hc] at hraw
      cases hraw

end Condition

/-! ## Calls -/

/-- The `WHERE` conditions. -/
def Statements.filters (st : Statements) : List Condition := st.wheres.getD []

/-- A call of a method that adds conditions. -/
structure FilterCall where
  method : ConditionMethod
  args : List Operand

namespace FilterCall

/-- The call itself. -/
def perform (b : Nat) (call : FilterCall) : Action Output :=
  Call.perform (.builder (.condition call.method)) (some b) call.args

/-- Callbacks among the arguments mind the builder they are given. -/
def Minds (call : FilterCall) : Prop := ∀ op ∈ call.args, op.Minds

/-- The session after calls. A call that fails is followed by the next one. -/
def after (r : Reaction) (b : Nat) (calls : List FilterCall) (s : Session) : Session :=
  calls.foldl (fun s call => (runIn r (call.perform b) s).2) s

end FilterCall

section

open Relation Condition

variable {r : Reaction} {s : Session} {b : Nat} {x : Builder} {p : Value} {st : Statements}

theorem overwriting_addCondition (h : s.Overwriting b x p st) (list : ConditionList)
    (c : Condition) :
    ∃ st', (runIn r (addCondition b list c) s).2.Overwriting b x p st' ∧
      (st'.filters = st.filters ∨ c.Replaces st.filters st'.filters) := by
  have hrun := makes_addCondition list c r s x st h.toWorking h.prefixes h.overwrites
  cases hadded : st.addCondition? list true c with
  | none =>
    rw [carry, Statements.tried, hadded] at hrun
    have hrun : runIn r (addCondition b list c) s = _ := hrun
    rw [hrun]
    exact ⟨st, h.revised st, .inl rfl⟩
  | some st' =>
    rw [carry, Statements.tried, hadded] at hrun
    obtain ⟨a, -, hrun⟩ := hrun
    rw [hrun]
    refine ⟨st', h.revised st', ?_⟩
    obtain ⟨old, hold, hst'⟩ := Option.bind_eq_some_iff.1 hadded
    cases hst'
    cases list with
    | wheres => exact .inr ⟨old, hold, rfl⟩
    | havings | criteria => exact .inl rfl

/-- A condition on a name can always be added. -/
theorem runIn_addCondition_text (h : s.Overwriting b x p st) (k : String)
    (operator value joiner : Value) :
    runIn r (addCondition b .wheres (.plain (.text k) operator value joiner)) s =
      (.ok (), s.revised x.record (st.setConditions .wheres
        (st.filters.eraseP (concerns k) ++ [.plain (.text k) operator value joiner]))) := by
  have hadded : st.addCondition? .wheres true (.plain (.text k) operator value joiner) =
      some (st.setConditions .wheres
        (st.filters.eraseP (concerns k) ++ [.plain (.text k) operator value joiner])) := by
    show Statements.replaced? true (·.isAbout? (.text k)) st.filters >>= _ = _
    rw [replaced?_text]
    rfl
  have hcarry := h.carried (r := r) (makes_addCondition .wheres _)
    (carry_cons_ok (Statements.tried_some _ hadded))
  obtain ⟨a, -, hrun⟩ := hcarry
  exact hrun

/-- What adds a condition adds it to the `WHERE` conditions, or to others, or fails. -/
theorem overwriting_adding (h : s.Overwriting b x p st) {P : Condition → Prop} {act : Action Unit}
    (hact : Adding b P act) :
    ∃ st', (runIn r act s).2.Overwriting b x p st' ∧
      (st'.filters = st.filters ∨ ∃ c, P c ∧ c.Replaces st.filters st'.filters) := by
  obtain ⟨collect, hcollect, rfl⟩ := hact
  obtain ⟨hspared, hmeets⟩ := hcollect s r s (.refl s)
  rw [runIn_bind]
  generalize runIn r collect s = q at hspared hmeets
  obtain ⟨f | entry, s₁⟩ := q
  · exact ⟨st, h.spared hspared, .inl rfl⟩
  · obtain ⟨st', h', hadded⟩ := overwriting_addCondition (h.spared hspared) entry.1 entry.2
    exact ⟨st', h', hadded.imp_right fun hadded => ⟨entry.2, hmeets entry rfl, hadded⟩⟩

/-- Requests to compare columns add raw fragments one after another. -/
theorem overwriting_requests (h : s.Overwriting b x p st) (requests : List ColumnRequest) :
    ∃ st', (runIn r (requests.forM (addRequest b)) s).2.Overwriting b x p st' ∧
      ReflTransGen ReplacesRaw st.filters st'.filters := by
  induction requests generalizing s st with
  | nil => exact ⟨st, h, .refl⟩
  | cons request requests ih =>
    obtain ⟨st₁, h₁, hadded⟩ := overwriting_adding (r := r) h (adding_addRequest request)
    have hone : ReflTransGen ReplacesRaw st.filters st₁.filters := by
      obtain hsame | hadded := hadded
      · exact hsame ▸ .refl
      · exact .single hadded
    show ∃ st', (runIn r (addRequest b request >>= fun _ => requests.forM (addRequest b))
      s).2.Overwriting b x p st' ∧ _
    rw [runIn_bind]
    generalize runIn r (addRequest b request) s = q at h₁
    obtain ⟨f | _, s₁⟩ := q
    · exact ⟨st₁, h₁, hone⟩
    · obtain ⟨st₂, h₂, hrest⟩ := ih h₁
      exact ⟨st₂, h₂, hone.trans hrest⟩

/-- So it is with columns to compare. -/
theorem overwriting_column (h : s.Overwriting b x p st) (args : List Operand) :
    ∃ st', (runIn r (Call.condition b args .column) s).2.Overwriting b x p st' ∧
      ReflTransGen ReplacesRaw st.filters st'.filters := by
  have hasked := Call.value_bind args 0 fun first =>
    whereColumn b first ((args.drop 1).map Operand.plain)
  rw [Call.condition]
  obtain ⟨first, -, hasked⟩ | hasked := hasked
  · exact hasked ▸ overwriting_requests h _
  · exact hasked ▸ ⟨st, h, .refl⟩

namespace FilterCall

/-- With the right number of arguments the method is called. -/
theorem runIn_perform {call : FilterCall}
    (harity : (BuilderMethod.condition call.method).arity.allows call.args.length = true) :
    runIn r (call.perform b) s =
      ((runIn r (Call.condition b call.args call.method) s).1.map fun _ => .builder (some b),
        (runIn r (Call.condition b call.args call.method) s).2) := by
  have hcalled : call.perform b =
      Call.condition b call.args call.method >>= fun _ => pure (.builder (some b)) := by
    rw [perform, Call.perform_builder, if_pos harity]
    rfl
  rw [hcalled, runIn_bind]
  generalize runIn r (Call.condition b call.args call.method) s = q
  obtain ⟨_ | _, _⟩ := q <;> rfl

/-- What a call does to the `WHERE` conditions. -/
theorem grows (h : s.Overwriting b x p st) {call : FilterCall} (hcall : call.Minds) :
    ∃ st', (runIn r (call.perform b) s).2.Overwriting b x p st' ∧
      Grows st.filters st'.filters := by
  cases harity : (BuilderMethod.condition call.method).arity.allows call.args.length with
  | false =>
    rw [perform, Call.perform_builder, if_neg (by simp [harity])]
    exact ⟨st, h, .raw .refl⟩
  | true =>
    rw [runIn_perform harity]
    by_cases hcolumn : call.method = .column
    · rw [hcolumn]
      obtain ⟨st', h', hraw⟩ := overwriting_column (r := r) h call.args
      exact ⟨st', h', .raw hraw⟩
    · obtain ⟨st', h', hsame | ⟨c, -, hadded⟩⟩ := overwriting_adding (r := r) h
        (Call.adding_condition hcall fun h => absurd h hcolumn)
      · exact ⟨st', h', hsame ▸ .raw .refl⟩
      · exact ⟨st', h', .one hadded⟩

/-- After calls, as long as no group had the name among its keys, it is a key once at most. -/
theorem after_once (h : s.Overwriting b x p st) (hstart : st.filters = []) {k : String}
    {calls : List FilterCall} (hcalls : ∀ call ∈ calls, call.Minds) :
    ∃ st', (after r b calls s).Overwriting b x p st' ∧
      ((∀ earlier st₁, earlier <+: calls → (after r b earlier s).Working b x st₁ →
        ∀ c ∈ st₁.filters, c.groupsKey k = false) → st'.filters.countP (hasKey k) ≤ 1) := by
  induction calls using List.reverseRecOn with
  | nil => exact ⟨st, h, fun _ => by rw [hstart]; exact Nat.zero_le 1⟩
  | append_singleton calls call ih =>
    rw [List.forall_mem_append, List.forall_mem_singleton] at hcalls
    obtain ⟨st₁, h₁, honce⟩ := ih hcalls.1
    obtain ⟨st₂, h₂, hgrows⟩ := grows (r := r) h₁ hcalls.2
    refine ⟨st₂, ?_, fun hgroups => ?_⟩
    · rw [after, List.foldl_append]
      exact h₂
    · have hbefore := hgroups calls st₁ (List.prefix_append calls [call]) h₁.toWorking
      exact hgrows.once hbefore <| honce fun earlier st' hearlier =>
        hgroups earlier st' (hearlier.trans (List.prefix_append calls [call]))

/-- A `where` on a name, with what follows it. -/
def onName (joiner : Joiner) (k : String) (rest : List Operand) : FilterCall :=
  ⟨.compare joiner, .value (.text k) :: rest⟩

/-- The operator and the value among what follows the name. -/
def given (rest : List Operand) : Value × Value :=
  operands (rest[0]?.map Operand.plain) (rest[1]?.map Operand.plain)

/-- The condition is added as soon as its value is there. -/
theorem runIn_onName (h : s.Overwriting b x p st) {t : String} (ht : p.Puts t)
    (hkind : conditionList x.kind = .wheres) (joiner : Joiner) (k : String) {rest : List Operand}
    (hrest : rest.length ≤ 2) :
    (runIn r ((onName joiner k rest).perform b) s).1 =
        (runIn r (conditionValue (given rest).2) s).1.map (fun _ => .builder (some b)) ∧
      ∀ w, (runIn r (conditionValue (given rest).2) s).1 = .ok w →
        ∃ st', (runIn r ((onName joiner k rest).perform b) s).2.Overwriting b x p st' ∧
          st'.filters = st.filters.eraseP (concerns (fieldUnder t k)) ++
            [.plain (.text (fieldUnder t k)) (given rest).1 w (.text joiner.words)] := by
  have harity : (BuilderMethod.condition (onName joiner k rest).method).arity.allows
      (onName joiner k rest).args.length = true := by
    show (decide (1 ≤ rest.length + 1) && decide (rest.length + 1 ≤ 3)) = true
    rw [decide_eq_true (Nat.le_add_left 1 _), decide_eq_true (Nat.succ_le_succ hrest)]
    rfl
  have hadd : Call.condition b (onName joiner k rest).args (onName joiner k rest).method =
      addWhere b (.value (.text k)) (given rest).1 (given rest).2 joiner := rfl
  have hname : runIn r (conditionKey b (.value (.text k)) (given rest).1) s =
      (.ok (.text (fieldUnder t k)), s) := by
    show runIn r (addPrefix b (.text k) true) s = _
    rw [runIn_addPrefix_eq h.prefixes, ht.nameWith_fieldName]
  have hspared := (sparing_conditionValue (given rest).2 s r s (.refl s)).1
  rw [runIn_perform harity, hadd, addWhere, condition_parts, bind_assoc, runIn_bind_ok hname,
    bind_assoc, runIn_bind]
  generalize runIn r (conditionValue (given rest).2) s = q at hspared
  obtain ⟨f | w, s₁⟩ := q
  · exact ⟨rfl, fun _ hw => by cases hw⟩
  · have hs := h.spared hspared
    have hrun := runIn_addCondition_text (r := r) hs (fieldUnder t k) (given rest).1 w
      (.text joiner.words)
    dsimp only
    rw [pure_bind, runIn_bind_ok (runIn_builder hs.builder), hkind, hrun]
    refine ⟨rfl, fun w' hw => ?_⟩
    cases hw
    exact ⟨_, hs.revised _, rfl⟩

end FilterCall

/-- A further `where` on a name stands last. The conditions that were there stay in order, at any
depth, unless they have that key, or stand in a group one of whose own conditions has it. If no such
group has been among the conditions, the new one is the only one with the key. -/
theorem where_replaces {t k : String} {joiner : Joiner} {rest : List Operand}
    {calls : List FilterCall} (hs : s.Overwriting b x p st) (ht : p.Puts t)
    (hkind : conditionList x.kind = .wheres) (hstart : st.filters = [])
    (hcalls : ∀ call ∈ calls, call.Minds) (hrest : rest.length ≤ 2) :
    let s₁ := FilterCall.after r b calls s
    let q := runIn r ((FilterCall.onName joiner k rest).perform b) s₁
    let value := (runIn r (conditionValue (FilterCall.given rest).2) s₁).1
    let name := fieldUnder t k
    ∃ before, s₁.Overwriting b x p before ∧ q.1 = value.map (fun _ => .builder (some b)) ∧
      ∀ w, value = .ok w → ∃ now kept, q.2.Overwriting b x p now ∧
        now.filters =
          kept ++ [.plain (.text name) (FilterCall.given rest).1 w (.text joiner.words)] ∧
        kept.Sublist before.filters ∧
        (withinAll (before.filters.filter fun c => !c.concerns name)).Sublist (withinAll kept) ∧
        ((∀ earlier st', earlier <+: calls → (FilterCall.after r b earlier s).Working b x st' →
          ∀ c ∈ st'.filters, c.groupsKey name = false) →
          now.filters.countP (hasKey name) = 1) := by
  intro s₁ q value name
  obtain ⟨before, hbefore, honce⟩ := FilterCall.after_once (r := r) (k := name) hs hstart hcalls
  obtain ⟨hresult, hadded⟩ := FilterCall.runIn_onName (r := r) hbefore ht hkind joiner k hrest
  refine ⟨before, hbefore, hresult, fun w hw => ?_⟩
  obtain ⟨now, hnow, hfilters⟩ := hadded w hw
  refine ⟨now, _, hnow, hfilters, List.eraseP_sublist,
    withinAll_sublist (filter_sublist_eraseP _ _), fun hgroups => ?_⟩
  have hnone := countP_eraseP_concerns
    (hgroups calls before (List.prefix_refl calls) hbefore.toWorking) (honce hgroups)
  rw [hfilters, List.countP_append, hnone, List.countP_singleton,
    if_pos (hasKey_plain name _ w _)]

end

/-! ## Conditions that are replaced -/

/-- Conditions on a field after each other, around a group on that field and another. -/
def regrouping : List FilterCall :=
  [.onName .and "x" [.value (.int 1)],
    ⟨.compare .and, [.callback 0 fun g => do
      compare g .and (.value (.text "x")) (some (.int 2)) none
      compare g .and (.value (.text "y")) (some (.int 3)) none]⟩,
    .onName .and "x" [.value (.int 4)]]

/-- What is there before one more condition on the field. -/
def regrouped : Session := FilterCall.after (fun _ _ => pure ()) 0 regrouping overwriting

/-- What one more condition on the field makes of that: it replaces the group, not the condition. -/
def ungrouped : Session :=
  FilterCall.after (fun _ _ => pure ()) 0 [.onName .and "x" [.value (.int 5)]] regrouped

/-- Another field is lost with a group, and a key stands twice. -/
theorem ungrouped_loses :
    (∃ before, regrouped.Working 0 overwriter before ∧
      ∃ c ∈ Condition.withinAll before.filters, c.hasKey "y" = true) ∧
    ∃ now, ungrouped.Working 0 overwriter now ∧
      (∀ c ∈ Condition.withinAll now.filters, c.hasKey "y" = false) ∧
      now.filters.countP (Condition.hasKey "x") = 2 := by
  have hbefore : (regrouped.builders[0]?, regrouped.records[0]?.map Statements.filters) =
      (some overwriter, some [.plain (.group [.plain (.text "x") (.text "=") (.int 2) (.text "AND"),
          .plain (.text "y") (.text "=") (.int 3) (.text "AND")]) .null .null (.text "AND"),
        .plain (.text "x") (.text "=") (.int 4) (.text "AND")]) := by cbv
  have hnow : (ungrouped.builders[0]?, ungrouped.records[0]?.map Statements.filters) =
      (some overwriter, some [.plain (.text "x") (.text "=") (.int 4) (.text "AND"),
        .plain (.text "x") (.text "=") (.int 5) (.text "AND")]) := by cbv
  obtain ⟨hbuilder, hbefore⟩ := Prod.mk.inj hbefore
  obtain ⟨hbuilder', hnow⟩ := Prod.mk.inj hnow
  obtain ⟨before, hrecord, hbefore⟩ := Option.map_eq_some_iff.1 hbefore
  obtain ⟨now, hrecord', hnow⟩ := Option.map_eq_some_iff.1 hnow
  refine ⟨⟨before, ⟨hbuilder, hrecord⟩, ?_⟩, now, ⟨hbuilder', hrecord'⟩, ?_⟩
  · rw [hbefore]
    exact ⟨_, .tail _ (.tail _ (.head _)), rfl⟩
  · rw [hnow]
    exact ⟨by simp [Condition.withinAll, Condition.within, Condition.plain, Value.within,
      Condition.hasKey], rfl⟩

/-- A condition on a field of a table, and a group with one on another. -/
def filtering : List FilterCall :=
  [.onName .and "t.a" [.value (.int 1)],
    ⟨.compare .or, [.callback 0 fun g => compare g .and (.value (.text "y")) (some (.int 2)) none]⟩]

theorem where_replaces_of_field :
    ∃ now, (runIn (fun _ _ => pure ())
        ((FilterCall.onName .and "t.a" [.value (.int 3)]).perform 0)
        (FilterCall.after (fun _ _ => pure ()) 0 filtering overwriting)).2.Overwriting 0 overwriter
          (.text "p_") now ∧
      now.filters.getLast? =
        some (.plain (.text "p_t.a") (.text "=") (.int 3) (.text "AND")) ∧
      now.filters.countP (Condition.hasKey "p_t.a") = 1 ∧
      ∃ c ∈ Condition.withinAll now.filters, c.hasKey "y" = true := by
  have hminds : ∀ call ∈ filtering, call.Minds := by
    simp only [filtering, FilterCall.onName, FilterCall.Minds, List.forall_mem_cons]
    exact ⟨⟨trivial, trivial, List.forall_mem_nil _⟩,
      ⟨.of_adding fun g => adding_addWhere (Operand.minds_value _) _ _ _, List.forall_mem_nil _⟩,
      List.forall_mem_nil _⟩
  obtain ⟨before, hbefore, -, hadded⟩ := @where_replaces (fun _ _ => pure ())
    overwriting 0 overwriter (.text "p_") .empty "p_" "t.a" .and [.value (.int 3)] filtering
    ⟨⟨rfl, rfl⟩, by cbv, rfl⟩ (.inl rfl) rfl rfl hminds (by simp)
  obtain ⟨now, kept, hnow, hfilters, -, hkept, honce⟩ := hadded (.int 3) rfl
  have hname : fieldUnder "p_" "t.a" = "p_t.a" := by cbv
  rw [hname] at hfilters hkept honce
  have hfound : (FilterCall.after (fun _ _ => pure ()) 0 filtering overwriting).records[0]?.map
      Statements.filters = some [.plain (.text "p_t.a") (.text "=") (.int 1) (.text "AND"),
        .plain (.group [.plain (.text "y") (.text "=") (.int 2) (.text "AND")]) .null .null
          (.text "OR")] := by cbv
  let keyless (st : Statements) : Bool := st.filters.all fun c => !c.groupsKey "p_t.a"
  have hungrouped : (filtering.inits.all fun earlier =>
      (FilterCall.after (fun _ _ => pure ()) 0 earlier overwriting).records[0]?.all keyless) =
        true := by cbv
  have hrecord : (FilterCall.after (fun _ _ => pure ()) 0 filtering overwriting).records[0]? =
    some before := hbefore.record
  rw [hrecord] at hfound
  refine ⟨now, hnow, ?_, honce ?_, ?_⟩
  · rw [hfilters, List.getLast?_concat]
    rfl
  · intro earlier st' hearlier hst' c hc
    have hstate := List.all_eq_true.1 hungrouped earlier ((List.mem_inits earlier _).2 hearlier)
    have hst' : (FilterCall.after (fun _ _ => pure ()) 0 earlier overwriting).records[0]? =
      some st' := hst'.record
    rw [hst'] at hstate
    simpa using List.all_eq_true.1 hstate c hc
  · rw [Option.some.inj hfound] at hkept
    refine ⟨.plain (.text "y") (.text "=") (.int 2) (.text "AND"), ?_, rfl⟩
    rw [hfilters, Condition.withinAll_eq, List.flatMap_append, List.mem_append,
      ← Condition.withinAll_eq]
    exact .inl (hkept.subset (.tail _ (.head _)))

end SqlBuilder
