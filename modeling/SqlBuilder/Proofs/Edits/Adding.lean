import SqlBuilder.Program.Call
import SqlBuilder.Proofs.Edits.Sparing

/-!
# Calls that add conditions

A call of the `where` and `having` families first collects a condition, which leaves alone what was
there, and then adds it to a list of the builder (`Adding`). So it is with each method and arguments
of any kind (`Call.adding_condition`), unless columns to compare are given in a list: such a call
does so request by request, and what it adds are raw fragments (`adding_addRequest`).
-/

set_option autoImplicit false

namespace SqlBuilder

open Session Builder

variable {α : Type}

/-- The action collects a condition that meets `P` and adds it to a list of the builder. -/
def Adding (b : Nat) (P : Condition → Prop) (act : Action Unit) : Prop :=
  ∃ collect : Action (ConditionList × Condition),
    (∀ s₀, Keeps (Spared s₀) (fun entry => P entry.2) collect) ∧
      act = collect >>= fun entry => addCondition b entry.1 entry.2

/-- Any condition. -/
def Whatever (_ : Condition) : Prop := True

/-- The key is a raw fragment. -/
def Condition.IsRaw (c : Condition) : Prop := ∃ sql bindings, c.key = .raw sql bindings

namespace Adding

variable {b : Nat} {P : Condition → Prop}

theorem mono {Q : Condition → Prop} {act : Action Unit} (h : Adding b P act)
    (hpq : ∀ c, P c → Q c) : Adding b Q act := by
  obtain ⟨collect, hcollect, rfl⟩ := h
  exact ⟨collect, fun s₀ => (hcollect s₀).mono fun entry h => hpq entry.2 h, rfl⟩

/-- Something is done first that leaves alone what was there. -/
theorem after {x : Action α} {k : α → Action Unit} (hx : Sparing x) (hk : ∀ a, Adding b P (k a)) :
    Adding b P (x >>= k) := by
  unfold Adding at hk
  choose collect hcollect hadd using hk
  refine ⟨x >>= collect, fun s₀ => (hx s₀).bind fun a _ => hcollect a s₀, ?_⟩
  rw [bind_assoc]
  exact bind_congr hadd

/-- Nothing is added where nothing is collected. -/
theorem throw (f : Fault) : Adding b P (throw f) :=
  ⟨MonadExcept.throw f, fun _ _ _ hs => ⟨hs, fun _ h => by cases h⟩, rfl⟩

end Adding

/-- Adding a condition to a new builder leaves alone what was there. -/
theorem Minding.of_adding {f : Nat → Action Unit} {P : Condition → Prop}
    (h : ∀ g, Adding g P (f g)) : Minding f := by
  intro r s₀ g s hs
  obtain ⟨collect, hcollect, hf⟩ := h g
  have hspared := (hcollect s r s (.refl s)).1
  rw [hf, runIn_bind]
  generalize runIn r collect s = q at hspared
  obtain ⟨f | entry, s₁⟩ := q
  · exact hs.toSpared.trans hspared
  · exact minding_addCondition entry.1 entry.2 r s₀ g s₁ (hs.spared hspared)

namespace Builder

variable {b : Nat}

section

variable {key : Operand} (hkey : key.Minds)
include hkey

theorem adding_addWhere (operator value : Value) (joiner : Joiner) :
    Adding b Whatever (addWhere b key operator value joiner) := by
  refine ⟨do
    let c ← condition b key operator value (.text joiner.words)
    let x ← builder b
    pure (conditionList x.kind, c), fun s₀ => ?_, by simp [addWhere]⟩
  exact ((sparing_condition b hkey _ _ _).bind fun _ => (reads_builder b).sparing.bind fun _ =>
    .pure _) s₀

theorem adding_having (operator value : Option Value) (joiner : Value) :
    Adding b Whatever (having b key operator value joiner) := by
  refine ⟨do
    let c ← condition b key (operands operator value).1 (operands operator value).2 joiner
    pure (.havings, c), fun s₀ => ?_, by simp [having]⟩
  exact ((sparing_condition b hkey _ _ _).bind fun _ => .pure _) s₀

theorem adding_among (negated : Bool) (joiner : Joiner) (values : Value) :
    Adding b Whatever (among b negated joiner key values) := by
  have hadd (values : Value) :
      Adding b Whatever (addWhere b key (negatable negated "IN") values joiner) :=
    adding_addWhere hkey _ _ joiner
  unfold among
  split
  · exact .after (.pure _) hadd
  · exact .after (.pure _) hadd
  · exact .after (Reads.ofResult _).sparing fun _ => .after (.pure _) hadd

end

/-- A raw fragment gets no prefix. -/
theorem adding_addRaw (sql : String) (bindings : List Value) :
    Adding b Condition.IsRaw (addRaw b sql bindings) := by
  have hkey (s₀ : Session) : Keeps (Spared s₀) (fun v => v = .raw sql bindings)
      (addPrefix b (.raw sql bindings) true) := by
    intro r s hs
    rw [runIn_addPrefix_eq rfl]
    refine ⟨hs, fun v hv => ?_⟩
    obtain ⟨p, -, hv⟩ := bind_ok hv
    unfold prefixed at hv
    split at hv <;> cases hv <;> rfl
  have hcondition (s₀ : Session) : Keeps (Spared s₀) Condition.IsRaw
      (condition b (.value (.raw sql bindings)) .null .null (.text Joiner.and.words)) :=
    (hkey s₀).bind fun v hv => .bind (Q := fun _ => True) (.pure trivial) fun _ _ =>
      .pure ⟨sql, bindings, hv⟩
  refine ⟨do
    let c ← condition b (.value (.raw sql bindings)) .null .null (.text Joiner.and.words)
    let x ← builder b
    pure (conditionList x.kind, c), fun s₀ => ?_, by simp [addRaw, addWhere]⟩
  exact (hcondition s₀).bind fun _ hc => (reads_builder b).keeps.bind fun _ _ => .pure hc

theorem adding_whereExists {callback : Operand} (h : callback.Minds) :
    Adding b Condition.IsRaw (whereExists b callback) := by
  have hcollect : Sparing (newQuery b >>= fun target => callback.apply target >>= fun _ =>
      compileSelect target) := by
    rw [newQuery, bind_assoc]
    exact .onNew b .query .empty <| (Minding.apply h).bind fun _ target => .compileAs target _ []
  have hexists := Adding.after hcollect fun q =>
    adding_addRaw (b := b) ("EXISTS (" ++ q.sql.toText ++ ")") q.rawBindings
  simp only [bind_assoc] at hexists
  exact hexists

theorem adding_addRequest (request : ColumnRequest) :
    Adding b Condition.IsRaw (addRequest b request) := by
  cases request with
  | comparison first operator second =>
    exact .after (reads_adapterOf b).sparing fun _ => adding_addRaw _ _
  | malformed => exact .throw _

/-- One request adds one condition at most. -/
theorem adding_whereColumn {first : Value} {rest : List Value}
    (hfirst : ∀ rows, first ≠ .list rows ∧ first ≠ .tuple rows) :
    Adding b Condition.IsRaw (whereColumn b first rest) := by
  have hone : columnRequests first rest = [columnRequest first rest] := by
    unfold columnRequests
    split
    · exact absurd rfl (hfirst _).1
    · exact absurd rfl (hfirst _).2
    · rfl
  have hwhole : whereColumn b first rest = addRequest b (columnRequest first rest) := by
    rw [whereColumn, hone]
    simp
  rw [hwhole]
  exact adding_addRequest _

end Builder

namespace Call

variable {b : Nat} {args : List Operand} {P : Condition → Prop}

/-- An argument that must be there is one of the arguments. -/
theorem operand_bind (args : List Operand) (i : Nat) (k : Operand → Action α) :
    (∃ op ∈ args, operand args i >>= k = k op) ∨
      operand args i >>= k = throw (.misuse .wrongType) := by
  unfold operand
  split
  · rename_i op hop
    exact .inl ⟨op, List.mem_of_getElem? hop, pure_bind op k⟩
  · exact .inr rfl

theorem value_bind (args : List Operand) (i : Nat) (k : Value → Action α) :
    (∃ v, value? args i = some v ∧ value args i >>= k = k v) ∨
      value args i >>= k = throw (.misuse .wrongType) := by
  unfold value operand value?
  split
  · rename_i op hop
    exact .inl ⟨op.plain, by rw [hop]; rfl, rfl⟩
  · exact .inr rfl

/-- A method is called with the right number of arguments only. -/
theorem perform_builder (m : BuilderMethod) (b : Nat) (args : List Operand) :
    perform (.builder m) (some b) args =
      if m.arity.allows args.length then builder m b args else throw (.misuse .wrongType) := by
  unfold perform
  cases harity : m.arity.allows args.length with
  | true =>
    rw [if_neg (by simp [Method.arity, harity])]
    rfl
  | false =>
    rw [if_pos (by simp [Method.arity, harity])]
    rfl

theorem adding_operand (hargs : ∀ op ∈ args, op.Minds) {k : Operand → Action Unit} (i : Nat)
    (hk : ∀ op : Operand, op.Minds → Adding b P (k op)) : Adding b P (operand args i >>= k) := by
  obtain ⟨op, hop, h⟩ | h := operand_bind args i k
  · exact h ▸ hk op (hargs op hop)
  · exact h ▸ .throw _

theorem adding_value {k : Value → Action Unit} (i : Nat)
    (hk : ∀ v, value? args i = some v → Adding b P (k v)) : Adding b P (value args i >>= k) := by
  obtain ⟨v, hv, h⟩ | h := value_bind args i k
  · exact h ▸ hk v hv
  · exact h ▸ .throw _

/-- The columns to compare are given in a list of requests. -/
def ListsColumns (args : List Operand) : Prop :=
  ∃ rows, value? args 0 = some (.list rows) ∨ value? args 0 = some (.tuple rows)

/-- A call that adds a condition collects it first. -/
theorem adding_condition (hargs : ∀ op ∈ args, op.Minds) {m : ConditionMethod}
    (hm : m = .column → ¬ ListsColumns args) : Adding b Whatever (condition b args m) := by
  have hraw {act : Action Unit} (h : Adding b Condition.IsRaw act) : Adding b Whatever act :=
    h.mono fun _ _ => trivial
  cases m with
  | compare joiner => exact adding_operand hargs 0 fun key hkey => adding_addWhere hkey _ _ joiner
  | raw => exact adding_value 0 fun _ _ => adding_addWhere (Operand.minds_value _) _ _ _
  | among negated joiner =>
    exact adding_operand hargs 0 fun key hkey => adding_value 1 fun values _ =>
      adding_among hkey negated joiner values
  | between negated joiner =>
    exact adding_operand hargs 0 fun key hkey => adding_value 1 fun _ _ =>
      adding_value 2 fun _ _ => adding_addWhere hkey _ _ _
  | dateBetween negated =>
    exact adding_operand hargs 0 fun key hkey => adding_value 1 fun _ _ =>
      adding_value 2 fun _ _ => .after (reads_adapterOf b).sparing fun _ =>
        adding_addWhere hkey _ _ _
  | isNull negated joiner =>
    exact adding_operand hargs 0 fun key hkey => adding_addWhere hkey _ _ _
  | like negated | startsWith =>
    exact adding_operand hargs 0 fun key hkey => adding_value 1 fun _ _ =>
      adding_addWhere hkey _ _ _
  | search => exact adding_operand hargs 0 fun key hkey => adding_addWhere hkey _ _ _
  | rowsExist =>
    exact adding_operand hargs 0 fun callback h => hraw (adding_whereExists h)
  | column =>
    refine adding_value 0 fun first hfirst => hraw (adding_whereColumn fun rows => ⟨?_, ?_⟩)
    · rintro rfl
      exact hm rfl ⟨rows, .inl hfirst⟩
    · rintro rfl
      exact hm rfl ⟨rows, .inr hfirst⟩
  | datePart part =>
    exact adding_value 0 fun _ _ => adding_value 1 fun _ _ => .after (reads_adapterOf b).sparing
      fun _ => hraw (adding_addRaw _ _)
  | having | orHaving => exact adding_operand hargs 0 fun key hkey => adding_having hkey _ _ _
  | havingRaw => exact adding_value 0 fun _ _ => adding_having (Operand.minds_value _) _ _ _

end Call

end SqlBuilder
