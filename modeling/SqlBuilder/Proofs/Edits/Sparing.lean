import SqlBuilder.Proofs.Edits.Carrying
import SqlBuilder.Proofs.Frame.Reads

/-!
# Leaving alone what was there

Builders and statements that were there are there still, and the builders find the prefix that they
found (`Session.Spared`). So it is after what looks things up, compiles, and collects conditions by
a callback that `Minds` the builder it is given (`Sparing`). A builder in overwrite mode then works
on the same statements as before (`Session.Overwriting`).
-/

set_option autoImplicit false

namespace SqlBuilder

open Session Builder

variable {α β : Type}

/-! ## What was there -/

namespace Session

/-- Builders and statements that were there are there still, and so is the prefix of a builder. -/
structure Spared (s₀ s : Session) : Prop where
  builders : ∀ (b : Nat) (x : Builder), s₀.builders[b]? = some x → s.builders[b]? = some x
  prefixes : ∀ (b : Nat) (x : Builder), s₀.builders[b]? = some x → s.prefixFor b = s₀.prefixFor b
  records : ∀ (n : Nat) (st : Statements), s₀.records[n]? = some st → s.records[n]? = some st

/-- Besides, there is a new builder with new statements. -/
structure Beside (s₀ : Session) (g : Nat) (s : Session) : Prop extends Spared s₀ s where
  new : ∃ y st, s.Working g y st ∧ s₀.records[y.record]? = none

variable {s₀ s : Session} {b g : Nat} {x : Builder} {st : Statements}

theorem Spared.refl (s : Session) : Spared s s :=
  ⟨fun _ _ h => h, fun _ _ _ => rfl, fun _ _ h => h⟩

theorem Spared.trans {s' : Session} (h : Spared s₀ s) (h' : Spared s s') : Spared s₀ s' where
  builders b x hx := h'.builders b x (h.builders b x hx)
  prefixes b x hx := (h'.prefixes b x (h.builders b x hx)).trans (h.prefixes b x hx)
  records n st hst := h'.records n st (h.records n st hst)

theorem Spared.working (h : Spared s₀ s) (hx : s₀.Working b x st) : s.Working b x st :=
  ⟨h.builders b x hx.builder, h.records _ st hx.record⟩

theorem Beside.spared {s' : Session} (h : Beside s₀ g s) (h' : Spared s s') : Beside s₀ g s' := by
  obtain ⟨hspared, y, st, hworking, hnew⟩ := h
  exact ⟨hspared.trans h', y, st, h'.working hworking, hnew⟩

/-- The prefix that a builder finds stays while a session grows. -/
theorem Grown.prefixFor_eq (h : Grown s₀ s) (hx : s₀.builders[b]? = some x) :
    s.prefixFor b = s₀.prefixFor b := by
  rw [prefixFor, prefixFor, hx, h.builders b x hx, h.connections]
  dsimp only
  cases x.connection with
  | none => rfl
  | some c =>
    dsimp only
    cases s₀.connections[c]? with
    | none => rfl
    | some conn => exact h.prefixOf_eq conn

theorem Spared.withBuilder (h : Spared s₀ s) (c : Nat) (kind : BuilderKind) (st : Statements) :
    Beside s₀ s.builders.size (s.withBuilder c kind st) := by
  have hgrown := grown_withBuilder s c kind st
  refine ⟨⟨fun b x hx => hgrown.builders b x (h.builders b x hx),
    fun b x hx => (hgrown.prefixFor_eq (h.builders b x hx)).trans (h.prefixes b x hx),
    fun n st hst => hgrown.records n st (h.records n st hst)⟩,
    { connection := some c, record := s.records.size, kind }, st,
    ⟨Array.getElem?_push_size, Array.getElem?_push_size⟩, ?_⟩
  cases hrecord : s₀.records[s.records.size]? with
  | none => rfl
  | some st => exact absurd (Array.getElem?_eq_some_iff.1 (h.records _ st hrecord)).1 (by simp)

/-- New statements may change. -/
theorem Spared.revised (h : Spared s₀ s) {n : Nat} (hn : s₀.records[n]? = none) (st : Statements) :
    Spared s₀ (s.revised n st) where
  builders := h.builders
  prefixes := h.prefixes
  records m st' hst' := by
    have hne : n ≠ m := by
      rintro rfl
      rw [hn] at hst'
      cases hst'
    rw [Session.revised, Array.getElem?_modify, if_neg hne]
    exact h.records m st' hst'

end Session

namespace Session

/-- A builder in overwrite mode, with the prefix that it finds and the statements it works on. -/
structure Overwriting (s : Session) (b : Nat) (x : Builder) (p : Value) (st : Statements) : Prop
    extends s.Working b x st where
  prefixes : s.prefixFor b = .ok p
  overwrites : x.overwrite.isTrue = true

namespace Overwriting

variable {r : Reaction} {s s' : Session} {b : Nat} {x : Builder} {p : Value} {st : Statements}

theorem spared (h : s.Overwriting b x p st) (hspared : s.Spared s') : s'.Overwriting b x p st :=
  ⟨hspared.working h.toWorking, (hspared.prefixes b x h.builder).trans h.prefixes, h.overwrites⟩

theorem revised (h : s.Overwriting b x p st) (st' : Statements) :
    (s.revised x.record st').Overwriting b x p st' :=
  ⟨h.toWorking.revised st', h.prefixes, h.overwrites⟩

/-- Edits that succeed are carried out. -/
theorem carried {es : List Edit} {y : Result α} {act : Action α} {st' : Statements}
    (h : s.Overwriting b x p st) (hact : Makes b (.ok p) true es y act)
    (hcarry : carry es st = (.ok (), st')) :
    ∃ a, y = .ok a ∧ runIn r act s = (.ok a, s.revised x.record st') := by
  have hrun := hact r s x st h.toWorking h.prefixes h.overwrites
  rw [hcarry] at hrun
  exact hrun

end Overwriting

end Session

/-- What is done with a new builder leaves alone what was there. -/
def Minding (f : Nat → Action α) : Prop :=
  ∀ r s₀ g s, Beside s₀ g s → Spared s₀ (runIn r (f g) s).2

/-- A callback minds the builder it is given. -/
def Operand.Minds : Operand → Prop
  | .value _ => True
  | .callback _ f => Minding f

theorem Operand.minds_value (v : Value) : (Operand.value v).Minds := trivial

/-- Making edits on a new builder leaves alone what was there. -/
theorem Minding.of_makes {f : Nat → Action α}
    (h : ∀ g p ow, ∃ es y, Makes g p ow es y (f g)) : Minding f := by
  rintro r s₀ g s ⟨hspared, y, st, hworking, hnew⟩
  obtain ⟨es, z, hmakes⟩ := h g (s.prefixFor g) y.overwrite.isTrue
  have hrun := hmakes r s y st hworking rfl rfl
  generalize carry es st = q at hrun
  obtain ⟨_ | _, st'⟩ := q
  · have hrun : runIn r (f g) s = _ := hrun
    rw [hrun]
    exact hspared.revised hnew st'
  · obtain ⟨a, -, hrun⟩ := hrun
    rw [hrun]
    exact hspared.revised hnew st'

/-- What is looked up first changes nothing. -/
theorem Minding.after {x : Nat → Action α} {k : α → Nat → Action β} (hx : ∀ g, Reads (x g))
    (hk : ∀ a, Minding (k a)) : Minding fun g => x g >>= fun a => k a g := by
  intro r s₀ g s hs
  have hread := hx g r s
  rw [runIn_bind]
  generalize runIn r (x g) s = q at hread
  obtain ⟨_ | a, s'⟩ := q
  · exact hread ▸ hs.toSpared
  · have hsame : s' = s := hread
    exact hk a r s₀ g s' (hsame ▸ hs)

theorem Minding.apply {op : Operand} (h : op.Minds) : Minding op.apply := by
  cases op with
  | value v => exact fun _ _ _ _ hs => hs.toSpared
  | callback identity f => exact h

/-- The action leaves alone what was there. -/
def Sparing (act : Action α) : Prop := ∀ s₀, Keeps (Spared s₀) (fun _ => True) act

theorem Session.Reads.sparing {act : Action α} (h : Reads act) : Sparing act := fun _ => h.keeps

namespace Sparing

theorem bind {x : Action α} {k : α → Action β} (hx : Sparing x) (hk : ∀ a, Sparing (k a)) :
    Sparing (x >>= k) :=
  fun s₀ => (hx s₀).bind fun a _ => hk a s₀

theorem pure (a : α) : Sparing (Pure.pure a) := (Reads.pure a).sparing

/-- Something is done with a new builder. -/
theorem onNew {k : Nat → Action α} (b : Nat) (kind : BuilderKind) (st : Statements)
    (hk : Minding k) : Sparing (connectionOf b >>= fun c => newBuilder c kind st >>= k) :=
  (reads_connectionOf b).sparing.bind fun c s₀ r s hs => by
    rw [runIn_bind_ok runIn_newBuilder]
    exact ⟨hk r s₀ _ _ (hs.withBuilder c kind st), fun _ _ => trivial⟩

theorem compileAs (b : Nat) (op : Result Operation) (payload : List Value) :
    Sparing (compileAs b op payload) := by
  have hlog (level : LogLevel) (logger message : String) : Sparing (log level logger message) :=
    fun _ => .modified fun _ hs => ⟨hs.builders, hs.prefixes, hs.records⟩
  exact (reads_adapterOf b).sparing.bind fun _ => (Reads.ofResult op).sparing.bind fun _ =>
    (reads_statementsOf b).sparing.bind fun _ => (Reads.ofResult _).sparing.bind fun _ =>
      (hlog _ _ _).bind fun _ => .pure _

theorem subQuery (b : Nat) (name : Value) : Sparing (subQuery b name) :=
  (compileAs b _ []).bind fun _ => .pure _

end Sparing

theorem Minding.bind {f : Nat → Action α} {k : α → Nat → Action β} (hf : Minding f)
    (hk : ∀ a g, Sparing (k a g)) : Minding fun g => f g >>= fun a => k a g := by
  intro r s₀ g s hs
  have hspared := hf r s₀ g s hs
  rw [runIn_bind]
  generalize runIn r (f g) s = q at hspared
  obtain ⟨_ | a, s'⟩ := q
  · exact hspared
  · exact (hk a g s₀ r s' hspared).1

namespace Builder

theorem minding_addCondition (list : ConditionList) (c : Condition) :
    Minding fun g => addCondition g list c :=
  .of_makes fun _ _ _ => ⟨_, _, makes_addCondition list c⟩

theorem minding_on (key operator value joiner : Value) :
    Minding fun g => on g key operator value joiner :=
  .after (fun g => reads_addPrefix g key true) fun _ =>
    .after (fun g => reads_addPrefix g value true) fun _ => minding_addCondition _ _

theorem minding_onShared (columns : Value) : Minding fun g => onShared g columns := by
  unfold onShared
  split
  · exact .after (fun _ => .pure _) fun _ => minding_addCondition _ _
  · exact .after (fun _ => .ofResult _) fun _ => minding_addCondition _ _

theorem sparing_collected (b : Nat) (kind : BuilderKind) {callback : Nat → Action Unit}
    (h : Minding callback) : Sparing (collected b kind callback) :=
  .onNew b kind .empty <| h.bind fun _ g => (reads_statementsOf g).sparing.bind fun _ => .pure _

theorem sparing_conditionValue (v : Value) : Sparing (conditionValue v) := by
  cases v with
  | builder id kind => exact .subQuery id .null
  | _ => exact .pure _

theorem sparing_condition (b : Nat) {key : Operand} (hkey : key.Minds)
    (operator value joiner : Value) : Sparing (condition b key operator value joiner) := by
  have hname : Sparing (addPrefix b key.plain true) := (reads_addPrefix b _ _).sparing
  have hgiven : Sparing (conditionKey b key operator) := by
    cases key with
    | value v => exact hname
    | callback identity f =>
      cases operator with
      | null => exact (sparing_collected b _ hkey).bind fun cs => .pure _
      | _ => exact hname
  rw [condition_parts]
  exact hgiven.bind fun key => (sparing_conditionValue value).bind fun value => .pure _

end Builder

end SqlBuilder
