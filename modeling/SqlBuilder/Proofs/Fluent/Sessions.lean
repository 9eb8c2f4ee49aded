import SqlBuilder.Builder.Conditions
import SqlBuilder.Proofs.Fluent.Edits

/-!
# Aligned sessions

In an aligned session (`Session.Aligned`) each builder works on the connection, and on aligned
statements that no other builder works on. `Held` are the builders a program has at hand.

What a builder's method is made of keeps a session aligned: editing statements
(`keeps_edit`, `keeps_change`, `keeps_tryEdit`), making a builder (`keeps_newBuilder`) and reading.
`keeps_subQuery`: a subquery has a value for each placeholder.
-/

set_option autoImplicit false

namespace SqlBuilder

open Value Placeholder Builder

namespace Session

/-- Each builder works on the connection and on aligned statements of its own. The prefix of the
connection is a quiet text, if it is a text. -/
structure Aligned (c : Nat) (conn : Connection) (held : Held) (s : Session) : Prop where
  connection : s.connections[c]? = some conn
  worded : ∀ p, s.prefixOf conn = .ok p → p.Worded
  held : ∀ e ∈ held, ∃ x : Builder, s.builders[e.1]? = some x ∧ x.kind = e.2
  builders : ∀ (b : Nat) (x : Builder), s.builders[b]? = some x → x.connection = some c ∧
    ∃ st : Statements, s.records[x.record]? = some st ∧ st.Aligned x.kind
  apart : ∀ (b b' : Nat) (x x' : Builder), s.builders[b]? = some x → s.builders[b']? = some x' →
    x.record = x'.record → b = b'

variable {α : Type} {c : Nat} {conn : Connection} {held : Held} {s : Session} {b : Nat}
  {kind : BuilderKind}

namespace Aligned

theorem opened (h : Aligned c conn held s) {x : Builder} (hx : s.builders[b]? = some x) :
    s.Open b c conn :=
  ⟨x, hx, (h.builders b x hx).1, h.connection⟩

/-- Fewer builders may be at hand. -/
theorem weaken {held' : Held} (h : Aligned c conn held' s) (hheld : ∀ e ∈ held, e ∈ held') :
    Aligned c conn held s :=
  { h with held := fun e he => h.held e (hheld e he) }

/-- The statements of a builder may be edited. -/
theorem edited (h : Aligned c conn held s) {x : Builder} (hx : s.builders[b]? = some x)
    {f : Statements → Statements} (hf : ∀ st, st.Aligned x.kind → (f st).Aligned x.kind) :
    Aligned c conn held { s with records := s.records.modify x.record f } := by
  refine { h with builders := fun b' x' hx' => ?_ }
  obtain ⟨hconn, st, hst, haligned⟩ := h.builders b' x' hx'
  refine ⟨hconn, ?_⟩
  rw [Array.getElem?_modify]
  split
  · rename_i hrecord
    obtain rfl := h.apart b b' x x' hx hx' hrecord
    obtain rfl : x = x' := Option.some_inj.1 (hx.symm.trans hx')
    exact ⟨f st, by rw [hst]; rfl, hf st haligned⟩
  · exact ⟨st, hst, haligned⟩

/-- A builder may be changed apart from its connection, its statements and its kind. -/
theorem updated (h : Aligned c conn held s) {f : Builder → Builder}
    (hf : ∀ x, (f x).connection = x.connection ∧ (f x).record = x.record ∧ (f x).kind = x.kind) :
    Aligned c conn held { s with builders := s.builders.modify b f } := by
  -- each builder is one that was there, apart from what may be changed
  have hback : ∀ (b' : Nat) (x' : Builder), (s.builders.modify b f)[b']? = some x' →
      ∃ x : Builder, s.builders[b']? = some x ∧
        x'.connection = x.connection ∧ x'.record = x.record ∧ x'.kind = x.kind := by
    intro b' x' hx'
    rw [Array.getElem?_modify] at hx'
    split at hx'
    · obtain ⟨x, hx, rfl⟩ := Option.map_eq_some_iff.1 hx'
      exact ⟨x, hx, hf x⟩
    · exact ⟨x', hx', rfl, rfl, rfl⟩
  refine { h with held := fun e he => ?_, builders := fun b' x' hx' => ?_, apart := ?_ }
  · obtain ⟨x, hx, hkind⟩ := h.held e he
    show ∃ x : Builder, (s.builders.modify b f)[e.1]? = some x ∧ x.kind = e.2
    rw [Array.getElem?_modify]
    split
    · exact ⟨f x, by rw [hx]; rfl, (hf x).2.2.trans hkind⟩
    · exact ⟨x, hx, hkind⟩
  · obtain ⟨x, hx, hconn, hrecord, hkind⟩ := hback b' x' hx'
    obtain ⟨hc, st, hst, haligned⟩ := h.builders b' x hx
    exact ⟨hconn.trans hc, st, hrecord ▸ hst, hkind ▸ haligned⟩
  · intro b₁ b₂ x₁ x₂ h₁ h₂ hsame
    obtain ⟨y₁, hy₁, -, hrecord₁, -⟩ := hback b₁ x₁ h₁
    obtain ⟨y₂, hy₂, -, hrecord₂, -⟩ := hback b₂ x₂ h₂
    exact h.apart b₁ b₂ y₁ y₂ hy₁ hy₂ (hrecord₁.symm.trans (hsame.trans hrecord₂))

/-- A fresh builder may be made, which is at hand then. -/
theorem withBuilder (h : Aligned c conn held s) (kind : BuilderKind) :
    Aligned c conn ((s.builders.size, kind) :: held) (s.withBuilder c kind .empty) := by
  have hgrown := grown_withBuilder s c kind .empty
  have hnew : (s.withBuilder c kind .empty).builders[s.builders.size]? =
      some { connection := some c, record := s.records.size, kind } := Array.getElem?_push_size
  have hcases : ∀ (b : Nat) (x : Builder), (s.withBuilder c kind .empty).builders[b]? = some x →
      s.builders[b]? = some x ∨
        (b = s.builders.size ∧ x = { connection := some c, record := s.records.size, kind }) := by
    intro b x hx
    have hx : (s.builders.push _)[b]? = some x := hx
    rw [Array.getElem?_push] at hx
    split at hx
    · exact .inr ⟨‹_›, (Option.some_inj.1 hx).symm⟩
    · exact .inl hx
  have hlt : ∀ (b : Nat) (x : Builder), s.builders[b]? = some x → x.record < s.records.size := by
    intro b x hx
    obtain ⟨-, st, hst, -⟩ := h.builders b x hx
    exact (Array.getElem?_eq_some_iff.1 hst).1
  refine ⟨h.connection, h.worded, fun e he => ?_, fun b x hx => ?_, ?_⟩
  · rcases List.mem_cons.1 he with rfl | he
    · exact ⟨_, hnew, rfl⟩
    · obtain ⟨x, hx, hkind⟩ := h.held e he
      exact ⟨x, hgrown.builders _ x hx, hkind⟩
  · rcases hcases b x hx with hx | ⟨rfl, rfl⟩
    · obtain ⟨hc, st, hst, haligned⟩ := h.builders b x hx
      exact ⟨hc, st, hgrown.records _ st hst, haligned⟩
    · exact ⟨rfl, .empty, Array.getElem?_push_size, Statements.aligned_empty kind⟩
  · intro b₁ b₂ x₁ x₂ h₁ h₂ hsame
    rcases hcases b₁ x₁ h₁ with h₁ | ⟨rfl, rfl⟩ <;> rcases hcases b₂ x₂ h₂ with h₂ | ⟨rfl, rfl⟩
    · exact h.apart b₁ b₂ x₁ x₂ h₁ h₂ hsame
    · exact absurd hsame (hlt b₁ x₁ h₁).ne
    · exact absurd hsame.symm (hlt b₂ x₂ h₂).ne
    · rfl

end Aligned

/-- The action keeps sessions aligned. -/
abbrev Safe (c : Nat) (conn : Connection) (held : Held) {α : Type} (x : Action α) : Prop :=
  Keeps (Aligned c conn held) (fun _ => True) x

/-! ## Reading -/

/-- An action that leaves aligned sessions as they are. -/
theorem Keeps.read {I : Session → Prop} {Q : α → Prop} {x : Action α}
    (h : ∀ r s, I s → ∃ y, runIn r x s = (y, s) ∧ ∀ a, y = .ok a → Q a) : Keeps I Q x := by
  intro r s hs
  obtain ⟨y, hrun, hy⟩ := h r s hs
  rw [hrun]
  exact ⟨hs, hy⟩

section

variable (hb : (b, kind) ∈ held)
include hb

theorem keeps_builder : Keeps (Aligned c conn held) (fun x => x.kind = kind) (builder b) :=
  .read fun r s hs => by
    obtain ⟨x, hx, hkind⟩ := hs.held _ hb
    exact ⟨_, runIn_builder hx, fun y hy => by cases hy; exact hkind⟩

theorem keeps_overwrites : Safe c conn held (overwrites b) :=
  (keeps_builder hb).bind fun _ _ => .pure trivial

theorem keeps_connectionOf : Keeps (Aligned c conn held) (· = c) (connectionOf b) :=
  .read fun r s hs => by
    obtain ⟨x, hx, -⟩ := hs.held _ hb
    exact ⟨_, runIn_connectionOf (hs.opened hx), fun y hy => by cases hy; rfl⟩

theorem keeps_adapterOf : Safe c conn held (adapterOf b) :=
  .read fun r s hs => by
    obtain ⟨x, hx, -⟩ := hs.held _ hb
    exact ⟨_, runIn_adapterOf (hs.opened hx), fun _ _ => trivial⟩

theorem keeps_statementsOf :
    Keeps (Aligned c conn held) (fun st => st.Aligned kind) (statementsOf b) :=
  .read fun r s hs => by
    obtain ⟨x, hx, rfl⟩ := hs.held _ hb
    obtain ⟨-, st, hst, haligned⟩ := hs.builders b x hx
    exact ⟨_, runIn_statementsOf hx hst, fun y hy => by cases hy; exact haligned⟩

theorem keeps_addPrefix (v : Value) (mixed : Bool) :
    Keeps (Aligned c conn held) (fun v' => ∃ p : Value, p.Worded ∧ prefixed p mixed v = .ok v')
      (addPrefix b v mixed) :=
  .read fun r s hs => by
    obtain ⟨x, hx, -⟩ := hs.held _ hb
    refine ⟨_, runIn_addPrefix (hs.opened hx) v mixed, fun v' hv' => ?_⟩
    obtain ⟨p, hp, hv'⟩ := bind_ok hv'
    exact ⟨p, hs.worded p hp, hv'⟩

/-- A name with the prefix is a name. -/
theorem keeps_addPrefix_name {v : Value} (hv : NameGiven v) (mixed : Bool) :
    Keeps (Aligned c conn held) NameGiven (addPrefix b v mixed) :=
  (keeps_addPrefix hb v mixed).mono fun _ ⟨_, hp, h⟩ => named_of_prefixed hp h hv

/-- Names with the prefix are names. -/
theorem keeps_addPrefixAll {vs : List Value} (hvs : ∀ v ∈ vs, NameGiven v) (mixed : Bool) :
    Keeps (Aligned c conn held) (fun vs' => ∀ v ∈ vs', NameGiven v) (addPrefixAll b vs mixed) := by
  refine (keeps_addPrefix hb (.list vs) mixed).bind fun v' ⟨p, hp, hv'⟩ => .pure ?_
  obtain ⟨items, hitems, -⟩ := prefixed_list rfl hv'
  rw [hitems]
  exact named_of_prefixed_list hp rfl hvs hv' hitems

/-! ## Editing -/

theorem keeps_edit {f : Statements → Statements}
    (hf : ∀ st, st.Aligned kind → (f st).Aligned kind) :
    Safe c conn held (edit b f) := by
  intro r s hs
  obtain ⟨x, hx, rfl⟩ := hs.held _ hb
  rw [edit, runIn_bind_ok (runIn_builder hx)]
  exact ⟨hs.edited hx hf, fun _ _ => trivial⟩

theorem keeps_change {f : Statements → Result Statements}
    (hf : ∀ st st', st.Aligned kind → f st = .ok st' → st'.Aligned kind) :
    Safe c conn held (change b f) :=
  (keeps_statementsOf hb).bind fun st hst =>
    (Keeps.ofResult fun st' hst' => hf st st' hst hst').bind fun _ hst' =>
      keeps_edit hb fun _ _ => hst'

theorem keeps_tryEdit {f : Statements → Option Statements}
    (hf : ∀ st st', st.Aligned kind → f st = some st' → st'.Aligned kind) :
    Safe c conn held (tryEdit b f) := by
  refine keeps_change hb fun st st' hst hst' => ?_
  split at hst'
  · cases hst'
    exact hf st _ hst ‹_›
  · cases hst'

end

/-! ## New builders -/

/-- What follows on a new builder has it at hand. -/
theorem keeps_newBuilder {Q : α → Prop} {next : Nat → Action α}
    (h : ∀ g, Keeps (Aligned c conn ((g, kind) :: held)) Q (next g)) :
    Keeps (Aligned c conn held) Q (newBuilder c kind .empty >>= next) := by
  intro r s hs
  rw [runIn_bind_ok runIn_newBuilder]
  obtain ⟨haligned, hQ⟩ := h s.builders.size r _ (hs.withBuilder kind)
  exact ⟨haligned.weaken fun e he => List.mem_cons_of_mem _ he, hQ⟩

/-! ## Compiling -/

theorem Aligned.journal (h : Aligned c conn held s) (journal : List Entry) :
    Aligned c conn held { s with journal } :=
  ⟨h.connection, h.worded, h.held, h.builders, h.apart⟩

/-- The select of a builder has a value for each placeholder. -/
theorem keeps_compileSelect (hb : (b, kind) ∈ held) :
    Keeps (Aligned c conn held) CompiledQuery.Aligned (compileSelect b) := by
  intro r s hs
  obtain ⟨x, hx, rfl⟩ := hs.held _ hb
  obtain ⟨-, st, hst, haligned⟩ := hs.builders b x hx
  obtain ⟨journal, hrun⟩ := runIn_compileAs (r := r) (hs.opened hx) hx hst .select []
  have hpayload : PayloadSound Any Any .select [] := trivial
  rw [compileSelect, hrun]
  exact ⟨hs.journal journal, fun q hq => haligned.compiled (by decide) hpayload (.inl rfl) hq⟩

/-- A subquery is a raw fragment with a value for each placeholder. -/
theorem keeps_subQuery (hb : (b, kind) ∈ held) {name : Value}
    (hname : name.isTrue = true → Quiet name.toText) :
    Keeps (Aligned c conn held)
      (fun v => v.isRaw = true ∧ v.RawAligned) (subQuery b name) := by
  refine (keeps_compileSelect hb).bind fun q hq => .pure ⟨rfl, ?_⟩
  have hplain : (⟨"(" ++ q.sql.toText ++ ")", q.rawBindings⟩ : Fragment).Lacks Any 0 :=
    hq.between (by decide) (by decide)
  rintro sql bindings ⟨⟩
  split
  · have hlabel : Quiet (" AS " ++ name.toText) := Quiet.append (by decide) (hname ‹_›)
    have hnamed := hplain.append (Fragment.lacks_ofText (Q := Any) hlabel)
    rw [String.append_assoc]
    exact congrArg (Fragment.mk _) (List.append_nil q.rawBindings) ▸ hnamed
  · exact hplain

end Session

end SqlBuilder
