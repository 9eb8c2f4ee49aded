import SqlBuilder.Proofs.Frame.Programs

/-!
# Builders are isolated

While a builder acts, new builders act for it, and statements change only where one of them works on
them, or where they have such statements as a member of a union (`Footprint`). Nobody comes to share
statements by that: a new builder has statements of its own, and a builder that gets statements gets
new ones. So a step on one builder changes the select of no builder that does not hold its
statements, whatever either of them has taken from the other before (`builders_isolated`). A union
has copies of what it is made of; only a builder that has gone over to one of its members is held by
those that have that union.
-/

set_option autoImplicit false

namespace SqlBuilder

open Session

/-! ## Sharing statements -/

namespace Session

/-- Two builders work on the same statements. -/
def Share (s : Session) (b b' : Nat) : Prop :=
  ∃ x x', s.builders[b]? = some x ∧ s.builders[b']? = some x' ∧ x.record = x'.record

namespace Share

variable {s : Session} {b b' : Nat}

/-- A new builder shares nothing. -/
theorem of_withBuilder (hs : s.Sane) (hne : b ≠ b') {c : Nat} {kind : BuilderKind} {st : Statements}
    (h : (s.withBuilder c kind st).Share b b') : s.Share b b' := by
  obtain ⟨x, x', hx, hx', heq⟩ := h
  rcases getElem?_push_cases hx with hx | ⟨rfl, rfl⟩ <;>
    rcases getElem?_push_cases hx' with hx' | ⟨rfl, rfl⟩
  · exact ⟨x, x', hx, hx', heq⟩
  · exact absurd (hs.recorded b x hx) (heq ▸ Nat.lt_irrefl _)
  · exact absurd (hs.recorded b' x' hx') (heq ▸ Nat.lt_irrefl _)
  · exact absurd rfl hne

/-- Neither does a builder with new statements. -/
theorem of_replaced (hs : s.Sane) (hne : b ≠ b') {b₀ : Nat} {st : Statements}
    (h :
      (Session.rerecorded { s with records := s.records.push st } b₀ s.records.size).Share b b') :
    s.Share b b' := by
  obtain ⟨y, y', hy, hy', heq⟩ := h
  obtain ⟨x, hx, rfl | ⟨rfl, rfl⟩⟩ := getElem?_modify_cases hy <;>
    obtain ⟨x', hx', rfl | ⟨rfl, rfl⟩⟩ := getElem?_modify_cases hy'
  · exact ⟨_, _, hx, hx', heq⟩
  · exact absurd (hs.recorded b _ hx) (heq ▸ Nat.lt_irrefl _)
  · exact absurd (hs.recorded b' _ hx') (heq ▸ Nat.lt_irrefl _)
  · exact absurd rfl hne

theorem of_update {b₀ : Nat} {f : Builder → Builder} (hrecord : ∀ x, (f x).record = x.record)
    (h : Share { s with builders := s.builders.modify b₀ f } b b') : s.Share b b' := by
  have hkept {x y : Builder} {i : Nat} (hy : y = x ∨ b₀ = i ∧ y = f x) : y.record = x.record := by
    obtain rfl | ⟨-, rfl⟩ := hy
    · rfl
    · exact hrecord x
  obtain ⟨y, y', hy, hy', heq⟩ := h
  obtain ⟨x, hx, hxy⟩ := getElem?_modify_cases hy
  obtain ⟨x', hx', hxy'⟩ := getElem?_modify_cases hy'
  exact ⟨x, x', hx, hx', by rw [← hkept hxy, heq, hkept hxy']⟩

end Share

end Session

/-! ## Footprints -/

/-- What is left of a session while some of the builders act, which work on some of the records. -/
structure Footprint (s₀ : Session) (acts works : Nat → Prop) (s : Session) : Prop where
  adapters : ∀ (c : Nat) (conn : Connection), s₀.connections[c]? = some conn →
    ∃ conn', s.connections[c]? = some conn' ∧ conn'.adapter = conn.adapter
  builders : ∀ (b : Nat) (x : Builder), ¬ acts b → s₀.builders[b]? = some x →
    s.builders[b]? = some x
  records : ∀ (n : Nat) (st : Statements), (∀ m, works m → ¬ s₀.Holds n m) →
    s₀.records[n]? = some st → s.records[n]? = some st
  members : s.members = s₀.members
  working : ∀ (b : Nat) (x : Builder), acts b → s.builders[b]? = some x → works x.record
  shared : ∀ b b', b ≠ b' → s.Share b b' → s₀.Share b b'
  builderCount : s₀.builders.size ≤ s.builders.size
  recordCount : s₀.records.size ≤ s.records.size

namespace Footprint

variable {s₀ s : Session} {acts works : Nat → Prop}

theorem refl (h : ∀ b x, acts b → s₀.builders[b]? = some x → works x.record) :
    Footprint s₀ acts works s₀ where
  adapters _ conn hconn := ⟨conn, hconn, rfl⟩
  builders _ _ _ hx := hx
  records _ _ _ hst := hst
  members := rfl
  working := h
  shared _ _ _ h := h
  builderCount := Nat.le_refl _
  recordCount := Nat.le_refl _

theorem modify (h : Footprint s₀ acts works s) {c : Nat} {f : Connection → Connection}
    (hadapter : ∀ conn, (f conn).adapter = conn.adapter) :
    Footprint s₀ acts works { s with connections := s.connections.modify c f } :=
  { h with
    adapters := fun c' conn hconn => by
      obtain ⟨conn', hconn', heq⟩ := h.adapters c' conn hconn
      by_cases hc : c = c'
      · refine ⟨f conn', ?_, (hadapter conn').trans heq⟩
        rw [Array.getElem?_modify, if_pos hc, hconn']
        rfl
      · refine ⟨conn', ?_, heq⟩
        rw [Array.getElem?_modify, if_neg hc, hconn'] }

theorem push (h : Footprint s₀ acts works s) (conn : Connection) :
    Footprint s₀ acts works { s with connections := s.connections.push conn } :=
  { h with
    adapters := fun c conn' hconn' => by
      obtain ⟨conn'', hconn'', heq⟩ := h.adapters c conn' hconn'
      have hlt := (Array.getElem?_eq_some_iff.1 hconn'').1
      exact ⟨conn'', (Array.getElem?_push_lt hlt).trans
        ((Array.getElem?_eq_getElem hlt).symm.trans hconn''), heq⟩ }

theorem build (h : Footprint s₀ acts works s) (hs : s.Sane)
    (hfresh : ∀ n, s₀.records.size ≤ n → works n) (c : Nat) (kind : BuilderKind)
    (st : Statements) : Footprint s₀ acts works (s.withBuilder c kind st) where
  adapters := h.adapters
  builders b x hb hx := (grown_withBuilder s c kind st).builders b x (h.builders b x hb hx)
  records n st' hn hst' := (grown_withBuilder s c kind st).records n st' (h.records n st' hn hst')
  members := h.members
  working b x hb hx := by
    rcases getElem?_push_cases hx with hx | ⟨-, rfl⟩
    · exact h.working b x hb hx
    · exact hfresh _ h.recordCount
  shared b b' hne hshare := h.shared b b' hne (hshare.of_withBuilder hs hne)
  builderCount := by
    show _ ≤ (s.builders.push _).size
    rw [Array.size_push]
    exact Nat.le_succ_of_le h.builderCount
  recordCount := by
    show _ ≤ (s.records.push _).size
    rw [Array.size_push]
    exact Nat.le_succ_of_le h.recordCount

theorem edit (h : Footprint s₀ acts works s) {b : Nat} {x : Builder} (hb : acts b)
    (hx : s.builders[b]? = some x) (f : Statements → Statements) :
    Footprint s₀ acts works { s with records := s.records.modify x.record f } :=
  { h with
    records := fun n st hn hst => by
      have hne : x.record ≠ n := fun heq => hn x.record (h.working b x hb hx) (.inl heq.symm)
      rw [Array.getElem?_modify, if_neg hne]
      exact h.records n st hn hst
    recordCount := by
      rw [Array.size_modify]
      exact h.recordCount }

theorem update (h : Footprint s₀ acts works s) {b : Nat} (hb : acts b) {f : Builder → Builder}
    (hrecord : ∀ x, (f x).record = x.record) :
    Footprint s₀ acts works { s with builders := s.builders.modify b f } :=
  { h with
    builders := fun b' x hb' hx => by
      have hne : b ≠ b' := fun heq => hb' (heq ▸ hb)
      rw [Array.getElem?_modify, if_neg hne]
      exact h.builders b' x hb' hx
    working := fun b' y hb' hy => by
      obtain ⟨x, hx, rfl | ⟨-, rfl⟩⟩ := getElem?_modify_cases hy
      · exact h.working b' _ hb' hx
      · exact hrecord x ▸ h.working b' x hb' hx
    shared := fun b' b'' hne hshare => h.shared b' b'' hne (hshare.of_update hrecord)
    builderCount := by
      rw [Array.size_modify]
      exact h.builderCount }

theorem replace (h : Footprint s₀ acts works s) (hs : s.Sane)
    (hfresh : ∀ n, s₀.records.size ≤ n → works n) {b : Nat} (hb : acts b) (st : Statements) :
    Footprint s₀ acts works
      (Session.rerecorded { s with records := s.records.push st } b s.records.size) where
  adapters := h.adapters
  builders b' x hb' hx := by
    have hne : b ≠ b' := fun heq => hb' (heq ▸ hb)
    rw [rerecorded, Array.getElem?_modify, if_neg hne]
    exact h.builders b' x hb' hx
  records n st' hn hst' := (grown_withBuilder s 0 .query st).records n st' (h.records n st' hn hst')
  members := h.members
  working b' y hb' hy := by
    obtain ⟨x, hx, rfl | ⟨-, rfl⟩⟩ := getElem?_modify_cases hy
    · exact h.working b' _ hb' hx
    · exact hfresh _ h.recordCount
  shared b' b'' hne hshare := h.shared b' b'' hne (hshare.of_replaced hs hne)
  builderCount := by
    rw [rerecorded, Array.size_modify]
    exact h.builderCount
  recordCount := by
    show _ ≤ (s.records.push _).size
    rw [Array.size_push]
    exact Nat.le_succ_of_le h.recordCount

/-- Settling what a builder has worked on changes only records that hold it. -/
theorem settle (h : Footprint s₀ acts works s) {n : Nat} (hn : works n) :
    Footprint s₀ acts works (s.settled n) where
  adapters := (s.settled_connections n).symm ▸ h.adapters
  builders := (s.settled_builders n).symm ▸ h.builders
  records m st hm hst := by
    have hkept := h.records m st hm hst
    refine settled_of_not_holds (fun hholds => hm n hn ?_) hkept
    exact hholds.of_kept (hst.trans hkept.symm) fun i hi => h.members ▸ hi
  members := (s.settled_members n).trans h.members
  working := (s.settled_builders n).symm ▸ h.working
  shared b b' hne hshare := h.shared b b' hne (by
    unfold Share at hshare ⊢
    rwa [s.settled_builders n] at hshare)
  builderCount := (s.settled_builders n).symm ▸ h.builderCount
  recordCount := (s.size_settled n).symm ▸ h.recordCount

/-- The footprint of builders that act, and of new ones. -/
def frame (s₀ : Session) (acts works : Nat → Prop) (hacts : ∀ b, s₀.builders.size ≤ b → acts b)
    (hworks : ∀ n, s₀.records.size ≤ n → works n) : Frame where
  licence := { gives := true }
  inv := Footprint s₀ acts works
  acts := acts
  works := works
  sound _ := True
  everyone h := by simp at h
  give _ := trivial
  read _ _ := trivial
  working h := h.working _ _
  kept h hconnections hbuilders hrecords hmembers :=
    ⟨hconnections ▸ h.adapters, hbuilders ▸ h.builders, hrecords ▸ h.records,
      hmembers.trans h.members, hbuilders ▸ h.working,
      fun b b' hne hshare => h.shared b b' hne (by
        unfold Share at hshare ⊢
        rwa [hbuilders] at hshare),
      hbuilders ▸ h.builderCount, hrecords ▸ h.recordCount⟩
  modify h hadapter := h.modify hadapter
  push h := h.push _
  build hs h _ := h.build hs hworks _ _ _
  fresh h := hacts _ h.builderCount
  edit h hb hx _ := h.edit hb hx _
  update h hb hrecord := h.update hb hrecord
  replace hs h hb _ := h.replace hs hworks hb _
  share hl := by cases hl
  adopt _ hl := by cases hl
  settle h hn := h.settle hn
  empty := trivial
  copy _ _ := trivial
  reshape _ _ := trivial
  unite _ _ _ _ := trivial

end Footprint

/-! ## What a step leaves -/

/-- What a step on a builder that works on a record leaves of a session: the other builders, the
records that do not hold that one, and the unions of which it is no member. -/
structure Isolated (s : Session) (b n : Nat) (s' : Session) : Prop where
  adapters : ∀ (c : Nat) (conn : Connection), s.connections[c]? = some conn →
    ∃ conn', s'.connections[c]? = some conn' ∧ conn'.adapter = conn.adapter
  builders : ∀ (a : Nat) (x : Builder), a ≠ b → s.builders[a]? = some x → s'.builders[a]? = some x
  records : ∀ (m : Nat) (st : Statements), ¬ s.Holds m n → s.records[m]? = some st →
    s'.records[m]? = some st
  members : ∀ identity, (identity, n) ∈ s'.members → (identity, n) ∈ s.members

namespace Isolated

variable {s s' s'' : Session} {b n : Nat}

theorem refl (s : Session) (b n : Nat) : Isolated s b n s :=
  ⟨fun _ conn hconn => ⟨conn, hconn, rfl⟩, fun _ _ _ hx => hx, fun _ _ _ hst => hst, fun _ hi => hi⟩

theorem apart (h : Isolated s b n s') (hs : s'.Apart s'') : Isolated s b n s'' :=
  ⟨hs.connections ▸ h.adapters, hs.builders ▸ h.builders, hs.records ▸ h.records,
    hs.members ▸ h.members⟩

theorem rerecorded (h : Isolated s b n s') (m : Nat) : Isolated s b n (s'.rerecorded b m) :=
  { h with
    builders := fun a x ha hx => by
      rw [Session.rerecorded, Array.getElem?_modify, if_neg ha.symm]
      exact h.builders a x ha hx }

theorem adopted (hn : n < s.records.size) (b : Nat) (e : UnionEntry) :
    Isolated s b n (s.adopted e) :=
  { Isolated.refl s b n with
    records := fun m st _ hst =>
      (Array.getElem?_push_lt (Array.getElem?_eq_some_iff.1 hst).1).trans
        ((Array.getElem?_eq_getElem _).symm.trans hst)
    members := fun i hi => by
      rcases List.mem_cons.1 hi with heq | hi
      · cases heq
        exact absurd hn (Nat.lt_irrefl _)
      · exact hi }

theorem settled (h : Isolated s b n s') : Isolated s b n (s'.settled n) where
  adapters := (s'.settled_connections n).symm ▸ h.adapters
  builders := (s'.settled_builders n).symm ▸ h.builders
  records m st hm hst := by
    have hkept := h.records m st hm hst
    refine settled_of_not_holds (fun hholds => hm ?_) hkept
    exact hholds.of_kept (hst.trans hkept.symm) h.members
  members := (s'.settled_members n).symm ▸ h.members

end Isolated

/-! ## Steps on a builder -/

namespace Session

/-- The session after a step on a builder. -/
def after (s : Session) (r : Reaction) (step : Step) (b : Nat) : Session :=
  (runIn r (Program.answered (some b) (Program.perform step (some b))) s).2

end Session

/-- Telling how a step ended settles the statements of the builder and changes nothing else. -/
theorem Program.state_told {r : Reaction} (current : Option Nat) (act : Action Output)
    (s : Session) :
    (runIn r (told current act) s).2 =
      (s.recordOf current).elim (runIn r act s).2 (runIn r act s).2.settled := by
  rw [told, runIn_bind_ok (runIn_get s), runIn_bind_ok (runIn_outcomeOf act s)]
  rw [settle, runIn_bind_ok (runIn_modify _ _)]
  cases (runIn r act s).1 with
  | error f => rfl
  | ok output => exact ((reads_outcome current output).bind fun _ => .pure _) r _

section

variable {r : Reaction} {s : Session} {b : Nat} {y : Builder}

/-- Telling how an action ended reaches no further than the action did. -/
theorem Isolated.told (hy : s.builders[b]? = some y) {act : Action Output}
    (h : Isolated s b y.record (runIn r act s).2) :
    Isolated s b y.record (runIn r (Program.told (some b) act) s).2 := by
  rw [Program.state_told, recordOf, Option.bind_some, hy]
  exact h.settled

end

end SqlBuilder
