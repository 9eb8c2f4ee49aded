import SqlBuilder.Proofs.Frame.Licence
import SqlBuilder.Proofs.Frame.Members
import SqlBuilder.Proofs.Frame.Reads
import SqlBuilder.Proofs.Transaction.Orderly
import SqlBuilder.Proofs.Unions.Chain

/-!
# Frames

In a session that is `Sane` whatever is referred to is there. A `Frame` says what else is known of a
session while only some of its builders act under a licence, and that nothing they do to themselves
changes that: connections keep their adapters, statements stay `sound`, new builders act as well. An
action is `Framed` if it keeps both, also where it fails.

What listeners do is up to the reaction of the session. Either there are none, or what they do keeps
what the frame knows (`Frame.Reacts`).
-/

set_option autoImplicit false

namespace SqlBuilder

open Session

/-! ## Entries of changed arrays -/

theorem getElem?_modify_cases {α : Type} {xs : Array α} {i j : Nat} {f : α → α} {y : α}
    (h : (xs.modify i f)[j]? = some y) : ∃ x, xs[j]? = some x ∧ (y = x ∨ i = j ∧ y = f x) := by
  rw [Array.getElem?_modify] at h
  split at h
  · obtain ⟨x, hx, rfl⟩ := Option.map_eq_some_iff.1 h
    exact ⟨x, hx, .inr ⟨‹_›, rfl⟩⟩
  · exact ⟨y, h, .inl rfl⟩

theorem getElem?_push_cases {α : Type} {xs : Array α} {a y : α} {j : Nat}
    (h : (xs.push a)[j]? = some y) : xs[j]? = some y ∨ j = xs.size ∧ y = a := by
  rw [Array.getElem?_push] at h
  split at h
  · exact .inr ⟨‹_›, (Option.some_inj.1 h).symm⟩
  · exact .inl h

/-! ## Sane sessions -/

namespace Session

/-- The connection is that of a builder, or one that the session has a name for. -/
def Knows (s : Session) (c : Nat) : Prop :=
  (∃ (b : Nat) (x : Builder), s.builders[b]? = some x ∧ x.connection = some c) ∨
    s.first = some c ∨ s.second = some c ∨ s.standing = some c

/-- The connections and statements that are referred to are there. -/
structure Sane (s : Session) : Prop where
  connected : ∀ c, s.Knows c → c < s.connections.size
  recorded : ∀ (b : Nat) (x : Builder), s.builders[b]? = some x → x.record < s.records.size
  shared : ∀ e ∈ s.members, e.2 < s.records.size

/-- The builder works on the statements of another record. -/
def rerecorded (s : Session) (b record : Nat) : Session :=
  { s with builders := s.builders.modify b fun x => { x with record } }

/-- The member of a union has a record. -/
def adopted (s : Session) (e : UnionEntry) : Session :=
  { s with
    records := s.records.push e.statements
    members := (e.identity, s.records.size) :: s.members }

namespace Sane

variable {s s' : Session}

theorem empty (hbuilders : s.builders = #[]) (hmembers : s.members = []) (hfirst : s.first = none)
    (hsecond : s.second = none) (hstanding : s.standing = none) : s.Sane where
  connected c hc := by simp [Knows, hbuilders, hfirst, hsecond, hstanding] at hc
  recorded b x hx := by simp [hbuilders] at hx
  shared e he := by simp [hmembers] at he

/-- Builders, and the numbers of their statements, are as they were. No connection is lost, and
those that have a name are there. -/
theorem kept (h : s.Sane) (hconnections : s.connections.size ≤ s'.connections.size)
    (hbuilders : s'.builders = s.builders) (hrecords : s'.records.size = s.records.size)
    (hmembers : s'.members = s.members)
    (hnamed : ∀ c, s'.first = some c ∨ s'.second = some c ∨ s'.standing = some c →
      c < s'.connections.size) : s'.Sane where
  connected c hc := by
    obtain ⟨b, x, hx, hxc⟩ | hc := hc
    · exact Nat.lt_of_lt_of_le (h.connected c (.inl ⟨b, x, hbuilders ▸ hx, hxc⟩)) hconnections
    · exact hnamed c hc
  recorded b x hx := by
    rw [hrecords]
    exact h.recorded b x (hbuilders ▸ hx)
  shared e he := by
    rw [hrecords]
    exact h.shared e (hmembers ▸ he)

theorem modify (h : s.Sane) (c : Nat) (f : Connection → Connection) :
    Sane { s with connections := s.connections.modify c f } :=
  h.kept (Nat.le_of_eq Array.size_modify.symm) rfl rfl rfl fun c hc => by
    rw [Array.size_modify]
    exact h.connected c (.inr hc)

theorem push (h : s.Sane) (conn : Connection) :
    Sane { s with connections := s.connections.push conn } := by
  have hsize : s.connections.size ≤ (s.connections.push conn).size := by
    rw [Array.size_push]
    exact Nat.le_succ _
  exact h.kept hsize rfl rfl rfl fun c hc => Nat.lt_of_lt_of_le (h.connected c (.inr hc)) hsize

theorem withBuilder (h : s.Sane) {c : Nat} (hc : c < s.connections.size) (kind : BuilderKind)
    (st : Statements) : (s.withBuilder c kind st).Sane where
  connected c' hc' := by
    obtain ⟨b, x, hx, hxc⟩ | hnamed := hc'
    · rcases getElem?_push_cases hx with hx | ⟨-, rfl⟩
      · exact h.connected c' (.inl ⟨b, x, hx, hxc⟩)
      · cases hxc
        exact hc
    · exact h.connected c' (.inr hnamed)
  recorded b x hx := by
    show x.record < (s.records.push st).size
    rw [Array.size_push]
    rcases getElem?_push_cases hx with hx | ⟨-, rfl⟩
    · exact Nat.lt_succ_of_lt (h.recorded b x hx)
    · exact Nat.lt_succ_self _
  shared e he := by
    show e.2 < (s.records.push st).size
    rw [Array.size_push]
    exact Nat.lt_succ_of_lt (h.shared e he)

theorem edit (h : s.Sane) (n : Nat) (f : Statements → Statements) :
    Sane { s with records := s.records.modify n f } :=
  h.kept (Nat.le_refl _) rfl Array.size_modify rfl fun c hc => h.connected c (.inr hc)

theorem settled (h : s.Sane) (n : Nat) : (s.settled n).Sane := by
  obtain ⟨hfirst, hsecond, hstanding⟩ := s.settled_named n
  refine h.kept (by simp) (s.settled_builders n) (s.size_settled n) (s.settled_members n) ?_
  rw [hfirst, hsecond, hstanding, s.settled_connections n]
  exact fun c hc => h.connected c (.inr hc)

/-- A builder changes, and is given no record and no connection that is not there. -/
theorem modified (h : s.Sane) (b : Nat) {f : Builder → Builder}
    (hrecord : ∀ x, x.record < s.records.size → (f x).record < s.records.size)
    (hconnection : ∀ x c, (f x).connection = some c →
      x.connection = some c ∨ c < s.connections.size) :
    Sane { s with builders := s.builders.modify b f } where
  connected c hc := by
    obtain ⟨b', y, hy, hyc⟩ | hnamed := hc
    · obtain ⟨x, hx, rfl | ⟨-, rfl⟩⟩ := getElem?_modify_cases hy
      · exact h.connected c (.inl ⟨b', _, hx, hyc⟩)
      · exact (hconnection x c hyc).elim (fun hc => h.connected c (.inl ⟨b', x, hx, hc⟩)) id
    · exact h.connected c (.inr hnamed)
  recorded b' y hy := by
    obtain ⟨x, hx, rfl | ⟨-, rfl⟩⟩ := getElem?_modify_cases hy
    · exact h.recorded b' _ hx
    · exact hrecord x (h.recorded b' x hx)
  shared := h.shared

theorem update (h : s.Sane) (b : Nat) {f : Builder → Builder}
    (hrecord : ∀ x, (f x).record = x.record)
    (hconnection : ∀ x c, (f x).connection = some c →
      x.connection = some c ∨ c < s.connections.size) :
    Sane { s with builders := s.builders.modify b f } := by
  refine h.modified b (fun x hx => ?_) hconnection
  rw [hrecord]
  exact hx

theorem rerecorded (h : s.Sane) (b : Nat) {n : Nat} (hn : n < s.records.size) :
    (s.rerecorded b n).Sane :=
  h.modified b (fun _ _ => hn) fun _ _ hc => .inl hc

theorem records_push (h : s.Sane) (st : Statements) :
    Sane { s with records := s.records.push st } where
  connected := h.connected
  recorded b x hx := by
    rw [Array.size_push]
    exact Nat.lt_succ_of_lt (h.recorded b x hx)
  shared e he := by
    rw [Array.size_push]
    exact Nat.lt_succ_of_lt (h.shared e he)

/-- A member of a union gets a record. -/
theorem adopted (h : s.Sane) (e : UnionEntry) : (s.adopted e).Sane where
  connected := h.connected
  recorded := (h.records_push e.statements).recorded
  shared e' he' := by
    rcases List.mem_cons.1 he' with rfl | he'
    · show s.records.size < (s.records.push e.statements).size
      rw [Array.size_push]
      exact Nat.lt_succ_self _
    · exact (h.records_push e.statements).shared e' he'

end Sane

end Session

/-! ## Listeners -/

/-- Under a licence that lets nobody listen there are no listeners; under any other those that there
may be do what the licence allows. -/
structure Licence.Heard (l : Licence) (s : Session) : Prop where
  unheard : l.listens = false → s.Unheard
  functions : l.listens = true → ∀ entry ∈ s.functions, entry.2.allowed l = true

theorem Licence.Heard.of_eq {l : Licence} {s s' : Session} (h : l.Heard s)
    (hconnections : s'.connections = s.connections) (hfunctions : s'.functions = s.functions) :
    l.Heard s' where
  unheard hl := (h.unheard hl).of_connections hconnections
  functions hl := hfunctions ▸ h.functions hl

theorem Licence.Heard.modify {l : Licence} {s : Session} (h : l.Heard s) {c : Nat}
    {f : Connection → Connection} (hhooks : ∀ conn, l.listens = false → conn.hooks.actions = [] →
      (f conn).hooks.actions = []) :
    l.Heard { s with connections := s.connections.modify c f } where
  unheard hl := (h.unheard hl).modify fun conn => hhooks conn hl
  functions := h.functions

theorem Licence.Heard.push {l : Licence} {s : Session} (h : l.Heard s) {conn : Connection}
    (hhooks : conn.hooks.actions = []) :
    l.Heard { s with connections := s.connections.push conn } where
  unheard hl c conn' hconn' := by
    rcases getElem?_push_cases hconn' with hconn' | ⟨-, rfl⟩
    · exact h.unheard hl c conn' hconn'
    · exact hhooks
  functions := h.functions

/-! ## Frames -/

/-- What is known of a session while some builders act. -/
structure Frame where
  licence : Licence
  inv : Session → Prop
  /-- The builders that act. -/
  acts : Nat → Prop
  /-- The records they work on. -/
  works : Nat → Prop
  /-- What is known of all statements. -/
  sound : Statements → Prop
  /-- Programs that go over to other builders, and listeners, act on any builder. -/
  everyone : licence.roams = true ∨ licence.listens = true → ∀ b, acts b
  give {st : Statements} : licence.gives = true → sound st
  read {s : Session} {n : Nat} {st : Statements} : inv s → s.records[n]? = some st → sound st
  working {s : Session} {b : Nat} {x : Builder} : inv s → acts b → s.builders[b]? = some x →
    works x.record
  kept {s s' : Session} : inv s → s'.connections = s.connections → s'.builders = s.builders →
    s'.records = s.records → s'.members = s.members → inv s'
  modify {s : Session} {c : Nat} {f : Connection → Connection} : inv s →
    (∀ conn, (f conn).adapter = conn.adapter) →
    inv { s with connections := s.connections.modify c f }
  push {s : Session} {conn : Connection} : inv s →
    inv { s with connections := s.connections.push conn }
  build {s : Session} {c : Nat} {kind : BuilderKind} {st : Statements} : s.Sane → inv s → sound st →
    inv (s.withBuilder c kind st)
  fresh {s : Session} : inv s → acts s.builders.size
  edit {s : Session} {b : Nat} {x : Builder} {f : Statements → Statements} : inv s → acts b →
    s.builders[b]? = some x → (∀ st, sound st → sound (f st)) →
    inv { s with records := s.records.modify x.record f }
  update {s : Session} {b : Nat} {f : Builder → Builder} : inv s → acts b →
    (∀ x, (f x).record = x.record) → inv { s with builders := s.builders.modify b f }
  replace {s : Session} {b : Nat} {st : Statements} : s.Sane → inv s → acts b → sound st →
    inv (Session.rerecorded { s with records := s.records.push st } b s.records.size)
  share {s : Session} {b n : Nat} : licence.roams = true → inv s → inv (s.rerecorded b n)
  adopt {s : Session} {e : UnionEntry} : licence.gives = true → licence.adopts = true → inv s →
    inv (s.adopted e)
  settle {s : Session} {n : Nat} : inv s → works n → inv (s.settled n)
  empty : sound .empty
  copy {st st' : Statements} : sound st → st.copied = .ok st' → sound st'
  reshape {st st' : Statements} : sound st → st.Reshaped st' → sound st'
  unite {st st' union : Statements} {name : String} : sound st → sound st' →
    name ∈ ValidationCause.unionTypes → st.addUnion st' (.text name) = .ok union → sound union

namespace Frame

/-- What is known of the session, and that it is sane. -/
structure Holds (F : Frame) (s : Session) : Prop where
  sane : s.Sane
  heard : F.licence.Heard s
  inv : F.inv s

/-- What listeners do keeps what the frame knows, and all connections. -/
def Reacts (F : Frame) (r : Reaction) : Prop :=
  F.licence.listens = true → ∀ steps, allowedSteps F.licence steps = true → ∀ b s, F.Holds s →
    F.Holds (runIn r (fun reaction => reaction steps b) s).2 ∧
      s.connections.size ≤ (runIn r (fun reaction => reaction steps b) s).2.connections.size

/-- The frame, where there are so many connections that `n` is one of them. -/
def reaching (F : Frame) (n : Nat) : Frame where
  licence := F.licence
  inv s := F.inv s ∧ n < s.connections.size
  acts := F.acts
  works := F.works
  sound := F.sound
  everyone := F.everyone
  give := F.give
  read h := F.read h.1
  working h := F.working h.1
  kept h hconnections hbuilders hrecords hmembers :=
    ⟨F.kept h.1 hconnections hbuilders hrecords hmembers, hconnections ▸ h.2⟩
  modify h hadapter := ⟨F.modify h.1 hadapter, by
    rw [Array.size_modify]
    exact h.2⟩
  push h := ⟨F.push h.1, by
    rw [Array.size_push]
    exact Nat.lt_succ_of_lt h.2⟩
  build hs h hst := ⟨F.build hs h.1 hst, h.2⟩
  fresh h := F.fresh h.1
  edit h hb hx hf := ⟨F.edit h.1 hb hx hf, h.2⟩
  update h hb hf := ⟨F.update h.1 hb hf, h.2⟩
  replace hs h hb hst := ⟨F.replace hs h.1 hb hst, h.2⟩
  share hl h := ⟨F.share hl h.1, h.2⟩
  adopt hl hl' h := ⟨F.adopt hl hl' h.1, h.2⟩
  settle {s m} h hm := ⟨F.settle h.1 hm, (s.settled_connections m).symm ▸ h.2⟩
  empty := F.empty
  copy := F.copy
  reshape := F.reshape
  unite := F.unite

variable {F : Frame} {s : Session} {n : Nat}

theorem Holds.reaching (h : F.Holds s) (hn : n < s.connections.size) : (F.reaching n).Holds s :=
  ⟨h.sane, h.heard, h.inv, hn⟩

theorem Holds.of_reaching (h : (F.reaching n).Holds s) : F.Holds s :=
  ⟨h.sane, h.heard, h.inv.1⟩

theorem Reacts.reaching {r : Reaction} (h : F.Reacts r) (n : Nat) : (F.reaching n).Reacts r := by
  intro hl steps hsteps b s hs
  obtain ⟨hkept, hsize⟩ := h hl steps hsteps b s hs.of_reaching
  exact ⟨hkept.reaching (Nat.lt_of_lt_of_le hs.inv.2 hsize), hsize⟩

end Frame

/-! ## Framed actions -/

variable {α β γ : Type} {F : Frame}

/-- From the session on the action keeps what the frame knows. What it returns meets `Q`. -/
def FramedAt (F : Frame) (Q : α → Prop) (r : Reaction) (s : Session) (x : Action α) : Prop :=
  F.Holds (runIn r x s).2 ∧ ∀ a, (runIn r x s).1 = .ok a → Q a

/-- The action keeps what the frame knows. What it returns meets `Q`. -/
def FramedWith (F : Frame) (Q : α → Prop) (x : Action α) : Prop :=
  ∀ r s, F.Reacts r → F.Holds s → FramedAt F Q r s x

/-- The action keeps what the frame knows. -/
def Framed (F : Frame) (x : Action α) : Prop := FramedWith F (fun _ => True) x

/-- So it does where `n` is one of the connections. -/
def FramedFrom (F : Frame) (n : Nat) (Q : α → Prop) (x : Action α) : Prop :=
  ∀ r s, F.Reacts r → F.Holds s → n < s.connections.size → FramedAt F Q r s x

theorem FramedAt.bind {Q : α → Prop} {R : β → Prop} {r : Reaction} {s : Session} {x : Action α}
    {k : α → Action β} (hx : FramedAt F Q r s x) (hr : F.Reacts r)
    (hk : ∀ a, Q a → FramedWith F R (k a)) : FramedAt F R r s (x >>= k) := by
  unfold FramedAt at hx ⊢
  rw [runIn_bind]
  generalize runIn r x s = p at hx
  obtain ⟨_ | a, s'⟩ := p
  · exact ⟨hx.1, nofun⟩
  · exact hk a (hx.2 a rfl) r s' hr hx.1

namespace FramedWith

variable {Q : α → Prop} {R : β → Prop}

theorem pure {a : α} (h : Q a) : FramedWith F Q (Pure.pure a) := by
  refine fun _ _ _ hs => ⟨hs, ?_⟩
  rintro _ ⟨⟩
  exact h

theorem throw (f : Fault) : FramedWith F Q (MonadExcept.throw f) := fun _ _ _ hs => ⟨hs, nofun⟩

theorem bind {x : Action α} {k : α → Action β} (hx : FramedWith F Q x)
    (hk : ∀ a, Q a → FramedWith F R (k a)) : FramedWith F R (x >>= k) :=
  fun r s hr hs => (hx r s hr hs).bind hr hk

theorem mono {Q' : α → Prop} {x : Action α} (hx : FramedWith F Q x) (h : ∀ a, Q a → Q' a) :
    FramedWith F Q' x :=
  fun r s hr hs => ⟨(hx r s hr hs).1, fun a ha => h a ((hx r s hr hs).2 a ha)⟩

theorem framed {x : Action α} (hx : FramedWith F Q x) : Framed F x := hx.mono fun _ _ => trivial

theorem ofResult {y : Result α} (h : ∀ a, y = .ok a → Q a) :
    FramedWith F Q (Session.ofResult y) := by
  intro r s _ hs
  rw [FramedAt, runIn_ofResult]
  exact ⟨hs, h⟩

theorem get : FramedWith F F.Holds (MonadState.get : Action Session) := by
  refine fun _ _ _ hs => ⟨hs, ?_⟩
  rintro _ ⟨⟩
  exact hs

theorem outcomeOf {x : Action α} (hx : FramedWith F Q x) :
    FramedWith F (fun ended => ∀ a, ended = .ok a → Q a) (Session.outcomeOf x) := by
  intro r s hr hs
  rw [FramedAt, runIn_outcomeOf]
  refine ⟨(hx r s hr hs).1, ?_⟩
  rintro _ ⟨⟩
  exact (hx r s hr hs).2

theorem mapM {xs : List γ} {f : γ → Action α} (h : ∀ x, FramedWith F Q (f x)) :
    FramedWith F (fun ys => ∀ y ∈ ys, Q y) (xs.mapM f) := by
  induction xs with
  | nil => exact .pure nofun
  | cons x xs ih =>
    rw [List.mapM_cons]
    refine (h x).bind fun y hy => ih.bind fun ys hys => .pure ?_
    intro z hz
    rcases List.mem_cons.1 hz with rfl | hz
    · exact hy
    · exact hys z hz

end FramedWith

namespace FramedFrom

variable {n : Nat} {Q : α → Prop} {R : β → Prop}

theorem bind {x : Action α} {k : α → Action β} (hx : FramedFrom F n Q x)
    (hk : ∀ a, Q a → FramedWith F R (k a)) : FramedFrom F n R (x >>= k) :=
  fun r s hr hs hn => (hx r s hr hs hn).bind hr hk

/-- No connection is lost. -/
theorem after {x : Action α} {k : α → Action β} (hx : FramedWith (F.reaching n) Q x)
    (hk : ∀ a, Q a → FramedFrom F n R (k a)) : FramedFrom F n R (x >>= k) := by
  intro r s hr hs hn
  have hxs := hx r s (hr.reaching n) (hs.reaching hn)
  unfold FramedAt at hxs ⊢
  rw [runIn_bind]
  generalize runIn r x s = p at hxs
  obtain ⟨_ | a, s'⟩ := p
  · exact ⟨hxs.1.of_reaching, nofun⟩
  · exact hk a (hxs.2 a rfl) r s' hr hxs.1.of_reaching hxs.1.inv.2

end FramedFrom

theorem FramedWith.framedFrom {n : Nat} {Q : α → Prop} {x : Action α} (h : FramedWith F Q x) :
    FramedFrom F n Q x :=
  fun r s hr hs _ => h r s hr hs

namespace Session.Reads

variable {Q : β → Prop} {x : Action α} {k : α → Action β}

/-- Where only what is read comes first. -/
theorem andThenAt (hx : Reads x) (hk : ∀ r s a, F.Reacts r → F.Holds s → (runIn r x s).1 = .ok a →
    FramedAt F Q r s (k a)) : FramedWith F Q (x >>= k) := by
  intro r s hr hs
  have hsame := hx r s
  have hread := hk r s
  unfold FramedAt at hread ⊢
  rw [runIn_bind]
  generalize runIn r x s = p at hsame hread
  obtain ⟨_ | a, s'⟩ := p
  · cases hsame
    exact ⟨hs, nofun⟩
  · cases hsame
    exact hread a hr hs rfl

theorem andThen (hx : Reads x) (hk : ∀ a, FramedWith F Q (k a)) : FramedWith F Q (x >>= k) :=
  hx.andThenAt fun r s a hr hs _ => hk a r s hr hs

theorem framed (hx : Reads x) : Framed F x := by
  intro r s _ hs
  rw [FramedAt, hx r s]
  exact ⟨hs, fun _ _ => trivial⟩

end Session.Reads

/-- A check, and what comes after it. -/
theorem framedWith_unless {Q : α → Prop} {p : Prop} [Decidable p] {f : Fault} {k : PUnit → Action α}
    (h : ∀ u, FramedWith F Q (k u)) : FramedWith F Q (if p then throw f >>= k else k ()) := by
  split
  · exact (Reads.throw f).andThen h
  · exact h ()

namespace Framed

theorem bind {Q : β → Prop} {x : Action α} {k : α → Action β} (hx : Framed F x)
    (hk : ∀ a, FramedWith F Q (k a)) : FramedWith F Q (x >>= k) :=
  FramedWith.bind hx fun a _ => hk a

theorem outcomeOf {x : Action α} (hx : Framed F x) : Framed F (Session.outcomeOf x) :=
  (FramedWith.outcomeOf hx).framed

theorem mapM {xs : List γ} {f : γ → Action α} (h : ∀ x, Framed F (f x)) : Framed F (xs.mapM f) :=
  (FramedWith.mapM h).framed

theorem forM {xs : List γ} {f : γ → Action PUnit} (h : ∀ x, Framed F (f x)) :
    Framed F (xs.forM f) := by
  induction xs with
  | nil => exact .pure trivial
  | cons x xs ih => exact (h x).bind fun _ => ih

end Framed

end SqlBuilder
