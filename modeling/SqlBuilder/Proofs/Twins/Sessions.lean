import SqlBuilder.Proofs.Frame.Basic
import SqlBuilder.Proofs.Session.Reading

/-!
# Twins

Two sessions in which some builders correspond. A `Stage` says where both begin: on which connection
of each, with what in front of table names. In `Twins` the builders of every `Pair` are of one kind
and have collected the same statements, though their numbers differ, and builders that are set
`apart` are as they were at the beginning.

`Concur`: of two actions the second does to the one session what the first does to the other. They
come to the same fault, or to related results, and leave twins behind, with the builders both have
made as further pairs.
-/

set_option autoImplicit false

namespace SqlBuilder

open Session

theorem size_ne {α : Type} {xs : Array α} {i : Nat} {x : α} (h : xs[i]? = some x) : xs.size ≠ i :=
  Nat.ne_of_gt (Array.getElem?_eq_some_iff.1 h).1

/-! ## Stages -/

/-- Where two runs begin: a connection of each session, both of one dialect. Their prefixes may
differ, but neither fails alone. -/
structure Stage where
  s : Session
  s' : Session
  c : Nat
  c' : Nat
  conn : Connection
  conn' : Connection
  connected : s.connections[c]? = some conn
  connected' : s'.connections[c']? = some conn'
  adapter : conn'.adapter = conn.adapter
  prefixes : Agree (fun _ _ => True) (s.prefixOf conn) (s'.prefixOf conn')
  /-- The builders of the first session, with their statements, that the run must leave alone. -/
  apart : Nat → Builder → Statements → Prop := fun _ _ _ => False

/-- A builder of each of two sessions and the statements they work on, all by their numbers. -/
structure Pair where
  builder : Nat
  record : Nat
  builder' : Nat
  record' : Nat

/-- The builders are a pair. -/
def Coupled (own : List Pair) (b b' : Nat) : Prop := ∃ p ∈ own, p.builder = b ∧ p.builder' = b'

theorem Coupled.mono {own own' : List Pair} {b b' : Nat} (h : Coupled own b b')
    (hsub : own ⊆ own') :
    Coupled own' b b' := by
  obtain ⟨p, hp, hb⟩ := h
  exact ⟨p, hsub hp, hb⟩

/-! ## Twin sessions -/

/-- Two builders are those of the pair, on connections that are given, of one kind and mode. -/
structure Pair.Like (p : Pair) (c c' : Nat) (x x' : Builder) : Prop where
  record : x.record = p.record
  record' : x'.record = p.record'
  connection : x.connection = some c
  connection' : x'.connection = some c'
  kind : x'.kind = x.kind
  overwrite : x'.overwrite = x.overwrite

/-- The builders of a pair are alike and have collected the same statements. -/
structure Pair.Agrees (p : Pair) (c c' : Nat) (s s' : Session) : Prop where
  builders : ∃ x x', s.builders[p.builder]? = some x ∧ s'.builders[p.builder']? = some x' ∧
    p.Like c c' x x'
  records : ∃ st, s.records[p.record]? = some st ∧ s'.records[p.record']? = some st

/-- What a builder compiles to as an operation. -/
def Session.queryOf (s : Session) (b : Nat) (op : Operation) (payload : List Value) :
    Result CompiledQuery :=
  match s.builders[b]? with
  | none => misuse .missingAttribute
  | some x =>
    match x.connection with
    | none => .error (.configuration .noConnection)
    | some c =>
      match s.connections[c]?, s.records[x.record]? with
      | some conn, some st => conn.adapter.compile op st payload
      | _, _ => misuse .missingAttribute

/-- Builders that have collected the same statements compile alike on connections of one dialect. -/
theorem Pair.Agrees.queryOf_eq {p : Pair} {c c' : Nat} {s s' : Session} {conn conn' : Connection}
    (h : p.Agrees c c' s s') (hconn : s.connections[c]? = some conn)
    (hconn' : s'.connections[c']? = some conn') (hadapter : conn'.adapter = conn.adapter)
    (op : Operation) (payload : List Value) :
    s'.queryOf p.builder' op payload = s.queryOf p.builder op payload := by
  obtain ⟨⟨x, x', hx, hx', hlike⟩, ⟨st, hst, hst'⟩⟩ := h
  rw [queryOf, queryOf, hx, hx']
  dsimp only
  rw [hlike.connection, hlike.connection']
  dsimp only
  rw [hconn, hconn', hlike.record, hlike.record', hst, hst']
  dsimp only
  rw [hadapter]

/-- Two sessions with corresponding builders. -/
structure Twins (S : Stage) (own : List Pair) (s s' : Session) : Prop where
  connections : s.connections = S.s.connections
  connections' : s'.connections = S.s'.connections
  functions : s.functions = S.s.functions
  functions' : s'.functions = S.s'.functions
  standing : s.standing = S.s.standing
  standing' : s'.standing = S.s'.standing
  agrees : ∀ p ∈ own, p.Agrees S.c S.c' s s'
  /-- Builders are one in the first session where they are in the second. -/
  sameBuilder : ∀ p ∈ own, ∀ q ∈ own, p.builder = q.builder ↔ p.builder' = q.builder'
  /-- So are the statements they work on. -/
  sameRecord : ∀ p ∈ own, ∀ q ∈ own, p.record = q.record ↔ p.record' = q.record'
  apart : ∀ o x st, S.apart o x st → s.builders[o]? = some x ∧ s.records[x.record]? = some st ∧
    ∀ p ∈ own, p.builder ≠ o ∧ p.record ≠ x.record

namespace Twins

/-- Where a run begins there is one pair of builders, or none. -/
theorem start {S : Stage} {own : Option Pair}
    (hagrees : ∀ p ∈ own, p.Agrees S.c S.c' S.s S.s')
    (hapart : ∀ o x st, S.apart o x st → S.s.builders[o]? = some x ∧
      S.s.records[x.record]? = some st ∧ ∀ p ∈ own, p.builder ≠ o ∧ p.record ≠ x.record) :
    Twins S own.toList S.s S.s' := by
  have hone (p : Pair) (hp : p ∈ own.toList) (q : Pair) (hq : q ∈ own.toList) : p = q :=
    Option.some.inj ((Option.mem_toList.1 hp).symm.trans (Option.mem_toList.1 hq))
  refine ⟨rfl, rfl, rfl, rfl, rfl, rfl, fun p hp => hagrees p (Option.mem_toList.1 hp), ?_, ?_, ?_⟩
  · intro p hp q hq
    rw [hone p hp q hq]
    exact iff_of_true rfl rfl
  · intro p hp q hq
    rw [hone p hp q hq]
    exact iff_of_true rfl rfl
  · intro o x st ho
    obtain ⟨hx, hst, hne⟩ := hapart o x st ho
    exact ⟨hx, hst, fun p hp => hne p (Option.mem_toList.1 hp)⟩

variable {S : Stage} {own : List Pair} {s s' : Session}

theorem opens (h : Twins S own s s') {b b' : Nat} (hb : Coupled own b b') :
    s.Open b S.c S.conn ∧ s'.Open b' S.c' S.conn' := by
  obtain ⟨p, hp, rfl, rfl⟩ := hb
  obtain ⟨x, x', hx, hx', hlike⟩ := (h.agrees p hp).builders
  exact ⟨⟨x, hx, hlike.connection, h.connections ▸ S.connected⟩,
    ⟨x', hx', hlike.connection', h.connections' ▸ S.connected'⟩⟩

theorem prefixOf_eq (h : Twins S own s s') : s.prefixOf S.conn = S.s.prefixOf S.conn := by
  rw [prefixOf, prefixOf, h.functions]

theorem prefixOf_eq' (h : Twins S own s s') : s'.prefixOf S.conn' = S.s'.prefixOf S.conn' := by
  rw [prefixOf, prefixOf, h.functions']

/-- Nothing but what happened is written down. -/
theorem noted (h : Twins S own s s') (journal journal' : List Entry) :
    Twins S own { s with journal } { s' with journal := journal' } :=
  { h with agrees := fun p hp => ⟨(h.agrees p hp).builders, (h.agrees p hp).records⟩ }

/-- The statements of a pair change alike. -/
theorem edited (h : Twins S own s s') {p : Pair} (hp : p ∈ own) (f : Statements → Statements) :
    Twins S own { s with records := s.records.modify p.record f }
      { s' with records := s'.records.modify p.record' f } where
  __ := h
  agrees q hq := by
    refine ⟨(h.agrees q hq).builders, ?_⟩
    obtain ⟨st, hst, hst'⟩ := (h.agrees q hq).records
    have hsame := h.sameRecord p hp q hq
    show ∃ st, (s.records.modify p.record f)[q.record]? = some st ∧
      (s'.records.modify p.record' f)[q.record']? = some st
    rw [Array.getElem?_modify, Array.getElem?_modify]
    by_cases heq : p.record = q.record
    · rw [if_pos heq, if_pos (hsame.1 heq), hst, hst']
      exact ⟨f st, rfl, rfl⟩
    · rw [if_neg heq, if_neg (mt hsame.2 heq)]
      exact ⟨st, hst, hst'⟩
  apart o x st ho := by
    obtain ⟨hx', hst', hne⟩ := h.apart o x st ho
    refine ⟨hx', ?_, hne⟩
    rw [Array.getElem?_modify, if_neg (hne p hp).2]
    exact hst'

/-- The builders of a pair change alike, but for what they are made of. -/
theorem updated (h : Twins S own s s') {p : Pair} (hp : p ∈ own) {f : Builder → Builder}
    (hf : ∀ (q : Pair) x x', q.Like S.c S.c' x x' → q.Like S.c S.c' (f x) (f x')) :
    Twins S own { s with builders := s.builders.modify p.builder f }
      { s' with builders := s'.builders.modify p.builder' f } where
  __ := h
  agrees q hq := by
    refine ⟨?_, (h.agrees q hq).records⟩
    obtain ⟨x, x', hx, hx', hlike⟩ := (h.agrees q hq).builders
    have hsame := h.sameBuilder p hp q hq
    show ∃ x x', (s.builders.modify p.builder f)[q.builder]? = some x ∧
      (s'.builders.modify p.builder' f)[q.builder']? = some x' ∧ q.Like S.c S.c' x x'
    rw [Array.getElem?_modify, Array.getElem?_modify]
    by_cases heq : p.builder = q.builder
    · rw [if_pos heq, if_pos (hsame.1 heq), hx, hx']
      exact ⟨f x, f x', rfl, rfl, hf q x x' hlike⟩
    · rw [if_neg heq, if_neg (mt hsame.2 heq)]
      exact ⟨x, x', hx, hx', hlike⟩
  apart o x st ho := by
    obtain ⟨hx', hst', hne⟩ := h.apart o x st ho
    refine ⟨?_, hst', hne⟩
    rw [Array.getElem?_modify, if_neg (hne p hp).1]
    exact hx'

/-- The pair that comes to be when both sessions make a builder. -/
def made (s s' : Session) : Pair :=
  ⟨s.builders.size, s.records.size, s'.builders.size, s'.records.size⟩

theorem built (h : Twins S own s s') (kind : BuilderKind) (st : Statements) :
    Twins S (made s s' :: own) (s.withBuilder S.c kind st) (s'.withBuilder S.c' kind st) := by
  have hgrown := grown_withBuilder s S.c kind st
  have hgrown' := grown_withBuilder s' S.c' kind st
  -- Builders and statements that are there have smaller numbers than those to come.
  have holder (p : Pair) (hp : p ∈ own) :
      (made s s').builder ≠ p.builder ∧ (made s s').builder' ≠ p.builder' ∧
      (made s s').record ≠ p.record ∧ (made s s').record' ≠ p.record' := by
    obtain ⟨⟨x, x', hx, hx', -⟩, ⟨st, hst, hst'⟩⟩ := h.agrees p hp
    exact ⟨size_ne hx, size_ne hx', size_ne hst, size_ne hst'⟩
  refine { h with agrees := ?_, sameBuilder := ?_, sameRecord := ?_, apart := ?_ }
  · intro p hp
    rcases List.mem_cons.1 hp with rfl | hp
    · exact ⟨⟨_, _, Array.getElem?_push_size,
         Array.getElem?_push_size, rfl, rfl, rfl, rfl, rfl, rfl⟩,
        ⟨st, Array.getElem?_push_size, Array.getElem?_push_size⟩⟩
    · obtain ⟨⟨x, x', hx, hx', hlike⟩, ⟨st, hst, hst'⟩⟩ := h.agrees p hp
      exact ⟨⟨x, x', hgrown.builders _ x hx, hgrown'.builders _ x' hx', hlike⟩,
        ⟨st, hgrown.records _ st hst, hgrown'.records _ st hst'⟩⟩
  · intro p hp q hq
    rcases List.mem_cons.1 hp with rfl | hp <;> rcases List.mem_cons.1 hq with rfl | hq
    · exact iff_of_true rfl rfl
    · exact iff_of_false (holder q hq).1 (holder q hq).2.1
    · exact iff_of_false (holder p hp).1.symm (holder p hp).2.1.symm
    · exact h.sameBuilder p hp q hq
  · intro p hp q hq
    rcases List.mem_cons.1 hp with rfl | hp <;> rcases List.mem_cons.1 hq with rfl | hq
    · exact iff_of_true rfl rfl
    · exact iff_of_false (holder q hq).2.2.1 (holder q hq).2.2.2
    · exact iff_of_false (holder p hp).2.2.1.symm (holder p hp).2.2.2.symm
    · exact h.sameRecord p hp q hq
  · intro o x st ho
    obtain ⟨hx', hst', hne⟩ := h.apart o x st ho
    refine ⟨hgrown.builders o x hx', hgrown.records _ st hst', fun p hp => ?_⟩
    rcases List.mem_cons.1 hp with rfl | hp
    · exact ⟨size_ne hx', size_ne hst'⟩
    · exact hne p hp

/-- The builders of a pair compile alike. -/
theorem queryOf_eq (h : Twins S own s s') {b b' : Nat} (hb : Coupled own b b') (op : Operation)
    (payload : List Value) : s'.queryOf b' op payload = s.queryOf b op payload := by
  obtain ⟨p, hp, rfl, rfl⟩ := hb
  exact (h.agrees p hp).queryOf_eq (h.connections ▸ S.connected) (h.connections' ▸ S.connected')
    S.adapter op payload

end Twins

/-! ## Concurring actions -/

variable {α β γ δ ε ζ : Type} {S : Stage} {own : List Pair}

/-- From twin sessions on, two actions come to the same fault or to related results, and leave twins
behind. -/
def Concur (S : Stage) (own : List Pair) (x : Action α) (y : Action β)
    (Q : List Pair → α → β → Prop) : Prop :=
  ∀ r r' s s', Twins S own s s' → ∃ own', own ⊆ own' ∧
    Twins S own' (runIn r x s).2 (runIn r' y s').2 ∧
    Agree (Q own') (runIn r x s).1 (runIn r' y s').1

/-- Two actions concur and come to the same result. -/
abbrev Match (S : Stage) (own : List Pair) (x y : Action α) : Prop :=
  Concur S own x y fun _ => Eq

namespace Concur

variable {Q : List Pair → α → β → Prop} {R : List Pair → γ → δ → Prop}

theorem pure {a : α} {b : β} (h : Q own a b) : Concur S own (Pure.pure a) (Pure.pure b) Q :=
  fun _ _ _ _ htwins => ⟨own, List.Subset.refl own, htwins, .ok h⟩

theorem throw (f : Fault) : Concur S own (MonadExcept.throw f) (MonadExcept.throw f) Q :=
  fun _ _ _ _ htwins => ⟨own, List.Subset.refl own, htwins, .error f⟩

theorem bind {x : Action α} {y : Action β} {k : α → Action γ} {l : β → Action δ}
    (hx : Concur S own x y Q)
    (hk : ∀ own', own ⊆ own' → ∀ a b, Q own' a b → Concur S own' (k a) (l b) R) :
    Concur S own (x >>= k) (y >>= l) R := by
  intro r r' s s' htwins
  obtain ⟨own', hsub, htwins', hagree⟩ := hx r r' s s' htwins
  rw [runIn_bind, runIn_bind]
  generalize runIn r x s = p at htwins' hagree
  generalize runIn r' y s' = p' at htwins' hagree
  obtain ⟨z, t⟩ := p
  obtain ⟨z', t'⟩ := p'
  dsimp only at htwins' hagree
  cases hagree with
  | ok h =>
    obtain ⟨own'', hsub', hrest⟩ := hk own' hsub _ _ h r r' t t' htwins'
    exact ⟨own'', List.Subset.trans hsub hsub', hrest⟩
  | error f => exact ⟨own', hsub, htwins', .error f⟩

theorem mono {Q' : List Pair → α → β → Prop} {x : Action α} {y : Action β}
    (hx : Concur S own x y Q) (h : ∀ own' a b, own ⊆ own' → Q own' a b → Q' own' a b) :
    Concur S own x y Q' := by
  intro r r' s s' htwins
  obtain ⟨own', hsub, htwins', hagree⟩ := hx r r' s s' htwins
  exact ⟨own', hsub, htwins', hagree.mono fun a b => h own' a b hsub⟩

/-- After actions that come to the same. -/
theorem andThen {x y : Action ε} {k : ε → Action γ} {l : ε → Action δ} (hx : Match S own x y)
    (hk : ∀ own', own ⊆ own' → ∀ a, Concur S own' (k a) (l a) R) :
    Concur S own (x >>= k) (y >>= l) R := by
  refine hx.bind fun own' hsub a b hab => ?_
  subst hab
  exact hk own' hsub a

/-- Actions that only read. -/
theorem reads {x : Action α} {y : Action β} (h : ∀ r r' s s', Twins S own s s' →
    ∃ z z', runIn r x s = (z, s) ∧ runIn r' y s' = (z', s') ∧ Agree (Q own) z z') :
    Concur S own x y Q := by
  intro r r' s s' htwins
  obtain ⟨z, z', hz, hz', hagree⟩ := h r r' s s' htwins
  rw [hz, hz']
  exact ⟨own, List.Subset.refl own, htwins, hagree⟩

theorem ofResult {y : Result α} {y' : Result β} (h : Agree (Q own) y y') :
    Concur S own (Session.ofResult y) (Session.ofResult y') Q :=
  .reads fun _ _ s s' _ => ⟨y, y', runIn_ofResult y s, runIn_ofResult y' s', h⟩

theorem result (y : Result α) : Match S own (Session.ofResult y) (Session.ofResult y) :=
  .ofResult (.self y)

/-- A check that fails with a fault, and what comes after it. -/
theorem checked {p : Prop} [Decidable p] {f : Fault} {k : PUnit → Action γ} {l : PUnit → Action δ}
    (h : Concur S own (k ()) (l ()) R) :
    Concur S own (if p then MonadExcept.throw f >>= k else k ())
      (if p then MonadExcept.throw f >>= l else l ()) R := by
  split
  · exact bind (Q := fun _ _ _ => False) (throw f) fun _ _ _ _ h => h.elim
  · exact h

/-! ### Loops -/

theorem mapM {P : ε → ζ → Prop} {f : ε → Action α} {g : ζ → Action α} {xs : List ε} {ys : List ζ}
    (h : List.Forall₂ P xs ys)
    (hf : ∀ own', own ⊆ own' → ∀ x y, P x y → Match S own' (f x) (g y)) :
    Match S own (xs.mapM f) (ys.mapM g) := by
  induction h generalizing own with
  | nil => exact .pure rfl
  | @cons x y xs ys hxy _ ih =>
    rw [List.mapM_cons, List.mapM_cons]
    refine (hf own (List.Subset.refl own) x y hxy).andThen fun own₁ h₁ a => ?_
    refine (ih fun own' hsub => hf own' (List.Subset.trans h₁ hsub)).andThen fun own₂ h₂ as => ?_
    exact .pure rfl

theorem forM {P : ε → ζ → Prop} {f : ε → Action PUnit} {g : ζ → Action PUnit} {xs : List ε}
    {ys : List ζ} (h : List.Forall₂ P xs ys)
    (hf : ∀ own', own ⊆ own' → ∀ x y, P x y → Match S own' (f x) (g y)) :
    Match S own (xs.forM f) (ys.forM g) := by
  induction h generalizing own with
  | nil => exact .pure rfl
  | @cons x y xs ys hxy _ ih =>
    refine (hf own (List.Subset.refl own) x y hxy).andThen fun own₁ h₁ _ => ?_
    exact ih fun own' hsub => hf own' (List.Subset.trans h₁ hsub)

end Concur

/-! ## What builders do -/

section

variable {b b' : Nat}

theorem concur_connectionOf (hb : Coupled own b b') :
    Concur S own (connectionOf b) (connectionOf b') fun _ c c' => c = S.c ∧ c' = S.c' :=
  .reads fun _ _ _ _ htwins =>
    ⟨.ok S.c, .ok S.c',
      runIn_connectionOf (htwins.opens hb).1, runIn_connectionOf (htwins.opens hb).2,
      .ok ⟨rfl, rfl⟩⟩

theorem match_adapterOf (hb : Coupled own b b') : Match S own (adapterOf b) (adapterOf b') :=
  .reads fun _ _ _ _ htwins =>
    ⟨.ok S.conn.adapter, .ok S.conn'.adapter, runIn_adapterOf (htwins.opens hb).1,
      runIn_adapterOf (htwins.opens hb).2, .ok S.adapter.symm⟩

theorem concur_builder (hb : Coupled own b b') :
    Concur S own (builder b) (builder b') fun _ x x' =>
      x'.kind = x.kind ∧ x'.overwrite = x.overwrite := by
  refine .reads fun r r' s s' htwins => ?_
  obtain ⟨p, hp, rfl, rfl⟩ := hb
  obtain ⟨x, x', hx, hx', hlike⟩ := (htwins.agrees p hp).builders
  exact ⟨.ok x, .ok x', runIn_builder hx, runIn_builder hx', .ok ⟨hlike.kind, hlike.overwrite⟩⟩

theorem match_overwrites (hb : Coupled own b b') : Match S own (overwrites b) (overwrites b') := by
  refine (concur_builder hb).bind fun own' _ x x' hx => .pure ?_
  rw [hx.2]

theorem match_statementsOf (hb : Coupled own b b') :
    Match S own (statementsOf b) (statementsOf b') := by
  refine .reads fun r r' s s' htwins => ?_
  obtain ⟨p, hp, rfl, rfl⟩ := hb
  obtain ⟨⟨x, x', hx, hx', hlike⟩, ⟨st, hst, hst'⟩⟩ := htwins.agrees p hp
  rw [← hlike.record] at hst
  rw [← hlike.record'] at hst'
  exact ⟨.ok st, .ok st, runIn_statementsOf hx hst, runIn_statementsOf hx' hst', .ok rfl⟩

theorem match_edit (hb : Coupled own b b') (f : Statements → Statements) :
    Match S own (edit b f) (edit b' f) := by
  intro r r' s s' htwins
  obtain ⟨p, hp, rfl, rfl⟩ := hb
  obtain ⟨x, x', hx, hx', hlike⟩ := (htwins.agrees p hp).builders
  refine ⟨own, List.Subset.refl own, ?_⟩
  rw [edit, edit, runIn_bind_ok (runIn_builder hx), runIn_bind_ok (runIn_builder hx')]
  dsimp only
  rw [hlike.record, hlike.record', runIn_modify, runIn_modify]
  exact ⟨htwins.edited hp f, .ok rfl⟩

theorem match_change (hb : Coupled own b b') (f : Statements → Result Statements) :
    Match S own (change b f) (change b' f) := by
  refine (match_statementsOf hb).andThen fun own₁ h₁ st => ?_
  refine (Concur.result (f st)).andThen fun own₂ h₂ st' => ?_
  exact match_edit ((hb.mono h₁).mono h₂) _

theorem match_tryEdit (hb : Coupled own b b') (f : Statements → Option Statements) :
    Match S own (tryEdit b f) (tryEdit b' f) :=
  match_change hb _

theorem match_setOverwrite (hb : Coupled own b b') (v : Value) :
    Match S own (updateBuilder b fun x => { x with overwrite := v })
      (updateBuilder b' fun x => { x with overwrite := v }) := by
  intro r r' s s' htwins
  obtain ⟨p, hp, rfl, rfl⟩ := hb
  rw [updateBuilder, updateBuilder, runIn_modify, runIn_modify]
  refine ⟨own, List.Subset.refl own, htwins.updated hp fun q x x' hlike => ?_, .ok rfl⟩
  exact ⟨hlike.record, hlike.record', hlike.connection, hlike.connection', hlike.kind, rfl⟩

theorem concur_newBuilder (kind : BuilderKind) (st : Statements) :
    Concur S own (newBuilder S.c kind st) (newBuilder S.c' kind st) Coupled := by
  intro r r' s s' htwins
  rw [runIn_newBuilder, runIn_newBuilder]
  exact ⟨_, List.subset_cons_self _ own, htwins.built kind st,
    .ok ⟨_, List.mem_cons_self, rfl, rfl⟩⟩

theorem match_log (level : LogLevel) (logger message : String) :
    Match S own (log level logger message) (log level logger message) := by
  intro r r' s s' htwins
  rw [log, note, runIn_modify, runIn_modify]
  exact ⟨own, List.Subset.refl own, htwins.noted _ _, .ok rfl⟩

theorem match_compileSelect (hb : Coupled own b b') :
    Match S own (compileSelect b) (compileSelect b') := by
  unfold compileSelect compileAs
  refine (match_adapterOf hb).andThen fun own₁ h₁ a => ?_
  refine (Concur.result (.ok Operation.select)).andThen fun own₂ h₂ op => ?_
  refine (match_statementsOf ((hb.mono h₁).mono h₂)).andThen fun own₃ h₃ st => ?_
  refine (Concur.result (a.compile op st [])).andThen fun own₄ h₄ q => ?_
  exact (match_log _ _ _).andThen fun own₅ h₅ _ => .pure rfl

/-- What the prefixes of both connections make of two names is the same, and null is null. -/
structure Stage.Named (S : Stage) (mixed : Bool) (v v' : Value) : Prop where
  same : (S.s.prefixOf S.conn >>= (Builder.prefixed · mixed v)) =
    (S.s'.prefixOf S.conn' >>= (Builder.prefixed · mixed v'))
  null : v = .null ↔ v' = .null

theorem match_addPrefix (hb : Coupled own b b') {mixed : Bool} {v v' : Value}
    (h : S.Named mixed v v') :
    Match S own (Builder.addPrefix b v mixed) (Builder.addPrefix b' v' mixed) := by
  refine .reads fun r r' s s' htwins => ?_
  obtain ⟨hopen, hopen'⟩ := htwins.opens hb
  refine ⟨_, _, runIn_addPrefix hopen v mixed, runIn_addPrefix hopen' v' mixed, ?_⟩
  rw [htwins.prefixOf_eq, htwins.prefixOf_eq', h.same]
  exact .self _

theorem match_addPrefixAll (hb : Coupled own b b') {mixed : Bool} {vs vs' : List Value}
    (h : S.Named mixed (.list vs) (.list vs')) :
    Match S own (Builder.addPrefixAll b vs mixed) (Builder.addPrefixAll b' vs' mixed) :=
  (match_addPrefix hb h).andThen fun _ _ _ => .pure rfl

end

end SqlBuilder
