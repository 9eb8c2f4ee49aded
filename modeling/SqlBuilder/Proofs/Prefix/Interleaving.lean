import Mathlib
import SqlBuilder.Proofs.Twins.Calls

/-!
# Interleaved queries

Two programs start queries on the standing connection and go on with calls, and their steps come in
any order. Starting a query sets the prefix of the connection, which every later step of both
programs reads, so the steps of one program can get in the way of the other (`queries_mixed_up`).

They do not where every step finds the prefix in force that it finds when its program runs alone:
then each query is what it is alone (`interleaved_queries`). So it is where all queries ask for one
prefix (`undisturbed_of_settles`). The invariant of the run is that each program has twins in its
run alone (`Alongside`); a step of the other program leaves them be.
-/

set_option autoImplicit false

namespace SqlBuilder

open Session Builder

/-! ## Programs -/

/-- What a choice puts in force, where the driver has no say in it. -/
def PrefixChoice.settled : PrefixChoice → Option Value
  | .off => some .null
  | .adopted => none
  | .given p => some (if (Value.text p).isTrue then .text p else .null)

/-- A step of a program. -/
inductive QueryStep where
  /-- Starts a query on the tables of a list, with a prefix for the connection. -/
  | table (tables tablePrefix : Value)
  /-- Makes a call on the query there is. -/
  | call (c : FluentCall)

namespace QueryStep

/-- Takes a step; the query of the program from then on. -/
def perform (current : Option Nat) : QueryStep → Action (Option Nat)
  | .table tables tablePrefix => do
    match ← Call.perform (.standing .table) none [.value tables, .value tablePrefix] with
    | .builder b => pure b
    | _ => pure current
  | .call c => do
    c.perform (← present current)
    pure current

/-- The arguments of the step are in order. -/
def proper : QueryStep → Bool
  | .table _ _ => true
  | .call c => c.proper

/-- The step starts a query. -/
def starts : QueryStep → Bool
  | .table _ _ => true
  | .call _ => false

/-- If the step starts a query, it puts a prefix in force, whatever the prefix of the driver. -/
def Settles (v : Value) : QueryStep → Prop
  | .table tables tablePrefix =>
    (∃ items, tables.toItems = .ok items) ∧ (prefixChoice tablePrefix).settled = some v
  | .call _ => True

end QueryStep

/-- The two programs. -/
inductive Party where
  | first
  | second
  deriving DecidableEq

/-- A session in which both programs are under way, each with the query it has. -/
structure Progress where
  session : Session
  current : Party → Option Nat

namespace Progress

/-- Nothing is done yet. -/
def start (s : Session) : Progress := ⟨s, fun _ => none⟩

/-- A program takes a step. After one that fails it goes on with the query it has. -/
def step (r : Reaction) (σ : Progress) (e : Party × QueryStep) : Progress :=
  let ended := runIn r (e.2.perform (σ.current e.1)) σ.session
  ⟨ended.2, Function.update σ.current e.1 (ended.1.toOption.getD (σ.current e.1))⟩

/-- Steps are taken one after another. -/
def run (r : Reaction) (σ : Progress) (steps : List (Party × QueryStep)) : Progress :=
  steps.foldl (step r) σ

/-- What the query of a program compiles to as an operation, if it has one. -/
def compiled (σ : Progress) (op : Operation) (payload : List Value) (p : Party) :
    Option (Result CompiledQuery) :=
  (σ.current p).map fun b => σ.session.queryOf b op payload

end Progress

/-- The steps of one program. -/
def alone (p : Party) (steps : List (Party × QueryStep)) : List (Party × QueryStep) :=
  steps.filter (·.1 = p)

/-- The prefix of a connection that is in force. -/
def Session.inForce (s : Session) (c : Nat) : Option Value :=
  s.connections[c]?.map (·.tablePrefix)

/-! ## Sessions side by side -/

/-- The standing connection of two sessions is the same but for its driver and prefix. -/
structure Session.Abreast (c : Nat) (s s' : Session) : Prop where
  standing : s.standing = some c
  standing' : s'.standing = some c
  functions : s'.functions = s.functions
  connected : ∃ conn conn', s.connections[c]? = some conn ∧ s'.connections[c]? = some conn' ∧
    conn'.adapter = conn.adapter ∧ conn'.hooks = conn.hooks

variable {r : Reaction} {c : Nat} {own : Option Pair} {apart : Nat → Builder → Statements → Prop}
  {s s' : Session}

/-- A connection is the same but for its driver and its prefix. -/
structure Session.Kept (c : Nat) (s t : Session) : Prop where
  functions : t.functions = s.functions
  standing : t.standing = s.standing
  connected : ∀ conn, s.connections[c]? = some conn → ∃ conn', t.connections[c]? = some conn' ∧
    conn'.adapter = conn.adapter ∧ conn'.hooks = conn.hooks

theorem Session.Kept.of_eq {t : Session} (hconnections : t.connections = s.connections)
    (hfunctions : t.functions = s.functions) (hstanding : t.standing = s.standing) :
    s.Kept c t where
  functions := hfunctions
  standing := hstanding
  connected conn hconn := ⟨conn, hconnections ▸ hconn, rfl, rfl⟩

theorem Session.Kept.trans {t u : Session} (h : s.Kept c t) (h' : t.Kept c u) : s.Kept c u where
  functions := h'.functions.trans h.functions
  standing := h'.standing.trans h.standing
  connected conn hconn := by
    obtain ⟨conn₁, hconn₁, hadapter, hhooks⟩ := h.connected conn hconn
    obtain ⟨conn₂, hconn₂, hadapter', hhooks'⟩ := h'.connected conn₁ hconn₁
    exact ⟨conn₂, hconn₂, hadapter'.trans hadapter, hhooks'.trans hhooks⟩

theorem Session.Abreast.kept {t t' : Session} (h : Session.Abreast c s s') (hs : s.Kept c t)
    (hs' : s'.Kept c t') : Session.Abreast c t t' where
  standing := hs.standing.trans h.standing
  standing' := hs'.standing.trans h.standing'
  functions := hs'.functions.trans (h.functions.trans hs.functions.symm)
  connected := by
    obtain ⟨conn, conn', hconn, hconn', hadapter, hhooks⟩ := h.connected
    obtain ⟨conn₁, hconn₁, hadapter₁, hhooks₁⟩ := hs.connected conn hconn
    obtain ⟨conn₁', hconn₁', hadapter₁', hhooks₁'⟩ := hs'.connected conn' hconn'
    exact ⟨conn₁, conn₁', hconn₁, hconn₁', hadapter₁'.trans (hadapter.trans hadapter₁.symm),
      hhooks₁'.trans (hhooks.trans hhooks₁.symm)⟩

/-- Besides, a program has a query in each, if it has one, and these are alike. Other builders of
the first session are apart from it. -/
structure Alongside (c : Nat) (own : Option Pair)
    (apart : Nat → Builder → Statements → Prop) (s s' : Session) :
    Prop extends Session.Abreast c s s' where
  agrees : ∀ p, own = some p → p.Agrees c c s s'
  apart : ∀ o x st, apart o x st → s.builders[o]? = some x ∧ s.records[x.record]? = some st ∧
    ∀ p, own = some p → p.builder ≠ o ∧ p.record ≠ x.record

/-- Twins on a stage whose prefixes are the same. -/
theorem Alongside.stage (h : Alongside c own apart s s') (hforce : s.inForce c = s'.inForce c) :
    ∃ S : Stage, S.Uniform ∧ S.c = c ∧ S.c' = c ∧ S.s = s ∧ S.s' = s' ∧ S.apart = apart ∧
      Twins S own.toList s s' := by
  obtain ⟨conn, conn', hconn, hconn', hadapter, hhooks⟩ := h.connected
  have hprefix : conn.tablePrefix = conn'.tablePrefix := by
    rw [inForce, inForce, hconn, hconn'] at hforce
    exact Option.some.inj hforce
  have hsame : s.prefixOf conn = s'.prefixOf conn' := by
    rw [prefixOf, prefixOf, hprefix, hhooks, h.functions]
  have hprefixes : Agree (fun _ _ => True) (s.prefixOf conn) (s'.prefixOf conn') := by
    rw [← hsame]
    exact .refl fun _ _ => trivial
  exact ⟨⟨s, s', c, c, conn, conn', hconn, hconn', hadapter, hprefixes, apart⟩, hsame, rfl, rfl,
    rfl, rfl, rfl, .start h.agrees h.apart⟩

/-- What twins are once a run has ended, seen from one of their pairs. -/
theorem Alongside.of_twins {S : Stage} {pairs : List Pair} {t t' : Session}
    (habreast : Session.Abreast c S.s S.s') (hc : S.c = c) (hc' : S.c' = c)
    (h : Twins S pairs t t') (hown : own.toList ⊆ pairs) : Alongside c own S.apart t t' where
  __ := habreast.kept (.of_eq h.connections h.functions h.standing)
    (.of_eq h.connections' h.functions' h.standing')
  agrees p hp := by
    have hagrees := h.agrees p (hown (Option.mem_toList.2 hp))
    rwa [hc, hc'] at hagrees
  apart o x st ho := by
    obtain ⟨hx, hst, hne⟩ := h.apart o x st ho
    exact ⟨hx, hst, fun p hp => hne p (hown (Option.mem_toList.2 hp))⟩

/-- A program goes on alike from queries that are alike. -/
def Faithful (c : Nat) (k : Option Nat → Action (Option Nat)) : Prop :=
  ∀ (S : Stage) (own : Option Pair), S.Uniform → S.c = c → S.c' = c →
    Concur S own.toList (k (own.map Pair.builder)) (k (own.map Pair.builder')) fun pairs b b' =>
      ∃ next : Option Pair, next.toList ⊆ pairs ∧ b = next.map Pair.builder ∧
        b' = next.map Pair.builder'

/-- The query of either session next to itself. -/
theorem Alongside.itself (h : Alongside c own apart s s') :
    Alongside c (own.map fun p => ⟨p.builder, p.record, p.builder, p.record⟩) (fun _ _ _ => False)
      s s ∧
    Alongside c (own.map fun p => ⟨p.builder', p.record', p.builder', p.record'⟩)
      (fun _ _ _ => False) s' s' := by
  obtain ⟨conn, conn', hconn, hconn', -, -⟩ := h.connected
  refine ⟨⟨⟨h.standing, h.standing, rfl, conn, conn, hconn, hconn, rfl, rfl⟩, ?_, nofun⟩,
    ⟨⟨h.standing', h.standing', rfl, conn', conn', hconn', hconn', rfl, rfl⟩, ?_, nofun⟩⟩
  · intro q hq
    obtain ⟨p, hp, rfl⟩ := Option.map_eq_some_iff.1 hq
    obtain ⟨⟨x, x', hx, -, hlike⟩, ⟨st, hst, -⟩⟩ := h.agrees p hp
    exact ⟨⟨x, x, hx, hx, hlike.record, hlike.record, hlike.connection, hlike.connection, rfl, rfl⟩,
      ⟨st, hst, hst⟩⟩
  · intro q hq
    obtain ⟨p, hp, rfl⟩ := Option.map_eq_some_iff.1 hq
    obtain ⟨⟨x, x', -, hx', hlike⟩, ⟨st, -, hst'⟩⟩ := h.agrees p hp
    exact ⟨⟨x', x', hx', hx', hlike.record', hlike.record', hlike.connection', hlike.connection',
      rfl, rfl⟩, ⟨st, hst', hst'⟩⟩

/-- What goes on alike keeps connections as they are. -/
theorem Faithful.connections {k : Option Nat → Action (Option Nat)} (hk : Faithful c k)
    (h : Alongside c own apart s s) :
    (runIn r (k (own.map Pair.builder)) s).2.connections = s.connections := by
  obtain ⟨S, huniform, hc, hc', rfl, -, -, htwins⟩ := h.stage rfl
  obtain ⟨pairs, -, htwins', -⟩ := hk S own huniform hc hc' r r _ _ htwins
  exact htwins'.connections

/-- Where two runs have got to from queries that are alike: what they came to is alike again, and
the first has kept what is not its business. -/
def Reached (c : Nat) (own : Option Pair) (apart : Nat → Builder → Statements → Prop) (s : Session)
    (x x' : Result (Option Nat) × Session) : Prop :=
  ∃ next : Option Pair, Alongside c next apart x.2 x'.2 ∧ s.Kept c x.2 ∧
    x.1.toOption.getD (own.map Pair.builder) = next.map Pair.builder ∧
    x'.1.toOption.getD (own.map Pair.builder') = next.map Pair.builder'

/-- What goes on alike from queries that are alike ends with queries that are alike, if the prefixes
in force are the same then. -/
theorem Faithful.reached {k : Option Nat → Action (Option Nat)} (hk : Faithful c k)
    (h : Alongside c own apart s s')
    (hforce : (runIn r (k (own.map Pair.builder)) s).2.inForce c =
      (runIn r (k (own.map Pair.builder')) s').2.inForce c) :
    Reached c own apart s (runIn r (k (own.map Pair.builder)) s)
      (runIn r (k (own.map Pair.builder')) s') := by
  have hsame : s.inForce c = s'.inForce c := by
    obtain ⟨hleft, hright⟩ := h.itself
    have hconnections := hk.connections (r := r) hleft
    have hconnections' := hk.connections (r := r) hright
    rw [Option.map_map] at hconnections hconnections'
    unfold inForce at hforce ⊢
    rwa [← hconnections, ← hconnections']
  have habreast := h.toAbreast
  obtain ⟨S, huniform, hc, hc', rfl, rfl, rfl, htwins⟩ := h.stage hsame
  obtain ⟨pairs, hsub, htwins', hagree⟩ := hk S own huniform hc hc' r r _ _ htwins
  generalize runIn r (k (own.map Pair.builder)) S.s = ended at htwins' hagree
  generalize runIn r (k (own.map Pair.builder')) S.s' = ended' at htwins' hagree
  obtain ⟨z, t⟩ := ended
  obtain ⟨z', t'⟩ := ended'
  have hkept : S.s.Kept c t := .of_eq htwins'.connections htwins'.functions htwins'.standing
  dsimp only at htwins' hagree
  cases hagree with
  | error f => exact ⟨own, .of_twins habreast hc hc' htwins' hsub, hkept, rfl, rfl⟩
  | ok hnext =>
    obtain ⟨next, hnext, rfl, rfl⟩ := hnext
    exact ⟨next, .of_twins habreast hc hc' htwins' hnext, hkept, rfl, rfl⟩

/-! ## Steps -/

/-- Makes a call on the query there is. -/
theorem faithful_call {call : FluentCall} (h : call.proper = true) :
    Faithful c fun current => (QueryStep.call call).perform current := by
  intro S own huniform hc hc'
  cases own with
  | none => exact .throw _
  | some p =>
    have hp : Coupled (some p).toList p.builder p.builder' :=
      ⟨p, List.mem_singleton_self p, rfl, rfl⟩
    have hcall := match_perform huniform.harmless hp call h
    rw [call.map_id] at hcall
    refine hcall.andThen fun pairs hsub _ => .pure ⟨some p, hsub, rfl, rfl⟩

/-- Starts a query on a connection. -/
def opened (c : Nat) (tables : List Value) : Action (Option Nat) := do
  let b ← newBuilder c .query .empty
  fromTables b tables
  pure (some b)

theorem faithful_opened (tables : List Value) : Faithful c fun _ => opened c tables := by
  intro S own huniform hc hc'
  subst hc
  have hnew : Concur S own.toList (newBuilder S.c .query .empty) (newBuilder S.c' .query .empty)
      Coupled := concur_newBuilder .query .empty
  rw [hc'] at hnew
  refine hnew.bind fun pairs _ b b' hb => ?_
  refine (match_fromTables hb (List.forall₂_same.2 fun v _ => huniform.tables v)).andThen
    fun pairs' hsub _ => .pure ?_
  obtain ⟨p, hp, rfl, rfl⟩ := hb
  exact ⟨some p, List.cons_subset.2 ⟨hsub hp, List.nil_subset _⟩, rfl, rfl⟩

/-- Besides, builders and statements are the same. -/
structure Session.Reset (c : Nat) (s t : Session) : Prop extends Session.Kept c s t where
  builders : t.builders = s.builders
  records : t.records = s.records

theorem Session.Reset.trans {t u : Session} (h : s.Reset c t) (h' : t.Reset c u) :
    s.Reset c u where
  __ := h.toKept.trans h'.toKept
  builders := h'.builders.trans h.builders
  records := h'.records.trans h.records

theorem reset_modify (f : Connection → Connection)
    (hf : ∀ conn, (f conn).adapter = conn.adapter ∧ (f conn).hooks = conn.hooks)
    (journal : List Entry) :
    s.Reset c { s with connections := s.connections.modify c f, journal } where
  builders := rfl
  records := rfl
  functions := rfl
  standing := rfl
  connected conn hconn := by
    refine ⟨f conn, ?_, hf conn⟩
    rw [Array.getElem?_modify, if_pos rfl, hconn]
    rfl

theorem inForce_modify {conn : Connection} (hconn : s.connections[c]? = some conn)
    (f : Connection → Connection) (journal : List Entry) :
    ({ s with connections := s.connections.modify c f, journal } : Session).inForce c =
      some (f conn).tablePrefix := by
  rw [inForce, Array.getElem?_modify, if_pos rfl, hconn]
  rfl

theorem runIn_setTablePrefix {conn : Connection} (hconn : s.connections[c]? = some conn)
    (choice : PrefixChoice) :
    ∃ t, runIn r (setTablePrefix c choice) s = (.ok (), t) ∧ s.Reset c t ∧
      ∀ v, choice.settled = some v → t.inForce c = some v := by
  have hadopt {s : Session} {conn : Connection} (hconn : s.connections[c]? = some conn) :
      ∃ t, runIn r (adoptPrefix c) s = (.ok (), t) ∧ s.Reset c t ∧
        t.inForce c = some (adoptedPrefix conn.driver) := by
    rw [adoptPrefix, runIn_bind_ok (runIn_connection hconn)]
    exact ⟨_, rfl, reset_modify (fun k => { k with tablePrefix := adoptedPrefix conn.driver })
      (fun _ => ⟨rfl, rfl⟩) _, inForce_modify hconn _ _⟩
  cases choice with
  | off =>
    refine ⟨_, rfl, reset_modify (fun k => { k with tablePrefix := .null }) (fun _ => ⟨rfl, rfl⟩)
      s.journal, fun v hv => ?_⟩
    cases hv
    exact inForce_modify hconn (fun k => { k with tablePrefix := .null }) s.journal
  | adopted =>
    obtain ⟨t, hrun, hreset, -⟩ := hadopt hconn
    exact ⟨t, hrun, hreset, nofun⟩
  | given p =>
    let give (k : Connection) : Connection :=
      { k with driver := { k.driver with tablePrefix := .text p } }
    have hgiven := reset_modify (s := s) (c := c) give (fun _ => ⟨rfl, rfl⟩) s.journal
    have hconn' : (s.connections.modify c give)[c]? = some (give conn) := by
      rw [Array.getElem?_modify, if_pos rfl, hconn]
      rfl
    obtain ⟨t, hrun, hreset, hforce⟩ :=
      hadopt (s := { s with connections := s.connections.modify c give }) hconn'
    refine ⟨t, hrun, hgiven.trans hreset, fun v hv => ?_⟩
    cases hv
    exact hforce

theorem Alongside.reset {t t' : Session} (h : Alongside c own apart s s') (hs : s.Reset c t)
    (hs' : s'.Reset c t') : Alongside c own apart t t' where
  __ := h.toAbreast.kept hs.toKept hs'.toKept
  agrees p hp := by
    obtain ⟨hbuilders, hrecords⟩ := h.agrees p hp
    refine ⟨?_, ?_⟩
    · rwa [hs.builders, hs'.builders]
    · rwa [hs.records, hs'.records]
  apart o x st ho := by
    rw [hs.builders, hs.records]
    exact h.apart o x st ho

theorem runIn_table {conn : Connection} (hstanding : s.standing = some c)
    (hconn : s.connections[c]? = some conn) (tables tablePrefix : Value) (current : Option Nat) :
    ∃ t, s.Reset c t ∧ (∀ v, (prefixChoice tablePrefix).settled = some v → t.inForce c = some v) ∧
      runIn r ((QueryStep.table tables tablePrefix).perform current) s =
        match tables.toItems with
        | .ok items => runIn r (opened c items) t
        | .error f => (.error f, s) := by
  obtain ⟨t, hrun, hreset, hsettled⟩ :=
    runIn_setTablePrefix (r := r) hconn (prefixChoice tablePrefix)
  refine ⟨t, hreset, hsettled, ?_⟩
  have hperform : (QueryStep.table tables tablePrefix).perform current = (do
      let items ← ofResult tables.toItems
      let c ← standingConnection
      setTablePrefix c (prefixChoice tablePrefix)
      opened c items) := by
    show (do
      let items ← ofResult tables.toItems
      let c ← standingConnection
      setTablePrefix c (prefixChoice tablePrefix)
      let b ← newBuilder c .query .empty
      Call.fluent b (fromTables b items)) >>= _ = _
    simp only [bind_assoc, pure_bind, Call.fluent, opened]
  rw [hperform, runIn_bind, runIn_ofResult]
  cases tables.toItems with
  | error f => rfl
  | ok items =>
    have hc : runIn r standingConnection s = (.ok c, s) := by
      rw [standingConnection, runIn_bind_ok (runIn_get s), hstanding]
      rfl
    dsimp only
    rw [runIn_bind_ok hc, runIn_bind_ok hrun]

/-- **A step.** A program that finds the prefix in force which it finds alone does what it does
alone. -/
theorem QueryStep.reached (h : Alongside c own apart s s') {step : QueryStep}
    (hproper : step.proper = true)
    (hforce : (runIn r (step.perform (own.map Pair.builder)) s).2.inForce c =
      (runIn r (step.perform (own.map Pair.builder')) s').2.inForce c) :
    Reached c own apart s (runIn r (step.perform (own.map Pair.builder)) s)
      (runIn r (step.perform (own.map Pair.builder')) s') := by
  cases step with
  | call call => exact (faithful_call hproper).reached h hforce
  | table tables tablePrefix =>
    obtain ⟨conn, conn', hconn, hconn', -, -⟩ := h.connected
    obtain ⟨t, hreset, -, hrun⟩ := runIn_table (r := r) h.standing hconn tables tablePrefix
      (own.map Pair.builder)
    obtain ⟨t', hreset', -, hrun'⟩ := runIn_table (r := r) h.standing' hconn' tables tablePrefix
      (own.map Pair.builder')
    rw [hrun, hrun'] at hforce ⊢
    generalize tables.toItems = items at hforce ⊢
    cases items with
    | error f => exact ⟨own, h, .of_eq rfl rfl rfl, rfl, rfl⟩
    | ok items =>
      have hopened :=
        (faithful_opened (c := c) items).reached (r := r) (h.reset hreset hreset') hforce
      obtain ⟨next, hnext, hkept, hcurrent⟩ := hopened
      exact ⟨next, hnext, hreset.toKept.trans hkept, hcurrent⟩

/-- Where all queries ask for one prefix, it is in force after every step. -/
theorem QueryStep.settled (h : Alongside c own apart s s) {step : QueryStep} {v : Value}
    (hproper : step.proper = true) (hsettles : step.Settles v)
    (hforce : step.starts = false → s.inForce c = some v) :
    (runIn r (step.perform (own.map Pair.builder)) s).2.inForce c = some v := by
  cases step with
  | call call =>
    rw [inForce, (faithful_call hproper).connections h]
    exact hforce rfl
  | table tables tablePrefix =>
    obtain ⟨conn, -, hconn, -⟩ := h.connected
    obtain ⟨⟨items, hitems⟩, hv⟩ := hsettles
    obtain ⟨t, hreset, hsettled, hrun⟩ := runIn_table (r := r) h.standing hconn tables tablePrefix
      (own.map Pair.builder)
    rw [hrun, hitems, inForce]
    dsimp only
    rw [(faithful_opened items).connections (h.reset hreset hreset)]
    exact hsettled v hv

/-! ## Runs -/

/-- Where an interleaving has got to, next to each program alone: each has a query like that it has
alone, and these are apart from one another. -/
structure Interleaved (c : Nat) (own : Party → Option Pair) (σ : Progress)
    (τ : Party → Progress) : Prop where
  alongside : ∀ p, Alongside c (own p) (fun _ _ _ => False) σ.session (τ p).session
  current : ∀ p, σ.current p = (own p).map Pair.builder
  current' : ∀ p, (τ p).current p = (own p).map Pair.builder'
  parted : ∀ p q, p ≠ q → ∀ x y, own p = some x → own q = some y →
    x.builder ≠ y.builder ∧ x.record ≠ y.record

/-- The queries of the other programs. -/
def others (own : Party → Option Pair) (p : Party) (s : Session) (o : Nat) (x : Builder)
    (st : Statements) : Prop :=
  ∃ q y, p ≠ q ∧ own q = some y ∧ y.builder = o ∧ s.builders[o]? = some x ∧ x.record = y.record ∧
    s.records[x.record]? = some st

/-- The query of another program is kept by a step, and that of the step is apart from it. -/
theorem Pair.Agrees.beside {own : Party → Option Pair} {p q : Party} {next : Option Pair} {y : Pair}
    {t t' : Session} (h : y.Agrees c c s s') (hne : p ≠ q) (hy : own q = some y)
    (hnext : Alongside c next (others own p s) t t') :
    y.Agrees c c t s' ∧ ∀ x, next = some x → x.builder ≠ y.builder ∧ x.record ≠ y.record := by
  obtain ⟨⟨x, x', hx, hx', hlike⟩, ⟨st, hst, hst'⟩⟩ := h
  rw [← hlike.record] at hst
  obtain ⟨hx₁, hst₁, hapart⟩ := hnext.apart y.builder x st
    ⟨q, y, hne, hy, rfl, hx, hlike.record, hst⟩
  rw [hlike.record] at hst₁ hapart
  exact ⟨⟨⟨x, x', hx₁, hx', hlike⟩, ⟨st, hst₁, hst'⟩⟩, hapart⟩

/-- What a step makes of the query of its program is alike in the interleaving and alone. -/
theorem Interleaved.reached {own : Party → Option Pair} {σ : Progress} {τ : Party → Progress}
    (h : Interleaved c own σ τ) {p : Party} {step : QueryStep} (hproper : step.proper = true)
    (hforce : (σ.step r (p, step)).session.inForce c =
      ((τ p).step r (p, step)).session.inForce c) :
    Reached c (own p) (others own p σ.session) σ.session
      (runIn r (step.perform (σ.current p)) σ.session)
      (runIn r (step.perform ((τ p).current p)) (τ p).session) := by
  have hapart : Alongside c (own p) (others own p σ.session) σ.session (τ p).session := by
    refine { h.alongside p with apart := ?_ }
    rintro o x st ⟨q, y, hne, hy, rfl, hx, hrecord, hst⟩
    refine ⟨hx, hst, fun z hz => ?_⟩
    rw [hrecord]
    exact h.parted p q hne z y hz hy
  unfold Progress.step at hforce
  dsimp only at hforce
  rw [h.current, h.current'] at hforce ⊢
  exact QueryStep.reached hapart hproper hforce

theorem Interleaved.step {own : Party → Option Pair} {σ : Progress} {τ : Party → Progress}
    (h : Interleaved c own σ τ) {e : Party × QueryStep} (hproper : e.2.proper = true)
    (hforce : (σ.step r e).session.inForce c = ((τ e.1).step r e).session.inForce c) :
    ∃ own', Interleaved c own' (σ.step r e) (Function.update τ e.1 ((τ e.1).step r e)) := by
  obtain ⟨p, step⟩ := e
  obtain ⟨next, hnext, hkept, hcurrent, hcurrent'⟩ := h.reached hproper hforce
  rw [← h.current] at hcurrent
  rw [← h.current'] at hcurrent'
  refine ⟨Function.update own p next, ?_, ?_, ?_, ?_⟩
  · intro q
    by_cases hq : q = p
    · subst hq
      rw [Function.update_self, Function.update_self]
      exact { hnext with apart := nofun }
    · rw [Function.update_of_ne hq, Function.update_of_ne hq]
      have hother := h.alongside q
      exact { hother.toAbreast.kept hkept (.of_eq rfl rfl rfl) with
        agrees := fun y hy => ((hother.agrees y hy).beside (Ne.symm hq) hy hnext).1
        apart := nofun }
  · intro q
    show Function.update σ.current p _ q = _
    by_cases hq : q = p
    · subst hq
      rw [Function.update_self, Function.update_self]
      exact hcurrent
    · rw [Function.update_of_ne hq, Function.update_of_ne hq]
      exact h.current q
  · intro q
    by_cases hq : q = p
    · subst hq
      rw [Function.update_self, Function.update_self]
      show Function.update (τ q).current q _ q = _
      rw [Function.update_self]
      exact hcurrent'
    · rw [Function.update_of_ne hq, Function.update_of_ne hq]
      exact h.current' q
  · -- A query of this program is apart from one of another as `hnext` says.
    have hnew (q : Party) (hq : q ≠ p) (x y : Pair) (hx : next = some x) (hy : own q = some y) :
        x.builder ≠ y.builder ∧ x.record ≠ y.record :=
      (((h.alongside q).agrees y hy).beside (Ne.symm hq) hy hnext).2 x hx
    intro q q' hne x y hx hy
    by_cases hq : q = p
    · subst hq
      rw [Function.update_self] at hx
      rw [Function.update_of_ne (Ne.symm hne)] at hy
      exact hnew q' (Ne.symm hne) x y hx hy
    · rw [Function.update_of_ne hq] at hx
      by_cases hq' : q' = p
      · subst hq'
        rw [Function.update_self] at hy
        obtain ⟨hbuilder, hrecord⟩ := hnew q hq y x hy hx
        exact ⟨Ne.symm hbuilder, Ne.symm hrecord⟩
      · rw [Function.update_of_ne hq'] at hy
        exact h.parted q q' hne x y hx hy

theorem Progress.run_append (σ : Progress) (steps : List (Party × QueryStep))
    (e : Party × QueryStep) : σ.run r (steps ++ [e]) = (σ.run r steps).step r e :=
  List.foldl_append

theorem alone_append (p : Party) (before : List (Party × QueryStep)) (e : Party × QueryStep) :
    alone p (before ++ [e]) = if e.1 = p then alone p before ++ [e] else alone p before := by
  rw [alone, List.filter_append]
  by_cases hp : e.1 = p
  · rw [if_pos hp, List.filter_cons_of_pos (by simpa using hp)]
    rfl
  · rw [if_neg hp, List.filter_cons_of_neg (by simpa using hp)]
    exact List.append_nil _

/-- Every step finds the prefix in force that it finds when its program runs alone. -/
def Undisturbed (r : Reaction) (c : Nat) (s : Session) (steps : List (Party × QueryStep)) : Prop :=
  ∀ before e, before ++ [e] <+: steps →
    ((Progress.start s).run r (before ++ [e])).session.inForce c =
      ((Progress.start s).run r (alone e.1 (before ++ [e]))).session.inForce c

theorem Undisturbed.of_append {steps after : List (Party × QueryStep)}
    (h : Undisturbed r c s (steps ++ after)) : Undisturbed r c s steps :=
  fun before e hbefore => h before e (hbefore.trans (List.prefix_append steps after))

/-- **A run.** -/
theorem interleaved_run {conn : Connection} (hstanding : s.standing = some c)
    (hconn : s.connections[c]? = some conn) {steps : List (Party × QueryStep)}
    (hproper : ∀ e ∈ steps, e.2.proper = true) (hforce : Undisturbed r c s steps) :
    ∃ own, Interleaved c own ((Progress.start s).run r steps)
      fun p => (Progress.start s).run r (alone p steps) := by
  induction steps using List.reverseRecOn with
  | nil =>
    refine ⟨fun _ => none, fun p => ?_, fun _ => rfl, fun _ => rfl, nofun⟩
    exact ⟨⟨hstanding, hstanding, rfl, conn, conn, hconn, hconn, rfl, rfl⟩, nofun, nofun⟩
  | append_singleton before e ih =>
    obtain ⟨own, hbefore⟩ := ih (fun e he => hproper e (List.mem_append_left _ he)) hforce.of_append
    have hstep := hforce before e (List.prefix_refl _)
    rw [alone_append, if_pos rfl, Progress.run_append, Progress.run_append] at hstep
    obtain ⟨own', hafter⟩ := hbefore.step (hproper e (List.mem_append_right _ List.mem_cons_self))
      hstep
    refine ⟨own', ?_⟩
    have halone : (fun p => (Progress.start s).run r (alone p (before ++ [e]))) =
        Function.update (fun p => (Progress.start s).run r (alone p before)) e.1
          (((Progress.start s).run r (alone e.1 before)).step r e) := by
      funext p
      rw [alone_append]
      by_cases hp : e.1 = p
      · subst hp
        rw [if_pos rfl, Function.update_self, Progress.run_append]
      · rw [if_neg hp, Function.update_of_ne (Ne.symm hp)]
    rw [halone, Progress.run_append]
    exact hafter

/-- Queries that all ask for one prefix are undisturbed. -/
theorem undisturbed_of_settles {conn : Connection} (hstanding : s.standing = some c)
    (hconn : s.connections[c]? = some conn) {v : Value} {steps : List (Party × QueryStep)}
    (hproper : ∀ e ∈ steps, e.2.proper = true) (hsettles : ∀ e ∈ steps, e.2.Settles v)
    (hstarts : ∀ p, ∀ e ∈ (alone p steps).head?, e.2.starts = true) :
    Undisturbed r c s steps := by
  suffices h : Undisturbed r c s steps ∧ ∀ p, alone p steps ≠ [] →
      ((Progress.start s).run r steps).session.inForce c = some v ∧
        ((Progress.start s).run r (alone p steps)).session.inForce c = some v from h.1
  induction steps using List.reverseRecOn with
  | nil => exact ⟨fun before e h => absurd (List.prefix_nil.1 h) (by simp), fun p h => absurd rfl h⟩
  | append_singleton before e ih =>
    have hhead (p : Party) : ∀ e' ∈ (alone p before).head?, e'.2.starts = true := by
      intro e' he'
      refine hstarts p e' ?_
      rw [alone, List.filter_append, List.head?_append]
      exact Option.or_eq_some_iff.2 (.inl he')
    obtain ⟨hbefore, hforce⟩ := ih (fun e he => hproper e (List.mem_append_left _ he))
      (fun e he => hsettles e (List.mem_append_left _ he)) hhead
    obtain ⟨own, hown⟩ := interleaved_run hstanding hconn
      (fun e he => hproper e (List.mem_append_left _ he)) hbefore
    have hlast : e ∈ before ++ [e] := List.mem_append_right _ List.mem_cons_self
    -- A call is not the first step of its program, so the prefix is in force by then.
    have hstarted (hcall : e.2.starts = false) : alone e.1 before ≠ [] := by
      intro hnil
      have hfirst := hstarts e.1 e (by rw [alone_append, if_pos rfl, hnil]; rfl)
      rw [hcall] at hfirst
      cases hfirst
    obtain ⟨hleft, hright⟩ := (hown.alongside e.1).itself
    have hafter := QueryStep.settled (r := r) hleft (hproper e hlast) (hsettles e hlast)
      fun hcall => (hforce e.1 (hstarted hcall)).1
    have hafter' := QueryStep.settled (r := r) hright (hproper e hlast) (hsettles e hlast)
      fun hcall => (hforce e.1 (hstarted hcall)).2
    rw [Option.map_map] at hafter hafter'
    have hrunLeft : ((Progress.start s).run r (before ++ [e])).session.inForce c = some v := by
      rw [Progress.run_append, Progress.step, hown.current]
      exact hafter
    have hrunRight : ((Progress.start s).run r (alone e.1 (before ++ [e]))).session.inForce c =
        some v := by
      rw [alone_append, if_pos rfl, Progress.run_append, Progress.step, hown.current']
      exact hafter'
    refine ⟨fun before' e' hprefix => ?_, fun p hp => ⟨hrunLeft, ?_⟩⟩
    · rcases List.prefix_concat_iff.1 hprefix with heq | hprefix
      · obtain ⟨rfl, he⟩ := List.append_inj' heq rfl
        cases he
        rw [hrunLeft, hrunRight]
      · exact hbefore before' e' hprefix
    · by_cases hpe : e.1 = p
      · subst hpe
        exact hrunRight
      · rw [alone_append, if_neg hpe] at hp ⊢
        exact (hforce p hp).2

/-- Where every step of an interleaving finds the prefix in force that it finds when its program
runs alone, the query of each program compiles to what it compiles to alone. -/
theorem interleaved_queries {conn : Connection} (hstanding : s.standing = some c)
    (hconn : s.connections[c]? = some conn) {steps : List (Party × QueryStep)}
    (hproper : ∀ e ∈ steps, e.2.proper = true) (hforce : Undisturbed r c s steps) (op : Operation)
    (payload : List Value) (p : Party) :
    ((Progress.start s).run r steps).compiled op payload p =
      ((Progress.start s).run r (alone p steps)).compiled op payload p := by
  obtain ⟨own, h⟩ := interleaved_run hstanding hconn hproper hforce
  unfold Progress.compiled
  rw [h.current p, h.current' p]
  cases hp : own p with
  | none => rfl
  | some q =>
    obtain ⟨conn, conn', hconn, hconn', hadapter, -⟩ := (h.alongside p).connected
    have hquery := ((h.alongside p).agrees q hp).queryOf_eq hconn hconn' hadapter op payload
    exact congrArg some hquery.symm

/-- Listeners do nothing. -/
def unmoved : Reaction := fun _ _ => pure ()

/-- A session with a single connection, which has no prefix. -/
def plainSession : Session where
  connections := #[{
    driver := Driver.ofScenario {}
    scenario := {}
    settings := {}
    adapter := { dialect := .mysql } }]
  first := some 0
  standing := some 0

/-- A program selects from `a` with the prefix `x_` and filters by a column of it. In between
another selects from `b` with a prefix of its own. -/
def filteredMeanwhile (tablePrefix : String) : List (Party × QueryStep) :=
  [(.first, .table (.list [.text "a"]) (.text "x_")),
    (.second, .table (.list [.text "b"]) (.text tablePrefix)),
    (.first, .call (.call (.condition (.compare .and)) [.value (.text "a.id"), .value (.int 1)]))]

/-- What the first program of `filteredMeanwhile` collects. -/
def filteredBy (column : String) : Statements :=
  { Statements.empty with
    tables := .list [.text "x_a"]
    wheres := some [.plain (.text column) (.text "=") (.int 1) (.text "AND")] }

/-- What a query is as a text. -/
def selectText (q : Option (Result CompiledQuery)) : Option String :=
  q.bind fun q => q.toOption.map (·.sql.toText)

/-- With the prefix of the other program, the filter is not of the table that is selected from. -/
theorem queries_mixed_up :
    selectText (((Progress.start plainSession).run unmoved (filteredMeanwhile "y_")).compiled
        .select [] .first) = some "SELECT * FROM x_a WHERE y_a.id = ?" ∧
      selectText (((Progress.start plainSession).run unmoved
        (alone .first (filteredMeanwhile "y_"))).compiled .select [] .first) =
          some "SELECT * FROM x_a WHERE x_a.id = ?" := by
  have hmixed : ((Progress.start plainSession).run unmoved (filteredMeanwhile "y_")).compiled
      .select [] .first =
        some (Adapter.compile { dialect := .mysql } .select (filteredBy "y_a.id") []) := rfl
  have halone : ((Progress.start plainSession).run unmoved
      (alone .first (filteredMeanwhile "y_"))).compiled .select [] .first =
        some (Adapter.compile { dialect := .mysql } .select (filteredBy "x_a.id") []) := rfl
  rw [hmixed, halone]
  constructor <;> cbv

/-- With the same prefix, they do not interfere. -/
theorem interleaved_queries_of_one_prefix :
    Undisturbed unmoved 0 plainSession (filteredMeanwhile "x_") ∧ ∀ op payload p,
      ((Progress.start plainSession).run unmoved (filteredMeanwhile "x_")).compiled op payload p =
        ((Progress.start plainSession).run unmoved
          (alone p (filteredMeanwhile "x_"))).compiled op payload p := by
  have hproper : ∀ e ∈ filteredMeanwhile "x_", e.2.proper = true := by decide
  have hsettles : ∀ e ∈ filteredMeanwhile "x_", e.2.Settles (.text "x_") := by
    rw [filteredMeanwhile, List.forall_mem_cons, List.forall_mem_cons, List.forall_mem_singleton]
    exact ⟨⟨⟨_, rfl⟩, rfl⟩, ⟨⟨_, rfl⟩, rfl⟩, trivial⟩
  have hstarts : ∀ p, ∀ e ∈ (alone p (filteredMeanwhile "x_")).head?, e.2.starts = true := by
    rintro (_ | _) e he
    all_goals
      cases he
      rfl
  have hforce : Undisturbed unmoved 0 plainSession (filteredMeanwhile "x_") :=
    undisturbed_of_settles rfl rfl hproper hsettles hstarts
  exact ⟨hforce, interleaved_queries rfl rfl hproper hforce⟩

end SqlBuilder
