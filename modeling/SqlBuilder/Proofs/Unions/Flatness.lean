import SqlBuilder.Proofs.Frame.Programs

/-!
# Unions stay flat

Builders start with empty statements. However they are united, with each other and with themselves,
copied or shared, no entry of a union has unions of its own (`Frame.flat`). So the select of a
builder is one chain, with a member for its own statements and one for each entry
(`compile_select_of_flat`), and a union adds just the members of the other builder
(`union_chains_flat`).
-/

set_option autoImplicit false

namespace SqlBuilder

open Session

/-! ## Chains of flat statements -/

/-- The chain has a member for the statements without their unions and one for each entry, in order.
A further member comes after the operator of its type, and all are written as the dialect writes
members. -/
structure Chain.Lists (a : Adapter) (st : Statements) (entries : List UnionEntry) (c : Chain) :
    Prop where
  first : a.select st.alone = .ok c.first.query
  written : c.first.written = a.asMember st.alone c.first.query
  further : List.Forall₂ (fun e link => link.1 = a.dialect.unionOperator e.type ∧
    a.select e.statements = .ok link.2.query ∧
    link.2.written = a.asMember e.statements link.2.query) entries c.further

/-- There are as many selects as there are entries, and one. -/
theorem Chain.Lists.length_queries {a : Adapter} {st : Statements} {entries : List UnionEntry}
    {c : Chain} (h : c.Lists a st entries) : c.queries.length = 1 + entries.length := by
  rw [Chain.queries, List.length_cons, List.length_map, h.further.length_eq, Nat.add_comm]

namespace Adapter

variable {a : Adapter} {st : Statements}

/-- A member is the select of statements without unions, and how it is written. -/
theorem member_ok {m : Member} (h : st.unions = some []) (hm : a.member st = .ok m) :
    a.select st = .ok m.query ∧ m.written = a.asMember st m.query := by
  obtain ⟨query, hquery, hmember⟩ := bind_ok hm
  cases hmember
  exact ⟨(select_of_single h).trans hquery, rfl⟩

theorem member_error {f : Fault} (h : st.unions = some []) (hm : a.member st = .error f) :
    a.select st = .error f := by
  rw [select_of_single h]
  obtain hquery | ⟨query, -, hmember⟩ := bind_error hm
  · exact hquery
  · cases hmember

theorem chain_lists {entries : List UnionEntry} {c : Chain}
    (hentries : st.unions = some entries) (hsingle : ∀ e ∈ entries, e.Single)
    (hc : a.chain st = .ok c) : c.Lists a st entries := by
  obtain ⟨hfirst, hfurther⟩ := (chain_ok_iff hentries).1 hc
  obtain ⟨hselect, hwritten⟩ : a.select st.alone = .ok c.first.query ∧
      c.first.written = a.asMember st.alone c.first.query := member_ok rfl hfirst
  refine ⟨hselect, hwritten, ?_⟩
  refine List.Forall₂.imp ?_ ((List.forall₂_and_left _ _).2 ⟨hsingle, mapM_forall₂ hfurther⟩)
  rintro e link ⟨he, hlink⟩
  obtain ⟨m, hm, hmade⟩ := bind_ok hlink
  cases hmade
  exact ⟨rfl, member_ok he.unions hm⟩

/-- If there is no chain one of its members cannot be selected. -/
theorem chain_error {entries : List UnionEntry} {f : Fault}
    (hentries : st.unions = some entries) (hsingle : ∀ e ∈ entries, e.Single)
    (hc : a.chain st = .error f) :
    a.select st.alone = .error f ∨ ∃ e ∈ entries, a.select e.statements = .error f := by
  rw [chain, hentries, Option.getD_some] at hc
  obtain hfirst | ⟨first, -, hc⟩ := bind_error hc
  · exact .inl (member_error rfl hfirst)
  obtain hfurther | ⟨further, -, hc⟩ := bind_error hc
  · obtain ⟨e, he, hlink⟩ := mapM_error hfurther
    obtain hmember | ⟨m, -, hlink⟩ := bind_error hlink
    · exact .inr ⟨e, he, member_error (hsingle e he).unions hmember⟩
    · cases hlink
  · cases hc

/-- The query of flat statements: their chain written down, with all that its members bind, or the
fault of one of them. -/
theorem compile_select_of_flat {entries : List UnionEntry} (h : st.Flat)
    (hentries : st.unions = some entries) :
    (∃ c : Chain, c.Lists a st entries ∧ c.queries.length = 1 + entries.length ∧
      a.compile .select st [] = .ok
        { sql := .text c.fragment.sql
          bindings := .positional (c.queries.flatMap Fragment.bindings)
          adapter := some a }) ∨
    ∃ f, a.compile .select st [] = .error f ∧
      (a.select st.alone = .error f ∨ ∃ e ∈ entries, a.select e.statements = .error f) := by
  obtain ⟨members, hmembers, hsingle⟩ := h.unions
  rw [hmembers, Option.some_inj] at hentries
  subst hentries
  have hcompile : a.compile .select st [] = (a.chain st).map fun c =>
      { sql := .text c.fragment.sql, bindings := .positional c.fragment.bindings,
        adapter := some a } := by
    rw [compile]
    show (a.select st >>= _) = _
    rw [select_eq_chain h]
    cases a.chain st <;> rfl
  cases hc : a.chain st with
  | error f =>
    exact .inr ⟨f, by rw [hcompile, hc]; rfl, chain_error hmembers hsingle hc⟩
  | ok c =>
    have hlists := chain_lists hmembers hsingle hc
    refine .inl ⟨c, hlists, hlists.length_queries, ?_⟩
    rw [hcompile, hc, ← bindings_fragment hc]
    rfl

end Adapter

/-! ## Programs that only take statements from builders -/

/-- The frame of programs that give no builder any statements but those of another one, or a copy of
them. -/
def Frame.flat : Frame :=
  .everywhere { roams := true, listens := true } Statements.Flat nofun .empty
    (fun h hcopy => by
      rw [h.copied_eq, Except.ok.injEq] at hcopy
      exact hcopy ▸ h)
    (fun h hshape => h.reshaped hshape) (fun h => h.toldApart _)
    fun h h' hname hunion => h.addUnion h' hname hunion

/-- A text says in capitals which type of union is meant. -/
theorem unionType_text (t : String) :
    Builder.unionType (.text t) =
      if Text.upper t ∈ ValidationCause.unionTypes then .ok (Text.upper t)
      else .error (.validation (.unknownUnion t)) := by
  by_cases ht : t = ""
  · subst ht
    rfl
  · have htrue : (Value.text t).isTrue = true := bne_iff_ne.2 ht
    simp only [Builder.unionType, htrue, Bool.not_true, Bool.false_eq_true, if_false,
      List.contains_iff_mem]

/-- In every session that programs reach, and after every further step, no entry of a union has
unions of its own. The select of a builder has a member for its own statements and one for each
entry, in order, and binds what they bind. After a union with another builder, or with itself, the
entries are those that were there, those of the other builder, and one for its own statements. -/
theorem union_chains_flat :
    (∀ (p : Program) (depth : Nat), p.allowed { roams := true, listens := true } = true →
      Frame.flat.Holds (p.reached depth)) ∧
    (∀ (depth : Nat) (s : Session) (step : Step) (current : Option Nat),
      step.allowed { roams := true, listens := true } = true → Frame.flat.Holds s →
        Frame.flat.Holds (runIn (Program.reaction depth)
          (Program.answered current (Program.perform step current)) s).2) ∧
    ∀ s : Session, Frame.flat.Holds s → ∀ (b : Nat) (x : Builder) (st : Statements),
      s.builders[b]? = some x → s.records[x.record]? = some st →
      ∃ entries, st.unions = some entries ∧ (∀ e ∈ entries, e.statements.unions = some []) ∧
        (∀ a : Adapter,
          (∃ c : Chain, c.Lists a st entries ∧ c.queries.length = 1 + entries.length ∧
            a.compile .select st [] = .ok
              { sql := .text c.fragment.sql
                bindings := .positional (c.queries.flatMap Fragment.bindings)
                adapter := some a }) ∨
          ∃ f, a.compile .select st [] = .error f ∧
            (a.select st.alone = .error f ∨ ∃ e ∈ entries, a.select e.statements = .error f)) ∧
        ∀ (r : Reaction) (q : Nat) (y : Builder) (st' : Statements), s.builders[q]? = some y →
          s.records[y.record]? = some st' →
          ∃ entries', st'.unions = some entries' ∧ ∀ (kind : BuilderKind) (t : String),
            runIn r (Builder.union b (.builder q kind) (.text t)) s =
              if Text.upper t ∈ ValidationCause.unionTypes then
                (.ok (), { s with records := s.records.modify x.record fun _ =>
                  { st with unions := some (entries ++ entries' ++
                    [{ statements := st'.alone, type := .text (Text.upper t) }]) } })
              else (.error (.validation (.unknownUnion t)), s) := by
  refine ⟨fun p depth hp => ?_, fun depth s step current hstep hs => ?_,
    fun s hs b x st hx hst => ?_⟩
  · exact Program.holds_reached (F := .flat) hp
      ⟨fun n st hst => by simp [Program.session] at hst, fun _ => rfl⟩ depth
  · have hstepped : FramedWith Frame.flat (fun _ => True)
        (Program.answered current (Program.perform step current)) :=
      Program.framedWith_answered (fun _ _ => trivial)
        (Program.framedWith_perform step hstep fun _ _ => trivial) fun _ _ => trivial
    exact (hstepped _ s (Program.reacts_reaction _ depth) hs).1
  · have hflat : st.Flat := hs.inv.1 _ st hst
    obtain ⟨entries, hentries, hsingle⟩ := hflat.unions
    refine ⟨entries, hentries, fun e he => (hsingle e he).unions,
      fun a => a.compile_select_of_flat hflat hentries, fun r q y st' hy hst' => ?_⟩
    have hflat' : st'.Flat := hs.inv.1 _ st' hst'
    obtain ⟨entries', hentries', -⟩ := hflat'.unions
    refine ⟨entries', hentries', fun kind t => ?_⟩
    split
    · rename_i hknown
      have htype : Builder.unionType (.text t) = .ok (Text.upper t) := by
        rw [unionType_text, if_pos hknown]
      exact runIn_union hx hst hy hst' htype (hflat'.addUnion_eq hentries hentries' _) kind
    · rename_i hunknown
      rw [Builder.union, unionType_text, if_neg hunknown]
      rfl

/-! ### Builders united with each other -/

/-- A builder becomes a member of another one, takes that one with its member, and then itself. A
third builder shares its statements. -/
def reunited : Program where
  first := some (some {})
  steps := [
    .call (.builder (.change .fromTables)) [.raw (.value (.text "a")) (.list [])],
    .call (.builder (.change .selectRaw)) [.value (.text "*")],
    .keep "a",
    .call (.connection .newBuilder) [],
    .call (.builder (.change .fromTables)) [.raw (.value (.text "b")) (.list [])],
    .call (.builder (.change .selectRaw)) [.value (.text "n")],
    .call (.builder (.change .union)) [.kept "a", .value (.text "all")],
    .keep "b",
    .use "a",
    .call (.builder (.change .union)) [.kept "b"],
    .call (.builder (.change .union)) [.kept "a", .value (.text "distinct")],
    .call (.connection .newBuilder) [],
    .shareStatements "a"]

/-- One more union of the builder with the other one. -/
def unitedAgain : Step :=
  .call (.builder (.change .union)) [.kept "b", .value (.text "all")]

theorem union_chains_flat_of_reunited :
    let s := reunited.reached 0
    let a : Adapter := { dialect := .sqlite }
    reunited.allowed { roams := true, listens := true } = true ∧
    Frame.flat.Holds (runIn (Program.reaction 0)
      (Program.answered (some 0) (Program.perform unitedAgain (some 0))) s).2 ∧
    s.builders.map (·.record) = #[0, 1, 0] ∧
    ∃ x st entries st' entries', s.builders[0]? = some x ∧ s.records[x.record]? = some st ∧
      st.unions = some entries ∧ entries.length = 5 ∧
      (∀ e ∈ entries, e.statements.unions = some []) ∧
      (∃ c : Chain, c.Lists a st entries ∧ c.queries.length = 6) ∧
      s.records[1]? = some st' ∧ st'.unions = some entries' ∧ entries'.length = 1 ∧
      runIn (Program.reaction 0) (Builder.union 0 (.builder 1 .query) (.text "all")) s =
        (.ok (), { s with records := s.records.modify x.record fun _ =>
          { st with unions := some (entries ++ entries' ++
            [{ statements := st'.alone, type := .text "ALL" }]) } }) := by
  intro s a
  have hs : Frame.flat.Holds s := union_chains_flat.1 reunited 0 (by decide)
  have hrecords : s.builders.map (·.record) = #[0, 1, 0] := by decide +kernel
  have hlengths : s.records.map (fun st => (st.unions.getD []).length) = #[5, 1, 0] := by
    decide +kernel
  have hcompiled : s.records[0]?.map (fun st => (a.compile .select st []).isOk) = some true := by
    decide +kernel
  have hbuilder (b n : Nat) (h : (#[0, 1, 0] : Array Nat)[b]? = some n) :
      ∃ x, s.builders[b]? = some x ∧ x.record = n := by
    rw [← hrecords, Array.getElem?_map] at h
    exact Option.map_eq_some_iff.1 h
  have hrecord (n k : Nat) (h : (#[5, 1, 0] : Array Nat)[n]? = some k) :
      ∃ st, s.records[n]? = some st ∧ (st.unions.getD []).length = k := by
    rw [← hlengths, Array.getElem?_map] at h
    exact Option.map_eq_some_iff.1 h
  obtain ⟨x, hx, hxn⟩ := hbuilder 0 0 rfl
  obtain ⟨y, hy, hyn⟩ := hbuilder 1 1 rfl
  obtain ⟨st, hst, hfive⟩ := hrecord 0 5 rfl
  obtain ⟨st', hst', hone⟩ := hrecord 1 1 rfl
  rw [hst] at hcompiled
  rw [← hxn] at hst
  rw [← hyn] at hst'
  obtain ⟨entries, hentries, hsingle, hselect, hunion⟩ :=
    union_chains_flat.2.2 s hs 0 x st hx hst
  obtain ⟨entries', hentries', hunited⟩ :=
    hunion (Program.reaction 0) 1 y st' hy hst'
  rw [hentries, Option.getD_some] at hfive
  rw [hentries', Option.getD_some] at hone
  have hchain : ∃ c : Chain, c.Lists a st entries ∧ c.queries.length = 6 := by
    obtain ⟨c, hc, hlength, -⟩ | ⟨f, hf, -⟩ := hselect a
    · exact ⟨c, hc, hlength.trans (congrArg (1 + ·) hfive)⟩
    · rw [Option.map_some, hf] at hcompiled
      cases hcompiled
  exact ⟨by decide, union_chains_flat.2.1 0 s unitedAgain (some 0) (by decide) hs, hrecords,
    x, st, entries, st', entries', hx, hst, hentries, hfive, hsingle, hchain, hyn ▸ hst', hentries',
    hone, hunited .query "all"⟩

end SqlBuilder
