import Mathlib.Tactic.Choose
import SqlBuilder.Statements.Edit

/-!
# One clause of a query

`ClauseKind` names the parts of a query that calls fill, `st.withClause K a` is `st` with the part
`K` of `a`. An edit is `InClause K` if what it does to the part `K` depends on this part alone, and
it does nothing to the others: it can as well be made on other statements with the same part `K`.

Every edit a builder makes is in one clause.
-/

set_option autoImplicit false

namespace SqlBuilder

/-- The parts of a query. The tables go with their aliases. -/
inductive ClauseKind where
  | selects
  | distincts
  | tables
  | wheres
  | havings
  /-- The conditions of a group or of a join. -/
  | criteria
  | joins
  | groupBys
  | orderBys
  | unions
  | limit
  | offset
  | lock
  | onDuplicate
  deriving Repr, DecidableEq

/-- The part a condition goes to. -/
def ConditionList.clause : ConditionList → ClauseKind
  | .wheres => .wheres
  | .havings => .havings
  | .criteria => .criteria

namespace Statements

/-- The statements with one part of other statements. -/
def withClause (st : Statements) (K : ClauseKind) (a : Statements) : Statements :=
  match K with
  | .selects => { st with selects := a.selects }
  | .distincts => { st with distincts := a.distincts }
  | .tables => { st with tables := a.tables, aliases := a.aliases }
  | .wheres => { st with wheres := a.wheres }
  | .havings => { st with havings := a.havings }
  | .criteria => { st with criteria := a.criteria }
  | .joins => { st with joins := a.joins }
  | .groupBys => { st with groupBys := a.groupBys }
  | .orderBys => { st with orderBys := a.orderBys }
  | .unions => { st with unions := a.unions }
  | .limit => { st with limit := a.limit }
  | .offset => { st with offset := a.offset }
  | .lock => { st with lock := a.lock }
  | .onDuplicate => { st with onDuplicate := a.onDuplicate }

section
variable (st a b : Statements) (K L : ClauseKind)

@[simp] theorem withClause_self : st.withClause K st = st := by
  cases st
  cases K <;> rfl

@[simp] theorem withClause_withClause : (st.withClause K a).withClause K b = st.withClause K b := by
  cases K <;> rfl

@[simp] theorem withClause_same : st.withClause K (b.withClause K a) = st.withClause K a := by
  cases K <;> rfl

variable {K L}

/-- A part is not changed with another one. -/
theorem withClause_other (h : K ≠ L) : st.withClause K (b.withClause L a) = st.withClause K b := by
  cases K <;> cases L <;> first | rfl | exact absurd rfl h

end

/-- Statements that have each of their parts from other statements. -/
def gathered (F : ClauseKind → Statements) : Statements where
  selects := (F .selects).selects
  distincts := (F .distincts).distincts
  tables := (F .tables).tables
  aliases := (F .tables).aliases
  wheres := (F .wheres).wheres
  havings := (F .havings).havings
  criteria := (F .criteria).criteria
  joins := (F .joins).joins
  groupBys := (F .groupBys).groupBys
  orderBys := (F .orderBys).orderBys
  unions := (F .unions).unions
  limit := (F .limit).limit
  offset := (F .offset).offset
  lock := (F .lock).lock
  onDuplicate := (F .onDuplicate).onDuplicate

@[simp] theorem withClause_gathered (st : Statements) (K : ClauseKind)
    (F : ClauseKind → Statements) : st.withClause K (gathered F) = st.withClause K (F K) := by
  cases K <;> rfl

/-- Each part of some statements, and so all of them. -/
theorem eq_of_clauses {st st' : Statements} (h : ∀ K, st.withClause K st' = st) : st' = st := by
  have hself (st : Statements) : gathered (fun _ => st) = st := by
    cases st
    rfl
  have hparts : gathered (fun K => st.withClause K st') = gathered fun _ => st :=
    congrArg gathered (funext h)
  exact (hself st').symm.trans (hparts.trans (hself st))

/-! ## Edits in one clause -/

/-- The edit reads and changes one part only. -/
def InClause (K : ClauseKind) (f : Statements → Result Statements) : Prop :=
  ∀ st rest : Statements, f (rest.withClause K st) = (rest.withClause K ·) <$> f st

/-- An edit that can be invalid. -/
def tried (f : Statements → Option Statements) (st : Statements) : Result Statements :=
  match f st with
  | some st => .ok st
  | none => misuse .invalidOperation

namespace InClause

/-- An edit in a clause is in those that are named, if no others are. -/
theorem only {L : ClauseKind} {f : Statements → Result Statements} (h : InClause L f)
    {K : Option ClauseKind} (hK : ∀ C ∈ K, C = L) : ∀ C ∈ K, InClause C f :=
  fun C hC => hK C hC ▸ h

variable {α : Type} (K : ClauseKind)

/-- What comes of a part is written to the part. -/
theorem of (read : Statements → Result α) (write : Statements → α → Statements)
    (hread : ∀ st rest : Statements, read (rest.withClause K st) = read st)
    (hwrite : ∀ (st rest : Statements) a,
      write (rest.withClause K st) a = rest.withClause K (write st a)) :
    InClause K (fun st => do pure (write st (← read st))) := by
  intro st rest
  dsimp only
  rw [hread]
  cases read st with
  | error f => rfl
  | ok a => exact congrArg Except.ok (hwrite st rest a)

/-- So it is where nothing can come of it. -/
theorem ofTried (read : Statements → Option α) (write : Statements → α → Statements)
    (hread : ∀ st rest : Statements, read (rest.withClause K st) = read st)
    (hwrite : ∀ (st rest : Statements) a,
      write (rest.withClause K st) a = rest.withClause K (write st a)) :
    InClause K (tried fun st => do some (write st (← read st))) := by
  intro st rest
  unfold tried
  dsimp only
  rw [hread]
  cases read st with
  | none => rfl
  | some a => exact congrArg Except.ok (hwrite st rest a)

end InClause

theorem inClause_addSelects (overwrite : Bool) (items : List Value) :
    InClause .selects (·.addSelects overwrite items) :=
  .of .selects (fun st => selection overwrite st.selects items)
    (fun st v => { st with selects := v }) (fun _ _ => rfl) fun _ _ _ => rfl

theorem inClause_addDistincts (overwrite : Bool) (items : List Value) :
    InClause .distincts (·.addDistincts overwrite items) :=
  .of .distincts (fun st => selection overwrite st.distincts items)
    (fun st v => { st with distincts := v }) (fun _ _ => rfl) fun _ _ _ => rfl

theorem inClause_addTables (tables : List Value) : InClause .tables (·.addTables tables) :=
  .of .tables (fun st => selection false st.tables tables) (fun st v => { st with tables := v })
    (fun _ _ => rfl) fun _ _ _ => rfl

theorem inClause_clearTables : InClause .tables fun st => .ok st.clearTables := fun _ _ => rfl

theorem inClause_openAliases : InClause .tables fun st => .ok st.openAliases := by
  intro st rest
  show Except.ok (openAliases _) = Except.ok (withClause _ _ (openAliases _))
  unfold openAliases
  rw [show (rest.withClause .tables st).aliases = st.aliases from rfl]
  split <;> rfl

theorem inClause_addAlias (table name : Value) : InClause .tables (·.addAlias table name) :=
  .of .tables (fun st => st.aliases.assigned table name) (fun st v => { st with aliases := v })
    (fun _ _ => rfl) fun _ _ _ => rfl

theorem inClause_addCondition (list : ConditionList) (overwrite : Bool) (c : Condition) :
    InClause list.clause (tried (·.addCondition? list overwrite c)) :=
  .ofTried list.clause
    (fun st => replaced? overwrite (·.isAbout? c.key) ((st.conditions list).getD []))
    (fun st old => st.setConditions list (old ++ [c]))
    (fun _ _ => by cases list <;> rfl) fun _ _ _ => by cases list <;> rfl

theorem inClause_openJoins (overwrite : Bool) (table : Value) :
    InClause .joins (tried (·.openJoins? overwrite table)) :=
  .ofTried .joins
    (fun st => replaced? overwrite (fun e : JoinEntry => e.table.equal? table) (st.joins.getD []))
    (fun st old => { st with joins := some old }) (fun _ _ => rfl) fun _ _ _ => rfl

theorem inClause_addJoin (overwrite : Bool) (entry : JoinEntry) :
    InClause .joins (tried (·.addJoin? overwrite entry)) := by
  intro st rest
  unfold tried addJoin? openJoins?
  dsimp only
  rw [show (rest.withClause .joins st).joins = st.joins from rfl]
  cases replaced? overwrite (·.table.equal? entry.table) (st.joins.getD []) <;> rfl

theorem inClause_addOrder (overwrite : Bool) (entry : OrderEntry) :
    InClause .orderBys (tried (·.addOrder? overwrite entry)) :=
  .ofTried .orderBys
    (fun st =>
      replaced? overwrite (fun e : OrderEntry => e.field.equal? entry.field) (st.orderBys.getD []))
    (fun st old => { st with orderBys := some (old ++ [entry]) }) (fun _ _ => rfl) fun _ _ _ => rfl

theorem inClause_openGroups (overwrite : Bool) :
    InClause .groupBys fun st => .ok (st.openGroups overwrite) := by
  intro st rest
  cases overwrite <;> rfl

theorem inClause_addGroups (fields : List Value) : InClause .groupBys (·.addGroups fields) :=
  .of .groupBys (fun st => st.groupBys.extended fields) (fun st v => { st with groupBys := v })
    (fun _ _ => rfl) fun _ _ _ => rfl

theorem inClause_addUnion (other : Statements) (type : Value) :
    InClause .unions (·.addUnion other type) := by
  intro st rest
  unfold addUnion
  dsimp only
  rw [show (rest.withClause .unions st).unions = st.unions from rfl]
  cases other.copied with
  | error f => rfl
  | ok member => cases st.unions <;> rfl

/-! ## Edits in several clauses -/

section
variable {ι : Type} {clause : ι → Option ClauseKind} {f : ι → Statements → Result Statements}
  {K : ClauseKind} {st st' : Statements}

/-- The other parts stay as they are. -/
theorem InClause.eq_withClause {f : Statements → Result Statements} (h : InClause K f)
    (hst : f st = .ok st') : st' = st.withClause K st' := by
  have hself := h st st
  rw [withClause_self, hst] at hself
  exact Except.ok.inj hself

/-- What comes of statements with the same part. -/
theorem InClause.transfer {f : Statements → Result Statements} (h : InClause K f)
    {u : Statements} (hsame : u.withClause K st = u) (hst : f st = .ok (st.withClause K st')) :
    f u = .ok (u.withClause K st') := by
  rw [← hsame, h, hst, withClause_withClause]
  exact congrArg Except.ok (withClause_same u st' st K)

theorem InClause.foldlM {cs : List ι} (h : ∀ c ∈ cs, InClause K (f c)) :
    InClause K fun st => cs.foldlM (fun st c => f c st) st := by
  induction cs with
  | nil => exact fun _ _ => rfl
  | cons c cs ih =>
    intro st rest
    show (f c _ >>= fun st => cs.foldlM (fun st c => f c st) st) =
      _ <$> (f c st >>= fun st => cs.foldlM (fun st c => f c st) st)
    rw [h c List.mem_cons_self]
    cases f c st with
    | error e => rfl
    | ok st' => exact ih (fun c hc => h c (List.mem_cons_of_mem _ hc)) st' rest

theorem inClause_filter {cs : List ι}
    (h : ∀ c ∈ cs, ∃ K, clause c = some K ∧ InClause K (f c)) :
    InClause K fun st => (cs.filter (clause · = some K)).foldlM (fun st c => f c st) st := by
  refine .foldlM fun c hc => ?_
  obtain ⟨hmem, hK⟩ := List.mem_filter.1 hc
  obtain ⟨L, hL, hin⟩ := h c hmem
  cases hL.symm.trans (of_decide_eq_true hK)
  exact hin

/-- Edits one after another come to what the edits of each clause come to alone. -/
theorem foldlM_ok_iff {cs : List ι} (h : ∀ c ∈ cs, ∃ K, clause c = some K ∧ InClause K (f c)) :
    cs.foldlM (fun st c => f c st) st = .ok st' ↔
      ∀ K, (cs.filter (clause · = some K)).foldlM (fun st c => f c st) st =
        .ok (st.withClause K st') := by
  induction cs generalizing st with
  | nil =>
    constructor
    · rintro ⟨⟩ K
      exact congrArg Except.ok (withClause_self _ K).symm
    · intro hparts
      exact congrArg Except.ok (eq_of_clauses fun K => (Except.ok.inj (hparts K)).symm).symm
  | cons c cs ih =>
    obtain ⟨L, hL, hc⟩ := h c List.mem_cons_self
    have hcs := fun c' hc' => h c' (List.mem_cons_of_mem c hc')
    have hmine : (c :: cs).filter (clause · = some L) = c :: cs.filter (clause · = some L) :=
      List.filter_cons_of_pos (decide_eq_true hL)
    rw [List.foldlM_cons]
    cases hst : f c st with
    | error e =>
      refine iff_of_false nofun fun hparts => ?_
      have hfail := hparts L
      rw [hmine, List.foldlM_cons, hst] at hfail
      cases hfail
    | ok u =>
      have hu := hc.eq_withClause hst
      refine (ih hcs).trans (forall_congr' fun K => ?_)
      by_cases hKL : K = L
      · subst hKL
        rw [hmine, List.foldlM_cons, hst, hu, withClause_withClause, ← hu]
        rfl
      · -- the call is of another clause, so that `st` and `u` have the same part `K`
        have hothers : (c :: cs).filter (clause · = some K) = cs.filter (clause · = some K) := by
          refine List.filter_cons_of_neg fun hK => hKL ?_
          exact Option.some.inj ((of_decide_eq_true hK).symm.trans hL)
        have hin := inClause_filter (K := K) hcs
        have hsame : u.withClause K st = u := by
          rw [← withClause_other u u st hKL, ← hu, withClause_self]
        have hsame' : st.withClause K u = st := by
          rw [hu, withClause_other st u st hKL, withClause_self]
        rw [hothers]
        exact ⟨hin.transfer hsame', hin.transfer hsame⟩

/-- The order of edits in different clauses does not matter. -/
theorem foldlM_ok_reorder {cs cs' : List ι}
    (h : ∀ c ∈ cs, ∃ K, clause c = some K ∧ InClause K (f c)) (hmem : ∀ c ∈ cs', c ∈ cs)
    (hfilter : ∀ K, cs'.filter (clause · = some K) = cs.filter (clause · = some K)) :
    cs'.foldlM (fun st c => f c st) st = .ok st' ↔ cs.foldlM (fun st c => f c st) st = .ok st' := by
  rw [foldlM_ok_iff h, foldlM_ok_iff fun c hc => h c (hmem c hc)]
  exact forall_congr' fun K => by rw [hfilter]

/-- Edits can be made together if those of each clause can. -/
theorem exists_foldlM_iff {cs : List ι}
    (h : ∀ c ∈ cs, ∃ K, clause c = some K ∧ InClause K (f c)) :
    (∃ st', cs.foldlM (fun st c => f c st) st = .ok st') ↔
      ∀ K, ∃ st', (cs.filter (clause · = some K)).foldlM (fun st c => f c st) st = .ok st' := by
  constructor
  · rintro ⟨st', hst'⟩ K
    exact ⟨_, (foldlM_ok_iff h).1 hst' K⟩
  · intro hparts
    choose F hF using hparts
    refine ⟨gathered F, (foldlM_ok_iff h).2 fun K => ?_⟩
    rw [withClause_gathered, ← (inClause_filter h).eq_withClause (hF K)]
    exact hF K

end

end Statements

end SqlBuilder
