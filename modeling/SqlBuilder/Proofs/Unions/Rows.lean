import Mathlib.Algebra.Order.Group.Multiset
import Mathlib.Data.List.Induction
import Mathlib.Data.Multiset.Dedup
import SqlBuilder.Proofs.Unions.Chain

/-!
# What a chain of unions selects

A chain is evaluated from left to right: `UNION ALL` adds rows, any other operator drops duplicates
of all rows so far (`Chain.rows`). What the members select is arbitrary.

A union with a builder that has unions of its own is written flat: its further members come first
and its own select last. Its rows are the rows of both chains combined unless duplicates are kept at
the end (`UNION ALL`) and dropped within the other chain (`rows_flattened_iff`, `union_rows_iff`).
-/

set_option autoImplicit false

namespace SqlBuilder

variable {R : Type} [DecidableEq R]

/-- Rows combined by an operator. -/
def combine (operator : String) (x y : Multiset R) : Multiset R :=
  if operator = "UNION ALL" then x + y else (x + y).dedup

/-- Rows with those of further members, one member after another. -/
def unite (ρ : Fragment → Multiset R) (rows : Multiset R) (links : List (String × Member)) :
    Multiset R :=
  links.foldl (fun rows (operator, m) => combine operator rows (ρ m.query)) rows

/-- The rows of a chain, where `ρ` says what its members select. -/
def Chain.rows (ρ : Fragment → Multiset R) (c : Chain) : Multiset R :=
  unite ρ (ρ c.first.query) c.further

/-- A chain with the members of another behind it, the first of them last. -/
def Chain.flattened (c c' : Chain) (operator : String) : Chain :=
  ⟨c.first, c.further ++ c'.further ++ [(operator, c'.first)]⟩

variable {ρ : Fragment → Multiset R} {rows rows' : Multiset R} {links : List (String × Member)}
  {operator : String}

/-! ## Combining -/

@[simp] theorem mem_combine {r : R} {x y : Multiset R} :
    r ∈ combine operator x y ↔ r ∈ x ∨ r ∈ y := by
  rw [combine]
  split <;> simp

theorem combine_all (x y : Multiset R) : combine "UNION ALL" x y = x + y := if_pos rfl

/-- Where duplicates are dropped only what is there counts. -/
theorem combine_congr (h : operator ≠ "UNION ALL") {x x' y y' : Multiset R}
    (hmem : ∀ r, r ∈ x ∨ r ∈ y ↔ r ∈ x' ∨ r ∈ y') :
    combine operator x y = combine operator x' y' := by
  rw [combine, combine, if_neg h, if_neg h, Multiset.dedup_ext]
  simpa using hmem

/-! ## Uniting -/

@[simp] theorem unite_nil : unite ρ rows [] = rows := rfl

theorem unite_append (links' : List (String × Member)) :
    unite ρ rows (links ++ links') = unite ρ (unite ρ rows links) links' :=
  List.foldl_append

theorem unite_concat (link : String × Member) :
    unite ρ rows (links ++ [link]) = combine link.1 (unite ρ rows links) (ρ link.2.query) :=
  unite_append _

theorem mem_unite {r : R} :
    r ∈ unite ρ rows links ↔ r ∈ rows ∨ ∃ link ∈ links, r ∈ ρ link.2.query := by
  induction links using List.reverseRecOn with
  | nil => simp
  | append_singleton links link ih =>
    rw [unite_concat, mem_combine, ih]
    simp [or_and_right, exists_or, or_assoc]

/-- Rows to which others are only added stay apart from them. -/
theorem unite_add (h : ∀ link ∈ links, link.1 = "UNION ALL") (more : Multiset R) :
    unite ρ (more + rows) links = more + unite ρ rows links := by
  induction links using List.reverseRecOn with
  | nil => rfl
  | append_singleton links link ih =>
    have hlink : link.1 = "UNION ALL" := h link (by simp)
    rw [unite_concat, unite_concat, ih fun l hl => h l (List.mem_append_left _ hl), hlink,
      combine_all, combine_all, add_assoc]

/-- Behind the last operator that drops duplicates rows are only added. -/
theorem exists_last_dropping (h : ¬ ∀ link ∈ links, link.1 = "UNION ALL") :
    ∃ front link back, links = front ++ link :: back ∧ link.1 ≠ "UNION ALL" ∧
      ∀ l ∈ back, l.1 = "UNION ALL" := by
  induction links with
  | nil => exact absurd nofun h
  | cons link links ih =>
    by_cases hlinks : ∀ l ∈ links, l.1 = "UNION ALL"
    · refine ⟨[], link, links, rfl, fun hlink => h ?_, hlinks⟩
      rintro l hl
      rcases List.mem_cons.1 hl with rfl | hl
      · exact hlink
      · exact hlinks l hl
    · obtain ⟨front, last, back, rfl, hlast, hback⟩ := ih hlinks
      exact ⟨link :: front, last, back, rfl, hlast, hback⟩

/-- What a chain that drops duplicates makes of rows: each of them once, and what is added behind
the last operator that drops them, which does not depend on the rows. -/
theorem unite_of_dropping (h : ¬ ∀ link ∈ links, link.1 = "UNION ALL")
    (ρ : Fragment → Multiset R) : ∃ (kept : Multiset R) (added : Multiset R), ∀ rows,
      unite ρ rows links = (rows + kept).dedup + added := by
  obtain ⟨front, link, back, rfl, hlink, hback⟩ := exists_last_dropping h
  refine ⟨unite ρ 0 front + ρ link.2.query, unite ρ 0 back, fun rows => ?_⟩
  have hstep : unite ρ rows (front ++ link :: back) =
      unite ρ ((unite ρ rows front + ρ link.2.query).dedup + 0) back := by
    rw [unite_append, add_zero]
    show unite ρ (combine link.1 (unite ρ rows front) (ρ link.2.query)) back = _
    rw [combine, if_neg hlink]
  rw [hstep, unite_add hback, add_left_inj, Multiset.dedup_ext]
  intro r
  simp [mem_unite, or_assoc]

/-! ## Flattening -/

theorem rows_flattened (c c' : Chain) (operator : String) :
    (c.flattened c' operator).rows ρ =
      combine operator (unite ρ (c.rows ρ) c'.further) (ρ c'.first.query) := by
  rw [Chain.rows, Chain.flattened, unite_concat, unite_append]
  rfl

/-- What the first member selects is among the rows. -/
theorem mem_rows {c : Chain} {r : R} (h : r ∈ ρ c.first.query) : r ∈ c.rows ρ :=
  mem_unite.2 (.inl h)

/-- Where flattening changes nothing although duplicates are dropped within the other chain, a row
of both first members is as often in the chain as in the first member of the other. -/
theorem count_rows_of_flattened {c c' : Chain} (hdrop : ¬ ∀ link ∈ c'.further, link.1 = "UNION ALL")
    (h : (c.flattened c' "UNION ALL").rows ρ = combine "UNION ALL" (c.rows ρ) (c'.rows ρ)) {x : R}
    (hx : x ∈ ρ c.first.query) (hx' : x ∈ ρ c'.first.query) :
    (c.rows ρ).count x = (ρ c'.first.query).count x := by
  obtain ⟨kept, added, hunite⟩ := unite_of_dropping hdrop ρ
  have hcounts : (unite ρ (c.rows ρ) c'.further + ρ c'.first.query).count x =
      (c.rows ρ + unite ρ (ρ c'.first.query) c'.further).count x := by
    rw [rows_flattened, combine_all, combine_all] at h
    exact congrArg (Multiset.count x) h
  have honce {y : Multiset R} (hy : x ∈ y) : (y + kept).dedup.count x = 1 := by
    rw [Multiset.count_dedup, if_pos (Multiset.mem_add.2 (.inl hy))]
  rw [hunite, hunite,
    Multiset.count_add, Multiset.count_add, Multiset.count_add, Multiset.count_add,
    honce (mem_rows hx), honce hx'] at hcounts
  omega

/-- A chain with further members has a row twice where each member has it once, or it has a row
once where each member has it twice. -/
theorem count_rows_of_further {c : Chain} (hfurther : c.further ≠ []) (x : R) :
    2 ≤ (c.rows fun _ => {x}).count x ∨ (c.rows fun _ => {x, x}).count x = 1 := by
  obtain ⟨first, further⟩ := c
  obtain rfl | ⟨links, link, rfl⟩ := List.eq_nil_or_concat' further
  · exact absurd rfl hfurther
  have hmem (y : Multiset R) (hy : x ∈ y) : x ∈ unite (fun _ => y) y links := mem_unite.2 (.inl hy)
  simp only [Chain.rows, unite_concat]
  by_cases hall : link.1 = "UNION ALL"
  · left
    have honce := Multiset.one_le_count_iff_mem.2 (hmem {x} (by simp))
    rw [hall, combine_all, Multiset.count_add, Multiset.count_singleton_self]
    omega
  · right
    rw [combine, if_neg hall, Multiset.count_dedup, if_pos]
    exact Multiset.mem_add.2 (.inl (hmem {x, x} (by simp)))

/-- Flattening keeps what a union selects unless it ends with `UNION ALL` and the other chain drops
duplicates. Even then it does where both chains begin with one select and the first has no other
members. -/
theorem rows_flattened_iff [Inhabited R] (c c' : Chain) (operator : String) :
    (∀ ρ : Fragment → Multiset R,
      (c.flattened c' operator).rows ρ = combine operator (c.rows ρ) (c'.rows ρ)) ↔
    operator ≠ "UNION ALL" ∨ (∀ link ∈ c'.further, link.1 = "UNION ALL") ∨
      (c.further = [] ∧ c.first.query = c'.first.query) := by
  constructor
  · intro h
    by_contra hnot
    obtain ⟨hall, hrest⟩ := not_or.1 hnot
    obtain ⟨hdrop, hfirst⟩ := not_or.1 hrest
    rw [not_not] at hall
    subst hall
    have hcount (ρ : Fragment → Multiset R) := count_rows_of_flattened hdrop (h ρ)
      (x := default)
    by_cases hfurther : c.further = []
    · have hne : c'.first.query ≠ c.first.query := fun heq => hfirst ⟨hfurther, heq.symm⟩
      classical
      have htwice := hcount (fun f => if f = c.first.query then {default, default} else {default})
        (by simp) (by simp [hne])
      rw [Chain.rows, hfurther, unite_nil, if_pos rfl, if_neg hne] at htwice
      simp at htwice
    · have hone := hcount (fun _ => {default}) (by simp) (by simp)
      have htwo := hcount (fun _ => {default, default}) (by simp) (by simp)
      have hcases := count_rows_of_further hfurther (default : R)
      simp only [Multiset.insert_eq_cons, Multiset.count_cons_self,
        Multiset.count_singleton_self] at hone htwo hcases
      omega
  · intro h ρ
    by_cases hall : operator = "UNION ALL"
    · subst hall
      rw [rows_flattened, combine_all, combine_all]
      obtain hdrops | hadds | ⟨hfurther, hfirst⟩ := h
      · exact absurd rfl hdrops
      · have hadded (x : Multiset R) : unite ρ x c'.further = x + unite ρ 0 c'.further := by
          rw [← unite_add hadds, add_zero]
        rw [hadded, Chain.rows, Chain.rows, hadded (ρ c'.first.query), add_assoc,
          add_comm (unite ρ 0 c'.further)]
      · rw [Chain.rows, Chain.rows, hfurther, unite_nil, hfirst, add_comm]
    · rw [rows_flattened]
      refine combine_congr hall fun r => ?_
      simp only [Chain.rows, mem_unite, or_assoc, or_comm, or_left_comm]

/-! ## Unions of builders -/

open Session

theorem unionOperator_eq_all {name : String} (h : name ∈ ValidationCause.unionTypes)
    (d : Dialect) : d.unionOperator (.text name) = "UNION ALL" ↔ name = "ALL" := by
  simp only [ValidationCause.unionTypes, List.mem_cons, List.not_mem_nil, or_false] at h
  rcases h with rfl | rfl | rfl <;> cases d <;> decide

/-- A chain keeps all duplicates just if all its unions are of the type `ALL`. -/
theorem links_all_iff {a : Adapter} {members : List UnionEntry} {links : List (String × Member)}
    (hsingle : ∀ e ∈ members, e.Single) (hlinks : members.mapM a.link = .ok links) :
    (∀ link ∈ links, link.1 = "UNION ALL") ↔ ∀ e ∈ members, e.type = .text "ALL" := by
  induction members generalizing links with
  | nil =>
    cases hlinks
    simp
  | cons e members ih =>
    rw [List.mapM_cons] at hlinks
    obtain ⟨link, hlink, hrest⟩ := bind_ok hlinks
    obtain ⟨rest, hmembers, hcons⟩ := bind_ok hrest
    cases hcons
    obtain ⟨m, -, hm⟩ := bind_ok hlink
    cases hm
    obtain ⟨name, hname, htype⟩ := (hsingle e List.mem_cons_self).type
    rw [List.forall_mem_cons, List.forall_mem_cons,
      ih (fun e he => hsingle e (List.mem_cons_of_mem _ he)) hmembers, htype,
      unionOperator_eq_all hname, Value.text.injEq]

/-- What a builder selects after a union with another are the rows of both combined, whatever the
selects without unions come to, unless the union is of the type `ALL` and the other builder has one
that is not. Even then they are if the builder had no unions and both begin with one select. -/
theorem union_rows_iff (R : Type) [DecidableEq R] [Inhabited R] {r : Reaction} {s : Session}
    {b q : Nat} {x y : Builder} {st st' : Statements} (hx : s.builders[b]? = some x)
    (hst : s.records[x.record]? = some st) (hy : s.builders[q]? = some y)
    (hst' : s.records[y.record]? = some st') (hflat : st.Flat) (hflat' : st'.Flat) {a : Adapter}
    {c c' : Chain} (hc : a.chain st = .ok c) (hc' : a.chain st' = .ok c') {type : Value}
    {name : String} (htype : Builder.unionType type = .ok name) (kind : BuilderKind) :
    ∃ union c₁, runIn r (Builder.union b (.builder q kind) type) s =
        (.ok (), { s with records := s.records.modify x.record fun _ => union }) ∧
      a.chain union = .ok c₁ ∧ a.select st = .ok c.fragment ∧ a.select st' = .ok c'.fragment ∧
      a.select union = .ok c₁.fragment ∧
      ((∀ ρ : Fragment → Multiset R, c₁.rows ρ =
          combine (a.dialect.unionOperator (.text name)) (c.rows ρ) (c'.rows ρ)) ↔
        name ≠ "ALL" ∨ (∀ members, st'.unions = some members →
            ∀ e ∈ members, e.type = .text "ALL") ∨
          (st.unions = some [] ∧ a.selectMember st = a.selectMember st')) := by
  obtain ⟨members, hmembers, hsingle⟩ := hflat.unions
  obtain ⟨members', hmembers', hsingle'⟩ := hflat'.unions
  have hunion := hflat'.addUnion_eq hmembers hmembers' (.text name)
  have hname := unionType_mem htype
  have hchain := Adapter.chain_addUnion hflat hflat' hc hc' hunion
  have hselect {st : Statements} {c : Chain} (hflat : st.Flat) (hc : a.chain st = .ok c) :
      a.select st = .ok c.fragment := by
    rw [Adapter.select_eq_chain hflat, hc]
    rfl
  refine ⟨_, _, runIn_union hx hst hy hst' htype hunion kind, hchain, hselect hflat hc,
    hselect hflat' hc', hselect (hflat.addUnion hflat' hname hunion) hchain, ?_⟩
  obtain ⟨hfirst, hfurther⟩ := (Adapter.chain_ok_iff hmembers).1 hc
  obtain ⟨hfirst', hfurther'⟩ := (Adapter.chain_ok_iff hmembers').1 hc'
  have hnone : c.further = [] ↔ st.unions = some [] := by
    rw [hmembers, Option.some_inj, ← List.length_eq_zero_iff, (mapM_ok hfurther).1,
      List.length_eq_zero_iff]
  have hsame : c.first.query = c'.first.query ↔ a.selectMember st = a.selectMember st' := by
    obtain ⟨query, hquery, hm⟩ := bind_ok hfirst
    obtain ⟨query', hquery', hm'⟩ := bind_ok hfirst'
    rw [hquery, hquery', Except.ok.injEq, ← Except.ok.inj hm, ← Except.ok.inj hm']
  have hall : (∀ members, st'.unions = some members → ∀ e ∈ members, e.type = .text "ALL") ↔
      ∀ link ∈ c'.further, link.1 = "UNION ALL" := by
    rw [links_all_iff hsingle' hfurther']
    refine ⟨fun h => h members' hmembers', fun h members hm => ?_⟩
    rw [hmembers', Option.some_inj] at hm
    exact hm ▸ h
  rw [hall, ← hnone, ← hsame, ne_eq, ← unionOperator_eq_all hname a.dialect]
  exact rows_flattened_iff c c' _

/-! ### A union that drops duplicates within one that keeps them -/

/-- Statements that select everything from a table. -/
def everythingFrom (name : String) : Statements :=
  { selects := .list [.raw "*" []], tables := .list [.raw name []] }

/-- A select from `b` with a union with a select from `c`. -/
def unitedOnce : Statements :=
  { everythingFrom "b" with unions := some [{ statements := everythingFrom "c" }] }

theorem flat_unitedOnce : unitedOnce.Flat := by
  refine ⟨⟨[], rfl⟩, _, rfl, fun e he => ?_⟩
  rw [List.mem_singleton] at he
  subst he
  exact ⟨rfl, "", List.mem_cons_self, rfl⟩

/-- Two builders, one of them with a union. -/
def unitedPair : Session where
  builders := #[{ connection := none, record := 0 }, { connection := none, record := 1 }]
  records := #[everythingFrom "a", unitedOnce]

/-- Two rows from `a`, one from any other table. -/
def doubledRows (f : Fragment) : Multiset Unit :=
  if f.sql = "SELECT * FROM a" then {(), ()} else {()}

/-- How many rows statements select, if they can be written. -/
def rowCount (s : Statements) : Option Nat :=
  (({ dialect := .mysql } : Adapter).chain s).toOption.map fun c => (c.rows doubledRows).card

theorem rowCount_eq {s : Statements} {n : Nat} (h : rowCount s = some n) :
    ∃ c, ({ dialect := .mysql } : Adapter).chain s = .ok c ∧ (c.rows doubledRows).card = n := by
  unfold rowCount at h
  cases hchain : ({ dialect := .mysql } : Adapter).chain s with
  | error f =>
    rw [hchain] at h
    cases h
  | ok c =>
    rw [hchain] at h
    exact ⟨c, rfl, Option.some_inj.1 h⟩

/-- Two rows and one row come to two rows in a union that keeps all rows: what drops duplicates
within the second select drops them in the first as well. -/
theorem union_all_loses_row :
    ∃ union c c' c₁, runIn (fun _ _ => pure ())
        (Builder.union 0 (.builder 1 .query) (.text "all")) unitedPair =
          (.ok (), { unitedPair with records := unitedPair.records.modify 0 fun _ => union }) ∧
      ({ dialect := .mysql } : Adapter).chain (everythingFrom "a") = .ok c ∧
      ({ dialect := .mysql } : Adapter).chain unitedOnce = .ok c' ∧
      ({ dialect := .mysql } : Adapter).chain union = .ok c₁ ∧
      (c₁.rows doubledRows).card = 2 ∧
      (combine "UNION ALL" (c.rows doubledRows) (c'.rows doubledRows)).card = 3 := by
  have hunion := flat_unitedOnce.addUnion_eq (s := everythingFrom "a") rfl rfl (.text "ALL")
  obtain ⟨c, hc, hcard⟩ := rowCount_eq (s := everythingFrom "a") (n := 2) (by decide +kernel)
  obtain ⟨c', hc', hcard'⟩ := rowCount_eq (s := unitedOnce) (n := 1) (by decide +kernel)
  have hrows : rowCount { everythingFrom "a" with
      unions := some ([] ++ [{ statements := everythingFrom "c" }] ++
        [{ statements := unitedOnce.alone, type := .text "ALL" }]) } = some 2 := by decide +kernel
  obtain ⟨c₁, hc₁, hcard₁⟩ := rowCount_eq hrows
  have hrun := runIn_union (r := fun _ _ => pure ()) (s := unitedPair) (b := 0) (q := 1)
    (x := { connection := none, record := 0 }) (y := { connection := none, record := 1 })
    rfl rfl rfl rfl (show Builder.unionType (.text "all") = .ok "ALL" from rfl) hunion .query
  refine ⟨_, c, c', c₁, hrun, hc, hc', hc₁, hcard₁, ?_⟩
  rw [combine_all, Multiset.card_add, hcard, hcard']

/-- A union that drops duplicates selects what both builders select. -/
theorem union_rows_of_distinct :
    ∃ st union c c' c₁, unitedPair.records[0]? = some st ∧ st.Flat ∧
      unitedPair.records[1]? = some unitedOnce ∧ unitedOnce.Flat ∧
      Builder.unionType (.text "distinct") = .ok "DISTINCT" ∧
      ({ dialect := .mysql } : Adapter).chain st = .ok c ∧
      ({ dialect := .mysql } : Adapter).chain unitedOnce = .ok c' ∧
      ({ dialect := .mysql } : Adapter).chain union = .ok c₁ ∧
      ∀ ρ : Fragment → Multiset Unit,
        c₁.rows ρ = combine "UNION DISTINCT" (c.rows ρ) (c'.rows ρ) := by
  have hflat : (everythingFrom "a").Flat := ⟨⟨[], rfl⟩, [], rfl, nofun⟩
  obtain ⟨c, hc, -⟩ := rowCount_eq (s := everythingFrom "a") (n := 2) (by decide +kernel)
  obtain ⟨c', hc', -⟩ := rowCount_eq (s := unitedOnce) (n := 1) (by decide +kernel)
  obtain ⟨union, c₁, -, hc₁, -, -, -, hrows⟩ := union_rows_iff Unit (r := fun _ _ => pure ())
    (s := unitedPair) (b := 0) (q := 1) (x := { connection := none, record := 0 })
    (y := { connection := none, record := 1 }) rfl rfl rfl rfl hflat flat_unitedOnce hc hc'
    (show Builder.unionType (.text "distinct") = .ok "DISTINCT" from rfl) .query
  exact ⟨_, union, c, c', c₁, rfl, hflat, rfl, flat_unitedOnce, rfl, hc, hc', hc₁,
    hrows.2 (.inl (by decide))⟩

end SqlBuilder
