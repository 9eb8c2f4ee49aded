import Mathlib.Data.List.Count
import Mathlib.Data.List.Nodup
import SqlBuilder.Proofs.Constraints.Reading

/-!
# Declared keys and indexes

What `tableParts` declares for a list of columns, read back from its text (`Parts.declared`), is one
key for each column whose automatic numbering says so, one for the other columns flagged as the key,
and a `UNIQUE` and an index for each column that asks for it and is not flagged as the key
(`declared_eq`).

`RendersKeys` says that the definition does what the columns ask for. `keys_rendered_iff` tells
exactly when: a numbered column must be the whole key where the numbering declares one, and the
columns of a key of several must not ask for anything else, since that is left out.
-/

set_option autoImplicit false

namespace SqlBuilder.Schema

/-- The constraints that the parts of a table definition declare, in order. -/
def Parts.declared (d : Dialect) (table : String) (parts : Parts) : List Constraint :=
  (parts.definitions ++ parts.statements).filterMap (Constraint.read? d table)

/-- The keys among constraints. -/
def keysOf (constraints : List Constraint) : List (List String) :=
  constraints.filterMap Constraint.key?

/-- The columns that are flagged as the primary key. -/
def flagged (columns : List Column) : List Column := columns.filter fun c => c.primaryKey

/-- The columns whose automatic numbering declares them the key. -/
def numbered (d : Dialect) (columns : List Column) : List Column :=
  columns.filter fun c => d.autoIncrementIsKey && c.autoIncrement

/-- The key that a clause declares, if it has columns. -/
def keyClause : List Column → List Constraint
  | [] => []
  | c :: cs => [.key ((c :: cs).map Column.name)]

/-- The constraints that columns come with. -/
def constraintsOf (d : Dialect) (columns : List Column) : List Constraint :=
  (numbered d columns).map (fun c => .key [c.name]) ++ keyClause (keyColumns d columns) ++
    (((plainColumns columns).filter fun c => c.unique).map Column.name).map .unique ++
    (((plainColumns columns).filter fun c => c.index).map Column.name).map .index

/-- There is at most one key, and it covers the flagged columns in order if there are any. A column
that is to be unique, or to have an index, has exactly one clause for that unless it is the whole
key by itself. -/
structure RendersKeys (columns : List Column) (declared : List Constraint) : Prop where
  once : (keysOf declared).length ≤ 1
  covers : flagged columns ≠ [] → keysOf declared = [(flagged columns).map Column.name]
  unique : ∀ c ∈ columns, c.unique = true → (flagged columns).map Column.name ≠ [c.name] →
    declared.count (.unique c.name) = 1
  index : ∀ c ∈ columns, c.index = true → (flagged columns).map Column.name ≠ [c.name] →
    declared.count (.index c.name) = 1

/-! ## What is declared -/

variable {d : Dialect} {table : String} {columns : List Column} {ifNotExists : Bool}

/-- A loop succeeds just if it does at each item. -/
theorem exists_mapM_iff {α β : Type} {f : α → Result β} {xs : List α} :
    (∃ ys, xs.mapM f = .ok ys) ↔ ∀ x ∈ xs, ∃ y, f x = .ok y := by
  constructor
  · rintro ⟨ys, h⟩
    have hpairs := mapM_forall₂ h
    clear h
    induction hpairs with
    | nil => exact nofun
    | cons hy _ ih => exact List.forall_mem_cons.2 ⟨⟨_, hy⟩, ih⟩
  · intro h
    cases hrun : xs.mapM f with
    | ok ys => exact ⟨ys, rfl⟩
    | error e =>
      obtain ⟨x, hx, he⟩ := mapM_error hrun
      obtain ⟨y, hy⟩ := h x hx
      rw [hy] at he
      cases he

/-- What is read of the results is known from the items. -/
theorem filterMap_of_mapM {α β γ : Type} {f : α → Result β} {read : β → Option γ}
    {known : α → Option γ} (hread : ∀ x y, f x = .ok y → read y = known x) {xs : List α}
    {ys : List β} (h : xs.mapM f = .ok ys) : ys.filterMap read = xs.filterMap known := by
  have hpairs := mapM_forall₂ h
  clear h
  induction hpairs with
  | nil => rfl
  | cons hy _ ih => rw [List.filterMap_cons, List.filterMap_cons, hread _ _ hy, ih]

/-- A clause for each of some columns declares a constraint on each. -/
theorem declared_clauses {clause : Column → String} {kind : String → Constraint}
    (h : ∀ c, Constraint.read? d table (clause c) = some (kind c.name)) (cs : List Column) :
    (cs.map clause).filterMap (Constraint.read? d table) = (cs.map Column.name).map kind := by
  rw [List.filterMap_map, List.map_map, ← List.filterMap_eq_map]
  exact congrArg (List.filterMap · cs) (funext h)

/-- The columns by themselves declare the keys of the numbered ones. -/
theorem declared_lines {lines : List String}
    (h : (columns.map Value.column).mapM (lineSql d) = .ok lines) :
    lines.filterMap (Constraint.read? d table) =
      (numbered d columns).map fun c => .key [c.name] := by
  rw [List.mapM_map] at h
  have hread : ∀ c sql, (lineSql d ∘ Value.column) c = .ok sql → Constraint.read? d table sql =
      if d.autoIncrementIsKey && c.autoIncrement then some (.key [c.name]) else none :=
    fun c sql hsql => read?_column hsql table
  rw [filterMap_of_mapM hread h, numbered, ← List.filterMap_eq_map, List.filterMap_filter]
  rfl

/-- Each statement beside the definition declares an index. -/
theorem declared_statements {cs : List Column} {statements : List String}
    (h : cs.mapM (indexStatement d (.text table) ifNotExists) = .ok statements) :
    statements.filterMap (Constraint.read? d table) = (cs.map Column.name).map .index := by
  have hread : ∀ c sql, indexStatement d (.text table) ifNotExists c = .ok sql →
      Constraint.read? d table sql = some (.index c.name) := fun _ _ => Constraint.read?_statement
  rw [filterMap_of_mapM hread h, List.map_map, ← List.filterMap_eq_map]
  rfl

theorem declared_keyClause (cs : List Column) :
    (match cs with
      | [] => []
      | keys => ["PRIMARY KEY (" ++ ", ".intercalate
          (keys.map fun c : Column => d.quoteIdentifier c.name) ++ ")"]).filterMap
        (Constraint.read? d table) = keyClause cs := by
  cases cs with
  | nil => rfl
  | cons c cs =>
    have hread := Constraint.read?_keyClause (d := d) table
      (List.cons_ne_nil c.name (cs.map Column.name))
    rw [← List.map_cons, List.map_map] at hread
    exact List.filterMap_cons_some hread

/-- A table definition declares the constraints that its columns come with. -/
theorem declared_eq {parts : Parts}
    (h : tableParts d (.text table) (columns.map .column) ifNotExists = .ok parts) :
    parts.declared d table = constraintsOf d columns := by
  obtain ⟨lines, hlines, h⟩ := bind_ok h
  have hcolumns : (columns.map Value.column).filterMap Value.column? = columns := by
    rw [List.filterMap_map]
    exact List.filterMap_some
  rw [hcolumns] at h
  dsimp only at h
  split at h
  · cases h
    rw [Parts.declared, List.append_nil, List.filterMap_append, List.filterMap_append,
      List.filterMap_append, declared_lines hlines,
      declared_clauses fun c : Column => Constraint.read?_unique table c.name,
      declared_clauses fun c : Column => Constraint.read?_index table c.name]
    exact congrArg (_ ++ · ++ _ ++ _) (declared_keyClause _)
  · obtain ⟨statements, hstatements, h⟩ := bind_ok h
    cases h
    rw [Parts.declared, List.filterMap_append, List.filterMap_append, List.filterMap_append,
      declared_lines hlines,
      declared_clauses fun c : Column => Constraint.read?_unique table c.name,
      declared_statements hstatements]
    exact congrArg (_ ++ · ++ _ ++ _) (declared_keyClause _)

/-- A table definition can be written just if its columns can. -/
theorem exists_tableParts_iff :
    (∃ parts, tableParts d (.text table) (columns.map .column) ifNotExists = .ok parts) ↔
      ∀ c ∈ columns, ∃ sql, c.toSql d = .ok sql := by
  have hlines : (∃ lines, (columns.map Value.column).mapM (lineSql d) = .ok lines) ↔
      ∀ c ∈ columns, ∃ sql, c.toSql d = .ok sql := by
    rw [List.mapM_map]
    exact exists_mapM_iff
  rw [← hlines]
  constructor
  · rintro ⟨parts, h⟩
    obtain ⟨lines, hlines, -⟩ := bind_ok h
    exact ⟨lines, hlines⟩
  · rintro ⟨lines, hlines⟩
    rw [tableParts, hlines]
    dsimp only [bind, Except.bind]
    split
    · exact ⟨_, rfl⟩
    · obtain ⟨statements, hstatements⟩ := (exists_mapM_iff (f := indexStatement d (.text table)
        ifNotExists)).2 fun _ _ => ⟨_, rfl⟩
      rw [hstatements]
      exact ⟨_, rfl⟩

/-! ## The key -/

/-- A numbered column is a key by itself, and the other flagged columns are one together. -/
theorem keysOf_constraintsOf :
    keysOf (constraintsOf d columns) = (numbered d columns).map (fun c => [c.name]) ++
      keysOf (keyClause (keyColumns d columns)) := by
  have hkeys : ∀ cs : List Column, keysOf (cs.map fun c => .key [c.name]) =
      cs.map fun c => [c.name] := fun cs => by
    rw [keysOf, List.filterMap_map, ← List.filterMap_eq_map]
    rfl
  have hnone : ∀ {kind : String → Constraint}, (∀ s, (kind s).key? = none) → ∀ names : List String,
      keysOf (names.map kind) = [] := fun h names => by
    rw [keysOf, List.filterMap_map, List.filterMap_eq_nil_iff]
    exact fun s _ => h s
  have happend : ∀ cs cs' : List Constraint, keysOf (cs ++ cs') = keysOf cs ++ keysOf cs' :=
    fun _ _ => List.filterMap_append
  rw [constraintsOf, happend, happend, happend, hkeys, hnone fun _ => rfl, hnone fun _ => rfl,
    List.append_nil, List.append_nil]

theorem keysOf_keyClause {cs : List Column} (h : cs ≠ []) :
    keysOf (keyClause cs) = [cs.map Column.name] := by
  cases cs with
  | nil => exact absurd rfl h
  | cons => rfl

/-- The flagged columns are those of the clause, and those that are numbered. -/
theorem keyColumns_eq_filter :
    keyColumns d columns =
      (flagged columns).filter fun c => !(d.autoIncrementIsKey && c.autoIncrement) := by
  rw [flagged, List.filter_filter, keyColumns]
  congr 1
  funext c
  rw [Bool.and_comm]

theorem flagged_subset : flagged columns ⊆ columns := fun _ => List.mem_of_mem_filter

theorem mem_numbered {c : Column} :
    c ∈ numbered d columns ↔ c ∈ columns ∧ (d.autoIncrementIsKey && c.autoIncrement) = true :=
  List.mem_filter

theorem keyColumns_of_no_numbered (h : numbered d columns = []) :
    keyColumns d columns = flagged columns := by
  rw [keyColumns_eq_filter, List.filter_eq_self]
  intro c hc
  have hplain := List.eq_nil_iff_forall_not_mem.1 h c
  rw [mem_numbered, not_and, Bool.not_eq_true] at hplain
  rw [hplain (flagged_subset hc)]
  rfl

theorem keyColumns_eq_nil {c : Column} (hone : numbered d columns = [c])
    (hall : ∀ k ∈ flagged columns, k = c) : keyColumns d columns = [] := by
  rw [keyColumns_eq_filter, List.filter_eq_nil_iff]
  intro k hk
  have hc : c ∈ numbered d columns := hone ▸ List.mem_cons_self
  rw [hall k hk, (mem_numbered.1 hc).2]
  exact Bool.false_ne_true

/-- Among columns with names of their own, one occurs at most once. -/
theorem eq_singleton {cs : List Column} {c : Column} (hnames : (cs.map Column.name).Nodup)
    (hne : cs ≠ []) (hall : ∀ k ∈ cs, k = c) : cs = [c] := by
  obtain ⟨k, ks, rfl⟩ := List.exists_cons_of_ne_nil hne
  obtain ⟨rfl, hall⟩ := List.forall_mem_cons.1 hall
  cases ks with
  | nil => rfl
  | cons k' ks =>
    obtain rfl := hall k' List.mem_cons_self
    simp at hnames

/-- There is at most one key, and it is that of the flagged columns, if no column is numbered, or
one that is the only flagged one if there is any. -/
theorem one_key_iff (hnames : (columns.map Column.name).Nodup) :
    ((keysOf (constraintsOf d columns)).length ≤ 1 ∧
      (flagged columns ≠ [] →
        keysOf (constraintsOf d columns) = [(flagged columns).map Column.name])) ↔
      (numbered d columns = [] ∨
        ∃ c, numbered d columns = [c] ∧ ∀ k ∈ flagged columns, k = c) := by
  rw [keysOf_constraintsOf]
  constructor
  · rintro ⟨honce, hcovers⟩
    cases hnumbered : numbered d columns with
    | nil => exact .inl rfl
    | cons c cs =>
      rw [hnumbered, List.map_cons, List.cons_append] at honce hcovers
      -- the key of `c` is the only one, so there is no clause and no other numbered column
      have hno : cs.map (fun c => [c.name]) ++ keysOf (keyClause (keyColumns d columns)) = [] :=
        List.eq_nil_of_length_eq_zero (Nat.le_zero.1 (Nat.le_of_succ_le_succ honce))
      refine .inr ⟨c, ?_, fun k hk => ?_⟩
      · rw [List.map_eq_nil_iff.1 (List.append_eq_nil_iff.1 hno).1]
      · have hkey := hcovers (List.ne_nil_of_mem hk)
        rw [hno, List.singleton_inj] at hkey
        have hname : k.name ∈ [c.name] := hkey ▸ List.mem_map_of_mem hk
        have hc : c ∈ columns := (mem_numbered.1 (hnumbered ▸ List.mem_cons_self)).1
        exact List.inj_on_of_nodup_map hnames (flagged_subset hk) hc (List.mem_singleton.1 hname)
  · rintro (hnone | ⟨c, hone, hall⟩)
    · rw [hnone, keyColumns_of_no_numbered hnone, List.map_nil, List.nil_append]
      by_cases hflagged : flagged columns = []
      · exact ⟨by simp [hflagged, keysOf, keyClause], fun hne => absurd hflagged hne⟩
      · rw [keysOf_keyClause hflagged]
        exact ⟨Nat.le_refl 1, fun _ => rfl⟩
    · rw [hone, keyColumns_eq_nil hone hall]
      refine ⟨Nat.le_refl 1, fun hne => ?_⟩
      have hsub : (flagged columns).Sublist columns := List.filter_sublist
      rw [eq_singleton (hnames.sublist (hsub.map _)) hne hall]
      rfl

/-! ## Clauses of single columns -/

/-- A column that is not flagged has as many clauses of a kind as it asks for, a flagged one has
none. -/
theorem count_clauses (hnames : (columns.map Column.name).Nodup) {c : Column} (hc : c ∈ columns)
    {asks : Column → Bool} (hasks : asks c = true) :
    (((plainColumns columns).filter asks).map Column.name).count c.name =
      if c.primaryKey then 0 else 1 := by
  have hsub : ((plainColumns columns).filter asks).Sublist columns :=
    List.filter_sublist.trans List.filter_sublist
  rw [(hnames.sublist (hsub.map _)).count]
  have hmem : c.name ∈ ((plainColumns columns).filter asks).map Column.name ↔
      c.primaryKey = false := by
    rw [List.mem_map]
    constructor
    · rintro ⟨c', hc', hname⟩
      obtain rfl := List.inj_on_of_nodup_map hnames (hsub.subset hc') hc hname
      simpa [plainColumns] using (List.mem_filter.1 (List.mem_of_mem_filter hc')).2
    · intro hplain
      exact ⟨c, List.mem_filter.2 ⟨List.mem_filter.2 ⟨hc, by simp [hplain]⟩, hasks⟩, rfl⟩
  cases hflag : c.primaryKey <;> simp [hmem, hflag]

/-- A constraint that is not a key is among the clauses of single columns. -/
theorem count_constraintsOf {constraint : Constraint} (h : constraint.key? = none) :
    (constraintsOf d columns).count constraint =
      ((((plainColumns columns).filter fun c => c.unique).map Column.name).map .unique).count
          constraint +
        ((((plainColumns columns).filter fun c => c.index).map Column.name).map .index).count
          constraint := by
  have hkeys : constraint ∉ (numbered d columns).map fun c => Constraint.key [c.name] := by
    rintro hmem
    obtain ⟨c, -, rfl⟩ := List.mem_map.1 hmem
    cases h
  have hclause : constraint ∉ keyClause (keyColumns d columns) := by
    intro hmem
    cases hkey : keyColumns d columns with
    | nil =>
      rw [hkey] at hmem
      cases hmem
    | cons =>
      rw [hkey, keyClause, List.mem_singleton] at hmem
      rw [hmem] at h
      cases h
  rw [constraintsOf, List.count_append, List.count_append, List.count_append,
    List.count_eq_zero_of_not_mem hkeys, List.count_eq_zero_of_not_mem hclause, Nat.add_zero,
    Nat.zero_add]

theorem count_unique (name : String) : (constraintsOf d columns).count (.unique name) =
    (((plainColumns columns).filter fun c => c.unique).map Column.name).count name := by
  have hindexes : ∀ names : List String, .unique name ∉ names.map Constraint.index := by simp
  rw [count_constraintsOf rfl, List.count_eq_zero_of_not_mem (hindexes _), Nat.add_zero,
    List.count_map_of_injective _ _ fun _ _ => Constraint.unique.inj]

theorem count_index (name : String) : (constraintsOf d columns).count (.index name) =
    (((plainColumns columns).filter fun c => c.index).map Column.name).count name := by
  have huniques : ∀ names : List String, .index name ∉ names.map Constraint.unique := by simp
  rw [count_constraintsOf rfl, List.count_eq_zero_of_not_mem (huniques _), Nat.zero_add,
    List.count_map_of_injective _ _ fun _ _ => Constraint.index.inj]

/-- Whoever asks for a clause and is not the whole key has it just if the key is of one column at
most, or no column of the key asks. -/
theorem has_clause_iff (hnames : (columns.map Column.name).Nodup) {asks : Column → Bool} :
    (∀ c ∈ columns, asks c = true → (flagged columns).map Column.name ≠ [c.name] →
        (((plainColumns columns).filter asks).map Column.name).count c.name = 1) ↔
      ((flagged columns).length ≤ 1 ∨ ∀ c ∈ flagged columns, asks c = false) := by
  constructor
  · intro hall
    refine or_iff_not_imp_left.2 fun hmany c hc => Bool.eq_false_iff.2 fun hasks => ?_
    have hwhole : (flagged columns).map Column.name ≠ [c.name] := fun heq => by
      have hone := congrArg List.length heq
      rw [List.length_map] at hone
      exact hmany (Nat.le_of_eq hone)
    have hcount := hall c (flagged_subset hc) hasks hwhole
    have hflag : c.primaryKey = true := List.of_mem_filter hc
    rw [count_clauses hnames (flagged_subset hc) hasks, if_pos hflag] at hcount
    cases hcount
  · intro hkey c hc hasks hwhole
    rw [count_clauses hnames hc hasks, if_neg]
    intro hflag
    have hmem : c ∈ flagged columns := List.mem_filter.2 ⟨hc, hflag⟩
    rcases hkey with hfew | hnone
    · obtain ⟨k, hk⟩ := List.length_eq_one_iff.1
        (Nat.le_antisymm hfew (List.length_pos_of_mem hmem))
      rw [hk, List.mem_singleton] at hmem
      exact hwhole (by rw [hk, hmem]; rfl)
    · rw [hnone c hmem] at hasks
      cases hasks

/-! ## The definition as a whole -/

/-- A table of columns with names of their own can be written just if each of the columns can. It
does what they ask for just if a column that is numbered as the key is the only one and no other one
is flagged, and a key of several columns has none that is to be unique or to have an index. -/
theorem keys_rendered_iff (d : Dialect) (table : String) {columns : List Column}
    (hnames : (columns.map Column.name).Nodup) (ifNotExists : Bool) :
    ((∃ parts, tableParts d (.text table) (columns.map .column) ifNotExists = .ok parts) ↔
        ∀ c ∈ columns, ∃ sql, c.toSql d = .ok sql) ∧
      ∀ parts, tableParts d (.text table) (columns.map .column) ifNotExists = .ok parts →
        (RendersKeys columns (parts.declared d table) ↔
          (numbered d columns = [] ∨
              ∃ c, numbered d columns = [c] ∧ ∀ k ∈ flagged columns, k = c) ∧
            ((flagged columns).length ≤ 1 ∨
              ∀ c ∈ flagged columns, c.unique = false ∧ c.index = false)) := by
  refine ⟨exists_tableParts_iff, fun parts hparts => ?_⟩
  have hclauses : ((flagged columns).length ≤ 1 ∨
      ∀ c ∈ flagged columns, c.unique = false ∧ c.index = false) ↔
      ((flagged columns).length ≤ 1 ∨ ∀ c ∈ flagged columns, c.unique = false) ∧
        ((flagged columns).length ≤ 1 ∨ ∀ c ∈ flagged columns, c.index = false) := by
    rw [← or_and_left, ← forall₂_and]
  rw [declared_eq hparts, hclauses, ← one_key_iff hnames, ← has_clause_iff hnames,
    ← has_clause_iff hnames]
  constructor
  · rintro ⟨honce, hcovers, hunique, hindex⟩
    refine ⟨⟨honce, hcovers⟩, ?_, ?_⟩
    · intro c hc hasks hwhole
      rw [← count_unique (d := d)]
      exact hunique c hc hasks hwhole
    · intro c hc hasks hwhole
      rw [← count_index (d := d)]
      exact hindex c hc hasks hwhole
  · rintro ⟨⟨honce, hcovers⟩, hunique, hindex⟩
    refine ⟨honce, hcovers, ?_, ?_⟩
    · intro c hc hasks hwhole
      rw [count_unique]
      exact hunique c hc hasks hwhole
    · intro c hc hasks hwhole
      rw [count_index]
      exact hindex c hc hasks hwhole

/-- A key of two columns of which one is to be unique. -/
def pair : List Column :=
  [{ Column.plain "a" "INT" with primaryKey := true, unique := true },
    { Column.plain "b" "INT" with primaryKey := true }]

/-- The clause for the unique column of a key of two is left out. -/
theorem keys_rendered_iff_of_pair :
    (pair.map Column.name).Nodup ∧
      ∃ parts, tableParts .postgres (.text "t") (pair.map .column) false = .ok parts ∧
        ¬RendersKeys pair (parts.declared .postgres "t") := by
  have hnames : (pair.map Column.name).Nodup := by decide
  have hrendered := keys_rendered_iff .postgres "t" hnames false
  have hcolumns : ∀ c ∈ pair, ∃ sql, c.toSql .postgres = .ok sql := by
    simp only [pair, List.forall_mem_cons]
    exact ⟨⟨_, rfl⟩, ⟨_, rfl⟩, nofun⟩
  obtain ⟨parts, hparts⟩ := hrendered.1.2 hcolumns
  refine ⟨hnames, parts, hparts, fun hkeys => ?_⟩
  obtain ⟨-, hclauses⟩ := (hrendered.2 parts hparts).1 hkeys
  revert hclauses
  decide

end SqlBuilder.Schema
