import SqlBuilder.Proofs.Grammar.Building
import SqlBuilder.Proofs.Prefix.TableNames
import SqlBuilder.Proofs.Quoting.Lowering
import SqlBuilder.Proofs.Splicing.Tables

/-!
# The aliases of tables

A `Declaration` is a table that a call of `from_` selects, with an alias or without. Tables stand in
a list and aliases in a map under the table, so that calls leave all tables that were declared, in
order, and of each name the alias that was declared last (`Selects`; one step each are
`Selects.addAlias` and `Selects.addTables`).

`compileAs_declared`: what the query then selects from. A name is written with its last alias
(`Adapter.sourceFragment`), which is what was declared for it (`Adapter.declaredFragment`) exactly
if the two aliases are written alike; a raw fragment is written without one.
-/

set_option autoImplicit false

namespace SqlBuilder

open Session Fragment Text Grammar

/-! ## Declarations -/

/-- A table that is asked for: a name, or a raw fragment such as a subquery. -/
inductive Source where
  | name (n : String)
  | raw (sql : String) (bindings : List Value)

namespace Source

/-- The table as an argument. -/
def value : Source → Value
  | name n => .text n
  | raw sql bindings => .raw sql bindings

/-- The table with a prefix in front of its name. -/
def table (t : String) : Source → Value
  | name n => .text (t ++ n)
  | raw sql bindings => .raw sql bindings

theorem table_empty (source : Source) : source.table "" = source.value := by
  cases source <;> simp [table, value]

end Source

/-- A table that is declared, with an alias or without. -/
structure Declaration where
  source : Source
  name : Option String

namespace Declaration

/-- The tables of declarations, with a prefix. -/
def tables (t : String) (ds : List Declaration) : List Value := ds.map fun d => d.source.table t

/-- The alias that is declared for a name, if one is. -/
def nameOf? (n : String) (d : Declaration) : Option String :=
  match d.source with
  | .name m => if m = n then d.name else none
  | .raw .. => none

/-- The alias that is declared last for a name. -/
def lastName (ds : List Declaration) (n : String) : Option String :=
  (ds.filterMap (nameOf? n)).getLast?

/-- The table can have an alias, if one is declared. -/
def CanBeKey (d : Declaration) : Prop := d.name.isSome = true → d.source.value.isKey = true

theorem lastName_append (ds es : List Declaration) (n : String) :
    lastName (ds ++ es) n = (lastName es n).or (lastName ds n) := by
  rw [lastName, List.filterMap_append, List.getLast?_append]
  rfl

theorem lastName_singleton (d : Declaration) (n : String) : lastName [d] n = d.nameOf? n := by
  rw [lastName]
  cases h : d.nameOf? n <;> simp [h]

/-- Declarations without aliases say nothing of any. -/
theorem lastName_of_unnamed {ds : List Declaration} (h : ∀ d ∈ ds, d.name = none) (n : String) :
    lastName ds n = none := by
  rw [lastName, List.getLast?_eq_none_iff, List.filterMap_eq_nil_iff]
  intro d hd
  unfold nameOf?
  split
  · rw [h d hd, ite_self]
  · rfl

end Declaration

/-- An argument of a call that selects tables. -/
inductive TableArgument where
  | single (source : Source)
  | several (inTuple : Bool) (sources : List Source)
  | aliased (entries : List (Source × String))

namespace TableArgument

/-- The argument itself. -/
def value : TableArgument → Value
  | single source => source.value
  | several inTuple sources => Value.sequence inTuple (sources.map Source.value)
  | aliased entries => .map (entries.map fun e => (e.1.value, .text e.2))

/-- What the argument declares. -/
def declarations : TableArgument → List Declaration
  | single source => [⟨source, none⟩]
  | several _ sources => sources.map fun source => ⟨source, none⟩
  | aliased entries => entries.map fun e => ⟨e.1, some e.2⟩

theorem isNothing_values (args : List TableArgument) :
    Builder.isNothing (args.map value) = args.isEmpty := by
  rcases args with _ | ⟨arg, _ | ⟨arg', args⟩⟩
  · rfl
  · cases arg with
    | single source => cases source <;> rfl
    | several inTuple => cases inTuple <;> rfl
    | aliased => rfl
  · simp [Builder.isNothing]

end TableArgument

/-- What is declared after calls, each of which takes some arguments. One without arguments clears
the tables. -/
def Declaration.after (now : List Declaration) : List (List TableArgument) → List Declaration
  | [] => now
  | [] :: calls => after [] calls
  | args :: calls => after (now ++ args.flatMap TableArgument.declarations) calls

/-! ## Maps with names as keys -/

namespace Value

theorem same_text_iff (k : Value) (n : String) : k.same (.text n) = true ↔ k = .text n := by
  cases k <;>
    simp [same, alike, equal?, identical, equalScalar?, number?, samePlace]

theorem text_same_iff (n : String) (k : Value) : (Value.text n).same k = true ↔ k = .text n := by
  rw [← @eq_comm _ (Value.text n)]
  cases k <;>
    simp [same, alike, equal?, identical, equalScalar?, number?, samePlace]

/-- What is put under a name is found there. -/
theorem lookup_insert_self (entries : List (Value × Value)) (n : String) (v : Value) :
    lookup (insert entries (.text n) v) (.text n) = some v := by
  induction entries with
  | nil => rw [insert, lookup, if_pos ((same_text_iff _ n).2 rfl)]
  | cons entry entries ih =>
    obtain ⟨k, w⟩ := entry
    by_cases hk : k.same (.text n) = true
    · simp [insert, lookup, hk]
    · simp [insert, lookup, hk, ih]

/-- What is put under another key is not found under the name. -/
theorem lookup_insert_of_ne (entries : List (Value × Value)) {key : Value} {n : String}
    (h : key ≠ .text n) (v : Value) :
    lookup (insert entries key v) (.text n) = lookup entries (.text n) := by
  induction entries with
  | nil =>
    have hkey : ¬ key.same (.text n) = true := fun hsame => h ((same_text_iff key n).1 hsame)
    simp [insert, lookup, hkey]
  | cons entry entries ih =>
    obtain ⟨k, w⟩ := entry
    by_cases hk : k.same key = true
    -- The entry that is overwritten is under the key, and nothing else is the same as a name.
    · have hn : ¬ k.same (.text n) = true := by
        intro hsame
        obtain rfl := (same_text_iff k n).1 hsame
        exact h ((text_same_iff n key).1 hk)
      simp [insert, lookup, hk, hn]
    · simp [insert, lookup, hk, ih]

end Value

/-! ## Statements -/

/-- The statements select from the tables that are declared now, and know of each name the alias
that was declared last; the other clauses are those of `base`. -/
structure Statements.Selects (base : Statements) (t : String) (now ever : List Declaration)
    (st : Statements) : Prop where
  rest : ∃ tables aliases, st = { base with tables, aliases }
  tables : st.tables = .list (Declaration.tables t now) ∨ st.tables = .null ∧ now = []
  aliases : ∃ entries, (st.aliases = .map entries ∨ st.aliases = .null ∧ entries = []) ∧
    ∀ n, Value.lookup entries (.text (t ++ n)) =
      (Declaration.lastName ever n).map fun name => .text (lower name)

namespace Statements.Selects

variable {base st : Statements} {t : String} {now ever : List Declaration}

/-- Statements without tables and aliases. -/
theorem fresh (htables : st.tables = .null) (haliases : st.aliases = .null) :
    st.Selects t [] [] st where
  rest := ⟨st.tables, st.aliases, by cases st; rfl⟩
  tables := .inr ⟨htables, rfl⟩
  aliases := ⟨[], .inr ⟨haliases, rfl⟩, fun _ => rfl⟩

theorem openAliases (h : Selects base t now ever st) :
    Selects base t now ever st.openAliases ∧ ∃ entries, st.openAliases.aliases = .map entries := by
  obtain ⟨⟨tables, aliases, rfl⟩, htables, entries, hentries | ⟨hentries, rfl⟩, hlast⟩ := h
  · cases hentries
    exact ⟨⟨⟨_, _, rfl⟩, htables, entries, .inl rfl, hlast⟩, entries, rfl⟩
  · cases hentries
    exact ⟨⟨⟨_, _, rfl⟩, htables, [], .inl rfl, hlast⟩, [], rfl⟩

/-- What is declared without an alias changes none. -/
theorem unnamed (h : Selects base t now ever st) {ds : List Declaration}
    (hds : ∀ d ∈ ds, d.name = none) : Selects base t now (ever ++ ds) st := by
  obtain ⟨entries, hentries, hlast⟩ := h.aliases
  refine ⟨h.rest, h.tables, entries, hentries, fun n => ?_⟩
  rw [hlast, Declaration.lastName_append, Declaration.lastName_of_unnamed hds, Option.none_or]

/-- An alias takes the place of the one that was declared for the same name. -/
theorem addAlias (h : Selects base t now ever st) {old : List (Value × Value)}
    (hold : st.aliases = .map old) {source : Source} (hkey : source.value.isKey = true)
    (name : String) :
    ∃ st', st.addAlias (source.table t) (.text (lower name)) = .ok st' ∧
      Selects base t now (ever ++ [⟨source, some name⟩]) st' := by
  obtain ⟨⟨tables, aliases, rfl⟩, htables, entries, hentries, hlast⟩ := h
  cases hold
  obtain rfl : old = entries := by
    rcases hentries with hentries | ⟨hentries, -⟩
    · exact Value.map.inj hentries
    · cases hentries
  have htable : (source.table t).isKey = true := by
    cases source with
    | name => rfl
    | raw => exact hkey
  refine ⟨_, ?_, ⟨tables, .map (Value.insert old (source.table t) (.text (lower name))), rfl⟩,
    htables, _, .inl rfl, fun n => ?_⟩
  · rw [Statements.addAlias, Value.assigned, if_pos htable]
    rfl
  · rw [Declaration.lastName_append, Declaration.lastName_singleton]
    cases source with
    -- What is kept under a raw fragment is not looked up again.
    | raw sql bindings =>
      rw [Source.table, Value.lookup_insert_of_ne _ (by simp), hlast]
      rfl
    | name m =>
      by_cases hm : m = n
      · subst hm
        simp [Source.table, Declaration.nameOf?, Value.lookup_insert_self]
      · have hne : Value.text (t ++ m) ≠ .text (t ++ n) := by simpa using hm
        simp [Source.table, Declaration.nameOf?, Value.lookup_insert_of_ne _ hne, hm, hlast]

theorem addTables (h : Selects base t now ever st) (ds : List Declaration) :
    ∃ st', st.addTables (Declaration.tables t ds) = .ok st' ∧
      Selects base t (now ++ ds) ever st' := by
  obtain ⟨⟨tables, aliases, rfl⟩, htables, haliases⟩ := h
  refine ⟨{ base with tables := .list (Declaration.tables t (now ++ ds)), aliases }, ?_,
    ⟨_, _, rfl⟩, .inl rfl, haliases⟩
  rcases htables with htables | ⟨htables, rfl⟩
  · cases htables
    simp only [Declaration.tables, List.map_append]
    rfl
  · cases htables
    rfl

theorem clearTables (h : Selects base t now ever st) :
    Selects base t [] ever st.clearTables := by
  obtain ⟨⟨tables, aliases, rfl⟩, -, haliases⟩ := h
  exact ⟨⟨_, _, rfl⟩, .inr ⟨rfl, rfl⟩, haliases⟩

theorem sources (h : Selects base t now ever st) :
    st.sources = .ok (Declaration.tables t now) := by
  rw [Statements.sources]
  rcases h.tables with htables | ⟨htables, rfl⟩
  · rw [htables]
    exact Value.listed_sequence false _
  · rw [htables]
    rfl

theorem aliasOf (h : Selects base t now ever st) (n : String) :
    st.aliasOf (.text (t ++ n)) = .ok
      (((Declaration.lastName ever n).map fun name => .text (lower name)).getD .null) := by
  obtain ⟨entries, hentries, hlast⟩ := h.aliases
  rw [← hlast, Statements.aliasOf]
  rcases hentries with hentries | ⟨hentries, rfl⟩
  · rw [hentries]
    rfl
  · rw [hentries]
    rfl

end Statements.Selects

/-! ## Calls -/

namespace Session

/-- Names of tables get the prefix. -/
def Prefixes (s : Session) (conn : Connection) (t : String) : Prop :=
  ∃ p, s.prefixOf conn = .ok p ∧ (p = .text t ∨ p.isTrue = false ∧ t = "")

variable {s : Session} {conn : Connection} {t : String}

/-- Either the prefix counts as true, or there is nothing in front of a name. -/
theorem Prefixes.cases (h : s.Prefixes conn t) :
    ∃ p, s.prefixOf conn = .ok p ∧ (p.isTrue = true ∧ p = .text t ∨ p.isTrue = false ∧ t = "") := by
  obtain ⟨p, hp, hcases⟩ := h
  refine ⟨p, hp, ?_⟩
  cases htrue : p.isTrue with
  | true =>
    rcases hcases with rfl | ⟨hfalse, -⟩
    · exact .inl ⟨rfl, rfl⟩
    · rw [hfalse] at htrue
      cases htrue
  | false =>
    rcases hcases with rfl | ⟨-, hnone⟩
    · exact .inr ⟨rfl, by simpa [Value.isTrue] using htrue⟩
    · exact .inr ⟨rfl, hnone⟩

theorem Prefixes.prefixed (h : s.Prefixes conn t) (source : Source) :
    s.prefixOf conn >>= (Builder.prefixed · false source.value) = .ok (source.table t) := by
  obtain ⟨p, hp, ⟨htrue, rfl⟩ | ⟨hfalse, rfl⟩⟩ := h.cases
  · rw [hp]
    show Builder.prefixed (.text t) false source.value = _
    unfold Builder.prefixed
    rw [if_neg (by simp [htrue])]
    cases source <;> rfl
  · rw [hp, Source.table_empty]
    exact prefixed_of_not_true hfalse false _

theorem Prefixes.prefixed_list (h : s.Prefixes conn t) (sources : List Source) :
    s.prefixOf conn >>= (Builder.prefixed · false (.list (sources.map Source.value))) =
      .ok (.list (sources.map (Source.table t))) := by
  obtain ⟨p, hp, ⟨htrue, rfl⟩ | ⟨hfalse, rfl⟩⟩ := h.cases
  · have hnames : (sources.map Source.value).mapM (Builder.prefixedName (.text t) false) =
        .ok (sources.map (Source.table t)) := by
      induction sources with
      | nil => rfl
      | cons source sources ih =>
        rw [List.map_cons, List.mapM_cons, ih]
        cases source <;> rfl
    rw [hp]
    show Builder.prefixed (.text t) false (.list (sources.map Source.value)) = _
    unfold Builder.prefixed
    rw [if_neg (by simp [htrue])]
    dsimp only
    rw [hnames]
    rfl
  · have hsame : sources.map (Source.table "") = sources.map Source.value :=
      List.map_congr_left fun source _ => source.table_empty
    rw [hp, hsame]
    exact prefixed_of_not_true hfalse false (.list (sources.map Source.value))

end Session

/-- The builder stands in the session and selects from what is declared. -/
structure Selecting (b : Nat) (x : Builder) (c : Nat) (conn : Connection) (base : Statements)
    (t : String) (now ever : List Declaration) (s : Session) : Prop where
  prefixes : s.Prefixes conn t
  standing : ∃ st, Standing b x c conn st s ∧ base.Selects t now ever st

section

variable {r : Reaction} {s : Session} {b c : Nat} {x : Builder} {conn : Connection}
  {base : Statements} {t : String} {now ever : List Declaration}

theorem Selecting.addPrefix (h : Selecting b x c conn base t now ever s) (source : Source) :
    runIn r (Builder.addPrefix b source.value false) s = (.ok (source.table t), s) := by
  obtain ⟨hprefixes, st, hstanding, -⟩ := h
  rw [runIn_addPrefix hstanding.opened, hprefixes.prefixed]

theorem Selecting.setAlias (h : Selecting b x c conn base t now ever s) {source : Source}
    (hkey : source.value.isKey = true) (name : String) :
    ∃ s', runIn r (Builder.setAlias b (.text name) (source.table t)) s = (.ok (), s') ∧
      Selecting b x c conn base t now (ever ++ [⟨source, some name⟩]) s' := by
  obtain ⟨hprefixes, st, hstanding, hselects⟩ := h
  obtain ⟨hopened, entries, hentries⟩ := hselects.openAliases
  obtain ⟨st', hadded, hselects'⟩ := hopened.addAlias hentries hkey name
  have hstanding' := hstanding.edited Statements.openAliases
  rw [Builder.setAlias, runIn_bind_ok (runIn_edit hstanding.builder _)]
  exact ⟨_, runIn_change (f := fun st => st.addAlias (source.table t) (.text (lower name)))
    hstanding'.builder hstanding'.statements hadded, hprefixes, st',
    hstanding'.edited fun _ => st', hselects'⟩

/-- The tables of a map, each with its alias. -/
theorem Selecting.collect_aliased (h : Selecting b x c conn base t now ever s)
    {entries : List (Source × String)} (hkeys : ∀ e ∈ entries, e.1.value.isKey = true) :
    ∃ s', runIn r (Builder.collectTables b (TableArgument.aliased entries).value) s =
        (.ok (Declaration.tables t (TableArgument.aliased entries).declarations), s') ∧
      Selecting b x c conn base t now
        (ever ++ (TableArgument.aliased entries).declarations) s' := by
  simp only [TableArgument.value, Builder.collectTables, TableArgument.declarations,
    Declaration.tables, List.map_map]
  -- By induction on the entries: each alias is declared before the next table is read.
  induction entries generalizing s ever with
  | nil => exact ⟨s, rfl, by simpa using h⟩
  | cons e entries ih =>
    rw [List.forall_mem_cons] at hkeys
    obtain ⟨s₁, hname, h₁⟩ := h.setAlias (r := r) hkeys.1 e.2
    obtain ⟨s₂, hrest, h₂⟩ := ih h₁ hkeys.2
    refine ⟨s₂, ?_, by simpa using h₂⟩
    rw [List.map_cons, List.mapM_cons]
    simp only [bind_assoc, pure_bind]
    rw [runIn_bind_ok (h.addPrefix e.1), runIn_bind_ok hname, runIn_bind_ok hrest]
    rfl

/-- What an argument declares is collected. -/
theorem Selecting.collect (h : Selecting b x c conn base t now ever s) {arg : TableArgument}
    (hkeys : ∀ d ∈ arg.declarations, d.CanBeKey) :
    ∃ s', runIn r (Builder.collectTables b arg.value) s =
        (.ok (Declaration.tables t arg.declarations), s') ∧
      Selecting b x c conn base t now (ever ++ arg.declarations) s' := by
  have hunnamed {ds : List Declaration} (hds : ∀ d ∈ ds, d.name = none) :
      Selecting b x c conn base t now (ever ++ ds) s := by
    obtain ⟨hprefixes, st, hstanding, hselects⟩ := h
    exact ⟨hprefixes, st, hstanding, hselects.unnamed hds⟩
  cases arg with
  | aliased entries =>
    refine h.collect_aliased fun e he => ?_
    exact hkeys ⟨e.1, some e.2⟩ (List.mem_map.2 ⟨e, he, rfl⟩) rfl
  | single source =>
    refine ⟨s, ?_, hunnamed (by simp [TableArgument.declarations])⟩
    have hcollect : Builder.collectTables b (TableArgument.single source).value = (do
        pure [← Builder.addPrefix b source.value false]) := by
      cases source <;> rfl
    rw [hcollect, runIn_bind_ok (h.addPrefix source)]
    rfl
  | several inTuple sources =>
    refine ⟨s, ?_, hunnamed (by simp [TableArgument.declarations])⟩
    have hcollect : Builder.collectTables b (TableArgument.several inTuple sources).value =
        Builder.addPrefixAll b (sources.map Source.value) false := by
      cases inTuple <;> rfl
    obtain ⟨hprefixes, st, hstanding, -⟩ := h
    have hlist : runIn r (Builder.addPrefix b (.list (sources.map Source.value)) false) s =
        (.ok (.list (sources.map (Source.table t))), s) := by
      rw [runIn_addPrefix hstanding.opened, hprefixes.prefixed_list]
    rw [hcollect, Builder.addPrefixAll, runIn_bind_ok hlist, TableArgument.declarations,
      Declaration.tables, List.map_map]
    rfl

theorem Selecting.collectAll (h : Selecting b x c conn base t now ever s)
    {args : List TableArgument} (hkeys : ∀ arg ∈ args, ∀ d ∈ arg.declarations, d.CanBeKey) :
    ∃ s', runIn r ((args.map TableArgument.value).mapM (Builder.collectTables b)) s =
        (.ok (args.map fun arg => Declaration.tables t arg.declarations), s') ∧
      Selecting b x c conn base t now (ever ++ args.flatMap TableArgument.declarations) s' := by
  induction args generalizing s ever with
  | nil => exact ⟨s, rfl, by simpa using h⟩
  | cons arg args ih =>
    rw [List.forall_mem_cons] at hkeys
    obtain ⟨s₁, hfirst, h₁⟩ := h.collect (r := r) hkeys.1
    obtain ⟨s₂, hrest, h₂⟩ := ih h₁ hkeys.2
    refine ⟨s₂, ?_, by simpa using h₂⟩
    rw [List.map_cons, List.mapM_cons, runIn_bind_ok hfirst, runIn_bind_ok hrest]
    rfl

/-- One call declares its tables behind those that are there, or clears them. -/
theorem Selecting.call (h : Selecting b x c conn base t now ever s)
    {args : List TableArgument} (hkeys : ∀ arg ∈ args, ∀ d ∈ arg.declarations, d.CanBeKey) :
    ∃ s', runIn r (Builder.fromTables b (args.map TableArgument.value)) s = (.ok (), s') ∧
      Selecting b x c conn base t (Declaration.after now [args])
        (ever ++ args.flatMap TableArgument.declarations) s' := by
  rw [Builder.fromTables, TableArgument.isNothing_values]
  cases args with
  | nil =>
    obtain ⟨hprefixes, st, hstanding, hselects⟩ := h
    rw [List.flatMap_nil, List.append_nil]
    exact ⟨_, runIn_edit hstanding.builder _, hprefixes, _, hstanding.edited _,
      hselects.clearTables⟩
  | cons arg args =>
    rw [List.isEmpty_cons, if_neg Bool.false_ne_true]
    obtain ⟨s₁, hcollected, hprefixes, st, hstanding, hselects⟩ := h.collectAll (r := r) hkeys
    obtain ⟨st', hadded, hselects'⟩ :=
      hselects.addTables ((arg :: args).flatMap TableArgument.declarations)
    rw [Declaration.tables, List.map_flatMap, List.flatMap_def] at hadded
    rw [runIn_bind_ok hcollected]
    exact ⟨_, runIn_change hstanding.builder hstanding.statements hadded, hprefixes, st',
      hstanding.edited fun _ => st', hselects'⟩

/-- Calls one after another. -/
theorem Selecting.calls (h : Selecting b x c conn base t now ever s)
    {calls : List (List TableArgument)}
    (hkeys : ∀ args ∈ calls, ∀ arg ∈ args, ∀ d ∈ arg.declarations, d.CanBeKey) :
    ∃ s', runIn r (calls.forM fun args => Builder.fromTables b (args.map TableArgument.value)) s =
        (.ok (), s') ∧
      Selecting b x c conn base t (Declaration.after now calls)
        (ever ++ calls.flatten.flatMap TableArgument.declarations) s' := by
  induction calls generalizing s now ever with
  | nil => exact ⟨s, rfl, by simpa [Declaration.after] using h⟩
  | cons args calls ih =>
    rw [List.forall_mem_cons] at hkeys
    obtain ⟨s₁, hfirst, h₁⟩ := h.call (r := r) hkeys.1
    obtain ⟨s₂, hrest, h₂⟩ := ih h₁ hkeys.2
    refine ⟨s₂, ?_, ?_⟩
    · rw [List.forM_eq_forM, List.forM_cons, runIn_bind_ok hfirst, ← hrest]
      rfl
    · have hafter : Declaration.after (Declaration.after now [args]) calls =
          Declaration.after now (args :: calls) := by
        cases args <;> rfl
      rw [← hafter, List.flatten_cons, List.flatMap_append, ← List.append_assoc]
      exact h₂

end

/-! ## Queries -/

namespace Adapter

variable (a : Adapter) (t : String) (known : List Declaration)

/-- What is written behind a table for its alias. -/
def aliasText : Option String → String
  | none => ""
  | some name => " AS " ++ a.wrap (.text (lower name))

/-- A table as it is declared. -/
def declaredFragment (d : Declaration) : Fragment :=
  a.nameFragment (d.source.table t) ++ ofText (a.aliasText d.name)

/-- A table as it is written: a name with the alias that was declared last for it. -/
def sourceFragment : Source → Fragment
  | .name n => ofText (a.wrap (.text (t ++ n)) ++ a.aliasText (Declaration.lastName known n))
  | .raw sql bindings => ⟨sql, bindings⟩

/-- What qualifies keys after the table. -/
def sourceAlias : Source → Value
  | .name n => ((Declaration.lastName known n).map fun name => .text (lower name)).getD .null
  | .raw .. => .null

/-- A select, with what is written for its own tables and the alias of the last of them. -/
def selectFrom (s : Statements) (tables : Fragment) (qualifier : Value) : Result Fragment := do
  let columns ← a.columnList (← selectItems s)
  let joins ← a.joinList s
  let wheres ← a.conditionClause "WHERE" qualifier s.wheres
  let groups ← a.groupClause s
  let havings ← a.conditionClause "HAVING" qualifier s.havings
  let paging ← a.pagingClauses s
  let member := Fragment.concatenate ([
    Fragment.ofText (if s.isDistinct then "SELECT DISTINCT" else "SELECT"), columns,
    Fragment.ofText (if tables.sql = "" then "" else "FROM"), tables, joins, wheres, groups,
    havings] ++ paging ++ [lockClause s])
  let others ← furtherMembers a s.unions
  pure (if others.isEmpty then member
    else Fragment.intercalate " " (a.asMember s member :: others))

theorem select_eq_selectFrom {s : Statements} {tables : Fragment} {qualifier : Value}
    (h : a.tableList s = .ok (tables, qualifier)) :
    a.select s = a.selectFrom s tables qualifier := by
  cases s
  rw [select, selectMember, h]
  simp only [selectFrom, bind_assoc, pure_bind]
  rfl

variable {a t known} {base s : Statements} {now : List Declaration}

theorem tableFragment_source (h : base.Selects t now known s) (source : Source) :
    a.tableFragment s (source.table t) =
      .ok (a.sourceFragment t known source, sourceAlias known source) := by
  cases source with
  | raw sql bindings => rfl
  | name n =>
    have halias := h.aliasOf n
    rw [Source.table, a.tableFragment_of_not_raw s rfl, sourceFragment, sourceAlias]
    cases hlast : Declaration.lastName known n with
    | none =>
      rw [hlast] at halias
      rw [a.aliasedTable_alone halias, aliasText, String.append_empty]
      rfl
    | some name =>
      rw [hlast] at halias
      -- Small letters are made of the alias when it is declared, and again when it is written.
      rw [a.aliasedTable_named halias, lower_lower, String.append_assoc]
      rfl

theorem tableList_source (h : base.Selects t now known s) :
    a.tableList s = .ok (intercalate "," (now.map fun d => a.sourceFragment t known d.source),
      (now.getLast?.map fun d => sourceAlias known d.source).getD .null) := by
  have hfragments (ds : List Declaration) :
      (Declaration.tables t ds).mapM (a.tableFragment s) = .ok (ds.map fun d =>
        (a.sourceFragment t known d.source, sourceAlias known d.source)) := by
    induction ds with
    | nil => rfl
    | cons d ds ih =>
      rw [Declaration.tables, List.map_cons, List.mapM_cons, tableFragment_source h]
      rw [Declaration.tables] at ih
      rw [ih]
      rfl
  rw [tableList, h.sources]
  simp only [bind, Except.bind, hfragments, pure, Except.pure, List.map_map, List.getLast?_map,
    Option.map_map]
  rfl

/-- The alias that is written for a declaration is its own: a name's if the alias declared last for
the name is written alike, a raw fragment's if it has none. -/
def Keeps (a : Adapter) (known : List Declaration) (d : Declaration) : Prop :=
  match d.source with
  | .name n => a.aliasText (Declaration.lastName known n) = a.aliasText d.name
  | .raw .. => d.name = none

theorem sourceFragment_eq_iff (d : Declaration) :
    a.sourceFragment t known d.source = a.declaredFragment t d ↔ a.Keeps known d := by
  obtain ⟨source, name⟩ := d
  cases source with
  | name n =>
    have hdeclared : a.declaredFragment t ⟨.name n, name⟩ =
        ofText (a.wrap (.text (t ++ n)) ++ a.aliasText name) := rfl
    rw [hdeclared]
    simp [sourceFragment, Keeps, ofText]
  | raw sql bindings =>
    have hdeclared : a.declaredFragment t ⟨.raw sql bindings, name⟩ =
        ⟨sql ++ a.aliasText name, bindings ++ []⟩ := rfl
    rw [hdeclared]
    cases name with
    | none => simp [sourceFragment, Keeps, aliasText]
    | some name =>
      suffices hlonger : sql ≠ sql ++ a.aliasText (some name) by
        simpa [sourceFragment, Keeps] using hlonger
      intro heq
      have hlength := congrArg String.length heq
      simp [aliasText] at hlength

end Adapter

/-! ## What is selected from -/

/-- Calls of `from_` on a builder, and the query then. It selects from the tables that are declared
since they were last cleared, in order, and each is written as it is declared exactly if the alias
that is known last for it is its own. -/
theorem compileAs_declared {r : Reaction} {s : Session} {b c : Nat} {x : Builder}
    {conn : Connection} {st : Statements} {t : String} {now ever : List Declaration}
    (h : Selecting b x c conn st t now ever s) {calls : List (List TableArgument)}
    (hkeys : ∀ args ∈ calls, ∀ arg ∈ args, ∀ d ∈ arg.declarations, d.CanBeKey) :
    let a := conn.adapter
    let declared := Declaration.after now calls
    let known := ever ++ calls.flatten.flatMap TableArgument.declarations
    let tables := declared.map fun d => a.sourceFragment t known d.source
    let qualifier :=
      (declared.getLast?.map fun d => Adapter.sourceAlias known d.source).getD .null
    (runIn r (do
        calls.forM fun args => Builder.fromTables b (args.map TableArgument.value)
        compileAs b (.ok .select) []) s).1 = (do
      let f ← a.selectFrom st (intercalate "," tables) qualifier
      pure { sql := .text f.sql, bindings := .positional f.bindings, adapter := some a }) ∧
    ∀ d ∈ declared,
      a.sourceFragment t known d.source = a.declaredFragment t d ↔ a.Keeps known d := by
  intro a declared known tables qualifier
  obtain ⟨s', hcalls, -, st', hstanding, hselects⟩ := h.calls (r := r) hkeys
  refine ⟨?_, fun d _ => a.sourceFragment_eq_iff d⟩
  obtain ⟨journal, hcompiled⟩ := runIn_compileAs (r := r) hstanding.opened hstanding.builder
    hstanding.statements .select []
  -- The calls have changed the tables and the aliases alone, and what is written behind the tables
  -- reads neither.
  have hfrom : a.select st' = a.selectFrom st (intercalate "," tables) qualifier := by
    rw [a.select_eq_selectFrom (Adapter.tableList_source hselects)]
    obtain ⟨_, _, rfl⟩ := hselects.rest
    rfl
  rw [runIn_bind_ok hcalls, hcompiled]
  show a.select st' >>= _ = _
  rw [hfrom]

/-- A table that is selected from twice, under two aliases: it is written with the second one
twice. -/
theorem compileAs_declared_of_two :
    let s := prefixedSession ""
    let conn := prefixedConnection ""
    let x : Builder := { connection := some 0, record := 0 }
    let first : Declaration := ⟨.name "t", some "a"⟩
    let calls : List (List TableArgument) :=
      [[.aliased [(.name "t", "a")], .aliased [(.name "t", "b")]]]
    Selecting 0 x 0 conn .empty "" [] [] s ∧
    (∀ args ∈ calls, ∀ arg ∈ args, ∀ d ∈ arg.declarations, d.CanBeKey) ∧
    (runIn (fun _ _ => pure ()) (do
        calls.forM fun args => Builder.fromTables 0 (args.map TableArgument.value)
        compileAs 0 (.ok .select) []) s).1 = .ok
      { sql := .text "SELECT * FROM t AS b,t AS b"
        bindings := .positional []
        adapter := some conn.adapter } ∧
    first ∈ Declaration.after [] calls ∧
    conn.adapter.declaredFragment "" first = ofText "t AS a" ∧
    ¬ conn.adapter.Keeps (calls.flatten.flatMap TableArgument.declarations) first := by
  intro s conn x first calls
  have hselecting : Selecting 0 x 0 conn .empty "" [] [] s :=
    ⟨⟨.null, rfl, .inr ⟨rfl, rfl⟩⟩, .empty, ⟨rfl, rfl, rfl, rfl⟩, .fresh rfl rfl⟩
  have hkeys : ∀ args ∈ calls, ∀ arg ∈ args, ∀ d ∈ arg.declarations, d.CanBeKey := by
    simp [calls, TableArgument.declarations, Declaration.CanBeKey, Source.value, Value.isKey]
  obtain ⟨hquery, hkeeps⟩ := compileAs_declared (r := fun _ _ => pure ()) hselecting hkeys
  have hfirst : first ∈ Declaration.after [] calls := List.mem_cons_self
  refine ⟨hselecting, hkeys, hquery.trans (by cbv), hfirst, by cbv, fun hkept => ?_⟩
  have hsame := (hkeeps first hfirst).2 hkept
  exact absurd (congrArg Fragment.sql hsame) (by cbv)

end SqlBuilder
