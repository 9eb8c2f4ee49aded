import Mathlib.Data.List.Infix
import SqlBuilder.Proofs.Aliases.Declared
import SqlBuilder.Proofs.ReadBack.Names

/-!
# One table

Creating a table writes its name as one quoted identifier, whatever characters are in it. Selecting
from it writes the name like every other: `wrapText` takes it apart at a dot and at ` as `, leaves a
star alone, and quotes the parts only if identifiers are quoted at all.

`Dialect.Identifies` says when a text is one identifier and which name it has, and
`identifies_tableText_iff` when a name that is written so is. From this `table_names`: which table
is created, which is looked for and which is selected from, and when they are one. `tables_parted`
is a prefix that parts them.
-/

set_option autoImplicit false

namespace SqlBuilder

open Session Text NameGrammar Fragment Grammar

/-! ## Identifiers -/

/-- A character of an identifier that is not quoted. -/
def isWordChar (c : Char) : Bool :=
  !isBlank c && (c.isAlphanum || c == '_' || c == '$' || 127 < c.toNat)

namespace Dialect

/-- The text can stand for an identifier without quotes. Whether it is reserved is not looked at. -/
def IsWord (d : Dialect) (s : String) : Prop :=
  (∀ c ∈ s.toList, isWordChar c = true) ∧
    match d with
    | .mysql => ∃ c ∈ s.toList, c.isDigit = false
    | .sqlite | .postgres => ∃ c, s.toList.head? = some c ∧ c.isDigit = false ∧ c ≠ '$'

/-- The name of an identifier that is written without quotes. -/
def folded : Dialect → String → String
  | .postgres, s => s.toLower
  | .mysql, s | .sqlite, s => s

/-- The text is one identifier, of the name that is given. -/
inductive Identifies (d : Dialect) : String → String → Prop
  | quoted (name : String) : Identifies d (d.quoteIdentifier name) name
  | word {s : String} (h : d.IsWord s) : Identifies d s (d.folded s)

theorem quoteIdentifier_injective (d : Dialect) : Function.Injective d.quoteIdentifier := by
  intro s t h
  have hchars := congrArg String.toList h
  rw [toList_quoteIdentifier, toList_quoteIdentifier] at hchars
  exact String.toList_injective
    (doubled_injective _ (List.append_cancel_right (List.cons.inj hchars).2))

theorem solid_quoteName (d : Dialect) (cs : List Char) : Solid (d.quoteName cs) := by
  simp [Solid, begins, quoteName, d.isBlank_identifierQuote]

theorem identifies_iff {d : Dialect} {s name : String} :
    d.Identifies s name ↔ s = d.quoteIdentifier name ∨ d.IsWord s ∧ d.folded s = name := by
  constructor
  · rintro (_ | h)
    · exact .inl rfl
    · exact .inr ⟨h, rfl⟩
  · rintro (rfl | ⟨h, rfl⟩)
    · exact .quoted name
    · exact .word h

end Dialect

/-- The name is not taken apart and is no star. -/
structure IsWhole (s : String) : Prop where
  undotted : '.' ∉ s.toList
  unnamed : ¬ aliasSeparator <:+: s.toList
  noStar : stripChars s.toList ≠ ['*']

/-- What is written for a table that is selected from, without white space around it. -/
def Adapter.tableText (a : Adapter) (s : String) : String := strip (a.wrapText s)

/-! ## Quoted names -/

namespace NameGrammar

variable {q : Char} {cs ds : List Char}

/-- Everything a compound consists of has a quote or a star in it. -/
theorem Compound.marked (h : Compound q cs ds) : q ∈ cs ∨ '*' ∈ cs := by
  induction h with
  | operand h =>
    cases h with
    | identifier => exact .inl (by simp)
    | star => exact .inr (by simp)
  | dot _ _ ih => exact ih.imp (List.mem_append_left _) (List.mem_append_left _)
  | renamed _ _ ih => exact ih.imp (List.mem_append_left _) (List.mem_append_left _)

theorem read_cons_snd (place : Place) (c : Char) (cs : List Char) :
    (read q place (c :: cs)).2 = (read q (step q place c).2 cs).2 := rfl

theorem read_append_snd (place : Place) (cs cs' : List Char) :
    (read q place (cs ++ cs')).2 = (read q (read q place cs).2 cs').2 := by
  rw [read_append rfl rfl]

/-- In front of another character than the quote the identifier is still open. -/
theorem read_front {c : Char} (hc : c ≠ q) {front rest : List Char}
    (h : Doubled q (front ++ c :: rest) ds) : (read q .inside front).2 = .inside := by
  generalize htext : front ++ c :: rest = cs at h
  induction h generalizing front with
  | nil => simp at htext
  | @char b _ _ hb _ ih =>
    cases front with
    | nil => rfl
    | cons a front =>
      obtain ⟨rfl, hrest⟩ := List.cons.inj htext
      have hstep : step q .inside a = ([a], .inside) := by rw [step, if_neg hb]
      rw [read_cons_snd, hstep]
      exact ih hrest
  | quote _ ih =>
    -- The quotes of a pair stand together, so both are in front of the character or neither is.
    obtain _ | ⟨a, _ | ⟨b, front⟩⟩ := front
    · exact absurd (List.cons.inj htext).1 hc
    · exact absurd (List.cons.inj (List.cons.inj htext).2).1 hc
    · obtain ⟨rfl, htail⟩ := List.cons.inj htext
      obtain ⟨rfl, hrest⟩ := List.cons.inj htail
      have hfirst : step b .inside b = ([], .behindQuote) := by rw [step, if_pos rfl]
      have hsecond : step b .behindQuote b = ([b], .inside) := by rw [step, if_pos rfl]
      rw [read_cons_snd, hfirst, read_cons_snd, hsecond]
      exact ih hrest

/-- What stands in front of a visible character of a single identifier, its quotes aside, leaves the
identifier open. -/
theorem read_single {c : Char} (hq : IsQuote q) (hc : c ≠ q) (hvisible : isBlank c = false)
    {lead trail front rest : List Char} (hlead : ∀ b ∈ lead, isBlank b = true)
    (htrail : ∀ b ∈ trail, isBlank b = true) (h : Doubled q cs ds)
    (htext : lead ++ (q :: (cs ++ q :: trail)) = front ++ c :: rest) :
    (read q .outside front).2 = .inside := by
  have hnoBlank {bs : List Char} (hbs : ∀ b ∈ bs, isBlank b = true) (hmem : c ∈ bs) : False := by
    simp [hbs c hmem] at hvisible
  obtain ⟨inner, rfl, hinner⟩ | ⟨outer, rfl, houter⟩ := List.append_eq_append_iff.1 htext
  -- The character stands behind the white space.
  · cases inner with
    | nil => exact absurd (List.cons.inj hinner).1.symm hc
    | cons _ inner =>
      obtain ⟨rfl, htail⟩ := List.cons.inj hinner
      rw [List.append_eq] at htail
      have hopen : step q .outside q = ([], .inside) := by rw [step, if_pos rfl]
      rw [read_append_snd, read_blank hq hlead, read_cons_snd, hopen]
      obtain ⟨behind, rfl, hbehind⟩ | ⟨body, rfl, hbody⟩ := List.append_eq_append_iff.1 htail
      · cases behind with
        | nil => exact absurd (List.cons.inj hbehind).1.symm hc
        | cons _ behind =>
          obtain ⟨rfl, hrest⟩ := List.cons.inj hbehind
          exact (hnoBlank htrail (by simp [hrest])).elim
      · cases body with
        | nil => exact absurd (List.cons.inj hbody).1 hc
        | cons _ body =>
          obtain ⟨rfl, -⟩ := List.cons.inj hbody
          exact read_front hc h
  · cases outer with
    | nil => exact absurd (List.cons.inj houter).1 hc
    | cons _ outer =>
      obtain ⟨rfl, -⟩ := List.cons.inj houter
      exact (hnoBlank hlead (by simp)).elim

end NameGrammar

/-! ## Writing a table -/

theorem Text.stripChars_of_visible {cs : List Char} (h : ∀ c ∈ cs, isBlank c = false) :
    stripChars cs = cs := by
  obtain ⟨lead, trail, htext, hlead, htrail, -⟩ := trimBy_spec isBlank cs
  have hnil {bs : List Char} (hbs : ∀ c ∈ bs, isBlank c = true) (hsub : bs ⊆ cs) : bs = [] :=
    List.eq_nil_iff_forall_not_mem.2 fun c hc => by
      have hvisible := h c (hsub hc)
      simp [hbs c hc] at hvisible
  rw [hnil hlead (fun c hc => by rw [htext]; simp [hc]),
    hnil htrail (fun c hc => by rw [htext]; simp [hc]), List.nil_append, List.append_nil] at htext
  exact htext.symm

namespace Adapter

variable {a : Adapter} {s name : String}

theorem partsFrom_whole (h : IsWhole s) : partsFrom true s.toList = [.name s.toList] := by
  have hdot : cut ['.'] s.toList = none := by
    rw [cut_eq_none_iff, List.singleton_infix_iff]
    exact h.undotted
  have has : cut aliasSeparator s.toList = none := cut_eq_none_iff.2 h.unnamed
  rw [partsFrom_undotted hdot, partsFrom_plain has, if_neg h.noStar]

/-- A name that is not taken apart is written as one identifier. -/
theorem tableText_whole (d : Dialect) (h : IsWhole s) :
    (Adapter.mk d true).tableText s = d.quoteIdentifier s := by
  have hstrip : stripChars ([] ++ d.quoteName s.toList ++ []) = d.quoteName s.toList :=
    stripChars_solid nofun nofun (d.solid_quoteName _)
  rw [List.nil_append, List.append_nil] at hstrip
  rw [tableText, wrapText, wrapChars, partsFrom_whole h, List.flatMap_singleton, writePart,
    if_pos rfl, strip, String.toList_ofList, hstrip, Dialect.quoteIdentifier]

/-- The white space that is written around a table. -/
theorem tableText_spec (a : Adapter) (s : String) : ∃ lead trail,
    a.wrapChars s.toList = lead ++ (a.tableText s).toList ++ trail ∧
      (∀ c ∈ lead, isBlank c = true) ∧ ∀ c ∈ trail, isBlank c = true := by
  obtain ⟨lead, trail, htext, hlead, htrail, -⟩ := trimBy_spec isBlank (a.wrapChars s.toList)
  refine ⟨lead, trail, ?_, hlead, htrail⟩
  rw [tableText, wrapText, strip, String.toList_ofList, String.toList_ofList]
  exact htext

/-- A quoted name is no word. -/
theorem not_isWord_tableText (d : Dialect) (s : String) :
    ¬ d.IsWord ((Adapter.mk d true).tableText s) := by
  obtain ⟨lead, trail, htext, hlead, htrail⟩ := (Adapter.mk d true).tableText_spec s
  -- A character that is neither white space nor part of a word stands in the text.
  have hkept {c : Char} (hmem : c ∈ (Adapter.mk d true).wrapChars s.toList)
      (hvisible : isBlank c = false) (hc : isWordChar c = false) :
      ¬ d.IsWord ((Adapter.mk d true).tableText s) := by
    rintro ⟨hall, -⟩
    rw [htext, List.mem_append, List.mem_append] at hmem
    rcases hmem with (hmem | hmem) | hmem
    · simp [hlead c hmem] at hvisible
    · simp [hall c hmem] at hc
    · simp [htrail c hmem] at hvisible
  rcases (compound_writeParts d true s.toList).marked with hmem | hmem
  · exact hkept hmem d.isBlank_identifierQuote (by cases d <;> decide)
  · exact hkept hmem (by decide) (by decide)

/-- A name that is written as one identifier is not taken apart. -/
theorem isWhole_of_tableText {d : Dialect}
    (h : (Adapter.mk d true).tableText s = d.quoteIdentifier name) : IsWhole s := by
  have hq := isQuote_identifierQuote d
  obtain ⟨lead, trail, htext, hlead, htrail⟩ := (Adapter.mk d true).tableText_spec s
  rw [h, Dialect.toList_quoteIdentifier, Dialect.quoteName] at htext
  -- In front of a separator the identifier would be open, which it is not behind a compound.
  have hopen {c : Char} {front rest ds : List Char} {last : Place} (hc : c ∈ ['.', 'A'])
      (hwritten : (Adapter.mk d true).wrapChars s.toList = front ++ c :: rest)
      (hread : read d.identifierQuote .outside front = (ds, last)) : last = .inside := by
    have hne : c ≠ d.identifierQuote := fun heq => hq.separate <| by
      rcases List.mem_pair.1 hc with rfl | rfl <;> simp [← heq]
    have hvisible : isBlank c = false := by
      rcases List.mem_pair.1 hc with rfl | rfl <;> decide
    have hsingle : lead ++ (d.identifierQuote :: (doubled d.identifierQuote name.toList ++
        d.identifierQuote :: trail)) = front ++ c :: rest := by
      rw [← hwritten, htext]
      simp
    have hinside :=
      read_single hq hne hvisible hlead htrail (doubled_doubled _ name.toList) hsingle
    rwa [hread] at hinside
  have hdot : cut ['.'] s.toList = none := by
    rw [Option.eq_none_iff_forall_ne_some]
    rintro ⟨front, rest⟩ hcut
    have hwritten : (Adapter.mk d true).wrapChars s.toList =
        (partsFrom false front).flatMap (Adapter.mk d true).writePart ++
          '.' :: (partsFrom false rest).flatMap (Adapter.mk d true).writePart := by
      rw [wrapChars, partsFrom_dotted hcut, List.flatMap_append, List.flatMap_cons, writePart,
        List.singleton_append]
    obtain ⟨last, hlast, hread⟩ := read_compound hq (compound_writeParts d false front)
    exact hlast (hopen (by simp) hwritten hread)
  have has : cut aliasSeparator s.toList = none := by
    rw [Option.eq_none_iff_forall_ne_some]
    rintro ⟨front, rest⟩ hcut
    have hwritten : (Adapter.mk d true).wrapChars s.toList =
        ((partsFrom true front).flatMap (Adapter.mk d true).writePart ++ [' ']) ++
          'A' :: 'S' :: ' ' :: (partsFrom true rest).flatMap (Adapter.mk d true).writePart := by
      rw [wrapChars, partsFrom_undotted hdot, partsFrom_as hcut, List.flatMap_append,
        List.flatMap_cons, writePart, List.append_assoc, List.singleton_append]
      rfl
    obtain ⟨last, hlast, hread⟩ := read_compound hq (compound_writeParts d true front)
    have hspace : step d.identifierQuote last ' ' = ([' '], .outside) :=
      step_outside hq hlast (.inl (by decide)) (by decide)
    cases hopen (by simp) hwritten (read_append hread (read_cons hspace rfl))
  refine ⟨?_, cut_eq_none_iff.1 has, fun hstar => ?_⟩
  · rwa [cut_eq_none_iff, List.singleton_infix_iff] at hdot
  · have hlength := congrArg (fun t => t.toList.length) h
    simp [tableText, strip, wrapText, wrapChars, partsFrom_undotted hdot, partsFrom_plain has,
      hstar, writePart, Dialect.toList_quoteIdentifier, Dialect.quoteName] at hlength

/-- A word is no name that is taken apart. -/
theorem isWhole_of_isWord {d : Dialect} (h : d.IsWord s) : IsWhole s := by
  have hfree {c : Char} (hc : isWordChar c = false) : c ∉ s.toList := fun hmem => by
    rw [h.1 c hmem] at hc
    cases hc
  refine ⟨hfree (by decide), fun has => ?_, fun hstar => ?_⟩
  · exact hfree (c := ' ') (by decide) (has.subset (by decide))
  · obtain ⟨lead, trail, htext, -⟩ := trimBy_spec isBlank s.toList
    have hmem : '*' ∈ s.toList := by
      rw [htext]
      simp [show trimBy isBlank s.toList = ['*'] from hstar]
    exact hfree (by decide) hmem

/-- Without quotes a word is written as it is. -/
theorem tableText_word (hquotes : a.quoteIdentifiers = false) (h : a.dialect.IsWord s) :
    a.tableText s = s := by
  have hstrip : stripChars s.toList = s.toList := by
    refine stripChars_of_visible fun c hc => ?_
    have hword := h.1 c hc
    rw [isWordChar, Bool.and_eq_true, Bool.not_eq_true'] at hword
    exact hword.1
  rw [tableText, wrapText, wrapChars, partsFrom_whole (isWhole_of_isWord h), List.flatMap_singleton,
    writePart, if_neg (by simp [hquotes]), String.ofList_toList, strip, hstrip,
    String.ofList_toList]

/-- With quoted identifiers the text that is written for a table is one identifier just if the table
has its name, and is not taken apart. -/
theorem identifies_tableText_iff (hquotes : a.quoteIdentifiers = true) :
    a.dialect.Identifies (a.tableText s) name ↔ s = name ∧ IsWhole name := by
  obtain ⟨d, _⟩ := a
  cases hquotes
  constructor
  · generalize htext : (Adapter.mk d true).tableText s = text
    intro h
    cases h with
    | word hword => exact absurd (htext ▸ hword) (not_isWord_tableText d s)
    | quoted =>
      have hwhole := isWhole_of_tableText htext
      obtain rfl : s = name :=
        d.quoteIdentifier_injective ((tableText_whole d hwhole).symm.trans htext)
      exact ⟨rfl, hwhole⟩
  · rintro ⟨rfl, hwhole⟩
    rw [tableText_whole d hwhole]
    exact .quoted s

end Adapter

/-! ## Selecting from a table -/

section

variable {r : Reaction} {s : Session} {b c : Nat} {x : Builder} {conn : Connection}
  {st : Statements}

/-- Calling `from_` with a name, and the query then. -/
def selectedFrom (b : Nat) (n : String) : Action CompiledQuery := do
  Call.change b [.value (.text n)] .fromTables
  compileAs b (.ok .select) []

/-- A name with the prefix is all that is selected from, as it is written. -/
theorem runIn_selectedFrom (h : Standing b x c conn st s) (htables : st.tables = .null)
    (haliases : st.aliases = .null) {t : String} (hfront : s.Prefixes conn t) (n : String) :
    (runIn r (selectedFrom b n) s).1 = (do
      let f ← conn.adapter.selectFrom st (ofText (conn.adapter.wrapText (t ++ n))) .null
      pure { sql := .text f.sql, bindings := .positional f.bindings,
             adapter := some conn.adapter }) := by
  have hselecting : Selecting b x c conn st t [] [] s :=
    ⟨hfront, st, h, .fresh htables haliases⟩
  have hkeys : ∀ arg ∈ [TableArgument.single (.name n)], ∀ d ∈ arg.declarations, d.CanBeKey := by
    simp [TableArgument.declarations, Declaration.CanBeKey]
  obtain ⟨s', hrun, -, st', hstanding, hselects⟩ := hselecting.call (r := r) hkeys
  have hcall : runIn r (Call.change b [.value (.text n)] .fromTables) s = (.ok (), s') := hrun
  obtain ⟨journal, hcompiled⟩ := runIn_compileAs (r := r) hstanding.opened hstanding.builder
    hstanding.statements .select []
  have hlist : conn.adapter.tableList st' =
      .ok (ofText (conn.adapter.wrapText (t ++ n)), .null) := by
    rw [Adapter.tableList_source hselects]
    simp [Declaration.after, TableArgument.declarations, Adapter.sourceFragment,
      Adapter.sourceAlias, Declaration.lastName, Declaration.nameOf?, Adapter.aliasText,
      intercalate, ofText]
    rfl
  have hselect : conn.adapter.select st' =
      conn.adapter.selectFrom st (ofText (conn.adapter.wrapText (t ++ n))) .null := by
    rw [conn.adapter.select_eq_selectFrom hlist]
    obtain ⟨_, _, rfl⟩ := hselects.rest
    rfl
  rw [selectedFrom, runIn_bind_ok hcall, hcompiled]
  show conn.adapter.select st' >>= _ = _
  rw [hselect]

/-- If the prefix is no text, nothing is selected from. -/
theorem selectedFrom_fails (h : Standing b x c conn st s) (hfront : ∀ t, ¬ s.Prefixes conn t)
    (n : String) : ∃ f, (runIn r (selectedFrom b n) s).1 = .error f := by
  have hname : ∃ f, s.prefixOf conn >>= (Builder.prefixed · false (.text n)) = .error f := by
    cases hp : s.prefixOf conn with
    | error f => exact ⟨f, rfl⟩
    | ok p =>
      cases htrue : p.isTrue with
      | false => exact absurd ⟨p, hp, .inr ⟨htrue, rfl⟩⟩ (hfront "")
      | true =>
        cases hplus : p.plus (.text n) with
        | error f => exact ⟨f, (prefixed_name htrue n).trans hplus⟩
        | ok v =>
          obtain ⟨t, rfl, -⟩ := plus_text hplus
          exact absurd ⟨.text t, hp, .inl rfl⟩ (hfront t)
  obtain ⟨f, hname⟩ := hname
  have hcollect : runIn r (Builder.collectTables b (.text n)) s = (.error f, s) := by
    show runIn r (do pure [← Builder.addPrefix b (.text n) false]) s = _
    rw [runIn_bind, runIn_addPrefix h.opened, hname]
  have hcall : runIn r (Call.change b [.value (.text n)] .fromTables) s = (.error f, s) := by
    show runIn r (Builder.fromTables b [.text n]) s = _
    rw [Builder.fromTables, if_neg (by simp [Builder.isNothing]), List.mapM_cons, runIn_bind,
      runIn_bind, hcollect]
  refine ⟨f, ?_⟩
  rw [selectedFrom, runIn_bind, hcall]

/-- Without other clauses the query is the table alone. -/
theorem Adapter.selectFrom_empty (a : Adapter) {text : String} (h : strip text ≠ "") :
    a.selectFrom .empty (ofText text) .null = .ok (ofText ("SELECT * FROM " ++ strip text)) := by
  have hstar : a.wrap (.text "*") = "*" := by
    cases a
    cbv
  have hcolumns : a.columnList [.text "*"] = .ok (ofText "*") := by
    show Except.ok (intercalate ", " [ofText (a.wrap (.text "*"))]) = _
    rw [hstar]
    rfl
  have htext : ¬ text = "" := by
    rintro rfl
    exact h rfl
  have hitems : selectItems .empty = .ok [.text "*"] := rfl
  have hjoins : a.joinList .empty = .ok empty := rfl
  have hwheres : a.conditionClause "WHERE" .null Statements.empty.wheres = .ok empty := rfl
  have hhavings : a.conditionClause "HAVING" .null Statements.empty.havings = .ok empty := rfl
  have hgroups : a.groupClause .empty = .ok empty := rfl
  have hpaging : a.pagingClauses .empty = .ok [empty, empty, empty] := rfl
  have hlock : lockClause .empty = empty := rfl
  have hothers : furtherMembers a Statements.empty.unions = .ok [] := by
    show furtherMembers a (some []) = _
    rw [furtherMembers, unionList]
    rfl
  have hdistinct : Statements.empty.isDistinct = false := rfl
  have hshown : ∀ t ∈ ["SELECT", "*", "FROM", ""], strip t = t := by decide
  simp only [List.forall_mem_cons] at hshown
  rw [selectFrom, hitems]
  simp only [bind, Except.bind, hcolumns, hjoins, hwheres, hhavings, hgroups, hpaging, hlock,
    hothers, hdistinct]
  simp only [List.isEmpty_nil, if_true, Bool.false_eq_true, if_false, ofText, htext]
  simp [concatenate, empty, hshown, h, pure, Except.pure, String.intercalate_cons_cons]
  have hword : "SELECT " ++ "* " ++ "FROM " = "SELECT * FROM " := by decide
  rw [← String.append_assoc, ← String.append_assoc, hword]

/-! ## The names of a table -/

/-- Creating the table `n` is about the table with the driver's prefix in front, whether it is there
is asked of the table `n`, and selecting from it is selecting from the table with the filtered
prefix of the connection, as the adapter writes it.

With quoted identifiers what is created is what is selected from just if the two prefixes are one
and the name is not taken apart; without them if the text that is selected from is a word of this
name, or is quoted by itself. All three names are one if besides nothing is put in front. -/
theorem table_names (h : Standing b x c conn st s) (htables : st.tables = .null)
    (haliases : st.aliases = .null) {d : String} (hd : conn.driver.tablePrefix = .text d)
    (n : String) :
    let a := conn.adapter
    (∀ lines ifNotExists,
      runIn r (Call.tables (.create ifNotExists) c [.value (.text n), .value lines]) s =
        runIn r (do
          let statements ← ofResult (Schema.creation a.dialect (.text (d ++ n)) lines ifNotExists)
          pure (.bool (← Schema.carryOut c (.text (d ++ n)) statements))) s ∧
      ∀ statements,
        Schema.creation a.dialect (.text (d ++ n)) lines ifNotExists = .ok statements →
        (∃ definitions rest, statements = ("CREATE TABLE " ++ Schema.guard ifNotExists ++
          a.dialect.quoteIdentifier (d ++ n) ++ " (" ++ definitions ++ ")") :: rest) ∧
        ∀ sql ∈ statements, Schema.Concerns a.dialect (d ++ n) sql) ∧
    (runIn r (Call.tables .exists c [.value (.text n)]) s = runIn r (do
        let row? ← onDriver c
          (Driver.fetchRow (.text a.dialect.tableExistsQuery) (.positional [.text n]))
        pure (.bool row?.isSome)) s ∧
      Placeholder.count a.dialect.tableExistsQuery = 1) ∧
    ((∀ t, ¬ s.Prefixes conn t) → ∃ f, (runIn r (selectedFrom b n) s).1 = .error f) ∧
    ∀ t, s.Prefixes conn t →
      let written := a.tableText (t ++ n)
      (runIn r (selectedFrom b n) s).1 = (do
        let f ← a.selectFrom st (ofText (a.wrapText (t ++ n))) .null
        pure { sql := .text f.sql, bindings := .positional f.bindings, adapter := some a }) ∧
      (st = .empty → written ≠ "" → (runIn r (selectedFrom b n) s).1 = .ok
        { sql := .text ("SELECT * FROM " ++ written), bindings := .positional [],
          adapter := some a }) ∧
      (a.quoteIdentifiers = true →
        (a.dialect.Identifies written (d ++ n) ↔ t = d ∧ IsWhole (d ++ n))) ∧
      (a.quoteIdentifiers = false →
        (a.dialect.Identifies written (d ++ n) ↔ written = a.dialect.quoteIdentifier (d ++ n) ∨
          a.dialect.IsWord written ∧ a.dialect.folded written = d ++ n) ∧
        (a.dialect.IsWord (t ++ n) → written = t ++ n)) ∧
      (a.dialect.Identifies written (d ++ n) ∧ d ++ n = n ↔
        d = "" ∧ a.dialect.Identifies written n) := by
  intro a
  refine ⟨fun lines ifNotExists => ⟨?_, fun statements hstatements => ?_⟩, ⟨?_, ?_⟩,
    fun hfront => selectedFrom_fails h hfront n, fun t hfront => ?_⟩
  · have hname : runIn r (Schema.fullName c (.text n) true) s = (.ok (.text (d ++ n)), s) := by
      rw [Schema.fullName, if_pos rfl, runIn_bind_ok (runIn_connection h.connection), hd]
      rfl
    show runIn r (do
      let name ← Schema.fullName c (.text n) true
      pure (Value.bool (← Schema.create c name lines ifNotExists))) s = _
    rw [runIn_bind_ok hname, runIn_bind, Schema.runIn_create h.connection, ← runIn_bind, bind_assoc]
  · exact Schema.concerns_creation hstatements
  · show runIn r (do pure (Value.bool (← Schema.exists? c (.text n)))) s = _
    rw [runIn_bind, Schema.runIn_exists h.connection, ← runIn_bind, bind_assoc]
    rfl
  · cases a.dialect <;> decide
  · intro written
    have hselected := runIn_selectedFrom (r := r) h htables haliases hfront n
    refine ⟨hselected, fun hempty hwritten => ?_, fun hquotes => ?_, fun hquotes => ⟨?_, ?_⟩, ?_⟩
    · subst hempty
      rw [hselected, a.selectFrom_empty hwritten]
      rfl
    · rw [Adapter.identifies_tableText_iff hquotes, String.append_left_inj]
    · exact Dialect.identifies_iff
    · exact Adapter.tableText_word hquotes
    · rw [String.append_eq_right_iff]
      constructor
      · rintro ⟨hnames, rfl⟩
        rw [String.empty_append] at hnames
        exact ⟨rfl, hnames⟩
      · rintro ⟨rfl, hnames⟩
        rw [String.empty_append]
        exact ⟨hnames, rfl⟩

end

/-- What is asked of a driver in a session. -/
def Session.asked (s : Session) : List Entry := s.journal.filter fun entry => !entry.isLogged

theorem standing_prefixedSession (p : String) :
    Standing 0 { connection := some 0, record := 0 } 0 (prefixedConnection p) .empty
      (prefixedSession p) :=
  ⟨rfl, rfl, rfl, rfl⟩

/-- The table `logs` is created and selected from as `app_logs`, and is looked for as `logs`. -/
theorem tables_parted :
    let s := prefixedSession "app_"
    let r : Reaction := fun _ _ => pure ()
    let columns := Operand.value (.list [.text "id INT"])
    let sought (name : String) :=
      Entry.fetched (.text "SHOW TABLES LIKE ?") (.positional [.text name])
    (runIn r (Call.tables (.create false) 0 [.value (.text "logs"), columns]) s).2.asked =
      [.executed (.text "CREATE TABLE `app_logs` (id INT)") (.positional []), sought "app_logs"] ∧
    (runIn r (Call.tables .exists 0 [.value (.text "logs")]) s).2.asked = [sought "logs"] ∧
    (runIn r (selectedFrom 0 "logs") s).1 = .ok
      { sql := .text "SELECT * FROM app_logs", bindings := .positional [],
        adapter := some { dialect := .mysql } } ∧
    sought "app_logs" ≠ sought "logs" := by
  refine ⟨rfl, rfl, ?_, by simp⟩
  have hselected := runIn_selectedFrom (r := fun _ _ => pure ()) (standing_prefixedSession "app_")
    rfl rfl ⟨.text "app_", rfl, .inl rfl⟩ "logs"
  exact hselected.trans (by cbv)

/-- The table is created and selected from under one name, and is not looked for under it. -/
theorem table_names_of_hidden :
    let s := prefixedSession "app_"
    let conn := prefixedConnection "app_"
    let written := conn.adapter.tableText ("app_" ++ "logs")
    Standing 0 { connection := some 0, record := 0 } 0 conn .empty s ∧
    conn.driver.tablePrefix = .text "app_" ∧ s.Prefixes conn "app_" ∧
    written = "app_logs" ∧ Dialect.mysql.Identifies written "app_logs" ∧
    ¬ (Dialect.mysql.Identifies written "app_logs" ∧ "app_logs" = "logs") := by
  intro s conn written
  have hstanding := standing_prefixedSession "app_"
  have hfront : s.Prefixes conn "app_" := ⟨.text "app_", rfl, .inl rfl⟩
  have hword : Dialect.mysql.IsWord "app_logs" :=
    ⟨List.all_eq_true.1 (by cbv), 'a', by decide, by decide⟩
  obtain ⟨-, -, -, hselected⟩ :=
    table_names (r := fun _ _ => pure ()) hstanding rfl rfl rfl "logs"
  obtain ⟨-, -, -, hnames, hall⟩ := hselected "app_" hfront
  obtain ⟨hnames, hwritten⟩ := hnames rfl
  have htext : written = "app_logs" := hwritten hword
  have hcreated : Dialect.mysql.Identifies written "app_logs" := by
    refine hnames.2 (.inr ⟨?_, htext⟩)
    rw [hwritten hword]
    exact hword
  refine ⟨hstanding, rfl, hfront, htext, hcreated, fun hone => ?_⟩
  exact absurd (hall.1 hone).1 (by decide)

end SqlBuilder
