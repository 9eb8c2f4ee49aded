import SqlBuilder.Proofs.Related.Outcome
import SqlBuilder.Proofs.ReadBack.Names
import SqlBuilder.Schema.Table

/-!
# Constraints read back

What a line of a table definition, or a statement beside it, demands of the columns is read from its
text. The text is first taken apart at its quoted names (`lex`), then `Constraint.read?` recognises
the clauses by what stands between them.

* `lex_of_toList`: names with texts between them are read back, whatever the names are.
* `read?_keyClause`, `read?_unique`, `read?_index`, `read?_statement`: each clause is read as the
  constraint it stands for.
* `read?_column`: a column by itself is declared the key just if its automatic numbering does so.
-/

set_option autoImplicit false

namespace SqlBuilder.Schema

open NameGrammar (Place)
open Text (doubled)

/-! ## Names in a line -/

/-- A line as its quoted names, each with the text in front of it, and the text behind the last. -/
structure Line (α : Type) where
  names : List (α × α)
  rest : α
  deriving Repr, DecidableEq

namespace Line

variable {α β : Type}

/-- The line with its texts and names changed. -/
def map (f : α → β) (line : Line α) : Line β := ⟨line.names.map (Prod.map f f), f line.rest⟩

/-- A text in front. -/
def behind (text : List α) : Line (List α) → Line (List α)
  | ⟨[], rest⟩ => ⟨[], text ++ rest⟩
  | ⟨(s, name) :: names, rest⟩ => ⟨(text ++ s, name) :: names, rest⟩

/-- A character in front of the first name. -/
def inName (c : α) : Line (List α) → Line (List α)
  | ⟨[], rest⟩ => ⟨[], rest⟩
  | ⟨(s, name) :: names, rest⟩ => ⟨(s, c :: name) :: names, rest⟩

/-- A name in front, with no text before it. -/
def named (name : α) (text : α) (line : Line α) : Line α := ⟨(text, name) :: line.names, line.rest⟩

end Line

/-- The names from a place on. Inside of a name a doubled quote is a quote; a name that is not
closed goes to the end. -/
def lexFrom (q : Char) : Place → List Char → Line (List Char)
  | .outside, [] => ⟨[], []⟩
  | .inside, [] | .behindQuote, [] => ⟨[([], [])], []⟩
  | .outside, c :: cs =>
    if c = q then lexFrom q .inside cs else (lexFrom q .outside cs).behind [c]
  | .inside, c :: cs =>
    if c = q then lexFrom q .behindQuote cs else (lexFrom q .inside cs).inName c
  | .behindQuote, c :: cs =>
    if c = q then (lexFrom q .inside cs).inName q
    else ((lexFrom q .outside cs).behind [c]).named [] []

/-- The names of a line. -/
def lex (d : Dialect) (line : String) : Line String :=
  (lexFrom d.identifierQuote .outside line.toList).map String.ofList

section Lexing

variable {q : Char}

/-- A text without quotes is not taken apart. -/
theorem lexFrom_text {cs : List Char} (h : q ∉ cs) (rest : List Char) :
    lexFrom q .outside (cs ++ rest) = (lexFrom q .outside rest).behind cs := by
  induction cs with
  | nil =>
    rw [List.nil_append]
    generalize lexFrom q .outside rest = line
    obtain ⟨_ | ⟨⟨s, name⟩, names⟩, rest⟩ := line <;> rfl
  | cons c cs ih =>
    rw [List.mem_cons, not_or] at h
    rw [List.cons_append, lexFrom, if_neg (Ne.symm h.1), ih h.2]
    generalize lexFrom q .outside rest = line
    obtain ⟨_ | ⟨⟨s, name⟩, names⟩, rest⟩ := line <;> rfl

/-- A name is read to its end if no quote follows. -/
theorem lexFrom_doubled (cs : List Char) {rest : List Char} (h : rest.head? ≠ some q) :
    lexFrom q .inside (doubled q cs ++ q :: rest) = (lexFrom q .outside rest).named cs [] := by
  induction cs with
  | nil =>
    rw [Text.doubled_nil, List.nil_append, lexFrom, if_pos rfl]
    cases rest with
    | nil => rfl
    | cons c rest =>
      have hc : c ≠ q := fun heq => h (by rw [heq]; rfl)
      rw [lexFrom, lexFrom, if_neg hc, if_neg hc]
  | cons c cs ih =>
    rw [Text.doubled_cons, List.append_assoc]
    by_cases hc : c = q
    · subst hc
      rw [if_pos rfl]
      show lexFrom c .inside (c :: c :: (doubled c cs ++ c :: rest)) = _
      rw [lexFrom, if_pos rfl, lexFrom, if_pos rfl, ih]
      rfl
    · rw [if_neg hc, List.singleton_append, lexFrom, if_neg hc, ih]
      rfl

end Lexing

variable {d : Dialect}

theorem lexFrom_name (cs : List Char) {rest : List Char}
    (h : rest.head? ≠ some d.identifierQuote) :
    lexFrom d.identifierQuote .outside (d.quoteName cs ++ rest) =
      (lexFrom d.identifierQuote .outside rest).named cs [] := by
  rw [Dialect.quoteName, List.append_assoc, List.cons_append, List.singleton_append, lexFrom,
    if_pos rfl, lexFrom_doubled _ h]

/-- Names are read back with the texts between them if these are not empty and have no quotes. -/
theorem lexFrom_written {names : List (String × String)} {rest : List Char}
    (hnames : ∀ p ∈ names, p.1 ≠ "" ∧ d.identifierQuote ∉ p.1.toList)
    (hrest : d.identifierQuote ∉ rest) :
    lexFrom d.identifierQuote .outside
        (names.flatMap (fun p => p.1.toList ++ d.quoteName p.2.toList) ++ rest) =
      ⟨names.map (Prod.map String.toList String.toList), rest⟩ := by
  induction names with
  | nil =>
    have hread := lexFrom_text hrest []
    rw [List.append_nil] at hread
    rw [List.flatMap_nil, List.nil_append, hread, lexFrom, Line.behind, List.append_nil]
    rfl
  | cons p names ih =>
    obtain ⟨⟨-, hp⟩, hnames⟩ := List.forall_mem_cons.1 hnames
    have hnext : (names.flatMap (fun p => p.1.toList ++ d.quoteName p.2.toList) ++ rest).head? ≠
        some d.identifierQuote := by
      cases names with
      | nil =>
        intro hhead
        exact hrest (List.mem_of_mem_head? hhead)
      | cons p' names =>
        obtain ⟨⟨hne, hquote⟩, -⟩ := List.forall_mem_cons.1 hnames
        obtain ⟨c, cs, hcs⟩ := List.exists_cons_of_ne_nil (mt String.toList_eq_nil_iff.1 hne)
        rw [List.flatMap_cons, hcs]
        intro hhead
        exact hquote (by rw [hcs, Option.some.inj hhead]; exact List.mem_cons_self)
    rw [List.flatMap_cons, List.append_assoc, List.append_assoc, lexFrom_text hp,
      lexFrom_name _ hnext, ih hnames, Line.named, Line.behind, List.append_nil]
    rfl

theorem lex_of_toList {line rest : String} {names : List (String × String)}
    (hnames : ∀ p ∈ names, p.1 ≠ "" ∧ d.identifierQuote ∉ p.1.toList)
    (hrest : d.identifierQuote ∉ rest.toList)
    (h : line.toList =
      names.flatMap (fun p => p.1.toList ++ d.quoteName p.2.toList) ++ rest.toList) :
    lex d line = ⟨names, rest⟩ := by
  have hback :
      Prod.map String.ofList String.ofList ∘ Prod.map String.toList String.toList = id := by
    funext p
    exact Prod.ext String.ofList_toList String.ofList_toList
  rw [lex, h, lexFrom_written hnames hrest, Line.map, List.map_map, hback, List.map_id,
    String.ofList_toList]

/-! ## Constraints -/

/-- What a table definition demands of columns. -/
inductive Constraint where
  /-- The columns are the primary key. -/
  | key (names : List String)
  | unique (name : String)
  | index (name : String)
  deriving Repr, DecidableEq

/-- The words at the end of a column that make it the key. -/
def keyWords : List Char := " PRIMARY KEY AUTOINCREMENT".toList

namespace Constraint

/-- The columns of a primary key. -/
def key? : Constraint → Option (List String)
  | key names => some names
  | _ => none

/-- The constraint that a line declares, if any: a column that ends in the words for a key, a
clause, or the statement that creates an index on the table. What a column's type says is not looked
at. -/
def read? (d : Dialect) (table line : String) : Option Constraint :=
  match lex d line with
  | ⟨("", c) :: _, _⟩ => if keyWords.isSuffixOf line.toList then some (key [c]) else none
  | ⟨("PRIMARY KEY (", c) :: others, ")"⟩ =>
    if others.all (·.1 == ", ") then some (key (c :: others.map Prod.snd)) else none
  | ⟨[("UNIQUE (", c)], ")"⟩ => some (unique c)
  | ⟨[("INDEX (", c)], ")"⟩ => some (index c)
  | ⟨[(verb, _), (" ON ", t), (" (", c)], ")"⟩ =>
    if (verb = "CREATE INDEX " ∨ verb = "CREATE INDEX IF NOT EXISTS ") ∧ t = table then
      some (index c)
    else none
  | _ => none

/-! ## Clauses read back -/

theorem toList_listed (s : String) (names : List String) :
    (", ".intercalate ((s :: names).map d.quoteIdentifier)).toList =
      d.quoteName s.toList ++
        (names.map (", ", ·)).flatMap fun p => p.1.toList ++ d.quoteName p.2.toList := by
  induction names generalizing s with
  | nil => simp [Dialect.toList_quoteIdentifier]
  | cons s' names ih =>
    rw [List.map_cons, String.intercalate_cons_of_ne_nil (by simp), String.toList_append,
      String.toList_append, ih, Dialect.toList_quoteIdentifier, List.append_assoc]
    simp

theorem read?_keyClause (table : String) {names : List String} (h : names ≠ []) :
    read? d table ("PRIMARY KEY (" ++ ", ".intercalate (names.map d.quoteIdentifier) ++ ")") =
      some (key names) := by
  obtain ⟨s, names, rfl⟩ := List.exists_cons_of_ne_nil h
  have hlex : lex d ("PRIMARY KEY (" ++ ", ".intercalate ((s :: names).map d.quoteIdentifier) ++
      ")") = ⟨("PRIMARY KEY (", s) :: names.map (", ", ·), ")"⟩ := by
    refine lex_of_toList ?_ (by cases d <;> decide) ?_
    · have hclause : "PRIMARY KEY (" ≠ "" ∧ d.identifierQuote ∉ "PRIMARY KEY (".toList := by
        cases d <;> decide
      have hcomma : ", " ≠ "" ∧ d.identifierQuote ∉ ", ".toList := by cases d <;> decide
      simp only [List.forall_mem_cons, List.forall_mem_map]
      exact ⟨hclause, fun _ _ => hcomma⟩
    · rw [String.toList_append, String.toList_append, toList_listed, List.flatMap_cons]
      simp only [List.append_assoc]
  rw [read?, hlex]
  simp [Function.comp_def]

/-- A clause about one column. -/
theorem lex_clause {before : String} (h : before ≠ "" ∧ d.identifierQuote ∉ before.toList)
    (s : String) : lex d (before ++ d.quoteIdentifier s ++ ")") = ⟨[(before, s)], ")"⟩ := by
  refine lex_of_toList ?_ (by cases d <;> decide) ?_
  · simpa using h
  · simp [Dialect.toList_quoteIdentifier]

theorem read?_unique (table s : String) :
    read? d table ("UNIQUE (" ++ d.quoteIdentifier s ++ ")") = some (unique s) := by
  have hclause : "UNIQUE (" ≠ "" ∧ d.identifierQuote ∉ "UNIQUE (".toList := by cases d <;> decide
  simp [read?, lex_clause hclause]

theorem read?_index (table s : String) :
    read? d table ("INDEX (" ++ d.quoteIdentifier s ++ ")") = some (index s) := by
  rw [read?, lex_clause (by cases d <;> decide)]
  rfl

/-- The statement that creates an index is about the table and the column. -/
theorem read?_statement {table sql : String} {ifNotExists : Bool} {c : Column}
    (h : indexStatement d (.text table) ifNotExists c = .ok sql) :
    read? d table sql = some (index c.name) := by
  cases h
  have hlex : lex d ("CREATE INDEX " ++ guard ifNotExists ++
      d.quoteIdentifier ((Value.text table).toText ++ "_" ++ c.name ++ "_index") ++ " ON " ++
      d.quoteIdentifier table ++ " (" ++ d.quoteIdentifier c.name ++ ")") =
      ⟨[("CREATE INDEX " ++ guard ifNotExists, table ++ "_" ++ c.name ++ "_index"),
        (" ON ", table), (" (", c.name)], ")"⟩ := by
    refine lex_of_toList ?_ (by cases d <;> decide) ?_
    · simp only [List.forall_mem_cons]
      refine ⟨?_, ?_, ?_, nofun⟩
      · cases d <;> cases ifNotExists <;> decide
      · cases d <;> decide
      · cases d <;> decide
    · simp [Dialect.toList_quoteIdentifier, Value.toText]
  rw [read?, hlex]
  cases ifNotExists <;> simp [guard]

end Constraint

/-! ## Columns read back -/

/-- The definition of a column begins with its name and ends with whether it may be null and, if it
is numbered, the words for that. -/
theorem toSql_spelled {c : Column} {sql : String} (h : c.toSql d = .ok sql) :
    ∃ own, sql.toList = d.quoteName c.name.toList ++ ' ' :: (own ++
      (" NULL".toList ++ if c.autoIncrement then (" " ++ d.autoIncrement).toList else [])) := by
  obtain ⟨length, -, h⟩ := bind_ok h
  obtain ⟨attributes, -, h⟩ := bind_ok h
  obtain ⟨collation, -, h⟩ := bind_ok h
  cases h
  refine ⟨(c.type ++ length ++ attributes ++ collation ++
    (if c.nullable then "" else " NOT")).toList, ?_⟩
  cases c.nullable <;> cases c.autoIncrement <;> simp [Dialect.toList_quoteIdentifier]

/-- The words for a key stand at the end of a text just if they stand at the end of its last part.
-/
theorem isSuffixOf_append {front back : List Char} (h : back.isSuffixOf keyWords = false) :
    keyWords.isSuffixOf (front ++ back) = keyWords.isSuffixOf back := by
  rw [Bool.eq_iff_iff, List.isSuffixOf_iff_suffix, List.isSuffixOf_iff_suffix]
  refine ⟨fun hfront => ?_, fun hback => hback.trans (List.suffix_append front back)⟩
  rcases List.suffix_or_suffix_of_suffix hfront (List.suffix_append front back) with hback | hback
  · exact hback
  · rw [← List.isSuffixOf_iff_suffix, h] at hback
    cases hback

/-- A column is declared the key by itself just if its automatic numbering does so. -/
theorem read?_column {c : Column} {sql : String} (h : c.toSql d = .ok sql) (table : String) :
    Constraint.read? d table sql =
      if d.autoIncrementIsKey && c.autoIncrement then some (.key [c.name]) else none := by
  obtain ⟨own, hsql⟩ := toSql_spelled h
  obtain ⟨names, rest, hlex⟩ : ∃ names rest, lex d sql = ⟨("", c.name) :: names, rest⟩ := by
    have hblank : ' ' ≠ d.identifierQuote := by cases d <;> decide
    rw [lex, hsql, lexFrom_name _ (by simpa using hblank)]
    simp [Line.named, Line.map]
  have hsuffix : keyWords.isSuffixOf sql.toList = (d.autoIncrementIsKey && c.autoIncrement) := by
    rw [hsql, ← List.cons_append, ← List.append_assoc, isSuffixOf_append]
    · cases d <;> cases c.autoIncrement <;> decide
    · cases d <;> cases c.autoIncrement <;> decide
  rw [Constraint.read?, hlex, ← hsuffix]
  rfl

end SqlBuilder.Schema
