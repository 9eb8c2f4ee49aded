import SqlBuilder.Dialect
import SqlBuilder.Text.Blank
import SqlBuilder.Text.Cut
import SqlBuilder.Value.Display

/-!
# Identifiers

A name such as `t.column as c` is taken apart before it is written: `partsFrom` finds its plain
names, its stars, the dot that splits a table from a column and the separators ` as `. Writing the
parts back quotes each plain name by itself and leaves a star as it is.
-/

set_option autoImplicit false

namespace SqlBuilder

open SqlBuilder.Text

/-- A part of a compound name. -/
inductive NamePart where
  | name (cs : List Char)
  /-- A star, with the white space around it. -/
  | star (cs : List Char)
  | dot
  | as
  deriving Repr, DecidableEq

/-- What separates a name from its alias. -/
def aliasSeparator : List Char := [' ', 'a', 's', ' ']

/-- The parts of a name. A `dotted` name is first split at its first dot; each side may hold an
alias, on both sides of which stands a dotted name again. -/
def partsFrom (dotted : Bool) (cs : List Char) : List NamePart :=
  if dotted then
    match _h : cut ['.'] cs with
    | some (front, rest) => partsFrom false front ++ .dot :: partsFrom false rest
    | none => partsFrom false cs
  else
    match _h : cut aliasSeparator cs with
    | some (front, rest) => partsFrom true front ++ .as :: partsFrom true rest
    | none => [if stripChars cs = ['*'] then .star cs else .name cs]
termination_by (cs.length, dotted.toNat)
decreasing_by
  · have := cut_length _h
    simp [Prod.lex_def] at *
    omega
  · have := cut_length _h
    simp [Prod.lex_def] at *
    omega
  · simp_all [Prod.lex_def]
  · have := cut_length _h
    simp [aliasSeparator, Prod.lex_def] at *
    omega
  · have := cut_length _h
    simp [aliasSeparator, Prod.lex_def] at *
    omega

namespace Dialect

/-- A name between the dialect's identifier quotes, quotes inside it doubled. -/
def quoteName (d : Dialect) (cs : List Char) : List Char :=
  d.identifierQuote :: doubled d.identifierQuote cs ++ [d.identifierQuote]

/-- A quoted identifier. -/
def quoteIdentifier (d : Dialect) (s : String) : String :=
  String.ofList (d.quoteName s.toList)

theorem toList_quoteIdentifier (d : Dialect) (s : String) :
    (d.quoteIdentifier s).toList = d.quoteName s.toList :=
  String.toList_ofList

end Dialect

namespace Adapter

/-- A part of a name as it is written. -/
def writePart (a : Adapter) : NamePart → List Char
  | .name cs => if a.quoteIdentifiers then a.dialect.quoteName cs else cs
  | .star cs => cs
  | .dot => ['.']
  | .as => [' ', 'A', 'S', ' ']

/-- A name as it is written. -/
def wrapChars (a : Adapter) (cs : List Char) : List Char :=
  (partsFrom true cs).flatMap a.writePart

/-- A name as it is written. -/
def wrapText (a : Adapter) (s : String) : String :=
  String.ofList (a.wrapChars s.toList)

/-- A name as it is written; a raw fragment is written as it stands. -/
def wrap (a : Adapter) : Value → String
  | .raw sql _ => sql
  | v => a.wrapText v.toText

end Adapter

end SqlBuilder
