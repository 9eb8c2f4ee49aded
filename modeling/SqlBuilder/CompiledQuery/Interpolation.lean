import SqlBuilder.Placeholder

/-!
# Interpolation

`CompiledQuery.interpolated` is the query with every binding written as a literal, for display and
logging. Positional values go to the placeholders in order. Named values are put in one after
another: each replaces the first `:name` that ends at the end of a word, in the text as the values
before it have left it. Without anything to put in, the query stays whatever was given as its SQL.
-/

set_option autoImplicit false

namespace SqlBuilder.CompiledQuery

open SqlBuilder.Text

/-- A binding as a literal: a raw fragment as it stands, a list as its literals. Without an adapter
a value is displayed. -/
def literalOf (adapter : Option Adapter) : Value → String
  | .raw sql _ => sql
  | .list vs => ", ".intercalate (literalsOf adapter vs)
  | .tuple vs => ", ".intercalate (literalsOf adapter vs)
  | v =>
    match adapter with
    | some a => a.dialect.literal v
    | none => v.display
where
  /-- The bindings of a list as literals. -/
  literalsOf (adapter : Option Adapter) : List Value → List String
    | [] => []
    | v :: vs => literalOf adapter v :: literalsOf adapter vs

/-- A word ends or begins between `last` and the rest. -/
def isBoundary (last : Char) (rest : List Char) : Bool :=
  isWord last != (rest.head?.map isWord).getD false

/-- The text with the first occurrence of `pattern` that ends at a word boundary replaced. -/
def replaceFirst (pattern literal : List Char) : List Char → List Char
  | [] => []
  | c :: cs =>
    match dropFront? pattern (c :: cs) with
    | some rest =>
      if isBoundary (pattern.getLast?.getD ':') rest then literal ++ rest
      else c :: replaceFirst pattern literal cs
    | none => c :: replaceFirst pattern literal cs

/-- The text with a value in place of its first `:name`. -/
def putNamed (adapter : Option Adapter) (cs : List Char) (entry : Value × Value) : List Char :=
  replaceFirst (':' :: entry.1.toText.toList) (literalOf adapter entry.2).toList cs

/-- The segments with the bindings as literals between them. -/
def putPositional (adapter : Option Adapter) (segments : List String) (vs : List Value) : String :=
  Placeholder.fill segments (vs.map (literalOf adapter))

/-- The query with its bindings as literals. -/
def interpolated (q : CompiledQuery) : Result Value :=
  match q.bindings, q.sql with
  | .positional vs, sql => do
    match ← Placeholder.segments sql with
    | [] | [_] => pure sql
    | segments => pure (.text (putPositional q.adapter segments vs))
  | .named [], sql => .ok sql
  | .named entries, .text s =>
    .ok (.text (String.ofList (entries.foldl (putNamed q.adapter) s.toList)))
  | .named _, _ => misuse .wrongType

end SqlBuilder.CompiledQuery
