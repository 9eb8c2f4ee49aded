import SqlBuilder.Literal
import SqlBuilder.Text.Word
import SqlBuilder.Value.Conversion

/-!
# Placeholders

A placeholder is a `?` outside a quoted text. `split` takes a query apart at its placeholders and
`fill` puts it together with other texts in their place.

* `restyle` writes the placeholders in the style of a client library and arranges the bindings
  accordingly.
* `prepare` puts literals in their place, for display.

Quotes are counted one by one, so a doubled quote inside a text leaves the count as it was. A query
may also be given piece by piece, as anything that can be looped over and consists of texts; then
the pieces count as characters do (`segments`).
-/

set_option autoImplicit false

namespace SqlBuilder.Placeholder

open SqlBuilder.Text

/-! ## Splitting and filling -/

/-- A character in front of the first segment. -/
def consFirst {α : Type} (c : α) : List (List α) → List (List α)
  | [] => [[c]]
  | segment :: segments => (c :: segment) :: segments

/-- The segments between the unquoted occurrences of `mark`, of a text that begins inside (`quoted`)
or outside quotes. -/
def splitFrom {α : Type} [BEq α] (mark quote : α) (quoted : Bool) : List α → List (List α)
  | [] => [[]]
  | c :: cs =>
    if c == mark && !quoted then [] :: splitFrom mark quote quoted cs
    else consFirst c (splitFrom mark quote (if c == quote then !quoted else quoted) cs)

/-- The texts between the placeholders: one more than there are placeholders. -/
def split (sql : String) : List String :=
  (splitFrom '?' '\'' false sql.toList).map String.ofList

/-- The segments of a query as it is given: a text, or texts in anything that can be looped over. -/
def segments (sql : Value) : Result (List String) :=
  match sql with
  | .text s => .ok (split s)
  | v => do
    match (← v.toItems).mapM Value.text? with
    | some pieces => pure ((splitFrom "?" "'" false pieces).map String.join)
    | none => misuse .wrongType

/-- The number of placeholders. -/
def count (sql : String) : Nat :=
  (split sql).length - 1

/-- The segments with the marks between them, `?` where the marks run out. -/
def interleave : List String → List String → List String
  | [], _ => []
  | [segment], _ => [segment]
  | segment :: segments, [] => segment :: "?" :: interleave segments []
  | segment :: segments, mark :: marks => segment :: mark :: interleave segments marks

/-- The text of the segments with the marks between them. -/
def fill (segments marks : List String) : String :=
  String.join (interleave segments marks)

/-! ## Styles -/

/-- The placeholder styles of client libraries. -/
inductive Style where
  /-- `?` -/
  | question
  /-- `%s` -/
  | format
  /-- `:1` -/
  | numeric
  /-- `:p0` -/
  | named
  /-- `%(p0)s` -/
  | formatNamed
  deriving Repr, DecidableEq

namespace Style

/-- The style of a name. -/
def ofName? : String → Option Style
  | "qmark" => some .question
  | "format" => some .format
  | "numeric" => some .numeric
  | "named" => some .named
  | "pyformat" => some .formatNamed
  | _ => none

/-- The name of the binding for the placeholder number `index`. -/
def bindingName (index : Nat) : String := "p" ++ index.repr

/-- The placeholder number `index`, counted from zero. -/
def mark : Style → Nat → String
  | .question, _ => "?"
  | .format, _ => "%s"
  | .numeric, index => ":" ++ (index + 1).repr
  | .named, index => ":" ++ bindingName index
  | .formatNamed, index => "%(" ++ bindingName index ++ ")s"

/-- A percent sign in the text would be taken for a placeholder. -/
def escapesPercent : Style → Bool
  | .format | .formatNamed => true
  | .question | .numeric | .named => false

/-- The bindings are given by name. -/
def isNamed : Style → Bool
  | .named | .formatNamed => true
  | .question | .format | .numeric => false

end Style

/-! ## Bindings -/

/-- The kinds of values a client library can bind: those it knows, and members of an enumeration
that are texts or whole numbers themselves. -/
def isBindable : Value → Bool
  | .member { mixed := true, .. } _ (.text _) _ | .member { mixed := true, .. } _ (.int _) _ => true
  | v => v.isBasic

/-- What can be bound is of a kind that client libraries know, or a member of an enumeration that is
a text or a whole number itself. -/
theorem isBindable_cases {v : Value} (h : isBindable v = true) :
    v.isBasic = true ∨ ∃ className name w identity,
      v = .member ⟨className, true⟩ name w identity ∧ ((∃ s, w = .text s) ∨ ∃ n, w = .int n) := by
  unfold isBindable at h
  split at h
  · exact .inr ⟨_, _, _, _, rfl, .inl ⟨_, rfl⟩⟩
  · exact .inr ⟨_, _, _, _, rfl, .inr ⟨_, rfl⟩⟩
  · exact .inl h

/-- The value, if it can be bound. -/
def check (v : Value) : Result Value :=
  if isBindable v then .ok v else .error (.validation (.invalidBinding v.typeName))

/-- Bindings from what is given for them: a map goes by name, anything that can be looped over by
position. -/
def bindingsOf (v : Value) : Result Bindings :=
  match v with
  | .map entries => .ok (.named entries)
  | v => do pure (.positional (← v.toItems))

/-- The bindings with the names `p0`, `p1`, … -/
def nameBindings (values : List Value) : List (Value × Value) :=
  values.mapIdx fun index v => (.text (Style.bindingName index), v)

/-! ## Changing the style -/

/-- A backslash before every colon that a word character follows: such a colon would otherwise begin
a named placeholder. -/
def escapeColonChars : List Char → List Char
  | [] => []
  | [c] => [c]
  | c :: d :: cs =>
    if c = ':' && isWord d then '\\' :: c :: escapeColonChars (d :: cs)
    else c :: escapeColonChars (d :: cs)

/-- The text with named-placeholder colons escaped. -/
def escapeColons (s : String) : String :=
  String.ofList (escapeColonChars s.toList)

/-- The text with every percent sign doubled. -/
def escapePercent (s : String) : String :=
  String.ofList (doubled '%' s.toList)

/-- The style of a name, or the fault that there is none. -/
def styleNamed (name : Value) : Result Style :=
  match name.text?.bind Style.ofName? with
  | some style => .ok style
  | none => if name.isKey then .error (.validation (.unknownStyle name)) else misuse .wrongType

/-- The bindings for a style from what is given for them: an unknown style is reported first. -/
def given (style : Value) (v : Value) : Result Bindings := do
  let _ ← styleNamed style
  bindingsOf v

/-- The segments with what the style reads specially escaped, after `escape`. -/
def escapeSegments (style : Style) (escape : String → String) (segments : List String) :
    List String :=
  let segments := segments.map escape
  if style.escapesPercent then segments.map escapePercent else segments

/-- The query in a style, for bindings in the order of its placeholders. -/
def restyleValues (style : Style) (escape : String → String) (sql : Value)
    (values : List Value) : Result (String × Bindings) := do
  let values ← values.mapM check
  let segments ← segments sql
  if segments.length - 1 != values.length then
    throw (.validation (.bindingMismatch (segments.length - 1) values.length sql))
  let marks := (List.range values.length).map style.mark
  let restyled := fill (escapeSegments style escape segments) marks
  pure (restyled, if style.isNamed then .named (nameBindings values) else .positional values)

/-- The query and its bindings as a client library expects them. Bindings by name are taken to be in
the library's form already. -/
def restyle (style : Value) (escape : String → String) (sql : Value) (bindings : Bindings) :
    Result (Value × Bindings) := do
  let style ← styleNamed style
  match bindings with
  | .named entries => pure (sql, .named entries)
  | .positional values => do
    let (sql, bindings) ← restyleValues style escape sql values
    pure (.text sql, bindings)

/-! ## Display -/

/-- The query with a literal for every placeholder that has a value. -/
def prepare (sql : Value) (values : List Value) : Result String := do
  pure (fill (← segments sql) (values.map Value.literal))

/-- The values to prepare a query with: a single list or tuple gives its items. -/
def spread : List Value → List Value
  | [.list vs] => vs
  | [.tuple vs] => vs
  | vs => vs

/-! ## Laws -/

theorem splitFrom_ne_nil {α : Type} [BEq α] (mark quote : α) (quoted : Bool) (cs : List α) :
    splitFrom mark quote quoted cs ≠ [] := by
  cases cs with
  | nil => simp [splitFrom]
  | cons c cs =>
    simp only [splitFrom]
    split
    · simp
    · generalize splitFrom mark quote _ cs = segments
      cases segments <;> simp [consFirst]

@[simp] theorem segments_text (s : String) : segments (.text s) = .ok (split s) := rfl

end SqlBuilder.Placeholder
