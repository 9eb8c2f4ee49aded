import SqlBuilder.Dialect.Clause
import SqlBuilder.Fragment
import SqlBuilder.Identifier
import SqlBuilder.Literal
import SqlBuilder.Value.Case

/-!
# Criteria

`Adapter.criteria` writes a list of conditions. The first one loses the `AND` or `OR` of its joiner
but keeps a `NOT`; a nested group stands in parentheses; an empty list under `IN` or `NOT IN`
becomes a constant predicate. In a join the right-hand sides are names, unless `bindValues` says
otherwise.

The pieces of a list are put together when all of them are known (`joinPieces`); a joiner that is
not a text is a piece that cannot be written, so a fault of a later condition comes before it.
-/

set_option autoImplicit false

namespace SqlBuilder

open SqlBuilder.Text

/-- How a list of conditions is written. -/
structure CriteriaStyle where
  /-- Right-hand sides are bound, not written as names. -/
  bindValues : Bool := true
  /-- The alias that qualifies a plain column, if it counts as true. -/
  qualifier : Value := .null

/-- A piece of a list of conditions, none where it cannot be written. -/
abbrev Piece := Option Fragment

/-- The predicate that a comparison with an empty list amounts to. -/
def emptySetPredicate? : String → Option String
  | "IN" => some "0 = 1"
  | "NOT IN" => some "1 = 1"
  | _ => none

/-- The operators that compare with two values. -/
def isBetween : Value → Bool
  | .text s => s == "BETWEEN" || s == "NOT BETWEEN"
  | _ => false

/-- The operator in capitals, as far as it is a text; nothing for an absent one. -/
def operatorWord (operator : Value) : Result String := do
  if operator.isTrue then pure ((← operator.upper).text?.getD "") else pure ""

/-- The words of a joiner that stand before the first condition. -/
def firstWords (joiner : String) : String :=
  " ".intercalate ((words joiner).filter fun w => !(upper w == "AND" || upper w == "OR"))

/-- The joiner in front of a condition. Of octets in front of the first one only the words count,
and those are no texts. -/
def joinerWord (first : Bool) (joiner : Value) : Result Value :=
  if !first then .ok joiner
  else match joiner with
    | .text s => .ok (.text (firstWords s))
    | .bytes octets => if octets.all Value.isBlankOctet then .ok (.text "") else misuse .wrongType
    | _ => misuse .missingAttribute

/-- A word as a piece of a list: nothing if it does not count as true. -/
def wordPieces (v : Value) : List Piece :=
  if v.isTrue then [v.text?.map Fragment.ofText] else []

/-- The pieces with single spaces between them, if all of them can be written. -/
def joinPieces (pieces : List Piece) : Result Fragment :=
  match pieces.mapM id with
  | some fs => .ok (Fragment.intercalate " " fs)
  | none => misuse .wrongType

/-- A list of placeholders for normalised values, separated by a text. -/
def placeholders (separator : String) (vs : List Value) : Fragment :=
  Fragment.intercalate separator (vs.map fun v => Fragment.bound v.normalize)

namespace Adapter

/-- The left-hand side of a comparison: a name, qualified by the alias if it is plain, or a raw
fragment. -/
def conditionKey (a : Adapter) (style : CriteriaStyle) : Value → Fragment
  | .raw sql bindings => ⟨sql, bindings⟩
  | key =>
    let name := a.wrap key
    if style.qualifier.isTrue && !name.toList.contains '.' then
      Fragment.ofText (a.wrap style.qualifier ++ "." ++ name)
    else Fragment.ofText name

/-- A comparison with the items of a list. -/
def listComparison (left : Fragment) (operator : Value) (items : List Value) :
    Result (List Fragment) :=
  if !operator.isKey then misuse .wrongType
  else
    let head := left ++ Fragment.ofText (" " ++ operator.toText)
    if isBetween operator then
      .ok [head, ⟨"? AND ?", (items.take 2).map Value.normalize⟩]
    else .ok [head, (placeholders ", " items).parenthesized]

/-- A condition on a name or a raw fragment. -/
def comparison (a : Adapter) (style : CriteriaStyle) (key operator value : Value) :
    Result (List Fragment) := do
  let predicate? := emptySetPredicate? (← operatorWord operator)
  let left := a.conditionKey style key
  let compared (right : Fragment) :=
    left ++ Fragment.ofText (" " ++ operator.toText ++ " ") ++ right
  match predicate?, value with
  | some predicate, .list [] => pure [Fragment.ofText predicate]
  | some predicate, .tuple [] => pure [Fragment.ofText predicate]
  | _, .list items => listComparison left operator items
  | _, .tuple items => listComparison left operator items
  | _, .raw sql bindings => pure [compared ⟨sql, bindings⟩]
  | _, value =>
    if !style.bindValues then pure [compared (Fragment.ofText (a.wrap value))]
    else match key, operator with
      | .raw _ _, .null => pure [left]
      | _, _ => pure [compared (Fragment.bound value.normalize)]

mutual

/-- What is written for a condition after its joiner. -/
def conditionBody (a : Adapter) (style : CriteriaStyle) : Condition → Result (List Fragment)
  | { key, operator, value, columns, .. } =>
    if columns.isEmpty then keyBody a style operator value key
    else pure [(Fragment.ofText (", ".intercalate (columns.map a.wrap))).parenthesized]

/-- A group, bound and without an alias, or a comparison. -/
def keyBody (a : Adapter) (style : CriteriaStyle) (operator value : Value) :
    Value → Result (List Fragment)
  | .group conditions => do
    let pieces ← criteriaPieces a {} true conditions
    pure [(← joinPieces pieces).parenthesized]
  | key => a.comparison style key operator value

/-- The pieces of a list of conditions, in order. -/
def criteriaPieces (a : Adapter) (style : CriteriaStyle) (first : Bool) :
    List Condition → Result (List Piece)
  | [] => pure []
  | c :: cs => do
    let leading := if first then wordPieces c.leading else []
    let joiner ← joinerWord first c.joiner
    let body ← conditionBody a style c
    let rest ← criteriaPieces a style false cs
    pure (leading ++ wordPieces joiner ++ body.map some ++ rest)

end

/-- A list of conditions. -/
def criteria (a : Adapter) (style : CriteriaStyle) (conditions : List Condition) :
    Result Fragment := do
  joinPieces (← a.criteriaPieces style true conditions)

end Adapter

end SqlBuilder
