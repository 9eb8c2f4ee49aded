import SqlBuilder.Placeholder
import SqlBuilder.Text.Cut

/-!
# How a client library reads a restyled query

A client library reads a text as characters and parameters (`Token`) and puts its parameters in.

* `readPercent`: a doubled percent sign is a percent sign, `%s` takes the next parameter and
  `%(name)s` the parameter of that name; any other percent sign is refused.
* `readColons`: a backslash and a colon are a colon; any other colon that begins a word, and stands
  neither behind a word nor behind a colon or a backslash, takes the parameter that the word names.
* `substituted`: parameters in order are all used up, parameters by name are looked up.
-/

set_option autoImplicit false

namespace SqlBuilder.Placeholder

open SqlBuilder.Text

/-- What a client library reads in a text. -/
inductive Token where
  | char (c : Char)
  /-- The next parameter. -/
  | next
  /-- The parameter of a name. -/
  | named (name : String)
  deriving Repr, DecidableEq

/-! ## Percent signs -/

theorem length_lt_of_cut {cs name rest : List Char} (h : cut [')'] cs = some (name, 's' :: rest)) :
    rest.length < cs.length := by
  have := cut_length h
  simp only [List.length_cons] at this
  omega

/-- A text in which parameters are marked by percent signs. -/
def readPercent : List Char → Option (List Token)
  | [] => some []
  | '%' :: '%' :: cs => (readPercent cs).map (.char '%' :: ·)
  | '%' :: 's' :: cs => (readPercent cs).map (.next :: ·)
  | '%' :: '(' :: cs =>
    match h : cut [')'] cs with
    | some (name, 's' :: rest) =>
      have : rest.length < cs.length := length_lt_of_cut h
      (readPercent rest).map (.named (String.ofList name) :: ·)
    | _ => none
  | '%' :: _ => none
  | c :: cs => (readPercent cs).map (.char c :: ·)
termination_by cs => cs.length

/-! ## Colons -/

/-- A word begins here. -/
def beginsWord (cs : List Char) : Bool := cs.head?.any isWord

/-- A colon behind this character, or at the very beginning, may mark a parameter. -/
def marksBehind (last : Option Char) : Bool :=
  last.all fun c => c != ':' && c != '\\' && !isWord c

/-- A text in which parameters are marked by colons, behind the `last` character. -/
def readColons (last : Option Char) : List Char → List Token
  | [] => []
  | '\\' :: ':' :: cs => .char ':' :: readColons (some ':') cs
  | c :: cs =>
    if c == ':' && marksBehind last && beginsWord cs then
      .named (String.ofList (cs.takeWhile isWord)) ::
        readColons ((cs.takeWhile isWord).getLast?) (cs.dropWhile isWord)
    else .char c :: readColons (some c) cs
termination_by cs => cs.length
decreasing_by
  · simp only [List.length_cons]; omega
  · exact Nat.lt_succ_of_le (List.dropWhile_sublist _).length_le
  · simp

/-! ## Parameters -/

/-- The text with each parameter taken in order, and none left over. -/
def putInOrder (literal : Value → String) : List Value → List Token → Option (List Char)
  | [], [] => some []
  | _ :: _, [] => none
  | vs, .char c :: ts => (putInOrder literal vs ts).map (c :: ·)
  | v :: vs, .next :: ts => (putInOrder literal vs ts).map ((literal v).toList ++ ·)
  | [], .next :: _ => none
  | _, .named _ :: _ => none

/-- The text with each parameter looked up by its name. -/
def putByName (literal : Value → String) (entries : List (Value × Value)) :
    List Token → Option (List Char)
  | [] => some []
  | .char c :: ts => (putByName literal entries ts).map (c :: ·)
  | .named name :: ts =>
    match Value.lookup entries (.text name) with
    | some v => (putByName literal entries ts).map ((literal v).toList ++ ·)
    | none => none
  | .next :: _ => none

/-- The text with the literals of its parameters put in. -/
def substituted : Bindings → List Token → Option String
  | .positional vs, ts => (putInOrder Value.literal vs ts).map String.ofList
  | .named entries, ts => (putByName Value.literal entries ts).map String.ofList

/-- Every parameter is taken exactly once. -/
def UsedOnce : Bindings → List Token → Prop
  | .positional vs, ts => ts.count .next = vs.length
  | .named entries, ts => ∀ e ∈ entries, ∃ name, e.1 = .text name ∧ ts.count (.named name) = 1

/-- What the client library of a style makes of a query and its values, is the query prepared for
display. -/
def Faithful (style : String) (escape : String → String)
    (read : List Char → Option (List Token)) (sql : String) (values : List Value) : Prop :=
  ∃ text bindings tokens prepared,
    restyle (.text style) escape (.text sql) (.positional values) = .ok (.text text, bindings) ∧
    prepare (.text sql) (spread [.list values]) = .ok prepared ∧
    read text.toList = some tokens ∧
    substituted bindings tokens = some prepared ∧
    UsedOnce bindings tokens

/-- Placeholders keep apart from what could be read together with the name of a parameter: none
stands right behind a colon, a word or another placeholder, and none right in front of a word. -/
structure Apart (sql : String) : Prop where
  behind : ∀ segment ∈ (split sql).dropLast,
    segment.toList.getLast?.all (fun c => c != ':' && !isWord c) = true
  between : ∀ segment ∈ (split sql).dropLast.tail, segment ≠ ""
  before : ∀ segment ∈ (split sql).tail, beginsWord segment.toList = false

end SqlBuilder.Placeholder
