import SqlBuilder.Proofs.Grammar.Tokens

/-!
# The grammar of conditions

`parse` reads a text by the grammar

* `expr := [NOT] term ((AND | OR) [NOT] term)*`
* `term := comparison | '(' expr ')'`

into a list of `Node`s, one for each term. `AND` and `OR` stay in their order and bind alike; the
`AND` between the bounds of `BETWEEN` belongs to its comparison.
-/

set_option autoImplicit false

namespace SqlBuilder.Grammar

/-! ## Trees -/

/-- What joins a term to the one before it. -/
inductive Connective where
  | and
  | or
  deriving Repr, DecidableEq

/-- A side of a comparison. -/
inductive Side where
  | name (s : String)
  | number (s : String)
  | placeholder
  /-- Placeholders in parentheses. -/
  | list (count : Nat)
  /-- Two placeholders with `AND` between them. -/
  | range
  | null
  deriving Repr, DecidableEq

/-- How many placeholders a side has. -/
def Side.placeholders : Side → Nat
  | .placeholder => 1
  | .list count => count
  | .range => 2
  | _ => 0

/-- A comparison. -/
structure Predicate where
  left : Side
  operator : String
  right : Side
  deriving Repr, DecidableEq

/-- A term with what stands in front of it: how it is joined to the term before it, if there is
one, and whether it is negated. -/
inductive Node where
  | predicate (lead : Option Connective) (negated : Bool) (p : Predicate)
  | group (lead : Option Connective) (negated : Bool) (nodes : List Node)
  deriving Repr

/-! ## Comparisons -/

/-- The signs that compare. -/
def comparisonSigns : List String := ["=", "<>", "<", ">", "<=", ">="]

/-- The further placeholders of a list, up to its end. -/
def readMore (count : Nat) : List Token → Option (Side × List Token)
  | .mark ',' :: .mark '?' :: ts => readMore (count + 1) ts
  | .mark ')' :: ts => some (.list count, ts)
  | _ => none

/-- A list of placeholders. -/
def readList : List Token → Option (Side × List Token)
  | .mark '(' :: .mark '?' :: ts => readMore 1 ts
  | _ => none

/-- Two placeholders with `AND` between them. -/
def readRange : List Token → Option (Side × List Token)
  | .mark '?' :: .keyword .and :: .mark '?' :: ts => some (.range, ts)
  | _ => none

/-- A placeholder or a number. -/
def readValue : List Token → Option (Side × List Token)
  | .mark '?' :: ts => some (.placeholder, ts)
  | .number s :: ts => some (.number s, ts)
  | _ => none

/-- An operator and what it compares with. -/
def readRelation : List Token → Option (String × Side × List Token)
  | .sign s :: ts => if s ∈ comparisonSigns then (readValue ts).map (s, ·) else none
  | .keyword .like :: ts => (readValue ts).map ("LIKE", ·)
  | .keyword .not :: .keyword .like :: ts => (readValue ts).map ("NOT LIKE", ·)
  | .keyword .among :: ts => (readList ts).map ("IN", ·)
  | .keyword .not :: .keyword .among :: ts => (readList ts).map ("NOT IN", ·)
  | .keyword .between :: ts => (readRange ts).map ("BETWEEN", ·)
  | .keyword .not :: .keyword .between :: ts => (readRange ts).map ("NOT BETWEEN", ·)
  | .keyword .is :: .keyword .null :: ts => some ("IS", .null, ts)
  | .keyword .is :: .keyword .not :: .keyword .null :: ts => some ("IS NOT", .null, ts)
  | _ => none

/-- A comparison of a name or of a number. -/
def readPredicate : List Token → Option (Predicate × List Token)
  | .name s :: ts => (readRelation ts).map fun (o, right, ts) => (⟨.name s, o, right⟩, ts)
  | .number s :: ts => (readRelation ts).map fun (o, right, ts) => (⟨.number s, o, right⟩, ts)
  | _ => none

/-! ## Expressions -/

/-- A `NOT`, if there is one. -/
def readNot : List Token → Bool × List Token
  | .keyword .not :: ts => (true, ts)
  | ts => (false, ts)

/-- An `AND` or an `OR`. -/
def readConnective : List Token → Option (Connective × List Token)
  | .keyword .and :: ts => some (.and, ts)
  | .keyword .or :: ts => some (.or, ts)
  | _ => none

/-- A term, behind what stands in front of it. What is in parentheses is read by `inner`. -/
def readTerm (inner : List Token → Option (List Node × List Token)) (lead : Option Connective)
    (negated : Bool) : List Token → Option (Node × List Token)
  | .mark '(' :: ts =>
    match inner ts with
    | some (nodes, .mark ')' :: ts) => some (.group lead negated nodes, ts)
    | _ => none
  | ts => (readPredicate ts).map fun (p, ts) => (.predicate lead negated p, ts)

/-- The terms of an expression, up to where no `AND` or `OR` follows. Each takes a token at least,
so fuel for one more than there are tokens is enough. -/
def readNodes : Nat → Option Connective → List Token → Option (List Node × List Token)
  | 0, _, _ => none
  | fuel + 1, lead, ts => do
    let (node, ts) ← readTerm (readNodes fuel none) lead (readNot ts).1 (readNot ts).2
    match readConnective ts with
    | some (c, ts) => do
      let (nodes, ts) ← readNodes fuel (some c) ts
      pure (node :: nodes, ts)
    | none => pure ([node], ts)

/-- The tree of a text that is an expression as a whole. -/
def parse (s : String) : Option (List Node) :=
  match readNodes ((tokens s).length + 1) none (tokens s) with
  | some (nodes, []) => some nodes
  | _ => none

example : parse "NOT a = ? AND (`or` NOT IN (?, ?) or b BETWEEN ? AND ?)" = some [
    .predicate none true ⟨.name "a", "=", .placeholder⟩,
    .group (some .and) false [
      .predicate none false ⟨.name "or", "NOT IN", .list 2⟩,
      .predicate (some .or) false ⟨.name "b", "BETWEEN", .range⟩]] := by rfl

end SqlBuilder.Grammar
