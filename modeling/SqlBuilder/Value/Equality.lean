import SqlBuilder.Number.Exact
import SqlBuilder.Value

/-!
# Equality of values

`Value.equal?` is the equality by which repeated clauses are recognised: numbers are equal by their
exact value whatever their format, a truth value counts as 0 or 1, moments are equal as instants,
everything that is made of values is equal part by part, and other objects are equal to themselves
alone. Comparing a number with a signalling decimal is invalid.

As a part of something a value also equals itself by being the same object (`identical`), so not a
number is found again where it was put. Maps are looked up in this way (`Value.same`), by keys that
fall into the same place (`samePlace`).
-/

set_option autoImplicit false

namespace SqlBuilder.Value

open SqlBuilder.Number

/-! ## Numbers -/

/-- The value of a decimal, from its numeral. -/
def exactDecimal (numeral : String) : Exact :=
  match readNumeral? numeral with
  | some n => Exact.ofNumeral n
  | none => .notANumber

/-- The exact value of a number. -/
def number? : Value → Option Exact
  | .bool b => some (Exact.ofInt (if b then 1 else 0))
  | .int n => some (Exact.ofInt n)
  | .float x _ => some (Exact.ofDouble x)
  | .decimal numeral _ => some (exactDecimal numeral)
  | _ => none

/-- A decimal that no number can be compared with: not a number, and signalling it. -/
def isSignalling : Value → Bool
  | .decimal numeral _ => numeral.toList.contains 's'
  | _ => false

/-! ## Objects -/

/-- The same object, as far as objects are told apart. -/
def identical : Value → Value → Bool
  | .float x i, .float y j => x == y && i == j
  | .decimal x i, .decimal y j => x == y && i == j
  | .member _ _ _ i, .member _ _ _ j => i == j
  | .printable _ s i, .printable _ t j => s == t && i == j
  | .sealed _ s i, .sealed _ t j => s == t && i == j
  | _, _ => false

mutual

/-- Values that are equal fall into the same place among the keys of a map. Only times of day may
not: they are equal if the whole seconds agree, and keys by the exact instant. -/
def samePlace : Value → Value → Bool
  | .moment .time s, .moment .time t =>
    (Moment.read .time s).instant == (Moment.read .time t).instant
  | .tuple xs, .tuple ys | .raw _ xs, .raw _ ys => samePlaces xs ys
  | .aliased x n, .aliased y m => samePlace x y && samePlace n m
  | .group cs, .group ds => sameConditionPlaces cs ds
  | _, _ => true

/-- Item by item in the same places. -/
def samePlaces : List Value → List Value → Bool
  | x :: xs, y :: ys => samePlace x y && samePlaces xs ys
  | _, _ => true

/-- Part by part in the same places. -/
def sameConditionPlace : Condition → Condition → Bool
  | ⟨key, operator, value, joiner, leading, columns⟩,
    ⟨key', operator', value', joiner', leading', columns'⟩ =>
    samePlace key key' && samePlace operator operator' && samePlace value value' &&
      samePlace joiner joiner' && samePlace leading leading' && samePlaces columns columns'

/-- Condition by condition in the same places. -/
def sameConditionPlaces : List Condition → List Condition → Bool
  | c :: cs, d :: ds => sameConditionPlace c d && sameConditionPlaces cs ds
  | _, _ => true

end

/-- Equal, for values that are not made of others. -/
def equalScalar? (a b : Value) : Option Bool :=
  match a, b with
  | .null, .null => some true
  | .text s, .text s' => some (s == s')
  | .bytes o, .bytes o' => some (o == o')
  | .moment k s, .moment k' s' => some ((Moment.read k s).same (Moment.read k' s'))
  | .builder id _, .builder id' _ => some (id == id')
  | a, b =>
    match a.number?, b.number? with
    | some x, some y => if a.isSignalling || b.isSignalling then none else some (x.same y)
    | _, _ => some (identical a b)

/-- Comparisons one after another, up to the first that is not met. -/
def allMet : List (Option Bool) → Option Bool
  | [] => some true
  | some true :: rest => allMet rest
  | first :: _ => first

/-- A comparison of parts, which are equal by being the same object as well. -/
def alike (a b : Value) (equal : Option Bool) : Option Bool :=
  if identical a b then some true else equal

mutual

/-- Equal values; none if the comparison is invalid. -/
def equal? : Value → Value → Option Bool
  | .list xs, .list ys => if xs.length == ys.length then equalAll? xs ys else some false
  | .tuple xs, .tuple ys => equalAll? xs ys
  | .raw sql xs, .raw sql' ys => if sql == sql' then equalAll? xs ys else some false
  | .map xs, .map ys => if xs.length == ys.length then equalEntries? xs ys else some false
  | .record kind xs, .record kind' ys =>
    if kind == kind' && xs.length == ys.length then equalEntries? xs ys else some false
  | .aliased x n, .aliased y m => allMet [alike x y (equal? x y), alike n m (equal? n m)]
  | .group cs, .group ds => equalConditions? cs ds
  | .column c, .column d => equalColumn? c d
  | a, b => equalScalar? a b

/-- Equal item by item. -/
def equalAll? : List Value → List Value → Option Bool
  | [], [] => some true
  | x :: xs, y :: ys => allMet [alike x y (equal? x y), equalAll? xs ys]
  | _, _ => some false

/-- Every entry is among the others. -/
def equalEntries? : List (Value × Value) → List (Value × Value) → Option Bool
  | [], _ => some true
  | (k, v) :: rest, others =>
    match others.find? fun (k', _) =>
        alike k k' (equal? k k') == some true && samePlace k k' with
    | some (_, v') => allMet [alike v v' (equal? v v'), equalEntries? rest others]
    | none => some false

/-- Equal conditions. -/
def equalCondition? : Condition → Condition → Option Bool
  | ⟨key, operator, value, joiner, leading, columns⟩,
    ⟨key', operator', value', joiner', leading', columns'⟩ =>
    allMet [alike key key' (equal? key key'), alike operator operator' (equal? operator operator'),
      alike value value' (equal? value value'), alike joiner joiner' (equal? joiner joiner'),
      alike leading leading' (equal? leading leading'), equalAll? columns columns']

/-- Equal lists of conditions. -/
def equalConditions? : List Condition → List Condition → Option Bool
  | [], [] => some true
  | c :: cs, d :: ds => allMet [equalCondition? c d, equalConditions? cs ds]
  | _, _ => some false

/-- Equal columns. -/
def equalColumn? : Column → Column → Option Bool
  | ⟨name, type, length, nullable, primaryKey, unique, index, autoIncrement, attributes,
      collation⟩, d =>
    allMet [
      some (name == d.name && type == d.type), alike length d.length (equal? length d.length),
      some (nullable == d.nullable && primaryKey == d.primaryKey && unique == d.unique &&
        index == d.index && autoIncrement == d.autoIncrement),
      alike attributes d.attributes (equal? attributes d.attributes),
      alike collation d.collation (equal? collation d.collation)]

end

/-- The same, as a key of a map: in the same place, and equal or the same object. -/
def same (a b : Value) : Bool := alike a b (equal? a b) == some true && samePlace a b

/-! ## Keys and truth -/

mutual

/-- The value can be a key of a map. -/
def isKey : Value → Bool
  | .list _ | .map _ | .record _ _ | .column _ => false
  | .tuple xs | .raw _ xs => allKeys xs
  | .decimal numeral i => !(Value.decimal numeral i).isSignalling
  | .aliased expression name => isKey expression && isKey name
  | .group conditions => allConditionKeys conditions
  | _ => true

/-- Every item can be a key. -/
def allKeys : List Value → Bool
  | [] => true
  | x :: xs => isKey x && allKeys xs

/-- All parts of the condition can be keys. -/
def isConditionKey : Condition → Bool
  | ⟨key, operator, value, joiner, leading, columns⟩ =>
    isKey key && isKey operator && isKey value && isKey joiner && isKey leading && allKeys columns

/-- All parts of the conditions can be keys. -/
def allConditionKeys : List Condition → Bool
  | [] => true
  | c :: cs => isConditionKey c && allConditionKeys cs

end

/-- The value counts as true. -/
def isTrue : Value → Bool
  | .null => false
  | .bool b => b
  | .int n => n != 0
  | .float (.finite _ m _) _ => m != 0
  | .text s => s != ""
  | .decimal numeral _ => exactDecimal numeral != .zero
  | .bytes octets => !octets.isEmpty
  | .list xs | .tuple xs => !xs.isEmpty
  | .map entries => !entries.isEmpty
  | _ => true

/-! ## Maps -/

/-- What is under a key. -/
def lookup {α : Type} (entries : List (Value × α)) (key : Value) : Option α :=
  match entries with
  | [] => none
  | (k, v) :: rest => if k.same key then some v else lookup rest key

/-- The map with a value under a key. A key that is there already keeps its place and its form. -/
def insert (entries : List (Value × Value)) (key value : Value) : List (Value × Value) :=
  match entries with
  | [] => [(key, value)]
  | (k, v) :: rest =>
    if k.same key then (k, value) :: rest else (k, v) :: insert rest key value

/-- The map built from pairs, later ones winning. -/
def ofPairs (pairs : List (Value × Value)) : List (Value × Value) :=
  pairs.foldl (fun entries (k, v) => insert entries k v) []

/-! ## Laws -/

theorem mem_of_lookup {α : Type} {entries : List (Value × α)} {key : Value} {v : α}
    (h : lookup entries key = some v) : ∃ name, (name, v) ∈ entries := by
  induction entries with
  | nil => cases h
  | cons entry entries ih =>
    obtain ⟨name, w⟩ := entry
    rw [lookup] at h
    split at h
    · cases h
      exact ⟨name, List.mem_cons_self⟩
    · obtain ⟨name', hname'⟩ := ih h
      exact ⟨name', List.mem_cons_of_mem _ hname'⟩

/-! ## Examples -/

example : (Value.int 1).same (.bool true) = true := by decide +kernel
example : (Value.decimal "1.50" 1).same (.float (.finite false (3 * 2 ^ 51) (-52)) 2) = true := by
  decide +kernel
example : (Value.list []).same (.tuple []) = false := by decide +kernel
example : (Value.double .nan).equal? (.double .nan) = some false := by decide +kernel
example : (Value.list [.double .nan]).equal? (.list [.double .nan]) = some true := by
  decide +kernel

end SqlBuilder.Value
