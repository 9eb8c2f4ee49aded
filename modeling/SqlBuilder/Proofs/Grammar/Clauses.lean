import SqlBuilder.Proofs.Grammar.Parsing
import SqlBuilder.Proofs.Joining.Calls
import SqlBuilder.Proofs.Related.Criteria

/-!
# Conditions that read back

A `Clause` is a condition as calls of the `where` family build it: a comparison of a plain name, or
a group of at least one clause. `Clause.condition` is what the builder keeps of it, `Clause.node`
the term that is meant by it, `Clause.tokens` what stands between the text and the term.

`readNodes_tokens`: the tokens of clauses are read as their tree. A clause is read by itself first
(`Clause.ReadsBack`), whatever stands behind it.
-/

set_option autoImplicit false

namespace SqlBuilder.Grammar

open SqlBuilder.Text Adapter Builder

/-! ## Clauses -/

/-- A plain name that is no keyword. -/
structure PlainName where
  text : String
  plain : isName text.toList = true

/-- A value that is bound as it is. -/
structure Scalar where
  value : Value
  scalar : value.isScalar = true
  not_builder : ∀ id kind, value ≠ .builder id kind

/-- The operators that compare with a scalar. -/
inductive ScalarOperator where
  | equal
  | different
  | less
  | greater
  | atMost
  | atLeast
  | like (negated : Bool)
  deriving Repr, DecidableEq

/-- An operator, negated or not. -/
def negatedText (negated : Bool) (operator : String) : String :=
  if negated then "NOT " ++ operator else operator

/-- How an operator is written. -/
def ScalarOperator.text : ScalarOperator → String
  | equal => "="
  | different => "<>"
  | less => "<"
  | greater => ">"
  | atMost => "<="
  | atLeast => ">="
  | like negated => negatedText negated "LIKE"

/-- A list or a tuple. -/
def listing (isTuple : Bool) (items : List Value) : Value :=
  if isTuple then .tuple items else .list items

/-- An operator with what it compares with. -/
inductive Test where
  | scalar (o : ScalarOperator) (v : Scalar)
  | among (negated isTuple : Bool) (items : List Value)
  | between (negated isTuple : Bool) (least most : Value)
  | null (negated : Bool)

namespace Test

def operator : Test → String
  | scalar o _ => o.text
  | among negated _ _ => negatedText negated "IN"
  | between negated _ _ _ => negatedText negated "BETWEEN"
  | null negated => if negated then "IS NOT" else "IS"

def value : Test → Value
  | scalar _ v => v.value
  | among _ isTuple items => listing isTuple items
  | between _ isTuple least most => listing isTuple [least, most]
  | null _ => .raw "NULL" []

/-- The comparison that is meant. No value is among none, and every value is not. -/
def predicate (key : String) : Test → Predicate
  | scalar o _ => ⟨.name key, o.text, .placeholder⟩
  | among negated _ [] => ⟨.number (if negated then "1" else "0"), "=", .number "1"⟩
  | among negated _ items => ⟨.name key, negatedText negated "IN", .list items.length⟩
  | between negated _ _ _ => ⟨.name key, negatedText negated "BETWEEN", .range⟩
  | null negated => ⟨.name key, if negated then "IS NOT" else "IS", .null⟩

end Test

/-- A comparison of a name. -/
structure Leaf where
  joiner : Joiner
  key : PlainName
  test : Test

/-- A call that adds a comparison of a plain name: the operator is an argument (`compare`), left out
(`equal`), or that of the method. -/
inductive LeafCall where
  | compare (joiner : Joiner) (key : PlainName) (t : Test)
  | equal (joiner : Joiner) (key : PlainName) (v : Scalar)
  | like (negated : Bool) (key : PlainName) (v : Scalar)
  | among (negated : Bool) (joiner : Joiner) (key : PlainName) (isTuple : Bool)
      (items : List Value)
  | between (negated : Bool) (joiner : Joiner) (key : PlainName) (least most : Value)
  | isNull (negated : Bool) (joiner : Joiner) (key : PlainName)

/-- What is kept of a scalar: a truth value counts as a number. -/
def Scalar.compared (v : Scalar) : Scalar where
  value := comparand v.value
  scalar := by
    obtain ⟨v, h, -⟩ := v
    cases v <;> exact h
  not_builder := by
    obtain ⟨v, -, h⟩ := v
    cases v <;> first | exact h | nofun

def Test.compared : Test → Test
  | scalar o v => scalar o v.compared
  | t => t

namespace LeafCall

/-- The method that is called. -/
def method : LeafCall → ConditionMethod
  | compare joiner _ _ | equal joiner _ _ => .compare joiner
  | like negated _ _ => .like negated
  | among negated joiner _ _ _ => .among negated joiner
  | between negated joiner _ _ _ => .between negated joiner
  | isNull negated joiner _ => .isNull negated joiner

/-- The arguments of the call. -/
def args : LeafCall → List Value
  | compare _ key t => [.text key.text, .text t.operator, t.value]
  | equal _ key v => [.text key.text, v.value]
  | like _ key v => [.text key.text, v.value]
  | among _ _ key isTuple items => [.text key.text, listing isTuple items]
  | between _ _ key least most => [.text key.text, least, most]
  | isNull _ _ key => [.text key.text]

/-- The comparison that is added. -/
def leaf : LeafCall → Leaf
  | compare joiner key t => ⟨joiner, key, t.compared⟩
  | equal joiner key v => ⟨joiner, key, .scalar .equal v.compared⟩
  | like negated key v => ⟨.and, key, .scalar (.like negated) v⟩
  | among negated joiner key _ items => ⟨joiner, key, .among negated false items⟩
  | between negated joiner key least most => ⟨joiner, key, .between negated false least most⟩
  | isNull negated joiner key => ⟨joiner, key, .null negated⟩

end LeafCall

/-- A call of the `where` family, or one with a callback that makes at least one. -/
inductive Clause where
  | leaf (l : LeafCall)
  | group (joiner : Joiner) (first : Clause) (rest : List Clause)

/-- The connective of a joiner. -/
def connective : Joiner → Connective
  | .and | .andNot => .and
  | .or | .orNot => .or

/-- The joiner negates. -/
def negates : Joiner → Bool
  | .andNot | .orNot => true
  | .and | .or => false

namespace Clause

/-- How a clause is joined to those before it. -/
def joiner : Clause → Joiner
  | leaf l => l.leaf.joiner
  | group joiner _ _ => joiner

mutual

/-- The condition that a clause is. -/
def condition : Clause → Condition
  | leaf l =>
    .plain (.text l.leaf.key.text) (.text l.leaf.test.operator) l.leaf.test.value
      (.text l.leaf.joiner.words)
  | group joiner first rest =>
    .plain (.group (condition first :: conditions rest)) .null .null (.text joiner.words)

/-- The conditions of clauses. -/
def conditions : List Clause → List Condition
  | [] => []
  | c :: cs => condition c :: conditions cs

end

mutual

/-- The term that a clause means, joined to those before it as told. -/
def node (lead : Option Connective) : Clause → Node
  | leaf l => .predicate lead (negates l.leaf.joiner) (l.leaf.test.predicate l.leaf.key.text)
  | group joiner first rest => .group lead (negates joiner) (node none first :: nodesBehind rest)

/-- The terms of clauses behind others. -/
def nodesBehind : List Clause → List Node
  | [] => []
  | c :: cs => node (some (connective c.joiner)) c :: nodesBehind cs

end

/-- The tree of clauses: the first one is joined to nothing. -/
def tree : List Clause → List Node
  | [] => []
  | c :: cs => node none c :: nodesBehind cs

/-- What holds of comparisons, and of groups if it holds of their clauses, holds of clauses. -/
@[elab_as_elim]
theorem induction {P : Clause → Prop} (leaf : ∀ l, P (leaf l))
    (group : ∀ joiner first rest, P first → (∀ c ∈ rest, P c) → P (group joiner first rest)) :
    ∀ c, P c :=
  fun c => Clause.rec (motive_1 := P) (motive_2 := fun cs => ∀ c ∈ cs, P c) leaf group
    (by simp) (fun c cs hc hcs d hd => by
      rcases List.mem_cons.1 hd with rfl | hd
      · exact hc
      · exact hcs d hd) c

theorem conditions_eq_map (cs : List Clause) : conditions cs = cs.map condition := by
  induction cs with
  | nil => rfl
  | cons c cs ih => rw [conditions, ih, List.map_cons]

end Clause

/-! ## Tokens of clauses -/

/-- The tokens of an operator that may be negated. -/
def negatedTokens (negated : Bool) (k : Keyword) : List Token :=
  if negated then [.keyword .not, .keyword k] else [.keyword k]

def ScalarOperator.tokens : ScalarOperator → List Token
  | like negated => negatedTokens negated .like
  | o => [.sign o.text]

/-- Further placeholders, and the end of their list. -/
def moreTokens : Nat → List Token
  | 0 => [.mark ')']
  | n + 1 => .mark ',' :: .mark '?' :: moreTokens n

/-- The tokens of a comparison of a name. -/
def Test.tokens (key : String) : Test → List Token
  | scalar o _ => .name key :: (o.tokens ++ [.mark '?'])
  | among negated _ [] => [.number (if negated then "1" else "0"), .sign "=", .number "1"]
  | among negated _ (_ :: items) =>
    .name key :: (negatedTokens negated .among ++ .mark '(' :: .mark '?' :: moreTokens items.length)
  | between negated _ _ _ =>
    .name key :: (negatedTokens negated .between ++ [.mark '?', .keyword .and, .mark '?'])
  | null negated =>
    .name key :: .keyword .is :: (if negated then [.keyword .not, .keyword .null]
      else [.keyword .null])

def Connective.token : Connective → Token
  | and => .keyword .and
  | or => .keyword .or

/-- The `NOT` of a joiner, if it has one. -/
def negation (joiner : Joiner) : List Token := if negates joiner then [.keyword .not] else []

namespace Clause

mutual

/-- The tokens of a clause behind its joiner. -/
def tokens : Clause → List Token
  | leaf l => l.leaf.test.tokens l.leaf.key.text
  | group _ first rest =>
    .mark '(' :: (negation first.joiner ++ (tokens first ++ (tokensBehind rest ++ [.mark ')'])))

/-- The tokens of clauses behind others. -/
def tokensBehind : List Clause → List Token
  | [] => []
  | c :: cs => (connective c.joiner).token :: (negation c.joiner ++ (tokens c ++ tokensBehind cs))

end

end Clause

/-! ## Reading the tokens -/

theorem readMore_moreTokens (count n : Nat) (rest : List Token) :
    readMore count (moreTokens n ++ rest) = some (.list (count + n), rest) := by
  induction n generalizing count with
  | zero => rfl
  | succ n ih =>
    show readMore (count + 1) (moreTokens n ++ rest) = _
    rw [ih, Nat.add_right_comm, Nat.add_assoc]

theorem readPredicate_tokens (t : Test) (key : String) (rest : List Token) :
    readPredicate (t.tokens key ++ rest) = some (t.predicate key, rest) := by
  cases t with
  | scalar o v =>
    cases o with
    | like negated => cases negated <;> rfl
    | _ => rfl
  | among negated isTuple items =>
    cases items with
    | nil => cases negated <;> rfl
    | cons v items =>
      have hlist : readList (.mark '(' :: .mark '?' :: (moreTokens items.length ++ rest)) =
          some (.list (items.length + 1), rest) := by
        rw [readList, readMore_moreTokens, Nat.add_comm]
      cases negated <;>
        simp [Test.tokens, Test.predicate, negatedTokens, negatedText, readPredicate, readRelation,
          hlist]
  | between negated isTuple least most => cases negated <;> rfl
  | null negated => cases negated <;> rfl

theorem readTerm_tokens (inner : List Token → Option (List Node × List Token))
    (lead : Option Connective) (negated : Bool) (t : Test) (key : String) (rest : List Token) :
    readTerm inner lead negated (t.tokens key ++ rest) =
      some (.predicate lead negated (t.predicate key), rest) := by
  have hterm : readTerm inner lead negated (t.tokens key ++ rest) =
      (readPredicate (t.tokens key ++ rest)).map fun read =>
        (.predicate lead negated read.1, read.2) := by
    cases t with
    | among negated isTuple items => cases items <;> rfl
    | _ => rfl
  rw [hterm, readPredicate_tokens]
  rfl

theorem readNot_test (t : Test) (key : String) (rest : List Token) :
    readNot (t.tokens key ++ rest) = (false, t.tokens key ++ rest) := by
  cases t with
  | among negated isTuple items => cases items <;> rfl
  | _ => rfl

/-- What stands behind a joiner is no negation. -/
theorem readNot_tokens (c : Clause) (rest : List Token) :
    readNot (negation c.joiner ++ (c.tokens ++ rest)) = (negates c.joiner, c.tokens ++ rest) := by
  have hplain : readNot (c.tokens ++ rest) = (false, c.tokens ++ rest) := by
    cases c with
    | leaf l => exact readNot_test l.leaf.test l.leaf.key.text rest
    | group joiner first others => rfl
  unfold negation
  cases negates c.joiner with
  | true => rfl
  | false => exact hplain

theorem readConnective_token (c : Connective) (ts : List Token) :
    readConnective (c.token :: ts) = some (c, ts) := by
  cases c <;> rfl

/-- A clause that is read as its node wherever the fuel is enough. -/
def Clause.ReadsBack (c : Clause) : Prop :=
  ∀ fuel lead rest, c.tokens.length ≤ fuel →
    readTerm (readNodes fuel none) lead (negates c.joiner) (c.tokens ++ rest) =
      some (c.node lead, rest)

/-- The induction is on the clauses behind the first one, with what joins that one left open. -/
theorem readNodes_of_readsBack {c : Clause} {cs : List Clause} (hc : c.ReadsBack)
    (hcs : ∀ d ∈ cs, d.ReadsBack) (fuel : Nat) (lead : Option Connective) (rest : List Token)
    (hrest : readConnective rest = none)
    (hfuel : c.tokens.length + (Clause.tokensBehind cs).length < fuel) :
    readNodes fuel lead (negation c.joiner ++ (c.tokens ++ (Clause.tokensBehind cs ++ rest))) =
      some (c.node lead :: Clause.nodesBehind cs, rest) := by
  induction cs generalizing c fuel lead with
  | nil =>
    obtain ⟨fuel, rfl⟩ : ∃ n, fuel = n + 1 := ⟨fuel - 1, by omega⟩
    rw [readNodes, readNot_tokens, hc fuel lead _ (by omega)]
    simp only [Clause.tokensBehind, List.nil_append, Option.bind_eq_bind, Option.bind_some, hrest]
    rfl
  | cons d cs ih =>
    obtain ⟨fuel, rfl⟩ : ∃ n, fuel = n + 1 := ⟨fuel - 1, by omega⟩
    rw [Clause.tokensBehind, List.length_cons, List.length_append, List.length_append] at hfuel
    have htail := ih (hcs d List.mem_cons_self) (fun e he => hcs e (List.mem_cons_of_mem _ he))
      fuel (some (connective d.joiner)) (by omega)
    rw [readNodes, readNot_tokens, hc fuel lead _ (by omega)]
    simp only [Clause.tokensBehind, List.cons_append, List.append_assoc, Option.bind_eq_bind,
      Option.bind_some, readConnective_token, htail]
    rfl

theorem Clause.readsBack (c : Clause) : c.ReadsBack := by
  induction c using Clause.induction with
  | leaf l =>
    intro fuel lead rest _
    exact readTerm_tokens _ lead _ l.leaf.test l.leaf.key.text rest
  | group joiner first others hfirst hothers =>
    intro fuel lead rest hfuel
    simp only [tokens, List.length_cons, List.length_append] at hfuel
    have hinner := readNodes_of_readsBack hfirst hothers fuel none (.mark ')' :: rest) rfl
      (by omega)
    simp only [tokens, List.cons_append, List.append_assoc, List.nil_append, readTerm, hinner]
    rfl

/-- The tokens of clauses, read from the first one on. -/
theorem readNodes_tokens (c : Clause) (cs : List Clause) {fuel : Nat}
    (hfuel : (negation c.joiner ++ (c.tokens ++ Clause.tokensBehind cs)).length < fuel) :
    readNodes fuel none (negation c.joiner ++ (c.tokens ++ Clause.tokensBehind cs)) =
      some (Clause.tree (c :: cs), []) := by
  simp only [List.length_append] at hfuel
  have h := readNodes_of_readsBack c.readsBack (fun d (_ : d ∈ cs) => d.readsBack) fuel none [] rfl
    (by omega)
  rwa [List.append_nil] at h

end SqlBuilder.Grammar
