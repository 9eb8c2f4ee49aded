import SqlBuilder.Proofs.Grammar.Clauses

/-!
# The text of conditions

`criteria_spells`: what is written for clauses spells their tokens, whichever way identifiers are
quoted. `criteria_parses`: the text is read as the tree of the clauses.
-/

set_option autoImplicit false

namespace SqlBuilder.Grammar

open SqlBuilder.Text Adapter

/-! ## Names -/

theorem cut_of_not_mem {pattern cs : List Char} {c : Char} (hc : c ∈ pattern) (h : c ∉ cs) :
    cut pattern cs = none := by
  cases hcut : cut pattern cs with
  | none => rfl
  | some parts =>
    refine absurd ?_ h
    rw [cut_eq_some hcut]
    simp [hc]

theorem mem_of_mem_stripChars {c : Char} {cs : List Char} (h : c ∈ stripChars cs) : c ∈ cs := by
  unfold stripChars trimBy at h
  have h := (List.dropWhile_suffix _).subset (List.mem_reverse.1 h)
  exact (List.dropWhile_suffix _).subset (List.mem_reverse.1 h)

theorem isWord_of_mem {w : List Char} (h : isName w = true) : ∀ c ∈ w, isWord c = true := by
  simp only [isName, Bool.and_eq_true] at h
  exact List.all_eq_true.1 h.1.1

theorem not_mem_of_isName {w : List Char} (h : isName w = true) {c : Char} (hc : isWord c = false) :
    c ∉ w := fun hmem => by
  rw [isWord_of_mem h c hmem] at hc
  cases hc

/-- A plain name is one part. -/
theorem wrapChars_of_isName (a : Adapter) {w : List Char} (h : isName w = true) :
    a.wrapChars w = if a.quoteIdentifiers then a.dialect.quoteName w else w := by
  have hstrip : stripChars w ≠ ['*'] := fun hstar =>
    not_mem_of_isName h (c := '*') (by decide) (mem_of_mem_stripChars (hstar ▸ List.mem_cons_self))
  rw [wrapChars,
    partsFrom_undotted (cut_of_not_mem (c := '.') (by simp) (not_mem_of_isName h (by decide))),
    partsFrom_plain (cut_of_not_mem (c := ' ') (by decide) (not_mem_of_isName h (by decide))),
    if_neg hstrip, List.flatMap_singleton, writePart]

theorem wrap_spells (a : Adapter) (key : PlainName) :
    Spells (a.wrap (.text key.text)).toList [.name key.text] := by
  have hkey : (a.wrap (.text key.text)).toList = a.wrapChars key.text.toList :=
    String.toList_ofList
  have hname := Spells.ofName key.plain
  rw [hkey, wrapChars_of_isName a key.plain]
  rw [String.ofList_toList] at hname
  split
  · have hquote : isWord a.dialect.identifierQuote = false := by
      cases a.dialect <;> decide
    have hmem := not_mem_of_isName key.plain hquote
    have hspells : Spells (a.dialect.identifierQuote ::
        (key.text.toList ++ [a.dialect.identifierQuote])) _ :=
      Spells.quoted (by cases a.dialect <;> decide) hmem
    rw [String.ofList_toList] at hspells
    rw [Dialect.quoteName, doubled_of_not_mem hmem]
    exact hspells
  · exact hname

/-! ## Pieces -/

/-- Fragments that spell tokens one after another. -/
inductive Spelled : List Fragment → List Token → Prop where
  | nil : Spelled [] []
  | cons {f : Fragment} {fs : List Fragment} {us ts : List Token} (hf : Spells f.sql.toList us)
      (hfs : Spelled fs ts) : Spelled (f :: fs) (us ++ ts)

namespace Spelled

theorem single {f : Fragment} {ts : List Token} (h : Spells f.sql.toList ts) : Spelled [f] ts := by
  simpa using cons h nil

theorem append {fs gs : List Fragment} {ts us : List Token} (hf : Spelled fs ts)
    (hg : Spelled gs us) : Spelled (fs ++ gs) (ts ++ us) := by
  induction hf with
  | nil => exact hg
  | cons hf _ ih =>
    rw [List.append_assoc]
    exact cons hf ih

/-- With a space between each two. -/
theorem spells {fs : List Fragment} {ts : List Token} (h : Spelled fs ts) :
    Spells (Fragment.intercalate " " fs).sql.toList ts := by
  induction h with
  | nil => exact Spells.nil
  | @cons f fs us ts hf hfs ih =>
    cases hfs with
    | nil => simpa using hf
    | cons hg hgs =>
      rw [Fragment.intercalate_cons " " f (by simp)]
      simpa [Fragment.ofText] using hf.spaced ih

end Spelled

/-! ## Comparisons -/

theorem negatedText_spells (negated : Bool) (k : Keyword) :
    Spells (negatedText negated k.word).toList (negatedTokens negated k) := by
  cases negated with
  | true =>
    have h := (Spells.keyword .not).spaced (Spells.keyword k)
    simpa [negatedText, negatedTokens, Keyword.word] using h
  | false => exact Spells.keyword k

theorem scalarOperator_spells (o : ScalarOperator) : Spells o.text.toList o.tokens := by
  cases o with
  | like negated => exact negatedText_spells negated .like
  | _ => exact Spells.sign (by decide) (by decide) (by decide)

theorem placeholder_spells : Spells "?".toList [.mark '?'] := Spells.nil.mark (by decide)

theorem range_spells : Spells "? AND ?".toList [.mark '?', .keyword .and, .mark '?'] :=
  placeholder_spells.spaced ((Spells.keyword .and).spaced placeholder_spells)

theorem moreTokens_spells (n : Nat) :
    Spells ((", ".intercalate (List.replicate (n + 1) "?")).toList ++ [')'])
      (.mark '?' :: moreTokens n) := by
  induction n with
  | zero => exact (Spells.nil.mark (by decide)).mark (by decide)
  | succ n ih =>
    have hlist : (", ".intercalate (List.replicate (n + 2) "?")).toList =
        '?' :: ',' :: ' ' :: (", ".intercalate (List.replicate (n + 1) "?")).toList := by
      rw [List.replicate_succ, String.intercalate_cons_of_ne_nil (by simp)]
      simp
    rw [hlist]
    exact (ih.space.mark (by decide)).mark (by decide)

/-- The list of placeholders for some values. -/
theorem listSide_spells (v : Value) (items : List Value) :
    Spells (placeholders ", " (v :: items)).parenthesized.sql.toList
      (.mark '(' :: .mark '?' :: moreTokens items.length) := by
  have h := (moreTokens_spells items.length).mark (c := '(') (by decide)
  simpa [Fragment.parenthesized, Fragment.ofText, sql_placeholders] using h

theorem operatorWord_text (s : String) : ∃ word, operatorWord (.text s) = .ok word := by
  unfold operatorWord
  split <;> exact ⟨_, rfl⟩

/-- A name, an operator and one more piece, with single spaces between them. -/
theorem compared_spells (a : Adapter) (key : PlainName) {operator : String} {right : Fragment}
    {ts us : List Token} (ho : Spells operator.toList ts) (hright : Spells right.sql.toList us) :
    Spells (compared (a.conditionKey {} (.text key.text)) (.text operator) right).sql.toList
      (.name key.text :: (ts ++ us)) := by
  have h := (wrap_spells a key).spaced (ho.spaced hright)
  simpa [compared, Adapter.conditionKey, Value.isTrue, Fragment.ofText, Value.toText] using h

/-- A name and an operator, and behind them a list in a piece of its own. -/
theorem listed_spelled (a : Adapter) (key : PlainName) {operator : String} {right : Fragment}
    {ts us : List Token} (ho : Spells operator.toList ts) (hright : Spells right.sql.toList us) :
    Spelled [a.conditionKey {} (.text key.text) ++
        Fragment.ofText (" " ++ (Value.text operator).toText), right]
      (.name key.text :: (ts ++ us)) := by
  have h : Spells (a.conditionKey {} (.text key.text) ++
      Fragment.ofText (" " ++ (Value.text operator).toText)).sql.toList (.name key.text :: ts) := by
    have h := (wrap_spells a key).spaced ho
    simpa [Adapter.conditionKey, Value.isTrue, Fragment.ofText, Value.toText] using h
  exact Spelled.cons h (.single hright)

theorem comparison_raw (a : Adapter) (key : String) (operator sql : String)
    (bindings : List Value) :
    a.comparison {} (.text key) (.text operator) (.raw sql bindings) =
      .ok [compared (a.conditionKey {} (.text key)) (.text operator) ⟨sql, bindings⟩] := by
  obtain ⟨word, hword⟩ := operatorWord_text operator
  rw [comparison_scalar a {} (.text key) (.text operator) rfl, hword]
  rfl

theorem comparison_bound (a : Adapter) (key : String) (operator : String) (v : Scalar) :
    a.comparison {} (.text key) (.text operator) v.value =
      .ok [compared (a.conditionKey {} (.text key)) (.text operator)
        (Fragment.bound v.value.normalize)] := by
  obtain ⟨word, hword⟩ := operatorWord_text operator
  have hitems := (Value.isScalar_iff.1 v.scalar).1
  have hright := rightSide_bound a v.scalar (.text operator)
  rw [rightSide, hitems] at hright
  rw [comparison_scalar a {} _ _ hitems, hword, ← hright]
  simp [standsAlone, Value.isRaw]

theorem comparison_items (a : Adapter) (key : String) (operator : String) (isTuple : Bool)
    (v : Value) (items : List Value) :
    a.comparison {} (.text key) (.text operator) (listing isTuple (v :: items)) =
      .ok [a.conditionKey {} (.text key) ++ Fragment.ofText (" " ++ (Value.text operator).toText),
        listSide (.text operator) (v :: items)] := by
  obtain ⟨word, hword⟩ := operatorWord_text operator
  have hitems : (listing isTuple (v :: items)).items? = some (v :: items) := by
    cases isTuple <;> rfl
  have hlist : listComparison (a.conditionKey {} (.text key)) (.text operator) (v :: items) =
      .ok [a.conditionKey {} (.text key) ++
        Fragment.ofText (" " ++ (Value.text operator).toText),
        listSide (.text operator) (v :: items)] := by
    unfold listComparison listSide
    rw [if_neg (by simp [Value.isKey])]
    dsimp only
    split <;> rfl
  rw [comparison_list a {} _ _ hitems, hword]
  dsimp only [bind, Except.bind]
  cases emptySetPredicate? word <;> exact hlist

/-- An empty list is written as a predicate that holds of nothing or of everything. -/
theorem comparison_nothing (a : Adapter) (key : String) (negated isTuple : Bool) :
    a.comparison {} (.text key) (.text (negatedText negated "IN")) (listing isTuple []) =
      .ok [Fragment.ofText (if negated then "1 = 1" else "0 = 1")] := by
  have hword : operatorWord (.text (negatedText negated "IN")) =
      .ok (upper (negatedText negated "IN")) := by
    cases negated <;> rfl
  have hupper : emptySetPredicate? (upper (negatedText negated "IN")) =
      some (if negated then "1 = 1" else "0 = 1") := by
    cases negated <;> decide +kernel
  have hitems : (listing isTuple []).items? = some [] := by cases isTuple <;> rfl
  rw [comparison_list a {} _ _ hitems, hword]
  dsimp only [bind, Except.bind]
  rw [hupper]
  rfl

theorem nothing_spells (negated : Bool) :
    Spells (if negated then "1 = 1" else "0 = 1").toList
      [.number (if negated then "1" else "0"), .sign "=", .number "1"] := by
  have hnumber : ∀ {w : List Char}, w ≠ [] → w.all isWord = true →
      Token.ofWord w = .number (String.ofList w) → Spells w [.number (String.ofList w)] :=
    fun hne h hnumber => hnumber ▸ Spells.word hne h
  have hone := hnumber (w := ['1']) (by decide) (by decide) (by decide)
  have hzero := hnumber (w := ['0']) (by decide) (by decide) (by decide)
  have hsign := Spells.sign (w := ['=']) (by decide) (by decide) (by decide)
  cases negated with
  | true => exact hone.spaced (hsign.spaced hone)
  | false => exact hzero.spaced (hsign.spaced hone)

/-- What is written for the comparison of a plain name spells its tokens. -/
theorem comparison_spelled (a : Adapter) (key : PlainName) (t : Test) :
    ∃ fs, a.comparison {} (.text key.text) (.text t.operator) t.value = .ok fs ∧
      Spelled fs (t.tokens key.text) := by
  cases t with
  | scalar o v =>
    have hright : Spells (Fragment.bound v.value.normalize).sql.toList [.mark '?'] :=
      placeholder_spells
    exact ⟨_, comparison_bound a key.text _ v,
      .single (compared_spells a key (scalarOperator_spells o) hright)⟩
  | null negated =>
    refine ⟨_, comparison_raw a key.text _ _ _, .single ?_⟩
    have hright : Spells (Fragment.sql ⟨"NULL", []⟩).toList [.keyword .null] :=
      Spells.keyword .null
    cases negated with
    | true =>
      have ho : Spells "IS NOT".toList [.keyword .is, .keyword .not] :=
        (Spells.keyword .is).spaced (Spells.keyword .not)
      exact compared_spells a key ho hright
    | false => exact compared_spells a key (Spells.keyword .is) hright
  | between negated isTuple least most =>
    have hside : listSide (.text (negatedText negated "BETWEEN")) [least, most] =
        ⟨"? AND ?", [least.normalize, most.normalize]⟩ := by
      cases negated <;> rfl
    refine ⟨_, comparison_items a key.text _ isTuple least [most],
      listed_spelled a key (negatedText_spells negated .between) ?_⟩
    rw [Test.operator, hside]
    exact range_spells
  | among negated isTuple items =>
    cases items with
    | nil =>
      exact ⟨_, comparison_nothing a key.text negated isTuple, .single (nothing_spells negated)⟩
    | cons v items =>
      have hside : listSide (.text (negatedText negated "IN")) (v :: items) =
          (placeholders ", " (v :: items)).parenthesized := by
        cases negated <;> rfl
      refine ⟨_, comparison_items a key.text _ isTuple v items,
        listed_spelled a key (negatedText_spells negated .among) ?_⟩
      rw [Test.operator, hside]
      exact listSide_spells v items

/-! ## Lists of conditions -/

/-- What is written for a clause spells its tokens. -/
def Clause.Written (a : Adapter) (c : Clause) : Prop :=
  ∃ fs, conditionBody a {} c.condition = .ok fs ∧ Spelled fs c.tokens

/-- The words of a joiner are one piece, or none where nothing is left of them. -/
theorem joiner_spelled (first : Bool) (joiner : Joiner) :
    ∃ v fs, joinerWord first (.text joiner.words) = .ok v ∧ wordPieces v = fs.map some ∧
      Spelled fs (if first then negation joiner
        else (connective joiner).token :: negation joiner) := by
  cases first with
  | true =>
    have hwords : firstWords joiner.words = if negates joiner then "NOT" else "" := by
      cases joiner <;> decide +kernel
    have hword : joinerWord true (.text joiner.words) = .ok (.text (firstWords joiner.words)) := rfl
    rw [hwords] at hword
    unfold negation
    cases hnegates : negates joiner with
    | true =>
      rw [hnegates] at hword
      exact ⟨_, [Fragment.ofText "NOT"], hword, rfl, .single (Spells.keyword .not)⟩
    | false =>
      rw [hnegates] at hword
      exact ⟨_, [], hword, rfl, .nil⟩
  | false =>
    refine ⟨_, [Fragment.ofText joiner.words], rfl, by cases joiner <;> rfl, .single ?_⟩
    cases joiner with
    | and => exact Spells.keyword .and
    | or => exact Spells.keyword .or
    | andNot => exact (Spells.keyword .and).spaced (Spells.keyword .not)
    | orNot => exact (Spells.keyword .or).spaced (Spells.keyword .not)

theorem Clause.plain_condition (c : Clause) :
    c.condition.leading = .null ∧ c.condition.joiner = .text c.joiner.words := by
  cases c <;> exact ⟨rfl, rfl⟩

/-- One more clause in front of those that are written. -/
theorem criteriaPieces_spelled {a : Adapter} {c : Clause} {cs : List Clause} {fs : List Fragment}
    (first : Bool) (hc : c.Written a)
    (hpieces : a.criteriaPieces {} false (Clause.conditions cs) = .ok (fs.map some))
    (hfs : Spelled fs (Clause.tokensBehind cs)) :
    ∃ gs, a.criteriaPieces {} first (Clause.conditions (c :: cs)) = .ok (gs.map some) ∧
      Spelled gs ((if first then negation c.joiner
        else (connective c.joiner).token :: negation c.joiner) ++
          (c.tokens ++ Clause.tokensBehind cs)) := by
  obtain ⟨body, hbody, hspelled⟩ := hc
  obtain ⟨v, words, hword, hwords, hjoiner⟩ := joiner_spelled first c.joiner
  obtain ⟨hleading, hjoinerWords⟩ := c.plain_condition
  have hlead : (if first then wordPieces c.condition.leading else []) = [] := by
    rw [hleading]
    split <;> rfl
  refine ⟨words ++ (body ++ fs), ?_, hjoiner.append (hspelled.append hfs)⟩
  rw [Clause.conditions, criteriaPieces, hlead, hjoinerWords, hword, hbody, hpieces]
  show Except.ok ([] ++ wordPieces v ++ body.map some ++ fs.map some) = _
  rw [hwords]
  simp

theorem behind_spelled {a : Adapter} {cs : List Clause} (h : ∀ c ∈ cs, c.Written a) :
    ∃ fs, a.criteriaPieces {} false (Clause.conditions cs) = .ok (fs.map some) ∧
      Spelled fs (Clause.tokensBehind cs) := by
  induction cs with
  | nil => exact ⟨[], rfl, .nil⟩
  | cons c cs ih =>
    obtain ⟨fs, hpieces, hfs⟩ := ih fun d hd => h d (List.mem_cons_of_mem _ hd)
    exact criteriaPieces_spelled false (h c List.mem_cons_self) hpieces hfs

/-- A list of clauses is written as the tokens of the first one without its connective, and those
of the others. -/
theorem criteria_spells_of_written {a : Adapter} {c : Clause} {cs : List Clause}
    (hc : c.Written a) (hcs : ∀ d ∈ cs, d.Written a) :
    ∃ f, a.criteria {} (Clause.conditions (c :: cs)) = .ok f ∧
      Spells f.sql.toList (negation c.joiner ++ (c.tokens ++ Clause.tokensBehind cs)) := by
  obtain ⟨fs, hpieces, hfs⟩ := behind_spelled hcs
  obtain ⟨gs, hpieces, hgs⟩ := criteriaPieces_spelled true hc hpieces hfs
  refine ⟨Fragment.intercalate " " gs, ?_, hgs.spells⟩
  rw [criteria, hpieces]
  exact joinPieces_some gs

theorem Clause.written (a : Adapter) (c : Clause) : c.Written a := by
  induction c using Clause.induction with
  | leaf l => exact comparison_spelled a l.leaf.key l.leaf.test
  | group joiner first rest hfirst hrest =>
    obtain ⟨f, hcriteria, hspells⟩ := criteria_spells_of_written hfirst hrest
    refine ⟨[f.parenthesized], ?_, .single ?_⟩
    · have hgroup : (do
          let f ← a.criteria {} (conditions (first :: rest))
          pure [f.parenthesized] : Result (List Fragment)) = .ok [f.parenthesized] := by
        rw [hcriteria]
        rfl
      rw [criteria, bind_assoc] at hgroup
      exact hgroup
    · rw [Clause.tokens]
      simpa [Fragment.parenthesized, Fragment.ofText] using hspells.parenthesized

/-- The text of a list of clauses is read as their tree. -/
theorem criteria_parses (a : Adapter) (c : Clause) (cs : List Clause) :
    ∃ f, a.criteria {} (Clause.conditions (c :: cs)) = .ok f ∧
      parse f.sql = some (Clause.tree (c :: cs)) := by
  obtain ⟨f, hcriteria, hspells⟩ :=
    criteria_spells_of_written (c.written a) fun d (_ : d ∈ cs) => d.written a
  have htokens : tokens f.sql =
      negation c.joiner ++ (c.tokens ++ Clause.tokensBehind cs) := by
    simpa [tokens, tokensFrom, Pending.tokens] using hspells [] parted_nil
  refine ⟨f, hcriteria, ?_⟩
  rw [parse, htokens, readNodes_tokens c cs (Nat.lt_succ_self _)]

end SqlBuilder.Grammar
