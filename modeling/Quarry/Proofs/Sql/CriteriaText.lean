import Quarry.Proofs.Sql.Outcome
import Quarry.Proofs.Sql.Predicate
import Quarry.Proofs.Sql.Reader

/-!
# Reading criteria

The text of criteria is read in three steps: characters into lexemes, lexemes into phrases,
phrases into a predicate. The tokens that `Dialect.criteriaScript` writes are read as the
predicate of the criteria, each operand as the number of its own mark.
-/

namespace Quarry

open Lexeme (expect spell)

def Operator.lead (o : Operator) : String :=
  " " ++ o.symbol ++
    match o.arity with
    | .exactly 0 => ""
    | .exactly _ => " "
    | .any => " ("

namespace Lexeme

def readOperator (ls : List Lexeme) : Option (Operator × List Lexeme) :=
  Operator.all.findSome? fun o => (expect o.lead ls).map fun rest => (o, rest)

def readCondition (ls : List Lexeme) : Option (Condition Nat × List Lexeme) :=
  match expect "1=0" ls, expect "1=1" ls with
  | some rest, _ => some (.constant false, rest)
  | none, some rest => some (.constant true, rest)
  | none, none => do
    let (column, rest) ← readName ls
    let (operator, rest) ← readOperator rest
    match operator.arity with
    | .exactly 0 => some (.compare column operator [], rest)
    | .exactly _ =>
      let (k, rest) ← readMark rest
      some (.compare column operator [k], rest)
    | .any =>
      let (ks, rest) ← readList readMark rest
      let rest ← expect ")" rest
      some (.compare column operator ks, rest)

def readLeaf (ls : List Lexeme) : Option (Predicate Nat × List Lexeme) :=
  match expect "NOT (" ls with
  | some rest => do
    let (c, rest) ← readCondition rest
    let rest ← expect ")" rest
    some (.leaf true c, rest)
  | none => (readCondition ls).map fun p => (.leaf false p.1, p.2)

def readPhrase (ls : List Lexeme) : Option (Phrase × List Lexeme) :=
  match expect "(" ls, expect ")" ls, expect " AND " ls, expect " OR " ls with
  | some rest, _, _, _ => some (.opening, rest)
  | none, some rest, _, _ => some (.closing, rest)
  | none, none, some rest, _ => some (.join .and, rest)
  | none, none, none, some rest => some (.join .or, rest)
  | none, none, none, none => (readLeaf ls).map fun p => (.operand p.1, p.2)

def readPhrases (ls : List Lexeme) : List Phrase × List Lexeme :=
  match readPhrase ls with
  | none => ([], ls)
  | some (x, rest) =>
    if rest.length < ls.length then (x :: (readPhrases rest).1, (readPhrases rest).2)
    else ([], ls)
termination_by ls.length

end Lexeme

namespace Dialect

def readPredicate (d : Dialect) (ls : List Lexeme) : Option (Predicate Nat × List Lexeme) :=
  (d.group (Lexeme.readPhrases ls).1).map fun p => (p, (Lexeme.readPhrases ls).2)

/-- Read the text of criteria behind `bound` marks, the whole of it. -/
def readCriteria (d : Dialect) (bound : Nat) (text : String) : Option (Predicate Nat) :=
  (d.lex bound text.toList).bind fun ls =>
    match d.readPredicate ls with
    | some (p, []) => some p
    | _ => none

end Dialect

namespace Lexeme

theorem findSome?_of_unique {α β : Type} {f : α → Option β} {l : List α} {a : α} {b : β}
    (ha : a ∈ l) (hf : f a = some b) (hn : ∀ x ∈ l, x ≠ a → f x = none) :
    l.findSome? f = some b := by
  induction l with
  | nil => cases ha
  | cons x l ih =>
    by_cases hx : x = a
    · rw [List.findSome?_cons, hx, hf]
    · have hl : a ∈ l := (List.mem_cons.1 ha).resolve_left fun h => hx h.symm
      rw [List.findSome?_cons, hn x (by simp) hx]
      exact ih hl fun y hy => hn y (by simp [hy])

/-- What leads to the operands of one operator is not the beginning of another. -/
theorem clash_lead : ∀ o ∈ Operator.all, ∀ x ∈ Operator.all, x ≠ o →
    clash x.lead o.lead = true := by
  decide

theorem readOperator_lead (o : Operator) (ls : List Lexeme) :
    readOperator (spell o.lead ++ ls) = some (o, ls) := by
  have ho : o ∈ Operator.all := by cases o <;> decide
  refine findSome?_of_unique ho ?_ ?_
  · rw [expect_spell]
    rfl
  · intro x hx hne
    rw [expect_spell_of_clash (clash_lead o ho x hx hne)]
    rfl

theorem readMark_lexemes (d : Dialect) (n : Nat) (v : Value) (ls : List Lexeme) :
    readMark (Token.lexemes d n [.parameter v] ++ ls) = some (n + 1, ls) := rfl

theorem placed_parameter (n : Nat) (vs : List Value) :
    placed (fun v => [Token.parameter v]) (fun n _ => n + 1) n vs =
      List.range' (n + 1) vs.length := by
  induction vs generalizing n with
  | nil => rfl
  | cons v vs ih =>
    rw [placed, ih, List.length_cons, List.range'_succ]
    rfl

/-- Behind a column and what leads to its operands, the operands are read. -/
theorem readCondition_lead (column : String) (o : Operator) (ls : List Lexeme) :
    readCondition (.name column :: (spell o.lead ++ ls)) =
      match o.arity with
      | .exactly 0 => some (.compare column o [], ls)
      | .exactly _ => (readMark ls).map fun p => (.compare column o [p.1], p.2)
      | .any => (readList readMark ls).bind fun p =>
          (expect ")" p.2).map fun rest => (.compare column o p.1, rest) := by
  have h0 : expect "1=0" (.name column :: (spell o.lead ++ ls)) = none :=
    expect_cons_of_ne_char (by decide) (by simp) _
  have h1 : expect "1=1" (.name column :: (spell o.lead ++ ls)) = none :=
    expect_cons_of_ne_char (by decide) (by simp) _
  simp only [readCondition, h0, h1, readName, Option.bind_eq_bind, Option.bind_some,
    readOperator_lead]
  cases o.arity with
  | any =>
    cases readList readMark ls with
    | none => rfl
    | some p => cases hp : expect ")" p.2 <;> simp [hp]
  | exactly k =>
    cases k with
    | zero => rfl
    | succ k => cases readMark ls <;> simp

theorem expect_comma_close (ls : List Lexeme) : expect ", " (spell ")" ++ ls) = none :=
  expect_spell_of_clash rfl ls

/-- The lexemes of a comparison that is none of the constants. -/
theorem lexemes_compare (d : Dialect) (n : Nat) (column : String) (o : Operator)
    (ts : List Token) :
    Token.lexemes d n ([.name column, .word " ", .word o.symbol] ++ ts) =
      .name column :: (spell (" " ++ o.symbol) ++ Token.lexemes d n ts) := by
  simp [Token.lexemes, spell_append]

theorem readCondition_constant (d : Dialect) (n : Nat) (b : Bool) (ls : List Lexeme) :
    readCondition (Token.lexemes d n [.word (if b then "1=1" else "1=0")] ++ ls) =
      some (.constant b, ls) := by
  have hl : Token.lexemes d n [.word (if b then "1=1" else "1=0")] ++ ls =
      spell (if b then "1=1" else "1=0") ++ ls := by
    simp [Token.lexemes]
  have hclash : expect "1=0" (spell "1=1" ++ ls) = none := expect_spell_of_clash rfl ls
  rw [hl]
  cases b with
  | false => simp [readCondition]
  | true => simp [readCondition, hclash]

theorem readCondition_bare (d : Dialect) (n : Nat) (column : String) {o : Operator}
    (ho : o.arity = .exactly 0) (ls : List Lexeme) :
    readCondition (Token.lexemes d n ([.name column, .word " ", .word o.symbol] ++ []) ++ ls) =
      some (.compare column o [], ls) := by
  have hlead : o.lead = " " ++ o.symbol := by simp [Operator.lead, ho]
  rw [lexemes_compare, Token.lexemes, List.append_nil, List.cons_append, ← hlead,
    readCondition_lead, ho]
  rfl

theorem readCondition_single (d : Dialect) (n : Nat) (column : String) {o : Operator}
    (ho : o.arity = .exactly 1) (v : Value) (ls : List Lexeme) :
    readCondition (Token.lexemes d n ([.name column, .word " ", .word o.symbol] ++
      .word " " :: parameterList [v]) ++ ls) = some (.compare column o [n + 1], ls) := by
  have hlead : spell (" " ++ o.symbol) ++ spell " " = spell o.lead := by
    rw [← spell_append, Operator.lead, ho]
    rfl
  have hlex : Token.lexemes d n ([.name column, .word " ", .word o.symbol] ++
      .word " " :: parameterList [v]) ++ ls =
      .name column :: (spell o.lead ++ .mark (n + 1) :: ls) := by
    rw [lexemes_compare, ← hlead]
    simp [Token.lexemes, parameterList]
  rw [hlex, readCondition_lead, ho]
  rfl

theorem readCondition_list (d : Dialect) (n : Nat) (column : String) {o : Operator}
    (ho : o.arity = .any) {vs : List Value} (hvs : vs ≠ []) (ls : List Lexeme) :
    readCondition (Token.lexemes d n ([.name column, .word " ", .word o.symbol] ++
      (.word " (" :: parameterList vs ++ [.word ")"])) ++ ls) =
      some (.compare column o (List.range' (n + 1) vs.length), ls) := by
  have hlead : spell (" " ++ o.symbol) ++ spell " (" = spell o.lead := by
    rw [← spell_append, Operator.lead, ho]
  have hlex : Token.lexemes d n ([.name column, .word " ", .word o.symbol] ++
      (.word " (" :: parameterList vs ++ [.word ")"])) ++ ls =
      .name column :: (spell o.lead ++ (Token.lexemes d n
        (commaSeparated (vs.map fun v => [.parameter v])) ++ (spell ")" ++ ls))) := by
    rw [lexemes_compare, ← hlead]
    simp [Token.lexemes, Token.lexemes_append, parameterList, commaSeparated]
  have hread := readList_lexemes (readMark_lexemes d) (by simp) n hvs (expect_comma_close ls)
  rw [hlex, readCondition_lead, ho]
  simp only [hread, Option.bind_some, expect_spell, Option.map_some, placed_parameter]

/-- A comparison without its negation is read as its condition. -/
theorem readCondition_lexemes (d : Dialect) {c : Comparison} (hc : c.WellFormed) (n : Nat)
    (ls : List Lexeme) :
    readCondition (Token.lexemes d n c.plainTokens ++ ls) = some (c.condition.number n, ls) := by
  obtain ⟨column, o, vs, negated⟩ := c
  cases o with
  | isNull | isNotNull =>
    obtain rfl : vs = [] := List.length_eq_zero_iff.1 hc
    exact readCondition_bare d n column rfl ls
  | isIn =>
    cases vs with
    | nil => exact readCondition_constant d n false ls
    | cons v vs => exact readCondition_list d n column rfl (by simp) ls
  | notIn =>
    cases vs with
    | nil => exact readCondition_constant d n true ls
    | cons v vs => exact readCondition_list d n column rfl (by simp) ls
  | equal | notEqual | greater | greaterEqual | less | lessEqual | like | notLike | ilike =>
    obtain ⟨v, rfl⟩ := List.length_eq_one_iff.1 hc
    exact readCondition_single d n column rfl v ls

/-- The first lexeme of a comparison without its negation. -/
theorem lexemes_plainTokens_cases (d : Dialect) (c : Comparison) (n : Nat) (ls : List Lexeme) :
    (∃ rest, Token.lexemes d n c.plainTokens ++ ls = .name c.column :: rest) ∨
      ∃ s ∈ ["1=0", "1=1"], ∃ rest, Token.lexemes d n c.plainTokens ++ ls = spell s ++ rest := by
  rw [Comparison.plainTokens]
  split
  · exact Or.inr ⟨"1=0", by simp, ls, by simp [Token.lexemes]⟩
  · exact Or.inr ⟨"1=1", by simp, ls, by simp [Token.lexemes]⟩
  · exact Or.inl ⟨_, by simp [Token.lexemes]; rfl⟩

/-- No condition begins like a negation. -/
theorem expect_not_lexemes (d : Dialect) (c : Comparison) (n : Nat) (ls : List Lexeme) :
    expect "NOT (" (Token.lexemes d n c.plainTokens ++ ls) = none := by
  have hclash : ∀ t ∈ ["1=0", "1=1"], clash "NOT (" t = true := by decide
  rcases lexemes_plainTokens_cases d c n ls with ⟨rest, h⟩ | ⟨t, ht, rest, h⟩
  · rw [h]
    exact expect_cons_of_ne_char (by decide) (by simp) rest
  · rw [h]
    exact expect_spell_of_clash (hclash t ht) rest

theorem readLeaf_lexemes (d : Dialect) {c : Comparison} (hc : c.WellFormed) (n : Nat)
    (ls : List Lexeme) :
    readLeaf (Token.lexemes d n c.tokens ++ ls) =
      some (.leaf c.negated (c.condition.number n), ls) := by
  cases hneg : c.negated with
  | false =>
    have ht : c.tokens = c.plainTokens := by simp [Comparison.tokens, hneg]
    rw [ht, readLeaf, expect_not_lexemes]
    simp only [readCondition_lexemes d hc, Option.map_some]
  | true =>
    have hl : Token.lexemes d n c.tokens ++ ls =
        spell "NOT (" ++ (Token.lexemes d n c.plainTokens ++ (spell ")" ++ ls)) := by
      simp [Comparison.tokens, hneg, Token.lexemes, Token.lexemes_append]
    rw [hl, readLeaf, expect_spell]
    simp [readCondition_lexemes d hc]

theorem readPhrases_of_readPhrase {ls rest : List Lexeme} {x : Phrase}
    (h : readPhrase ls = some (x, rest)) (hl : rest.length < ls.length) :
    readPhrases ls = (x :: (readPhrases rest).1, (readPhrases rest).2) := by
  rw [readPhrases, h]
  exact if_pos hl

theorem readPhrases_of_none {ls : List Lexeme} (h : readPhrase ls = none) :
    readPhrases ls = ([], ls) := by
  rw [readPhrases, h]

theorem readPhrases_opening (ls : List Lexeme) :
    readPhrases (spell "(" ++ ls) = (.opening :: (readPhrases ls).1, (readPhrases ls).2) := by
  refine readPhrases_of_readPhrase ?_ (by simp [spell])
  rw [readPhrase, expect_spell]

theorem readPhrases_closing (ls : List Lexeme) :
    readPhrases (spell ")" ++ ls) = (.closing :: (readPhrases ls).1, (readPhrases ls).2) := by
  have hopen : expect "(" (spell ")" ++ ls) = none := expect_spell_of_clash rfl ls
  refine readPhrases_of_readPhrase ?_ (by simp [spell])
  rw [readPhrase, hopen, expect_spell]

theorem readPhrases_join (o : Combinator) (ls : List Lexeme) :
    readPhrases (spell (" " ++ o.name ++ " ") ++ ls) =
      (.join o :: (readPhrases ls).1, (readPhrases ls).2) := by
  have hopen : expect "(" (spell (" " ++ o.name ++ " ") ++ ls) = none :=
    expect_spell_of_clash (by cases o <;> decide) ls
  have hclose : expect ")" (spell (" " ++ o.name ++ " ") ++ ls) = none :=
    expect_spell_of_clash (by cases o <;> decide) ls
  refine readPhrases_of_readPhrase ?_ (by cases o <;> simp [spell, Combinator.name] <;> omega)
  rw [readPhrase, hopen, hclose]
  cases o with
  | and =>
    have hand : expect " AND " (spell (" " ++ Combinator.and.name ++ " ") ++ ls) = some ls :=
      expect_spell " AND " ls
    rw [hand]
  | or =>
    have hand : expect " AND " (spell (" " ++ Combinator.or.name ++ " ") ++ ls) = none :=
      expect_spell_of_clash rfl ls
    have hor : expect " OR " (spell (" " ++ Combinator.or.name ++ " ") ++ ls) = some ls :=
      expect_spell " OR " ls
    rw [hand, hor]

/-- The first lexeme of a comparison. -/
theorem lexemes_tokens_cases (d : Dialect) (c : Comparison) (n : Nat) (ls : List Lexeme) :
    (∃ rest, Token.lexemes d n c.tokens ++ ls = .name c.column :: rest) ∨
      ∃ s ∈ ["NOT (", "1=0", "1=1"], ∃ rest,
        Token.lexemes d n c.tokens ++ ls = spell s ++ rest := by
  cases hneg : c.negated with
  | true =>
    exact Or.inr ⟨"NOT (", by simp, _, by simp [Comparison.tokens, hneg, Token.lexemes]; rfl⟩
  | false =>
    have ht : c.tokens = c.plainTokens := by simp [Comparison.tokens, hneg]
    rw [ht]
    rcases lexemes_plainTokens_cases d c n ls with h | ⟨s, hs, h⟩
    · exact Or.inl h
    · exact Or.inr ⟨s, List.mem_cons_of_mem _ hs, h⟩

/-- Where a comparison stands, a leaf is read. -/
theorem readPhrase_tokens (d : Dialect) (c : Comparison) (n : Nat) (ls : List Lexeme) :
    readPhrase (Token.lexemes d n c.tokens ++ ls) =
      (readLeaf (Token.lexemes d n c.tokens ++ ls)).map fun p => (.operand p.1, p.2) := by
  have hnone : ∀ s ∈ ["(", ")", " AND ", " OR "],
      expect s (Token.lexemes d n c.tokens ++ ls) = none := by
    intro s hs
    have hne : ∀ s ∈ ["(", ")", " AND ", " OR "], s.toList ≠ [] := by decide
    have hclash : ∀ s ∈ ["(", ")", " AND ", " OR "], ∀ t ∈ ["NOT (", "1=0", "1=1"],
        clash s t = true := by decide
    rcases lexemes_tokens_cases d c n ls with ⟨rest, h⟩ | ⟨t, ht, rest, h⟩
    · rw [h]
      exact expect_cons_of_ne_char (hne s hs) (by simp) rest
    · rw [h]
      exact expect_spell_of_clash (hclash s hs t ht) rest
  rw [readPhrase, hnone "(" (by simp), hnone ")" (by simp), hnone " AND " (by simp),
    hnone " OR " (by simp)]

theorem lexemes_tokens_ne_nil (d : Dialect) (c : Comparison) (n : Nat) :
    Token.lexemes d n c.tokens ≠ [] := by
  intro hnil
  have hne : ∀ t ∈ ["NOT (", "1=0", "1=1"], spell t ≠ [] := by decide
  rcases lexemes_tokens_cases d c n [] with ⟨rest, h⟩ | ⟨t, ht, rest, h⟩
  · rw [hnil] at h
    cases h
  · rw [hnil, List.append_nil] at h
    exact hne t ht (List.append_eq_nil_iff.1 h.symm).1

theorem readPhrases_leaf (d : Dialect) {c : Comparison} (hc : c.WellFormed) (n : Nat)
    (ls : List Lexeme) :
    readPhrases (Token.lexemes d n c.tokens ++ ls) =
      (.operand (.leaf c.negated (c.condition.number n)) :: (readPhrases ls).1,
        (readPhrases ls).2) := by
  refine readPhrases_of_readPhrase ?_ ?_
  · rw [readPhrase_tokens, readLeaf_lexemes d hc, Option.map_some]
  · have hpos := List.length_pos_iff.2 (lexemes_tokens_ne_nil d c n)
    rw [List.length_append]
    omega

/-- Nothing is read of what follows a clause. -/
theorem readPhrases_fresh {ls : List Lexeme} (h : Fresh ls) : readPhrases ls = ([], ls) := by
  have hname : readName ls = none := by
    rcases h with rfl | ⟨rest, rfl⟩ <;> rfl
  have hcond : readCondition ls = none := by
    simp [readCondition, expect_fresh h (s := "1=0") (by decide),
      expect_fresh h (s := "1=1") (by decide), hname]
  have hleaf : readLeaf ls = none := by
    simp [readLeaf, expect_fresh h (s := "NOT (") (by decide), hcond]
  apply readPhrases_of_none
  simp [readPhrase, expect_fresh h (s := "(") (by decide), expect_fresh h (s := ")") (by decide),
    expect_fresh h (s := " AND ") (by decide), expect_fresh h (s := " OR ") (by decide), hleaf]

end Lexeme

namespace Dialect

def parenthesized (p : Bool) (ts : List Token) : List Token :=
  if p then .word "(" :: ts ++ [.word ")"] else ts

def criteriaTokens (d : Dialect) : Criteria → List Token
  | .leaf c => c.tokens
  | .combine l o r =>
    parenthesized (d.strength l < d.precedence o) (d.criteriaTokens l) ++
      .word (" " ++ o.name ++ " ") ::
        parenthesized (d.strength r ≤ d.precedence o) (d.criteriaTokens r)

theorem parenthesizedIf_ofTokens (p : Bool) (ts : List Token) :
    Script.parenthesizedIf p (.ofTokens ts) = .ofTokens (parenthesized p ts) := by
  cases p <;> rfl

theorem criteriaScript_eq {d : Dialect} {c : Criteria}
    (h : ∀ l ∈ c.leaves, d.supports l.operator = true) :
    d.criteriaScript c = .ofTokens (d.criteriaTokens c) := by
  induction c with
  | leaf c =>
    have hc : d.supports c.operator = true := h c (by simp)
    rw [criteriaScript, comparisonScript, if_pos hc]
    rfl
  | combine l o r hl hr =>
    have hl' := hl fun x hx => h x (by simp [hx])
    have hr' := hr fun x hx => h x (by simp [hx])
    rw [criteriaScript, hl', hr', parenthesizedIf_ofTokens, parenthesizedIf_ofTokens]
    simp [criteriaTokens, Script.append_def, Script.append, Script.ofTokens, Script.word]

theorem parameters_parenthesized (p : Bool) (ts : List Token) :
    Token.parameters (parenthesized p ts) = Token.parameters ts := by
  cases p <;> simp [parenthesized, Token.parameters]

end Dialect

theorem parameters_parameterList (vs : List Value) :
    Token.parameters (parameterList vs) = vs := by
  have h := Token.parameters_commaSeparated (fun v => [Token.parameter v]) vs
  have hv : ∀ v, Token.parameters [.parameter v] = [v] := fun _ => rfl
  simp only [hv, List.flatMap_singleton'] at h
  exact h

theorem Comparison.parameters_plainTokens {c : Comparison} (hc : c.WellFormed) :
    Token.parameters c.plainTokens = c.operands := by
  obtain ⟨column, o, vs, negated⟩ := c
  cases o with
  | isNull | isNotNull =>
    obtain rfl : vs = [] := List.length_eq_zero_iff.1 hc
    rfl
  | isIn | notIn =>
    cases vs with
    | nil => rfl
    | cons v vs =>
      simp [plainTokens, Operator.arity, Token.parameters, parameters_parameterList]
  | equal | notEqual | greater | greaterEqual | less | lessEqual | like | notLike | ilike =>
    simp [plainTokens, Operator.arity, Token.parameters, parameters_parameterList]

theorem Comparison.parameters_tokens {c : Comparison} (hc : c.WellFormed) :
    Token.parameters c.tokens = c.operands := by
  cases hneg : c.negated with
  | false => simp [tokens, hneg, parameters_plainTokens hc]
  | true => simp [tokens, hneg, Token.parameters, parameters_plainTokens hc]

namespace Dialect

theorem parameters_criteriaTokens (d : Dialect) {c : Criteria} (hc : c.WellFormed) :
    Token.parameters (d.criteriaTokens c) = c.literals := by
  induction c with
  | leaf c =>
    rw [criteriaTokens, Comparison.parameters_tokens (hc c (by simp)), Criteria.literals_leaf]
  | combine l o r hl hr =>
    have hl' := hl fun x hx => hc x (by simp [hx])
    have hr' := hr fun x hx => hc x (by simp [hx])
    simp [criteriaTokens, Token.parameters, parameters_parenthesized, hl', hr']

theorem tightness_number_predicate (d : Dialect) (c : Criteria) (n : Nat) :
    d.tightness (c.predicate.number n) = d.strength c := by
  cases c <;> rfl

/-- The phrases of combined criteria, told by the criteria. -/
theorem phrases_number_combine (d : Dialect) (l : Criteria) (o : Combinator) (r : Criteria)
    (n : Nat) :
    d.phrases ((Criteria.combine l o r).predicate.number n) =
      grouped (d.strength l < d.precedence o) (d.phrases (l.predicate.number n)) ++
        .join o :: grouped (d.strength r ≤ d.precedence o)
          (d.phrases (r.predicate.number (n + l.literals.length))) := by
  simp [Criteria.predicate, Predicate.number, phrases, tightness_number_predicate,
    Criteria.operands_predicate]

theorem readPhrases_parenthesized {d : Dialect} {n : Nat} {ts : List Token} {xs : List Phrase}
    (h : ∀ ls, Lexeme.readPhrases (Token.lexemes d n ts ++ ls) =
      (xs ++ (Lexeme.readPhrases ls).1, (Lexeme.readPhrases ls).2)) (p : Bool)
    (ls : List Lexeme) :
    Lexeme.readPhrases (Token.lexemes d n (parenthesized p ts) ++ ls) =
      (grouped p xs ++ (Lexeme.readPhrases ls).1, (Lexeme.readPhrases ls).2) := by
  cases p with
  | false => exact h ls
  | true =>
    have hl : Token.lexemes d n (parenthesized true ts) ++ ls =
        spell "(" ++ (Token.lexemes d n ts ++ (spell ")" ++ ls)) := by
      simp [parenthesized, Token.lexemes, Token.lexemes_append]
    rw [hl, Lexeme.readPhrases_opening, h, Lexeme.readPhrases_closing]
    simp [grouped]

/-- The tokens of criteria are read as the phrases of their predicate, and what follows them
is read on. -/
theorem readPhrases_lexemes (d : Dialect) {c : Criteria} (hc : c.WellFormed) (n : Nat)
    (ls : List Lexeme) :
    Lexeme.readPhrases (Token.lexemes d n (d.criteriaTokens c) ++ ls) =
      (d.phrases (c.predicate.number n) ++ (Lexeme.readPhrases ls).1,
        (Lexeme.readPhrases ls).2) := by
  induction c generalizing n ls with
  | leaf c => exact Lexeme.readPhrases_leaf d (hc c (by simp)) n ls
  | combine l o r hl hr =>
    have hl' := hl (fun x hx => hc x (by simp [hx])) n
    have hr' := hr (fun x hx => hc x (by simp [hx])) (n + l.literals.length)
    have hparams := d.parameters_criteriaTokens (c := l) fun x hx => hc x (by simp [hx])
    have hlex : Token.lexemes d n (d.criteriaTokens (.combine l o r)) ++ ls =
        Token.lexemes d n (parenthesized (d.strength l < d.precedence o) (d.criteriaTokens l)) ++
          (spell (" " ++ o.name ++ " ") ++
            (Token.lexemes d (n + l.literals.length)
              (parenthesized (d.strength r ≤ d.precedence o) (d.criteriaTokens r)) ++ ls)) := by
      simp [criteriaTokens, Token.lexemes, Token.lexemes_append, parameters_parenthesized, hparams]
    rw [hlex, readPhrases_parenthesized hl', Lexeme.readPhrases_join,
      readPhrases_parenthesized hr', phrases_number_combine]
    simp

theorem readPredicate_lexemes (d : Dialect) {c : Criteria} (hc : c.WellFormed) (n : Nat)
    {ls : List Lexeme} (hl : Lexeme.Fresh ls) :
    d.readPredicate (Token.lexemes d n (d.criteriaTokens c) ++ ls) =
      some (c.predicate.number n, ls) := by
  rw [readPredicate, d.readPhrases_lexemes hc, Lexeme.readPhrases_fresh hl, List.append_nil,
    group_phrases]
  rfl

end Dialect

theorem Operator.isPlainText_symbol (o : Operator) : isPlainText o.symbol = true := by
  cases o <;> decide

theorem apart_parameterList (vs : List Value) {ts : List Token} (hb : Token.breaks ts = true)
    (ht : Token.Apart ts) : Token.Apart (parameterList vs ++ ts) := by
  have hv : ∀ (v : Value) ts, Token.breaks ts = true → Token.Apart ts →
      Token.Apart ([.parameter v] ++ ts) := fun _ _ hb ht => ⟨hb, ht⟩
  exact Token.apart_commaSeparated (by simp) hv vs hb ht

namespace Comparison

theorem apart_plainTokens (c : Comparison) {ts : List Token} (hb : Token.breaks ts = true)
    (ht : Token.Apart ts) : Token.Apart (c.plainTokens ++ ts) := by
  have hlead : ∀ o : Operator, ∀ us, Token.Apart us →
      Token.Apart ([.name c.column, .word " ", .word o.symbol] ++ us) := fun o us hu =>
    ⟨rfl, rfl, o.isPlainText_symbol, hu⟩
  rw [plainTokens]
  split
  · exact ⟨rfl, ht⟩
  · exact ⟨rfl, ht⟩
  · rw [List.append_assoc]
    refine hlead _ _ ?_
    split
    · exact ht
    · exact ⟨rfl, apart_parameterList _ hb ht⟩
    · rw [List.append_assoc, List.cons_append]
      exact ⟨rfl, apart_parameterList _ rfl ⟨rfl, ht⟩⟩

theorem apart_tokens (c : Comparison) {ts : List Token} (hb : Token.breaks ts = true)
    (ht : Token.Apart ts) : Token.Apart (c.tokens ++ ts) := by
  cases hneg : c.negated with
  | false => simpa [tokens, hneg] using c.apart_plainTokens hb ht
  | true =>
    have happ : c.tokens ++ ts = .word "NOT (" :: (c.plainTokens ++ .word ")" :: ts) := by
      simp [tokens, hneg]
    rw [happ]
    exact ⟨rfl, c.apart_plainTokens rfl ⟨rfl, ht⟩⟩

end Comparison

namespace Dialect

theorem apart_parenthesized {us : List Token}
    (h : ∀ ts, Token.breaks ts = true → Token.Apart ts → Token.Apart (us ++ ts)) (p : Bool)
    {ts : List Token} (hb : Token.breaks ts = true) (ht : Token.Apart ts) :
    Token.Apart (parenthesized p us ++ ts) := by
  cases p with
  | false => exact h ts hb ht
  | true =>
    have happ : parenthesized true us ++ ts = .word "(" :: (us ++ .word ")" :: ts) := by
      simp [parenthesized]
    rw [happ]
    exact ⟨rfl, h _ rfl ⟨rfl, ht⟩⟩

theorem isPlainText_join (o : Combinator) : isPlainText (" " ++ o.name ++ " ") = true := by
  cases o <;> decide

theorem breaks_join (o : Combinator) (ts : List Token) :
    Token.breaks (.word (" " ++ o.name ++ " ") :: ts) = true := by
  cases o <;> rfl

theorem apart_criteriaTokens (d : Dialect) (c : Criteria) {ts : List Token}
    (hb : Token.breaks ts = true) (ht : Token.Apart ts) :
    Token.Apart (d.criteriaTokens c ++ ts) := by
  induction c generalizing ts with
  | leaf c => exact c.apart_tokens hb ht
  | combine l o r hl hr =>
    rw [criteriaTokens, List.append_assoc, List.cons_append]
    exact apart_parenthesized (fun ts hb ht => hl hb ht) _ (breaks_join o _)
      ⟨isPlainText_join o, apart_parenthesized (fun ts hb ht => hr hb ht) _ hb ht⟩

theorem readCriteria_render {d : Dialect} (hd : d.Legible) {c : Criteria} (hc : c.WellFormed)
    (n : Nat) :
    d.readCriteria n (Token.render d n (d.criteriaTokens c)) = some (c.predicate.number n) := by
  have ha : Token.Apart (d.criteriaTokens c ++ []) := d.apart_criteriaTokens c rfl trivial
  have hr : d.readPredicate (Token.lexemes d n (d.criteriaTokens c) ++ []) =
      some (c.predicate.number n, []) := d.readPredicate_lexemes hc n (Or.inl rfl)
  rw [List.append_nil] at ha hr
  rw [readCriteria, Token.lex_render hd n ha, Option.bind_some, hr]

end Dialect

namespace Criteria

/-- What criteria say, with nothing but the places of the operands. -/
def outline (c : Criteria) : Predicate Unit := c.predicate.outline

/-- Criteria extended by one part after another, each joined as a whole. -/
def chain (c : Criteria) (links : List (Combinator × Criteria)) : Criteria :=
  links.foldl (fun c link => .combine c link.1 link.2) c

theorem outline_chain (c : Criteria) (links : List (Combinator × Criteria)) :
    (c.chain links).outline =
      links.foldl (fun p link => .combine p link.1 link.2.outline) c.outline := by
  induction links generalizing c with
  | nil => rfl
  | cons link links ih => exact ih _

/-- A leaf that is finished behind a chain is its next part. -/
theorem finish_of_previous_chain {c : Criteria} {links : List (Combinator × Criteria)}
    {o : Combinator} {p : PendingLeaf} (h : p.previous = some (c.chain links, o))
    (operator : Operator) (operands : List Value) :
    p.finish operator operands =
      c.chain (links ++ [(o, .leaf ⟨p.column, operator, operands, p.negated⟩)]) := by
  simp only [PendingLeaf.finish, h, chain, List.foldl_concat]

end Criteria

/-- The text of criteria is read back as the tree that was built, whatever the precedences of
the dialect; so a chain is read as its left fold, with every part that was joined as a group. -/
theorem outline_readCriteria {d : Dialect} (hd : d.Legible) {c : Criteria} (hc : c.WellFormed)
    (hs : ∀ l ∈ c.leaves, d.supports l.operator = true) (n : Nat) :
    (d.criteriaScript c).failure = none ∧
      (d.readCriteria n (Token.render d n (d.criteriaScript c).tokens)).map Predicate.outline =
        some c.outline ∧
      ∀ first links, c = Criteria.chain first links →
        (d.readCriteria n (Token.render d n (d.criteriaScript c).tokens)).map Predicate.outline =
          some (links.foldl (fun p link => .combine p link.1 link.2.outline) first.outline) := by
  have hscript := Dialect.criteriaScript_eq hs
  have hread : (d.readCriteria n (Token.render d n (d.criteriaScript c).tokens)).map
      Predicate.outline = some c.outline := by
    rw [hscript]
    simp [Script.ofTokens, Dialect.readCriteria_render hd hc, Criteria.outline]
  refine ⟨by rw [hscript]; rfl, hread, ?_⟩
  rintro first links rfl
  rw [hread, Criteria.outline_chain]

/-- A dialect with numbered marks in which both combinators bind as tightly as the other. -/
def Dialect.level : Dialect :=
  { Dialect.generic with
    name := "level"
    marker := .numbered ":"
    andPrecedence := 5
    orPrecedence := 5 }

theorem Dialect.legible_level : Dialect.level.Legible :=
  legible_of_usual (by decide) (by decide) (by decide)

def twoSided : Criteria :=
  .and (.or (.leaf ⟨"a", .equal, [.null], false⟩) (.leaf ⟨"b", .isIn, [], true⟩))
    (.or (.leaf ⟨"c", .isNull, [], false⟩) (.leaf ⟨"x\") OR (", .less, [.null], false⟩))

set_option maxRecDepth 20000 in
theorem outline_readCriteria_twoSided :
    (Dialect.level.readCriteria 0
      "\"a\" = :1 OR NOT (1=0) AND (\"c\" IS NULL OR \"x\"\") OR (\" < :2)").map Predicate.outline =
        some twoSided.outline := by
  have hw : twoSided.WellFormed := by
    simp [Criteria.WellFormed, twoSided, Criteria.and, Criteria.or, Comparison.WellFormed,
      Operator.arity, Arity.Admits]
  have hs : ∀ l ∈ twoSided.leaves, Dialect.level.supports l.operator = true := by
    simp [twoSided, Criteria.and, Criteria.or]
    decide
  have htext : Token.render .level 0 (Dialect.level.criteriaScript twoSided).tokens =
      "\"a\" = :1 OR NOT (1=0) AND (\"c\" IS NULL OR \"x\"\") OR (\" < :2)" := by
    rfl
  rw [← htext]
  exact (outline_readCriteria Dialect.legible_level hw hs 0).2.1

end Quarry
