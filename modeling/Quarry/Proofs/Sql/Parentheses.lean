import Quarry.Proofs.Sql.CriteriaText
import Quarry.Proofs.Sql.Grouping

/-!
# No pair of parentheses is redundant

The parentheses that group criteria are tokens of their own. Where a matching pair of them is left
out of the tokens, one side of a combination is written without its group (`Dialect.Unwraps`). What
is left is still an expression, but with one group less, and so it is read as other criteria
(`Dialect.parentheses_needed`).
-/

namespace Quarry

namespace Token

/-- How many parentheses a token opens, less those that it closes. Those inside of a name do not
count. -/
def nesting : Token → Int
  | word s => s.toList.count '(' - s.toList.count ')'
  | name _ | parameter _ | missing => 0

def depth : List Token → Int
  | [] => 0
  | t :: ts => nesting t + depth ts

/-- All parentheses that are opened are closed, and none before it has been opened. -/
def Balanced (ts : List Token) : Prop := depth ts = 0 ∧ ∀ us vs, ts = us ++ vs → 0 ≤ depth us

theorem depth_cons (t : Token) (ts : List Token) : depth (t :: ts) = nesting t + depth ts := rfl

theorem depth_append (ts us : List Token) : depth (ts ++ us) = depth ts + depth us := by
  induction ts with
  | nil => exact (Int.zero_add _).symm
  | cons t ts ih =>
    rw [List.cons_append, depth_cons, depth_cons, ih]
    omega

theorem nesting_opening : nesting (.word "(") = 1 := by decide

theorem nesting_closing : nesting (.word ")") = -1 := by decide

theorem nesting_symbol (o : Operator) : nesting (.word o.symbol) = 0 := by
  cases o <;> rfl

theorem nesting_join (o : Combinator) : nesting (.word (" " ++ o.name ++ " ")) = 0 := by
  cases o <;> decide

variable {ts us a m b : List Token} {t : Token}

theorem balanced_nil : Balanced [] := by
  refine ⟨rfl, fun us vs h => ?_⟩
  obtain ⟨rfl, -⟩ := List.append_eq_nil_iff.1 h.symm
  exact Int.le_refl 0

theorem Balanced.append (hts : Balanced ts) (hus : Balanced us) : Balanced (ts ++ us) := by
  refine ⟨by rw [depth_append, hts.1, hus.1]; rfl, fun vs ws h => ?_⟩
  rcases List.append_eq_append_iff.1 h with ⟨as, rfl, has⟩ | ⟨as, has, -⟩
  · have hnonneg := hus.2 as ws has
    rw [depth_append, hts.1]
    omega
  · exact hts.2 vs as has

theorem balanced_singleton (ht : nesting t = 0) : Balanced [t] := by
  refine ⟨by rw [depth_cons, ht]; rfl, fun us vs h => ?_⟩
  cases us with
  | nil => exact Int.le_refl 0
  | cons u us =>
    obtain ⟨rfl, hrest⟩ := List.cons.inj h
    obtain ⟨rfl, -⟩ := List.append_eq_nil_iff.1 hrest.symm
    rw [depth_cons, ht]
    exact Int.le_refl 0

theorem balanced_of_forall (h : ∀ t ∈ ts, nesting t = 0) : Balanced ts := by
  induction ts with
  | nil => exact balanced_nil
  | cons t ts ih =>
    obtain ⟨ht, hts⟩ := List.forall_mem_cons.1 h
    exact (balanced_singleton ht).append (ih hts)

theorem Balanced.wrap (hts : Balanced ts) {s : String} (hs : nesting (.word s) = 1) :
    Balanced (.word s :: ts ++ [.word ")"]) := by
  refine ⟨?_, fun us vs h => ?_⟩
  · have hclosing : depth [.word ")"] = -1 := nesting_closing
    rw [List.cons_append, depth_cons, depth_append, hs, hts.1, hclosing]
    rfl
  · cases us with
    | nil => exact Int.le_refl 0
    | cons u us =>
      obtain ⟨rfl, hrest⟩ := List.cons.inj h
      rw [depth_cons, hs]
      rcases List.append_eq_append_iff.1 hrest with ⟨as, rfl, has⟩ | ⟨as, has, -⟩
      · -- only the last parenthesis may be closed in `as`
        have hnonneg : -1 ≤ depth as := by
          cases as with
          | nil => decide
          | cons x as =>
            obtain ⟨rfl, hnil⟩ := List.cons.inj has
            obtain ⟨rfl, -⟩ := List.append_eq_nil_iff.1 hnil.symm
            decide
        rw [depth_append, hts.1]
        omega
      · have hnonneg := hts.2 us as has
        omega

/-- A group that is opened in balanced tokens is closed in them. -/
theorem Balanced.closed (h : Balanced (a ++ .word "(" :: us)) : ¬ 0 ≤ depth us := by
  intro hus
  have ha := h.2 a _ rfl
  have hzero := h.1
  rw [depth_append, depth_cons, nesting_opening] at hzero
  omega

/-- A pair of parentheses stands on one side of a token outside of all groups. -/
theorem pair_of_append (hts : Balanced ts) (hm : Balanced m) (ht : t ≠ .word "(")
    (h : ts ++ t :: us = a ++ .word "(" :: (m ++ .word ")" :: b)) :
    (∃ b', ts = a ++ .word "(" :: (m ++ .word ")" :: b') ∧ b = b' ++ t :: us) ∨
      ∃ a', us = a' ++ .word "(" :: (m ++ .word ")" :: b) ∧ a = ts ++ t :: a' := by
  rcases List.append_eq_append_iff.1 h with ⟨as, rfl, has⟩ | ⟨as, rfl, has⟩
  · cases as with
    | nil => exact absurd (List.cons.inj has).1 ht
    | cons x as =>
      obtain ⟨rfl, hus⟩ := List.cons.inj has
      exact .inr ⟨as, hus, rfl⟩
  · cases as with
    | nil => exact absurd (List.cons.inj has).1.symm ht
    | cons x as =>
      obtain ⟨rfl, hrest⟩ := List.cons.inj has
      -- were the group closed at `t` or behind it, it would be left open in `ts`
      rcases List.append_eq_append_iff.1 hrest with ⟨bs, rfl, hbs⟩ | ⟨bs, hbs, -⟩
      · cases bs with
        | nil =>
          rw [List.append_nil] at hts
          exact absurd (Int.le_of_eq hm.1.symm) hts.closed
        | cons y bs =>
          obtain ⟨rfl, hb⟩ := List.cons.inj hbs
          exact .inl ⟨bs, rfl, hb⟩
      · exact absurd (hm.2 as bs hbs) hts.closed

/-- The first parenthesis that is closed and was not opened is the one behind balanced tokens. -/
theorem closing_unique (hts : Balanced ts) (hm : Balanced m)
    (h : ts ++ [.word ")"] = m ++ .word ")" :: b) : m = ts ∧ b = [] := by
  rcases List.append_eq_append_iff.1 h with ⟨as, rfl, has⟩ | ⟨as, rfl, has⟩
  · cases as with
    | nil =>
      obtain ⟨-, hb⟩ := List.cons.inj has
      exact ⟨List.append_nil ts, hb.symm⟩
    | cons x as =>
      obtain ⟨-, hnil⟩ := List.cons.inj has
      cases (List.append_eq_nil_iff.1 hnil.symm).2
  · cases as with
    | nil =>
      obtain ⟨-, hb⟩ := List.cons.inj has
      exact ⟨(List.append_nil m).symm, hb⟩
    | cons x as =>
      obtain ⟨rfl, -⟩ := List.cons.inj has
      have hnonneg := hts.2 (m ++ [.word ")"]) as (by simp)
      rw [depth_append, hm.1, depth_cons, nesting_closing] at hnonneg
      cases hnonneg

end Token

namespace Dialect

open Token (Balanced)

theorem balanced_parenthesized {ts : List Token} (h : Balanced ts) (p : Bool) :
    Balanced (parenthesized p ts) := by
  cases p with
  | false => exact h
  | true => exact h.wrap Token.nesting_opening

/-- A pair of parentheses in what stands in parentheses is the outer one or one further inside. -/
theorem pair_of_parenthesized {p : Bool} {ts a m b : List Token} (hts : Balanced ts)
    (hm : Balanced m) (h : parenthesized p ts = a ++ .word "(" :: (m ++ .word ")" :: b)) :
    (p = true ∧ a ++ (m ++ b) = ts) ∨
      ∃ a' b', ts = a' ++ .word "(" :: (m ++ .word ")" :: b') ∧
        a ++ (m ++ b) = parenthesized p (a' ++ (m ++ b')) := by
  cases p with
  | false => exact .inr ⟨a, b, h, rfl⟩
  | true =>
    have h : .word "(" :: (ts ++ [.word ")"]) = a ++ .word "(" :: (m ++ .word ")" :: b) := h
    cases a with
    | nil =>
      obtain ⟨rfl, rfl⟩ := Token.closing_unique hts hm (List.cons.inj h).2
      exact .inl ⟨rfl, List.append_nil m⟩
    | cons x a =>
      obtain ⟨rfl, hrest⟩ := List.cons.inj h
      rcases Token.pair_of_append hts hm (by simp) hrest with ⟨b', rfl, rfl⟩ | ⟨a', hnil, -⟩
      · refine .inr ⟨a, b', rfl, ?_⟩
        simp [parenthesized]
      · cases (List.append_eq_nil_iff.1 hnil.symm).2

end Dialect

open Token (Balanced nesting)

theorem mem_parameterList {t : Token} {vs : List Value} (h : t ∈ parameterList vs) :
    t = .word ", " ∨ ∃ v, t = .parameter v := by
  induction vs with
  | nil => cases h
  | cons v vs ih =>
    cases vs with
    | nil => exact .inr ⟨v, List.mem_singleton.1 h⟩
    | cons w vs =>
      rcases List.mem_cons.1 h with rfl | h
      · exact .inr ⟨v, rfl⟩
      rcases List.mem_cons.1 h with rfl | h
      · exact .inl rfl
      · exact ih h

theorem balanced_parameterList (vs : List Value) : Balanced (parameterList vs) := by
  refine Token.balanced_of_forall fun t ht => ?_
  rcases mem_parameterList ht with rfl | ⟨v, rfl⟩
  · decide
  · rfl

theorem opening_not_mem_parameterList (vs : List Value) : .word "(" ∉ parameterList vs := by
  intro h
  rcases mem_parameterList h with h | ⟨v, h⟩
  · simp at h
  · cases h

namespace Comparison

theorem balanced_plainTokens (c : Comparison) : Balanced c.plainTokens := by
  have hspace : nesting (.word " ") = 0 := by decide
  have hlead : ∀ o : Operator, Balanced [.name c.column, .word " ", .word o.symbol] := by
    intro o
    refine Token.balanced_of_forall ?_
    simp only [List.forall_mem_cons]
    exact ⟨rfl, hspace, Token.nesting_symbol o, List.forall_mem_nil _⟩
  rw [plainTokens]
  split
  · exact Token.balanced_singleton (by decide)
  · exact Token.balanced_singleton (by decide)
  · refine (hlead _).append ?_
    split
    · exact Token.balanced_nil
    · exact (Token.balanced_singleton hspace).append (balanced_parameterList _)
    · exact (balanced_parameterList _).wrap (by decide)

theorem balanced_tokens (c : Comparison) : Balanced c.tokens := by
  rw [tokens]
  split
  · exact c.balanced_plainTokens.wrap (by decide)
  · exact c.balanced_plainTokens

theorem opening_not_mem_plainTokens (c : Comparison) : .word "(" ∉ c.plainTokens := by
  have hsymbol : ∀ o : Operator, "(" ≠ o.symbol := by
    intro o
    cases o <;> decide
  intro h
  rw [plainTokens] at h
  split at h
  · simp at h
  · simp at h
  · rcases List.mem_append.1 h with h | h
    · simp [hsymbol] at h
    · split at h
      · cases h
      · simp [opening_not_mem_parameterList] at h
      · simp [opening_not_mem_parameterList] at h

theorem opening_not_mem_tokens (c : Comparison) : .word "(" ∉ c.tokens := by
  rw [tokens]
  split
  · simp [c.opening_not_mem_plainTokens]
  · exact c.opening_not_mem_plainTokens

end Comparison

namespace Dialect

open Phrase (Expression openings)

theorem balanced_criteriaTokens (d : Dialect) (c : Criteria) : Balanced (d.criteriaTokens c) := by
  induction c with
  | leaf c => exact c.balanced_tokens
  | combine l o r hl hr =>
    have hjoin : Balanced [.word (" " ++ o.name ++ " ")] :=
      Token.balanced_singleton (Token.nesting_join o)
    exact (balanced_parenthesized hl _).append (hjoin.append (balanced_parenthesized hr _))

/-- The tokens are those of the criteria, in parentheses if `p` holds, but for one pair of them. -/
inductive Unwraps (d : Dialect) : Bool → Criteria → List Token → Prop
  | outer (c : Criteria) : Unwraps d true c (d.criteriaTokens c)
  | left {l : Criteria} {o : Combinator} {ts : List Token}
    (h : Unwraps d (d.strength l < d.precedence o) l ts) (r : Criteria) (p : Bool) :
    Unwraps d p (.combine l o r) (parenthesized p (ts ++ .word (" " ++ o.name ++ " ") ::
      parenthesized (d.strength r ≤ d.precedence o) (d.criteriaTokens r)))
  | right {r : Criteria} {o : Combinator} {ts : List Token} (l : Criteria)
    (h : Unwraps d (d.strength r ≤ d.precedence o) r ts) (p : Bool) :
    Unwraps d p (.combine l o r)
      (parenthesized p (parenthesized (d.strength l < d.precedence o) (d.criteriaTokens l) ++
        .word (" " ++ o.name ++ " ") :: ts))

variable {d : Dialect} {c : Criteria} {p : Bool} {n : Nat} {ts us a m b : List Token}
  {xs ys : List Phrase}

/-- Wherever a matching pair stands, it is the group of one side. -/
theorem unwraps_of_pair (hm : Balanced m)
    (h : parenthesized p (d.criteriaTokens c) = a ++ .word "(" :: (m ++ .word ")" :: b)) :
    d.Unwraps p c (a ++ (m ++ b)) := by
  induction c generalizing p a b with
  | leaf c =>
    rcases pair_of_parenthesized c.balanced_tokens hm h with ⟨rfl, hself⟩ | ⟨a', b', hc, -⟩
    · rw [hself]
      exact .outer (.leaf c)
    · refine absurd ?_ c.opening_not_mem_tokens
      rw [hc]
      simp
  | combine l o r hl hr =>
    have hjoin : Token.word (" " ++ o.name ++ " ") ≠ .word "(" := by
      cases o <;> simp [Combinator.name]
    rcases pair_of_parenthesized (d.balanced_criteriaTokens _) hm h with
      ⟨rfl, hself⟩ | ⟨a', b', hc, hrest⟩
    · rw [hself]
      exact .outer (.combine l o r)
    · have hbalanced := balanced_parenthesized (d.balanced_criteriaTokens l)
        (d.strength l < d.precedence o)
      rw [hrest]
      rcases Token.pair_of_append hbalanced hm hjoin hc with ⟨b'', hleft, rfl⟩ | ⟨a'', hright, rfl⟩
      · have hts := Unwraps.left (hl hleft) r p
        simpa using hts
      · have hts := Unwraps.right l (hr hright) p
        simpa using hts

theorem Unwraps.parameters (h : d.Unwraps p c ts) :
    Token.parameters ts = Token.parameters (d.criteriaTokens c) := by
  induction h with
  | outer c => rfl
  | left h r p ih | right l h p ih =>
    simp [criteriaTokens, parameters_parenthesized, Token.parameters, ih]

theorem Unwraps.apart (h : d.Unwraps p c ts) (hb : Token.breaks us = true) (hus : Token.Apart us) :
    Token.Apart (ts ++ us) := by
  induction h generalizing us with
  | outer c => exact d.apart_criteriaTokens c hb hus
  | @left l o ts h r p ih =>
    refine apart_parenthesized (fun us hb hus => ?_) p hb hus
    rw [List.append_assoc, List.cons_append]
    exact ih (breaks_join o _) ⟨isPlainText_join o,
      apart_parenthesized (fun _ hb hus => d.apart_criteriaTokens r hb hus) _ hb hus⟩
  | @right r o ts l h p ih =>
    refine apart_parenthesized (fun us hb hus => ?_) p hb hus
    rw [List.append_assoc, List.cons_append]
    exact apart_parenthesized (fun _ hb hus => d.apart_criteriaTokens l hb hus) _ (breaks_join o _)
      ⟨isPlainText_join o, ih hb hus⟩

def ReadsAs (d : Dialect) (n : Nat) (ts : List Token) (xs : List Phrase) : Prop :=
  ∀ ls, Lexeme.readPhrases (Token.lexemes d n ts ++ ls) =
    (xs ++ (Lexeme.readPhrases ls).1, (Lexeme.readPhrases ls).2)

theorem ReadsAs.join (h : d.ReadsAs n ts xs) (o : Combinator)
    (h' : d.ReadsAs (n + (Token.parameters ts).length) us ys) :
    d.ReadsAs n (ts ++ .word (" " ++ o.name ++ " ") :: us) (xs ++ .join o :: ys) := by
  intro ls
  have hlex : Token.lexemes d n (ts ++ .word (" " ++ o.name ++ " ") :: us) ++ ls =
      Token.lexemes d n ts ++ (Lexeme.spell (" " ++ o.name ++ " ") ++
        (Token.lexemes d (n + (Token.parameters ts).length) us ++ ls)) := by
    simp [Token.lexemes, Token.lexemes_append]
  rw [hlex, h, Lexeme.readPhrases_join, h']
  simp

theorem readsAs_parenthesized (h : d.ReadsAs n ts xs) (p : Bool) :
    d.ReadsAs n (parenthesized p ts) (grouped p xs) :=
  readPhrases_parenthesized h p

/-- Without one pair of parentheses the tokens are read as an expression with one group less. -/
theorem Unwraps.exists_reads (h : d.Unwraps p c ts) (hc : c.WellFormed) (n : Nat) :
    ∃ xs, d.ReadsAs n ts xs ∧ Expression xs ∧
      openings xs + 1 = openings (grouped p (d.phrases (c.predicate.number n))) := by
  induction h generalizing n with
  | outer c =>
    refine ⟨_, d.readPhrases_lexemes hc n, d.expression_phrases _, ?_⟩
    rw [openings_grouped]
    rfl
  | @left l o ts h r p ih =>
    obtain ⟨hl, hr⟩ := Criteria.wellFormed_combine_iff.1 hc
    obtain ⟨xs, hread, hexpression, hcount⟩ := ih hl n
    have hparams : (Token.parameters ts).length = l.literals.length := by
      rw [h.parameters, d.parameters_criteriaTokens hl]
    have hreadRight : d.ReadsAs (n + (Token.parameters ts).length) _ _ :=
      readsAs_parenthesized (d.readPhrases_lexemes hr _) (d.strength r ≤ d.precedence o)
    refine ⟨_, readsAs_parenthesized (hread.join o hreadRight) p, ?_, ?_⟩
    · refine expression_grouped (.join hexpression o ?_) p
      exact expression_grouped (d.expression_phrases _) _
    · simp only [phrases_number_combine, openings_grouped, Phrase.openings_append,
        Phrase.openings_join, hparams] at hcount ⊢
      omega
  | @right r o ts l h p ih =>
    obtain ⟨hl, hr⟩ := Criteria.wellFormed_combine_iff.1 hc
    obtain ⟨xs, hread, hexpression, hcount⟩ := ih hr (n + l.literals.length)
    have hparams : (Token.parameters (parenthesized (d.strength l < d.precedence o)
        (d.criteriaTokens l))).length = l.literals.length := by
      rw [parameters_parenthesized, d.parameters_criteriaTokens hl]
    have hreadLeft := readsAs_parenthesized (d.readPhrases_lexemes hl n)
      (d.strength l < d.precedence o)
    rw [← hparams] at hread
    refine ⟨_, readsAs_parenthesized (hreadLeft.join o hread) p, ?_, ?_⟩
    · refine expression_grouped (.join ?_ o hexpression) p
      exact expression_grouped (d.expression_phrases _) _
    · simp only [phrases_number_combine, openings_grouped, Phrase.openings_append,
        Phrase.openings_join] at hcount ⊢
      omega

theorem ReadsAs.readPredicate (h : d.ReadsAs n ts xs) {q : Predicate Nat}
    (hq : d.group xs = some q) : d.readPredicate (Token.lexemes d n ts) = some (q, []) := by
  have hphrases := h []
  rw [Lexeme.readPhrases_fresh (.inl rfl), List.append_nil, List.append_nil] at hphrases
  rw [Dialect.readPredicate, hphrases, hq]
  rfl

theorem readCriteria_of_readPredicate (hd : d.Legible) (ha : Token.Apart ts) {q : Predicate Nat}
    (h : d.readPredicate (Token.lexemes d n ts) = some (q, [])) :
    d.readCriteria n (Token.render d n ts) = some q := by
  rw [readCriteria, Token.lex_render hd n ha, Option.bind_some, h]

/-- Let the combinators bind less tightly than leaves. Where any matching pair of the parentheses
that group criteria is left out of their text, the text is read as other criteria. -/
theorem parentheses_needed (hleaf : ∀ o, d.precedence o < leafPrecedence) (hc : c.WellFormed)
    (hs : ∀ l ∈ c.leaves, d.supports l.operator = true) (n : Nat) (hm : Balanced m)
    (h : (d.criteriaScript c).tokens = a ++ .word "(" :: (m ++ .word ")" :: b)) :
    ∃ inner after q,
      inner = Token.render d (n + (Token.parameters a).length) m ∧
      after = Token.render d (n + (Token.parameters (a ++ m)).length) b ∧
      Token.render d n (d.criteriaScript c).tokens =
        Token.render d n a ++ "(" ++ inner ++ ")" ++ after ∧
      d.readPredicate (Token.lexemes d n (a ++ (m ++ b))) = some (q, []) ∧
      (d.Legible → d.readCriteria n (Token.render d n a ++ inner ++ after) = some q) ∧
      q.outline ≠ c.outline := by
  have htokens := congrArg Script.tokens (criteriaScript_eq hs)
  have hunwraps : d.Unwraps false c (a ++ (m ++ b)) := unwraps_of_pair hm (htokens.symm.trans h)
  obtain ⟨xs, hreads, hexpression, hcount⟩ := hunwraps.exists_reads hc n
  have hfewer : openings xs < openings (d.phrases (c.predicate.number n)) := by
    rw [openings_grouped] at hcount
    exact Nat.lt_of_succ_le (Nat.le_of_eq hcount)
  obtain ⟨q, hq, hother⟩ := exists_group_of_openings_lt hleaf hexpression hfewer
  have hread := hreads.readPredicate hq
  refine ⟨_, _, q, rfl, rfl, ?text, hread, fun hd => ?legible, ?other⟩
  case text =>
    rw [h]
    simp [Token.render_append, Token.render, String.append_assoc, Nat.add_assoc]
  case legible =>
    have hapart : Token.Apart (a ++ (m ++ b)) := by
      have hnothing : Token.Apart (a ++ (m ++ b) ++ []) := hunwraps.apart rfl trivial
      rwa [List.append_nil] at hnothing
    have hwithout : Token.render d n (a ++ (m ++ b)) = Token.render d n a ++
        Token.render d (n + (Token.parameters a).length) m ++
          Token.render d (n + (Token.parameters (a ++ m)).length) b := by
      rw [Token.render_append, Token.render_append, Token.parameters_append, List.length_append,
        Nat.add_assoc, String.append_assoc]
    rw [← hwithout]
    exact readCriteria_of_readPredicate hd hapart hread
  case other =>
    rw [Criteria.outline, ← Predicate.outline_number n c.predicate]
    exact hother

end Dialect

def nestedAlternatives : Criteria :=
  .and (.or (.leaf ⟨"a", .isNull, [], false⟩)
    (.or (.leaf ⟨"b", .isNull, [], false⟩) (.leaf ⟨"c", .isIn, [.null], false⟩)))
    (.leaf ⟨"d", .equal, [.null], true⟩)

set_option maxRecDepth 20000 in
/-- Without the inner pair the alternatives are read from left to right. -/
theorem parentheses_needed_nestedAlternatives :
    Token.render .generic 0 (Dialect.generic.criteriaScript nestedAlternatives).tokens =
        "(\"a\" IS NULL OR (\"b\" IS NULL OR \"c\" IN (?))) AND NOT (\"d\" = ?)" ∧
      ∃ q, Dialect.generic.readCriteria 0
          "(\"a\" IS NULL OR \"b\" IS NULL OR \"c\" IN (?)) AND NOT (\"d\" = ?)" = some q ∧
        q.outline ≠ nestedAlternatives.outline := by
  have hleaf : ∀ o, Dialect.generic.precedence o < leafPrecedence := by
    intro o
    cases o <;> decide
  have hw : nestedAlternatives.WellFormed := by
    simp [Criteria.WellFormed, nestedAlternatives, Criteria.and, Criteria.or,
      Comparison.WellFormed, Operator.arity, Arity.Admits]
  have hs : ∀ l ∈ nestedAlternatives.leaves, Dialect.generic.supports l.operator = true := by
    simp [nestedAlternatives, Criteria.and, Criteria.or]
    decide
  have htokens : (Dialect.generic.criteriaScript nestedAlternatives).tokens =
      [.word "(", .name "a", .word " ", .word "IS NULL", .word " OR "] ++ .word "(" ::
        (Dialect.generic.criteriaTokens
            (.or (.leaf ⟨"b", .isNull, [], false⟩) (.leaf ⟨"c", .isIn, [.null], false⟩)) ++
          .word ")" :: (.word ")" :: .word " AND " ::
            Dialect.generic.criteriaTokens (.leaf ⟨"d", .equal, [.null], true⟩))) := rfl
  obtain ⟨inner, after, q, rfl, rfl, -, -, hread, hother⟩ :=
    Dialect.parentheses_needed hleaf hw hs 0 (Dialect.generic.balanced_criteriaTokens _) htokens
  exact ⟨rfl, q, hread (Dialect.legible_of_mem (by simp)), hother⟩

end Quarry
