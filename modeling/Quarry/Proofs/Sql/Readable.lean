import Quarry.Proofs.Sql.StatementText

/-!
# Criteria with wrong numbers of operands

Criteria can be made by hand, with leaves whose operands are not as many as their operator
takes. Operands of an operator that takes none are not written, and such a leaf reads as if
it had none. Any other leaf with a wrong number of operands has a text that no reader goes
past; so when the text of an UPDATE can be read, it is that of criteria whose leaves are well
formed (`Statement.read_update`).
-/

namespace Quarry

open Lexeme (expect spell readMark readLeaf readCondition readPhrase readPhrases)

namespace Comparison

/-- The comparison with the operands that are written. -/
def written (c : Comparison) : Comparison :=
  if c.operator.arity = .exactly 0 then { c with operands := [] } else c

theorem written_of_wellFormed {c : Comparison} (h : c.WellFormed) : c.written = c := by
  rw [written]
  split
  · rename_i h0
    have hlen : c.operands.length = 0 := by simpa [WellFormed, h0, Arity.Admits] using h
    rw [← List.length_eq_zero_iff.1 hlen]
  · rfl

theorem tokens_written (c : Comparison) : c.written.tokens = c.tokens := by
  obtain ⟨column, o, vs, negated⟩ := c
  cases o <;> rfl

/-- A leaf that is not well formed as it is written lacks its one operand or has more. -/
theorem cases_of_not_wellFormed {c : Comparison} (h : ¬ c.written.WellFormed) :
    c.operator.arity = .exactly 1 ∧ c.operands.length ≠ 1 := by
  obtain ⟨column, o, vs, negated⟩ := c
  cases o with
  | isNull | isNotNull => exact absurd rfl h
  | isIn | notIn => exact absurd trivial h
  | equal | notEqual | greater | greaterEqual | less | lessEqual | like | notLike | ilike =>
    exact ⟨rfl, h⟩

end Comparison

namespace Criteria

def written : Criteria → Criteria
  | leaf c => leaf c.written
  | combine l o r => combine l.written o r.written

theorem written_of_wellFormed {c : Criteria} (h : c.WellFormed) : c.written = c := by
  induction c with
  | leaf c => rw [written, Comparison.written_of_wellFormed (h c (by simp))]
  | combine l o r hl hr =>
    rw [written, hl fun x hx => h x (by simp [hx]), hr fun x hx => h x (by simp [hx])]

theorem map_written {c : Option Criteria} (h : ∀ x, c = some x → x.WellFormed) :
    c.map written = c := by
  cases c with
  | none => rfl
  | some c => rw [Option.map_some, written_of_wellFormed (h c rfl)]

end Criteria

namespace Dialect

theorem strength_written (d : Dialect) (c : Criteria) : d.strength c.written = d.strength c := by
  cases c <;> rfl

theorem criteriaTokens_written (d : Dialect) (c : Criteria) :
    d.criteriaTokens c.written = d.criteriaTokens c := by
  induction c with
  | leaf c => exact c.tokens_written
  | combine l o r hl hr =>
    simp only [Criteria.written, criteriaTokens, strength_written, hl, hr]

theorem filterTokens_written (d : Dialect) (c : Option Criteria) :
    d.filterTokens (c.map Criteria.written) = d.filterTokens c := by
  cases c with
  | none => rfl
  | some c => exact congrArg (Token.word "\nWHERE " :: ·) (d.criteriaTokens_written c)

end Dialect

namespace Lexeme

theorem readPhrase_comma (ls : List Lexeme) : readPhrase (spell ", " ++ ls) = none := by
  have hnone : ∀ s ∈ ["(", ")", " AND ", " OR ", "NOT (", "1=0", "1=1"],
      expect s (spell ", " ++ ls) = none := by
    intro s hs
    have hclash : ∀ s ∈ ["(", ")", " AND ", " OR ", "NOT (", "1=0", "1=1"],
        clash s ", " = true := by decide
    exact expect_spell_of_clash (hclash s hs) ls
  have hname : readName (spell ", " ++ ls) = none := rfl
  have hleaf : readLeaf (spell ", " ++ ls) = none := by
    simp [readLeaf, readCondition, hnone, hname]
  simp [readPhrase, hnone, hleaf]

/-- Behind the operator there is no operand, or a comma after the first one. -/
theorem readCondition_stops (d : Dialect) {c : Comparison} (ha : c.operator.arity = .exactly 1)
    (hlen : c.operands.length ≠ 1) (n : Nat) {ls : List Lexeme} (hm : readMark ls = none) :
    readCondition (Token.lexemes d n c.plainTokens ++ ls) = none ∨
      ∃ p rest, readCondition (Token.lexemes d n c.plainTokens ++ ls) =
        some (p, spell ", " ++ rest) := by
  have hplain : c.plainTokens = [.name c.column, .word " ", .word c.operator.symbol] ++
      .word " " :: parameterList c.operands := by
    obtain ⟨column, o, vs, negated⟩ := c
    cases o <;> first | rfl | cases ha
  have hlead : spell (" " ++ c.operator.symbol) ++ spell " " = spell c.operator.lead := by
    rw [← spell_append, Operator.lead, ha]
    rfl
  have hlex : Token.lexemes d n c.plainTokens ++ ls = .name c.column :: (spell c.operator.lead ++
      (Token.lexemes d n (parameterList c.operands) ++ ls)) := by
    rw [hplain, lexemes_compare, ← hlead]
    simp [Token.lexemes]
  rw [hlex, readCondition_lead, ha]
  cases hv : c.operands with
  | nil =>
    have hnone : Token.lexemes d n (parameterList []) ++ ls = ls := rfl
    exact .inl (by simp only [hnone, hm, Option.map_none])
  | cons v vs =>
    cases vs with
    | nil => exact absurd (by rw [hv]; rfl) hlen
    | cons w vs => exact .inr ⟨_, _, rfl⟩

theorem readPhrases_leaf_stops (d : Dialect) {c : Comparison} (hc : ¬ c.written.WellFormed)
    (n : Nat) {ls : List Lexeme} (hm : readMark ls = none) :
    (readPhrases (Token.lexemes d n c.tokens ++ ls)).2 ≠ [] := by
  obtain ⟨ha, hlen⟩ := Comparison.cases_of_not_wellFormed hc
  have hne : Token.lexemes d n c.tokens ++ ls ≠ [] := fun h =>
    lexemes_tokens_ne_nil d c n (List.append_eq_nil_iff.1 h).1
  have hleaf : readLeaf (Token.lexemes d n c.tokens ++ ls) = none ∨
      ∃ p rest, readLeaf (Token.lexemes d n c.tokens ++ ls) = some (p, spell ", " ++ rest) := by
    cases hneg : c.negated with
    | false =>
      have ht : c.tokens = c.plainTokens := by simp [Comparison.tokens, hneg]
      rw [ht, readLeaf, expect_not_lexemes]
      rcases readCondition_stops d ha hlen n hm with h | ⟨p, rest, h⟩
      · exact .inl (by simp only [h, Option.map_none])
      · exact .inr ⟨_, rest, by simp only [h, Option.map_some]; rfl⟩
    | true =>
      have hl : Token.lexemes d n c.tokens ++ ls =
          spell "NOT (" ++ (Token.lexemes d n c.plainTokens ++ (spell ")" ++ ls)) := by
        simp [Comparison.tokens, hneg, Token.lexemes, Token.lexemes_append]
      have hclose : ∀ rest, expect ")" (spell ", " ++ rest) = none := expect_spell_of_clash rfl
      have hmark : readMark (spell ")" ++ ls) = none := rfl
      rw [hl, readLeaf, expect_spell]
      rcases readCondition_stops d ha hlen n hmark with h | ⟨p, rest, h⟩
      · exact .inl (by simp [h])
      · exact .inl (by simp [h, hclose])
  -- without its operand the leaf is no phrase; with two it is one, and the comma is none
  rcases hleaf with h | ⟨p, rest, h⟩
  · have hphrase : readPhrase (Token.lexemes d n c.tokens ++ ls) = none := by
      rw [readPhrase_tokens, h, Option.map_none]
    rw [readPhrases_of_none hphrase]
    exact hne
  · have hphrase : readPhrase (Token.lexemes d n c.tokens ++ ls) =
        some (.operand p, spell ", " ++ rest) := by
      rw [readPhrase_tokens, h, Option.map_some]
    have hcomma : spell ", " ++ rest ≠ [] := by simp [spell]
    by_cases hshort : (spell ", " ++ rest).length < (Token.lexemes d n c.tokens ++ ls).length
    · rw [readPhrases_of_readPhrase hphrase hshort, readPhrases_of_none (readPhrase_comma rest)]
      exact hcomma
    · rw [readPhrases, hphrase]
      simp only [if_neg hshort]
      exact hne

end Lexeme

namespace Dialect

theorem readPhrases_parenthesized_stops {d : Dialect} {n : Nat} {ts : List Token}
    (h : ∀ ls, readMark ls = none → (readPhrases (Token.lexemes d n ts ++ ls)).2 ≠ []) (p : Bool)
    {ls : List Lexeme} (hm : readMark ls = none) :
    (readPhrases (Token.lexemes d n (parenthesized p ts) ++ ls)).2 ≠ [] := by
  cases p with
  | false => exact h ls hm
  | true =>
    have hl : Token.lexemes d n (parenthesized true ts) ++ ls =
        spell "(" ++ (Token.lexemes d n ts ++ (spell ")" ++ ls)) := by
      simp [parenthesized, Token.lexemes, Token.lexemes_append]
    rw [hl, Lexeme.readPhrases_opening]
    exact h _ rfl

theorem readPhrases_stops (d : Dialect) {c : Criteria} (hc : ¬ c.written.WellFormed) (n : Nat)
    {ls : List Lexeme} (hm : readMark ls = none) :
    (readPhrases (Token.lexemes d n (d.criteriaTokens c) ++ ls)).2 ≠ [] := by
  induction c generalizing n ls with
  | leaf c =>
    refine Lexeme.readPhrases_leaf_stops d (fun h => hc ?_) n hm
    intro l hl
    rwa [List.mem_singleton.1 hl]
  | combine l o r hl hr =>
    have hlex : Token.lexemes d n (d.criteriaTokens (.combine l o r)) ++ ls =
        Token.lexemes d n (parenthesized (d.strength l < d.precedence o) (d.criteriaTokens l)) ++
          (spell (" " ++ o.name ++ " ") ++
            (Token.lexemes d (n + (Token.parameters (d.criteriaTokens l)).length)
              (parenthesized (d.strength r ≤ d.precedence o) (d.criteriaTokens r)) ++ ls)) := by
      simp [criteriaTokens, Token.lexemes, Token.lexemes_append, parameters_parenthesized]
    rw [hlex]
    -- reading stops inside of the left side, or it reads that and stops inside of the right one
    by_cases hwl : l.written.WellFormed
    · have hwr : ¬ r.written.WellFormed := by
        intro hwr
        refine hc fun x hx => ?_
        rcases List.mem_append.1 hx with hx | hx
        · exact hwl x hx
        · exact hwr x hx
      have hleft := readPhrases_parenthesized (d.readPhrases_lexemes hwl n)
        (decide (d.strength l < d.precedence o))
      rw [criteriaTokens_written] at hleft
      rw [hleft, Lexeme.readPhrases_join]
      exact readPhrases_parenthesized_stops (fun ls hm => hr hwr _ hm) _ hm
    · have hjoin : ∀ rest, readMark (spell (" " ++ o.name ++ " ") ++ rest) = none := by
        intro rest
        cases o <;> rfl
      exact readPhrases_parenthesized_stops (fun ls hm => hl hwl n hm) _ (hjoin _)

/-- A WHERE clause that is read to its end is that of well-formed criteria. -/
theorem wellFormed_of_readFilter (d : Dialect) {c : Option Criteria} {n : Nat}
    {p : Option (Predicate Nat)}
    (h : d.readFilter (Token.lexemes d n (d.filterTokens c) ++ []) = some (p, [])) :
    ∀ l ∈ (c.map Criteria.written).elim [] Criteria.leaves, l.WellFormed := by
  cases c with
  | none => exact fun l hl => by cases hl
  | some c =>
    by_contra hc
    have hlex : Token.lexemes d n (d.filterTokens (some c)) ++ [] =
        spell "\nWHERE " ++ (Token.lexemes d n (d.criteriaTokens c) ++ []) := by
      simp [filterTokens, Token.lexemes]
    simp only [hlex, readFilter, Lexeme.expect_spell, readPredicate, Option.map_map,
      Option.map_eq_some_iff] at h
    obtain ⟨g, -, he⟩ := h
    exact d.readPhrases_stops hc n rfl (congrArg Prod.snd he)

end Dialect

namespace UpdateStatement

def written (s : UpdateStatement) : UpdateStatement :=
  { s with key := s.key.map Criteria.written, criteria := s.criteria.map Criteria.written }

theorem filter_written (s : UpdateStatement) : s.written.filter = s.filter.map Criteria.written := by
  rw [filter, filter, written]
  cases s.key <;> cases s.criteria <;> rfl

theorem tokens_written (d : Dialect) (s : UpdateStatement) :
    d.tokens (.update s.written) = d.tokens (.update s) := by
  rw [Dialect.tokens, Dialect.tokens, filter_written, Dialect.filterTokens_written]
  rfl

end UpdateStatement

/-- Whatever the text of an UPDATE is read as, it is what the written operands say. -/
theorem Statement.read_update {d : Dialect} {s : UpdateStatement} {q : Query} {w : Sentence Nat}
    (hd : d.Legible) (hq : (Statement.update s).compile d = .ok q)
    (hw : d.read q.sql = some w) :
    w.fill q.parameters = (d.sentence (.update s.written)).map some := by
  obtain ⟨-, ha, -, -⟩ := (exists_compile_iff _ d).1 ⟨q, hq⟩
  have ha : s.assignments.entries ≠ [] := ha _ rfl
  obtain rfl := compile_eq_tokens hq
  have hread : d.readSentence (Token.lexemes d 0 (d.tokens (.update s))) = some (w, []) := by
    rw [Dialect.read, Token.lex_render hd 0 (d.apart_tokens _), Option.bind_some] at hw
    split at hw
    · rename_i h
      rw [h, Option.some.inj hw]
    · cases hw
  have hfilter : ∀ l ∈ (Statement.update s.written).leaves, l.WellFormed := by
    rw [Dialect.readSentence_update hd ha, Option.map_eq_some_iff] at hread
    obtain ⟨⟨p, rest⟩, hp, he⟩ := hread
    obtain rfl : rest = [] := congrArg Prod.snd he
    rw [leaves_eq, Statement.filter, UpdateStatement.filter_written]
    exact d.wellFormed_of_readFilter hp
  have hnumber : w = (d.sentence (.update s.written)).number := by
    have h := read_tokens hd (s := .update s.written) (fun a h => by cases h; exact ha) hfilter
    rw [UpdateStatement.tokens_written, hread] at h
    exact congrArg Prod.fst (Option.some.inj h)
  rw [hnumber, ← UpdateStatement.tokens_written, d.parameters_tokens hfilter,
    Sentence.fill_number]

end Quarry
