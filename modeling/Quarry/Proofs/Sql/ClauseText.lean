import Quarry.Proofs.Sql.Sentence

/-!
# Reading clauses

Each clause of a statement shows by its first word whether it is there, and the way of
cutting out pages belongs to the dialect. What a clause writes is read back in front of
everything that may follow it.
-/

namespace Quarry

open Lexeme (expect spell readName readMark readNumber readList Fresh)

namespace Lexeme

def readTable (ls : List Lexeme) : Option (TableName × List Lexeme) := do
  let (first, rest) ← readName ls
  match expect "." rest with
  | none => some (.unqualified first, rest)
  | some rest =>
    let (second, rest) ← readName rest
    some (⟨first, second⟩, rest)

def readProjection (ls : List Lexeme) : Option (List String × List Lexeme) :=
  match expect "*" ls with
  | some rest => some ([], rest)
  | none => readList readName ls

def readSortKey (ls : List Lexeme) : Option (SortKey × List Lexeme) := do
  let (column, rest) ← readName ls
  match expect " ASC" rest with
  | some rest => some (⟨column, .ascending⟩, rest)
  | none => (expect " DESC" rest).map fun rest => (⟨column, .descending⟩, rest)

/-- Read the ORDER BY clause, if there is one; that of a page out of unordered rows orders
nothing. -/
def readOrder (ls : List Lexeme) : Option (List SortKey × List Lexeme) :=
  match expect "\nORDER BY (SELECT NULL)" ls with
  | some rest => some ([], rest)
  | none =>
    match expect "\nORDER BY " ls with
    | some rest => readList readSortKey rest
    | none => some ([], ls)

def readReturning (ls : List Lexeme) : Option (List String × List Lexeme) :=
  match expect "\nRETURNING " ls with
  | some rest => readList readName rest
  | none => some ([], ls)

end Lexeme

def PagingStyle.read (ls : List Lexeme) : PagingStyle → Option (Option (Nat × Nat) × List Lexeme)
  | limitOffset =>
    match expect "\nLIMIT " ls with
    | none => some (none, ls)
    | some rest => do
      let (limit, rest) ← readNumber rest
      match expect " OFFSET " rest with
      | none => some (some (limit, 0), rest)
      | some rest =>
        let (offset, rest) ← readNumber rest
        some (some (limit, offset), rest)
  | limitPair =>
    match expect "\nLIMIT " ls with
    | none => some (none, ls)
    | some rest => do
      let (first, rest) ← readNumber rest
      match expect ", " rest with
      | none => some (some (first, 0), rest)
      | some rest =>
        let (second, rest) ← readNumber rest
        some (some (second, first), rest)
  | fetchNext =>
    match expect "\nOFFSET " ls with
    | none => some (none, ls)
    | some rest => do
      let (offset, rest) ← readNumber rest
      let rest ← expect " ROWS FETCH NEXT " rest
      let (limit, rest) ← readNumber rest
      let rest ← expect " ROWS ONLY" rest
      some (some (limit, offset), rest)

namespace Dialect

variable (d : Dialect)

def readFilter (ls : List Lexeme) : Option (Option (Predicate Nat) × List Lexeme) :=
  match expect "\nWHERE " ls with
  | none => some (none, ls)
  | some rest => (d.readPredicate rest).map fun p => (some p.1, p.2)

def readAssigned (ls : List Lexeme) : Option (Option Nat × List Lexeme) :=
  match readMark ls with
  | some (k, rest) => some (some k, rest)
  | none => (expect d.nullWord ls).map fun rest => (none, rest)

def readEntry (ls : List Lexeme) : Option ((String × Option Nat) × List Lexeme) := do
  let (column, rest) ← readName ls
  let rest ← expect " = " rest
  let (value, rest) ← d.readAssigned rest
  some ((column, value), rest)

end Dialect

namespace Lexeme

theorem readName_lexemes (d : Dialect) (n : Nat) (s : String) (ls : List Lexeme) :
    readName (Token.lexemes d n [.name s] ++ ls) = some (s, ls) := rfl

/-- Elements that are read alike behind all numbers of marks. -/
theorem placed_const {α β : Type} (tokens : α → List Token) (f : α → β) (n : Nat)
    (as : List α) : placed tokens (fun _ a => f a) n as = as.map f := by
  induction as generalizing n with
  | nil => rfl
  | cons a as ih => exact congrArg _ (ih _)

theorem readNames_lexemes {α : Type} (d : Dialect) (f : α → String) (n : Nat) {as : List α}
    (has : as ≠ []) {ls : List Lexeme} (hl : expect ", " ls = none) :
    readList readName
      (Token.lexemes d n (commaSeparated (as.map fun a => [.name (f a)])) ++ ls) =
        some (as.map f, ls) := by
  rw [readList_lexemes (fun n a ls => readName_lexemes d n (f a) ls) (by simp) n has hl,
    placed_const]

theorem readTable_lexemes (d : Dialect) (n : Nat) (t : TableName) {ls : List Lexeme}
    (hl : expect "." ls = none) :
    readTable (Token.lexemes d n t.tokens ++ ls) = some (t, ls) := by
  obtain ⟨schema, name⟩ := t
  by_cases hs : schema.isEmpty = true
  · have he : schema = "" := by simpa using hs
    simp [TableName.tokens, Token.lexemes, readTable, readName, hl, he, TableName.unqualified]
  · simp [TableName.tokens, hs, Token.lexemes, readTable, readName]

theorem readProjection_lexemes (d : Dialect) (n : Nat) (p : Projection) {ls : List Lexeme}
    (hl : expect ", " ls = none) :
    readProjection (Token.lexemes d n p.tokens ++ ls) = some (p.columns, ls) := by
  by_cases hp : p.columns = []
  · have ht : Token.lexemes d n p.tokens ++ ls = spell "*" ++ ls := by
      simp [Projection.tokens, Projection.isAll, hp, Token.lexemes]
    rw [ht, readProjection, expect_spell, hp]
  · have ht : p.tokens = commaSeparated (p.columns.map fun c => [.name c]) := by
      simp [Projection.tokens, Projection.isAll, hp]
    have hstar : expect "*" (Token.lexemes d n p.tokens ++ ls) = none := by
      cases hc : p.columns with
      | nil => exact absurd hc hp
      | cons c cs =>
        rw [ht, hc]
        cases cs <;> exact expect_cons_of_ne_char (by decide) (by simp) _
    rw [readProjection, hstar, ht]
    simpa using readNames_lexemes d id n hp hl

theorem readSortKey_lexemes (d : Dialect) (n : Nat) (k : SortKey) (ls : List Lexeme) :
    readSortKey (Token.lexemes d n [.name k.column, .word k.direction.word] ++ ls) =
      some (k, ls) := by
  obtain ⟨column, direction⟩ := k
  have hclash : expect " ASC" (spell " DESC" ++ ls) = none := expect_spell_of_clash rfl ls
  cases direction with
  | ascending => simp [Token.lexemes, readSortKey, readName, Direction.word]
  | descending => simp [Token.lexemes, readSortKey, readName, Direction.word, hclash]

end Lexeme

@[simp]
theorem TableName.parameters_tokens (t : TableName) : Token.parameters t.tokens = [] := by
  rw [tokens]
  split <;> rfl

@[simp]
theorem Projection.parameters_tokens (p : Projection) : Token.parameters p.tokens = [] := by
  rw [tokens]
  split
  · rfl
  · exact Token.parameters_commaSeparated_of_nil (fun _ => rfl) _

namespace Dialect

def filterTokens (d : Dialect) : Option Criteria → List Token
  | none => []
  | some c => .word "\nWHERE " :: d.criteriaTokens c

theorem filterScript_eq {d : Dialect} {c : Option Criteria}
    (h : ∀ l ∈ c.elim [] Criteria.leaves, d.supports l.operator = true) :
    d.filterScript c = .ofTokens (d.filterTokens c) := by
  cases c with
  | none => rfl
  | some c =>
    rw [filterScript, criteriaScript_eq h]
    rfl

theorem parameters_filterTokens (d : Dialect) {c : Option Criteria}
    (hc : ∀ l ∈ c.elim [] Criteria.leaves, l.WellFormed) :
    Token.parameters (d.filterTokens c) = c.elim [] Criteria.literals := by
  cases c with
  | none => rfl
  | some c => exact d.parameters_criteriaTokens hc

theorem readFilter_lexemes (d : Dialect) {c : Option Criteria}
    (hc : ∀ l ∈ c.elim [] Criteria.leaves, l.WellFormed) (n : Nat) {ls : List Lexeme}
    (hf : Fresh ls) (hl : expect "\nWHERE " ls = none) :
    d.readFilter (Token.lexemes d n (d.filterTokens c) ++ ls) =
      some (c.map fun c => c.predicate.number n, ls) := by
  cases c with
  | none => simp [filterTokens, Token.lexemes, readFilter, hl]
  | some c =>
    have hlex : Token.lexemes d n (d.filterTokens (some c)) ++ ls =
        spell "\nWHERE " ++ (Token.lexemes d n (d.criteriaTokens c) ++ ls) := by
      simp [filterTokens, Token.lexemes]
    rw [hlex, readFilter, Lexeme.expect_spell]
    simp [d.readPredicate_lexemes hc n hf]

theorem begins_filter (d : Dialect) (c : Option Criteria) (n : Nat) {words : List String}
    {ls : List Lexeme} (h : Lexeme.Begins words ls) :
    Lexeme.Begins ("\nWHERE " :: words) (Token.lexemes d n (d.filterTokens c) ++ ls) := by
  cases c with
  | none =>
    rcases h with rfl | ⟨s, hs, rest, rfl⟩
    · exact Or.inl rfl
    · exact Or.inr ⟨s, List.mem_cons_of_mem _ hs, rest, rfl⟩
  | some c =>
    refine Or.inr ⟨"\nWHERE ", List.mem_cons_self, ?_⟩
    rw [filterTokens, Token.lexemes, List.append_assoc]
    exact ⟨_, rfl⟩

def windowTokens (d : Dialect) : Option Page → List Token
  | none => []
  | some p => d.pagingTokens p.limit p.offset

theorem begins_window (d : Dialect) (page : Option Page) (n : Nat) :
    Lexeme.Begins ["\nLIMIT ", "\nOFFSET "] (Token.lexemes d n (d.windowTokens page)) := by
  cases page with
  | none => exact Or.inl rfl
  | some p =>
    refine Or.inr ?_
    cases hp : d.paging with
    | limitOffset | limitPair =>
      refine ⟨"\nLIMIT ", by simp, ?_⟩
      simp only [windowTokens, pagingTokens, hp, PagingStyle.text, Token.lexemes,
        Lexeme.spell_append, List.append_assoc]
      exact ⟨_, rfl⟩
    | fetchNext =>
      refine ⟨"\nOFFSET ", by simp, ?_⟩
      simp only [windowTokens, pagingTokens, hp, PagingStyle.text, Token.lexemes,
        Lexeme.spell_append, List.append_assoc]
      exact ⟨_, rfl⟩

/-- Limit and offset are read back and not mixed up, in each way of cutting out pages. -/
theorem read_paging (style : PagingStyle) (limit offset : Nat) :
    style.read (spell (style.text limit offset)) = some (some (limit, offset), []) := by
  have hnum : ∀ n, readNumber (spell (toString n)) = some (n, []) := fun n => by
    simpa using Lexeme.readNumber_spell n Lexeme.noDigit_nil
  have hnil : ∀ s : String, s.toList ≠ [] → expect s [] = none := fun _ => Lexeme.expect_nil
  cases style with
  | limitOffset =>
    by_cases h : offset = 0
    · have ht : spell (PagingStyle.limitOffset.text limit offset) =
          spell "\nLIMIT " ++ spell (toString limit) := by
        simp [PagingStyle.text, h, Lexeme.spell_append]
      rw [ht, PagingStyle.read, Lexeme.expect_spell]
      simp only [Option.bind_eq_bind, hnum, Option.bind_some, hnil " OFFSET " (by decide), h]
    · have ht : spell (PagingStyle.limitOffset.text limit offset) =
          spell "\nLIMIT " ++ (spell (toString limit) ++
            (spell " OFFSET " ++ spell (toString offset))) := by
        simp [PagingStyle.text, h, Lexeme.spell_append]
      have hn := Lexeme.readNumber_spell limit
        (Lexeme.noDigit_spell (s := " OFFSET ") (by decide) (spell (toString offset)))
      rw [ht, PagingStyle.read, Lexeme.expect_spell]
      simp only [Option.bind_eq_bind, hn, Option.bind_some, Lexeme.expect_spell, hnum]
  | limitPair =>
    by_cases h : offset = 0
    · have ht : spell (PagingStyle.limitPair.text limit offset) =
          spell "\nLIMIT " ++ spell (toString limit) := by
        simp [PagingStyle.text, h, Lexeme.spell_append]
      rw [ht, PagingStyle.read, Lexeme.expect_spell]
      simp only [Option.bind_eq_bind, hnum, Option.bind_some, hnil ", " (by decide), h]
    · have ht : spell (PagingStyle.limitPair.text limit offset) =
          spell "\nLIMIT " ++ (spell (toString offset) ++
            (spell ", " ++ spell (toString limit))) := by
        simp [PagingStyle.text, h, Lexeme.spell_append]
      have hn := Lexeme.readNumber_spell offset
        (Lexeme.noDigit_spell (s := ", ") (by decide) (spell (toString limit)))
      rw [ht, PagingStyle.read, Lexeme.expect_spell]
      simp only [Option.bind_eq_bind, hn, Option.bind_some, Lexeme.expect_spell, hnum]
  | fetchNext =>
    have ht : spell (PagingStyle.fetchNext.text limit offset) =
        spell "\nOFFSET " ++ (spell (toString offset) ++ (spell " ROWS FETCH NEXT " ++
          (spell (toString limit) ++ (spell " ROWS ONLY" ++ [])))) := by
      simp [PagingStyle.text, Lexeme.spell_append]
    have hn := Lexeme.readNumber_spell offset
      (Lexeme.noDigit_spell (s := " ROWS FETCH NEXT ") (by decide)
        (spell (toString limit) ++ (spell " ROWS ONLY" ++ [])))
    have hn' := Lexeme.readNumber_spell limit
      (Lexeme.noDigit_spell (s := " ROWS ONLY") (by decide) [])
    rw [ht, PagingStyle.read, Lexeme.expect_spell]
    simp only [Option.bind_eq_bind, hn, Option.bind_some, Lexeme.expect_spell, hn']

theorem read_window (d : Dialect) (page : Option Page) (n : Nat) :
    d.paging.read (Token.lexemes d n (d.windowTokens page)) =
      some (page.map fun p => (p.limit, p.offset), []) := by
  cases page with
  | none =>
    have h : ∀ s : String, s.toList ≠ [] → expect s [] = none := fun _ => Lexeme.expect_nil
    cases hp : d.paging <;>
      simp [windowTokens, Token.lexemes, PagingStyle.read, h "\nLIMIT " (by decide),
        h "\nOFFSET " (by decide)]
  | some p =>
    have hl : Token.lexemes d n (d.windowTokens (some p)) =
        spell (d.paging.text p.limit p.offset) := by
      simp [windowTokens, pagingTokens, Token.lexemes]
    rw [hl, read_paging]
    rfl

/-- What stands between the WHERE clause and the page: nothing, the sort, or the stand-in for
a sort. -/
theorem order_cases (d : Dialect) (s : SortOrder) (page : Option Page) :
    s.keys = [] ∧ s.tokens ++ d.pageTokens s page = d.windowTokens page ∨
      s.keys = [] ∧ s.tokens ++ d.pageTokens s page =
        .word "\nORDER BY (SELECT NULL)" :: d.windowTokens page ∨
      s.keys ≠ [] ∧ s.tokens ++ d.pageTokens s page =
        .word "\nORDER BY " ::
          (commaSeparated (s.keys.map fun k => [.name k.column, .word k.direction.word]) ++
            d.windowTokens page) := by
  by_cases hs : s.keys = []
  · have ht : s.tokens = [] := by simp [SortOrder.tokens, SortOrder.isUnsorted, hs]
    rw [ht, List.nil_append]
    cases page with
    | none => exact Or.inl ⟨hs, rfl⟩
    | some p =>
      by_cases ho : d.pagesNeedOrder = true
      · refine Or.inr (Or.inl ⟨hs, ?_⟩)
        simp [pageTokens, SortOrder.isUnsorted, hs, ho, windowTokens]
      · refine Or.inl ⟨hs, ?_⟩
        simp [pageTokens, ho, windowTokens]
  · have hp : d.pageTokens s page = d.windowTokens page := by
      cases page <;> simp [pageTokens, SortOrder.isUnsorted, hs, windowTokens]
    refine Or.inr (Or.inr ⟨hs, ?_⟩)
    simp [hp, SortOrder.tokens, SortOrder.isUnsorted, hs]

@[simp]
theorem parameters_windowTokens (d : Dialect) (page : Option Page) :
    Token.parameters (d.windowTokens page) = [] := by
  cases page <;> rfl

theorem parameters_sortKeys (ks : List SortKey) :
    Token.parameters (commaSeparated (ks.map fun k =>
      [.name k.column, .word k.direction.word])) = [] :=
  Token.parameters_commaSeparated_of_nil (fun _ => rfl) ks

theorem parameters_order (d : Dialect) (s : SortOrder) (page : Option Page) :
    Token.parameters (s.tokens ++ d.pageTokens s page) = [] := by
  rcases d.order_cases s page with ⟨-, h⟩ | ⟨-, h⟩ | ⟨-, h⟩ <;>
    simp [h, Token.parameters, parameters_sortKeys]

theorem readOrder_lexemes (d : Dialect) (s : SortOrder) (page : Option Page) (n : Nat) :
    Lexeme.readOrder (Token.lexemes d n (s.tokens ++ d.pageTokens s page)) =
      some (s.keys, Token.lexemes d n (d.windowTokens page)) := by
  have hw := d.begins_window page n
  rcases d.order_cases s page with ⟨hs, h⟩ | ⟨hs, h⟩ | ⟨hs, h⟩
  · have hnone : ∀ t ∈ ["\nORDER BY (SELECT NULL)", "\nORDER BY "],
        expect t (Token.lexemes d n (d.windowTokens page)) = none := by
      intro t ht
      refine hw.expect ?_ ?_ <;> revert t <;> decide
    rw [h, hs, Lexeme.readOrder, hnone _ (by simp), hnone _ (by simp)]
  · rw [h, hs, Token.lexemes, Lexeme.readOrder, Lexeme.expect_spell]
  · have hread := Lexeme.readList_lexemes (Lexeme.readSortKey_lexemes d) (by simp) n hs
      (hw.expect (s := ", ") (by decide) (by decide))
    -- behind the words of the clause stands a name, not the stand-in for a sort
    have hnull : expect "(SELECT NULL)" (Token.lexemes d n (commaSeparated (s.keys.map fun k =>
        [.name k.column, .word k.direction.word])) ++
          Token.lexemes d n (d.windowTokens page)) = none := by
      cases hk : s.keys with
      | nil => exact absurd hk hs
      | cons k ks => cases ks <;> exact Lexeme.expect_cons_of_ne_char (by decide) (by simp) _
    have hstand : ∀ ls, expect "\nORDER BY (SELECT NULL)" (spell "\nORDER BY " ++ ls) =
        expect "(SELECT NULL)" ls := Lexeme.expect_append "\nORDER BY " "(SELECT NULL)"
    rw [h, Token.lexemes, Token.lexemes_append, parameters_sortKeys, Lexeme.readOrder,
      hstand]
    simp only [List.length_nil, Nat.add_zero, hnull, Lexeme.expect_spell]
    rw [hread, Lexeme.placed_const, List.map_id']

theorem begins_order (d : Dialect) (s : SortOrder) (page : Option Page) (n : Nat) :
    Lexeme.Begins ["\nORDER BY ", "\nLIMIT ", "\nOFFSET "]
      (Token.lexemes d n (s.tokens ++ d.pageTokens s page)) := by
  rcases d.order_cases s page with ⟨-, h⟩ | ⟨-, h⟩ | ⟨-, h⟩
  · rw [h]
    rcases d.begins_window page n with hw | ⟨t, ht, rest, hw⟩
    · exact Or.inl hw
    · exact Or.inr ⟨t, List.mem_cons_of_mem _ ht, rest, hw⟩
  · have hspell : spell "\nORDER BY (SELECT NULL)" =
        spell "\nORDER BY " ++ spell "(SELECT NULL)" :=
      Lexeme.spell_append "\nORDER BY " "(SELECT NULL)"
    refine Or.inr ⟨"\nORDER BY ", by simp, ?_⟩
    rw [h, Token.lexemes, hspell, List.append_assoc]
    exact ⟨_, rfl⟩
  · rw [h]
    exact Or.inr ⟨"\nORDER BY ", by simp, _, rfl⟩

@[simp]
theorem parameters_returningTokens (p : Projection) :
    Token.parameters (returningTokens p) = [] := by
  rw [returningTokens]
  split
  · rfl
  · exact p.parameters_tokens

theorem readReturning_lexemes (d : Dialect) (n : Nat) (p : Projection) :
    Lexeme.readReturning (Token.lexemes d n (returningTokens p)) = some (p.columns, []) := by
  have hnil : ∀ s : String, s.toList ≠ [] → expect s [] = none := fun _ => Lexeme.expect_nil
  by_cases hp : p.columns = []
  · have ht : returningTokens p = [] := by simp [returningTokens, Projection.isAll, hp]
    rw [ht, Token.lexemes, Lexeme.readReturning, hnil "\nRETURNING " (by decide), hp]
  · have ht : Token.lexemes d n (returningTokens p) = spell "\nRETURNING " ++
        (Token.lexemes d n (commaSeparated (p.columns.map fun c => [.name c])) ++ []) := by
      simp [returningTokens, Projection.tokens, Projection.isAll, hp, Token.lexemes]
    have hread := Lexeme.readNames_lexemes d id n hp (hnil ", " (by decide))
    rw [ht, Lexeme.readReturning, Lexeme.expect_spell]
    exact hread.trans (by rw [List.map_id])

theorem parameters_assignedToken (d : Dialect) (v : Value) :
    Token.parameters [d.assignedToken v] = (d.assigned v).toList := by
  rw [assignedToken, assigned]
  split <;> rfl

theorem parameters_entry (d : Dialect) (e : String × Value) :
    Token.parameters [.name e.1, .word " = ", d.assignedToken e.2] = (d.assigned e.2).toList :=
  d.parameters_assignedToken e.2

/-- The mark of a bound value is read with its number, and NULL where no value is bound. -/
theorem readAssigned_lexemes {d : Dialect} (hd : d.Legible) (n : Nat) (v : Value)
    (ls : List Lexeme) :
    d.readAssigned (Token.lexemes d n [d.assignedToken v] ++ ls) =
      some ((d.assigned v).map fun _ => n + 1, ls) := by
  rw [assignedToken, assigned]
  by_cases h : (v.isNull && !d.bindsNull) = true
  · have hmark : readMark (spell d.nullWord ++ ls) = none := by
      cases hw : d.nullWord.toList with
      | nil => exact absurd (by simpa using hw) hd.nullWord.1
      | cons c cs =>
        rw [spell, hw]
        rfl
    rw [if_pos h, if_pos h]
    simp [Token.lexemes, readAssigned, hmark]
  · rw [if_neg h, if_neg h]
    rfl

theorem readEntry_lexemes {d : Dialect} (hd : d.Legible) (n : Nat) (e : String × Value)
    (ls : List Lexeme) :
    d.readEntry (Token.lexemes d n [.name e.1, .word " = ", d.assignedToken e.2] ++ ls) =
      some ((e.1, (d.assigned e.2).map fun _ => n + 1), ls) := by
  have hl : Token.lexemes d n [.name e.1, .word " = ", d.assignedToken e.2] ++ ls =
      .name e.1 :: (spell " = " ++ (Token.lexemes d n [d.assignedToken e.2] ++ ls)) := by
    simp [Token.lexemes]
  rw [hl]
  simp only [readEntry, readName, Option.bind_eq_bind, Option.bind_some, Lexeme.expect_spell,
    readAssigned_lexemes hd]

/-- Entries read at their places are numbered from left to right. -/
theorem placed_entries (d : Dialect) {tokens : String × Value → List Token}
    (ht : ∀ e, Token.parameters (tokens e) = (d.assigned e.2).toList) (n : Nat)
    (es : List (String × Value)) :
    placed tokens (fun n e => (e.1, (d.assigned e.2).map fun _ => n + 1)) n es =
      Entries.number n (es.map fun e => (e.1, d.assigned e.2)) := by
  induction es generalizing n with
  | nil => rfl
  | cons e es ih =>
    rw [placed, ih, ht, List.map_cons]
    cases d.assigned e.2 <;> rfl

end Dialect

theorem zip_placed {α β γ : Type} (f : α → γ) (tokens : α → List Token) (read : Nat → α → β)
    (n : Nat) (as : List α) :
    (as.map f).zip (placed tokens read n as) = placed tokens (fun n a => (f a, read n a)) n as := by
  induction as generalizing n with
  | nil => rfl
  | cons a as ih =>
    rw [List.map_cons, placed, List.zip_cons_cons, ih]
    rfl

theorem length_placed {α β : Type} (tokens : α → List Token) (read : Nat → α → β) (n : Nat)
    (as : List α) : (placed tokens read n as).length = as.length := by
  induction as generalizing n with
  | nil => rfl
  | cons a as ih => exact congrArg (· + 1) (ih _)

namespace Dialect

/-- The values of a list of assignments are those that are bound. -/
theorem parameters_entries (d : Dialect) {tokens : String × Value → List Token}
    (ht : ∀ e, Token.parameters (tokens e) = (d.assigned e.2).toList) (a : Assignments) :
    Token.parameters (commaSeparated (a.entries.map tokens)) = (d.entries a).values := by
  rw [Token.parameters_commaSeparated, entries, Entries.values]
  induction a.entries with
  | nil => rfl
  | cons e es ih =>
    rw [List.flatMap_cons, ih, ht, List.map_cons]
    cases d.assigned e.2 <;> rfl

theorem parameters_columns (a : Assignments) :
    Token.parameters (commaSeparated (a.entries.map fun e => [.name e.1])) = [] :=
  Token.parameters_commaSeparated_of_nil (fun _ => rfl) _

theorem parameters_assignedTokens (d : Dialect) (a : Assignments) :
    Token.parameters (commaSeparated (a.entries.map fun e => [d.assignedToken e.2])) =
      (d.entries a).values :=
  d.parameters_entries (fun e => d.parameters_assignedToken e.2) a

theorem parameters_settings (d : Dialect) (a : Assignments) :
    Token.parameters (commaSeparated (a.entries.map fun e =>
      [.name e.1, .word " = ", d.assignedToken e.2])) = (d.entries a).values :=
  d.parameters_entries d.parameters_entry a

end Dialect

theorem isPlainText_append {s t : String} (hs : isPlainText s = true)
    (ht : isPlainText t = true) : isPlainText (s ++ t) = true := by
  rw [isPlainText] at hs ht ⊢
  rw [String.toList_append, List.all_append, hs, ht]
  rfl

theorem isPlainText_toString (n : Nat) : isPlainText (toString n) = true := by
  rw [isPlainText, List.all_eq_true, Nat.toString_eq_repr, Nat.toList_repr]
  intro c hc
  have hd : c.isDigit = true := Nat.isDigit_of_mem_toDigits (by decide) (by decide) hc
  simp [isPlain, hd]

theorem PagingStyle.isPlainText_text (style : PagingStyle) (limit offset : Nat) :
    isPlainText (style.text limit offset) = true := by
  have hl := isPlainText_toString limit
  have ho := isPlainText_toString offset
  cases style with
  | limitOffset =>
    refine isPlainText_append (isPlainText_append rfl hl) ?_
    split
    · decide
    · exact isPlainText_append rfl ho
  | limitPair =>
    refine isPlainText_append (isPlainText_append rfl ?_) hl
    split
    · decide
    · exact isPlainText_append ho rfl
  | fetchNext =>
    exact isPlainText_append (isPlainText_append (isPlainText_append
      (isPlainText_append rfl ho) (by decide)) hl) (by decide)

section

variable {ts : List Token}

theorem TableName.apart_tokens (t : TableName) (hb : Token.breaks ts = true)
    (ht : Token.Apart ts) : Token.Apart (t.tokens ++ ts) := by
  by_cases hs : t.schema.isEmpty = true
  · rw [tokens, if_pos hs]
    exact ⟨hb, ht⟩
  · rw [tokens, if_neg hs]
    exact ⟨rfl, rfl, hb, ht⟩

theorem apart_names {α : Type} (f : α → String) (as : List α) (hb : Token.breaks ts = true)
    (ht : Token.Apart ts) : Token.Apart (commaSeparated (as.map fun a => [.name (f a)]) ++ ts) := by
  have hf : ∀ a ts, Token.breaks ts = true → Token.Apart ts →
      Token.Apart ([.name (f a)] ++ ts) := fun _ _ hb ht => ⟨hb, ht⟩
  exact Token.apart_commaSeparated (by simp) hf as hb ht

theorem Projection.apart_tokens (p : Projection) (hb : Token.breaks ts = true)
    (ht : Token.Apart ts) : Token.Apart (p.tokens ++ ts) := by
  by_cases hp : p.isAll = true
  · rw [tokens, if_pos hp]
    exact ⟨rfl, ht⟩
  · rw [tokens, if_neg hp]
    exact apart_names id p.columns hb ht

namespace Dialect

variable (d : Dialect)

theorem breaks_filterTokens (c : Option Criteria) (hb : Token.breaks ts = true) :
    Token.breaks (d.filterTokens c ++ ts) = true := by
  cases c with
  | none => exact hb
  | some c => rfl

theorem apart_filterTokens (c : Option Criteria) (hb : Token.breaks ts = true)
    (ht : Token.Apart ts) : Token.Apart (d.filterTokens c ++ ts) := by
  cases c with
  | none => exact ht
  | some c => exact ⟨rfl, d.apart_criteriaTokens c hb ht⟩

theorem apart_windowTokens (page : Option Page) : Token.Apart (d.windowTokens page) := by
  cases page with
  | none => trivial
  | some p => exact ⟨d.paging.isPlainText_text p.limit p.offset, trivial⟩

theorem breaks_windowTokens (page : Option Page) : Token.breaks (d.windowTokens page) = true := by
  cases page with
  | none => rfl
  | some p =>
    cases hp : d.paging <;>
      simp [windowTokens, pagingTokens, hp, PagingStyle.text, Token.breaks] <;> decide

theorem breaks_order (s : SortOrder) (page : Option Page) :
    Token.breaks (s.tokens ++ d.pageTokens s page) = true := by
  rcases d.order_cases s page with ⟨-, h⟩ | ⟨-, h⟩ | ⟨-, h⟩ <;> rw [h]
  · exact d.breaks_windowTokens page
  · rfl
  · rfl

theorem apart_order (s : SortOrder) (page : Option Page) :
    Token.Apart (s.tokens ++ d.pageTokens s page) := by
  have hw := d.apart_windowTokens page
  rcases d.order_cases s page with ⟨-, h⟩ | ⟨-, h⟩ | ⟨-, h⟩ <;> rw [h]
  · exact hw
  · exact ⟨rfl, hw⟩
  · refine ⟨rfl, Token.apart_commaSeparated (by simp) ?_ _ (d.breaks_windowTokens page) hw⟩
    intro k ts hb ht
    cases hk : k.direction with
    | ascending | descending => exact ⟨rfl, rfl, ht⟩

theorem apart_returningTokens (p : Projection) : Token.Apart (returningTokens p) := by
  by_cases hp : p.isAll = true
  · rw [returningTokens, if_pos hp]
    trivial
  · have happ : Token.Apart (p.tokens ++ []) := p.apart_tokens rfl trivial
    rw [List.append_nil] at happ
    rw [returningTokens, if_neg hp]
    exact ⟨rfl, happ⟩

theorem apart_assignedToken (v : Value) (hb : Token.breaks ts = true) (ht : Token.Apart ts) :
    Token.Apart (d.assignedToken v :: ts) := by
  rw [assignedToken]
  split
  · exact ht
  · exact ⟨hb, ht⟩

end Dialect
end
end Quarry
