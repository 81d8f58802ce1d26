import Quarry.Proofs.Sql.ClauseText

/-!
# Reading statements

A statement is read clause by clause, and its first word tells its kind. The text that a
legible dialect compiles is read back as the sentence of the statement, with its values
numbered in the order of the parameters (`Statement.read_compile`). So the parameters belong
to the places of their marks, and two statements with one text say the same.
-/

namespace Quarry

open Lexeme (expect spell readName readList)

namespace Dialect

variable (d : Dialect)

def readSelect (ls : List Lexeme) : Option (Sentence Nat × List Lexeme) := do
  let (columns, rest) ← Lexeme.readProjection ls
  let rest ← expect "\nFROM " rest
  let (table, rest) ← Lexeme.readTable rest
  let (filter, rest) ← d.readFilter rest
  let (order, rest) ← Lexeme.readOrder rest
  let (window, rest) ← d.paging.read rest
  some (.select columns table filter order window, rest)

def readInsert (ls : List Lexeme) : Option (Sentence Nat × List Lexeme) := do
  let (table, rest) ← Lexeme.readTable ls
  let rest ← expect " (" rest
  let (columns, rest) ← readList readName rest
  let rest ← expect ") VALUES\n(" rest
  let (values, rest) ← readList d.readAssigned rest
  let rest ← expect ")" rest
  let (returning, rest) ← Lexeme.readReturning rest
  if columns.length = values.length then
    some (.insert table (columns.zip values) returning, rest)
  else none

def readUpdate (ls : List Lexeme) : Option (Sentence Nat × List Lexeme) := do
  let (table, rest) ← Lexeme.readTable ls
  let rest ← expect "\nSET " rest
  let (entries, rest) ← readList d.readEntry rest
  let (filter, rest) ← d.readFilter rest
  some (.update table entries filter, rest)

def readDelete (ls : List Lexeme) : Option (Sentence Nat × List Lexeme) := do
  let (table, rest) ← Lexeme.readTable ls
  let (filter, rest) ← d.readFilter rest
  some (.delete table filter, rest)

def readSentence (ls : List Lexeme) : Option (Sentence Nat × List Lexeme) :=
  match expect "SELECT " ls, expect "INSERT INTO " ls, expect "UPDATE " ls,
    expect "DELETE FROM " ls with
  | some rest, _, _, _ => d.readSelect rest
  | none, some rest, _, _ => d.readInsert rest
  | none, none, some rest, _ => d.readUpdate rest
  | none, none, none, some rest => d.readDelete rest
  | none, none, none, none => none

/-- Read the text of a statement, the whole of it. -/
def read (text : String) : Option (Sentence Nat) :=
  (d.lex 0 text.toList).bind fun ls =>
    match d.readSentence ls with
    | some (s, []) => some s
    | _ => none

def tokens : Statement → List Token
  | .select s =>
    .word "SELECT " :: (s.projection.tokens ++ .word "\nFROM " :: (s.target.table.tokens ++
      (d.filterTokens s.criteria ++ (s.sort.tokens ++ d.pageTokens s.sort s.page))))
  | .insert s =>
    .word "INSERT INTO " :: (s.target.table.tokens ++ .word " (" ::
      (commaSeparated (s.assignments.entries.map fun e => [.name e.1]) ++
        .word ") VALUES\n(" ::
          (commaSeparated (s.assignments.entries.map fun e => [d.assignedToken e.2]) ++
            .word ")" :: returningTokens s.returning)))
  | .update s =>
    .word "UPDATE " :: (s.target.table.tokens ++ .word "\nSET " ::
      (commaSeparated (s.assignments.entries.map fun e =>
        [.name e.1, .word " = ", d.assignedToken e.2]) ++ d.filterTokens s.filter))
  | .delete s =>
    .word "DELETE FROM " :: (s.target.table.tokens ++ d.filterTokens s.criteria)

variable {d} {s : Statement}

theorem script_eq (hr : d.Returns s) (hs : ∀ l ∈ s.leaves, d.supports l.operator = true) :
    d.script s = .ofTokens (d.tokens s) := by
  rw [s.leaves_eq] at hs
  cases s with
  | select s =>
    have hf : d.filterScript s.criteria = .ofTokens (d.filterTokens s.criteria) :=
      filterScript_eq hs
    rw [script, selectScript, hf]
    simp [tokens, Script.append_def, Script.append, Script.ofTokens]
  | insert s =>
    have hret : ¬ (!s.returning.isAll && !d.returnsValues) = true := by
      simpa [Returns, Statement.returned, Projection.isAll] using hr
    rw [script, insertScript, if_neg hret]
    simp [tokens, Script.ofTokens]
  | update s =>
    have hf : d.filterScript s.filter = .ofTokens (d.filterTokens s.filter) := filterScript_eq hs
    rw [script, updateScript, hf]
    simp [tokens, Script.append_def, Script.append, Script.ofTokens]
  | delete s =>
    have hf : d.filterScript s.criteria = .ofTokens (d.filterTokens s.criteria) :=
      filterScript_eq hs
    rw [script, deleteScript, hf]
    simp [tokens, Script.append_def, Script.append, Script.ofTokens]

/-- Names and marks of a statement are kept apart from what follows them. -/
theorem apart_tokens (d : Dialect) (s : Statement) : Token.Apart (d.tokens s) := by
  have hfilter : ∀ c, Token.Apart (d.filterTokens c) ∧ Token.breaks (d.filterTokens c) = true := by
    intro c
    have ha : Token.Apart (d.filterTokens c ++ []) := d.apart_filterTokens c rfl trivial
    have hb : Token.breaks (d.filterTokens c ++ []) = true := d.breaks_filterTokens c rfl
    rw [List.append_nil] at ha hb
    exact ⟨ha, hb⟩
  cases s with
  | select s =>
    have hb := d.breaks_order s.sort s.page
    have ho := d.apart_order s.sort s.page
    refine ⟨rfl, s.projection.apart_tokens rfl ⟨rfl, ?_⟩⟩
    exact s.target.table.apart_tokens (d.breaks_filterTokens _ hb) (d.apart_filterTokens _ hb ho)
  | insert s =>
    have hvalues : Token.Apart
        (commaSeparated (s.assignments.entries.map fun e => [d.assignedToken e.2]) ++
          .word ")" :: returningTokens s.returning) :=
      Token.apart_commaSeparated (by simp)
        (fun e _ hb ht => d.apart_assignedToken e.2 hb ht) _ rfl
        ⟨rfl, apart_returningTokens s.returning⟩
    exact ⟨rfl, s.target.table.apart_tokens rfl
      ⟨rfl, apart_names Prod.fst _ rfl ⟨rfl, hvalues⟩⟩⟩
  | update s =>
    obtain ⟨ha, hb⟩ := hfilter s.filter
    refine ⟨rfl, s.target.table.apart_tokens rfl ⟨rfl, ?_⟩⟩
    refine Token.apart_commaSeparated (by simp) ?_ _ hb ha
    intro e ts hb ht
    exact ⟨rfl, rfl, d.apart_assignedToken e.2 hb ht⟩
  | delete s =>
    obtain ⟨ha, hb⟩ := hfilter s.criteria
    exact ⟨rfl, s.target.table.apart_tokens hb ha⟩

theorem operands_filter (c : Option Criteria) :
    (c.map Criteria.predicate).elim [] Predicate.operands = c.elim [] Criteria.literals := by
  cases c with
  | none => rfl
  | some c => exact c.operands_predicate

/-- The parameters of a statement are the values of its sentence. -/
theorem parameters_tokens (d : Dialect) {s : Statement} (hw : ∀ l ∈ s.leaves, l.WellFormed) :
    Token.parameters (d.tokens s) = (d.sentence s).values := by
  rw [s.leaves_eq] at hw
  cases s with
  | select s =>
    have hf : Token.parameters (d.filterTokens s.criteria) = s.criteria.elim [] Criteria.literals :=
      d.parameters_filterTokens hw
    rw [sentence, Sentence.values, operands_filter, tokens]
    simp only [Token.parameters, Token.parameters_append, hf, ← List.append_assoc]
    simp [parameters_order, ← Token.parameters_append]
  | insert s =>
    simp [tokens, Token.parameters, sentence, Sentence.values, parameters_columns,
      parameters_assignedTokens]
  | update s =>
    have hf : Token.parameters (d.filterTokens s.filter) = s.filter.elim [] Criteria.literals :=
      d.parameters_filterTokens hw
    rw [sentence, Sentence.values, operands_filter]
    simp [tokens, Token.parameters, hf, parameters_settings]
  | delete s =>
    have hf : Token.parameters (d.filterTokens s.criteria) = s.criteria.elim [] Criteria.literals :=
      d.parameters_filterTokens hw
    rw [sentence, Sentence.values, operands_filter]
    simp [tokens, Token.parameters, hf]

theorem read_select_tokens (d : Dialect) {s : SelectStatement}
    (hw : ∀ l ∈ (Statement.select s).leaves, l.WellFormed) :
    d.readSentence (Token.lexemes d 0 (d.tokens (.select s))) =
      some ((d.sentence (.select s)).number, []) := by
  have hlex : Token.lexemes d 0 (d.tokens (.select s)) =
      spell "SELECT " ++ (Token.lexemes d 0 s.projection.tokens ++ (spell "\nFROM " ++
        (Token.lexemes d 0 s.target.table.tokens ++
          (Token.lexemes d 0 (d.filterTokens s.criteria) ++
            Token.lexemes d (0 + (s.criteria.elim [] Criteria.literals).length)
              (s.sort.tokens ++ d.pageTokens s.sort s.page))))) := by
    have hp := d.parameters_filterTokens hw
    simp [tokens, Token.lexemes, Token.lexemes_append, hp]
  have horder := d.begins_order s.sort s.page (0 + (s.criteria.elim [] Criteria.literals).length)
  have hcomma : ∀ ls, expect ", " (spell "\nFROM " ++ ls) = none :=
    Lexeme.expect_spell_of_clash rfl
  have htable := Lexeme.readTable_lexemes d 0 s.target.table
    ((d.begins_filter s.criteria 0 horder).expect (s := ".") (by decide) (by decide))
  have hfilter := d.readFilter_lexemes hw 0 (horder.fresh (by decide))
    (horder.expect (by decide) (by decide))
  rw [hlex]
  simp only [readSentence, Lexeme.expect_spell, readSelect, Option.bind_eq_bind, Option.bind_some,
    Lexeme.readProjection_lexemes d 0 s.projection (hcomma _), htable, hfilter,
    readOrder_lexemes, read_window]
  simp [sentence, Sentence.number, Option.map_map, Function.comp_def]

theorem read_insert_tokens {d : Dialect} (hd : d.Legible) {s : InsertStatement}
    (ha : s.assignments.entries ≠ []) :
    d.readSentence (Token.lexemes d 0 (d.tokens (.insert s))) =
      some ((d.sentence (.insert s)).number, []) := by
  have hlex : Token.lexemes d 0 (d.tokens (.insert s)) =
      spell "INSERT INTO " ++ (Token.lexemes d 0 s.target.table.tokens ++ (spell " (" ++
        (Token.lexemes d 0 (commaSeparated (s.assignments.entries.map fun e => [.name e.1])) ++
          (spell ") VALUES\n(" ++ (Token.lexemes d 0 (commaSeparated
            (s.assignments.entries.map fun e => [d.assignedToken e.2])) ++ (spell ")" ++
              Token.lexemes d (0 + (d.entries s.assignments).values.length)
                (returningTokens s.returning))))))) := by
    simp [tokens, Token.lexemes, Token.lexemes_append, parameters_columns,
      parameters_assignedTokens]
  have hselect : ∀ ls, expect "SELECT " (spell "INSERT INTO " ++ ls) = none :=
    Lexeme.expect_spell_of_clash rfl
  have hdot : ∀ ls, expect "." (spell " (" ++ ls) = none :=
    Lexeme.expect_spell_of_clash rfl
  have hcomma : ∀ ls, expect ", " (spell ") VALUES\n(" ++ ls) = none :=
    Lexeme.expect_spell_of_clash rfl
  have hvalues := fun ls => Lexeme.readList_lexemes
    (fun n (e : String × Value) ls => readAssigned_lexemes hd n e.2 ls) (by simp) 0 ha
    (Lexeme.expect_comma_close ls)
  have hentries := placed_entries d (fun e => d.parameters_assignedToken e.2) 0
    s.assignments.entries
  rw [hlex]
  simp only [readSentence, hselect, Lexeme.expect_spell, readInsert, Option.bind_eq_bind,
    Option.bind_some, Lexeme.readTable_lexemes d 0 s.target.table (hdot _),
    Lexeme.readNames_lexemes d Prod.fst 0 ha (hcomma _), hvalues, readReturning_lexemes,
    List.length_map, length_placed, if_true, zip_placed, hentries]
  rfl

/-- Reading an UPDATE comes down to reading its WHERE clause. -/
theorem readSentence_update {d : Dialect} (hd : d.Legible) {s : UpdateStatement}
    (ha : s.assignments.entries ≠ []) :
    d.readSentence (Token.lexemes d 0 (d.tokens (.update s))) =
      (d.readFilter (Token.lexemes d (d.entries s.assignments).values.length
        (d.filterTokens s.filter) ++ [])).map fun p =>
          (.update s.target.table ((d.entries s.assignments).number 0) p.1, p.2) := by
  have hlex : Token.lexemes d 0 (d.tokens (.update s)) =
      spell "UPDATE " ++ (Token.lexemes d 0 s.target.table.tokens ++ (spell "\nSET " ++
        (Token.lexemes d 0 (commaSeparated (s.assignments.entries.map fun e =>
          [.name e.1, .word " = ", d.assignedToken e.2])) ++
            (Token.lexemes d (d.entries s.assignments).values.length
              (d.filterTokens s.filter) ++ [])))) := by
    simp [tokens, Token.lexemes, Token.lexemes_append, parameters_settings]
  have hselect : ∀ ls, expect "SELECT " (spell "UPDATE " ++ ls) = none :=
    Lexeme.expect_spell_of_clash rfl
  have hinsert : ∀ ls, expect "INSERT INTO " (spell "UPDATE " ++ ls) = none :=
    Lexeme.expect_spell_of_clash rfl
  have hdot : ∀ ls, expect "." (spell "\nSET " ++ ls) = none :=
    Lexeme.expect_spell_of_clash rfl
  have hnil : Lexeme.Begins [] [] := Or.inl rfl
  have hvalues := Lexeme.readList_lexemes (readEntry_lexemes hd) (by simp) 0 ha
    ((d.begins_filter s.filter (d.entries s.assignments).values.length hnil).expect
      (s := ", ") (by decide) (by decide))
  have hentries := placed_entries d d.parameters_entry 0 s.assignments.entries
  rw [hlex]
  simp only [readSentence, hselect, hinsert, Lexeme.expect_spell, readUpdate,
    Option.bind_eq_bind, Option.bind_some, Lexeme.readTable_lexemes d 0 s.target.table (hdot _),
    hvalues, hentries]
  cases d.readFilter (Token.lexemes d (d.entries s.assignments).values.length
    (d.filterTokens s.filter) ++ []) <;> rfl

theorem read_update_tokens {d : Dialect} (hd : d.Legible) {s : UpdateStatement}
    (ha : s.assignments.entries ≠ [])
    (hw : ∀ l ∈ s.filter.elim [] Criteria.leaves, l.WellFormed) :
    d.readSentence (Token.lexemes d 0 (d.tokens (.update s))) =
      some ((d.sentence (.update s)).number, []) := by
  have hnil : Lexeme.Begins [] [] := Or.inl rfl
  have hfilter := d.readFilter_lexemes hw (d.entries s.assignments).values.length
    (hnil.fresh (by simp)) (hnil.expect (by simp) (by decide))
  rw [readSentence_update hd ha, hfilter]
  simp [sentence, Sentence.number, Option.map_map, Function.comp_def]

theorem read_delete_tokens (d : Dialect) {s : DeleteStatement}
    (hw : ∀ l ∈ s.criteria.elim [] Criteria.leaves, l.WellFormed) :
    d.readSentence (Token.lexemes d 0 (d.tokens (.delete s))) =
      some ((d.sentence (.delete s)).number, []) := by
  have hlex : Token.lexemes d 0 (d.tokens (.delete s)) =
      spell "DELETE FROM " ++ (Token.lexemes d 0 s.target.table.tokens ++
        (Token.lexemes d 0 (d.filterTokens s.criteria) ++ [])) := by
    simp [tokens, Token.lexemes, Token.lexemes_append]
  have hselect : ∀ ls, expect "SELECT " (spell "DELETE FROM " ++ ls) = none :=
    Lexeme.expect_spell_of_clash rfl
  have hinsert : ∀ ls, expect "INSERT INTO " (spell "DELETE FROM " ++ ls) = none :=
    Lexeme.expect_spell_of_clash rfl
  have hupdate : ∀ ls, expect "UPDATE " (spell "DELETE FROM " ++ ls) = none :=
    Lexeme.expect_spell_of_clash rfl
  have hnil : Lexeme.Begins [] [] := Or.inl rfl
  have htable := Lexeme.readTable_lexemes d 0 s.target.table
    ((d.begins_filter s.criteria 0 hnil).expect (s := ".") (by decide) (by decide))
  have hfilter := d.readFilter_lexemes hw 0 (hnil.fresh (by simp))
    (hnil.expect (by simp) (by decide))
  rw [hlex]
  simp only [readSentence, hselect, hinsert, hupdate, Lexeme.expect_spell, readDelete,
    Option.bind_eq_bind, Option.bind_some, htable, hfilter]
  simp [sentence, Sentence.number, Option.map_map, Function.comp_def]

end Dialect

namespace Statement

variable {d : Dialect} {s : Statement} {q : Query}

theorem read_tokens (hd : d.Legible) (ha : s.HasAssignments)
    (hw : ∀ l ∈ s.leaves, l.WellFormed) :
    d.readSentence (Token.lexemes d 0 (d.tokens s)) = some ((d.sentence s).number, []) := by
  rw [s.leaves_eq] at hw
  cases s with
  | select s => exact d.read_select_tokens hw
  | insert s => exact Dialect.read_insert_tokens hd (ha _ rfl)
  | update s => exact Dialect.read_update_tokens hd (ha _ rfl) hw
  | delete s => exact d.read_delete_tokens hw

theorem compile_of_supports (hv : s.validate = .ok ()) (hr : d.Returns s)
    (hs : ∀ l ∈ s.leaves, d.supports l.operator = true) :
    s.compile d = .ok ⟨Token.render d 0 (d.tokens s), Token.parameters (d.tokens s)⟩ := by
  rw [compile_of_valid hv, Dialect.script_eq hr hs]
  rfl

theorem compile_eq_tokens (hq : s.compile d = .ok q) :
    q = ⟨Token.render d 0 (d.tokens s), Token.parameters (d.tokens s)⟩ := by
  obtain ⟨h, ha, hr, hs⟩ := (exists_compile_iff s d).1 ⟨q, hq⟩
  rw [compile_of_supports (validate_eq_ok h ha) hr hs] at hq
  exact (Except.ok.inj hq).symm

/-- The text of a statement is read back as its sentence, and the values of the sentence are
the parameters. -/
theorem read_compile (hd : d.Legible) (hw : ∀ l ∈ s.leaves, l.WellFormed)
    (hq : s.compile d = .ok q) :
    d.read q.sql = some (d.sentence s).number ∧ q.parameters = (d.sentence s).values := by
  obtain ⟨-, ha, -, -⟩ := (exists_compile_iff s d).1 ⟨q, hq⟩
  obtain rfl := compile_eq_tokens hq
  refine ⟨?_, d.parameters_tokens hw⟩
  rw [Dialect.read, Token.lex_render hd 0 (d.apart_tokens s), Option.bind_some,
    read_tokens hd ha hw]

/-- The values that the dialect binds for assignments; NULL is bound only where the dialect
binds it. -/
def assignedValues (d : Dialect) (a : Assignments) : List Value :=
  (a.entries.map Prod.snd).filter fun v => !v.isNull || d.bindsNull

/-- The values that a statement binds, in order: those that it assigns, those of the key, those
of its criteria. -/
def boundValues (d : Dialect) : Statement → List Value
  | select s => s.criteria.elim [] Criteria.literals
  | insert s => assignedValues d s.assignments
  | update s =>
    assignedValues d s.assignments ++ s.key.elim [] Criteria.literals ++
      s.criteria.elim [] Criteria.literals
  | delete s => s.criteria.elim [] Criteria.literals

theorem values_entries (d : Dialect) (a : Assignments) :
    (d.entries a).values = assignedValues d a := by
  rw [Dialect.entries, assignedValues, Entries.values]
  induction a.entries with
  | nil => rfl
  | cons e es ih =>
    cases hn : e.2.isNull <;> cases hb : d.bindsNull <;>
      simp [Dialect.assigned, hn, hb] at ih ⊢ <;> exact ih

theorem literals_filter (s : UpdateStatement) :
    s.filter.elim [] Criteria.literals =
      s.key.elim [] Criteria.literals ++ s.criteria.elim [] Criteria.literals := by
  rw [UpdateStatement.filter]
  cases s.key <;> cases s.criteria <;> simp [Criteria.and]

theorem values_sentence (d : Dialect) (s : Statement) :
    (d.sentence s).values = s.boundValues d := by
  cases s with
  | select s => exact Dialect.operands_filter s.criteria
  | insert s => exact values_entries d s.assignments
  | update s =>
    rw [Dialect.sentence, Sentence.values, Dialect.operands_filter, values_entries,
      literals_filter, boundValues, List.append_assoc]
  | delete s => exact Dialect.operands_filter s.criteria

theorem length_operands_sentence (d : Dialect) (s : Statement) :
    (d.sentence s).operands.length = s.filter.elim 0 Criteria.literalCount := by
  have hfilter : ∀ c : Option Criteria, ((c.map Criteria.predicate).elim []
      Predicate.operands).length = c.elim 0 Criteria.literalCount := by
    intro c
    rw [Dialect.operands_filter]
    cases c <;> rfl
  cases s with
  | select s => exact hfilter s.criteria
  | insert s => rfl
  | update s => exact hfilter s.filter
  | delete s => exact hfilter s.criteria

/-- The marks in the text are those of the parameters in their order, and the parameters are
the values that the statement binds. Putting each parameter in the place of its mark gives
what the statement says: every value at its own column and in its own comparison. -/
theorem compile_parameters (hd : d.Legible) (hw : ∀ l ∈ s.leaves, l.WellFormed)
    (hq : s.compile d = .ok q) :
    (∃ ls, d.lex 0 q.sql.toList = some ls ∧
      Lexeme.ordinals ls = List.range' 1 q.parameters.length) ∧
    q.parameters = s.boundValues d ∧
    ∃ r, d.read q.sql = some r ∧ r.fill q.parameters = (d.sentence s).map some ∧
      r.operands.length = s.filter.elim 0 Criteria.literalCount := by
  obtain ⟨hread, hvalues⟩ := read_compile hd hw hq
  refine ⟨?_, hvalues.trans (values_sentence d s), _, hread, ?_, ?_⟩
  · obtain rfl := compile_eq_tokens hq
    exact ⟨_, Token.lex_render hd 0 (d.apart_tokens s), Token.ordinals_lexemes d 0 _⟩
  · rw [hvalues, Sentence.fill_number]
  · rw [Sentence.length_operands_number, length_operands_sentence]

def keyedUpdate : Statement :=
  .update ⟨.named ⟨"s:1", "t?"⟩,
    ⟨.explicit, [("a:9", .null), ("b", .typed .boolean (some true))], by decide⟩,
    some (.leaf ⟨"id", .equal, [.typed .text (some "k")], false⟩),
    some (.leaf ⟨"c", .isIn, [.typed .text (some "x"), .null], true⟩)⟩

set_option maxRecDepth 20000 in
theorem compile_parameters_keyedUpdate :
    ∃ q, keyedUpdate.compile .level = .ok q ∧
      q.sql = "UPDATE \"s:1\".\"t?\"\nSET \"a:9\" = NULL, \"b\" = :1\n" ++
        "WHERE \"id\" = :2 AND NOT (\"c\" IN (:3, :4))" ∧
      (∃ ls, Dialect.level.lex 0 q.sql.toList = some ls ∧ Lexeme.ordinals ls = [1, 2, 3, 4]) ∧
      q.parameters = [.typed .boolean (some true), .typed .text (some "k"),
        .typed .text (some "x"), .null] ∧
      ∃ r, Dialect.level.read q.sql = some r ∧
        r.fill q.parameters = (Dialect.level.sentence keyedUpdate).map some ∧
        r.operands.length = 3 := by
  have hw : ∀ l ∈ keyedUpdate.leaves, l.WellFormed := by
    simp [keyedUpdate, leaves, Comparison.WellFormed, Operator.arity, Arity.Admits]
  have hq : keyedUpdate.compile .level =
      .ok ⟨"UPDATE \"s:1\".\"t?\"\nSET \"a:9\" = NULL, \"b\" = :1\n" ++
        "WHERE \"id\" = :2 AND NOT (\"c\" IN (:3, :4))",
        [.typed .boolean (some true), .typed .text (some "k"), .typed .text (some "x"),
          .null]⟩ := by
    rfl
  obtain ⟨hmarks, hbound, hread⟩ := compile_parameters Dialect.legible_level hw hq
  exact ⟨_, hq, rfl, hmarks, hbound, hread⟩

/-- Statements with the same text say the same but for the values that they bind, whatever
characters their names contain. -/
theorem outline_of_sql_eq {t : Statement} {p : Query} (hd : d.Legible)
    (hs : ∀ l ∈ s.leaves, l.WellFormed) (ht : ∀ l ∈ t.leaves, l.WellFormed)
    (hp : s.compile d = .ok p) (hq : t.compile d = .ok q) (h : p.sql = q.sql) :
    (d.sentence s).outline = (d.sentence t).outline := by
  obtain ⟨hreads, -⟩ := read_compile hd hs hp
  obtain ⟨hreadt, -⟩ := read_compile hd ht hq
  rw [h, hreadt] at hreads
  have hnumber : (d.sentence t).number = (d.sentence s).number := Option.some.inj hreads
  calc (d.sentence s).outline
      = (d.sentence s).number.outline := (Sentence.outline_number _).symm
    _ = (d.sentence t).number.outline := by rw [hnumber]
    _ = (d.sentence t).outline := Sentence.outline_number _

def pageOf (v : Value) : Statement :=
  .select ⟨.named ⟨"", "t] WHERE"⟩, ⟨["a]"]⟩, some (.leaf ⟨"c", .equal, [v], false⟩), .unsorted,
    some ⟨2, 3, by decide, by decide⟩⟩

set_option maxRecDepth 20000 in
theorem outline_of_pageOf :
    ∃ text, (pageOf .null).compile .sqlserver = .ok ⟨text, [.null]⟩ ∧
      (pageOf (.typed .boolean (some true))).compile .sqlserver =
        .ok ⟨text, [.typed .boolean (some true)]⟩ ∧
      (Dialect.sqlserver.sentence (pageOf .null)).outline =
        (Dialect.sqlserver.sentence (pageOf (.typed .boolean (some true)))).outline := by
  have hw : ∀ v, ∀ l ∈ (pageOf v).leaves, l.WellFormed := by
    intro v l hl
    obtain rfl : l = ⟨"c", .equal, [v], false⟩ := by simpa [pageOf, leaves] using hl
    rfl
  refine ⟨"SELECT [a]]]\nFROM [t]] WHERE]\nWHERE [c] = @P1\nORDER BY (SELECT NULL)\n" ++
    "OFFSET 6 ROWS FETCH NEXT 2 ROWS ONLY", rfl, rfl, ?_⟩
  exact outline_of_sql_eq (Dialect.legible_of_mem (by decide)) (hw _) (hw _) (p := ⟨_, [.null]⟩)
    (q := ⟨_, [.typed .boolean (some true)]⟩) rfl rfl rfl

end Statement
end Quarry
