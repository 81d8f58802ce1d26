import Mathlib.Data.List.TakeWhile
import Quarry.Sql.Query

/-!
# What compiling ends in

Compiling a statement ends in a query or in the first thing that is wrong with it. The
checks are those of the finished statement (its table, then its assignments) and those of
the dialect (returned columns, then the operators of the WHERE clause from left to right).
-/

namespace Quarry

namespace Text

theorem trimEndChars_eq_nil_iff (cs : List Char) :
    trimEndChars cs = [] ↔ ∀ c ∈ cs, isBlank c = true := by
  simp [trimEndChars, List.dropWhile_eq_nil_iff]

theorem trimChars_eq_nil_iff (cs : List Char) :
    trimChars cs = [] ↔ ∀ c ∈ cs, isBlank c = true := by
  rw [trimChars, trimEndChars_eq_nil_iff]
  induction cs with
  | nil => simp
  | cons c cs ih =>
    by_cases hc : isBlank c = true
    · rw [List.dropWhile_cons_of_pos hc, ih]
      simp [hc]
    · rw [List.dropWhile_cons_of_neg hc]

/-- A name is blank when trimming leaves nothing of it. -/
theorem isAllBlank_iff_trim (s : String) : isAllBlank s = true ↔ trim s = "" := by
  rw [trim, isAllBlank, List.all_eq_true, ← trimChars_eq_nil_iff]
  constructor
  · intro h
    rw [h]
  · intro h
    simpa using congrArg String.toList h

end Text

namespace Statement

def assignments? : Statement → Option Assignments
  | select _ | delete _ => none
  | insert s => some s.assignments
  | update s => some s.assignments

def returned : Statement → List String
  | insert s => s.returning.columns
  | select _ | update _ | delete _ => []

/-- The comparisons of the WHERE clause from left to right; in an UPDATE those of the key
come first. -/
def leaves : Statement → List Comparison
  | select s => s.criteria.elim [] Criteria.leaves
  | insert _ => []
  | update s => s.key.elim [] Criteria.leaves ++ s.criteria.elim [] Criteria.leaves
  | delete s => s.criteria.elim [] Criteria.leaves

def HasTable (s : Statement) : Prop := Text.trim s.target.table.name ≠ ""

def HasAssignments (s : Statement) : Prop := ∀ a, s.assignments? = some a → a.entries ≠ []

def nothingAssigned : Statement → Option BuildError
  | insert _ => some .nothingToInsert
  | update _ => some .nothingToUpdate
  | select _ | delete _ => none

theorem leaves_eq (s : Statement) : s.leaves = s.filter.elim [] Criteria.leaves := by
  cases s with
  | select s => rfl
  | insert s => rfl
  | update s =>
    simp only [leaves, filter, UpdateStatement.filter]
    cases s.key <;> cases s.criteria <;> simp [Criteria.and]
  | delete s => rfl

theorem target_validate (s : Statement) :
    s.target.validate =
      if Text.trim s.target.table.name = "" then .error .tableMissing else .ok () := by
  simp only [Target.validate, Text.isAllBlank_iff_trim]

theorem validate_eq_error_tableMissing {s : Statement} (h : ¬ s.HasTable) :
    s.validate = .error .tableMissing := by
  have ht : Text.trim s.target.table.name = "" := Classical.not_not.1 h
  simp [validate, target_validate, ht, bind, Except.bind]

theorem validate_eq_error_of_nothingAssigned {s : Statement} {e : BuildError} (h : s.HasTable)
    (ha : ¬ s.HasAssignments) (he : s.nothingAssigned = some e) : s.validate = .error e := by
  have ht : ¬ Text.trim s.target.table.name = "" := h
  cases s with
  | select s | delete s => cases he
  | insert s | update s =>
    cases he
    simp only [HasAssignments, assignments?, Option.some.injEq, forall_eq', ne_eq,
      Classical.not_not] at ha
    simp [validate, target_validate, ht, Assignments.isEmpty, ha, bind, Except.bind]

theorem validate_eq_ok {s : Statement} (h : s.HasTable) (ha : s.HasAssignments) :
    s.validate = .ok () := by
  have ht : ¬ Text.trim s.target.table.name = "" := h
  cases s with
  | select s | delete s => simp [validate, target_validate, ht, bind, Except.bind]
  | insert s | update s =>
    have hne : _ ≠ [] := ha _ rfl
    simp [validate, target_validate, ht, Assignments.isEmpty, hne, bind, Except.bind]

end Statement

namespace Dialect

def Returns (d : Dialect) (s : Statement) : Prop := s.returned ≠ [] → d.returnsValues = true

def unsupportedIn (d : Dialect) (cs : List Comparison) : Option CompileError :=
  (cs.find? fun c => !d.supports c.operator).map fun c => .operatorUnsupported c.operator c.column

theorem unsupportedIn_append (d : Dialect) (as bs : List Comparison) :
    d.unsupportedIn (as ++ bs) = (d.unsupportedIn as).or (d.unsupportedIn bs) := by
  rw [unsupportedIn, List.find?_append, Option.map_or]
  rfl

theorem unsupportedIn_eq_none_iff (d : Dialect) (cs : List Comparison) :
    d.unsupportedIn cs = none ↔ ∀ c ∈ cs, d.supports c.operator = true := by
  simp [unsupportedIn, List.find?_eq_none]

theorem unsupportedIn_of_first (d : Dialect) {before after : List Comparison} {c : Comparison}
    (hb : ∀ b ∈ before, d.supports b.operator = true) (hc : d.supports c.operator = false) :
    d.unsupportedIn (before ++ c :: after) = some (.operatorUnsupported c.operator c.column) := by
  have hn : d.unsupportedIn before = none := (d.unsupportedIn_eq_none_iff before).2 hb
  rw [unsupportedIn_append, hn, Option.none_or]
  simp [unsupportedIn, hc]

theorem failure_parenthesizedIf (p : Bool) (s : Script) :
    (Script.parenthesizedIf p s).failure = s.failure := by
  cases p with
  | false => rfl
  | true => simp [Script.parenthesizedIf, Script.word, Script.ofTokens]

theorem failure_criteriaScript (d : Dialect) (c : Criteria) :
    (d.criteriaScript c).failure = d.unsupportedIn c.leaves := by
  induction c with
  | leaf c =>
    by_cases hc : d.supports c.operator = true
    · simp [criteriaScript, comparisonScript, hc, unsupportedIn, Script.ofTokens]
    · simp [criteriaScript, comparisonScript, hc, unsupportedIn, Script.fail]
  | combine l o r hl hr =>
    rw [criteriaScript, Script.failure_append, Script.failure_append, failure_parenthesizedIf,
      failure_parenthesizedIf, hl, hr, Criteria.leaves_combine, unsupportedIn_append]
    simp [Script.word, Script.ofTokens]

theorem failure_filterScript (d : Dialect) (c : Option Criteria) :
    (d.filterScript c).failure = d.unsupportedIn (c.elim [] Criteria.leaves) := by
  cases c with
  | none => rfl
  | some c => simp [filterScript, failure_criteriaScript, Script.word, Script.ofTokens]

theorem failure_script_of_not_returns {d : Dialect} {s : Statement} (h : ¬ d.Returns s) :
    (d.script s).failure = some .returningUnsupported := by
  cases s with
  | select s | update s | delete s => exact absurd (fun h => absurd rfl h) h
  | insert s =>
    simp only [Returns, Statement.returned, ne_eq, Classical.not_imp, Bool.not_eq_true] at h
    simp [script, insertScript, Projection.isAll, h, Script.fail]

theorem failure_script_of_returns {d : Dialect} {s : Statement} (h : d.Returns s) :
    (d.script s).failure = d.unsupportedIn s.leaves := by
  rw [s.leaves_eq]
  cases s with
  | select s =>
    simp [script, selectScript, failure_filterScript, Script.ofTokens, Statement.filter]
  | insert s =>
    have hr : ¬ (!s.returning.isAll && !d.returnsValues) = true := by
      simpa [Returns, Statement.returned, Projection.isAll] using h
    simp [script, insertScript, hr, Script.ofTokens, Statement.filter, unsupportedIn]
  | update s => simp [script, updateScript, failure_filterScript, Script.ofTokens, Statement.filter]
  | delete s => simp [script, deleteScript, failure_filterScript, Script.ofTokens, Statement.filter]

end Dialect

namespace Statement

theorem compile_of_validate_error {s : Statement} {d : Dialect} {e : BuildError}
    (h : s.validate = .error e) : s.compile d = .error (.build e) := by
  rw [compile, h]

theorem compile_of_valid {s : Statement} {d : Dialect} (h : s.validate = .ok ()) :
    s.compile d =
      match (d.script s).failure with
      | some e => .error (.compile d.name e)
      | none =>
        .ok ⟨Token.render d 0 (d.script s).tokens, Token.parameters (d.script s).tokens⟩ := by
  rw [compile, h]
  cases hf : (d.script s).failure <;>
    simp [Draft.addStatement, Draft.addScript, Draft.addTokens, Draft.empty, Draft.toQuery, hf]

theorem compile_of_not_hasTable {s : Statement} (h : ¬ s.HasTable) (d : Dialect) :
    s.compile d = .error (.build .tableMissing) :=
  compile_of_validate_error (validate_eq_error_tableMissing h)

theorem compile_of_not_hasAssignments {s : Statement} (h : s.HasTable) (ha : ¬ s.HasAssignments)
    (d : Dialect) : ∃ e, s.nothingAssigned = some e ∧ s.compile d = .error (.build e) := by
  cases hs : s.nothingAssigned with
  | some e =>
    exact ⟨e, rfl, compile_of_validate_error (validate_eq_error_of_nothingAssigned h ha hs)⟩
  | none =>
    refine absurd ?_ ha
    cases s <;> simp [nothingAssigned, HasAssignments, assignments?] at hs ⊢

theorem compile_of_not_returns {s : Statement} {d : Dialect} (h : s.HasTable)
    (ha : s.HasAssignments) (hr : ¬ d.Returns s) :
    s.compile d = .error (.compile d.name .returningUnsupported) := by
  rw [compile_of_valid (validate_eq_ok h ha), Dialect.failure_script_of_not_returns hr]

theorem compile_of_unsupported {s : Statement} {d : Dialect} {e : CompileError} (h : s.HasTable)
    (ha : s.HasAssignments) (hr : d.Returns s) (he : d.unsupportedIn s.leaves = some e) :
    s.compile d = .error (.compile d.name e) := by
  rw [compile_of_valid (validate_eq_ok h ha), Dialect.failure_script_of_returns hr, he]

/-- A statement compiles when it has a table and its assignments, and the dialect has all it
needs. -/
theorem exists_compile_iff (s : Statement) (d : Dialect) :
    (∃ q, s.compile d = .ok q) ↔
      s.HasTable ∧ s.HasAssignments ∧ d.Returns s ∧
        ∀ c ∈ s.leaves, d.supports c.operator = true := by
  constructor
  · rintro ⟨q, hq⟩
    have h : s.HasTable := by
      by_contra h
      rw [compile_of_not_hasTable h] at hq
      cases hq
    have ha : s.HasAssignments := by
      by_contra ha
      obtain ⟨e, -, he⟩ := compile_of_not_hasAssignments h ha d
      rw [he] at hq
      cases hq
    have hr : d.Returns s := by
      by_contra hr
      rw [compile_of_not_returns h ha hr] at hq
      cases hq
    refine ⟨h, ha, hr, (d.unsupportedIn_eq_none_iff _).1 ?_⟩
    cases hf : d.unsupportedIn s.leaves with
    | none => rfl
    | some e =>
      rw [compile_of_unsupported h ha hr hf] at hq
      cases hq
  · rintro ⟨h, ha, hr, hc⟩
    rw [compile_of_valid (validate_eq_ok h ha), Dialect.failure_script_of_returns hr,
      (d.unsupportedIn_eq_none_iff _).2 hc]
    exact ⟨_, rfl⟩

/-- Whether a statement compiles, and otherwise the error of the first thing that is missing:
the table, the assignments, the returning of values, the leftmost operator. -/
theorem compile_outcome (s : Statement) (d : Dialect) :
    ((∃ q, s.compile d = .ok q) ↔
      s.HasTable ∧ s.HasAssignments ∧ d.Returns s ∧
        ∀ c ∈ s.leaves, d.supports c.operator = true) ∧
    (¬ s.HasTable → s.compile d = .error (.build .tableMissing)) ∧
    (s.HasTable → ¬ s.HasAssignments →
      ∃ e, s.nothingAssigned = some e ∧ s.compile d = .error (.build e)) ∧
    (s.HasTable → s.HasAssignments → ¬ d.Returns s →
      s.compile d = .error (.compile d.name .returningUnsupported)) ∧
    (s.HasTable → s.HasAssignments → d.Returns s →
      ∀ before c after, s.leaves = before ++ c :: after →
        (∀ b ∈ before, d.supports b.operator = true) → d.supports c.operator = false →
        s.compile d = .error (.compile d.name (.operatorUnsupported c.operator c.column))) := by
  refine ⟨exists_compile_iff s d, fun h => compile_of_not_hasTable h d,
    fun h ha => compile_of_not_hasAssignments h ha d, compile_of_not_returns, ?_⟩
  intro h ha hr before c after hl hb hc
  refine compile_of_unsupported h ha hr ?_
  rw [hl]
  exact d.unsupportedIn_of_first hb hc

end Statement
end Quarry
