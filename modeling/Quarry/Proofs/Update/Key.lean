import Quarry.Proofs.Sql.Truth
import Quarry.Proofs.Statement.Assignments
import Quarry.Statement.Update

/-!
# The match of a key

An UPDATE by object matches the fields of the key that are set, one after the other, and
nothing else. So it is only refused when no column of the key has a value, and a column of
the key without a value is left out of the match (`UpdateStatement.assignRecord_key`).
-/

namespace Quarry

def fieldCondition (f : String × Value) : Condition Value := .compare f.1 .equal [f.2]

def fieldComparison (f : String × Value) : Comparison := ⟨f.1, .equal, [f.2], false⟩

theorem leaves_foldl_and (c : Criteria) (fs : List (String × Value)) :
    (fs.foldl (fun c f => c.and (fieldMatch f)) c).leaves = c.leaves ++ fs.map fieldComparison := by
  induction fs generalizing c with
  | nil => simp
  | cons f fs ih =>
    have hstep : (c.and (fieldMatch f)).leaves = c.leaves ++ [fieldComparison f] := rfl
    rw [List.foldl_cons, ih, hstep, List.map_cons, List.append_assoc]
    rfl

theorem truth_foldl_and (holds : Condition Value → Truth) (c : Criteria)
    (fs : List (String × Value)) :
    (fs.foldl (fun c f => c.and (fieldMatch f)) c).predicate.truth holds = some true ↔
      c.predicate.truth holds = some true ∧ ∀ f ∈ fs, holds (fieldCondition f) = some true := by
  induction fs generalizing c with
  | nil => simp
  | cons f fs ih =>
    have hstep : (c.and (fieldMatch f)).predicate.truth holds = some true ↔
        c.predicate.truth holds = some true ∧ holds (fieldCondition f) = some true :=
      Predicate.truth_and_iff holds c.predicate (.leaf false (fieldCondition f))
    rw [List.foldl_cons, ih, hstep, List.forall_mem_cons, and_assoc]

section

variable {fs : List (String × Value)} {key : Criteria}

theorem keyMatch_eq_none_iff : keyMatch fs = none ↔ fs = [] := by
  cases fs <;> simp [keyMatch]

theorem leaves_keyMatch (h : keyMatch fs = some key) : key.leaves = fs.map fieldComparison := by
  cases fs with
  | nil => cases h
  | cons f fs =>
    obtain rfl := Option.some.inj h
    rw [leaves_foldl_and]
    rfl

/-- A row satisfies the match of a key when it has every value of the key. -/
theorem truth_keyMatch (h : keyMatch fs = some key) (holds : Condition Value → Truth) :
    key.predicate.truth holds = some true ↔ ∀ f ∈ fs, holds (fieldCondition f) = some true := by
  cases fs with
  | nil => cases h
  | cons f fs =>
    obtain rfl := Option.some.inj h
    have hfirst : (fieldMatch f).predicate.truth holds = holds (fieldCondition f) := rfl
    rw [truth_foldl_and, hfirst, List.forall_mem_cons]

theorem wellFormed_keyMatch (h : keyMatch fs = some key) : key.WellFormed := by
  intro l hl
  rw [leaves_keyMatch h, List.mem_map] at hl
  obtain ⟨f, -, rfl⟩ := hl
  rfl

end

namespace Schema

theorem isKeyName_iff (s : Schema) (name : String) :
    s.isKeyName name = true ↔ ∃ c ∈ s.keyColumns, c.name = name := by
  simp [isKeyName]

end Schema

namespace Record

variable {r : Record}

theorem mem_key_iff {f : String × Value} :
    f ∈ r.key ↔ f ∈ r.fields ∧ ∃ c ∈ r.schema.keyColumns, c.name = f.1 := by
  rw [key, List.mem_filter, Schema.isKeyName_iff]

theorem key_eq_nil_iff :
    r.key = [] ↔ ∀ c ∈ r.schema.keyColumns, ∀ f ∈ r.fields, f.1 ≠ c.name := by
  rw [List.eq_nil_iff_forall_not_mem]
  constructor
  · intro h c hc f hf he
    exact h f (mem_key_iff.2 ⟨hf, c, hc, he.symm⟩)
  · intro h f hf
    obtain ⟨hf, c, hc, he⟩ := mem_key_iff.1 hf
    exact h c hc f hf he.symm

variable {key : Criteria}

/-- A column of the key is matched when it has a value. -/
theorem exists_leaf_iff (h : keyMatch r.key = some key) {c : Column}
    (hc : c ∈ r.schema.keyColumns) :
    (∃ l ∈ key.leaves, l.column = c.name) ↔ ∃ f ∈ r.fields, f.1 = c.name := by
  rw [leaves_keyMatch h]
  constructor
  · rintro ⟨l, hl, he⟩
    obtain ⟨f, hf, rfl⟩ := List.mem_map.1 hl
    exact ⟨f, (mem_key_iff.1 hf).1, he⟩
  · rintro ⟨f, hf, he⟩
    exact ⟨_, List.mem_map_of_mem (mem_key_iff.2 ⟨hf, c, hc, he.symm⟩), he⟩

theorem truth_key_iff (h : keyMatch r.key = some key) (holds : Condition Value → Truth) :
    key.predicate.truth holds = some true ↔
      ∀ c ∈ r.schema.keyColumns, ∀ f ∈ r.fields, f.1 = c.name →
        holds (fieldCondition f) = some true := by
  rw [truth_keyMatch h]
  constructor
  · intro h c hc f hf he
    exact h f (mem_key_iff.2 ⟨hf, c, hc, he.symm⟩)
  · intro h f hf
    obtain ⟨hf, c, hc, he⟩ := mem_key_iff.1 hf
    exact h c hc f hf he.symm

end Record

namespace UpdateStatement

variable {s s' : UpdateStatement}

theorem assign_eq_ok_iff {source : AssignmentSource} {es : List (String × Value)} :
    s.assign source es = .ok s' ↔
      ∃ a, s.assignments.add source es = .ok a ∧ { s with assignments := a } = s' :=
  map_eq_ok_iff

theorem assignRecord_eq_ok_iff {r : Record} :
    s.assignRecord r = .ok s' ↔
      r.key ≠ [] ∧ ∃ a, s.assignments.add .object r.nonKey = .ok a ∧
        { s with assignments := a, key := keyMatch r.key } = s' := by
  rw [assignRecord]
  split
  · rename_i h
    have hk : r.key = [] := List.isEmpty_iff.1 h
    simp [hk]
  · rename_i h
    have hk : r.key ≠ [] := fun hk => h (List.isEmpty_iff.2 hk)
    rw [map_eq_ok_iff]
    constructor
    · rintro ⟨s₁, h₁, rfl⟩
      obtain ⟨a, ha, rfl⟩ := assign_eq_ok_iff.1 h₁
      exact ⟨hk, a, ha, rfl⟩
    · rintro ⟨-, a, ha, rfl⟩
      exact ⟨_, assign_eq_ok_iff.2 ⟨a, ha, rfl⟩, rfl⟩

theorem assignRecord_eq_keyMissing_iff {r : Record} :
    s.assignRecord r = .error (.keyMissing r.schema.typeName) ↔ r.key = [] := by
  rw [assignRecord]
  split
  · rename_i h
    simpa using h
  · rename_i h
    refine ⟨fun he => ?_, fun hk => absurd (List.isEmpty_iff.2 hk) h⟩
    cases ha : s.assignments.add .object r.nonKey with
    | ok a =>
      rw [assign, ha] at he
      cases he
    | error e =>
      rw [assign, ha] at he
      cases he
      rcases Assignments.error_of_add ha with h | ⟨c, h⟩ <;> cases h

/-- An UPDATE by object is refused for its key only when no column of the key has a value.
Otherwise it matches the key columns that have one, and the rows that agree in these. -/
theorem assignRecord_key (s : UpdateStatement) (r : Record) :
    (s.assignRecord r = .error (.keyMissing r.schema.typeName) ↔
      ∀ c ∈ r.schema.keyColumns, ∀ f ∈ r.fields, f.1 ≠ c.name) ∧
    ∀ s', s.assignRecord r = .ok s' → ∃ key, s'.key = some key ∧
      (∀ c ∈ r.schema.keyColumns,
        (∃ l ∈ key.leaves, l.column = c.name) ↔ ∃ f ∈ r.fields, f.1 = c.name) ∧
      ∀ holds, key.predicate.truth holds = some true ↔
        ∀ c ∈ r.schema.keyColumns, ∀ f ∈ r.fields, f.1 = c.name →
          holds (fieldCondition f) = some true := by
  refine ⟨assignRecord_eq_keyMissing_iff.trans Record.key_eq_nil_iff, ?_⟩
  intro s' h
  obtain ⟨hk, a, -, rfl⟩ := assignRecord_eq_ok_iff.1 h
  cases hm : keyMatch r.key with
  | none => exact absurd (keyMatch_eq_none_iff.1 hm) hk
  | some key =>
    exact ⟨key, rfl, fun c hc => Record.exists_leaf_iff hm hc, Record.truth_key_iff hm⟩

def bookSchema : Schema :=
  ⟨⟨"library", "book"⟩, [⟨"isbn", "isbn", .part⟩, ⟨"shelf", "shelf", .part⟩,
    ⟨"title", "title", .none⟩, ⟨"author", "author", .none⟩], "Book"⟩

def unshelvedBook : Record :=
  ⟨bookSchema, [("isbn", .ofString "978-1"), ("title", .ofString "Atlas")]⟩

/-- Without a shelf the UPDATE goes to the books of that number on all shelves. -/
theorem assignRecord_unshelvedBook :
    ∃ s key, (new (.mapped bookSchema)).assignRecord unshelvedBook = .ok s ∧
      s.key = some key ∧ (∃ c ∈ bookSchema.keyColumns, c.name = "shelf") ∧
      (¬ ∃ l ∈ key.leaves, l.column = "shelf") ∧
      key.predicate.truth (fun c =>
        some (match c with | .compare column _ _ => column == "isbn" | .constant b => b)) =
          some true := by
  refine ⟨_, _, rfl, rfl, ⟨⟨"shelf", "shelf", .part⟩, by decide, rfl⟩, ?_, by decide⟩
  rintro ⟨l, hl, he⟩
  obtain rfl : l = fieldComparison ("isbn", .ofString "978-1") := List.mem_singleton.1 hl
  exact absurd he (by decide)

end UpdateStatement
end Quarry
