import Quarry.Proofs.Sql.CriteriaText

/-!
# Sentences

A sentence is what the text of a statement says, with something of a type `α` in the place
of each bound value. In a legible dialect the text of a statement is read back as its
sentence, in which every bound value has become the number of its own mark.
-/

namespace Quarry

open Lexeme (expect spell readName readList)

/-- Columns with what is assigned to them; nothing stands for NULL. -/
abbrev Entries (α : Type) := List (String × Option α)

inductive Sentence (α : Type) where
  /-- No columns stand for all of them, and the window is the limit with the offset. -/
  | select (columns : List String) (table : TableName) (filter : Option (Predicate α))
      (order : List SortKey) (window : Option (Nat × Nat))
  | insert (table : TableName) (entries : Entries α) (returning : List String)
  | update (table : TableName) (entries : Entries α) (filter : Option (Predicate α))
  | delete (table : TableName) (filter : Option (Predicate α))

namespace Entries

variable {α β : Type}

def values (es : Entries α) : List α := es.filterMap Prod.snd

def map (f : α → β) (es : Entries α) : Entries β := List.map (fun e => (e.1, e.2.map f)) es

def number (n : Nat) : Entries α → Entries Nat
  | [] => []
  | (c, none) :: es => (c, none) :: number n es
  | (c, some _) :: es => (c, some (n + 1)) :: number (n + 1) es

end Entries

namespace Sentence

variable {α β : Type}

def operands : Sentence α → List α
  | select _ _ filter _ _ | update _ _ filter | delete _ filter =>
    filter.elim [] Predicate.operands
  | insert _ _ _ => []

def values : Sentence α → List α
  | select _ _ filter _ _ | delete _ filter => filter.elim [] Predicate.operands
  | insert _ entries _ => entries.values
  | update _ entries filter => entries.values ++ filter.elim [] Predicate.operands

def map (f : α → β) : Sentence α → Sentence β
  | select columns table filter order window =>
    select columns table (filter.map (·.map f)) order window
  | insert table entries returning => insert table (entries.map f) returning
  | update table entries filter => update table (entries.map f) (filter.map (·.map f))
  | delete table filter => delete table (filter.map (·.map f))

def number : Sentence α → Sentence Nat
  | select columns table filter order window =>
    select columns table (filter.map (·.number 0)) order window
  | insert table entries returning => insert table (entries.number 0) returning
  | update table entries filter =>
    update table (entries.number 0) (filter.map (·.number entries.values.length))
  | delete table filter => delete table (filter.map (·.number 0))

/-- The sentence with nothing but the places of its values. -/
def outline (s : Sentence α) : Sentence Unit := s.map fun _ => ()

/-- Put parameters in the places of their numbers. -/
def fill (s : Sentence Nat) (parameters : List α) : Sentence (Option α) :=
  s.map fun k => parameters[k - 1]?

end Sentence

namespace Dialect

def assigned (d : Dialect) (v : Value) : Option Value :=
  if v.isNull && !d.bindsNull then none else some v

def entries (d : Dialect) (a : Assignments) : Entries Value :=
  a.entries.map fun e => (e.1, d.assigned e.2)

/-- What a statement says in a dialect. -/
def sentence (d : Dialect) : Statement → Sentence Value
  | .select s =>
    .select s.projection.columns s.target.table (s.criteria.map Criteria.predicate) s.sort.keys
      (s.page.map fun p => (p.limit, p.offset))
  | .insert s => .insert s.target.table (d.entries s.assignments) s.returning.columns
  | .update s =>
    .update s.target.table (d.entries s.assignments) (s.filter.map Criteria.predicate)
  | .delete s => .delete s.target.table (s.criteria.map Criteria.predicate)

end Dialect

namespace Entries

variable {α β : Type}

theorem outline_number (n : Nat) (es : Entries α) :
    (es.number n).map (fun _ => ()) = es.map fun _ => () := by
  induction es generalizing n with
  | nil => rfl
  | cons e es ih =>
    obtain ⟨c, v⟩ := e
    cases v with
    | none => exact congrArg _ (ih n)
    | some v => exact congrArg _ (ih (n + 1))

theorem map_getElem?_number (es : Entries α) (before after : List α) :
    (es.number before.length).map (fun k => (before ++ es.values ++ after)[k - 1]?) =
      es.map some := by
  induction es generalizing before with
  | nil => rfl
  | cons e es ih =>
    obtain ⟨c, v⟩ := e
    cases v with
    | none => exact congrArg _ (ih before)
    | some v =>
      have hv : before ++ values ((c, some v) :: es) ++ after =
          (before ++ [v]) ++ values es ++ after := by
        simp [values]
      have hi := ih (before ++ [v])
      rw [List.length_append] at hi
      have hn : number before.length ((c, some v) :: es) =
          (c, some (before.length + 1)) :: number (before.length + 1) es := rfl
      have hget : (before ++ [v] ++ values es ++ after)[before.length + 1 - 1]? = some v := by
        simp
      rw [hn, hv]
      refine List.cons_eq_cons.2 ⟨?_, hi⟩
      simp only [Option.map_some, hget]

end Entries

namespace Sentence

variable {α : Type}

theorem outline_number (s : Sentence α) : s.number.outline = s.outline := by
  have hfilter : ∀ n (p : Predicate α), (p.number n).map (fun _ => ()) = p.map fun _ => () :=
    fun n p => p.outline_number n
  cases s with
  | select columns table filter order window =>
    simp [number, outline, map, Option.map_map, Function.comp_def, hfilter]
  | insert table entries returning => simp [number, outline, map, Entries.outline_number]
  | update table entries filter =>
    simp [number, outline, map, Entries.outline_number, Option.map_map, Function.comp_def, hfilter]
  | delete table filter =>
    simp [number, outline, map, Option.map_map, Function.comp_def, hfilter]

theorem length_operands_number (s : Sentence α) :
    s.number.operands.length = s.operands.length := by
  have hfilter : ∀ n (f : Option (Predicate α)),
      ((f.map (·.number n)).elim [] Predicate.operands).length =
        (f.elim [] Predicate.operands).length := by
    intro n f
    cases f with
    | none => rfl
    | some p => simp [Predicate.operands_number]
  cases s with
  | select columns table filter order window => exact hfilter 0 filter
  | insert table entries returning => rfl
  | update table entries filter => exact hfilter _ filter
  | delete table filter => exact hfilter 0 filter

/-- Putting the values in the places of their numbers gives back the sentence. -/
theorem fill_number (s : Sentence α) : s.number.fill s.values = s.map some := by
  have hfilter : ∀ p : Predicate α, (p.number 0).map (fun k => p.operands[k - 1]?) =
      p.map some := fun p => by
    simpa using p.map_getElem?_number [] []
  cases s with
  | select columns table filter order window =>
    cases filter with
    | none => rfl
    | some p => simp [number, fill, map, values, hfilter]
  | insert table entries returning =>
    have he := entries.map_getElem?_number [] []
    simp only [List.length_nil, List.nil_append, List.append_nil] at he
    simp only [number, fill, map, values, he]
  | update table entries filter =>
    have he := entries.map_getElem?_number [] (filter.elim [] Predicate.operands)
    simp only [List.length_nil, List.nil_append] at he
    cases filter with
    | none => simp only [number, fill, map, values, he, Option.map_none]
    | some p =>
      have hp := p.map_getElem?_number entries.values []
      simp only [List.append_nil] at hp
      simp only [number, fill, map, values, Option.map_some, Option.elim_some] at he ⊢
      rw [he, hp]
  | delete table filter =>
    cases filter with
    | none => rfl
    | some p => simp [number, fill, map, values, hfilter]

end Sentence
end Quarry
