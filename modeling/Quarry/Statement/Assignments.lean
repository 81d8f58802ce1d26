import Quarry.Error

/-!
# Assignments

The column values of an INSERT or UPDATE, in order and each column once. They come
from explicit calls or from an object, never from both.
-/
namespace Quarry

inductive AssignmentSource where
  | none
  | explicit
  | object
  deriving DecidableEq

structure Assignments where
  source : AssignmentSource
  entries : List (String × Value)
  nodup : (entries.map Prod.fst).Nodup

namespace Assignments

def empty : Assignments := ⟨.none, [], by simp⟩

def columns (a : Assignments) : List String := a.entries.map Prod.fst

theorem nodup_snoc {a : Assignments} {c : String} (h : c ∉ a.columns) (v : Value) :
    ((a.entries ++ [(c, v)]).map Prod.fst).Nodup := by
  simp only [List.map_append, List.map_cons, List.map_nil]
  refine List.nodup_append.2 ⟨a.nodup, by simp, ?_⟩
  intro x hx y hy
  simp only [List.mem_singleton] at hy
  rintro rfl
  exact h (hy ▸ hx)

def assign (a : Assignments) (e : String × Value) : Except BuildError Assignments :=
  if h : e.1 ∈ a.columns then .error (.columnAssignedTwice e.1)
  else .ok { a with entries := a.entries ++ [(e.1, e.2)], nodup := nodup_snoc h e.2 }

/-- Append values that come from `source`, which must be the source of those before. -/
def add (a : Assignments) (source : AssignmentSource) (entries : List (String × Value)) :
    Except BuildError Assignments :=
  if a.source ≠ .none ∧ a.source ≠ source then .error .sourcesMixed
  else entries.foldlM assign { a with source }

def get? (a : Assignments) (column : String) : Option Value := a.entries.lookup column

def isEmpty (a : Assignments) : Bool := a.entries.isEmpty

end Assignments
end Quarry
