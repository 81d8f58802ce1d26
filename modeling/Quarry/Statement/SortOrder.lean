import Quarry.Error

/-!
# Sort orders

An ordered list of columns with directions, in which a column stands once.
-/
namespace Quarry

inductive Direction where
  | ascending
  | descending
  deriving DecidableEq

structure SortKey where
  column : String
  direction : Direction
  deriving DecidableEq

structure SortOrder where
  keys : List SortKey
  nodup : (keys.map SortKey.column).Nodup
  deriving DecidableEq

namespace SortOrder

def unsorted : SortOrder := ⟨[], by simp⟩

def ofKey (k : SortKey) : SortOrder := ⟨[k], by simp⟩

def columns (s : SortOrder) : List String := s.keys.map SortKey.column

theorem nodup_snoc {s : SortOrder} {k : SortKey} (h : k.column ∉ s.columns) :
    ((s.keys ++ [k]).map SortKey.column).Nodup := by
  simp only [List.map_append, List.map_cons, List.map_nil]
  refine List.nodup_append.2 ⟨s.nodup, by simp, ?_⟩
  intro a ha b hb
  simp only [List.mem_singleton] at hb
  rintro rfl
  exact h (hb ▸ ha)

def add (s : SortOrder) (k : SortKey) : Except BuildError SortOrder :=
  if h : k.column ∈ s.columns then .error (.columnSortedTwice k.column)
  else .ok ⟨s.keys ++ [k], nodup_snoc h⟩

def ofKeys (keys : List SortKey) : Except BuildError SortOrder := keys.foldlM add unsorted

def isUnsorted (s : SortOrder) : Bool := s.keys.isEmpty

end SortOrder
end Quarry
