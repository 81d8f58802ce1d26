import Quarry.Row

/-!
# Replies

A database answers a query with rows and with counts of affected rows, in any order.
-/
namespace Quarry

structure RowsAffected where
  rows : Nat
  /-- The identifier that the database made last, when it tells. -/
  lastId : Option Int
  deriving DecidableEq

namespace RowsAffected

def zero : RowsAffected := ⟨0, none⟩

/-- Counts add up, and the later identifier wins. -/
def add (a b : RowsAffected) : RowsAffected := ⟨a.rows + b.rows, b.lastId.or a.lastId⟩

def extend (a : RowsAffected) (l : List RowsAffected) : RowsAffected := l.foldl add a

end RowsAffected

inductive Reply where
  | row (r : Row)
  | affected (a : RowsAffected)

end Quarry
