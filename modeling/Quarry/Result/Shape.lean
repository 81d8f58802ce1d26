import Quarry.ColumnMap
import Quarry.Entity
import Quarry.Log

/-!
# Shapes

A shape says how a row becomes a result. A row that cannot be mapped yields a mapping
error, which is reported.
-/
namespace Quarry

inductive Shape (α : Type) where
  /-- Through an entity. -/
  | typed (f : Row → Except Error α)
  /-- Always possible. -/
  | generic (f : Row → α)
  /-- Through a function of the caller. -/
  | custom (f : Row → Except Error α)

namespace Shape

variable {α β : Type}

def ofEntity (e : Entity α) : Shape α := typed e.ofRow

def columnMap : Shape ColumnMap := generic ColumnMap.ofRow

def name : Shape α → String
  | typed _ => "ResultShape::Typed"
  | generic _ => "ResultShape::Generic"
  | custom _ => "ResultShape::Custom"

def map (f : α → β) : Shape α → Shape β
  | typed g => typed fun r => (g r).map f
  | generic g => generic fun r => f (g r)
  | custom g => custom fun r => (g r).map f

/-- What the shape makes of a row before failures are classified. -/
def read : Shape α → Row → Except Error α
  | typed f, r => f r
  | generic f, r => .ok (f r)
  | custom f, r => f r

def apply (s : Shape α) (r : Row) : Except Error α :=
  (s.read r).mapError (Error.within (.kind .mapping))

def report (s : Shape α) (r : Row) : List LogRecord :=
  match s.apply r with
  | .ok _ => []
  | .error e => e.report

end Shape
end Quarry
