import Quarry.Criteria
import Quarry.Statement.Page
import Quarry.Statement.Projection
import Quarry.Statement.SortOrder
import Quarry.Statement.Target

/-!
# SELECT statements
-/
namespace Quarry

structure SelectStatement where
  target : Target
  projection : Projection
  criteria : Option Criteria
  sort : SortOrder
  page : Option Page

/-- A call that extends a SELECT statement; later calls replace earlier ones of their kind. -/
inductive SelectStep where
  | project (projection : Projection)
  | matching (criteria : Criteria)
  | orderBy (sort : SortOrder)
  | page (page : Page)

namespace SelectStatement

/-- A mapped table is projected on its columns, a named one on all of them. -/
def new (target : Target) : SelectStatement :=
  ⟨target, ⟨target.mappedColumns⟩, none, .unsorted, none⟩

def apply (s : SelectStatement) : SelectStep → SelectStatement
  | .project projection => { s with projection }
  | .matching criteria => { s with criteria := some criteria }
  | .orderBy sort => { s with sort }
  | .page page => { s with page := some page }

end SelectStatement
end Quarry
