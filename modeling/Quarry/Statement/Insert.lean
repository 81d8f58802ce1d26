import Quarry.Statement.Assignments
import Quarry.Statement.Projection
import Quarry.Statement.Target

/-!
# INSERT statements
-/
namespace Quarry

structure InsertStatement where
  target : Target
  assignments : Assignments
  /-- The columns whose generated values are returned; none when this is `Projection.all`. -/
  returning : Projection

inductive InsertStep where
  | value (column : String) (value : Value)
  | usingRecord (record : Record)
  | returning (projection : Projection)

namespace InsertStatement

def new (target : Target) : InsertStatement := ⟨target, .empty, .all⟩

def assign (s : InsertStatement) (source : AssignmentSource) (entries : List (String × Value)) :
    Except BuildError InsertStatement :=
  (s.assignments.add source entries).map fun assignments => { s with assignments }

def apply (s : InsertStatement) : InsertStep → Except BuildError InsertStatement
  | .value column value => s.assign .explicit [(column, value)]
  | .usingRecord record => s.assign .object record.fields
  | .returning returning => .ok { s with returning }

end InsertStatement
end Quarry
