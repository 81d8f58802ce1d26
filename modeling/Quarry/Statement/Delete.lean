import Quarry.Criteria
import Quarry.Statement.Target

/-!
# DELETE statements
-/
namespace Quarry

structure DeleteStatement where
  target : Target
  /-- Without criteria every row is deleted. -/
  criteria : Option Criteria

namespace DeleteStatement

def new (target : Target) : DeleteStatement := ⟨target, none⟩

def matching (s : DeleteStatement) (criteria : Criteria) : DeleteStatement :=
  { s with criteria := some criteria }

end DeleteStatement
end Quarry
