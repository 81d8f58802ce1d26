import Quarry.Statement.Delete
import Quarry.Statement.Insert
import Quarry.Statement.Select
import Quarry.Statement.Update

/-!
# Statements

The four kinds of statements, and what only a finished statement can be asked: that
its table has a name and that it assigns something when it must.
-/
namespace Quarry

inductive Statement where
  | select (s : SelectStatement)
  | insert (s : InsertStatement)
  | update (s : UpdateStatement)
  | delete (s : DeleteStatement)

namespace Statement

def target : Statement → Target
  | select s => s.target
  | insert s => s.target
  | update s => s.target
  | delete s => s.target

def filter : Statement → Option Criteria
  | select s => s.criteria
  | insert _ => none
  | update s => s.filter
  | delete s => s.criteria

def validate (s : Statement) : Except BuildError Unit := do
  s.target.validate
  match s with
  | select _ | delete _ => .ok ()
  | insert s => if s.assignments.isEmpty then .error .nothingToInsert else .ok ()
  | update s => if s.assignments.isEmpty then .error .nothingToUpdate else .ok ()

end Statement
end Quarry
