import Quarry.Criteria
import Quarry.Statement.Assignments
import Quarry.Statement.Target

/-!
# UPDATE statements

An UPDATE by object assigns the fields that do not belong to the key and matches the
key. The match stays when other criteria are set: a row must satisfy both.
-/
namespace Quarry

structure UpdateStatement where
  target : Target
  assignments : Assignments
  /-- The match of the primary key of the object that was used last. -/
  key : Option Criteria
  criteria : Option Criteria

inductive UpdateStep where
  | set (entries : List (String × Value))
  | usingRecord (record : Record)
  | matching (criteria : Criteria)

def fieldMatch (f : String × Value) : Criteria := .leaf ⟨f.1, .equal, [f.2], false⟩

def keyMatch : List (String × Value) → Option Criteria
  | [] => none
  | f :: fs => some (fs.foldl (fun c f => c.and (fieldMatch f)) (fieldMatch f))

namespace UpdateStatement

def new (target : Target) : UpdateStatement := ⟨target, .empty, none, none⟩

def assign (s : UpdateStatement) (source : AssignmentSource) (entries : List (String × Value)) :
    Except BuildError UpdateStatement :=
  (s.assignments.add source entries).map fun assignments => { s with assignments }

/-- Assign the fields of the record outside of its key and match those of the key. -/
def assignRecord (s : UpdateStatement) (r : Record) : Except BuildError UpdateStatement :=
  if r.key.isEmpty then .error (.keyMissing r.schema.typeName)
  else (s.assign .object r.nonKey).map fun s => { s with key := keyMatch r.key }

def apply (s : UpdateStatement) : UpdateStep → Except BuildError UpdateStatement
  | .set entries => s.assign .explicit entries
  | .usingRecord record => s.assignRecord record
  | .matching criteria => .ok { s with criteria := some criteria }

/-- What a row must satisfy: the match of the key, then the criteria. -/
def filter (s : UpdateStatement) : Option Criteria :=
  match s.key, s.criteria with
  | some key, some criteria => some (key.and criteria)
  | some key, none => some key
  | none, criteria => criteria

end UpdateStatement
end Quarry
