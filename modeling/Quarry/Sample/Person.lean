import Quarry.Entity

/-!
# The table of persons

An entity to try the library on: a number as key and two names, all of them optional.
-/
namespace Quarry.Sample

structure Person where
  id : Option (BoundedInt .int64)
  firstname : Option String
  lastname : Option String
  deriving DecidableEq

namespace Person

def idType : FieldType := .optional (.plain (.integer .int64))

def nameType : FieldType := .optional (.plain .text)

def schema (typeName : String) : Schema where
  table := .unqualified "person"
  columns :=
    [⟨"id", "id", .whole⟩, ⟨"firstname", "firstname", .none⟩, ⟨"lastname", "lastname", .none⟩]
  typeName := typeName

def ofRow (r : Row) : Except Error Person := do
  let id ← r.getAs idType "id"
  let firstname ← r.getAs nameType "firstname"
  let lastname ← r.getAs nameType "lastname"
  .ok ⟨id, firstname, lastname⟩

def fields (p : Person) : List (String × Value) :=
  (p.id.map fun n => ("id", .of (.integer .int64) n)).toList ++
    (p.firstname.map fun s => ("firstname", .ofString s)).toList ++
    (p.lastname.map fun s => ("lastname", .ofString s)).toList

def entity (typeName : String) : Entity Person := ⟨schema typeName, ofRow, fields⟩

end Person
end Quarry.Sample
