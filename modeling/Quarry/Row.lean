import Quarry.Error
import Quarry.Text.Ascii
import Quarry.Value.Field

/-!
# Rows

A row is a list of values with a list of labels, which need not be equally long. A
column is found by its exact label first, then by the first label that differs from it
in the case of ASCII letters only.
-/
namespace Quarry

structure ColumnInfo where
  name : String
  /-- Counted from 0. -/
  position : Nat
  typeName : String
  deriving DecidableEq

structure Row where
  labels : List String
  values : List Value

namespace Row

def position? (r : Row) (name : String) : Option Nat :=
  (r.labels.findIdx? (· == name)).or (r.labels.findIdx? (Text.equalsIgnoringAsciiCase · name))

def get? (r : Row) (name : String) : Option Value := (r.position? name).bind (r.values[·]?)

def getAs (r : Row) (t : FieldType) (name : String) : Except Error t.Carrier :=
  match r.get? name with
  | none => .error (.of (.columnNotInRow name r.labels))
  | some v => (t.ofValue v).mapError fun e => (Error.ofConversion e).within (.readingColumn name)

/-- The columns in order; a label without a value has the type of NULL. -/
def metadata (r : Row) : List ColumnInfo :=
  r.labels.zipIdx.map fun (name, i) => ⟨name, i, (r.values[i]?.getD .null).typeName⟩

end Row
end Quarry
