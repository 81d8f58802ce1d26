import Quarry.Value.Conversion

/-!
# Fields

A field of an entity has a type that is read from a value and written back to it.
It may be optional, and then NULL stands for its absence; and it may be held by
reference, which changes nothing in how it is read.
-/
namespace Quarry

inductive FieldType where
  | plain (t : SqlType)
  | optional (t : FieldType)
  | held (t : FieldType)
  deriving DecidableEq

namespace FieldType

@[reducible]
def Carrier : FieldType → Type
  | plain t => t.Carrier
  | optional t => Option t.Carrier
  | held t => t.Carrier

def base : FieldType → SqlType
  | plain t => t
  | optional t => t.base
  | held t => t.base

def empty (t : FieldType) : Value := .typed t.base none

def toValue : (t : FieldType) → t.Carrier → Value
  | plain t, x => .of t x
  | optional t, some x => t.toValue x
  | optional t, none => t.empty
  | held t, x => t.toValue x

def ofValue : (t : FieldType) → Value → Except ConversionError t.Carrier
  | plain t, v => t.read v
  | optional t, v => if v.isNull then .ok none else (t.ofValue v).map some
  | held t, v => t.ofValue v

/-- Read a value as the type of the field and write it back. -/
def normalize (t : FieldType) (v : Value) : Except ConversionError Value :=
  (t.ofValue v).map t.toValue

@[simp] theorem isNull_empty (t : FieldType) : t.empty.isNull = true := rfl

end FieldType
end Quarry
