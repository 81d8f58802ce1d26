import Quarry.Calendar.Timestamp
import Quarry.Number.Binary
import Quarry.Number.Integer
import Quarry.Uuid

/-!
# Values

A value is the untyped NULL or belongs to a type; a value of a type is either a NULL
that still knows its type or an element of the type's carrier. Two values are equal
when they have the same type and equal contents, where numbers and instants are
compared by what they mean and not by how they are written.
-/
namespace Quarry

inductive SqlType where
  | boolean
  | integer (t : IntegerType)
  | binary (p : Precision)
  | decimal
  | char
  | text
  | bytes
  | date
  | time
  | timestamp
  | zonedTimestamp
  | uuid
  deriving DecidableEq

/-- What a value of a type holds when it is not NULL. -/
@[reducible]
def SqlType.Carrier : SqlType → Type
  | boolean => Bool
  | integer t => BoundedInt t
  | binary p => Binary p
  | decimal => Decimal
  | char => Char
  | text => String
  | bytes => List UInt8
  | date => Date
  | time => ClockTime
  | timestamp => Timestamp
  | zonedTimestamp => ZonedTimestamp
  | uuid => Uuid

inductive Value where
  | null
  | typed (t : SqlType) (content : Option t.Carrier)

namespace SqlType

def equals : (t : SqlType) → t.Carrier → t.Carrier → Bool
  | boolean, a, b => decide (a = b)
  | integer _, a, b => decide (a = b)
  | binary _, a, b => a.equals b
  | decimal, a, b => a.equals b
  | char, a, b => decide (a = b)
  | text, a, b => decide (a = b)
  | bytes, a, b => decide (a = b)
  | date, a, b => decide (a = b)
  | time, a, b => decide (a = b)
  | timestamp, a, b => decide (a = b)
  | zonedTimestamp, a, b => a.equals b
  | uuid, a, b => decide (a = b)

end SqlType

def IntegerType.columnName : IntegerType → String
  | .int8 => "TINYINT"
  | .int16 => "SMALLINT"
  | .int32 => "INTEGER"
  | .int64 => "BIGINT"
  | .int128 => "HUGEINT"
  | .uint8 => "UTINYINT"
  | .uint16 => "USMALLINT"
  | .uint32 => "UINTEGER"
  | .uint64 => "UBIGINT"
  | .uint128 => "UHUGEINT"

def SqlType.columnName : SqlType → String
  | boolean => "BOOLEAN"
  | integer t => t.columnName
  | binary .single => "FLOAT"
  | binary .double => "DOUBLE"
  | decimal => "DECIMAL"
  | char => "CHAR"
  | text => "VARCHAR"
  | bytes => "BLOB"
  | date => "DATE"
  | time => "TIME"
  | timestamp => "TIMESTAMP"
  | zonedTimestamp => "TIMESTAMPTZ"
  | uuid => "UUID"

namespace Value

/-- A value of type `t` that is not NULL. -/
def of (t : SqlType) (x : t.Carrier) : Value := typed t (some x)

def ofString (s : String) : Value := of .text s

def isNull : Value → Bool
  | null => true
  | typed _ content => content.isNone

@[simp] theorem isNull_null : null.isNull = true := rfl

@[simp] theorem isNull_typed {t : SqlType} (x : Option t.Carrier) : (typed t x).isNull = x.isNone := rfl

def typeName : Value → String
  | null => "NULL"
  | typed t _ => t.columnName

/-- Equality of values; NULLs of one type are equal. -/
def equals : Value → Value → Bool
  | null, null => true
  | typed s a, typed t b =>
    if h : s = t then
      match h ▸ a, b with
      | some a, some b => t.equals a b
      | none, none => true
      | _, _ => false
    else false
  | _, _ => false

def allEqual : List Value → List Value → Bool
  | [], [] => true
  | a :: as, b :: bs => a.equals b && allEqual as bs
  | _, _ => false

end Value
end Quarry
