import Quarry.Number.Shortest
import Quarry.Text.Quoted
import Quarry.Value.Basic

/-!
# Texts of values

A value has two texts. The plain one shows the contents as a reader expects them;
the described one, used in messages, names the type and escapes characters.
-/
namespace Quarry

def SqlType.plainText : (t : SqlType) → t.Carrier → String
  | boolean, b => if b then "true" else "false"
  | integer _, n => toString n.val
  | binary _, x => x.text
  | decimal, d => d.text
  | char, c => String.singleton c
  | text, s => "'" ++ s ++ "'"
  | bytes, b => "<" ++ toString b.length ++ " bytes>"
  | date, d => d.text
  | time, t => t.text
  | timestamp, t => t.text
  | zonedTimestamp, z => z.text
  | uuid, u => u.text

def SqlType.describedText : (t : SqlType) → t.Carrier → String
  | binary _, x => x.markedText
  | char, c => Text.quotedChar c
  | text, s => Text.quotedString s
  | bytes, b => "[" ++ ", ".intercalate (b.map fun n => toString n.toNat) ++ "]"
  | t, x => t.plainText x

def IntegerType.variantName : IntegerType → String
  | .int8 => "Int8"
  | .int16 => "Int16"
  | .int32 => "Int32"
  | .int64 => "Int64"
  | .int128 => "Int128"
  | .uint8 => "UInt8"
  | .uint16 => "UInt16"
  | .uint32 => "UInt32"
  | .uint64 => "UInt64"
  | .uint128 => "UInt128"

def SqlType.variantName : SqlType → String
  | boolean => "Boolean"
  | integer t => t.variantName
  | binary .single => "Float32"
  | binary .double => "Float64"
  | decimal => "Decimal"
  | char => "Char"
  | text => "Varchar"
  | bytes => "Blob"
  | date => "Date"
  | time => "Time"
  | timestamp => "Timestamp"
  | zonedTimestamp => "TimestampWithTimezone"
  | uuid => "Uuid"

namespace Value

def plainText : Value → String
  | null => "NULL"
  | typed _ none => "NULL"
  | typed t (some x) => t.plainText x

def describedText : Value → String
  | null => "Null"
  | typed t none => t.variantName ++ "(None)"
  | typed t (some x) => t.variantName ++ "(Some(" ++ t.describedText x ++ "))"

end Value
end Quarry
