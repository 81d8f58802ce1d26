import Quarry.Number.DecimalBinary
import Quarry.Value.Text

/-!
# Conversions between types

A value is converted into the carrier of another type when that loses nothing that
matters: narrower and wider integers within the range of the target, decimals into
integers when they have no fraction, numbers into floating point numbers, characters
and texts into each other, timestamps into instants read as UTC, and texts into
identifiers. A value of the target's own type is always taken as it is.
-/
namespace Quarry

inductive ConversionError where
  | unconvertible (value : Value) (target : SqlType)
  | outOfRange (number : Int) (source target : IntegerType)
  | decimalMisfit (number : Decimal) (target : IntegerType)
  | fractionalPart (number : Decimal) (target : IntegerType)
  | severalCharacters
  | malformedUuid (text : String) (reason : Uuid.Malformation)
  /-- The instant has no UTC date within the calendar; the conversion stops without an answer. -/
  | outsideCalendar (instant : ZonedTimestamp)

def IntegerType.carrierName : IntegerType → String
  | .int8 => "i8"
  | .int16 => "i16"
  | .int32 => "i32"
  | .int64 => "i64"
  | .int128 => "i128"
  | .uint8 => "u8"
  | .uint16 => "u16"
  | .uint32 => "u32"
  | .uint64 => "u64"
  | .uint128 => "u128"

def SqlType.carrierName : SqlType → String
  | boolean => "bool"
  | integer t => t.carrierName
  | binary .single => "f32"
  | binary .double => "f64"
  | decimal => "rust_decimal::decimal::Decimal"
  | char => "char"
  | text => "alloc::string::String"
  | bytes => "alloc::boxed::Box<[u8]>"
  | date => "time::date::Date"
  | time => "time::time::Time"
  | timestamp => "time::plain_date_time::PlainDateTime"
  | zonedTimestamp => "time::offset_date_time::OffsetDateTime"
  | uuid => "uuid::Uuid"

namespace ConversionError

def message : ConversionError → String
  | unconvertible v t => "Cannot convert " ++ v.describedText ++ " to " ++ t.carrierName
  | outOfRange n s t =>
    "Value " ++ toString n ++ ": " ++ s.carrierName ++ " is out of range for " ++ t.carrierName
  | decimalMisfit d t => "Value " ++ d.text ++ ": Decimal does not fit into " ++ t.carrierName
  | fractionalPart _ _ => "The value has a fractional part"
  | severalCharacters =>
    "Cannot convert Value::Varchar containing more then one character into a char"
  | malformedUuid s _ => "Cannot convert \x60" ++ s ++ "\x60 to Uuid"
  | outsideCalendar z => "The instant " ++ z.text ++ " is outside of the calendar"

end ConversionError

/-- How a reading takes a number of another integer type. -/
inductive Passage where
  /-- By its low bits, whatever the number is. -/
  | lowBits
  /-- Only when it is in range. -/
  | checked
  deriving DecidableEq

namespace IntegerType

/-- The integer types that the reading as `t` knows by itself. -/
def ownSources : IntegerType → List (IntegerType × Passage)
  | int8 => [(uint8, .checked), (int16, .checked)]
  | int16 => [(int8, .lowBits), (uint16, .checked), (uint8, .lowBits)]
  | int32 =>
    [(int16, .lowBits), (int8, .lowBits), (uint32, .checked), (uint16, .lowBits), (uint8, .lowBits)]
  | int64 =>
    [(int32, .lowBits), (int16, .lowBits), (int8, .lowBits), (uint64, .checked),
      (uint32, .lowBits), (uint16, .lowBits), (uint8, .lowBits)]
  | int128 =>
    [(int64, .lowBits), (int32, .lowBits), (int16, .lowBits), (int8, .lowBits),
      (uint64, .lowBits), (uint32, .lowBits), (uint16, .lowBits), (uint8, .lowBits)]
  | uint8 => [(int8, .checked), (int16, .checked)]
  | uint16 => [(uint8, .lowBits), (int16, .checked)]
  | uint32 => [(uint16, .lowBits), (uint8, .lowBits)]
  | uint64 => [(uint32, .lowBits), (uint16, .lowBits), (uint8, .lowBits)]
  | uint128 => [(uint64, .lowBits), (uint32, .lowBits), (uint16, .lowBits), (uint8, .lowBits)]

/-- The integer types that every reading knows, unless it knows them by itself. -/
def commonSources : List (IntegerType × Passage) := [(int32, .checked), (int64, .checked)]

/-- How the reading as `t` takes numbers of type `s`; the first source that fits decides. -/
def passage? (t s : IntegerType) : Option Passage :=
  ((t, .lowBits) :: (t.ownSources ++ commonSources)).lookup s

def readsDecimal (t : IntegerType) : Bool := t == int32 || t == int64 || t == uint64

def convert (t s : IntegerType) (n : BoundedInt s) : Except ConversionError (BoundedInt t) :=
  match t.passage? s with
  | some .lowBits => .ok (.ofLowBits t n.val)
  | some .checked =>
    match BoundedInt.ofInt? t n.val with
    | some m => .ok m
    | none => .error (.outOfRange n.val s t)
  | none => .error (.unconvertible (.of (.integer s) n) (.integer t))

/-- A decimal without its fraction as a number of type `t`; a negative one never is a natural
number. -/
def ofTruncated? (t : IntegerType) (d : Decimal) : Option (BoundedInt t) :=
  if d.negative ∧ ¬ t.isSigned then none else BoundedInt.ofInt? t d.truncate

def ofDecimal (t : IntegerType) (d : Decimal) : Except ConversionError (BoundedInt t) :=
  if ¬ t.readsDecimal then .error (.unconvertible (.of .decimal d) (.integer t))
  else if ¬ d.isIntegral then .error (.fractionalPart d t)
  else match t.ofTruncated? d with
    | some m => .ok m
    | none => .error (.decimalMisfit d t)

/-- The decimal that is read from a number of type `s`, if the type is narrow enough. Only the
widest natural numbers are taken as they are, all others by way of signed ones of that width. -/
def toDecimal? (s : IntegerType) (n : BoundedInt s) : Option Decimal :=
  if s.bits ≤ 64 then
    Decimal.ofInt? (if s = uint64 then n.val else (BoundedInt.ofLowBits int64 n.val).val)
  else none

end IntegerType

namespace SqlType

def orRefuse (t s : SqlType) (x : s.Carrier) : Option t.Carrier → Except ConversionError t.Carrier
  | some y => .ok y
  | none => .error (.unconvertible (.of s x) t)

def convert : (t s : SqlType) → s.Carrier → Except ConversionError t.Carrier
  | boolean, boolean, b => .ok b
  | boolean, integer s, n =>
    boolean.orRefuse (integer s) n (if s.bits ≤ 64 then some (n.val != 0) else none)
  | integer t, integer s, n => t.convert s n
  | integer t, decimal, d => t.ofDecimal d
  | binary q, binary _, x => .ok (x.convert q)
  | binary q, decimal, d => .ok (d.toBinary q)
  | decimal, decimal, d => .ok d
  | decimal, integer s, n =>
    decimal.orRefuse (integer s) n (s.toDecimal? n)
  | decimal, binary p, x => decimal.orRefuse (binary p) x (Decimal.ofBinary? x)
  | char, char, c => .ok c
  | char, text, s =>
    match s.toList with
    | [c] => .ok c
    | _ => .error .severalCharacters
  | text, text, s => .ok s
  | text, char, c => .ok (String.singleton c)
  | bytes, bytes, b => .ok b
  | date, date, d => .ok d
  | time, time, c => .ok c
  | timestamp, timestamp, t => .ok t
  | timestamp, zonedTimestamp, z =>
    match z.toUtc? with
    | some t => .ok t
    | none => .error (.outsideCalendar z)
  | zonedTimestamp, zonedTimestamp, z => .ok z
  | zonedTimestamp, timestamp, t => .ok (.ofUtc t)
  | uuid, uuid, u => .ok u
  | uuid, text, s =>
    match Uuid.parse s with
    | .ok u => .ok u
    | .error m => .error (.malformedUuid s m)
  | t, s, x => .error (.unconvertible (.of s x) t)

/-- Read a value as type `t`; no NULL can be read. -/
def read (t : SqlType) : Value → Except ConversionError t.Carrier
  | .typed s (some x) => t.convert s x
  | v => .error (.unconvertible v t)

end SqlType
end Quarry
