import Quarry.Number.Power

/-!
# Decimal numbers

A decimal is a sign, a coefficient of 96 bits and a scale from 0 to 28: the number
of digits behind the point. Trailing zeros belong to the text but not to the value.
-/
namespace Quarry

def Decimal.coefficientBits : Nat := 96

structure Decimal where
  negative : Bool
  coefficient : Nat
  scale : Nat
  coefficient_lt : coefficient < 2 ^ Decimal.coefficientBits
  scale_le : scale ≤ 28
  deriving DecidableEq

def zeroPadded (width n : Nat) : String :=
  let ds := Nat.toDigits 10 n
  String.ofList (List.replicate (width - ds.length) '0' ++ ds)

namespace Decimal

def ofParts? (negative : Bool) (coefficient scale : Nat) : Option Decimal :=
  if h : coefficient < 2 ^ coefficientBits ∧ scale ≤ 28 then
    some ⟨negative, coefficient, scale, h.1, h.2⟩
  else none

def ofInt? (n : Int) : Option Decimal := ofParts? (decide (n < 0)) n.natAbs 0

def whole (d : Decimal) : Nat := d.coefficient / 10 ^ d.scale

def fraction (d : Decimal) : Nat := d.coefficient % 10 ^ d.scale

def isIntegral (d : Decimal) : Bool := d.fraction == 0

def truncate (d : Decimal) : Int := if d.negative then -(d.whole : Int) else d.whole

def signed (d : Decimal) : Int := if d.negative then -(d.coefficient : Int) else d.coefficient

/-- Equality of values: `1.0` equals `1.00`, and the two zeros are equal. -/
def equals (a b : Decimal) : Bool := a.signed * 10 ^ b.scale == b.signed * 10 ^ a.scale

def text (d : Decimal) : String :=
  (if d.negative then "-" else "") ++ toString d.whole ++
    (if d.scale = 0 then "" else "." ++ zeroPadded d.scale d.fraction)

/-- Read the text of a decimal: a sign, digits, and digits behind a point that count as scale. -/
def parse? (s : String) : Option Decimal := do
  let cs := s.toList
  let (negative, cs) :=
    match cs with
    | '-' :: rest => (true, rest)
    | _ => (false, cs)
  let places := (cs.dropWhile (· ≠ '.')).drop 1
  let digits := cs.takeWhile (· ≠ '.') ++ places
  if digits.isEmpty || !digits.all Char.isDigit then none
  else ofParts? negative (digits.foldl (fun n c => 10 * n + (c.toNat - '0'.toNat)) 0) places.length

end Decimal
end Quarry
