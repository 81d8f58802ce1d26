import Quarry.Number.Binary
import Quarry.Number.Decimal
import Quarry.Number.Power

/-!
# Between decimal and binary numbers

A decimal becomes a binary number by adding its integral part and its fraction in
double precision and rounding the sum to as many decimal places as the scale has.
A binary number becomes a decimal by trading factors of two for factors of five
within the bits of a coefficient and then dropping the digits beyond its own precision.
-/
namespace Quarry

/-- A decimal read from a binary number keeps a coefficient of this many bits where it can
drop digits. -/
def Precision.decimalBits : Precision → Nat
  | .single => 24
  | .double => 52

namespace Decimal

/-- The double that is read from `d`. A zero without places has no sign. -/
def toDouble (d : Decimal) : Binary .double :=
  let ofNat := Binary.ofNat .double
  if d.scale = 0 then (ofNat d.coefficient).withSign (d.negative && d.coefficient != 0)
  else
    let power := ofNat (10 ^ d.scale)
    let whole := ofNat d.whole
    let fraction := (ofNat d.fraction).quotient power
    if fraction.isZero then whole.withSign d.negative
    else
      let places := ((whole.sum fraction).product power).roundAway
      (places.quotient power).withSign d.negative

def toBinary (p : Precision) (d : Decimal) : Binary p := d.toDouble.convert p

/-- Trade `n` halvings for factors of five: an even mantissa is halved, an odd one multiplied
while it has room, else halved with loss. A halving raises the exponent of ten. -/
def tradeHalves : Nat → Nat → Int → Nat × Int
  | 0, m, e => (m, e)
  | n + 1, m, e =>
    if m % 2 = 0 then tradeHalves n (m / 2) (e + 1)
    else if 5 * m < 2 ^ coefficientBits then tradeHalves n (5 * m) e
    else tradeHalves n (m / 2) (e + 1)

/-- Trade `n` doublings for divisions by five: the mantissa is doubled while it has room,
else divided; it fails when too much of the exponent of ten would be lost. -/
def tradeDoubles : Nat → Nat → Int → Option (Nat × Int)
  | 0, m, e => some (m, e)
  | n + 1, m, e =>
    if 2 * m < 2 ^ coefficientBits then tradeDoubles n (2 * m) (e - 1)
    else if 2 * e > n + 1 then none
    else tradeDoubles n (m / 5) e

def raise : Nat → Nat → Option Nat
  | 0, m => some m
  | n + 1, m => if 10 * m < 2 ^ coefficientBits then raise n (10 * m) else none

/-- Drop `n` digits, each rounded by itself; there is no mantissa left once it comes to nothing
before it is rounded. -/
def dropDigits : Nat → Nat → Option Nat
  | 0, m => some m
  | n + 1, m =>
    if m / 10 = 0 then none
    else dropDigits n (if m % 10 ≥ 5 then m / 10 + 1 else m / 10)

def dropBeyond (limit : Nat) : Nat → Nat → Nat × Nat
  | 0, m => (m, 0)
  | scale + 1, m =>
    if m < limit then (m, scale + 1)
    else dropBeyond limit scale (if m % 10 ≥ 5 then m / 10 + 1 else m / 10)

def dropZeros : Nat → Nat → Nat × Nat
  | 0, m => (m, 0)
  | scale + 1, m => if m % 10 = 0 then dropZeros scale (m / 10) else (m, scale + 1)

def settle (negative : Bool) (limit m : Nat) (e : Int) : Option Decimal :=
  if 0 ≤ e then do ofParts? negative (← raise e.toNat m) 0
  else
    match dropDigits ((-e).toNat - 28) m with
    | none => ofParts? negative 0 0
    | some m =>
      let (m, scale) := dropBeyond limit (min (-e).toNat 28) m
      let (m, scale) := dropZeros scale m
      ofParts? negative m scale

def ofBinary? {p : Precision} (x : Binary p) : Option Decimal :=
  if x.isNaN || x.isInfinite then none
  else if x.isZero then ofParts? x.negative 0 0
  else
    let e := x.exponent
    let traded :=
      if e < 0 then some (tradeHalves (-e).toNat x.significand e)
      else tradeDoubles e.toNat x.significand e
    traded.bind fun (m, e) => settle x.negative (2 ^ p.decimalBits) m e

end Decimal
end Quarry
