import Quarry.Number.Binary
import Quarry.Number.Power

/-!
# Shortest decimal text of binary numbers

The text of a finite number shows the fewest digits that read back as the number;
among those of equal length the nearest, and of two equally near ones the greater.
The reals that read back form an interval around the number that holds its ends
when the significand is even. On the decimal grid with a given number of digits
only the two neighbours of the number can lie in that interval.
-/
namespace Quarry

structure Digits where
  digits : Nat
  exponent : Int

def decimalDigits (n : Nat) : List Char := Nat.toDigits 10 n

def decimalExponent (num den : Nat) : Int :=
  if den ≤ num then (decimalDigits (num / den)).length - 1
  else -((decimalDigits ((den + num - 1) / num - 1)).length : Int)

namespace Digits

def strip : Nat → Digits → Digits
  | 0, d => d
  | fuel + 1, d =>
    if d.digits % 10 = 0 then strip fuel ⟨d.digits / 10, d.exponent + 1⟩ else d

end Digits

/-- Reals that read back as one number, over the common denominator `den`: the number is
`value`, and the interval reaches from `low` to `high`, with or without its ends. -/
structure Interval where
  low : Nat
  value : Nat
  high : Nat
  den : Nat
  closed : Bool

namespace Interval

def contains (i : Interval) (n : Nat) : Bool :=
  if i.closed then i.low ≤ n && n ≤ i.high else i.low < n && n < i.high

def onGrid (i : Interval) (e : Int) : Option Digits :=
  let unit := i.den * 10 ^ e.toNat
  let scale := 10 ^ (-e).toNat
  let i := { i with low := i.low * scale, value := i.value * scale, high := i.high * scale }
  let below := i.value / unit
  let rest := i.value % unit
  match i.contains (below * unit), i.contains ((below + 1) * unit) with
  | false, false => none
  | true, false => some ⟨below, e⟩
  | false, true => some ⟨below + 1, e⟩
  | true, true => some ⟨if unit ≤ 2 * rest then below + 1 else below, e⟩

/-- The first grid with a neighbour that reads back; seventeen digits always suffice. -/
def shortest (i : Interval) : Digits :=
  let e := decimalExponent i.value i.den
  match (List.range 17).findSome? fun (n : Nat) => i.onGrid (e - n) with
  | some d => d.strip 17
  | none => ⟨i.value / i.den, 0⟩

end Interval

namespace Binary

variable {p : Precision}

/-- The reals that read back as `x`, in quarters of its last place: the gap below a power of
two is half as wide as the one above. -/
def interval (x : Binary p) : Interval :=
  let m := x.significand
  let (up, down) := scaleByTwo 1 (x.exponent - 2)
  let narrow := m = 2 ^ p.fractionBits && 2 ^ (p.fractionBits + 1) ≤ x.magnitude
  { low := (if narrow then 4 * m - 1 else 4 * m - 2) * up
    value := 4 * m * up
    high := (4 * m + 2) * up
    den := down
    closed := m % 2 == 0 }

def shortest (x : Binary p) : Digits := x.interval.shortest

/-- Texts of what has no digits, and the given layout for the rest; a sign precedes all but
what is not a number. -/
def textWith (x : Binary p) (zero : String) (layout : Digits → String) : String :=
  if x.isNaN then "NaN"
  else (if x.negative then "-" else "") ++
    (if x.isInfinite then "inf" else if x.isZero then zero else layout x.shortest)

end Binary

namespace Digits

def point (d : Digits) : Int := (decimalDigits d.digits).length + d.exponent

def positional (d : Digits) : String :=
  let ds := decimalDigits d.digits
  if 0 ≤ d.exponent then String.ofList (ds ++ List.replicate d.exponent.toNat '0')
  else if 0 < d.point then
    String.ofList (ds.take d.point.toNat ++ '.' :: ds.drop d.point.toNat)
  else String.ofList ('0' :: '.' :: List.replicate (-d.point).toNat '0' ++ ds)

def scientific (d : Digits) : String :=
  let ds := decimalDigits d.digits
  let rest := ds.drop 1
  String.ofList (ds.take 1 ++ (if rest.isEmpty then [] else '.' :: rest)) ++ "e" ++
    toString (d.point - 1)

/-- Positional with `.0` behind an integer, scientific from `10 ^ 16` on and below `10 ^ -4`. -/
def marked (d : Digits) : String :=
  if d.point < -3 ∨ 16 < d.point then d.scientific
  else if 0 ≤ d.exponent then d.positional ++ ".0"
  else d.positional

end Digits

namespace Binary

variable {p : Precision}

def text (x : Binary p) : String := x.textWith "0" Digits.positional

def markedText (x : Binary p) : String := x.textWith "0.0" Digits.marked

end Binary
end Quarry
