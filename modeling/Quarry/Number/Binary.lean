import Quarry.Number.Power

/-!
# Binary floating point numbers

A number is a sign and a magnitude, where the magnitude is the exponent and the
fraction field read as one natural number, so that magnitudes are ordered as the
numbers are. Arithmetic is exact on ratios of natural numbers and rounded once,
to the nearest magnitude and on a tie to the even one.
-/
namespace Quarry

inductive Precision where
  | single
  | double
  deriving DecidableEq

namespace Precision

def fractionBits : Precision → Nat
  | single => 23
  | double => 52

def exponentBits : Precision → Nat
  | single => 8
  | double => 11

def leastExponent : Precision → Int
  | single => -149
  | double => -1074

def bound (p : Precision) : Nat := 2 ^ (p.exponentBits + p.fractionBits)

/-- The magnitude of the infinities; what lies above is not a number. -/
def infinity (p : Precision) : Nat := (2 ^ p.exponentBits - 1) * 2 ^ p.fractionBits

theorem infinity_lt_bound (p : Precision) : p.infinity < p.bound := by cases p <;> decide

theorem infinity_succ_lt_bound (p : Precision) : p.infinity + 1 < p.bound := by cases p <;> decide

end Precision

structure Binary (p : Precision) where
  negative : Bool
  magnitude : Nat
  magnitude_lt : magnitude < p.bound
  deriving DecidableEq

/-- The quotient of `num` by `den` rounded to the nearest, on a tie to the even one. -/
def roundHalfEven (num den : Nat) : Nat :=
  let q := num / den
  let r := num % den
  if den < 2 * r ∨ (den = 2 * r ∧ q % 2 = 1) then q + 1 else q

/-- The quotient of `num` by `den` rounded to the nearest, on a tie to the greater one. -/
def roundHalfUp (num den : Nat) : Nat := (2 * num + den) / (2 * den)

def scaleByTwo (n : Nat) (e : Int) : Nat × Nat := (n * 2 ^ e.toNat, 2 ^ (-e).toNat)

def binaryExponent (num den : Nat) : Int :=
  let e : Int := num.log2 - den.log2
  let (up, down) := scaleByTwo 1 e
  if den * up ≤ num * down then e else e - 1

namespace Binary

variable {p : Precision}

def isNaN (x : Binary p) : Bool := p.infinity < x.magnitude

def isInfinite (x : Binary p) : Bool := x.magnitude == p.infinity

def isZero (x : Binary p) : Bool := x.magnitude == 0

def significand (x : Binary p) : Nat :=
  if x.magnitude < 2 ^ p.fractionBits then x.magnitude
  else 2 ^ p.fractionBits + x.magnitude % 2 ^ p.fractionBits

def exponent (x : Binary p) : Int :=
  p.leastExponent + (x.magnitude / 2 ^ p.fractionBits - 1 : Nat)

def toRatio (x : Binary p) : Nat × Nat := scaleByTwo x.significand x.exponent

/-- The magnitude nearest to `num / den`; it grows into the infinities by itself, because a
fraction that is rounded up to the next power of two carries into the exponent. -/
def nearestMagnitude (p : Precision) (num den : Nat) : Nat :=
  if num = 0 then 0
  else
    let e := max (binaryExponent num den - p.fractionBits) p.leastExponent
    let (up, down) := scaleByTwo 1 e
    (e - p.leastExponent).toNat * 2 ^ p.fractionBits + roundHalfEven (num * down) (den * up)

def ofRatio (p : Precision) (negative : Bool) (num den : Nat) : Binary p :=
  ⟨negative, min (nearestMagnitude p num den) p.infinity,
    Nat.lt_of_le_of_lt (Nat.min_le_right _ _) p.infinity_lt_bound⟩

def ofNat (p : Precision) (n : Nat) : Binary p := ofRatio p false n 1

def withSign (x : Binary p) (negative : Bool) : Binary p := { x with negative }

def notANumber (p : Precision) : Binary p :=
  ⟨false, p.infinity + 1, p.infinity_succ_lt_bound⟩

def sum (x y : Binary p) : Binary p :=
  let (a, b) := x.toRatio
  let (c, d) := y.toRatio
  ofRatio p false (a * d + c * b) (b * d)

def product (x y : Binary p) : Binary p :=
  let (a, b) := x.toRatio
  let (c, d) := y.toRatio
  ofRatio p false (a * c) (b * d)

def quotient (x y : Binary p) : Binary p :=
  let (a, b) := x.toRatio
  let (c, d) := y.toRatio
  ofRatio p false (a * d) (b * c)

def roundAway (x : Binary p) : Binary p :=
  ofRatio p false (roundHalfUp x.toRatio.1 x.toRatio.2) 1

def ofBits (p : Precision) (n : Nat) : Binary p :=
  ⟨n / p.bound % 2 == 1, n % p.bound, Nat.mod_lt _ (by cases p <;> decide)⟩

def toBits (x : Binary p) : Nat := (if x.negative then p.bound else 0) + x.magnitude

/-- The same number in another precision, rounded when the new one has fewer bits. -/
def convert (q : Precision) (x : Binary p) : Binary q :=
  if h : p = q then h ▸ x
  else if x.isNaN then notANumber q
  else if x.isInfinite then ⟨x.negative, q.infinity, q.infinity_lt_bound⟩
  else ofRatio q x.negative x.toRatio.1 x.toRatio.2

/-- Equality of numbers: the two zeros are equal, and what is not a number equals nothing. -/
def equals (x y : Binary p) : Bool :=
  !x.isNaN && !y.isNaN && (x.isZero && y.isZero || decide (x = y))

@[simp]
theorem convert_self (x : Binary p) : x.convert p = x := by simp [convert]

end Binary
end Quarry
