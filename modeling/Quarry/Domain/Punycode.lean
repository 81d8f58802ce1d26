/-!
# Labels in letters and digits

A label with characters beyond ASCII has a form in letters, digits and hyphens: its ASCII
characters, a hyphen behind them if there are any, and then a number for each other
character, from the lowest code point to the highest. A number counts how many steps to
go on, from one place of the label to the next, and from its end to its start with the
next code point. Its digits, the lowest first, have weights that depend on the numbers
before it.
-/
namespace Quarry.Domain.Punycode

def base : Nat := 36

def lowestThreshold : Nat := 1

def highestThreshold : Nat := 26

def skew : Nat := 38

def damp : Nat := 700

def initialBias : Nat := 72

def initialCode : Nat := 0x80

def weightLimit : Nat := 0x100000000

def digit? (c : Char) : Option Nat :=
  if 'a' ≤ c ∧ c ≤ 'z' then some (c.toNat - 'a'.toNat)
  else if '0' ≤ c ∧ c ≤ '9' then some (c.toNat - '0'.toNat + 26)
  else none

/-- A digit below the threshold of its place ends the number. -/
def threshold (place bias : Nat) : Nat :=
  if place ≤ bias then lowestThreshold
  else if bias + highestThreshold ≤ place then highestThreshold
  else place - bias

def biasFrom (place delta : Nat) : Nat :=
  if (base - lowestThreshold) * highestThreshold / 2 < delta then
    biasFrom (place + base) (delta / (base - lowestThreshold))
  else place + (base - lowestThreshold + 1) * delta / (delta + skew)
termination_by delta
decreasing_by exact Nat.div_lt_self (Nat.zero_lt_of_lt ‹_›) (by decide)

def adapt (delta size : Nat) (first : Bool) : Nat :=
  let reduced := if first then delta / damp else delta / 2
  biasFrom 0 (reduced + reduced / size)

/-- A label that is read so far, and the number within which the reading is. -/
structure State where
  label : List Char
  code : Nat
  bias : Nat
  /-- Where the number began to count. -/
  start : Nat
  /-- Where it has come to. -/
  index : Nat
  /-- The weight of the next digit. -/
  weight : Nat
  /-- The place of the next digit, in steps of the base. -/
  place : Nat

namespace State

def initial (label : List Char) : State :=
  ⟨label, initialCode, initialBias, 0, 0, 1, base⟩

def isFresh (s : State) : Bool := s.place == base

def insert? (s : State) : Option State :=
  let size := s.label.length + 1
  let code := s.code + s.index / size
  let spot := s.index % size
  if code.isValidChar then
    some ⟨s.label.insertIdx spot (Char.ofNat code), code,
      adapt (s.index - s.start) size (s.start == 0), spot + 1, spot + 1, 1, base⟩
  else none

def read? (s : State) (c : Char) : Option State := do
  let d ← digit? c
  let t := threshold s.place s.bias
  let counted := { s with index := s.index + d * s.weight }
  if d < t then counted.insert?
  else if s.weight * (base - t) < weightLimit then
    some { counted with weight := s.weight * (base - t), place := s.place + base }
  else none

end State

def decode? (cs : List Char) : Option (List Char) := do
  let kept := ((cs.reverse.dropWhile (· != '-')).drop 1).reverse
  let written := if kept.isEmpty then cs else cs.drop (kept.length + 1)
  let s ← written.foldlM State.read? (State.initial kept)
  if s.isFresh then some s.label else none

end Quarry.Domain.Punycode
