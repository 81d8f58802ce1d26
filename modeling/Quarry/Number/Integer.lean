import Quarry.Number.Power

/-!
# Integers of fixed width

The ten integer types of columns, each with its least and greatest number. A
bounded integer carries the proof that it lies between them. An integer becomes one
either when it lies between them, and else is refused, or by its low bits, which may
be those of another number.
-/
namespace Quarry

inductive IntegerType where
  | int8 | int16 | int32 | int64 | int128
  | uint8 | uint16 | uint32 | uint64 | uint128
  deriving DecidableEq

namespace IntegerType

def all : List IntegerType :=
  [int8, int16, int32, int64, int128, uint8, uint16, uint32, uint64, uint128]

def bits : IntegerType → Nat
  | int8 | uint8 => 8
  | int16 | uint16 => 16
  | int32 | uint32 => 32
  | int64 | uint64 => 64
  | int128 | uint128 => 128

def isSigned : IntegerType → Bool
  | int8 | int16 | int32 | int64 | int128 => true
  | uint8 | uint16 | uint32 | uint64 | uint128 => false

def least (t : IntegerType) : Int := if t.isSigned then -(2 ^ (t.bits - 1)) else 0

def greatest (t : IntegerType) : Int :=
  if t.isSigned then 2 ^ (t.bits - 1) - 1 else 2 ^ t.bits - 1

def Holds (t : IntegerType) (n : Int) : Prop := t.least ≤ n ∧ n ≤ t.greatest

instance (t : IntegerType) (n : Int) : Decidable (t.Holds n) :=
  inferInstanceAs (Decidable (_ ∧ _))

end IntegerType

structure BoundedInt (t : IntegerType) where
  val : Int
  holds : t.Holds val
  deriving DecidableEq

namespace BoundedInt

def ofInt? (t : IntegerType) (n : Int) : Option (BoundedInt t) :=
  if h : t.Holds n then some ⟨n, h⟩ else none

/-- The number of type `t` that has the low bits of `n`. -/
def ofLowBits (t : IntegerType) (n : Int) : BoundedInt t where
  val := if t.isSigned then n.bmod (2 ^ t.bits) else n % 2 ^ t.bits
  holds := by
    have hlow := Int.le_bmod (x := n) (Nat.two_pow_pos t.bits)
    have hhigh := Int.bmod_lt (x := n) (Nat.two_pow_pos t.bits)
    cases t <;>
      simp only [IntegerType.Holds, IntegerType.least, IntegerType.greatest, IntegerType.isSigned,
        IntegerType.bits, if_true, Bool.false_eq_true, if_false] at hlow hhigh ⊢ <;>
      omega

@[simp]
theorem ofInt?_val {t : IntegerType} (n : BoundedInt t) : ofInt? t n.val = some n := by
  simp [ofInt?, n.holds]

theorem ofInt?_eq_some_iff {t : IntegerType} {n : Int} {b : BoundedInt t} :
    ofInt? t n = some b ↔ b.val = n := by
  constructor
  · intro h
    unfold ofInt? at h
    split at h
    · cases h; rfl
    · cases h
  · rintro rfl
    exact ofInt?_val b

end BoundedInt
end Quarry
