import Mathlib.Data.Rat.Cast.Defs
import Mathlib.Algebra.Order.Field.Rat
import Quarry.Number.Decimal

/-!
# The values of decimals

A decimal stands for its coefficient with sign, divided by the power of ten of its scale. It has no
fraction just when that is an integer, which is then the one that is left when the fraction is cut
off (`Decimal.isIntegral_iff`, `Decimal.value_of_isIntegral`).
-/

namespace Quarry

namespace Decimal

/-- The number that the decimal stands for. -/
def value (d : Decimal) : ℚ := d.signed / ((10 ^ d.scale : Nat) : ℚ)

/-- A zero that has a sign. -/
def isNegativeZero (d : Decimal) : Bool := d.negative && d.coefficient == 0

variable {d : Decimal} {n : Int}

theorem natAbs_signed (d : Decimal) : d.signed.natAbs = d.coefficient := by
  unfold signed
  split
  · rw [Int.natAbs_neg, Int.natAbs_natCast]
  · rw [Int.natAbs_natCast]

theorem value_eq_intCast_iff : d.value = n ↔ d.signed = n * (10 ^ d.scale : Nat) := by
  have hscale : ((10 ^ d.scale : Nat) : ℚ) ≠ 0 :=
    Nat.cast_ne_zero.2 (Nat.pos_iff_ne_zero.1 (Nat.pow_pos (by decide)))
  rw [value, div_eq_iff hscale, ← Int.cast_natCast, ← Int.cast_mul, Int.cast_inj]

theorem isIntegral_iff_dvd : d.isIntegral = true ↔ 10 ^ d.scale ∣ d.coefficient := by
  rw [isIntegral, fraction, beq_iff_eq, Nat.dvd_iff_mod_eq_zero]

theorem isIntegral_iff : d.isIntegral = true ↔ ∃ n : Int, d.value = n := by
  rw [isIntegral_iff_dvd, ← d.natAbs_signed, ← Int.natCast_dvd]
  constructor
  · rintro ⟨n, hn⟩
    exact ⟨n, value_eq_intCast_iff.2 (by rw [hn, Int.mul_comm])⟩
  · rintro ⟨n, hn⟩
    exact ⟨n, by rw [value_eq_intCast_iff.1 hn, Int.mul_comm]⟩

theorem whole_mul_of_isIntegral (h : d.isIntegral = true) :
    d.whole * 10 ^ d.scale = d.coefficient :=
  Nat.div_mul_cancel (isIntegral_iff_dvd.1 h)

theorem value_of_isIntegral (h : d.isIntegral = true) : d.value = d.truncate := by
  rw [value_eq_intCast_iff, signed, truncate, ← whole_mul_of_isIntegral h, Int.natCast_mul]
  split
  · rw [Int.neg_mul]
  · rfl

theorem truncate_neg (h : d.isIntegral = true) (hnegative : d.negative = true)
    (hzero : d.isNegativeZero = false) : d.truncate < 0 := by
  have hcoefficient : d.coefficient ≠ 0 := by
    simpa [isNegativeZero, hnegative] using hzero
  have hwhole : d.whole ≠ 0 := by
    intro hwhole
    rw [← whole_mul_of_isIntegral h, hwhole, Nat.zero_mul] at hcoefficient
    exact hcoefficient rfl
  rw [truncate, if_pos hnegative]
  omega

theorem truncate_eq_iff (h : d.isIntegral = true) : d.truncate = n ↔ d.value = n := by
  rw [value_of_isIntegral h, Int.cast_inj]

theorem value_ofInt? (h : ofInt? n = some d) : d.value = n := by
  unfold ofInt? ofParts? at h
  split at h <;> cases h
  rw [value_eq_intCast_iff, signed]
  simp only [decide_eq_true_eq, Nat.pow_zero]
  omega

theorem exists_ofInt? (h : n.natAbs < 2 ^ coefficientBits) : ∃ d, ofInt? n = some d := by
  rw [ofInt?, ofParts?, dif_pos ⟨h, Nat.zero_le _⟩]
  exact ⟨_, rfl⟩

end Decimal
end Quarry
