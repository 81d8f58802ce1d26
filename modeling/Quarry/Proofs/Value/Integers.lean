import Quarry.Proofs.Number.Decimal
import Quarry.Value.Conversion

/-!
# Numbers that are read as integers

A reading knows its sources, and takes some of them by their low bits: those whose numbers all are
in its range. So whatever is read is the number that was there, and a number of a source is only
refused when it is not an integer in range (`IntegerType.reads_exactly`). Not every narrower type
is a source: natural numbers beyond eight bits are not read from the narrow signed types
(`IntegerType.reads_narrower`). Of decimals nothing else is relied on than `Decimal.ReadsIntegers`.
-/

namespace Quarry

namespace BoundedInt

variable {t : IntegerType} {n : Int}

theorem ofLowBits_of_holds (h : t.Holds n) : ofLowBits t n = ⟨n, h⟩ := by
  have hval : (if t.isSigned then n.bmod (2 ^ t.bits) else n % 2 ^ t.bits) = n := by
    obtain ⟨hleast, hgreatest⟩ := h
    split
    · next hsigned =>
      refine Int.bmod_eq_of_le ?_ ?_ <;>
        cases t <;>
        simp only [IntegerType.least, IntegerType.greatest, IntegerType.isSigned,
          IntegerType.bits, if_true, Bool.false_eq_true] at hsigned hleast hgreatest ⊢ <;>
        omega
    · next hunsigned =>
      rw [IntegerType.least, if_neg hunsigned] at hleast
      rw [IntegerType.greatest, if_neg hunsigned] at hgreatest
      exact Int.emod_eq_of_lt hleast (Int.lt_of_le_sub_one hgreatest)
  simp only [ofLowBits, hval]

end BoundedInt

/-- What a library of decimals must do for integers. A decimal that has no fraction is read as the
integer that it is when the type holds it, and never as another one, but for a zero with a sign;
and an integer of as many bits as a coefficient is a decimal. -/
structure Decimal.ReadsIntegers (isIntegral : Decimal → Bool)
    (toInteger? : (t : IntegerType) → Decimal → Option (BoundedInt t))
    (ofInt? : Int → Option Decimal) : Prop where
  isIntegral_iff : ∀ d, isIntegral d = true ↔ ∃ n : Int, d.value = (n : ℚ)
  value_of_toInteger : ∀ t d m, isIntegral d = true → toInteger? t d = some m →
    d.value = (m.val : ℚ)
  toInteger_of_value : ∀ t d (n : Int), d.isNegativeZero = false → d.value = (n : ℚ) →
    ∀ h : t.Holds n, toInteger? t d = some ⟨n, h⟩
  exists_ofInt : ∀ n : Int, n.natAbs < 2 ^ Decimal.coefficientBits →
    ∃ d, ofInt? n = some d ∧ d.value = (n : ℚ)

namespace IntegerType

variable {t s : IntegerType} {n : BoundedInt s}

theorem value_of_ofTruncated? {d : Decimal} {m : BoundedInt t} (hintegral : d.isIntegral = true)
    (h : t.ofTruncated? d = some m) : d.value = (m.val : ℚ) := by
  unfold ofTruncated? at h
  split at h
  · cases h
  · exact (Decimal.truncate_eq_iff hintegral).1 (BoundedInt.ofInt?_eq_some_iff.1 h).symm

theorem ofTruncated?_of_value {d : Decimal} {k : Int} (hzero : d.isNegativeZero = false)
    (hd : d.value = (k : ℚ)) (hk : t.Holds k) : t.ofTruncated? d = some ⟨k, hk⟩ := by
  have hintegral : d.isIntegral = true := Decimal.isIntegral_iff.2 ⟨k, hd⟩
  obtain rfl := (Decimal.truncate_eq_iff hintegral).2 hd
  have hsign : ¬ (d.negative = true ∧ ¬ t.isSigned = true) := by
    rintro ⟨hnegative, hunsigned⟩
    have hleast := hk.1
    rw [least, if_neg hunsigned] at hleast
    exact absurd (Decimal.truncate_neg hintegral hnegative hzero) (Int.not_lt.2 hleast)
  rw [ofTruncated?, if_neg hsign, BoundedInt.ofInt?, dif_pos hk]

theorem readsIntegers : Decimal.ReadsIntegers Decimal.isIntegral ofTruncated? Decimal.ofInt? where
  isIntegral_iff _ := Decimal.isIntegral_iff
  value_of_toInteger _ _ _ := value_of_ofTruncated?
  toInteger_of_value _ _ _ := ofTruncated?_of_value
  exists_ofInt _ h := (Decimal.exists_ofInt? h).imp fun _ hd => ⟨hd, Decimal.value_ofInt? hd⟩

/-- The casts of the readings widen: what is taken by its low bits has no others. -/
theorem range_of_lowBits (h : t.passage? s = some .lowBits) :
    t.least ≤ s.least ∧ s.greatest ≤ t.greatest := by
  revert h
  cases t <;> cases s <;> decide

theorem holds_of_lowBits (h : t.passage? s = some .lowBits) (n : BoundedInt s) :
    t.Holds n.val := by
  obtain ⟨hleast, hgreatest⟩ := range_of_lowBits h
  exact ⟨Int.le_trans hleast n.holds.1, Int.le_trans n.holds.2 hgreatest⟩

/-- However a source is taken, its numbers in range are read as they are and the others refused. -/
theorem convert_eq (n : BoundedInt s) :
    t.convert s n =
      if (t.passage? s).isSome then
        if hn : t.Holds n.val then .ok ⟨n.val, hn⟩ else .error (.outOfRange n.val s t)
      else .error (.unconvertible (.of (.integer s) n) (.integer t)) := by
  unfold convert
  cases hp : t.passage? s with
  | none => rfl
  | some p =>
    cases p with
    | lowBits =>
      have hn := holds_of_lowBits hp n
      rw [if_pos Option.isSome_some, dif_pos hn, BoundedInt.ofLowBits_of_holds hn]
    | checked =>
      rw [if_pos Option.isSome_some]
      by_cases hn : t.Holds n.val
      · simp only [BoundedInt.ofInt?, dif_pos hn]
      · simp only [BoundedInt.ofInt?, dif_neg hn]

theorem convert_of_holds (h : (t.passage? s).isSome = true) (hn : t.Holds n.val) :
    t.convert s n = .ok ⟨n.val, hn⟩ := by
  rw [convert_eq, if_pos h, dif_pos hn]

theorem val_of_convert {m : BoundedInt t} (h : t.convert s n = .ok m) : m.val = n.val := by
  rw [convert_eq] at h
  split at h
  · split at h <;> cases h
    rfl
  · cases h

theorem value_of_ofDecimal {d : Decimal} {m : BoundedInt t} (h : t.ofDecimal d = .ok m) :
    d.value = (m.val : ℚ) := by
  unfold ofDecimal at h
  split at h
  · cases h
  · split at h
    · cases h
    · next hintegral =>
      cases hm : t.ofTruncated? d with
      | none =>
        rw [hm] at h
        cases h
      | some k =>
        rw [hm] at h
        cases h
        exact readsIntegers.value_of_toInteger t d m (Decidable.not_not.1 hintegral) hm

theorem ofDecimal_of_holds {d : Decimal} {k : Int} (hreads : t.readsDecimal = true)
    (hzero : d.isNegativeZero = false) (hd : d.value = (k : ℚ)) (hk : t.Holds k) :
    t.ofDecimal d = .ok ⟨k, hk⟩ := by
  have hintegral : d.isIntegral = true := (readsIntegers.isIntegral_iff d).2 ⟨k, hd⟩
  have hk' : t.ofTruncated? d = some ⟨k, hk⟩ := readsIntegers.toInteger_of_value t d k hzero hd hk
  rw [ofDecimal, if_neg (not_not_intro hreads), if_neg (not_not_intro hintegral), hk']

/-- A decimal of a type with at most 64 bits is the number it is read from. -/
theorem exists_toDecimal? (hbits : t.bits ≤ 64) (m : BoundedInt t) :
    ∃ d, t.toDecimal? m = some d ∧ d.value = (m.val : ℚ) := by
  have hrange : -(2 ^ 63) ≤ t.least ∧ t.greatest < 2 ^ 64 ∧
      (t ≠ uint64 → int64.least ≤ t.least ∧ t.greatest ≤ int64.greatest) := by
    revert hbits
    cases t <;> decide
  obtain ⟨hlow, hhigh, hnarrow⟩ := hrange
  have hm := m.holds
  have hval : (if t = uint64 then m.val else (BoundedInt.ofLowBits int64 m.val).val) = m.val := by
    split
    · rfl
    · next hne =>
      obtain ⟨hleast, hgreatest⟩ := hnarrow hne
      rw [BoundedInt.ofLowBits_of_holds (t := int64)
        ⟨Int.le_trans hleast hm.1, Int.le_trans hm.2 hgreatest⟩]
  have hsize : m.val.natAbs < 2 ^ Decimal.coefficientBits := by
    have hleast := Int.le_trans hlow hm.1
    have hgreatest := Int.lt_of_le_of_lt hm.2 hhigh
    unfold Decimal.coefficientBits
    omega
  obtain ⟨d, hd, hvalue⟩ := readsIntegers.exists_ofInt m.val hsize
  exact ⟨d, by rw [toDecimal?, if_pos hbits, hval, hd], hvalue⟩

end IntegerType

/-- Some value of the type `s` is read as type `t`. -/
def SqlType.Accepts (t s : SqlType) : Prop := ∃ x y, t.convert s x = .ok y

namespace Value

/-- The number that a value stands for exactly, where it is an integer or a decimal. -/
def number? : Value → Option ℚ
  | typed (.integer _) (some n) => some n.val
  | typed .decimal (some d) => some d.value
  | _ => none

def isNegativeZero : Value → Bool
  | typed .decimal (some d) => d.isNegativeZero
  | _ => false

end Value

namespace IntegerType

variable {t s : IntegerType}

theorem holds_zero (t : IntegerType) : t.Holds 0 := by
  cases t <;> decide

theorem accepts_integer_iff :
    (SqlType.integer t).Accepts (.integer s) ↔ (t.passage? s).isSome = true := by
  constructor
  · rintro ⟨n, m, hm⟩
    by_contra hnone
    have hconvert : t.convert s n = .ok m := hm
    rw [convert_eq, if_neg hnone] at hconvert
    cases hconvert
  · intro hsome
    exact ⟨⟨0, s.holds_zero⟩, ⟨0, t.holds_zero⟩, convert_of_holds hsome t.holds_zero⟩

theorem accepts_decimal_iff : (SqlType.integer t).Accepts .decimal ↔ t.readsDecimal = true := by
  constructor
  · rintro ⟨d, m, hm⟩
    by_contra hreads
    have hread : t.ofDecimal d = .ok m := hm
    rw [ofDecimal, if_pos hreads] at hread
    cases hread
  · intro hreads
    have hzero : (⟨false, 0, 0, by decide, by decide⟩ : Decimal).value = ((0 : Int) : ℚ) :=
      Decimal.value_eq_intCast_iff.2 rfl
    exact ⟨_, _, ofDecimal_of_holds hreads rfl hzero t.holds_zero⟩

theorem number?_of_read {v : Value} {m : BoundedInt t} (h : (SqlType.integer t).read v = .ok m) :
    v.number? = some (m.val : ℚ) := by
  rcases v with _ | ⟨source, _ | x⟩
  · cases h
  · cases h
  · cases source with
    | integer s =>
      have hval : m.val = x.val := val_of_convert h
      rw [hval]
      rfl
    | decimal => exact congrArg some (value_of_ofDecimal h)
    | _ => cases h

theorem read_of_number? {source : SqlType} {x : source.Carrier} {n : Int}
    (haccepts : (SqlType.integer t).Accepts source)
    (hzero : (Value.of source x).isNegativeZero = false)
    (hnumber : (Value.of source x).number? = some (n : ℚ)) (hn : t.Holds n) :
    (SqlType.integer t).read (.of source x) = .ok ⟨n, hn⟩ := by
  cases source with
  | integer s =>
    obtain rfl : x.val = n := Int.cast_inj.1 (Option.some.inj hnumber)
    exact convert_of_holds (accepts_integer_iff.1 haccepts) hn
  | decimal =>
    exact ofDecimal_of_holds (accepts_decimal_iff.1 haccepts) hzero (Option.some.inj hnumber) hn
  | _ => cases hnumber

/-- What is read as an integer is the number that the value stands for. Where values of a type are
read at all, one of them is refused just when its number is not an integer in range, but for a
negative zero. And a number of at most 64 bits is read as the decimal that is this number. -/
theorem reads_exactly (t : IntegerType) :
    (∀ v n, (SqlType.integer t).read v = .ok n → v.number? = some (n.val : ℚ)) ∧
    (∀ source x, (SqlType.integer t).Accepts source →
      (Value.of source x).isNegativeZero = false →
      ((∃ e, (SqlType.integer t).read (.of source x) = .error e) ↔
        ¬ ∃ n : Int, (Value.of source x).number? = some (n : ℚ) ∧ t.Holds n)) ∧
    (t.bits ≤ 64 → ∀ n : BoundedInt t,
      ∃ d, SqlType.decimal.read (.of (.integer t) n) = .ok d ∧ d.value = (n.val : ℚ)) := by
  refine ⟨fun v n => number?_of_read, ?refused, ?decimal⟩
  case refused =>
    intro source x haccepts hzero
    constructor
    · rintro ⟨e, he⟩ ⟨n, hnumber, hn⟩
      rw [read_of_number? haccepts hzero hnumber hn] at he
      cases he
    · intro hnone
      cases hread : (SqlType.integer t).read (.of source x) with
      | error e => exact ⟨e, rfl⟩
      | ok m => exact absurd ⟨m.val, number?_of_read hread, m.holds⟩ hnone
  case decimal =>
    intro hbits n
    obtain ⟨d, hd, hvalue⟩ := exists_toDecimal? hbits n
    refine ⟨d, ?_, hvalue⟩
    change SqlType.decimal.orRefuse (.integer t) n (t.toDecimal? n) = .ok d
    rw [hd]
    rfl

def fiveAndHalf : Decimal := ⟨false, 55, 1, by decide, by decide⟩

theorem reads_exactly_fiveAndHalf :
    ((SqlType.integer .int32).read (.of (.integer .uint16) ⟨500, by decide⟩) =
        .ok ⟨500, by decide⟩ ∧
      (Value.of (.integer .uint16) ⟨500, by decide⟩).number? = some ((500 : Int) : ℚ)) ∧
    ((SqlType.integer .int32).Accepts .decimal ∧
      (Value.of .decimal fiveAndHalf).isNegativeZero = false ∧
      ∃ e, (SqlType.integer .int32).read (.of .decimal fiveAndHalf) = .error e) ∧
    (bits .int32 ≤ 64 ∧
      ∃ d, SqlType.decimal.read (.of (.integer .int32) ⟨-7, by decide⟩) = .ok d ∧
        d.value = ((-7 : Int) : ℚ)) := by
  obtain ⟨hread, hrefused, hdecimal⟩ := reads_exactly .int32
  have hfiveHundred : (SqlType.integer .int32).read (.of (.integer .uint16) ⟨500, by decide⟩) =
      .ok ⟨500, by decide⟩ := by rfl
  have haccepts : (SqlType.integer .int32).Accepts .decimal := accepts_decimal_iff.2 rfl
  have hnone : ¬ ∃ n : Int,
      (Value.of .decimal fiveAndHalf).number? = some (n : ℚ) ∧ Holds .int32 n := by
    rintro ⟨n, hnumber, -⟩
    have hsigned : (55 : Int) = n * 10 := Decimal.value_eq_intCast_iff.1 (Option.some.inj hnumber)
    omega
  exact ⟨⟨hfiveHundred, hread _ _ hfiveHundred⟩,
    ⟨haccepts, rfl, (hrefused _ _ haccepts rfl).2 hnone⟩,
    ⟨by decide, hdecimal (by decide) ⟨-7, by decide⟩⟩⟩

theorem passage?_of_narrower (h : s.bits < t.bits) :
    (t.passage? s).isSome = true ↔
      ¬ (t.isSigned = false ∧ s.isSigned = true ∧ s.bits < 32) := by
  revert h
  cases t <;> cases s <;> decide

/-- A number of a narrower type that is in range is read as it is, unless natural numbers are read
from a signed type of less than 32 bits: that is no source, and every number of it is refused. -/
theorem reads_narrower (h : s.bits < t.bits) (n : BoundedInt s) (hn : t.Holds n.val) :
    (SqlType.integer t).read (.of (.integer s) n) =
      if t.isSigned = false ∧ s.isSigned = true ∧ s.bits < 32 then
        .error (.unconvertible (.of (.integer s) n) (.integer t))
      else .ok ⟨n.val, hn⟩ := by
  change t.convert s n = _
  rw [convert_eq, dif_pos hn]
  by_cases hnarrow : t.isSigned = false ∧ s.isSigned = true ∧ s.bits < 32
  · rw [if_neg fun hsome => (passage?_of_narrower h).1 hsome hnarrow, if_pos hnarrow]
  · rw [if_pos ((passage?_of_narrower h).2 hnarrow), if_neg hnarrow]

theorem reads_narrower_uint64 :
    bits .int32 < bits .uint64 ∧ Holds .uint64 5 ∧
      (SqlType.integer .uint64).read (.of (.integer .int32) ⟨5, by decide⟩) =
        .ok ⟨5, by decide⟩ :=
  ⟨by decide, by decide, reads_narrower (by decide) ⟨5, by decide⟩ (by decide)⟩

/-- A five that is read from 32 bits with a sign is refused when it comes in 16 or 8 of them. -/
theorem refuses_narrow_five :
    bits .int16 < bits .uint32 ∧ bits .int8 < bits .uint32 ∧ Holds .uint32 5 ∧
      (SqlType.integer .uint32).read (.of (.integer .int32) ⟨5, by decide⟩) =
        .ok ⟨5, by decide⟩ ∧
      (SqlType.integer .uint32).read (.of (.integer .int16) ⟨5, by decide⟩) =
        .error (.unconvertible (.of (.integer .int16) ⟨5, by decide⟩) (.integer .uint32)) ∧
      (SqlType.integer .uint32).read (.of (.integer .int8) ⟨5, by decide⟩) =
        .error (.unconvertible (.of (.integer .int8) ⟨5, by decide⟩) (.integer .uint32)) :=
  ⟨by decide, by decide, by decide, rfl, rfl, rfl⟩

end IntegerType
end Quarry
