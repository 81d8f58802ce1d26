import Quarry.Calendar.Date

/-!
# The days of the calendar

The calendar has a date for each day number from the first of January of the year -9999 to the end
of the year 9999, and a step to a neighbouring date moves by one day. So a date that is looked for
some days away is the date of that day, and there is none just when the calendar has no such day
(`Date.isDateOf_addDays?`).
-/

namespace Quarry

def IsDay (n : Int) : Prop := daysBeforeYear (-9999) ≤ n ∧ n < daysBeforeYear 10000

def daysInYear (year : Int) : Nat := if isLeapYear year then 366 else 365

theorem daysBeforeYear_succ (year : Int) :
    daysBeforeYear (year + 1) = daysBeforeYear year + daysInYear year := by
  have hleap : isLeapYear year = true ↔ year % 4 = 0 ∧ (year % 100 ≠ 0 ∨ year % 400 = 0) := by
    simp [isLeapYear]
  unfold daysBeforeYear daysInYear
  split
  · next h => have := hleap.1 h; omega
  · next h => have := mt hleap.2 h; omega

theorem daysBeforeYear_mono {year year' : Int} (h : year ≤ year') :
    daysBeforeYear year ≤ daysBeforeYear year' := by
  unfold daysBeforeYear
  omega

namespace Date

theorem daysBeforeMonth_one (year : Int) : daysBeforeMonth year 1 = 0 := rfl

theorem daysBeforeMonth_succ (year : Int) {month : Nat} (h : 1 ≤ month) :
    daysBeforeMonth year (month + 1) = daysBeforeMonth year month + daysInMonth year month := by
  obtain ⟨k, rfl⟩ := Nat.exists_eq_add_of_le' h
  simp only [daysBeforeMonth, Nat.add_sub_cancel, List.range_succ, List.foldl_append,
    List.foldl_cons, List.foldl_nil]

theorem daysBeforeMonth_thirteen (year : Int) : daysBeforeMonth year 13 = daysInYear year := by
  rcases h : isLeapYear year with _ | _ <;>
    simp [daysBeforeMonth, daysInMonth, daysInYear, h, List.range_succ]

theorem daysBeforeMonth_mono (year : Int) {month month' : Nat} (h : month ≤ month') :
    daysBeforeMonth year month ≤ daysBeforeMonth year month' := by
  induction month' with
  | zero => exact Nat.le_of_eq (congrArg _ (Nat.le_zero.1 h))
  | succ k ih =>
    rcases Nat.lt_or_eq_of_le h with hlt | rfl
    · refine Nat.le_trans (ih (Nat.le_of_lt_succ hlt)) ?_
      rcases Nat.eq_zero_or_pos k with rfl | hk
      · exact Nat.le_refl _
      · rw [daysBeforeMonth_succ year hk]
        exact Nat.le_add_right _ _
    · exact Nat.le_refl _

theorem daysBeforeMonth_add_le {year : Int} {month day : Nat} (hmonth : 1 ≤ month ∧ month ≤ 12)
    (hday : day ≤ daysInMonth year month) :
    daysBeforeMonth year month + day ≤ daysInYear year :=
  calc daysBeforeMonth year month + day
    _ ≤ daysBeforeMonth year month + daysInMonth year month := Nat.add_le_add_left hday _
    _ = daysBeforeMonth year (month + 1) := (daysBeforeMonth_succ year hmonth.1).symm
    _ ≤ daysBeforeMonth year 13 := daysBeforeMonth_mono year (Nat.succ_le_succ hmonth.2)
    _ = daysInYear year := daysBeforeMonth_thirteen year

theorem isDay_dayNumber (d : Date) : IsDay d.dayNumber := by
  have hfirst := daysBeforeYear_mono d.year_mem.1
  have hlast : daysBeforeYear (d.year + 1) ≤ daysBeforeYear 10000 :=
    daysBeforeYear_mono (Int.add_le_add_right d.year_mem.2 1)
  have hday := d.day_mem
  have hwithin := daysBeforeMonth_add_le d.month_mem hday.2
  rw [daysBeforeYear_succ] at hlast
  unfold IsDay dayNumber
  omega

/-- The days of a year all come before those of a later year. -/
theorem dayNumber_lt_of_year_lt {d e : Date} (h : d.year < e.year) :
    d.dayNumber < e.dayNumber := by
  have hyears : daysBeforeYear (d.year + 1) ≤ daysBeforeYear e.year := daysBeforeYear_mono h
  rw [daysBeforeYear_succ] at hyears
  have hwithin := daysBeforeMonth_add_le d.month_mem d.day_mem.2
  have hfirst := e.day_mem.1
  unfold dayNumber
  omega

theorem dayNumber_lt_of_month_lt {d e : Date} (hyear : d.year = e.year) (h : d.month < e.month) :
    d.dayNumber < e.dayNumber := by
  have hmonths : daysBeforeMonth e.year (d.month + 1) ≤ daysBeforeMonth e.year e.month :=
    daysBeforeMonth_mono e.year h
  rw [daysBeforeMonth_succ e.year d.month_mem.1] at hmonths
  have hlast := d.day_mem.2
  have hfirst := e.day_mem.1
  rw [hyear] at hlast
  rw [dayNumber, dayNumber, hyear]
  omega

/-- A date is known by the number of its day. -/
theorem eq_of_dayNumber_eq {d e : Date} (h : d.dayNumber = e.dayNumber) : d = e := by
  have hyear : d.year = e.year := by
    rcases Int.lt_trichotomy d.year e.year with hlt | heq | hgt
    · have := dayNumber_lt_of_year_lt hlt
      omega
    · exact heq
    · have := dayNumber_lt_of_year_lt hgt
      omega
  have hmonth : d.month = e.month := by
    rcases Nat.lt_trichotomy d.month e.month with hlt | heq | hgt
    · have := dayNumber_lt_of_month_lt hyear hlt
      omega
    · exact heq
    · have := dayNumber_lt_of_month_lt hyear.symm hgt
      omega
  have hday : d.day = e.day := by
    rw [dayNumber, dayNumber, hyear, hmonth] at h
    omega
  cases d
  cases e
  exact mk.injEq .. ▸ ⟨hyear, hmonth, hday⟩

/-- What is found is the date of the day `n`, and nothing is found when there is no such day. -/
def IsDateOf (n : Int) : Option Date → Prop
  | some d => d.dayNumber = n
  | none => ¬ IsDay n

/-- Month and day that fit give the date of their day, in any year. -/
theorem isDateOf_ofFields? {year : Int} {month day : Nat} (hmonth : 1 ≤ month ∧ month ≤ 12)
    (hday : 1 ≤ day ∧ day ≤ daysInMonth year month) :
    IsDateOf (daysBeforeYear year + daysBeforeMonth year month + (day - 1 : Int))
      (ofFields? year month day) := by
  by_cases hyear : -9999 ≤ year ∧ year ≤ 9999
  · rw [ofFields?, dif_pos hyear, dif_pos hmonth, dif_pos hday]
    rfl
  · rw [ofFields?, dif_neg hyear]
    rintro ⟨hfirst, hlast⟩
    have hwithin := daysBeforeMonth_add_le hmonth hday.2
    rcases Int.lt_or_le year (-9999) with hbefore | hafter
    · have hmono : daysBeforeYear (year + 1) ≤ daysBeforeYear (-9999) := daysBeforeYear_mono hbefore
      rw [daysBeforeYear_succ] at hmono
      omega
    · have hmono : daysBeforeYear 10000 ≤ daysBeforeYear year := daysBeforeYear_mono (by omega)
      omega

theorem isDateOf_next? (d : Date) : IsDateOf (d.dayNumber + 1) d.next? := by
  have hmonth := d.month_mem
  have hday := d.day_mem
  unfold next?
  split
  · next hlt =>
    have hnext : d.dayNumber + 1 =
        daysBeforeYear d.year + daysBeforeMonth d.year d.month + ((d.day + 1 : Nat) - 1 : Int) := by
      unfold dayNumber
      omega
    exact hnext ▸ isDateOf_ofFields? hmonth ⟨by omega, hlt⟩
  · next hlast =>
    have hdays := daysBeforeMonth_succ d.year hmonth.1
    split
    · next hlt =>
      have hnext : d.dayNumber + 1 =
          daysBeforeYear d.year + daysBeforeMonth d.year (d.month + 1) + ((1 : Nat) - 1 : Int) := by
        unfold dayNumber
        omega
      exact hnext ▸ isDateOf_ofFields? ⟨by omega, hlt⟩ ⟨Nat.le_refl 1, daysInMonth_pos _ _⟩
    · next hge =>
      have hdecember : d.month + 1 = 13 := by omega
      have hnext : d.dayNumber + 1 =
          daysBeforeYear (d.year + 1) + daysBeforeMonth (d.year + 1) 1 + ((1 : Nat) - 1 : Int) := by
        rw [hdecember, daysBeforeMonth_thirteen] at hdays
        rw [daysBeforeYear_succ, daysBeforeMonth_one, dayNumber]
        omega
      exact hnext ▸ isDateOf_ofFields? (by decide) ⟨Nat.le_refl 1, daysInMonth_pos _ _⟩

theorem isDateOf_previous? (d : Date) : IsDateOf (d.dayNumber - 1) d.previous? := by
  have hmonth := d.month_mem
  have hday := d.day_mem
  unfold previous?
  split
  · next hlt =>
    have hprevious : d.dayNumber - 1 =
        daysBeforeYear d.year + daysBeforeMonth d.year d.month + ((d.day - 1 : Nat) - 1 : Int) := by
      unfold dayNumber
      omega
    exact hprevious ▸ isDateOf_ofFields? hmonth ⟨by omega, by omega⟩
  · next hfirst =>
    split
    · next hlt =>
      have hlength := daysInMonth_pos d.year (d.month - 1)
      have hdays := daysBeforeMonth_succ d.year (Nat.le_sub_one_of_lt hlt)
      rw [Nat.sub_add_cancel hmonth.1] at hdays
      have hprevious : d.dayNumber - 1 =
          daysBeforeYear d.year + daysBeforeMonth d.year (d.month - 1) +
            (daysInMonth d.year (d.month - 1) - 1 : Int) := by
        unfold dayNumber
        omega
      exact hprevious ▸ isDateOf_ofFields? ⟨by omega, by omega⟩ ⟨hlength, Nat.le_refl _⟩
    · next hge =>
      have hlength : daysInMonth (d.year - 1) 12 = 31 := rfl
      have hdays := daysBeforeMonth_succ (d.year - 1) (by decide : 1 ≤ 12)
      rw [daysBeforeMonth_thirteen, hlength] at hdays
      have hyears := daysBeforeYear_succ (d.year - 1)
      rw [Int.sub_add_cancel] at hyears
      have hjanuary : d.month = 1 := by omega
      have hprevious : d.dayNumber - 1 =
          daysBeforeYear (d.year - 1) + daysBeforeMonth (d.year - 1) 12 + ((31 : Nat) - 1 : Int) := by
        rw [dayNumber, hjanuary, daysBeforeMonth_one]
        omega
      exact hprevious ▸ isDateOf_ofFields? (by decide) ⟨by decide, Nat.le_of_eq hlength.symm⟩

/-- Steps that each move by one day, forwards or backwards, move by as many days as they are. The
calendar has no gaps, so there is no way around a day that it lacks. -/
theorem isDateOf_iterate? {step : Date → Option Date} {move : Int} (hmove : move = 1 ∨ move = -1)
    (hstep : ∀ d : Date, IsDateOf (d.dayNumber + move) (step d)) (n : Nat) (d : Date) :
    IsDateOf (d.dayNumber + n * move) (iterate? step n d) := by
  induction n generalizing d with
  | zero => simp [iterate?, IsDateOf]
  | succ n ih =>
    have hsplit : d.dayNumber + (n + 1 : Nat) * move = d.dayNumber + move + n * move := by
      rw [Int.natCast_add, Int.add_mul]
      omega
    have hone := hstep d
    rw [hsplit, iterate?]
    cases h : step d with
    | none =>
      rw [h] at hone
      have hday := d.isDay_dayNumber
      simp only [IsDateOf, IsDay, Option.bind_none] at hone hday ⊢
      rcases hmove with rfl | rfl <;> omega
    | some e =>
      rw [h] at hone
      rw [← hone]
      exact ih e

theorem isDateOf_addDays? (d : Date) (n : Int) : IsDateOf (d.dayNumber + n) (d.addDays? n) := by
  unfold addDays?
  split
  · next h =>
    have hforwards := isDateOf_iterate? (.inl rfl) isDateOf_next? n.toNat d
    rwa [Int.mul_one, Int.toNat_of_nonneg h] at hforwards
  · next h =>
    have hbackwards := isDateOf_iterate? (.inr rfl) isDateOf_previous? (-n).toNat d
    have hn : ((-n).toNat : Int) * -1 = n := by omega
    rwa [hn] at hbackwards

end Date
end Quarry
