import Quarry.Calendar.Timestamp
import Quarry.Proofs.Calendar.Day

/-!
# Instants of the calendar

A timestamp that is moved by some seconds is the timestamp of that second, and there is none just
when the second belongs to no day of the calendar. So the UTC form of a zoned timestamp shows its
instant, and it is missing just when the instant lies outside of the years -9999 to 9999
(`ZonedTimestamp.toUtc?_eq_none_iff`). This is all that is relied on of a conversion to UTC, and
there is only one conversion of which it holds (`ZonedTimestamp.ConvertsUtc`).
-/

namespace Quarry

/-- The second, counted from the start of the year 0, belongs to a day of the calendar. -/
def IsSecond (n : Int) : Prop :=
  86400 * daysBeforeYear (-9999) ≤ n ∧ n < 86400 * daysBeforeYear 10000

instance (n : Int) : Decidable (IsSecond n) := inferInstanceAs (Decidable (_ ∧ _))

theorem isSecond_iff_isDay (n : Int) : IsSecond n ↔ IsDay (n / 86400) := by
  unfold IsSecond IsDay
  omega

/-- A time of day is known by its second and its nanosecond. -/
theorem ClockTime.eq_of_secondOfDay_eq {t u : ClockTime} (h : t.secondOfDay = u.secondOfDay)
    (hnanosecond : t.nanosecond = u.nanosecond) : t = u := by
  have hminute := t.minute_lt
  have hsecond := t.second_lt
  have hminute' := u.minute_lt
  have hsecond' := u.second_lt
  unfold secondOfDay at h
  have hfields : t.hour = u.hour ∧ t.minute = u.minute ∧ t.second = u.second := by omega
  cases t
  cases u
  exact mk.injEq .. ▸ ⟨hfields.1, hfields.2.1, hfields.2.2, hnanosecond⟩

namespace Timestamp

theorem seconds_div (t : Timestamp) : t.seconds / 86400 = t.date.dayNumber := by
  have hlt := t.time.secondOfDay_lt
  unfold seconds
  omega

theorem isSecond_seconds (t : Timestamp) : IsSecond t.seconds := by
  rw [isSecond_iff_isDay, t.seconds_div]
  exact t.date.isDay_dayNumber

theorem eq_of_seconds_eq {t u : Timestamp} (h : t.seconds = u.seconds)
    (hnanosecond : t.time.nanosecond = u.time.nanosecond) : t = u := by
  have hdate : t.date = u.date := by
    apply Date.eq_of_dayNumber_eq
    rw [← t.seconds_div, ← u.seconds_div, h]
  have htime : t.time = u.time := by
    refine ClockTime.eq_of_secondOfDay_eq ?_ hnanosecond
    rw [seconds, seconds, hdate] at h
    omega
  cases t
  cases u
  exact mk.injEq .. ▸ ⟨hdate, htime⟩

/-- What is found is the timestamp of the second `n` and of a nanosecond, and nothing is found when
no day of the calendar has the second. -/
def IsTimestampOf (n : Int) (nanosecond : Nat) : Option Timestamp → Prop
  | some t => t.seconds = n ∧ t.time.nanosecond = nanosecond
  | none => ¬ IsSecond n

theorem IsTimestampOf.eq_none_iff {n : Int} {nanosecond : Nat} {found : Option Timestamp}
    (h : IsTimestampOf n nanosecond found) : found = none ↔ ¬ IsSecond n := by
  cases found with
  | none => exact iff_of_true rfl h
  | some t => exact iff_of_false nofun (not_not_intro (h.1 ▸ t.isSecond_seconds))

theorem IsTimestampOf.exists_of_isSecond {n : Int} {nanosecond : Nat} {found : Option Timestamp}
    (h : IsTimestampOf n nanosecond found) (hn : IsSecond n) :
    ∃ t, found = some t ∧ t.seconds = n ∧ t.time.nanosecond = nanosecond := by
  cases found with
  | none => exact absurd hn h
  | some t => exact ⟨t, rfl, h.1, h.2⟩

/-- There is one timestamp of a second and a nanosecond at most, so all searches for it agree. -/
theorem IsTimestampOf.unique {n : Int} {nanosecond : Nat} {found found' : Option Timestamp}
    (h : IsTimestampOf n nanosecond found) (h' : IsTimestampOf n nanosecond found') :
    found = found' := by
  by_cases hn : IsSecond n
  · obtain ⟨t, rfl, hseconds, hnanosecond⟩ := h.exists_of_isSecond hn
    obtain ⟨u, rfl, hseconds', hnanosecond'⟩ := h'.exists_of_isSecond hn
    rw [eq_of_seconds_eq (hseconds.trans hseconds'.symm) (hnanosecond.trans hnanosecond'.symm)]
  · rw [h.eq_none_iff.2 hn, h'.eq_none_iff.2 hn]

theorem isTimestampOf_addSeconds? (t : Timestamp) (n : Int) :
    IsTimestampOf (t.seconds + n) t.time.nanosecond (t.addSeconds? n) := by
  have hday : (t.seconds + n) / 86400 = t.date.dayNumber + (t.time.secondOfDay + n) / 86400 := by
    unfold seconds
    omega
  have hdate := t.date.isDateOf_addDays? ((t.time.secondOfDay + n) / 86400)
  rw [← hday] at hdate
  dsimp only [addSeconds?]
  cases hfound : t.date.addDays? ((t.time.secondOfDay + n) / 86400) with
  | none =>
    rw [hfound] at hdate
    exact mt (isSecond_iff_isDay _).1 hdate
  | some d =>
    rw [hfound] at hdate
    have hnumber : d.dayNumber = (t.seconds + n) / 86400 := hdate
    refine ⟨?_, rfl⟩
    simp only [seconds, ClockTime.secondOfDay_ofSecondOfDay] at hnumber ⊢
    omega

end Timestamp

namespace ZonedTimestamp

theorem equals_iff {z w : ZonedTimestamp} :
    z.equals w = true ↔
      z.instant = w.instant ∧ z.wall.time.nanosecond = w.wall.time.nanosecond := by
  simp [equals]

def InCalendar (z : ZonedTimestamp) : Prop := IsSecond z.instant

instance (z : ZonedTimestamp) : Decidable z.InCalendar := inferInstanceAs (Decidable (IsSecond _))

/-- What a calendar must do for zoned timestamps. The UTC form shows the instant with its
nanosecond and is missing only where no day of the calendar has the instant; a timestamp that is
taken as UTC stays as it is, with an offset of zero. -/
structure ConvertsUtc (toUtc? : ZonedTimestamp → Option Timestamp)
    (ofUtc : Timestamp → ZonedTimestamp) : Prop where
  toUtc : ∀ z, Timestamp.IsTimestampOf z.instant z.wall.time.nanosecond (toUtc? z)
  ofUtc : ∀ t, (ofUtc t).wall = t ∧ (ofUtc t).offset = .utc

theorem convertsUtc : ConvertsUtc toUtc? ofUtc where
  toUtc z := by
    have h := z.wall.isTimestampOf_addSeconds? (-z.offset.totalSeconds)
    rwa [← Int.sub_eq_add_neg] at h
  ofUtc _ := ⟨rfl, rfl⟩

namespace ConvertsUtc

variable {f : ZonedTimestamp → Option Timestamp} {g : Timestamp → ZonedTimestamp}

theorem unique (h : ConvertsUtc f g) : f = toUtc? ∧ g = ZonedTimestamp.ofUtc := by
  constructor
  · funext z
    exact (h.toUtc z).unique (convertsUtc.toUtc z)
  · funext t
    obtain ⟨hwall, hoffset⟩ := h.ofUtc t
    cases hz : g t
    rw [hz] at hwall hoffset
    exact mk.injEq .. ▸ ⟨hwall, hoffset⟩

theorem eq_none_iff (h : ConvertsUtc f g) (z : ZonedTimestamp) : f z = none ↔ ¬ z.InCalendar :=
  (h.toUtc z).eq_none_iff

theorem instant_ofUtc (h : ConvertsUtc f g) (t : Timestamp) : (g t).instant = t.seconds := by
  obtain ⟨hwall, hoffset⟩ := h.ofUtc t
  rw [instant, hwall, hoffset]
  exact Int.sub_zero _

theorem exists_of_inCalendar (h : ConvertsUtc f g) {z : ZonedTimestamp} (hz : z.InCalendar) :
    ∃ t, f z = some t ∧ (g t).equals z = true := by
  obtain ⟨t, hfound, hseconds, hnanosecond⟩ := (h.toUtc z).exists_of_isSecond hz
  have hinstant : (g t).instant = z.instant := (h.instant_ofUtc t).trans hseconds
  have hsame : (g t).wall.time.nanosecond = z.wall.time.nanosecond := by
    rw [(h.ofUtc t).1, hnanosecond]
  exact ⟨t, hfound, equals_iff.2 ⟨hinstant, hsame⟩⟩

theorem toUtc_ofUtc (h : ConvertsUtc f g) (t : Timestamp) : f (g t) = some t := by
  have hfound := h.toUtc (g t)
  rw [h.instant_ofUtc, (h.ofUtc t).1] at hfound
  have hself : Timestamp.IsTimestampOf t.seconds t.time.nanosecond (some t) := ⟨rfl, rfl⟩
  exact hfound.unique hself

theorem toUtc_eq_of_equals (h : ConvertsUtc f g) {z w : ZonedTimestamp}
    (hequal : z.equals w = true) : f z = f w := by
  obtain ⟨hinstant, hnanosecond⟩ := equals_iff.1 hequal
  have hfound := h.toUtc w
  rw [← hinstant, ← hnanosecond] at hfound
  exact (h.toUtc z).unique hfound

end ConvertsUtc

theorem toUtc?_eq_none_iff (z : ZonedTimestamp) : z.toUtc? = none ↔ ¬ z.InCalendar :=
  convertsUtc.eq_none_iff z

end ZonedTimestamp
end Quarry
