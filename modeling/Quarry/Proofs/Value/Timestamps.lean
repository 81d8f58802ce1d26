import Quarry.Proofs.Calendar.Instant
import Quarry.Value.Conversion

/-!
# Timestamps with and without a zone

A timestamp is read as the instant that it is in UTC, and an instant as the timestamp that it has in
UTC. So no way there and back moves an instant, whatever its offset and wherever a day, a month or a
year changes between its local time and UTC (`SqlType.timestamps_keep_instants`).
-/

namespace Quarry

namespace SqlType

open ZonedTimestamp (convertsUtc)

theorem read_timestamp_as_zoned (t : Timestamp) :
    zonedTimestamp.read (.of .timestamp t) = .ok (.ofUtc t) := rfl

theorem read_zoned_as_timestamp_eq_ok_iff {z : ZonedTimestamp} {t : Timestamp} :
    timestamp.read (.of .zonedTimestamp z) = .ok t ↔ z.toUtc? = some t := by
  change timestamp.convert zonedTimestamp z = .ok t ↔ _
  rw [convert]
  cases z.toUtc? <;> simp

/-- A timestamp that is read as an instant and back is the same. An instant with a date in the years
-9999 to 9999 in UTC that is read as a timestamp and back is an equal one. And equal instants are
read as the same timestamp, or none of them is read. -/
theorem timestamps_keep_instants :
    (∀ t : Timestamp, ∃ z, zonedTimestamp.read (.of .timestamp t) = .ok z ∧
      z.instant = t.seconds ∧ timestamp.read (.of .zonedTimestamp z) = .ok t) ∧
    (∀ z : ZonedTimestamp, z.InCalendar →
      ∃ t w, timestamp.read (.of .zonedTimestamp z) = .ok t ∧
        zonedTimestamp.read (.of .timestamp t) = .ok w ∧
        (Value.of .zonedTimestamp w).equals (.of .zonedTimestamp z) = true) ∧
    (∀ z w : ZonedTimestamp,
      (Value.of .zonedTimestamp z).equals (.of .zonedTimestamp w) = true →
      ∀ t, timestamp.read (.of .zonedTimestamp z) = .ok t ↔
        timestamp.read (.of .zonedTimestamp w) = .ok t) := by
  refine ⟨fun t => ?_, fun z hz => ?_, fun z w hequal t => ?_⟩
  · have hback := read_zoned_as_timestamp_eq_ok_iff.2 (convertsUtc.toUtc_ofUtc t)
    exact ⟨.ofUtc t, read_timestamp_as_zoned t, convertsUtc.instant_ofUtc t, hback⟩
  · obtain ⟨t, hfound, hequal⟩ := convertsUtc.exists_of_inCalendar hz
    exact ⟨t, .ofUtc t, read_zoned_as_timestamp_eq_ok_iff.2 hfound, read_timestamp_as_zoned t,
      hequal⟩
  · have hsame : z.toUtc? = w.toUtc? := convertsUtc.toUtc_eq_of_equals hequal
    rw [read_zoned_as_timestamp_eq_ok_iff, read_zoned_as_timestamp_eq_ok_iff, hsame]

def leapEvening : Timestamp :=
  ⟨⟨2024, 2, 29, by decide, by decide, by decide⟩,
    ⟨22, 44, 59, 1, by decide, by decide, by decide, by decide⟩⟩

/-- That evening in Nepal, where March has begun. -/
def nepaleseMorning : ZonedTimestamp where
  wall := ⟨⟨2024, 3, 1, by decide, by decide, by decide⟩,
    ⟨4, 29, 59, 1, by decide, by decide, by decide, by decide⟩⟩
  offset := { ZoneOffset.utc with
    hours := 5, minutes := 45
    hours_mem := by decide, minutes_mem := by decide, one_sign := by decide }

def americanAfternoon : ZonedTimestamp where
  wall := ⟨⟨2024, 2, 29, by decide, by decide, by decide⟩,
    ⟨17, 44, 59, 1, by decide, by decide, by decide, by decide⟩⟩
  offset := { ZoneOffset.utc with hours := -5, hours_mem := by decide, one_sign := by decide }

theorem timestamps_keep_instants_leapEvening :
    nepaleseMorning.InCalendar ∧
      (Value.of .zonedTimestamp nepaleseMorning).equals (.of .zonedTimestamp americanAfternoon) ∧
      timestamp.read (.of .zonedTimestamp nepaleseMorning) = .ok leapEvening ∧
      timestamp.read (.of .zonedTimestamp americanAfternoon) = .ok leapEvening ∧
      ∃ w, zonedTimestamp.read (.of .timestamp leapEvening) = .ok w ∧
        (Value.of .zonedTimestamp w).equals (.of .zonedTimestamp nepaleseMorning) = true := by
  have hin : nepaleseMorning.InCalendar := by decide
  have hequal : (Value.of .zonedTimestamp nepaleseMorning).equals
      (.of .zonedTimestamp americanAfternoon) = true := by decide
  have hread : timestamp.read (.of .zonedTimestamp nepaleseMorning) = .ok leapEvening := by rfl
  obtain ⟨-, hback, hsame⟩ := timestamps_keep_instants
  obtain ⟨t, w, ht, hw, hwequal⟩ := hback nepaleseMorning hin
  obtain rfl : leapEvening = t := Except.ok.inj (hread.symm.trans ht)
  exact ⟨hin, hequal, hread, (hsame _ _ hequal leapEvening).1 hread, w, hw, hwequal⟩

end SqlType
end Quarry
