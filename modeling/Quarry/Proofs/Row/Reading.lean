import Quarry.ColumnMap
import Quarry.Proofs.Calendar.Instant
import Quarry.Proofs.Value.Fields

/-!
# Columns that are read as a type

A column that is read as a type gives a value or an error. One reading gives neither: an instant
that is read as a timestamp, when its date in UTC lies outside of the calendar. It stops whether a
value is read, a column of a row or one of a map, and whatever options and references are put
around the type (`FieldType.stops_iff_leavesCalendar`).
-/

namespace Quarry

/-- The reading comes to no end, neither with a value nor with an error that is returned. -/
def Stops {α : Type} : Except ConversionError α → Prop
  | .error (.outsideCalendar _) => True
  | _ => False

theorem stops_map_iff {α β : Type} (f : α → β) (r : Except ConversionError α) :
    Stops (r.map f) ↔ Stops r := by
  cases r with
  | error e => cases e <;> exact Iff.rfl
  | ok x => exact Iff.rfl

namespace IntegerType

variable {t s : IntegerType}

theorem not_stops_convert (n : BoundedInt s) : ¬ Stops (t.convert s n) := by
  rw [convert_eq]
  split
  · split <;> exact id
  · exact id

theorem not_stops_ofDecimal (d : Decimal) : ¬ Stops (t.ofDecimal d) := by
  unfold ofDecimal
  split
  · exact id
  · split
    · exact id
    · cases t.ofTruncated? d <;> exact id

end IntegerType

namespace SqlType

variable {t s : SqlType}

theorem not_stops_orRefuse (x : s.Carrier) (y : Option t.Carrier) :
    ¬ Stops (t.orRefuse s x y) := by
  cases y <;> exact id

theorem not_stops_char_text (x : String) : ¬ Stops (char.convert text x) := by
  rw [convert]
  split <;> exact id

theorem not_stops_uuid_text (x : String) : ¬ Stops (uuid.convert text x) := by
  rw [convert]
  split <;> exact id

theorem stops_timestamp_iff (z : ZonedTimestamp) :
    Stops (timestamp.convert zonedTimestamp z) ↔ ¬ z.InCalendar := by
  rw [← z.toUtc?_eq_none_iff, convert]
  cases z.toUtc? with
  | none => exact iff_of_true trivial rfl
  | some t => exact iff_of_false id nofun

theorem stops_convert_iff (x : s.Carrier) :
    Stops (t.convert s x) ↔
      t = .timestamp ∧ ∃ z, Value.of s x = .of .zonedTimestamp z ∧ ¬ z.InCalendar := by
  constructor
  · intro h
    cases t with
    | boolean =>
      cases s with
      | integer s => exact absurd h (not_stops_orRefuse x _)
      | _ => exact h.elim
    | integer t =>
      cases s with
      | integer s => exact absurd h (IntegerType.not_stops_convert x)
      | decimal => exact absurd h (IntegerType.not_stops_ofDecimal x)
      | _ => exact h.elim
    | decimal =>
      cases s with
      | integer s => exact absurd h (not_stops_orRefuse x _)
      | binary p => exact absurd h (not_stops_orRefuse x _)
      | _ => exact h.elim
    | char =>
      cases s with
      | text => exact absurd h (not_stops_char_text x)
      | _ => exact h.elim
    | timestamp =>
      cases s with
      | zonedTimestamp => exact ⟨rfl, x, rfl, (stops_timestamp_iff x).1 h⟩
      | _ => exact h.elim
    | uuid =>
      cases s with
      | text => exact absurd h (not_stops_uuid_text x)
      | _ => exact h.elim
    | _ => cases s <;> exact h.elim
  · rintro ⟨rfl, z, hvalue, hout⟩
    cases hvalue
    exact (stops_timestamp_iff z).2 hout

end SqlType

theorem mapError_eq_aborted_iff {α : Type} (r : Except ConversionError α) (l : Layer) :
    r.mapError (fun e => (Error.ofConversion e).within l) = .error .aborted ↔ Stops r := by
  cases r with
  | ok x => exact iff_of_false nofun id
  | error e =>
    cases e with
    | outsideCalendar z => exact iff_of_true rfl trivial
    | _ => exact iff_of_false nofun id

namespace FieldType

variable {t : FieldType}

/-- To read the value as the type takes a date outside of the calendar. -/
def LeavesCalendar (t : FieldType) (v : Value) : Prop :=
  t.base = .timestamp ∧ ∃ z, v = .of .zonedTimestamp z ∧ ¬ z.InCalendar

theorem stops_ofValue_iff (t : FieldType) (v : Value) :
    Stops (t.ofValue v) ↔ t.LeavesCalendar v := by
  rcases hnull : v.isNull with _ | _
  · obtain ⟨s, x, rfl⟩ := Value.exists_of_of_not_isNull hnull
    rw [ofValue_of_not_isNull hnull, stops_map_iff]
    exact SqlType.stops_convert_iff x
  · rw [ofValue_of_isNull hnull]
    refine iff_of_false ?_ ?_
    · cases t.absent? <;> exact id
    · rintro ⟨-, z, rfl, -⟩
      cases hnull

/-- The reading of what is found under a name, if something is, stops as that of the value. -/
theorem found_eq_aborted_iff (found : Option Value) (missing reading : Layer) :
    (match found with
      | none => .error (.of missing)
      | some v => (t.ofValue v).mapError fun e => (Error.ofConversion e).within reading :
        Except Error t.Carrier) = .error .aborted ↔
      ∃ v, found = some v ∧ t.LeavesCalendar v := by
  cases found with
  | none =>
    refine iff_of_false nofun ?_
    rintro ⟨v, hv, -⟩
    cases hv
  | some v =>
    simp only [mapError_eq_aborted_iff, stops_ofValue_iff, Option.some.injEq, exists_eq_left']

theorem getAs_row_eq_aborted_iff (r : Row) (name : String) :
    r.getAs t name = .error .aborted ↔ ∃ v, r.get? name = some v ∧ t.LeavesCalendar v :=
  found_eq_aborted_iff (r.get? name) _ _

theorem getAs_columnMap_eq_aborted_iff (m : ColumnMap) (name : String) :
    m.getAs t name = .error .aborted ↔ ∃ v, m.get? name = some v ∧ t.LeavesCalendar v :=
  found_eq_aborted_iff (m.get? name) _ _

/-- A value, a column of a row and a column of a map that are read as a type give a result, unless
the base type is the timestamp and what is read is an instant whose date in UTC lies outside of the
years -9999 to 9999: then the reading stops. -/
theorem stops_iff_leavesCalendar (t : FieldType) :
    (∀ v, Stops (t.ofValue v) ↔ t.LeavesCalendar v) ∧
    (∀ (r : Row) (name : String),
      r.getAs t name = .error .aborted ↔ ∃ v, r.get? name = some v ∧ t.LeavesCalendar v) ∧
    (∀ (m : ColumnMap) (name : String),
      m.getAs t name = .error .aborted ↔ ∃ v, m.get? name = some v ∧ t.LeavesCalendar v) :=
  ⟨t.stops_ofValue_iff, getAs_row_eq_aborted_iff, getAs_columnMap_eq_aborted_iff⟩

/-- Half an hour before the year 10000, an hour west of Greenwich. -/
def lastEvening : ZonedTimestamp where
  wall := ⟨⟨9999, 12, 31, by decide, by decide, by decide⟩,
    ⟨23, 30, 0, 0, by decide, by decide, by decide, by decide⟩⟩
  offset := { ZoneOffset.utc with hours := -1, hours_mem := by decide, one_sign := by decide }

def visitRow : Row := ⟨["title", "seen"], [.ofString "Atlas", .of .zonedTimestamp lastEvening]⟩

/-- The last evening has no UTC form, so it is read neither as a timestamp nor refused. -/
theorem stops_lastEvening :
    ¬ lastEvening.InCalendar ∧
      (plain .timestamp).ofValue (.of .zonedTimestamp lastEvening) =
        .error (.outsideCalendar lastEvening) ∧
      visitRow.getAs (optional (plain .timestamp)) "seen" = .error .aborted ∧
      (ColumnMap.ofRow visitRow).getAs (plain .timestamp) "seen" = .error .aborted := by
  have hout : ¬ lastEvening.InCalendar := by decide
  have hleaves : (plain .timestamp).LeavesCalendar (.of .zonedTimestamp lastEvening) :=
    ⟨rfl, lastEvening, rfl, hout⟩
  refine ⟨hout, rfl, (getAs_row_eq_aborted_iff _ _).2 ⟨_, rfl, hleaves⟩, ?_⟩
  exact (getAs_columnMap_eq_aborted_iff _ _).2 ⟨_, rfl, hleaves⟩

end FieldType
end Quarry
