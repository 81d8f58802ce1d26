import Quarry.Calendar.Clock
import Quarry.Calendar.Date

/-!
# Timestamps

A timestamp is a date with a time of day. A zoned timestamp also knows the offset
of its local time from UTC, and stands for an instant: two of them are equal when
their instants are, whatever the offsets. The UTC form of a zoned timestamp can lie
outside of the calendar.
-/
namespace Quarry

structure Timestamp where
  date : Date
  time : ClockTime
  deriving DecidableEq

/-- Hours, minutes and seconds ahead of UTC, all of one sign. -/
structure ZoneOffset where
  hours : Int
  minutes : Int
  seconds : Int
  hours_mem : -25 ≤ hours ∧ hours ≤ 25
  minutes_mem : -59 ≤ minutes ∧ minutes ≤ 59
  seconds_mem : -59 ≤ seconds ∧ seconds ≤ 59
  one_sign : (0 ≤ hours ∧ 0 ≤ minutes ∧ 0 ≤ seconds) ∨ (hours ≤ 0 ∧ minutes ≤ 0 ∧ seconds ≤ 0)
  deriving DecidableEq

structure ZonedTimestamp where
  wall : Timestamp
  offset : ZoneOffset
  deriving DecidableEq

namespace Timestamp

def seconds (t : Timestamp) : Int := 86400 * t.date.dayNumber + t.time.secondOfDay

/-- The timestamp `n` seconds later, unless it lies outside of the calendar. -/
def addSeconds? (t : Timestamp) (n : Int) : Option Timestamp :=
  let total := t.time.secondOfDay + n
  let second := (total % 86400).toNat
  (t.date.addDays? (total / 86400)).map fun date =>
    ⟨date, .ofSecondOfDay second t.time.nanosecond (by omega) t.time.nanosecond_lt⟩

def text (t : Timestamp) : String := t.date.text ++ " " ++ t.time.text

end Timestamp

namespace ZoneOffset

def utc : ZoneOffset := ⟨0, 0, 0, by decide, by decide, by decide, by decide⟩

def withSignOf (lead n : Int) : Int := if 0 < lead then n.natAbs else if lead < 0 then -n.natAbs else n

/-- The offset with these fields, if they are in range; the sign of the largest unit that
is not zero holds for the smaller ones. -/
def ofFields? (hours minutes seconds : Int) : Option ZoneOffset :=
  if h : (-25 ≤ hours ∧ hours ≤ 25) ∧ (-59 ≤ minutes ∧ minutes ≤ 59) ∧
      (-59 ≤ seconds ∧ seconds ≤ 59) then
    let minutes' := withSignOf hours minutes
    let seconds' := if hours = 0 then withSignOf minutes' seconds else withSignOf hours seconds
    some ⟨hours, minutes', seconds', h.1, by grind [withSignOf], by grind [withSignOf],
      by grind [withSignOf]⟩
  else none

def totalSeconds (o : ZoneOffset) : Int := 3600 * o.hours + 60 * o.minutes + o.seconds

def text (o : ZoneOffset) : String :=
  (if o.hours < 0 ∨ o.minutes < 0 ∨ o.seconds < 0 then "-" else "+") ++
    zeroPadded 2 o.hours.natAbs ++ ":" ++ zeroPadded 2 o.minutes.natAbs ++ ":" ++
    zeroPadded 2 o.seconds.natAbs

end ZoneOffset

namespace ZonedTimestamp

def ofUtc (t : Timestamp) : ZonedTimestamp := ⟨t, .utc⟩

/-- The UTC form, unless it lies outside of the calendar. -/
def toUtc? (z : ZonedTimestamp) : Option Timestamp := z.wall.addSeconds? (-z.offset.totalSeconds)

def instant (z : ZonedTimestamp) : Int := z.wall.seconds - z.offset.totalSeconds

def equals (a b : ZonedTimestamp) : Bool :=
  a.instant == b.instant && a.wall.time.nanosecond == b.wall.time.nanosecond

def text (z : ZonedTimestamp) : String := z.wall.text ++ " " ++ z.offset.text

end ZonedTimestamp
end Quarry
