import Quarry.Number.Decimal

/-!
# Times of day

A time of day is an hour, a minute, a second and a nanosecond, without leap seconds.
-/
namespace Quarry

structure ClockTime where
  hour : Nat
  minute : Nat
  second : Nat
  nanosecond : Nat
  hour_lt : hour < 24
  minute_lt : minute < 60
  second_lt : second < 60
  nanosecond_lt : nanosecond < 1000000000
  deriving DecidableEq

namespace ClockTime

def ofFields? (hour minute second nanosecond : Nat) : Option ClockTime :=
  if h : hour < 24 ∧ minute < 60 ∧ second < 60 ∧ nanosecond < 1000000000 then
    some ⟨hour, minute, second, nanosecond, h.1, h.2.1, h.2.2.1, h.2.2.2⟩
  else none

def secondOfDay (t : ClockTime) : Nat := 3600 * t.hour + 60 * t.minute + t.second

def ofSecondOfDay (n nanosecond : Nat) (hn : n < 86400) (h : nanosecond < 1000000000) : ClockTime :=
  ⟨n / 3600, n / 60 % 60, n % 60, nanosecond, by omega, by omega, by omega, h⟩

@[simp]
theorem secondOfDay_ofSecondOfDay (n k : Nat) (hn : n < 86400) (h : k < 1000000000) :
    (ofSecondOfDay n k hn h).secondOfDay = n := by
  simp only [ofSecondOfDay, secondOfDay]; omega

theorem secondOfDay_lt (t : ClockTime) : t.secondOfDay < 86400 := by
  have := t.hour_lt; have := t.minute_lt; have := t.second_lt
  unfold secondOfDay; omega

/-- Nine digits without the zeros at the end, but one digit at least. -/
def fractionText (nanosecond : Nat) : String :=
  let ds := (zeroPadded 9 nanosecond).toList
  String.ofList (ds.take 1 ++ ((ds.drop 1).reverse.dropWhile (· == '0')).reverse)

def text (t : ClockTime) : String :=
  toString t.hour ++ ":" ++ zeroPadded 2 t.minute ++ ":" ++ zeroPadded 2 t.second ++ "." ++
    fractionText t.nanosecond

end ClockTime
end Quarry
