/-!
# Dates and clock times

Days of the years 0 to 9999 in the Gregorian calendar, carried back before its introduction,
and times of day to the nanosecond. `Date.number` counts days from 1 January of the year 0.
-/

namespace Allotment

namespace Calendar

def isLeapYear (year : Nat) : Bool :=
  year % 4 == 0 && (year % 100 != 0 || year % 400 == 0)

def daysInMonth (year month : Nat) : Nat :=
  match month with
  | 2 => if isLeapYear year then 29 else 28
  | 4 | 6 | 9 | 11 => 30
  | _ => 31

/-- Days of the years before the given one. -/
def daysBeforeYear (year : Nat) : Nat :=
  365 * year + (year + 3) / 4 + (year + 399) / 400 - (year + 99) / 100

/-- Days of the months of the year before the given one. -/
def daysBeforeMonth (year month : Nat) : Nat :=
  ((List.range (month - 1)).map fun m => daysInMonth year (m + 1)).foldr (· + ·) 0

/-- The number of the first day of a month. -/
def monthStart (year month : Nat) : Nat :=
  daysBeforeYear year + daysBeforeMonth year month

end Calendar

structure Date where
  year : Nat
  month : Nat
  day : Nat
  year_lt : year < 10000
  one_le_month : 1 ≤ month
  month_le : month ≤ 12
  one_le_day : 1 ≤ day
  day_le : day ≤ Calendar.daysInMonth year month
  deriving DecidableEq, Repr

namespace Date

def of? (year month day : Nat) : Option Date :=
  if h : year < 10000 ∧ 1 ≤ month ∧ month ≤ 12 ∧ 1 ≤ day ∧
      day ≤ Calendar.daysInMonth year month then
    some ⟨year, month, day, h.1, h.2.1, h.2.2.1, h.2.2.2.1, h.2.2.2.2⟩
  else none

def number (d : Date) : Nat :=
  Calendar.monthStart d.year d.month + (d.day - 1)

theorem of?_self (d : Date) : of? d.year d.month d.day = some d := by
  simp [of?, d.year_lt, d.one_le_month, d.month_le, d.one_le_day, d.day_le]

end Date

structure ClockTime where
  hour : Nat
  minute : Nat
  second : Nat
  nanosecond : Nat
  hour_lt : hour < 24
  minute_lt : minute < 60
  second_lt : second < 60
  nanosecond_lt : nanosecond < 1000000000
  deriving DecidableEq, Repr

namespace ClockTime

def of? (hour minute second nanosecond : Nat) : Option ClockTime :=
  if h : hour < 24 ∧ minute < 60 ∧ second < 60 ∧ nanosecond < 1000000000 then
    some ⟨hour, minute, second, nanosecond, h.1, h.2.1, h.2.2.1, h.2.2.2⟩
  else none

theorem of?_self (t : ClockTime) : of? t.hour t.minute t.second t.nanosecond = some t := by
  simp [of?, t.hour_lt, t.minute_lt, t.second_lt, t.nanosecond_lt]

end ClockTime

end Allotment
