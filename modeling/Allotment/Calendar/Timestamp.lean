import Allotment.Calendar.Date

/-!
# Timestamps

A timestamp is a date, a time of day and the offset of the local clock from UTC. Two
timestamps may differ and yet name the same instant; `instant` is what they are compared by.
-/

namespace Allotment

structure Timestamp where
  date : Date
  time : ClockTime
  /-- Minutes by which the local clock is ahead of UTC. -/
  offset : Int
  offset_gt : -1440 < offset
  offset_lt : offset < 1440
  deriving DecidableEq, Repr

namespace Timestamp

def of? (date : Date) (time : ClockTime) (offset : Int) : Option Timestamp :=
  if h : -1440 < offset ∧ offset < 1440 then some ⟨date, time, offset, h.1, h.2⟩ else none

/-- Minutes in UTC since the start of the year 0. -/
def utcMinute (t : Timestamp) : Int :=
  (t.date.number * 1440 + t.time.hour * 60 + t.time.minute : Nat) - t.offset

/-- Nanoseconds in UTC since the start of the year 0. -/
def instant (t : Timestamp) : Int :=
  (t.utcMinute * 60 + t.time.second) * 1000000000 + t.time.nanosecond

/-- The minute is the last one of a month in UTC, so a leap second may follow it. -/
def endsMonth (t : Timestamp) : Bool :=
  let next := t.utcMinute + 1
  let year := t.date.year
  let month := t.date.month
  next == (Calendar.monthStart year month * 1440 : Nat) ||
    next == ((Calendar.monthStart year month + Calendar.daysInMonth year month) * 1440 : Nat)

theorem of?_self (t : Timestamp) : of? t.date t.time t.offset = some t := by
  simp [of?, t.offset_gt, t.offset_lt]

end Timestamp

end Allotment
