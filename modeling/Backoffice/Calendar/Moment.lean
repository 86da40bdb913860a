import Backoffice.Calendar.Date
import Backoffice.Number.Binary64

/-!
# Moments

Wall clock times to the microsecond and moments, which are wall clock times with or without an
offset from UTC.  A wall clock time is the count of microseconds from the beginning of the year
1; every value lies in the calendar, so arithmetic on it can fail.
-/

namespace Backoffice

/-- The microseconds of a second. -/
def secondMicros : Nat := 1000000

/-- The microseconds of a day. -/
def dayMicros : Nat := 86400000000

/-- The microseconds of the whole calendar. -/
def calendarMicros : Nat := calendarDays * dayMicros

/-- A time on the clock on the wall, in microseconds from the beginning of the year 1. -/
structure WallTime where
  micros : Nat
  inCalendar : micros < calendarMicros
deriving Repr, DecidableEq

namespace WallTime

/-- The wall clock time of a count of microseconds, if it lies in the calendar. -/
def ofMicros? (n : Int) : Option WallTime :=
  if h : n.toNat < calendarMicros then
    if 0 ≤ n then some ⟨n.toNat, h⟩ else none
  else none

/-- The time that is `delta` microseconds later. -/
def add? (t : WallTime) (delta : Int) : Option WallTime :=
  ofMicros? (t.micros + delta)

/-- Midnight of the same day. -/
def startOfDay (t : WallTime) : WallTime :=
  ⟨t.micros - t.micros % dayMicros, Nat.lt_of_le_of_lt (Nat.sub_le ..) t.inCalendar⟩

/-- The date. -/
def date (t : WallTime) : Date :=
  .ofDayNumber (t.micros / dayMicros)

/-- The microseconds since midnight. -/
def ofDay (t : WallTime) : Nat :=
  t.micros % dayMicros

/-- The time of a date and of hours, minutes, seconds and microseconds, if there is such. -/
def ofFields? (date : Date) (hour minute second micro : Nat) : Option WallTime :=
  if date.isValid && hour < 24 && minute < 60 && second < 60 && micro < secondMicros then
    ofMicros? (date.dayNumber * dayMicros +
      (((hour * 60 + minute) * 60 + second) * secondMicros + micro))
  else none

/-- The beginning of the year 1970. -/
def unixEpoch : WallTime :=
  ⟨unixEpochDay * dayMicros, by decide⟩

/-- The microseconds since the beginning of the year 1970. -/
def unixMicros (t : WallTime) : Int :=
  t.micros - unixEpoch.micros

/-- The seconds since the beginning of the year 1970, rounded down. -/
def unixSeconds (t : WallTime) : Int :=
  Int.fdiv t.unixMicros secondMicros

/-- The whole seconds of the floating-point count of seconds since the beginning of the year
1970.  Far in the future the count is coarser than a microsecond, so that the last microsecond
of a second may count as the next second. -/
def unixTimestamp (t : WallTime) : Int :=
  let n := t.unixMicros
  ((Binary64.ofRatio (n < 0) n.natAbs secondMicros).truncate?).getD 0

end WallTime

/-- An offset from UTC in minutes, of less than a day. -/
structure Offset where
  minutes : Int
  lessThanDay : minutes.natAbs < 1440
deriving Repr, DecidableEq

namespace Offset

/-- The offset of UTC itself. -/
def utc : Offset := ⟨0, by decide⟩

/-- The microseconds of the offset. -/
def micros (o : Offset) : Int :=
  o.minutes * 60 * secondMicros

end Offset

/-- A wall clock time, and its offset from UTC if it is known. -/
structure Moment where
  wall : WallTime
  offset : Option Offset
deriving Repr, DecidableEq

namespace Moment

/-- The moment of a wall clock time in UTC. -/
def utc (t : WallTime) : Moment := ⟨t, some .utc⟩

/-- The microseconds from the beginning of the year 1 in UTC; a moment without an offset is
taken as it is. -/
def instant (m : Moment) : Int :=
  match m.offset with
  | some o => m.wall.micros - o.micros
  | none => m.wall.micros

/-- The two moments are the same instant.  One with an offset never equals one without. -/
def sameInstant (m n : Moment) : Bool :=
  m.offset.isSome == n.offset.isSome && m.instant == n.instant

/-- The moment with the offset of `other`, if it has none of its own. -/
def withOffsetOf (m : Moment) (other : Option Moment) : Moment :=
  match m.offset, other with
  | none, some n => { m with offset := n.offset }
  | _, _ => m

/-- Midnight of the same day with the same offset. -/
def startOfDay (m : Moment) : Moment :=
  { m with wall := m.wall.startOfDay }

/-- The moment that many days later with the same offset. -/
def addDays? (m : Moment) (days : Nat) : Option Moment :=
  (m.wall.add? (days * dayMicros)).map ({ m with wall := · })

end Moment

end Backoffice
