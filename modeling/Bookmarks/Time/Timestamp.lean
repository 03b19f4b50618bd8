import Bookmarks.Number.Basic
import Bookmarks.Time.Calendar

/-!
# Timestamps

A timestamp is a date and a time of day down to the microsecond, with or without an offset from
universal time. Without one it is read as universal time.

* `TimeOfDay`, `UtcOffset`, `Timestamp`: the types.
* `Timestamp.instant`: the instant on the common time scale, in microseconds.
* `Moment`: what two timestamps that count as equal have in common.
* `Timestamp.daysUntil`: the days from one timestamp to another.
-/

namespace Bookmarks

/-- A time of day. -/
structure TimeOfDay where
  hour : Nat
  minute : Nat
  second : Nat
  micro : Nat
  inDay : hour < 24 ∧ minute < 60 ∧ second < 60 ∧ micro < 1000000
deriving DecidableEq

namespace TimeOfDay

/-- The time of day of the given parts, if they are in range. -/
def make? (hour minute second micro : Nat) : Option TimeOfDay :=
  if h : hour < 24 ∧ minute < 60 ∧ second < 60 ∧ micro < 1000000 then
    some ⟨hour, minute, second, micro, h⟩
  else none

/-- The start of the day. -/
def midnight : TimeOfDay :=
  ⟨0, 0, 0, 0, by decide⟩

/-- The microseconds since the start of the day. -/
def micros (t : TimeOfDay) : Nat :=
  ((t.hour * 60 + t.minute) * 60 + t.second) * 1000000 + t.micro

end TimeOfDay

/-- The microseconds of a day. -/
def microsPerDay : Nat := 86400000000

/-- An offset from universal time, of less than a day. -/
structure UtcOffset where
  micros : Int
  underDay : micros.natAbs < microsPerDay
deriving DecidableEq

namespace UtcOffset

/-- The offset of the given microseconds, if it is under a day. -/
def make? (micros : Int) : Option UtcOffset :=
  if h : micros.natAbs < microsPerDay then some ⟨micros, h⟩ else none

/-- No offset. -/
def zero : UtcOffset :=
  ⟨0, by decide⟩

end UtcOffset

/-- A date and a time of day, and the offset from universal time if it is known. -/
structure Timestamp where
  date : Date
  time : TimeOfDay
  offset : Option UtcOffset
deriving DecidableEq

/-- What makes two timestamps equal: the instant, and whether the offset is known. -/
structure Moment where
  instant : Int
  hasOffset : Bool
deriving DecidableEq

namespace Timestamp

/-- The instant in microseconds since the start of the year 1 in universal time. -/
def instant (t : Timestamp) : Int :=
  (t.date.dayNumber * microsPerDay + t.time.micros : Nat) - (t.offset.map UtcOffset.micros).getD 0

/-- The moment of a timestamp. -/
def moment (t : Timestamp) : Moment :=
  ⟨t.instant, t.offset.isSome⟩

/-- The timestamp with universal time assumed where it has no offset. -/
def withOffset (t : Timestamp) : Timestamp :=
  { t with offset := some (t.offset.getD .zero) }

/-- The timestamp of an instant in universal time. -/
def ofInstant? (n : Int) : Option Timestamp := do
  if n < 0 then none
  else
    let micros := n.toNat % microsPerDay
    let seconds := micros / 1000000
    let date ← Date.ofDayNumber? (n.toNat / microsPerDay)
    let time ←
      TimeOfDay.make? (seconds / 3600) (seconds / 60 % 60) (seconds % 60) (micros % 1000000)
    return ⟨date, time, some .zero⟩

/-- Seconds in a day. -/
def secondsPerDay : Binary64 :=
  .ofInt 86400

/-- The rounded number of days in some microseconds: of seconds first, and of days then. -/
def days (micros : Int) : Binary64 :=
  Binary64.ofRatio (micros < 0) micros.natAbs 1000000 / secondsPerDay

/-- The days from `earlier` to `later`, negative if `later` comes first. -/
def daysUntil (earlier later : Timestamp) : Binary64 :=
  days (later.instant - earlier.instant)

/-- The first instant of the year 1970. -/
def epoch : Timestamp :=
  ⟨⟨1970, 1, 1, by decide⟩, .midnight, some .zero⟩

end Timestamp

end Bookmarks
