/-!
# The calendar

Dates of the Gregorian calendar, extended to the years 1 to 9999, and their numbering by days.

* `Date`: a date that exists; `Date.make?` checks one.
* `Date.dayNumber`: the days since the first of January of the year 1; `Date.ofDayNumber?` is the
  way back.
* `Date.ofWeek?`: the date of a day of a numbered week.
-/

namespace Bookmarks

namespace Calendar

/-- A year with 366 days. -/
def isLeap (year : Nat) : Bool :=
  year % 4 == 0 && (year % 100 != 0 || year % 400 == 0)

/-- The days of each month of a year. -/
def monthLengths (year : Nat) : List Nat :=
  [31, if isLeap year then 29 else 28, 31, 30, 31, 30, 31, 31, 30, 31, 30, 31]

/-- The days of a month. -/
def daysInMonth (year month : Nat) : Nat :=
  (monthLengths year)[month - 1]?.getD 0

/-- The days before a month in its year. -/
def daysBeforeMonth (year month : Nat) : Nat :=
  ((monthLengths year).take (month - 1)).foldl (· + ·) 0

/-- The days before a year, from the year 1 on. -/
def daysBeforeYear (year : Nat) : Nat :=
  let y := year - 1
  365 * y + y / 4 - y / 100 + y / 400

/-- The year and month numbers and the day of the month make a date. -/
def isDate (year month day : Nat) : Bool :=
  1 ≤ year && year ≤ 9999 && 1 ≤ month && month ≤ 12 && 1 ≤ day && day ≤ daysInMonth year month

/-- The year in which a day falls, and the days before it in that year. -/
def splitYear (n : Nat) : Nat × Nat :=
  let guess := n / 366 + 1
  let later := (List.range 30).filter fun i => daysBeforeYear (guess + i + 1) ≤ n
  let year := guess + later.length
  (year, n - daysBeforeYear year)

/-- The month and the day of the month of the day after `n` days of a year, given the lengths of
the months from `month` on. -/
def splitMonth (month n : Nat) : List Nat → Nat × Nat
  | [] => (month, n + 1)
  | length :: rest =>
    if n < length then (month, n + 1) else splitMonth (month + 1) (n - length) rest

end Calendar

/-- A date of the calendar. -/
structure Date where
  year : Nat
  month : Nat
  day : Nat
  valid : Calendar.isDate year month day = true
deriving DecidableEq

namespace Date

/-- The date of the given year, month and day, if there is one. -/
def make? (year month day : Nat) : Option Date :=
  if h : Calendar.isDate year month day = true then some ⟨year, month, day, h⟩ else none

/-- The days since the first of January of the year 1. -/
def dayNumber (d : Date) : Nat :=
  Calendar.daysBeforeYear d.year + Calendar.daysBeforeMonth d.year d.month + d.day - 1

/-- The date of a day number. -/
def ofDayNumber? (n : Nat) : Option Date :=
  let (year, rest) := Calendar.splitYear n
  let (month, day) := Calendar.splitMonth 1 rest (Calendar.monthLengths year)
  make? year month day

/-- The day of the week of a day number, Monday being zero. -/
def weekday (n : Nat) : Nat :=
  n % 7

/-- The number of weeks of a year: 53 if it begins on a Thursday, or is a leap year that begins on a
Wednesday. -/
def weeksInYear (year : Nat) : Nat :=
  let first := weekday (Calendar.daysBeforeYear year)
  if first = 3 ∨ (first = 2 ∧ Calendar.isLeap year) then 53 else 52

/-- The date of a day, from one to seven, of a numbered week. The first week of a year is the one
that holds its first Thursday. -/
def ofWeek? (year week day : Nat) : Option Date :=
  if 1 ≤ year ∧ year ≤ 9999 ∧ 1 ≤ week ∧ week ≤ weeksInYear year ∧ 1 ≤ day ∧ day ≤ 7 then
    let first := Calendar.daysBeforeYear year
    let monday := first + (if weekday first ≤ 3 then 0 else 7) - weekday first
    ofDayNumber? (monday + 7 * (week - 1) + (day - 1))
  else none

end Date

end Bookmarks
