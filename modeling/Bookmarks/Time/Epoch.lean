import Bookmarks.Time.Timestamp

/-!
# Timestamps as numbers

A timestamp may be given as the number of milliseconds since the start of 1970. The seconds are
rounded to 64 bits first, and their fraction to whole microseconds then, a half going to the even
one.
-/

namespace Bookmarks

/-- The whole number nearest to a rational, a half going to the even one. -/
def nearestInteger (q : Rat) : Int :=
  let n : Int := Rounding.nearestEven q.num.natAbs q.den
  if q < 0 then -n else n

/-- The whole part of a rational, toward zero. -/
def wholePart (q : Rat) : Int :=
  Int.tdiv q.num q.den

/-- The microseconds in a number of seconds. -/
def microsOfSeconds? (seconds : Binary64) : Option Int := do
  let q ← seconds.value?
  let whole := wholePart q
  let fraction := Binary64.ofRat false (q - whole)
  let micros ← (fraction * Binary64.ofInt 1000000).value?
  return whole * 1000000 + nearestInteger micros

/-- The timestamp of some milliseconds since the start of 1970, if it is in the calendar. -/
def Timestamp.ofMillis? (millis : Number) : Option Timestamp := do
  let seconds ←
    match millis with
    | .int n => (ratio n 1000).toOption
    | .real x => some (x / Binary64.ofInt 1000)
  Timestamp.ofInstant? (Timestamp.epoch.instant + (← microsOfSeconds? seconds))

end Bookmarks
