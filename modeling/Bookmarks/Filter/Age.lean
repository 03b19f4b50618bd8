import Bookmarks.Number.Basic
import Bookmarks.Query.Predicate

/-!
# Comparing ages

`Operator.compare` compares an age in days with a number of days. All comparisons are exact, but for
`about` the difference is taken first, and it is rounded unless both are integers.
-/

namespace Bookmarks

/-- One day. -/
def oneDay : Number := .int 1

/-- The age compares with the number of days as the operator says. -/
def Operator.compare (op : Operator) (age days : Number) : Except Fault Bool :=
  match op with
  | greater => .ok (days.lt age)
  | less => .ok (age.lt days)
  | atLeast => .ok (days.le age)
  | atMost => .ok (age.le days)
  | about => do return (← age.sub days).abs.lt oneDay
  | unknown _ => .ok false

end Bookmarks
