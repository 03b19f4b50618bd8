import Bookmarks.Bookmark
import Bookmarks.Relevance.Config

/-!
# Relevance by usage

The relevance of a bookmark is the weighted sum of two parts: its clicks, of which a hundred count
in full, and its last visit, which fades exponentially. It has a least value. A bookmark that was
never clicked and has just been added earns a bonus, which fades linearly.

* `clickPart`, `visitPart`, `newItemBonus`: the parts.
* `Bookmark.relevance`: the score.
-/

namespace Bookmarks

/-- The number one. -/
def one : Number := .int 1

/-- The number zero. -/
def zero : Number := .int 0

namespace RelevanceConfig

/-- The share of a hundred clicks that a bookmark has, at most one. -/
def clickPart (b : Bookmark) : Except Fault Number := do
  return (Number.real (← ratio b.clicked 100)).min one

/-- The share of the bonus that is left after some days. -/
def newItemShare (config : RelevanceConfig) (days : Binary64) : Except Fault Binary64 := do
  let share := Binary64.ofInt 1 - days / (← config.newItemDays.toReal)
  return (← config.newItemBoost.toReal) * share

/-- The bonus of a bookmark that was never clicked and was added a short time ago. -/
def newItemBonus (config : RelevanceConfig) (b : Bookmark) (now : Timestamp) :
    Except Fault Binary64 :=
  match b.added with
  | none => .ok (.zero false)
  | some added =>
    let days := added.daysUntil now
    if b.clicked ≠ 0 ∨ config.newItemDays.le zero ∨ config.newItemDays.lt (.real days) then
      .ok (.zero false)
    else config.newItemShare days

/-- What is left of a visit after some days: up to the threshold it fades by the rate, and after it
by twice the rate. -/
def fading (config : RelevanceConfig) (days : Binary64) : Except Fault Binary64 := do
  let rate := config.decayRate.neg
  if (Number.real days).le config.decayDays then
    (← rate.mul (.real days)).exp
  else
    let excess ← (Number.real days).sub config.decayDays
    let before ← (← rate.mul config.decayDays).exp
    let after ← (← (← rate.mul (.int 2)).mul excess).exp
    return before * after

/-- The part of the last visit; without one, a bookmark that was never clicked has its bonus. -/
def visitPart (config : RelevanceConfig) (b : Bookmark) (now : Timestamp) : Except Fault Binary64 :=
  match b.last with
  | some last => config.fading (last.daysUntil now)
  | none => if b.clicked = 0 then config.newItemBonus b now else .ok (.zero false)

end RelevanceConfig

/-- The relevance of a bookmark at the reference time. -/
def Bookmark.relevance (b : Bookmark) (config : RelevanceConfig) (now : Timestamp) :
    Except Fault Binary64 := do
  let clicks ← RelevanceConfig.clickPart b
  let visit ← config.visitPart b now
  let base ← (← clicks.mul config.clickWeight).add (← (Number.real visit).mul config.recencyWeight)
  let bonus ← config.newItemBonus b now
  return (← (base.max config.minScore).toReal) + bonus

end Bookmarks
