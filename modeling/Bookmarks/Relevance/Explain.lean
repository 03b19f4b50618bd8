import Bookmarks.Number.Decimal
import Bookmarks.Relevance.Score

/-!
# Relevance in words

`Bookmark.explainRelevance` gives the score of a bookmark with three places and the facts behind it,
as in `Score: 0.412 (5 clicks, visited 2 weeks ago)`.
-/

namespace Bookmarks

/-- The whole number at or below a number of days. -/
def wholeDays (x : Binary64) : Int :=
  (x.value?.map Rat.floor).getD 0

/-- A text with a whole number of days, after a division, in the middle. -/
def ago (x : Binary64) (days : Int) (unit : String) : String :=
  let count := wholeDays (x / .ofInt days)
  "visited " ++ String.ofList (Decimal.integer count) ++ " " ++ unit ++ " ago"

/-- How long ago the last visit was. -/
def visitFact (days : Binary64) : String :=
  let under := fun n : Int => (Number.real days).lt (.int n)
  if under 1 then "visited today"
  else if under 7 then ago days 1 "days"
  else if under 30 then ago days 7 "weeks"
  else ago days 30 "months"

/-- The facts behind the relevance of a bookmark. -/
def Bookmark.relevanceFacts (b : Bookmark) (config : RelevanceConfig) (now : Timestamp) :
    List String :=
  let clicks :=
    if 0 < b.clicked then String.ofList (Decimal.integer b.clicked) ++ " clicks"
    else "never clicked"
  let visit := (b.last.map fun t => visitFact (t.daysUntil now)).toList
  let isNew := (b.added.map fun t =>
    b.clicked == 0 && (Number.real (t.daysUntil now)).le config.newItemDays).getD false
  clicks :: (visit ++ if isNew then ["recently added"] else [])

/-- The relevance of a bookmark and the facts behind it. -/
def Bookmark.explainRelevance (b : Bookmark) (config : RelevanceConfig) (now : Timestamp) :
    Except Fault String := do
  let score ← b.relevance config now
  return "Score: " ++ score.fixed 3 ++ " (" ++ ", ".intercalate (b.relevanceFacts config now) ++ ")"

end Bookmarks
