import Bookmarks.Json.Value
import Bookmarks.Relevance.Score
import Bookmarks.Sorting

/-!
# Relevance of a collection

* `RelevanceStats`: average and median score, and five counts.
* `RelevanceStats.tally`: one bookmark more in the counts.
* `relevanceStats`: the statistics of a collection.
-/

namespace Bookmarks

/-- Statistics on the relevance of a collection. -/
structure RelevanceStats where
  average : Binary64
  median : Binary64
  /-- Scores above 0.7. -/
  high : Nat
  /-- Scores from 0.3 to 0.7. -/
  medium : Nat
  /-- All other scores. -/
  low : Nat
  /-- Bookmarks that were clicked, but not in the last ninety days. -/
  stale : Nat
  neverClicked : Nat
deriving DecidableEq

namespace RelevanceStats

/-- The statistics of nothing. -/
def empty : RelevanceStats :=
  ⟨.zero false, .zero false, 0, 0, 0, 0, 0⟩

/-- The least medium score. -/
def mediumFrom : Number := decimal 3 1

/-- The greatest medium score. -/
def mediumTo : Number := decimal 7 1

/-- The days after which a bookmark that is not visited is stale. -/
def staleDays : Number := .int 90

/-- A score is counted: it is high, medium or low. -/
def countScore (stats : RelevanceStats) (score : Binary64) : RelevanceStats :=
  if mediumTo.lt (.real score) then { stats with high := stats.high + 1 }
  else if mediumFrom.le (.real score) then { stats with medium := stats.medium + 1 }
  else { stats with low := stats.low + 1 }

/-- A bookmark is counted if it was never clicked, or else if its last visit is long ago. -/
def countVisit (stats : RelevanceStats) (b : Bookmark) (now : Timestamp) : RelevanceStats :=
  if b.clicked = 0 then { stats with neverClicked := stats.neverClicked + 1 }
  else if (b.last.map fun t => staleDays.le (.real (t.daysUntil now))).getD false then
    { stats with stale := stats.stale + 1 }
  else stats

/-- A bookmark is counted with its score. -/
def tally (now : Timestamp) (stats : RelevanceStats) (item : Bookmark × Binary64) :
    RelevanceStats :=
  (stats.countScore item.2).countVisit item.1 now

/-- The rounded average: the scores are added up in order; their number divides the sum. -/
def averageOf (scores : List Binary64) : Binary64 :=
  scores.foldl (· + ·) (.zero false) / .ofInt scores.length

/-- The score in the middle of the sorted scores, the upper one of two. -/
def medianOf (scores : List Binary64) : Binary64 :=
  let sorted := sortBy (fun x y => (Number.real x).lt (.real y)) scores
  (sorted[sorted.length / 2]?).getD (.zero false)

/-- The statistics as a document. -/
def toJson (stats : RelevanceStats) : Json :=
  let count := fun n : Nat => Json.number (.int n)
  .object [
    ("average_score", .number (.real stats.average)),
    ("median_score", .number (.real stats.median)),
    ("high_relevance_count", count stats.high),
    ("medium_relevance_count", count stats.medium),
    ("low_relevance_count", count stats.low),
    ("stale_count", count stats.stale),
    ("never_clicked_count", count stats.neverClicked)]

end RelevanceStats

/-- The statistics of a collection. Its bookmarks are counted one after the other. -/
def relevanceStats (bookmarks : List Bookmark) (config : RelevanceConfig) (now : Timestamp) :
    Except Fault RelevanceStats := do
  if bookmarks.isEmpty then return .empty
  else
    let scores ← bookmarks.mapM fun b => b.relevance config now
    let stats := { RelevanceStats.empty with
      average := RelevanceStats.averageOf scores
      median := RelevanceStats.medianOf scores }
    return (bookmarks.zip scores).foldl (RelevanceStats.tally now) stats

end Bookmarks
