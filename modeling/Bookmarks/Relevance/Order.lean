import Bookmarks.Relevance.Score
import Bookmarks.Sorting

/-!
# Order of relevance

Bookmarks are ordered by falling relevance; ties go by clicks, by the last visit and by the time of
addition, the greater or later one first, and a missing time counts as the start of 1970.

* `RelevanceKey`: the four values compared; `RelevanceKey.lt` compares them one after the other.
* `sortByRelevance`: the order.
-/

namespace Bookmarks

/-- What bookmarks are ordered by. -/
structure RelevanceKey where
  score : Binary64
  clicked : Int
  last : Binary64
  added : Binary64
deriving DecidableEq

/-- The values of a key, the most important one first. -/
def RelevanceKey.values (k : RelevanceKey) : List Number :=
  [.real k.score, .int k.clicked, .real k.last, .real k.added]

/-- The first difference between two rows of numbers is that the first one has the smaller. -/
def lexLt : List Number → List Number → Bool
  | a :: as, b :: bs => if a.same b then lexLt as bs else a.lt b
  | _, _ => false

/-- The first key comes below the second. -/
def RelevanceKey.lt (a b : RelevanceKey) : Bool :=
  lexLt a.values b.values

/-- The days from the start of 1970 to a time, zero without one. -/
def daysSinceEpoch (t : Option Timestamp) : Binary64 :=
  (t.map fun t => Timestamp.epoch.daysUntil t).getD (.zero false)

/-- What a bookmark is ordered by. -/
def Bookmark.relevanceKey (b : Bookmark) (config : RelevanceConfig) (now : Timestamp) :
    Except Fault RelevanceKey := do
  return ⟨← b.relevance config now, b.clicked, daysSinceEpoch b.last, daysSinceEpoch b.added⟩

/-- The entries by falling relevance. -/
def sortByRelevance (entries : List Entry) (config : RelevanceConfig) (now : Timestamp) :
    Except Fault (List Entry) := do
  let keyed ← entries.mapM fun e => do return (← e.bookmark.relevanceKey config now, e)
  return (sortDescending RelevanceKey.lt Prod.fst keyed).map Prod.snd

end Bookmarks
