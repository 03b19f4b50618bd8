import Bookmarks.Filter.Basic
import Bookmarks.Json.Writer
import Bookmarks.Page
import Bookmarks.Relevance.Explain
import Bookmarks.Relevance.Order
import Bookmarks.Relevance.Stats
import Bookmarks.Store.Record
import Bookmarks.Tag

/-!
# What the tools answer

The answer of a tool is a line of text or a document. This module builds the documents from the
results of the library.

* `Answer`, `Answer.write`: answers and their text.
* `Answer.ofPage`: a page of the bookmarks that pass a query.
* `Answer.ofTags`: the tags of a collection.
* `Answer.ofRanking`: the most relevant bookmarks, with statistics.
-/

namespace Bookmarks

/-- What a tool answers. -/
inductive Answer where
  | line (text : String)
  | document (value : Json)

namespace Answer

/-- The text of an answer. -/
def write (style : Json.Style) : Answer → String
  | line text => text
  | document value => value.write style

/-- Where a bookmark was saved, if any label is known. -/
def savedFrom (b : Bookmark) : Table Text Json :=
  let known := fun label : Option Text => label.any (!·.isEmpty)
  let shown := fun label : Option Text => if known label then label.getD [] else UserAgent.unknown
  if known b.browser || known b.os || known b.device then
    let info : UserAgent := ⟨b.userAgent.getD [], shown b.browser, shown b.os, shown b.device⟩
    [("saved_from", .string info.describe)]
  else []

/-- The fields by which a bookmark is listed. -/
def bookmarkFields (b : Bookmark) : Table Text Json :=
  b.recordFields ++ savedFrom b

/-- An integer as a value. -/
def integer (n : Int) : Json :=
  .number (.int n)

/-- A bookmark that passed a query, with its score if it has one. -/
def ofFound (scores : Scores) (b : Bookmark) : Json :=
  let score : Option (Text × Json) := (scores.of? b).map fun n => ("score", integer n)
  .object (bookmarkFields b ++ score.toList)

/-- A page of the bookmarks that passed a query. -/
def ofPage (found : Filtered) (page : Page Entry) : Answer :=
  .document (.object [
    ("query", .string found.query),
    ("options", found.spec.toJson),
    ("total", integer page.totalItems),
    ("page", integer page.page),
    ("total_pages", integer page.totalPages),
    ("showing", .array [integer page.first, integer page.last]),
    ("results", .array (page.items.map fun e => ofFound found.scores e.bookmark))])

/-- The tags of a collection. -/
def ofTags (counts : List TagCount) : Answer :=
  if counts.isEmpty then .line "No tags found."
  else
    .document (.array (counts.map fun info =>
      .object [("tag", .string info.tag), ("count", integer info.count)]))

/-- A bookmark with its relevance in words. -/
def ofRanked (config : RelevanceConfig) (now : Timestamp) (b : Bookmark) : Except Fault Json := do
  let relevance : Table Text Json := [("relevance", .string (← b.explainRelevance config now))]
  return .object (bookmarkFields b ++ relevance)

/-- The most relevant ones of some bookmarks, as many as `limit` says, and statistics on all. -/
def ofRanking (entries : List Entry) (limit : Int) (config : RelevanceConfig) (now : Timestamp) :
    Except Fault Answer := do
  let ranked := upTo limit (← sortByRelevance entries config now)
  let results ← ranked.mapM fun e => ofRanked config now e.bookmark
  let stats ← relevanceStats (entries.map Entry.bookmark) config now
  return .document (.object [("stats", stats.toJson), ("results", .array results)])

end Answer

end Bookmarks
