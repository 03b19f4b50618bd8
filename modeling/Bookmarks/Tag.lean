import Bookmarks.Bookmark
import Bookmarks.Sorting
import Bookmarks.Table
import Bookmarks.Text.Blank
import Bookmarks.Text.Case
import Bookmarks.Text.Occurs

/-!
# Tags of a collection

* `tagCounts`: how often each tag is used, the most frequent one first.
* `tagsContaining`: the tags that contain a text.
* `withAnyTag`: the entries that have one of some tags.
-/

namespace Bookmarks

/-- A tag and how often it is used. -/
structure TagCount where
  tag : Text
  count : Nat
deriving DecidableEq, Repr

namespace TagCount

/-- A tag as it is counted: trimmed, and in lower case. -/
def normalize (tag : Text) : Text :=
  Text.lower (Text.trim tag)

/-- One use more of a tag; blank ones are not counted. -/
def tally (counts : Table Text Nat) (tag : Text) : Table Text Nat :=
  let tag := normalize tag
  if tag.isEmpty then counts else counts.set tag ((counts.get? tag).getD 0 + 1)

/-- The first tag is listed before the second: it is used more often, or as often and comes first by
its characters. -/
def before (a b : TagCount) : Bool :=
  b.count < a.count || (a.count == b.count && a.tag < b.tag)

end TagCount

/-- How often each tag is used, in falling order; equally frequent tags by their characters. -/
def tagCounts (bookmarks : List Bookmark) : List TagCount :=
  let counts := (bookmarks.flatMap Bookmark.tags).foldl TagCount.tally []
  sortBy TagCount.before (counts.map fun (tag, count) => ⟨tag, count⟩)

/-- The tags that contain a text in some letter case; all of them for a blank text. -/
def tagsContaining (text : Text) (counts : List TagCount) : List TagCount :=
  if Text.isBlankText text then counts
  else counts.filter fun info => Text.occursIn (TagCount.normalize text) info.tag

/-- The entries with at least one of the tags, in any letter case; all of them for no tags. -/
def withAnyTag (tags : List Text) (entries : List Entry) : List Entry :=
  if tags.isEmpty then entries
  else
    let wanted := tags.map Text.lower
    entries.filter fun e => e.bookmark.tags.any fun tag => wanted.contains (Text.lower tag)

end Bookmarks
