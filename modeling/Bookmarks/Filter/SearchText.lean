import Bookmarks.Bookmark
import Bookmarks.Text.Case

/-!
# The text that words are looked for in

* `Bookmark.searchText`: all texts of a bookmark in lower case. Each tag stands there twice, once
  alone and once behind a `#`.
* `SearchTexts`: the search texts made during one pass over a collection, by the numbers of the
  entries.
-/

namespace Bookmarks

/-- Some texts with one space between two of them. -/
def Text.spaced (parts : List Text) : Text :=
  [CodePoint.char ' '].intercalate parts

/-- The parts of the search text, in their own letter case. -/
def Bookmark.searchParts (b : Bookmark) : List Text :=
  let tags := b.tags.filter (!·.isEmpty)
  [b.url, b.title.getD [], b.description.getD [], b.notes.getD [], Text.spaced tags,
   Text.spaced (tags.map (.char '#' :: ·))]

/-- The text that words are looked for in. -/
def Bookmark.searchText (b : Bookmark) : Text :=
  Text.lower (Text.spaced b.searchParts)

/-- Search texts under the numbers of their entries, the latest one first. -/
abbrev SearchTexts : Type := List (Nat × Text)

/-- The search text of an entry, and the texts with this one among them. -/
def SearchTexts.fetch (texts : SearchTexts) (e : Entry) : Text × SearchTexts :=
  match texts.lookup e.id with
  | some text => (text, texts)
  | none =>
    let text := e.bookmark.searchText
    (text, (e.id, text) :: texts)

end Bookmarks
