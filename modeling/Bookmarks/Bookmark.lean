import Bookmarks.Text.Basic
import Bookmarks.Time.Timestamp

/-!
# Bookmarks

* `Bookmark`: an address with what is known about it.
* `Bookmark.key`: what makes two bookmarks equal. Times count by their instant and by whether their
  offset is known, and not by the offset itself.
* `Entry`: a bookmark in a collection, with a number that tells it from equal bookmarks.
-/

namespace Bookmarks

/-- A bookmark. -/
structure Bookmark where
  url : Text
  title : Option Text
  description : Option Text
  notes : Option Text
  tags : List Text
  added : Option Timestamp
  clicked : Int
  last : Option Timestamp
  device : Option Text
  os : Option Text
  browser : Option Text
  userAgent : Option Text
deriving DecidableEq

/-- A bookmark with its times reduced to moments. -/
structure BookmarkKey where
  url : Text
  title : Option Text
  description : Option Text
  notes : Option Text
  tags : List Text
  added : Option Moment
  clicked : Int
  last : Option Moment
  device : Option Text
  os : Option Text
  browser : Option Text
  userAgent : Option Text
deriving DecidableEq

namespace Bookmark

/-- What equal bookmarks have in common. -/
def key (b : Bookmark) : BookmarkKey where
  url := b.url
  title := b.title
  description := b.description
  notes := b.notes
  tags := b.tags
  added := b.added.map Timestamp.moment
  clicked := b.clicked
  last := b.last.map Timestamp.moment
  device := b.device
  os := b.os
  browser := b.browser
  userAgent := b.userAgent

/-- A bookmark of which nothing but the address is known. -/
def ofUrl (url : Text) : Bookmark where
  url := url
  title := none
  description := none
  notes := none
  tags := []
  added := none
  clicked := 0
  last := none
  device := none
  os := none
  browser := none
  userAgent := none

end Bookmark

/-- A bookmark in a collection. Its number tells it from other entries with an equal bookmark. -/
structure Entry where
  id : Nat
  bookmark : Bookmark
deriving DecidableEq

/-- The entries of a collection, numbered in order. -/
def Entry.number (bookmarks : List Bookmark) : List Entry :=
  bookmarks.zipIdx.map fun (b, i) => ⟨i, b⟩

end Bookmarks
