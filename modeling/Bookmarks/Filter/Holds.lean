import Bookmarks.Bookmark
import Bookmarks.Filter.Age
import Bookmarks.Query.Predicate
import Bookmarks.Text.Case
import Bookmarks.Text.Occurs

/-!
# When a structured filter holds

`Predicate.holds` decides whether a bookmark passes a structured filter at a reference time.

* `mentions`: one text occurs in another, whatever the letter case.
* `Bookmark.label`, `Bookmark.visited`: what the filters look at.
-/

namespace Bookmarks

/-- The value occurs in the text in some letter case. -/
def mentions (text value : Text) : Bool :=
  Text.occursIn (Text.lower value) (Text.lower text)

/-- The text of a label. -/
def Bookmark.label (b : Bookmark) : Label → Option Text
  | .device => b.device
  | .os => b.os
  | .browser => b.browser

/-- The last use of a bookmark: its last visit, or else the time it was added. -/
def Bookmark.visited (b : Bookmark) : Option Timestamp :=
  b.last <|> b.added

namespace Predicate

/-- The label is there and contains the value, which is not empty. -/
def labelHolds (text : Option Text) (value : Text) : Bool :=
  match text with
  | none => false
  | some text => !text.isEmpty && !value.isEmpty && mentions text value

/-- Some tag contains the value, which is not empty. -/
def tagHolds (tags : List Text) (value : Text) : Bool :=
  !value.isEmpty && tags.any fun tag => mentions tag value

/-- The days from a time to `now` compare with the given number; without a time the filter holds. -/
def elapsedHolds (since : Option Timestamp) (op : Operator) (days : Int) (now : Timestamp) :
    Except Fault Bool :=
  match since with
  | none => .ok true
  | some t => op.compare (.real (t.daysUntil now)) (.int days)

/-- The days since the last use compare with the given number. A bookmark that was never clicked
passes only the filter for zero days, and that filter passes no other bookmark. -/
def clickedHolds (b : Bookmark) (op : Operator) (days : Int) (now : Timestamp) :
    Except Fault Bool :=
  let neverClicked := op = .about ∧ days = 0
  if b.clicked = 0 then .ok neverClicked
  else if neverClicked then .ok false
  else elapsedHolds b.visited op days now

/-- The filter holds for a bookmark at the reference time. -/
def holds (p : Predicate) (b : Bookmark) (now : Timestamp) : Except Fault Bool :=
  match p with
  | label l value => .ok (labelHolds (b.label l) value)
  | tag value => .ok (tagHolds b.tags value)
  | age .added (some op) (some days) => elapsedHolds b.added op days now
  | age .clicked (some op) (some days) => clickedHolds b op days now
  | age _ _ _ => .ok true
  | other => .ok false

end Predicate

end Bookmarks
