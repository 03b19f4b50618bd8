import Bookmarks.Text.Basic
import Bookmarks.Text.Split

/-!
# Blank characters

The characters that separate words, and the two things done with them: a text is trimmed of the
blanks at its ends, and it is split into words at its blanks.

* `isBlank`: the blank characters.
* `trim`, `words`: trimming and splitting.
-/

namespace Bookmarks.Text

/-- The blank characters: the white space of Unicode with the four information separators. -/
def isBlank (c : CodePoint) : Bool :=
  let n := c.toNat
  (0x09 ≤ n && n ≤ 0x0D) || (0x1C ≤ n && n ≤ 0x20) || n == 0x85 || n == 0xA0 || n == 0x1680 ||
    (0x2000 ≤ n && n ≤ 0x200A) || n == 0x2028 || n == 0x2029 || n == 0x202F || n == 0x205F ||
    n == 0x3000

/-- The text without the blanks at either end. -/
def trim (s : Text) : Text :=
  trimBy isBlank s

/-- A text is blank when it holds nothing but blanks. -/
def isBlankText (s : Text) : Bool :=
  s.all isBlank

/-- The words of a text: its longest runs without a blank. -/
def words (s : Text) : List Text :=
  (splitBy isBlank s).filter (!·.isEmpty)

end Bookmarks.Text
