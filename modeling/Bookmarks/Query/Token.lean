import Bookmarks.Text.Blank

/-!
# The words of a query

A query is split into words at its blanks. Quotation marks keep blanks together: a blank counts as a
separator only after an even number of marks. The marks themselves are dropped, and so are the
blanks around a word and the words of which nothing is left.

* `Token.pieces`: the parts of a query between its separators.
* `tokens`: the words.
-/

namespace Bookmarks

namespace Token

/-- The mark that opens and closes a quotation. -/
def isMark (c : CodePoint) : Bool :=
  c == .char '"'

/-- Whether a quotation is open after a character, given that for the place before it. -/
def quotingAfter (quoting : Bool) (c : CodePoint) : Bool :=
  quoting != isMark c

/-- The parts of a query between its separators; `quoting` says that a quotation is open. -/
def piecesFrom (quoting : Bool) : Text → List Text
  | [] => [[]]
  | c :: rest =>
    if Text.isBlank c && !quoting then [] :: piecesFrom false rest
    else Text.consFirst c (piecesFrom (quotingAfter quoting c) rest)

/-- The parts of a query between its separators. -/
def pieces (query : Text) : List Text :=
  piecesFrom false query

/-- A part without its marks and the blanks around it. -/
def clean (piece : Text) : Text :=
  Text.trim (piece.filter (!isMark ·))

end Token

/-- The words of a query. -/
def tokens (query : Text) : List Text :=
  ((Token.pieces query).map Token.clean).filter (!·.isEmpty)

end Bookmarks
