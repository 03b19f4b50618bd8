import Bookmarks.Text.Basic
import Bookmarks.Text.CaseTable

/-!
# Lower case

`lower` gives the lower-case form of a text by the full rules of Unicode. Two of them reach beyond
single characters: a dotted capital `İ` becomes two characters, and a capital sigma becomes the
final form `ς` at the end of a word, and `σ` elsewhere.

* `lowerOf`: the lower-case form of a character outside any context.
* `lowerFrom`: the lower-case form of a run of characters; the context of a sigma is carried along
  on its left and looked up on its right.
-/

namespace Bookmarks.Text

/-- The lower-case form of an ASCII character. -/
def lowerAscii (c : CodePoint) : CodePoint :=
  if c.isWithin 'A' 'Z' then .char (Char.ofNat (c.toNat + 32)) else c

/-- The lower-case form of a character outside any context. -/
def lowerOf (c : CodePoint) : Text :=
  if c.toNat < 0x80 then [lowerAscii c]
  else if c.toNat = 0x130 then [.char 'i', .char (Char.ofNat 0x307)]
  else
    match loweringRuns.find? (·.holds c.toNat) with
    | some run => [.char (Char.ofNat (c.toNat + run.shift).toNat)]
    | none => [c]

/-- A letter with case, as far as the end of a word is concerned. -/
def isCased (c : CodePoint) : Bool :=
  inRanges casedRanges c.toNat

/-- A character that is passed over when the end of a word is looked for. -/
def isIgnorable (c : CodePoint) : Bool :=
  inRanges ignorableRanges c.toNat

/-- The next character that is not passed over is a letter with case. -/
def casedAhead : Text → Bool
  | [] => false
  | c :: rest => if isIgnorable c then casedAhead rest else isCased c

/-- Whether a letter with case stands before the next character, given that for `c`. -/
def casedBehind (behind : Bool) (c : CodePoint) : Bool :=
  if isIgnorable c then behind else isCased c

/-- The small and the final form of sigma. -/
def lowerSigma (final : Bool) : CodePoint :=
  .char (Char.ofNat (if final then 0x3C2 else 0x3C3))

/-- The lower-case form of a run of characters; `behind` says that it continues a word. -/
def lowerFrom (behind : Bool) : Text → Text
  | [] => []
  | c :: rest =>
    (if c.toNat = 0x3A3 then [lowerSigma (behind && !casedAhead rest)] else lowerOf c) ++
      lowerFrom (casedBehind behind c) rest

/-- The lower-case form of a text. -/
def lower (s : Text) : Text :=
  lowerFrom false s

end Bookmarks.Text
