import Bookmarks.Text.Case

/-!
# Keywords in any case

A keyword is written with small ASCII letters and a few signs, and is recognised in any case. Beside
the capital letters, the characters whose case variants include an ASCII letter stand for it: the
long s, the Kelvin sign, the dotless `ı` and the dotted `İ`.
-/

namespace Bookmarks.Text

/-- The character stands for the small letter or the sign `k` of a keyword. -/
def standsFor (k : Char) (c : CodePoint) : Bool :=
  lowerAscii c == k || (k == 's' && c.toNat == 0x17F) || (k == 'k' && c.toNat == 0x212A) ||
    (k == 'i' && (c.toNat == 0x130 || c.toNat == 0x131))

/-- What follows the keyword at the beginning of a text. -/
def afterKeyword? : (keyword : List Char) → (text : Text) → Option Text
  | [], text => some text
  | _ :: _, [] => none
  | k :: keyword, c :: text => if standsFor k c then afterKeyword? keyword text else none

end Bookmarks.Text
