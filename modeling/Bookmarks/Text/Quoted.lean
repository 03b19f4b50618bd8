import Bookmarks.Text.Printable

/-!
# Quoted text

A text between quotation marks, as it is shown inside a list, a record or a message. Single marks
are used, unless the text holds one and no double mark. The backslash, the mark in use and all that
is not printable are written as escapes.
-/

namespace Bookmarks.Text

/-- The small hexadecimal digit of a number below sixteen. -/
def hexDigit (n : Nat) : Char :=
  if n < 10 then Char.ofNat (0x30 + n) else Char.ofNat (0x57 + n)

/-- The last `width` hexadecimal digits of a number. -/
def hexDigits : (width n : Nat) → List Char
  | 0, _ => []
  | width + 1, n => hexDigits width (n / 16) ++ [hexDigit (n % 16)]

/-- A code point between the quotation marks `mark`. -/
def quotedChar (mark : Char) : CodePoint → List Char
  | .half n => '\\' :: 'u' :: hexDigits 4 (CodePoint.half n).toNat
  | .char c =>
    if c == mark || c == '\\' then ['\\', c]
    else if c == '\n' then ['\\', 'n']
    else if c == '\r' then ['\\', 'r']
    else if c == '\t' then ['\\', 't']
    else if isPrintable c then [c]
    else if c.toNat < 0x100 then '\\' :: 'x' :: hexDigits 2 c.toNat
    else if c.toNat < 0x10000 then '\\' :: 'u' :: hexDigits 4 c.toNat
    else '\\' :: 'U' :: hexDigits 8 c.toNat

/-- The mark a text is quoted with: the double one only if it saves escapes. -/
def quotationMark (s : Text) : Char :=
  if s.contains (.char '\'') && !s.contains (.char '"') then '"' else '\''

/-- The characters of a text between quotation marks. -/
def quotedChars (s : Text) : List Char :=
  let mark := quotationMark s
  mark :: s.flatMap (quotedChar mark) ++ [mark]

/-- A text between quotation marks. -/
def quoted (s : Text) : String :=
  String.ofList (quotedChars s)

end Bookmarks.Text
