import Bookmarks.Fault
import Bookmarks.Text.Blank
import Bookmarks.Text.Case
import Bookmarks.Text.Digit

/-!
# Numerals

Reading numbers from text. The digits may be those of any script, a single underscore may stand
between two of them, and there may be white space around the whole.

* `Numeral.integer`: an integer with an optional sign.
* `Numeral.real`: a decimal number with an optional sign, point and exponent, an infinity, or `nan`.
* `Numeral.ofDecimal`: the number of 64 bits nearest to a decimal.
-/

namespace Bookmarks.Numeral

open Text

/-- The white space allowed around a numeral: the blanks without the information separators. -/
def isSpace (c : CodePoint) : Bool :=
  isBlank c && !(0x1C ≤ c.toNat && c.toNat ≤ 0x1F)

/-- The sign at the beginning, if there is one, and what follows. -/
def takeSign : Text → Bool × Text
  | .char '-' :: rest => (true, rest)
  | .char '+' :: rest => (false, rest)
  | s => (false, s)

/-- One digit or more, with single underscores between them. -/
def isDigitRun : Text → Bool
  | [] => false
  | [c] => isDigit c
  | c :: .char '_' :: rest => isDigit c && isDigitRun rest
  | c :: rest => isDigit c && isDigitRun rest

/-- The integer that a text writes. -/
def integer (text : Text) : Except Fault Int :=
  let (negative, body) := takeSign (trimBy isSpace text)
  let inRun := fun c => isDigit c || c == .char '_'
  let run := body.takeWhile inRun
  if isDigitRun run then
    let digits := run.filter isDigit
    if Fault.digitLimit < digits.length then .error (.numeralTooLong digits.length)
    else if (body.dropWhile inRun).isEmpty then
      let value : Int := digitsValue digits
      .ok (if negative then -value else value)
    else .error (.notInteger text)
  else .error (.notInteger text)

/-- The number of 64 bits nearest to `± digits * 10 ^ exponent`. -/
def ofDecimal (negative : Bool) (digits : Nat) (exponent : Int) : Binary64 :=
  let order := (Decimal.digits digits).length + exponent
  if digits = 0 ∨ order < -330 then .zero negative
  else if 330 < order then .infinite negative
  else .ofRatio negative (digits * Nat.pow 10 exponent.toNat) (Nat.pow 10 (-exponent).toNat)

/-- The text without its underscores, each of which must stand between two digits; `digitBefore`
says that a digit stands before it. -/
def joinDigits (digitBefore : Bool) : Text → Option Text
  | [] => some []
  | .char '_' :: rest =>
    if digitBefore && (rest.head?.map isDigit).getD false then joinDigits false rest else none
  | c :: rest => (joinDigits (isDigit c) rest).map (c :: ·)

/-- The exponent at the end of a decimal. -/
def exponent? : Text → Option Int
  | [] => some 0
  | e :: rest =>
    if e == .char 'e' || e == .char 'E' then
      let (negative, digits) := takeSign rest
      if !digits.isEmpty && digits.all isDigit then
        let value : Int := digitsValue digits
        some (if negative then -value else value)
      else none
    else none

/-- The decimal that a text without underscores writes. -/
def decimal? (negative : Bool) (s : Text) : Option Binary64 :=
  let whole := s.takeWhile isDigit
  let (part, rest) :=
    match s.dropWhile isDigit with
    | .char '.' :: rest => (rest.takeWhile isDigit, rest.dropWhile isDigit)
    | rest => ([], rest)
  if (whole ++ part).isEmpty then none
  else
    (exponent? rest).map fun k =>
      ofDecimal negative (digitsValue (whole ++ part)) (k - part.length)

/-- The number that a text writes. -/
def real (text : Text) : Except Fault Binary64 :=
  let (negative, body) := takeSign (trimBy isSpace text)
  let isWord := fun word : String => body.map lowerAscii = word
  let answer :=
    if isWord "inf" ∨ isWord "infinity" then some (.infinite negative)
    else if isWord "nan" then some .nan
    else (joinDigits false body).bind (decimal? negative)
  match answer with
  | some x => .ok x
  | none => .error (.notNumber text)

end Bookmarks.Numeral
