import Bookmarks.Json.Value

/-!
# Writing JSON

A value as JSON text in ASCII: all other characters are written as escapes of 16 bits each.

* `Json.Style`: the decisions left open, which are the indentation and the text of numbers.
* `Json.write`: the text of a value.
-/

namespace Bookmarks.Json

/-- The four hexadecimal digits of a code unit, as an escape. -/
def codeUnit (n : Nat) : List Char :=
  '\\' :: 'u' :: Text.hexDigits 4 n

/-- A code point inside a JSON string. -/
def escaped : CodePoint → List Char
  | .half n => codeUnit (CodePoint.half n).toNat
  | .char c =>
    let n := c.toNat
    if c == '"' || c == '\\' then ['\\', c]
    else if c == '\n' then ['\\', 'n']
    else if c == '\r' then ['\\', 'r']
    else if c == '\t' then ['\\', 't']
    else if n = 0x08 then ['\\', 'b']
    else if n = 0x0C then ['\\', 'f']
    else if 0x20 ≤ n && n < 0x7F then [c]
    else if n < 0x10000 then codeUnit n
    else codeUnit (0xD800 + (n - 0x10000) / 0x400) ++ codeUnit (0xDC00 + (n - 0x10000) % 0x400)

/-- A JSON string. -/
def literal (s : Text) : String :=
  String.ofList ('"' :: (s.flatMap escaped ++ ['"']))

/-- A number of 64 bits with the fewest digits that identify it. -/
def shortestReal : Binary64 → String
  | .nan => "NaN"
  | .infinite negative => if negative then "-Infinity" else "Infinity"
  | x => x.text

/-- How a value is laid out. -/
structure Style where
  /-- The spaces added on each level; none for a text on one line. -/
  indent : Option Nat
  /-- The text of a number of 64 bits. -/
  real : Binary64 → String

/-- All on one line. -/
def compact : Style := ⟨none, shortestReal⟩

/-- Two spaces on each level. -/
def indented : Style := ⟨some 2, shortestReal⟩

/-- What separates the parts of a value on the given level: a line break, if there are lines. -/
def Style.break (style : Style) (level : Nat) : String :=
  match style.indent with
  | none => ""
  | some width => String.ofList ('\n' :: List.replicate (width * level) ' ')

/-- The parts of an array or object of the given level between its brackets. -/
def Style.enclose (style : Style) (level : Nat) (before after : String) (parts : List String) :
    String :=
  if parts.isEmpty then before ++ after
  else
    let comma := if style.indent.isSome then "," else ", "
    before ++ style.break (level + 1) ++ (comma ++ style.break (level + 1)).intercalate parts ++
      style.break level ++ after

mutual

/-- The text of a value on the given level. -/
def writeAt (style : Style) (level : Nat) : Json → String
  | null => "null"
  | boolean b => if b then "true" else "false"
  | number (.int n) => String.ofList (Decimal.integer n)
  | number (.real x) => style.real x
  | string s => literal s
  | array items => style.enclose level "[" "]" (writeItems style (level + 1) items)
  | object fields => style.enclose level "\x7b" "\x7d" (writeFields style (level + 1) fields)

/-- The texts of the items of an array. -/
def writeItems (style : Style) (level : Nat) : List Json → List String
  | [] => []
  | item :: rest => writeAt style level item :: writeItems style level rest

/-- The texts of the fields of an object. -/
def writeFields (style : Style) (level : Nat) : List (Text × Json) → List String
  | [] => []
  | (name, value) :: rest =>
    (literal name ++ ": " ++ writeAt style level value) :: writeFields style level rest

end

/-- The text of a value. -/
def write (style : Style) (value : Json) : String :=
  writeAt style 0 value

end Bookmarks.Json
