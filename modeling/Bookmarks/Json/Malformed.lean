import Bookmarks.Text.Basic

/-!
# Malformed JSON

What can be wrong with a text that should be JSON, and where.

* `Json.Flaw`: what is wrong; `Json.Flaw.message` says it.
* `Json.Malformed`: the flaw with its position in the text, as an offset, a line and a column.
* `Json.Kind`: the kinds of JSON values, as messages name them; `Json.Nesting` has those that hold
  other values.
-/

namespace Bookmarks.Json

/-- The kinds of JSON values. -/
inductive Kind where
  | null
  | boolean
  | integer
  | real
  | string
  | array
  | object
deriving DecidableEq, Repr

/-- The name of a kind in messages. -/
def Kind.name : Kind → String
  | .null => "NoneType"
  | .boolean => "bool"
  | .integer => "int"
  | .real => "float"
  | .string => "str"
  | .array => "list"
  | .object => "dict"

/-- The kinds of JSON values that hold other values. -/
inductive Nesting where
  | array
  | object
deriving DecidableEq, Repr

/-- The name of a kind that holds other values. -/
def Nesting.name : Nesting → String
  | .array => "array"
  | .object => "object"

/-- What is wrong with a text that should be JSON. -/
inductive Flaw where
  | byteOrderMark
  | noValue
  | noKey
  | noColon
  | noComma
  | extraText
  | openString
  | controlCharacter
  | badEscape
  | badCodeUnit
deriving DecidableEq, Repr

/-- The wording of a flaw. -/
def Flaw.message : Flaw → String
  | .byteOrderMark => "Unexpected UTF-8 BOM (decode using utf-8-sig)"
  | .noValue => "Expecting value"
  | .noKey => "Expecting property name enclosed in double quotes"
  | .noColon => "Expecting ':' delimiter"
  | .noComma => "Expecting ',' delimiter"
  | .extraText => "Extra data"
  | .openString => "Unterminated string starting at"
  | .controlCharacter => "Invalid control character at"
  | .badEscape => "Invalid \\escape"
  | .badCodeUnit => "Invalid \\uXXXX escape"

/-- A flaw and its place: `offset` counts characters from zero, `line` and `column` from one. -/
structure Malformed where
  flaw : Flaw
  line : Nat
  column : Nat
  offset : Nat
deriving DecidableEq, Repr

/-- The flaw at an offset of a text. -/
def Malformed.of (flaw : Flaw) (text : Text) (offset : Nat) : Malformed :=
  let before := text.take offset
  ⟨flaw, before.count (.char '\n') + 1,
   (before.reverse.takeWhile (· != .char '\n')).length + 1, offset⟩

end Bookmarks.Json
