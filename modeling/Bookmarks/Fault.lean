import Bookmarks.Json.Malformed
import Bookmarks.Number.Decimal
import Bookmarks.Text.Quoted
import Bookmarks.Text.Utf8

/-!
# Faults

The causes for which an operation of the library fails. Each is a constructor of `Fault`, and the
wording of all of them is in `Fault.message`.
-/

namespace Bookmarks

/-- Why an operation failed. -/
inductive Fault where
  /-- An integer is past the greatest number of 64 bits. -/
  | integerTooLarge
  /-- A quotient of integers is past the greatest number of 64 bits. -/
  | quotientTooLarge
  /-- An exponential is past the greatest number of 64 bits. -/
  | exponentialTooLarge
  /-- An infinity was to become an integer. -/
  | infiniteInteger
  /-- What is no number was to become an integer. -/
  | undefinedInteger
  /-- A numeral has more digits than are read; `count` of them. -/
  | numeralTooLong (count : Nat)
  /-- An integer has more digits than are written. -/
  | integerTooLong
  /-- A text writes no integer. -/
  | notInteger (text : Text)
  /-- A text writes no number. -/
  | notNumber (text : Text)
  /-- A value of this kind was to be a sequence of tags. -/
  | notSequence (kind : Json.Kind)
  /-- A value of this kind was to be looked up by name. -/
  | notObject (kind : Json.Kind)
  /-- A text is not JSON. -/
  | malformed (detail : Json.Malformed)
  /-- A text has a value of this kind within more values than are read. -/
  | nestedTooDeep (kind : Json.Nesting)
  /-- Bytes are not UTF-8. -/
  | misread (detail : Text.Misread)
  /-- There is no store file. -/
  | storeMissing (path : String)
  /-- The store file is a directory. -/
  | storeIsDirectory (path : String)
  /-- A document has the shape of no store. -/
  | notStore
  /-- The home directory of a path cannot be found. -/
  | noHome
  /-- The size of a page is not positive. -/
  | pageSize (size : String)
  /-- An argument of a tool is not a positive integer. -/
  | notPositive (argument : String)
  /-- No tool has this name. -/
  | unknownTool (name : String)
deriving DecidableEq

namespace Fault

/-- The most digits of an integer that are read or written. -/
def digitLimit : Nat := 4300

/-- The most arrays and objects inside each other that are read. -/
def depthLimit : Nat := 990

/-- The most characters of a quoted text that a message shows. -/
def quotationLimit : Nat := 200

/-- A natural number in messages. -/
def number (n : Nat) : String :=
  String.ofList (Decimal.digits n)

/-- What is wrong with bytes that are not UTF-8. -/
def misreadMessage (m : Text.Misread) : String :=
  let reason :=
    match m.reason with
    | .start => "invalid start byte"
    | .continuation => "invalid continuation byte"
    | .ending => "unexpected end of data"
  if m.count = 1 then
    "'utf-8' codec can't decode byte 0x" ++ String.ofList (Text.hexDigits 2 m.firstByte) ++
      " in position " ++ number m.position ++ ": " ++ reason
  else
    "'utf-8' codec can't decode bytes in position " ++ number m.position ++ "-" ++
      number (m.position + m.count - 1) ++ ": " ++ reason

/-- The wording of each fault. -/
def message : Fault → String
  | integerTooLarge => "int too large to convert to float"
  | quotientTooLarge => "integer division result too large for a float"
  | exponentialTooLarge => "math range error"
  | infiniteInteger => "cannot convert float infinity to integer"
  | undefinedInteger => "cannot convert float NaN to integer"
  | numeralTooLong count =>
    "Exceeds the limit (" ++ number digitLimit ++ " digits) for integer string conversion: " ++
      "value has " ++ number count ++
      " digits; use sys.set_int_max_str_digits() to increase the limit"
  | integerTooLong =>
    "Exceeds the limit (" ++ number digitLimit ++ " digits) for integer string conversion; " ++
      "use sys.set_int_max_str_digits() to increase the limit"
  | notInteger text =>
    "invalid literal for int() with base 10: " ++
      String.ofList ((Text.quotedChars text).take quotationLimit)
  | notNumber text => "could not convert string to float: " ++ Text.quoted text
  | notSequence kind => "'" ++ kind.name ++ "' object is not iterable"
  | notObject kind => "'" ++ kind.name ++ "' object has no attribute 'get'"
  | malformed m =>
    m.flaw.message ++ ": line " ++ number m.line ++ " column " ++ number m.column ++ " (char " ++
      number m.offset ++ ")"
  | nestedTooDeep kind =>
    "maximum recursion depth exceeded while decoding a JSON " ++ kind.name ++
      " from a unicode string"
  | misread m => misreadMessage m
  | storeMissing path => "Bookmark store not found at " ++ path
  | storeIsDirectory path => "[Errno 21] Is a directory: " ++ Text.quoted path
  | notStore =>
    "Invalid store format: expected a list of bookmarks or an object with a 'bookmarks' list"
  | noHome => "Could not determine home directory."
  | pageSize size => "per_page must be positive, got " ++ size
  | notPositive argument => "'" ++ argument ++ "' must be a positive integer"
  | unknownTool name => "Unknown tool: " ++ name

end Fault

/-- The decimal text of an integer, unless it has too many digits. -/
def integerText (n : Int) : Except Fault String :=
  if Fault.digitLimit < (Decimal.digits n.natAbs).length then .error .integerTooLong
  else .ok (String.ofList (Decimal.integer n))

end Bookmarks
