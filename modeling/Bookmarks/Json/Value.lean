import Bookmarks.Number.Basic
import Bookmarks.Table

/-!
# JSON values

The values that a JSON document can hold, with integers and numbers of 64 bits kept apart, and the
fields of an object in the order in which they first appear.

* `Json.field`: the value of a field of an object.
* `Json.isTrue`: whether a value counts as present; nothing, zero and what is empty do not.
* `Json.text`: a value as plain text; `Json.shown` is the form it has inside other values, where
  texts stand between quotation marks.
-/

namespace Bookmarks

/-- A JSON value. -/
inductive Json where
  | null
  | boolean (b : Bool)
  | number (n : Number)
  | string (s : Text)
  | array (items : List Json)
  | object (fields : List (Text × Json))

namespace Json

/-- The kind of a value. -/
def kind : Json → Kind
  | null => .null
  | boolean _ => .boolean
  | number (.int _) => .integer
  | number (.real _) => .real
  | string _ => .string
  | array _ => .array
  | object _ => .object

/-- The value of a field, null if there is none of this name. -/
def field (fields : Table Text Json) (name : String) : Json :=
  (fields.get? (Text.ofString name)).getD .null

/-- The value counts as present: it is not null, false, a zero or empty. -/
def isTrue : Json → Bool
  | null => false
  | boolean b => b
  | number (.int n) => n != 0
  | number (.real x) => !x.isZero
  | string s => !s.isEmpty
  | array items => !items.isEmpty
  | object fields => !fields.isEmpty

/-- The items between brackets, with commas between them. -/
def enclosed (before after : String) (items : List String) : String :=
  before ++ ", ".intercalate items ++ after

mutual

/-- A value as it stands inside other values. -/
def shown : Json → Except Fault String
  | null => .ok "None"
  | boolean b => .ok (if b then "True" else "False")
  | number (.int n) => integerText n
  | number (.real x) => .ok x.text
  | string s => .ok (Text.quoted s)
  | array items => (shownItems items).map (enclosed "[" "]")
  | object fields => (shownFields fields).map (enclosed "\x7b" "\x7d")

/-- The items of an array, as they stand inside it. -/
def shownItems : List Json → Except Fault (List String)
  | [] => .ok []
  | item :: rest => do return (← shown item) :: (← shownItems rest)

/-- The fields of an object, as they stand inside it. -/
def shownFields : List (Text × Json) → Except Fault (List String)
  | [] => .ok []
  | (name, value) :: rest => do
    return (Text.quoted name ++ ": " ++ (← shown value)) :: (← shownFields rest)

end

/-- A value as plain text. -/
def text : Json → Except Fault Text
  | string s => .ok s
  | value => (shown value).map Text.ofString

end Json

end Bookmarks
