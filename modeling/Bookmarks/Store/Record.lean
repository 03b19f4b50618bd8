import Bookmarks.Bookmark
import Bookmarks.Json.Value
import Bookmarks.Number.Numeral
import Bookmarks.Text.Blank
import Bookmarks.Time.Epoch
import Bookmarks.Time.Iso
import Bookmarks.UserAgent

/-!
# Stored records

A bookmark is stored as an object. Records come from many programs, so each field is read with
tolerance: a value of another kind is taken as text, and a time may be text or a number.

* `Timestamp.ofJson?`: the time that a value writes.
* `Record.clicks`, `Record.tags`, `Record.labels`: the fields with rules of their own.
* `Bookmark.ofRecord`: the bookmark of a record.
* `Bookmark.toRecord`: the record of a bookmark.
-/

namespace Bookmarks

/-- The time that a text writes: a `Z` at the end stands for universal time, which is assumed where
nothing is said. -/
def Timestamp.ofText? (s : Text) : Option Timestamp :=
  let trimmed := Text.trim s
  let full :=
    if trimmed.getLast? = some (.char 'Z') then trimmed.dropLast ++ "+00:00" else trimmed
  (Timestamp.parse? full).map Timestamp.withOffset

/-- The time that a value writes: text, or milliseconds since the start of 1970. -/
def Timestamp.ofJson? : Json → Option Timestamp
  | .string s => Timestamp.ofText? s
  | .number n => Timestamp.ofMillis? n
  | _ => none

namespace Record

/-- A value as optional text: nothing for null and for empty text. -/
def optionalText (value : Json) : Except Fault (Option Text) :=
  match value with
  | .null => .ok none
  | value => do
    let s ← value.text
    return if s.isEmpty then none else some s

/-- The integer that a number of 64 bits is cut to. -/
def truncate (x : Binary64) : Except Fault Int :=
  match x with
  | .nan => .error .undefinedInteger
  | .infinite _ => .error .infiniteInteger
  | x => .ok (wholePart (x.value?.getD 0))

/-- The number of clicks in a value. What is no integer counts as zero, and so does a negative one;
an infinity is refused. -/
def clicks (value : Json) : Except Fault Int :=
  if !value.isTrue then .ok 0
  else
    match value with
    | .boolean _ => .ok 1
    | .number (.int n) => .ok (max 0 n)
    | .number (.real .nan) => .ok 0
    | .number (.real x) => return max 0 (← truncate x)
    | .string s => .ok (max 0 ((Numeral.integer s).toOption.getD 0))
    | _ => .ok 0

/-- The values that a value holds in sequence: words of a text, items of an array, or the names of
the fields of an object. Nothing is held by a value that does not count as present. -/
def sequence (value : Json) : Except Fault (List Json) :=
  if !value.isTrue then .ok []
  else
    match value with
    | .string s => .ok ((Text.words s).map .string)
    | .array items => .ok items
    | .object fields => .ok (fields.map fun field => .string field.1)
    | value => .error (.notSequence value.kind)

/-- The tags in a value, without the blank ones. -/
def tags (value : Json) : Except Fault (List Text) := do
  let texts ← (← sequence value).mapM Json.text
  return texts.filter (!Text.isBlankText ·)

/-- The first of two values that counts as present; an empty text if none does. -/
def firstTrue (a b : Json) : Json :=
  if a.isTrue then a else if b.isTrue then b else .string []

/-- A label that was recognised. -/
def recognised (label : Text) : Option Text :=
  if label = UserAgent.unknown then none else some label

/-- The labels of device, system and browser. They are taken from the user agent if none of them is
stored. -/
def labels (userAgent device os browser : Option Text) :
    Option Text × Option Text × Option Text :=
  match userAgent, device, os, browser with
  | some text, none, none, none =>
    let info := UserAgent.parse text
    (recognised info.device, recognised info.os, recognised info.browser)
  | _, device, os, browser => (device, os, browser)

end Record

/-- The bookmark of a record. A bookmark without clicks has no last visit. -/
def Bookmark.ofRecord (fields : Table Text Json) : Except Fault Bookmark := do
  let field := Json.field fields
  let clicked ← Record.clicks (field "clicked")
  let tags ← Record.tags (field "tags")
  let userAgent ← Record.optionalText (field "userAgent")
  let device ← Record.optionalText (field "device")
  let os ← Record.optionalText (field "os")
  let browser ← Record.optionalText (field "browser")
  let (device, os, browser) := Record.labels userAgent device os browser
  return {
    url := ← (Record.firstTrue (field "url") (field "href")).text
    title := ← Record.optionalText (field "title")
    description := ← Record.optionalText (field "description")
    notes := ← Record.optionalText (field "notes")
    tags
    added := Timestamp.ofJson? (field "added")
    clicked
    last := if 0 < clicked then Timestamp.ofJson? (field "last") else none
    device
    os
    browser
    userAgent }

namespace Record

/-- An optional text as a value. -/
def ofText (s : Option Text) : Json :=
  (s.map .string).getD .null

/-- An optional time as a value. -/
def ofTime (t : Option Timestamp) : Json :=
  (t.map fun t => .string t.text).getD .null

end Record

/-- The fields of the record of a bookmark. -/
def Bookmark.recordFields (b : Bookmark) : Table Text Json :=
  [("url", .string b.url), ("title", Record.ofText b.title),
   ("description", Record.ofText b.description), ("notes", Record.ofText b.notes),
   ("tags", .array (b.tags.map .string)), ("added", Record.ofTime b.added),
   ("clicked", .number (.int b.clicked)), ("last", Record.ofTime b.last),
   ("device", Record.ofText b.device), ("os", Record.ofText b.os),
   ("browser", Record.ofText b.browser)]

/-- The record of a bookmark. The user agent is not part of it. -/
def Bookmark.toRecord (b : Bookmark) : Json :=
  .object b.recordFields

end Bookmarks
