import Bookmarks.Json.Reader.Scalars
import Bookmarks.Json.Reader.Strings

/-!
# Reading JSON

`Json.read` gives the value that a text writes, or the first flaw of the text with its position.
Beside plain JSON it knows `NaN` and the two infinities, and of fields with one name the last one
counts. Limits on the digits of an integer and on the depth of values are observed.

* `Json.readValue`: a value at the beginning of a text.
* `Json.readWithin`, `Json.read`: the value that is the whole of a text.
-/

namespace Bookmarks.Json

mutual

/-- A value at the beginning of the text, inside `depth` arrays and objects. -/
def readValue (limits : Limits) (depth : Nat) (s : Text) : Reading Json s :=
  match s with
  | .char '"' :: rest => (readString (.char '"' :: rest) [] rest).map .string (by simp)
  | .char '[' :: rest =>
    if limits.depth.any (· ≤ depth) then .error (.nestedTooDeep .array)
    else
      have := length_skipSpace_le rest
      match h : skipSpace rest with
      | .char ']' :: after =>
        .ok (.array [], ⟨after, by simp only [h, List.length_cons] at *; omega⟩)
      | start =>
        (readItems limits (depth + 1) [] start).map .array
          (by simp only [h, List.length_cons] at *; omega)
  | .char '{' :: rest =>
    if limits.depth.any (· ≤ depth) then .error (.nestedTooDeep .object)
    else
      have := length_skipSpace_le rest
      match h : skipSpace rest with
      | .char '}' :: after =>
        .ok (.object [], ⟨after, by simp only [h, List.length_cons] at *; omega⟩)
      | start =>
        (readFields limits (depth + 1) [] start).map .object
          (by simp only [h, List.length_cons] at *; omega)
  | s => readScalar limits s
termination_by 2 * s.length
decreasing_by all_goals (simp only [*, List.length_cons] at *; omega)

/-- The items of an array from `s` on, after the items `done`, in reverse. -/
def readItems (limits : Limits) (depth : Nat) (done : List Json) (s : Text) :
    Reading (List Json) s :=
  match readValue limits depth s with
  | .error stop => .error stop
  | .ok (item, ⟨afterItem, _⟩) =>
    have := length_skipSpace_le afterItem
    match h : skipSpace afterItem with
    | .char ']' :: rest =>
      .ok ((item :: done).reverse, ⟨rest, by simp only [h, List.length_cons] at *; omega⟩)
    | .char ',' :: rest =>
      have := length_skipSpace_le rest
      (readItems limits depth (item :: done) (skipSpace rest)).map id
        (by simp only [h, List.length_cons] at *; omega)
    | other => .error (.flaw .noComma other)
termination_by 2 * s.length + 1
decreasing_by all_goals (try simp only [*, List.length_cons] at *); omega

/-- The fields of an object from `s` on, after the fields `done`. -/
def readFields (limits : Limits) (depth : Nat) (done : List (Text × Json)) (s : Text) :
    Reading (List (Text × Json)) s :=
  match s with
  | .char '"' :: start =>
    match readString (.char '"' :: start) [] start with
    | .error stop => .error stop
    | .ok (name, ⟨afterName, _⟩) =>
      have := length_skipSpace_le afterName
      match hc : skipSpace afterName with
      | .char ':' :: afterColon =>
        have := length_skipSpace_le afterColon
        match readValue limits depth (skipSpace afterColon) with
        | .error stop => .error stop
        | .ok (value, ⟨afterValue, _⟩) =>
          have := length_skipSpace_le afterValue
          match h : skipSpace afterValue with
          | .char '}' :: rest =>
            .ok (Table.set name value done,
              ⟨rest, by simp only [h, hc, List.length_cons] at *; omega⟩)
          | .char ',' :: rest =>
            have := length_skipSpace_le rest
            (readFields limits depth (Table.set name value done) (skipSpace rest)).map id
              (by simp only [h, hc, List.length_cons] at *; omega)
          | other => .error (.flaw .noComma other)
      | other => .error (.flaw .noColon other)
  | other => .error (.flaw .noKey other)
termination_by 2 * s.length + 1
decreasing_by all_goals (simp only [*, List.length_cons] at *; omega)

end

/-- The value that a text writes, or where reading stopped. -/
def readText (limits : Limits) (s : Text) : Except Stop Json :=
  match s with
  | c :: _ =>
    if c.toNat = 0xFEFF then .error (.flaw .byteOrderMark s)
    else
      match readValue limits 0 (skipSpace s) with
      | .error stop => .error stop
      | .ok (value, ⟨rest, _⟩) =>
        let left := skipSpace rest
        if left.isEmpty then .ok value else .error (.flaw .extraText left)
  | [] => .error (.flaw .noValue [])

/-- The value that a text writes, within some limits. -/
def readWithin (limits : Limits) (s : Text) : Except Fault Json :=
  match readText limits s with
  | .ok value => .ok value
  | .error (.flaw flaw left) => .error (.malformed (.of flaw s (s.length - left.length)))
  | .error (.numeralTooLong digits) => .error (.numeralTooLong digits)
  | .error (.nestedTooDeep kind) => .error (.nestedTooDeep kind)

/-- The value that a text writes. -/
def read (s : Text) : Except Fault Json :=
  readWithin .usual s

end Bookmarks.Json
