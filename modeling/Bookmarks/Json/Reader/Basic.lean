import Bookmarks.Fault

/-!
# What a reader of JSON returns

Every reader takes the text that is left and returns what is left after it, with the proof that it
is shorter, on which the recursion rests. A failure comes with the text that was left at its place.

* `Json.Limits`: the limits of what is read.
* `Json.Reading`: what has been read, and what is left.
* `Json.skipSpace`: the text after the white space at its beginning.
-/

namespace Bookmarks.Json

/-- The limits of what is read. -/
structure Limits where
  /-- The most digits of an integer. -/
  digits : Option Nat
  /-- The most arrays and objects inside each other. -/
  depth : Option Nat

/-- No limits. -/
def Limits.none : Limits := ⟨.none, .none⟩

/-- The usual limits. -/
def Limits.usual : Limits := ⟨some Fault.digitLimit, some Fault.depthLimit⟩

/-- Why reading stopped, and what was left there. -/
inductive Stop where
  | flaw (flaw : Flaw) (left : Text)
  | numeralTooLong (digits : Nat)
  | nestedTooDeep (kind : Nesting)

/-- What is left of `s` after something has been read. -/
abbrev Rest (s : Text) : Type := { r : Text // r.length < s.length }

/-- What has been read from the beginning of `s`, and what is left. -/
abbrev Reading (α : Type) (s : Text) : Type := Except Stop (α × Rest s)

/-- What has been read from a later place, as read from an earlier one. -/
def Reading.map {α β : Type} {s t : Text} (f : α → β) (h : s.length ≤ t.length) :
    Reading α s → Reading β t
  | .error stop => .error stop
  | .ok (value, ⟨r, hr⟩) => .ok (f value, ⟨r, Nat.lt_of_lt_of_le hr h⟩)

/-- The white space of JSON. -/
def isSpace (c : CodePoint) : Bool :=
  c == .char ' ' || c == .char '\t' || c == .char '\n' || c == .char '\r'

/-- The text after the white space at the beginning. -/
def skipSpace (s : Text) : Text :=
  s.dropWhile isSpace

theorem length_dropWhile_le (p : CodePoint → Bool) (s : Text) :
    (s.dropWhile p).length ≤ s.length :=
  (List.dropWhile_sublist p).length_le

theorem length_skipSpace_le (s : Text) : (skipSpace s).length ≤ s.length :=
  length_dropWhile_le isSpace s

end Bookmarks.Json
