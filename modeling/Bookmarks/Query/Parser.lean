import Bookmarks.Query.Spec
import Bookmarks.Query.Token
import Bookmarks.Text.Digit
import Bookmarks.Text.Keyword
import Bookmarks.Text.Occurs

/-!
# Reading queries

A word of a query is a structured filter if it has the form of one. Otherwise a sign in front says
what it asks for: `+` for a word that must occur, `-` for one that must not, `|` or nothing for one
that may. A `-` before a structured filter negates it.

* `Predicate.parse?`: the structured filter that a word writes.
* `Spec.ofToken`: what a single word asks for.
* `Spec.parse`: the query that a text writes.
-/

namespace Bookmarks

namespace Predicate

/-- The operator at the beginning of a text, and what follows; of two that fit, the longer one. -/
def operator? : Text → Option (Operator × Text)
  | .char '>' :: .char '=' :: rest => some (.atLeast, rest)
  | .char '<' :: .char '=' :: rest => some (.atMost, rest)
  | .char '>' :: rest => some (.greater, rest)
  | .char '<' :: rest => some (.less, rest)
  | .char '=' :: rest => some (.about, rest)
  | _ => none

/-- The most digits a number of days may have. -/
def maxDigits : Nat := 9

/-- Nothing, or the unit of days. -/
def isUnit : Text → Bool
  | [] => true
  | [c] => Text.standsFor 'd' c
  | _ => false

/-- The number of days that a text writes: up to nine digits and an optional `d`. -/
def days? (s : Text) : Option Nat :=
  let digits := s.takeWhile Text.isDigit
  if 1 ≤ digits.length ∧ digits.length ≤ maxDigits ∧ isUnit (s.dropWhile Text.isDigit) then
    some (Text.digitsValue digits)
  else none

/-- The filter by age since an event that is written after its keyword. -/
def age? (event : Event) (s : Text) : Option Predicate := do
  let (op, rest) ← operator? s
  let days ← days? rest
  return .age event (some op) (some days)

/-- The filter for a value that is written after its keyword: the value may not be empty. -/
def value? (make : Text → Predicate) (s : Text) : Option Predicate :=
  if s.isEmpty then none else some (make s)

/-- The forms of structured filters: a keyword, and what may follow it. -/
def forms : List (String × (Text → Option Predicate)) :=
  [("added:", age? .added), ("clicked:", age? .clicked), ("device:", value? (.label .device)),
   ("os:", value? (.label .os)), ("browser:", value? (.label .browser)), ("tag:", value? .tag),
   ("#", value? .tag)]

/-- The structured filter that a word writes. -/
def parse? (token : Text) : Option Predicate :=
  forms.findSome? fun (keyword, read?) => (Text.afterKeyword? keyword.toList token).bind read?

end Predicate

namespace Spec

/-- A query for one word that must occur; nothing for an empty one. -/
def ofRequired (s : Text) : Spec :=
  if s.isEmpty then empty else { empty with required := [s] }

/-- A query for one word that may occur; nothing for an empty one. -/
def ofOptional (s : Text) : Spec :=
  if s.isEmpty then empty else { empty with optional := [s] }

/-- A query that excludes a word or the bookmarks of a filter; nothing for an empty word. -/
def ofExcluded (s : Text) : Spec :=
  if s.isEmpty then empty
  else
    match Predicate.parse? s with
    | some p => { empty with negated := [p] }
    | none => { empty with excluded := [s] }

/-- What a single word of a query asks for. -/
def ofToken (s : Text) : Spec :=
  match s with
  | .char '-' :: rest => ofExcluded rest
  | s =>
    match Predicate.parse? s with
    | some p => { empty with filters := [p] }
    | none =>
      match s with
      | .char '+' :: rest => ofRequired rest
      | .char '|' :: rest => ofOptional rest
      | s => ofOptional s

/-- What the words of a query ask for together. -/
def ofTokens (ts : List Text) : Spec :=
  ts.foldr (fun t spec => ofToken t ++ spec) empty

/-- The query that a text writes; a blank one asks for nothing. -/
def parse (query : Text) : Spec :=
  if Text.isBlankText query then empty else ofTokens (tokens query)

end Spec

end Bookmarks
