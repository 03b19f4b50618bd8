import Bookmarks.Text.Basic

/-!
# Structured filters

A predicate of a query asks for a label, a tag or an age of a bookmark.

* `Operator`: how an age is compared; `Operator.symbol` is its sign.
* `Predicate`: the structured filters.
-/

namespace Bookmarks

/-- How an age is compared with a number of days. -/
inductive Operator where
  | greater
  | less
  | atLeast
  | atMost
  /-- Less than a day apart. -/
  | about
  /-- A sign that is no operator: nothing compares by it. -/
  | unknown (symbol : String)
deriving DecidableEq, Repr

namespace Operator

/-- The sign of an operator. -/
def symbol : Operator → String
  | greater => ">"
  | less => "<"
  | atLeast => ">="
  | atMost => "<="
  | about => "="
  | unknown symbol => symbol

/-- The five operators of the query language. -/
def known : List Operator :=
  [greater, less, atLeast, atMost, about]

/-- The operator with a sign. -/
def ofSymbol (symbol : String) : Operator :=
  (known.find? fun op => op.symbol == symbol).getD (unknown symbol)

end Operator

/-- The labels of a bookmark that say where it was saved. -/
inductive Label where
  | device
  | os
  | browser
deriving DecidableEq, Repr

/-- The times of a bookmark from which its age is counted. -/
inductive Event where
  | added
  | clicked
deriving DecidableEq, Repr

/-- A structured filter. -/
inductive Predicate where
  /-- The label contains the value. -/
  | label (label : Label) (value : Text)
  /-- Some tag contains the value. -/
  | tag (value : Text)
  /-- The days since the event compare with the given number; without either it always holds. -/
  | age (event : Event) (operator : Option Operator) (days : Option Int)
  /-- A filter of another kind: it never holds. -/
  | other
deriving DecidableEq, Repr

namespace Predicate

/-- The word for the kind of a filter. -/
def kind : Predicate → String
  | label .device _ => "device"
  | label .os _ => "os"
  | label .browser _ => "browser"
  | tag _ => "tag"
  | age .added _ _ => "added"
  | age .clicked _ _ => "clicked"
  | other => "other"

end Predicate

end Bookmarks
