import Bookmarks.Json.Value
import Bookmarks.Query.Predicate

/-!
# Queries

A query in its parsed form has five parts: words that must, may and must not occur, and structured
filters that must and must not hold.

* `Spec`: the five parts; `Spec.hasTerms` and `Spec.isEmpty` say which of them are empty.
* `Spec.toJson`: the five parts as a document.
-/

namespace Bookmarks

/-- The parts of a query. -/
structure Spec where
  required : List Text
  optional : List Text
  excluded : List Text
  filters : List Predicate
  negated : List Predicate
deriving DecidableEq

namespace Spec

/-- The query that asks for nothing. -/
def empty : Spec := ⟨[], [], [], [], []⟩

/-- Some words are asked for or excluded. -/
def hasTerms (spec : Spec) : Bool :=
  !(spec.required.isEmpty && spec.optional.isEmpty && spec.excluded.isEmpty)

/-- Nothing is asked for. -/
def isEmpty (spec : Spec) : Bool :=
  !(spec.hasTerms || !spec.filters.isEmpty || !spec.negated.isEmpty)

/-- The parts of two queries put together, those of the first one in front. -/
def append (a b : Spec) : Spec :=
  ⟨a.required ++ b.required, a.optional ++ b.optional, a.excluded ++ b.excluded,
   a.filters ++ b.filters, a.negated ++ b.negated⟩

instance : Append Spec := ⟨append⟩

end Spec

/-- A filter as a document. -/
def Predicate.toJson (p : Predicate) : Json :=
  let kind : Text × Json := ("type", .string p.kind)
  match p with
  | label _ value => .object [kind, ("value", .string value)]
  | tag value => .object [kind, ("value", .string value)]
  | age _ operator days =>
    .object [kind,
      ("operator", (operator.map fun op => .string op.symbol).getD .null),
      ("duration", (days.map fun n => .number (.int n)).getD .null)]
  | other => .object [kind, ("value", .null)]

/-- The parts of a query as a document. -/
def Spec.toJson (spec : Spec) : Json :=
  .object [
    ("and", .array (spec.required.map .string)),
    ("or", .array (spec.optional.map .string)),
    ("not", .array (spec.excluded.map .string)),
    ("special", .array (spec.filters.map Predicate.toJson)),
    ("notSpecial", .array (spec.negated.map Predicate.toJson))]

end Bookmarks
