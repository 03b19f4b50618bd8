import Bookmarks.Fault

/-!
# Pages

A list is cut into pages of a given size, numbered from one.

* `clampPage`: the nearest page number there is.
* `Page`: a page with its place in the list.
* `paginate`: the page of a list with a given number.
-/

namespace Bookmarks

/-- The page number nearest to `page` among the numbers from one to `total`. -/
def clampPage (page total : Int) : Int :=
  if page < 1 then 1 else if total < page then total else page

/-- A page of a list. `first` and `last` are the positions of its first and last item, counted from
one, and both are zero for an empty list. -/
structure Page (α : Type) where
  items : List α
  page : Int
  totalPages : Int
  totalItems : Nat
  first : Int
  last : Int

namespace Page

variable {α : Type}

/-- There is a page after this one. -/
def hasNext (p : Page α) : Bool :=
  p.page < p.totalPages

/-- There is a page before this one. -/
def hasPrevious (p : Page α) : Bool :=
  1 < p.page

end Page

/-- The number of pages of the given size that hold some items; an empty list has one page. -/
def pageCount (items : Nat) (size : Nat) : Nat :=
  max 1 ((items + size - 1) / size)

/-- The page nearest to the one asked for. -/
def paginate {α : Type} (items : List α) (page size : Int) : Except Fault (Page α) := do
  if size < 1 then throw (.pageSize (← integerText size))
  else
    let size := size.toNat
    let total := pageCount items.length size
    let current := clampPage page total
    let offset := (current.toNat - 1) * size
    return {
      items := (items.drop offset).take size
      page := current
      totalPages := total
      totalItems := items.length
      first := if items.isEmpty then 0 else offset + 1
      last := min items.length (current.toNat * size) }

end Bookmarks
