import Bookmarks.Sorting.Search

/-!
# Merging

Two sorted lists become one; of two tied elements that of the left list comes first. The elements
are taken one by one until one list has won several times in a row. From then on the place of the
head of one list in the other list is searched by strides, and all elements before it are taken at
once. How many wins in a row lead to that is learnt: fewer each time the searches pay, and more when
they do not.

* `mergeRest`: merges two lists of which the left one holds the last element.
* `mergeEnds`, `mergeBack`: merging from either end, where the first element is known as well.
* `mergeRuns`: what stands in its place already is left out at both ends, and the rest is merged
  from the end of the shorter list.
-/

namespace Bookmarks

variable {α : Type}

/-- So many elements in a row from one list are many: that is how many wins lead to a search at
first, and how many elements a search has to pass in order to pay. -/
def manyInRow : Nat := 7

/-- The end from which two lists are merged. -/
inductive Side where
  | front
  | back
deriving DecidableEq, Repr

/-- The middle of a range, as seen from the end. -/
def Side.middle : Side → Middle
  | front => .upper
  | back => .lower

/-- How the next element is found. -/
inductive Mode where
  /-- By comparing the heads; in a row, `left` or `right` elements have come from either list. -/
  | compare (left right : Nat)
  /-- By a search in the left or the right list; `passed` elements were passed by the search before
  this one, if there was one in the same pair of searches. -/
  | search (inLeft : Bool) (passed : Option Nat)

/-- The mode for a pair of searches; the first of them is in the list that was the left one before
the lists were turned round. -/
def Side.searching (side : Side) : Mode :=
  .search (side == .front) none

/-- The mode after an element has won: so many in a row from either list. -/
def Side.afterWin (side : Side) (eager left right : Nat) : Mode :=
  if eager ≤ max left right then side.searching else .compare left right

/-- The mode after a search that has passed some elements, and the wins in a row that are asked for
from then on. -/
def Side.afterSearch (side : Side) (eager : Nat) (inLeft : Bool) (before : Option Nat)
    (passed : Nat) : Mode × Nat :=
  match before with
  | none => (.search (!inLeft) (some passed), eager)
  | some other =>
    if manyInRow ≤ max other passed then (side.searching, max 1 (eager - 1))
    else (.compare 0 0, eager + 1)

/-- Some elements in front of a merged list. -/
def prepend (taken : List α) (merged : List α × Nat) : List α × Nat :=
  (taken ++ merged.1, merged.2)

/-- Merges two lists of which the left one holds the last element. The result comes with the wins in
a row that a search takes: `eager` is their number so far, and `next` that for what is left. -/
def mergeRest (side : Side) (before : α → α → Bool) (eager next : Nat) (mode : Mode)
    (xs ys : List α) : List α × Nat :=
  match xs, ys with
  | x :: x' :: xs, y :: ys =>
    match mode with
    | .compare left right =>
      if before y x then
        prepend [y] (mergeRest side before next next (side.afterWin next 0 (right + 1))
          (x :: x' :: xs) ys)
      else
        prepend [x] (mergeRest side before next next (side.afterWin next (left + 1) 0)
          (x' :: xs) (y :: ys))
    | .search true passed =>
      let all := x :: x' :: xs
      let count := countUntil side.middle (before y) all
      if (all.drop count).length ≤ 1 then (all.take count ++ y :: ys ++ all.drop count, next)
      else
        let (mode, wins) := side.afterSearch next true passed count
        prepend (all.take count ++ [y]) (mergeRest side before next wins mode (all.drop count) ys)
    | .search false passed =>
      let all := y :: ys
      let count := countUntil side.middle (fun b => !before b x) all
      if (all.drop count).isEmpty then (all ++ x :: x' :: xs, next)
      else
        let (mode, wins) := side.afterSearch next false passed count
        prepend (all.take count ++ [x])
          (mergeRest side before next wins mode (x' :: xs) (all.drop count))
  | xs, ys => (ys ++ xs, eager)
termination_by xs.length + ys.length
decreasing_by all_goals (simp only [List.length_drop, List.length_cons]; omega)

/-- Merges two lists of which the right one holds the first element, and the left one the last. -/
def mergeEnds (side : Side) (before : α → α → Bool) (eager : Nat) (xs : List α) :
    List α → List α × Nat
  | [] => (xs, eager)
  | y :: ys => prepend [y] (mergeRest side before eager eager (.compare 0 0) xs ys)

/-- The same, beginning with the last element: the lists and the order are turned round. -/
def mergeBack (before : α → α → Bool) (eager : Nat) (xs ys : List α) : List α × Nat :=
  let merged := mergeEnds .back (fun a b => before b a) eager ys.reverse xs.reverse
  (merged.1.reverse, merged.2)

/-- The same, from the end of the shorter list. -/
def mergeShorter (before : α → α → Bool) (eager : Nat) (xs ys : List α) : List α × Nat :=
  if xs.length ≤ ys.length then mergeEnds .front before eager xs ys
  else mergeBack before eager xs ys

/-- Merges two lists. The elements of the left one before the first of the right one stay in front,
and those of the right one behind the last of the left one stay at the end. -/
def mergeRuns (before : α → α → Bool) (eager : Nat) (xs ys : List α) : List α × Nat :=
  match ys with
  | [] => (xs, eager)
  | y :: _ =>
    let low := countUntil .upper (before y) xs
    let left := xs.drop low
    match left.getLast? with
    | none => (xs ++ ys, eager)
    | some x =>
      let high := ys.length - countUntil .lower (before · x) ys.reverse
      let merged := mergeShorter before eager left (ys.take high)
      (xs.take low ++ merged.1 ++ ys.drop high, merged.2)

end Bookmarks
