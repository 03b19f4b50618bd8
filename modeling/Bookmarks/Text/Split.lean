/-!
# Splitting

* `cut`: a list before and after the first occurrence of an element.
* `splitBy`, `splitOn`: the parts of a list between some elements, or between the occurrences of
  one.
* `dropEnd`, `trimBy`: a list without some elements at the end, or at both ends.
-/

namespace Bookmarks.Text

variable {α : Type}

/-- The elements before the first `mark`, and the elements after it if there is one. -/
def cut [DecidableEq α] (mark : α) : List α → List α × Option (List α)
  | [] => ([], none)
  | c :: rest =>
    if c = mark then ([], some rest)
    else
      let (before, after) := cut mark rest
      (c :: before, after)

/-- The parts of a list, with one element more at the beginning of the first one. -/
def consFirst (c : α) : List (List α) → List (List α)
  | [] => [[c]]
  | part :: parts => (c :: part) :: parts

/-- The parts of a list between the elements in `p`. -/
def splitBy (p : α → Bool) : List α → List (List α)
  | [] => [[]]
  | c :: rest => if p c then [] :: splitBy p rest else consFirst c (splitBy p rest)

/-- The parts of a list between the marks. -/
def splitOn [DecidableEq α] (mark : α) (s : List α) : List (List α) :=
  splitBy (· = mark) s

/-- The list without the elements in `p` at the end. -/
def dropEnd (p : α → Bool) : List α → List α
  | [] => []
  | c :: rest =>
    match dropEnd p rest with
    | [] => if p c then [] else [c]
    | kept => c :: kept

/-- The list without the elements in `p` at either end. -/
def trimBy (p : α → Bool) (s : List α) : List α :=
  dropEnd p (s.dropWhile p)

end Bookmarks.Text
