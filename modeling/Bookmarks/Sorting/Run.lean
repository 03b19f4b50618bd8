import Bookmarks.Sorting.Search

/-!
# Runs

A list is cut into runs, each of which is in order or is put in order on its own.

* `firstRun`: the run at the beginning of a list.
* `insertBy`: one element more in a sorted list; its place is found by halving.
* `runs`: the runs of a list, of which only the last one is shorter than a given length.
-/

namespace Bookmarks

variable {α : Type}

/-- The longest beginning of a list in which each element follows on the one before it, the first
one on `last`; and the rest of the list. -/
def runFrom (follows : α → α → Bool) (last : α) : List α → List α × List α
  | [] => ([], [])
  | x :: rest =>
    if follows last x then
      let (run, rest) := runFrom follows x rest
      (x :: run, rest)
    else ([], x :: rest)

/-- The run at the beginning of a list, in order, and the rest of the list. In the run no element
has to come before its predecessor, or else each has to, and the run is turned round. -/
def firstRun (before : α → α → Bool) : List α → List α × List α
  | [] => ([], [])
  | x :: rest =>
    let falling := rest.head?.any (before · x)
    let (run, rest) := runFrom (fun a b => before b a == falling) x rest
    (if falling then (x :: run).reverse else x :: run, rest)

theorem length_runFrom (follows : α → α → Bool) (last : α) (xs : List α) :
    (runFrom follows last xs).2.length ≤ xs.length := by
  induction xs generalizing last with
  | nil => exact Nat.le_refl _
  | cons x xs ih =>
    rw [runFrom]
    split
    · exact Nat.le_succ_of_le (ih x)
    · exact Nat.le_refl _

theorem length_firstRun (before : α → α → Bool) (x : α) (xs : List α) :
    (firstRun before (x :: xs)).2.length ≤ xs.length :=
  length_runFrom _ x xs

/-- The element put into a sorted list, behind those that it does not have to come before. -/
def insertBy (before : α → α → Bool) (x : α) (xs : List α) : List α :=
  let place := bisect .upper (holdsAt (before x) xs) 0 xs.length
  xs.take place ++ x :: xs.drop place

/-- A sorted list with some elements more, put in one after the other. -/
def insertAll (before : α → α → Bool) (sorted new : List α) : List α :=
  new.foldl (fun sorted x => insertBy before x sorted) sorted

/-- The runs of a list. To a run shorter than `least` the elements behind it are added. -/
def runs (before : α → α → Bool) (least : Nat) (xs : List α) : List (List α) :=
  match xs with
  | [] => []
  | x :: xs =>
    have := length_firstRun before x xs
    let run := firstRun before (x :: xs)
    let missing := least - run.1.length
    insertAll before run.1 (run.2.take missing) :: runs before least (run.2.drop missing)
termination_by xs.length
decreasing_by simp only [List.length_drop, List.length_cons]; omega

end Bookmarks
