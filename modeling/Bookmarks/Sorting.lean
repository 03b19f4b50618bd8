import Bookmarks.Sorting.Merge
import Bookmarks.Sorting.Run

/-!
# Stable sorting

`sortBy` cuts a list into runs and merges neighbouring ones, in an order that keeps the merged lists
of like length. It is stable: elements of which neither has to come before the other keep their
order. Where the comparison is no order, as among keys one of which is no number, the result depends
on which elements are compared, so that is part of the definition.

* `leastRun`: how long the runs of a list are made.
* `boundaryPower`: how deep the boundary between two runs lies; deeper ones are merged first.
* `sortBy before`: the list sorted so that no element stands behind one that it has to come before.
* `sortDescending`: the list by falling keys.
-/

namespace Bookmarks

variable {α : Type}

/-- The least length of a run in a list of `n` elements: up to 63 elements are one run, and longer
lists have runs of 32 to 64 elements, about a power of two in number. -/
def leastRun (n : Nat) : Nat :=
  if n < 64 then n
  else
    let unit := 1 <<< (n.log2 - 5)
    (n + unit - 1) / unit

/-- The first binary place in which the middles of two neighbouring runs differ, as parts of a list
of `total` elements; the runs have `m` and `n` elements and the first one begins at `start`. -/
def boundaryPower (start m n total : Nat) : Nat :=
  let first := 2 * start + m
  let second := first + m + n
  let differ := fun k => (first <<< k) / total != (second <<< k) / total
  ((List.range (total.log2 + 2)).find? differ).getD 0

/-- A run that waits to be merged, with the place where it begins and the power of the boundary
behind it. -/
structure Run (α : Type) where
  start : Nat
  power : Nat
  items : List α

/-- The runs that wait, the last one first, and the wins in a row that a search takes. -/
structure Stack (α : Type) where
  runs : List (Run α)
  eager : Nat

namespace Stack

/-- Merges the last runs as long as the boundary between them lies deeper than the given one. -/
def settle (before : α → α → Bool) (power eager : Nat) : List (Run α) → Stack α
  | top :: below :: rest =>
    if power < below.power then
      let (items, eager) := mergeRuns before eager below.items top.items
      settle before power eager ({ below with items } :: rest)
    else ⟨top :: below :: rest, eager⟩
  | runs => ⟨runs, eager⟩
termination_by runs => runs.length

/-- The runs with the power of the last boundary. -/
def setPower (power : Nat) : List (Run α) → List (Run α)
  | [] => []
  | top :: rest => { top with power } :: rest

/-- One run more, in a list of `total` elements. -/
def push (before : α → α → Bool) (total : Nat) (stack : Stack α) (items : List α) : Stack α :=
  match stack.runs with
  | [] => ⟨[⟨0, 0, items⟩], stack.eager⟩
  | top :: rest =>
    let power := boundaryPower top.start top.items.length items.length total
    let settled := settle before power stack.eager (top :: rest)
    ⟨⟨top.start + top.items.length, 0, items⟩ :: setPower power settled.runs, settled.eager⟩

/-- Merges all runs: the last two, or the two before the last one if that is longer than the third
from the end. -/
def collapse (before : α → α → Bool) (eager : Nat) : List (Run α) → List α
  | [] => []
  | [run] => run.items
  | [top, second] => (mergeRuns before eager second.items top.items).1
  | top :: second :: third :: rest =>
    if third.items.length < top.items.length then
      let (items, eager) := mergeRuns before eager third.items second.items
      collapse before eager (top :: { third with items } :: rest)
    else
      let (items, eager) := mergeRuns before eager second.items top.items
      collapse before eager ({ second with items } :: third :: rest)
termination_by runs => runs.length

end Stack

/-- The list sorted so that no element stands behind one that it has to come before. -/
def sortBy (before : α → α → Bool) (xs : List α) : List α :=
  let stack := (runs before (leastRun xs.length) xs).foldl (Stack.push before xs.length)
    ⟨[], manyInRow⟩
  Stack.collapse before stack.eager stack.runs

/-- The list by falling keys; equal keys keep their order. Each key is computed once. -/
def sortDescending {κ : Type} (lt : κ → κ → Bool) (key : α → κ) (xs : List α) : List α :=
  let keyed := xs.map fun x => (key x, x)
  (sortBy (fun a b => lt a.1 b.1) keyed.reverse).reverse.map Prod.snd

/-- The first elements, as many as `limit` says; a negative one leaves out as many at the end. -/
def upTo (limit : Int) (xs : List α) : List α :=
  if limit < 0 then xs.take (xs.length - limit.natAbs) else xs.take limit.toNat

end Bookmarks
