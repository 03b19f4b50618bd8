import Bookmarks.Sorting
import Bookmarks.Sorting.MergeLemmas
import Bookmarks.Sorting.RunLemmas

/-!
# Sorting the images of a list

Sorting sees its elements through comparisons only. So the images of a list are sorted as the list
itself, if that is sorted by comparing the images, and this holds for any comparison, be it an order
or not.

* `mergeRuns_map`, `runs_map`: the same for the steps of sorting.
* **`sortBy_map`**: sorting the images of a list.
* **`sortBy_congr`**: only the comparisons of elements of the list count.
-/

namespace Bookmarks

open List

variable {α β : Type} (before : α → α → Bool) (f : β → α)

/-! ## Runs -/

theorem holdsAt_map (p : α → Bool) (xs : List β) :
    holdsAt p (xs.map f) = holdsAt (fun x => p (f x)) xs := by
  funext i
  rw [holdsAt, getElem?_map, Option.any_map]
  rfl

theorem runFrom_map (follows : α → α → Bool) (last : β) (xs : List β) :
    runFrom follows (f last) (xs.map f) =
      Prod.map (map f) (map f) (runFrom (fun a b => follows (f a) (f b)) last xs) := by
  induction xs generalizing last with
  | nil => rfl
  | cons x xs ih =>
    rw [map_cons, runFrom, runFrom]
    split
    · rw [ih]
      rfl
    · rfl

theorem firstRun_map (xs : List β) :
    firstRun before (xs.map f) =
      Prod.map (map f) (map f) (firstRun (fun a b => before (f a) (f b)) xs) := by
  cases xs with
  | nil => rfl
  | cons x xs =>
    have hfalling : (xs.map f).head?.any (before · (f x)) =
        xs.head?.any fun a => before (f a) (f x) := by
      cases xs <;> rfl
    simp only [map_cons, firstRun, hfalling, runFrom_map, Prod.map_fst, Prod.map_snd]
    split
    · rw [← map_cons, ← map_reverse]
      rfl
    · rfl

theorem insertBy_map (x : β) (xs : List β) :
    insertBy before (f x) (xs.map f) =
      (insertBy (fun a b => before (f a) (f b)) x xs).map f := by
  simp only [insertBy, holdsAt_map, length_map, map_append, map_cons, map_take, map_drop]

theorem insertAll_map (sorted new : List β) :
    insertAll before (sorted.map f) (new.map f) =
      (insertAll (fun a b => before (f a) (f b)) sorted new).map f := by
  induction new generalizing sorted with
  | nil => rfl
  | cons x new ih =>
    have hrest := ih (insertBy (fun a b => before (f a) (f b)) x sorted)
    rw [← insertBy_map] at hrest
    exact hrest

theorem runs_map (least : Nat) (xs : List β) :
    runs before least (xs.map f) =
      (runs (fun a b => before (f a) (f b)) least xs).map (map f) := by
  fun_induction runs (fun a b => before (f a) (f b)) least xs with
  | case1 => rw [map_nil, runs]; rfl
  | case2 x xs hlength run missing ih =>
    have hfirst := firstRun_map before f (x :: xs)
    rw [map_cons] at hfirst
    rw [map_cons, runs, hfirst]
    simp only [Prod.map_fst, Prod.map_snd, length_map, ← map_take, ← map_drop, insertAll_map]
    rw [ih]
    rfl

/-! ## Merging -/

theorem countUntil_map (middle : Middle) (p : α → Bool) (xs : List β) :
    countUntil middle p (xs.map f) = countUntil middle (fun x => p (f x)) xs := by
  rw [countUntil, countUntil, holdsAt_map, length_map]

theorem prepend_map (taken : List β) (merged : List β × Nat) :
    prepend (taken.map f) (Prod.map (map f) id merged) =
      Prod.map (map f) id (prepend taken merged) := by
  simp [prepend]

theorem mergeRest_map (side : Side) (eager next : Nat) (mode : Mode) (xs ys : List β) :
    mergeRest side before eager next mode (xs.map f) (ys.map f) = Prod.map (map f) id
      (mergeRest side (fun a b => before (f a) (f b)) eager next mode xs ys) := by
  fun_induction mergeRest side (fun a b => before (f a) (f b)) eager next mode xs ys with
  | case1 eager next x x' xs y ys left right hy ih =>
    rw [← prepend_map, ← ih]
    simp only [map_cons]
    rw [mergeRest, if_pos hy]
    rfl
  | case2 eager next x x' xs y ys left right hy ih =>
    rw [← prepend_map, ← ih]
    simp only [map_cons]
    rw [mergeRest, if_neg hy]
    rfl
  | case3 eager next x x' xs y ys passed all count hone =>
    simp only [map_cons]
    rw [mergeRest]
    simp only [← map_cons, countUntil_map, ← map_drop, ← map_take, length_map]
    refine (if_pos hone).trans ?_
    simp [all, count]
  | case4 eager next x x' xs y ys passed all count hone mode wins hmode ih =>
    simp only [map_cons]
    rw [mergeRest]
    simp only [← map_cons, countUntil_map, ← map_drop, ← map_take, length_map]
    refine (if_neg hone).trans ?_
    rw [← prepend_map, ← ih]
    change prepend _ (mergeRest side before next (side.afterSearch next true passed count).2
      (side.afterSearch next true passed count).1 _ _) = _
    rw [hmode]
    simp [all, count]
  | case5 eager next x x' xs y ys passed all count hone =>
    simp only [map_cons]
    rw [mergeRest]
    simp only [← map_cons, countUntil_map, ← map_drop, ← map_take, isEmpty_map]
    refine (if_pos hone).trans ?_
    simp [all]
  | case6 eager next x x' xs y ys passed all count hone mode wins hmode ih =>
    simp only [map_cons]
    rw [mergeRest]
    simp only [← map_cons, countUntil_map, ← map_drop, ← map_take, isEmpty_map]
    refine (if_neg hone).trans ?_
    rw [← prepend_map, ← ih]
    change prepend _ (mergeRest side before next (side.afterSearch next false passed count).2
      (side.afterSearch next false passed count).1 _ _) = _
    rw [hmode]
    simp [all, count]
  | case7 eager next mode xs ys hshort =>
    rw [mergeRest]
    · rw [← map_append]
      rfl
    · intro a a' as b bs hxs hys
      obtain ⟨x, xs, rfl, rfl, htail⟩ := map_eq_cons_iff.1 hxs
      obtain ⟨x', xs, rfl, rfl, rfl⟩ := map_eq_cons_iff.1 htail
      obtain ⟨y, ys, rfl, rfl, rfl⟩ := map_eq_cons_iff.1 hys
      exact hshort x x' xs y ys rfl rfl

theorem mergeEnds_map (side : Side) (eager : Nat) (xs ys : List β) :
    mergeEnds side before eager (xs.map f) (ys.map f) = Prod.map (map f) id
      (mergeEnds side (fun a b => before (f a) (f b)) eager xs ys) := by
  cases ys with
  | nil => rfl
  | cons y ys =>
    rw [map_cons, mergeEnds, mergeEnds, mergeRest_map, ← prepend_map]
    rfl

theorem mergeBack_map (eager : Nat) (xs ys : List β) :
    mergeBack before eager (xs.map f) (ys.map f) = Prod.map (map f) id
      (mergeBack (fun a b => before (f a) (f b)) eager xs ys) := by
  simp only [mergeBack, ← map_reverse, mergeEnds_map (fun a b => before b a) f, Prod.map_fst,
    Prod.map_snd]
  rfl

theorem mergeShorter_map (eager : Nat) (xs ys : List β) :
    mergeShorter before eager (xs.map f) (ys.map f) = Prod.map (map f) id
      (mergeShorter (fun a b => before (f a) (f b)) eager xs ys) := by
  unfold mergeShorter
  rw [length_map, length_map, mergeEnds_map, mergeBack_map]
  split <;> rfl

theorem mergeRuns_map (eager : Nat) (xs ys : List β) :
    mergeRuns before eager (xs.map f) (ys.map f) = Prod.map (map f) id
      (mergeRuns (fun a b => before (f a) (f b)) eager xs ys) := by
  cases ys with
  | nil => rfl
  | cons y ys =>
    simp only [map_cons, mergeRuns, countUntil_map, ← map_drop, getLast?_map]
    cases (xs.drop (countUntil .upper (fun x => before (f y) (f x)) xs)).getLast? with
    | none => simp
    | some x =>
      simp only [Option.map_some, ← map_cons, ← map_reverse, countUntil_map, ← map_drop,
        ← map_take, length_map, mergeShorter_map, Prod.map_fst, Prod.map_snd, ← map_append]
      rfl

/-! ## Sorting -/

/-- A run of images. -/
def Run.map (run : Run β) : Run α :=
  ⟨run.start, run.power, run.items.map f⟩

namespace Stack

/-- Runs of images that wait. -/
def map (stack : Stack β) : Stack α :=
  ⟨stack.runs.map (Run.map f), stack.eager⟩

theorem settle_map (power eager : Nat) (runs : List (Run β)) :
    settle before power eager (runs.map (Run.map f)) =
      (settle (fun a b => before (f a) (f b)) power eager runs).map f := by
  fun_induction settle (fun a b => before (f a) (f b)) power eager runs with
  | case1 eager top below rest hpower items eager' hmerge ih =>
    have hmap := mergeRuns_map before f eager below.items top.items
    rw [hmerge] at hmap
    rw [List.map_cons, List.map_cons, settle]
    refine (if_pos hpower).trans ?_
    simp only [Run.map, hmap, Prod.map_fst, Prod.map_snd]
    exact ih
  | case2 eager top below rest hpower =>
    rw [List.map_cons, List.map_cons, settle]
    exact if_neg hpower
  | case3 eager runs hshort =>
    rw [settle]
    · rfl
    · intro top below rest htop
      obtain ⟨top, runs, rfl, rfl, htail⟩ := map_eq_cons_iff.1 htop
      obtain ⟨below, runs, rfl, rfl, rfl⟩ := map_eq_cons_iff.1 htail
      exact hshort top below runs rfl

theorem push_map (total : Nat) (stack : Stack β) (items : List β) :
    (stack.map f).push before total (items.map f) =
      (stack.push (fun a b => before (f a) (f b)) total items).map f := by
  obtain ⟨runs, eager⟩ := stack
  cases runs with
  | nil => rfl
  | cons top rest =>
    have hsettle := settle_map before f
      (boundaryPower top.start top.items.length items.length total) eager (top :: rest)
    have hpower : ∀ (power : Nat) (runs : List (Run β)),
        setPower power (runs.map (Run.map f)) = (setPower power runs).map (Run.map f) := by
      intro power runs
      cases runs <;> rfl
    rw [List.map_cons] at hsettle
    simp only [push, map, List.map_cons, Run.map, length_map] at hsettle ⊢
    rw [hsettle, hpower]

theorem collapse_map (eager : Nat) (runs : List (Run β)) :
    collapse before eager (runs.map (Run.map f)) =
      (collapse (fun a b => before (f a) (f b)) eager runs).map f := by
  fun_induction collapse (fun a b => before (f a) (f b)) eager runs with
  | case1 =>
    rw [List.map_nil, collapse]
    rfl
  | case2 eager run =>
    rw [List.map_singleton, collapse]
    rfl
  | case3 eager top second =>
    rw [List.map_cons, List.map_singleton, collapse]
    exact congrArg Prod.fst (mergeRuns_map before f eager second.items top.items)
  | case4 eager top second third rest hlength items eager' hmerge ih =>
    have hmap := mergeRuns_map before f eager third.items second.items
    rw [hmerge] at hmap
    simp only [List.map_cons] at ih ⊢
    have hlength' : (third.map f).items.length < (top.map f).items.length := by
      simpa [Run.map] using hlength
    rw [collapse, if_pos hlength']
    simp only [Run.map, hmap, Prod.map_fst, Prod.map_snd]
    exact ih
  | case5 eager top second third rest hlength items eager' hmerge ih =>
    have hmap := mergeRuns_map before f eager second.items top.items
    rw [hmerge] at hmap
    simp only [List.map_cons] at ih ⊢
    have hlength' : ¬ (third.map f).items.length < (top.map f).items.length := by
      simpa [Run.map] using hlength
    rw [collapse, if_neg hlength']
    simp only [Run.map, hmap, Prod.map_fst, Prod.map_snd]
    exact ih

end Stack

/-- **The images of a list are sorted as the list itself** is, compared by the images. -/
theorem sortBy_map (xs : List β) :
    sortBy before (xs.map f) = (sortBy (fun a b => before (f a) (f b)) xs).map f := by
  have hpush : ∀ (parts : List (List β)) (stack : Stack β),
      (parts.map (List.map f)).foldl (Stack.push before xs.length) (stack.map f) =
        (parts.foldl (Stack.push (fun a b => before (f a) (f b)) xs.length) stack).map f := by
    intro parts stack
    rw [foldl_map]
    exact (foldl_hom (Stack.map f) fun stack items => Stack.push_map before f xs.length stack items)
  have hstack := hpush (runs (fun a b => before (f a) (f b)) (leastRun xs.length) xs)
    ⟨[], manyInRow⟩
  unfold sortBy
  rw [length_map, runs_map]
  change (let stack := foldl (Stack.push before xs.length) (Stack.map f ⟨[], manyInRow⟩) _
    Stack.collapse before stack.eager stack.runs) = _
  rw [hstack]
  exact Stack.collapse_map before f _ _

variable {before} {other : α → α → Bool}

/-- **Only the comparisons of elements of the list count.** -/
theorem sortBy_congr {xs : List α} (h : ∀ a ∈ xs, ∀ b ∈ xs, before a b = other a b) :
    sortBy before xs = sortBy other xs := by
  have hsame : (fun a b : {x // x ∈ xs} => before a.1 b.1) = fun a b => other a.1 b.1 :=
    funext fun a => funext fun b => h a.1 a.2 b.1 b.2
  have hxs : xs.attach.map Subtype.val = xs := attach_map_subtype_val xs
  rw [← hxs, sortBy_map, sortBy_map, hsame]

end Bookmarks
