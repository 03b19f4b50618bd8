import Bookmarks.Sorting.Lemmas
import Mathlib

/-!
# Positions in a sorted list

A list is sorted by sorting its positions: the comparisons see the elements only, so each element
carries its position along. The positions tell equal elements apart, and with them it can be said
that no element is lost or doubled, that ties stand in their order, and what is left if some of the
elements are not there.

* `sortedPositions`: the positions of a list, sorted by its elements; `map_some_sortBy` reads the
  sorted list there, for any comparison.
* `IsDescending`: a list, read at positions by falling keys; `IsDescending.le_of_mem_take` compares
  its first elements with the others.
* **`sortDescending_isDescending`**: sorting by falling keys.
* **`map_some_sortBy_part`**: sorting a part of a list.
-/

namespace Bookmarks

open List

theorem isWeakOrder_lt {κ : Type} [LinearOrder κ] [DecidableLT κ] :
    IsWeakOrder fun a b : κ => decide (a < b) where
  asymm a b hab := by
    have hlt : a < b := of_decide_eq_true hab
    exact decide_eq_false (lt_asymm hlt)
  cotrans a b c hac := by
    have hlt : a < c := of_decide_eq_true hac
    rw [decide_eq_true_iff, decide_eq_true_iff]
    rcases lt_or_ge a b with hab | hba
    · exact .inl hab
    · exact .inr (lt_of_le_of_lt hba hlt)

variable {α : Type}

theorem pairwise_zipIdx (xs : List α) : xs.zipIdx.Pairwise fun a b => a.2 < b.2 := by
  rw [← pairwise_map (f := Prod.snd) (R := (· < ·)), zipIdx_map_snd]
  exact pairwise_lt_range'

/-! ## The positions -/

section Positions

variable (before : α → α → Bool) (xs : List α)

/-- The elements of a list with their positions, sorted by the elements. -/
def sortedPlaces : List (α × Nat) :=
  sortBy (fun a b => before a.1 b.1) xs.zipIdx

/-- **The positions of a list, sorted by its elements.** -/
def sortedPositions : List Nat :=
  (sortedPlaces before xs).map Prod.snd

theorem mem_sortedPlaces_iff {place : α × Nat} :
    place ∈ sortedPlaces before xs ↔ xs[place.2]? = some place.1 := by
  rw [sortedPlaces, (sortBy_perm _ _).mem_iff, mem_zipIdx_iff_getElem?]

theorem sortedPositions_perm : (sortedPositions before xs).Perm (range xs.length) := by
  have hperm := (sortBy_perm (fun a b => before a.1 b.1) xs.zipIdx).map Prod.snd
  rwa [zipIdx_map_snd, ← range_eq_range'] at hperm

theorem map_fst_sortedPlaces : (sortedPlaces before xs).map Prod.fst = sortBy before xs := by
  rw [sortedPlaces, ← sortBy_map before Prod.fst, zipIdx_map_fst]

variable {xs} in
theorem map_some_of_places {places : List (α × Nat)}
    (h : ∀ place ∈ places, xs[place.2]? = some place.1) :
    (places.map Prod.fst).map some = (places.map Prod.snd).map fun i => xs[i]? := by
  rw [map_map, map_map]
  exact map_congr_left fun place hplace => (h place hplace).symm

/-- **The sorted list is read at the sorted positions**, for any comparison. -/
theorem map_some_sortBy :
    (sortBy before xs).map some = (sortedPositions before xs).map fun i => xs[i]? := by
  rw [← map_fst_sortedPlaces]
  exact map_some_of_places fun _ hplace => (mem_sortedPlaces_iff before xs).1 hplace

end Positions

section Order

variable {before : α → α → Bool}

theorem pairwise_of_ties (h : IsWeakOrder before) {r : α → α → Prop} {ys : List α}
    (hties : ∀ a, (ys.filter (tied before a)).Pairwise r) :
    ys.Pairwise fun a b => tied before a b = true → r a b := by
  induction ys with
  | nil => exact Pairwise.nil
  | cons y ys ih =>
    refine pairwise_cons.2 ⟨fun b hb hyb => ?_, ih fun a => ?_⟩
    · have hy := hties y
      rw [filter_cons_of_pos (h.tied_self y)] at hy
      exact (pairwise_cons.1 hy).1 b (mem_filter.2 ⟨hb, hyb⟩)
    · exact (hties a).sublist ((sublist_cons_self y ys).filter _)

/-- The sorted positions: no element stands behind one that it has to come before, and tied elements
stand in their order. -/
theorem pairwise_sortedPlaces (h : IsWeakOrder before) (xs : List α) :
    (sortedPlaces before xs).Pairwise fun a b =>
      before b.1 a.1 = false ∧ (before a.1 b.1 = false → a.2 < b.2) := by
  have hfst := h.comap (Prod.fst (α := α) (β := Nat))
  have hsorted : ∀ a,
      ((sortedPlaces before xs).filter (tied (fun a b => before a.1 b.1) a)).Pairwise
        fun a b => a.2 < b.2 := by
    intro a
    rw [sortedPlaces, filter_tied_sortBy hfst]
    exact (pairwise_zipIdx xs).filter _
  have hties := pairwise_of_ties hfst hsorted
  refine (sortBy_inOrder hfst xs.zipIdx).imp₂ (fun a b hba htie => ⟨hba, fun hab => ?_⟩) hties
  exact htie (by rw [tied, hab, hba]; rfl)

theorem filter_mem_range {kept : List Nat} (h : kept.Pairwise (· < ·)) {n : Nat}
    (hlt : ∀ i ∈ kept, i < n) : (range n).filter (fun i => i ∈ kept) = kept := by
  refine (pairwise_lt_range.filter _).eq_of_mem_iff h fun i => ?_
  rw [mem_filter, mem_range, decide_eq_true_iff]
  exact and_iff_right_of_imp (hlt i)

theorem map_fst_filter_zipIdx {xs part : List α} {kept : List Nat} (hrise : kept.Pairwise (· < ·))
    (hkept : part.map some = kept.map fun i => xs[i]?) :
    (xs.zipIdx.filter fun place => place.2 ∈ kept).map Prod.fst = part := by
  have hlt : ∀ i ∈ kept, i < xs.length := by
    intro i hi
    have hmem : xs[i]? ∈ part.map some := hkept ▸ mem_map_of_mem hi
    obtain ⟨x, -, hx⟩ := mem_map.1 hmem
    exact (List.getElem?_eq_some_iff.1 hx.symm).1
  refine map_injective_iff.2 (Option.some_injective α) ?_
  rw [map_some_of_places fun place hplace =>
    mem_zipIdx_iff_getElem?.1 (mem_of_mem_filter hplace), hkept]
  have hsnd := filter_map (f := Prod.snd) (p := fun i => decide (i ∈ kept)) (l := xs.zipIdx)
  rw [zipIdx_map_snd, ← range_eq_range', filter_mem_range hrise hlt] at hsnd
  exact congrArg _ hsnd.symm

/-- **A part of a list is sorted like the whole list**: what is left of the sorted positions are
those of the part. -/
theorem map_some_sortBy_part (h : IsWeakOrder before) {xs part : List α} {kept : List Nat}
    (hrise : kept.Pairwise (· < ·)) (hkept : part.map some = kept.map fun i => xs[i]?) :
    (sortBy before part).map some =
      ((sortedPositions before xs).filter fun i => i ∈ kept).map fun i => xs[i]? := by
  rw [← map_fst_filter_zipIdx hrise hkept, sortBy_map before Prod.fst,
    ← filter_sortBy (h.comap Prod.fst), sortedPositions, filter_map]
  exact map_some_of_places fun _ hplace =>
    (mem_sortedPlaces_iff before xs).1 (mem_of_mem_filter hplace)

end Order

/-! ## Falling keys -/

/-- **The list `ys` is `xs` by falling keys, read at these positions.** Each position of `xs` is
there once, and elements with one key stand in their order. -/
structure IsDescending {κ : Type} [LinearOrder κ] (key : α → κ) (xs ys : List α)
    (positions : List Nat) : Prop where
  perm : positions.Perm (range xs.length)
  items : ys.map some = positions.map fun i => xs[i]?
  falling : positions.Pairwise fun i j => ∀ a ∈ xs[i]?, ∀ b ∈ xs[j]?,
    key b < key a ∨ key a = key b ∧ i < j

namespace IsDescending

variable {κ : Type} [LinearOrder κ] {key : α → κ} {xs ys : List α} {positions : List Nat}
  (h : IsDescending key xs ys positions)
include h

theorem pairwise : ys.Pairwise fun a b => key b ≤ key a := by
  have hplaces : (ys.map some).Pairwise fun x y => ∀ a ∈ x, ∀ b ∈ y, key b ≤ key a := by
    rw [h.items, pairwise_map]
    refine h.falling.imp fun hij a ha b hb => ?_
    rcases hij a ha b hb with hlt | ⟨heq, -⟩
    · exact hlt.le
    · exact heq.ge
  exact (pairwise_map.1 hplaces).imp fun hab => hab _ rfl _ rfl

theorem le_of_mem_take {count : Nat} {a b : α} (ha : a ∈ ys.take count) (hb : b ∈ ys.drop count) :
    key b ≤ key a := by
  have hpairwise := h.pairwise
  rw [← take_append_drop count ys, pairwise_append] at hpairwise
  exact hpairwise.2.2 a ha b hb

end IsDescending

section Keys

variable {κ : Type} [LinearOrder κ] [DecidableLT κ] (key : α → κ) (xs : List α)

/-- **Sorting by falling keys.** -/
theorem sortDescending_isDescending : IsDescending key xs
    (sortDescending (fun a b => decide (a < b)) key xs)
    (sortedPositions (fun a b => decide (key b < key a)) xs) := by
  have hweak : IsWeakOrder fun a b => decide (key b < key a) := isWeakOrder_lt.swap.comap key
  rw [sortDescending_eq_sortBy isWeakOrder_lt]
  refine ⟨sortedPositions_perm _ xs, map_some_sortBy _ xs, pairwise_map.2 ?_⟩
  refine (pairwise_sortedPlaces hweak xs).imp_of_mem fun {a b} ha hb hab x hx y hy => ?_
  rw [mem_sortedPlaces_iff] at ha hb
  obtain rfl := Option.some.inj (ha.symm.trans hx)
  obtain rfl := Option.some.inj (hb.symm.trans hy)
  simp only [decide_eq_false_iff_not, not_lt] at hab
  rcases hab.1.lt_or_eq with hlt | heq
  · exact .inl hlt
  · exact .inr ⟨heq.symm, hab.2 heq.ge⟩

theorem sortDescending_sortDescending :
    sortDescending (fun a b => decide (a < b)) key
        (sortDescending (fun a b => decide (a < b)) key xs) =
      sortDescending (fun a b => decide (a < b)) key xs := by
  simp only [sortDescending_eq_sortBy isWeakOrder_lt]
  exact sortBy_sortBy (isWeakOrder_lt.swap.comap key) xs

variable {xs} in
theorem map_some_sortDescending_part {part : List α} {kept : List Nat}
    (hrise : kept.Pairwise (· < ·)) (hkept : part.map some = kept.map fun i => xs[i]?) :
    (sortDescending (fun a b => decide (a < b)) key part).map some =
      ((sortedPositions (fun a b => decide (key b < key a)) xs).filter fun i => i ∈ kept).map
        fun i => xs[i]? := by
  rw [sortDescending_eq_sortBy isWeakOrder_lt]
  exact map_some_sortBy_part (isWeakOrder_lt.swap.comap key) hrise hkept

end Keys

end Bookmarks
