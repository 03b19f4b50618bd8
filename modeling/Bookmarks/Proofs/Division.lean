import Mathlib.Data.List.Forall2

/-!
# Dividing a list

Some lists divide a list if each position of it goes to exactly one of them, and each of them keeps
the order. A list is divided by properties of which each of its elements has one.

* `Divides`: the lists that divide a list.
* **`divides_filter`**: dividing by properties.
-/

namespace Bookmarks

variable {α : Type}

/-- **The lists `parts` divide the list `xs`**: each position of `xs` belongs to one of them, and
each of them holds the elements at its positions in their order. -/
def Divides (parts : List (List α)) (xs : List α) : Prop :=
  ∃ positions : List (List Nat), positions.flatten.Perm (List.range xs.length) ∧
    List.Forall₂ (fun part kept => kept.Pairwise (· < ·) ∧ part.map some = kept.map fun i => xs[i]?)
      parts positions

theorem map_some_eq (xs : List α) :
    xs.map some = (List.range xs.length).map fun i => xs[i]? :=
  List.ext_getElem (by simp) (by simp)

theorem count_flatten_filter [DecidableEq α] (ps : List (α → Bool)) (xs : List α) (a : α) :
    (ps.map fun p => xs.filter p).flatten.count a = ps.countP (· a) * xs.count a := by
  induction ps with
  | nil => simp
  | cons p ps ih =>
    rw [List.map_cons, List.flatten_cons, List.count_append, ih, List.countP_cons]
    by_cases hp : p a = true
    · rw [List.count_filter hp, if_pos hp, Nat.succ_mul, Nat.add_comm]
    · have hout : a ∉ xs.filter p := fun ha => hp (List.of_mem_filter ha)
      rw [List.count_eq_zero.2 hout, if_neg hp, Nat.zero_add, Nat.add_zero]

/-- **Properties divide a list** if each of its elements has exactly one of them. -/
theorem divides_filter (ps : List (α → Bool)) {xs : List α}
    (h : ∀ x ∈ xs, ps.countP (· x) = 1) : Divides (ps.map fun p => xs.filter p) xs := by
  refine ⟨(ps.map fun p i => (xs[i]?).any p).map fun p => (List.range xs.length).filter p, ?_, ?_⟩
  · rw [List.perm_iff_count]
    intro i
    rw [count_flatten_filter, List.countP_map]
    by_cases hi : i < xs.length
    · have hone := h xs[i] (List.getElem_mem hi)
      have hkept : (fun p : α → Bool => (xs[i]?).any p) = (· xs[i]) := by
        rw [List.getElem?_eq_getElem hi]
        rfl
      change ps.countP (fun p => (xs[i]?).any p) * _ = _
      rw [hkept, hone, Nat.one_mul]
    · have hout : i ∉ List.range xs.length := by simpa using hi
      rw [List.count_eq_zero.2 hout, Nat.mul_zero]
  · rw [List.map_map, List.forall₂_map_left_iff, List.forall₂_map_right_iff, List.forall₂_same]
    refine fun p _ => ⟨List.pairwise_lt_range.filter _, ?_⟩
    calc (xs.filter p).map some = (xs.map some).filter (Option.any p) := by
          rw [List.filter_map]
          rfl
      _ = _ := by
          rw [map_some_eq, List.filter_map]
          rfl

end Bookmarks
