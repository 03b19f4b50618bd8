import Bookmarks.Page
import Mathlib

/-!
# The pages of a list

Cutting a list into pages keeps every item and its place: the pages from the first to the last hold
the whole list, their ranges follow each other without a gap, and only the last one may be short.

* `Page.nth`: a page by its number; `paginate_eq` says which one an answer is.
* `Tiles`: ranges of positions that follow each other up to a last position.
* **`Page.flatMap_nth`**: the pages one after the other are the list.
* **`Page.tiles_nth`**: their ranges cover the positions in the list.
-/

namespace Bookmarks

variable {α : Type}

/-- Ranges of positions, each with its first and last one, that follow each other without a gap:
they begin at `next`, and the last one ends at `total`. -/
def Tiles : (next : Int) → List (Int × Int) → (total : Int) → Prop
  | next, [], total => next = total + 1
  | next, (first, last) :: rest, total => first = next ∧ first ≤ last ∧ Tiles (last + 1) rest total

/-- The first numbers of pages. -/
def pageNumbers (count : Nat) : List Int :=
  (List.range count).map fun k : Nat => (k : Int) + 1

namespace Page

/-- The page with the number `k`, counted from zero. -/
def nth (items : List α) (size k : Nat) : Page α where
  items := (items.drop (k * size)).take size
  page := k + 1
  totalPages := pageCount items.length size
  totalItems := items.length
  first := if items.isEmpty then 0 else k * size + 1
  last := min items.length ((k + 1) * size)

/-- The positions of the first and the last item of a page. -/
def range (p : Page α) : Int × Int :=
  (p.first, p.last)

end Page

/-! ## The number of pages -/

theorem pageCount_pos (items size : Nat) : 0 < pageCount items size :=
  Nat.lt_of_lt_of_le Nat.zero_lt_one (Nat.le_max_left _ _)

theorem pageCount_zero {size : Nat} (h : 0 < size) : pageCount 0 size = 1 := by
  have hquotient : (0 + size - 1) / size = 0 := Nat.div_eq_of_lt (by omega)
  rw [pageCount, hquotient]
  rfl

theorem le_pageCount_mul (items : Nat) {size : Nat} (h : 0 < size) :
    items ≤ pageCount items size * size := by
  have hquotient : (items + size - 1) / size * size ≤ pageCount items size * size :=
    Nat.mul_le_mul_right size (Nat.le_max_right _ _)
  have hlt := Nat.lt_div_mul_add (a := items + size - 1) h
  omega

theorem succ_mul_lt_of_lt_pageCount {items size k : Nat} (h : 0 < size)
    (hk : k + 1 < pageCount items size) : (k + 1) * size < items := by
  have hquotient : k + 2 ≤ (items + size - 1) / size := by
    have := lt_max_iff.1 hk
    omega
  have hmul := (Nat.le_div_iff_mul_le h).1 hquotient
  rw [Nat.succ_mul] at hmul
  omega

theorem mul_lt_of_lt_pageCount {items size k : Nat} (h : 0 < size) (hitems : 0 < items)
    (hk : k < pageCount items size) : k * size < items := by
  cases k with
  | zero => rwa [Nat.zero_mul]
  | succ k => exact succ_mul_lt_of_lt_pageCount h hk

/-! ## Asking for a page -/

section Asking

variable (items : List α) {size : Nat} (h : 0 < size)
include h

/-- Any page that is asked for is one of the pages. -/
theorem paginate_eq (page : Int) : paginate items page size =
    .ok (Page.nth items size ((clampPage page (pageCount items.length size)).toNat - 1)) := by
  obtain ⟨k, hk⟩ : ∃ k : Nat, clampPage page (pageCount items.length size) = (k + 1 : Nat) := by
    have hcount := pageCount_pos items.length size
    refine ⟨(clampPage page (pageCount items.length size)).toNat - 1, ?_⟩
    unfold clampPage
    split_ifs <;> omega
  unfold paginate
  rw [if_neg (by omega)]
  simp only [Int.toNat_natCast, hk, Nat.add_sub_cancel]
  rfl

theorem paginate_of_lt {k : Nat} (hk : k < pageCount items.length size) :
    paginate items (k + 1) size = .ok (Page.nth items size k) := by
  have hclamp : clampPage (k + 1) (pageCount items.length size) = k + 1 := by
    unfold clampPage
    rw [if_neg (by omega), if_neg (by omega)]
  rw [paginate_eq items h, hclamp]
  rfl

theorem paginate_of_mem {page : Int} (hpage : page ∈ pageNumbers (pageCount items.length size)) :
    1 ≤ page ∧ paginate items page size = .ok (Page.nth items size (page.toNat - 1)) := by
  obtain ⟨k, hk, rfl⟩ := List.mem_map.1 hpage
  exact ⟨by omega, paginate_of_lt items h (List.mem_range.1 hk)⟩

/-- Beyond the last page stands the last page. -/
theorem paginate_of_gt {page : Int} (hpage : pageCount items.length size < page) :
    paginate items page size = .ok (Page.nth items size (pageCount items.length size - 1)) := by
  have hclamp : clampPage page (pageCount items.length size) = pageCount items.length size := by
    unfold clampPage
    rw [if_neg (by omega), if_pos hpage]
  rw [paginate_eq items h, hclamp, Int.toNat_natCast]

end Asking

theorem exists_paginate (items : List α) (page : Int) {size : Int} (h : 1 ≤ size) :
    ∃ found, paginate items page size = .ok found := by
  rw [paginate, if_neg (by omega)]
  exact ⟨_, rfl⟩

/-! ## All pages -/

namespace Page

variable (items : List α) {size : Nat}

theorem flatMap_range_nth (size count : Nat) :
    (List.range count).flatMap (fun k => (nth items size k).items) = items.take (count * size) := by
  induction count with
  | zero => simp
  | succ count ih =>
    rw [List.range_succ, List.flatMap_append, ih, List.flatMap_singleton, Nat.succ_mul,
      List.take_add]
    rfl

/-- **The pages one after the other are the list.** -/
theorem flatMap_nth (h : 0 < size) :
    (List.range (pageCount items.length size)).flatMap (fun k => (nth items size k).items) =
      items := by
  rw [flatMap_range_nth, List.take_of_length_le (le_pageCount_mul items.length h)]

variable {items}

theorem length_nth (h : 0 < size) {k : Nat} (hk : k + 1 < pageCount items.length size) :
    (nth items size k).items.length = size := by
  have hlt := succ_mul_lt_of_lt_pageCount h hk
  rw [Nat.succ_mul] at hlt
  rw [nth, List.length_take, List.length_drop]
  omega

theorem range_nth (hne : items ≠ []) (k : Nat) : (nth items size k).range =
    (((k * size : Nat) : Int) + 1, ((min items.length ((k + 1) * size) : Nat) : Int)) := by
  have hempty : items.isEmpty = false := List.isEmpty_eq_false_iff.2 hne
  rw [range, nth, hempty, if_neg Bool.false_ne_true]
  push_cast
  rfl

theorem length_nth_eq (h : 0 < size) (hne : items ≠ []) {k : Nat}
    (hk : k < pageCount items.length size) : ((nth items size k).items.length : Int) =
      (nth items size k).range.2 - (nth items size k).range.1 + 1 := by
  have hlt := mul_lt_of_lt_pageCount h (List.length_pos_iff.2 hne) hk
  rw [range_nth hne, Nat.succ_mul, nth, List.length_take, List.length_drop]
  dsimp only
  omega

theorem tiles_range'_nth (h : 0 < size) (hne : items ≠ []) {count k : Nat}
    (hcount : k + count = pageCount items.length size) :
    Tiles ((min items.length (k * size) : Nat) + 1)
      ((List.range' k count).map fun k => (nth items size k).range) items.length := by
  induction count generalizing k with
  | zero =>
    have hall := le_pageCount_mul items.length h
    rw [← hcount, Nat.add_zero] at hall
    rw [Nat.min_eq_left hall]
    exact rfl
  | succ count ih =>
    have hlt := mul_lt_of_lt_pageCount h (List.length_pos_iff.2 hne) (k := k) (by omega)
    have hrest := ih (k := k + 1) (by omega)
    have hnext : k * size < (k + 1) * size := by
      rw [Nat.succ_mul]
      omega
    rw [List.range'_succ, List.map_cons, range_nth hne, Nat.min_eq_right hlt.le]
    refine ⟨rfl, ?_, hrest⟩
    omega

/-- **The ranges of the pages cover the positions in the list.** -/
theorem tiles_nth (h : 0 < size) (hne : items ≠ []) :
    Tiles 1 ((List.range (pageCount items.length size)).map fun k => (nth items size k).range)
      items.length := by
  have htiles := tiles_range'_nth h hne (Nat.zero_add (pageCount items.length size))
  rwa [Nat.zero_mul, Nat.min_zero, ← List.range_eq_range'] at htiles

end Page

end Bookmarks
