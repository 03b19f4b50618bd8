import Bookmarks.Proofs.Fault
import Bookmarks.Proofs.Page

/-!
# All pages, and the page nearest to any number

The pages of a list share its items out: each of them stands on one page, which its position and the
size of the pages determine. Any number may be asked for. The answer is the page with the nearest
number, and what it says about its place in the list and about its neighbours is true.

* `Page.IsPageOf`: what a page says about itself; `ArePagesOf`: pages that share out a list.
* `pageCount_eq`, `exists_paginate_page_iff`: how many pages there are, and which numbers they have.
* `clampPage_nearest`: the nearest number of a page.
* **`paginate_pages`**: all pages of a list, and the page for any number.
-/

namespace Bookmarks

variable {α : Type}

/-- **A page of a list**, cut into pages of the given size. -/
structure Page.IsPageOf (p : Page α) (xs : List α) (size : Int) : Prop where
  totalItems : p.totalItems = xs.length
  /-- As many pages as the size goes into the number of items, rounded up, but at least one. -/
  totalPages : p.totalPages = max 1 (-(-(xs.length : Int) / size))
  page : 1 ≤ p.page ∧ p.page ≤ p.totalPages
  /-- The items are those from the first to the last position. -/
  items : p.items = (xs.take p.last.toNat).drop (p.first.toNat - 1)
  empty : xs = [] → p.first = 0 ∧ p.last = 0
  range : xs ≠ [] → 1 ≤ p.first ∧ p.first ≤ p.last ∧ p.last ≤ xs.length
  next : p.hasNext = true ↔ ∃ q, paginate xs (p.page + 1) size = .ok q ∧ q.page = p.page + 1
  previous : p.hasPrevious = true ↔
    ∃ q, paginate xs (p.page - 1) size = .ok q ∧ q.page = p.page - 1

/-- No other page has a number that is as near to the one that was asked for. -/
def Page.IsNearest (p : Page α) (page : Int) : Prop :=
  ∀ k, 1 ≤ k → k ≤ p.totalPages → k ≠ p.page → (page - p.page).natAbs < (page - k).natAbs

/-- **Pages that share out a list.** They are the answers to all page numbers, in order. -/
structure ArePagesOf (pages : List (Page α)) (xs : List α) (size : Int) : Prop where
  answers : (pageNumbers pages.length).mapM (fun page => paginate xs page size) = .ok pages
  each : ∀ p ∈ pages, p.IsPageOf xs size ∧ p.totalPages = pages.length
  flatMap : pages.flatMap Page.items = xs
  /-- The position of an item is on one page. -/
  place : ∀ k < xs.length, ∀ p ∈ pages,
    p.first ≤ k + 1 ∧ (k : Int) + 1 ≤ p.last ↔ p.page = k / size + 1
  full : ∀ p ∈ pages, p.page < p.totalPages → (p.items.length : Int) = size
  empty : (∃ p ∈ pages, p.items = []) ↔ xs = []
  single : xs = [] → pages.length = 1

/-- **The nearest number** among those from one to some other. -/
theorem clampPage_nearest (page : Int) {total : Int} (h : 1 ≤ total) :
    1 ≤ clampPage page total ∧ clampPage page total ≤ total ∧
      ∀ k, 1 ≤ k → k ≤ total → k ≠ clampPage page total →
        (page - clampPage page total).natAbs < (page - k).natAbs := by
  unfold clampPage
  split_ifs <;> refine ⟨by omega, by omega, fun k hfirst hlast hne => by omega⟩

/-- The number of pages is a quotient that is rounded up. -/
theorem pageCount_eq (items : Nat) {size : Nat} (h : 0 < size) :
    (pageCount items size : Int) = max 1 (-(-(items : Int) / size)) := by
  have hquotient : -(items : Int) / size = -((items + size - 1) / size : Nat) := by
    have hle := Nat.div_mul_le_self (items + size - 1) size
    have hlt := Nat.lt_div_mul_add (a := items + size - 1) h
    generalize (items + size - 1) / size = q at hle hlt
    have hpos : (0 : Int) < size := by omega
    refine le_antisymm (Int.lt_add_one_iff.1 ((Int.ediv_lt_iff_lt_mul hpos).2 ?_))
      ((Int.le_ediv_iff_mul_le hpos).2 ?_)
    · rw [Int.add_mul, Int.neg_mul, Int.one_mul]
      omega
    · rw [Int.neg_mul]
      omega
  rw [hquotient, neg_neg, pageCount, Nat.cast_max]
  rfl

section Pages

variable (xs : List α) {size : Nat}

namespace Page

theorem first_nth {xs : List α} (hne : xs ≠ []) (k : Nat) :
    (nth xs size k).first = (k * size : Nat) + 1 :=
  congrArg Prod.fst (range_nth hne k)

theorem last_nth (k : Nat) :
    (nth xs size k).last = (min xs.length ((k + 1) * size) : Nat) := by
  rw [nth]
  push_cast
  rfl

theorem items_nth (k : Nat) : (nth xs size k).items =
    (xs.take (nth xs size k).last.toNat).drop ((nth xs size k).first.toNat - 1) := by
  by_cases hne : xs = []
  · subst hne
    simp [nth]
  · have hfirst : (nth xs size k).first.toNat - 1 = k * size := by
      rw [first_nth hne]
      omega
    rw [hfirst, last_nth, Int.toNat_natCast, List.drop_take, nth, List.take_eq_take_iff,
      List.length_drop, Nat.succ_mul]
    omega

end Page

variable (h : 0 < size)
include h

theorem exists_paginate_page_iff (page : Int) :
    (∃ p, paginate xs page size = .ok p ∧ p.page = page) ↔
      1 ≤ page ∧ page ≤ pageCount xs.length size := by
  have hcount := pageCount_pos xs.length size
  have hclamp := @clampPage_nearest page (pageCount xs.length size) (by omega)
  constructor
  · rintro ⟨p, hp, hpage⟩
    obtain rfl := Except.ok.inj ((paginate_eq xs h page).symm.trans hp)
    dsimp only [Page.nth] at hpage
    omega
  · intro hpage
    have hmem : page ∈ pageNumbers (pageCount xs.length size) :=
      List.mem_map.2 ⟨page.toNat - 1, List.mem_range.2 (by omega), by omega⟩
    refine ⟨_, (paginate_of_mem xs h hmem).2, ?_⟩
    dsimp only [Page.nth]
    omega

namespace Page

theorem isPageOf_nth {k : Nat} (hk : k < pageCount xs.length size) :
    (nth xs size k).IsPageOf xs size where
  totalItems := rfl
  totalPages := pageCount_eq xs.length h
  page := by
    dsimp only [nth]
    omega
  items := items_nth xs k
  empty hnil := by
    subst hnil
    exact ⟨rfl, by simp [nth]⟩
  range hne := by
    have hlt := mul_lt_of_lt_pageCount h (List.length_pos_iff.2 hne) hk
    rw [first_nth hne, last_nth, Nat.succ_mul]
    omega
  next := by
    rw [exists_paginate_page_iff xs h, hasNext, decide_eq_true_iff]
    dsimp only [nth]
    omega
  previous := by
    rw [exists_paginate_page_iff xs h, hasPrevious, decide_eq_true_iff]
    dsimp only [nth]
    omega

theorem items_nth_ne_nil {xs : List α} (hne : xs ≠ []) {k : Nat}
    (hk : k < pageCount xs.length size) : (nth xs size k).items ≠ [] := by
  have hlt := mul_lt_of_lt_pageCount h (List.length_pos_iff.2 hne) hk
  rw [← List.length_pos_iff, nth, List.length_take, List.length_drop]
  omega

theorem place_nth {xs : List α} {j : Nat} (hj : j < xs.length) (k : Nat) :
    (nth xs size k).first ≤ j + 1 ∧ (j : Int) + 1 ≤ (nth xs size k).last ↔
      (nth xs size k).page = j / size + 1 := by
  have hquotient : j / size = k ↔ k * size ≤ j ∧ j ≤ k * size + size - 1 := Nat.div_eq_iff h
  rw [first_nth (List.ne_nil_of_length_pos (Nat.zero_lt_of_lt hj)), last_nth, Nat.succ_mul, nth,
    ← Int.natCast_div]
  dsimp only
  omega

end Page

theorem arePagesOf_nth :
    ArePagesOf ((List.range (pageCount xs.length size)).map (Page.nth xs size)) xs size where
  answers := by
    rw [List.length_map, List.length_range,
      Fault.mapM_eq_ok fun page hpage => (paginate_of_mem xs h hpage).2, pageNumbers, List.map_map]
    rfl
  each p hp := by
    obtain ⟨k, hk, rfl⟩ := List.mem_map.1 hp
    rw [List.length_map, List.length_range]
    exact ⟨Page.isPageOf_nth xs h (List.mem_range.1 hk), rfl⟩
  flatMap := by
    rw [List.flatMap_map]
    exact Page.flatMap_nth xs h
  place j hj p hp := by
    obtain ⟨k, -, rfl⟩ := List.mem_map.1 hp
    exact Page.place_nth h hj k
  full p hp hlt := by
    obtain ⟨k, -, rfl⟩ := List.mem_map.1 hp
    dsimp only [Page.nth] at hlt
    rw [Page.length_nth h (by omega)]
  empty := by
    constructor
    · rintro ⟨p, hp, hnil⟩
      obtain ⟨k, hk, rfl⟩ := List.mem_map.1 hp
      by_contra hne
      exact Page.items_nth_ne_nil h hne (List.mem_range.1 hk) hnil
    · rintro rfl
      have hfirst := List.mem_range.2 (pageCount_pos ([] : List α).length size)
      exact ⟨_, List.mem_map_of_mem hfirst, by simp [Page.nth]⟩
  single hnil := by
    rw [List.length_map, List.length_range, hnil, List.length_nil, pageCount_zero h]

theorem paginate_nearest (page : Int) :
    ∃ p ∈ (List.range (pageCount xs.length size)).map (Page.nth xs size),
      paginate xs page size = .ok p ∧ p.IsNearest page := by
  have hcount := pageCount_pos xs.length size
  obtain ⟨hfirst, hlast, hnearest⟩ :=
    @clampPage_nearest page (pageCount xs.length size) (by omega)
  obtain ⟨k, hk⟩ := Int.eq_ofNat_of_zero_le (Int.sub_nonneg.2 hfirst)
  have hclamp : clampPage page (pageCount xs.length size) = k + 1 := by omega
  have hanswer := paginate_eq xs h page
  rw [hclamp] at hanswer hnearest
  exact ⟨Page.nth xs size k, List.mem_map_of_mem (List.mem_range.2 (by omega)), hanswer, hnearest⟩

end Pages

/-- **A list is shared out among its pages**, and any number is answered with the page nearest to
it. Only a size that is not positive is refused, and the fault has the size in decimal unless it has
too many digits. -/
theorem paginate_pages (xs : List α) (size : Int) :
    (1 ≤ size → ∃ pages, ArePagesOf pages xs size ∧
      ∀ page : Int, ∃ p ∈ pages, paginate xs page size = .ok p ∧ p.IsNearest page) ∧
    (size < 1 → ∀ page, paginate xs page size = .error
      (if Fault.digitLimit < (Decimal.digits size.natAbs).length then .integerTooLong
        else .pageSize (String.ofList (Decimal.integer size)))) := by
  constructor
  · intro hsize
    obtain ⟨size, rfl⟩ := Int.eq_ofNat_of_zero_le (zero_le_one.trans hsize)
    have h : 0 < size := by omega
    exact ⟨_, arePagesOf_nth xs h, paginate_nearest xs h⟩
  · intro hsize page
    rw [paginate, if_pos hsize, integerText]
    split_ifs <;> rfl

/-- Three items on two pages, of which the second one is nearest to the ninth. -/
theorem paginate_pages_three :
    let p : Page Nat := ⟨[7], 2, 2, 3, 3, 3⟩
    (∃ pages, ArePagesOf pages [5, 6, 7] 2 ∧ p ∈ pages) ∧ paginate [5, 6, 7] 9 2 = .ok p ∧
      p.IsNearest 9 ∧ paginate [5, 6, 7] 1 0 = .error (.pageSize "0") := by
  intro p
  obtain ⟨pages, hpages, hanswers⟩ := (paginate_pages [5, 6, 7] 2).1 (by decide)
  obtain ⟨q, hq, hanswer, hnearest⟩ := hanswers 9
  have hp : paginate [5, 6, 7] 9 2 = .ok p := rfl
  obtain rfl := Except.ok.inj (hp.symm.trans hanswer)
  exact ⟨⟨pages, hpages, hq⟩, hp, hnearest, (paginate_pages [5, 6, 7] 0).2 (by decide) 1⟩

end Bookmarks
