import Bookmarks.Filter.Basic
import Bookmarks.Proofs.Positions

/-!
# Ranking

A ranking of a list holds its elements by falling scores, and elements of one score stand as they
did before. There is only one (`IsRanking.unique`).

* `IsRanking`: the rankings of a list.
* `IsRanking.congr`: only the scores of the elements count.
* **`rank_isRanking`**: entries are ranked by the scores that are looked up for their bookmarks.
* **`rank_isDescending`**: the same by positions, for any scores and any part of the entries.
-/

namespace Bookmarks

variable {α : Type}

/-- **The list `ys` is the list `xs` by falling scores**, elements of one score in their order. -/
structure IsRanking (score : α → Int) (xs ys : List α) : Prop where
  perm : ys.Perm xs
  falling : ys.Pairwise fun a b => score b ≤ score a
  ties : ∀ n, ys.filter (fun a => score a = n) = xs.filter fun a => score a = n

/-- The order of falling scores. -/
def falls (score : α → Int) (a b : α) : Bool :=
  decide (score b < score a)

theorem falls_isWeakOrder (score : α → Int) : IsWeakOrder (falls score) :=
  isWeakOrder_lt.swap.comap score

theorem tied_falls (score : α → Int) (a : α) :
    tied (falls score) a = fun b => decide (score b = score a) := by
  funext b
  by_cases h : score b = score a
  · simp [tied, falls, h]
  · have : score b < score a ∨ score a < score b := by omega
    rcases this with hlt | hlt <;> simp [tied, falls, hlt, h]

namespace IsRanking

variable {score : α → Int} {xs ys : List α}

theorem refl (h : xs.Pairwise fun a b => score b ≤ score a) : IsRanking score xs xs :=
  ⟨List.Perm.refl xs, h, fun _ => rfl⟩

theorem congr {other : α → Int} (h : IsRanking score xs ys) (heq : ∀ a ∈ xs, score a = other a) :
    IsRanking other xs ys := by
  have hys : ∀ a ∈ ys, score a = other a := fun a ha => heq a (h.perm.mem_iff.1 ha)
  refine ⟨h.perm, h.falling.imp_of_mem fun ha hb hle => ?_, fun n => ?_⟩
  · rw [← hys _ ha, ← hys _ hb]
    exact hle
  · have hn := h.ties n
    rw [List.filter_congr fun a ha => by rw [hys a ha],
      List.filter_congr (l := xs) fun a ha => by rw [heq a ha]] at hn
    exact hn

theorem inOrder (h : IsRanking score xs ys) : InOrder (falls score) ys := by
  refine h.falling.imp fun hle => ?_
  simp only [falls, decide_eq_false_iff_not]
  omega

/-- A list has one ranking. -/
theorem unique {zs : List α} (hy : IsRanking score xs ys) (hz : IsRanking score xs zs) :
    ys = zs := by
  refine eq_of_inOrder (falls_isWeakOrder score) hy.inOrder hz.inOrder fun a => ?_
  rw [tied_falls, hy.ties, hz.ties]

theorem filter (h : IsRanking score xs ys) (p : α → Bool) :
    IsRanking score (xs.filter p) (ys.filter p) where
  perm := h.perm.filter p
  falling := h.falling.filter p
  ties n := by
    have hcomm : ∀ zs : List α, (zs.filter p).filter (fun a => score a = n) =
        (zs.filter fun a => score a = n).filter p := fun zs => by
      simp only [List.filter_filter, Bool.and_comm]
    rw [hcomm, h.ties, hcomm]

theorem map {β : Type} {f : α → β} {score : β → Int} (h : IsRanking (fun a => score (f a)) xs ys) :
    IsRanking score (xs.map f) (ys.map f) where
  perm := h.perm.map f
  falling := List.pairwise_map.2 h.falling
  ties n := by
    rw [List.filter_map, List.filter_map]
    exact congrArg (List.map f) (h.ties n)

end IsRanking

theorem sortDescending_isRanking (score : α → Int) (xs : List α) :
    IsRanking score xs (sortDescending (fun a b => decide (a < b)) score xs) := by
  rw [sortDescending_eq_sortBy isWeakOrder_lt]
  have hs := sortBy_isSorting (falls_isWeakOrder score) xs
  refine ⟨sortBy_perm _ xs, hs.inOrder.imp fun h => ?_, fun n => ?_⟩
  · have := of_decide_eq_false h
    omega
  · by_cases hn : ∃ a ∈ xs, score a = n
    · obtain ⟨a, -, rfl⟩ := hn
      have := hs.ties a
      rwa [tied_falls] at this
    · have hnone : ∀ a ∈ xs, ¬ score a = n := fun a ha h => hn ⟨a, ha, h⟩
      rw [List.filter_eq_nil_iff.2 fun a ha => by
          simpa using hnone a ((sortBy_perm _ xs).mem_iff.1 ha),
        List.filter_eq_nil_iff.2 (by simpa using hnone)]

/-- **Entries are ranked by the scores that are looked up for their bookmarks**, zero where there is
none. -/
theorem rank_isRanking (scores : Scores) (entries : List Entry) :
    IsRanking (fun e => (scores.of? e.bookmark).getD 0) entries (rank scores entries) := by
  unfold rank
  cases scores with
  | nil => exact IsRanking.refl (List.pairwise_of_forall fun _ _ => Int.le_refl 0)
  | cons entry rest => exact sortDescending_isRanking _ entries

/-! ## Ranked positions -/

theorem rank_eq_sortDescending (scores : Scores) (entries : List Entry) :
    rank scores entries = sortDescending (fun a b => decide (a < b))
      (fun e => (scores.of? e.bookmark).getD 0) entries :=
  (rank_isRanking scores entries).unique (sortDescending_isRanking _ entries)

/-- **Ranking by any scores**: the entries stand by falling scores, where a bookmark without a score
counts as zero, each position is there once, and equal scores keep their order. Some of the entries,
given by their rising positions, are ranked as they are among all of them. Where there are no scores
at all, sorting would change nothing, and neither does ranking again. -/
theorem rank_isDescending (scores : Scores) (entries : List Entry) :
    (∃ positions : List Nat,
      IsDescending (fun e => (scores.of? e.bookmark).getD 0) entries (rank scores entries)
        positions ∧
      ∀ (part : List Entry) (kept : List Nat), kept.Pairwise (· < ·) →
        part.map some = (kept.map fun i => entries[i]?) →
        (rank scores part).map some =
          (positions.filter fun i => i ∈ kept).map fun i => entries[i]?) ∧
      rank scores entries = sortDescending (fun a b => decide (a < b))
        (fun e => (scores.of? e.bookmark).getD 0) entries ∧
      rank scores (rank scores entries) = rank scores entries := by
  have hrank := rank_eq_sortDescending scores
  have hdescending := sortDescending_isDescending (fun e : Entry => (scores.of? e.bookmark).getD 0)
    entries
  rw [← hrank] at hdescending
  refine ⟨⟨_, hdescending, fun part kept hrise hkept => ?_⟩, hrank entries, ?_⟩
  · rw [hrank]
    exact map_some_sortDescending_part _ hrise hkept
  · rw [hrank (rank scores entries), hrank entries]
    exact sortDescending_sortDescending _ entries

/-- A score below zero, and two bookmarks without a score. -/
theorem rank_isDescending_negative :
    let scores : Scores := [((Bookmark.ofUrl "a.org").key, -1), ((Bookmark.ofUrl "x").key, 5)]
    let a : Entry := ⟨0, Bookmark.ofUrl "a.org"⟩
    let b : Entry := ⟨1, Bookmark.ofUrl "b.org"⟩
    let c : Entry := ⟨2, Bookmark.ofUrl "b.org"⟩
    rank scores [a, b, c] = [b, c, a] ∧ [0, 2].Pairwise (· < ·) ∧
      [a, c].map some = ([0, 2].map fun i => [a, b, c][i]?) ∧
      (∃ positions : List Nat,
        IsDescending (fun e => (scores.of? e.bookmark).getD 0) [a, b, c] [b, c, a] positions ∧
        (rank scores [a, c]).map some =
          (positions.filter fun i => i ∈ [0, 2]).map fun i => [a, b, c][i]?) ∧
      rank scores [b, c, a] = [b, c, a] := by
  intro scores a b c
  have hrank : rank scores [a, b, c] = [b, c, a] := by decide +kernel
  have hrise : [0, 2].Pairwise (· < ·) := by decide
  have hkept : [a, c].map some = [0, 2].map fun i => [a, b, c][i]? := rfl
  obtain ⟨⟨positions, hdescending, hpart⟩, -, hagain⟩ := rank_isDescending scores [a, b, c]
  rw [hrank] at hdescending hagain
  exact ⟨hrank, hrise, hkept, ⟨positions, hdescending, hpart [a, c] [0, 2] hrise hkept⟩, hagain⟩

end Bookmarks
