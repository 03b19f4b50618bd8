import Bookmarks.Proofs.Division
import Bookmarks.Proofs.Filter.Total

/-!
# The positions that a query keeps

The result of a query is given by positions of the collection: those of the bookmarks that pass, by
falling scores. Where the collection itself stands at some positions of a longer list, so does the
result (`Filtered.Ranks.map_some_data_of_positions`).

* `Spec.ranking`: the positions that a query keeps; **`Filtered.Ranks.map_some_data`** finds them in
  its result.
-/

namespace Bookmarks

namespace Spec

variable (spec : Spec)

/-- **The positions of the bookmarks that pass a query**, by falling scores. -/
def ranking (now : Timestamp) (bs : List Bookmark) : List Nat :=
  sortDescending (fun a b => decide (a < b)) (fun i => ((bs[i]?).bind spec.score?).getD 0)
    ((List.range bs.length).filter fun i => (bs[i]?).any fun b => spec.Passes now b)

variable (bs : List Bookmark) (now : Timestamp)

theorem ranking_isRanking : IsRanking (fun i => ((bs[i]?).bind spec.score?).getD 0)
    ((List.range bs.length).filter fun i => (bs[i]?).any fun b => spec.Passes now b)
    (spec.ranking now bs) :=
  sortDescending_isRanking _ _

theorem nodup_ranking : (spec.ranking now bs).Nodup :=
  (spec.ranking_isRanking bs now).perm.nodup_iff.2 (List.nodup_range.filter _)

end Spec

namespace Filtered.Ranks

variable {r : Filtered} {spec : Spec} {now : Timestamp} {c : Collection} (h : r.Ranks spec now c)
include h

theorem map_some_data_of_positions {entries : List Entry} {kept positions : List Nat}
    (hkept : c.entries.map some = kept.map fun i => entries[i]?)
    (hpositions : IsRanking
      (fun i => (((entries.map Entry.bookmark)[i]?).bind spec.score?).getD 0)
      (kept.filter fun i => ((entries.map Entry.bookmark)[i]?).any fun b => spec.Passes now b)
      positions) :
    r.data.map some = positions.map fun i => entries[i]? := by
  -- both sides rank the survivors, each of them behind `some`
  have hdata : IsRanking
      (fun found : Option Entry => (found.bind fun e => spec.score? e.bookmark).getD 0)
      ((c.survivors spec now).map some) (r.data.map some) := by
    refine (h.data.congr fun e _ => ?_).map
    exact (spec.getD_score? e.bookmark).symm
  have hsurvivors : (c.survivors spec now).map some = (kept.filter fun i =>
      (entries[i]?).any fun e => spec.Passes now e.bookmark).map fun i => entries[i]? := by
    calc (c.survivors spec now).map some
        = (c.entries.map some).filter (Option.any fun e => spec.Passes now e.bookmark) := by
          rw [List.filter_map]
          rfl
      _ = _ := by
          rw [hkept, List.filter_map]
          rfl
  refine hdata.unique ?_
  rw [hsurvivors]
  simp only [List.getElem?_map, Option.any_map, Option.bind_map] at hpositions
  exact hpositions.map

/-- **The result holds the entries at the ranked positions.** -/
theorem map_some_data : r.data.map some =
    (spec.ranking now (c.entries.map Entry.bookmark)).map fun i => c.entries[i]? := by
  have hranking := spec.ranking_isRanking (c.entries.map Entry.bookmark) now
  rw [List.length_map] at hranking
  exact h.map_some_data_of_positions (map_some_eq c.entries) hranking

theorem map_scores_data : r.data.map (fun e => r.scores.of? e.bookmark) =
    (spec.ranking now (c.entries.map Entry.bookmark)).map fun i =>
      ((c.entries.map Entry.bookmark)[i]?).bind spec.score? := by
  calc r.data.map (fun e => r.scores.of? e.bookmark)
      = r.data.map (fun e => spec.score? e.bookmark) :=
        List.map_congr_left fun e he => h.of?_eq he
    _ = (r.data.map some).map (fun found => found.bind fun e => spec.score? e.bookmark) := by
      rw [List.map_map]
      rfl
    _ = _ := by
      rw [h.map_some_data, List.map_map]
      refine List.map_congr_left fun i _ => ?_
      rw [List.getElem?_map, Option.bind_map]
      rfl

end Filtered.Ranks

end Bookmarks
