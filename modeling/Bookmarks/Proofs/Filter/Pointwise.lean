import Bookmarks.Proofs.Filter.Positions

/-!
# Filtering looks at one bookmark at a time

Whether a bookmark is in a result, and with which score, does not depend on the other bookmarks of
the collection, although a pass over it shares the search texts and the scores. So the result of a
part of a collection is that part of the result, and filtering a result again changes nothing.

* `Collection.ofSubset`: some entries of a collection.
* `Filtered.Ranks.map_some_data_of_part`: the result of a part of a collection.
* `Filtered.Ranks.data_of_data`: the result of a result.
* `Filtered.Ranks.mem_data_iff_of_key_eq`, `Filtered.Ranks.of?_eq_of_key_eq`: equal bookmarks in the
  results of two collections.
* **`Filtered.ofQuery_pointwise`**: all of this for a query.
-/

namespace Bookmarks

/-- Some entries of a collection, in any order. -/
def Collection.ofSubset (c : Collection) (entries : List Entry) (h : ∀ e ∈ entries, e ∈ c.entries) :
    Collection where
  entries := entries
  eq_of_id_eq e he f hf := c.eq_of_id_eq e (h e he) f (h f hf)

namespace Filtered.Ranks

section Part

variable {r : Filtered} {spec : Spec} {now : Timestamp} {part : Collection}
  (h : r.Ranks spec now part)
include h

/-- **The result of a part of a collection** stands at those positions in the result of the whole
one that belong to the part. -/
theorem map_some_data_of_part {entries : List Entry} {kept : List Nat}
    (hrise : kept.Pairwise (· < ·))
    (hkept : part.entries.map some = kept.map fun i => entries[i]?) :
    r.data.map some = ((spec.ranking now (entries.map Entry.bookmark)).filter fun i => i ∈ kept).map
      fun i => entries[i]? := by
  refine h.map_some_data_of_positions hkept ?_
  have hlt : ∀ i ∈ kept, i < (entries.map Entry.bookmark).length := by
    intro i hi
    have hmem : entries[i]? ∈ part.entries.map some :=
      hkept ▸ List.mem_map.2 ⟨i, hi, rfl⟩
    obtain ⟨e, -, he⟩ := List.mem_map.1 hmem
    rw [List.length_map]
    exact (List.getElem?_eq_some_iff.1 he.symm).1
  have hranking := (spec.ranking_isRanking (entries.map Entry.bookmark) now).filter
    fun i => i ∈ kept
  rwa [List.filter_comm, filter_mem_range hrise hlt] at hranking

end Part

section Again

variable {r again : Filtered} {spec : Spec} {now : Timestamp} {c found : Collection}
  (h : r.Ranks spec now c)
include h

/-- **The result of a result** is that result. -/
theorem data_of_data (hagain : again.Ranks spec now found) (hfound : found.entries = r.data) :
    again.data = r.data := by
  have hall : found.survivors spec now = r.data := by
    rw [Collection.survivors, hfound, List.filter_eq_self]
    exact fun e he => decide_eq_true (h.mem_data_iff.1 he).2
  -- all entries pass again, and they already stand by falling points
  have hranking := hagain.data
  rw [hall] at hranking
  exact hranking.unique (.refl h.data.falling)

end Again

section Key

variable {r r' : Filtered} {spec : Spec} {now : Timestamp} {c d : Collection}
  (h : r.Ranks spec now c) (h' : r'.Ranks spec now d) {e f : Entry} (he : e ∈ c.entries)
  (hf : f ∈ d.entries) (hkey : e.bookmark.key = f.bookmark.key)
include h h' he hf hkey

theorem mem_data_iff_of_key_eq : e ∈ r.data ↔ f ∈ r'.data := by
  rw [h.mem_data_iff, h'.mem_data_iff, and_iff_right he, and_iff_right hf,
    Spec.passes_congr hkey]

theorem of?_eq_of_key_eq : r.scores.of? e.bookmark = r'.scores.of? f.bookmark := by
  have hscore : spec.score? e.bookmark = spec.score? f.bookmark := by
    rw [Spec.score?, Spec.points_congr hkey, Spec.score?]
  simp only [h.of?_eq_ite he, h'.of?_eq_ite hf, Spec.passes_congr hkey, hscore]

end Key

end Filtered.Ranks

namespace Filtered

/-- **Filtering looks at one bookmark at a time**, and keeps it if it passes the query. The result of
a part of a collection, given by the rising positions at which it stands, is the result of the whole
collection at these positions, with the same scores. The result of a result is that result, also
with its scores. Equal bookmarks of two collections both pass with one score, or neither passes. -/
theorem ofQuery_pointwise (query : Text) (c : Collection) (now : Timestamp) :
    ∃ (r : Filtered) (positions : List Nat), ofQuery query c.entries now = .ok r ∧
      positions.Nodup ∧ r.data.map some = (positions.map fun i => c.entries[i]?) ∧
      (∀ e ∈ c.entries, e ∈ r.data ↔ (Spec.parse query).Passes now e.bookmark) ∧
      (∀ (part : List Entry) (kept : List Nat), kept.Pairwise (· < ·) →
        part.map some = (kept.map fun i => c.entries[i]?) →
        ∃ r', ofQuery query part now = .ok r' ∧
          r'.data.map some = ((positions.filter fun i => i ∈ kept).map fun i => c.entries[i]?) ∧
          ∀ e ∈ part, r'.scores.of? e.bookmark = r.scores.of? e.bookmark) ∧
      (∃ again, ofQuery query r.data now = .ok again ∧ again.data = r.data ∧
        ∀ key, again.scores.get? key = r.scores.get? key) ∧
      ∀ d : Collection, ∃ r', ofQuery query d.entries now = .ok r' ∧
        ∀ e ∈ c.entries, ∀ f ∈ d.entries, e.bookmark.key = f.bookmark.key →
          (e ∈ r.data ↔ f ∈ r'.data) ∧ r.scores.of? e.bookmark = r'.scores.of? f.bookmark := by
  obtain ⟨r, hr, h⟩ := exists_ranks query c now
  refine ⟨r, _, hr, Spec.nodup_ranking _ _ now, h.map_some_data, ?_, ?_, ?_, ?_⟩
  · exact fun e he => h.mem_data_iff.trans (and_iff_right he)
  · intro part kept hrise hkept
    have hsubset : ∀ e ∈ part, e ∈ c.entries := by
      intro e he
      have hmem : some e ∈ kept.map fun i => c.entries[i]? := hkept ▸ List.mem_map.2 ⟨e, he, rfl⟩
      obtain ⟨i, -, hi⟩ := List.mem_map.1 hmem
      exact List.mem_of_getElem? hi
    obtain ⟨r', hr', h'⟩ := exists_ranks query (c.ofSubset part hsubset) now
    refine ⟨r', hr', h'.map_some_data_of_part hrise hkept, fun e he => ?_⟩
    exact h'.of?_eq_of_key_eq h he (hsubset e he) rfl
  · obtain ⟨again, hagain, h'⟩ := exists_ranks query
      (c.ofSubset r.data fun e he => (h.mem_data_iff.1 he).1) now
    have hdata : again.data = r.data := h.data_of_data h' rfl
    exact ⟨again, hagain, hdata, h'.get?_scores_congr h rfl (fun _ => rfl) fun e => by rw [hdata]⟩
  · intro d
    obtain ⟨r', hr', h'⟩ := exists_ranks query d now
    exact ⟨r', hr', fun e he f hf hkey =>
      ⟨h.mem_data_iff_of_key_eq h' he hf hkey, h.of?_eq_of_key_eq h' he hf hkey⟩⟩

/-- The last bookmark is ranked before the first one, also where the second one is left out. -/
theorem ofQuery_pointwise_without_second :
    let c := Collection.ofBookmarks
      [Bookmark.ofUrl "a.org", Bookmark.ofUrl "b.org/a", Bookmark.ofUrl "c.org/b a"]
    let part : List Entry := [⟨0, Bookmark.ofUrl "a.org"⟩, ⟨2, Bookmark.ofUrl "c.org/b a"⟩]
    [0, 2].Pairwise (· < ·) ∧ part.map some = ([0, 2].map fun i => c.entries[i]?) ∧
      ∃ (r r' : Filtered) (positions : List Nat), ofQuery "a b" c.entries .epoch = .ok r ∧
        ofQuery "a b" part .epoch = .ok r' ∧
        r.data.map some = (positions.map fun i => c.entries[i]?) ∧
        r'.data.map some = ((positions.filter fun i => i ∈ [0, 2]).map fun i => c.entries[i]?) ∧
        (∀ e ∈ part, r'.scores.of? e.bookmark = r.scores.of? e.bookmark) ∧
        r.data.map Entry.id = [1, 2, 0] ∧ r'.data.map Entry.id = [2, 0] := by
  intro c part
  have hrise : [0, 2].Pairwise (· < ·) := by decide
  have hkept : part.map some = [0, 2].map fun i => c.entries[i]? := rfl
  obtain ⟨r, positions, hr, -, hdata, -, hpart, -⟩ := ofQuery_pointwise "a b" c .epoch
  obtain ⟨r', hr', hdata', hscores⟩ := hpart part [0, 2] hrise hkept
  have hids : (ofQuery "a b" c.entries .epoch).map (·.data.map Entry.id) = .ok [1, 2, 0] ∧
      (ofQuery "a b" part .epoch).map (·.data.map Entry.id) = .ok [2, 0] := by
    decide +kernel
  rw [hr, hr'] at hids
  exact ⟨hrise, hkept, r, r', positions, hr, hr', hdata, hdata', hscores, Except.ok.inj hids.1,
    Except.ok.inj hids.2⟩

end Filtered

end Bookmarks
