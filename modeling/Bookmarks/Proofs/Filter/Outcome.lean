import Bookmarks.Proofs.Filter.Pass
import Bookmarks.Proofs.Filter.Ranking

/-!
# The outcome of a filter

Filtering a collection gives what the query means: the bookmarks that pass, by falling points and
otherwise in their order, and the points of each of them. The scores are kept under the values of
bookmarks, which different entries may share, and they are still right for every entry.

* `Filtered.IsOutcome`: the declared outcome of a query on a collection.
* **`Spec.filter_isOutcome`**: filtering gives the declared outcome.
* **`Spec.filter_scores`**: the scores that are looked up are those of evaluating each bookmark
  alone.
-/

namespace Bookmarks

/-- The entries of a collection that pass a query. -/
def Collection.survivors (c : Collection) (spec : Spec) (now : Timestamp) : List Entry :=
  c.entries.filter fun e => spec.Passes now e.bookmark

/-- **The declared outcome of a query on a collection**: the survivors by falling points, and the
points of each value among them, unless there are no words to score. -/
structure Filtered.IsOutcome (r : Filtered) (spec : Spec) (now : Timestamp) (c : Collection) :
    Prop where
  spec_eq : r.spec = spec
  query_eq : r.query = []
  data : IsRanking (fun e => spec.points e.bookmark) (c.survivors spec now) r.data
  noScores : spec.hasTerms = false → r.scores = []
  scores : spec.hasTerms = true → ∀ b : Bookmark, r.scores.of? b =
    if ∃ e ∈ c.survivors spec now, e.bookmark.key = b.key then some (spec.points b : Int) else none

namespace Scores.Records

variable {scores : Scores} {spec : Spec} {survivors : List Entry}

theorem of?_eq (h : scores.Records spec survivors) (b : Bookmark) : scores.of? b =
    if ∃ e ∈ survivors, e.bookmark.key = b.key then some (spec.points b : Int) else none := by
  split_ifs with hb
  · obtain ⟨e, he, hkey⟩ := hb
    exact (h.get?_eq_some_iff _ _).2 ⟨e, he, hkey, by rw [Spec.points_congr hkey]⟩
  · refine Option.eq_none_iff_forall_ne_some.2 fun n hn => hb ?_
    obtain ⟨e, he, hkey, -⟩ := (h.get?_eq_some_iff _ _).1 hn
    exact ⟨e, he, hkey⟩

theorem of?_of_mem (h : scores.Records spec survivors) {e : Entry} (he : e ∈ survivors) :
    scores.of? e.bookmark = some (spec.points e.bookmark : Int) := by
  rw [h.of?_eq, if_pos ⟨e, he, rfl⟩]

theorem get?_congr {scores' : Scores} {spec' : Spec} {survivors' : List Entry}
    (h : scores.Records spec survivors) (h' : scores'.Records spec' survivors')
    (hmem : ∀ e, e ∈ survivors ↔ e ∈ survivors')
    (hpoints : ∀ e ∈ survivors, spec.points e.bookmark = spec'.points e.bookmark)
    (key : BookmarkKey) : scores.get? key = scores'.get? key := by
  refine Option.ext fun n => ?_
  rw [h.get?_eq_some_iff, h'.get?_eq_some_iff]
  constructor
  · rintro ⟨e, he, hkey, hn⟩
    exact ⟨e, (hmem e).1 he, hkey, hpoints e he ▸ hn⟩
  · rintro ⟨e, he, hkey, hn⟩
    have he := (hmem e).2 he
    exact ⟨e, he, hkey, (hpoints e he).symm ▸ hn⟩

theorem length_eq (h : scores.Records spec survivors) :
    scores.length = (survivors.map fun e => e.bookmark.key).toFinset.card := by
  have hkeys : scores.keys.toFinset = (survivors.map fun e => e.bookmark.key).toFinset := by
    ext k
    rw [List.mem_toFinset, List.mem_toFinset, ← Table.get?_isSome_iff, Option.isSome_iff_exists,
      List.mem_map]
    constructor
    · rintro ⟨n, hn⟩
      obtain ⟨e, he, hk, -⟩ := (h.get?_eq_some_iff k n).1 hn
      exact ⟨e, he, hk⟩
    · rintro ⟨e, he, hk⟩
      exact ⟨spec.points e.bookmark, (h.get?_eq_some_iff k _).2 ⟨e, he, hk, rfl⟩⟩
  rw [← hkeys, List.toFinset_card_of_nodup h.nodup, Table.keys, List.length_map]

end Scores.Records

namespace Spec

variable {spec : Spec} {now : Timestamp} {c : Collection}

theorem rank_isRanking_points {pass : Pass} (h : Pass.After spec now c c.entries pass) :
    IsRanking (fun e => spec.points e.bookmark) pass.survivors
      (rank pass.scores pass.survivors) := by
  refine (rank_isRanking pass.scores pass.survivors).congr fun e he => ?_
  cases hterms : spec.hasTerms with
  | true =>
    rw [(h.scores hterms).of?_of_mem he]
    rfl
  | false =>
    rw [h.noScores hterms, (wordsPass_of_hasTerms_eq_false hterms e.bookmark).2]
    rfl

/-- **Filtering gives the declared outcome.** -/
theorem filter_isOutcome (c : Collection) (spec : Spec) (now : Timestamp) (h : spec.Bounded) :
    ∃ r, spec.filter c.entries now = .ok r ∧ r.IsOutcome spec now c := by
  obtain ⟨pass, hfilter, hafter⟩ := filter_eq_rank h c now
  have hsurvivors : pass.survivors = c.survivors spec now := hafter.survivors
  refine ⟨_, hfilter, rfl, rfl, ?_, hafter.noScores, fun hterms b => ?_⟩
  · rw [← hsurvivors]
    exact rank_isRanking_points hafter
  · rw [← hsurvivors]
    exact (hafter.scores hterms).of?_eq b

/-- One bookmark has one of the words and the other one has both. -/
theorem filter_isOutcome_two_words :
    let spec : Spec := ⟨[], ["a", "b"], [], [.age .added (some .about) (some 3)], []⟩
    let c := Collection.ofBookmarks [Bookmark.ofUrl "a.org", Bookmark.ofUrl "b.org/a"]
    spec.Bounded ∧
      ∃ r, spec.filter c.entries Timestamp.epoch = .ok r ∧ r.IsOutcome spec Timestamp.epoch c := by
  have h : Spec.Bounded ⟨[], ["a", "b"], [], [.age .added (some .about) (some 3)], []⟩ := by
    intro p hp
    rw [List.append_nil, List.mem_singleton] at hp
    exact hp ▸ Predicate.bounded_of_lt (by decide)
  exact ⟨h, filter_isOutcome _ _ _ h⟩

/-- **The scores that are looked up are those of evaluating each bookmark alone**, although equal
bookmarks share one: there is none for exactly the entries that are left out, and there are as many
as there are values among the survivors. Without words there are no scores. -/
theorem filter_scores (c : Collection) (spec : Spec) (now : Timestamp) (h : spec.Bounded) :
    ∃ r, spec.filter c.entries now = .ok r ∧
      (spec.hasTerms = true →
        (∀ e ∈ c.entries, (spec.evaluate e.bookmark now).map (Option.map Int.ofNat) =
          .ok (r.scores.of? e.bookmark)) ∧
        (∀ e ∈ c.entries, r.scores.of? e.bookmark = none ↔ e ∉ r.data) ∧
        r.scores.length = (r.data.map fun e => e.bookmark.key).toFinset.card) ∧
      (spec.hasTerms = false → r.scores = []) := by
  obtain ⟨pass, hfilter, hafter⟩ := filter_eq_rank h c now
  refine ⟨_, hfilter, fun hterms => ?_, hafter.noScores⟩
  have hrecords := hafter.scores hterms
  have hperm := (rank_isRanking_points hafter).perm
  have hmem : ∀ e ∈ c.entries, e ∈ pass.survivors ↔ spec.Passes now e.bookmark := fun e he => by
    simp [hafter.survivors, he]
  -- an entry that is left out has no twin among the survivors
  have hnone : ∀ e ∈ c.entries, ¬ spec.Passes now e.bookmark →
      pass.scores.of? e.bookmark = none := by
    intro e he hfail
    rw [hrecords.of?_eq, if_neg]
    rintro ⟨f, hf, hkey⟩
    have hf' := List.mem_filter.1 (hafter.survivors ▸ hf)
    have heval := evaluate_congr hkey spec now
    rw [evaluate_eq h, evaluate_eq h, if_pos (of_decide_eq_true hf'.2), if_neg hfail] at heval
    cases heval
  refine ⟨fun e he => ?_, fun e he => ?_, ?_⟩
  · rw [evaluate_eq h]
    by_cases hpass : spec.Passes now e.bookmark
    · rw [if_pos hpass, hrecords.of?_of_mem ((hmem e he).2 hpass)]
      rfl
    · rw [if_neg hpass, hnone e he hpass]
      rfl
  · rw [hperm.mem_iff, hmem e he]
    by_cases hpass : spec.Passes now e.bookmark
    · simp [hrecords.of?_of_mem ((hmem e he).2 hpass), hpass]
    · simp [hnone e he hpass, hpass]
  · rw [hrecords.length_eq]
    exact congrArg Finset.card (List.toFinset_eq_of_perm _ _ (hperm.map _)).symm

/-- Two bookmarks that were added at one instant, written with different offsets. -/
theorem filter_scores_two_offsets :
    let early : Timestamp :=
      ⟨Timestamp.epoch.date, ⟨2, 0, 0, 0, by decide⟩, some ⟨7200000000, by decide⟩⟩
    let a := { Bookmark.ofUrl "a.org" with added := some Timestamp.epoch }
    let b := { Bookmark.ofUrl "a.org" with added := some early }
    let spec : Spec := ⟨["a"], [], [], [.age .added (some .atMost) (some 3)], []⟩
    let c := Collection.ofBookmarks [a, b]
    a.key = b.key ∧ spec.Bounded ∧ ∃ r, spec.filter c.entries Timestamp.epoch = .ok r ∧
      (spec.hasTerms = true →
        (∀ e ∈ c.entries, (spec.evaluate e.bookmark .epoch).map (Option.map Int.ofNat) =
          .ok (r.scores.of? e.bookmark)) ∧
        (∀ e ∈ c.entries, r.scores.of? e.bookmark = none ↔ e ∉ r.data) ∧
        r.scores.length = (r.data.map fun e => e.bookmark.key).toFinset.card) ∧
      (spec.hasTerms = false → r.scores = []) := by
  have h : Spec.Bounded ⟨["a"], [], [], [.age .added (some .atMost) (some 3)], []⟩ := by
    intro p hp
    rw [List.append_nil, List.mem_singleton] at hp
    exact hp ▸ Predicate.bounded_of_lt (by decide)
  exact ⟨by decide +kernel, h, filter_scores _ _ _ h⟩

end Spec

end Bookmarks
