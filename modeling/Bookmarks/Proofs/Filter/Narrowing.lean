import Bookmarks.Proofs.Filter.Total

/-!
# Narrowing a query

A word that excludes something, or that writes a filter, takes bookmarks away from the result of a
query and changes nothing else. What is left is the part of the result that passes this word alone.
No points change, so the order is that of the result before, also where it was not ranked by scores.

* `Spec.OnlyNarrows`: queries that ask for no words.
* `Spec.passes_append`, `Spec.points_append`: putting such a query behind another one.
* `Text.IsNarrowing`: words that write such queries.
* **`Filtered.ofQuery_narrow`**: the result with such a word behind the query.
-/

namespace Bookmarks

namespace Spec

/-- The query asks for no words: it only excludes words, or has filters. -/
def OnlyNarrows (spec : Spec) : Prop :=
  spec.required = [] ∧ spec.optional = []

variable {a b : Spec} (h : b.OnlyNarrows)
include h

theorem wordsPass_append (e : Bookmark) :
    (a ++ b).WordsPass e ↔ a.WordsPass e ∧ b.WordsPass e := by
  obtain ⟨hrequired, hoptional⟩ := h
  simp only [WordsPass, append_required, append_optional, append_excluded, hrequired, hoptional,
    List.append_nil, List.forall_mem_append]
  simp only [List.not_mem_nil, false_imp_iff, implies_true, ne_eq, not_true, and_true]
  tauto

/-- **A bookmark passes both queries put together if it passes each of them.** -/
theorem passes_append (now : Timestamp) (e : Bookmark) :
    (a ++ b).Passes now e ↔ a.Passes now e ∧ b.Passes now e := by
  simp only [Passes, FiltersPass, wordsPass_append h, append_filters, append_negated,
    List.forall_mem_append]
  tauto

theorem points_append (e : Bookmark) : (a ++ b).points e = a.points e := by
  obtain ⟨hrequired, hoptional⟩ := h
  rw [points, append_required, append_optional, hrequired, hoptional, List.append_nil,
    List.append_nil, points]

theorem survivors_append (c : Collection) (now : Timestamp) :
    c.survivors (a ++ b) now =
      (c.survivors a now).filter fun e => b.Passes now e.bookmark := by
  unfold Collection.survivors
  rw [List.filter_filter]
  refine List.filter_congr fun e _ => ?_
  rw [decide_eq_decide.2 (passes_append h now e.bookmark), Bool.decide_and, Bool.and_comm]

omit h

/-! ## Words that narrow -/

theorem onlyNarrows_ofExcluded (s : Text) : (ofExcluded s).OnlyNarrows := by
  unfold ofExcluded
  split
  · exact ⟨rfl, rfl⟩
  · split <;> exact ⟨rfl, rfl⟩

end Spec

/-- The word excludes something or writes a filter, and it needs no quotation marks. -/
structure Text.IsNarrowing (x : Text) : Prop where
  form : x.head? = some (.char '-') ∨ (Predicate.parse? x).isSome = true
  unmarked : .char '"' ∉ x
  unblank : ∀ c ∈ x, Text.isBlank c = false

instance (x : Text) : Decidable x.IsNarrowing :=
  decidable_of_iff
    ((x.head? = some (.char '-') ∨ (Predicate.parse? x).isSome = true) ∧ .char '"' ∉ x ∧
      ∀ c ∈ x, Text.isBlank c = false)
    ⟨fun ⟨hform, hmark, hblank⟩ => ⟨hform, hmark, hblank⟩,
      fun h => ⟨h.form, h.unmarked, h.unblank⟩⟩

namespace Text.IsNarrowing

variable {x : Text}

theorem ne_nil (h : x.IsNarrowing) : x ≠ [] := by
  rintro rfl
  rcases h.form with hform | hform
  · cases hform
  · exact absurd hform (by decide)

/-- Such a word asks for no words, so it gives no points. -/
theorem onlyNarrows (h : x.IsNarrowing) : (Spec.parse x).OnlyNarrows := by
  rw [Spec.parse_of_unblank h.ne_nil h.unmarked h.unblank]
  rcases h.form with hsign | hfilter
  · obtain ⟨rest, rfl⟩ := List.head?_eq_some_iff.1 hsign
    exact Spec.onlyNarrows_ofExcluded rest
  · obtain ⟨p, hp⟩ := Option.isSome_iff_exists.1 hfilter
    rw [Spec.ofToken_filter hp]
    exact ⟨rfl, rfl⟩

end Text.IsNarrowing

namespace Filtered

/-- **A word behind a query that excludes something or writes a filter** keeps the part of the
result that passes this word alone, in its order, whether or not the query before has words to
score. The quotations before it must be closed. -/
theorem ofQuery_narrow (c : Collection) (now : Timestamp) {q x : Text}
    (hq : Even (q.count (.char '"'))) (hx : x.IsNarrowing) :
    ∃ all part narrowed, ofQuery q c.entries now = .ok all ∧ ofQuery x c.entries now = .ok part ∧
      ofQuery (q ++ .char ' ' :: x) c.entries now = .ok narrowed ∧
      narrowed.data = all.data.filter fun e => e ∈ part.data := by
  obtain ⟨all, hall, hallRanks⟩ := exists_ranks q c now
  obtain ⟨part, hpart, hpartRanks⟩ := exists_ranks x c now
  obtain ⟨narrowed, hnarrowed, hranks⟩ := exists_ranks (q ++ .char ' ' :: x) c now
  refine ⟨all, part, narrowed, hall, hpart, hnarrowed, ?_⟩
  rw [Spec.parse_append_blank hq (by decide)] at hranks
  have hranking := hranks.data.congr fun e _ =>
    congrArg Int.ofNat (Spec.points_append hx.onlyNarrows e.bookmark)
  have hpass : ∀ e ∈ c.survivors (Spec.parse q) now,
      decide (Spec.Passes (Spec.parse x) now e.bookmark) = decide (e ∈ part.data) := by
    intro e he
    rw [decide_eq_decide, hpartRanks.mem_data_iff, and_iff_right (List.mem_of_mem_filter he)]
  rw [Spec.survivors_append hx.onlyNarrows, List.filter_congr hpass] at hranking
  exact hranking.unique (hallRanks.data.filter _)

/-- A quotation stands in the query before, and a filter is negated behind it. -/
theorem ofQuery_narrow_negated_tag :
    let q : Text := "a \"b c\""
    let x : Text := "-tag:d"
    let tagged := { Bookmark.ofUrl "a.org" with tags := ["D"] }
    let c := Collection.ofBookmarks [Bookmark.ofUrl "a.com", tagged, Bookmark.ofUrl "a.net/b c"]
    Even (q.count (.char '"')) ∧ x.IsNarrowing ∧
      ∃ all part narrowed, ofQuery q c.entries .epoch = .ok all ∧
        ofQuery x c.entries .epoch = .ok part ∧
        ofQuery (q ++ .char ' ' :: x) c.entries .epoch = .ok narrowed ∧
        narrowed.data = (all.data.filter fun e => e ∈ part.data) ∧
        all.data.map Entry.id = [2, 0, 1] ∧ narrowed.data.map Entry.id = [2, 0] := by
  intro q x tagged c
  have hq : Even (q.count (.char '"')) := by decide
  have hx : x.IsNarrowing := by decide +kernel
  obtain ⟨all, part, narrowed, hall, hpart, hnarrowed, hdata⟩ := ofQuery_narrow c .epoch hq hx
  have hids : (ofQuery q c.entries .epoch).map (·.data.map Entry.id) = .ok [2, 0, 1] ∧
      (ofQuery (q ++ .char ' ' :: x) c.entries .epoch).map (·.data.map Entry.id) = .ok [2, 0] := by
    decide +kernel
  rw [hall, hnarrowed] at hids
  exact ⟨hq, hx, all, part, narrowed, hall, hpart, hnarrowed, hdata, Except.ok.inj hids.1,
    Except.ok.inj hids.2⟩

end Filtered

end Bookmarks
