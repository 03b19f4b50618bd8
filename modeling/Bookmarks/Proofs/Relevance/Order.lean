import Bookmarks.Proofs.Fault
import Bookmarks.Proofs.Number.Order
import Bookmarks.Proofs.Positions
import Bookmarks.Proofs.Time.Elapsed
import Bookmarks.Relevance.Order

/-!
# Bookmarks by falling relevance

A score may be no number; clicks and days never are. If all scores are numbers, the keys of
bookmarks are compared as the rows of their places are, in the lexicographic order of a linear one.

* `lexLt_eq_decide`: comparing rows of numbers.
* `relevancePlaces`: the row of places by which a bookmark is ordered, given the scores.
* **`sortByRelevance_eq`**: sorting by relevance is sorting by falling rows.
-/

namespace Bookmarks

open List

/-! ## Rows of numbers -/

/-- Rows of one length are compared in the lexicographic order of their places. -/
theorem lexLt_eq_decide {as bs : List Number} (hlength : as.length = bs.length)
    (has : ∀ a ∈ as, a ≠ .real .nan) (hbs : ∀ b ∈ bs, b ≠ .real .nan) :
    lexLt as bs = decide (as.map Number.place < bs.map Number.place) := by
  induction as generalizing bs with
  | nil =>
    obtain rfl := length_eq_zero_iff.1 hlength.symm
    exact (decide_eq_false (lt_irrefl _)).symm
  | cons a as ih =>
    obtain ⟨b, bs, rfl⟩ := exists_cons_of_length_eq_add_one hlength.symm
    obtain ⟨ha, has⟩ := forall_mem_cons.1 has
    obtain ⟨hb, hbs⟩ := forall_mem_cons.1 hbs
    rw [lexLt, Number.same_eq_decide ha hb, Number.lt_eq_decide ha hb,
      ih (Nat.succ.inj hlength) has hbs, map_cons, map_cons]
    by_cases hplace : a.place = b.place
    · simp [hplace]
    · simp [hplace, cons_lt_cons_iff]

theorem daysSinceEpoch_ne_nan (t : Option Timestamp) : daysSinceEpoch t ≠ .nan := by
  cases t with
  | none => exact fun h => Binary64.noConfusion h
  | some t =>
    obtain ⟨q, hq⟩ := Timestamp.epoch.exists_value_daysUntil t
    intro hnan
    rw [daysSinceEpoch, Option.map_some, Option.getD_some] at hnan
    rw [hnan] at hq
    cases hq

/-! ## Sorting -/

/-- What a bookmark with a score is ordered by. -/
def scoredKey (score : Bookmark → Binary64) (b : Bookmark) : RelevanceKey :=
  ⟨score b, b.clicked, daysSinceEpoch b.last, daysSinceEpoch b.added⟩

/-- The places of the score, the clicks, the last visit and the time of addition, by which bookmarks
are ordered. -/
def relevancePlaces (score : Bookmark → Binary64) (b : Bookmark) : List Place :=
  (scoredKey score b).values.map Number.place

/-- The entries by falling places. -/
def byRelevance (score : Bookmark → Binary64) (entries : List Entry) : List Entry :=
  sortDescending (fun a b => decide (a < b)) (fun e => relevancePlaces score e.bookmark) entries

variable {score : Bookmark → Binary64}

theorem ne_nan_of_mem_values {b : Bookmark} (h : score b ≠ .nan) :
    ∀ x ∈ (scoredKey score b).values, x ≠ .real .nan := by
  simp only [RelevanceKey.values, scoredKey, forall_mem_cons]
  exact ⟨Number.real_ne_nan h, fun h => Number.noConfusion h,
    Number.real_ne_nan (daysSinceEpoch_ne_nan _), Number.real_ne_nan (daysSinceEpoch_ne_nan _),
    forall_mem_nil _⟩

variable {config : RelevanceConfig} {now : Timestamp} {entries : List Entry}

/-- **Sorting by relevance is sorting by falling places**, where all scores are numbers. -/
theorem sortByRelevance_eq
    (hscore : ∀ e ∈ entries, e.bookmark.relevance config now = .ok (score e.bookmark))
    (hnan : ∀ e ∈ entries, score e.bookmark ≠ .nan) :
    sortByRelevance entries config now = .ok (byRelevance score entries) := by
  have hkeyed : entries.mapM (fun e => do return (← e.bookmark.relevanceKey config now, e)) =
      .ok (entries.map fun e => (scoredKey score e.bookmark, e)) := by
    refine Fault.mapM_eq_ok fun e he => ?_
    rw [Bookmark.relevanceKey, hscore e he]
    rfl
  -- each entry carries its key along, and sorting these pairs sorts the entries
  have hsnd : Prod.snd ∘ (fun e : Entry => (scoredKey score e.bookmark, e)) = id := rfl
  rw [sortByRelevance, hkeyed, Fault.ok_bind, sortDescending_map, map_map, hsnd, map_id]
  refine congrArg Except.ok (sortDescending_congr fun a ha b hb => ?_)
  exact lexLt_eq_decide rfl (ne_nan_of_mem_values (hnan a ha)) (ne_nan_of_mem_values (hnan b hb))

theorem byRelevance_perm (score : Bookmark → Binary64) (entries : List Entry) :
    (byRelevance score entries).Perm entries :=
  sortDescending_perm _ _ entries

end Bookmarks
