import Bookmarks.Proofs.Filter.Admits
import Bookmarks.Proofs.Filter.Total

/-!
# Queries of a single word

A word without blanks and quotation marks is a query of its own. It asks for one thing, and the
bookmarks for which this is so all get the same points. So nothing is ranked: the result is the part
of the collection that the word admits, in the order of the collection.

* `Text.IsBare`: words that need no quotation marks.
* `Spec.Asks.parse_eq`: the query that a bare word is.
* `Filtered.Ranks.data_eq_survivors`: equal points leave the order as it is.
* **`Filtered.exists_ofQuery_asks`**: the result of a query of a single word.
-/

namespace Bookmarks

/-- A word that needs no quotation marks to stand in a query. -/
structure Text.IsBare (t : Text) : Prop where
  unmarked : .char '"' ∉ t
  unblank : ∀ c ∈ t, Text.isBlank c = false

instance (t : Text) : Decidable t.IsBare :=
  decidable_of_iff (.char '"' ∉ t ∧ ∀ c ∈ t, Text.isBlank c = false)
    ⟨fun ⟨hmark, hblank⟩ => ⟨hmark, hblank⟩, fun h => ⟨h.unmarked, h.unblank⟩⟩

theorem Text.IsBare.append {s t : Text} (hs : s.IsBare) (ht : t.IsBare) : (s ++ t).IsBare where
  unmarked hmem := (List.mem_append.1 hmem).elim hs.unmarked ht.unmarked
  unblank c hc := (List.mem_append.1 hc).elim (hs.unblank c) (ht.unblank c)

namespace Spec

variable {item : Item}

theorem Asks.parse_eq {t : Text} (h : Asks t item) (hbare : t.IsBare) :
    parse t = ofItems [item] := by
  have hne : t ≠ [] := by
    rintro rfl
    have hnil : Predicate.parse? [] = none := rfl
    cases h with
    | filter h =>
      rw [hnil] at h
      cases h
  rw [parse_of_unblank hne hbare.unmarked hbare.unblank, h.ofToken_eq]

end Spec

/-! ## The result -/

namespace Filtered

theorem Ranks.data_eq_survivors {r : Filtered} {spec : Spec} {now : Timestamp} {c : Collection}
    (h : r.Ranks spec now c) {n : Nat}
    (hpoints : ∀ e ∈ c.survivors spec now, spec.points e.bookmark = n) :
    r.data = c.survivors spec now := by
  refine h.data.unique (.refl (List.pairwise_of_forall_mem_list fun e he f hf => ?_))
  rw [hpoints e he, hpoints f hf]

/-- **The result of a query of a single word** is the part of the collection that it admits, in the
order of the collection. -/
theorem exists_ofQuery_asks {t : Text} {item : Spec.Item} (hbare : t.IsBare)
    (h : Spec.Asks t item) (c : Collection) (now : Timestamp) :
    ∃ r, ofQuery t c.entries now = .ok r ∧
      r.data = c.entries.filter fun e => item.Admits now e.bookmark := by
  obtain ⟨r, hr, hranks⟩ := exists_ranks t c now
  rw [h.parse_eq hbare] at hranks
  have hsurvivors : c.survivors (.ofItems [item]) now =
      c.entries.filter fun e => item.Admits now e.bookmark :=
    List.filter_congr fun e _ => decide_eq_decide.2 Spec.passes_ofItems_singleton
  have hpoints : ∀ e ∈ c.survivors (.ofItems [item]) now,
      (Spec.ofItems [item]).points e.bookmark = item.points := by
    intro e he
    rw [hsurvivors] at he
    exact Spec.points_ofItems_singleton (of_decide_eq_true (List.mem_filter.1 he).2)
  exact ⟨r, hr, (hranks.data_eq_survivors hpoints).trans hsurvivors⟩

end Filtered

end Bookmarks
