import Bookmarks.Proofs.Filter.Meaning
import Bookmarks.Proofs.Query.Items

/-!
# What a single word admits

A query that asks for one thing admits the bookmarks for which this is so, and gives all of them the
same points.

* `Spec.Item.Admits`, `Spec.Item.points`: the bookmarks that are admitted, and their points.
* `Spec.passes_ofItems_singleton`, `Spec.points_ofItems_singleton`: the query that asks for one
  thing.
* **`Spec.evaluate_ofItems_singleton`**: evaluating such a query.
-/

namespace Bookmarks

namespace Spec

/-- The bookmark is admitted by what a word asks for. -/
def Item.Admits (item : Item) (now : Timestamp) (b : Bookmark) : Prop :=
  match item with
  | required term | optional term => b.Matches term
  | excluded term => ¬ b.Matches term
  | filter p => p.holds b now = .ok true
  | negated p => p.holds b now = .ok false

instance (item : Item) (now : Timestamp) : DecidablePred (item.Admits now) :=
  fun b =>
    match item with
    | .required term | .optional term => inferInstanceAs (Decidable (b.Matches term))
    | .excluded term => inferInstanceAs (Decidable (¬ b.Matches term))
    | .filter p => inferInstanceAs (Decidable (p.holds b now = .ok true))
    | .negated p => inferInstanceAs (Decidable (p.holds b now = .ok false))

/-- The points of the bookmarks that are admitted. -/
def Item.points : Item → Nat
  | required _ => 2
  | optional _ => 1
  | _ => 0

variable {item : Item} {now : Timestamp} {b : Bookmark}

theorem passes_ofItems_singleton : (ofItems [item]).Passes now b ↔ item.Admits now b := by
  cases item <;>
    simp [Passes, FiltersPass, WordsPass, ofItems, Item.Admits, Item.required?, Item.optional?,
      Item.excluded?, Item.filter?, Item.negated?]

theorem points_ofItems_singleton (h : item.Admits now b) :
    (ofItems [item]).points b = item.points := by
  cases item with
  | optional term =>
    have hmatches : b.Matches term := h
    simp [points, ofItems, Item.required?, Item.optional?, Item.points, hmatches]
  | required _ | excluded _ | filter _ | negated _ => rfl

theorem bounded_of_words {spec : Spec} (hfilters : spec.filters = [])
    (hnegated : spec.negated = []) : spec.Bounded := by
  simp [Bounded, hfilters, hnegated]

/-- **Evaluating a query that asks for one thing.** -/
theorem evaluate_ofItems_singleton (item : Item) (h : (ofItems [item]).Bounded) (b : Bookmark)
    (now : Timestamp) : (ofItems [item]).evaluate b now =
      .ok (if item.Admits now b then some item.points else none) := by
  rw [evaluate_eq h]
  by_cases hb : item.Admits now b
  · rw [if_pos hb, if_pos (passes_ofItems_singleton.2 hb), points_ofItems_singleton hb]
  · rw [if_neg hb, if_neg (mt passes_ofItems_singleton.1 hb)]

end Spec

namespace Bookmark

variable (b : Bookmark) (now : Timestamp) (term : Text)

theorem evaluate_required : Spec.evaluate { Spec.empty with required := [term] } b now =
    .ok (if b.Matches term then some 2 else none) :=
  Spec.evaluate_ofItems_singleton (.required term) (Spec.bounded_of_words rfl rfl) b now

theorem evaluate_optional : Spec.evaluate { Spec.empty with optional := [term] } b now =
    .ok (if b.Matches term then some 1 else none) :=
  Spec.evaluate_ofItems_singleton (.optional term) (Spec.bounded_of_words rfl rfl) b now

theorem evaluate_excluded : Spec.evaluate { Spec.empty with excluded := [term] } b now =
    .ok (if b.Matches term then none else some 0) := by
  rw [← ite_not]
  exact Spec.evaluate_ofItems_singleton (.excluded term) (Spec.bounded_of_words rfl rfl) b now

end Bookmark

end Bookmarks
