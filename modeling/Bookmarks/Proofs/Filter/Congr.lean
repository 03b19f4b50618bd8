import Bookmarks.Filter.Evaluate

/-!
# Equal bookmarks pass the same queries

Bookmarks that count as equal may write their times with different offsets. No filter looks at an
offset, so equal bookmarks pass the same filters, have the same search text, and get the same score.

* `Bookmark.label_congr`, `Bookmark.visited_congr`: what the filters look at.
* `Predicate.holds_congr`, `Bookmark.searchText_congr`: the filters and the words.
* **`Spec.evaluate_congr`**: equal bookmarks have equal scores.
-/

namespace Bookmarks

theorem Timestamp.daysUntil_congr {s t : Timestamp} (h : s.moment = t.moment) (now : Timestamp) :
    s.daysUntil now = t.daysUntil now := by
  unfold daysUntil
  rw [show s.instant = t.instant from congrArg Moment.instant h]

variable {a b : Bookmark} (h : a.key = b.key)
include h

theorem Bookmark.label_congr (l : Label) : a.label l = b.label l := by
  cases l with
  | device => exact congrArg BookmarkKey.device h
  | os => exact congrArg BookmarkKey.os h
  | browser => exact congrArg BookmarkKey.browser h

theorem Bookmark.visited_congr :
    a.visited.map Timestamp.moment = b.visited.map Timestamp.moment := by
  have hadded : a.added.map Timestamp.moment = b.added.map Timestamp.moment :=
    congrArg BookmarkKey.added h
  have hlast : a.last.map Timestamp.moment = b.last.map Timestamp.moment :=
    congrArg BookmarkKey.last h
  unfold Bookmark.visited
  cases ha : a.last with
  | none =>
    rw [ha, Option.map_none, eq_comm, Option.map_eq_none_iff] at hlast
    rw [hlast]
    exact hadded
  | some t =>
    rw [ha, Option.map_some, eq_comm, Option.map_eq_some_iff] at hlast
    obtain ⟨s, hs, hst⟩ := hlast
    rw [hs]
    exact congrArg some hst.symm

namespace Predicate

omit h in
theorem elapsedHolds_congr {s t : Option Timestamp}
    (h : s.map Timestamp.moment = t.map Timestamp.moment) (op : Operator) (days : Int)
    (now : Timestamp) : elapsedHolds s op days now = elapsedHolds t op days now := by
  cases s with
  | none => rw [Option.map_eq_none_iff.1 h.symm]
  | some s =>
    obtain ⟨t, rfl, ht⟩ := Option.map_eq_some_iff.1 h.symm
    change op.compare (.real (s.daysUntil now)) _ = op.compare (.real (t.daysUntil now)) _
    rw [Timestamp.daysUntil_congr ht]

theorem holds_congr (p : Predicate) (now : Timestamp) : p.holds a now = p.holds b now := by
  cases p with
  | label l value =>
    change Except.ok (labelHolds (a.label l) value) = .ok (labelHolds (b.label l) value)
    rw [Bookmark.label_congr h]
  | tag value =>
    change Except.ok (tagHolds a.tags value) = .ok (tagHolds b.tags value)
    rw [show a.tags = b.tags from congrArg BookmarkKey.tags h]
  | other => rfl
  | age event op days =>
    rcases op with _ | op
    · cases event <;> rfl
    rcases days with _ | n
    · cases event <;> rfl
    cases event with
    | added => exact elapsedHolds_congr (congrArg BookmarkKey.added h) op n now
    | clicked =>
      change clickedHolds a op n now = clickedHolds b op n now
      unfold clickedHolds
      rw [show a.clicked = b.clicked from congrArg BookmarkKey.clicked h,
        elapsedHolds_congr (Bookmark.visited_congr h)]

end Predicate

theorem Bookmark.searchText_congr : a.searchText = b.searchText := by
  unfold searchText searchParts
  rw [show a.url = b.url from congrArg BookmarkKey.url h,
    show a.title = b.title from congrArg BookmarkKey.title h,
    show a.description = b.description from congrArg BookmarkKey.description h,
    show a.notes = b.notes from congrArg BookmarkKey.notes h,
    show a.tags = b.tags from congrArg BookmarkKey.tags h]

namespace Spec

theorem allHold_congr (now : Timestamp) (ps : List Predicate) :
    allHold a now ps = allHold b now ps := by
  induction ps with
  | nil => rfl
  | cons p ps ih => rw [allHold, allHold, p.holds_congr h, ih]

theorem noneHolds_congr (now : Timestamp) (ps : List Predicate) :
    noneHolds a now ps = noneHolds b now ps := by
  induction ps with
  | nil => rfl
  | cons p ps ih => rw [noneHolds, noneHolds, p.holds_congr h, ih]

/-- **Equal bookmarks have equal scores.** -/
theorem evaluate_congr (spec : Spec) (now : Timestamp) :
    spec.evaluate a now = spec.evaluate b now := by
  unfold evaluate admits
  rw [allHold_congr h, noneHolds_congr h, Bookmark.searchText_congr h]

end Spec

end Bookmarks
