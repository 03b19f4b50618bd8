import Bookmarks.Proofs.Fault
import Bookmarks.Server.Answer
import Mathlib.Data.List.Forall2

/-!
# How bookmarks are listed

The tools list bookmarks as objects. Such an object has all that is stored of its bookmark, a line
on where the bookmark was saved if that is known, and what a tool adds: the score for a query, or
the relevance in words.

* `Json.field?`, `Answer.field?`, `Answer.results`: what a value and an answer say.
* `Bookmark.origin?`: where a bookmark was saved.
* `Json.Shows`: a value shows a bookmark, and `Json.Shows.map_url` reads off the addresses.
* `Json.SaysRelevance`: a value says how relevant a bookmark is.
* **`Answer.shows_bookmarkFields`**: the fields by which a bookmark is listed show it.
* `Answer.shows_ofFound`, `Answer.shows_of_ofRanked`: the values that are listed.
-/

namespace Bookmarks

/-- Where a bookmark was saved, in words, if one of its labels is known. An empty label is not. -/
def Bookmark.origin? (b : Bookmark) : Option Text :=
  let word := fun label : Option Text =>
    if label.getD [] = [] then Text.ofString "Unknown" else label.getD []
  if b.browser.getD [] = [] ∧ b.os.getD [] = [] ∧ b.device.getD [] = [] then none
  else some (word b.browser ++ " on " ++ word b.os ++ " (" ++ word b.device ++ ")")

namespace Json

/-- The value of a field, if the value is an object that has it. -/
def field? (name : String) : Json → Option Json
  | object fields => Table.get? (Text.ofString name) fields
  | _ => none

/-- **The value shows a bookmark**: all that is stored of it, and where it was saved. -/
structure Shows (value : Json) (b : Bookmark) : Prop where
  url : value.field? "url" = some (.string b.url)
  title : value.field? "title" = some (b.title.elim .null .string)
  description : value.field? "description" = some (b.description.elim .null .string)
  notes : value.field? "notes" = some (b.notes.elim .null .string)
  tags : value.field? "tags" = some (.array (b.tags.map .string))
  added : value.field? "added" = some (b.added.elim .null fun t => .string t.text)
  clicked : value.field? "clicked" = some (.number (.int b.clicked))
  last : value.field? "last" = some (b.last.elim .null fun t => .string t.text)
  device : value.field? "device" = some (b.device.elim .null .string)
  os : value.field? "os" = some (b.os.elim .null .string)
  browser : value.field? "browser" = some (b.browser.elim .null .string)
  savedFrom : value.field? "saved_from" = b.origin?.map .string

/-- The value says how relevant a bookmark is: its score with three places, and some facts. -/
def SaysRelevance (config : RelevanceConfig) (now : Timestamp) (value : Json) (b : Bookmark) :
    Prop :=
  ∃ (score : Binary64) (facts words : String),
    b.relevance config now = .ok score ∧ b.explainRelevance config now = .ok words ∧
      words = "Score: " ++ score.fixed 3 ++ " (" ++ facts ++ ")" ∧
      value.field? "relevance" = some (.string words)

theorem Shows.map_url {values : List Json} {bookmarks : List Bookmark}
    (h : List.Forall₂ Shows values bookmarks) :
    values.map (field? "url") = bookmarks.map fun b => some (.string b.url) := by
  induction h with
  | nil => rfl
  | cons hshows _ ih => rw [List.map_cons, List.map_cons, hshows.url, ih]

end Json

namespace Answer

/-- The value of a field of an answer. -/
def field? (name : String) : Answer → Option Json
  | document value => value.field? name
  | line _ => none

/-- The bookmarks that an answer lists. -/
def results (a : Answer) : List Json :=
  match a.field? "results" with
  | some (.array items) => items
  | _ => []

theorem savedFrom_eq (b : Bookmark) : savedFrom b =
    (b.origin?.map fun line => (Text.ofString "saved_from", Json.string line)).toList := by
  have hknown : ∀ label : Option Text, label.any (!·.isEmpty) = !decide (label.getD [] = []) := by
    rintro (_ | _ | ⟨c, rest⟩) <;> rfl
  have hshown : ∀ label : Option Text,
      (if label.any (!·.isEmpty) then label.getD [] else UserAgent.unknown) =
        if label.getD [] = [] then Text.ofString "Unknown" else label.getD [] := by
    rintro (_ | _ | ⟨c, rest⟩) <;> rfl
  unfold savedFrom Bookmark.origin?
  simp only [hshown]
  by_cases h : b.browser.getD [] = [] ∧ b.os.getD [] = [] ∧ b.device.getD [] = []
  · rw [if_pos h, hknown, hknown, hknown, h.1, h.2.1, h.2.2]
    rfl
  · have hany : (b.browser.any (!·.isEmpty) || b.os.any (!·.isEmpty) ||
        b.device.any (!·.isEmpty)) = true := by
      simpa [hknown, or_iff_not_imp_left] using h
    rw [if_neg h, if_pos hany]
    rfl

/-- **The fields by which a bookmark is listed show it**, whatever stands behind them. -/
theorem shows_bookmarkFields (b : Bookmark) {more : Table Text Json}
    (hmore : more.get? (Text.ofString "saved_from") = none) :
    (Json.object (bookmarkFields b ++ more)).Shows b := by
  have htext : ∀ s, Record.ofText s = s.elim .null .string := by rintro (_ | s) <;> rfl
  have htime : ∀ t, Record.ofTime t = t.elim .null fun t => .string t.text := by
    rintro (_ | t) <;> rfl
  exact {
    url := rfl
    title := congrArg some (htext b.title)
    description := congrArg some (htext b.description)
    notes := congrArg some (htext b.notes)
    tags := rfl
    added := congrArg some (htime b.added)
    clicked := rfl
    last := congrArg some (htime b.last)
    device := congrArg some (htext b.device)
    os := congrArg some (htext b.os)
    browser := congrArg some (htext b.browser)
    savedFrom := by
      change Table.get? (Text.ofString "saved_from") (savedFrom b ++ more) = _
      rw [savedFrom_eq]
      cases b.origin? with
      | none => exact hmore
      | some line => rfl }

/-- What a tool adds is found behind these fields. -/
theorem field?_added (b : Bookmark) {name : String} (more : Table Text Json)
    (hrecord : b.recordFields.get? (Text.ofString name) = none)
    (hname : Text.ofString "saved_from" ≠ Text.ofString name) :
    (Json.object (bookmarkFields b ++ more)).field? name = more.get? (Text.ofString name) := by
  have hsaved : (savedFrom b).get? (Text.ofString name) = none := by
    rw [savedFrom_eq]
    cases b.origin? with
    | none => rfl
    | some line => exact if_neg hname
  change Table.get? _ (b.recordFields ++ savedFrom b ++ more) = _
  rw [Table.get?_append, Table.get?_append, hrecord, hsaved]
  rfl

theorem shows_ofFound (scores : Scores) (b : Bookmark) : (ofFound scores b).Shows b := by
  refine shows_bookmarkFields b ?_
  cases scores.of? b <;> rfl

theorem field?_ofFound (scores : Scores) (b : Bookmark) :
    (ofFound scores b).field? "score" = (scores.of? b).map integer := by
  refine (field?_added b _ rfl (by decide)).trans ?_
  cases scores.of? b <;> rfl

theorem shows_of_ofRanked {config : RelevanceConfig} {now : Timestamp} {b : Bookmark} {value : Json}
    (h : ofRanked config now b = .ok value) :
    value.Shows b ∧ Json.SaysRelevance config now value b := by
  obtain ⟨words, hwords, h⟩ := Fault.bind_eq_ok.1 h
  obtain rfl := Except.ok.inj h
  obtain ⟨score, hscore, hfacts⟩ := Fault.bind_eq_ok.1 hwords
  obtain rfl := Except.ok.inj hfacts
  exact ⟨shows_bookmarkFields b rfl, score, _, _, hscore, hwords, rfl,
    field?_added b _ rfl (by decide)⟩

end Answer

end Bookmarks
