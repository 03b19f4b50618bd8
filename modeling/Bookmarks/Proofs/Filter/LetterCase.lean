import Bookmarks.Proofs.Filter.Positions
import Bookmarks.Proofs.Query.LetterCase

/-!
# Filtering does not depend on the letter case

A query and a collection in another letter case, as far as ASCII letters go, give the same result:
the same positions of the collection are kept, in the same order and with the same scores. The
positions are computed from what is left of both when all these letters are made small.

* `Bookmark.SameLetters`, `Collection.SameLetters`: what differs in the letter case of ASCII letters
  at most.
* `Bookmark.small`: a bookmark with small ASCII letters.
* `Spec.passes_small`, `Spec.points_small`: what a query means for such bookmarks.
* `Spec.ranking_small`: the positions that it keeps.
* **`Filtered.ofQuery_letterCase`**: the result in another letter case.
-/

namespace Bookmarks

namespace Bookmark

/-- The bookmarks differ in the letter case of ASCII letters at most, and only in texts that are
searched or filtered. -/
structure SameLetters (a b : Bookmark) : Prop where
  url : a.url.SameLetters b.url
  title : Option.Rel Text.SameLetters a.title b.title
  description : Option.Rel Text.SameLetters a.description b.description
  notes : Option.Rel Text.SameLetters a.notes b.notes
  tags : List.Forall₂ Text.SameLetters a.tags b.tags
  added : a.added = b.added
  clicked : a.clicked = b.clicked
  last : a.last = b.last
  device : Option.Rel Text.SameLetters a.device b.device
  os : Option.Rel Text.SameLetters a.os b.os
  browser : Option.Rel Text.SameLetters a.browser b.browser
  userAgent : a.userAgent = b.userAgent

/-- The bookmark with small ASCII letters in the texts that are searched or filtered. -/
def small (b : Bookmark) : Bookmark :=
  { b with
    url := b.url.small
    title := b.title.map Text.small
    description := b.description.map Text.small
    notes := b.notes.map Text.small
    tags := b.tags.map Text.small
    device := b.device.map Text.small
    os := b.os.map Text.small
    browser := b.browser.map Text.small }

theorem SameLetters.small_eq {a b : Bookmark} (h : a.SameLetters b) : a.small = b.small := by
  have hoption : ∀ {s t : Option Text}, Option.Rel Text.SameLetters s t →
      s.map Text.small = t.map Text.small := by
    intro s t hst
    cases hst with
    | none => rfl
    | some h => exact congrArg some h.small_eq
  have htags : a.tags.map Text.small = b.tags.map Text.small :=
    Text.map_eq_of_forall₂ h.tags fun _ _ hst => hst.small_eq
  unfold small
  rw [h.url.small_eq, hoption h.title, hoption h.description, hoption h.notes, htags, h.added,
    h.clicked, h.last, hoption h.device, hoption h.os, hoption h.browser, h.userAgent]

/-! ## The texts of a bookmark -/

theorem spaced_small (parts : List Text) :
    Text.spaced (parts.map Text.small) = (Text.spaced parts).small := by
  refine (Text.map_spaced rfl (fun s rest => ?_) parts).symm
  rw [Text.small_append, Text.small_cons]
  rfl

theorem searchText_small (b : Bookmark) : b.small.searchText = b.searchText := by
  have htags : (b.tags.map Text.small).filter (!·.isEmpty) =
      (b.tags.filter (!·.isEmpty)).map Text.small := by
    have hempty : (fun t : Text => !t.isEmpty) ∘ Text.small = fun t => !t.isEmpty :=
      funext fun t => congrArg (!·) (Text.isEmpty_small t)
    rw [List.filter_map, hempty]
  have hoption : ∀ s : Option Text, (s.map Text.small).getD [] = Text.small (s.getD []) :=
    fun s => by cases s <;> rfl
  have hparts : b.small.searchParts = b.searchParts.map Text.small := by
    unfold searchParts small
    dsimp only
    rw [htags, hoption, hoption, hoption, spaced_small, List.map_map]
    have hsign : (CodePoint.char '#' :: ·) ∘ Text.small =
        Text.small ∘ (CodePoint.char '#' :: ·) := rfl
    rw [hsign, ← List.map_map, spaced_small]
    rfl
  rw [searchText, hparts, spaced_small, Text.lower_small, searchText]

end Bookmark

/-! ## Filters -/

theorem mentions_small (text value : Text) :
    mentions text.small value.small = mentions text value := by
  rw [mentions, Text.lower_small, Text.lower_small, mentions]

namespace Predicate

theorem labelHolds_small (text : Option Text) (value : Text) :
    labelHolds (text.map Text.small) value.small = labelHolds text value := by
  cases text with
  | none => rfl
  | some text =>
    rw [Option.map_some, labelHolds, labelHolds, Text.isEmpty_small, Text.isEmpty_small,
      mentions_small]

theorem tagHolds_small (tags : List Text) (value : Text) :
    tagHolds (tags.map Text.small) value.small = tagHolds tags value := by
  have hmentions : (fun tag => mentions tag value.small) ∘ Text.small =
      fun tag => mentions tag value := funext fun tag => mentions_small tag value
  rw [tagHolds, Text.isEmpty_small, List.any_map, hmentions, tagHolds]

theorem holds_small (p : Predicate) (b : Bookmark) (now : Timestamp) :
    p.small.holds b.small now = p.holds b now := by
  cases p with
  | label l value =>
    have hlabel : b.small.label l = (b.label l).map Text.small := by cases l <;> rfl
    change Except.ok (labelHolds (b.small.label l) value.small) = .ok (labelHolds (b.label l) value)
    rw [hlabel, labelHolds_small]
  | tag value => exact congrArg Except.ok (tagHolds_small b.tags value)
  | age event op days => cases event <;> cases op <;> cases days <;> rfl
  | other => rfl

end Predicate

/-! ## Queries -/

namespace Spec

variable (spec : Spec) (b : Bookmark)

theorem hasTerms_small : spec.small.hasTerms = spec.hasTerms := by
  simp [hasTerms, small, List.isEmpty_map]

theorem matches_small (term : Text) : b.small.Matches term.small ↔ b.Matches term := by
  rw [Bookmark.Matches, Text.lower_small, Bookmark.searchText_small, Bookmark.Matches]

theorem passes_small (now : Timestamp) : spec.small.Passes now b.small ↔ spec.Passes now b := by
  simp only [Passes, FiltersPass, WordsPass, small, Predicate.holds_small,
    matches_small, ne_eq, List.map_eq_nil_iff, List.mem_map, forall_exists_index, and_imp,
    forall_apply_eq_imp_iff₂, exists_exists_and_eq_and]

theorem points_small : spec.small.points b.small = spec.points b := by
  have hmatches : (fun t => decide (b.small.Matches t)) ∘ Text.small =
      fun t => decide (b.Matches t) :=
    funext fun t => decide_eq_decide.2 (matches_small b t)
  simp only [points, small, List.length_map, List.countP_map, hmatches]

theorem score?_small : spec.small.score? b.small = spec.score? b := by
  rw [score?, hasTerms_small, points_small, score?]

/-! ## Positions -/

variable (bs : List Bookmark)

theorem bind_score?_small (i : Nat) :
    ((bs.map Bookmark.small)[i]?).bind spec.small.score? = (bs[i]?).bind spec.score? := by
  rw [List.getElem?_map]
  cases bs[i]? with
  | none => rfl
  | some b => exact score?_small spec b

theorem ranking_small (now : Timestamp) :
    spec.small.ranking now (bs.map Bookmark.small) = spec.ranking now bs := by
  have hpasses : ∀ i, ((bs.map Bookmark.small)[i]?).any (fun b => spec.small.Passes now b) =
      (bs[i]?).any fun b => spec.Passes now b := fun i => by
    rw [List.getElem?_map]
    cases bs[i]? with
    | none => rfl
    | some b => exact decide_eq_decide.2 (passes_small spec b now)
  unfold ranking
  simp only [bind_score?_small, hpasses, List.length_map]

end Spec

/-- The collections have bookmarks at the same positions that differ in the letter case of ASCII
letters at most. -/
def Collection.SameLetters (c c' : Collection) : Prop :=
  List.Forall₂ (fun e e' : Entry => e.bookmark.SameLetters e'.bookmark) c.entries c'.entries

namespace Filtered

/-- **A query and a collection in another letter case give the same result**: the same positions in
the same order, with the same scores, or none at all in both. -/
theorem ofQuery_letterCase {q q' : Text} (hq : q.SameLetters q') {c c' : Collection}
    (hc : c.SameLetters c') (now : Timestamp) :
    ∃ (r r' : Filtered) (positions : List Nat),
      ofQuery q c.entries now = .ok r ∧ ofQuery q' c'.entries now = .ok r' ∧ positions.Nodup ∧
      r.data.map some = (positions.map fun i => c.entries[i]?) ∧
      r'.data.map some = (positions.map fun i => c'.entries[i]?) ∧
      (r.data.map fun e => r.scores.of? e.bookmark) =
        (r'.data.map fun e => r'.scores.of? e.bookmark) ∧
      (r.scores = [] ↔ r'.scores = []) := by
  obtain ⟨r, hr, hranks⟩ := exists_ranks q c now
  obtain ⟨r', hr', hranks'⟩ := exists_ranks q' c' now
  have hspec : (Spec.parse q).small = (Spec.parse q').small := by
    rw [← Spec.parse_small, ← Spec.parse_small, hq.small_eq]
  have hbookmarks : (c.entries.map Entry.bookmark).map Bookmark.small =
      (c'.entries.map Entry.bookmark).map Bookmark.small := by
    rw [List.map_map, List.map_map]
    exact Text.map_eq_of_forall₂ hc fun _ _ h => h.small_eq
  have hranking : (Spec.parse q).ranking now (c.entries.map Entry.bookmark) =
      (Spec.parse q').ranking now (c'.entries.map Entry.bookmark) := by
    rw [← Spec.ranking_small, hspec, hbookmarks, Spec.ranking_small]
  have hdata := hranks.map_some_data
  rw [hranking] at hdata
  have hterms : (Spec.parse q).hasTerms = (Spec.parse q').hasTerms := by
    rw [← Spec.hasTerms_small, hspec, Spec.hasTerms_small]
  refine ⟨r, r', _, hr, hr', Spec.nodup_ranking _ _ now, hdata, hranks'.map_some_data, ?_, ?_⟩
  · rw [hranks.map_scores_data, hranks'.map_scores_data, hranking]
    refine List.map_congr_left fun i _ => ?_
    rw [← Spec.bind_score?_small, hspec, hbookmarks, Spec.bind_score?_small]
  · have hlength : r.data.length = r'.data.length := by
      have hsame := congrArg List.length hdata
      have hsame' := congrArg List.length hranks'.map_some_data
      rw [List.length_map, List.length_map] at hsame hsame'
      exact hsame.trans hsame'.symm
    rw [hranks.scores_eq_nil_iff, hranks'.scores_eq_nil_iff, hterms, ← List.length_eq_zero_iff,
      ← List.length_eq_zero_iff, hlength]

/-- The letters around a capital sigma are switched in the query and in the address. -/
theorem ofQuery_letterCase_sigma :
    let q : Text := "+oΣa -Tag:x"
    let q' : Text := "+OΣA -tAG:X"
    let c := Collection.ofBookmarks [Bookmark.ofUrl "a.org", Bookmark.ofUrl "b.org/oΣa"]
    let c' := Collection.ofBookmarks [Bookmark.ofUrl "A.org", Bookmark.ofUrl "B.ORG/OΣa"]
    q.SameLetters q' ∧ c.SameLetters c' ∧
      ∃ (r r' : Filtered) (positions : List Nat),
        ofQuery q c.entries .epoch = .ok r ∧ ofQuery q' c'.entries .epoch = .ok r' ∧
        r.data.map some = (positions.map fun i => c.entries[i]?) ∧
        r'.data.map some = (positions.map fun i => c'.entries[i]?) ∧
        (r.data.map fun e => r.scores.of? e.bookmark) =
          (r'.data.map fun e => r'.scores.of? e.bookmark) ∧
        (r.data.map fun e => r.scores.of? e.bookmark) = [some 2] := by
  intro q q' c c'
  have hq : q.SameLetters q' := by decide +kernel
  have hurl : ∀ {url url' : Text}, url.SameLetters url' →
      (Bookmark.ofUrl url).SameLetters (Bookmark.ofUrl url') := fun h =>
    ⟨h, .none, .none, .none, .nil, rfl, rfl, rfl, .none, .none, .none, rfl⟩
  have hc : c.SameLetters c' :=
    .cons (hurl (by decide +kernel)) (.cons (hurl (by decide +kernel)) .nil)
  obtain ⟨r, r', positions, hr, hr', -, hdata, hdata', hscores, -⟩ :=
    ofQuery_letterCase hq hc .epoch
  have hresult : (ofQuery q c.entries .epoch).map
      (fun r => r.data.map fun e => r.scores.of? e.bookmark) = .ok [some 2] := by decide +kernel
  rw [hr] at hresult
  exact ⟨hq, hc, r, r', positions, hr, hr', hdata, hdata', hscores, Except.ok.inj hresult⟩

end Filtered

end Bookmarks
