import Bookmarks.Filter.Basic
import Bookmarks.Proofs.Filter.Congr
import Bookmarks.Proofs.Filter.Meaning

/-!
# A pass over a collection

What is known after each entry of a pass: the search texts kept so far are right, the survivors are
the entries so far that pass the query, and the scores are those of the survivors. One more entry
keeps this (`Pass.After.visit`), so it holds at the end (**`Pass.exists_after`**).

* `Collection`: entries of which those with one number are one entry.
* `SearchTexts.Remembers`: the texts that are kept are the search texts of the entries.
* `Spec.evaluateWith_eq`: keeping search texts does not change a score.
* `Scores.Records`: the scores of some survivors, one for each value among them.
* **`Spec.filter_eq_rank`**: filtering ranks the survivors of a pass, with or without its shortcuts.
-/

namespace Bookmarks

/-- A collection of entries. An entry may stand in it more than once, but different entries have
different numbers. -/
structure Collection where
  entries : List Entry
  eq_of_id_eq : ∀ e ∈ entries, ∀ f ∈ entries, e.id = f.id → e = f

/-- The collection of some bookmarks, each of them an entry of its own. -/
def Collection.ofBookmarks (bs : List Bookmark) : Collection where
  entries := Entry.number bs
  eq_of_id_eq e he f hf heq := by
    simp only [Entry.number, List.mem_map, List.mem_zipIdx_iff_getElem?, Prod.exists] at he hf
    obtain ⟨a, i, ha, rfl⟩ := he
    obtain ⟨b, j, hb, rfl⟩ := hf
    obtain rfl : i = j := heq
    rw [ha] at hb
    rw [Option.some.inj hb]

/-! ## Search texts -/

namespace SearchTexts

/-- The texts that are kept are the search texts of the entries. -/
def Remembers (texts : SearchTexts) (c : Collection) : Prop :=
  ∀ e ∈ c.entries, ∀ text, texts.lookup e.id = some text → text = e.bookmark.searchText

theorem remembers_nil (c : Collection) : Remembers [] c := by
  intro e _ text h
  cases h

variable {texts : SearchTexts} {c : Collection} {e : Entry}

theorem fetch_fst (h : texts.Remembers c) (he : e ∈ c.entries) :
    (texts.fetch e).1 = e.bookmark.searchText := by
  unfold fetch
  cases hl : texts.lookup e.id with
  | none => rfl
  | some text => exact h e he text hl

theorem Remembers.fetch (h : texts.Remembers c) (he : e ∈ c.entries) :
    (texts.fetch e).2.Remembers c := by
  unfold SearchTexts.fetch
  cases hl : texts.lookup e.id with
  | some text => exact h
  | none =>
    intro f hf text htext
    change List.lookup f.id ((e.id, e.bookmark.searchText) :: texts) = some text at htext
    by_cases hid : f.id = e.id
    · rw [List.lookup_cons, hid, beq_self_eq_true, Option.some.injEq] at htext
      rw [c.eq_of_id_eq f hf e he hid]
      exact htext.symm
    · rw [List.lookup_cons, beq_false_of_ne hid] at htext
      exact h f hf text htext

end SearchTexts

namespace Spec

/-- **Keeping search texts does not change a score**, nor whether evaluating succeeds. -/
theorem evaluateWith_eq {texts : SearchTexts} {c : Collection} (h : texts.Remembers c) {e : Entry}
    (he : e ∈ c.entries) (spec : Spec) (now : Timestamp) :
    ∃ texts' : SearchTexts, texts'.Remembers c ∧
      spec.evaluateWith e now texts = (spec.evaluate e.bookmark now).map fun s => (s, texts') := by
  unfold evaluateWith evaluate
  cases spec.admits e.bookmark now with
  | error fault => exact ⟨texts, h, rfl⟩
  | ok admitted =>
    cases admitted with
    | false => exact ⟨texts, h, rfl⟩
    | true =>
      cases spec.hasTerms with
      | false => exact ⟨texts, h, rfl⟩
      | true =>
        refine ⟨(texts.fetch e).2, h.fetch he, ?_⟩
        rw [← SearchTexts.fetch_fst h he]
        rfl

end Spec

/-! ## Scores -/

theorem Spec.passes_congr {a b : Bookmark} (h : a.key = b.key) (spec : Spec) (now : Timestamp) :
    spec.Passes now a ↔ spec.Passes now b := by
  simp only [Passes, FiltersPass, WordsPass, Bookmark.Matches, Bookmark.searchText_congr h,
    Predicate.holds_congr h]

theorem Spec.points_congr {a b : Bookmark} (h : a.key = b.key) (spec : Spec) :
    spec.points a = spec.points b := by
  have hmatches : ∀ t, a.Matches t ↔ b.Matches t := fun t => by
    unfold Bookmark.Matches
    rw [Bookmark.searchText_congr h]
  simp only [Spec.points, hmatches]

/-- The scores are those of the survivors, one for each value among them. -/
structure Scores.Records (scores : Scores) (spec : Spec) (survivors : List Entry) : Prop where
  nodup : scores.keys.Nodup
  get?_eq_some_iff : ∀ k n, scores.get? k = some n ↔
    ∃ e ∈ survivors, e.bookmark.key = k ∧ (spec.points e.bookmark : Int) = n

namespace Scores.Records

variable {scores : Scores} {spec : Spec} {survivors : List Entry}

theorem nil (spec : Spec) : Records [] spec [] where
  nodup := List.nodup_nil
  get?_eq_some_iff k n := by simp

theorem assign (h : scores.Records spec survivors) (e : Entry) :
    (scores.assign e.bookmark (spec.points e.bookmark)).Records spec (survivors ++ [e]) where
  nodup := Table.nodup_keys_set _ _ h.nodup
  get?_eq_some_iff k n := by
    unfold Scores.assign
    rw [Table.get?_set]
    by_cases hk : k = e.bookmark.key
    · -- a score that is overwritten does not change, since equal bookmarks have equal points
      rw [if_pos hk, Option.some.injEq]
      constructor
      · intro hn
        exact ⟨e, by simp, hk.symm, hn⟩
      · rintro ⟨f, -, hf, hn⟩
        rwa [Spec.points_congr (hf.trans hk)] at hn
    · rw [if_neg hk, h.get?_eq_some_iff]
      constructor
      · rintro ⟨f, hf, hfk⟩
        exact ⟨f, List.mem_append_left _ hf, hfk⟩
      · rintro ⟨f, hf, hfk, hn⟩
        rcases List.mem_append.1 hf with hf | hf
        · exact ⟨f, hf, hfk, hn⟩
        · rw [List.mem_singleton.1 hf] at hfk
          exact absurd hfk.symm hk

end Scores.Records

/-! ## The pass -/

/-- What is known after the entries `seen`. -/
structure Pass.After (spec : Spec) (now : Timestamp) (c : Collection) (seen : List Entry)
    (pass : Pass) : Prop where
  texts : pass.texts.Remembers c
  survivors : pass.survivors = seen.filter fun e => spec.Passes now e.bookmark
  scores : spec.hasTerms = true → pass.scores.Records spec pass.survivors
  noScores : spec.hasTerms = false → pass.scores = []

namespace Pass

variable {spec : Spec} {now : Timestamp} {c : Collection}

theorem After.start : After spec now c [] ⟨[], [], []⟩ where
  texts := SearchTexts.remembers_nil c
  survivors := rfl
  scores _ := Scores.Records.nil spec
  noScores _ := rfl

theorem After.visit (h : spec.Bounded) {seen : List Entry} {pass : Pass}
    (hp : After spec now c seen pass) {e : Entry} (he : e ∈ c.entries) :
    ∃ pass', spec.visit now pass e = .ok pass' ∧ After spec now c (seen ++ [e]) pass' := by
  obtain ⟨texts, htexts, heq⟩ := Spec.evaluateWith_eq hp.texts he spec now
  rw [Spec.evaluate_eq h] at heq
  unfold Spec.visit
  rw [heq]
  by_cases hpass : spec.Passes now e.bookmark
  · rw [if_pos hpass]
    refine ⟨_, rfl, ⟨htexts, ?_, fun hterms => ?_, fun hterms => ?_⟩⟩
    · simp [hp.survivors, hpass]
    · simp only [hterms, if_true]
      exact (hp.scores hterms).assign e
    · simp only [hterms, Bool.false_eq_true, if_false]
      exact hp.noScores hterms
  · rw [if_neg hpass]
    refine ⟨_, rfl, ⟨htexts, ?_, hp.scores, hp.noScores⟩⟩
    simp [hp.survivors, hpass]

theorem After.foldlM_visit (h : spec.Bounded) {seen : List Entry} {pass : Pass}
    (hp : After spec now c seen pass) {entries : List Entry} (he : ∀ e ∈ entries, e ∈ c.entries) :
    ∃ pass', entries.foldlM (spec.visit now) pass = .ok pass' ∧
      After spec now c (seen ++ entries) pass' := by
  induction entries generalizing seen pass with
  | nil => exact ⟨pass, rfl, by rwa [List.append_nil]⟩
  | cons e entries ih =>
    obtain ⟨pass₁, hvisit, hp₁⟩ := hp.visit h (he e List.mem_cons_self)
    obtain ⟨pass₂, hrest, hp₂⟩ := ih hp₁ fun f hf => he f (List.mem_cons_of_mem e hf)
    refine ⟨pass₂, ?_, by rwa [List.append_assoc] at hp₂⟩
    rw [List.foldlM_cons, hvisit]
    exact hrest

/-- **A pass over a collection succeeds, and what is known after it.** -/
theorem exists_after (h : spec.Bounded) (now : Timestamp) (c : Collection) :
    ∃ pass, c.entries.foldlM (spec.visit now) ⟨[], [], []⟩ = .ok pass ∧
      After spec now c c.entries pass :=
  After.start.foldlM_visit h fun _ he => he

end Pass

namespace Spec

theorem passes_of_isEmpty {spec : Spec} (h : spec.isEmpty = true) (now : Timestamp)
    (b : Bookmark) : spec.hasTerms = false ∧ spec.Passes now b := by
  have hempty : spec.hasTerms = false ∧ spec.filters = [] ∧ spec.negated = [] := by
    simpa [isEmpty, and_assoc] using h
  refine ⟨hempty.1, ?_, (wordsPass_of_hasTerms_eq_false hempty.1 b).1⟩
  simp [FiltersPass, hempty.2]

/-- **Filtering ranks the survivors of a pass.** The shortcuts for an empty collection and for a
query that asks for nothing give what a pass would give. -/
theorem filter_eq_rank {spec : Spec} (h : spec.Bounded) (c : Collection) (now : Timestamp) :
    ∃ pass,
      spec.filter c.entries now = .ok ⟨rank pass.scores pass.survivors, spec, [], pass.scores⟩ ∧
      Pass.After spec now c c.entries pass := by
  unfold Spec.filter
  by_cases hempty : c.entries.isEmpty || spec.isEmpty
  · rw [if_pos hempty]
    refine ⟨⟨[], c.entries, []⟩, rfl, SearchTexts.remembers_nil c, ?_, fun hterms => ?_,
      fun _ => rfl⟩
    · refine (List.filter_eq_self.2 fun e he => ?_).symm
      rcases Bool.or_eq_true_iff.1 hempty with hnil | hspec
      · rw [List.isEmpty_iff.1 hnil] at he
        exact absurd he List.not_mem_nil
      · exact decide_eq_true (passes_of_isEmpty hspec now e.bookmark).2
    · rcases Bool.or_eq_true_iff.1 hempty with hnil | hspec
      · rw [List.isEmpty_iff.1 hnil]
        exact Scores.Records.nil spec
      · rw [(passes_of_isEmpty hspec now (Bookmark.ofUrl [])).1] at hterms
        exact absurd hterms Bool.false_ne_true
  · rw [if_neg hempty]
    obtain ⟨pass, hpass, hafter⟩ := Pass.exists_after h now c
    refine ⟨pass, ?_, hafter⟩
    rw [hpass]
    rfl

end Spec

end Bookmarks
