import Bookmarks.Proofs.Filter.Pass

/-!
# Search texts that are kept

Search texts are kept by the numbers of entries, whatever the bookmarks are. However often and in
whatever order texts are asked for, alone or by queries, the texts that are kept are those of the
entries that were asked for, each of them once, and no answer depends on them.

* `SearchTexts.Use`: a text is fetched, or a query is evaluated; `Use.asked?` is the entry whose text
  is asked for by it.
* `SearchTexts.after`: the texts after some uses.
* `SearchTexts.AreOf`: the texts are those of the entries that were asked for. `AreOf.fetch` and
  `AreOf.step` are about a single use, `AreOf.foldl_step` is about any number of them.
* **`SearchTexts.serves_after`**: what the texts are good for after any uses.
-/

namespace Bookmarks

namespace Spec

/-- The query looks at the texts of a bookmark: it has words, and its filters admit the bookmark. -/
def AsksText (spec : Spec) (b : Bookmark) (now : Timestamp) : Prop :=
  spec.hasTerms = true ∧ spec.admits b now = .ok true

instance (spec : Spec) (b : Bookmark) (now : Timestamp) : Decidable (spec.AsksText b now) := by
  unfold AsksText
  infer_instance

variable {spec : Spec} {e : Entry} {now : Timestamp} {texts : SearchTexts}

theorem evaluateWith_of_asksText (h : spec.AsksText e.bookmark now) :
    spec.evaluateWith e now texts =
      .ok (spec.scoreText (texts.fetch e).1, (texts.fetch e).2) := by
  rw [evaluateWith, h.2, h.1]
  rfl

theorem evaluateWith_of_not_asksText (h : ¬ spec.AsksText e.bookmark now) :
    spec.evaluateWith e now texts = (spec.evaluate e.bookmark now).map (·, texts) := by
  unfold evaluateWith evaluate
  cases hadmits : spec.admits e.bookmark now with
  | error fault => rfl
  | ok admitted =>
    cases admitted with
    | false => rfl
    | true =>
      cases hterms : spec.hasTerms with
      | false => rfl
      | true => exact absurd ⟨hterms, hadmits⟩ h

end Spec

namespace SearchTexts

/-! ## Uses -/

/-- A use of the texts that are kept: the text of an entry is fetched, or a query is evaluated on
it. -/
inductive Use where
  | fetch (e : Entry)
  | evaluate (spec : Spec) (e : Entry) (now : Timestamp)

namespace Use

/-- The entry that is looked at. -/
def entry : Use → Entry
  | fetch e => e
  | evaluate _ e _ => e

/-- The entry whose text is asked for, if it is. -/
def asked? : Use → Option Entry
  | fetch e => some e
  | evaluate spec e now => if spec.AsksText e.bookmark now then some e else none

end Use

/-- The texts after a use. Only filters can fail, and they come before any text is asked for. -/
def step (texts : SearchTexts) : Use → SearchTexts
  | .fetch e => (texts.fetch e).2
  | .evaluate spec e now =>
    match spec.evaluateWith e now texts with
    | .ok (_, texts) => texts
    | .error _ => texts

/-- The texts after some uses. -/
def after (uses : List Use) : SearchTexts :=
  uses.foldl step []

/-- **What the texts are good for**, after the texts of the entries `asked` were asked for. -/
structure Serves (texts : SearchTexts) (c : Collection) (asked : List Entry) : Prop where
  /-- One text is kept for each of these entries, also where they have equal bookmarks. -/
  size : texts.length = asked.toFinset.card
  fetch : ∀ e ∈ c.entries, (texts.fetch e).1 = e.bookmark.searchText
  /-- Queries get the scores that they get without the texts, and the same faults. -/
  evaluate : ∀ e ∈ c.entries, ∀ (spec : Spec) (now : Timestamp),
    (spec.evaluateWith e now texts).map Prod.fst = spec.evaluate e.bookmark now
  /-- Without words, and for a bookmark that the filters reject, the texts stay as they are. -/
  untouched : ∀ (e : Entry) (spec : Spec) (now : Timestamp),
    spec.hasTerms = false ∨ spec.admits e.bookmark now = .ok false →
      spec.evaluateWith e now texts = (spec.evaluate e.bookmark now).map (·, texts)

/-! ## One use -/

/-- The texts are those of the entries that were asked for, each of them once. -/
structure AreOf (texts : SearchTexts) (c : Collection) (asked : List Entry) : Prop where
  remembers : texts.Remembers c
  nodup : (texts.map Prod.fst).Nodup
  mem_iff : ∀ id, id ∈ texts.map Prod.fst ↔ id ∈ asked.map Entry.id

variable {texts : SearchTexts} {c : Collection} {asked : List Entry}

theorem areOf_nil (c : Collection) : AreOf [] c [] where
  remembers := remembers_nil c
  nodup := List.nodup_nil
  mem_iff _ := Iff.rfl

theorem map_fst_fetch (texts : SearchTexts) (e : Entry) :
    (texts.fetch e).2.map Prod.fst = (texts.map Prod.fst).insert e.id := by
  unfold fetch
  cases hlookup : texts.lookup e.id with
  | some text =>
    obtain ⟨before, after, rfl, -⟩ := List.lookup_eq_some_iff.1 hlookup
    exact (List.insert_of_mem (by simp)).symm
  | none =>
    have hnew : e.id ∉ texts.map Prod.fst := fun hmem => by
      obtain ⟨entry, hentry, hid⟩ := List.mem_map.1 hmem
      have hne := List.lookup_eq_none_iff.1 hlookup entry hentry
      simp [hid] at hne
    exact (List.insert_of_not_mem hnew).symm

theorem AreOf.fetch (h : texts.AreOf c asked) {e : Entry} (he : e ∈ c.entries) :
    (texts.fetch e).2.AreOf c (asked ++ [e]) where
  remembers := h.remembers.fetch he
  nodup := by
    rw [map_fst_fetch]
    exact h.nodup.insert
  mem_iff id := by
    rw [map_fst_fetch, List.mem_insert_iff, h.mem_iff, List.map_append, List.mem_append, or_comm]
    simp

theorem AreOf.step (h : texts.AreOf c asked) {use : Use} (huse : use.entry ∈ c.entries) :
    (texts.step use).AreOf c (asked ++ use.asked?.toList) := by
  cases use with
  | fetch e => exact h.fetch huse
  | evaluate spec e now =>
    simp only [SearchTexts.step, Use.asked?]
    by_cases hasks : spec.AsksText e.bookmark now
    · rw [Spec.evaluateWith_of_asksText hasks, if_pos hasks]
      exact h.fetch huse
    · rw [Spec.evaluateWith_of_not_asksText hasks, if_neg hasks, Option.toList_none,
        List.append_nil]
      cases spec.evaluate e.bookmark now <;> exact h

/-! ## Any uses -/

theorem AreOf.foldl_step (h : texts.AreOf c asked) {uses : List Use}
    (huses : ∀ use ∈ uses, use.entry ∈ c.entries) :
    (uses.foldl SearchTexts.step texts).AreOf c (asked ++ uses.filterMap Use.asked?) := by
  induction uses generalizing texts asked with
  | nil => rwa [List.filterMap_nil, List.append_nil]
  | cons use uses ih =>
    obtain ⟨huse, hrest⟩ := List.forall_mem_cons.1 huses
    have hasked : (use :: uses).filterMap Use.asked? =
        use.asked?.toList ++ uses.filterMap Use.asked? := by
      rw [List.filterMap_cons]
      cases use.asked? <;> rfl
    rw [hasked, ← List.append_assoc]
    exact ih (h.step huse) hrest

theorem entry_of_asked? {use : Use} {e : Entry} (h : use.asked? = some e) : use.entry = e := by
  cases use with
  | fetch f => exact Option.some.inj h
  | evaluate spec f now =>
    obtain ⟨-, hsome⟩ := Option.ite_none_right_eq_some.1 h
    exact Option.some.inj hsome

/-- As many texts are kept as entries were asked for. Their numbers tell them apart. -/
theorem AreOf.length_eq (h : texts.AreOf c asked) (hasked : ∀ e ∈ asked, e ∈ c.entries) :
    texts.length = asked.toFinset.card := by
  have hids : (texts.map Prod.fst).toFinset = asked.toFinset.image Entry.id := by
    ext id
    rw [List.mem_toFinset, h.mem_iff]
    simp
  have hinj : Set.InjOn Entry.id (asked.toFinset : Set Entry) := by
    intro e he f hf
    rw [Finset.mem_coe, List.mem_toFinset] at he hf
    exact c.eq_of_id_eq e (hasked e he) f (hasked f hf)
  calc texts.length
      = (texts.map Prod.fst).toFinset.card := by
        rw [List.toFinset_card_of_nodup h.nodup, List.length_map]
    _ = asked.toFinset.card := by rw [hids, Finset.card_image_of_injOn hinj]

/-- **Search texts that are kept never change an answer**, and one is kept for each entry that was
asked for. This is so after any uses of them, in any order and with any repetitions. -/
theorem serves_after {uses : List Use} (h : ∀ use ∈ uses, use.entry ∈ c.entries) :
    (after uses).Serves c (uses.filterMap Use.asked?) := by
  have hof : (after uses).AreOf c (uses.filterMap Use.asked?) := (areOf_nil c).foldl_step h
  refine ⟨hof.length_eq fun e he => ?_, fun e he => fetch_fst hof.remembers he,
    fun e he spec now => ?_, fun e spec now hnot => ?_⟩
  · obtain ⟨use, huse, hasked⟩ := List.mem_filterMap.1 he
    exact entry_of_asked? hasked ▸ h use huse
  · obtain ⟨texts, -, heq⟩ := Spec.evaluateWith_eq hof.remembers he spec now
    rw [heq]
    cases spec.evaluate e.bookmark now <;> rfl
  · refine Spec.evaluateWith_of_not_asksText fun hasks => ?_
    rcases hnot with hterms | hadmits
    · exact Bool.false_ne_true (hterms.symm.trans hasks.1)
    · exact Bool.false_ne_true (Except.ok.inj (hadmits.symm.trans hasks.2))

/-- Two entries with equal bookmarks are asked for, one of them twice. A third one is rejected. -/
theorem serves_after_equal_bookmarks :
    let b := Bookmark.ofUrl "a.org"
    let c := Collection.ofBookmarks [b, b, Bookmark.ofUrl "b.org"]
    let word := { Spec.empty with required := ["org"] }
    let tagged := { word with filters := [.tag "news"] }
    let uses : List Use :=
      [.fetch ⟨1, b⟩, .evaluate word ⟨0, b⟩ .epoch,
        .evaluate tagged ⟨2, Bookmark.ofUrl "b.org"⟩ .epoch, .fetch ⟨1, b⟩]
    (∀ use ∈ uses, use.entry ∈ c.entries) ∧ (after uses).length = 2 ∧
      (after uses).Serves c [⟨1, b⟩, ⟨0, b⟩, ⟨1, b⟩] := by
  intro b c word tagged uses
  have huses : ∀ use ∈ uses, use.entry ∈ c.entries := by decide +kernel
  have hasked : uses.filterMap Use.asked? = [⟨1, b⟩, ⟨0, b⟩, ⟨1, b⟩] := by decide +kernel
  have hserves := serves_after huses
  rw [hasked] at hserves
  exact ⟨huses, hserves.size.trans (by decide +kernel), hserves⟩

end SearchTexts

end Bookmarks
