import Bookmarks.Proofs.Filter.Outcome
import Bookmarks.Proofs.Query.Days
import Bookmarks.Proofs.Time.Elapsed

/-!
# Filtering by a text has a result

Two steps on the way from the text of a query to its result could fail: the digits of a number of
days are read as an integer, and an age is compared with that number. The first one sees short runs
of digits only, so the second one sees numbers of nine digits at most.

* `Spec.exists_filter`, `Filtered.exists_ofQuery`: a query has a result.
* `Spec.score?`: the score of a bookmark that passes.
* `Filtered.Ranks`, `Filtered.exists_ranks`: what the result of a query on a collection holds.
* `Filtered.Ranks.of?_eq_ite`, `Filtered.Ranks.get?_scores_congr`: the scores that are found in it.
* `Filtered.ofQueryBy`: the result of a query, with digits read by any means.
* `Timestamp.exists_sub_days`: the difference of elapsed days to a number of days.
* **`Filtered.ofQuery_total`**: no text makes one of the steps fail.
-/

namespace Bookmarks

namespace Spec

variable {spec : Spec} (h : spec.Bounded)
include h

theorem exists_visit (now : Timestamp) (pass : Pass) (e : Entry) :
    ∃ next, spec.visit now pass e = .ok next := by
  have hscore : ∃ result, spec.evaluateWith e now pass.texts = .ok result := by
    rw [evaluateWith, admits_eq h, Fault.ok_bind]
    split
    · split
      · exact ⟨_, rfl⟩
      · exact ⟨_, rfl⟩
    · exact ⟨_, rfl⟩
  obtain ⟨⟨score, texts⟩, hscore⟩ := hscore
  rw [visit, hscore, Fault.ok_bind]
  cases score with
  | none => exact ⟨_, rfl⟩
  | some score => exact ⟨_, rfl⟩

theorem exists_foldlM_visit (now : Timestamp) (pass : Pass) (entries : List Entry) :
    ∃ last, entries.foldlM (spec.visit now) pass = .ok last := by
  induction entries generalizing pass with
  | nil => exact ⟨pass, rfl⟩
  | cons e entries ih =>
    obtain ⟨next, hnext⟩ := exists_visit h now pass e
    rw [List.foldlM_cons, hnext]
    exact ih next

/-- Filtering has a result, also where entries share a number. -/
theorem exists_filter (entries : List Entry) (now : Timestamp) :
    ∃ found, spec.filter entries now = .ok found := by
  unfold filter
  split
  · exact ⟨_, rfl⟩
  · obtain ⟨pass, hpass⟩ := exists_foldlM_visit h now ⟨[], [], []⟩ entries
    rw [hpass]
    exact ⟨_, rfl⟩

end Spec

theorem Filtered.exists_ofQuery (query : Text) (entries : List Entry) (now : Timestamp) :
    ∃ found, ofQuery query entries now = .ok found := by
  obtain ⟨found, hfound⟩ := Spec.exists_filter (Spec.bounded_parse query) entries now
  rw [ofQuery, hfound]
  exact ⟨_, rfl⟩

theorem Filtered.spec_of_ofQuery {query : Text} {entries : List Entry} {now : Timestamp}
    {found : Filtered} (h : ofQuery query entries now = .ok found) :
    found.spec = Spec.parse query := by
  obtain ⟨r, hr, h⟩ := Fault.bind_eq_ok.1 h
  obtain rfl := Except.ok.inj h
  unfold Spec.filter at hr
  split at hr
  · obtain rfl := Except.ok.inj hr
    rfl
  · obtain ⟨pass, -, hr⟩ := Fault.bind_eq_ok.1 hr
    obtain rfl := Except.ok.inj hr
    rfl

/-- The score of a bookmark that passes: its points, if there are words to score. -/
def Spec.score? (spec : Spec) (b : Bookmark) : Option Int :=
  if spec.hasTerms then some (spec.points b) else none

theorem Spec.getD_score? (spec : Spec) (b : Bookmark) : (spec.score? b).getD 0 = spec.points b := by
  cases hterms : spec.hasTerms with
  | true => rw [score?, if_pos hterms, Option.getD_some]
  | false =>
    rw [score?, hterms, (wordsPass_of_hasTerms_eq_false hterms b).2]
    rfl

namespace Filtered

/-- The entries of a collection that pass a query, ranked by their points, with a score for each
value among them if there are words to score. -/
structure Ranks (r : Filtered) (spec : Spec) (now : Timestamp) (c : Collection) : Prop where
  data : IsRanking (fun e => spec.points e.bookmark) (c.survivors spec now) r.data
  scores : spec.hasTerms = true → r.scores.Records spec (c.survivors spec now)
  noScores : spec.hasTerms = false → r.scores = []

/-- **A query ranks the entries of a collection that pass it.** -/
theorem exists_ranks (query : Text) (c : Collection) (now : Timestamp) :
    ∃ r, ofQuery query c.entries now = .ok r ∧ r.Ranks (Spec.parse query) now c := by
  obtain ⟨pass, hfilter, hafter⟩ := Spec.filter_eq_rank (Spec.bounded_parse query) c now
  have hsurvivors : pass.survivors = c.survivors (Spec.parse query) now := hafter.survivors
  refine ⟨⟨rank pass.scores pass.survivors, Spec.parse query, query, pass.scores⟩, ?_,
    hsurvivors ▸ Spec.rank_isRanking_points hafter, hsurvivors ▸ hafter.scores, hafter.noScores⟩
  rw [ofQuery, hfilter]
  rfl

namespace Ranks

variable {r : Filtered} {spec : Spec} {now : Timestamp} {c : Collection} (h : r.Ranks spec now c)
include h

theorem mem_data_iff {e : Entry} :
    e ∈ r.data ↔ e ∈ c.entries ∧ spec.Passes now e.bookmark := by
  rw [h.data.perm.mem_iff, Collection.survivors, List.mem_filter, decide_eq_true_iff]

theorem of?_eq {e : Entry} (he : e ∈ r.data) :
    r.scores.of? e.bookmark = spec.score? e.bookmark := by
  cases hterms : spec.hasTerms with
  | true =>
    rw [Spec.score?, if_pos hterms]
    exact (h.scores hterms).of?_of_mem (h.data.perm.mem_iff.1 he)
  | false =>
    rw [h.noScores hterms, Spec.score?, hterms]
    rfl

theorem of?_eq_ite {e : Entry} (he : e ∈ c.entries) : r.scores.of? e.bookmark =
    if spec.Passes now e.bookmark then spec.score? e.bookmark else none := by
  split_ifs with hpass
  · exact h.of?_eq (h.mem_data_iff.2 ⟨he, hpass⟩)
  · cases hterms : spec.hasTerms with
    | false =>
      rw [h.noScores hterms]
      rfl
    | true =>
      rw [(h.scores hterms).of?_eq, if_neg]
      rintro ⟨f, hf, hkey⟩
      have hf := of_decide_eq_true (List.mem_filter.1 hf).2
      exact hpass ((Spec.passes_congr hkey spec now).1 hf)

theorem scores_eq_nil_iff : r.scores = [] ↔ spec.hasTerms = false ∨ r.data = [] := by
  cases hterms : spec.hasTerms with
  | false => simp [h.noScores hterms]
  | true =>
    have hcount := (h.scores hterms).length_eq
    rw [← List.length_eq_zero_iff, hcount, Finset.card_eq_zero, List.toFinset_eq_empty_iff,
      List.map_eq_nil_iff, ← List.length_eq_zero_iff, ← h.data.perm.length_eq,
      List.length_eq_zero_iff]
    simp

theorem get?_scores_congr {r' : Filtered} {spec' : Spec} {c' : Collection}
    (h' : r'.Ranks spec' now c') (hterms : spec.hasTerms = spec'.hasTerms)
    (hpoints : ∀ b, spec.points b = spec'.points b) (hmem : ∀ e, e ∈ r.data ↔ e ∈ r'.data)
    (key : BookmarkKey) : r.scores.get? key = r'.scores.get? key := by
  cases hhas : spec.hasTerms with
  | false => rw [h.noScores hhas, h'.noScores (hterms ▸ hhas)]
  | true =>
    refine (h.scores hhas).get?_congr (h'.scores (hterms ▸ hhas)) (fun e => ?_)
      (fun e _ => hpoints e.bookmark) key
    rw [← h.data.perm.mem_iff, ← h'.data.perm.mem_iff, hmem]

end Ranks

end Filtered

theorem Timestamp.exists_sub_days (earlier later : Timestamp) {n : Int}
    (h : n.natAbs < 1000000000) :
    ∃ x : Binary64, x.value?.isSome = true ∧
      (Number.real (earlier.daysUntil later)).sub (.int n) = .ok (.real x) := by
  have hsmall : n.natAbs < 2 ^ 42 := by omega
  have hwithin : (earlier.daysUntil later - Binary64.ofInt n).Within 44 :=
    (earlier.within_daysUntil later).sub (by decide) (Binary64.within_ofInt (by decide) hsmall)
  obtain ⟨q, hq, -⟩ := hwithin
  refine ⟨_, by rw [hq]; rfl, Number.sub_int _ ?_⟩
  exact hsmall.trans_le (pow_le_pow_right₀ one_le_two (by decide))

namespace Filtered

/-- The entries that pass the query which a text writes, with digits read by `int`. -/
def ofQueryBy (int : Text → Except Fault Int) (query : Text) (entries : List Entry)
    (now : Timestamp) : Except Fault Filtered := do
  return { ← (← Spec.parseBy int query).filter entries now with query }

/-- **No text makes a step of filtering fail.** There is a result. It does not depend on how digits
are read beyond runs of one to nine of them, which `Numeral.integer` reads without a fault. So the
filters by age have numbers of nine digits at most, all comparisons with them succeed, and so does
the difference that is taken for one of them, which is finite. -/
theorem ofQuery_total (query : Text) (entries : List Entry) (now : Timestamp) :
    ∃ found, ofQuery query entries now = .ok found ∧
      (∀ int : Text → Except Fault Int,
        (∀ digits : Text, digits.IsShortRun → int digits = Numeral.integer digits) →
          ofQueryBy int query entries now = .ok found) ∧
      ∀ event op days,
        .age event op days ∈ (Spec.parse query).filters ++ (Spec.parse query).negated →
          ∃ o n, op = some o ∧ days = some n ∧ 0 ≤ n ∧ n ≤ 999999999 ∧
            ∀ since : Timestamp,
              (∃ holds, o.compare (.real (since.daysUntil now)) (.int n) = .ok holds) ∧
                ∃ x : Binary64, x.value?.isSome = true ∧
                  (Number.real (since.daysUntil now)).sub (.int n) = .ok (.real x) := by
  obtain ⟨found, hfound⟩ := exists_ofQuery query entries now
  refine ⟨found, hfound, fun int hint => ?_, fun event op days hmem => ?_⟩
  · have hparse : Spec.parseBy int query = .ok (Spec.parse query) :=
      Spec.parseBy_eq (fun digits hrun => (hint digits hrun).trans
        (Numeral.integer_of_isShortRun hrun)) query
    rw [ofQueryBy, hparse, ← hfound]
    rfl
  · obtain ⟨o, n, hop, hdays, hnonneg, hle⟩ := Spec.exists_days hmem
    have hn : n.natAbs < 1000000000 := by omega
    have hbounded : (Predicate.age event (some o) (some n)).Bounded := Predicate.bounded_of_lt hn
    exact ⟨o, n, hop, hdays, hnonneg, hle, fun since =>
      ⟨o.exists_compare (since.daysUntil now) hbounded, since.exists_sub_days now hn⟩⟩

/-- Digits are read by means that fail on more than nine of them. -/
theorem ofQuery_total_ten_digits :
    let query : Text := "added:=999999999 -clicked:<=1234567890d"
    let int : Text → Except Fault Int := fun digits =>
      if digits.length ≤ Predicate.maxDigits then Numeral.integer digits
      else .error (.notInteger digits)
    (∀ digits : Text, digits.IsShortRun → int digits = Numeral.integer digits) ∧
      .age .added (some .about) (some 999999999) ∈
        (Spec.parse query).filters ++ (Spec.parse query).negated ∧
      ∃ found, ofQueryBy int query (Entry.number [Bookmark.ofUrl "a.org"]) .epoch = .ok found := by
  intro query int
  have hint : ∀ digits : Text, digits.IsShortRun → int digits = Numeral.integer digits :=
    fun digits hrun => if_pos hrun.le
  obtain ⟨found, -, hby, -⟩ := ofQuery_total query (Entry.number [Bookmark.ofUrl "a.org"]) .epoch
  exact ⟨hint, by decide +kernel, found, hby int hint⟩

end Filtered

end Bookmarks
