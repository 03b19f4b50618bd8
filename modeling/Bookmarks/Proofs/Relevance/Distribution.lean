import Bookmarks.Proofs.Fault
import Bookmarks.Proofs.Number.Order
import Bookmarks.Proofs.Positions
import Bookmarks.Relevance.Stats

/-!
# The distribution of the scores

The statistics of a collection look at its scores and clicks one by one, but for the average and the
median. So the counts do not depend on the order of the bookmarks, and those of two collections add
up. The median is a score that half of the scores do not exceed and half of them reach; any two such
numbers are the same, in whichever order the scores come.

* `RelevanceStats.IsMedian`, `IsMedian.same`: the median, and that there is one only.
* **`RelevanceStats.isMedian_medianOf`**: the median is found in the middle of the sorted scores.
* **`RelevanceStats.foldl_tally`**: what a pass over some bookmarks with their scores counts.
* `RelevanceStats.ofScores`: the statistics, once all scores are known.
* `RelevanceStats.isMedium_eq`, `RelevanceStats.isLow_eq`: the ranges of scores.
* `RelevanceStats.Describes`: what the statistics say about a collection.
* **`relevanceStats_describes`**: they say this about each collection whose scores can be computed.
-/

namespace Bookmarks

open List

/-! ## Counting -/

section Counting

variable {α : Type}

theorem countP_add_countP_le {p q : α → Bool} {xs : List α}
    (h : ∀ x ∈ xs, p x = true → q x = false) : xs.countP p + xs.countP q ≤ xs.length := by
  have hq : xs.countP q ≤ xs.countP fun x => ¬p x := by
    refine countP_mono_left fun x hx hqx => decide_eq_true fun hpx => ?_
    rw [h x hx hpx] at hqx
    cases hqx
  have hsplit := length_eq_countP_add_countP p (l := xs)
  omega

/-- In a list in order, the elements up to a position are below the one there, and those from this
position on are above it. -/
theorem countP_of_pairwise {r : α → α → Bool} {xs : List α} (h : xs.Pairwise fun a b => r a b)
    {m : α} (hrefl : r m m = true) {k : Nat} (hk : xs[k]? = some m) :
    k + 1 ≤ xs.countP (fun x => r x m) ∧ xs.length - k ≤ xs.countP fun x => r m x := by
  obtain ⟨hlt, hm⟩ := List.getElem?_eq_some_iff.1 hk
  have hsplit : xs = xs.take k ++ m :: xs.drop (k + 1) := by
    rw [← hm, ← drop_eq_getElem_cons hlt, take_append_drop]
  rw [hsplit, pairwise_append, pairwise_cons] at h
  obtain ⟨-, ⟨habove, -⟩, hbelow⟩ := h
  have htake : (xs.take k).countP (fun x => r x m) = (xs.take k).length :=
    countP_eq_length.2 fun x hx => hbelow x hx m mem_cons_self
  have hdrop : (xs.drop (k + 1)).countP (fun x => r m x) = (xs.drop (k + 1)).length :=
    countP_eq_length.2 habove
  rw [length_take] at htake
  rw [length_drop] at hdrop
  constructor
  · rw [hsplit, countP_append, countP_cons_of_pos (p := fun x => r x m) hrefl, htake]
    omega
  · rw [hsplit, countP_append, countP_cons_of_pos (p := fun x => r m x) hrefl, hdrop]
    simp only [length_append, length_take, length_cons, length_drop]
    omega

end Counting

namespace RelevanceStats

/-! ## The median -/

/-- **The number `m` is the median of some scores**, the upper one where there are two in the
middle: it is one of them, and as many of them are at most and at least `m` as stand before and
behind the middle, with `m` on both sides. -/
structure IsMedian (m : Binary64) (scores : List Binary64) : Prop where
  mem : m ∈ scores
  below : scores.length / 2 + 1 ≤ scores.countP fun x => (Number.real x).le (.real m)
  above : scores.length - scores.length / 2 ≤ scores.countP fun x => (Number.real m).le (.real x)

theorem IsMedian.of_perm {m : Binary64} {xs ys : List Binary64} (h : IsMedian m xs)
    (hperm : ys.Perm xs) : IsMedian m ys := by
  refine ⟨hperm.mem_iff.2 h.mem, ?_, ?_⟩
  · rw [hperm.length_eq, hperm.countP_eq]
    exact h.below
  · rw [hperm.length_eq, hperm.countP_eq]
    exact h.above

/-- The scores, the least one first. -/
def ascending (scores : List Binary64) : List Binary64 :=
  sortBy (fun x y => (Number.real x).lt (.real y)) scores

theorem ascending_perm (scores : List Binary64) : (ascending scores).Perm scores :=
  sortBy_perm _ scores

theorem medianOf_eq (scores : List Binary64) : medianOf scores =
    ((ascending scores)[(ascending scores).length / 2]?).getD (.zero false) :=
  rfl

section Median

variable {scores : List Binary64} (hnan : ∀ x ∈ scores, x ≠ .nan)
include hnan

theorem IsMedian.le {m n : Binary64} (hm : IsMedian m scores) (hn : IsMedian n scores) :
    (Number.real n).place ≤ (Number.real m).place := by
  have hm' := Number.real_ne_nan (hnan m hm.mem)
  have hn' := Number.real_ne_nan (hnan n hn.mem)
  by_contra hlt
  -- more than half of the scores are at most `m`, and half of them are at least `n`
  have hapart : ∀ x ∈ scores, (Number.real x).le (.real m) = true →
      (Number.real n).le (.real x) = false := by
    intro x hx hxm
    have hx' := Number.real_ne_nan (hnan x hx)
    rw [Number.le_eq_decide hx' hm', decide_eq_true_iff] at hxm
    rw [Number.le_eq_decide hn' hx', decide_eq_false_iff_not]
    exact fun hnx => hlt (hnx.trans hxm)
  have hcount := countP_add_countP_le hapart
  have hbelow := hm.below
  have habove := hn.above
  omega

/-- **There is one median.** -/
theorem IsMedian.same {m n : Binary64} (hm : IsMedian m scores) (hn : IsMedian n scores) :
    (Number.real m).same (.real n) = true := by
  rw [Number.same_eq_decide (Number.real_ne_nan (hnan m hm.mem))
    (Number.real_ne_nan (hnan n hn.mem)), decide_eq_true_iff]
  exact le_antisymm (hn.le hnan hm) (hm.le hnan hn)

theorem pairwise_ascending :
    (ascending scores).Pairwise fun x y => (Number.real x).le (.real y) = true := by
  -- comparing is no order where there is `nan`, so the scores are taken as sorted by their places
  have hplaces : ascending scores =
      sortBy (fun x y => decide ((Number.real x).place < (Number.real y).place)) scores :=
    sortBy_congr fun x hx y hy =>
      Number.lt_eq_decide (Number.real_ne_nan (hnan x hx)) (Number.real_ne_nan (hnan y hy))
  have horder := sortBy_inOrder (isWeakOrder_lt.comap fun x => (Number.real x).place) scores
  rw [← hplaces] at horder
  refine horder.imp_of_mem fun hx hy hyx => ?_
  have hx := Number.real_ne_nan (hnan _ ((ascending_perm scores).mem_iff.1 hx))
  have hy := Number.real_ne_nan (hnan _ ((ascending_perm scores).mem_iff.1 hy))
  rw [Number.le_eq_decide hx hy, decide_eq_true_iff]
  exact not_lt.1 (of_decide_eq_false hyx)

/-- **The median is found in the middle of the sorted scores.** -/
theorem isMedian_medianOf (hne : scores ≠ []) : IsMedian (medianOf scores) scores := by
  have hperm := ascending_perm scores
  have hlt : (ascending scores).length / 2 < (ascending scores).length := by
    have hpos := length_pos_iff.2 hne
    have hlength := hperm.length_eq
    omega
  have hmiddle : (ascending scores)[(ascending scores).length / 2]? = some (medianOf scores) := by
    rw [medianOf_eq, List.getElem?_eq_getElem hlt]
    rfl
  have hmem : medianOf scores ∈ ascending scores := mem_of_getElem? hmiddle
  have hself : (Number.real (medianOf scores)).le (.real (medianOf scores)) = true := by
    have hm := Number.real_ne_nan (hnan _ (hperm.mem_iff.1 hmem))
    rw [Number.le_eq_decide hm hm, decide_eq_true_iff]
  have hcounts := countP_of_pairwise (pairwise_ascending hnan) hself hmiddle
  exact IsMedian.of_perm ⟨hmem, hcounts.1, hcounts.2⟩ hperm.symm

end Median

/-! ## The counts -/

/-- A high score. -/
def isHigh (score : Binary64) : Bool :=
  mediumTo.lt (.real score)

/-- A medium score. -/
def isMedium (score : Binary64) : Bool :=
  !isHigh score && mediumFrom.le (.real score)

/-- A score that is neither high nor medium. -/
def isLow (score : Binary64) : Bool :=
  !isHigh score && !isMedium score

/-- The bookmark was clicked, but its last visit is long ago. -/
def isStale (b : Bookmark) (now : Timestamp) : Bool :=
  b.clicked != 0 &&
    (b.last.map fun t => staleDays.le (.real (t.daysUntil now))).getD false

theorem countScore_eq (stats : RelevanceStats) (score : Binary64) : stats.countScore score =
    { stats with
      high := stats.high + (isHigh score).toNat
      medium := stats.medium + (isMedium score).toNat
      low := stats.low + (isLow score).toNat } := by
  unfold countScore isLow isMedium
  cases hhigh : isHigh score with
  | true => exact if_pos hhigh
  | false =>
    refine (if_neg (Bool.eq_false_iff.1 hhigh)).trans ?_
    cases mediumFrom.le (.real score) <;> rfl

theorem countVisit_eq (stats : RelevanceStats) (b : Bookmark) (now : Timestamp) :
    stats.countVisit b now =
      { stats with
        stale := stats.stale + (isStale b now).toNat
        neverClicked := stats.neverClicked + (b.clicked == 0).toNat } := by
  unfold countVisit isStale
  by_cases h : b.clicked = 0
  · rw [if_pos h, h]
    rfl
  · rw [if_neg h, bne_iff_ne.2 h, beq_eq_false_iff_ne.2 h]
    cases (b.last.map fun t => staleDays.le (.real (t.daysUntil now))).getD false <;> rfl

/-- **A pass over some bookmarks counts each of them by its score and by its visits**, whatever was
counted before. -/
theorem foldl_tally (now : Timestamp) (items : List (Bookmark × Binary64))
    (stats : RelevanceStats) : items.foldl (tally now) stats =
      { stats with
        high := stats.high + items.countP fun item => isHigh item.2
        medium := stats.medium + items.countP fun item => isMedium item.2
        low := stats.low + items.countP fun item => isLow item.2
        stale := stats.stale + items.countP fun item => isStale item.1 now
        neverClicked := stats.neverClicked + items.countP fun item => item.1.clicked == 0 } := by
  induction items generalizing stats with
  | nil => rfl
  | cons item items ih =>
    have hcount : ∀ (n : Nat) (p : Bookmark × Binary64 → Bool),
        n + (p item).toNat + items.countP p = n + (item :: items).countP p := by
      intro n p
      rw [countP_cons, Nat.add_assoc, Nat.add_comm (p item).toNat]
      cases p item <;> rfl
    rw [foldl_cons, ih, tally, countScore_eq, countVisit_eq]
    simp only [mk.injEq, true_and]
    exact ⟨hcount _ fun item => isHigh item.2, hcount _ fun item => isMedium item.2,
      hcount _ fun item => isLow item.2, hcount _ fun item => isStale item.1 now,
      hcount _ fun item => item.1.clicked == 0⟩

/-! ## The statistics of a collection -/

/-- The statistics of some bookmarks with their scores. -/
def ofScores (score : Bookmark → Binary64) (now : Timestamp) (bookmarks : List Bookmark) :
    RelevanceStats where
  average := averageOf (bookmarks.map score)
  median := medianOf (bookmarks.map score)
  high := bookmarks.countP fun b => isHigh (score b)
  medium := bookmarks.countP fun b => isMedium (score b)
  low := bookmarks.countP fun b => isLow (score b)
  stale := bookmarks.countP fun b => isStale b now
  neverClicked := bookmarks.countP fun b => b.clicked == 0

/-- The five counts. -/
def counts (stats : RelevanceStats) : Nat × Nat × Nat × Nat × Nat :=
  (stats.high, stats.medium, stats.low, stats.stale, stats.neverClicked)

/-- **What the statistics say about a collection.** The bookmarks are counted by the range of their
score: above 0.7, from 0.3 to 0.7, and the rest, to which a score belongs that is no number. No
bookmark is both stale and never clicked. If all scores are numbers, the median is one of them. -/
structure Describes (stats : RelevanceStats) (bookmarks : List Bookmark)
    (score : Bookmark → Binary64) (now : Timestamp) : Prop where
  high : stats.high = bookmarks.countP fun b => mediumTo.lt (.real (score b))
  medium : stats.medium = bookmarks.countP fun b =>
    mediumFrom.le (.real (score b)) && (Number.real (score b)).le mediumTo
  low : stats.low = bookmarks.countP fun b => !mediumFrom.le (.real (score b))
  ranges : stats.high + stats.medium + stats.low = bookmarks.length
  stale : stats.stale = bookmarks.countP fun b => isStale b now
  neverClicked : stats.neverClicked = bookmarks.countP fun b => b.clicked == 0
  apart : ∀ b, isStale b now = true → (b.clicked == 0) = false
  clicks : stats.stale + stats.neverClicked ≤ bookmarks.length
  median : (∀ b ∈ bookmarks, score b ≠ .nan) → IsMedian stats.median (bookmarks.map score)

theorem mediumFrom_ne_nan : mediumFrom ≠ .real .nan := by
  decide +kernel

theorem mediumTo_ne_nan : mediumTo ≠ .real .nan := by
  decide +kernel

theorem isMedium_eq (x : Binary64) :
    isMedium x = (mediumFrom.le (.real x) && (Number.real x).le mediumTo) := by
  by_cases hnan : x = .nan
  · rw [hnan]
    decide +kernel
  · have hx := Number.real_ne_nan hnan
    rw [isMedium, isHigh, Number.lt_eq_decide mediumTo_ne_nan hx,
      Number.le_eq_decide hx mediumTo_ne_nan, ← decide_not, Bool.and_comm]
    simp only [not_lt]

theorem isLow_eq (x : Binary64) : isLow x = !mediumFrom.le (.real x) := by
  by_cases hnan : x = .nan
  · rw [hnan]
    decide +kernel
  · have hx := Number.real_ne_nan hnan
    -- a score above the upper end is also above the lower one
    have hends : mediumFrom.place ≤ mediumTo.place := by
      have hle : mediumFrom.le mediumTo = true := by decide +kernel
      rwa [Number.le_eq_decide mediumFrom_ne_nan mediumTo_ne_nan, decide_eq_true_iff] at hle
    have habove : isHigh x = true → mediumFrom.le (.real x) = true := by
      rw [isHigh, Number.lt_eq_decide mediumTo_ne_nan hx, Number.le_eq_decide mediumFrom_ne_nan hx,
        decide_eq_true_iff, decide_eq_true_iff]
      exact fun hlt => hends.trans hlt.le
    rw [isLow, isMedium]
    cases hhigh : isHigh x with
    | false => rfl
    | true => rw [habove hhigh]; rfl

theorem countP_ranges (score : Bookmark → Binary64) (bookmarks : List Bookmark) :
    (bookmarks.countP fun b => isHigh (score b)) + (bookmarks.countP fun b => isMedium (score b)) +
      (bookmarks.countP fun b => isLow (score b)) = bookmarks.length := by
  induction bookmarks with
  | nil => rfl
  | cons b bookmarks ih =>
    have hone : (if isHigh (score b) then 1 else 0) + (if isMedium (score b) then 1 else 0) +
        (if isLow (score b) then 1 else 0) = 1 := by
      cases hhigh : isHigh (score b) <;> cases hmedium : isMedium (score b) <;>
        simp_all [isLow, isMedium]
    rw [countP_cons, countP_cons, countP_cons, length_cons]
    omega

theorem clicked_of_isStale {b : Bookmark} {now : Timestamp} (h : isStale b now = true) :
    (b.clicked == 0) = false := by
  rw [isStale, Bool.and_eq_true] at h
  exact beq_eq_false_iff_ne.2 (bne_iff_ne.1 h.1)

section OfScores

variable (score : Bookmark → Binary64) (now : Timestamp)

theorem describes_ofScores {bookmarks : List Bookmark} (hne : bookmarks ≠ []) :
    (ofScores score now bookmarks).Describes bookmarks score now where
  high := rfl
  medium := countP_congr fun b _ => by rw [isMedium_eq]
  low := countP_congr fun b _ => by rw [isLow_eq]
  ranges := countP_ranges score bookmarks
  stale := rfl
  neverClicked := rfl
  apart _ := clicked_of_isStale
  clicks := countP_add_countP_le fun _ _ => clicked_of_isStale
  median hnan := isMedian_medianOf (forall_mem_map.2 hnan) (mt map_eq_nil_iff.1 hne)

theorem counts_ofScores_of_perm {bookmarks others : List Bookmark} (h : others.Perm bookmarks) :
    (ofScores score now others).counts = (ofScores score now bookmarks).counts := by
  simp only [counts, ofScores, h.countP_eq]

theorem counts_ofScores_append (bookmarks others : List Bookmark) :
    (ofScores score now (bookmarks ++ others)).counts =
      (ofScores score now bookmarks).counts + (ofScores score now others).counts := by
  simp only [counts, ofScores, countP_append]
  rfl

end OfScores

end RelevanceStats

section Collections

variable {config : RelevanceConfig} {now : Timestamp} {score : Bookmark → Binary64}
  {bookmarks : List Bookmark} (hscore : ∀ b ∈ bookmarks, b.relevance config now = .ok (score b))
include hscore

theorem relevanceStats_eq (hne : bookmarks ≠ []) :
    relevanceStats bookmarks config now = .ok (.ofScores score now bookmarks) := by
  have hzip : bookmarks.zip (bookmarks.map score) = bookmarks.map fun b => (b, score b) :=
    map_prod_left_eq_zip.symm
  rw [relevanceStats, isEmpty_eq_false_iff.2 hne, if_neg Bool.false_ne_true,
    Fault.mapM_eq_ok hscore, Fault.ok_bind, hzip]
  dsimp only
  rw [RelevanceStats.foldl_tally]
  simp only [countP_map, RelevanceStats.empty, Nat.zero_add]
  rfl

theorem exists_relevanceStats : ∃ stats, relevanceStats bookmarks config now = .ok stats := by
  by_cases hne : bookmarks = []
  · exact ⟨.empty, by rw [hne]; rfl⟩
  · exact ⟨_, relevanceStats_eq hscore hne⟩

open RelevanceStats in
/-- **The distribution of the scores of a collection.** If the scores can be computed, there are
statistics, and they describe the collection. In another order the bookmarks have the same counts,
and if all scores are numbers, their median is the same number; only a zero may change its sign.
With another collection the counts add up. -/
theorem relevanceStats_describes (hne : bookmarks ≠ []) :
    ∃ stats, relevanceStats bookmarks config now = .ok stats ∧
      stats.Describes bookmarks score now ∧
      (∀ others : List Bookmark, others.Perm bookmarks → ∃ permuted,
        relevanceStats others config now = .ok permuted ∧ permuted.counts = stats.counts ∧
        ((∀ b ∈ bookmarks, score b ≠ .nan) →
          (Number.real permuted.median).same (.real stats.median) = true)) ∧
      ∀ others : List Bookmark, others ≠ [] →
        (∀ b ∈ others, b.relevance config now = .ok (score b)) → ∃ more total,
          relevanceStats others config now = .ok more ∧
          relevanceStats (bookmarks ++ others) config now = .ok total ∧
          total.counts = stats.counts + more.counts := by
  refine ⟨_, relevanceStats_eq hscore hne, describes_ofScores score now hne,
    fun others hperm => ?_, fun others hothers hmore => ?_⟩
  · have hothers : others ≠ [] := fun hnil => hne (hnil ▸ hperm).nil_eq.symm
    have hpermuted := describes_ofScores score now hothers
    refine ⟨_, relevanceStats_eq (fun b hb => hscore b (hperm.mem_iff.1 hb)) hothers,
      counts_ofScores_of_perm score now hperm, fun hnan => ?_⟩
    have hmedian := hpermuted.median fun b hb => hnan b (hperm.mem_iff.1 hb)
    exact (hmedian.of_perm (hperm.map score).symm).same (forall_mem_map.2 hnan)
      ((describes_ofScores score now hne).median hnan)
  · have hboth : ∀ b ∈ bookmarks ++ others, b.relevance config now = .ok (score b) :=
      fun b hb => (mem_append.1 hb).elim (hscore b) (hmore b)
    exact ⟨_, _, relevanceStats_eq hmore hothers,
      relevanceStats_eq hboth (append_ne_nil_of_left_ne_nil hne others),
      counts_ofScores_append score now bookmarks others⟩

end Collections

/-- A bookmark that was never clicked, one with many clicks, and a stale one. -/
theorem relevanceStats_describes_stale :
    let new := Bookmark.ofUrl "a.org"
    let used := { Bookmark.ofUrl "b.org" with clicked := 100 }
    let old := { Bookmark.ofUrl "c.org" with clicked := 2, last := some .epoch }
    let now : Timestamp := ⟨⟨1971, 1, 1, by decide⟩, .midnight, none⟩
    let score := fun b : Bookmark => (b.relevance .standard now).toOption.getD .nan
    (∀ b ∈ [new, used, old], b.relevance .standard now = .ok (score b)) ∧
      [new, used, old] ≠ [] ∧ (∀ b ∈ [new, used, old], score b ≠ .nan) ∧
      ∃ stats permuted, relevanceStats [new, used, old] .standard now = .ok stats ∧
        stats.counts = (0, 1, 2, 1, 1) ∧
        RelevanceStats.IsMedian stats.median ([new, used, old].map score) ∧
        relevanceStats [old, new, used] .standard now = .ok permuted ∧
        permuted.counts = stats.counts ∧
        (Number.real permuted.median).same (.real stats.median) = true := by
  intro new used old now score
  have hscore : ∀ b ∈ [new, used, old], b.relevance .standard now = .ok (score b) := by
    decide +kernel
  have hnan : ∀ b ∈ [new, used, old], score b ≠ .nan := by
    decide +kernel
  have hne : [new, used, old] ≠ [] := cons_ne_nil _ _
  have hperm : [old, new, used].Perm [new, used, old] := @perm_append_comm _ [old] [new, used]
  obtain ⟨stats, hstats, hdescribes, hpermuted, -⟩ := relevanceStats_describes hscore hne
  obtain ⟨permuted, hothers, hcounts, hmedian⟩ := hpermuted _ hperm
  have hevaluated : (relevanceStats [new, used, old] .standard now).map RelevanceStats.counts =
      .ok (0, 1, 2, 1, 1) := by
    decide +kernel
  rw [hstats] at hevaluated
  exact ⟨hscore, hne, hnan, stats, permuted, hstats, Except.ok.inj hevaluated,
    hdescribes.median hnan, hothers, hcounts, hmedian hnan⟩

end Bookmarks
