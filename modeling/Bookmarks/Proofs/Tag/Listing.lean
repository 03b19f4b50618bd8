import Bookmarks.Proofs.Filter.Ranking
import Bookmarks.Proofs.Tag
import Bookmarks.Proofs.Text.Context
import Mathlib

/-!
# The list of all tags

The tags of a collection are listed once each, with the numbers of their uses. No two of them come
at the same place by number and characters, so the list does not depend on the order in which the
tags were counted.

* `TagCount.Precedes`, `TagCount.key`: the order of the list, and what it compares.
* `TagCount.sum_uses`: the uses of several tags at once.
* `IsSummaryOf`: what a list of tags says about the tags that were counted.
* **`isSummaryOf_tagCounts`**, **`tagCounts_congr`**: the list of a collection is such a summary,
  and only the tags count for it.
* **`tagCounts_summary`**: both, and a tag is found in the list by any spelling of it.
-/

namespace Bookmarks

/-- Code points are ordered by their numbers, and so texts by their code points. -/
instance : LinearOrder CodePoint :=
  LinearOrder.lift' CodePoint.toNat Text.toNat_injective

namespace TagCount

/-! ## The order of the list -/

/-- A tag is listed before another one: it is used more often, or as often and comes first by its
characters. -/
def Precedes (a b : TagCount) : Prop :=
  b.count < a.count ∨ a.count = b.count ∧ a.tag < b.tag

/-- What tags are listed by: the number of their uses, in falling order, and their characters. -/
def key (a : TagCount) : ℤ ×ₗ Text :=
  toLex (-(a.count : ℤ), a.tag)

theorem precedes_iff {a b : TagCount} : a.Precedes b ↔ a.key < b.key := by
  rw [key, key, Prod.Lex.toLex_lt_toLex, Precedes]
  simp

theorem before_eq (a b : TagCount) : before a b = decide (a.key < b.key) := by
  rw [Bool.eq_iff_iff, decide_eq_true_iff, ← precedes_iff, Precedes]
  simp [before]

theorem key_injective : Function.Injective key := by
  rintro ⟨t, n⟩ ⟨u, m⟩ h
  have hkeys := Prod.mk.inj (toLex.injective h)
  simpa [and_comm] using hkeys

theorem isWeakOrder_before : IsWeakOrder before := by
  have hbefore : before = fun a b => decide (a.key < b.key) := funext₂ before_eq
  rw [hbefore]
  exact isWeakOrder_lt.comap key

instance : Std.Asymm Precedes where
  asymm _ _ hab hba := lt_asymm (precedes_iff.1 hab) (precedes_iff.1 hba)

/-! ## Uses of a tag -/

theorem normalize_ne_nil_iff {tag : Text} :
    normalize tag ≠ [] ↔ Text.isBlankText tag = false := by
  have htrim : Text.trim tag = [] ↔ Text.isBlankText tag = true :=
    Text.trimBy_eq_nil_iff.trans List.all_eq_true.symm
  rw [← Bool.not_eq_true, ← htrim]
  constructor
  · intro h hnil
    exact h (by rw [normalize, hnil]; rfl)
  · exact Text.lower_ne_nil

theorem uses_pos_iff {tags : List Text} {t : Text} :
    0 < uses tags t ↔ ∃ tag ∈ tags, normalize tag = t := by
  rw [uses, List.countP_pos_iff]
  simp

theorem sum_uses {forms : List Text} (h : forms.Nodup) (tags : List Text) :
    (forms.map (uses tags)).sum = tags.countP fun tag => normalize tag ∈ forms := by
  induction forms with
  | nil => simp
  | cons t forms ih =>
    obtain ⟨ht, hforms⟩ := List.nodup_cons.1 h
    -- no tag is counted twice, since it has one form
    have hsplit := tags.countP_eq_countP_filter_add (fun tag => normalize tag ∈ t :: forms)
      fun tag => normalize tag = t
    rw [List.map_cons, List.sum_cons, ih hforms, uses, hsplit, List.countP_filter,
      List.countP_filter]
    refine congrArg₂ (· + ·) (List.countP_congr fun tag _ => ?_) (List.countP_congr fun tag _ => ?_)
    · simpa using Or.inl
    · by_cases htag : normalize tag = t <;> simp [htag, ht]

end TagCount

open TagCount

/-! ## Summaries -/

/-- **A list of tags sums up the tags that were counted.** Each form of a tag that is not blank has
one entry, with the number of tags that have this form, and the entries are in order. -/
structure IsSummaryOf (infos : List TagCount) (tags : List Text) : Prop where
  nodup : (infos.map TagCount.tag).Nodup
  mem_iff : ∀ t, t ∈ infos.map TagCount.tag ↔
    ∃ tag ∈ tags, Text.isBlankText tag = false ∧ normalize tag = t
  count : ∀ info ∈ infos, info.count = tags.countP fun tag => normalize tag = info.tag
  total : (infos.map TagCount.count).sum = tags.countP fun tag => !Text.isBlankText tag
  ordered : infos.Pairwise Precedes

section Summary

variable (bookmarks : List Bookmark)

theorem nodup_tagCounts : ((tagCounts bookmarks).map TagCount.tag).Nodup := by
  have hcounts := Counts.nil.foldl_tally (bookmarks.flatMap Bookmark.tags)
  unfold tagCounts
  rw [((sortBy_perm _ _).map _).nodup_iff, List.map_map]
  exact hcounts.nodup

theorem tag_mem_tagCounts_iff (t : Text) : t ∈ (tagCounts bookmarks).map TagCount.tag ↔
    ∃ tag ∈ bookmarks.flatMap Bookmark.tags, Text.isBlankText tag = false ∧ normalize tag = t := by
  have hlisted : t ∈ (tagCounts bookmarks).map TagCount.tag ↔
      t ≠ [] ∧ 0 < uses (bookmarks.flatMap Bookmark.tags) t := by
    rw [List.mem_map]
    constructor
    · rintro ⟨info, hinfo, rfl⟩
      obtain ⟨hne, hcount, huses⟩ := mem_tagCounts_iff.1 hinfo
      exact ⟨hne, huses ▸ Nat.pos_of_ne_zero hcount⟩
    · rintro ⟨hne, huses⟩
      exact ⟨⟨t, uses _ t⟩, mem_tagCounts_iff.2 ⟨hne, huses.ne', rfl⟩, rfl⟩
  rw [hlisted, uses_pos_iff]
  constructor
  · rintro ⟨hne, tag, htag, rfl⟩
    exact ⟨tag, htag, normalize_ne_nil_iff.1 hne, rfl⟩
  · rintro ⟨tag, htag, hblank, rfl⟩
    exact ⟨normalize_ne_nil_iff.2 hblank, tag, htag, rfl⟩

theorem count_tagCounts {info : TagCount} (h : info ∈ tagCounts bookmarks) :
    info.count = uses (bookmarks.flatMap Bookmark.tags) info.tag :=
  (mem_tagCounts_iff.1 h).2.2

theorem sum_tagCounts : ((tagCounts bookmarks).map TagCount.count).sum =
    (bookmarks.flatMap Bookmark.tags).countP fun tag => !Text.isBlankText tag := by
  have hcounts : (tagCounts bookmarks).map TagCount.count =
      ((tagCounts bookmarks).map TagCount.tag).map (uses (bookmarks.flatMap Bookmark.tags)) := by
    rw [List.map_map]
    exact List.map_congr_left fun info hinfo => count_tagCounts bookmarks hinfo
  rw [hcounts, sum_uses (nodup_tagCounts bookmarks)]
  refine List.countP_congr fun tag htag => ?_
  rw [decide_eq_true_iff, tag_mem_tagCounts_iff, Bool.not_eq_true']
  constructor
  · rintro ⟨other, -, hother, hform⟩
    rw [← normalize_ne_nil_iff, hform] at hother
    exact normalize_ne_nil_iff.1 hother
  · exact fun hblank => ⟨tag, htag, hblank, rfl⟩

/-- **The tags are in order**, and no two of them at one place. -/
theorem pairwise_tagCounts : (tagCounts bookmarks).Pairwise Precedes := by
  have horder : InOrder before (tagCounts bookmarks) := sortBy_inOrder isWeakOrder_before _
  have htags := List.pairwise_map.1 (nodup_tagCounts bookmarks)
  refine horder.imp₂ (fun _ _ hab hne => ?_) htags
  rw [before_eq, decide_eq_false_iff_not, not_lt] at hab
  rw [precedes_iff]
  exact lt_of_le_of_ne hab fun heq => hne (congrArg TagCount.tag (key_injective heq))

/-- **The list of tags sums up all tags of a collection.** -/
theorem isSummaryOf_tagCounts :
    IsSummaryOf (tagCounts bookmarks) (bookmarks.flatMap Bookmark.tags) where
  nodup := nodup_tagCounts bookmarks
  mem_iff := tag_mem_tagCounts_iff bookmarks
  count _ := count_tagCounts bookmarks
  total := sum_tagCounts bookmarks
  ordered := pairwise_tagCounts bookmarks

end Summary

/-- **Only the tags count**, not their order. -/
theorem tagCounts_congr {bookmarks others : List Bookmark}
    (h : (bookmarks.flatMap Bookmark.tags).Perm (others.flatMap Bookmark.tags)) :
    tagCounts bookmarks = tagCounts others := by
  refine (pairwise_tagCounts bookmarks).eq_of_mem_iff (pairwise_tagCounts others) fun info => ?_
  rw [mem_tagCounts_iff, mem_tagCounts_iff, uses, uses, h.countP_eq]

theorem tagsContaining_sublist (text : Text) (infos : List TagCount) :
    (tagsContaining text infos).Sublist infos := by
  unfold tagsContaining
  split
  · exact List.Sublist.refl _
  · exact List.filter_sublist

theorem mem_tagsContaining {infos : List TagCount} {info : TagCount} (hinfo : info ∈ infos)
    {tag : Text} (h : info.tag = normalize tag) : info ∈ tagsContaining tag infos := by
  unfold tagsContaining
  split
  · exact hinfo
  · refine List.mem_filter.2 ⟨hinfo, Text.occursIn_iff.2 ?_⟩
    rw [h]

/-- **The tags of a collection are summed up in one list.** The list does not depend on the order of
the bookmarks, nor on that of the tags of a bookmark, and each tag that is not blank is found in it
by its own spelling. -/
theorem tagCounts_summary :
    (∀ bookmarks, IsSummaryOf (tagCounts bookmarks) (bookmarks.flatMap Bookmark.tags)) ∧
      (∀ bookmarks mid others : List Bookmark, bookmarks.Perm mid →
        List.Forall₂ (fun b c => b.tags.Perm c.tags) mid others →
          tagCounts others = tagCounts bookmarks) ∧
      ∀ bookmarks : List Bookmark, ∀ b ∈ bookmarks, ∀ tag ∈ b.tags,
        Text.isBlankText tag = false →
          (tagsContaining tag (tagCounts bookmarks)).Sublist (tagCounts bookmarks) ∧
            ∃ info ∈ tagsContaining tag (tagCounts bookmarks), info.tag = normalize tag := by
  refine ⟨isSummaryOf_tagCounts, fun bookmarks mid others hperm htags => ?_,
    fun bookmarks b hb tag htag hblank => ⟨tagsContaining_sublist _ _, ?_⟩⟩
  · have hinner : (mid.flatMap Bookmark.tags).Perm (others.flatMap Bookmark.tags) :=
      List.Perm.flatten_congr (List.forall₂_map_left_iff.2 (List.forall₂_map_right_iff.2 htags))
    exact (tagCounts_congr ((hperm.flatMap_right _).trans hinner)).symm
  · have hlisted := (tag_mem_tagCounts_iff bookmarks (normalize tag)).2
      ⟨tag, List.mem_flatMap.2 ⟨b, hb, htag⟩, hblank, rfl⟩
    obtain ⟨info, hinfo, hform⟩ := List.mem_map.1 hlisted
    exact ⟨info, mem_tagsContaining hinfo hform, hform⟩

/-- The tags of two bookmarks, one of them in two spellings and one of them blank. -/
theorem tagCounts_summary_news :
    let a := { Bookmark.ofUrl "a.org" with tags := ["NewS", " "] }
    let b := { Bookmark.ofUrl "b.org" with tags := [" news", "x"] }
    let c := { Bookmark.ofUrl "b.org" with tags := ["x", " news"] }
    tagCounts [a, b] = [⟨"news", 2⟩, ⟨"x", 1⟩] ∧ tagCounts [c, a] = tagCounts [a, b] ∧
      IsSummaryOf (tagCounts [a, b]) ["NewS", " ", " news", "x"] ∧
      ∃ info ∈ tagsContaining "NewS" (tagCounts [a, b]), info.tag = normalize "NewS" := by
  intro a b c
  have hperm : [a, b].Perm [b, a] := .swap b a []
  have htags : List.Forall₂ (fun b c => b.tags.Perm c.tags) [b, a] [c, a] :=
    .cons (.swap _ _ []) (.cons (.refl _) .nil)
  exact ⟨by decide +kernel, tagCounts_summary.2.1 _ _ _ hperm htags, tagCounts_summary.1 [a, b],
    (tagCounts_summary.2.2 [a, b] a (by simp) "NewS" List.mem_cons_self (by decide)).2⟩

end Bookmarks
