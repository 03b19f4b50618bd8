import Bookmarks.Proofs.Text.Lower
import Bookmarks.Sorting.Lemmas
import Bookmarks.Store.Document
import Bookmarks.Tag

/-!
# Listed tags and the bookmarks that have them

Tags are counted without the blanks around them and in lower case. Bookmarks are looked up by a tag
in lower case as well, but the blanks around their own tags are not taken away. So a listed tag
finds the bookmarks that have it without blanks around it (**`withAnyTag_listed`**), and it may find
none at all (`withAnyTag_blanks_around`).

* `TagCount.Counts`: a table that counts some tags; `TagCount.Counts.tally` is one tag more.
* `mem_tagCounts_iff`: the tags that are listed, with their numbers.
* `TagCount.lower_eq_normalize_iff`: the tags that are found by a listed one.
-/

namespace Bookmarks

namespace TagCount

/-! ## Counting -/

/-- How often a tag is used, in any spelling. -/
def uses (tags : List Text) (t : Text) : Nat :=
  tags.countP fun tag => normalize tag = t

/-- The table counts the tags: each of them that is not blank, in one spelling. -/
structure Counts (table : Table Text Nat) (tags : List Text) : Prop where
  nodup : table.keys.Nodup
  get?_eq : ∀ t, table.get? t = if t ≠ [] ∧ uses tags t ≠ 0 then some (uses tags t) else none

theorem uses_append (tags others : List Text) (t : Text) :
    uses (tags ++ others) t = uses tags t + uses others t :=
  List.countP_append

theorem uses_singleton (tag t : Text) : uses [tag] t = if normalize tag = t then 1 else 0 := by
  simp [uses, List.countP_cons]

theorem Counts.nil : Counts [] [] where
  nodup := List.nodup_nil
  get?_eq t := by simp [uses]

theorem Counts.tally {table : Table Text Nat} {tags : List Text} (h : Counts table tags)
    (tag : Text) : Counts (TagCount.tally table tag) (tags ++ [tag]) := by
  unfold TagCount.tally
  dsimp only
  split
  · next hempty =>
    have hnil : normalize tag = [] := List.isEmpty_iff.1 hempty
    refine ⟨h.nodup, fun t => ?_⟩
    rw [h.get?_eq, uses_append, uses_singleton, hnil]
    by_cases ht : t = []
    · simp [ht]
    · rw [if_neg (Ne.symm ht), Nat.add_zero]
  · next hempty =>
    have hne : normalize tag ≠ [] := fun hnil => hempty (List.isEmpty_iff.2 hnil)
    refine ⟨Table.nodup_keys_set _ _ h.nodup, fun t => ?_⟩
    rw [Table.get?_set, uses_append, uses_singleton]
    by_cases ht : t = normalize tag
    · have hfound : (table.get? (normalize tag)).getD 0 = uses tags (normalize tag) := by
        rw [h.get?_eq]
        split
        · rfl
        · next hzero =>
          have : uses tags (normalize tag) = 0 := by simpa [hne] using hzero
          exact this.symm
      subst ht
      rw [if_pos rfl, if_pos rfl, if_pos ⟨hne, Nat.succ_ne_zero _⟩, hfound]
    · rw [if_neg ht, if_neg (Ne.symm ht), h.get?_eq, Nat.add_zero]

theorem Counts.foldl_tally {table : Table Text Nat} {tags : List Text} (h : Counts table tags)
    (more : List Text) : Counts (more.foldl TagCount.tally table) (tags ++ more) := by
  induction more generalizing table tags with
  | nil => rwa [List.append_nil]
  | cons tag more ih =>
    have hstep := ih (h.tally tag)
    rwa [List.append_assoc] at hstep

end TagCount

open TagCount

/-- **The tags that are listed**: those that are used and not blank, each with the number of its
uses. -/
theorem mem_tagCounts_iff {bookmarks : List Bookmark} {info : TagCount} :
    info ∈ tagCounts bookmarks ↔ info.tag ≠ [] ∧ info.count ≠ 0 ∧
      info.count = uses (bookmarks.flatMap Bookmark.tags) info.tag := by
  have hcounts := Counts.nil.foldl_tally (bookmarks.flatMap Bookmark.tags)
  rw [List.nil_append] at hcounts
  have hentry : ∀ t n, (t, n) ∈ (bookmarks.flatMap Bookmark.tags).foldl TagCount.tally [] ↔
      t ≠ [] ∧ n ≠ 0 ∧ n = uses (bookmarks.flatMap Bookmark.tags) t := by
    intro t n
    rw [← Table.get?_eq_some_iff hcounts.nodup, hcounts.get?_eq, Option.ite_none_right_eq_some,
      Option.some.injEq]
    constructor
    · rintro ⟨⟨ht, hn⟩, rfl⟩
      exact ⟨ht, hn, rfl⟩
    · rintro ⟨ht, hn, rfl⟩
      exact ⟨⟨ht, hn⟩, rfl⟩
  unfold tagCounts
  rw [(sortBy_perm _ _).mem_iff, List.mem_map, ← hentry]
  constructor
  · rintro ⟨⟨t, n⟩, hmem, rfl⟩
    exact hmem
  · intro hmem
    exact ⟨_, hmem, rfl⟩

/-! ## Finding -/

namespace TagCount

theorem lower_normalize (tag : Text) : Text.lower (normalize tag) = normalize tag :=
  Text.lower_lower _

theorem trim_normalize (tag : Text) : Text.trim (normalize tag) = normalize tag :=
  (Text.trim_lower_eq_self_iff _).2 (Text.trimBy_trimBy Text.isBlank tag)

/-- **A counted tag finds its spellings without blanks around them**, and no others. -/
theorem lower_eq_normalize_iff {tag other : Text} :
    Text.lower tag = normalize other ↔ Text.trim tag = tag ∧ normalize tag = normalize other := by
  constructor
  · intro h
    have htrim : Text.trim tag = tag := by
      rw [← Text.trim_lower_eq_self_iff, h]
      exact trim_normalize other
    refine ⟨htrim, ?_⟩
    rw [normalize, htrim, h]
  · rintro ⟨htrim, h⟩
    rw [← h, normalize, htrim]

end TagCount

/-- The bookmark has the tag, in some spelling. -/
def Bookmark.HasTag (b : Bookmark) (t : Text) : Prop :=
  ∃ tag ∈ b.tags, normalize tag = t

/-- The bookmark has the tag in a spelling without blanks around it. -/
def Bookmark.HasTrimmedTag (b : Bookmark) (t : Text) : Prop :=
  ∃ tag ∈ b.tags, Text.trim tag = tag ∧ normalize tag = t

instance (b : Bookmark) : DecidablePred b.HasTag :=
  fun t => inferInstanceAs (Decidable (∃ tag ∈ b.tags, normalize tag = t))

instance (b : Bookmark) : DecidablePred b.HasTrimmedTag :=
  fun t => inferInstanceAs (Decidable (∃ tag ∈ b.tags, Text.trim tag = tag ∧ normalize tag = t))

theorem uses_eq_zero_iff {b : Bookmark} {t : Text} : uses b.tags t = 0 ↔ ¬b.HasTag t := by
  simp [uses, List.countP_eq_zero, Bookmark.HasTag]

theorem withAnyTag_normalize (tag : Text) (entries : List Entry) :
    withAnyTag [normalize tag] entries =
      entries.filter fun e => e.bookmark.HasTrimmedTag (normalize tag) := by
  unfold withAnyTag
  rw [List.isEmpty_cons, if_neg Bool.false_ne_true]
  refine List.filter_congr fun e _ => ?_
  rw [Bool.eq_iff_iff, List.any_eq_true, decide_eq_true_iff]
  simp only [List.map_singleton, List.contains_iff_mem, List.mem_singleton, lower_normalize,
    lower_eq_normalize_iff, Bookmark.HasTrimmedTag]

theorem uses_flatMap_filter (entries : List Entry) (t : Text) :
    uses ((entries.filter fun e => e.bookmark.HasTag t).flatMap (·.bookmark.tags)) t =
      uses (entries.flatMap (·.bookmark.tags)) t := by
  induction entries with
  | nil => rfl
  | cons e entries ih =>
    by_cases he : e.bookmark.HasTag t
    · rw [List.filter_cons_of_pos (by simpa using he), List.flatMap_cons, List.flatMap_cons,
        uses_append, uses_append, ih]
    · rw [List.filter_cons_of_neg (by simpa using he), List.flatMap_cons, uses_append, ih,
        uses_eq_zero_iff.2 he, Nat.zero_add]

/-- **A listed tag finds the bookmarks that have it without blanks around it**, in their order.
These are all bookmarks that have it, if each of them also has it without blanks. Some bookmarks
have it, and the number that is listed is that of their tags in any spelling of it. -/
theorem withAnyTag_listed {entries : List Entry} {info : TagCount}
    (h : info ∈ tagCounts (entries.map Entry.bookmark)) :
    withAnyTag [info.tag] entries =
        (entries.filter fun e => e.bookmark.HasTrimmedTag info.tag) ∧
      (withAnyTag [info.tag] entries = (entries.filter fun e => e.bookmark.HasTag info.tag) ↔
        ∀ e ∈ entries, e.bookmark.HasTag info.tag → e.bookmark.HasTrimmedTag info.tag) ∧
      (entries.filter fun e => e.bookmark.HasTag info.tag) ≠ [] ∧
      info.count = ((entries.filter fun e => e.bookmark.HasTag info.tag).flatMap
        (·.bookmark.tags)).countP fun tag => normalize tag = info.tag := by
  obtain ⟨-, hcount, huses⟩ := mem_tagCounts_iff.1 h
  rw [List.flatMap_map, ← uses_flatMap_filter] at huses
  have hsome : (entries.filter fun e => e.bookmark.HasTag info.tag) ≠ [] := by
    intro hnil
    rw [huses, hnil] at hcount
    exact hcount rfl
  obtain ⟨tag, htag⟩ : ∃ tag, normalize tag = info.tag := by
    obtain ⟨e, he⟩ := List.exists_mem_of_ne_nil _ hsome
    obtain ⟨tag, -, htag⟩ := of_decide_eq_true (List.mem_filter.1 he).2
    exact ⟨tag, htag⟩
  have hfound := withAnyTag_normalize tag entries
  rw [htag] at hfound
  refine ⟨hfound, ?_, hsome, huses⟩
  rw [hfound]
  constructor
  · intro heq e he hhas
    have hmem : e ∈ entries.filter fun e => e.bookmark.HasTag info.tag :=
      List.mem_filter.2 ⟨he, decide_eq_true hhas⟩
    rw [← heq] at hmem
    exact of_decide_eq_true (List.mem_filter.1 hmem).2
  · intro hall
    refine List.filter_congr fun e he => decide_eq_decide.2 ⟨?_, hall e he⟩
    rintro ⟨tag, hmem, -, hnormal⟩
    exact ⟨tag, hmem, hnormal⟩

/-- One of two bookmarks has the tag with a blank before it. -/
theorem withAnyTag_listed_news :
    let a := { Bookmark.ofUrl "a.org" with tags := ["NewS"] }
    let b := { Bookmark.ofUrl "b.org" with tags := [" news", "x"] }
    let entries := Entry.number [a, b]
    (⟨"news", 2⟩ : TagCount) ∈ tagCounts (entries.map Entry.bookmark) ∧
      withAnyTag ["news"] entries = [⟨0, a⟩] ∧
      (entries.filter fun e => e.bookmark.HasTag "news") = entries := by
  intro a b entries
  have h : (⟨"news", 2⟩ : TagCount) ∈ tagCounts (entries.map Entry.bookmark) :=
    mem_tagCounts_iff.2 (by decide +kernel)
  have htrimmed : (entries.filter fun e => e.bookmark.HasTrimmedTag "news") = [⟨0, a⟩] := by
    decide +kernel
  exact ⟨h, (withAnyTag_listed h).1.trans htrimmed, by decide +kernel⟩

/-- A tag is listed that finds no bookmark. -/
theorem withAnyTag_blanks_around :
    let document : Json := .array [.object [("url", .string "a.org"),
      ("tags", .array [.string " News"])]]
    let e : Entry := ⟨0, { Bookmark.ofUrl "a.org" with tags := [" News"] }⟩
    Store.load document = .ok ⟨[e], 0, 0, 0⟩ ∧
      tagCounts [e.bookmark] = [⟨"news", 1⟩] ∧ withAnyTag ["news"] [e] = [] ∧
      e.bookmark.HasTag "news" := by
  intro document e
  exact ⟨rfl, by decide +kernel, by decide +kernel, by decide +kernel⟩

end Bookmarks
