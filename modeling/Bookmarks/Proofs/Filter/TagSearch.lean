import Bookmarks.Proofs.Filter.Occurrence
import Bookmarks.Tag

/-!
# Three ways to look for a tag

A tag is looked up as a whole, a filter asks for a part of it, or a word of a query occurs in the
texts of the bookmark, among which each tag stands twice. Each way finds all that the one before it
finds, although a word is looked for in a text that was put together first and lowered as a whole.

* `mem_withAnyTag_singleton_iff`, `Predicate.holds_tag_iff`: looking a tag up, and filtering by it.
* `Bookmark.mem_pieces_of_mem_tags`, `Bookmark.matches_of_infix_tag`: tags as words in the texts.
* **`Bookmark.tag_refines`**: what one way finds, the next one finds.
-/

namespace Bookmarks

theorem mem_withAnyTag_singleton_iff {x : Text} {entries : List Entry} {e : Entry} :
    e ∈ withAnyTag [x] entries ↔
      e ∈ entries ∧ ∃ tag ∈ e.bookmark.tags, Text.lower tag = Text.lower x := by
  simp [withAnyTag]

theorem Predicate.holds_tag_iff {x : Text} {b : Bookmark} {now : Timestamp} :
    (Predicate.tag x).holds b now = .ok true ↔
      x ≠ [] ∧ ∃ tag ∈ b.tags, Text.lower x <:+: Text.lower tag := by
  simp [holds, tagHolds, mentions, Text.occursIn_iff]

namespace Bookmark

variable {b : Bookmark} {tag : Text}

theorem mem_pieces_of_mem_tags (h : tag ∈ b.tags) (hne : tag ≠ []) :
    tag ∈ b.pieces ∧ .char '#' :: tag ∈ b.pieces := by
  have hkept : tag ∈ b.tags.filter (!·.isEmpty) := List.mem_filter.2 ⟨h, by simpa using hne⟩
  have hsigned : .char '#' :: tag ∈ (b.tags.filter (!·.isEmpty)).map (.char '#' :: ·) :=
    List.mem_map_of_mem hkept
  simp only [pieces, List.mem_cons, List.mem_append]
  exact ⟨by simp only [hkept, true_or, or_true], by simp only [hsigned, or_true]⟩

theorem matches_of_infix_tag {x : Text} (hne : x ≠ []) (h : tag ∈ b.tags)
    (hin : Text.lower x <:+: Text.lower tag) : b.Matches x := by
  have htag : tag ≠ [] := by
    rintro rfl
    exact Text.lower_ne_nil hne (List.infix_nil.1 hin)
  exact hin.trans (lower_infix_searchText (mem_pieces_of_mem_tags h htag).1)

/-- **Three ways to look for a tag**, each of which finds what the one before it finds. A bookmark
that has the tag in this spelling is looked up by it. What is looked up passes the filter for the
tag, and what passes the filter has the tag as a word in its texts. Behind a `#` the tag is a word
in the texts as well. -/
theorem tag_refines {x : Text} (hne : x ≠ []) (now : Timestamp) :
    (∀ entries : List Entry, ∀ e ∈ entries, x ∈ e.bookmark.tags → e ∈ withAnyTag [x] entries) ∧
      (∀ entries : List Entry, ∀ e ∈ withAnyTag [x] entries,
        (Predicate.tag x).holds e.bookmark now = .ok true) ∧
      (∀ b : Bookmark, (Predicate.tag x).holds b now = .ok true →
        Spec.evaluate { Spec.empty with optional := [x] } b now = .ok (some 1)) ∧
      ∀ b : Bookmark, x ∈ b.tags →
        Spec.evaluate { Spec.empty with optional := [x] } b now = .ok (some 1) ∧
          Spec.evaluate { Spec.empty with optional := [.char '#' :: x] } b now = .ok (some 1) := by
  refine ⟨fun entries e he htag => ?_, fun entries e he => ?_, fun b hholds => ?_,
    fun b htag => ⟨?_, ?_⟩⟩
  · exact mem_withAnyTag_singleton_iff.2 ⟨he, x, htag, rfl⟩
  · obtain ⟨-, tag, htag, hlower⟩ := mem_withAnyTag_singleton_iff.1 he
    exact Predicate.holds_tag_iff.2 ⟨hne, tag, htag, hlower ▸ List.infix_rfl⟩
  · obtain ⟨-, tag, htag, hin⟩ := Predicate.holds_tag_iff.1 hholds
    rw [evaluate_optional, if_pos (matches_of_infix_tag hne htag hin)]
  · rw [evaluate_optional, if_pos (matches_of_infix_tag hne htag List.infix_rfl)]
  · have hsigned : b.Matches (.char '#' :: x) :=
      lower_infix_searchText (mem_pieces_of_mem_tags htag hne).2
    rw [evaluate_optional, if_pos hsigned]

/-- A tag with a space after a sigma that is final, another spelling of it, and a longer tag. -/
theorem tag_refines_final_sigma :
    let x : Text := "ΟΔΟΣ Α"
    let own := { ofUrl "a.org" with tags := ["", x] }
    let spelled := { ofUrl "b.org" with tags := ["οδος α"] }
    let longer := { ofUrl "c.org" with tags := ["Νέα Οδος ΑΒ"] }
    let entries := Entry.number [own, spelled, longer]
    x ≠ [] ∧ (withAnyTag [x] entries).map Entry.id = [0, 1] ∧
      (Predicate.tag x).holds spelled .epoch = .ok true ∧
      (Predicate.tag x).holds longer .epoch = .ok true ∧
      Spec.evaluate { Spec.empty with optional := [x] } longer .epoch = .ok (some 1) ∧
      Spec.evaluate { Spec.empty with optional := [.char '#' :: x] } own .epoch =
        .ok (some 1) := by
  intro x own spelled longer entries
  have hne : x ≠ [] := by decide
  obtain ⟨-, hlookup, hfilter, hword⟩ := tag_refines hne .epoch
  have hids : (withAnyTag [x] entries).map Entry.id = [0, 1] := by decide +kernel
  have hfound : (⟨1, spelled⟩ : Entry) ∈ withAnyTag [x] entries :=
    mem_withAnyTag_singleton_iff.2
      ⟨by simp [entries, Entry.number], _, List.mem_singleton_self _, by decide +kernel⟩
  have hlonger : (Predicate.tag x).holds longer .epoch = .ok true := by decide +kernel
  have hown : x ∈ own.tags := by decide
  have hspelled : (Predicate.tag x).holds spelled .epoch = .ok true :=
    hlookup entries ⟨1, spelled⟩ hfound
  exact ⟨hne, hids, hspelled, hlonger, hfilter longer hlonger, (hword own hown).2⟩

end Bookmark

end Bookmarks
