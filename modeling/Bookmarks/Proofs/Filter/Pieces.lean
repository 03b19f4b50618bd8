import Bookmarks.Proofs.Filter.Meaning
import Bookmarks.Proofs.Text.Context

/-!
# Words inside the pieces of the search text

The search text of a bookmark is put together from its texts, with spaces between them and each tag
twice. A word without a space therefore never reaches from one piece into the next: it occurs in the
search text exactly if it occurs in one of the pieces, although the text is lowered as a whole and
the word by itself.

* `Bookmark.texts`, `Bookmark.pieces`: the texts of a bookmark, and what its search text is made of.
* `Text.infix_append_space_iff`, `Text.infix_spaced_iff`, `Text.infix_lower_spaced_iff`: words in texts
  with spaces between them.
* `Bookmark.pieces_eq`, `Bookmark.searchParts_eq`: the parts of the search text, by their pieces.
* `Bookmark.lower_infix_searchText`: each piece stands in the search text.
* **`Bookmark.infix_searchText_iff`**: where a word occurs.
-/

namespace Bookmarks

/-! ## Texts with spaces between them -/

namespace Text

theorem infix_spaced_of_mem {s : Text} {parts : List Text} (h : s ∈ parts) : s <:+: spaced parts := by
  induction parts with
  | nil => exact absurd h List.not_mem_nil
  | cons t parts ih =>
    cases parts with
    | nil => simp [spaced, List.intercalate, List.mem_singleton.1 h]
    | cons u parts =>
      rw [spaced_cons_cons]
      rcases List.mem_cons.1 h with rfl | h
      · exact (List.prefix_append s _).isInfix
      · exact (ih h).trans ((List.suffix_cons _ _).trans (List.suffix_append t _)).isInfix

section Word

variable {word : Text} (hspace : .char ' ' ∉ word)
include hspace

theorem prefix_of_prefix_append_space {s rest : Text} (h : word <+: s ++ .char ' ' :: rest) :
    word <+: s := by
  rcases Nat.lt_or_ge s.length word.length with hlong | hshort
  · have hfront : s ++ [.char ' '] <+: s ++ .char ' ' :: rest := ⟨rest, by simp⟩
    have hlonger : s ++ [.char ' '] <+: word :=
      List.prefix_of_prefix_length_le hfront h (by simpa using hlong)
    exact absurd (hlonger.subset (by simp)) hspace
  · exact List.prefix_of_prefix_length_le h (List.prefix_append s _) hshort

theorem infix_append_space_iff {s rest : Text} :
    word <:+: s ++ .char ' ' :: rest ↔ word <:+: s ∨ word <:+: rest := by
  constructor
  · intro h
    induction s with
    | nil =>
      rcases List.infix_cons_iff.1 h with hfront | hrest
      · exact .inl (prefix_of_prefix_append_space hspace (s := []) hfront).isInfix
      · exact .inr hrest
    | cons c s ih =>
      rcases List.infix_cons_iff.1 h with hfront | hrest
      · exact .inl (prefix_of_prefix_append_space hspace (s := c :: s) hfront).isInfix
      · exact (ih hrest).imp_left fun hs => hs.trans (List.suffix_cons c s).isInfix
  · rintro (h | h)
    · exact h.trans (List.prefix_append s _).isInfix
    · exact h.trans ((List.suffix_cons _ _).trans (List.suffix_append s _)).isInfix

/-- **A word without a space stands in one of the parts.** -/
theorem infix_spaced_iff (hne : word ≠ []) {parts : List Text} :
    word <:+: spaced parts ↔ ∃ s ∈ parts, word <:+: s := by
  refine ⟨fun h => ?_, fun ⟨s, hs, h⟩ => h.trans (infix_spaced_of_mem hs)⟩
  induction parts with
  | nil => exact absurd (List.infix_nil.1 h) hne
  | cons s parts ih =>
    cases parts with
    | nil => exact ⟨s, List.mem_cons_self, by simpa [spaced, List.intercalate] using h⟩
    | cons t parts =>
      rw [spaced_cons_cons, infix_append_space_iff hspace] at h
      rcases h with h | h
      · exact ⟨s, List.mem_cons_self, h⟩
      · obtain ⟨u, hu, h⟩ := ih h
        exact ⟨u, List.mem_cons_of_mem s hu, h⟩

theorem infix_lower_spaced_iff (hne : word ≠ []) {parts : List Text} :
    word <:+: lower (spaced parts) ↔ ∃ s ∈ parts, word <:+: lower s := by
  rw [lower_spaced, infix_spaced_iff hspace hne]
  simp

end Word

theorem lower_infix_of_mem {s : Text} {parts : List Text} (h : s ∈ parts) :
    lower s <:+: lower (spaced parts) := by
  rw [lower_spaced]
  exact infix_spaced_of_mem (List.mem_map_of_mem h)

end Text

/-! ## The pieces of the search text -/

namespace Bookmark

/-- The texts of a bookmark that words are looked for in. -/
def texts (b : Bookmark) : List Text :=
  b.url :: (b.title.toList ++ (b.description.toList ++ (b.notes.toList ++ b.tags)))

/-- The pieces of the search text: the texts of the bookmark, and each tag behind a `#` as well.
Tags that are empty are left out. -/
def pieces (b : Bookmark) : List Text :=
  b.url :: (b.title.toList ++ (b.description.toList ++ (b.notes.toList ++
    (b.tags.filter (!·.isEmpty) ++ (b.tags.filter (!·.isEmpty)).map (.char '#' :: ·)))))

/-- The pieces, by the parts of the search text that they stand in. -/
def groups (b : Bookmark) : List (List Text) :=
  [[b.url], b.title.toList, b.description.toList, b.notes.toList, b.tags.filter (!·.isEmpty),
   (b.tags.filter (!·.isEmpty)).map (.char '#' :: ·)]

theorem pieces_eq (b : Bookmark) : b.pieces = b.groups.flatten := by
  simp [pieces, groups]

theorem searchParts_eq (b : Bookmark) : b.searchParts = b.groups.map Text.spaced := by
  have hoption : ∀ s : Option Text, s.getD [] = Text.spaced s.toList := fun s => by
    cases s <;> simp [Text.spaced, List.intercalate]
  simp [searchParts, groups, hoption, Text.spaced, List.intercalate]

variable {b : Bookmark}

theorem mem_pieces_of_mem_texts {s : Text} (h : s ∈ b.texts) (hne : s ≠ []) : s ∈ b.pieces := by
  have hempty : (!s.isEmpty) = true := by simpa using hne
  simp only [texts, pieces, List.mem_cons, List.mem_append, List.mem_filter] at h ⊢
  tauto

/-- **Each piece stands in the search text**, in lower case. -/
theorem lower_infix_searchText {piece : Text} (h : piece ∈ b.pieces) :
    Text.lower piece <:+: b.searchText := by
  rw [pieces_eq] at h
  obtain ⟨group, hgroup, hpiece⟩ := List.mem_flatten.1 h
  rw [searchText, searchParts_eq]
  exact (Text.lower_infix_of_mem hpiece).trans (Text.lower_infix_of_mem (List.mem_map_of_mem hgroup))

/-- **A term without spaces never matches across pieces.** It occurs in the search text exactly if
it occurs in one of the pieces, each of them lowered by itself. -/
theorem infix_searchText_iff (b : Bookmark) {term : Text} (hne : term ≠ [])
    (hspace : .char ' ' ∉ term) :
    Text.lower term <:+: b.searchText ↔
      ∃ piece ∈ b.pieces, Text.lower term <:+: Text.lower piece := by
  refine ⟨fun h => ?_, fun ⟨piece, hpiece, h⟩ => h.trans (lower_infix_searchText hpiece)⟩
  have hlowerNe : Text.lower term ≠ [] := Text.lower_ne_nil hne
  have hlowerSpace : .char ' ' ∉ Text.lower term := fun hmem =>
    hspace (Text.mem_of_mem_lowerFrom (by decide) hmem)
  have hparts : ∀ {parts : List Text}, Text.lower term <:+: Text.lower (Text.spaced parts) →
      ∃ s ∈ parts, Text.lower term <:+: Text.lower s :=
    (Text.infix_lower_spaced_iff hlowerSpace hlowerNe).1
  rw [searchText, searchParts_eq] at h
  obtain ⟨_, hmem, hpart⟩ := hparts h
  obtain ⟨group, hgroup, rfl⟩ := List.mem_map.1 hmem
  obtain ⟨piece, hpiece, hterm⟩ := hparts hpart
  exact ⟨piece, pieces_eq b ▸ List.mem_flatten_of_mem hgroup hpiece, hterm⟩

/-- The sigma at the end of a tag is final, in the search text too, where another tag follows. -/
theorem infix_searchText_iff_final_sigma :
    let b := { Bookmark.ofUrl "a.org" with tags := ["ΟΔΟΣ", "", "ΟΔΟΙ"] }
    let term : Text := "#οδος"
    term ≠ [] ∧ .char ' ' ∉ term ∧ Text.lower term <:+: b.searchText ∧
      ∃ piece ∈ b.pieces, Text.lower term <:+: Text.lower piece := by
  intro b term
  have hne : term ≠ [] := by decide
  have hspace : .char ' ' ∉ term := by decide
  have hsearch : Text.lower term <:+: b.searchText := by decide +kernel
  exact ⟨hne, hspace, hsearch, (b.infix_searchText_iff hne hspace).1 hsearch⟩

end Bookmark

end Bookmarks
