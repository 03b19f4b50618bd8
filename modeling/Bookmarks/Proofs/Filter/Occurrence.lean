import Bookmarks.Proofs.Filter.Admits
import Bookmarks.Proofs.Filter.Pieces

/-!
# Words that are copied from a bookmark

A word and the text that it is looked for in are lowered apart from each other. A word that was
copied out of a text is found again, unless its lower-case form is another one there: a capital
sigma at the edge of the word can be final in one of them and not in the other.

* `Text.OccursAlike`: a word stands in a text with the lower-case form that it has by itself.
* `Bookmark.Finds`: a word finds a bookmark wherever it occurs in its texts, tags and labels.
* `Bookmark.finds_occursAlike`: a word finds the bookmarks where it occurs with its own form.
* `Bookmark.isSettled_of_matches`: only a settled word finds all that it was copied from.
* **`Bookmark.finds_iff_isSettled`**: which words find all that they were copied from.
-/

namespace Bookmarks

namespace Text

/-- The term stands in the text with the lower-case form that it has by itself. -/
def OccursAlike (term text : Text) : Prop :=
  ∃ before after, text = before ++ (term ++ after) ∧
    lowerWithin (casedBehindOf false before) (casedAhead after) term = lower term

theorem OccursAlike.lower_infix {term text : Text} (h : OccursAlike term text) :
    lower term <:+: lower text := by
  obtain ⟨before, after, rfl, hform⟩ := h
  obtain ⟨start, rest, hlower⟩ := lower_append_append before term after
  exact ⟨start, rest, by rw [hlower, hform, List.append_assoc]⟩

theorem OccursAlike.ne_nil {term text : Text} (h : OccursAlike term text) (hne : term ≠ []) :
    text ≠ [] := by
  obtain ⟨before, after, rfl, -⟩ := h
  simp [hne]

theorem IsSettled.occursAlike {term text : Text} (h : term.IsSettled) (hin : term <:+: text) :
    OccursAlike term text := by
  obtain ⟨before, after, rfl⟩ := hin
  exact ⟨before, after, List.append_assoc .., h _ _⟩

end Text

namespace Bookmark

/-- The term finds the bookmark wherever it occurs in it: as a required and as an excluded word, and
as the value of a filter. `Occurs` says what it means to occur in a text. -/
structure Finds (b : Bookmark) (now : Timestamp) (term : Text) (Occurs : Text → Prop) : Prop where
  required : ∀ text ∈ b.texts, Occurs text →
    Spec.evaluate { Spec.empty with required := [term] } b now = .ok (some 2)
  excluded : ∀ text ∈ b.texts, Occurs text →
    Spec.evaluate { Spec.empty with excluded := [term] } b now = .ok none
  tag : ∀ tag ∈ b.tags, Occurs tag → (Predicate.tag term).holds b now = .ok true
  label : ∀ l, ∀ text ∈ b.label l, Occurs text → (Predicate.label l term).holds b now = .ok true

variable {b : Bookmark} {now : Timestamp} {term : Text}

theorem Finds.imp {Occurs Occurs' : Text → Prop} (h : b.Finds now term Occurs)
    (himp : ∀ text, Occurs' text → Occurs text) : b.Finds now term Occurs' where
  required text hmem hoccurs := h.required text hmem (himp text hoccurs)
  excluded text hmem hoccurs := h.excluded text hmem (himp text hoccurs)
  tag text hmem hoccurs := h.tag text hmem (himp text hoccurs)
  label l text hmem hoccurs := h.label l text hmem (himp text hoccurs)

/-! ## One word -/

theorem finds_occursAlike (hne : term ≠ []) (b : Bookmark) (now : Timestamp) :
    b.Finds now term (Text.OccursAlike term) := by
  have hmatches : ∀ text ∈ b.texts, Text.OccursAlike term text → b.Matches term :=
    fun text hmem h => h.lower_infix.trans
      (lower_infix_searchText (mem_pieces_of_mem_texts hmem (h.ne_nil hne)))
  have hmentions : ∀ text, Text.OccursAlike term text → mentions text term = true :=
    fun text h => Text.occursIn_iff.2 h.lower_infix
  refine ⟨fun text hmem h => ?_, fun text hmem h => ?_, fun tag hmem h => ?_,
    fun l text hmem h => ?_⟩
  · rw [evaluate_required, if_pos (hmatches text hmem h)]
  · rw [evaluate_excluded, if_pos (hmatches text hmem h)]
  · have hany : b.tags.any (mentions · term) = true :=
      List.any_eq_true.2 ⟨tag, hmem, hmentions tag h⟩
    simp [Predicate.holds, Predicate.tagHolds, hne, hany]
  · have htext : text ≠ [] := h.ne_nil hne
    simp [Predicate.holds, Predicate.labelHolds, Option.mem_def.1 hmem, htext, hne,
      hmentions text h]

/-! ## Words that find all that they were copied from -/

theorem count_searchText_ofUrl {x : CodePoint} (hx : x ≠ .char ' ') (url : Text) :
    (ofUrl url).searchText.count x = (Text.lower url).count x := by
  rw [searchText, Text.lower_spaced]
  simp [searchParts, ofUrl, Text.lower, Text.lowerFrom, Text.spaced, List.intercalate, hx.symm]

/-- **Only a settled word finds all that it was copied from.** Of two addresses, with a letter before
the word and with a letter behind it, one is missed otherwise. -/
theorem isSettled_of_matches (h : ∀ url, term <:+: url → (ofUrl url).Matches term) :
    term.IsSettled := by
  have hcount : ∀ {url : Text}, term <:+: url → ∀ final,
      (Text.lower term).count (Text.lowerSigma final) ≤
        (Text.lower url).count (Text.lowerSigma final) := by
    intro url hin final
    have hspace : Text.lowerSigma final ≠ .char ' ' := by cases final <;> decide
    have hle := (h url hin).sublist.count_le (Text.lowerSigma final)
    rwa [count_searchText_ofUrl hspace] at hle
  have hletter : ∀ final, .char 'a' ≠ Text.lowerSigma final := by decide
  have hself : Text.lower term = Text.lowerWithin false false term :=
    Text.lowerFrom_eq_lowerWithin false term
  refine Text.isSettled_iff.2 ⟨?_, ?_⟩
  · have hfewer : Text.FewerFinals (Text.lower term) (Text.lowerWithin true false term) :=
      hself ▸ Text.fewerFinals_lowerWithin (fun h => absurd h Bool.false_ne_true) id term
    have hle := hcount (List.suffix_cons (.char 'a') term).isInfix false
    rw [Text.lower_letter_append, List.count_cons_of_ne (hletter false)] at hle
    exact (hfewer.eq_of_count_le hle).symm
  · have hfewer : Text.FewerFinals (Text.lowerWithin false true term) (Text.lower term) :=
      hself ▸ Text.fewerFinals_lowerWithin id (fun h => absurd h Bool.false_ne_true) term
    have hle := hcount (List.prefix_append term [.char 'a']).isInfix true
    rw [Text.lower_append_letter, List.count_append, List.count_cons_of_ne (hletter true),
      List.count_nil] at hle
    exact hfewer.eq_of_count_final_le hle

/-- **Which words find all that they were copied from.** A word finds each bookmark where it occurs
with its own lower-case form. So it finds each bookmark where it occurs at all, exactly if this form
is the same everywhere; the form of a word without a capital sigma is. -/
theorem finds_iff_isSettled (hne : term ≠ []) :
    (∀ b now, Finds b now term (Text.OccursAlike term)) ∧
      (term.IsSettled ↔ ∀ b now, Finds b now term (term <:+: ·)) ∧
      ((∀ c ∈ term, c.toNat ≠ 0x3A3) → ∀ b now, Finds b now term (term <:+: ·)) := by
  have hfinds := finds_occursAlike hne
  have hsettled : term.IsSettled → ∀ b now, Finds b now term (term <:+: ·) :=
    fun h b now => (hfinds b now).imp fun _ => h.occursAlike
  refine ⟨hfinds, ⟨hsettled, fun h => ?_⟩, fun h => hsettled (Text.isSettled_of_no_sigma h)⟩
  refine isSettled_of_matches fun url hin => ?_
  have hscore := (h (ofUrl url) .epoch).required url List.mem_cons_self hin
  rw [evaluate_required] at hscore
  by_contra hmatches
  rw [if_neg hmatches] at hscore
  exact Option.some_ne_none 2 (Except.ok.inj hscore).symm

/-- A sigma with a letter on both sides of it, inside the word. -/
theorem finds_iff_isSettled_inner_sigma :
    let term : Text := "ΟΣΑ"
    let title : Text := "ΔΟΣΑ!"
    let b := { ofUrl "a.org" with title := some title }
    term ≠ [] ∧ term.IsSettled ∧ term <:+: title ∧
      Spec.evaluate { Spec.empty with required := [term] } b .epoch = .ok (some 2) := by
  intro term title b
  have hne : term ≠ [] := by decide
  have hsettled : term.IsSettled := by decide +kernel
  have hin : term <:+: title := by decide +kernel
  have hfinds := (finds_iff_isSettled hne).2.1.1 hsettled b .epoch
  exact ⟨hne, hsettled, hin, hfinds.required title (by decide) hin⟩

/-- The last letter of a word in capitals: it is a final sigma in the word, and not by itself. -/
theorem final_sigma_not_found :
    let term : Text := "Σ"
    let word : Text := "ΟΔΟΣ"
    let b := { ofUrl "a.org" with title := some word, tags := [word], device := some word }
    term ≠ [] ∧ term <:+: word ∧ word ∈ b.texts ∧
      Spec.evaluate { Spec.empty with required := [term] } b .epoch = .ok none ∧
      Spec.evaluate { Spec.empty with excluded := [term] } b .epoch = .ok (some 0) ∧
      (Predicate.tag term).holds b .epoch = .ok false ∧
      (Predicate.label .device term).holds b .epoch = .ok false := by
  decide +kernel

end Bookmark

end Bookmarks
