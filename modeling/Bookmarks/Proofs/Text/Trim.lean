import Bookmarks.Text.Blank
import Mathlib.Data.List.TakeWhile

/-!
# Trimmed texts

What is left of a list without some elements at its ends: it is a part of the list, neither of its
ends is such an element, and a list with ends of that kind is left as it is.

* `dropEnd_isPrefix`, `trimBy_sublist`, `filter_trimBy`: nothing is added, and nothing else is lost.
* **`getLast?_trimBy`**, **`head?_trimBy`**: the ends of what is left.
* `trimBy_map`: trimming a list of images.
* `trimBy_eq_self`, `trimBy_eq_self_iff`: what is trimmed already.
* `trimBy_eq_nil_iff`: what is trimmed to nothing.
-/

namespace Bookmarks.Text

variable {α : Type} {p : α → Bool}

theorem dropEnd_isPrefix (p : α → Bool) (s : List α) : dropEnd p s <+: s := by
  induction s with
  | nil => exact List.prefix_rfl
  | cons c rest ih =>
    unfold dropEnd
    split
    · by_cases hc : p c = true
      · rw [if_pos hc]
        exact List.nil_prefix
      · rw [if_neg hc]
        exact List.prefix_append [c] rest
    · exact List.cons_prefix_cons.2 ⟨rfl, ih⟩

theorem getLast?_dropEnd (s : List α) : ∀ c ∈ (dropEnd p s).getLast?, p c = false := by
  induction s with
  | nil => simp [dropEnd]
  | cons d rest ih =>
    unfold dropEnd
    split
    · by_cases hd : p d = true <;> simp [hd]
    · next hkept =>
      intro c hc
      rw [List.getLast?_cons_of_ne_nil hkept] at hc
      exact ih c hc

theorem dropEnd_eq_self {s : List α} (h : ∀ c ∈ s.getLast?, p c = false) : dropEnd p s = s := by
  induction s with
  | nil => rfl
  | cons d rest ih =>
    unfold dropEnd
    cases rest with
    | nil => simp [dropEnd, h d rfl]
    | cons e rest =>
      rw [ih fun c hc => h c (by rwa [List.getLast?_cons_cons])]

theorem dropEnd_append_cons {c : α} (h : p c = false) (s rest : List α) :
    dropEnd p (s ++ c :: rest) = s ++ c :: dropEnd p rest := by
  have hkept : dropEnd p (c :: rest) = c :: dropEnd p rest := by
    rw [dropEnd]
    cases dropEnd p rest with
    | nil => simp [h]
    | cons d kept => rfl
  induction s with
  | nil => exact hkept
  | cons d s ih =>
    rw [List.cons_append, dropEnd, ih]
    cases s <;> rfl

/-- What ends with an element that stays is found in what is left as before. -/
theorem infix_dropEnd_iff {c : α} (h : p c = false) {r s : List α} :
    r ++ [c] <:+: dropEnd p s ↔ r ++ [c] <:+: s := by
  constructor
  · exact fun hinfix => hinfix.trans (dropEnd_isPrefix p s).isInfix
  · rintro ⟨before, after, rfl⟩
    refine ⟨before, dropEnd p after, ?_⟩
    simpa using (dropEnd_append_cons h (before ++ r) after).symm

theorem dropEnd_map {β : Type} (p : β → Bool) (f : α → β) (s : List α) :
    dropEnd p (s.map f) = (dropEnd (p ∘ f) s).map f := by
  induction s with
  | nil => rfl
  | cons c s ih =>
    rw [List.map_cons, dropEnd, ih, dropEnd]
    cases dropEnd (p ∘ f) s with
    | nil =>
      change (if p (f c) then [] else [f c]) = List.map f (if p (f c) then [] else [c])
      cases p (f c) <;> rfl
    | cons d kept => rfl

theorem trimBy_map {β : Type} (p : β → Bool) (f : α → β) (s : List α) :
    trimBy p (s.map f) = (trimBy (p ∘ f) s).map f := by
  rw [trimBy, List.dropWhile_map, dropEnd_map, trimBy]

theorem trimBy_sublist (p : α → Bool) (s : List α) : (trimBy p s).Sublist s :=
  (dropEnd_isPrefix p _).sublist.trans (List.dropWhile_sublist p)

theorem getLast?_trimBy (s : List α) : ∀ c ∈ (trimBy p s).getLast?, p c = false :=
  getLast?_dropEnd _

theorem head?_trimBy (s : List α) : ∀ c ∈ (trimBy p s).head?, p c = false := by
  intro c hc
  obtain ⟨rest, hrest⟩ := dropEnd_isPrefix p (s.dropWhile p)
  have hhead : (s.dropWhile p).head? = some c := by
    rw [← hrest, List.head?_append, show (dropEnd p (s.dropWhile p)).head? = some c from hc]
    rfl
  have := List.head?_dropWhile_not p s
  rwa [hhead] at this

theorem filter_dropEnd (p : α → Bool) (s : List α) :
    (dropEnd p s).filter (!p ·) = s.filter (!p ·) := by
  induction s with
  | nil => rfl
  | cons c s ih =>
    rw [dropEnd, List.filter_cons, ← ih]
    cases dropEnd p s with
    | nil => cases hc : p c <;> simp [hc]
    | cons d kept => exact List.filter_cons

theorem filter_trimBy (p : α → Bool) (s : List α) :
    (trimBy p s).filter (!p ·) = s.filter (!p ·) := by
  have hdropped : (s.takeWhile p).filter (!p ·) = [] := by
    refine List.filter_eq_nil_iff.2 fun c hc => ?_
    simp [List.mem_takeWhile_imp hc]
  calc (trimBy p s).filter (!p ·) = (s.dropWhile p).filter (!p ·) := filter_dropEnd p _
    _ = (s.takeWhile p ++ s.dropWhile p).filter (!p ·) := by
      rw [List.filter_append, hdropped, List.nil_append]
    _ = s.filter (!p ·) := by rw [List.takeWhile_append_dropWhile]

theorem trimBy_eq_self {s : List α} (hhead : ∀ c ∈ s.head?, p c = false)
    (hlast : ∀ c ∈ s.getLast?, p c = false) : trimBy p s = s := by
  have hdrop : s.dropWhile p = s := by
    cases s with
    | nil => rfl
    | cons c rest => rw [List.dropWhile_cons_of_neg (by simp [hhead c rfl])]
  rw [trimBy, hdrop, dropEnd_eq_self hlast]

theorem trimBy_eq_nil_iff {s : List α} : trimBy p s = [] ↔ ∀ c ∈ s, p c = true := by
  rw [← List.dropWhile_eq_nil_iff, trimBy]
  cases h : s.dropWhile p with
  | nil => exact iff_of_true rfl rfl
  | cons c rest =>
    have hc : p c = false := by simpa [h] using List.head?_dropWhile_not p s
    have hkept := dropEnd_append_cons hc [] rest
    rw [List.nil_append] at hkept
    rw [hkept, List.nil_append]
    exact iff_of_false (List.cons_ne_nil _ _) (List.cons_ne_nil _ _)

theorem trimBy_trimBy (p : α → Bool) (s : List α) : trimBy p (trimBy p s) = trimBy p s :=
  trimBy_eq_self (head?_trimBy s) (getLast?_trimBy s)

theorem trimBy_eq_self_iff {s : List α} :
    trimBy p s = s ↔ s.head?.map p ≠ some true ∧ s.getLast?.map p ≠ some true := by
  have hend : ∀ o : Option α, o.map p ≠ some true ↔ ∀ c ∈ o, p c = false := by
    intro o
    cases o <;> simp
  rw [hend, hend]
  constructor
  · intro h
    rw [← h]
    exact ⟨head?_trimBy s, getLast?_trimBy s⟩
  · rintro ⟨hhead, hlast⟩
    exact trimBy_eq_self hhead hlast

end Bookmarks.Text
