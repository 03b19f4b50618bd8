import Bookmarks.Text.Split
import Mathlib.Data.List.Basic

/-!
# The parts of a list

A list without separators is one part, and a separator ends the part before it. Every list is built
in these two ways (`induction_parts`), so what is true of the parts is seen at the first separator.

* `splitBy_of_free`, `splitBy_append_cons`: the parts, from the first separator on.
* `flatten_splitBy`: the parts hold all other elements, in their order.
* **`exists_part_iff`**: two elements are in one part if no separator stands between them.
-/

namespace Bookmarks.Text

variable {α : Type} {p : α → Bool}

/-- Induction on the separators of a list. -/
theorem induction_parts {motive : List α → Prop}
    (free : ∀ s, (∀ x ∈ s, p x = false) → motive s)
    (cut : ∀ l c r, (∀ x ∈ l, p x = false) → p c = true → motive r → motive (l ++ c :: r))
    (s : List α) : motive s := by
  -- the elements before the first separator are collected in `l`
  have hall : ∀ l : List α, (∀ x ∈ l, p x = false) → motive (l ++ s) := by
    induction s with
    | nil =>
      intro l hl
      rw [List.append_nil]
      exact free l hl
    | cons c s ih =>
      intro l hl
      cases hc : p c with
      | true => exact cut l c s hl hc (ih [] (List.forall_mem_nil _))
      | false =>
        have hlc : ∀ x ∈ l ++ [c], p x = false := by
          intro x hx
          rcases List.mem_append.1 hx with hx | hx
          · exact hl x hx
          · rw [List.mem_singleton.1 hx, hc]
        have hs := ih (l ++ [c]) hlc
        rwa [List.append_assoc] at hs
  exact hall [] (List.forall_mem_nil _)

theorem map_consFirst {β : Type} (f : α → β) (c : α) (parts : List (List α)) :
    (consFirst c parts).map (List.map f) = consFirst (f c) (parts.map (List.map f)) := by
  cases parts <;> rfl

theorem splitBy_of_free {s : List α} (h : ∀ x ∈ s, p x = false) : splitBy p s = [s] := by
  induction s with
  | nil => rfl
  | cons c s ih =>
    obtain ⟨hc, hs⟩ := List.forall_mem_cons.1 h
    rw [splitBy, hc, if_neg Bool.false_ne_true, ih hs]
    rfl

theorem splitBy_append_cons {l : List α} (hl : ∀ x ∈ l, p x = false) {c : α} (hc : p c = true)
    (r : List α) : splitBy p (l ++ c :: r) = l :: splitBy p r := by
  induction l with
  | nil => rw [List.nil_append, splitBy, if_pos hc]
  | cons d l ih =>
    obtain ⟨hd, hl⟩ := List.forall_mem_cons.1 hl
    rw [List.cons_append, splitBy, hd, if_neg Bool.false_ne_true, ih hl]
    rfl

theorem flatten_splitBy (p : α → Bool) (s : List α) : (splitBy p s).flatten = s.filter (!p ·) := by
  induction s using induction_parts (p := p) with
  | free s h =>
    rw [splitBy_of_free h, List.flatten_singleton, List.filter_eq_self.2]
    exact fun x hx => by rw [h x hx]; rfl
  | cut l c r hl hc ih =>
    have hkept : l.filter (!p ·) = l := List.filter_eq_self.2 fun x hx => by rw [hl x hx]; rfl
    rw [splitBy_append_cons hl hc, List.flatten_cons, ih, List.filter_append, hkept,
      List.filter_cons_of_neg (by simp [hc])]

theorem mem_of_mem_part {s part : List α} (hpart : part ∈ splitBy p s) {x : α} (hx : x ∈ part) :
    x ∈ s := by
  have hmem : x ∈ (splitBy p s).flatten := List.mem_flatten.2 ⟨part, hpart, hx⟩
  rw [flatten_splitBy] at hmem
  exact List.mem_of_mem_filter hmem

/-- **Two elements are in one part** if no separator stands between them. The places of the elements
rise. -/
theorem exists_part_iff {place : α → Nat} {s : List α}
    (hrise : s.Pairwise fun x y => place x < place y) {a b : α} (ha : a ∈ s) (hb : b ∈ s)
    (hpa : p a = false) (hpb : p b = false) (hab : place a < place b) :
    (∃ part ∈ splitBy p s, a ∈ part ∧ b ∈ part) ↔
      ∀ x ∈ s, place a < place x → place x < place b → p x = false := by
  induction s using induction_parts (p := p) with
  | free s h =>
    rw [splitBy_of_free h]
    exact iff_of_true ⟨s, List.mem_singleton_self s, ha, hb⟩ fun x hx _ _ => h x hx
  | cut l c r hl hc ih =>
    obtain ⟨-, hcr, hlcr⟩ := List.pairwise_append.1 hrise
    obtain ⟨hcr, hr⟩ := List.pairwise_cons.1 hcr
    have hlc : ∀ x ∈ l, place x < place c := fun x hx => hlcr x hx c List.mem_cons_self
    have hsides : ∀ x ∈ l ++ c :: r, x ∈ l ∧ place x < place c ∨ x = c ∨
        x ∈ r ∧ place c < place x := by
      intro x hx
      rcases List.mem_append.1 hx with hx | hx
      · exact .inl ⟨hx, hlc x hx⟩
      · exact .inr ((List.mem_cons.1 hx).imp_right fun hx => ⟨hx, hcr x hx⟩)
    have hne : ∀ x, p x = false → x ≠ c := by
      rintro x hpx rfl
      rw [hc] at hpx
      cases hpx
    rw [splitBy_append_cons hl hc]
    rcases hsides a ha with ⟨hal, hac⟩ | hac | ⟨har, hac⟩
    · rcases hsides b hb with ⟨hbl, hbc⟩ | hbc | ⟨hbr, hbc⟩
      · -- both stand before the separator
        refine iff_of_true ⟨l, List.mem_cons_self, hal, hbl⟩ fun x hx _ hxb => ?_
        rcases hsides x hx with ⟨hx, -⟩ | rfl | ⟨-, hcx⟩
        · exact hl x hx
        · omega
        · omega
      · exact absurd hbc (hne b hpb)
      · -- the separator stands between them
        refine iff_of_false ?_ fun hfree => ?_
        · rintro ⟨part, hpart, hapart, hbpart⟩
          rcases List.mem_cons.1 hpart with rfl | hpart
          · have := hlc b hbpart
            omega
          · have := hcr a (mem_of_mem_part hpart hapart)
            omega
        · exact hne c (hfree c (List.mem_append_right l List.mem_cons_self) hac hbc) rfl
    · exact absurd hac (hne a hpa)
    · -- both stand behind the separator, as the second one is behind the first one
      have hbr : b ∈ r := by
        rcases hsides b hb with ⟨-, hbc⟩ | hbc | ⟨hbr, -⟩
        · omega
        · exact absurd hbc (hne b hpb)
        · exact hbr
      have hparts : (∃ part ∈ l :: splitBy p r, a ∈ part ∧ b ∈ part) ↔
          ∃ part ∈ splitBy p r, a ∈ part ∧ b ∈ part := by
        constructor
        · rintro ⟨part, hpart, hapart, hbpart⟩
          rcases List.mem_cons.1 hpart with rfl | hpart
          · have := hlc a hapart
            omega
          · exact ⟨part, hpart, hapart, hbpart⟩
        · rintro ⟨part, hpart, hab⟩
          exact ⟨part, List.mem_cons_of_mem l hpart, hab⟩
      rw [hparts, ih hr har hbr]
      constructor
      · intro hfree x hx hax hxb
        rcases hsides x hx with ⟨-, hxc⟩ | rfl | ⟨hx, -⟩
        · omega
        · omega
        · exact hfree x hx hax hxb
      · intro hfree x hx
        exact hfree x (List.mem_append_right l (List.mem_cons_of_mem c hx))

end Bookmarks.Text
