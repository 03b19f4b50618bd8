/-!
# Occurrences

Looking for one list of characters inside another.

* `occursIn`: whether it is there; `occursIn_iff` says what that means.
* `after?`: what follows a given beginning; `after?_eq_some_iff` says what that means.
* `leftmost?`: the answer of a matcher at the leftmost place where it gives one;
  `leftmost?_eq_some_iff` and `leftmost?_eq_none_iff` say so by the positions in the text.
-/

namespace Bookmarks.Text

variable {α : Type}

/-- The characters `needle` stand somewhere in the text, one after the other. -/
def occursIn [DecidableEq α] (needle : List α) : List α → Bool
  | [] => needle.isEmpty
  | c :: rest => needle.isPrefixOf (c :: rest) || occursIn needle rest

theorem occursIn_iff [DecidableEq α] {needle hay : List α} :
    occursIn needle hay = true ↔ needle <:+: hay := by
  induction hay with
  | nil => simp [occursIn, List.isEmpty_iff]
  | cons c rest ih =>
    rw [occursIn, Bool.or_eq_true, ih, List.infix_cons_iff, List.isPrefixOf_iff_prefix]

/-- What follows the beginning `start` of a text that has it. -/
def after? [DecidableEq α] : (start text : List α) → Option (List α)
  | [], text => some text
  | _ :: _, [] => none
  | c :: start, d :: text => if c = d then after? start text else none

theorem after?_eq_some_iff [DecidableEq α] {start text rest : List α} :
    after? start text = some rest ↔ text = start ++ rest := by
  induction start generalizing text with
  | nil => rw [after?, Option.some.injEq, List.nil_append]
  | cons c start ih =>
    cases text with
    | nil => simp [after?]
    | cons d text =>
      rw [after?, List.cons_append, List.cons.injEq, eq_comm (a := d)]
      split
      · next hc => rw [ih, and_iff_right hc]
      · next hc => simp [hc]

theorem length_after? [DecidableEq α] {start text rest : List α}
    (h : after? start text = some rest) : start.length + rest.length = text.length := by
  induction start generalizing text with
  | nil =>
    rw [after?, Option.some.injEq] at h
    simp [h]
  | cons c start ih =>
    cases text with
    | nil => simp [after?] at h
    | cons d text =>
      rw [after?] at h
      split at h
      · have := ih h
        simp only [List.length_cons]
        omega
      · simp at h

/-- The answer of `here` at the leftmost place of the text where it gives one. -/
def leftmost? {β : Type} (here : List α → Option β) : List α → Option β
  | [] => here []
  | c :: rest =>
    match here (c :: rest) with
    | some answer => some answer
    | none => leftmost? here rest

theorem leftmost?_eq_some_iff {β : Type} {here : List α → Option β} {s : List α} {answer : β} :
    leftmost? here s = some answer ↔
      ∃ i, here (s.drop i) = some answer ∧ ∀ j < i, here (s.drop j) = none := by
  induction s with
  | nil =>
    simp only [leftmost?, List.drop_nil]
    exact ⟨fun h => ⟨0, h, fun j hj => absurd hj (Nat.not_lt_zero j)⟩, fun ⟨_, h, _⟩ => h⟩
  | cons c rest ih =>
    rw [leftmost?]
    cases hfirst : here (c :: rest) with
    | some first =>
      constructor
      · intro h
        exact ⟨0, hfirst.trans h, fun j hj => absurd hj (Nat.not_lt_zero j)⟩
      · rintro ⟨i, hi, hbefore⟩
        cases i with
        | zero => exact hfirst.symm.trans hi
        | succ i =>
          have hnone := hbefore 0 (Nat.succ_pos i)
          exact absurd (hfirst.symm.trans hnone) (Option.some_ne_none first)
    | none =>
      refine ih.trans ⟨fun ⟨i, hi, hbefore⟩ => ⟨i + 1, hi, fun j hj => ?_⟩,
        fun ⟨i, hi, hbefore⟩ => ?_⟩
      · cases j with
        | zero => exact hfirst
        | succ j => exact hbefore j (Nat.lt_of_succ_lt_succ hj)
      · cases i with
        | zero => exact absurd (hi.symm.trans hfirst) (Option.some_ne_none answer)
        | succ i => exact ⟨i, hi, fun j hj => hbefore (j + 1) (Nat.succ_lt_succ hj)⟩

theorem leftmost?_eq_none_iff {β : Type} {here : List α → Option β} {s : List α} :
    leftmost? here s = none ↔ ∀ i, here (s.drop i) = none := by
  induction s with
  | nil => simp [leftmost?]
  | cons c rest ih =>
    rw [leftmost?]
    cases hfirst : here (c :: rest) with
    | some first =>
      have hsome := Option.some_ne_none first
      exact iff_of_false hsome fun h => hsome (hfirst.symm.trans (h 0))
    | none =>
      refine ih.trans ⟨fun h i => ?_, fun h i => h (i + 1)⟩
      cases i with
      | zero => exact hfirst
      | succ i => exact h i

end Bookmarks.Text
