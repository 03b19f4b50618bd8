import Bookmarks.Number.Decimal
import Bookmarks.Text.Digit
import Mathlib

/-!
# Numbers and their digits

The digits of a number in base ten are digits of texts, and their value is the number.

* `digitsValue_lt`: as many digits as there are bound the value of a run of them.
* `isDigit_of_mem_digits`: what is written are digits.
* **`digitsValue_digits`**: the digits of a number write it.
* `Decimal.padded_succ`: the digits to a fixed width, from the last one on.
-/

namespace Bookmarks.Text

theorem digitValue?_lt {c : CodePoint} {n : Nat} (h : digitValue? c = some n) : n < 10 := by
  unfold digitValue? at h
  obtain ⟨first, hfirst, rfl⟩ := Option.map_eq_some_iff.1 h
  have hrange := List.find?_some hfirst
  simp only [Bool.and_eq_true, decide_eq_true_eq] at hrange
  omega

theorem getD_digitValue?_lt (c : CodePoint) : (digitValue? c).getD 0 < 10 := by
  cases hc : digitValue? c with
  | none => decide
  | some n => exact digitValue?_lt hc

theorem digitsValue_append_singleton (s : Text) (c : CodePoint) :
    digitsValue (s ++ [c]) = 10 * digitsValue s + (digitValue? c).getD 0 := by
  rw [digitsValue, List.foldl_append]
  rfl

theorem digitsValue_lt (s : Text) : digitsValue s < 10 ^ s.length := by
  induction s using List.reverseRecOn with
  | nil => decide
  | append_singleton s c ih =>
    have hc := getD_digitValue?_lt c
    rw [digitsValue_append_singleton, List.length_append, List.length_singleton, pow_succ]
    omega

/-! ## The digits of a number -/

theorem digitValue?_digitChar {n : Nat} (h : n < 10) :
    digitValue? (.char n.digitChar) = some n := by
  interval_cases n <;> rfl

theorem exists_of_mem_digits {n : Nat} {c : CodePoint} (hc : c ∈ ofChars (Decimal.digits n)) :
    ∃ digit < 10, c = .char digit.digitChar := by
  unfold ofChars Decimal.digits at hc
  induction n using Nat.strong_induction_on with
  | _ n ih =>
    rw [Nat.toDigits_eq_if (by decide)] at hc
    split at hc
    · next hn =>
      rw [List.map_singleton, List.mem_singleton] at hc
      exact ⟨n, hn, hc⟩
    · next hn =>
      rw [List.map_append, List.mem_append, List.map_singleton, List.mem_singleton] at hc
      rcases hc with hc | hc
      · exact ih (n / 10) (by omega) hc
      · exact ⟨n % 10, Nat.mod_lt n (by decide), hc⟩

theorem isDigit_of_mem_digits {n : Nat} {c : CodePoint} (hc : c ∈ ofChars (Decimal.digits n)) :
    isDigit c = true := by
  obtain ⟨digit, hdigit, rfl⟩ := exists_of_mem_digits hc
  rw [isDigit, digitValue?_digitChar hdigit]
  rfl

/-- **The digits of a number write it.** -/
theorem digitsValue_digits (n : Nat) : digitsValue (ofChars (Decimal.digits n)) = n := by
  unfold ofChars Decimal.digits
  induction n using Nat.strong_induction_on with
  | _ n ih =>
    rw [Nat.toDigits_eq_if (by decide)]
    split
    · next hn =>
      change 10 * 0 + (digitValue? (.char n.digitChar)).getD 0 = n
      rw [digitValue?_digitChar hn]
      simp
    · next hn =>
      rw [List.map_append, List.map_singleton, digitsValue_append_singleton,
        ih (n / 10) (by omega), digitValue?_digitChar (Nat.mod_lt n (by decide))]
      exact Nat.div_add_mod n 10

theorem length_digits_pos (n : Nat) : 0 < (Decimal.digits n).length :=
  Nat.length_toDigits_pos

theorem length_digits_le {n count : Nat} (hcount : 0 < count) (h : n < 10 ^ count) :
    (Decimal.digits n).length ≤ count :=
  (Nat.length_toDigits_le_iff (by decide) hcount).2 h

end Bookmarks.Text

/-! ## Digits to a fixed width -/

namespace Bookmarks.Decimal

theorem padded_one {n : Nat} (h : n < 10) : padded 1 n = [n.digitChar] := by
  rw [padded, digits, Nat.toDigits_of_lt_base h]
  rfl

theorem padded_succ {width n : Nat} (hwidth : 0 < width) :
    padded (width + 1) n = padded width (n / 10) ++ [(n % 10).digitChar] := by
  unfold padded digits
  by_cases hn : n < 10
  · obtain ⟨width, rfl⟩ := Nat.exists_eq_succ_of_ne_zero hwidth.ne'
    rw [Nat.div_eq_of_lt hn, Nat.mod_eq_of_lt hn, Nat.toDigits_of_lt_base hn]
    simp [List.replicate_succ']
  · rw [Nat.toDigits_eq_if (by decide), if_neg hn, List.length_append, List.length_singleton,
      Nat.add_sub_add_right, List.append_assoc]

theorem length_padded {width n : Nat} (hwidth : 0 < width) (h : n < 10 ^ width) :
    (padded width n).length = width := by
  have := Text.length_digits_le hwidth h
  rw [padded, List.length_append, List.length_replicate]
  omega

theorem padded_ne_nil (width n : Nat) : padded width n ≠ [] :=
  List.append_ne_nil_of_right_ne_nil _ (List.ne_nil_of_length_pos (Text.length_digits_pos n))

theorem exists_of_mem_padded {width n : Nat} {c : Char} (hc : c ∈ padded width n) :
    ∃ digit < 10, c = digit.digitChar := by
  rcases List.mem_append.1 hc with hc | hc
  · exact ⟨0, by decide, List.eq_of_mem_replicate hc⟩
  · obtain ⟨digit, hdigit, heq⟩ := Text.exists_of_mem_digits (List.mem_map_of_mem hc)
    exact ⟨digit, hdigit, CodePoint.char.inj heq⟩

end Bookmarks.Decimal
