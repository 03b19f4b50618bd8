import Bookmarks.Number.Basic
import Mathlib

/-!
# Where rounding gives an infinity

A quotient is rounded to an infinity from the middle between the greatest number of 64 bits and the
next power of two on. The exponent of its leading digit decides unless it is the greatest one there
is; then it is the mantissa that is, or is not, rounded up to the power of two.

* `Rounding.le_binaryOrder_iff`: the exponent of the leading digit.
* `Rounding.le_nearestEven_iff`: where rounding reaches an even number.
* **`Binary64.ofRatio_eq_infinite_iff`**: the quotients that are rounded to an infinity.
-/

namespace Bookmarks

namespace Rounding

theorem le_binaryOrder_iff {n d : Nat} (hn : n ≠ 0) (hd : d ≠ 0) (k : Nat) :
    (k : Int) ≤ binaryOrder n d ↔ d * 2 ^ k ≤ n := by
  have hnlow := Nat.log2_self_le hn
  have hnhigh := Nat.lt_log2_self (n := n)
  have hdlow := Nat.log2_self_le hd
  have hdhigh := Nat.lt_log2_self (n := d)
  have horder : binaryOrder n d = n.log2 - d.log2 ∨ binaryOrder n d = n.log2 - d.log2 - 1 := by
    unfold binaryOrder
    dsimp only
    split
    · exact .inr rfl
    · exact .inl rfl
  rcases lt_trichotomy (k + d.log2) n.log2 with hlt | heq | hgt
  · refine iff_of_true (by omega) ?_
    calc d * 2 ^ k ≤ 2 ^ (d.log2 + 1) * 2 ^ k := Nat.mul_le_mul_right _ hdhigh.le
      _ = 2 ^ (d.log2 + 1 + k) := (pow_add _ _ _).symm
      _ ≤ 2 ^ n.log2 := Nat.pow_le_pow_right two_pos (by omega)
      _ ≤ n := hnlow
  · have hk : (n.log2 : Int) - d.log2 = k := by omega
    unfold binaryOrder belowPower
    dsimp only
    rw [hk]
    have hneg : (-(k : Int)).toNat = 0 := by omega
    rw [hneg, Int.toNat_natCast]
    change _ ≤ (if decide (n * 2 ^ 0 < d * 2 ^ k) = true then _ else _) ↔ _
    rw [pow_zero, mul_one]
    by_cases h : n < d * 2 ^ k
    · rw [if_pos (decide_eq_true h)]
      omega
    · rw [if_neg (by simpa using h)]
      omega
  · refine iff_of_false (by omega) (Nat.not_le.2 ?_)
    calc n < 2 ^ (n.log2 + 1) := hnhigh
      _ ≤ 2 ^ (d.log2 + k) := Nat.pow_le_pow_right two_pos (by omega)
      _ = 2 ^ d.log2 * 2 ^ k := pow_add _ _ _
      _ ≤ d * 2 ^ k := Nat.mul_le_mul_right _ hdlow

/-- Rounding reaches an even number from the middle below it on. -/
theorem le_nearestEven_iff {n d m : Nat} (hd : d ≠ 0) (heven : m % 2 = 0) :
    m ≤ nearestEven n d ↔ 2 * (d * m) ≤ 2 * n + d := by
  have hdiv := Nat.div_add_mod n d
  have hmod := Nat.mod_lt n (Nat.pos_of_ne_zero hd)
  unfold nearestEven
  dsimp only
  generalize n / d = q at *
  generalize n % d = r at *
  rcases lt_trichotomy m (q + 1) with hlt | rfl | hgt
  · have hmul := Nat.mul_le_mul_left d (Nat.le_of_lt_succ hlt)
    refine iff_of_true ?_ (by omega)
    split_ifs <;> omega
  · rw [Nat.mul_succ]
    split_ifs <;> omega
  · have hmul := Nat.mul_le_mul_left d hgt
    rw [Nat.mul_succ, Nat.mul_succ] at hmul
    refine iff_of_false ?_ (by omega)
    split_ifs <;> omega

theorem nearestEven_le {n d m : Nat} (h : n < d * m) : nearestEven n d ≤ m := by
  have hdiv : n / d < m := Nat.div_lt_of_lt_mul h
  unfold nearestEven
  dsimp only
  split_ifs <;> omega

theorem scaled_natCast (n d k : Nat) : scaled 2 n d k = nearestEven n (d * 2 ^ k) := by
  have hneg : (-(k : Int)).toNat = 0 := by omega
  rw [scaled, hneg, Int.toNat_natCast, Nat.pow_eq, Nat.pow_eq, pow_zero, mul_one]

end Rounding

namespace Binary64

/-- The least natural number that is rounded to an infinity, `2 ^ 1024 - 2 ^ 970`. -/
def overflow : Nat := (2 ^ 54 - 1) <<< 970

theorem mul_overflow (d : Nat) : d * overflow = (2 ^ 54 - 1) * (d * 2 ^ 970) := by
  unfold overflow
  generalize 970 = k
  rw [Nat.shiftLeft_eq, Nat.mul_left_comm]

theorem mul_pow_add (d k : Nat) : d * 2 ^ (k + 970) = 2 ^ k * (d * 2 ^ 970) := by
  rw [pow_add, Nat.mul_left_comm]

theorem ofRatio_eq_infinite_iff_lt (negative : Bool) {n d : Nat} (hn : n ≠ 0) {exponent : Int}
    (he : max minExponent (Rounding.binaryOrder n d - 52) = exponent) :
    ofRatio negative n d = .infinite negative ↔
      maxExponent < if Rounding.scaled 2 n d exponent = 2 * minMantissa then exponent + 1
        else exponent := by
  unfold ofRatio
  rw [if_neg hn, he]
  by_cases h : Rounding.scaled 2 n d exponent = 2 * minMantissa
  · rw [if_pos h]
    dsimp only
    rw [if_pos h]
    split
    · next hlt => exact iff_of_true rfl hlt
    · next hlt => exact iff_of_false Binary64.noConfusion hlt
  · rw [if_neg h]
    dsimp only
    rw [if_neg h]
    split
    · next hlt => exact iff_of_true rfl hlt
    · next hlt => exact iff_of_false Binary64.noConfusion hlt

/-- **The quotients that are rounded to an infinity.** -/
theorem ofRatio_eq_infinite_iff (negative : Bool) {n d : Nat} (hd : d ≠ 0) :
    ofRatio negative n d = .infinite negative ↔ d * overflow ≤ n := by
  have hunit : 0 < d * 2 ^ 970 := Nat.mul_pos (Nat.pos_of_ne_zero hd) (by positivity)
  have hfull := mul_pow_add d 54
  have hhalf := mul_pow_add d 53
  have hscaled := Rounding.scaled_natCast n d (1 + 970)
  rw [mul_pow_add, pow_one] at hscaled
  rw [mul_overflow]
  by_cases hn : n = 0
  · rw [ofRatio, if_pos hn]
    exact iff_of_false Binary64.noConfusion (by omega)
  have hmore := Rounding.le_binaryOrder_iff hn hd (54 + 970)
  have hmost := Rounding.le_binaryOrder_iff hn hd (53 + 970)
  rw [hfull] at hmore
  rw [hhalf] at hmost
  rw [ofRatio_eq_infinite_iff_lt negative hn rfl, minExponent, maxExponent, minMantissa]
  generalize d * 2 ^ 970 = unit at *
  rcases lt_trichotomy (Rounding.binaryOrder n d) 1023 with hlt | heq | hgt
  · refine iff_of_false ?_ (by omega)
    split_ifs <;> omega
  · -- The mantissa decides: it is rounded up to the next power of two, or is not.
    rw [heq] at hmore ⊢
    rw [show max (-1074) (1023 - 52) = ((1 + 970 : Nat) : Int) from rfl, hscaled]
    have hcarry := Rounding.le_nearestEven_iff (n := n) (d := 2 * unit)
      (m := 2 * 0x10000000000000) (by omega) rfl
    have hmax := Rounding.nearestEven_le (n := n) (d := 2 * unit) (m := 2 * 0x10000000000000)
      (by omega)
    split_ifs <;> omega
  · refine iff_of_true ?_ (by omega)
    split_ifs <;> omega

end Binary64

end Bookmarks
