import Bookmarks.Proofs.Number.Overflow
import Mathlib

/-!
# Numbers within a power of two

Rounding does not lead past a power of two, so what is less than one before it is rounded is at most
that power after it, and is finite. This is enough to follow sums and quotients of moderate numbers:
each of them is finite again.

* `Binary64.Within`: a finite number that is at most a power of two, on either side of zero.
* **`Binary64.within_ofRatio`**: rounding a quotient that is less than a power of two.
* `Binary64.Within.div`, `Binary64.Within.sub`: quotients and differences.
-/

namespace Bookmarks

namespace Binary64

theorem magnitude_nonneg (m : Nat) (e : Int) : 0 ≤ magnitude m e :=
  Rat.mkRat_nonneg (Int.natCast_nonneg _) _

/-- The number is finite, and at most `2 ^ k` on either side of zero. -/
def Within (k : Nat) (x : Binary64) : Prop :=
  ∃ q, x.value? = some q ∧ |q| ≤ 2 ^ k

theorem within_finite {negative : Bool} {m : Nat} {e : Int} {k : Nat} :
    Within k (.finite negative m e) ↔ magnitude m e ≤ 2 ^ k := by
  have hsign : |if negative then -magnitude m e else magnitude m e| = magnitude m e := by
    cases negative with
    | false => exact abs_of_nonneg (magnitude_nonneg m e)
    | true => exact (abs_neg _).trans (abs_of_nonneg (magnitude_nonneg m e))
  constructor
  · rintro ⟨q, hq, hle⟩
    obtain rfl := Option.some.inj hq
    exact hsign ▸ hle
  · intro hle
    exact ⟨_, rfl, hsign.trans_le hle⟩

theorem Within.exists_finite {k : Nat} {x : Binary64} (h : Within k x) :
    ∃ negative m e, x = .finite negative m e ∧ magnitude m e ≤ 2 ^ k := by
  cases x with
  | finite negative m e => exact ⟨negative, m, e, rfl, within_finite.1 h⟩
  | infinite negative =>
    obtain ⟨q, hq, -⟩ := h
    cases hq
  | nan =>
    obtain ⟨q, hq, -⟩ := h
    cases hq

/-! ## Rounding -/

theorem magnitude_le_pow {m k : Nat} {e : Int} (hke : e ≤ k) (h : m ≤ 2 ^ (k - e).toNat) :
    magnitude m e ≤ 2 ^ k := by
  have hpos : (0 : ℚ) < (1 <<< (-e).toNat : Nat) := by
    rw [Nat.shiftLeft_eq, one_mul]
    positivity
  have hexponents : (k - e).toNat + e.toNat = k + (-e).toNat := by omega
  rw [magnitude, Rat.mkRat_eq_div, Int.cast_natCast, div_le_iff₀ hpos]
  have hnat : m <<< e.toNat ≤ 2 ^ k * 1 <<< (-e).toNat := by
    rw [Nat.shiftLeft_eq, Nat.shiftLeft_eq, one_mul]
    calc m * 2 ^ e.toNat ≤ 2 ^ (k - e).toNat * 2 ^ e.toNat := Nat.mul_le_mul_right _ h
      _ = 2 ^ k * 2 ^ (-e).toNat := by rw [← pow_add, ← pow_add, hexponents]
  exact_mod_cast hnat

theorem scaled_le_pow {n d k : Nat} {e : Int} (hke : e ≤ k) (h : n < d * 2 ^ k) :
    Rounding.scaled 2 n d e ≤ 2 ^ (k - e).toNat := by
  have hexponents : k + (-e).toNat = e.toNat + (k - e).toNat := by omega
  refine Rounding.nearestEven_le ?_
  rw [Nat.pow_eq, Nat.pow_eq]
  calc n * 2 ^ (-e).toNat < d * 2 ^ k * 2 ^ (-e).toNat :=
        Nat.mul_lt_mul_of_pos_right h (by positivity)
    _ = d * 2 ^ e.toNat * 2 ^ (k - e).toNat := by
        rw [mul_assoc, mul_assoc, ← pow_add, ← pow_add, hexponents]

/-- **A quotient that is less than a power of two is rounded to a number within it.** -/
theorem within_ofRatio {n d k : Nat} (hd : d ≠ 0) (hk : k ≤ 1023) (h : n < d * 2 ^ k)
    (negative : Bool) : Within k (ofRatio negative n d) := by
  have hmin : minExponent = -1074 := rfl
  have hmax : maxExponent = 971 := rfl
  unfold ofRatio
  by_cases hn : n = 0
  · rw [if_pos hn]
    exact within_finite.2 (magnitude_le_pow (by omega) (Nat.zero_le _))
  rw [if_neg hn]
  have horder : Rounding.binaryOrder n d < k :=
    lt_of_not_ge fun hle => absurd ((Rounding.le_binaryOrder_iff hn hd k).1 hle) (Nat.not_le.2 h)
  have hexponent : max minExponent (Rounding.binaryOrder n d - 52) ≤ (k : Int) - 53 := by omega
  generalize max minExponent (Rounding.binaryOrder n d - 52) = e at hexponent
  dsimp only
  split
  · -- the mantissa is carried into the next power of two
    dsimp only
    rw [if_neg (by omega)]
    refine within_finite.2 (magnitude_le_pow (by omega) ?_)
    exact Nat.pow_le_pow_right two_pos (by omega : 52 ≤ (k - (e + 1)).toNat)
  · dsimp only
    rw [if_neg (by omega)]
    exact within_finite.2 (magnitude_le_pow (by omega) (scaled_le_pow (by omega) h))

theorem natAbs_num_lt {q : ℚ} {k : Nat} (h : |q| < 2 ^ k) : q.num.natAbs < q.den * 2 ^ k := by
  have hden : (0 : ℚ) < q.den := by exact_mod_cast q.den_pos
  rw [Rat.abs_def, Rat.divInt_eq_div, Int.cast_natCast, Int.cast_natCast, div_lt_iff₀ hden] at h
  rw [mul_comm]
  exact_mod_cast h

theorem within_ofRat {q : ℚ} {k : Nat} (hk : k ≤ 1023) (h : |q| < 2 ^ k) (negative : Bool) :
    Within k (ofRat negative q) := by
  unfold ofRat
  split
  · have hzero : minExponent ≤ (k : Int) := Int.le_trans (by decide) k.cast_nonneg
    exact within_finite.2 (magnitude_le_pow hzero (Nat.zero_le _))
  · exact within_ofRatio q.den_ne_zero hk (natAbs_num_lt h) _

/-! ## Operations -/

variable {j k : Nat} {x y : Binary64}

theorem within_ofInt {n : Int} (hk : k ≤ 1023) (h : n.natAbs < 2 ^ k) : Within k (ofInt n) :=
  within_ofRatio one_ne_zero hk (by rwa [one_mul]) _

theorem Within.neg (hx : x.Within k) : (-x).Within k := by
  obtain ⟨negative, m, e, rfl, hm⟩ := hx.exists_finite
  exact within_finite.2 hm

theorem Within.sub (hk : k + 2 ≤ 1023) (hx : x.Within k) (hy : y.Within k) :
    (x - y).Within (k + 2) := by
  obtain ⟨a, m, e, rfl, -⟩ := hx.exists_finite
  obtain ⟨b, n, f, hneg, -⟩ := hy.neg.exists_finite
  obtain ⟨p, hp, hple⟩ := hx
  obtain ⟨q, hq, hqle⟩ := hy.neg
  rw [hneg] at hq
  obtain rfl := Option.some.inj hp
  obtain rfl := Option.some.inj hq
  change Within (k + 2) (add (.finite a m e) (-y))
  rw [hneg]
  refine within_ofRat hk ?_ _
  have hpow : (0 : ℚ) < 2 ^ k := by positivity
  rw [pow_add]
  exact (abs_add_le _ _).trans_lt (by linarith)

/-- The quotient of a number within a power of two by one that is at least one. -/
theorem Within.div (hk : k + 1 ≤ 1023) (hx : x.Within k) {b : Bool} {n : Nat} {f : Int}
    (hy : 1 ≤ magnitude n f) : (x / .finite b n f).Within (k + 1) := by
  obtain ⟨a, m, e, rfl, hm⟩ := hx.exists_finite
  have hn : n ≠ 0 := by
    rintro rfl
    rw [magnitude, Nat.zero_shiftLeft] at hy
    norm_num at hy
  change Within (k + 1) (if n = 0 then _ else ofRatio _ (magnitude m e / magnitude n f).num.natAbs
    (magnitude m e / magnitude n f).den)
  rw [if_neg hn]
  refine within_ofRatio (Rat.den_ne_zero _) hk (natAbs_num_lt ?_) _
  have hpow : (0 : ℚ) < 2 ^ k := by positivity
  have hquotient : magnitude m e / magnitude n f ≤ magnitude m e :=
    div_le_self (magnitude_nonneg m e) hy
  rw [abs_of_nonneg (div_nonneg (magnitude_nonneg m e) (magnitude_nonneg n f)), pow_succ]
  linarith

end Binary64

end Bookmarks
