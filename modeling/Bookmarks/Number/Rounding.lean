/-!
# Rounding quotients

Exact integer arithmetic on a quotient `n / d` of natural numbers: its size, and the nearest whole
number.

* `nearestEven`: the nearest whole number, a tie going to the even one.
* `binaryOrder`, `decimalOrder`: the exponent of the leading binary or decimal digit.
* `scaled`: the nearest whole number to `n / d` divided by a power.
-/

namespace Bookmarks.Rounding

/-- The whole number nearest to `n / d`; of two equally near ones the even one. -/
def nearestEven (n d : Nat) : Nat :=
  let q := n / d
  let r := n % d
  if 2 * r < d then q else if d < 2 * r then q + 1 else q + q % 2

/-- `n / d` is less than `base ^ k`. -/
def belowPower (base n d : Nat) (k : Int) : Bool :=
  n * base.pow (-k).toNat < d * base.pow k.toNat

/-- The greatest `k` with `2 ^ k ≤ n / d`, for positive `n` and `d`. -/
def binaryOrder (n d : Nat) : Int :=
  let k := (n.log2 : Int) - d.log2
  if belowPower 2 n d k then k - 1 else k

/-- The greatest `k` with `10 ^ k ≤ n / d`, for positive `n` and `d`. -/
def decimalOrder (n d : Nat) : Int :=
  let k := ((Nat.toDigits 10 n).length : Int) - (Nat.toDigits 10 d).length
  if belowPower 10 n d k then k - 1 else k

/-- The whole number nearest to `n / d / base ^ k`. -/
def scaled (base n d : Nat) (k : Int) : Nat :=
  nearestEven (n * base.pow (-k).toNat) (d * base.pow k.toNat)

end Bookmarks.Rounding
