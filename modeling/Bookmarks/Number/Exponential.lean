import Bookmarks.Number.Binary64

/-!
# The exponential

`Binary64.exp` is the number of 64 bits nearest to the exponential of another. The argument is
divided by a power of two, the series is summed in fixed point with many more bits than the answer
has, and the sum is squared back. The exponential of a rational other than zero is irrational, so it
never lies halfway between two numbers, and the spare bits decide on which side it lies.

* `Exponential.seriesFrom`: the terms of the series.
* `Exponential.squareTimes`: repeated squaring.
* `Binary64.exp`: the rounded exponential, none where it is past the greatest number.
-/

namespace Bookmarks

namespace Exponential

/-- The bits kept after the point. -/
def precision : Nat := 256

/-- How often the argument is halved. -/
def halvings : Nat := 11

/-- The sum of `count` terms of the series at `x`, the first one being `term`, of index `k`. -/
def seriesFrom (x : Nat) : (count k term : Nat) → Nat
  | 0, _, _ => 0
  | count + 1, k, term =>
    term + seriesFrom x count (k + 1) (term * x / ((1 <<< precision) * (k + 1)))

/-- The magnitude `m * 2 ^ e` squared `count` times, cut to the leading bits. -/
def squareTimes : (count : Nat) → Nat × Int → Nat × Int
  | 0, p => p
  | count + 1, (m, e) =>
    let square := m * m
    let spare := square.log2 - precision
    squareTimes count (square >>> spare, 2 * e + spare)

/-- The exponential of the non-negative `q`, below some hundreds, as a magnitude `m * 2 ^ e`. -/
def magnitude (q : Rat) : Nat × Int :=
  let x := (q.num.natAbs <<< (precision - halvings)) / q.den
  squareTimes halvings (seriesFrom x 64 0 (1 <<< precision), -(precision : Int))

/-- Past this the exponential is beyond the greatest number. -/
def limit : Rat := 710

end Exponential

/-- The exponential, none where it is past the greatest number. -/
def Binary64.exp : Binary64 → Option Binary64
  | .nan => some .nan
  | .infinite negative => some (if negative then .zero false else .infinite false)
  | .finite negative m e =>
    let q := Binary64.magnitude m e
    if negative then
      if 750 < q then some (.zero false)
      else
        let (n, f) := Exponential.magnitude q
        some (.ofRatio false (1 <<< (-f).toNat) (n <<< f.toNat))
    else if Exponential.limit < q then none
    else
      let (n, f) := Exponential.magnitude q
      match Binary64.ofRatio false (n <<< f.toNat) (1 <<< (-f).toNat) with
      | .infinite _ => none
      | answer => some answer

end Bookmarks
