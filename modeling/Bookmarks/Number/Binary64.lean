import Bookmarks.Number.Rounding

/-!
# Numbers of 64 bits

A `Binary64` is a number as it is kept in 64 bits: a sign and a mantissa of 53 bits times a power of
two, an infinity, or no number. Each operation is the exact one on rational numbers, rounded to the
nearest number of this kind, a tie going to the even mantissa.

* `Binary64.ofRatio`: rounding a quotient; `Binary64.ofRat`: rounding a rational.
* `Binary64.value?`: the exact value of a finite number.
* `Place`: a point of the line with both infinities, on which numbers are compared.
* `add`, `sub`, `mul`, `div`, `neg`, `abs`: the operations.
-/

namespace Bookmarks

/-- A number of 64 bits. A finite one is `± mantissa * 2 ^ exponent`. -/
inductive Binary64 where
  | finite (negative : Bool) (mantissa : Nat) (exponent : Int)
  | infinite (negative : Bool)
  | nan
deriving DecidableEq, Repr

namespace Binary64

/-- The exponent of the finest numbers. -/
def minExponent : Int := -1074

/-- The exponent of the coarsest numbers. -/
def maxExponent : Int := 971

/-- The least mantissa of 53 bits. -/
def minMantissa : Nat := 0x10000000000000

/-- Zero with a sign. -/
def zero (negative : Bool) : Binary64 :=
  .finite negative 0 minExponent

/-- The number nearest to `± n / d`; past the greatest one it is infinite. -/
def ofRatio (negative : Bool) (n d : Nat) : Binary64 :=
  if n = 0 then zero negative
  else
    let exponent := max minExponent (Rounding.binaryOrder n d - 52)
    let mantissa := Rounding.scaled 2 n d exponent
    let (mantissa, exponent) :=
      if mantissa = 2 * minMantissa then (minMantissa, exponent + 1) else (mantissa, exponent)
    if maxExponent < exponent then .infinite negative else .finite negative mantissa exponent

/-- The number nearest to a rational; `negative` is the sign of a zero. -/
def ofRat (negative : Bool) (q : Rat) : Binary64 :=
  if q = 0 then zero negative else ofRatio (q < 0) q.num.natAbs q.den

/-- The number nearest to an integer. -/
def ofInt (n : Int) : Binary64 :=
  ofRatio (n < 0) n.natAbs 1

/-- The exact value of the magnitude `mantissa * 2 ^ exponent`. -/
def magnitude (mantissa : Nat) (exponent : Int) : Rat :=
  mkRat (mantissa <<< exponent.toNat : Nat) (1 <<< (-exponent).toNat)

/-- The exact value of a finite number. -/
def value? : Binary64 → Option Rat
  | .finite negative m e => some (if negative then -magnitude m e else magnitude m e)
  | _ => none

/-- The sign bit. -/
def isNegative : Binary64 → Bool
  | .finite negative _ _ => negative
  | .infinite negative => negative
  | .nan => false

/-- The number is a zero of either sign. -/
def isZero : Binary64 → Bool
  | .finite _ m _ => m == 0
  | _ => false

/-- The number with the other sign. -/
def neg : Binary64 → Binary64
  | .finite negative m e => .finite (!negative) m e
  | .infinite negative => .infinite (!negative)
  | .nan => .nan

/-- The number without its sign. -/
def abs : Binary64 → Binary64
  | .finite _ m e => .finite false m e
  | .infinite _ => .infinite false
  | .nan => .nan

/-- The rounded sum. A zero sum is negative only if both terms are. -/
def add (x y : Binary64) : Binary64 :=
  match x, y with
  | .nan, _ | _, .nan => .nan
  | .infinite a, .infinite b => if a = b then .infinite a else .nan
  | .infinite a, .finite .. => .infinite a
  | .finite .., .infinite b => .infinite b
  | .finite a m e, .finite b n f =>
    let p := if a then -magnitude m e else magnitude m e
    let q := if b then -magnitude n f else magnitude n f
    ofRat (a && b) (p + q)

/-- The rounded difference. -/
def sub (x y : Binary64) : Binary64 :=
  add x y.neg

/-- The rounded product. -/
def mul (x y : Binary64) : Binary64 :=
  let negative := x.isNegative != y.isNegative
  match x, y with
  | .nan, _ | _, .nan => .nan
  | .infinite _, y => if y.isZero then .nan else .infinite negative
  | x, .infinite _ => if x.isZero then .nan else .infinite negative
  | .finite _ m e, .finite _ n f =>
    let q := magnitude m e * magnitude n f
    ofRatio negative q.num.natAbs q.den

/-- The rounded quotient. -/
def div (x y : Binary64) : Binary64 :=
  let negative := x.isNegative != y.isNegative
  match x, y with
  | .nan, _ | _, .nan => .nan
  | .infinite _, .infinite _ => .nan
  | .infinite _, .finite .. => .infinite negative
  | .finite .., .infinite _ => zero negative
  | .finite _ m e, .finite _ n f =>
    if n = 0 then if m = 0 then .nan else .infinite negative
    else
      let q := magnitude m e / magnitude n f
      ofRatio negative q.num.natAbs q.den

instance : Neg Binary64 := ⟨neg⟩
instance : Add Binary64 := ⟨add⟩
instance : Sub Binary64 := ⟨sub⟩
instance : Mul Binary64 := ⟨mul⟩
instance : Div Binary64 := ⟨div⟩

end Binary64

/-! ## The line on which numbers are compared -/

/-- A point of the line of rational numbers with an end on either side. -/
inductive Place where
  | low
  | at (q : Rat)
  | high
deriving DecidableEq

/-- The point comes before the other. -/
def Place.lt : Place → Place → Bool
  | .low, .low => false
  | .low, _ => true
  | .at p, .at q => p < q
  | .at _, .high => true
  | _, _ => false

/-- The point of the line where a number stands; what is no number stands nowhere. -/
def Binary64.place? : Binary64 → Option Place
  | .finite negative m e =>
    some (.at (if negative then -Binary64.magnitude m e else Binary64.magnitude m e))
  | .infinite negative => some (if negative then .low else .high)
  | .nan => none

end Bookmarks
