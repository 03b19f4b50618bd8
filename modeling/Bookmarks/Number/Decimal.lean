import Bookmarks.Number.Binary64

/-!
# Decimal digits of a number

How a `Binary64` is written in base ten, in three forms.

* `shortest`: the fewest digits that read back as the same number; `Binary64.text` lays them out,
  positionally between `10 ^ -4` and `10 ^ 16` and with an exponent elsewhere.
* `Binary64.fixed`: a given number of places after the point.
* `Binary64.scientific`: one digit before the point, a given number after it, and an exponent.

In the last two the exact value is rounded, a tie going to the even digit.
-/

namespace Bookmarks

namespace Decimal

/-- The decimal digits of a natural number. -/
def digits (n : Nat) : List Char :=
  Nat.toDigits 10 n

/-- The decimal digits with zeros in front, to the given width at least. -/
def padded (width n : Nat) : List Char :=
  List.replicate (width - (digits n).length) '0' ++ digits n

/-- An integer in base ten. -/
def integer (n : Int) : List Char :=
  if n < 0 then '-' :: digits n.natAbs else digits n.natAbs

/-- The decimal `c * 10 ^ g` compared with `x * 2 ^ e`. -/
def compareTo (c : Nat) (g : Int) (x : Nat) (e : Int) : Ordering :=
  compare ((c * Nat.pow 10 g.toNat) <<< (-e).toNat) ((x * Nat.pow 10 (-g).toNat) <<< e.toNat)

/-- The decimal `c * 10 ^ g` is among the numbers that are rounded to `m * 2 ^ e`: those no farther
away than half the gap to the next number on either side, the ends included for an even `m`. Below a
power of two the gap is half as wide. -/
def readsBack (m : Nat) (e : Int) (c : Nat) (g : Int) : Bool :=
  let low := if m = Binary64.minMantissa ∧ Binary64.minExponent < e then 4 * m - 1 else 4 * m - 2
  let fromLow := compareTo c g low (e - 2)
  let fromHigh := compareTo c g (4 * m + 2) (e - 2)
  if m % 2 = 0 then fromLow != .lt && fromHigh != .gt else fromLow == .gt && fromHigh == .lt

/-- Of the two decimals of `count` digits around `m * 2 ^ e`, whose leading digit has the exponent
`order`, the nearest one that reads back. -/
def ofDigitCount? (m : Nat) (e order : Int) (count : Nat) : Option (Nat × Int) :=
  let g := order + 1 - count
  let n := (m * Nat.pow 10 (-g).toNat) <<< e.toNat
  let d := Nat.pow 10 g.toNat <<< (-e).toNat
  let below := n / d
  match readsBack m e below g, readsBack m e (below + 1) g with
  | true, true => some (Rounding.nearestEven n d, g)
  | true, false => some (below, g)
  | false, true => some (below + 1, g)
  | false, false => none

/-- The decimal of the fewest digits that reads back as the positive `m * 2 ^ e`. -/
def shortest (m : Nat) (e : Int) : Nat × Int :=
  let order := Rounding.decimalOrder (m <<< e.toNat) (1 <<< (-e).toNat)
  ((List.range 17).findSome? fun i => ofDigitCount? m e order (i + 1)).getD
    ((m * Nat.pow 5 (-e).toNat) <<< e.toNat, -(-e).toNat)

/-- A text without the zeros at its end. -/
def dropZeros (s : List Char) : List Char :=
  (s.reverse.dropWhile (· == '0')).reverse

/-- An exponent with its sign and at least two digits. -/
def exponent (k : Int) : List Char :=
  'e' :: (if k < 0 then '-' else '+') :: padded 2 k.natAbs

/-- The digits `ds` with the point after the first `k + 1` of them, and a digit on either side. -/
def positional (ds : List Char) (k : Int) : List Char :=
  if k < 0 then '0' :: '.' :: (List.replicate (-k - 1).toNat '0' ++ ds)
  else
    let whole := k.toNat + 1
    let after := ds.drop whole
    ds.take whole ++ List.replicate (whole - ds.length) '0' ++
      '.' :: (if after.isEmpty then ['0'] else after)

/-- The digits `ds`, the first one of exponent `k`; large and small numbers have an exponent. -/
def natural (ds : List Char) (k : Int) : List Char :=
  if -4 ≤ k ∧ k < 16 then positional ds k
  else
    match ds with
    | d :: [] => d :: exponent k
    | d :: rest => d :: '.' :: (rest ++ exponent k)
    | [] => exponent k

end Decimal

namespace Binary64

/-- A minus sign where one is due. -/
def sign (negative : Bool) : List Char :=
  if negative then ['-'] else []

/-- What stands for an infinity. -/
def infinityText (negative : Bool) : String :=
  if negative then "-inf" else "inf"

/-- The number with the fewest digits that identify it. -/
def text : Binary64 → String
  | .nan => "nan"
  | .infinite negative => infinityText negative
  | .finite negative m e =>
    if m = 0 then String.ofList (sign negative ++ ['0', '.', '0'])
    else
      let (c, g) := Decimal.shortest m e
      let ds := Decimal.digits c
      String.ofList (sign negative ++ Decimal.natural (Decimal.dropZeros ds) (g + ds.length - 1))

/-- The number with `places` digits after the point. -/
def fixed (places : Nat) : Binary64 → String
  | .nan => "nan"
  | .infinite negative => infinityText negative
  | .finite negative m e =>
    let ds := Decimal.padded (places + 1)
      (Rounding.nearestEven ((m * Nat.pow 10 places) <<< e.toNat) (1 <<< (-e).toNat))
    let whole := ds.length - places
    let after := ds.drop whole
    String.ofList (sign negative ++ ds.take whole ++ (if after.isEmpty then [] else '.' :: after))

/-- The number with one digit before the point, `places` after it, and an exponent. -/
def scientific (places : Nat) : Binary64 → String
  | .nan => "nan"
  | .infinite negative => infinityText negative
  | .finite negative m e =>
    let n := m <<< e.toNat
    let d := 1 <<< (-e).toNat
    let (c, k) :=
      if m = 0 then (0, 0)
      else
        let k := Rounding.decimalOrder n d
        let c := Rounding.scaled 10 n d (k - places)
        if c = Nat.pow 10 (places + 1) then (Nat.pow 10 places, k + 1) else (c, k)
    match Decimal.padded (places + 1) c with
    | first :: after =>
      let point := if after.isEmpty then [] else '.' :: after
      String.ofList (sign negative ++ first :: (point ++ Decimal.exponent k))
    | [] => ""

end Binary64

end Bookmarks
