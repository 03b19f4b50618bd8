import Bookmarks.Fault
import Bookmarks.Number.Exponential

/-!
# Numbers

A number is an integer of any size or a number of 64 bits. Integers are exact among themselves; next
to a number of 64 bits an integer is rounded to one, which fails where it is too large. Comparisons
are exact in all cases.

* `Number.toReal`: the number rounded to 64 bits.
* `Number.lt`, `Number.le`: the exact comparisons.
* `Number.neg`, `add`, `sub`, `mul`, `abs`: the operations.
* `ratio`: the rounded quotient of two integers.
-/

namespace Bookmarks

/-- An integer, or a number of 64 bits. -/
inductive Number where
  | int (n : Int)
  | real (x : Binary64)
deriving DecidableEq, Repr

/-- The rounded quotient of an integer by a positive one. -/
def ratio (n : Int) (d : Nat) : Except Fault Binary64 :=
  match Binary64.ofRatio (n < 0) n.natAbs d with
  | .infinite _ => .error .quotientTooLarge
  | x => .ok x

namespace Number

/-- The number rounded to 64 bits. -/
def toReal : Number → Except Fault Binary64
  | .real x => .ok x
  | .int n =>
    match Binary64.ofInt n with
    | .infinite _ => .error .integerTooLarge
    | x => .ok x

/-- The point of the line where the number stands. -/
def place? : Number → Option Place
  | .int n => some (.at n)
  | .real x => x.place?

/-- The first number is less than the second. -/
def lt (a b : Number) : Bool :=
  match a.place?, b.place? with
  | some p, some q => p.lt q
  | _, _ => false

/-- The first number is at most the second. -/
def le (a b : Number) : Bool :=
  match a.place?, b.place? with
  | some p, some q => !q.lt p
  | _, _ => false

/-- The two numbers are the same one. -/
def same (a b : Number) : Bool :=
  a.le b && b.le a

/-- An operation on both kinds of numbers. -/
def combine (onIntegers : Int → Int → Int) (onReals : Binary64 → Binary64 → Binary64)
    (a b : Number) : Except Fault Number :=
  match a, b with
  | .int m, .int n => .ok (.int (onIntegers m n))
  | a, b => do return .real (onReals (← a.toReal) (← b.toReal))

/-- The sum. -/
def add : Number → Number → Except Fault Number :=
  combine (· + ·) (· + ·)

/-- The difference. -/
def sub : Number → Number → Except Fault Number :=
  combine (· - ·) (· - ·)

/-- The product. -/
def mul : Number → Number → Except Fault Number :=
  combine (· * ·) (· * ·)

/-- The number with the other sign. -/
def neg : Number → Number
  | .int n => .int (-n)
  | .real x => .real (-x)

/-- The number without its sign. -/
def abs : Number → Number
  | .int n => .int n.natAbs
  | .real x => .real x.abs

/-- The smaller of two numbers, the first one if they do not differ. -/
def min (a b : Number) : Number :=
  if b.lt a then b else a

/-- The greater of two numbers, the first one if they do not differ. -/
def max (a b : Number) : Number :=
  if a.lt b then b else a

/-- The exponential. -/
def exp (a : Number) : Except Fault Binary64 := do
  match (← a.toReal).exp with
  | some y => .ok y
  | none => .error .exponentialTooLarge

end Number

end Bookmarks
