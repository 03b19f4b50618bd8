import Bookmarks.Filter.Evaluate
import Mathlib

/-!
# Filters with a moderate number of days

An age is compared with an integer. All comparisons but one are exact; for `about` the integer is
rounded to 64 bits first, and this fails if it is too large. It does not fail below `2 ^ 1023`, so a
filter with a moderate number of days always has an answer.

* `Binary64.ofInt_ne_infinite`: a moderate integer is near a number of 64 bits.
* `Predicate.Bounded`, `Spec.Bounded`: the numbers of days of a filter, and of a query, are
  moderate.
* **`Predicate.exists_holds`**: a filter with a moderate number of days holds or does not hold.
-/

namespace Bookmarks

/-! ## Rounding a moderate integer -/

theorem Rounding.binaryOrder_le (n d : Nat) : Rounding.binaryOrder n d ≤ n.log2 - d.log2 := by
  unfold Rounding.binaryOrder
  dsimp only
  split <;> omega

theorem Binary64.ofRatio_ne_infinite {n d : Nat} (h : n.log2 < 1023 + d.log2)
    (negative sign : Bool) : Binary64.ofRatio negative n d ≠ .infinite sign := by
  have horder := Rounding.binaryOrder_le n d
  unfold Binary64.ofRatio Binary64.minExponent Binary64.maxExponent
  by_cases hn : n = 0
  · rw [if_pos hn]
    exact Binary64.noConfusion
  · rw [if_neg hn]
    dsimp only
    split <;> rw [if_neg (by omega)] <;> exact Binary64.noConfusion

theorem Binary64.ofInt_ne_infinite {n : Int} (h : n.natAbs < 2 ^ 1023) (sign : Bool) :
    Binary64.ofInt n ≠ .infinite sign := by
  refine Binary64.ofRatio_ne_infinite ?_ _ sign
  by_cases hn : n.natAbs = 0
  · rw [hn]
    decide
  · have := (Nat.log2_lt hn).2 h
    omega

theorem Number.toReal_int {n : Int} (h : n.natAbs < 2 ^ 1023) :
    (Number.int n).toReal = .ok (Binary64.ofInt n) := by
  unfold Number.toReal
  dsimp only
  split
  · next sign hn => exact absurd hn (Binary64.ofInt_ne_infinite h sign)
  · rfl

theorem Number.sub_int (x : Binary64) {n : Int} (h : n.natAbs < 2 ^ 1023) :
    (Number.real x).sub (.int n) = .ok (.real (x - Binary64.ofInt n)) := by
  change (do return Number.real ((← (Number.real x).toReal) - (← (Number.int n).toReal))) = _
  rw [Number.toReal_int h]
  rfl

/-! ## Comparing ages -/

theorem Operator.exists_compare (op : Operator) (age : Binary64) {n : Int}
    (h : n.natAbs < 2 ^ 1023) : ∃ r, op.compare (.real age) (.int n) = .ok r := by
  cases op with
  | about =>
    exact ⟨(Number.real (age - Binary64.ofInt n)).abs.lt oneDay, by
      rw [Operator.compare, Number.sub_int age h]; rfl⟩
  | greater | less | atLeast | atMost | unknown _ => exact ⟨_, rfl⟩

namespace Predicate

/-- The number of days of the filter, if it has one, is moderate. -/
def Bounded : Predicate → Prop
  | age _ _ (some n) => n.natAbs < 2 ^ 1023
  | _ => True

theorem bounded_of_lt {event : Event} {op : Option Operator} {n : Int}
    (h : n.natAbs < 1000000000) : (age event op (some n)).Bounded := by
  have hsmall : n.natAbs < 2 ^ 30 := by omega
  exact hsmall.trans_le (pow_le_pow_right₀ one_le_two (by decide))

theorem exists_elapsedHolds (since : Option Timestamp) (op : Operator) {n : Int}
    (h : n.natAbs < 2 ^ 1023) (now : Timestamp) : ∃ r, elapsedHolds since op n now = .ok r := by
  cases since with
  | none => exact ⟨true, rfl⟩
  | some t => exact op.exists_compare (t.daysUntil now) h

/-- **A filter with a moderate number of days holds or does not hold.** -/
theorem exists_holds {p : Predicate} (h : p.Bounded) (b : Bookmark) (now : Timestamp) :
    ∃ r, p.holds b now = .ok r := by
  cases p with
  | label l value => exact ⟨_, rfl⟩
  | tag value => exact ⟨_, rfl⟩
  | other => exact ⟨_, rfl⟩
  | age event op days =>
    rcases op with _ | op
    · cases event <;> exact ⟨true, rfl⟩
    rcases days with _ | n
    · cases event <;> exact ⟨true, rfl⟩
    cases event with
    | added => exact exists_elapsedHolds b.added op h now
    | clicked =>
      change ∃ r, clickedHolds b op n now = .ok r
      unfold clickedHolds
      dsimp only
      split_ifs
      · exact ⟨_, rfl⟩
      · exact ⟨_, rfl⟩
      · exact exists_elapsedHolds b.visited op h now

end Predicate

/-- The numbers of days in a query are moderate. -/
def Spec.Bounded (spec : Spec) : Prop :=
  ∀ p ∈ spec.filters ++ spec.negated, p.Bounded

end Bookmarks
