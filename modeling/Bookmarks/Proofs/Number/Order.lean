import Bookmarks.Number.Basic
import Mathlib

/-!
# The order of the numbers

Numbers are compared by the places where they stand on a line, and these are in a linear order. Only
`nan` stands nowhere; it is neither before nor behind any number, so among lists with `nan` there is
no order at all. Without it, the comparisons are those of the line.

* the linear order of `Place`, with `Place.lt_eq_decide`.
* `Number.place`: where a number stands.
* **`Number.lt_eq_decide`**, `Number.le_eq_decide`, `Number.same_eq_decide`: the comparisons.
-/

namespace Bookmarks

namespace Place

/-- The place on the rational line with a least and a greatest point. -/
def toLine : Place → WithBot (WithTop ℚ)
  | low => ⊥
  | .at q => ((q : WithTop ℚ) : WithBot (WithTop ℚ))
  | high => ⊤

theorem toLine_injective : Function.Injective toLine := by
  intro p q h
  cases p <;> cases q <;> simp_all [toLine]

instance : LinearOrder Place :=
  LinearOrder.lift' toLine toLine_injective

theorem lt_eq_decide (p q : Place) : p.lt q = decide (p < q) := by
  have hline : p < q ↔ p.toLine < q.toLine := Iff.rfl
  have htop (r : ℚ) : ((r : WithTop ℚ) : WithBot (WithTop ℚ)) < ⊤ :=
    WithBot.coe_lt_coe.2 (WithTop.coe_lt_top r)
  rw [Bool.eq_iff_iff, decide_eq_true_iff, hline]
  cases p <;> cases q <;> simp [Place.lt, toLine, htop]

end Place

theorem Binary64.place?_of_value? {x : Binary64} {q : ℚ} (h : x.value? = some q) :
    x.place? = some (.at q) := by
  cases x with
  | finite negative m e => exact congrArg (Option.map Place.at) h
  | infinite negative => cases h
  | nan => cases h

namespace Number

/-- Where a number stands. -/
def place (a : Number) : Place :=
  a.place?.getD .low

theorem place?_eq {a : Number} (h : a ≠ .real .nan) : a.place? = some a.place := by
  unfold place
  cases a with
  | int n => rfl
  | real x =>
    cases x with
    | finite negative m e => rfl
    | infinite negative => rfl
    | nan => exact absurd rfl h

theorem real_ne_nan {x : Binary64} (h : x ≠ .nan) : real x ≠ real .nan :=
  fun heq => h (real.inj heq)

section Compare

variable {a b : Number} (ha : a ≠ .real .nan) (hb : b ≠ .real .nan)
include ha hb

/-- **Numbers are compared as their places are.** -/
theorem lt_eq_decide : a.lt b = decide (a.place < b.place) := by
  rw [lt, place?_eq ha, place?_eq hb]
  exact Place.lt_eq_decide a.place b.place

theorem le_eq_decide : a.le b = decide (a.place ≤ b.place) := by
  rw [le, place?_eq ha, place?_eq hb]
  dsimp only
  rw [Place.lt_eq_decide, Bool.eq_iff_iff, Bool.not_eq_true', decide_eq_false_iff_not,
    decide_eq_true_iff, not_lt]

theorem same_eq_decide : a.same b = decide (a.place = b.place) := by
  rw [same, le_eq_decide ha hb, le_eq_decide hb ha, Bool.eq_iff_iff, Bool.and_eq_true,
    decide_eq_true_iff, decide_eq_true_iff, decide_eq_true_iff]
  exact le_antisymm_iff.symm

end Compare

end Number

end Bookmarks
