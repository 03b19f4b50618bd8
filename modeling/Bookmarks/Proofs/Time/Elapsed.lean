import Bookmarks.Proofs.Number.Range
import Bookmarks.Proofs.Time.Iso

/-!
# Elapsed days

The calendar ends with the year 9999, so the microseconds between two timestamps are bounded, and
so are the days.

* `Timestamp.natAbs_instant_lt`: an instant of the calendar.
* **`Timestamp.within_daysUntil`**: the days from one timestamp to another are a finite number.
-/

namespace Bookmarks

theorem Calendar.daysBeforeMonth_le (year : Nat) {month : Nat} (h : month ≤ 12) :
    daysBeforeMonth year month ≤ 335 := by
  unfold daysBeforeMonth monthLengths
  split <;> interval_cases month <;> decide

theorem Date.dayNumber_lt (d : Date) : d.dayNumber < 3660000 := by
  obtain ⟨hyear, -, hday⟩ := d.bounds
  have hmonth : d.month ≤ 12 := by
    have hvalid := d.valid
    simp only [Calendar.isDate, Bool.and_eq_true, decide_eq_true_eq] at hvalid
    omega
  have hmonths := Calendar.daysBeforeMonth_le d.year hmonth
  unfold dayNumber Calendar.daysBeforeYear
  dsimp only
  omega

namespace Timestamp

theorem natAbs_instant_lt (t : Timestamp) : t.instant.natAbs < 2 ^ 59 := by
  have hdate := t.date.dayNumber_lt
  have htime := t.time.inDay
  have hoffset : ((t.offset.map UtcOffset.micros).getD 0).natAbs < microsPerDay := by
    cases t.offset with
    | none => decide
    | some offset => exact offset.underDay
  unfold instant TimeOfDay.micros microsPerDay at *
  omega

/-- **The days from one timestamp to another are a finite number.** -/
theorem within_daysUntil (earlier later : Timestamp) : (earlier.daysUntil later).Within 42 := by
  have hearlier := earlier.natAbs_instant_lt
  have hlater := later.natAbs_instant_lt
  have hday : secondsPerDay = .finite false 5937362789990400 (-36) := by decide +kernel
  have hseconds : (later.instant - earlier.instant).natAbs < 1000000 * 2 ^ 41 := by omega
  unfold daysUntil days
  rw [hday]
  refine Binary64.Within.div (by decide)
    (Binary64.within_ofRatio (by decide) (by decide) hseconds _) ?_
  decide +kernel

theorem exists_value_daysUntil (earlier later : Timestamp) :
    ∃ q, (earlier.daysUntil later).value? = some q := by
  obtain ⟨q, hq, -⟩ := earlier.within_daysUntil later
  exact ⟨q, hq⟩

end Timestamp

end Bookmarks
