import Bookmarks.Proofs.Text.Digits
import Bookmarks.Time.Iso
import Mathlib

/-!
# The written form of timestamps

The written form of a timestamp is read piece by piece: digits to a fixed width, the date, the clock
with its fraction, and the offset. An offset of less than a second is read as none, so what is
written is read back if the offset is none or at least a second long
(**`Timestamp.ofChars?_chars`**).

* `UtcOffset.IsReadable`, `Timestamp.IsReadable`: the offsets that can be read.
* `Iso.digits?_padded`, `Iso.date?_dateText`, `Iso.clock?_timeText`, `Iso.exists_offsetText`: the
  pieces.
* `Timestamp.forall_chars`: which characters are written.
-/

namespace Bookmarks

/-! ## Digits -/

namespace Iso

theorem digit?_digitChar {n : Nat} (h : n < 10) : digit? n.digitChar = some n := by
  interval_cases n <;> rfl

theorem digits?_add (a b : Nat) (s : List Char) :
    digits? (a + b) s = (digits? a s).bind fun (m, rest) =>
      (digits? b rest).map fun (n, rest) => (m * 10 ^ b + n, rest) := by
  induction a generalizing s with
  | zero =>
    rw [Nat.zero_add]
    cases hb : digits? b s <;> simp [digits?, hb]
  | succ a ih =>
    rw [Nat.succ_add]
    cases s with
    | nil => rfl
    | cons c s =>
      simp only [digits?, ih, Option.bind_eq_bind]
      cases digit? c with
      | none => rfl
      | some d =>
        cases digits? a s with
        | none => rfl
        | some first =>
          obtain ⟨m, rest⟩ := first
          cases hb : digits? b rest with
          | none => simp [hb]
          | some second =>
            simp [hb]
            ring

theorem digits?_padded {width n : Nat} (hwidth : 0 < width) (h : n < 10 ^ width)
    (rest : List Char) : digits? width (Decimal.padded width n ++ rest) = some (n, rest) := by
  induction width, hwidth using Nat.le_induction generalizing n rest with
  | base =>
    rw [Decimal.padded_one h]
    simp [digits?, digit?_digitChar h]
  | succ width hwidth ih =>
    have hdiv : n / 10 < 10 ^ width := by
      rw [pow_succ] at h
      omega
    have hmod : n % 10 < 10 := Nat.mod_lt n (by decide)
    -- digits are read from the first one on, so the reader is cut before the last one
    rw [Decimal.padded_succ hwidth, List.append_assoc, digits?_add, ih hdiv]
    simp [digits?, digit?_digitChar hmod]
    omega

theorem digits?_padded_end {width n : Nat} (hwidth : 0 < width) (h : n < 10 ^ width) :
    digits? width (Decimal.padded width n) = some (n, []) := by
  have := digits?_padded hwidth h []
  rwa [List.append_nil] at this

theorem padded_append_ne {width n : Nat} {c : Char} (hc : ∀ digit < 10, digit.digitChar ≠ c)
    (rest after : List Char) : Decimal.padded width n ++ rest ≠ c :: after := by
  cases hpadded : Decimal.padded width n with
  | nil => exact absurd hpadded (Decimal.padded_ne_nil width n)
  | cons d ds =>
    intro heq
    obtain rfl : d = c := (List.cons.inj heq).1
    have hmem : d ∈ Decimal.padded width n := hpadded ▸ List.mem_cons_self
    obtain ⟨digit, hdigit, rfl⟩ := Decimal.exists_of_mem_padded hmem
    exact hc digit hdigit rfl

/-! ## Dates -/

end Iso

theorem Date.bounds (d : Date) : d.year < 10 ^ 4 ∧ d.month < 10 ^ 2 ∧ d.day < 10 ^ 2 := by
  have hvalid := d.valid
  simp only [Calendar.isDate, Bool.and_eq_true, decide_eq_true_eq] at hvalid
  have hday : Calendar.daysInMonth d.year d.month ≤ 31 := by
    unfold Calendar.daysInMonth Calendar.monthLengths
    have hmonth : d.month - 1 < 12 := by omega
    generalize d.month - 1 = month at hmonth
    split <;> interval_cases month <;> decide
  omega

namespace Iso

theorem date?_dateText (d : Date) : date? (Timestamp.dateText d) = some d := by
  obtain ⟨hyear, hmonth, hday⟩ := d.bounds
  unfold date? Timestamp.dateText
  rw [List.append_assoc, digits?_padded (by decide) hyear]
  simp only [Option.bind_eq_bind, Option.bind_some, List.cons_append]
  split
  -- a month does not begin as the number of a week does
  · next heq => exact absurd heq (padded_append_ne (by decide) _ _)
  · rw [digits?_padded (by decide) hmonth]
    simp only [Option.bind_some, digits?_padded_end (by decide) hday]
    exact dif_pos d.valid

theorem length_dateText (d : Date) : (Timestamp.dateText d).length = 10 := by
  obtain ⟨hyear, hmonth, hday⟩ := d.bounds
  simp only [Timestamp.dateText, List.length_append, List.length_cons,
    Decimal.length_padded (by decide) hyear, Decimal.length_padded (by decide) hmonth,
    Decimal.length_padded (by decide) hday]

/-- The hyphens and the missing `W` show where the date ends. -/
theorem dateLength?_dateText (d : Date) (rest : List Char) :
    dateLength? (Timestamp.dateText d ++ 'T' :: rest) = some 10 := by
  obtain ⟨hyear, hmonth, hday⟩ := d.bounds
  have hlength : (Timestamp.dateText d ++ 'T' :: rest).length = 11 + rest.length := by
    rw [List.length_append, length_dateText, List.length_cons]
    omega
  obtain ⟨first, second, hmonths⟩ := List.length_eq_two.1 (Decimal.length_padded (by decide) hmonth)
  have hweek : first ≠ 'W' := by
    intro heq
    have hne : Decimal.padded 2 d.month ++ [] ≠ 'W' :: [second] := padded_append_ne (by decide) _ _
    exact hne (by rw [List.append_nil, hmonths, heq])
  have hplaces : (Timestamp.dateText d ++ 'T' :: rest)[4]? = some '-' ∧
      (Timestamp.dateText d ++ 'T' :: rest)[5]? = some first := by
    have hyears := Decimal.length_padded (by decide) hyear
    unfold Timestamp.dateText
    rw [hmonths]
    constructor <;> simp [hyears, List.getElem?_append]
  unfold dateLength?
  rw [if_neg (by omega), if_neg (by omega), if_pos hplaces.1, hplaces.2,
    if_neg (by simpa using hweek)]

/-! ## Times -/

section Units

variable {more value : Nat} {values : List Nat} (h : value < 10 ^ 2)

include h

theorem units?_end (colons : Option Bool) :
    units? (more + 1) colons values (Decimal.padded 2 value) =
      some ((value :: values).reverse, 0, false) := by
  unfold units?
  simp only [digits?_padded_end (by decide) h]
  rfl

theorem units?_colon {colons : Option Bool} (hcolons : colons.getD true = true)
    {after : List Char} (hafter : after ≠ []) :
    units? (more + 1) colons values (Decimal.padded 2 value ++ ':' :: after) =
      units? more (some true) (value :: values) after := by
  rw [units?]
  simp [digits?_padded (by decide) h, hafter, hcolons]

theorem units?_fraction {micro : Nat} (hmicro : micro < 10 ^ 6) :
    units? (more + 1) (some true) values (Decimal.padded 2 value ++ '.' :: Decimal.padded 6 micro) =
      some ((value :: values).reverse, micro, false) := by
  have hlength := Decimal.length_padded (by decide) hmicro
  have hne := Decimal.padded_ne_nil 6 micro
  have hfraction : fraction? (Decimal.padded 6 micro) = some (micro, []) := by
    unfold fraction?
    rw [hlength]
    simp [digits?_padded_end (by decide) hmicro]
  rw [units?]
  simp [digits?_padded (by decide) h, hne, hfraction, isLeft]

end Units

section Clock

variable {hour minute : Nat} (hhour : hour < 10 ^ 2) (hminute : minute < 10 ^ 2)

include hhour hminute

theorem clock?_hoursMinutes :
    clock? (Timestamp.hoursMinutes hour minute) = some ⟨hour, minute, 0, 0, false⟩ := by
  unfold clock? Timestamp.hoursMinutes
  rw [units?_colon hhour rfl (Decimal.padded_ne_nil 2 minute), units?_end hminute]
  rfl

theorem clock?_seconds {second micro : Nat} (hsecond : second < 10 ^ 2) (hmicro : micro < 10 ^ 6) :
    clock? (Timestamp.hoursMinutes hour minute ++
      (':' :: Decimal.padded 2 second ++ Timestamp.fraction micro)) =
        some ⟨hour, minute, second, micro, false⟩ := by
  have hread : units? 1 (some true) [minute, hour]
      (Decimal.padded 2 second ++ Timestamp.fraction micro) =
        some ([hour, minute, second], micro, false) := by
    unfold Timestamp.fraction
    split
    · next hzero => rw [List.append_nil, units?_end hsecond, hzero]; rfl
    · exact units?_fraction hsecond hmicro
  have hne : Decimal.padded 2 second ++ Timestamp.fraction micro ≠ [] :=
    List.append_ne_nil_of_left_ne_nil (Decimal.padded_ne_nil 2 second) _
  unfold clock? Timestamp.hoursMinutes
  rw [List.append_assoc, List.cons_append, units?_colon hhour rfl (by simp), List.cons_append,
    units?_colon hminute rfl hne, hread]
  rfl

end Clock

end Iso

/-! ## Offsets -/

/-- The offset can be read: it is none, or at least a second long. -/
def UtcOffset.IsReadable (o : UtcOffset) : Prop :=
  o.micros = 0 ∨ 1000000 ≤ o.micros.natAbs

namespace Iso

/-- An offset is read from a clock that shows it. -/
theorem offset?_of_clock? {s : List Char} {c : Clock} (h : clock? s = some c)
    (hleft : c.left = false) (hmicro : c.micro < 1000000) {o : UtcOffset} (ho : o.IsReadable)
    (hshown : o.micros.natAbs = ((c.hour * 60 + c.minute) * 60 + c.second) * 1000000 + c.micro) :
    offset? (o.micros < 0) s = some o := by
  unfold offset?
  simp only [h, Option.bind_eq_bind, Option.bind_some, hleft, decide_eq_true_eq]
  rw [if_neg (by decide)]
  unfold UtcOffset.IsReadable at ho
  split
  -- below a second nothing is read, and nothing is shown
  · next hzero =>
    have hmicros : o.micros = 0 := by omega
    obtain ⟨micros, hday⟩ := o
    obtain rfl : micros = 0 := hmicros
    rfl
  · have hsigned : (if o.micros < 0
        then -(((c.hour * 60 + c.minute) * 60 + c.second : Nat) * 1000000 + c.micro : Int)
        else ((c.hour * 60 + c.minute) * 60 + c.second : Nat) * 1000000 + c.micro) = o.micros := by
      split <;> omega
    rw [hsigned]
    exact dif_pos o.underDay

theorem exists_offsetText {o : UtcOffset} (h : o.IsReadable) :
    ∃ sign body, Timestamp.offsetText o = sign :: body ∧ (sign = '-' ∨ sign = '+') ∧
      offset? (sign == '-') body = some o := by
  refine ⟨_, _, rfl, ite_eq_or_eq _ _ _, ?_⟩
  have hsign : ((if o.micros < 0 then '-' else '+') == '-') = decide (o.micros < 0) := by
    split <;> simp [*]
  rw [hsign]
  have hday := o.underDay
  unfold microsPerDay at hday
  have hhour : o.micros.natAbs / 1000000 / 3600 < 10 ^ 2 := by omega
  have hminute : o.micros.natAbs / 1000000 / 60 % 60 < 10 ^ 2 := by omega
  have hsecond : o.micros.natAbs / 1000000 % 60 < 10 ^ 2 := by omega
  have hmicro : o.micros.natAbs % 1000000 < 10 ^ 6 := by omega
  split
  · rw [List.append_nil]
    exact offset?_of_clock? (clock?_hoursMinutes hhour hminute) rfl (Nat.succ_pos _) h
      (by dsimp only; omega)
  · exact offset?_of_clock? (clock?_seconds hhour hminute hsecond hmicro) rfl hmicro h
      (by dsimp only; omega)

end Iso

/-! ## The characters of the written form -/

namespace Timestamp

section Characters

variable {P : Char → Prop} (hdigit : ∀ digit < 10, P digit.digitChar) (hcolon : P ':')

include hdigit

theorem forall_padded {width n : Nat} : ∀ c ∈ Decimal.padded width n, P c := by
  intro c hc
  obtain ⟨digit, hlt, rfl⟩ := Decimal.exists_of_mem_padded hc
  exact hdigit digit hlt

include hcolon

theorem forall_hoursMinutes {hour minute : Nat} : ∀ c ∈ hoursMinutes hour minute, P c := by
  simp only [hoursMinutes, List.forall_mem_append, List.forall_mem_cons]
  exact ⟨forall_padded hdigit, hcolon, forall_padded hdigit⟩

variable (hpoint : P '.')

include hpoint

theorem forall_secondsFraction {second micro : Nat} :
    ∀ c ∈ ':' :: Decimal.padded 2 second ++ fraction micro, P c := by
  have hfraction : ∀ c ∈ fraction micro, P c := by
    unfold fraction
    split
    · simp
    · exact List.forall_mem_cons.2 ⟨hpoint, forall_padded hdigit⟩
  simp only [List.forall_mem_append, List.forall_mem_cons]
  exact ⟨⟨hcolon, forall_padded hdigit⟩, hfraction⟩

theorem forall_timeText {t : TimeOfDay} : ∀ c ∈ timeText t, P c := by
  unfold timeText
  rw [List.append_assoc]
  exact List.forall_mem_append.2
    ⟨forall_hoursMinutes hdigit hcolon, forall_secondsFraction hdigit hcolon hpoint⟩

variable (hplus : P '+') (hminus : P '-')

include hplus hminus

theorem forall_offsetText {o : UtcOffset} : ∀ c ∈ offsetText o, P c := by
  refine List.forall_mem_cons.2 ⟨by split <;> assumption, ?_⟩
  refine List.forall_mem_append.2 ⟨forall_hoursMinutes hdigit hcolon, ?_⟩
  split
  · simp
  · exact forall_secondsFraction hdigit hcolon hpoint

theorem forall_chars (ht : P 'T') {t : Timestamp} : ∀ c ∈ t.chars, P c := by
  have hdate : ∀ c ∈ dateText t.date, P c := by
    simp only [dateText, List.forall_mem_append, List.forall_mem_cons]
    exact ⟨⟨forall_padded hdigit, hminus, forall_padded hdigit⟩, hminus, forall_padded hdigit⟩
  have hoffset : ∀ c ∈ (t.offset.map offsetText).getD [], P c := by
    cases t.offset with
    | none => simp
    | some o => exact forall_offsetText hdigit hcolon hpoint hplus hminus
  simp only [chars, List.forall_mem_append, List.forall_mem_cons]
  exact ⟨⟨hdate, ht, forall_timeText hdigit hcolon hpoint⟩, hoffset⟩

end Characters

end Timestamp

/-! ## Times with offsets -/

namespace Iso

theorem clock?_timeText (t : TimeOfDay) :
    clock? (Timestamp.timeText t) = some ⟨t.hour, t.minute, t.second, t.micro, false⟩ := by
  have hday := t.inDay
  unfold Timestamp.timeText
  rw [List.append_assoc]
  exact clock?_seconds (by omega) (by omega) (by omega) (by omega)

theorem time?_timeText (t : TimeOfDay) {o : UtcOffset} (h : o.IsReadable) :
    time? (Timestamp.timeText t ++ Timestamp.offsetText o) = some (t, some o) := by
  obtain ⟨sign, body, htext, hsign, hbody⟩ := exists_offsetText h
  have hbefore : ∀ c ∈ Timestamp.timeText t, (!beginsOffset c) = true :=
    Timestamp.forall_timeText (P := fun c => (!beginsOffset c) = true) (by decide) rfl rfl
  have hbegins : (!beginsOffset sign) = false := by rcases hsign with rfl | rfl <;> rfl
  have htime : TimeOfDay.make? t.hour t.minute t.second t.micro = some t := dif_pos t.inDay
  unfold time?
  rw [List.dropWhile_append_of_pos hbefore, List.takeWhile_append_of_pos hbefore, htext,
    List.takeWhile_cons_of_neg (by simp [hbegins]), List.dropWhile_cons_of_neg (by simp [hbegins]),
    List.append_nil, clock?_timeText]
  simp only [Option.bind_eq_bind, Option.bind_some, htime]
  have hoffset : ((offset? (sign == '-') body).bind fun o => some (t, some o)) =
      some (t, some o) := by
    rw [hbody]
    rfl
  rcases hsign with rfl | rfl <;> exact hoffset

end Iso

/-! ## Timestamps -/

namespace Timestamp

/-- The timestamp has an offset that can be read. -/
def IsReadable (t : Timestamp) : Prop :=
  ∃ o, t.offset = some o ∧ o.IsReadable

/-- **What is written is read back**, if the offset can be read. -/
theorem ofChars?_chars {t : Timestamp} (h : t.IsReadable) : ofChars? t.chars = some t := by
  obtain ⟨o, hoffset, ho⟩ := h
  have hchars : t.chars = dateText t.date ++ 'T' :: (timeText t.time ++ offsetText o) := by
    simp [chars, hoffset]
  have hlength := Iso.length_dateText t.date
  unfold ofChars?
  rw [hchars, Iso.dateLength?_dateText]
  simp only [Option.bind_eq_bind, Option.bind_some]
  rw [List.take_left' hlength, List.drop_left' hlength, Iso.date?_dateText]
  simp only [Option.bind_some, Iso.time?_timeText t.time ho]
  rw [← hoffset]
  rfl

end Timestamp

end Bookmarks
