import Bookmarks.Proofs.Text.Trim
import Bookmarks.Proofs.Time.Iso
import Bookmarks.Store.Record

/-!
# Stored times

Every time that is read from a stored value has an offset that can be read
(**`Timestamp.isReadable_of_ofJson?`**). The text that such a time is written as gives the same time
again, with its offset and its microseconds (**`Timestamp.ofJson?_text`**).
-/

namespace Bookmarks

/-! ## Offsets that are read -/

theorem UtcOffset.isReadable_zero : UtcOffset.zero.IsReadable :=
  .inl rfl

theorem UtcOffset.micros_of_make? {micros : Int} {o : UtcOffset} (h : make? micros = some o) :
    o.micros = micros := by
  unfold make? at h
  split at h
  · exact Option.some.inj h ▸ rfl
  · cases h

namespace Iso

theorem isReadable_of_offset? {negative : Bool} {s : List Char} {o : UtcOffset}
    (h : offset? negative s = some o) : o.IsReadable := by
  obtain ⟨c, -, hc⟩ := Option.bind_eq_some_iff.1 h
  dsimp only at hc
  split at hc
  · cases hc
  · split at hc
    · obtain rfl := Option.some.inj hc
      exact UtcOffset.isReadable_zero
    · refine .inr ?_
      rw [UtcOffset.micros_of_make? hc]
      split <;> omega

theorem isReadable_of_time? {s : List Char} {t : TimeOfDay} {o : UtcOffset}
    (h : time? s = some (t, some o)) : o.IsReadable := by
  obtain ⟨c, -, hc⟩ := Option.bind_eq_some_iff.1 h
  obtain ⟨time, -, htime⟩ := Option.bind_eq_some_iff.1 hc
  split at htime
  · split at htime
    · cases htime
    · cases htime
  · split at htime
    · cases htime
    · cases htime
      exact UtcOffset.isReadable_zero
  · obtain ⟨offset, hoffset, hpair⟩ := Option.bind_eq_some_iff.1 htime
    cases hpair
    exact isReadable_of_offset? hoffset

end Iso

namespace Timestamp

theorem isReadable_of_ofChars? {s : List Char} {t : Timestamp} (h : ofChars? s = some t) :
    ∀ o ∈ t.offset, o.IsReadable := by
  obtain ⟨length, -, hlength⟩ := Option.bind_eq_some_iff.1 h
  obtain ⟨date, -, hdate⟩ := Option.bind_eq_some_iff.1 hlength
  split at hdate
  · obtain rfl := Option.some.inj hdate
    simp
  · obtain ⟨⟨time, offset⟩, htime, ht⟩ := Option.bind_eq_some_iff.1 hdate
    obtain rfl := Option.some.inj ht
    rintro o ho
    obtain rfl : offset = some o := ho
    exact Iso.isReadable_of_time? htime

theorem isReadable_withOffset {t : Timestamp} (h : ∀ o ∈ t.offset, o.IsReadable) :
    t.withOffset.IsReadable := by
  refine ⟨_, rfl, ?_⟩
  cases hoffset : t.offset with
  | none => exact UtcOffset.isReadable_zero
  | some o => exact h o hoffset

theorem isReadable_of_ofInstant? {n : Int} {t : Timestamp} (h : ofInstant? n = some t) :
    t.IsReadable := by
  unfold ofInstant? at h
  split at h
  · cases h
  · obtain ⟨date, -, hdate⟩ := Option.bind_eq_some_iff.1 h
    obtain ⟨time, -, ht⟩ := Option.bind_eq_some_iff.1 hdate
    obtain rfl := Option.some.inj ht
    exact ⟨_, rfl, UtcOffset.isReadable_zero⟩

theorem isReadable_of_ofMillis? {millis : Number} {t : Timestamp} (h : ofMillis? millis = some t) :
    t.IsReadable := by
  have hinstant : ∀ seconds, ((microsOfSeconds? seconds).bind fun micros =>
      ofInstant? (epoch.instant + micros)) = some t → t.IsReadable := by
    intro seconds hseconds
    obtain ⟨micros, -, hmicros⟩ := Option.bind_eq_some_iff.1 hseconds
    exact isReadable_of_ofInstant? hmicros
  cases millis with
  | int n =>
    obtain ⟨seconds, -, hseconds⟩ := Option.bind_eq_some_iff.1 h
    exact hinstant seconds hseconds
  | real x => exact hinstant _ h

/-- **Every time that is read has an offset that can be read.** -/
theorem isReadable_of_ofJson? {value : Json} {t : Timestamp} (h : ofJson? value = some t) :
    t.IsReadable := by
  unfold ofJson? at h
  split at h
  · obtain ⟨read, hread, rfl⟩ := Option.map_eq_some_iff.1 h
    obtain ⟨s, -, hs⟩ := Option.bind_eq_some_iff.1 hread
    exact isReadable_withOffset (isReadable_of_ofChars? hs)
  · exact isReadable_of_ofMillis? h
  · cases h

/-! ## Times that are written -/

theorem ofString_text (t : Timestamp) : Text.ofString t.text = Text.ofChars t.chars := by
  rw [Text.ofString, text, String.toList_ofList]

theorem chars?_ofChars (s : List Char) : Iso.chars? (Text.ofChars s) = some s := by
  have hnone : (Iso.dateEnds.find? fun i => (Text.ofChars s)[i]?.any Iso.isHalf) = none := by
    refine List.find?_eq_none.2 fun i _ => ?_
    rw [Text.ofChars, List.getElem?_map]
    cases s[i]? <;> simp [Iso.isHalf]
  unfold Iso.chars?
  rw [hnone]
  exact Text.chars?_ofChars s

theorem parse?_text {t : Timestamp} (h : t.IsReadable) :
    parse? (Text.ofString t.text) = some t := by
  rw [parse?, ofString_text, chars?_ofChars, Option.bind_some, ofChars?_chars h]

theorem ofText?_text {t : Timestamp} (h : t.IsReadable) :
    ofText? (Text.ofString t.text) = some t := by
  have hall : ∀ c ∈ Text.ofChars t.chars, Text.isBlank c = false ∧ c ≠ .char 'Z' := by
    intro c hc
    obtain ⟨d, hd, rfl⟩ := List.mem_map.1 hc
    have hdigit : ∀ digit < 10, Text.isBlank (.char digit.digitChar) = false ∧
        CodePoint.char digit.digitChar ≠ .char 'Z' := by decide
    exact forall_chars (P := fun d => Text.isBlank (.char d) = false ∧ CodePoint.char d ≠ .char 'Z')
      hdigit (by decide) (by decide) (by decide) (by decide) (by decide) d hd
  have htrim : Text.trim (Text.ofChars t.chars) = Text.ofChars t.chars :=
    Text.trimBy_eq_self (fun c hc => (hall c (List.mem_of_head? hc)).1)
      fun c hc => (hall c (List.mem_of_getLast? hc)).1
  have hlast : (Text.ofChars t.chars).getLast? ≠ some (.char 'Z') := fun heq =>
    (hall _ (List.mem_of_getLast? heq)).2 rfl
  have hoffset : t.withOffset = t := by
    obtain ⟨o, ho, -⟩ := h
    obtain ⟨date, time, offset⟩ := t
    obtain rfl : offset = some o := ho
    rfl
  unfold ofText?
  rw [ofString_text, htrim]
  dsimp only
  rw [if_neg hlast, ← ofString_text, parse?_text h, Option.map_some, hoffset]

/-- **A time whose offset can be read is read back** from the text that it is written as. -/
theorem ofJson?_text {t : Timestamp} (h : t.IsReadable) : ofJson? (.string t.text) = some t := by
  rw [ofJson?]
  exact ofText?_text h

end Timestamp

end Bookmarks
