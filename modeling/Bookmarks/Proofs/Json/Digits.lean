import Bookmarks.Json.Reader
import Bookmarks.Proofs.Fault
import Bookmarks.Proofs.Text.Digits

/-!
# The digits of the integers in a value

An integer of too many digits cannot be written, and is not read. So a value that was read from a
text can be written as a text.

* `Json.integers`, `Json.FewDigits`: the integers in a value, and that each of them can be written.
* **`Json.exists_text`**: a value whose integers can be written is written.
* **`Json.fewDigits_of_read`**: the integers of a value that was read can be written.
-/

namespace Bookmarks.Json

/-! ## Integers -/

mutual

/-- The integers in a value, at any depth. -/
def integers : Json → List Int
  | number (.int n) => [n]
  | array items => integersOfItems items
  | object fields => integersOfFields fields
  | _ => []

/-- The integers in some values. -/
def integersOfItems : List Json → List Int
  | [] => []
  | item :: rest => integers item ++ integersOfItems rest

/-- The integers in the values of some fields. -/
def integersOfFields : List (Text × Json) → List Int
  | [] => []
  | (_, value) :: rest => integers value ++ integersOfFields rest

end

/-- No integer in a value has more digits than `most`. -/
def DigitsWithin (most : Nat) (v : Json) : Prop :=
  ∀ n ∈ v.integers, (Decimal.digits n.natAbs).length ≤ most

/-- Each integer in a value can be written. -/
abbrev FewDigits : Json → Prop :=
  DigitsWithin Fault.digitLimit

theorem integersOfItems_eq (items : List Json) :
    integersOfItems items = items.flatMap integers := by
  induction items with
  | nil => rfl
  | cons item rest ih => rw [integersOfItems, ih, List.flatMap_cons]

theorem integersOfFields_eq (fields : List (Text × Json)) :
    integersOfFields fields = fields.flatMap fun field => field.2.integers := by
  induction fields with
  | nil => rfl
  | cons field rest ih => rw [integersOfFields, ih, List.flatMap_cons]

section DigitsWithin

variable {most : Nat}

theorem digitsWithin_int {n : Int} : DigitsWithin most (.number (.int n)) ↔
    (Decimal.digits n.natAbs).length ≤ most := by
  rw [DigitsWithin, integers, List.forall_mem_singleton]

theorem digitsWithin_array {items : List Json} :
    DigitsWithin most (.array items) ↔ ∀ item ∈ items, item.DigitsWithin most := by
  rw [DigitsWithin, integers, integersOfItems_eq]
  simp only [List.mem_flatMap, forall_exists_index, and_imp, DigitsWithin]
  exact ⟨fun h item hitem n hn => h n item hitem hn, fun h n item hitem hn => h item hitem n hn⟩

theorem digitsWithin_object {fields : List (Text × Json)} :
    DigitsWithin most (.object fields) ↔ ∀ field ∈ fields, field.2.DigitsWithin most := by
  rw [DigitsWithin, integers, integersOfFields_eq]
  simp only [List.mem_flatMap, forall_exists_index, and_imp, DigitsWithin]
  exact ⟨fun h field hfield n hn => h n field hfield hn,
    fun h n field hfield hn => h field hfield n hn⟩

theorem DigitsWithin.of_integers_eq_nil {v : Json} (h : v.integers = []) :
    v.DigitsWithin most := by
  intro n hn
  rw [h] at hn
  cases hn

theorem DigitsWithin.field {fields : Table Text Json} (h : DigitsWithin most (.object fields))
    (name : String) : (Json.field fields name).DigitsWithin most := by
  rw [digitsWithin_object] at h
  rw [Json.field]
  induction fields with
  | nil => exact .of_integers_eq_nil rfl
  | cons field rest ih =>
    obtain ⟨key, value⟩ := field
    rw [Table.get?]
    split
    · exact h _ List.mem_cons_self
    · exact ih fun field hfield => h field (List.mem_cons_of_mem _ hfield)

theorem DigitsWithin.set {done : Table Text Json} {name : Text} {value : Json}
    (hdone : ∀ field ∈ done, field.2.DigitsWithin most) (hvalue : value.DigitsWithin most) :
    ∀ field ∈ Table.set name value done, field.2.DigitsWithin most := by
  induction done with
  | nil => exact List.forall_mem_singleton.2 hvalue
  | cons field rest ih =>
    obtain ⟨key, old⟩ := field
    obtain ⟨hold, hrest⟩ := List.forall_mem_cons.1 hdone
    rw [Table.set]
    split
    · exact List.forall_mem_cons.2 ⟨hvalue, hrest⟩
    · exact List.forall_mem_cons.2 ⟨hold, ih hrest⟩

end DigitsWithin

/-! ## Writing -/

mutual

theorem exists_shown : (v : Json) → v.FewDigits → ∃ s, v.shown = .ok s
  | null, _ | boolean _, _ | number (.real _), _ | string _, _ => ⟨_, rfl⟩
  | number (.int n), h => by
    rw [shown, integerText, if_neg (Nat.not_lt.2 (digitsWithin_int.1 h))]
    exact ⟨_, rfl⟩
  | array items, h => by
    obtain ⟨texts, htexts⟩ := exists_shownItems items (digitsWithin_array.1 h)
    rw [shown, htexts]
    exact ⟨_, rfl⟩
  | object fields, h => by
    obtain ⟨texts, htexts⟩ := exists_shownFields fields (digitsWithin_object.1 h)
    rw [shown, htexts]
    exact ⟨_, rfl⟩

theorem exists_shownItems : (items : List Json) → (∀ item ∈ items, item.FewDigits) →
    ∃ texts, shownItems items = .ok texts
  | [], _ => ⟨_, rfl⟩
  | item :: rest, h => by
    obtain ⟨s, hs⟩ := exists_shown item (h item List.mem_cons_self)
    obtain ⟨texts, htexts⟩ := exists_shownItems rest fun v hv => h v (List.mem_cons_of_mem _ hv)
    rw [shownItems, hs, htexts]
    exact ⟨_, rfl⟩

theorem exists_shownFields : (fields : List (Text × Json)) →
    (∀ field ∈ fields, field.2.FewDigits) → ∃ texts, shownFields fields = .ok texts
  | [], _ => ⟨_, rfl⟩
  | (name, value) :: rest, h => by
    obtain ⟨s, hs⟩ := exists_shown value (h (name, value) List.mem_cons_self)
    obtain ⟨texts, htexts⟩ := exists_shownFields rest fun v hv => h v (List.mem_cons_of_mem _ hv)
    rw [shownFields, hs, htexts]
    exact ⟨_, rfl⟩

end

/-- **A value whose integers can be written is written.** -/
theorem exists_text {v : Json} (h : v.FewDigits) : ∃ s, v.text = .ok s := by
  cases v with
  | string s => exact ⟨s, rfl⟩
  | _ =>
    obtain ⟨s, hs⟩ := exists_shown _ h
    exact ⟨_, congrArg (Except.map Text.ofString) hs⟩

/-! ## Reading -/

/-- Whatever a reading gives has a property. -/
def Gives {α : Type} {s : Text} (p : α → Prop) (r : Reading α s) : Prop :=
  ∀ a rest, r = .ok (a, rest) → p a

section Gives

variable {α β : Type} {s t : Text} {p : α → Prop}

theorem Gives.ok {a : α} {rest : Rest s} (h : p a) : Gives p (.ok (a, rest)) := by
  intro b rest' heq
  obtain ⟨rfl, -⟩ := Prod.mk.inj (Except.ok.inj heq)
  exact h

theorem Gives.error {stop : Stop} : Gives p (.error stop : Reading α s) := by
  intro a rest heq
  cases heq

theorem Gives.map {q : β → Prop} {r : Reading α s} {f : α → β} {h : s.length ≤ t.length}
    (hr : Gives p r) (hf : ∀ a, p a → q (f a)) : Gives q (r.map f h) := by
  cases r with
  | error stop => exact .error
  | ok found =>
    obtain ⟨a, rest⟩ := found
    exact .ok (hf a (hr a rest rfl))

end Gives

theorem length_wholePart?_pos {s whole rest : Text} (h : wholePart? s = some (whole, rest)) :
    0 < whole.length := by
  unfold wholePart? at h
  split at h
  · obtain ⟨rfl, -⟩ := Prod.mk.inj (Option.some.inj h)
    exact Nat.one_pos
  · split at h
    · obtain ⟨rfl, -⟩ := Prod.mk.inj (Option.some.inj h)
      exact Nat.succ_pos _
    · cases h
  · cases h

section Reading

variable {limits : Limits} {most : Nat} (hlimits : limits.digits = some most)

include hlimits

theorem digitsWithin_number? {negative : Bool} {s rest : Text} {n : Number}
    (h : number? limits negative s = .ok (some (n, rest))) :
    (Json.number n).DigitsWithin most := by
  unfold number? at h
  rw [hlimits] at h
  split at h
  · cases h
  · next whole afterWhole hwhole =>
    dsimp only at h
    split at h
    · split at h
      · cases h
      · next hmost =>
        obtain ⟨rfl, -⟩ := Prod.mk.inj (Option.some.inj (Except.ok.inj h))
        have hvalue : Int.natAbs (if negative then -(Text.digitsValue whole : Int)
            else Text.digitsValue whole) = Text.digitsValue whole := by
          split
          · rw [Int.natAbs_neg, Int.natAbs_natCast]
          · rw [Int.natAbs_natCast]
        rw [digitsWithin_int, hvalue]
        have hlength := Text.length_digits_le (length_wholePart?_pos hwhole)
          (Text.digitsValue_lt whole)
        simp only [Option.any_some, decide_eq_true_eq] at hmost
        omega
    · obtain ⟨rfl, -⟩ := Prod.mk.inj (Option.some.inj (Except.ok.inj h))
      exact .of_integers_eq_nil rfl

omit hlimits in
theorem integers_of_word? {s rest : Text} {v : Json} (h : word? s = some (v, rest)) :
    v.integers = [] := by
  obtain ⟨word, hmem, hword⟩ := List.exists_of_findSome?_eq_some h
  obtain ⟨after, -, heq⟩ := Option.map_eq_some_iff.1 hword
  have hnone : ∀ w ∈ words, w.2.integers = [] := by decide
  obtain rfl := (Prod.mk.inj heq).1
  exact hnone word hmem

theorem gives_readScalar (s : Text) : Gives (DigitsWithin most) (readScalar limits s) := by
  unfold readScalar
  split
  · next hw => exact .ok (.of_integers_eq_nil (integers_of_word? hw))
  · split
    · exact .error
    · exact .error
    · next hn => exact .ok (digitsWithin_number? hlimits hn)

end Reading

/-- The readings of a size below `size` give values of integers with no more digits than `most`. -/
structure ReadsWithin (limits : Limits) (most size : Nat) : Prop where
  value : ∀ depth s, 2 * s.length < size → Gives (DigitsWithin most) (readValue limits depth s)
  items : ∀ depth done s, 2 * s.length + 1 < size → (∀ item ∈ done, item.DigitsWithin most) →
    Gives (fun items => ∀ item ∈ items, item.DigitsWithin most) (readItems limits depth done s)
  fields : ∀ depth done s, 2 * s.length + 1 < size →
    (∀ field ∈ done, field.2.DigitsWithin most) →
    Gives (fun fields => ∀ field ∈ fields, field.2.DigitsWithin most)
      (readFields limits depth done s)

section ReadsWithin

variable {limits : Limits} {most : Nat} {s : Text}

theorem gives_readValue (hlimits : limits.digits = some most)
    (h : ReadsWithin limits most (2 * s.length)) (depth : Nat) :
    Gives (DigitsWithin most) (readValue limits depth s) := by
  unfold readValue
  split
  · next rest =>
    exact Gives.map (p := fun _ => True) (fun _ _ _ => trivial) fun _ _ => .of_integers_eq_nil rfl
  · next rest =>
    have hrest := length_skipSpace_le rest
    rw [List.length_cons] at h
    split
    · exact .error
    · split
      · exact .ok (.of_integers_eq_nil rfl)
      · exact (h.items _ [] _ (by omega) (List.forall_mem_nil _)).map fun _ => digitsWithin_array.2
  · next rest =>
    have hrest := length_skipSpace_le rest
    rw [List.length_cons] at h
    split
    · exact .error
    · split
      · exact .ok (.of_integers_eq_nil rfl)
      · exact (h.fields _ [] _ (by omega) (List.forall_mem_nil _)).map fun _ =>
          digitsWithin_object.2
  · exact gives_readScalar hlimits _

theorem gives_readItems (h : ReadsWithin limits most (2 * s.length + 1)) (depth : Nat)
    {done : List Json} (hdone : ∀ item ∈ done, item.DigitsWithin most) :
    Gives (fun items => ∀ item ∈ items, item.DigitsWithin most)
      (readItems limits depth done s) := by
  unfold readItems
  split
  · exact .error
  · next item afterItem hafter hread =>
    have hitem := h.value depth s (by omega) _ _ hread
    have hdone' := List.forall_mem_cons.2 ⟨hitem, hdone⟩
    have hskip := length_skipSpace_le afterItem
    split
    · refine .ok fun item hmem => hdone' item (List.mem_reverse.1 hmem)
    · next rest heq =>
      have hrest := length_skipSpace_le rest
      rw [heq, List.length_cons] at hskip
      exact (h.items _ _ _ (by omega) hdone').map fun _ ha => ha
    · exact .error

theorem gives_readFields (h : ReadsWithin limits most (2 * s.length + 1)) (depth : Nat)
    {done : List (Text × Json)} (hdone : ∀ field ∈ done, field.2.DigitsWithin most) :
    Gives (fun fields => ∀ field ∈ fields, field.2.DigitsWithin most)
      (readFields limits depth done s) := by
  unfold readFields
  split
  · next start =>
    rw [List.length_cons] at h
    split
    · exact .error
    · next name afterName hname _ =>
      have hskip := length_skipSpace_le afterName
      split
      · next afterColon heq =>
        rw [heq, List.length_cons] at hskip
        have hcolon := length_skipSpace_le afterColon
        split
        · exact .error
        · next value afterValue hvalue hread =>
          have hset : ∀ field ∈ Table.set name value done, field.2.DigitsWithin most :=
            .set hdone (h.value depth _ (by omega) _ _ hread)
          have hafter := length_skipSpace_le afterValue
          split
          · exact .ok hset
          · next rest heq =>
            rw [heq, List.length_cons] at hafter
            have hrest := length_skipSpace_le rest
            exact (h.fields _ _ _ (by omega) hset).map fun _ ha => ha
          · exact .error
      · exact .error
  · exact .error

theorem readsWithin (hlimits : limits.digits = some most) (size : Nat) :
    ReadsWithin limits most size := by
  induction size using Nat.strong_induction_on with
  | _ size ih =>
    exact ⟨fun depth s hs => gives_readValue hlimits (ih _ hs) depth,
      fun depth _ s hs hdone => gives_readItems (ih _ hs) depth hdone,
      fun depth _ s hs hdone => gives_readFields (ih _ hs) depth hdone⟩

end ReadsWithin

/-- **The integers of a value that was read can be written.** -/
theorem fewDigits_of_read {s : Text} {v : Json} (h : read s = .ok v) : v.FewDigits := by
  unfold read readWithin at h
  split at h
  · next value hread =>
    obtain rfl := Except.ok.inj h
    unfold readText at hread
    split at hread
    · split at hread
      · cases hread
      · split at hread
        · cases hread
        · next found rest hrest hvalue =>
          dsimp only at hread
          split at hread
          · obtain rfl := Except.ok.inj hread
            exact (readsWithin rfl _).value 0 _ (Nat.lt_succ_self _) _ _ hvalue
          · cases hread
    · cases hread
  · cases h
  · cases h
  · cases h

end Bookmarks.Json
