import Bookmarks.Proofs.Text.Trim
import Bookmarks.Query.Token
import Bookmarks.Text.Case
import Bookmarks.Text.Digit
import Bookmarks.Text.Keyword
import Mathlib

/-!
# The letter case of ASCII letters

Two texts that differ in the letter case of ASCII letters only become one text when these letters
are made small. Making them small changes nothing that is asked of a character but its case, and it
changes no lower-case form: whether a sigma ends a word depends on which characters around it are
letters, and not on their case.

* `SameLetters`: texts that differ in the letter case of ASCII letters at most.
* `small`: a text with small ASCII letters; `SameLetters.small_eq` makes the two one text.
* `apply_lowerAscii`: what depends on a character, but not on its case.
* **`lower_small`**: the lower-case form is the same.
-/

namespace Bookmarks.Text

/-- The character in the other letter case, if it is an ASCII letter. -/
def switchCase (c : CodePoint) : CodePoint :=
  if c.isWithin 'A' 'Z' then .char (Char.ofNat (c.toNat + 32))
  else if c.isWithin 'a' 'z' then .char (Char.ofNat (c.toNat - 32))
  else c

/-- The texts differ in the letter case of ASCII letters at most. -/
def SameLetters (s t : Text) : Prop :=
  List.Forall₂ (fun c d => d = c ∨ d = switchCase c) s t

instance (s t : Text) : Decidable (s.SameLetters t) :=
  inferInstanceAs (Decidable (List.Forall₂ _ s t))

/-- The text with small ASCII letters. -/
def small (s : Text) : Text :=
  s.map lowerAscii

/-! ## Characters -/

theorem toNat_injective : Function.Injective CodePoint.toNat := by
  -- no character has the number of half of a surrogate pair
  have hvalid : ∀ (c : Char) (n : Fin 0x800), c.toNat ≠ 0xD800 + n.val := by
    intro c n h
    have : c.toNat < 0xD800 ∨ (0xDFFF < c.toNat ∧ c.toNat < 0x110000) := c.valid
    omega
  intro c d h
  cases c with
  | char c =>
    cases d with
    | char d => exact congrArg CodePoint.char (Char.toNat_inj.1 h)
    | half n => exact absurd h (hvalid c n)
  | half m =>
    cases d with
    | char d => exact absurd h.symm (hvalid d m)
    | half n => exact congrArg CodePoint.half (Fin.ext (Nat.add_left_cancel h))

theorem forall_ascii {p : CodePoint → Prop} (h : ∀ n < 128, p (.char (Char.ofNat n)))
    {c : CodePoint} (hc : c.toNat < 128) : p c := by
  cases c with
  | char c =>
    have hp := h c.toNat hc
    rwa [Char.ofNat_toNat] at hp
  | half n =>
    rw [CodePoint.toNat] at hc
    omega

theorem isWithin_eq_false {first last : Char} {c : CodePoint} (hlast : last.toNat < 128)
    (hc : ¬ c.toNat < 128) : c.isWithin first last = false := by
  rw [CodePoint.isWithin, decide_eq_false (p := c.toNat ≤ last.toNat) (by omega), Bool.and_false]

/-- Only the capital letters change when they are made small. -/
theorem lowerAscii_cases (c : CodePoint) : lowerAscii c = c ∨
    ∃ i < 26, c = .char (Char.ofNat (0x41 + i)) ∧ lowerAscii c = .char (Char.ofNat (0x61 + i)) := by
  by_cases hc : c.toNat < 128
  · exact forall_ascii (p := fun c => lowerAscii c = c ∨ ∃ i < 26,
      c = .char (Char.ofNat (0x41 + i)) ∧ lowerAscii c = .char (Char.ofNat (0x61 + i)))
      (by decide +kernel) hc
  · rw [lowerAscii, isWithin_eq_false (by decide) hc, if_neg Bool.false_ne_true]
    exact .inl rfl

theorem apply_lowerAscii {α : Type} (f : CodePoint → α)
    (h : ∀ i < 26, f (.char (Char.ofNat (0x61 + i))) = f (.char (Char.ofNat (0x41 + i))))
    (c : CodePoint) : f (lowerAscii c) = f c := by
  rcases lowerAscii_cases c with hsame | ⟨i, hi, hc, hsmall⟩
  · rw [hsame]
  · rw [hsmall, hc, h i hi]

theorem toNat_letters {i : Nat} (hi : i < 26) : (Char.ofNat (0x61 + i)).toNat = 0x61 + i ∧
    (Char.ofNat (0x41 + i)).toNat = 0x41 + i := by
  have hall : ∀ i < 26, (Char.ofNat (0x61 + i)).toNat = 0x61 + i ∧
      (Char.ofNat (0x41 + i)).toNat = 0x41 + i := by decide
  exact hall i hi

theorem lowerAscii_switchCase (c : CodePoint) : lowerAscii (switchCase c) = lowerAscii c := by
  by_cases hc : c.toNat < 128
  · exact forall_ascii (p := fun c => lowerAscii (switchCase c) = lowerAscii c)
      (by decide +kernel) hc
  · rw [switchCase, isWithin_eq_false (by decide) hc, isWithin_eq_false (by decide) hc,
      if_neg Bool.false_ne_true, if_neg Bool.false_ne_true]

@[simp] theorem isBlank_lowerAscii (c : CodePoint) : isBlank (lowerAscii c) = isBlank c :=
  apply_lowerAscii isBlank (by decide +kernel) c

@[simp] theorem digitValue?_lowerAscii (c : CodePoint) :
    digitValue? (lowerAscii c) = digitValue? c :=
  apply_lowerAscii digitValue? (by decide +kernel) c

@[simp] theorem isDigit_lowerAscii (c : CodePoint) : isDigit (lowerAscii c) = isDigit c := by
  rw [isDigit, digitValue?_lowerAscii, isDigit]

@[simp] theorem isCased_lowerAscii (c : CodePoint) : isCased (lowerAscii c) = isCased c :=
  apply_lowerAscii isCased (by decide +kernel) c

@[simp] theorem isIgnorable_lowerAscii (c : CodePoint) :
    isIgnorable (lowerAscii c) = isIgnorable c := by
  -- all ranges lie outside the letters, so they need not be searched for each letter
  have hletters : ∀ range ∈ ignorableRanges,
      range.2 < 0x41 ∨ (0x5A < range.1 ∧ range.2 < 0x61) ∨ 0x7A < range.1 := by decide +kernel
  have hfalse : ∀ n, (0x41 ≤ n ∧ n ≤ 0x5A) ∨ (0x61 ≤ n ∧ n ≤ 0x7A) →
      inRanges ignorableRanges n = false := by
    intro n hn
    refine List.any_eq_false.2 fun range hrange => ?_
    have := hletters range hrange
    simp only [Bool.and_eq_true, decide_eq_true_eq]
    omega
  refine apply_lowerAscii isIgnorable (fun i hi => ?_) c
  obtain ⟨hsmall, hcapital⟩ := toNat_letters hi
  rw [isIgnorable, isIgnorable, hfalse _ (by rw [CodePoint.toNat]; omega),
    hfalse _ (by rw [CodePoint.toNat]; omega)]

@[simp] theorem lowerOf_lowerAscii (c : CodePoint) : lowerOf (lowerAscii c) = lowerOf c :=
  apply_lowerAscii lowerOf (by decide +kernel) c

@[simp] theorem lowerAscii_lowerAscii (c : CodePoint) :
    lowerAscii (lowerAscii c) = lowerAscii c :=
  apply_lowerAscii lowerAscii (by decide +kernel) c

theorem toNat_lowerAscii_eq_iff {n : Nat} (hn : 128 ≤ n) (c : CodePoint) :
    (lowerAscii c).toNat = n ↔ c.toNat = n := by
  rcases lowerAscii_cases c with hsame | ⟨i, hi, rfl, hsmall⟩
  · rw [hsame]
  · obtain ⟨hsmallNat, hcapitalNat⟩ := toNat_letters hi
    rw [hsmall, CodePoint.toNat, CodePoint.toNat]
    omega

theorem lowerAscii_eq_iff {k : Char} (h : k.toNat < 0x41 ∨ 0x7A < k.toNat)
    (c : CodePoint) : lowerAscii c = .char k ↔ c = .char k := by
  rcases lowerAscii_cases c with hsame | ⟨i, hi, rfl, hsmall⟩
  · rw [hsame]
  · obtain ⟨hsmallNat, hcapitalNat⟩ := toNat_letters hi
    rw [hsmall, CodePoint.char.injEq, CodePoint.char.injEq]
    exact iff_of_false (by rintro rfl; omega) (by rintro rfl; omega)

theorem standsFor_lowerAscii (k : Char) (c : CodePoint) :
    standsFor k (lowerAscii c) = standsFor k c := by
  have hbeq : ∀ n, 128 ≤ n → ((lowerAscii c).toNat == n) = (c.toNat == n) := fun n hn => by
    rw [Bool.eq_iff_iff, beq_iff_eq, beq_iff_eq, toNat_lowerAscii_eq_iff hn]
  rw [standsFor, standsFor, lowerAscii_lowerAscii, hbeq 0x17F (by decide), hbeq 0x212A (by decide),
    hbeq 0x130 (by decide), hbeq 0x131 (by decide)]

/-! ## Texts -/

@[simp] theorem small_cons (c : CodePoint) (s : Text) : small (c :: s) = lowerAscii c :: small s :=
  rfl

@[simp] theorem small_append (s t : Text) : small (s ++ t) = small s ++ small t :=
  List.map_append

@[simp] theorem isEmpty_small (s : Text) : s.small.isEmpty = s.isEmpty :=
  List.isEmpty_map

theorem map_eq_of_forall₂ {α β γ : Type} {r : α → β → Prop} {f : α → γ} {g : β → γ} {xs : List α}
    {ys : List β} (h : List.Forall₂ r xs ys) (hfg : ∀ x y, r x y → f x = g y) :
    xs.map f = ys.map g := by
  induction h with
  | nil => rfl
  | cons hxy _ ih => rw [List.map_cons, List.map_cons, hfg _ _ hxy, ih]

/-- **Texts that differ in the case of ASCII letters only become one text.** -/
theorem SameLetters.small_eq {s t : Text} (h : s.SameLetters t) : s.small = t.small := by
  refine map_eq_of_forall₂ h fun c d hcd => ?_
  rcases hcd with rfl | rfl
  · rfl
  · exact (lowerAscii_switchCase c).symm

theorem casedAhead_small (s : Text) : casedAhead s.small = casedAhead s := by
  induction s with
  | nil => rfl
  | cons c s ih =>
    rw [small_cons, casedAhead, casedAhead, isIgnorable_lowerAscii, ih, isCased_lowerAscii]

theorem lowerFrom_small (behind : Bool) (s : Text) :
    lowerFrom behind s.small = lowerFrom behind s := by
  induction s generalizing behind with
  | nil => rfl
  | cons c s ih =>
    have hbehind : casedBehind behind (lowerAscii c) = casedBehind behind c := by
      rw [casedBehind, isIgnorable_lowerAscii, isCased_lowerAscii, casedBehind]
    rw [small_cons, lowerFrom, lowerFrom, ih, hbehind, casedAhead_small, lowerOf_lowerAscii]
    simp only [toNat_lowerAscii_eq_iff (n := 0x3A3) (by decide)]

/-- **The lower-case form does not depend on the case of ASCII letters.** -/
@[simp] theorem lower_small (s : Text) : lower s.small = lower s :=
  lowerFrom_small false s

end Bookmarks.Text
