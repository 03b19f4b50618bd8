import Bookmarks.Proofs.Query.Days
import Bookmarks.Proofs.Text.LetterCase

/-!
# The grammar of filters

A structured filter is written in one of seven forms: a keyword, and behind it either an operator
with a number of days, or a value. A word is read as a filter exactly if it has one of these forms.
No word has two of them, so they may be tried in any order.

* `Text.Spells`: a keyword in any letter case.
* `Form`, `Form.Accepts`, `Form.Writes`: the seven forms, and which filter a word writes in one.
* `days?_eq_some_iff`, `operator?_eq_some`, `age?_eq_some_iff`: what follows the keyword of an age.
* `readAs_eq_some_iff`, `exists_form_iff`: a form is read as it is written.
* **`Predicate.parse?_grammar`**: words are read by the grammar.
-/

namespace Bookmarks

/-! ## Keywords -/

namespace Text

/-- The character stands for the letter `k` of a keyword: it is this letter in either case, or one
of the four characters beyond ASCII that have a case variant among the ASCII letters. A sign of a
keyword has no cases, so only the sign itself stands for it. -/
def IsVariant (k : Char) (c : CodePoint) : Prop :=
  c = .char k ∨ c = switchCase (.char k) ∨ (k = 's' ∧ c = .char (Char.ofNat 0x17F)) ∨
    (k = 'k' ∧ c = .char (Char.ofNat 0x212A)) ∨
    (k = 'i' ∧ (c = .char (Char.ofNat 0x130) ∨ c = .char (Char.ofNat 0x131)))

instance (k : Char) (c : CodePoint) : Decidable (IsVariant k c) := by
  unfold IsVariant
  infer_instance

/-- The text spells the keyword, letter by letter. -/
def Spells (keyword : String) (s : Text) : Prop :=
  List.Forall₂ IsVariant keyword.toList s

instance (keyword : String) (s : Text) : Decidable (Spells keyword s) :=
  inferInstanceAs (Decidable (List.Forall₂ _ _ _))

theorem eq_char_iff {c : CodePoint} {k : Char} : c = .char k ↔ c.toNat = k.toNat :=
  toNat_injective.eq_iff.symm

theorem lowerAscii_eq_char_iff {k : Char} (hk : lowerAscii (.char k) = .char k) {c : CodePoint} :
    lowerAscii c = .char k ↔ c = .char k ∨ c = switchCase (.char k) := by
  constructor
  · intro h
    rcases lowerAscii_cases c with hsame | ⟨i, hi, rfl, hsmall⟩
    · exact .inl (hsame ▸ h)
    · obtain rfl : Char.ofNat (0x61 + i) = k := CodePoint.char.inj (hsmall.symm.trans h)
      have hswitch : ∀ i < 26, CodePoint.char (Char.ofNat (0x41 + i)) =
          switchCase (.char (Char.ofNat (0x61 + i))) := by decide +kernel
      exact .inr (hswitch i hi)
  · rintro (rfl | rfl)
    · exact hk
    · rw [lowerAscii_switchCase, hk]

theorem standsFor_iff {k : Char} (hk : lowerAscii (.char k) = .char k) {c : CodePoint} :
    standsFor k c = true ↔ IsVariant k c := by
  have hlong : (Char.ofNat 0x17F).toNat = 0x17F := by decide
  have hkelvin : (Char.ofNat 0x212A).toNat = 0x212A := by decide
  have hdotted : (Char.ofNat 0x130).toNat = 0x130 := by decide
  have hdotless : (Char.ofNat 0x131).toNat = 0x131 := by decide
  simp only [standsFor, IsVariant, Bool.or_eq_true, Bool.and_eq_true, beq_iff_eq,
    lowerAscii_eq_char_iff hk, eq_char_iff (k := Char.ofNat 0x17F),
    eq_char_iff (k := Char.ofNat 0x212A), eq_char_iff (k := Char.ofNat 0x130),
    eq_char_iff (k := Char.ofNat 0x131), hlong, hkelvin, hdotted, hdotless, or_assoc]

theorem afterKeyword?_eq_some_iff {keyword : List Char}
    (hk : ∀ k ∈ keyword, lowerAscii (.char k) = .char k) {s rest : Text} :
    afterKeyword? keyword s = some rest ↔
      ∃ start, List.Forall₂ IsVariant keyword start ∧ s = start ++ rest := by
  induction keyword generalizing s with
  | nil => simp [afterKeyword?, eq_comm]
  | cons k keyword ih =>
    obtain ⟨hfirst, hothers⟩ := List.forall_mem_cons.1 hk
    cases s with
    | nil => simp [afterKeyword?]
    | cons c s =>
      rw [afterKeyword?]
      split
      · next hstands =>
        rw [ih hothers]
        constructor
        · rintro ⟨start, hstart, rfl⟩
          exact ⟨c :: start, .cons ((standsFor_iff hfirst).1 hstands) hstart, rfl⟩
        · rintro ⟨start, hstart, heq⟩
          cases hstart with
          | cons _ hstart =>
            obtain ⟨rfl, rfl⟩ := List.cons.inj heq
            exact ⟨_, hstart, rfl⟩
      · next hstands =>
        refine iff_of_false (fun h => by cases h) ?_
        rintro ⟨start, hstart, heq⟩
        cases hstart with
        | cons hc hstart =>
          obtain ⟨rfl, rfl⟩ := List.cons.inj heq
          exact hstands ((standsFor_iff hfirst).2 hc)

end Text

namespace Predicate

/-! ## Forms -/

/-- The forms in which a word can write a filter. -/
inductive Form where
  | age (event : Event)
  | label (l : Label)
  | tag
  /-- The short form for a tag. -/
  | hash
deriving DecidableEq

namespace Form

/-- The keyword of a form, with its sign. -/
def keyword : Form → String
  | age .added => "added:"
  | age .clicked => "clicked:"
  | label .device => "device:"
  | label .os => "os:"
  | label .browser => "browser:"
  | tag => "tag:"
  | hash => "#"

/-- What may stand behind the keyword, and the filter that is written by it. For an age this is one
of the five operators, one to nine digits of any script, and the unit or nothing. -/
def Accepts : Form → Text → Predicate → Prop
  | age event, s, p => ∃ op ∈ Operator.known, ∃ digits unit : Text, digits.IsShortRun ∧
      (unit = [] ∨ Text.Spells "d" unit) ∧ s = Text.ofString op.symbol ++ (digits ++ unit) ∧
      p = .age event (some op) (some (Text.digitsValue digits))
  | label l, s, p => s ≠ [] ∧ p = .label l s
  | tag, s, p | hash, s, p => s ≠ [] ∧ p = .tag s

/-- The word writes the filter in this form. -/
def Writes (form : Form) (word : Text) (p : Predicate) : Prop :=
  ∃ start rest, Text.Spells form.keyword start ∧ word = start ++ rest ∧ form.Accepts rest p

/-- How the text behind the keyword is read. -/
def read : Form → Text → Option Predicate
  | age event => age? event
  | label l => value? (.label l)
  | tag | hash => value? .tag

end Form

/-! ## Ages -/

theorem isUnit_iff {s : Text} : isUnit s = true ↔ s = [] ∨ Text.Spells "d" s := by
  have hd : Text.lowerAscii (.char 'd') = .char 'd' := by decide
  match s with
  | [] => simp [isUnit]
  | [c] =>
    change Text.standsFor 'd' c = true ↔ _ ∨ List.Forall₂ _ ['d'] [c]
    simp [Text.standsFor_iff hd]
  | _ :: _ :: _ =>
    change false = true ↔ _ ∨ List.Forall₂ _ ['d'] _
    simp

theorem isDigit_eq_false_of_isUnit {s : Text} (h : isUnit s = true) :
    ∀ c ∈ s.head?, Text.isDigit c = false := by
  have hvariants : ∀ c, Text.IsVariant 'd' c → Text.isDigit c = false := by
    rintro c (rfl | rfl | ⟨hs, -⟩ | ⟨hk, -⟩ | ⟨hi, -⟩)
    · decide
    · decide
    · exact absurd hs (by decide)
    · exact absurd hk (by decide)
    · exact absurd hi (by decide)
  rcases isUnit_iff.1 h with rfl | hspells
  · simp
  · change List.Forall₂ _ ['d'] s at hspells
    cases hspells with
    | cons hc _ => simpa using hvariants _ hc

/-- A number of days is one to nine digits, and the unit or nothing. -/
theorem days?_eq_some_iff {s : Text} {n : Nat} : days? s = some n ↔
    ∃ digits unit, digits.IsShortRun ∧ isUnit unit = true ∧ s = digits ++ unit ∧
      n = Text.digitsValue digits := by
  constructor
  · intro h
    unfold days? at h
    dsimp only at h
    split at h
    · next hrun =>
      refine ⟨s.takeWhile Text.isDigit, s.dropWhile Text.isDigit, ⟨hrun.1, hrun.2.1, ?_⟩, hrun.2.2,
        List.takeWhile_append_dropWhile.symm, (Option.some.inj h).symm⟩
      exact fun c hc => List.mem_takeWhile_imp hc
    · cases h
  · rintro ⟨digits, unit, hrun, hunit, rfl, rfl⟩
    have hstop : unit.takeWhile Text.isDigit = [] ∧ unit.dropWhile Text.isDigit = unit := by
      cases unit with
      | nil => exact ⟨rfl, rfl⟩
      | cons c unit =>
        have hc := isDigit_eq_false_of_isUnit hunit c rfl
        exact ⟨List.takeWhile_cons_of_neg (by simp [hc]), List.dropWhile_cons_of_neg (by simp [hc])⟩
    unfold days?
    rw [List.takeWhile_append_of_pos hrun.digit, List.dropWhile_append_of_pos hrun.digit, hstop.1,
      hstop.2, List.append_nil]
    exact if_pos ⟨hrun.pos, hrun.le, hunit⟩

theorem operator?_eq_some {s rest : Text} {op : Operator} (h : operator? s = some (op, rest)) :
    s = Text.ofString op.symbol ++ rest := by
  unfold operator? at h
  split at h
  case h_6 => cases h
  all_goals
    obtain ⟨rfl, rfl⟩ := Prod.mk.inj (Option.some.inj h)
    rfl

theorem age?_eq_some_iff {event : Event} {s : Text} {p : Predicate} :
    age? event s = some p ↔ (Form.age event).Accepts s p := by
  constructor
  · intro h
    obtain ⟨⟨op, rest⟩, hop, hrest⟩ := Option.bind_eq_some_iff.1 h
    obtain ⟨n, hn, hp⟩ := Option.bind_eq_some_iff.1 hrest
    obtain ⟨digits, unit, hrun, hunit, rfl, rfl⟩ := days?_eq_some_iff.1 hn
    exact ⟨op, operator?_mem hop, digits, unit, hrun, isUnit_iff.1 hunit, operator?_eq_some hop,
      (Option.some.inj hp).symm⟩
  · rintro ⟨op, hop, digits, unit, hrun, hunit, rfl, rfl⟩
    -- behind the operator stands a digit, so that the longer of two operators is not meant
    have hhead : ∀ c ∈ (digits ++ unit).head?, c ≠ .char '=' := by
      rintro c hc rfl
      obtain ⟨d, digits, rfl⟩ := List.exists_cons_of_ne_nil (List.ne_nil_of_length_pos hrun.pos)
      obtain rfl : d = .char '=' := Option.some.inj hc
      exact absurd (hrun.digit _ List.mem_cons_self) (by decide)
    have hdays : days? (digits ++ unit) = some (Text.digitsValue digits) :=
      days?_eq_some_iff.2 ⟨digits, unit, hrun, isUnit_iff.2 hunit, rfl, rfl⟩
    unfold age?
    rw [operator?_symbol hop hhead]
    change (days? _).bind _ = _
    rw [hdays]
    rfl

theorem value?_eq_some_iff {make : Text → Predicate} {s : Text} {p : Predicate} :
    value? make s = some p ↔ s ≠ [] ∧ p = make s := by
  constructor
  · exact of_value?
  · rintro ⟨hne, rfl⟩
    exact value?_of_ne_nil make hne

theorem Form.read_eq_some_iff {form : Form} {s : Text} {p : Predicate} :
    form.read s = some p ↔ form.Accepts s p := by
  cases form with
  | age event => exact age?_eq_some_iff
  | label l => exact value?_eq_some_iff
  | tag => exact value?_eq_some_iff
  | hash => exact value?_eq_some_iff

/-! ## Reading by a form -/

theorem mem_forms_iff {entry : String × (Text → Option Predicate)} :
    entry ∈ forms ↔ ∃ form : Form, entry = (form.keyword, form.read) := by
  constructor
  · intro h
    unfold forms at h
    simp only [List.mem_cons, List.not_mem_nil, or_false] at h
    rcases h with rfl | rfl | rfl | rfl | rfl | rfl | rfl
    · exact ⟨.age .added, rfl⟩
    · exact ⟨.age .clicked, rfl⟩
    · exact ⟨.label .device, rfl⟩
    · exact ⟨.label .os, rfl⟩
    · exact ⟨.label .browser, rfl⟩
    · exact ⟨.tag, rfl⟩
    · exact ⟨.hash, rfl⟩
  · rintro ⟨(_ | _) | (_ | _ | _) | _ | _, rfl⟩ <;> simp [forms, Form.keyword, Form.read]

theorem Form.keyword_injective : Function.Injective Form.keyword := by
  rintro ((_ | _) | (_ | _ | _) | _ | _) ((_ | _) | (_ | _ | _) | _ | _) h <;>
    first | rfl | exact absurd h (by decide)

theorem readAs_eq_some_iff {form : Form} {word : Text} {p : Predicate} :
    readAs word (form.keyword, form.read) = some p ↔ form.Writes word p := by
  have hall : form.keyword.toList.all (fun k => Text.lowerAscii (.char k) == .char k) = true := by
    rcases form with (_ | _) | (_ | _ | _) | _ | _ <;> rfl
  have hsmall : ∀ k ∈ form.keyword.toList, Text.lowerAscii (.char k) = .char k :=
    fun k hk => beq_iff_eq.1 (List.all_eq_true.1 hall k hk)
  rw [readAs, Option.bind_eq_some_iff]
  simp only [Text.afterKeyword?_eq_some_iff hsmall, Form.read_eq_some_iff]
  constructor
  · rintro ⟨rest, ⟨start, hstart, hword⟩, haccepts⟩
    exact ⟨start, rest, hstart, hword, haccepts⟩
  · rintro ⟨start, rest, hstart, hword, haccepts⟩
    exact ⟨rest, ⟨start, hstart, hword⟩, haccepts⟩

theorem exists_form_iff {word : Text} {p : Predicate} :
    (∃ entry ∈ forms, readAs word entry = some p) ↔ ∃ form : Form, form.Writes word p := by
  constructor
  · rintro ⟨entry, hentry, hread⟩
    obtain ⟨form, rfl⟩ := mem_forms_iff.1 hentry
    exact ⟨form, readAs_eq_some_iff.1 hread⟩
  · rintro ⟨form, hwrites⟩
    exact ⟨_, mem_forms_iff.2 ⟨form, rfl⟩, readAs_eq_some_iff.2 hwrites⟩

/-- No word has two forms. -/
theorem Form.Writes.unique {form other : Form} {word : Text} {p q : Predicate}
    (hp : form.Writes word p) (hq : other.Writes word q) : form = other := by
  have hentry := eq_of_readAs (mem_forms_iff.2 ⟨form, rfl⟩) (mem_forms_iff.2 ⟨other, rfl⟩)
    (readAs_eq_some_iff.2 hp) (readAs_eq_some_iff.2 hq)
  exact Form.keyword_injective (congrArg Prod.fst hentry)

/-- **Words are read by the grammar of filters.** A word is read as a filter exactly if it writes
this filter in one of the seven forms. It has one form at most, so the order in which the forms are
tried does not matter. The two forms for tags mean the same. -/
theorem parse?_grammar :
    (∀ (word : Text) (p : Predicate),
      parse? word = some p ↔ ∃ form : Form, form.Writes word p) ∧
    (∀ (word : Text) (form other : Form) (p q : Predicate),
      form.Writes word p → other.Writes word q → form = other ∧ p = q) ∧
    (∀ (word : Text) (fs : List (String × (Text → Option Predicate))),
      fs.Perm forms → fs.findSome? (readAs word) = parse? word) ∧
    ∀ s : Text, parse? (.char '#' :: s) = parse? (Text.ofString "tag:" ++ s) := by
  have hparse : ∀ word p, parse? word = some p ↔ ∃ form : Form, form.Writes word p :=
    fun word p => parse?_eq_some_iff.trans exists_form_iff
  refine ⟨hparse, fun word form other p q hp hq => ⟨hp.unique hq, ?_⟩, fun word fs hfs => ?_,
    fun s => ?_⟩
  · have hread := (hparse word p).2 ⟨form, hp⟩
    rw [(hparse word q).2 ⟨other, hq⟩] at hread
    exact (Option.some.inj hread).symm
  · ext p
    rw [findSome?_readAs_iff hfs, parse?_eq_some_iff]
  · have hhash : ("#", value? .tag) ∈ forms := mem_forms_iff.2 ⟨.hash, rfl⟩
    have htag : ("tag:", value? .tag) ∈ forms := mem_forms_iff.2 ⟨.tag, rfl⟩
    exact (parse?_keyword hhash s).trans (parse?_keyword htag s).symm

/-- An age in capital letters with digits of two scripts, and a label whose value is a line. -/
theorem parse?_grammar_two_scripts :
    let digits : Text := [.char (Char.ofNat 0x663), .char '0']
    let age : Text := "ADDED:" ++ (">=" ++ (digits ++ "D"))
    let label : Text := .char 'o' :: .char (Char.ofNat 0x17F) :: ":a\n"
    (Form.age .added).Writes age (.age .added (some .atLeast) (some 30)) ∧
      parse? age = some (.age .added (some .atLeast) (some 30)) ∧
      (Form.label .os).Writes label (.label .os "a\n") ∧
      parse? label = some (.label .os "a\n") ∧
      forms.reverse.Perm forms ∧
      forms.reverse.findSome? (readAs label) = some (.label .os "a\n") ∧
      ∀ (form : Form) (p : Predicate), form.Writes label p →
        .label .os = form ∧ .label .os "a\n" = p := by
  intro digits age label
  have hage : (Form.age .added).Writes age (.age .added (some .atLeast) (some 30)) :=
    ⟨"ADDED:", ">=" ++ (digits ++ "D"), by decide +kernel, rfl, .atLeast, by decide, digits, "D",
      ⟨by decide, by decide, by decide⟩, .inr (by decide +kernel), rfl, by decide⟩
  have hlabel : (Form.label .os).Writes label (.label .os "a\n") :=
    ⟨.char 'o' :: .char (Char.ofNat 0x17F) :: ":", "a\n", by decide +kernel, rfl, by decide, rfl⟩
  obtain ⟨hread, hone, horder, -⟩ := parse?_grammar
  have hos := (hread label _).2 ⟨_, hlabel⟩
  have hreverse : forms.reverse.Perm forms := List.reverse_perm forms
  exact ⟨hage, (hread age _).2 ⟨_, hage⟩, hlabel, hos, hreverse,
    (horder label _ hreverse).trans hos, fun form p hp => hone label _ form _ p hlabel hp⟩

end Predicate

end Bookmarks
