import Bookmarks.Proofs.Text.LetterCase

/-!
# Lower-case forms

A text in lower case stays as it is when it is lowered once more (**`lower_lower`**), although some
characters have two characters for their lower-case form and the form of a sigma depends on the
characters around it. No blank comes or goes either: a text has blanks at its ends if its lower-case
form has (**`trim_lower_eq_self_iff`**).

* `LoweringRun.IsClosed`, `LoweringRun.isApart`: what is checked of each run and of each pair of
  runs; `LoweringRun.holds_eq_false`: no run leads to a character that another one lowers.
* `IsLowered`, `isLowered_of_mem_lowerOf`: characters that are in lower case, also those that come
  from a single character.
* `isLowered_of_mem_lowerFrom`, `lowerFrom_eq_self`: the same for texts.
* `head?_lowerFrom`, `getLast?_lowerFrom`: whether a text begins and ends with a blank.
-/

namespace Bookmarks.Text

/-! ## The tables -/

/-- The numbers lie between two blanks, so that none of them is a blank's. -/
def AvoidsBlanks (first last : Nat) : Prop :=
  (0x20 < first ∧ last < 0x85) ∨ (0xA0 < first ∧ last < 0x1680) ∨
    (0x1680 < first ∧ last < 0x2000) ∨ (0x205F < first ∧ last < 0x3000) ∨ 0x3000 < first

instance (first last : Nat) : Decidable (AvoidsBlanks first last) := by
  unfold AvoidsBlanks
  infer_instance

namespace LoweringRun

/-- The number of the first lower-case form of a run. -/
def low (run : LoweringRun) : Nat :=
  (run.first + run.shift).toNat

/-- The number of the last lower-case form of a run. -/
def high (run : LoweringRun) : Nat :=
  (run.last + run.shift).toNat

/-- The lower-case forms of a run are characters, they are small where they are ASCII letters, and
the two characters with rules of their own are not among them. -/
structure IsClosed (run : LoweringRun) : Prop where
  small : 0x80 ≤ run.low ∨ (0x61 ≤ run.low ∧ run.high ≤ 0x7A)
  valid : run.high < 0xD800 ∨ (0xDFFF < run.low ∧ run.high < 0x110000)
  noDotted : run.high < 0x130 ∨ 0x130 < run.low
  noSigma : run.high < 0x3A3 ∨ 0x3A3 < run.low
  unblank : AvoidsBlanks run.first run.last ∧ AvoidsBlanks run.low run.high

instance (run : LoweringRun) : Decidable run.IsClosed :=
  decidable_of_iff
    ((0x80 ≤ run.low ∨ (0x61 ≤ run.low ∧ run.high ≤ 0x7A)) ∧
      (run.high < 0xD800 ∨ (0xDFFF < run.low ∧ run.high < 0x110000)) ∧
      (run.high < 0x130 ∨ 0x130 < run.low) ∧ (run.high < 0x3A3 ∨ 0x3A3 < run.low) ∧
      AvoidsBlanks run.first run.last ∧ AvoidsBlanks run.low run.high)
    ⟨fun ⟨hsmall, hvalid, hdotted, hsigma, hblank⟩ => ⟨hsmall, hvalid, hdotted, hsigma, hblank⟩,
      fun h => ⟨h.small, h.valid, h.noDotted, h.noSigma, h.unblank⟩⟩

theorem isClosed_of_mem : ∀ run ∈ loweringRuns, run.IsClosed := by
  decide +kernel

theorem low_eq {run : LoweringRun} (hrun : run ∈ loweringRuns) :
    (run.low : Int) = run.first + run.shift := by
  have hsmall := (isClosed_of_mem run hrun).small
  unfold low at *
  omega

/-- No lower-case form of the run is in the other one: the ranges are apart, or the other one holds
every second number only and the forms lie between them. -/
def isApart (run other : LoweringRun) : Bool :=
  -- all pairs are checked by computing, which is quick for `Nat.blt` and not for `<`
  Nat.blt run.high other.first || Nat.blt other.last run.low ||
    ((run.step == 2 || run.first == run.last) && other.step == 2 &&
      (run.low + other.first) % 2 == 1)

theorem isApart_of_mem :
    (loweringRuns.all fun run => loweringRuns.all fun other => run.isApart other) = true := by
  decide +kernel

variable {run other : LoweringRun} {n : Nat}

theorem isApart_iff : run.isApart other = true ↔
    run.high < other.first ∨ other.last < run.low ∨
      ((run.step = 2 ∨ run.first = run.last) ∧ other.step = 2 ∧
        (run.low + other.first) % 2 = 1) := by
  simp [isApart, Nat.blt_eq, or_assoc, and_assoc]

theorem holds_iff : run.holds n = true ↔
    run.first ≤ n ∧ n ≤ run.last ∧ (n - run.first) % run.step = 0 := by
  simp [holds, and_assoc]

theorem holds_eq_false (hrun : run ∈ loweringRuns) (hother : other ∈ loweringRuns)
    (hn : run.holds n = true) {m : Nat} (hm : (m : Int) = n + run.shift) :
    other.holds m = false := by
  have hapart := isApart_iff.1
    (List.all_eq_true.1 (List.all_eq_true.1 isApart_of_mem run hrun) other hother)
  obtain ⟨hfirst, hlast, hstep⟩ := holds_iff.1 hn
  have hlow := low_eq hrun
  have hhigh : (m : Int) ≤ run.high := by
    unfold high
    omega
  rw [← Bool.not_eq_true, holds_iff]
  rintro ⟨hfirst', hlast', hstep'⟩
  rcases hapart with hbelow | habove | ⟨hparity, hother2, hodd⟩
  · omega
  · omega
  · rw [hother2] at hstep'
    rcases hparity with hstep2 | hsingle
    · rw [hstep2] at hstep
      omega
    · omega

end LoweringRun

/-! ## Characters -/

theorem isBlank_eq_false {c : CodePoint} {first last : Nat} (h : AvoidsBlanks first last)
    (hfirst : first ≤ c.toNat) (hlast : c.toNat ≤ last) : isBlank c = false := by
  unfold AvoidsBlanks at h
  simp only [isBlank, Bool.or_eq_false_iff, Bool.and_eq_false_iff, beq_eq_false_iff_ne,
    decide_eq_false_iff_not]
  omega

/-- The character is in lower case, and no sigma that waits for its place. -/
def IsLowered (c : CodePoint) : Prop :=
  c.toNat ≠ 0x3A3 ∧ lowerOf c = [c]

instance (c : CodePoint) : Decidable (IsLowered c) := by
  unfold IsLowered
  infer_instance

theorem isLowered_of_holds {run : LoweringRun} (hrun : run ∈ loweringRuns) {n m : Nat}
    (hn : run.holds n = true) (hm : (m : Int) = n + run.shift) :
    IsLowered (.char (Char.ofNat m)) ∧ isBlank (.char (Char.ofNat m)) = false := by
  have hclosed := LoweringRun.isClosed_of_mem run hrun
  obtain ⟨hfirst, hlast, -⟩ := LoweringRun.holds_iff.1 hn
  have hlow : run.low ≤ m := by
    have := LoweringRun.low_eq hrun
    omega
  have hhigh : m ≤ run.high := by
    unfold LoweringRun.high
    omega
  have hnat : (CodePoint.char (Char.ofNat m)).toNat = m := by
    have hvalid : m.isValidChar := by
      rcases hclosed.valid with hbelow | ⟨habove, hmax⟩
      · left; omega
      · right; omega
    rw [CodePoint.toNat, Char.toNat_ofNat, if_pos hvalid]
  have hsigma : m ≠ 0x3A3 := by
    rcases hclosed.noSigma with h | h <;> omega
  refine ⟨⟨by rwa [hnat], ?_⟩, ?_⟩
  · unfold lowerOf
    rw [hnat]
    rcases hclosed.small with hbeyond | ⟨hsmall, hz⟩
    · have hdotted : m ≠ 0x130 := by
        rcases hclosed.noDotted with h | h <;> omega
      have hnone : loweringRuns.find? (·.holds m) = none := by
        refine List.find?_eq_none.2 fun other hother => ?_
        rw [LoweringRun.holds_eq_false hrun hother hn hm]
        exact Bool.false_ne_true
      rw [if_neg (by omega), if_neg hdotted, hnone]
    · rw [if_pos (by omega), lowerAscii, if_neg]
      rw [CodePoint.isWithin, hnat, Bool.and_eq_true, decide_eq_true_iff, decide_eq_true_iff]
      change ¬(0x41 ≤ m ∧ m ≤ 0x5A)
      omega
  · refine isBlank_eq_false hclosed.unblank.2 ?_ ?_
    · rw [hnat]
      exact hlow
    · rw [hnat]
      exact hhigh

theorem isLowered_of_run {run : LoweringRun} (hrun : run ∈ loweringRuns) {c x : CodePoint}
    (hc : run.holds c.toNat = true) (hx : x = .char (Char.ofNat (c.toNat + run.shift).toNat)) :
    IsLowered x ∧ isBlank x = isBlank c := by
  have hlow := LoweringRun.low_eq hrun
  obtain ⟨hfirst, hlast, -⟩ := LoweringRun.holds_iff.1 hc
  have hnonneg : 0 ≤ c.toNat + run.shift := by omega
  have hblank : isBlank c = false :=
    isBlank_eq_false (LoweringRun.isClosed_of_mem run hrun).unblank.1 hfirst hlast
  rw [hx, hblank]
  exact isLowered_of_holds hrun hc (Int.toNat_of_nonneg hnonneg)

/-- **The lower-case form of a single character is in lower case**, and is as blank as it. -/
theorem isLowered_of_mem_lowerOf {c x : CodePoint} (hc : c.toNat ≠ 0x3A3) (hx : x ∈ lowerOf c) :
    IsLowered x ∧ isBlank x = isBlank c := by
  by_cases hascii : c.toNat < 128
  · have hall : ∀ n < 128, ∀ x ∈ lowerOf (.char (Char.ofNat n)),
        IsLowered x ∧ isBlank x = isBlank (.char (Char.ofNat n)) := by decide +kernel
    exact forall_ascii (p := fun c => ∀ x ∈ lowerOf c, IsLowered x ∧ isBlank x = isBlank c) hall
      hascii x hx
  · by_cases hdotted : c.toNat = 0x130
    · have hform : lowerOf c = [.char 'i', .char (Char.ofNat 0x307)] := by
        rw [lowerOf, if_neg hascii, if_pos hdotted]
      have hall : ∀ x ∈ [CodePoint.char 'i', .char (Char.ofNat 0x307)],
          IsLowered x ∧ isBlank x = false := by decide +kernel
      have hunblank : AvoidsBlanks 0x130 0x130 := by decide
      have hblank : isBlank c = false := isBlank_eq_false hunblank (by omega) (by omega)
      rw [hblank]
      exact hall x (hform ▸ hx)
    · cases hfind : loweringRuns.find? (·.holds c.toNat) with
      | none =>
        have hform : lowerOf c = [c] := by rw [lowerOf, if_neg hascii, if_neg hdotted, hfind]
        obtain rfl := List.mem_singleton.1 (hform ▸ hx)
        exact ⟨⟨hc, hform⟩, rfl⟩
      | some run =>
        have hform : lowerOf c = [.char (Char.ofNat (c.toNat + run.shift).toNat)] := by
          rw [lowerOf, if_neg hascii, if_neg hdotted, hfind]
        have hholds := List.find?_some hfind
        exact isLowered_of_run (List.mem_of_find?_eq_some hfind) hholds
          (List.mem_singleton.1 (hform ▸ hx))

/-! ## Texts -/

/-- The lower-case form of a character before the text `rest`. -/
def lowerAt (behind : Bool) (c : CodePoint) (rest : Text) : Text :=
  if c.toNat = 0x3A3 then [lowerSigma (behind && !casedAhead rest)] else lowerOf c

theorem lowerFrom_cons (behind : Bool) (c : CodePoint) (rest : Text) :
    lowerFrom behind (c :: rest) = lowerAt behind c rest ++ lowerFrom (casedBehind behind c) rest :=
  rfl

theorem lowerOf_ne_nil (c : CodePoint) : lowerOf c ≠ [] := by
  unfold lowerOf
  repeat' split
  all_goals exact List.cons_ne_nil _ _

theorem lowerAt_ne_nil (behind : Bool) (c : CodePoint) (rest : Text) :
    lowerAt behind c rest ≠ [] := by
  unfold lowerAt
  split
  · exact List.cons_ne_nil _ _
  · exact lowerOf_ne_nil c

theorem isLowered_of_mem_lowerAt {behind : Bool} {c x : CodePoint} {rest : Text}
    (hx : x ∈ lowerAt behind c rest) : IsLowered x ∧ isBlank x = isBlank c := by
  unfold lowerAt at hx
  split at hx
  · next hsigma =>
    have hforms : ∀ final, IsLowered (lowerSigma final) ∧ isBlank (lowerSigma final) = false := by
      decide +kernel
    have hunblank : AvoidsBlanks 0x3A3 0x3A3 := by decide
    have hblank : isBlank c = false := isBlank_eq_false hunblank (by omega) (by omega)
    rw [List.mem_singleton.1 hx, hblank]
    exact hforms _
  · next hother => exact isLowered_of_mem_lowerOf hother hx

theorem isLowered_of_mem_lowerFrom {behind : Bool} {s : Text} :
    ∀ x ∈ lowerFrom behind s, IsLowered x := by
  induction s generalizing behind with
  | nil => exact List.forall_mem_nil _
  | cons c s ih =>
    rw [lowerFrom_cons]
    exact List.forall_mem_append.2 ⟨fun x hx => (isLowered_of_mem_lowerAt hx).1, ih⟩

theorem lowerFrom_eq_self {behind : Bool} {s : Text} (h : ∀ x ∈ s, IsLowered x) :
    lowerFrom behind s = s := by
  induction s generalizing behind with
  | nil => rfl
  | cons c s ih =>
    obtain ⟨⟨hsigma, hform⟩, hs⟩ := List.forall_mem_cons.1 h
    rw [lowerFrom, if_neg hsigma, hform, ih hs, List.singleton_append]

/-- **A text in lower case stays as it is.** -/
theorem lower_lower (s : Text) : lower (lower s) = lower s :=
  lowerFrom_eq_self isLowered_of_mem_lowerFrom

/-! ## Ends -/

theorem head?_lowerFrom (behind : Bool) (s : Text) :
    (lowerFrom behind s).head?.map isBlank = s.head?.map isBlank := by
  cases s with
  | nil => rfl
  | cons c s =>
    obtain ⟨x, xs, hform⟩ := List.exists_cons_of_ne_nil (lowerAt_ne_nil behind c s)
    have hx : x ∈ lowerAt behind c s := hform ▸ List.mem_cons_self
    rw [lowerFrom_cons, hform]
    exact congrArg some (isLowered_of_mem_lowerAt hx).2

theorem getLast?_lowerFrom (behind : Bool) (s : Text) :
    (lowerFrom behind s).getLast?.map isBlank = s.getLast?.map isBlank := by
  induction s generalizing behind with
  | nil => rfl
  | cons c s ih =>
    rw [lowerFrom_cons]
    cases s with
    | nil =>
      have hne := lowerAt_ne_nil behind c []
      rw [lowerFrom, List.append_nil, List.getLast?_eq_some_getLast hne]
      exact congrArg some (isLowered_of_mem_lowerAt (List.getLast_mem hne)).2
    | cons d s =>
      have hne : lowerFrom (casedBehind behind c) (d :: s) ≠ [] := by
        rw [lowerFrom_cons]
        exact List.append_ne_nil_of_left_ne_nil (lowerAt_ne_nil _ _ _) _
      rw [List.getLast?_append_of_ne_nil _ hne, ih, List.getLast?_cons_cons]

/-- **A text has blanks at its ends if its lower-case form has.** -/
theorem trim_lower_eq_self_iff (s : Text) : trim (lower s) = lower s ↔ trim s = s := by
  unfold trim
  rw [trimBy_eq_self_iff, trimBy_eq_self_iff, lower, head?_lowerFrom, getLast?_lowerFrom]

end Bookmarks.Text
