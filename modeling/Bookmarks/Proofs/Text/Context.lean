import Bookmarks.Proofs.Query.Tokens
import Bookmarks.Proofs.Text.Lower

/-!
# Lower case inside a longer text

What stands around a part of a text changes its lower-case form in one way only: a capital sigma has
its final form where a letter with case comes before it and none comes after it. So the form of the
part follows from whether letters with case stand next to it on either side. A space is no letter,
and parts that are put together with spaces are lowered one by one.

* `casedAheadOf`, `lowerWithin`: the lower-case form of a part between such surroundings.
* **`lowerFrom_append`**: a text is lowered part by part.
* `lower_append_space`, `lower_spaced`: parts with spaces between them.
* `lower_letter_append`, `lower_append_letter`: a part with a letter next to it.
* `FewerFinals`, **`fewerFinals_lowerWithin`**: a letter before a part can only make sigmas final, and a
  letter behind it can only make them not final.
* `IsSettled`, **`isSettled_iff`**: texts with the same form in all surroundings.
-/

namespace Bookmarks.Text

/-- The next character that is not passed over is a letter with case; `ahead` says so of what
follows the text. -/
def casedAheadOf (ahead : Bool) : Text → Bool
  | [] => ahead
  | c :: rest => if isIgnorable c then casedAheadOf ahead rest else isCased c

/-- The lower-case form of a part of a text; `behind` and `ahead` say that a letter with case stands
next to the part, before it and after it. -/
def lowerWithin (behind ahead : Bool) : Text → Text
  | [] => []
  | c :: rest =>
    (if c.toNat = 0x3A3 then [lowerSigma (behind && !casedAheadOf ahead rest)] else lowerOf c) ++
      lowerWithin (casedBehind behind c) ahead rest

/-- Whether a letter with case stands before what follows a text, given that for the text. -/
def casedBehindOf (behind : Bool) (s : Text) : Bool :=
  s.foldl casedBehind behind

/-! ## Parts -/

theorem casedAhead_append (s rest : Text) :
    casedAhead (s ++ rest) = casedAheadOf (casedAhead rest) s := by
  induction s with
  | nil => rfl
  | cons c s ih => rw [List.cons_append, casedAhead, casedAheadOf, ih]

/-- **A text is lowered part by part**, each in its surroundings. -/
theorem lowerFrom_append (behind : Bool) (s rest : Text) :
    lowerFrom behind (s ++ rest) =
      lowerWithin behind (casedAhead rest) s ++ lowerFrom (casedBehindOf behind s) rest := by
  induction s generalizing behind with
  | nil => rfl
  | cons c s ih =>
    rw [List.cons_append, lowerFrom, lowerWithin, ih, casedAhead_append, List.append_assoc]
    rfl

theorem lowerFrom_eq_lowerWithin (behind : Bool) (s : Text) :
    lowerFrom behind s = lowerWithin behind false s := by
  have := lowerFrom_append behind s []
  rwa [List.append_nil, lowerFrom, List.append_nil] at this

theorem lower_append_append (before part after : Text) :
    ∃ start rest, lower (before ++ (part ++ after)) =
      start ++ (lowerWithin (casedBehindOf false before) (casedAhead after) part ++ rest) := by
  unfold lower
  rw [lowerFrom_append, lowerFrom_append]
  exact ⟨_, _, rfl⟩

/-! ## Spaces -/

theorem lower_append_space (s rest : Text) :
    lower (s ++ .char ' ' :: rest) = lower s ++ .char ' ' :: lower rest := by
  have hahead : casedAhead (.char ' ' :: rest) = false := by
    rw [casedAhead, if_neg (by decide +kernel)]
    decide +kernel
  have hbehind : ∀ behind, casedBehind behind (.char ' ') = false := by decide +kernel
  have hspace : lowerOf (.char ' ') = [.char ' '] := by decide
  unfold lower
  rw [lowerFrom_append, hahead, ← lowerFrom_eq_lowerWithin, lowerFrom, if_neg (by decide), hspace,
    hbehind]
  rfl

/-- **Parts with spaces between them are lowered one by one.** -/
theorem lower_spaced (parts : List Text) : lower (spaced parts) = spaced (parts.map lower) :=
  map_spaced rfl lower_append_space parts

theorem lower_ne_nil {s : Text} (h : s ≠ []) : lower s ≠ [] := by
  obtain ⟨c, s, rfl⟩ := List.exists_cons_of_ne_nil h
  unfold lower
  rw [lowerFrom_cons]
  exact List.append_ne_nil_of_left_ne_nil (lowerAt_ne_nil _ _ _) _

theorem lowerOf_of_isBlank {c : CodePoint} (h : isBlank c = true) : lowerOf c = [c] := by
  by_cases hascii : c.toNat < 128
  · have hall : ∀ n < 128, isBlank (.char (Char.ofNat n)) = true →
        lowerOf (.char (Char.ofNat n)) = [.char (Char.ofNat n)] := by decide +kernel
    exact forall_ascii (p := fun c => isBlank c = true → lowerOf c = [c]) hall hascii h
  · have hunblank : ∀ {first last : Nat}, AvoidsBlanks first last → first ≤ c.toNat →
        c.toNat ≤ last → False := fun havoids hfirst hlast =>
      Bool.false_ne_true ((isBlank_eq_false havoids hfirst hlast).symm.trans h)
    have hdotted : c.toNat ≠ 0x130 := fun heq =>
      have havoids : AvoidsBlanks 0x130 0x130 := by decide
      hunblank havoids heq.ge heq.le
    have hnone : loweringRuns.find? (·.holds c.toNat) = none := by
      refine List.find?_eq_none.2 fun run hrun hholds => ?_
      obtain ⟨hfirst, hlast, -⟩ := LoweringRun.holds_iff.1 hholds
      exact hunblank (LoweringRun.isClosed_of_mem run hrun).unblank.1 hfirst hlast
    rw [lowerOf, if_neg hascii, if_neg hdotted, hnone]

theorem mem_of_mem_lowerFrom {behind : Bool} {s : Text} {x : CodePoint} (hx : isBlank x = true)
    (h : x ∈ lowerFrom behind s) : x ∈ s := by
  induction s generalizing behind with
  | nil => exact absurd h List.not_mem_nil
  | cons c s ih =>
    rw [lowerFrom_cons] at h
    rcases List.mem_append.1 h with h | h
    · have hblank : isBlank c = true := (isLowered_of_mem_lowerAt h).2 ▸ hx
      have hsigma : c.toNat ≠ 0x3A3 := by
        intro heq
        have hunblank : AvoidsBlanks 0x3A3 0x3A3 := by decide
        rw [isBlank_eq_false hunblank heq.ge heq.le] at hblank
        exact Bool.false_ne_true hblank
      rw [lowerAt, if_neg hsigma, lowerOf_of_isBlank hblank, List.mem_singleton] at h
      exact h ▸ List.mem_cons_self
    · exact List.mem_cons_of_mem c (ih h)

/-! ## Letters -/

theorem lower_letter_append (s : Text) :
    lower (.char 'a' :: s) = .char 'a' :: lowerWithin true false s := by
  have hbehind : casedBehind false (.char 'a') = true := by decide +kernel
  have hletter : lowerOf (.char 'a') = [.char 'a'] := by decide
  rw [lower, lowerFrom, if_neg (by decide), hletter, hbehind, lowerFrom_eq_lowerWithin]
  rfl

theorem lower_append_letter (s : Text) :
    lower (s ++ [.char 'a']) = lowerWithin false true s ++ [.char 'a'] := by
  have hahead : casedAhead [.char 'a'] = true := by decide +kernel
  have hletter : lowerOf (.char 'a') = [.char 'a'] := by decide
  rw [lower, lowerFrom_append, hahead, lowerFrom, if_neg (by decide), hletter]
  rfl

/-! ## Sigmas -/

/-- The texts are equal but for sigmas, and all that are final in the first one are final in the
second one. -/
def FewerFinals (s t : Text) : Prop :=
  List.Forall₂ (fun x y => x = y ∨ (x = lowerSigma false ∧ y = lowerSigma true)) s t

/-- Where some places with `a` have become `b`, there are fewer places with `a`, unless nothing has
changed. -/
theorem count_le_of_forall₂ {α : Type} [DecidableEq α] {a b : α} (hab : a ≠ b) {s t : List α}
    (h : List.Forall₂ (fun x y => x = y ∨ (x = a ∧ y = b)) s t) :
    t.count a ≤ s.count a ∧ (s.count a ≤ t.count a → s = t) := by
  induction h with
  | nil => exact ⟨le_rfl, fun _ => rfl⟩
  | @cons x y s t hxy _ ih =>
    obtain ⟨hle, heq⟩ := ih
    rcases hxy with rfl | ⟨rfl, rfl⟩
    · rw [List.count_cons, List.count_cons]
      exact ⟨Nat.add_le_add_right hle _, fun h => by rw [heq (Nat.le_of_add_le_add_right h)]⟩
    · rw [List.count_cons_self, List.count_cons_of_ne hab.symm]
      exact ⟨by omega, fun h => by omega⟩

theorem lowerSigma_ne : lowerSigma false ≠ lowerSigma true := by
  decide

namespace FewerFinals

variable {s t : Text}

theorem eq_of_count_le (h : FewerFinals s t)
    (hcount : s.count (lowerSigma false) ≤ t.count (lowerSigma false)) : s = t :=
  (count_le_of_forall₂ lowerSigma_ne h).2 hcount

theorem eq_of_count_final_le (h : FewerFinals s t)
    (hcount : t.count (lowerSigma true) ≤ s.count (lowerSigma true)) : s = t := by
  have hflip : List.Forall₂ (fun x y => x = y ∨ (x = lowerSigma true ∧ y = lowerSigma false)) t s :=
    h.flip.imp fun x y hxy => hxy.imp Eq.symm And.symm
  exact ((count_le_of_forall₂ lowerSigma_ne.symm hflip).2 hcount).symm

theorem antisymm (h : FewerFinals s t) (h' : FewerFinals t s) : s = t :=
  h.eq_of_count_le (count_le_of_forall₂ lowerSigma_ne h').1

end FewerFinals

theorem casedAheadOf_mono {ahead ahead' : Bool} (h : ahead = true → ahead' = true) (s : Text) :
    casedAheadOf ahead s = true → casedAheadOf ahead' s = true := by
  induction s with
  | nil => exact h
  | cons c s ih =>
    rw [casedAheadOf, casedAheadOf]
    split
    · exact ih
    · exact id

/-- **Surroundings and sigmas.** A letter before a part can only make sigmas final, and the lack of
one behind it too. -/
theorem fewerFinals_lowerWithin {behind behind' ahead ahead' : Bool}
    (hbehind : behind = true → behind' = true) (hahead : ahead' = true → ahead = true) (s : Text) :
    FewerFinals (lowerWithin behind ahead s) (lowerWithin behind' ahead' s) := by
  induction s generalizing behind behind' with
  | nil => exact .nil
  | cons c s ih =>
    have hnext : casedBehind behind c = true → casedBehind behind' c = true := by
      unfold casedBehind
      split
      · exact hbehind
      · exact id
    have hmono := casedAheadOf_mono hahead s
    refine List.rel_append ?_ (ih hnext)
    split
    · refine .cons ?_ .nil
      revert hbehind hmono
      cases behind <;> cases behind' <;> cases casedAheadOf ahead s <;>
        cases casedAheadOf ahead' s <;> simp
    · exact List.forall₂_same.2 fun x _ => .inl rfl

/-- The lower-case form of the text is the same wherever it stands. -/
def IsSettled (s : Text) : Prop :=
  ∀ behind ahead, lowerWithin behind ahead s = lower s

instance (s : Text) : Decidable s.IsSettled :=
  inferInstanceAs (Decidable (∀ behind ahead, lowerWithin behind ahead s = lower s))

/-- **A text is settled if two surroundings do not change it**: a letter before it, and one behind
it. -/
theorem isSettled_iff {s : Text} : s.IsSettled ↔
    lowerWithin true false s = lower s ∧ lowerWithin false true s = lower s := by
  refine ⟨fun h => ⟨h true false, h false true⟩, ?_⟩
  rintro ⟨hmost, hleast⟩ behind ahead
  have hle : FewerFinals (lowerWithin behind ahead s) (lower s) :=
    hmost ▸ fewerFinals_lowerWithin (fun _ => rfl) (fun h => absurd h Bool.false_ne_true) s
  have hge : FewerFinals (lower s) (lowerWithin behind ahead s) :=
    hleast ▸ fewerFinals_lowerWithin (fun h => absurd h Bool.false_ne_true) (fun _ => rfl) s
  exact hle.antisymm hge

theorem isSettled_of_no_sigma {s : Text} (h : ∀ c ∈ s, c.toNat ≠ 0x3A3) : s.IsSettled := by
  have hform : ∀ behind ahead, lowerWithin behind ahead s = s.flatMap lowerOf := by
    intro behind ahead
    induction s generalizing behind with
    | nil => rfl
    | cons c s ih =>
      obtain ⟨hc, hs⟩ := List.forall_mem_cons.1 h
      rw [lowerWithin, if_neg hc, ih hs, List.flatMap_cons]
  intro behind ahead
  unfold lower
  rw [lowerFrom_eq_lowerWithin, hform, hform]

end Bookmarks.Text
