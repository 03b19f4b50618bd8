import Bookmarks.UserAgent
import Mathlib.Data.List.Infix
import Mathlib.Data.List.TakeWhile

/-!
# Versions in user agents

A version is a run of digits with groups behind it, each of them a separator and a run of digits. It
is read at the leftmost place where certain words stand with a version behind them, and there it is
as long as it can be.

* `IsRun`, `IsGroup`, `AreGroups`, `VersionForm.Writes`: the versions of a form.
* `VersionForm.IsLongest`: the longest version at the beginning of a text.
* `Precede`, `IsFirstVersion`: some words with a version behind them, and the version at the leftmost
  place where they stand.
* `VersionForm.here?_eq_some`, `VersionForm.exists_here?`: what is read is a version, and each
  version at the same place is the beginning of what is read.
* **`version?_eq_some_iff`**, `version?_eq_none_iff`: what is read in a user agent.
-/

namespace Bookmarks.UserAgent

/-! ## Forms of versions -/

/-- A run of digits of any script. -/
structure IsRun (s : Text) : Prop where
  ne_nil : s ≠ []
  digit : ∀ c ∈ s, Text.isDigit c = true

/-- No digit stands at the beginning, so a run of digits in front of the text has its end there. -/
def StopsRun (s : Text) : Prop :=
  ∀ c ∈ s.head?, Text.isDigit c = false

/-- A separator with a run of digits. -/
inductive IsGroup (separators : Text) : Text → Prop
  | intro {separator : CodePoint} {run : Text} :
    separator ∈ separators → IsRun run → IsGroup separators (separator :: run)

/-- Some groups, one after the other. -/
inductive AreGroups (separators : Text) : Nat → Text → Prop
  | nil : AreGroups separators 0 []
  | cons {n : Nat} {group groups : Text} :
    IsGroup separators group → AreGroups separators n groups →
      AreGroups separators (n + 1) (group ++ groups)

namespace VersionForm

/-- **The versions of a form**: a run of digits, the required groups, and as many more as the form
allows. -/
inductive Writes (form : VersionForm) : Text → Prop
  | intro {n : Nat} {run groups : Text} :
    IsRun run → AreGroups form.separators n groups →
      form.required ≤ n → n ≤ form.required + form.optional → form.Writes (run ++ groups)

/-- The longest version at the beginning of a text. Its last run of digits has its end there. -/
structure IsLongest (form : VersionForm) (s version : Text) : Prop where
  writes : form.Writes version
  stands : ∃ rest, s = version ++ rest ∧ StopsRun rest
  longest : ∀ other, form.Writes other → other <+: s → other <+: version

/-- No digit separates. -/
def IsSeparated (form : VersionForm) : Prop :=
  ∀ c ∈ form.separators, Text.isDigit c = false

instance (form : VersionForm) : Decidable form.IsSeparated := by
  unfold IsSeparated
  infer_instance

end VersionForm

/-- The words stand at the beginning of a text, with a version behind them. -/
def Precede (words : Text) (form : VersionForm) (s : Text) : Prop :=
  ∃ version, form.Writes version ∧ words ++ version <+: s

/-- **The first version behind some words**: the longest one at the leftmost place where the words
stand with a version behind them. -/
def IsFirstVersion (words : Text) (form : VersionForm) (ua version : Text) : Prop :=
  ∃ i rest, ua.drop i = words ++ rest ∧ form.IsLongest rest version ∧
    ∀ j < i, ¬ Precede words form (ua.drop j)

theorem AreGroups.mem {separators : Text} {n : Nat} {groups : Text}
    (h : AreGroups separators n groups) :
    ∀ c ∈ groups, c ∈ separators ∨ Text.isDigit c = true := by
  induction h with
  | nil => simp
  | cons hgroup hgroups ih =>
    obtain ⟨hmem, hrun⟩ := hgroup
    intro c hc
    rcases List.mem_append.1 hc with hc | hc
    · rcases List.mem_cons.1 hc with rfl | hc
      · exact .inl hmem
      · exact .inr (hrun.digit c hc)
    · exact ih c hc

theorem VersionForm.Writes.notMem {form : VersionForm} {version : Text} (h : form.Writes version)
    {c : CodePoint} (hsep : c ∉ form.separators) (hdigit : Text.isDigit c = false) :
    c ∉ version := by
  obtain ⟨hrun, hgroups, -, -⟩ := h
  have hnot : ¬ Text.isDigit c = true := Bool.eq_false_iff.1 hdigit
  intro hc
  rcases List.mem_append.1 hc with hc | hc
  · exact hnot (hrun.digit c hc)
  · exact (hgroups.mem c hc).elim hsep hnot

/-! ## What is read is a version -/

theorem digitRun?_eq_some {s run rest : Text} (h : digitRun? s = some (run, rest)) :
    IsRun run ∧ s = run ++ rest ∧ StopsRun rest := by
  unfold digitRun? at h
  dsimp only at h
  split at h
  · cases h
  · next hempty =>
    obtain ⟨rfl, rfl⟩ := Prod.mk.inj (Option.some.inj h)
    refine ⟨⟨fun hnil => hempty (List.isEmpty_iff.2 hnil), fun c hc => List.mem_takeWhile_imp hc⟩,
      List.takeWhile_append_dropWhile.symm, fun c hc => ?_⟩
    have hhead := List.head?_dropWhile_not Text.isDigit s
    rwa [Option.mem_def.1 hc] at hhead

variable {separators : Text}

theorem group?_eq_some {s group rest : Text} (h : group? separators s = some (group, rest)) :
    IsGroup separators group ∧ s = group ++ rest ∧ StopsRun rest := by
  cases s with
  | nil => cases h
  | cons c s =>
    rw [group?, Option.ite_none_right_eq_some, Option.map_eq_some_iff] at h
    obtain ⟨hc, ⟨run, tail⟩, hrun, heq⟩ := h
    obtain ⟨rfl, rfl⟩ := Prod.mk.inj heq
    obtain ⟨hdigits, rfl, hstops⟩ := digitRun?_eq_some hrun
    exact ⟨.intro (List.contains_iff_mem.1 hc) hdigits, rfl, hstops⟩

theorem groups?_eq_some {required optional : Nat} {s groups : Text} (hs : StopsRun s)
    (h : groups? separators required optional s = some groups) :
    ∃ n rest, AreGroups separators n groups ∧ required ≤ n ∧ n ≤ required + optional ∧
      s = groups ++ rest ∧ StopsRun rest := by
  fun_induction groups? separators required optional s generalizing groups with
  | case1 s =>
    obtain rfl := Option.some.inj h
    exact ⟨0, s, .nil, Nat.le_refl _, Nat.le_refl _, rfl, hs⟩
  | case2 optional s hnone =>
    obtain rfl := Option.some.inj h
    exact ⟨0, s, .nil, Nat.le_refl _, Nat.zero_le _, rfl, hs⟩
  | case3 optional s group rest hgroup ih =>
    obtain ⟨others, hothers, rfl⟩ := Option.map_eq_some_iff.1 h
    obtain ⟨hfirst, rfl, hrest⟩ := group?_eq_some hgroup
    obtain ⟨n, tail, hgroups, hmin, hmax, rfl, htail⟩ := ih hrest hothers
    exact ⟨n + 1, tail, .cons hfirst hgroups, Nat.zero_le _, by omega,
      (List.append_assoc ..).symm, htail⟩
  | case4 required optional s ih =>
    obtain ⟨⟨group, rest⟩, hgroup, h⟩ := Option.bind_eq_some_iff.1 h
    obtain ⟨others, hothers, h⟩ := Option.bind_eq_some_iff.1 h
    obtain rfl := Option.some.inj h
    obtain ⟨hfirst, rfl, hrest⟩ := group?_eq_some hgroup
    obtain ⟨n, tail, hgroups, hmin, hmax, rfl, htail⟩ := ih rest hrest hothers
    exact ⟨n + 1, tail, .cons hfirst hgroups, Nat.succ_le_succ hmin, by omega,
      (List.append_assoc ..).symm, htail⟩

theorem VersionForm.here?_eq_some {form : VersionForm} {s version : Text}
    (h : form.here? s = some version) :
    form.Writes version ∧ ∃ rest, s = version ++ rest ∧ StopsRun rest := by
  obtain ⟨⟨run, rest⟩, hrun, h⟩ := Option.bind_eq_some_iff.1 h
  obtain ⟨groups, hgroups, h⟩ := Option.bind_eq_some_iff.1 h
  obtain rfl := Option.some.inj h
  obtain ⟨hdigits, rfl, hstops⟩ := digitRun?_eq_some hrun
  obtain ⟨n, tail, hof, hmin, hmax, rfl, htail⟩ := groups?_eq_some hstops hgroups
  exact ⟨.intro hdigits hof hmin hmax, tail, (List.append_assoc ..).symm, htail⟩

/-! ## Each version is the beginning of what is read -/

/-- What is read covers a part of the text with groups behind it: the groups are left, and with them
or more behind it, what is read begins with the part and the groups. -/
def Covers (read : Option (Text × Text)) (part groups : Text) : Prop :=
  ∃ first rest, read = some (first, rest) ∧ groups <+: rest ∧
    ∀ others, groups <+: others → part ++ groups <+: first ++ others

section Complete

variable (hsep : ∀ c ∈ separators, Text.isDigit c = false)

theorem digitRun?_append {run : Text} (h : IsRun run) (s : Text) :
    digitRun? (run ++ s) = some (run ++ s.takeWhile Text.isDigit, s.dropWhile Text.isDigit) := by
  rw [digitRun?, List.takeWhile_append_of_pos h.digit, List.dropWhile_append_of_pos h.digit]
  simp [h.ne_nil]

include hsep

/-- Reading a run of digits covers each run that stands there. -/
theorem covers_digitRun? {run groups s : Text} {n : Nat} (hrun : IsRun run)
    (hgroups : AreGroups separators n groups) (h : run ++ groups <+: s) :
    Covers (digitRun? s) run groups := by
  obtain ⟨tail, rfl⟩ := h
  rw [List.append_assoc]
  refine ⟨_, _, digitRun?_append hrun _, ?_⟩
  cases hgroups with
  | nil =>
    -- More digits may follow in the tail.
    refine ⟨List.nil_prefix, fun others _ => ?_⟩
    rw [List.append_nil, List.append_assoc]
    exact List.prefix_append _ _
  | @cons n group groups hgroup hgroups =>
    cases hgroup with
    | @intro separator more hmem hmore =>
      have hstop : ¬ Text.isDigit separator = true := Bool.eq_false_iff.1 (hsep separator hmem)
      simp only [List.cons_append, List.takeWhile_cons_of_neg hstop,
        List.dropWhile_cons_of_neg hstop, List.append_nil]
      refine ⟨List.prefix_append _ _, fun others hothers => ?_⟩
      exact (List.prefix_append_right_inj run).2 hothers

theorem covers_group? {group groups s : Text} {n : Nat} (hgroup : IsGroup separators group)
    (hgroups : AreGroups separators n groups) (h : group ++ groups <+: s) :
    Covers (group? separators s) group groups := by
  obtain ⟨tail, rfl⟩ := h
  cases hgroup with
  | @intro separator run hmem hrun =>
    obtain ⟨digits, rest, hread, hrest, hgoesOn⟩ :=
      covers_digitRun? hsep hrun hgroups (List.prefix_append _ tail)
    refine ⟨separator :: digits, rest, ?_, hrest, fun others hothers => ?_⟩
    · rw [List.cons_append, List.cons_append, group?, if_pos (List.contains_iff_mem.2 hmem), hread]
      rfl
    · exact List.cons_prefix_cons.2 ⟨rfl, hgoesOn others hothers⟩

omit hsep in
theorem exists_groups?_zero (separators : Text) (optional : Nat) (s : Text) :
    ∃ groups, groups? separators 0 optional s = some groups := by
  induction optional generalizing s with
  | zero => exact ⟨[], by rw [groups?]⟩
  | succ optional ih =>
    cases hfirst : group? separators s with
    | none => exact ⟨[], by rw [groups?, hfirst]⟩
    | some first =>
      obtain ⟨groups, hgroups⟩ := ih first.2
      exact ⟨first.1 ++ groups, by simp [groups?, hfirst, hgroups]⟩

theorem exists_groups? {n : Nat} {others : Text} (h : AreGroups separators n others)
    {required optional : Nat} (hmin : required ≤ n) (hmax : n ≤ required + optional) {s : Text}
    (hs : others <+: s) :
    ∃ groups, groups? separators required optional s = some groups ∧ others <+: groups := by
  induction h generalizing required optional s with
  | nil =>
    obtain rfl := Nat.le_zero.1 hmin
    obtain ⟨groups, hgroups⟩ := exists_groups?_zero separators optional s
    exact ⟨groups, hgroups, List.nil_prefix⟩
  | cons hgroup hgroups ih =>
    obtain ⟨first, rest, hfirst, hrest, hgoesOn⟩ := covers_group? hsep hgroup hgroups hs
    cases required with
    | zero =>
      cases optional with
      | zero => exact absurd hmax (by omega)
      | succ optional =>
        obtain ⟨groups, hread, hlonger⟩ := @ih 0 optional (Nat.zero_le _) (by omega) rest hrest
        exact ⟨first ++ groups, by simp [groups?, hfirst, hread], hgoesOn groups hlonger⟩
    | succ required =>
      obtain ⟨groups, hread, hlonger⟩ :=
        @ih required optional (Nat.le_of_succ_le_succ hmin) (by omega) rest hrest
      exact ⟨first ++ groups, by simp [groups?, hfirst, hread], hgoesOn groups hlonger⟩

end Complete

namespace VersionForm

variable {form : VersionForm} (hform : form.IsSeparated)
include hform

theorem exists_here? {s other : Text} (h : form.Writes other) (hs : other <+: s) :
    ∃ version, form.here? s = some version ∧ other <+: version := by
  obtain ⟨hrun, hgroups, hmin, hmax⟩ := h
  obtain ⟨digits, rest, hread, hrest, hgoesOn⟩ := covers_digitRun? hform hrun hgroups hs
  obtain ⟨groups, hothers, hlonger⟩ := exists_groups? hform hgroups hmin hmax hrest
  exact ⟨digits ++ groups, by simp [here?, hread, hothers], hgoesOn groups hlonger⟩

/-- **What is read is the longest version.** -/
theorem here?_eq_some_iff {s version : Text} :
    form.here? s = some version ↔ form.IsLongest s version := by
  constructor
  · intro h
    obtain ⟨hwrites, hstands⟩ := here?_eq_some h
    refine ⟨hwrites, hstands, fun other hother hs => ?_⟩
    obtain ⟨longer, hlonger, hprefix⟩ := exists_here? hform hother hs
    rwa [Option.some.inj (h.symm.trans hlonger)]
  · rintro ⟨hwrites, ⟨rest, rfl, -⟩, hlongest⟩
    obtain ⟨longer, hlonger, hprefix⟩ :=
      exists_here? hform hwrites (List.prefix_append version rest)
    obtain ⟨hwrites', rest', heq, -⟩ := here?_eq_some hlonger
    have hback := hlongest longer hwrites' (heq ▸ List.prefix_append longer rest')
    rw [hlonger, hprefix.eq_of_length (Nat.le_antisymm hprefix.length_le hback.length_le)]

theorem here?_eq_none_iff {s : Text} :
    form.here? s = none ↔ ∀ version, form.Writes version → ¬ version <+: s := by
  constructor
  · intro h version hwrites hs
    obtain ⟨longer, hlonger, -⟩ := exists_here? hform hwrites hs
    exact Option.some_ne_none longer (hlonger.symm.trans h)
  · intro h
    by_contra hsome
    obtain ⟨version, hversion⟩ := Option.ne_none_iff_exists'.1 hsome
    obtain ⟨hwrites, rest, rfl, -⟩ := here?_eq_some hversion
    exact h version hwrites (List.prefix_append version rest)

end VersionForm

/-! ## Reading a version in a user agent -/

section UserAgent

variable {words : Text} {form : VersionForm} (hform : form.IsSeparated) {ua : Text}
include hform

theorem after?_bind_here?_eq_none_iff {s : Text} :
    (Text.after? words s).bind form.here? = none ↔ ¬ Precede words form s := by
  cases hafter : Text.after? words s with
  | none =>
    refine iff_of_true rfl ?_
    rintro ⟨version, -, rest, rfl⟩
    have hsome := Text.after?_eq_some_iff.2 (List.append_assoc words version rest)
    exact Option.some_ne_none _ (hsome.symm.trans hafter)
  | some rest =>
    obtain rfl := Text.after?_eq_some_iff.1 hafter
    rw [Option.bind_some, VersionForm.here?_eq_none_iff hform, Precede, not_exists]
    simp only [not_and, List.prefix_append_right_inj]

/-- **The version that is read is the first one.** -/
theorem version?_eq_some_iff {version : Text} :
    version? words form ua = some version ↔ IsFirstVersion words form ua version := by
  unfold version? IsFirstVersion
  rw [Text.leftmost?_eq_some_iff]
  simp only [after?_bind_here?_eq_none_iff hform, Option.bind_eq_some_iff,
    Text.after?_eq_some_iff, VersionForm.here?_eq_some_iff hform]
  constructor
  · rintro ⟨i, ⟨rest, hrest, hlongest⟩, hbefore⟩
    exact ⟨i, rest, hrest, hlongest, hbefore⟩
  · rintro ⟨i, rest, hrest, hlongest, hbefore⟩
    exact ⟨i, ⟨rest, hrest, hlongest⟩, hbefore⟩

theorem version?_eq_none_iff :
    version? words form ua = none ↔ ∀ i, ¬ Precede words form (ua.drop i) := by
  rw [version?, Text.leftmost?_eq_none_iff]
  exact forall_congr' fun i => after?_bind_here?_eq_none_iff hform

end UserAgent

end Bookmarks.UserAgent
