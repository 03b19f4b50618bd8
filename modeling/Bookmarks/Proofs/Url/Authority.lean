import Bookmarks.Url.Valid
import Mathlib.Data.List.Infix
import Mathlib.Data.List.TakeWhile

/-!
# Which addresses are usable

An address is usable in one of two ways. With the mark `://` in it, it is read as it is. Without
this mark it is read behind `https://`, and then its beginning, up to a slash, a question mark or a
hash, is the part that names the host.

* `Text.cut_of_not_mem`, `Text.cut_append_cons`: cutting at a mark.
* `Url.authority`, `Url.namesHost_defaultScheme`: an address behind `https://`.
* `Url.IsCompact`, `Url.ReadsAsDomain`: what is asked of all addresses, and of those without a mark.
* **`Url.isUsable_iff`**: the usable addresses.
-/

namespace Bookmarks

section Cut

variable {α : Type} [DecidableEq α] {mark : α} {s : List α}

theorem Text.cut_of_not_mem (h : mark ∉ s) : Text.cut mark s = (s, none) := by
  induction s with
  | nil => rfl
  | cons c s ih =>
    obtain ⟨hc, hs⟩ := not_or.1 (mt List.mem_cons.2 h)
    rw [Text.cut, if_neg (Ne.symm hc), ih hs]

theorem Text.cut_append (h : mark ∉ s) (t : List α) :
    Text.cut mark (s ++ t) = (s ++ (Text.cut mark t).1, (Text.cut mark t).2) := by
  induction s with
  | nil => rfl
  | cons c s ih =>
    obtain ⟨hc, hs⟩ := not_or.1 (mt List.mem_cons.2 h)
    rw [List.cons_append, Text.cut, if_neg (Ne.symm hc), ih hs]
    rfl

theorem Text.cut_append_cons (h : mark ∉ s) (rest : List α) :
    Text.cut mark (s ++ mark :: rest) = (s, some rest) := by
  rw [Text.cut_append h, Text.cut, if_pos rfl, List.append_nil]

end Cut

namespace Url

/-! ## Visible characters -/

/-- A visible character of ASCII. -/
structure IsVisible (c : CodePoint) : Prop where
  lower : 0x20 < c.toNat
  upper : c.toNat < 0x7F

namespace IsVisible

variable {c : CodePoint} (h : IsVisible c)
include h

theorem isBlank_eq_false : Text.isBlank c = false := by
  obtain ⟨hlower, hupper⟩ := h
  simp only [Text.isBlank, Bool.or_eq_false_iff, Bool.and_eq_false_iff, beq_eq_false_iff_ne,
    decide_eq_false_iff_not]
  omega

theorem isControl_eq_false : isControl c = false := by
  simpa [isControl] using h.lower

theorem isDropped_eq_false : isDropped c = false := by
  have hne : ∀ k : Char, k.toNat ≤ 0x20 → c ≠ .char k := by
    rintro k hk rfl
    exact absurd h.lower (Nat.not_lt.2 hk)
  simp [isDropped, hne '\t' (by decide), hne '\n' (by decide), hne '\r' (by decide)]

end IsVisible

/-! ## Reading an address -/

/-- The part of an address without a scheme that names the host. -/
def authority (t : Text) : Text :=
  (t.filter (!isDropped ·)).takeWhile (!endsNetloc ·)

/-- What is asked of all usable addresses: no space, and no points but single ones inside. -/
structure IsCompact (t : Text) : Prop where
  ne_nil : t ≠ []
  spaceless : .char ' ' ∉ t
  apart : ¬ Text.ofString ".." <:+: t
  head : t.head? ≠ some (.char '.')
  last : t.getLast? ≠ some (.char '.')

/-- **The address reads as a domain**: it has a point and not the mark of a scheme, does not begin
with a slash, and its beginning names a host. -/
structure ReadsAsDomain (t : Text) : Prop extends IsCompact t where
  schemeless : ¬ Text.ofString "://" <:+: t
  pointed : .char '.' ∈ t
  unrooted : t.head? ≠ some (.char '/')
  wellFormed : isNetloc (authority t) = true
  host : host (authority t) ≠ []

theorem afterUser_of_notMem {s : Text} (h : .char '@' ∉ s) : afterUser s = s := by
  rw [afterUser, List.takeWhile_eq_self_iff.2, List.reverse_reverse]
  intro c hc
  rw [bne_iff_ne]
  rintro rfl
  exact h (List.mem_reverse.1 hc)

/-- Behind `https://` an address names the host at its beginning. -/
theorem namesHost_defaultScheme (t : Text) : namesHost (defaultScheme ++ t) =
    (isNetloc (authority t) && !(host (authority t)).isEmpty) := by
  have hkept : ((defaultScheme ++ t).dropWhile isControl).filter (!isDropped ·) =
      defaultScheme ++ t.filter (!isDropped ·) := by
    rfl
  have hsplit : ∀ rest : Text, splitScheme (defaultScheme ++ rest) =
      (Text.ofString "https", .char '/' :: .char '/' :: rest) := fun rest => rfl
  unfold namesHost
  dsimp only
  rw [hkept, hsplit]
  change (isNetloc (authority t) && true && !(host (authority t)).isEmpty) = _
  rw [Bool.and_true]

theorem isCompact_iff {t : Text} : IsCompact t ↔
    (t.isEmpty || Text.occursIn (Text.ofString " ") t || Text.occursIn (Text.ofString "..") t ||
      t.head? == some (.char '.') || t.getLast? == some (.char '.')) = false := by
  have hspace : Text.occursIn (Text.ofString " ") t = false ↔ .char ' ' ∉ t := by
    rw [Bool.eq_false_iff, ne_eq, Text.occursIn_iff]
    exact not_congr (List.singleton_infix_iff _ t)
  have hpoints : Text.occursIn (Text.ofString "..") t = false ↔ ¬ Text.ofString ".." <:+: t := by
    rw [Bool.eq_false_iff, ne_eq, Text.occursIn_iff]
  simp only [Bool.or_eq_false_iff, hspace, hpoints, List.isEmpty_eq_false_iff, beq_eq_false_iff_ne]
  constructor
  · intro h
    exact ⟨⟨⟨⟨h.ne_nil, h.spaceless⟩, h.apart⟩, h.head⟩, h.last⟩
  · rintro ⟨⟨⟨⟨hne, hspaceless⟩, hapart⟩, hhead⟩, hlast⟩
    exact ⟨hne, hspaceless, hapart, hhead, hlast⟩

/-- **The usable addresses** read as a domain, or have the mark of a scheme and name a host. -/
theorem isUsable_iff {url : Text} : isUsable url = true ↔
    ReadsAsDomain (Text.trim url) ∨ IsCompact (Text.trim url) ∧
      Text.ofString "://" <:+: Text.trim url ∧ namesHost (Text.trim url) = true := by
  unfold isUsable
  generalize Text.trim url = t
  dsimp only
  by_cases hcompact : IsCompact t
  · rw [isCompact_iff.1 hcompact, if_neg Bool.false_ne_true]
    by_cases hmark : Text.ofString "://" <:+: t
    · have hdomain : ¬ ReadsAsDomain t := fun h => h.schemeless hmark
      rw [if_pos (Text.occursIn_iff.2 hmark)]
      tauto
    · rw [if_neg (mt Text.occursIn_iff.1 hmark)]
      have hpoint : Text.occursIn (Text.ofString ".") t = true ↔ .char '.' ∈ t := by
        rw [Text.occursIn_iff]
        exact List.singleton_infix_iff _ t
      rw [namesHost_defaultScheme, or_iff_left fun h => hmark h.2.1]
      constructor
      · intro h
        split_ifs at h with hform
        obtain ⟨hpointed, hunrooted⟩ := Bool.and_eq_true_iff.1 hform
        obtain ⟨hwell, hhost⟩ := Bool.and_eq_true_iff.1 h
        exact ⟨hcompact, hmark, hpoint.1 hpointed, by simpa using hunrooted, hwell,
          by simpa using hhost⟩
      · intro h
        rw [if_pos (by simp [hpoint.2 h.pointed, h.unrooted]), h.wellFormed, Bool.true_and]
        simpa using h.host
  · have hdomain : ¬ ReadsAsDomain t := fun h => hcompact h.toIsCompact
    rw [if_pos]
    · tauto
    · by_contra h
      exact hcompact (isCompact_iff.2 (Bool.eq_false_iff.2 h))

end Url

end Bookmarks
