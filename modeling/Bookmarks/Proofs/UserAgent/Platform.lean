import Bookmarks.Proofs.UserAgent.Version
import Mathlib.Data.List.Basic

/-!
# Labels of operating systems

The words of a user agent name a platform, and the label is the name of the platform with its
version, if there is one behind the words that come before it. The words that name the platform may
stand in more than one place, and the version need not stand at the first of them.

* `Platform`: the platforms with their versions; `Names` says which one a user agent names.
* `IsLabel`: the label by the platform and its first version.
* `osOf_of_names`, `osOf_of_unnamed`: the label that is given, with a platform and without one.
* **`osOf_isLabel`**: labels of operating systems, and what their versions are.
-/

namespace Bookmarks.UserAgent

/-! ## Platforms -/

/-- A platform: its name, the words before its version, the form of the version, and the labels of
the versions that are known by another name. -/
structure Platform where
  name : Text
  words : Text
  form : VersionForm
  known : List (Text × Text)

namespace Platform

/-- Two runs of digits with a point between them. Some versions are known by another name. -/
def windows : Platform :=
  ⟨"Windows", "Windows NT ", ⟨[.char '.'], 1, 0⟩, windowsNames⟩

/-- Three runs of digits with points or underscores between them. -/
def macOS : Platform :=
  ⟨"macOS", "Mac OS X ", ⟨[.char '.', .char '_'], 2, 0⟩, []⟩

/-- One run of digits, or two with a point between them. -/
def android : Platform :=
  ⟨"Android", "Android ", ⟨[.char '.'], 0, 1⟩, []⟩

/-- Two or three runs of digits with points or underscores between them. -/
def iOS : Platform :=
  ⟨"iOS", "OS ", ⟨[.char '.', .char '_'], 1, 1⟩, []⟩

/-- The same versions under another name. -/
def iPadOS : Platform :=
  { iOS with name := "iPadOS" }

/-- The label of a version. -/
def label (p : Platform) (version : Text) : Text :=
  (p.known.lookup version).getD (p.name ++ .char ' ' :: versionText version)

/-- What the platforms have in common. -/
structure IsPlain (p : Platform) : Prop where
  separated : p.form.IsSeparated
  underscore : .char '_' ∉ p.name
  blank : .char ' ' ∉ p.name
  blank_separator : .char ' ' ∉ p.form.separators
  known : p.known ⊆ windowsNames

end Platform

/-- The word stands in a user agent. -/
def Has (ua : Text) (word : String) : Prop :=
  Text.ofString word <:+: ua

theorem occursIn_iff_has {ua : Text} {word : String} :
    Text.occursIn (Text.ofString word) ua = true ↔ Has ua word :=
  Text.occursIn_iff

instance (ua : Text) : DecidablePred (Has ua) :=
  fun _ => decidable_of_iff _ occursIn_iff_has

/-- **The platform that a user agent names.** The first of these words that stands in it decides. -/
inductive Names (ua : Text) : Platform → Prop
  | windows : Has ua "Windows NT" → Names ua .windows
  | macOS : ¬ Has ua "Windows NT" → Has ua "Mac OS X" → Names ua .macOS
  | android : ¬ Has ua "Windows NT" → ¬ Has ua "Mac OS X" → Has ua "Linux" → Has ua "Android" →
    Names ua .android
  | iPadOS : ¬ Has ua "Windows NT" → ¬ Has ua "Mac OS X" → ¬ Has ua "Linux" → Has ua "iPad" →
    Names ua .iPadOS
  | iOS : ¬ Has ua "Windows NT" → ¬ Has ua "Mac OS X" → ¬ Has ua "Linux" → ¬ Has ua "iPad" →
    Has ua "iPhone OS" → Names ua .iOS

/-- **The label of the operating system**, by the platform that is named and its first version. -/
inductive IsLabel (ua : Text) : Text → Prop
  | versioned {p : Platform} {version : Text} :
    Names ua p → IsFirstVersion p.words p.form ua version → IsLabel ua (p.label version)
  | unversioned {p : Platform} :
    Names ua p → (∀ i, ¬ Precede p.words p.form (ua.drop i)) → IsLabel ua p.name
  | linux : (∀ p, ¬ Names ua p) → Has ua "Linux" → IsLabel ua "Linux"
  | unknown : (∀ p, ¬ Names ua p) → ¬ Has ua "Linux" → IsLabel ua unknown

/-! ## The label that is given -/

theorem osOf_eq (ua : Text) : osOf ua =
    if Has ua "Windows NT" then windows (version? Platform.windows.words Platform.windows.form ua)
    else if Has ua "Mac OS X" then
      named "macOS" (version? Platform.macOS.words Platform.macOS.form ua)
    else if Has ua "Linux" then
      if Has ua "Android" then
        named "Android" (version? Platform.android.words Platform.android.form ua)
      else "Linux"
    else if Has ua "iPhone OS" ∨ Has ua "iPad" then
      named (if Has ua "iPad" then "iPadOS" else "iOS")
        (version? Platform.iOS.words Platform.iOS.form ua)
    else unknown := by
  unfold osOf
  simp only [Bool.or_eq_true, occursIn_iff_has]
  rfl

/-- The label of a platform, with its version if there is one. -/
def Platform.describe (p : Platform) : Option Text → Text
  | none => p.name
  | some version => p.label version

theorem named_eq (p : Platform) (h : p.known = []) (version : Option Text) :
    named p.name version = p.describe version := by
  cases version with
  | none => rfl
  | some version =>
    rw [Platform.describe, Platform.label, h]
    rfl

theorem versionText_eq_self {version : Text} (h : .char '_' ∉ version) :
    versionText version = version := by
  refine (List.map_congr_left fun c hc => if_neg ?_).trans (List.map_id version)
  rintro rfl
  exact h hc

/-- Underscores are kept in versions of Windows, but these have none. -/
theorem windows_eq {ua : Text} {version : Option Text}
    (h : version = version? Platform.windows.words Platform.windows.form ua) :
    windows version = Platform.windows.describe version := by
  cases version with
  | none => rfl
  | some version =>
    obtain ⟨i, rest, -, hlongest, -⟩ := (version?_eq_some_iff (by decide)).1 h.symm
    have hunderscore : .char '_' ∉ version := hlongest.writes.notMem (by decide) (by decide)
    rw [Platform.describe, Platform.label, versionText_eq_self hunderscore]
    rfl

theorem osOf_of_names {ua : Text} {p : Platform} (h : Names ua p) :
    osOf ua = p.describe (version? p.words p.form ua) := by
  rw [osOf_eq]
  cases h with
  | windows h₁ => rw [if_pos h₁, windows_eq rfl]
  | macOS h₁ h₂ =>
    rw [if_neg h₁, if_pos h₂]
    exact named_eq .macOS rfl _
  | android h₁ h₂ h₃ h₄ =>
    rw [if_neg h₁, if_neg h₂, if_pos h₃, if_pos h₄]
    exact named_eq .android rfl _
  | iPadOS h₁ h₂ h₃ h₄ =>
    rw [if_neg h₁, if_neg h₂, if_neg h₃, if_pos (.inr h₄), if_pos h₄]
    exact named_eq .iPadOS rfl _
  | iOS h₁ h₂ h₃ h₄ h₅ =>
    rw [if_neg h₁, if_neg h₂, if_neg h₃, if_pos (.inl h₅), if_neg h₄]
    exact named_eq .iOS rfl _

theorem osOf_of_unnamed {ua : Text} (h : ∀ p, ¬ Names ua p) :
    osOf ua = if Has ua "Linux" then ("Linux" : Text) else unknown := by
  have hwindows : ¬ Has ua "Windows NT" := fun h₁ => h _ (.windows h₁)
  have hmacOS : ¬ Has ua "Mac OS X" := fun h₂ => h _ (.macOS hwindows h₂)
  rw [osOf_eq, if_neg hwindows, if_neg hmacOS]
  by_cases hlinux : Has ua "Linux"
  · have handroid : ¬ Has ua "Android" := fun h₄ => h _ (.android hwindows hmacOS hlinux h₄)
    rw [if_pos hlinux, if_pos hlinux, if_neg handroid]
  · have hiPad : ¬ Has ua "iPad" := fun h₄ => h _ (.iPadOS hwindows hmacOS hlinux h₄)
    have hiPhone : ¬ Has ua "iPhone OS" := fun h₅ => h _ (.iOS hwindows hmacOS hlinux hiPad h₅)
    rw [if_neg hlinux, if_neg hlinux, if_neg (not_or.2 ⟨hiPhone, hiPad⟩)]

theorem Names.isPlain {ua : Text} {p : Platform} (h : Names ua p) : p.IsPlain := by
  cases h <;> constructor <;> decide

theorem osOf_eq_iff {ua label : Text} : osOf ua = label ↔ IsLabel ua label := by
  constructor
  · rintro rfl
    by_cases hnamed : ∃ p, Names ua p
    · obtain ⟨p, hp⟩ := hnamed
      rw [osOf_of_names hp]
      cases hversion : version? p.words p.form ua with
      | none => exact .unversioned hp ((version?_eq_none_iff hp.isPlain.separated).1 hversion)
      | some version => exact .versioned hp ((version?_eq_some_iff hp.isPlain.separated).1 hversion)
    · have hnone := not_exists.1 hnamed
      rw [osOf_of_unnamed hnone]
      by_cases hlinux : Has ua "Linux"
      · rw [if_pos hlinux]
        exact .linux hnone hlinux
      · rw [if_neg hlinux]
        exact .unknown hnone hlinux
  · intro h
    cases h with
    | versioned hp hversion =>
      rw [osOf_of_names hp, (version?_eq_some_iff hp.isPlain.separated).2 hversion]
      rfl
    | unversioned hp hnone =>
      rw [osOf_of_names hp, (version?_eq_none_iff hp.isPlain.separated).2 hnone]
      rfl
    | linux hnone hlinux => rw [osOf_of_unnamed hnone, if_pos hlinux]
    | unknown hnone hlinux => rw [osOf_of_unnamed hnone, if_neg hlinux]

/-! ## The characters of labels -/

theorem underscore_notMem_versionText (version : Text) : .char '_' ∉ versionText version := by
  intro hmem
  obtain ⟨c, -, hc⟩ := List.mem_map.1 hmem
  split at hc
  · exact absurd hc (by decide)
  · next hne => exact hne hc

theorem blank_notMem_versionText {form : VersionForm} {version : Text} (h : form.Writes version)
    (hsep : .char ' ' ∉ form.separators) : .char ' ' ∉ versionText version := by
  intro hmem
  obtain ⟨c, hc, hblank⟩ := List.mem_map.1 hmem
  split at hblank
  · exact absurd hblank (by decide)
  · exact h.notMem hsep (by decide) (hblank ▸ hc)

theorem IsFirstVersion.infix {words : Text} {form : VersionForm} {ua version : Text}
    (h : IsFirstVersion words form ua version) : version <:+: ua := by
  obtain ⟨i, rest, hrest, ⟨-, ⟨tail, rfl, -⟩, -⟩, -⟩ := h
  have hdrop : version <:+: ua.drop i := ⟨words, tail, by rw [hrest, List.append_assoc]⟩
  exact hdrop.trans (List.drop_suffix i ua).isInfix

theorem Platform.label_cases (p : Platform) (version : Text) :
    (version, p.label version) ∈ p.known ∨
      p.label version = p.name ++ .char ' ' :: versionText version := by
  unfold label
  cases hknown : p.known.lookup version with
  | none => exact .inr rfl
  | some name =>
    obtain ⟨before, after, hsplit, -⟩ := List.lookup_eq_some_iff.1 hknown
    exact .inl (by simp [hsplit])

theorem IsLabel.underscore_notMem {ua label : Text} (h : IsLabel ua label) :
    .char '_' ∉ label := by
  have hknown : ∀ entry ∈ windowsNames, .char '_' ∉ entry.2 := by decide
  cases h with
  | @versioned p version hp hversion =>
    rcases p.label_cases version with hmem | heq
    · exact hknown _ (hp.isPlain.known hmem)
    · rw [heq, List.mem_append, List.mem_cons]
      rintro (h | h | h)
      · exact hp.isPlain.underscore h
      · exact absurd h (by decide)
      · exact underscore_notMem_versionText version h
  | unversioned hp hnone => exact hp.isPlain.underscore
  | linux hnone hlinux => decide
  | unknown hnone hlinux => decide

theorem IsLabel.exists_version {ua name version : Text}
    (h : IsLabel ua (name ++ .char ' ' :: version)) :
    ∃ written, written <:+: ua ∧ (version = versionText written ∨
      (written, name ++ .char ' ' :: version) ∈ windowsNames) := by
  have hblank : .char ' ' ∈ name ++ .char ' ' :: version := by simp
  generalize hlabel : name ++ .char ' ' :: version = label at h hblank
  cases h with
  | @versioned p written hp hwritten =>
    refine ⟨written, hwritten.infix, ?_⟩
    rcases p.label_cases written with hmem | heq
    · exact .inr (hp.isPlain.known hmem)
    · obtain ⟨i, rest, -, hlongest, -⟩ := hwritten
      have hversion := blank_notMem_versionText hlongest.writes hp.isPlain.blank_separator
      have hsame := heq.symm.trans hlabel.symm
      obtain ⟨-, -, hsame⟩ := (List.append_cons_inj_of_notMem hp.isPlain.blank hversion).1 hsame
      exact .inl hsame.symm
  | unversioned hp hnone => exact absurd hblank hp.isPlain.blank
  | linux hnone hlinux => exact absurd hblank (by decide)
  | unknown hnone hlinux => exact absurd hblank (by decide)

/-- **Labels of operating systems.** The label of a user agent is that of the platform which it
names, with the first version behind the words of the platform. No underscore stands in it, and what
stands behind a blank is written in the user agent, with points or underscores, unless the label is
another name for a version that is. -/
theorem osOf_isLabel (ua : Text) :
    (∀ label, osOf ua = label ↔ IsLabel ua label) ∧ .char '_' ∉ osOf ua ∧
      ∀ name version, osOf ua = name ++ .char ' ' :: version →
        ∃ written, written <:+: ua ∧
          (version = versionText written ∨ (written, osOf ua) ∈ windowsNames) := by
  have hlabel : ∀ label, osOf ua = label ↔ IsLabel ua label := fun label => osOf_eq_iff
  refine ⟨hlabel, ((hlabel _).1 rfl).underscore_notMem, fun name version h => ?_⟩
  rw [h]
  exact ((hlabel _).1 h).exists_version

/-- The version stands behind the words in their second place, in digits of two scripts. -/
theorem osOf_isLabel_second_place :
    let three := CodePoint.char (Char.ofNat 0x663)
    let ua : Text := "Intel Mac OS X; Mac OS X 10_1" ++ three :: "_7_9)"
    let version : Text := "10.1" ++ three :: ".7"
    osOf ua = "macOS" ++ .char ' ' :: version ∧ IsLabel ua ("macOS" ++ .char ' ' :: version) ∧
      .char '_' ∉ osOf ua ∧ ∃ written, written <:+: ua ∧
        (version = versionText written ∨ (written, osOf ua) ∈ windowsNames) := by
  intro three ua version
  have hread : VersionForm.here? ⟨[.char '.', .char '_'], 2, 0⟩ ("10_1" ++ three :: "_7_9)") =
      some ("10_1" ++ three :: "_7") := by
    simp only [VersionForm.here?, groups?]
    decide +kernel
  have hafter : Text.after? "Mac OS X " (ua.drop 16) = some ("10_1" ++ three :: "_7_9)") := by
    decide +kernel
  have hfirst : version? "Mac OS X " ⟨[.char '.', .char '_'], 2, 0⟩ ua =
      some ("10_1" ++ three :: "_7") := by
    refine Text.leftmost?_eq_some_iff.2 ⟨16, ?_, by decide +kernel⟩
    rw [hafter]
    exact hread
  have hnames : Names ua .macOS := .macOS (by decide +kernel) (by decide +kernel)
  have hos : osOf ua = "macOS" ++ .char ' ' :: version := by
    rw [osOf_of_names hnames]
    exact (congrArg Platform.macOS.describe hfirst).trans (by decide +kernel)
  obtain ⟨hlabel, hunderscore, hversion⟩ := osOf_isLabel ua
  exact ⟨hos, (hlabel _).1 hos, hunderscore, hversion "macOS" version hos⟩

end Bookmarks.UserAgent
