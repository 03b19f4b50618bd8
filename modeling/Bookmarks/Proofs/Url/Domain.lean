import Bookmarks.Proofs.Text.Trim
import Bookmarks.Proofs.Url.Authority
import Mathlib.Data.List.TakeWhile

/-!
# Addresses without a scheme

An address that begins with a domain is read as if `https://` stood in front of it, so with and
without this beginning it should be usable or not. Both forms agree for all paths, save those with
the mark `://` in them: with the mark somewhere in its path or its query, an address without a
scheme is taken for one that has a scheme, and is refused.

* `Url.IsDomain`, `Url.IsRooted`, `Url.IsTidy`: domains, what may follow one, and what is asked of
  it.
* `Url.IsDomain.authority_append`, `Url.IsDomain.isCompact_append_iff`,
  `Url.IsDomain.namesHost_append`: a domain with a path, as each stage of reading sees it.
* `Url.isUsable_defaultScheme_append_iff`, `Url.isUsable_append_iff`: both forms by themselves.
* **`Url.isUsable_schemeless`**: when the two forms agree.
-/

namespace Bookmarks

/-- What begins with an element that is not in `s` does not begin in `s`. -/
theorem Text.infix_append_iff_of_notMem {α : Type} {x : α} {r s t : List α} (h : x ∉ s) :
    x :: r <:+: s ++ t ↔ x :: r <:+: t := by
  induction s with
  | nil => rfl
  | cons c s ih =>
    obtain ⟨hc, hs⟩ := not_or.1 (mt List.mem_cons.2 h)
    rw [List.cons_append, List.infix_cons_iff, ih hs, or_iff_right]
    intro hprefix
    exact hc (List.cons_prefix_cons.1 hprefix).1

theorem Text.trim_append_of_visible {s : Text} (hne : s ≠ [])
    (hvisible : ∀ c ∈ s, isBlank c = false) (t : Text) :
    trim (s ++ t) = s ++ dropEnd isBlank t := by
  have hstart : (s ++ t).dropWhile isBlank = s ++ t := by
    obtain ⟨c, r, rfl⟩ := List.exists_cons_of_ne_nil hne
    exact List.dropWhile_cons_of_neg (by simp [hvisible c List.mem_cons_self])
  have hlast := hvisible _ (List.getLast_mem hne)
  rw [trim, trimBy, hstart, ← List.dropLast_append_getLast hne, List.append_assoc,
    List.singleton_append, dropEnd_append_cons hlast, List.append_assoc, List.singleton_append]

namespace Url

/-! ## Domains -/

/-- A character of a label: a small letter, a digit or a hyphen. -/
def isLabelChar (c : CodePoint) : Bool :=
  c.isWithin 'a' 'z' || c.isWithin '0' '9' || c == .char '-'

/-- A label of a domain. -/
structure IsLabel (l : Text) : Prop where
  ne_nil : l ≠ []
  chars : ∀ c ∈ l, isLabelChar c = true

instance (l : Text) : Decidable (IsLabel l) :=
  decidable_of_iff (l ≠ [] ∧ ∀ c ∈ l, isLabelChar c = true)
    ⟨fun ⟨hne, hchars⟩ => ⟨hne, hchars⟩, fun h => ⟨h.ne_nil, h.chars⟩⟩

/-- One or more labels with single points between them. -/
inductive AreLabels : Text → Prop where
  | one {l : Text} (hl : IsLabel l) : AreLabels l
  | cons {l rest : Text} (hl : IsLabel l) (hrest : AreLabels rest) :
    AreLabels (l ++ .char '.' :: rest)

/-- **A domain**: two or more labels with single points between them. -/
def IsDomain (d : Text) : Prop :=
  ∃ l rest, IsLabel l ∧ AreLabels rest ∧ d = l ++ .char '.' :: rest

/-- A character of a domain. -/
def isDomainChar (c : CodePoint) : Bool :=
  isLabelChar c || c == .char '.'

/-- What may follow a domain: nothing, or a text that begins with a slash. -/
def IsRooted (p : Text) : Prop :=
  ∀ c ∈ p.head?, c = .char '/'

instance (p : Text) : Decidable (IsRooted p) :=
  inferInstanceAs (Decidable (∀ c ∈ p.head?, c = .char '/'))

/-- **What is asked of a path** behind a domain: no space, no two points in a row, and no point at
the end. -/
structure IsTidy (p : Text) : Prop where
  spaceless : .char ' ' ∉ p
  apart : ¬ Text.ofString ".." <:+: p
  last : p.getLast? ≠ some (.char '.')

/-! ## Characters -/

section Characters

variable {c : CodePoint} (h : isDomainChar c = true)
include h

theorem ne_char_of_isDomainChar {k : Char} (hk : isDomainChar (.char k) = false) :
    c ≠ .char k := by
  rintro rfl
  simp [hk] at h

theorem toNat_of_isDomainChar : 0x21 ≤ c.toNat ∧ c.toNat ≤ 0x7A := by
  simp only [isDomainChar, isLabelChar, CodePoint.isWithin, Bool.or_eq_true, Bool.and_eq_true,
    decide_eq_true_eq, beq_iff_eq, show ('a' : Char).toNat = 0x61 from rfl,
    show ('z' : Char).toNat = 0x7A from rfl, show ('0' : Char).toNat = 0x30 from rfl,
    show ('9' : Char).toNat = 0x39 from rfl] at h
  rcases h with ((h | h) | rfl) | rfl
  · omega
  · omega
  · decide
  · decide

theorem isVisible_of_isDomainChar : IsVisible c := by
  have hrange := toNat_of_isDomainChar h
  constructor <;> omega

end Characters

/-! ## Labels with points between them -/

theorem IsLabel.point_notMem {l : Text} (hl : IsLabel l) : .char '.' ∉ l := by
  intro hmem
  have hpoint : isLabelChar (.char '.') = false := by decide
  simp [hl.chars _ hmem] at hpoint

namespace AreLabels

variable {d : Text} (h : AreLabels d)
include h

theorem isDomainChar_of_mem : ∀ c ∈ d, isDomainChar c = true := by
  induction h with
  | one hl =>
    intro c hc
    simp [isDomainChar, hl.chars c hc]
  | cons hl hrest ih =>
    intro c hc
    rcases List.mem_append.1 hc with hc | hc
    · simp [isDomainChar, hl.chars c hc]
    · rcases List.mem_cons.1 hc with rfl | hc
      · decide
      · exact ih c hc

theorem exists_cons : ∃ c r, d = c :: r ∧ isLabelChar c = true := by
  cases h with
  | one hl =>
    obtain ⟨c, l, rfl⟩ := List.exists_cons_of_ne_nil hl.ne_nil
    exact ⟨c, l, rfl, hl.chars c List.mem_cons_self⟩
  | cons hl hrest =>
    obtain ⟨c, l, rfl⟩ := List.exists_cons_of_ne_nil hl.ne_nil
    exact ⟨c, _, rfl, hl.chars c List.mem_cons_self⟩

theorem head?_append_ne {k : Char} (hk : isLabelChar (.char k) = false) (q : Text) :
    (d ++ q).head? ≠ some (.char k) := by
  obtain ⟨c, r, rfl, hlabel⟩ := h.exists_cons
  rintro ⟨⟩
  exact Bool.false_ne_true (hk.symm.trans hlabel)

theorem exists_last : ∃ c ∈ d.getLast?, isLabelChar c = true := by
  induction h with
  | one hl =>
    have hlast := List.getLast?_eq_some_getLast hl.ne_nil
    exact ⟨_, hlast, hl.chars _ (List.mem_of_getLast? hlast)⟩
  | cons hl hrest ih =>
    obtain ⟨c, hc, hlabel⟩ := ih
    refine ⟨c, ?_, hlabel⟩
    rw [Option.mem_def] at hc ⊢
    simp [List.getLast?_append, List.getLast?_cons, hc]

/-- No two points stand in a row, neither inside nor where a path begins. -/
theorem points_infix_append_iff {q : Text} :
    Text.ofString ".." <:+: d ++ q ↔ Text.ofString ".." <:+: q := by
  induction h with
  | one hl => exact Text.infix_append_iff_of_notMem hl.point_notMem
  | @cons l rest hl hrest ih =>
    have hnext : (rest ++ q).head? ≠ some (.char '.') := hrest.head?_append_ne (by decide) q
    rw [List.append_assoc, List.cons_append]
    refine (Text.infix_append_iff_of_notMem hl.point_notMem).trans ?_
    rw [List.infix_cons_iff]
    refine (or_iff_right fun hpair => hnext ?_).trans ih
    obtain ⟨r, hr⟩ := (List.cons_prefix_cons.1 hpair).2
    rw [← hr]
    rfl

end AreLabels

/-! ## A domain and a path -/

theorem endsNetloc_of_isDomainChar {c : CodePoint} (h : isDomainChar c = true) :
    endsNetloc c = false := by
  simp [endsNetloc, ne_char_of_isDomainChar h (k := '/') (by decide),
    ne_char_of_isDomainChar h (k := '?') (by decide),
    ne_char_of_isDomainChar h (k := '#') (by decide)]

namespace IsRooted

variable {p : Text} (h : IsRooted p)
include h

theorem cases_eq : p = [] ∨ ∃ r, p = .char '/' :: r := by
  cases p with
  | nil => exact .inl rfl
  | cons c r => exact .inr ⟨r, by rw [h c rfl]⟩

theorem filter_isDropped : IsRooted (p.filter (!isDropped ·)) := by
  obtain rfl | ⟨r, rfl⟩ := h.cases_eq
  · exact h
  · exact fun c hc => (Option.mem_some.1 hc).symm

theorem dropEnd_isBlank : IsRooted (Text.dropEnd Text.isBlank p) := by
  obtain rfl | ⟨r, rfl⟩ := h.cases_eq
  · exact h
  · rw [← List.nil_append (.char '/' :: r), Text.dropEnd_append_cons (by decide)]
    exact fun c hc => (Option.mem_some.1 hc).symm

end IsRooted

namespace IsDomain

variable {d : Text} (hd : IsDomain d)
include hd

theorem areLabels : AreLabels d := by
  obtain ⟨l, rest, hl, hrest, rfl⟩ := hd
  exact .cons hl hrest

theorem pointed : .char '.' ∈ d := by
  obtain ⟨l, rest, -, -, rfl⟩ := hd
  simp

theorem notMem {k : Char} (hk : isDomainChar (.char k) = false) : .char k ∉ d :=
  fun hmem => ne_char_of_isDomainChar (hd.areLabels.isDomainChar_of_mem _ hmem) hk rfl

theorem isVisible_of_mem : ∀ c ∈ d, IsVisible c :=
  fun c hc => isVisible_of_isDomainChar (hd.areLabels.isDomainChar_of_mem c hc)

theorem trim_append (p : Text) : Text.trim (d ++ p) = d ++ Text.dropEnd Text.isBlank p := by
  obtain ⟨c, r, hcons, -⟩ := hd.areLabels.exists_cons
  refine Text.trim_append_of_visible (by simp [hcons]) (fun c hc => ?_) p
  exact (hd.isVisible_of_mem c hc).isBlank_eq_false

theorem filter_append (p : Text) :
    (d ++ p).filter (!isDropped ·) = d ++ p.filter (!isDropped ·) := by
  have hkept : d.filter (!isDropped ·) = d := by
    refine List.filter_eq_self.2 fun c hc => ?_
    simp [(hd.isVisible_of_mem c hc).isDropped_eq_false]
  rw [List.filter_append, hkept]

theorem authority_append {p : Text} (hp : IsRooted p) : authority (d ++ p) = d := by
  have hkept : ∀ c ∈ d, (!endsNetloc c) = true := by
    intro c hc
    simp [endsNetloc_of_isDomainChar (hd.areLabels.isDomainChar_of_mem c hc)]
  have hend : (p.filter (!isDropped ·)).takeWhile (!endsNetloc ·) = [] := by
    obtain hnil | ⟨r, hr⟩ := hp.filter_isDropped.cases_eq
    · rw [hnil]
      rfl
    · rw [hr]
      exact List.takeWhile_cons_of_neg (by decide)
  rw [authority, hd.filter_append, List.takeWhile_append_of_pos hkept, hend, List.append_nil]

theorem host_eq : host d = d := by
  unfold host
  dsimp only
  rw [afterUser_of_notMem (hd.notMem (by decide)), Text.cut_of_not_mem (hd.notMem (by decide))]
  dsimp only
  rw [Text.cut_of_not_mem (hd.notMem (by decide))]

theorem isNetloc_eq : isNetloc d = true := by
  have hlike : (d.any fun c => delimiterLike.contains c.toNat) = false := by
    have hlow : ∀ n ∈ delimiterLike, 0x7F ≤ n := by decide
    rw [List.any_eq_false]
    intro c hc hmem
    have hle := hlow _ (List.contains_iff_mem.1 hmem)
    exact absurd (hd.isVisible_of_mem c hc).upper (Nat.not_lt.2 hle)
  have hopen : d.contains (.char '[') = false := by simpa using hd.notMem (k := '[') (by decide)
  have hclose : d.contains (.char ']') = false := by simpa using hd.notMem (k := ']') (by decide)
  unfold isNetloc
  dsimp only
  rw [hopen, hclose, hlike]
  rfl

theorem isCompact_append_iff {q : Text} : IsCompact (d ++ q) ↔ IsTidy q := by
  obtain ⟨c, hc, hlabel⟩ := hd.areLabels.exists_last
  have hspace : .char ' ' ∉ d ++ q ↔ .char ' ' ∉ q := by
    simp [hd.notMem (k := ' ') (by decide)]
  have hpoints := not_congr (hd.areLabels.points_infix_append_iff (q := q))
  have hlast : (d ++ q).getLast? ≠ some (.char '.') ↔ q.getLast? ≠ some (.char '.') := by
    have hpoint : c ≠ .char '.' := by
      rintro rfl
      exact absurd hlabel (by decide)
    rw [List.getLast?_append, Option.mem_def.1 hc]
    cases q.getLast? <;> simp [hpoint]
  constructor
  · intro h
    exact ⟨hspace.1 h.spaceless, hpoints.1 h.apart, hlast.1 h.last⟩
  · intro h
    exact ⟨List.ne_nil_of_mem (List.mem_append_left q hd.pointed), hspace.2 h.spaceless,
      hpoints.2 h.apart, hd.areLabels.head?_append_ne (by decide) q, hlast.2 h.last⟩

/-- A colon in the path ends no scheme, since a slash stands before it. -/
theorem splitScheme_append {p : Text} (hp : IsRooted p) : splitScheme (d ++ p) = ([], d ++ p) := by
  have hcolon : .char ':' ∉ d := hd.notMem (by decide)
  obtain rfl | ⟨r, rfl⟩ := hp.cases_eq
  · rw [List.append_nil, splitScheme, Text.cut_of_not_mem hcolon]
  · have hslash : .char ':' ∉ d ++ [.char '/'] := by simp [hcolon]
    have hcut := Text.cut_append hslash r
    rw [List.append_assoc, List.singleton_append] at hcut
    obtain ⟨before, rest, hrest⟩ : ∃ before rest, Text.cut (.char ':') r = (before, rest) :=
      ⟨_, _, rfl⟩
    rw [hrest] at hcut
    have hall : (d ++ [CodePoint.char '/'] ++ before).all isSchemeChar = false :=
      List.all_eq_false.2 ⟨.char '/', by simp, by decide⟩
    rw [splitScheme, hcut]
    cases rest with
    | none => rfl
    | some rest => simp only [hall, Bool.and_false, Bool.false_eq_true, if_false]

/-- **Without a scheme in front no host is named.** -/
theorem namesHost_append {p : Text} (hp : IsRooted p) : namesHost (d ++ p) = false := by
  obtain ⟨c, r, hcons, -⟩ := hd.areLabels.exists_cons
  have hmem : c ∈ d := by simp [hcons]
  have hdrop : (d ++ p).dropWhile isControl = d ++ p := by
    rw [hcons]
    exact List.dropWhile_cons_of_neg (by simp [(hd.isVisible_of_mem c hmem).isControl_eq_false])
  have hnetloc : ∀ q : Text, netloc? (d ++ q) = none := by
    have hc : c ≠ .char '/' := fun heq => hd.notMem (by decide) (heq ▸ hmem)
    intro q
    rw [hcons, List.cons_append, netloc?]
    rintro rest heq
    exact hc (List.cons.inj heq).1
  unfold namesHost
  dsimp only
  rw [hdrop, hd.filter_append, hd.splitScheme_append hp.filter_isDropped]
  dsimp only
  rw [hnetloc]

end IsDomain

/-! ## Both forms -/

theorem isCompact_defaultScheme_append_iff {t : Text} (hne : t ≠ [])
    (hhead : t.head? ≠ some (.char '.')) : IsCompact (defaultScheme ++ t) ↔ IsCompact t := by
  have hspace : .char ' ' ∉ defaultScheme ++ t ↔ .char ' ' ∉ t := by
    simp [show CodePoint.char ' ' ∉ defaultScheme by decide]
  have hpoints := not_congr (Text.infix_append_iff_of_notMem (r := [.char '.']) (t := t)
    (show CodePoint.char '.' ∉ defaultScheme by decide))
  have hlast : (defaultScheme ++ t).getLast? = t.getLast? :=
    List.getLast?_append_of_ne_nil _ hne
  constructor
  · intro h
    exact ⟨hne, hspace.1 h.spaceless, hpoints.1 h.apart, hhead, hlast ▸ h.last⟩
  · intro h
    refine ⟨by simp [hne], hspace.2 h.spaceless, hpoints.2 h.apart, ?_, hlast ▸ h.last⟩
    rintro ⟨⟩

section Forms

variable {d p : Text} (hd : IsDomain d) (hp : IsRooted p)
include hd hp

theorem isUsable_defaultScheme_append_iff :
    isUsable (defaultScheme ++ (d ++ p)) = true ↔ IsTidy (Text.dropEnd Text.isBlank p) := by
  have htrim : Text.trim (defaultScheme ++ (d ++ p)) =
      defaultScheme ++ (d ++ Text.dropEnd Text.isBlank p) := by
    rw [← List.append_assoc, Text.trim_append_of_visible, List.append_assoc]
    · simp [List.ne_nil_of_mem hd.pointed]
    · intro c hc
      rcases List.mem_append.1 hc with hc | hc
      · exact (show ∀ c ∈ defaultScheme, Text.isBlank c = false by decide) c hc
      · exact (hd.isVisible_of_mem c hc).isBlank_eq_false
  rw [isUsable_iff, htrim]
  generalize hq : Text.dropEnd Text.isBlank p = q
  have hrooted : IsRooted q := hq ▸ hp.dropEnd_isBlank
  have hmark : Text.ofString "://" <:+: defaultScheme ++ (d ++ q) :=
    (show Text.ofString "://" <:+: defaultScheme by decide).trans (List.prefix_append _ _).isInfix
  have hnames : namesHost (defaultScheme ++ (d ++ q)) = true := by
    rw [namesHost_defaultScheme, hd.authority_append hrooted, hd.isNetloc_eq, hd.host_eq]
    simpa using List.ne_nil_of_mem hd.pointed
  have hcompact : IsCompact (defaultScheme ++ (d ++ q)) ↔ IsTidy q := by
    have hne : d ++ q ≠ [] := List.ne_nil_of_mem (List.mem_append_left q hd.pointed)
    rw [← hd.isCompact_append_iff]
    exact isCompact_defaultScheme_append_iff hne (hd.areLabels.head?_append_ne (by decide) q)
  rw [or_iff_right fun h => h.schemeless hmark, hcompact]
  exact and_iff_left ⟨hmark, hnames⟩

/-- Without the scheme in front, its mark is refused in the path as well. -/
theorem isUsable_append_iff : isUsable (d ++ p) = true ↔
    IsTidy (Text.dropEnd Text.isBlank p) ∧ ¬ Text.ofString "://" <:+: p := by
  have hrooted := hp.dropEnd_isBlank
  have hkept : Text.ofString "://" <:+: Text.dropEnd Text.isBlank p ↔
      Text.ofString "://" <:+: p :=
    Text.infix_dropEnd_iff (c := CodePoint.char '/') (by decide)
      (r := [CodePoint.char ':', CodePoint.char '/'])
  have hmark : Text.ofString "://" <:+: d ++ Text.dropEnd Text.isBlank p ↔
      Text.ofString "://" <:+: p :=
    (Text.infix_append_iff_of_notMem (hd.notMem (by decide))).trans hkept
  rw [isUsable_iff, hd.trim_append, hd.namesHost_append hrooted, ← hmark,
    ← hd.isCompact_append_iff, or_iff_left fun h => Bool.false_ne_true h.2.2]
  constructor
  · intro h
    exact ⟨h.toIsCompact, h.schemeless⟩
  · rintro ⟨hcompact, hschemeless⟩
    have hauthority := hd.authority_append hrooted
    refine ⟨hcompact, hschemeless, List.mem_append_left _ hd.pointed,
      hd.areLabels.head?_append_ne (by decide) _, ?_, ?_⟩
    · rw [hauthority]
      exact hd.isNetloc_eq
    · rw [hauthority, hd.host_eq]
      exact List.ne_nil_of_mem hd.pointed

/-- **An address that begins with a domain** is usable behind `https://` exactly if its path is
tidy, but for blanks at its end. By itself it is usable alike, unless the mark `://` stands in its
path: then it is never usable. -/
theorem isUsable_schemeless :
    (isUsable (defaultScheme ++ (d ++ p)) = true ↔ IsTidy (Text.dropEnd Text.isBlank p)) ∧
      (¬ Text.ofString "://" <:+: p → isUsable (d ++ p) = isUsable (defaultScheme ++ (d ++ p))) ∧
      (Text.ofString "://" <:+: p → isUsable (d ++ p) = false) := by
  refine ⟨isUsable_defaultScheme_append_iff hd hp, fun hschemeless => ?_, fun hmark => ?_⟩
  · rw [Bool.eq_iff_iff, isUsable_append_iff hd hp, isUsable_defaultScheme_append_iff hd hp]
    exact and_iff_left hschemeless
  · rw [Bool.eq_false_iff, ne_eq, isUsable_append_iff hd hp]
    exact fun h => h.2 hmark

end Forms

/-- A colon in the path, blanks at its end, and a label of digits. -/
theorem isUsable_schemeless_colon :
    let d : Text := "www.4-7.org"
    let p : Text := "/a.b:c//d  "
    IsDomain d ∧ IsRooted p ∧ ¬ Text.ofString "://" <:+: p ∧
      isUsable (defaultScheme ++ (d ++ p)) = true ∧ isUsable (d ++ p) = true := by
  intro d p
  have hlabels : AreLabels "4-7.org" := .cons (l := "4-7") (by decide) (.one (by decide))
  have hd : IsDomain d := ⟨"www", "4-7.org", by decide, hlabels, rfl⟩
  have hp : IsRooted p := by decide
  have hmark : ¬ Text.ofString "://" <:+: p := by decide
  obtain ⟨husable, hsame, -⟩ := isUsable_schemeless hd hp
  have h := husable.2 ⟨by decide, by decide, by decide⟩
  exact ⟨hd, hp, hmark, h, (hsame hmark).trans h⟩

/-- **An address in a query is taken for a scheme**: it makes an address without a scheme unusable
that is usable behind `https://`. -/
theorem isUsable_mark_in_query :
    let d : Text := "a.org"
    let p : Text := "/?u=http://b.org"
    IsDomain d ∧ IsRooted p ∧ isUsable (d ++ p) = false ∧
      isUsable (defaultScheme ++ (d ++ p)) = true := by
  intro d p
  exact ⟨⟨"a", "org", by decide, .one (by decide), rfl⟩, by decide, by decide +kernel,
    by decide +kernel⟩

end Url

end Bookmarks
