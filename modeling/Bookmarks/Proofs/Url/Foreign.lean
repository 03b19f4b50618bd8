import Bookmarks.Proofs.Text.Trim
import Bookmarks.Proofs.Url.Authority
import Bookmarks.Store.Document
import Mathlib.Data.List.TakeWhile

/-!
# Addresses with a foreign scheme

A scheme is noticed by the mark `://` only. An address with another scheme than those of the Web is
not usable with this mark. Without it the scheme is taken for a host and what follows for its port,
so the address is usable if it reads as a domain. An address of mail with a point in it does.

* `Url.IsForeignScheme`: words of letters that are no scheme of the Web.
* `Url.namesHost_foreign`: such a scheme is refused where it is noticed.
* `Store.cleanAfter_of_unusable`: cleaning drops an entry whose address is not usable.
* **`Url.isUsable_foreign`**: the addresses with a foreign scheme that are usable.
-/

namespace Bookmarks

namespace Url

/-- A letter of ASCII. -/
def isLetter (c : CodePoint) : Bool :=
  c.isWithin 'a' 'z' || c.isWithin 'A' 'Z'

/-- A word of letters that is no scheme of the Web in any letter case. -/
structure IsForeignScheme (s : Text) : Prop where
  ne_nil : s ≠ []
  letters : ∀ c ∈ s, isLetter c = true
  not_http : s.map Text.lowerAscii ≠ Text.ofString "http"
  not_https : s.map Text.lowerAscii ≠ Text.ofString "https"

instance (s : Text) : Decidable (IsForeignScheme s) :=
  decidable_of_iff
    (s ≠ [] ∧ (∀ c ∈ s, isLetter c = true) ∧ s.map Text.lowerAscii ≠ Text.ofString "http" ∧
      s.map Text.lowerAscii ≠ Text.ofString "https")
    ⟨fun ⟨hne, hletters, hhttp, hhttps⟩ => ⟨hne, hletters, hhttp, hhttps⟩,
      fun h => ⟨h.ne_nil, h.letters, h.not_http, h.not_https⟩⟩

/-! ## Letters -/

section Letters

variable {c : CodePoint} (h : isLetter c = true)
include h

theorem toNat_of_isLetter : 0x41 ≤ c.toNat ∧ c.toNat ≤ 0x7A := by
  simp only [isLetter, CodePoint.isWithin, Bool.or_eq_true, Bool.and_eq_true, decide_eq_true_eq,
    show ('a' : Char).toNat = 0x61 from rfl, show ('z' : Char).toNat = 0x7A from rfl,
    show ('A' : Char).toNat = 0x41 from rfl, show ('Z' : Char).toNat = 0x5A from rfl] at h
  omega

theorem ne_char_of_isLetter {k : Char} (hk : k.toNat < 0x41) : c ≠ .char k := by
  rintro rfl
  exact absurd (toNat_of_isLetter h).1 (Nat.not_le.2 hk)

theorem isVisible_of_isLetter : IsVisible c := by
  have hrange := toNat_of_isLetter h
  constructor <;> omega

theorem endsNetloc_of_isLetter : endsNetloc c = false := by
  simp [endsNetloc, ne_char_of_isLetter h (k := '/') (by decide),
    ne_char_of_isLetter h (k := '?') (by decide), ne_char_of_isLetter h (k := '#') (by decide)]

theorem isSchemeChar_of_isLetter : isSchemeChar c = true := by
  rw [isLetter] at h
  simp only [isSchemeChar, h, Bool.true_or]

end Letters

/-! ## A scheme in front -/

namespace IsForeignScheme

variable {s : Text} (hs : IsForeignScheme s)
include hs

theorem colon_notMem : .char ':' ∉ s :=
  fun hmem => ne_char_of_isLetter (hs.letters _ hmem) (k := ':') (by decide) rfl

theorem trim_append (r : Text) :
    Text.trim (s ++ .char ':' :: r) = s ++ .char ':' :: Text.dropEnd Text.isBlank r := by
  obtain ⟨c, s, rfl⟩ := List.exists_cons_of_ne_nil hs.ne_nil
  have hc := (isVisible_of_isLetter (hs.letters c List.mem_cons_self)).isBlank_eq_false
  rw [Text.trim, Text.trimBy, List.cons_append, List.dropWhile_cons_of_neg (by simp [hc]),
    ← List.cons_append, Text.dropEnd_append_cons (by decide)]

theorem filter_append (r : Text) : (s ++ .char ':' :: r).filter (!isDropped ·) =
    s ++ .char ':' :: r.filter (!isDropped ·) := by
  have hkept : s.filter (!isDropped ·) = s := List.filter_eq_self.2 fun c hc => by
    rw [(isVisible_of_isLetter (hs.letters c hc)).isDropped_eq_false]
    rfl
  rw [List.filter_append, hkept, List.filter_cons_of_pos (by decide)]

theorem authority_append (r : Text) :
    authority (s ++ .char ':' :: r) = s ++ .char ':' :: authority r := by
  have hkept : ∀ c ∈ s, (!endsNetloc c) = true := fun c hc => by
    rw [endsNetloc_of_isLetter (hs.letters c hc)]
    rfl
  rw [authority, hs.filter_append, List.takeWhile_append_of_pos hkept,
    List.takeWhile_cons_of_pos (by decide)]
  rfl

end IsForeignScheme

/-- **A foreign scheme is refused** where it is read as a scheme. -/
theorem namesHost_foreign {s : Text} (hs : IsForeignScheme s) (r : Text) :
    namesHost (s ++ .char ':' :: r) = false := by
  have hdrop : (s ++ .char ':' :: r).dropWhile isControl = s ++ .char ':' :: r := by
    obtain ⟨c, s, rfl⟩ := List.exists_cons_of_ne_nil hs.ne_nil
    have hc := (isVisible_of_isLetter (hs.letters c List.mem_cons_self)).isControl_eq_false
    rw [List.cons_append, List.dropWhile_cons_of_neg (by simp [hc])]
  have hsplit : ∀ rest : Text,
      splitScheme (s ++ .char ':' :: rest) = (s.map Text.lowerAscii, rest) := fun rest => by
    have hall : s.all isSchemeChar = true :=
      List.all_eq_true.2 fun c hc => isSchemeChar_of_isLetter (hs.letters c hc)
    unfold splitScheme
    rw [Text.cut_append_cons hs.colon_notMem]
    dsimp only
    rw [if_pos (by simp [hs.ne_nil, hall])]
  unfold namesHost
  dsimp only
  rw [hdrop, hs.filter_append, hsplit]
  dsimp only
  cases netloc? (r.filter (!isDropped ·)) with
  | none => rfl
  | some netloc => simp [hs.not_http, hs.not_https]

/-- What stands before the first colon of an authority is its host, without a user and brackets. -/
theorem host_append_colon {s rest : Text} (hs : .char ':' ∉ s)
    (huser : .char '@' ∉ s ++ .char ':' :: rest) (hopen : .char '[' ∉ s ++ .char ':' :: rest) :
    host (s ++ .char ':' :: rest) = s := by
  unfold host
  dsimp only
  rw [afterUser_of_notMem huser, Text.cut_of_not_mem hopen, Text.cut_append_cons hs]

end Url

theorem Store.cleanAfter_of_unusable (seen : List Text) (before after : List Entry) {e : Entry}
    (h : Url.isUsable e.bookmark.url = false) : cleanAfter seen (before ++ e :: after) =
      { cleanAfter seen (before ++ after) with
        invalid := (cleanAfter seen (before ++ after)).invalid + 1 } := by
  induction before generalizing seen with
  | nil =>
    rw [List.nil_append, cleanAfter, h]
    rfl
  | cons d before ih =>
    rw [List.cons_append, List.cons_append, cleanAfter, cleanAfter]
    dsimp only
    rw [ih, ih]
    split_ifs <;> rfl

namespace Url

/-- **An address with a foreign scheme** is usable exactly if it reads as a domain. Without a user
and brackets the scheme is taken for the host. Where the address is not usable, cleaning drops the
entries with it, and counts them as invalid. -/
theorem isUsable_foreign {s : Text} (hs : IsForeignScheme s) (r : Text) :
    let url := s ++ .char ':' :: r
    (isUsable url = true ↔ ReadsAsDomain (Text.trim url)) ∧
      (.char '@' ∉ authority (Text.trim url) → .char '[' ∉ authority (Text.trim url) →
        host (authority (Text.trim url)) = s) ∧
      (¬ ReadsAsDomain (Text.trim url) →
        ∀ (before after : List Entry) (e : Entry), e.bookmark.url = url →
          Store.clean (before ++ e :: after) =
            { Store.clean (before ++ after) with
              invalid := (Store.clean (before ++ after)).invalid + 1 }) := by
  intro url
  have husable : isUsable url = true ↔ ReadsAsDomain (Text.trim url) := by
    rw [isUsable_iff, hs.trim_append, or_iff_left]
    rintro ⟨-, -, hnames⟩
    rw [namesHost_foreign hs] at hnames
    exact Bool.false_ne_true hnames
  refine ⟨husable, fun huser hopen => ?_, fun hdomain before after e he => ?_⟩
  · rw [hs.trim_append, hs.authority_append] at huser hopen ⊢
    exact host_append_colon hs.colon_notMem huser hopen
  · refine Store.cleanAfter_of_unusable [] before after ?_
    rw [he, Bool.eq_false_iff]
    exact mt husable.1 hdomain

/-- The scheme is noticed by its mark, in capital letters as well. -/
theorem isUsable_foreign_ftp :
    let s : Text := "FTP"
    let r : Text := "//a.org"
    let e : Entry := ⟨1, .ofUrl "FTP://a.org"⟩
    let before := Entry.number [.ofUrl "b.org"]
    IsForeignScheme s ∧ ¬ ReadsAsDomain (Text.trim (s ++ .char ':' :: r)) ∧
      isUsable (s ++ .char ':' :: r) = false ∧ Store.clean (before ++ [e]) = ⟨before, 1, 0⟩ := by
  intro s r e before
  have hs : IsForeignScheme s := by decide
  obtain ⟨husable, -, hclean⟩ := isUsable_foreign hs r
  have hrefused : isUsable (s ++ .char ':' :: r) = false := by decide +kernel
  have hdomain := mt husable.2 (Bool.eq_false_iff.1 hrefused)
  have hkept : isUsable (Bookmark.ofUrl "b.org").url = true := by decide +kernel
  have hbefore : Store.clean (before ++ []) = ⟨before, 0, 0⟩ := by
    simp [Store.clean, Store.cleanAfter, before, Entry.number, hkept]
  refine ⟨hs, hdomain, hrefused, ?_⟩
  rw [hclean hdomain before [] e rfl, hbefore]

/-- **An address of mail is taken for one of the Web**: its scheme is not noticed, since no slashes
follow it. So cleaning keeps it. -/
theorem isUsable_mailto :
    let s : Text := "mailto"
    let r : Text := "user@example.com"
    let entries := Entry.number [.ofUrl (s ++ .char ':' :: r)]
    IsForeignScheme s ∧ (∀ c ∈ r.head?, Text.isDigit c = false) ∧
      isUsable (s ++ .char ':' :: r) = true ∧ Store.clean entries = ⟨entries, 0, 0⟩ := by
  intro s r entries
  have husable : isUsable (Bookmark.ofUrl (s ++ .char ':' :: r)).url = true := by decide +kernel
  refine ⟨by decide, by decide, husable, ?_⟩
  simp [Store.clean, Store.cleanAfter, entries, Entry.number, husable]

end Url

end Bookmarks
