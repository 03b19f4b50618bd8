import Bookmarks.Proofs.Query.Tokens
import Bookmarks.Proofs.Text.Digits
import Bookmarks.Query.Parser
import Mathlib

/-!
# The written form of filters

A structured filter that a word can write has a known operator and up to nine digits of days, or a
value that is a term. Words write such filters only (**`Predicate.wellFormed_of_parse?`**), and each
of them is written by the word that spells it out (**`Predicate.parse?_written`**).

* `Predicate.WellFormed`: the filters that words write.
* `Predicate.written`: the word that spells a filter out.
* `Predicate.days?_digits`, `Predicate.operator?_symbol`: reading numbers of days and operators.
* `Predicate.readAs`, `Predicate.parse?_eq_some_iff`: what a word writes in a form; it has one at most.
-/

namespace Bookmarks

namespace Predicate

/-- The filters that words write. -/
def WellFormed : Predicate → Prop
  | label _ value => value.IsTerm
  | tag value => value.IsTerm
  | age _ (some op) (some days) => op ∈ Operator.known ∧ 0 ≤ days ∧ days < 1000000000
  | _ => False

instance : (p : Predicate) → Decidable p.WellFormed
  | label _ value => inferInstanceAs (Decidable value.IsTerm)
  | tag value => inferInstanceAs (Decidable value.IsTerm)
  | age _ (some op) (some days) =>
    inferInstanceAs (Decidable (op ∈ Operator.known ∧ 0 ≤ days ∧ days < 1000000000))
  | age _ (some _) none | age _ none _ | other => isFalse id

/-- The keyword of a filter. -/
def keyword (p : Predicate) : Text :=
  Text.ofString p.kind ++ [.char ':']

/-- The word that spells a filter out: its keyword, and a value or an operator with days. -/
def written (p : Predicate) : Text :=
  p.keyword ++
    match p with
    | label _ value => value
    | tag value => value
    | age _ (some op) (some days) =>
      Text.ofString op.symbol ++ Text.ofChars (Decimal.digits days.toNat)
    | _ => []

theorem keyword_spec (p : Predicate) :
    .char '"' ∉ p.keyword ∧ ∃ c, p.keyword.head? = some c ∧ Text.isBlank c = false := by
  have hkinds : p.kind ∈ ["device", "os", "browser", "tag", "added", "clicked", "other"] := by
    rcases p with ⟨_ | _ | _, _⟩ | _ | ⟨_ | _, _, _⟩ | _ <;> simp [kind]
  unfold keyword
  generalize p.kind = kind at hkinds
  simp only [List.mem_cons, List.not_mem_nil, or_false] at hkinds
  rcases hkinds with rfl | rfl | rfl | rfl | rfl | rfl | rfl <;>
    exact ⟨by decide, _, rfl, by decide⟩

/-! ## Operators and days -/

theorem operator?_mem {s rest : Text} {op : Operator} (h : operator? s = some (op, rest)) :
    op ∈ Operator.known := by
  unfold operator? at h
  split at h
  case h_6 => cases h
  all_goals
    obtain rfl := congrArg Prod.fst (Option.some.inj h)
    simp [Operator.known]

theorem operator?_symbol {op : Operator} (hop : op ∈ Operator.known) {rest : Text}
    (h : ∀ c ∈ rest.head?, c ≠ .char '=') :
    operator? (Text.ofString op.symbol ++ rest) = some (op, rest) := by
  cases op with
  | atLeast | atMost | about => rfl
  | unknown symbol => simp [Operator.known] at hop
  | greater =>
    change operator? (.char '>' :: rest) = _
    cases rest with
    | nil => rfl
    | cons c rest =>
      have hc := h c rfl
      simp [operator?, hc]
  | less =>
    change operator? (.char '<' :: rest) = _
    cases rest with
    | nil => rfl
    | cons c rest =>
      have hc := h c rfl
      simp [operator?, hc]

theorem days?_lt {s : Text} {n : Nat} (h : days? s = some n) : n < 1000000000 := by
  unfold days? at h
  dsimp only at h
  split at h
  · next hdigits =>
    obtain rfl := Option.some.inj h
    calc Text.digitsValue (s.takeWhile Text.isDigit)
        < 10 ^ (s.takeWhile Text.isDigit).length := Text.digitsValue_lt _
      _ ≤ 10 ^ 9 := Nat.pow_le_pow_right (by decide) hdigits.2.1
  · cases h

theorem days?_digits {n : Nat} (h : n < 1000000000) :
    days? (Text.ofChars (Decimal.digits n)) = some n := by
  have hall : ∀ c ∈ Text.ofChars (Decimal.digits n), Text.isDigit c = true :=
    fun c hc => Text.isDigit_of_mem_digits hc
  have hlength : (Text.ofChars (Decimal.digits n)).length = (Decimal.digits n).length :=
    List.length_map _
  have hmost : (Decimal.digits n).length ≤ 9 := Text.length_digits_le (by decide) h
  have hleast := Text.length_digits_pos n
  unfold days?
  rw [List.takeWhile_eq_self_iff.2 hall, List.dropWhile_eq_nil_iff.2 hall]
  dsimp only
  rw [if_pos ⟨by omega, by rw [hlength]; exact hmost, rfl⟩, Text.digitsValue_digits]

/-! ## Keywords -/

theorem suffix_of_afterKeyword? {keyword : List Char} {s rest : Text}
    (h : Text.afterKeyword? keyword s = some rest) : rest <:+ s := by
  induction keyword generalizing s with
  | nil =>
    rw [Text.afterKeyword?, Option.some.injEq] at h
    exact h ▸ List.suffix_rfl
  | cons k keyword ih =>
    cases s with
    | nil => simp [Text.afterKeyword?] at h
    | cons c s =>
      rw [Text.afterKeyword?] at h
      split at h
      · exact (ih h).trans (List.suffix_cons c s)
      · cases h

/-- The first character of a word decides which keyword it can have. -/
theorem head_of_afterKeyword? {form : String × (Text → Option Predicate)} (hform : form ∈ forms)
    {s rest : Text} (h : Text.afterKeyword? form.1.toList s = some rest) :
    s.head?.map Text.lowerAscii = form.1.toList.head?.map CodePoint.char := by
  have hhead : ∀ (k : Char) (keyword : List Char), k ≠ 's' → k ≠ 'k' → k ≠ 'i' →
      Text.afterKeyword? (k :: keyword) s = some rest →
      s.head?.map Text.lowerAscii = some (.char k) := by
    intro k keyword hs hk hi hafter
    cases s with
    | nil => simp [Text.afterKeyword?] at hafter
    | cons c s =>
      rw [Text.afterKeyword?] at hafter
      split at hafter
      · next hstands =>
        simp only [Text.standsFor, beq_false_of_ne hs, beq_false_of_ne hk, beq_false_of_ne hi,
          Bool.false_and, Bool.or_false, beq_iff_eq] at hstands
        exact congrArg some hstands
      · cases hafter
  unfold forms at hform
  simp only [List.mem_cons, List.not_mem_nil, or_false] at hform
  rcases hform with rfl | rfl | rfl | rfl | rfl | rfl | rfl <;>
    exact hhead _ _ (by decide) (by decide) (by decide) h

theorem nodup_heads : (forms.map fun form => form.1.toList.head?.map CodePoint.char).Nodup := by
  decide

theorem eq_of_afterKeyword? {form other : String × (Text → Option Predicate)} (hform : form ∈ forms)
    (hother : other ∈ forms) {s rest rest' : Text}
    (h : Text.afterKeyword? form.1.toList s = some rest)
    (h' : Text.afterKeyword? other.1.toList s = some rest') : form = other := by
  have hheads := (head_of_afterKeyword? hform h).symm.trans (head_of_afterKeyword? hother h')
  exact List.inj_on_of_nodup_map nodup_heads hform hother hheads

/-- The filter that a word writes in a form. -/
def readAs (word : Text) (form : String × (Text → Option Predicate)) : Option Predicate :=
  (Text.afterKeyword? form.1.toList word).bind form.2

theorem eq_of_readAs {word : Text} {form other : String × (Text → Option Predicate)}
    (hform : form ∈ forms) (hother : other ∈ forms) {p q : Predicate}
    (hp : readAs word form = some p) (hq : readAs word other = some q) : form = other := by
  obtain ⟨rest, hrest, -⟩ := Option.bind_eq_some_iff.1 hp
  obtain ⟨rest', hrest', -⟩ := Option.bind_eq_some_iff.1 hq
  exact eq_of_afterKeyword? hform hother hrest hrest'

theorem findSome?_eq_some_iff_of_unique {α β : Type} {f : α → Option β} {xs : List α}
    (h : ∀ x ∈ xs, ∀ y ∈ xs, ∀ a b, f x = some a → f y = some b → x = y) {b : β} :
    xs.findSome? f = some b ↔ ∃ x ∈ xs, f x = some b := by
  refine ⟨List.exists_of_findSome?_eq_some, ?_⟩
  rintro ⟨x, hx, hb⟩
  have hsome : (xs.findSome? f).isSome = true :=
    List.findSome?_isSome_iff.2 ⟨x, hx, by rw [hb]; rfl⟩
  obtain ⟨a, ha⟩ := Option.isSome_iff_exists.1 hsome
  obtain ⟨y, hy, hya⟩ := List.exists_of_findSome?_eq_some ha
  obtain rfl := h x hx y hy b a hb hya
  rw [ha, ← hya, hb]

/-- Whichever order the forms are tried in, a word is read in the form that it has. -/
theorem findSome?_readAs_iff {fs : List (String × (Text → Option Predicate))} (hfs : fs.Perm forms)
    {word : Text} {p : Predicate} :
    fs.findSome? (readAs word) = some p ↔ ∃ form ∈ forms, readAs word form = some p := by
  have hunique : ∀ form ∈ fs, ∀ other ∈ fs, ∀ p q, readAs word form = some p →
      readAs word other = some q → form = other :=
    fun form hform other hother p q hp hq =>
      eq_of_readAs (hfs.subset hform) (hfs.subset hother) hp hq
  rw [findSome?_eq_some_iff_of_unique hunique]
  simp only [hfs.mem_iff]

theorem parse?_eq_some_iff {word : Text} {p : Predicate} :
    parse? word = some p ↔ ∃ form ∈ forms, readAs word form = some p :=
  findSome?_readAs_iff (.refl forms)

/-- **A word with the keyword of a form is read by that form alone.** -/
theorem parse?_of_form {form : String × (Text → Option Predicate)} (hform : form ∈ forms)
    {s rest : Text} (h : Text.afterKeyword? form.1.toList s = some rest) :
    parse? s = form.2 rest := by
  have hread : readAs s form = form.2 rest := by
    rw [readAs, h, Option.bind_some]
  ext p
  rw [parse?_eq_some_iff, ← hread]
  constructor
  · rintro ⟨other, hother, hp⟩
    obtain ⟨rest', hrest', -⟩ := Option.bind_eq_some_iff.1 hp
    rwa [eq_of_afterKeyword? hform hother h hrest']
  · exact fun hp => ⟨form, hform, hp⟩

/-! ## Filters -/

theorem wellFormed_of_age? {event : Event} {s : Text} {p : Predicate}
    (h : age? event s = some p) : p.WellFormed := by
  obtain ⟨⟨op, rest⟩, hop, hrest⟩ := Option.bind_eq_some_iff.1 h
  obtain ⟨n, hn, hp⟩ := Option.bind_eq_some_iff.1 hrest
  obtain rfl := Option.some.inj hp
  exact ⟨operator?_mem hop, Int.natCast_nonneg n, by exact_mod_cast days?_lt hn⟩

theorem age?_written {event : Event} {op : Operator} {days : Int}
    (h : (age event (some op) (some days)).WellFormed) :
    age? event (Text.ofString op.symbol ++ Text.ofChars (Decimal.digits days.toNat)) =
      some (age event (some op) (some days)) := by
  obtain ⟨hop, hnonneg, hlt⟩ := h
  have hhead : ∀ c ∈ (Text.ofChars (Decimal.digits days.toNat)).head?, c ≠ .char '=' := by
    rintro c hc rfl
    exact absurd (Text.isDigit_of_mem_digits (List.mem_of_head? hc)) (by decide)
  unfold age?
  rw [operator?_symbol hop hhead]
  change (days? _).bind _ = _
  rw [days?_digits (by omega), Option.bind_some, Int.toNat_of_nonneg hnonneg]
  rfl

theorem of_value? {make : Text → Predicate} {s : Text} {p : Predicate}
    (h : value? make s = some p) : s ≠ [] ∧ p = make s := by
  unfold value? at h
  split at h
  · cases h
  · next hs => exact ⟨fun hnil => hs (by rw [hnil]; rfl), (Option.some.inj h).symm⟩

theorem value?_of_ne_nil (make : Text → Predicate) {s : Text} (h : s ≠ []) :
    value? make s = some (make s) := by
  rw [value?, if_neg (by simpa using h)]

/-- **Words write well-formed filters only.** -/
theorem wellFormed_of_parse? {s : Text} (hs : s.IsTerm) {p : Predicate}
    (h : parse? s = some p) : p.WellFormed := by
  obtain ⟨form, hform, hread⟩ := List.exists_of_findSome?_eq_some h
  obtain ⟨rest, hrest, hp⟩ := Option.bind_eq_some_iff.1 hread
  have hterm : rest ≠ [] → rest.IsTerm := hs.of_suffix (suffix_of_afterKeyword? hrest)
  unfold forms at hform
  simp only [List.mem_cons, List.not_mem_nil, or_false] at hform
  rcases hform with rfl | rfl | rfl | rfl | rfl | rfl | rfl
  · exact wellFormed_of_age? hp
  · exact wellFormed_of_age? hp
  all_goals
    obtain ⟨hne, rfl⟩ := of_value? hp
    exact hterm hne

theorem afterKeyword?_append {keyword : List Char}
    (h : ∀ k ∈ keyword, Text.standsFor k (.char k) = true) (rest : Text) :
    Text.afterKeyword? keyword (Text.ofChars keyword ++ rest) = some rest := by
  induction keyword with
  | nil => rfl
  | cons k keyword ih =>
    change Text.afterKeyword? (k :: keyword) (.char k :: (Text.ofChars keyword ++ rest)) = _
    rw [Text.afterKeyword?, if_pos (h k List.mem_cons_self)]
    exact ih fun c hc => h c (List.mem_cons_of_mem k hc)

theorem parse?_keyword {form : String × (Text → Option Predicate)} (hform : form ∈ forms)
    (rest : Text) : parse? (Text.ofString form.1 ++ rest) = form.2 rest := by
  refine parse?_of_form hform (afterKeyword?_append ?_ rest)
  unfold forms at hform
  simp only [List.mem_cons, List.not_mem_nil, or_false] at hform
  rcases hform with rfl | rfl | rfl | rfl | rfl | rfl | rfl <;>
    exact List.all_eq_true.1 rfl

/-- **Each well-formed filter is written by the word that spells it out.** -/
theorem parse?_written {p : Predicate} (h : p.WellFormed) : parse? p.written = some p := by
  have hform : ∀ (kind keyword : String) (read? : Text → Option Predicate) (rest : Text),
      (keyword, read?) ∈ forms → p.kind = kind →
      Text.ofString kind ++ [.char ':'] = Text.ofString keyword →
      p.written = p.keyword ++ rest → read? rest = some p → parse? p.written = some p := by
    intro kind keyword read? rest hmem hkind hkeyword hwritten hread
    rw [hwritten, Predicate.keyword, hkind, hkeyword]
    exact (parse?_keyword hmem rest).trans hread
  match p, h with
  | label .device value, h =>
    exact hform "device" "device:" _ value (by simp [forms]) rfl (by decide) rfl
      (value?_of_ne_nil _ h.ne_nil)
  | label .os value, h =>
    exact hform "os" "os:" _ value (by simp [forms]) rfl (by decide) rfl
      (value?_of_ne_nil _ h.ne_nil)
  | label .browser value, h =>
    exact hform "browser" "browser:" _ value (by simp [forms]) rfl (by decide) rfl
      (value?_of_ne_nil _ h.ne_nil)
  | tag value, h =>
    exact hform "tag" "tag:" _ value (by simp [forms]) rfl (by decide) rfl
      (value?_of_ne_nil _ h.ne_nil)
  | age .added (some op) (some days), h =>
    exact hform "added" "added:" _ _ (by simp [forms]) rfl (by decide) rfl (age?_written h)
  | age .clicked (some op) (some days), h =>
    exact hform "clicked" "clicked:" _ _ (by simp [forms]) rfl (by decide) rfl (age?_written h)

end Predicate

end Bookmarks
