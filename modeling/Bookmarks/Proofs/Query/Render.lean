import Bookmarks.Proofs.Query.Written
import Mathlib

/-!
# Queries read back

A query in its parsed form can be written out: each term behind its sign and each filter as the word
that spells it out, each of these words between quotation marks, with spaces between them. Texts
write well-formed queries only, and a query is well-formed exactly if reading gives it back from
what it is written as (**`Spec.parse_render`**).

* `Spec.WellFormed`, `Spec.render`: the queries that texts write, and the text of each.
* `Spec.parse_eq_ofTokens`, `Spec.ofTokens_append`: queries are read word by word.
-/

namespace Bookmarks

namespace Predicate

theorem parse?_of_sign {sign : CodePoint}
    (h : some (Text.lowerAscii sign) ∉
      forms.map fun form => form.1.toList.head?.map CodePoint.char) (rest : Text) :
    parse? (sign :: rest) = none := by
  refine List.findSome?_eq_none_iff.2 fun form hform => ?_
  change (Text.afterKeyword? form.1.toList (sign :: rest)).bind form.2 = none
  cases hafter : Text.afterKeyword? form.1.toList (sign :: rest) with
  | none => rfl
  | some rest' =>
    have hhead : some (Text.lowerAscii sign) = form.1.toList.head?.map CodePoint.char :=
      head_of_afterKeyword? hform hafter
    exact absurd (List.mem_map.2 ⟨form, hform, hhead.symm⟩) h

/-- **The word of a well-formed filter can stand alone.** -/
theorem isWord_written {p : Predicate} (h : p.WellFormed) : p.written.IsWord := by
  obtain ⟨hmark, c, hhead, hblank⟩ := p.keyword_spec
  have hterm : ∀ value : Text, value.IsTerm → (p.keyword ++ value).IsWord := fun value hvalue => by
    refine ⟨hvalue.append hmark, fun d hd => ?_⟩
    rw [List.head?_append, hhead] at hd
    exact Option.some.inj hd ▸ hblank
  match p, h with
  | label _ value, h => exact hterm value h
  | tag value, h => exact hterm value h
  | age _ (some op) (some days), h =>
    refine hterm _ (Text.IsTerm.append ?_ ?_)
    · have hdigit : ∀ digit < 10, CodePoint.char digit.digitChar ≠ .char '"' ∧
          Text.isBlank (.char digit.digitChar) = false := by decide
      have hdigits : ∀ c ∈ Text.ofChars (Decimal.digits days.toNat),
          c ≠ .char '"' ∧ Text.isBlank c = false := by
        intro c hc
        obtain ⟨digit, hlt, rfl⟩ := Text.exists_of_mem_digits hc
        exact hdigit digit hlt
      refine ⟨fun hnil => ?_, fun hmem => (hdigits _ hmem).1 rfl, fun c hc =>
        (hdigits c (List.mem_of_getLast? hc)).2⟩
      have hpos := Text.length_digits_pos days.toNat
      rw [List.map_eq_nil_iff.1 hnil] at hpos
      exact absurd hpos (lt_irrefl 0)
    · have hknown : ∀ op ∈ Operator.known, .char '"' ∉ Text.ofString op.symbol := by decide
      exact hknown op h.1

end Predicate

namespace Spec

/-- The queries that texts write. -/
structure WellFormed (spec : Spec) : Prop where
  required : ∀ term ∈ spec.required, term.IsTerm
  optional : ∀ term ∈ spec.optional, term.IsTerm
  /-- An excluded term is none that reads as a filter: that one would be negated. -/
  excluded : ∀ term ∈ spec.excluded, term.IsTerm ∧ Predicate.parse? term = none
  filters : ∀ p ∈ spec.filters, p.WellFormed
  negated : ∀ p ∈ spec.negated, p.WellFormed

instance (spec : Spec) : Decidable spec.WellFormed :=
  decidable_of_iff
    ((∀ term ∈ spec.required, term.IsTerm) ∧ (∀ term ∈ spec.optional, term.IsTerm) ∧
      (∀ term ∈ spec.excluded, term.IsTerm ∧ Predicate.parse? term = none) ∧
      (∀ p ∈ spec.filters, p.WellFormed) ∧ ∀ p ∈ spec.negated, p.WellFormed)
    ⟨fun ⟨hrequired, hoptional, hexcluded, hfilters, hnegated⟩ =>
        ⟨hrequired, hoptional, hexcluded, hfilters, hnegated⟩,
      fun h => ⟨h.required, h.optional, h.excluded, h.filters, h.negated⟩⟩

/-- The words of a query, each with its sign. -/
def words (spec : Spec) : List Text :=
  spec.required.map (.char '+' :: ·) ++ spec.optional.map (.char '|' :: ·) ++
    spec.excluded.map (.char '-' :: ·) ++ spec.filters.map Predicate.written ++
    spec.negated.map (.char '-' :: ·.written)

/-- A text that writes a query: its words between quotation marks, with spaces between them. -/
def render (spec : Spec) : Text :=
  Text.spaced (spec.words.map Text.quotedWord)

/-! ## Putting queries together -/

@[simp]
theorem empty_append (spec : Spec) : empty ++ spec = spec :=
  rfl

@[simp]
theorem append_required (a b : Spec) : (a ++ b).required = a.required ++ b.required :=
  rfl

@[simp]
theorem append_optional (a b : Spec) : (a ++ b).optional = a.optional ++ b.optional :=
  rfl

@[simp]
theorem append_excluded (a b : Spec) : (a ++ b).excluded = a.excluded ++ b.excluded :=
  rfl

@[simp]
theorem append_filters (a b : Spec) : (a ++ b).filters = a.filters ++ b.filters :=
  rfl

@[simp]
theorem append_negated (a b : Spec) : (a ++ b).negated = a.negated ++ b.negated :=
  rfl

@[ext]
theorem ext_parts {a b : Spec} (hrequired : a.required = b.required)
    (hoptional : a.optional = b.optional) (hexcluded : a.excluded = b.excluded)
    (hfilters : a.filters = b.filters) (hnegated : a.negated = b.negated) : a = b := by
  cases a
  cases b
  simp_all

@[simp]
theorem append_empty (spec : Spec) : spec ++ empty = spec := by
  ext1 <;> simp [empty]

theorem append_assoc (a b c : Spec) : a ++ b ++ c = a ++ (b ++ c) := by
  ext1 <;> simp

theorem ofTokens_append (xs ys : List Text) :
    ofTokens (xs ++ ys) = ofTokens xs ++ ofTokens ys := by
  induction xs with
  | nil => rfl
  | cons x xs ih =>
    change ofToken x ++ ofTokens (xs ++ ys) = ofToken x ++ ofTokens xs ++ ofTokens ys
    rw [ih, append_assoc]

theorem ofTokens_map {α : Type} (part : List α → Spec) {word : α → Text} (hnil : part [] = empty)
    (hcons : ∀ x xs, part (x :: xs) = part [x] ++ part xs) {xs : List α}
    (h : ∀ x ∈ xs, ofToken (word x) = part [x]) : ofTokens (xs.map word) = part xs := by
  induction xs with
  | nil => exact hnil.symm
  | cons x xs ih =>
    change ofToken (word x) ++ ofTokens (xs.map word) = _
    rw [h x List.mem_cons_self, ih fun y hy => h y (List.mem_cons_of_mem x hy), ← hcons]

/-- Reading a blank text takes no exception. -/
theorem parse_eq_ofTokens (query : Text) : parse query = ofTokens (tokens query) := by
  unfold parse
  split
  · next hblank => rw [tokens_of_isBlankText hblank]; rfl
  · rfl

theorem parse_of_unblank {t : Text} (hne : t ≠ []) (hmark : .char '"' ∉ t)
    (hblank : ∀ c ∈ t, Text.isBlank c = false) : parse t = ofToken t := by
  rw [parse_eq_ofTokens, tokens_of_unblank hne hmark hblank]
  exact append_empty (ofToken t)

/-- After an even number of marks no quotation is open. -/
theorem quotingAt_of_even {q : Text} (hq : Even (q.count (.char '"'))) :
    Token.quotingAt false q = false := by
  rw [Token.quotingAt_eq, Nat.even_iff.1 hq]
  rfl

/-- A query falls apart at a blank that is not inside a quotation. -/
theorem parse_append_blank {q : Text} (hq : Even (q.count (.char '"'))) {blank : CodePoint}
    (hblank : Text.isBlank blank = true) (x : Text) :
    parse (q ++ blank :: x) = parse q ++ parse x := by
  rw [parse_eq_ofTokens, tokens_append_blank (quotingAt_of_even hq) hblank, ofTokens_append,
    ← parse_eq_ofTokens, ← parse_eq_ofTokens]

/-! ## The words of a query -/

theorem ofToken_cons (c : CodePoint) (s : Text) : ofToken (c :: s) =
    if c = .char '-' then ofExcluded s
    else
      match Predicate.parse? (c :: s) with
      | some p => { empty with filters := [p] }
      | none =>
        if c = .char '+' then ofRequired s
        else if c = .char '|' then ofOptional s else ofOptional (c :: s) := by
  by_cases hminus : c = .char '-'
  · subst hminus
    rfl
  · rw [if_neg hminus]
    unfold ofToken
    split
    · next heq => exact absurd (List.cons.inj heq).1 hminus
    · cases Predicate.parse? (c :: s) with
      | some p => rfl
      | none =>
        dsimp only
        split
        · next heq =>
          obtain ⟨rfl, rfl⟩ := List.cons.inj heq
          rfl
        · next heq =>
          obtain ⟨rfl, rfl⟩ := List.cons.inj heq
          rfl
        · next hplus hbar =>
          have hplus : c ≠ .char '+' := fun hc => hplus s (hc ▸ rfl)
          have hbar : c ≠ .char '|' := fun hc => hbar s (hc ▸ rfl)
          rw [if_neg hplus, if_neg hbar]

section OfToken

variable {s : Text}

theorem ofToken_required (h : s ≠ []) :
    ofToken (.char '+' :: s) = { empty with required := [s] } := by
  have hnone : Predicate.parse? (.char '+' :: s) = none := Predicate.parse?_of_sign (by decide) s
  simp [ofToken, hnone, ofRequired, h]

theorem ofToken_optional (h : s ≠ []) :
    ofToken (.char '|' :: s) = { empty with optional := [s] } := by
  have hnone : Predicate.parse? (.char '|' :: s) = none := Predicate.parse?_of_sign (by decide) s
  simp [ofToken, hnone, ofOptional, h]

theorem ofToken_excluded (h : s ≠ []) (hs : Predicate.parse? s = none) :
    ofToken (.char '-' :: s) = { empty with excluded := [s] } := by
  simp [ofToken, ofExcluded, h, hs]

theorem ofToken_negated {p : Predicate} (h : s ≠ []) (hs : Predicate.parse? s = some p) :
    ofToken (.char '-' :: s) = { empty with negated := [p] } := by
  simp [ofToken, ofExcluded, h, hs]

theorem ofToken_filter {p : Predicate} (h : Predicate.parse? s = some p) :
    ofToken s = { empty with filters := [p] } := by
  unfold ofToken
  split
  · next rest =>
    rw [Predicate.parse?_of_sign (by decide) rest] at h
    cases h
  · simp only [h]

end OfToken

theorem isWord_of_mem_words {spec : Spec} (h : spec.WellFormed) {word : Text}
    (hword : word ∈ spec.words) : word.IsWord := by
  simp only [words, List.mem_append, List.mem_map] at hword
  rcases hword with (((⟨s, hs, rfl⟩ | ⟨s, hs, rfl⟩) | ⟨s, hs, rfl⟩) | ⟨p, hp, rfl⟩) | ⟨p, hp, rfl⟩
  · exact (h.required s hs).cons (by decide) (by decide)
  · exact (h.optional s hs).cons (by decide) (by decide)
  · exact (h.excluded s hs).1.cons (by decide) (by decide)
  · exact Predicate.isWord_written (h.filters p hp)
  · exact (Predicate.isWord_written (h.negated p hp)).cons (by decide) (by decide)

theorem ofTokens_words {spec : Spec} (h : spec.WellFormed) : ofTokens spec.words = spec := by
  have hrequired : ofTokens (spec.required.map (.char '+' :: ·)) =
      { empty with required := spec.required } :=
    ofTokens_map (fun xs => { empty with required := xs }) rfl (fun _ _ => rfl)
      fun s hs => ofToken_required (h.required s hs).ne_nil
  have hoptional : ofTokens (spec.optional.map (.char '|' :: ·)) =
      { empty with optional := spec.optional } :=
    ofTokens_map (fun xs => { empty with optional := xs }) rfl (fun _ _ => rfl)
      fun s hs => ofToken_optional (h.optional s hs).ne_nil
  have hexcluded : ofTokens (spec.excluded.map (.char '-' :: ·)) =
      { empty with excluded := spec.excluded } :=
    ofTokens_map (fun xs => { empty with excluded := xs }) rfl (fun _ _ => rfl)
      fun s hs => ofToken_excluded (h.excluded s hs).1.ne_nil (h.excluded s hs).2
  have hfilters : ofTokens (spec.filters.map Predicate.written) =
      { empty with filters := spec.filters } :=
    ofTokens_map (fun ps => { empty with filters := ps }) rfl (fun _ _ => rfl)
      fun p hp => ofToken_filter (Predicate.parse?_written (h.filters p hp))
  have hnegated : ofTokens (spec.negated.map (.char '-' :: ·.written)) =
      { empty with negated := spec.negated } :=
    ofTokens_map (fun ps => { empty with negated := ps }) rfl (fun _ _ => rfl) fun p hp =>
      ofToken_negated (Predicate.isWord_written (h.negated p hp)).ne_nil
        (Predicate.parse?_written (h.negated p hp))
  unfold words
  rw [ofTokens_append, ofTokens_append, ofTokens_append, ofTokens_append, hrequired, hoptional,
    hexcluded, hfilters, hnegated]
  ext1 <;> simp [empty]

/-! ## What texts write -/

namespace WellFormed

theorem empty : Spec.empty.WellFormed := by
  constructor <;> simp [Spec.empty]

theorem append {a b : Spec} (ha : a.WellFormed) (hb : b.WellFormed) : (a ++ b).WellFormed where
  required s hs := (List.mem_append.1 hs).elim (ha.required s) (hb.required s)
  optional s hs := (List.mem_append.1 hs).elim (ha.optional s) (hb.optional s)
  excluded s hs := (List.mem_append.1 hs).elim (ha.excluded s) (hb.excluded s)
  filters p hp := (List.mem_append.1 hp).elim (ha.filters p) (hb.filters p)
  negated p hp := (List.mem_append.1 hp).elim (ha.negated p) (hb.negated p)

variable {s : Text}

theorem ofRequired (h : s ≠ [] → s.IsTerm) : (ofRequired s).WellFormed := by
  unfold Spec.ofRequired
  split
  · exact empty
  · next hs =>
    have hterm := h fun hnil => hs (by rw [hnil]; rfl)
    constructor <;> simp [Spec.empty, hterm]

theorem ofOptional (h : s ≠ [] → s.IsTerm) : (ofOptional s).WellFormed := by
  unfold Spec.ofOptional
  split
  · exact empty
  · next hs =>
    have hterm := h fun hnil => hs (by rw [hnil]; rfl)
    constructor <;> simp [Spec.empty, hterm]

theorem ofExcluded (h : s ≠ [] → s.IsTerm) : (ofExcluded s).WellFormed := by
  unfold Spec.ofExcluded
  split
  · exact empty
  · next hs =>
    have hterm := h fun hnil => hs (by rw [hnil]; rfl)
    split
    · next p hp =>
      have hwf := Predicate.wellFormed_of_parse? hterm hp
      constructor <;> simp [Spec.empty, hwf]
    · next hnone => constructor <;> simp [Spec.empty, hterm, hnone]

theorem ofToken (h : s.IsWord) : (ofToken s).WellFormed := by
  have hrest : ∀ {sign : CodePoint} {rest : Text}, s = sign :: rest → rest ≠ [] → rest.IsTerm :=
    fun hs => h.of_suffix (hs ▸ List.suffix_cons _ _)
  unfold Spec.ofToken
  split
  · exact ofExcluded (hrest rfl)
  · split
    · next p hp =>
      have hwf := Predicate.wellFormed_of_parse? h.toIsTerm hp
      constructor <;> simp [Spec.empty, hwf]
    · split
      · exact ofRequired (hrest rfl)
      · exact ofOptional (hrest rfl)
      · exact ofOptional fun _ => h.toIsTerm

theorem ofTokens {ts : List Text} (h : ∀ t ∈ ts, t.IsWord) : (ofTokens ts).WellFormed := by
  induction ts with
  | nil => exact empty
  | cons t ts ih =>
    have hrest := ih fun u hu => h u (List.mem_cons_of_mem t hu)
    exact (ofToken (h t List.mem_cons_self)).append hrest

end WellFormed

/-- **Texts write well-formed queries, and exactly these are read back from what they are written
as**: part by part, and in order. -/
theorem parse_render :
    (∀ query, (parse query).WellFormed) ∧
      ∀ spec : Spec, spec.WellFormed ↔ parse spec.render = spec := by
  have hparse : ∀ query, (parse query).WellFormed := fun query => by
    rw [parse_eq_ofTokens]
    exact WellFormed.ofTokens fun _ => isWord_of_mem_tokens
  refine ⟨hparse, fun spec => ⟨fun h => ?_, fun h => h ▸ hparse spec.render⟩⟩
  rw [parse_eq_ofTokens, render, tokens_spaced_quoted fun _ => isWord_of_mem_words h]
  exact ofTokens_words h

/-- A required term that reads as a filter, and a value that begins with a blank. -/
theorem parse_render_five_parts :
    let spec : Spec := {
      required := ["tag:a b"], optional := [" c"], excluded := ["-d"],
      filters := [.label .device " e", .age .added (some .atMost) (some 30)],
      negated := [.tag "f"] }
    spec.WellFormed ∧ parse spec.render = spec :=
  ⟨by decide +kernel, (parse_render.2 _).1 (by decide +kernel)⟩

end Spec

end Bookmarks
