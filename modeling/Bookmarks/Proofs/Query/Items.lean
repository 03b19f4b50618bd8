import Bookmarks.Proofs.Query.Render

/-!
# What each word of a query asks for

A word of a query asks for one thing, and this stands in one of the five parts of the query. Only a
sign with nothing behind it asks for nothing. The parts list what the words ask for in the order of
the words, so a query that is cut at a blank outside quotations has the parts of both pieces, one
after the other.

* `Spec.Item`, `Spec.ofItems`: the things that words ask for, and the query that lists some of them.
* `Spec.Asks`: what a word asks for.
* `Spec.existsUnique_asks`: each word asks for one thing, but for a lone sign.
* `Spec.exists_items`: the parts of a query from the things that its words ask for.
* **`Spec.parse_wordwise`**: queries are read word by word.
-/

namespace Bookmarks

namespace Spec

/-- What a single word asks for: an element of one of the five parts of a query. -/
inductive Item where
  | required (term : Text)
  | optional (term : Text)
  | excluded (term : Text)
  | filter (p : Predicate)
  | negated (p : Predicate)

namespace Item

/-- The word that must occur, for an item of this kind. -/
def required? : Item → Option Text
  | required term => some term
  | _ => none

/-- The word that may occur, for an item of this kind. -/
def optional? : Item → Option Text
  | optional term => some term
  | _ => none

/-- The word that must not occur, for an item of this kind. -/
def excluded? : Item → Option Text
  | excluded term => some term
  | _ => none

/-- The filter that must hold, for an item of this kind. -/
def filter? : Item → Option Predicate
  | filter p => some p
  | _ => none

/-- The filter that must not hold, for an item of this kind. -/
def negated? : Item → Option Predicate
  | negated p => some p
  | _ => none

end Item

/-- The query whose parts list the items of each kind, in their order. -/
def ofItems (items : List Item) : Spec where
  required := items.filterMap Item.required?
  optional := items.filterMap Item.optional?
  excluded := items.filterMap Item.excluded?
  filters := items.filterMap Item.filter?
  negated := items.filterMap Item.negated?

/-- The items of a query, part by part. -/
def items (spec : Spec) : List Item :=
  spec.required.map .required ++ spec.optional.map .optional ++ spec.excluded.map .excluded ++
    spec.filters.map .filter ++ spec.negated.map .negated

/-- The signs with nothing behind them. -/
def loneSigns : List Text :=
  [[.char '-'], [.char '+'], [.char '|']]

/-- The word asks for the item. A word that reads as a filter asks for it, and behind a `-` for its
negation; any other word asks for a term by its sign, or as a whole if it has none. -/
inductive Asks : Text → Item → Prop
  | negated {s : Text} {p : Predicate} (h : Predicate.parse? s = some p) :
    Asks (.char '-' :: s) (.negated p)
  | excluded {s : Text} (hne : s ≠ []) (h : Predicate.parse? s = none) :
    Asks (.char '-' :: s) (.excluded s)
  | filter {s : Text} {p : Predicate} (h : Predicate.parse? s = some p) : Asks s (.filter p)
  | required {s : Text} (hne : s ≠ []) : Asks (.char '+' :: s) (.required s)
  | optional {s : Text} (hne : s ≠ []) : Asks (.char '|' :: s) (.optional s)
  | unsigned {c : CodePoint} {s : Text} (hminus : c ≠ .char '-') (hplus : c ≠ .char '+')
    (hbar : c ≠ .char '|') (h : Predicate.parse? (c :: s) = none) :
    Asks (c :: s) (.optional (c :: s))

/-! ## Items -/

theorem ofItems_cons (item : Item) (items : List Item) :
    ofItems (item :: items) = ofItems [item] ++ ofItems items := by
  cases item <;> rfl

theorem items_ofItems_singleton (item : Item) : (ofItems [item]).items = [item] := by
  cases item <;> rfl

/-! ## Words -/

theorem Asks.ofToken_eq {t : Text} {item : Item} (h : Asks t item) : ofToken t = ofItems [item] := by
  cases h with
  | negated h =>
    refine ofToken_negated ?_ h
    rintro rfl
    cases h
  | excluded hne h => exact ofToken_excluded hne h
  | filter h => exact ofToken_filter h
  | required hne => exact ofToken_required hne
  | optional hne => exact ofToken_optional hne
  | unsigned hminus hplus hbar h =>
    rw [ofToken_cons, if_neg hminus, h]
    dsimp only
    rw [if_neg hplus, if_neg hbar]
    rfl

theorem exists_asks {t : Text} (hne : t ≠ []) (hlone : t ∉ loneSigns) : ∃ item, Asks t item := by
  obtain ⟨c, s, rfl⟩ := List.exists_cons_of_ne_nil hne
  have hrest : c ∈ [CodePoint.char '-', .char '+', .char '|'] → s ≠ [] := by
    rintro hc rfl
    exact hlone (List.mem_map_of_mem (f := fun c => [c]) hc)
  by_cases hminus : c = .char '-'
  · subst hminus
    cases hp : Predicate.parse? s with
    | some p => exact ⟨_, .negated hp⟩
    | none => exact ⟨_, .excluded (hrest (by simp)) hp⟩
  cases hp : Predicate.parse? (c :: s) with
  | some p => exact ⟨_, .filter hp⟩
  | none =>
    by_cases hplus : c = .char '+'
    · subst hplus
      exact ⟨_, .required (hrest (by simp))⟩
    by_cases hbar : c = .char '|'
    · subst hbar
      exact ⟨_, .optional (hrest (by simp))⟩
    exact ⟨_, .unsigned hminus hplus hbar hp⟩

/-- **Each word asks for one thing**, unless it is a lone sign. -/
theorem existsUnique_asks {t : Text} (hne : t ≠ []) (hlone : t ∉ loneSigns) :
    ∃! item, Asks t item := by
  obtain ⟨item, hitem⟩ := exists_asks hne hlone
  refine ⟨item, hitem, fun other hother => ?_⟩
  have hsame : [other] = [item] := by
    rw [← items_ofItems_singleton other, ← hother.ofToken_eq, hitem.ofToken_eq,
      items_ofItems_singleton]
  exact List.singleton_inj.1 hsame

theorem ofToken_of_mem_loneSigns {t : Text} (h : t ∈ loneSigns) : ofToken t = empty := by
  have hall : ∀ t ∈ loneSigns, ofToken t = empty := by decide +kernel
  exact hall t h

/-! ## Queries -/

theorem exists_items {ts : List Text} (h : ∀ t ∈ ts, t ≠ []) :
    ∃ items, List.Forall₂ Asks (ts.filter (· ∉ loneSigns)) items ∧ ofTokens ts = ofItems items := by
  induction ts with
  | nil => exact ⟨[], .nil, rfl⟩
  | cons t ts ih =>
    obtain ⟨hne, hts⟩ := List.forall_mem_cons.1 h
    obtain ⟨items, hitems, hparts⟩ := ih hts
    change ∃ items, _ ∧ ofToken t ++ ofTokens ts = ofItems items
    rw [hparts]
    by_cases hlone : t ∈ loneSigns
    · rw [ofToken_of_mem_loneSigns hlone, List.filter_cons_of_neg (by simpa using hlone)]
      exact ⟨items, hitems, rfl⟩
    · obtain ⟨item, hitem⟩ := exists_asks hne hlone
      rw [hitem.ofToken_eq, ← ofItems_cons, List.filter_cons_of_pos (by simpa using hlone)]
      exact ⟨item :: items, .cons hitem hitems, rfl⟩

/-- **Queries are read word by word.** A query that is cut at a blank after an even number of
quotation marks has the words of both pieces, and part by part what both pieces ask for. Each word
of a query but the lone signs asks for one thing, and the parts of the query list these things in
the order of the words, and nothing else. -/
theorem parse_wordwise :
    (∀ (a b : Text) (blank : CodePoint), Even (a.count (.char '"')) → Text.isBlank blank = true →
      tokens (a ++ blank :: b) = tokens a ++ tokens b ∧
        parse (a ++ blank :: b) = parse a ++ parse b) ∧
    ∀ query : Text, (∀ t ∈ tokens query, t ∉ loneSigns → ∃! item, Asks t item) ∧
      ∃ items, List.Forall₂ Asks ((tokens query).filter (· ∉ loneSigns)) items ∧
        parse query = ofItems items := by
  refine ⟨fun a b blank ha hblank => ⟨?_, parse_append_blank ha hblank b⟩, fun query => ?_⟩
  · exact tokens_append_blank (quotingAt_of_even ha) hblank b
  · have hne : ∀ t ∈ tokens query, t ≠ [] := fun t ht => (isWord_of_mem_tokens ht).ne_nil
    rw [parse_eq_ofTokens]
    exact ⟨fun t ht => existsUnique_asks (hne t ht), exists_items hne⟩

/-- A quotation stands before the cut, a tabulator is cut at, and of the words behind it one negates
a filter and one is a lone sign. -/
theorem parse_wordwise_tabulator :
    let a : Text := "+a \"b c\""
    let b : Text := "-tag:x - |d"
    let query : Text := a ++ .char '\t' :: b
    let word : Text := "-tag:x"
    Even (a.count (.char '"')) ∧ Text.isBlank (.char '\t') = true ∧
      tokens query = tokens a ++ tokens b ∧ parse query = parse a ++ parse b ∧
      word ∈ tokens query ∧ word ∉ loneSigns ∧ (∃! item, Asks word item) ∧
      ∃ items, List.Forall₂ Asks ((tokens query).filter (· ∉ loneSigns)) items ∧
        parse query = ofItems items ∧ items.length = 4 := by
  intro a b query word
  have hquotes : Even (a.count (.char '"')) := by decide
  have hblank : Text.isBlank (.char '\t') = true := by decide
  have hword : word ∈ tokens query := by decide +kernel
  have hsign : word ∉ loneSigns := by decide
  have hcount : ((tokens query).filter (· ∉ loneSigns)).length = 4 := by decide +kernel
  obtain ⟨htokens, hparse⟩ := parse_wordwise.1 a b (.char '\t') hquotes hblank
  obtain ⟨hunique, items, hitems, hparts⟩ := parse_wordwise.2 query
  exact ⟨hquotes, hblank, htokens, hparse, hword, hsign, hunique word hword hsign, items, hitems,
    hparts, hitems.length_eq ▸ hcount⟩

end Spec

end Bookmarks
