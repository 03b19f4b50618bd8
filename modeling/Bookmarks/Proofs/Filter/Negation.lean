import Bookmarks.Proofs.Division
import Bookmarks.Proofs.Filter.SingleWord

/-!
# A word and its negation

A `-` in front of a word asks for the opposite. The two are read on different ways: a filter must
hold or must not, and a word that is none must occur or must not. On each way the results of the two
queries divide the collection.

* `Text.IsUnsigned`: words without a sign, which a `-` negates.
* `Filtered.exists_ofQuery_opposite`: words that ask for opposite things.
* **`Filtered.ofQuery_negated`**: the results of the two queries divide the collection.
-/

namespace Bookmarks

/-- A word that needs no quotation marks and has no sign. -/
structure Text.IsUnsigned (t : Text) : Prop extends Text.IsBare t where
  ne_nil : t ≠ []
  head : ∀ c ∈ t.head?, c ∉ [CodePoint.char '-', .char '+', .char '|']

instance (t : Text) : Decidable t.IsUnsigned :=
  decidable_of_iff
    (t.IsBare ∧ t ≠ [] ∧ ∀ c ∈ t.head?, c ∉ [CodePoint.char '-', .char '+', .char '|'])
    ⟨fun ⟨hbare, hne, hhead⟩ => ⟨hbare, hne, hhead⟩, fun h => ⟨h.toIsBare, h.ne_nil, h.head⟩⟩

namespace Text.IsUnsigned

variable {t : Text}

theorem isBare_minus (h : t.IsUnsigned) : Text.IsBare (.char '-' :: t) := by
  have hminus : Text.IsBare [.char '-'] := by decide
  exact hminus.append h.toIsBare

theorem bounded (h : t.IsUnsigned) {p : Predicate} (hp : Predicate.parse? t = some p) :
    p.Bounded := by
  have hterm : t.IsTerm :=
    ⟨h.ne_nil, h.unmarked, fun c hc => h.unblank c (List.mem_of_getLast? hc)⟩
  exact (Predicate.wellFormed_of_parse? hterm hp).bounded

end Text.IsUnsigned

namespace Spec

variable {t : Text}

theorem asks_optional (ht : t.IsUnsigned) (h : Predicate.parse? t = none) :
    Asks t (.optional t) := by
  obtain ⟨c, s, rfl⟩ := List.exists_cons_of_ne_nil ht.ne_nil
  have hhead := ht.head c rfl
  simp only [List.mem_cons, List.not_mem_nil, or_false, not_or] at hhead
  exact .unsigned hhead.1 hhead.2.1 hhead.2.2 h

end Spec

namespace Filtered

/-- Words that ask for opposite things divide a collection. -/
theorem exists_ofQuery_opposite (c : Collection) (now : Timestamp) {s t : Text}
    {item other : Spec.Item} (hs : s.IsBare) (ht : t.IsBare) (hitem : Spec.Asks s item)
    (hother : Spec.Asks t other) (hiff : ∀ b, other.Admits now b ↔ ¬ item.Admits now b) :
    ∃ found rest, ofQuery s c.entries now = .ok found ∧ ofQuery t c.entries now = .ok rest ∧
      Divides [found.data, rest.data] c.entries ∧
      ∀ e ∈ c.entries, e ∈ found.data ↔ item.Admits now e.bookmark := by
  obtain ⟨found, hfound, hdata⟩ := exists_ofQuery_asks hs hitem c now
  obtain ⟨rest, hrest, hdata'⟩ := exists_ofQuery_asks ht hother c now
  refine ⟨found, rest, hfound, hrest, ?_, fun e he => ?_⟩
  · rw [hdata, hdata']
    refine divides_filter [_, _] fun e _ => ?_
    by_cases h : item.Admits now e.bookmark <;> simp [hiff, h]
  · rw [hdata, List.mem_filter, and_iff_right he, decide_eq_true_iff]

/-- **The results of a word and of its negation divide a collection.** A word that writes a filter
finds the bookmarks for which the filter holds, and any other word finds those in which it occurs:
also a word that only begins as a filter does. -/
theorem ofQuery_negated (c : Collection) (now : Timestamp) {t : Text} (ht : t.IsUnsigned) :
    ∃ found rest, ofQuery t c.entries now = .ok found ∧
      ofQuery (.char '-' :: t) c.entries now = .ok rest ∧
      Divides [found.data, rest.data] c.entries ∧
      (∀ p, Predicate.parse? t = some p →
        ∀ e ∈ c.entries, e ∈ found.data ↔ p.holds e.bookmark now = .ok true) ∧
      (Predicate.parse? t = none → ∀ e ∈ c.entries, e ∈ found.data ↔ e.bookmark.Matches t) := by
  cases hp : Predicate.parse? t with
  | none =>
    obtain ⟨found, rest, hfound, hrest, hdivides, hmem⟩ := exists_ofQuery_opposite c now ht.toIsBare
      ht.isBare_minus (Spec.asks_optional ht hp) (.excluded ht.ne_nil hp) fun _ => Iff.rfl
    exact ⟨found, rest, hfound, hrest, hdivides, fun p hnone => (by cases hnone), fun _ => hmem⟩
  | some p =>
    -- the filter has an answer, so the answer is no where it does not hold
    have hanswer : ∀ b, p.holds b now = .ok false ↔ ¬ p.holds b now = .ok true := fun b => by
      obtain ⟨r, hr⟩ := Predicate.exists_holds (ht.bounded hp) b now
      rw [hr]
      cases r <;> simp
    obtain ⟨found, rest, hfound, hrest, hdivides, hmem⟩ := exists_ofQuery_opposite c now ht.toIsBare
      ht.isBare_minus (.filter hp) (.negated hp) hanswer
    refine ⟨found, rest, hfound, hrest, hdivides, fun q hq => ?_, fun hnone => by cases hnone⟩
    obtain rfl := Option.some.inj hq
    exact hmem

/-- A word that begins as a filter by age does, and has too many digits to be one. -/
theorem ofQuery_negated_ten_digits :
    let t : Text := "added:>1234567890"
    let c := Collection.ofBookmarks
      [Bookmark.ofUrl "a.org", Bookmark.ofUrl "b.org?ADDED:>1234567890", Bookmark.ofUrl "c.org"]
    t.IsUnsigned ∧ Predicate.parse? t = none ∧
      ∃ found rest, ofQuery t c.entries .epoch = .ok found ∧
        ofQuery (.char '-' :: t) c.entries .epoch = .ok rest ∧
        Divides [found.data, rest.data] c.entries ∧
        found.data.map Entry.id = [1] ∧ rest.data.map Entry.id = [0, 2] := by
  intro t c
  have ht : t.IsUnsigned := by decide +kernel
  obtain ⟨found, rest, hfound, hrest, hdivides, -, -⟩ := ofQuery_negated c .epoch ht
  have hids : (ofQuery t c.entries .epoch).map (·.data.map Entry.id) = .ok [1] ∧
      (ofQuery (.char '-' :: t) c.entries .epoch).map (·.data.map Entry.id) = .ok [0, 2] := by
    decide +kernel
  rw [hfound, hrest] at hids
  exact ⟨ht, by decide +kernel, found, rest, hfound, hrest, hdivides, Except.ok.inj hids.1,
    Except.ok.inj hids.2⟩

end Filtered

end Bookmarks
