import Bookmarks.Proofs.Division
import Bookmarks.Proofs.Filter.SingleWord
import Bookmarks.Proofs.Number.Order

/-!
# Filters by age

Elapsed days are finite numbers, and all operators but `=` compare them exactly, in the order of the
rational numbers. So of an operator and its opposite each age fulfils one, and the filters by age
cut the collection. What is outside the order is apart: bookmarks that were never clicked are found
by `clicked:=0` alone, and bookmarks without a time pass the filters that look at it.

* `Operator.opposites`, `Operator.compare_opposites`: an operator and its opposite.
* `Operator.compare_mono`: a smaller number of days is passed earlier.
* `Predicate.holds_added_opposites`, `Predicate.holds_clicked_opposites`: the same for filters.
* `CutsByAge`: lists that cut a list of entries by age.
* **`Filtered.ofQuery_ages`**: the filters by age cut a collection.
-/

namespace Bookmarks

/-! ## Comparing elapsed days -/

namespace Operator

/-- The operators with their opposites. -/
def opposites : List (Operator × Operator) :=
  [(atMost, greater), (less, atLeast)]

theorem ne_about_of_opposites {lower upper : Operator} (h : (lower, upper) ∈ opposites) :
    lower ≠ about ∧ upper ≠ about := by
  have hall : ∀ pair ∈ opposites, pair.1 ≠ about ∧ pair.2 ≠ about := by decide
  exact hall (lower, upper) h

theorem compare_real {x : Binary64} {q : ℚ} (h : x.value? = some q) (n : Int) :
    greater.compare (.real x) (.int n) = .ok (decide ((n : ℚ) < q)) ∧
      less.compare (.real x) (.int n) = .ok (decide (q < n)) ∧
      atLeast.compare (.real x) (.int n) = .ok (!decide (q < n)) ∧
      atMost.compare (.real x) (.int n) = .ok (!decide ((n : ℚ) < q)) := by
  simp only [compare, Number.lt, Number.le, Number.place?, Binary64.place?_of_value? h, Place.lt,
    and_self]

variable {x : Binary64} {q : ℚ} (hx : x.value? = some q)
include hx

/-- **An age fulfils an operator or its opposite**, and not both. -/
theorem compare_opposites {lower upper : Operator} (h : (lower, upper) ∈ opposites) (n : Int) :
    ∃ r, lower.compare (.real x) (.int n) = .ok r ∧
      upper.compare (.real x) (.int n) = .ok (!r) := by
  obtain ⟨hgreater, hless, hatLeast, hatMost⟩ := compare_real hx n
  simp only [opposites, List.mem_cons, Prod.mk.injEq, List.not_mem_nil, or_false] at h
  rcases h with ⟨rfl, rfl⟩ | ⟨rfl, rfl⟩
  · exact ⟨_, hatMost, by rw [hgreater, Bool.not_not]⟩
  · exact ⟨_, hless, hatLeast⟩

theorem compare_mono {n m : Int} (h : n ≤ m) :
    (greater.compare (.real x) (.int m) = .ok true →
        greater.compare (.real x) (.int n) = .ok true) ∧
      (less.compare (.real x) (.int n) = .ok true →
        less.compare (.real x) (.int m) = .ok true) := by
  have hle : (n : ℚ) ≤ m := by exact_mod_cast h
  obtain ⟨hgreater, hless, -, -⟩ := compare_real hx n
  obtain ⟨hgreater', hless', -, -⟩ := compare_real hx m
  rw [hgreater, hless, hgreater', hless']
  simp only [Except.ok.injEq, decide_eq_true_eq]
  exact ⟨hle.trans_lt, fun hlt => hlt.trans_le hle⟩

end Operator

/-! ## Filters by age -/

theorem Bookmark.exists_visited (b : Bookmark) (h : b.last ≠ none ∨ b.added ≠ none) :
    ∃ t, b.visited = some t := by
  unfold visited
  cases hlast : b.last with
  | some t => exact ⟨t, rfl⟩
  | none => exact Option.ne_none_iff_exists'.1 (h.resolve_left fun hne => hne hlast)

namespace Predicate

theorem elapsedHolds_opposites {lower upper : Operator} (hop : (lower, upper) ∈ Operator.opposites)
    (t : Timestamp) (n : Int) (now : Timestamp) :
    ∃ r, elapsedHolds (some t) lower n now = .ok r ∧
      elapsedHolds (some t) upper n now = .ok (!r) := by
  obtain ⟨q, hq⟩ := t.exists_value_daysUntil now
  exact Operator.compare_opposites hq hop n

theorem elapsedHolds_mono (since : Option Timestamp) {n m : Int} (h : n ≤ m) (now : Timestamp) :
    (elapsedHolds since .greater m now = .ok true → elapsedHolds since .greater n now = .ok true) ∧
      (elapsedHolds since .less n now = .ok true → elapsedHolds since .less m now = .ok true) := by
  cases since with
  | none => exact ⟨fun _ => rfl, fun _ => rfl⟩
  | some t =>
    obtain ⟨q, hq⟩ := t.exists_value_daysUntil now
    exact Operator.compare_mono hq h

variable (b : Bookmark) (now : Timestamp)

theorem clickedHolds_about_zero :
    clickedHolds b .about 0 now = .ok (decide (b.clicked = 0)) := by
  by_cases h : b.clicked = 0 <;> simp [clickedHolds, h]

theorem clickedHolds_of_ne_about {op : Operator} (h : op ≠ .about) (n : Int) :
    clickedHolds b op n now =
      if b.clicked = 0 then .ok false else elapsedHolds b.visited op n now := by
  simp [clickedHolds, h]

theorem holds_added_opposites {lower upper : Operator}
    (hop : (lower, upper) ∈ Operator.opposites) (h : b.added ≠ none) (n : Int) :
    ∃ r, (age .added (some lower) (some n)).holds b now = .ok r ∧
      (age .added (some upper) (some n)).holds b now = .ok (!r) := by
  obtain ⟨t, ht⟩ := Option.ne_none_iff_exists'.1 h
  simp only [holds, ht]
  exact elapsedHolds_opposites hop t n now

/-- Of the filter for the bookmarks that were never clicked, an operator and its opposite, exactly
one passes a bookmark. -/
theorem holds_clicked_opposites {lower upper : Operator}
    (hop : (lower, upper) ∈ Operator.opposites)
    (htimed : b.clicked ≠ 0 → b.last ≠ none ∨ b.added ≠ none) (n : Int) :
    ∃ r r', (age .clicked (some .about) (some 0)).holds b now = .ok (decide (b.clicked = 0)) ∧
      (age .clicked (some lower) (some n)).holds b now = .ok r ∧
      (age .clicked (some upper) (some n)).holds b now = .ok r' ∧
      [decide (b.clicked = 0), r, r'].count true = 1 := by
  obtain ⟨hlower, hupper⟩ := Operator.ne_about_of_opposites hop
  have hlower := clickedHolds_of_ne_about b now hlower n
  have hupper := clickedHolds_of_ne_about b now hupper n
  by_cases hclicked : b.clicked = 0
  · rw [if_pos hclicked] at hlower hupper
    exact ⟨false, false, clickedHolds_about_zero b now, hlower, hupper, by simp [hclicked]⟩
  · rw [if_neg hclicked] at hlower hupper
    obtain ⟨t, ht⟩ := b.exists_visited (htimed hclicked)
    obtain ⟨r, hr, hr'⟩ := elapsedHolds_opposites hop t n now
    rw [← ht] at hr hr'
    refine ⟨r, !r, clickedHolds_about_zero b now, hlower.trans hr, hupper.trans hr', ?_⟩
    cases r <;> simp [hclicked]

theorem holds_age_mono (event : Event) {n m : Int} (h : n ≤ m) :
    ((age event (some .greater) (some m)).holds b now = .ok true →
        (age event (some .greater) (some n)).holds b now = .ok true) ∧
      ((age event (some .less) (some n)).holds b now = .ok true →
        (age event (some .less) (some m)).holds b now = .ok true) := by
  cases event with
  | added => exact elapsedHolds_mono b.added h now
  | clicked =>
    have hgreater : Operator.greater ≠ .about := by decide
    have hless : Operator.less ≠ .about := by decide
    simp only [holds, clickedHolds_of_ne_about b now hgreater,
      clickedHolds_of_ne_about b now hless]
    split_ifs
    · exact ⟨id, id⟩
    · exact elapsedHolds_mono b.visited h now

theorem isBare_written_age (event : Event) {op : Operator} (hop : op ∈ Operator.known) (n : Nat) :
    Text.IsBare (age event (some op) (some n)).written := by
  have hkeyword : Text.IsBare (age event (some op) (some n)).keyword := by
    cases event with
    | added =>
      change Text.IsBare (Text.ofString "added" ++ [.char ':'])
      decide
    | clicked =>
      change Text.IsBare (Text.ofString "clicked" ++ [.char ':'])
      decide
  have hsymbol : ∀ op ∈ Operator.known, Text.IsBare (Text.ofString op.symbol) := by decide
  have hdigits : Text.IsBare (Text.ofChars (Decimal.digits n)) := by
    refine ⟨fun hmark => ?_, fun c hc => Text.isBlank_of_isDigit (Text.isDigit_of_mem_digits hc)⟩
    exact absurd (Text.isDigit_of_mem_digits hmark) (by decide)
  exact hkeyword.append ((hsymbol op hop).append hdigits)

end Predicate

/-! ## Cutting a collection -/

/-- The bookmark of the entry has the time at which it was added. -/
def Entry.isDated (e : Entry) : Bool :=
  e.bookmark.added.isSome

/-- **The lists that are found by filters by age cut a list of entries**, whatever the number of
days. With the bookmarks that were never clicked, an operator and its opposite divide the entries by
their last use, if those that were clicked have one. By the time at which they were added they
divide the entries that have it, and find all those that have not. -/
structure CutsByAge (found : Event → Operator → Nat → List Entry) (entries : List Entry) :
    Prop where
  clicked : (∀ e ∈ entries, e.bookmark.clicked ≠ 0 →
      e.bookmark.last ≠ none ∨ e.bookmark.added ≠ none) →
    ∀ lower upper, (lower, upper) ∈ Operator.opposites → ∀ n,
      Divides [found .clicked .about 0, found .clicked lower n, found .clicked upper n] entries
  dated : ∀ lower upper, (lower, upper) ∈ Operator.opposites → ∀ n,
    Divides
      [(found .added lower n).filter Entry.isDated, (found .added upper n).filter Entry.isDated]
      (entries.filter Entry.isDated)
  undated : ∀ op n, (found .added op n).filter (!·.isDated) = entries.filter (!·.isDated)
  greater : ∀ event n m, n ≤ m → (found event .greater m).Sublist (found event .greater n)
  less : ∀ event n m, n ≤ m → (found event .less n).Sublist (found event .less m)

theorem cutsByAge_filter (entries : List Entry) (now : Timestamp) :
    CutsByAge (fun event op n => entries.filter fun e =>
      (Predicate.age event (some op) (some n)).holds e.bookmark now = .ok true) entries where
  clicked htimed lower upper hop n := by
    refine divides_filter [_, _, _] fun e he => ?_
    obtain ⟨r, r', hnever, hlower, hupper, hcount⟩ :=
      Predicate.holds_clicked_opposites e.bookmark now hop (htimed e he) n
    simpa [List.countP_cons, List.count_cons, hnever, hlower, hupper] using hcount
  dated lower upper hop n := by
    rw [List.filter_comm Entry.isDated, List.filter_comm Entry.isDated]
    refine divides_filter [_, _] fun e he => ?_
    have hadded : e.bookmark.added ≠ none :=
      Option.isSome_iff_ne_none.1 (List.mem_filter.1 he).2
    obtain ⟨r, hlower, hupper⟩ := Predicate.holds_added_opposites e.bookmark now hop hadded n
    cases r <;> simp [hlower, hupper]
  undated op n := by
    rw [List.filter_comm]
    refine List.filter_eq_self.2 fun e he => ?_
    have hnone : e.bookmark.added = none := by
      simpa [Entry.isDated] using (List.mem_filter.1 he).2
    rw [decide_eq_true_iff, Predicate.holds, hnone]
    rfl
  greater event n m h := by
    refine List.monotone_filter_right _ fun e he => ?_
    rw [decide_eq_true_iff] at he ⊢
    exact (Predicate.holds_age_mono e.bookmark now event (by exact_mod_cast h)).1 he
  less event n m h := by
    refine List.monotone_filter_right _ fun e he => ?_
    rw [decide_eq_true_iff] at he ⊢
    exact (Predicate.holds_age_mono e.bookmark now event (by exact_mod_cast h)).2 he

namespace Filtered

/-- **Filters by age cut a collection.** Each known operator with a number of nine digits at most is
written by a word, and the lists that these words find as queries cut the collection. -/
theorem ofQuery_ages (c : Collection) (now : Timestamp) :
    ∃ found : Event → Operator → Nat → List Entry,
      (∀ event, ∀ op ∈ Operator.known, ∀ n : Nat, n ≤ 999999999 →
        ∃ r, ofQuery (Predicate.age event (some op) (some n)).written c.entries now = .ok r ∧
          r.data = found event op n) ∧
      CutsByAge found c.entries := by
  refine ⟨_, fun event op hop n hn => ?_, cutsByAge_filter c.entries now⟩
  have hwritten : (Predicate.age event (some op) (some n)).WellFormed :=
    ⟨hop, Int.natCast_nonneg n, by omega⟩
  exact exists_ofQuery_asks (Predicate.isBare_written_age event hop n)
    (.filter (Predicate.parse?_written hwritten)) c now

/-- A bookmark that was never clicked, one that was last used a day ago, and one that was clicked at
an unknown time after it was added. -/
theorem ofQuery_ages_one_day :
    let january (day : Nat) (h : Calendar.isDate 1970 1 day = true) : Timestamp :=
      ⟨⟨1970, 1, day, h⟩, .midnight, none⟩
    let used := { Bookmark.ofUrl "b.org" with clicked := 1, last := some (january 2 (by decide)) }
    let clicked := { Bookmark.ofUrl "c.org" with clicked := 2, added := some .epoch }
    let c := Collection.ofBookmarks [Bookmark.ofUrl "a.org", used, clicked]
    let now := january 3 (by decide)
    (∀ e ∈ c.entries, e.bookmark.clicked ≠ 0 →
        e.bookmark.last ≠ none ∨ e.bookmark.added ≠ none) ∧
      ∃ never recent old, ofQuery "clicked:=0" c.entries now = .ok never ∧
        ofQuery "clicked:<=1" c.entries now = .ok recent ∧
        ofQuery "clicked:>1" c.entries now = .ok old ∧
        Divides [never.data, recent.data, old.data] c.entries ∧
        never.data.map Entry.id = [0] ∧ recent.data.map Entry.id = [1] ∧
        old.data.map Entry.id = [2] := by
  intro january used clicked c now
  have htimed : ∀ e ∈ c.entries, e.bookmark.clicked ≠ 0 →
      e.bookmark.last ≠ none ∨ e.bookmark.added ≠ none := by
    decide +kernel
  obtain ⟨found, hfound, hcuts⟩ := ofQuery_ages c now
  obtain ⟨never, hnever, hneverData⟩ := hfound .clicked .about (by decide) 0 (by decide)
  obtain ⟨recent, hrecent, hrecentData⟩ := hfound .clicked .atMost (by decide) 1 (by decide)
  obtain ⟨old, hold, holdData⟩ := hfound .clicked .greater (by decide) 1 (by decide)
  have hdivides := hcuts.clicked htimed .atMost .greater (by decide) 1
  rw [← hneverData, ← hrecentData, ← holdData] at hdivides
  have hids : (ofQuery "clicked:=0" c.entries now).map (·.data.map Entry.id) = .ok [0] ∧
      (ofQuery "clicked:<=1" c.entries now).map (·.data.map Entry.id) = .ok [1] ∧
      (ofQuery "clicked:>1" c.entries now).map (·.data.map Entry.id) = .ok [2] := by
    decide +kernel
  have hnever : ofQuery "clicked:=0" c.entries now = .ok never := hnever
  have hrecent : ofQuery "clicked:<=1" c.entries now = .ok recent := hrecent
  have hold : ofQuery "clicked:>1" c.entries now = .ok old := hold
  rw [hnever, hrecent, hold] at hids
  exact ⟨htimed, never, recent, old, hnever, hrecent, hold, hdivides, Except.ok.inj hids.1,
    Except.ok.inj hids.2.1, Except.ok.inj hids.2.2⟩

end Filtered

end Bookmarks
