import Bookmarks.Proofs.Filter.Bounded

/-!
# What a query means

A query says which bookmarks pass it and how many points they get, without any order in which its
parts are looked at.

* `Bookmark.Matches`: a word occurs in the texts of a bookmark.
* `Spec.Passes`, `Spec.points`: the bookmarks that pass a query, and their points.
* `Spec.allHold_eq`, `Spec.noneHolds_eq`: the searches through the filters that end early.
* `Spec.noneOccurs_eq`, `Spec.scoreRequired_eq`, `Spec.scoreOptional_eq`: those through the words.
* **`Spec.evaluate_eq`**: evaluating a query finds out whether a bookmark passes, and its points.
-/

namespace Bookmarks

/-- The word occurs in the texts of the bookmark, whatever the letter case. -/
def Bookmark.Matches (b : Bookmark) (term : Text) : Prop :=
  Text.lower term <:+: b.searchText

namespace Spec

theorem matchesTerm_iff {b : Bookmark} {term : Text} :
    matchesTerm b.searchText term = true ↔ b.Matches term :=
  Text.occursIn_iff

instance (b : Bookmark) : DecidablePred b.Matches :=
  fun _ => decidable_of_iff _ matchesTerm_iff

theorem matchesTerm_eq (b : Bookmark) :
    matchesTerm b.searchText = fun term => decide (b.Matches term) := by
  funext term
  rw [Bool.eq_iff_iff, matchesTerm_iff, decide_eq_true_iff]

/-- The filters let a bookmark pass: all filters and no negated filter hold. -/
def FiltersPass (spec : Spec) (now : Timestamp) (b : Bookmark) : Prop :=
  (∀ p ∈ spec.filters, p.holds b now = .ok true) ∧ ∀ p ∈ spec.negated, p.holds b now = .ok false

/-- The words let a bookmark pass: no excluded word and all required words occur, and where no word
is required, one of the optional words occurs. -/
def WordsPass (spec : Spec) (b : Bookmark) : Prop :=
  (∀ t ∈ spec.excluded, ¬ b.Matches t) ∧ (∀ t ∈ spec.required, b.Matches t) ∧
    (spec.optional ≠ [] → spec.required = [] → ∃ t ∈ spec.optional, b.Matches t)

/-- **The bookmarks that pass a query.** -/
def Passes (spec : Spec) (now : Timestamp) (b : Bookmark) : Prop :=
  spec.FiltersPass now b ∧ spec.WordsPass b

instance (spec : Spec) (now : Timestamp) : DecidablePred (spec.FiltersPass now) :=
  fun _ => by unfold FiltersPass; infer_instance

instance (spec : Spec) : DecidablePred spec.WordsPass :=
  fun _ => by unfold WordsPass; infer_instance

instance (spec : Spec) (now : Timestamp) : DecidablePred (spec.Passes now) :=
  fun _ => by unfold Passes; infer_instance

/-- The points of a bookmark: two for each required word, and one for each optional word that
occurs. -/
def points (spec : Spec) (b : Bookmark) : Nat :=
  2 * spec.required.length + spec.optional.countP fun t => b.Matches t

variable {spec : Spec} {now : Timestamp} {b : Bookmark}

/-! ## The filters -/

theorem allHold_eq {ps : List Predicate} (h : ∀ p ∈ ps, p.Bounded) :
    allHold b now ps = .ok (decide (∀ p ∈ ps, p.holds b now = .ok true)) := by
  induction ps with
  | nil => rfl
  | cons p ps ih =>
    obtain ⟨r, hr⟩ := Predicate.exists_holds (h p List.mem_cons_self) b now
    rw [allHold, hr, ih fun q hq => h q (List.mem_cons_of_mem p hq)]
    cases r <;> simp [hr, bind, Except.bind, pure, Except.pure]

theorem noneHolds_eq {ps : List Predicate} (h : ∀ p ∈ ps, p.Bounded) :
    noneHolds b now ps = .ok (decide (∀ p ∈ ps, p.holds b now = .ok false)) := by
  induction ps with
  | nil => rfl
  | cons p ps ih =>
    obtain ⟨r, hr⟩ := Predicate.exists_holds (h p List.mem_cons_self) b now
    rw [noneHolds, hr, ih fun q hq => h q (List.mem_cons_of_mem p hq)]
    cases r <;> simp [hr, bind, Except.bind, pure, Except.pure]

theorem admits_eq (h : spec.Bounded) :
    spec.admits b now = .ok (decide (spec.FiltersPass now b)) := by
  rw [admits, allHold_eq fun p hp => h p (List.mem_append_left _ hp),
    noneHolds_eq fun p hp => h p (List.mem_append_right _ hp)]
  by_cases hf : ∀ p ∈ spec.filters, p.holds b now = .ok true
  · rw [decide_eq_true hf]
    refine congrArg Except.ok (decide_eq_decide.2 ?_)
    exact ⟨fun hn => ⟨hf, hn⟩, And.right⟩
  · rw [decide_eq_false hf]
    exact congrArg Except.ok (decide_eq_false fun h => hf h.1).symm

/-! ## The words -/

theorem noneOccurs_eq (text : Text) (terms : List Text) :
    noneOccurs text terms = !terms.any (matchesTerm text) := by
  induction terms with
  | nil => rfl
  | cons term terms ih =>
    rw [noneOccurs, ih, List.any_cons]
    cases matchesTerm text term <;> rfl

theorem scoreRequired_eq (text : Text) (score : Nat) (terms : List Text) :
    scoreRequired text score terms =
      if terms.all (matchesTerm text) then some (score + requiredWeight * terms.length)
      else none := by
  induction terms generalizing score with
  | nil => rfl
  | cons term terms ih =>
    rw [scoreRequired, ih, List.all_cons, List.length_cons, Nat.mul_add_one, Nat.add_right_comm,
      ← Nat.add_assoc]
    cases matchesTerm text term <;> rfl

theorem scoreOptional_eq (text : Text) (score : Nat) (found : Bool) (terms : List Text) :
    scoreOptional text score found terms =
      (score + optionalWeight * terms.countP (matchesTerm text),
        found || terms.any (matchesTerm text)) := by
  induction terms generalizing score found with
  | nil => exact congrArg (Prod.mk score) found.or_false.symm
  | cons term terms ih =>
    rw [scoreOptional, ih, ih, List.countP_cons, List.any_cons]
    cases matchesTerm text term
    · rfl
    · refine Prod.ext ?_ found.or_true.symm
      simp only [if_true, Nat.mul_add_one]
      omega

/-- **The score of a search text in closed form.** -/
theorem scoreText_eq_ite (spec : Spec) (text : Text) : spec.scoreText text =
    if spec.excluded.any (matchesTerm text) then none
    else if !spec.required.all (matchesTerm text) then none
    else if !spec.optional.isEmpty && spec.required.isEmpty &&
        !spec.optional.any (matchesTerm text) then none
    else some (requiredWeight * spec.required.length +
      optionalWeight * spec.optional.countP (matchesTerm text)) := by
  rw [scoreText, noneOccurs_eq, scoreRequired_eq, Bool.not_not]
  cases spec.excluded.any (matchesTerm text) with
  | true => rfl
  | false =>
    cases spec.required.all (matchesTerm text) with
    | false => rfl
    | true =>
      simp only [if_true, Nat.zero_add, scoreOptional_eq, Bool.false_or, Bool.not_true,
        Bool.false_eq_true, if_false]

theorem scoreText_eq : spec.scoreText b.searchText =
    if spec.WordsPass b then some (spec.points b) else none := by
  have hany : spec.excluded.any (matchesTerm b.searchText) = true ↔
      ¬ ∀ t ∈ spec.excluded, ¬ b.Matches t := by
    simp [matchesTerm_iff]
  have hall : (!spec.required.all (matchesTerm b.searchText)) = true ↔
      ¬ ∀ t ∈ spec.required, b.Matches t := by
    simp [← matchesTerm_iff]
  have hgate : (!spec.optional.isEmpty && spec.required.isEmpty &&
      !spec.optional.any (matchesTerm b.searchText)) = true ↔
      ¬ (spec.optional ≠ [] → spec.required = [] → ∃ t ∈ spec.optional, b.Matches t) := by
    simp [← matchesTerm_iff, and_assoc]
  rw [scoreText_eq_ite]
  simp only [hany, hall, hgate]
  by_cases h₁ : ∀ t ∈ spec.excluded, ¬ b.Matches t
  · by_cases h₂ : ∀ t ∈ spec.required, b.Matches t
    · by_cases h₃ : spec.optional ≠ [] → spec.required = [] → ∃ t ∈ spec.optional, b.Matches t
      · rw [if_neg (not_not.2 h₁), if_neg (not_not.2 h₂), if_neg (not_not.2 h₃),
          if_pos ⟨h₁, h₂, h₃⟩, points, requiredWeight, optionalWeight, one_mul, matchesTerm_eq]
      · rw [if_neg (not_not.2 h₁), if_neg (not_not.2 h₂), if_pos h₃, if_neg fun h => h₃ h.2.2]
    · rw [if_neg (not_not.2 h₁), if_pos h₂, if_neg fun h => h₂ h.2.1]
  · rw [if_pos h₁, if_neg fun h => h₁ h.1]

theorem wordsPass_of_hasTerms_eq_false (h : spec.hasTerms = false) (b : Bookmark) :
    spec.WordsPass b ∧ spec.points b = 0 := by
  have hnil : spec.required = [] ∧ spec.optional = [] ∧ spec.excluded = [] := by
    simpa [hasTerms, and_assoc] using h
  simp [WordsPass, points, hnil]

/-- **Evaluating a query finds out whether a bookmark passes, and its points.** -/
theorem evaluate_eq (h : spec.Bounded) (b : Bookmark) (now : Timestamp) :
    spec.evaluate b now = .ok (if spec.Passes now b then some (spec.points b) else none) := by
  rw [evaluate, admits_eq h, scoreText_eq]
  by_cases hf : spec.FiltersPass now b
  · cases hterms : spec.hasTerms with
    | true => simp [Passes, hf, bind, Except.bind, pure, Except.pure]
    | false =>
      have hw := wordsPass_of_hasTerms_eq_false hterms b
      simp [Passes, hf, hw, bind, Except.bind, pure, Except.pure]
  · simp [Passes, hf, bind, Except.bind, pure, Except.pure]

end Spec

end Bookmarks
