import Bookmarks.Proofs.Filter.Total

/-!
# The order of the words in a query

Queries that hold the same words in different orders ask for the same. Each of the five parts of one
is a permutation of that part of the other, and neither what passes nor the points depend on the
order inside a part, although the search through the filters ends early. So the results are equal.

* `Spec.SameParts`: queries with the same parts in different orders.
* `Spec.sameParts_parse`: what the same words ask for in different orders.
* `Spec.SameParts.passes_iff`, `Spec.SameParts.points_eq`: what such queries mean.
* **`Filtered.ofQuery_wordOrder`**: the results of such queries.
-/

namespace Bookmarks

namespace Spec

/-- The queries have the same five parts, each of them in any order. -/
structure SameParts (a b : Spec) : Prop where
  required : a.required.Perm b.required
  optional : a.optional.Perm b.optional
  excluded : a.excluded.Perm b.excluded
  filters : a.filters.Perm b.filters
  negated : a.negated.Perm b.negated

namespace SameParts

theorem refl (a : Spec) : a.SameParts a :=
  ⟨.refl _, .refl _, .refl _, .refl _, .refl _⟩

variable {a b c d : Spec}

theorem trans (h : a.SameParts b) (h' : b.SameParts c) : a.SameParts c :=
  ⟨h.required.trans h'.required, h.optional.trans h'.optional, h.excluded.trans h'.excluded,
    h.filters.trans h'.filters, h.negated.trans h'.negated⟩

theorem append (h : a.SameParts b) (h' : c.SameParts d) : (a ++ c).SameParts (b ++ d) :=
  ⟨h.required.append h'.required, h.optional.append h'.optional, h.excluded.append h'.excluded,
    h.filters.append h'.filters, h.negated.append h'.negated⟩

theorem append_comm (a b : Spec) : (a ++ b).SameParts (b ++ a) :=
  ⟨List.perm_append_comm, List.perm_append_comm, List.perm_append_comm, List.perm_append_comm,
    List.perm_append_comm⟩

end SameParts

theorem sameParts_ofTokens {xs ys : List Text} (h : xs.Perm ys) :
    (ofTokens xs).SameParts (ofTokens ys) := by
  induction h with
  | nil => exact .refl _
  | cons x _ ih => exact SameParts.append (.refl (ofToken x)) ih
  | swap x y zs =>
    change (ofToken y ++ (ofToken x ++ ofTokens zs)).SameParts
      (ofToken x ++ (ofToken y ++ ofTokens zs))
    rw [← append_assoc, ← append_assoc]
    exact SameParts.append (.append_comm _ _) (.refl _)
  | trans _ _ ih ih' => exact ih.trans ih'

theorem sameParts_parse {q q' : Text} (h : (tokens q).Perm (tokens q')) :
    (parse q).SameParts (parse q') := by
  rw [parse_eq_ofTokens, parse_eq_ofTokens]
  exact sameParts_ofTokens h

/-! ## What the order does not change -/

namespace SameParts

variable {a b : Spec} (h : a.SameParts b)
include h

theorem hasTerms_eq : a.hasTerms = b.hasTerms := by
  rw [hasTerms, h.required.isEmpty_eq, h.optional.isEmpty_eq, h.excluded.isEmpty_eq, hasTerms]

theorem filtersPass_iff (now : Timestamp) (e : Bookmark) :
    a.FiltersPass now e ↔ b.FiltersPass now e := by
  simp only [FiltersPass, h.filters.mem_iff, h.negated.mem_iff]

theorem wordsPass_iff (e : Bookmark) : a.WordsPass e ↔ b.WordsPass e := by
  simp only [WordsPass, ne_eq, ← List.isEmpty_iff, h.required.isEmpty_eq, h.optional.isEmpty_eq,
    h.required.mem_iff, h.optional.mem_iff, h.excluded.mem_iff]

theorem passes_iff (now : Timestamp) (e : Bookmark) : a.Passes now e ↔ b.Passes now e :=
  and_congr (h.filtersPass_iff now e) (h.wordsPass_iff e)

theorem points_eq (e : Bookmark) : a.points e = b.points e := by
  rw [points, h.required.length_eq, h.optional.countP_eq, points]

theorem survivors_eq (c : Collection) (now : Timestamp) : c.survivors a now = c.survivors b now :=
  List.filter_congr fun e _ => decide_eq_decide.2 (h.passes_iff now e.bookmark)

end SameParts

end Spec

namespace Filtered

/-- **The order of the words in a query does not change its result**: the same entries in the same
order, and the same score for each bookmark. What is read from the two queries differs in the order
inside the five parts only. -/
theorem ofQuery_wordOrder {q q' : Text} (h : (tokens q).Perm (tokens q')) (c : Collection)
    (now : Timestamp) :
    ∃ r r', ofQuery q c.entries now = .ok r ∧ ofQuery q' c.entries now = .ok r' ∧
      r.data = r'.data ∧ (∀ b : Bookmark, r.scores.of? b = r'.scores.of? b) ∧
      r.spec.SameParts r'.spec := by
  obtain ⟨r, hr, hranks⟩ := exists_ranks q c now
  obtain ⟨r', hr', hranks'⟩ := exists_ranks q' c now
  have hparts := Spec.sameParts_parse h
  have hdata : r.data = r'.data := by
    have hranking := hranks.data.congr fun e _ => congrArg Int.ofNat (hparts.points_eq e.bookmark)
    rw [hparts.survivors_eq] at hranking
    exact hranking.unique hranks'.data
  refine ⟨r, r', hr, hr', hdata, fun b => ?_, ?_⟩
  · exact hranks.get?_scores_congr hranks' hparts.hasTerms_eq hparts.points_eq
      (fun e => by rw [hdata]) b.key
  · rw [spec_of_ofQuery hr, spec_of_ofQuery hr']
    exact hparts

/-- One query begins with a required word and the other one with a quotation, and both negate a
filter. -/
theorem ofQuery_wordOrder_quotation :
    let q : Text := "+a -tag:x \"b c\" d"
    let q' : Text := "\"b c\" d +a -tag:x"
    let c := Collection.ofBookmarks [Bookmark.ofUrl "a.org", Bookmark.ofUrl "a.org/b c"]
    (tokens q).Perm (tokens q') ∧
      ∃ r r', ofQuery q c.entries .epoch = .ok r ∧ ofQuery q' c.entries .epoch = .ok r' ∧
        r.data = r'.data ∧ (∀ b : Bookmark, r.scores.of? b = r'.scores.of? b) ∧
        r.spec.SameParts r'.spec ∧ r.data.map Entry.id = [1, 0] := by
  intro q q' c
  have htokens : (tokens q).Perm (tokens q') := by decide +kernel
  obtain ⟨r, r', hr, hr', hdata, hscores, hspec⟩ := ofQuery_wordOrder htokens c .epoch
  have hids : (ofQuery q c.entries .epoch).map (·.data.map Entry.id) = .ok [1, 0] := by
    decide +kernel
  rw [hr] at hids
  exact ⟨htokens, r, r', hr, hr', hdata, hscores, hspec, Except.ok.inj hids⟩

end Filtered

end Bookmarks
