import Bookmarks.Proofs.Query.Render
import Bookmarks.Proofs.Text.LetterCase

/-!
# Queries in another letter case

The parts of a query are found at its blanks, marks, signs, keywords and digits. None of these
depends on the case of ASCII letters, so a query with small letters has the parts of the query, with
small letters.

* `Predicate.small`, `Spec.small`: filters and queries with small ASCII letters.
* `tokens_small`: the words of a query.
* **`Predicate.parse?_small`**: the filter that a word writes.
* **`Spec.parse_small`**: the query that a text writes.
-/

namespace Bookmarks

/-- The filter with small ASCII letters. -/
def Predicate.small : Predicate → Predicate
  | label l value => label l (Text.small value)
  | tag value => tag (Text.small value)
  | p => p

/-- The query with small ASCII letters. -/
def Spec.small (spec : Spec) : Spec where
  required := spec.required.map Text.small
  optional := spec.optional.map Text.small
  excluded := spec.excluded.map Text.small
  filters := spec.filters.map Predicate.small
  negated := spec.negated.map Predicate.small

/-! ## Words -/

namespace Token

theorem isMark_lowerAscii (c : CodePoint) : isMark (Text.lowerAscii c) = isMark c :=
  Text.apply_lowerAscii isMark (by decide +kernel) c

theorem piecesFrom_small (quoting : Bool) (s : Text) :
    piecesFrom quoting s.small = (piecesFrom quoting s).map Text.small := by
  induction s generalizing quoting with
  | nil => rfl
  | cons c s ih =>
    rw [Text.small_cons, piecesFrom, piecesFrom, Text.isBlank_lowerAscii, quotingAfter,
      isMark_lowerAscii, ih, ih, quotingAfter]
    split
    · rfl
    · cases piecesFrom (quoting != isMark c) s <;> rfl

theorem clean_small (piece : Text) : clean piece.small = (clean piece).small := by
  have hmark : (fun c => !isMark c) ∘ Text.lowerAscii = fun c => !isMark c := by
    funext c
    rw [Function.comp_apply, isMark_lowerAscii]
  have hblank : Text.isBlank ∘ Text.lowerAscii = Text.isBlank := funext Text.isBlank_lowerAscii
  unfold clean Text.small Text.trim
  rw [List.filter_map, hmark, Text.trimBy_map, hblank]

end Token

theorem tokens_small (query : Text) : tokens query.small = (tokens query).map Text.small := by
  have hclean : Token.clean ∘ Text.small = Text.small ∘ Token.clean := funext Token.clean_small
  have hempty : (fun t : Text => !t.isEmpty) ∘ Text.small = fun t => !t.isEmpty := by
    funext t
    rw [Function.comp_apply, Text.isEmpty_small]
  unfold tokens Token.pieces
  rw [Token.piecesFrom_small, List.map_map, hclean, ← List.map_map, List.filter_map, hempty]

/-! ## Filters -/

namespace Predicate

theorem operator?_cons (c : CodePoint) (s : Text) : operator? (c :: s) =
    if c = .char '>' then
      if s.head? = some (.char '=') then some (.atLeast, s.tail) else some (.greater, s)
    else if c = .char '<' then
      if s.head? = some (.char '=') then some (.atMost, s.tail) else some (.less, s)
    else if c = .char '=' then some (.about, s) else none := by
  by_cases hgreater : c = .char '>'
  · subst hgreater
    rcases s with _ | ⟨d, t⟩
    · rfl
    · by_cases hd : d = .char '=' <;> simp [operator?, hd]
  · by_cases hless : c = .char '<'
    · subst hless
      rcases s with _ | ⟨d, t⟩
      · rfl
      · by_cases hd : d = .char '=' <;> simp [operator?, hd]
    · by_cases habout : c = .char '=' <;> simp [operator?, hgreater, hless, habout]

theorem operator?_small (s : Text) :
    operator? s.small = (operator? s).map fun (op, rest) => (op, Text.small rest) := by
  rcases s with _ | ⟨c, s⟩
  · rfl
  have hhead : (Text.small s).head? = some (.char '=') ↔ s.head? = some (.char '=') := by
    cases s with
    | nil => rfl
    | cons d t =>
      rw [Text.small_cons, List.head?_cons, List.head?_cons, Option.some_inj, Option.some_inj,
        Text.lowerAscii_eq_iff (by decide)]
  have htail : (Text.small s).tail = Text.small s.tail := List.map_tail.symm
  rw [Text.small_cons, operator?_cons, operator?_cons]
  simp only [Text.lowerAscii_eq_iff (k := '>') (by decide),
    Text.lowerAscii_eq_iff (k := '<') (by decide),
    Text.lowerAscii_eq_iff (k := '=') (by decide), hhead, htail]
  split_ifs <;> rfl

theorem isUnit_small (s : Text) : isUnit s.small = isUnit s := by
  match s with
  | [] => rfl
  | [c] => exact Text.standsFor_lowerAscii 'd' c
  | _ :: _ :: _ => rfl

theorem days?_small (s : Text) : days? s.small = days? s := by
  have hdigit : Text.isDigit ∘ Text.lowerAscii = Text.isDigit := funext Text.isDigit_lowerAscii
  have hvalue : ∀ digits : Text, Text.digitsValue (digits.map Text.lowerAscii) =
      Text.digitsValue digits := fun digits => by
    rw [Text.digitsValue, List.foldl_map]
    simp only [Text.digitValue?_lowerAscii]
    rfl
  have hunit : ∀ t : Text, isUnit (t.map Text.lowerAscii) = isUnit t := isUnit_small
  unfold days? Text.small
  dsimp only
  rw [List.takeWhile_map, List.dropWhile_map, hdigit, hvalue, hunit, List.length_map]

theorem age?_small (event : Event) (s : Text) :
    age? event s.small = (age? event s).map Predicate.small := by
  unfold age?
  rw [operator?_small]
  cases operator? s with
  | none => rfl
  | some found =>
    change (days? found.2.small).bind _ = ((days? found.2).bind _).map Predicate.small
    rw [days?_small]
    cases days? found.2 <;> rfl

theorem value?_small {make : Text → Predicate} (h : ∀ s, make s.small = (make s).small) (s : Text) :
    value? make s.small = (value? make s).map Predicate.small := by
  rw [value?, value?, Text.isEmpty_small, h]
  split <;> rfl

theorem afterKeyword?_small (keyword : List Char) (s : Text) :
    Text.afterKeyword? keyword s.small = (Text.afterKeyword? keyword s).map Text.small := by
  induction keyword generalizing s with
  | nil => rfl
  | cons k keyword ih =>
    cases s with
    | nil => rfl
    | cons c s =>
      rw [Text.small_cons, Text.afterKeyword?, Text.afterKeyword?, Text.standsFor_lowerAscii, ih]
      split <;> rfl

theorem findSome?_congr {α β : Type} {f g : α → Option β} {xs : List α}
    (h : ∀ x ∈ xs, f x = g x) : xs.findSome? f = xs.findSome? g := by
  induction xs with
  | nil => rfl
  | cons x xs ih =>
    rw [List.findSome?_cons, List.findSome?_cons, h x List.mem_cons_self,
      ih fun y hy => h y (List.mem_cons_of_mem x hy)]

/-- What is read after a keyword. -/
theorem form_small {form : String × (Text → Option Predicate)} (hform : form ∈ forms) (s : Text) :
    form.2 s.small = (form.2 s).map Predicate.small := by
  unfold forms at hform
  simp only [List.mem_cons, List.not_mem_nil, or_false] at hform
  rcases hform with rfl | rfl | rfl | rfl | rfl | rfl | rfl
  · exact age?_small .added s
  · exact age?_small .clicked s
  all_goals exact value?_small (fun _ => rfl) s

/-- **The filter that a word writes** has small letters where the word has. -/
theorem parse?_small (token : Text) :
    parse? token.small = (parse? token).map Predicate.small := by
  unfold parse?
  rw [List.map_findSome?]
  refine findSome?_congr fun form hform => ?_
  simp only [Function.comp_apply]
  rw [afterKeyword?_small]
  cases Text.afterKeyword? form.1.toList token with
  | none => rfl
  | some rest => exact form_small hform rest

end Predicate

/-! ## Queries -/

namespace Spec

theorem small_append (a b : Spec) : (a ++ b).small = a.small ++ b.small := by
  ext1 <;> exact List.map_append

theorem ofRequired_small (s : Text) : ofRequired s.small = (ofRequired s).small := by
  rw [ofRequired, ofRequired, Text.isEmpty_small]
  split <;> rfl

theorem ofOptional_small (s : Text) : ofOptional s.small = (ofOptional s).small := by
  rw [ofOptional, ofOptional, Text.isEmpty_small]
  split <;> rfl

theorem ofExcluded_small (s : Text) : ofExcluded s.small = (ofExcluded s).small := by
  rw [ofExcluded, ofExcluded, Text.isEmpty_small, Predicate.parse?_small]
  split
  · rfl
  · cases Predicate.parse? s <;> rfl

theorem ofToken_small (token : Text) : ofToken token.small = (ofToken token).small := by
  rcases token with _ | ⟨c, s⟩
  · rfl
  rw [Text.small_cons, ofToken_cons, ofToken_cons, ← Text.small_cons, Predicate.parse?_small,
    ofExcluded_small, ofRequired_small, ofOptional_small, ofOptional_small]
  simp only [Text.lowerAscii_eq_iff (k := '-') (by decide),
    Text.lowerAscii_eq_iff (k := '+') (by decide),
    Text.lowerAscii_eq_iff (k := '|') (by decide)]
  cases Predicate.parse? (c :: s) with
  | none =>
    split_ifs <;> rfl
  | some p => split_ifs <;> rfl

/-- **The query that a text writes** has small letters where the text has. -/
theorem parse_small (query : Text) : parse query.small = (parse query).small := by
  rw [parse_eq_ofTokens, parse_eq_ofTokens, tokens_small]
  induction tokens query with
  | nil => rfl
  | cons t ts ih =>
    change ofToken t.small ++ ofTokens (ts.map Text.small) = (ofToken t ++ ofTokens ts).small
    rw [ofToken_small, ih, small_append]

end Spec

end Bookmarks
