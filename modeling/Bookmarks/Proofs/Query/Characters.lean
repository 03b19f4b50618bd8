import Bookmarks.Proofs.Positions
import Bookmarks.Proofs.Query.Tokens
import Bookmarks.Proofs.Text.Split

/-!
# The characters of the words

The words of a query hold its characters in order, without the quotation marks and with blanks only
where quotations keep them. Which characters are in one word is seen from the query alone: those
between which there is no separator, a blank behind an even number of marks.

* `Token.separatesAt`: the separators of a query; `Token.pieces_eq` finds the pieces between them.
* `AreWordsOf`: words that account for the characters of a query.
* **`areWordsOf_tokens`**: the words of a query account for its characters.
-/

namespace Bookmarks

/-! ## Characters and separators -/

namespace Token

/-- A character that shows in a word: neither a blank nor a quotation mark. -/
def isVisible (c : CodePoint) : Bool :=
  !Text.isBlank c && !isMark c

/-- The positions of the characters that show. -/
def visiblePositions (query : Text) : List Nat :=
  (List.range query.length).filter fun i => (query[i]?).any isVisible

/-- A separator stands at a position: a blank behind an even number of quotation marks. -/
def separatesAt (query : Text) (k : Nat) : Bool :=
  (query[k]?).any Text.isBlank && (query.take k).count (.char '"') % 2 == 0

end Token

/-- **The words account for the characters of a query.** -/
structure AreWordsOf (words : List Text) (query : Text) : Prop where
  /-- Each of them has the form of a word. -/
  isWord : ∀ w ∈ words, w.IsWord
  /-- Nothing is lost, and nothing is new. -/
  visible : words.flatten.filter (!Text.isBlank ·) = query.filter Token.isVisible
  /-- Each word has the characters at some positions, and two characters are in one word if no
  separator stands between them. -/
  groups : ∃ groups : List (List Nat), groups.flatten = Token.visiblePositions query ∧
    List.Forall₂ (fun word group =>
      (word.filter (!Text.isBlank ·)).map some = group.map fun i => query[i]?) words groups ∧
    ∀ i ∈ Token.visiblePositions query, ∀ j ∈ Token.visiblePositions query, i < j →
      ((∃ group ∈ groups, i ∈ group ∧ j ∈ group) ↔
        ∀ k, i < k → k < j → Token.separatesAt query k = false)

namespace Token

theorem isVisible_iff {c : CodePoint} :
    isVisible c = true ↔ Text.isBlank c = false ∧ isMark c = false := by
  simp [isVisible]

theorem separatesAt_append (start : Text) (c : CodePoint) (rest : Text) :
    separatesAt (start ++ c :: rest) start.length =
      (Text.isBlank c && !quotingAt false start) := by
  rw [separatesAt, quotingAt_eq, List.getElem?_append_right (Nat.le_refl _), Nat.sub_self,
    List.take_left]
  rcases Nat.mod_two_eq_zero_or_one (start.count (.char '"')) with h | h <;> simp [h]

/-- The characters of a query with their positions, in pieces between the separators. -/
def places (query : Text) : List (List (CodePoint × Nat)) :=
  Text.splitBy (fun place => separatesAt query place.2) query.zipIdx

theorem piecesFrom_eq (start rest : Text) :
    piecesFrom (quotingAt false start) rest =
      (Text.splitBy (fun place => separatesAt (start ++ rest) place.2)
        (rest.zipIdx start.length)).map (List.map Prod.fst) := by
  induction rest generalizing start with
  | nil => rfl
  | cons c rest ih =>
    have hnext := ih (start ++ [c])
    have hquoting : quotingAt false (start ++ [c]) = quotingAfter (quotingAt false start) c :=
      List.foldl_concat ..
    rw [List.append_assoc, List.singleton_append, List.length_append, List.length_singleton,
      hquoting] at hnext
    rw [piecesFrom, List.zipIdx_cons, Text.splitBy, separatesAt_append]
    by_cases h : (Text.isBlank c && !quotingAt false start) = true
    · have hclosed : quotingAfter (quotingAt false start) c = false := by
        rw [Bool.and_eq_true, Bool.not_eq_true'] at h
        rw [quotingAfter, h.2, isMark_of_isBlank h.1]
        rfl
      rw [if_pos h, if_pos h, ← hclosed, hnext]
      rfl
    · rw [if_neg h, if_neg h, hnext, Text.map_consFirst]

/-- **The pieces of a query** are its parts between the separators. -/
theorem pieces_eq (query : Text) : pieces query = (places query).map (List.map Prod.fst) :=
  piecesFrom_eq [] query

/-! ## Pieces and words -/

theorem filter_clean (piece : Text) :
    (clean piece).filter (!Text.isBlank ·) = piece.filter isVisible := by
  rw [clean, Text.trim, Text.filter_trimBy, List.filter_filter]
  rfl

theorem clean_eq_nil_iff (piece : Text) : clean piece = [] ↔ piece.filter isVisible = [] := by
  rw [clean, Text.trim, Text.trimBy_eq_nil_iff, List.filter_eq_nil_iff]
  simp only [List.mem_filter, isVisible_iff, Bool.not_eq_true']
  refine forall_congr' fun c => ?_
  cases Text.isBlank c <;> cases isMark c <;> simp

/-- The positions of a piece at which a character shows. -/
def visiblePart (piece : List (CodePoint × Nat)) : List Nat :=
  (piece.filter fun place => isVisible place.1).map Prod.snd

/-- The pieces of a query in which something shows. -/
def visiblePlaces (query : Text) : List (List (CodePoint × Nat)) :=
  (places query).filter fun piece => !(clean (piece.map Prod.fst)).isEmpty

theorem tokens_eq (query : Text) :
    tokens query = (visiblePlaces query).map fun piece => clean (piece.map Prod.fst) := by
  rw [tokens, pieces_eq, List.map_map, List.filter_map]
  rfl

theorem mem_piece {query : Text} {piece : List (CodePoint × Nat)} (h : piece ∈ places query)
    {place : CodePoint × Nat} (hplace : place ∈ piece) : query[place.2]? = some place.1 :=
  List.mem_zipIdx_iff_getElem?.1 (Text.mem_of_mem_part h hplace)

theorem separatesAt_of_isVisible {query : Text} {k : Nat} {c : CodePoint}
    (hc : query[k]? = some c) (h : isVisible c = true) : separatesAt query k = false := by
  rw [separatesAt, hc, Option.any_some, (isVisible_iff.1 h).1, Bool.false_and]

theorem filter_flatten_places (query : Text) :
    (places query).flatten.filter (fun place => isVisible place.1) =
      query.zipIdx.filter fun place => isVisible place.1 := by
  rw [places, Text.flatten_splitBy, List.filter_filter]
  refine List.filter_congr fun place hplace => ?_
  cases h : isVisible place.1 with
  | false => rfl
  | true =>
    rw [separatesAt_of_isVisible (List.mem_zipIdx_iff_getElem?.1 hplace) h]
    rfl

theorem map_visiblePlaces (query : Text) : (visiblePlaces query).map visiblePart =
    ((places query).map visiblePart).filter (!·.isEmpty) := by
  rw [List.filter_map, visiblePlaces]
  refine congrArg _ (List.filter_congr fun piece _ => ?_)
  have hempty : clean (piece.map Prod.fst) = [] ↔ visiblePart piece = [] := by
    rw [clean_eq_nil_iff, List.filter_map, visiblePart, List.map_eq_nil_iff, List.map_eq_nil_iff]
    rfl
  rw [Function.comp_apply, Bool.eq_iff_iff]
  simpa using not_congr hempty

/-- One after the other, the groups of positions are all positions at which something shows. -/
theorem flatten_visiblePart (query : Text) :
    ((visiblePlaces query).map visiblePart).flatten = visiblePositions query := by
  calc ((visiblePlaces query).map visiblePart).flatten
      = ((places query).map visiblePart).flatten := by
        rw [map_visiblePlaces, List.flatten_filter_not_isEmpty]
    _ = ((places query).flatten.filter fun place => isVisible place.1).map Prod.snd := by
        rw [List.filter_flatten, List.map_flatten, List.map_map]
        rfl
    _ = (query.zipIdx.filter ((fun i => (query[i]?).any isVisible) ∘ Prod.snd)).map Prod.snd := by
        rw [filter_flatten_places]
        refine congrArg _ (List.filter_congr fun place hplace => ?_)
        rw [Function.comp_apply, List.mem_zipIdx_iff_getElem?.1 hplace, Option.any_some]
    _ = visiblePositions query := by
        rw [← List.filter_map, List.zipIdx_map_snd, ← List.range_eq_range']
        rfl

theorem filter_flatten_tokens (query : Text) :
    (tokens query).flatten.filter (!Text.isBlank ·) = query.filter isVisible := by
  calc (tokens query).flatten.filter (!Text.isBlank ·)
      = ((pieces query).map clean).flatten.filter (!Text.isBlank ·) := by
        rw [tokens, List.flatten_filter_not_isEmpty]
    _ = ((pieces query).map (List.filter isVisible)).flatten := by
        rw [List.filter_flatten, List.map_map]
        exact congrArg _ (List.map_congr_left fun piece _ => filter_clean piece)
    _ = ((places query).flatten.filter fun place => isVisible place.1).map Prod.fst := by
        rw [← List.filter_flatten, pieces_eq, ← List.map_flatten, List.filter_map]
        rfl
    _ = (query.zipIdx.map Prod.fst).filter isVisible := by
        rw [filter_flatten_places, List.filter_map]
        rfl
    _ = query.filter isVisible := by rw [List.zipIdx_map_fst]

theorem mem_visiblePositions_iff {query : Text} {i : Nat} :
    i ∈ visiblePositions query ↔ ∃ c, query[i]? = some c ∧ isVisible c = true := by
  rw [visiblePositions, List.mem_filter, List.mem_range, Option.any_eq_true]
  exact and_iff_right_of_imp fun ⟨c, hc, _⟩ => (List.getElem?_eq_some_iff.1 hc).1

theorem mem_visiblePart_iff {query : Text} {piece : List (CodePoint × Nat)}
    (hpiece : piece ∈ places query) {i : Nat} {c : CodePoint} (hc : query[i]? = some c)
    (hvisible : isVisible c = true) : i ∈ visiblePart piece ↔ (c, i) ∈ piece := by
  rw [visiblePart, List.mem_map]
  constructor
  · rintro ⟨⟨d, j⟩, hplace, rfl⟩
    have hmem := List.mem_of_mem_filter hplace
    obtain rfl := Option.some.inj ((mem_piece hpiece hmem).symm.trans hc)
    exact hmem
  · intro hmem
    exact ⟨(c, i), List.mem_filter.2 ⟨hmem, hvisible⟩, rfl⟩

/-- **Two characters are in one group** if no separator stands between them. -/
theorem exists_group_iff {query : Text} {i j : Nat} (hi : i ∈ visiblePositions query)
    (hj : j ∈ visiblePositions query) (hij : i < j) :
    (∃ group ∈ (visiblePlaces query).map visiblePart, i ∈ group ∧ j ∈ group) ↔
      ∀ k, i < k → k < j → separatesAt query k = false := by
  obtain ⟨c, hc, hcv⟩ := mem_visiblePositions_iff.1 hi
  obtain ⟨d, hd, hdv⟩ := mem_visiblePositions_iff.1 hj
  have hparts : (∃ group ∈ (visiblePlaces query).map visiblePart, i ∈ group ∧ j ∈ group) ↔
      ∃ piece ∈ places query, (c, i) ∈ piece ∧ (d, j) ∈ piece := by
    rw [map_visiblePlaces]
    constructor
    · rintro ⟨group, hgroup, hi, hj⟩
      obtain ⟨piece, hpiece, rfl⟩ := List.mem_map.1 (List.mem_of_mem_filter hgroup)
      exact ⟨piece, hpiece, (mem_visiblePart_iff hpiece hc hcv).1 hi,
        (mem_visiblePart_iff hpiece hd hdv).1 hj⟩
    · rintro ⟨piece, hpiece, hi, hj⟩
      have hi := (mem_visiblePart_iff hpiece hc hcv).2 hi
      refine ⟨_, List.mem_filter.2 ⟨List.mem_map_of_mem hpiece, ?_⟩, hi,
        (mem_visiblePart_iff hpiece hd hdv).2 hj⟩
      simp [List.ne_nil_of_mem hi]
  have hmem : ∀ {k : Nat} {e : CodePoint}, query[k]? = some e → (e, k) ∈ query.zipIdx :=
    List.mk_mem_zipIdx_iff_getElem?.2
  rw [hparts, places, Text.exists_part_iff (pairwise_zipIdx query) (hmem hc) (hmem hd)
    (separatesAt_of_isVisible hc hcv) (separatesAt_of_isVisible hd hdv) hij]
  constructor
  · intro hfree k hik hkj
    have hk : k < query.length := hkj.trans (List.getElem?_eq_some_iff.1 hd).1
    exact hfree (query[k], k) (hmem (List.getElem?_eq_getElem hk)) hik hkj
  · intro hfree place _ hik hkj
    exact hfree place.2 hik hkj

end Token

open Token

/-- **The words of a query account for its characters.** Nothing is lost and nothing is new, and two
characters are in one word if no separator stands between them. -/
theorem areWordsOf_tokens (query : Text) : AreWordsOf (tokens query) query where
  isWord _ hw := isWord_of_mem_tokens hw
  visible := filter_flatten_tokens query
  groups := by
    refine ⟨(visiblePlaces query).map visiblePart, flatten_visiblePart query, ?_,
      fun i hi j hj hij => exists_group_iff hi hj hij⟩
    rw [tokens_eq, List.forall₂_map_left_iff, List.forall₂_map_right_iff, List.forall₂_same]
    intro piece hpiece
    rw [filter_clean, visiblePart, List.filter_map]
    exact map_some_of_places fun place hplace =>
      mem_piece (List.mem_of_mem_filter hpiece) (List.mem_of_mem_filter hplace)

end Bookmarks
