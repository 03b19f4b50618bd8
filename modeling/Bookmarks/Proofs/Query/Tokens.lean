import Bookmarks.Filter.SearchText
import Bookmarks.Proofs.Text.Trim
import Bookmarks.Query.Token
import Mathlib.Data.List.Basic

/-!
# The words of a query

A query falls apart at each blank outside quotations (`tokens_append_blank`), and each of its words
has the form of a word (**`isWord_of_mem_tokens`**). Words between quotation marks, with spaces
between them, are read back as they are (**`tokens_spaced_quoted`**).

* `Text.IsTerm`, `Text.IsWord`: the texts that can stand in a query, behind a sign or alone.
* `Token.quotingAt`: whether a quotation is open at the end of a text.
-/

namespace Bookmarks

/-- A text that can stand behind a sign: it is not empty, holds no quotation mark, and does not end
in a blank. -/
structure Text.IsTerm (s : Text) : Prop where
  ne_nil : s ≠ []
  unmarked : .char '"' ∉ s
  last : ∀ c ∈ s.getLast?, Text.isBlank c = false

instance (s : Text) : Decidable s.IsTerm :=
  decidable_of_iff
    (s ≠ [] ∧ .char '"' ∉ s ∧ ∀ c ∈ s.getLast?, Text.isBlank c = false)
    ⟨fun ⟨hne, hmark, hlast⟩ => ⟨hne, hmark, hlast⟩,
      fun h => ⟨h.ne_nil, h.unmarked, h.last⟩⟩

/-- A text that can stand alone: it does not begin with a blank either. -/
structure Text.IsWord (s : Text) : Prop extends Text.IsTerm s where
  head : ∀ c ∈ s.head?, Text.isBlank c = false

namespace Text.IsTerm

variable {s : Text}

theorem of_suffix (h : s.IsTerm) {r : Text} (hr : r <:+ s) (hne : r ≠ []) : r.IsTerm where
  ne_nil := hne
  unmarked hmem := h.unmarked (hr.subset hmem)
  last c hc := by
    obtain ⟨start, rfl⟩ := hr
    exact h.last c (by rwa [List.getLast?_append_of_ne_nil start hne])

theorem append (h : s.IsTerm) {start : Text} (hstart : .char '"' ∉ start) :
    (start ++ s).IsTerm where
  ne_nil := List.append_ne_nil_of_right_ne_nil start h.ne_nil
  unmarked hmem := (List.mem_append.1 hmem).elim hstart h.unmarked
  last c hc := h.last c (by rwa [List.getLast?_append_of_ne_nil start h.ne_nil] at hc)

theorem cons {sign : CodePoint} (h : s.IsTerm) (hmark : sign ≠ .char '"')
    (hblank : Text.isBlank sign = false) : IsWord (sign :: s) where
  toIsTerm := by
    have hsign : .char '"' ∉ [sign] := by simpa using hmark.symm
    exact h.append hsign
  head c hc := by
    rw [List.head?_cons, Option.mem_some_iff] at hc
    exact hc ▸ hblank

end Text.IsTerm

namespace Token

theorem isMark_iff {c : CodePoint} : isMark c = true ↔ c = .char '"' :=
  beq_iff_eq

theorem isMark_of_isBlank {c : CodePoint} (h : Text.isBlank c = true) : isMark c = false := by
  by_contra hc
  rw [Bool.not_eq_false, isMark_iff] at hc
  rw [hc] at h
  exact absurd h (by decide)

/-- Whether a quotation is open after a text, given that for the place before it. -/
def quotingAt (quoting : Bool) (s : Text) : Bool :=
  s.foldl quotingAfter quoting

/-- Each mark opens or closes a quotation. -/
theorem quotingAt_eq (quoting : Bool) (s : Text) :
    quotingAt quoting s = (quoting != decide (s.count (.char '"') % 2 = 1)) := by
  induction s generalizing quoting with
  | nil => exact (Bool.xor_false quoting).symm
  | cons c s ih =>
    change quotingAt (quotingAfter quoting c) s = _
    rw [ih, quotingAfter, List.count_cons, isMark]
    have hparity : (s.count (.char '"') + 1) % 2 = 1 ↔ ¬ s.count (.char '"') % 2 = 1 := by omega
    cases c == .char '"' with
    | false => simp
    | true =>
      simp only [if_true, hparity, decide_not]
      cases quoting <;> simp

/-! ## Falling apart -/

theorem piecesFrom_ne_nil (quoting : Bool) (s : Text) : piecesFrom quoting s ≠ [] := by
  cases s with
  | nil => exact List.cons_ne_nil _ _
  | cons c rest =>
    unfold piecesFrom
    split
    · exact List.cons_ne_nil _ _
    · cases piecesFrom (quotingAfter quoting c) rest <;> exact List.cons_ne_nil _ _

theorem consFirst_append {c : CodePoint} {xs : List Text} (h : xs ≠ []) (ys : List Text) :
    Text.consFirst c (xs ++ ys) = Text.consFirst c xs ++ ys := by
  cases xs with
  | nil => exact absurd rfl h
  | cons x xs => rfl

theorem piecesFrom_append_blank {quoting : Bool} {a : Text} (h : quotingAt quoting a = false)
    {blank : CodePoint} (hblank : Text.isBlank blank = true) (b : Text) :
    piecesFrom quoting (a ++ blank :: b) = piecesFrom quoting a ++ piecesFrom false b := by
  induction a generalizing quoting with
  | nil =>
    obtain rfl : quoting = false := h
    simp [piecesFrom, hblank]
  | cons c a ih =>
    rw [List.cons_append, piecesFrom, piecesFrom]
    by_cases hc : (Text.isBlank c && !quoting) = true
    · rw [if_pos hc, if_pos hc]
      rw [Bool.and_eq_true, Bool.not_eq_true'] at hc
      obtain ⟨hcblank, rfl⟩ := hc
      have hrest : quotingAt false a = false := by
        have hmark := isMark_of_isBlank hcblank
        rwa [quotingAt, List.foldl_cons, quotingAfter, hmark] at h
      rw [ih hrest, List.cons_append]
    · rw [if_neg hc, if_neg hc, ih h, consFirst_append (piecesFrom_ne_nil _ a)]

end Token

open Token

theorem tokens_nil : tokens [] = [] :=
  rfl

/-- **A query falls apart at a blank outside quotations.** -/
theorem tokens_append_blank {a : Text} (h : quotingAt false a = false) {blank : CodePoint}
    (hblank : Text.isBlank blank = true) (b : Text) :
    tokens (a ++ blank :: b) = tokens a ++ tokens b := by
  unfold tokens pieces
  rw [piecesFrom_append_blank h hblank, List.map_append, List.filter_append]

theorem tokens_of_isBlankText {query : Text} (h : Text.isBlankText query = true) :
    tokens query = [] := by
  induction query with
  | nil => rfl
  | cons c rest ih =>
    obtain ⟨hc, hrest⟩ := Bool.and_eq_true_iff.1 h
    have := tokens_append_blank (a := []) rfl hc rest
    rwa [tokens_nil, List.nil_append, List.nil_append, ih hrest] at this

/-! ## The form of words -/

/-- **Each word of a query has the form of a word.** -/
theorem isWord_of_mem_tokens {query t : Text} (h : t ∈ tokens query) : t.IsWord := by
  obtain ⟨hmem, hne⟩ := List.mem_filter.1 h
  obtain ⟨piece, -, rfl⟩ := List.mem_map.1 hmem
  refine ⟨⟨fun hnil => ?_, fun hmark => ?_, Text.getLast?_trimBy _⟩, Text.head?_trimBy _⟩
  · rw [hnil] at hne
    exact Bool.false_ne_true hne
  · have := (List.mem_filter.1 ((Text.trimBy_sublist _ _).subset hmark)).2
    exact Bool.false_ne_true this

/-! ## Words without blanks -/

theorem isMark_eq_false_of_mem {s : Text} (h : .char '"' ∉ s) : ∀ c ∈ s, isMark c = false := by
  intro c hc
  rw [Bool.eq_false_iff, ne_eq, isMark_iff]
  exact fun heq => h (heq ▸ hc)

theorem piecesFrom_unblank {s : Text} (hblank : ∀ c ∈ s, Text.isBlank c = false) (quoting : Bool) :
    piecesFrom quoting s = [s] := by
  induction s generalizing quoting with
  | nil => rfl
  | cons c s ih =>
    rw [piecesFrom, hblank c List.mem_cons_self, if_neg (by simp),
      ih fun d hd => hblank d (List.mem_cons_of_mem c hd)]
    rfl

theorem filter_unmarked {s : Text} (h : .char '"' ∉ s) : s.filter (!isMark ·) = s :=
  List.filter_eq_self.2 fun c hc => by rw [isMark_eq_false_of_mem h c hc]; rfl

theorem tokens_of_unblank {s : Text} (hne : s ≠ []) (hmark : .char '"' ∉ s)
    (hblank : ∀ c ∈ s, Text.isBlank c = false) : tokens s = [s] := by
  have hclean : clean s = s := by
    rw [clean, filter_unmarked hmark]
    exact Text.trimBy_eq_self (fun c hc => hblank c (List.mem_of_head? hc))
      fun c hc => hblank c (List.mem_of_getLast? hc)
  unfold tokens pieces
  rw [piecesFrom_unblank hblank, List.map_singleton, hclean,
    List.filter_cons_of_pos (by simp [hne])]
  rfl

/-! ## Words between quotation marks -/

theorem Text.spaced_cons_cons (s t : Text) (parts : List Text) :
    Text.spaced (s :: t :: parts) = s ++ .char ' ' :: Text.spaced (t :: parts) := by
  simp [Text.spaced, List.intercalate]

theorem Text.map_spaced {f : Text → Text} (hnil : f [] = [])
    (hspace : ∀ s rest, f (s ++ .char ' ' :: rest) = f s ++ .char ' ' :: f rest)
    (parts : List Text) : f (Text.spaced parts) = Text.spaced (parts.map f) := by
  induction parts with
  | nil => exact hnil
  | cons s parts ih =>
    cases parts with
    | nil => simp [Text.spaced, List.intercalate]
    | cons t parts =>
      rw [Text.spaced_cons_cons, hspace, ih, List.map_cons, List.map_cons, List.map_cons,
        Text.spaced_cons_cons]

/-- A text between quotation marks. -/
def Text.quotedWord (s : Text) : Text :=
  .char '"' :: (s ++ [.char '"'])

theorem piecesFrom_unmarked {s : Text} (h : .char '"' ∉ s) (rest : Text) :
    piecesFrom true (s ++ .char '"' :: rest) =
      (piecesFrom false rest).modifyHead (s ++ .char '"' :: ·) := by
  induction s with
  | nil =>
    rw [List.nil_append, piecesFrom]
    cases hrest : piecesFrom false rest with
    | nil => exact absurd hrest (piecesFrom_ne_nil false rest)
    | cons piece pieces =>
      change Text.consFirst _ (piecesFrom false rest) = _
      rw [hrest]
      rfl
  | cons c s ih =>
    have hc := isMark_eq_false_of_mem h c List.mem_cons_self
    rw [List.cons_append, piecesFrom, if_neg (by simp), quotingAfter, hc,
      show (true != false) = true from rfl, ih fun hmem => h (List.mem_cons_of_mem c hmem)]
    cases hrest : piecesFrom false rest with
    | nil => exact absurd hrest (piecesFrom_ne_nil false rest)
    | cons piece pieces => rfl

theorem tokens_quotedWord {s : Text} (h : s.IsWord) : tokens s.quotedWord = [s] := by
  have hpieces : pieces s.quotedWord = [s.quotedWord] := by
    unfold pieces Text.quotedWord
    rw [piecesFrom]
    change Text.consFirst _ (piecesFrom true (s ++ [.char '"'])) = _
    rw [piecesFrom_unmarked h.unmarked]
    rfl
  have hclean : clean s.quotedWord = s := by
    unfold clean Text.quotedWord
    rw [List.filter_cons_of_neg (by decide), List.filter_append, filter_unmarked h.unmarked]
    rw [show List.filter (fun c => !isMark c) [CodePoint.char '"'] = [] from rfl, List.append_nil]
    exact Text.trimBy_eq_self h.head h.last
  unfold tokens
  rw [hpieces, List.map_singleton, hclean, List.filter_cons_of_pos (by simp [h.ne_nil])]
  rfl

theorem quotingAt_quotedWord {s : Text} (h : .char '"' ∉ s) :
    quotingAt false s.quotedWord = false := by
  have hinside : s.foldl quotingAfter true = true := by
    refine List.foldlRecOn s quotingAfter (motive := (· = true)) rfl fun quoting hq c hc => ?_
    rw [quotingAfter, hq, isMark_eq_false_of_mem h c hc]
    rfl
  change List.foldl quotingAfter true (s ++ [.char '"']) = false
  rw [List.foldl_append, hinside]
  rfl

/-- **Words between quotation marks are read back as they are.** -/
theorem tokens_spaced_quoted {words : List Text} (h : ∀ w ∈ words, w.IsWord) :
    tokens (Text.spaced (words.map Text.quotedWord)) = words := by
  induction words with
  | nil => rfl
  | cons w words ih =>
    have hw := h w List.mem_cons_self
    have ih := ih fun v hv => h v (List.mem_cons_of_mem w hv)
    cases words with
    | nil => simpa [Text.spaced] using tokens_quotedWord hw
    | cons v words =>
      rw [List.map_cons, List.map_cons, Text.spaced_cons_cons, ← List.map_cons,
        tokens_append_blank (quotingAt_quotedWord hw.unmarked) (by decide), ih,
        tokens_quotedWord hw]
      rfl

end Bookmarks
