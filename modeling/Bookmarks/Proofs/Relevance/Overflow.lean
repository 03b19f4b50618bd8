import Bookmarks.Proofs.Fault
import Bookmarks.Proofs.Number.Range
import Bookmarks.Server.Answer
import Bookmarks.Sorting.Lemmas

/-!
# Where relevance cannot be computed

With the usual settings there are two numbers in a score that may be too large for 64 bits: a
hundredth of the clicks, which is taken before it is cut to one, and the exponential of a visit that
lies ahead.

* `RelevanceConfig.usual`: the usual settings as they are read from an environment.
* `Bookmark.overflow?`: what is too large, if anything is.
* **`Bookmark.relevance_failsBy`**: the score of a bookmark fails by this, or not at all.
-/

namespace Bookmarks

/-! ## Signs -/

namespace Binary64

theorem isNegative_ofRatio (negative : Bool) (n d : Nat) :
    (ofRatio negative n d).isNegative = negative := by
  unfold ofRatio
  split
  · rfl
  · dsimp only
    split <;> split <;> rfl

theorem eq_of_ofRatio_eq_infinite {negative sign : Bool} {n d : Nat}
    (h : ofRatio negative n d = .infinite sign) : sign = negative := by
  have hnegative := isNegative_ofRatio negative n d
  rw [h] at hnegative
  exact hnegative

/-- Only a number without a sign has an exponential past the greatest number. -/
theorem exists_of_exp_eq_none {x : Binary64} (h : x.exp = none) : ∃ m e, x = .finite false m e := by
  cases x with
  | nan => cases h
  | infinite negative => cases h
  | finite negative m e =>
    cases negative with
    | false => exact ⟨m, e, rfl⟩
    | true =>
      rw [exp] at h
      dsimp only at h
      rw [if_pos rfl] at h
      split at h <;> cases h

theorem exists_exp_of_isNegative {x : Binary64} (h : x.isNegative = true) :
    ∃ y, x.exp = some y := by
  cases hexp : x.exp with
  | some y => exact ⟨y, rfl⟩
  | none =>
    obtain ⟨m, e, rfl⟩ := exists_of_exp_eq_none hexp
    cases h

theorem isNegative_mul (x y : Binary64) :
    x * y = .nan ∨ (x * y).isNegative = (x.isNegative != y.isNegative) := by
  change mul x y = .nan ∨ (mul x y).isNegative = _
  unfold mul
  cases x with
  | nan => exact .inl rfl
  | infinite a =>
    cases y with
    | nan => exact .inl rfl
    | _ =>
      dsimp only
      split
      · exact .inl rfl
      · exact .inr rfl
  | finite a m e =>
    cases y with
    | nan => exact .inl rfl
    | infinite b =>
      dsimp only
      split
      · exact .inl rfl
      · exact .inr rfl
    | finite b n f => exact .inr (isNegative_ofRatio _ _ _)

theorem isNegative_div (x y : Binary64) :
    x / y = .nan ∨ (x / y).isNegative = (x.isNegative != y.isNegative) := by
  change div x y = .nan ∨ (div x y).isNegative = _
  unfold div
  cases x with
  | nan => exact .inl rfl
  | infinite a =>
    cases y with
    | nan | infinite => exact .inl rfl
    | finite b n f => exact .inr rfl
  | finite a m e =>
    cases y with
    | nan => exact .inl rfl
    | infinite b => exact .inr rfl
    | finite b n f =>
      dsimp only
      split
      · split
        · exact .inl rfl
        · exact .inr rfl
      · exact .inr (isNegative_ofRatio _ _ _)

theorem exists_exp_mul {x y : Binary64} (hx : x.isNegative = true) (hy : y.isNegative = false) :
    ∃ z, (x * y).exp = some z := by
  rcases isNegative_mul x y with h | h
  · rw [h]
    exact ⟨.nan, rfl⟩
  · rw [hx, hy] at h
    exact exists_exp_of_isNegative h

theorem isNegative_sub {x y : Binary64} (h : (Number.real y).lt (.real x) = true) :
    (x - y).isNegative = false := by
  change (add x y.neg).isNegative = false
  cases x with
  | nan => cases y <;> rfl
  | infinite a =>
    cases a with
    | true => cases y with
      | nan => rfl
      | infinite b => cases b <;> cases h
      | finite b n f => cases h
    | false => cases y with
      | nan => rfl
      | infinite b => cases b <;> rfl
      | finite b n f => rfl
  | finite a m e =>
    cases y with
    | nan => rfl
    | infinite b =>
      cases b with
      | true => rfl
      | false => cases h
    | finite b n f =>
      have hlt : (if b then -magnitude n f else magnitude n f) <
          if a then -magnitude m e else magnitude m e := of_decide_eq_true h
      have hpos : 0 < (if a then -magnitude m e else magnitude m e) +
          if !b then -magnitude n f else magnitude n f := by
        cases b with
        | false => exact (sub_pos.2 hlt).trans_eq (sub_eq_add_neg _ _)
        | true => exact neg_lt_iff_pos_add.1 hlt
      rw [neg, add, ofRat, if_neg hpos.ne', isNegative_ofRatio]
      exact decide_eq_false hpos.not_gt

theorem isNegative_of_lt {x y : Binary64} (h : (Number.real y).lt (.real x) = true)
    (hy : y.isNegative = false) : x.isNegative = false := by
  cases x with
  | nan => rfl
  | infinite a =>
    cases a with
    | false => rfl
    | true => cases y with
      | nan => cases h
      | infinite b => cases b <;> cases h
      | finite b n f => cases h
  | finite a m e =>
    cases a with
    | false => rfl
    | true =>
      cases y with
      | nan => cases h
      | infinite b =>
        obtain rfl : b = false := hy
        cases h
      | finite b n f =>
        obtain rfl : b = false := hy
        have hlt : magnitude n f < -magnitude m e := of_decide_eq_true h
        have hm := magnitude_nonneg m e
        have hn := magnitude_nonneg n f
        linarith

end Binary64

theorem Timestamp.isNegative_daysUntil {earlier later : Timestamp}
    (h : earlier.instant ≤ later.instant) : (earlier.daysUntil later).isNegative = false := by
  unfold daysUntil days
  rcases Binary64.isNegative_div (.ofRatio (later.instant - earlier.instant < 0)
    (later.instant - earlier.instant).natAbs 1000000) secondsPerDay with hnan | hsign
  · rw [hnan]
    rfl
  · rw [hsign, Binary64.isNegative_ofRatio, decide_eq_false (by omega)]
    rfl

/-! ## Numbers -/

namespace Number

theorem mul_real_of_toReal {a : Number} {x : Binary64} (h : a.toReal = .ok x) (y : Binary64) :
    a.mul (.real y) = .ok (.real (x * y)) := by
  cases a with
  | int n =>
    change (do return Number.real ((← (Number.int n).toReal) * (← (Number.real y).toReal))) = _
    rw [h]
    rfl
  | real z =>
    obtain rfl := Except.ok.inj h
    rfl

theorem exists_toReal_max (x y : Binary64) :
    ∃ z, ((Number.real x).max (.real y)).toReal = .ok z := by
  unfold Number.max
  split
  · exact ⟨y, rfl⟩
  · exact ⟨x, rfl⟩

theorem exp_real_failsBy (x : Binary64) :
    Fault.FailsBy (if x.exp.isNone then some .exponentialTooLarge else none)
      (Number.real x).exp := by
  have hx : (Number.real x).toReal = .ok x := rfl
  rw [Number.exp, hx, Fault.ok_bind]
  cases x.exp with
  | none => rfl
  | some y => exact ⟨y, rfl⟩

theorem exp_real_of_eq_some {x y : Binary64} (h : x.exp = some y) :
    (Number.real x).exp = .ok y := by
  have hx : (Number.real x).toReal = .ok x := rfl
  rw [Number.exp, hx, Fault.ok_bind, h]

end Number

/-! ## Clicks -/

theorem ratio_failsBy (n : Int) {d : Nat} (hd : d ≠ 0) :
    Fault.FailsBy (if d * Binary64.overflow ≤ n.natAbs then some .quotientTooLarge else none)
      (ratio n d) := by
  have hiff := Binary64.ofRatio_eq_infinite_iff (n < 0) (n := n.natAbs) hd
  generalize d * Binary64.overflow = bound at *
  unfold ratio
  by_cases h : bound ≤ n.natAbs
  · rw [if_pos h, hiff.2 h]
    rfl
  · rw [if_neg h]
    split
    · next sign heq =>
      rw [Binary64.eq_of_ofRatio_eq_infinite heq] at heq
      exact absurd (hiff.1 heq) h
    · exact ⟨_, rfl⟩

/-! ## Visits -/

namespace RelevanceConfig

/-- The usual settings, as they are read where an environment names no others. -/
def usual : RelevanceConfig :=
  { standard with
    decayDays := .real (.ofInt 30)
    newItemDays := .real (.ofInt 7) }

/-- By how much a visit fades in a day, as an exponent. -/
def dailyFading : Binary64 :=
  (Numeral.ofDecimal false 2 (-2)).neg

theorem isNegative_of_not_le {days : Binary64}
    (h : ¬(Number.real days).le usual.decayDays = true) :
    days.isNegative = false ∧ (days - .ofInt 30).isNegative = false := by
  by_cases hlt : (Number.real (.ofInt 30)).lt (.real days) = true
  · exact ⟨Binary64.isNegative_of_lt hlt rfl, Binary64.isNegative_sub hlt⟩
  · cases days with
    | nan => exact ⟨rfl, rfl⟩
    | infinite | finite => exact absurd (congrArg not (eq_false_of_ne_true hlt)) h

theorem fading_failsBy (days : Binary64) :
    Fault.FailsBy (if (dailyFading * days).exp.isNone then some .exponentialTooLarge else none)
      (usual.fading days) := by
  unfold fading
  by_cases hle : (Number.real days).le usual.decayDays = true
  · change Fault.FailsBy _ (if _ then (Number.real (dailyFading * days)).exp else _)
    rw [if_pos hle]
    exact Number.exp_real_failsBy _
  · -- Past the threshold the visit lies behind, so all three exponents are negative.
    obtain ⟨hdays, hexcess⟩ := isNegative_of_not_le hle
    obtain ⟨whole, hwhole⟩ := Binary64.exists_exp_mul (x := dailyFading) rfl hdays
    obtain ⟨before, hbefore⟩ := Binary64.exists_exp_mul (x := dailyFading) (y := .ofInt 30) rfl rfl
    obtain ⟨after, hafter⟩ := Binary64.exists_exp_mul (x := dailyFading * .ofInt 2)
      (by decide +kernel) hexcess
    rw [if_neg hle, hwhole]
    change Fault.FailsBy none (do
      let before ← (Number.real (dailyFading * .ofInt 30)).exp
      let after ← (Number.real (dailyFading * .ofInt 2 * (days - .ofInt 30))).exp
      return before * after)
    rw [Number.exp_real_of_eq_some hbefore, Number.exp_real_of_eq_some hafter]
    exact ⟨_, rfl⟩

end RelevanceConfig

/-! ## Scores -/

namespace Bookmark

/-- The clicks are too many for a score. -/
def clickOverflow? (b : Bookmark) : Option Fault :=
  if 100 * Binary64.overflow ≤ b.clicked.natAbs then some .quotientTooLarge else none

/-- The last visit lies too far ahead for a score. -/
def visitOverflow? (b : Bookmark) (now : Timestamp) : Option Fault :=
  if b.last.any fun t => (RelevanceConfig.dailyFading * t.daysUntil now).exp.isNone then
    some .exponentialTooLarge
  else none

/-- What is too large in the score of a bookmark, if anything is. -/
def overflow? (b : Bookmark) (now : Timestamp) : Option Fault :=
  b.clickOverflow?.or (b.visitOverflow? now)

theorem clickPart_failsBy (b : Bookmark) :
    Fault.FailsBy b.clickOverflow? (RelevanceConfig.clickPart b) := by
  have hratio := ratio_failsBy b.clicked (d := 100) (by decide)
  exact hratio.map fun x => (Number.real x).min one

theorem exists_toReal_of_clickPart {b : Bookmark} {clicks : Number}
    (h : RelevanceConfig.clickPart b = .ok clicks) : ∃ x, clicks.toReal = .ok x := by
  obtain ⟨x, -, h⟩ := Fault.bind_eq_ok.1 h
  obtain rfl := Except.ok.inj h
  unfold Number.min
  split
  · exact ⟨_, rfl⟩
  · exact ⟨_, rfl⟩

theorem newItemBonus_failsBy (b : Bookmark) (now : Timestamp) :
    Fault.FailsBy none (RelevanceConfig.newItemBonus .usual b now) := by
  unfold RelevanceConfig.newItemBonus
  cases b.added with
  | none => exact ⟨_, rfl⟩
  | some added =>
    dsimp only
    split
    · exact ⟨_, rfl⟩
    · exact ⟨_, rfl⟩

theorem visitPart_failsBy (b : Bookmark) (now : Timestamp) :
    Fault.FailsBy (b.visitOverflow? now) (RelevanceConfig.visitPart .usual b now) := by
  unfold visitOverflow? RelevanceConfig.visitPart
  cases b.last with
  | some t => exact RelevanceConfig.fading_failsBy (t.daysUntil now)
  | none =>
    change Fault.FailsBy none (if b.clicked = 0 then _ else _)
    split
    · exact newItemBonus_failsBy b now
    · exact ⟨_, rfl⟩

/-- **With the usual settings a score fails by what is too large in it**, or not at all. -/
theorem relevance_failsBy (b : Bookmark) (now : Timestamp) :
    Fault.FailsBy (b.overflow? now) (b.relevance .usual now) := by
  rw [overflow?, ← Option.or_none (o := b.visitOverflow? now)]
  -- Only the first two parts can fail; from there on all numbers are of 64 bits.
  refine (clickPart_failsBy b).bind fun clicks hclicks =>
    (visitPart_failsBy b now).bind fun visit _ => ?_
  obtain ⟨x, hx⟩ := exists_toReal_of_clickPart hclicks
  obtain ⟨bonus, hbonus⟩ := newItemBonus_failsBy b now
  have hweight : RelevanceConfig.usual.clickWeight = .real (Numeral.ofDecimal false 7 (-1)) := rfl
  obtain ⟨y, hy⟩ := Number.exists_toReal_max (x * Numeral.ofDecimal false 7 (-1) +
    visit * Numeral.ofDecimal false 3 (-1)) (Numeral.ofDecimal false 1 (-1))
  rw [hweight, Number.mul_real_of_toReal hx, hbonus]
  change Fault.FailsBy none (do
    let score ← ((Number.real (x * Numeral.ofDecimal false 7 (-1) +
      visit * Numeral.ofDecimal false 3 (-1))).max (.real (Numeral.ofDecimal false 1 (-1)))).toReal
    return score + bonus)
  rw [hy]
  exact ⟨_, rfl⟩

/-- Nothing is too large in a score of moderate clicks and of a visit that does not lie ahead. -/
theorem overflow?_eq_none {b : Bookmark} {now : Timestamp}
    (hclicks : b.clicked.natAbs < 100 * Binary64.overflow)
    (hlast : ∀ t ∈ b.last, t.instant ≤ now.instant) : b.overflow? now = none := by
  rw [overflow?, clickOverflow?, if_neg (Nat.not_le.2 hclicks), Option.none_or]
  refine if_neg ?_
  cases ht : b.last with
  | none => exact Bool.false_ne_true
  | some t =>
    obtain ⟨y, hy⟩ := Binary64.exists_exp_mul (x := RelevanceConfig.dailyFading) rfl
      (Timestamp.isNegative_daysUntil (hlast t ht))
    rw [Option.any_some, hy]
    exact Bool.false_ne_true

end Bookmark

/-! ## Collections -/

section Collections

variable (entries : List Entry) (now : Timestamp)

/-- What is too large in the first score in which anything is. -/
def firstOverflow? : Option Fault :=
  entries.findSome? fun e => e.bookmark.overflow? now

theorem sortByRelevance_failsBy :
    Fault.FailsBy (firstOverflow? entries now) (sortByRelevance entries .usual now) := by
  have hkeyed : Fault.FailsBy (firstOverflow? entries now)
      (entries.mapM fun e => do return (← e.bookmark.relevanceKey .usual now, e)) :=
    .mapM fun e _ => ((e.bookmark.relevance_failsBy now).map _).map _
  exact hkeyed.map _

variable {entries now}

theorem mem_of_sortByRelevance {ranked : List Entry}
    (h : sortByRelevance entries .usual now = .ok ranked) : ∀ e ∈ ranked, e ∈ entries := by
  obtain ⟨keyed, hkeyed, h⟩ := Fault.bind_eq_ok.1 h
  obtain rfl := Except.ok.inj h
  intro e he
  obtain ⟨pair, hpair, rfl⟩ := List.mem_map.1 he
  obtain ⟨source, hsource, heq⟩ := Fault.exists_of_mem_mapM hkeyed pair
    ((sortDescending_perm _ _ _).mem_iff.1 hpair)
  obtain ⟨key, -, heq⟩ := Fault.bind_eq_ok.1 heq
  obtain rfl := Except.ok.inj heq
  exact hsource

variable (entries now)

theorem relevanceStats_failsBy :
    Fault.FailsBy (firstOverflow? entries now)
      (relevanceStats (entries.map Entry.bookmark) .usual now) := by
  unfold relevanceStats
  cases entries with
  | nil => exact ⟨_, rfl⟩
  | cons e rest =>
    have hscores : Fault.FailsBy (firstOverflow? (e :: rest) now)
        (((e :: rest).map Entry.bookmark).mapM fun b => b.relevance .usual now) := by
      rw [List.mapM_map]
      exact .mapM fun e _ => e.bookmark.relevance_failsBy now
    exact hscores.map _

/-- **A ranking fails by the first score that cannot be computed**, or not at all. -/
theorem Answer.ofRanking_failsBy (limit : Int) :
    Fault.FailsBy (firstOverflow? entries now) (ofRanking entries limit .usual now) := by
  have hsort := sortByRelevance_failsBy entries now
  rw [← Option.or_none (o := firstOverflow? entries now)]
  refine hsort.bind fun sorted hsorted => ?_
  have hnone : firstOverflow? entries now = none := hsort.exists_ok_iff.1 ⟨sorted, hsorted⟩
  have hscore : ∀ e ∈ upTo limit sorted, ∃ value, ofRanked .usual now e.bookmark = .ok value := by
    intro e he
    have hmem := mem_of_sortByRelevance hsorted e (mem_of_mem_upTo he)
    have hrelevance := e.bookmark.relevance_failsBy now
    rw [List.findSome?_eq_none_iff.1 hnone e hmem] at hrelevance
    exact (hrelevance.map _).map _
  obtain ⟨results, hresults⟩ := Fault.exists_mapM_iff.2 hscore
  obtain ⟨stats, hstats⟩ := (relevanceStats_failsBy entries now).exists_ok_iff.2 hnone
  dsimp only
  rw [hresults, Fault.ok_bind, hstats]
  exact ⟨_, rfl⟩

theorem Answer.ofRanking_standard (limit : Int) :
    ofRanking entries limit .standard now = ofRanking entries limit .usual now := rfl

end Collections

end Bookmarks
