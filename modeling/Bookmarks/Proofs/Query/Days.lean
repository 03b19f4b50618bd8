import Bookmarks.Number.Numeral
import Bookmarks.Proofs.Fault
import Bookmarks.Proofs.Filter.Bounded
import Bookmarks.Proofs.Query.Render

/-!
# Numbers of days in queries

The digits of a number of days could be read by any means: only runs of one to nine digits are ever
handed over. Reading them as integers in general, which fails on what is no integer and on too many
digits, therefore never fails, and the numbers have nine digits at most.

* `Text.IsShortRun`: the runs of digits that are read.
* `Predicate.parseBy`, `Spec.parseBy`: words and queries, with digits read by any means.
* `Numeral.integer_of_isShortRun`: reading short runs as integers in general.
* **`Spec.parseBy_eq`**: the means do not matter beyond short runs.
* `Spec.exists_days`, `Spec.bounded_parse`: the numbers of days in a query.
-/

namespace Bookmarks

/-! ## Reading short runs of digits -/

/-- One to nine digits of any script. -/
structure Text.IsShortRun (digits : Text) : Prop where
  pos : 1 ≤ digits.length
  le : digits.length ≤ Predicate.maxDigits
  digit : ∀ c ∈ digits, Text.isDigit c = true

theorem Text.isBlank_of_isDigit {c : CodePoint} (h : isDigit c = true) : isBlank c = false := by
  have hzeros : ∀ first ∈ digitZeros, first = 0x30 ∨ (0xA0 < first ∧ first + 9 < 0x1680) ∨
      (0x1680 < first ∧ first + 9 < 0x2000) ∨ 0x3000 < first := by decide
  rw [isDigit, digitValue?, Option.isSome_map, List.find?_isSome] at h
  obtain ⟨first, hfirst, hrange⟩ := h
  have hfirst := hzeros first hfirst
  simp only [Bool.and_eq_true, decide_eq_true_eq] at hrange
  simp only [isBlank, Bool.or_eq_false_iff, Bool.and_eq_false_iff, beq_eq_false_iff_ne,
    decide_eq_false_iff_not]
  omega

namespace Numeral

theorem isDigitRun_of_digits {s : Text} (hne : s ≠ []) (h : ∀ c ∈ s, Text.isDigit c = true) :
    isDigitRun s = true := by
  fun_induction isDigitRun s with
  | case1 => exact absurd rfl hne
  | case2 c => exact h c List.mem_cons_self
  | case3 c rest ih => exact absurd (h (.char '_') (by simp)) (by decide)
  | case4 c rest hrest hmark ih =>
    rw [h c List.mem_cons_self, ih hrest fun d hd => h d (List.mem_cons_of_mem c hd)]
    rfl

theorem takeSign_of_digits {s : Text} (h : ∀ c ∈ s, Text.isDigit c = true) :
    takeSign s = (false, s) := by
  unfold takeSign
  split
  · exact absurd (h (.char '-') List.mem_cons_self) (by decide)
  · exact absurd (h (.char '+') List.mem_cons_self) (by decide)
  · rfl

/-- **A short run of digits is read as the integer that it writes.** -/
theorem integer_of_isShortRun {digits : Text} (h : digits.IsShortRun) :
    integer digits = .ok (Text.digitsValue digits) := by
  have hspace : ∀ c ∈ digits, isSpace c = false := fun c hc => by
    rw [isSpace, Text.isBlank_of_isDigit (h.digit c hc), Bool.false_and]
  have htrim : Text.trimBy isSpace digits = digits :=
    Text.trimBy_eq_self (fun c hc => hspace c (List.mem_of_head? hc))
      fun c hc => hspace c (List.mem_of_getLast? hc)
  have hrun : ∀ c ∈ digits, (Text.isDigit c || c == .char '_') = true := fun c hc => by
    rw [h.digit c hc, Bool.true_or]
  have hdigits : digits ≠ [] := List.ne_nil_of_length_pos h.pos
  have hlimit : ¬ Fault.digitLimit < digits.length :=
    Nat.not_lt.2 (h.le.trans (by decide))
  unfold integer
  rw [htrim, takeSign_of_digits h.digit]
  dsimp only
  rw [List.takeWhile_eq_self_iff.2 hrun, List.dropWhile_eq_nil_iff.2 hrun,
    List.filter_eq_self.2 h.digit, if_pos (isDigitRun_of_digits hdigits h.digit), if_neg hlimit]
  rfl

end Numeral

/-! ## Reading queries with any means to read digits -/

namespace Predicate

section By

variable (int : Text → Except Fault Int)

/-- The number of days that a text writes, with its digits read by `int`. -/
def daysBy (s : Text) : Except Fault (Option Int) :=
  let digits := s.takeWhile Text.isDigit
  if 1 ≤ digits.length ∧ digits.length ≤ maxDigits ∧ isUnit (s.dropWhile Text.isDigit) then
    some <$> int digits
  else .ok none

/-- The filter by age that is written after its keyword, with digits read by `int`. -/
def ageBy (event : Event) (s : Text) : Except Fault (Option Predicate) :=
  match operator? s with
  | none => .ok none
  | some (op, rest) => Option.map (fun n => .age event (some op) (some n)) <$> daysBy int rest

/-- The forms of structured filters, with digits read by `int`. -/
def formsBy : List (String × (Text → Except Fault (Option Predicate))) :=
  [("added:", ageBy int .added), ("clicked:", ageBy int .clicked)] ++
    (forms.drop 2).map fun (keyword, read?) => (keyword, fun s => .ok (read? s))

/-- The structured filter that a word writes, with digits read by `int`. -/
def parseBy (token : Text) : Except Fault (Option Predicate) :=
  (formsBy int).findSomeM? fun (keyword, read?) =>
    match Text.afterKeyword? keyword.toList token with
    | none => .ok none
    | some rest => read? rest

end By

variable {int : Text → Except Fault Int}
  (h : ∀ digits : Text, digits.IsShortRun → int digits = .ok (Text.digitsValue digits))
include h

theorem daysBy_eq (s : Text) : daysBy int s = .ok ((days? s).map Int.ofNat) := by
  unfold daysBy days?
  dsimp only
  split
  · next hrun =>
    have hdigit : ∀ c ∈ s.takeWhile Text.isDigit, Text.isDigit c = true :=
      fun c hc => List.mem_takeWhile_imp hc
    rw [h _ ⟨hrun.1, hrun.2.1, hdigit⟩]
    rfl
  · rfl

theorem ageBy_eq (event : Event) (s : Text) : ageBy int event s = .ok (age? event s) := by
  unfold ageBy age?
  cases operator? s with
  | none => rfl
  | some found =>
    change _ <$> daysBy int found.2 = .ok ((days? found.2).bind _)
    rw [daysBy_eq h]
    cases days? found.2 <;> rfl

omit h in
theorem findSomeM?_eq {α β γ : Type} {f : α → Except Fault (Option γ)} {g : β → Option γ}
    {xs : List α} {ys : List β} (hfg : List.Forall₂ (fun x y => f x = .ok (g y)) xs ys) :
    xs.findSomeM? f = .ok (ys.findSome? g) := by
  induction hfg with
  | nil => rfl
  | @cons x y xs ys hxy hrest ih =>
    rw [List.findSomeM?, hxy, List.findSome?_cons, Fault.ok_bind]
    cases g y with
    | none => exact ih
    | some found => rfl

theorem parseBy_eq (token : Text) : parseBy int token = .ok (parse? token) := by
  refine findSomeM?_eq ?_
  have hread : ∀ (keyword : String) {read : Text → Except Fault (Option Predicate)}
      {read? : Text → Option Predicate}, (∀ s, read s = .ok (read? s)) →
      (match Text.afterKeyword? keyword.toList token with
        | none => .ok none
        | some rest => read rest) =
        Except.ok (ε := Fault) ((Text.afterKeyword? keyword.toList token).bind read?) := by
    intro keyword read read? heq
    cases Text.afterKeyword? keyword.toList token with
    | none => rfl
    | some rest => exact heq rest
  refine .cons (hread _ (ageBy_eq h .added)) (.cons (hread _ (ageBy_eq h .clicked)) ?_)
  change List.Forall₂ _ ((forms.drop 2).map _) (forms.drop 2)
  rw [List.forall₂_map_left_iff, List.forall₂_same]
  exact fun form _ => hread form.1 fun _ => rfl

end Predicate

namespace Spec

/-- What a word asks for behind a `-`, with filters read by `read`. -/
def ofExcludedBy (read : Text → Except Fault (Option Predicate)) (s : Text) : Except Fault Spec :=
  if s.isEmpty then .ok empty
  else do
    match ← read s with
    | some p => return { empty with negated := [p] }
    | none => return { empty with excluded := [s] }

/-- What a single word asks for, with filters read by `read`. -/
def ofTokenBy (read : Text → Except Fault (Option Predicate)) (s : Text) : Except Fault Spec :=
  match s with
  | .char '-' :: rest => ofExcludedBy read rest
  | s => do
    match ← read s with
    | some p => return { empty with filters := [p] }
    | none =>
      return match s with
        | .char '+' :: rest => ofRequired rest
        | .char '|' :: rest => ofOptional rest
        | s => ofOptional s

/-- The query that a text writes, with digits read by `int`. -/
def parseBy (int : Text → Except Fault Int) (query : Text) : Except Fault Spec :=
  if Text.isBlankText query then .ok empty
  else do return (← (tokens query).mapM (ofTokenBy (Predicate.parseBy int))).foldr (· ++ ·) empty

variable {read : Text → Except Fault (Option Predicate)}
  (h : ∀ s, read s = .ok (Predicate.parse? s))
include h

theorem ofExcludedBy_eq (s : Text) : ofExcludedBy read s = .ok (ofExcluded s) := by
  unfold ofExcludedBy ofExcluded
  split
  · rfl
  · rw [h, Fault.ok_bind]
    cases Predicate.parse? s <;> rfl

theorem ofTokenBy_eq (s : Text) : ofTokenBy read s = .ok (ofToken s) := by
  unfold ofTokenBy ofToken
  split
  · exact ofExcludedBy_eq h _
  · simp only [h, Fault.ok_bind]
    cases Predicate.parse? s <;> rfl

omit h in
/-- **Queries are read alike by all means that read short runs of digits alike.** -/
theorem parseBy_eq {int : Text → Except Fault Int}
    (h : ∀ digits : Text, digits.IsShortRun → int digits = .ok (Text.digitsValue digits))
    (query : Text) : parseBy int query = .ok (parse query) := by
  unfold parseBy parse
  split
  · rfl
  · rw [Fault.mapM_eq_ok fun token _ => ofTokenBy_eq (Predicate.parseBy_eq h) token, Fault.ok_bind,
      List.foldr_map]
    rfl

end Spec

/-! ## The numbers of days in a query -/

theorem Predicate.WellFormed.bounded {p : Predicate} (h : p.WellFormed) : p.Bounded := by
  cases p with
  | label l value => trivial
  | tag value => trivial
  | other => trivial
  | age event op days =>
    rcases op with _ | op
    · exact h.elim
    rcases days with _ | n
    · trivial
    obtain ⟨-, hnonneg, hlt⟩ := h
    have hsmall : n.natAbs < 1000000000 := by omega
    exact @bounded_of_lt event (some op) n hsmall

namespace Spec

theorem wellFormed_parse (query : Text) : (parse query).WellFormed := by
  rw [parse_eq_ofTokens]
  exact .ofTokens fun _ => isWord_of_mem_tokens

theorem bounded_parse (query : Text) : (parse query).Bounded := by
  intro p hp
  rcases List.mem_append.1 hp with hp | hp
  · exact ((wellFormed_parse query).filters p hp).bounded
  · exact ((wellFormed_parse query).negated p hp).bounded

/-- A filter by age in a query has a number of days, of nine digits at most. -/
theorem exists_days {query : Text} {event : Event} {op : Option Operator} {days : Option Int}
    (h : .age event op days ∈ (parse query).filters ++ (parse query).negated) :
    ∃ o n, op = some o ∧ days = some n ∧ 0 ≤ n ∧ n ≤ 999999999 := by
  have hwritten : (Predicate.age event op days).WellFormed := by
    rcases List.mem_append.1 h with h | h
    · exact (wellFormed_parse query).filters _ h
    · exact (wellFormed_parse query).negated _ h
  match op, days, hwritten with
  | some o, some n, ⟨_, hnonneg, hlt⟩ => exact ⟨o, n, rfl, rfl, hnonneg, by omega⟩

end Spec

end Bookmarks
