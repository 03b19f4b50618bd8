import Bookmarks.Json.Reader.Basic
import Bookmarks.Json.Value
import Bookmarks.Number.Numeral
import Bookmarks.Text.Occurs

/-!
# Reading words and numbers

* `Json.word?`: the words `null`, `true`, `false`, `NaN` and `Infinity`.
* `Json.number?`: a number without its sign. It is an integer unless it has a point or an exponent.
* `Json.readScalar`: a word or a number.
-/

namespace Bookmarks.Json

/-! ## Numbers -/

/-- The character is a digit from `0` to `9`. -/
def isAsciiDigit (c : CodePoint) : Bool :=
  c.isWithin '0' '9'

/-- The whole part of a number, and what is left: a zero, or digits that begin with another one. -/
def wholePart? : Text → Option (Text × Text)
  | .char '0' :: rest => some ([.char '0'], rest)
  | c :: rest =>
    if isAsciiDigit c then some (c :: rest.takeWhile isAsciiDigit, rest.dropWhile isAsciiDigit)
    else none
  | [] => none

/-- The digits after a point, and what is left; none if there is no point with a digit after it. -/
def fraction? : Text → Option (Text × Text)
  | .char '.' :: d :: rest =>
    if isAsciiDigit d then
      some (d :: rest.takeWhile isAsciiDigit, rest.dropWhile isAsciiDigit)
    else none
  | _ => none

/-- The exponent after an `e`, and what is left; none if there is no `e` with a digit after it. -/
def exponent? : Text → Option (Int × Text)
  | e :: rest =>
    if e == .char 'e' || e == .char 'E' then
      let signed := Numeral.takeSign rest
      let digits := signed.2.takeWhile isAsciiDigit
      if digits.isEmpty then none
      else
        let value : Int := Text.digitsValue digits
        some (if signed.1 then -value else value, signed.2.dropWhile isAsciiDigit)
    else none
  | [] => none

/-- A number, without its sign, and what is left. -/
def number? (limits : Limits) (negative : Bool) (s : Text) :
    Except Stop (Option (Number × Text)) :=
  match wholePart? s with
  | none => .ok none
  | some (whole, afterWhole) =>
    let part := (fraction? afterWhole).getD ([], afterWhole)
    let exponent := exponent? part.2
    if part.1.isEmpty && exponent.isNone then
      if limits.digits.any (· < whole.length) then
        .error (.numeralTooLong whole.length)
      else
        let value : Int := Text.digitsValue whole
        .ok (some (.int (if negative then -value else value), afterWhole))
    else
      let power := exponent.getD (0, part.2)
      .ok (some (.real (Numeral.ofDecimal negative (Text.digitsValue (whole ++ part.1))
        (power.1 - part.1.length)), power.2))

theorem length_wholePart? {s whole rest : Text} (h : wholePart? s = some (whole, rest)) :
    rest.length < s.length := by
  unfold wholePart? at h
  split at h
  · simp only [Option.some.injEq, Prod.mk.injEq] at h
    simp [← h.2]
  · split at h
    · simp only [Option.some.injEq, Prod.mk.injEq] at h
      rw [← h.2]
      exact Nat.lt_succ_of_le (length_dropWhile_le _ _)
    · simp at h
  · simp at h

theorem length_fraction? {s part rest : Text} (h : fraction? s = some (part, rest)) :
    rest.length ≤ s.length := by
  unfold fraction? at h
  split at h
  · split at h
    · simp only [Option.some.injEq, Prod.mk.injEq] at h
      rw [← h.2]
      exact Nat.le_add_right_of_le (Nat.le_add_right_of_le (length_dropWhile_le _ _))
    · simp at h
  · simp at h

theorem length_takeSign (s : Text) : (Numeral.takeSign s).2.length ≤ s.length := by
  unfold Numeral.takeSign
  split <;> simp

theorem length_exponent? {s rest : Text} {k : Int} (h : exponent? s = some (k, rest)) :
    rest.length ≤ s.length := by
  unfold exponent? at h
  split at h
  · split at h
    · dsimp only at h
      split at h
      · simp at h
      · simp only [Option.some.injEq, Prod.mk.injEq] at h
        rw [← h.2]
        exact Nat.le_succ_of_le (Nat.le_trans (length_dropWhile_le _ _) (length_takeSign _))
    · simp at h
  · simp at h

theorem length_number? {limits : Limits} {negative : Bool} {s rest : Text} {n : Number}
    (h : number? limits negative s = .ok (some (n, rest))) : rest.length < s.length := by
  unfold number? at h
  split at h
  · simp at h
  · rename_i whole afterWhole hw
    have hwhole := length_wholePart? hw
    have hpart : ((fraction? afterWhole).getD ([], afterWhole)).2.length ≤ afterWhole.length := by
      cases hf : fraction? afterWhole with
      | none => exact Nat.le_refl _
      | some found => exact @length_fraction? _ found.1 _ hf
    dsimp only at h
    split at h
    · split at h
      · simp at h
      · simp only [Except.ok.injEq, Option.some.injEq, Prod.mk.injEq] at h
        exact h.2 ▸ hwhole
    · simp only [Except.ok.injEq, Option.some.injEq, Prod.mk.injEq] at h
      rw [← h.2]
      refine Nat.lt_of_le_of_lt ?_ (Nat.lt_of_le_of_lt hpart hwhole)
      cases he : exponent? ((fraction? afterWhole).getD ([], afterWhole)).2 with
      | none => exact Nat.le_refl _
      | some found => exact @length_exponent? _ _ found.1 he

/-! ## Words -/

/-- The words that are values, and what they stand for. -/
def words : List (Text × Json) :=
  [("null", .null), ("true", .boolean true), ("false", .boolean false),
   ("NaN", .number (.real .nan)), ("Infinity", .number (.real (.infinite false))),
   ("-Infinity", .number (.real (.infinite true)))]

/-- The word at the beginning of a text, and what is left. -/
def word? (s : Text) : Option (Json × Text) :=
  words.findSome? fun (word, value) => (Text.after? word s).map (value, ·)

theorem length_word? {s rest : Text} {value : Json} (h : word? s = some (value, rest)) :
    rest.length < s.length := by
  obtain ⟨⟨word, _⟩, hmem, hword⟩ := List.exists_of_findSome?_eq_some h
  obtain ⟨after, hafter, heq⟩ := Option.map_eq_some_iff.1 hword
  have hlength := Text.length_after? hafter
  have hpos : ∀ w ∈ words, 0 < w.1.length := by decide
  have : 0 < word.length := hpos _ hmem
  simp only [Prod.mk.injEq] at heq
  rw [← heq.2]
  omega

/-! ## Both -/

/-- Whether a minus stands at the beginning, and what follows. -/
def takeMinus : Text → Bool × Text
  | .char '-' :: rest => (true, rest)
  | s => (false, s)

theorem length_takeMinus (s : Text) : (takeMinus s).2.length ≤ s.length := by
  unfold takeMinus
  split <;> simp

/-- A word or a number. -/
def readScalar (limits : Limits) (s : Text) : Reading Json s :=
  match hw : word? s with
  | some (value, rest) => .ok (value, ⟨rest, length_word? hw⟩)
  | none =>
    match hn : number? limits (takeMinus s).1 (takeMinus s).2 with
    | .error stop => .error stop
    | .ok none => .error (.flaw .noValue s)
    | .ok (some (n, rest)) =>
      .ok (.number n, ⟨rest, Nat.lt_of_lt_of_le (length_number? hn) (length_takeMinus s)⟩)

end Bookmarks.Json
