import Bookmarks.Json.Reader.Basic

/-!
# Reading JSON strings

Escapes of 16 bits write a character alone or in pairs. A half without the other one is kept as it
is.

* `Json.readString`: the text of a string, after its opening mark.
-/

namespace Bookmarks.Json

/-- The value of a hexadecimal digit. -/
def hexValue? (c : CodePoint) : Option Nat :=
  let n := c.toNat
  if 0x30 ≤ n && n ≤ 0x39 then some (n - 0x30)
  else if 0x41 ≤ n && n ≤ 0x46 then some (n - 0x37)
  else if 0x61 ≤ n && n ≤ 0x66 then some (n - 0x57)
  else none

/-- The number that four hexadecimal digits write. -/
def codeUnit? (a b c d : CodePoint) : Option Nat := do
  return (((← hexValue? a) * 16 + (← hexValue? b)) * 16 + (← hexValue? c)) * 16 + (← hexValue? d)

/-- The character that a letter after a backslash stands for. -/
def escape? : CodePoint → Option Char
  | .char '"' => some '"'
  | .char '\\' => some '\\'
  | .char '/' => some '/'
  | .char 'b' => some (Char.ofNat 0x08)
  | .char 'f' => some (Char.ofNat 0x0C)
  | .char 'n' => some '\n'
  | .char 'r' => some '\r'
  | .char 't' => some '\t'
  | _ => none

/-- What follows the code unit `high` and makes it a pair: `none` if nothing does, and a flaw if a
second code unit is begun but not written in full. -/
def lowHalf? (high : Nat) (s : Text) : Except Stop (Option (Char × Text)) :=
  if 0xD800 ≤ high && high ≤ 0xDBFF then
    match s with
    | .char '\\' :: .char 'u' :: a :: b :: c :: d :: e :: rest =>
      match codeUnit? a b c d with
      | none => .error (.flaw .badCodeUnit (.char 'u' :: a :: b :: c :: d :: e :: rest))
      | some low =>
        if 0xDC00 ≤ low && low ≤ 0xDFFF then
          .ok (some (Char.ofNat (0x10000 + (high - 0xD800) * 0x400 + (low - 0xDC00)), e :: rest))
        else .ok none
    | _ => .ok none
  else .ok none

theorem length_lt_of_lowHalf? {high : Nat} {s rest : Text} {c : Char}
    (h : lowHalf? high s = .ok (some (c, rest))) : rest.length < s.length := by
  unfold lowHalf? at h
  split at h
  · split at h
    · split at h
      · simp at h
      · split at h
        · simp only [Except.ok.injEq, Option.some.injEq, Prod.mk.injEq] at h
          rw [← h.2]
          simp only [List.length_cons]
          omega
        · simp at h
    · simp at h
  · simp at h

/-- The rest of a string after the code points `done`, in reverse; `opened` is what was left at the
opening mark. -/
def readString (opened done s : Text) : Reading Text s :=
  match s with
  | [] => .error (.flaw .openString opened)
  | .char '"' :: rest => .ok (done.reverse, ⟨rest, by simp⟩)
  | [.char '\\'] => .error (.flaw .openString opened)
  | .char '\\' :: .char 'u' :: a :: b :: c :: d :: e :: rest =>
    match codeUnit? a b c d with
    | none => .error (.flaw .badCodeUnit (.char 'u' :: a :: b :: c :: d :: e :: rest))
    | some n =>
      match h : lowHalf? n (e :: rest) with
      | .error stop => .error stop
      | .ok (some (pair, after)) =>
        have := length_lt_of_lowHalf? h
        (readString opened (.char pair :: done) after).map id
          (by simp only [List.length_cons] at *; omega)
      | .ok none => (readString opened (.ofUnit n :: done) (e :: rest)).map id (by simp)
  | .char '\\' :: .char 'u' :: rest => .error (.flaw .badCodeUnit (.char 'u' :: rest))
  | .char '\\' :: c :: rest =>
    match escape? c with
    | none => .error (.flaw .badEscape (.char '\\' :: c :: rest))
    | some d =>
      (readString opened (.char d :: done) rest).map id (by simp only [List.length_cons]; omega)
  | c :: rest =>
    if c.toNat < 0x20 then .error (.flaw .controlCharacter (c :: rest))
    else (readString opened (c :: done) rest).map id (by simp)
termination_by s.length
decreasing_by all_goals (simp only [List.length_cons] at *; omega)

end Bookmarks.Json
