import Bookmarks.Text.Basic

/-!
# Reading UTF-8

`decodeUtf8` reads bytes as UTF-8 text. It refuses the first bytes that no text has, and says where
they stand and what is wrong with them.

* `Misread`: where reading failed, and why.
* `decodeUtf8`: the text of the bytes, or the first misreading.
* `unifyNewlines`: the three ways to end a line become one.
-/

namespace Bookmarks.Text

/-- What is wrong with bytes that are not UTF-8. -/
inductive BadBytes where
  /-- No character starts with this byte. -/
  | start
  /-- The next byte cannot continue the character. -/
  | continuation
  /-- The bytes end within a character. -/
  | ending
deriving DecidableEq, Repr

/-- The bytes from `position` on, `count` of them, are the beginning of no character. -/
structure Misread where
  position : Nat
  count : Nat
  firstByte : Nat
  reason : BadBytes
deriving DecidableEq, Repr

/-- How a character goes on after its first byte: the range of the second byte and the number of
continuation bytes; none for a byte that starts no character of several bytes. -/
def lead? (b : Nat) : Option ((Nat × Nat) × Nat) :=
  if 0xC2 ≤ b && b ≤ 0xDF then some ((0x80, 0xBF), 1)
  else if b == 0xE0 then some ((0xA0, 0xBF), 2)
  else if b == 0xED then some ((0x80, 0x9F), 2)
  else if 0xE1 ≤ b && b ≤ 0xEF then some ((0x80, 0xBF), 2)
  else if b == 0xF0 then some ((0x90, 0xBF), 3)
  else if 0xF1 ≤ b && b ≤ 0xF3 then some ((0x80, 0xBF), 3)
  else if b == 0xF4 then some ((0x80, 0x8F), 3)
  else none

/-- The state between two bytes. -/
inductive Utf8State where
  /-- Between two characters. -/
  | start
  /-- Inside a character that began `read` bytes ago with `first`: its bits so far are `bits`, and
  `left + 1` more bytes are due, the next one from `low` to `high`. -/
  | inside (first read bits left low high : Nat)

/-- Reads the bytes from `position` on, after the characters `done`, in reverse. -/
def decodeFrom (done : Text) (state : Utf8State) (position : Nat) :
    List Nat → Except Misread Text
  | [] =>
    match state with
    | .start => .ok done.reverse
    | .inside first read _ _ _ _ => .error ⟨position - read, read, first, .ending⟩
  | b :: rest =>
    match state with
    | .start =>
      if b < 0x80 then decodeFrom (.char (Char.ofNat b) :: done) .start (position + 1) rest
      else
        match lead? b with
        | none => .error ⟨position, 1, b, .start⟩
        | some ((low, high), left) =>
          let bits := b % (1 <<< (6 - left))
          decodeFrom done (.inside b 1 bits (left - 1) low high) (position + 1) rest
    | .inside first read bits left low high =>
      if low ≤ b && b ≤ high then
        let bits := bits * 64 + b % 64
        match left with
        | 0 => decodeFrom (.char (Char.ofNat bits) :: done) .start (position + 1) rest
        | left + 1 =>
          decodeFrom done (.inside first (read + 1) bits left 0x80 0xBF) (position + 1) rest
      else .error ⟨position - read, read, first, .continuation⟩

/-- The text that the bytes write in UTF-8. -/
def decodeUtf8 (bytes : List Nat) : Except Misread Text :=
  decodeFrom [] .start 0 bytes

/-- A carriage return, with or without a line feed, ends a line as a line feed does. -/
def unifyNewlines : Text → Text
  | [] => []
  | .char '\r' :: .char '\n' :: rest => .char '\n' :: unifyNewlines rest
  | .char '\r' :: rest => .char '\n' :: unifyNewlines rest
  | c :: rest => c :: unifyNewlines rest

end Bookmarks.Text
