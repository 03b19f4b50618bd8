/-!
# Texts

A text is a sequence of code points. A code point is a character or one half of a surrogate pair:
where a document writes texts with escapes of 16 bits, a half may stand alone, and it is kept.

* `CodePoint`: the code points, with their numbers and the order by number.
* `Text`: the texts; `Text.ofString` gives that of a string.
* `Text.chars?`, `Text.string?`: the characters of a text that holds no half.
-/

namespace Bookmarks

/-- A code point of Unicode. -/
inductive CodePoint where
  | char (c : Char)
  /-- A half of a surrogate pair: number `n` among those from `0xD800` to `0xDFFF`. -/
  | half (n : Fin 0x800)
deriving DecidableEq, Repr

namespace CodePoint

/-- The number of a code point. -/
def toNat : CodePoint → Nat
  | char c => c.toNat
  | half n => 0xD800 + n

/-- The code point of a number of 16 bits. -/
def ofUnit (n : Nat) : CodePoint :=
  if h : 0xD800 ≤ n ∧ n ≤ 0xDFFF then half ⟨n - 0xD800, by omega⟩ else char (Char.ofNat n)

/-- The character of a code point that is one. -/
def char? : CodePoint → Option Char
  | char c => some c
  | half _ => none

/-- The code point lies between two characters, or is one of them. -/
def isWithin (first last : Char) (c : CodePoint) : Bool :=
  first.toNat ≤ c.toNat && c.toNat ≤ last.toNat

instance : Coe Char CodePoint := ⟨char⟩

instance : LT CodePoint := ⟨fun a b => a.toNat < b.toNat⟩

instance : DecidableLT CodePoint :=
  fun a b => inferInstanceAs (Decidable (a.toNat < b.toNat))

end CodePoint

/-- A text: a sequence of code points. -/
abbrev Text : Type := List CodePoint

namespace Text

/-- The text of some characters. -/
def ofChars (s : List Char) : Text :=
  s.map .char

/-- The text of a string. -/
def ofString (s : String) : Text :=
  ofChars s.toList

instance : Coe String Text := ⟨ofString⟩

/-- The characters of a text, none at all if it holds half of a pair. -/
def chars? (s : Text) : Option (List Char) :=
  s.mapM CodePoint.char?

/-- The string of a text, none if it holds half of a pair. -/
def string? (s : Text) : Option String :=
  s.chars?.map String.ofList

theorem chars?_ofChars (s : List Char) : (ofChars s).chars? = some s := by
  induction s with
  | nil => rfl
  | cons c rest ih => simp_all [chars?, ofChars, CodePoint.char?]

theorem string?_ofString (s : String) : (ofString s).string? = some s := by
  simp [string?, ofString, chars?_ofChars]

end Text

end Bookmarks
