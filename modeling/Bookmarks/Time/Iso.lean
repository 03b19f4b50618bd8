import Bookmarks.Text.Basic
import Bookmarks.Time.Timestamp

/-!
# Timestamps as text

The written form of timestamps: a date, one separating character, and a time with an optional
offset, as in `2025-06-01T12:00:00+02:00`.

* `Timestamp.text`: writes one; parts that are zero are left out at the end of the time and of the
  offset.
* `Timestamp.parse?`: reads one. It takes dates with or without hyphens and by weeks, times with or
  without colons and cut short, and fractions of any length after a point or a comma.
-/

namespace Bookmarks

/-! ## Writing -/

namespace Timestamp

/-- A point and six digits, unless they are all zero. -/
def fraction (micro : Nat) : List Char :=
  if micro = 0 then [] else '.' :: Decimal.padded 6 micro

/-- Hours and minutes, with a colon between them. -/
def hoursMinutes (hour minute : Nat) : List Char :=
  Decimal.padded 2 hour ++ ':' :: Decimal.padded 2 minute

/-- An offset, with seconds only if there are any. -/
def offsetText (offset : UtcOffset) : List Char :=
  let micros := offset.micros.natAbs
  let seconds := micros / 1000000
  let tail := if micros % 60000000 = 0 then []
    else ':' :: Decimal.padded 2 (seconds % 60) ++ fraction (micros % 1000000)
  (if offset.micros < 0 then '-' else '+') ::
    (hoursMinutes (seconds / 3600) (seconds / 60 % 60) ++ tail)

/-- The written form of a date. -/
def dateText (d : Date) : List Char :=
  Decimal.padded 4 d.year ++ '-' :: Decimal.padded 2 d.month ++ '-' :: Decimal.padded 2 d.day

/-- The written form of a time of day. -/
def timeText (t : TimeOfDay) : List Char :=
  hoursMinutes t.hour t.minute ++ ':' :: Decimal.padded 2 t.second ++ fraction t.micro

/-- The characters of the written form. -/
def chars (t : Timestamp) : List Char :=
  dateText t.date ++ 'T' :: timeText t.time ++ (t.offset.map offsetText).getD []

/-- The written form. -/
def text (t : Timestamp) : String :=
  String.ofList t.chars

end Timestamp

/-! ## Reading -/

namespace Iso

/-- The value of a digit from `0` to `9`. -/
def digit? (c : Char) : Option Nat :=
  if '0' ≤ c && c ≤ '9' then some (c.toNat - 0x30) else none

/-- The character is a digit from `0` to `9`. -/
def isDigit (c : Char) : Bool :=
  (digit? c).isSome

/-- The number that the first `count` characters write, all of them digits, and what follows. -/
def digits? : (count : Nat) → List Char → Option (Nat × List Char)
  | 0, s => some (0, s)
  | _ + 1, [] => none
  | count + 1, c :: rest => do
    let d ← digit? c
    let (n, rest) ← digits? count rest
    return (d * Nat.pow 10 count + n, rest)

/-- A date given by its week: the digits after the `W`. -/
def weekDate? (year : Nat) (hyphens : Bool) (s : List Char) : Option Date := do
  let (week, rest) ← digits? 2 s
  match hyphens, rest with
  | _, [] => Date.ofWeek? year week 1
  | true, '-' :: rest => lastDay week rest
  | true, _ => none
  | false, rest => lastDay week rest
where
  /-- The day of the week is the only digit left. -/
  lastDay (week : Nat) (rest : List Char) : Option Date := do
    let (day, []) ← digits? 1 rest | none
    Date.ofWeek? year week day

/-- A date, with hyphens throughout or nowhere. -/
def date? (s : List Char) : Option Date := do
  let (year, rest) ← digits? 4 s
  let (hyphens, rest) :=
    match rest with
    | '-' :: rest => (true, rest)
    | rest => (false, rest)
  match rest with
  | 'W' :: rest => weekDate? year hyphens rest
  | rest =>
    let (month, rest) ← digits? 2 rest
    let rest ←
      match hyphens, rest with
      | true, '-' :: rest => some rest
      | true, _ => none
      | false, rest => some rest
    let (day, []) ← digits? 2 rest | none
    Date.make? year month day

/-- The number of characters of the date at the beginning of a text. It rests on the places of the
hyphens, the `W` and the digits, because any character may separate the date from the time. -/
def dateLength? (s : List Char) : Option Nat :=
  if s.length < 7 then none
  else if s.length = 7 then some 7
  else if s[4]? = some '-' then
    if s[5]? = some 'W' then
      if s[8]? = some '-' then
        if s.length = 9 then none
        else if (s[10]?.map isDigit).getD false then some 8
        else some 10
      else some 8
    else some 10
  else if s[4]? = some 'W' then
    let stop := 7 + ((s.drop 7).takeWhile isDigit).length
    some (if stop < 9 then stop else if stop % 2 = 0 then 7 else 8)
  else some 8

/-- The parts of a time as they are read, and whether something was left behind them. -/
structure Clock where
  hour : Nat
  minute : Nat
  second : Nat
  micro : Nat
  left : Bool

/-- A fraction of a second in microseconds: up to six digits count, and further digits do not. -/
def fraction? (s : List Char) : Option (Nat × List Char) := do
  let count := min 6 s.length
  let (n, rest) ← digits? count s
  return (n * Nat.pow 10 (6 - count), rest.dropWhile isDigit)

/-- Something is left, other than the end mark `NUL`. -/
def isLeft (s : List Char) : Bool :=
  (s.head?.map fun c => c.toNat != 0).getD false

/-- The units from the hour on, each of two digits, and a fraction. After the unit just read stands
`s`; `colons` says that units are separated by colons. The units still to come are counted by
`more`, and `values` are those read, in reverse. -/
def units? (more : Nat) (colons : Option Bool) (values : List Nat) (s : List Char) :
    Option (List Nat × Nat × Bool) := do
  match more with
  | 0 =>
    let (micro, rest) ← fraction? s
    return (values.reverse, micro, isLeft rest)
  | more + 1 =>
    let (value, rest) ← digits? 2 s
    let values := value :: values
    match rest with
    | [] => return (values.reverse, 0, false)
    | c :: after =>
      if after.isEmpty && c.toNat < 0x80 then return (values.reverse, 0, c.toNat != 0)
      let colons := colons.getD (c == ':')
      if colons && c == ':' then units? more (some colons) values after
      else if c == '.' || c == ',' then
        let (micro, rest) ← fraction? after
        return (values.reverse, micro, isLeft rest)
      else if colons then none
      else units? more (some colons) values rest

/-- A time without offset. -/
def clock? (s : List Char) : Option Clock := do
  let (values, micro, left) ← units? 3 none [] s
  return ⟨values[0]?.getD 0, values[1]?.getD 0, values[2]?.getD 0, micro, left⟩

/-- An offset after its sign. Below a second it counts as none. -/
def offset? (negative : Bool) (s : List Char) : Option UtcOffset := do
  let c ← clock? s
  if c.left then none
  else
    let seconds := (c.hour * 60 + c.minute) * 60 + c.second
    if seconds = 0 then some .zero
    else
      let micros : Int := seconds * 1000000 + c.micro
      UtcOffset.make? (if negative then -micros else micros)

/-- The character begins an offset. -/
def beginsOffset (c : Char) : Bool :=
  c == '+' || c == '-' || c == 'Z'

/-- A time with its offset, if it has one. Before an offset, characters after the time are passed
over. -/
def time? (s : List Char) : Option (TimeOfDay × Option UtcOffset) := do
  let zone := s.dropWhile (!beginsOffset ·)
  let c ← clock? (s.takeWhile (!beginsOffset ·))
  let time ← TimeOfDay.make? c.hour c.minute c.second c.micro
  match zone with
  | [] => if c.left then none else return (time, none)
  | 'Z' :: rest => if isLeft rest then none else return (time, some .zero)
  | sign :: rest => return (time, some (← offset? (sign == '-') rest))

end Iso

/-- The places where a date can end. -/
def Iso.dateEnds : List Nat :=
  [7, 8, 10]

/-- The code point is half of a pair. -/
def Iso.isHalf : CodePoint → Bool
  | .half _ => true
  | .char _ => false

/-- The characters of a text. Half of a pair may stand where the date ends, and separates it from
the time as a `T` does. -/
def Iso.chars? (s : Text) : Option (List Char) :=
  match Iso.dateEnds.find? fun i => s[i]?.any Iso.isHalf with
  | some i => Text.chars? (s.set i (.char 'T'))
  | none => Text.chars? s

/-- The timestamp that characters write. -/
def Timestamp.ofChars? (s : List Char) : Option Timestamp := do
  let length ← Iso.dateLength? s
  let date ← Iso.date? (s.take length)
  match s.drop length with
  | [] => return ⟨date, .midnight, none⟩
  | _ :: rest =>
    let (time, offset) ← Iso.time? rest
    return ⟨date, time, offset⟩

/-- The timestamp that a text writes. -/
def Timestamp.parse? (s : Text) : Option Timestamp :=
  (Iso.chars? s).bind Timestamp.ofChars?

end Bookmarks
