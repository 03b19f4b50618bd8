import Bookmarks.Text.Basic
import Bookmarks.Text.Split

/-!
# Hosts in brackets

An address of the sixth version of the Internet protocol stands in brackets where an address of the
Web names its host; so does an address of a later version.

* `Host.isIpv6`: the addresses of the sixth version, with an optional zone.
* `Host.isFuture`: the form of later versions.
* `Host.isBracketed`: what may stand in brackets.
-/

namespace Bookmarks.Host

open Text

/-- The character is a hexadecimal digit. -/
def isHex (c : CodePoint) : Bool :=
  c.isWithin '0' '9' || c.isWithin 'a' 'f' || c.isWithin 'A' 'F'

/-- A number below 256 without zeros in front. -/
def isOctet (s : Text) : Bool :=
  let value := s.foldl (fun n c => 10 * n + (c.toNat - 0x30)) 0
  !s.isEmpty && s.length ≤ 3 && s.all (·.isWithin '0' '9') &&
    (s == [.char '0'] || s.head? != some (.char '0')) && value ≤ 255

/-- An address of the fourth version: four numbers with points between them. -/
def isIpv4 (s : Text) : Bool :=
  let parts := splitOn (.char '.') s
  parts.length == 4 && parts.all isOctet

/-- One to four hexadecimal digits. -/
def isGroup (s : Text) : Bool :=
  !s.isEmpty && s.length ≤ 4 && s.all isHex

/-- The groups of an address; an address of the fourth version at the end stands for two of them. -/
def groupsOf (s : Text) : Option (List Text) :=
  let parts := splitOn (.char ':') s
  if parts.length < 3 then none
  else
    match parts.getLast? with
    | some last =>
      if last.contains (.char '.') then
        if isIpv4 last then some (parts.dropLast ++ [[.char '0'], [.char '0']]) else none
      else some parts
    | none => none

/-- The groups on one side of the gap, the outermost one first: an empty one may stand only at the
outer end, and alone. -/
def sideLength? (side : List Text) : Option Nat :=
  match side with
  | [[]] => some 0
  | _ => if side.all isGroup then some side.length else none

/-- The groups make an address: eight of them, or fewer with one gap between two colons. -/
def areGroups (parts : List Text) : Bool :=
  let inner := parts.dropLast.drop 1
  let gaps := inner.countP (·.isEmpty)
  if gaps = 0 then parts.length == 8 && parts.all isGroup
  else if gaps = 1 then
    let before := parts.take ((inner.takeWhile (!·.isEmpty)).length + 1)
    let after := parts.drop (before.length + 1)
    match sideLength? before, sideLength? after with
    | some m, some n => m + n < 8
    | _, _ => false
  else false

/-- An address of the sixth version, with an optional zone after a percent sign. -/
def isIpv6 (s : Text) : Bool :=
  let (address, zone) := cut (.char '%') s
  let zoneOk :=
    match zone with
    | none => true
    | some zone => !zone.isEmpty && !zone.contains (.char '%')
  zoneOk && !s.contains (.char '/') &&
    match groupsOf address with
    | some parts => parts.length ≤ 9 && areGroups parts
    | none => false

/-- An address of a later version: a `v`, a hexadecimal number, a point and some text. -/
def isFuture : Text → Bool
  | .char 'v' :: rest =>
    let number := rest.takeWhile isHex
    match rest.dropWhile isHex with
    | .char '.' :: text => !number.isEmpty && !text.isEmpty && !text.contains (.char '\n')
    | _ => false
  | _ => false

/-- What may stand in brackets. -/
def isBracketed (s : Text) : Bool :=
  if s.head? = some (.char 'v') then isFuture s else isIpv6 s

end Bookmarks.Host
