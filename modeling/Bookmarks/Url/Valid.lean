import Bookmarks.Text.Blank
import Bookmarks.Text.Case
import Bookmarks.Text.Occurs
import Bookmarks.Url.Host

/-!
# Usable addresses

An address is usable if it is one of the Web and names a host. An address without a scheme is read
as one of the Web if it looks like a domain.

* `Url.netloc?`: the part of an address that names the host.
* `Url.host`: the host in that part.
* `Url.isUsable`: the addresses that are usable.
-/

namespace Bookmarks.Url

/-- A control character or a space. -/
def isControl (c : CodePoint) : Bool :=
  c.toNat ≤ 0x20

/-- A character that is dropped wherever it stands: a tab or the end of a line. -/
def isDropped (c : CodePoint) : Bool :=
  c == .char '\t' || c == .char '\n' || c == .char '\r'

/-- A character of a scheme. -/
def isSchemeChar (c : CodePoint) : Bool :=
  c.isWithin 'a' 'z' || c.isWithin 'A' 'Z' || c.isWithin '0' '9' ||
    c == .char '+' || c == .char '-' || c == .char '.'

/-- The scheme of an address in small letters, if it has one, and what follows. -/
def splitScheme (s : Text) : Text × Text :=
  match Text.cut (.char ':') s with
  | (scheme, some rest) =>
    if !scheme.isEmpty && scheme.all isSchemeChar then (scheme.map Text.lowerAscii, rest)
    else ([], s)
  | (_, none) => ([], s)

/-- A character that ends the part of an address that names the host. -/
def endsNetloc (c : CodePoint) : Bool :=
  c == .char '/' || c == .char '?' || c == .char '#'

/-- The part of an address, after its scheme, that names the host. -/
def netloc? : Text → Option Text
  | .char '/' :: .char '/' :: rest => some (rest.takeWhile (!endsNetloc ·))
  | _ => none

/-- The characters beyond ASCII that stand for a text with one of the delimiters `/?#@:` in it. -/
def delimiterLike : List Nat :=
  [0x2047, 0x2048, 0x2049, 0x2100, 0x2101, 0x2105, 0x2106, 0x2A74, 0xFE13, 0xFE16, 0xFE55, 0xFE56,
   0xFE5F, 0xFE6B, 0xFF03, 0xFF0F, 0xFF1A, 0xFF1F, 0xFF20]

/-- The text after the last `@`: without the name of a user. -/
def afterUser (s : Text) : Text :=
  (s.reverse.takeWhile (· != .char '@')).reverse

/-- The host: in brackets, or up to the port. -/
def host (netloc : Text) : Text :=
  let info := afterUser netloc
  match Text.cut (.char '[') info with
  | (_, some rest) => (Text.cut (.char ']') rest).1
  | (_, none) => (Text.cut (.char ':') info).1

/-- Nothing stands around the brackets but a port. -/
def bracketsAlone (netloc : Text) : Bool :=
  match Text.cut (.char '[') (afterUser netloc) with
  | (before, some rest) =>
    let port := (Text.cut (.char ']') rest).2.getD []
    before.isEmpty && (port.isEmpty || port.head? == some (.char ':'))
  | (_, none) => true

/-- The part that names the host is well formed: brackets come in pairs and hold an address, and no
character is taken for a delimiter. -/
def isNetloc (netloc : Text) : Bool :=
  let opens := netloc.contains (.char '[')
  let closes := netloc.contains (.char ']')
  (opens == closes) && (!opens || (bracketsAlone netloc && Host.isBracketed (host netloc))) &&
    !netloc.any fun c => delimiterLike.contains c.toNat

/-- The address, with all parts in place, is one of the Web and names a host. -/
def namesHost (s : Text) : Bool :=
  let s := (s.dropWhile isControl).filter (!isDropped ·)
  let (scheme, rest) := splitScheme s
  match netloc? rest with
  | none => false
  | some netloc =>
    isNetloc netloc && (scheme == Text.ofString "http" || scheme == Text.ofString "https") &&
      !(host netloc).isEmpty

/-- What comes before an address without a scheme. -/
def defaultScheme : Text := "https://"

/-- The address is usable. -/
def isUsable (url : Text) : Bool :=
  let s := Text.trim url
  let has := fun part : String => Text.occursIn (Text.ofString part) s
  let startsWith := fun c : Char => s.head? == some (.char c)
  if s.isEmpty || has " " || has ".." || startsWith '.' || s.getLast? == some (.char '.') then
    false
  else if has "://" then namesHost s
  else if has "." && !startsWith '/' then namesHost (defaultScheme ++ s)
  else false

end Bookmarks.Url
