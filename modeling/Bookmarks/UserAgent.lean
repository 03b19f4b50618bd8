import Bookmarks.Text.Digit
import Bookmarks.Text.Occurs

/-!
# User agents

The header that a browser sends names the browser, the operating system and the device, if one knows
where to look. Certain words are looked for in a fixed order, and the version of the operating
system stands at the leftmost place where the words before it are followed by numbers.

* `UserAgent.version?`: the version in a text.
* `UserAgent.browserOf`, `osOf`, `deviceOf`: the three labels.
* `UserAgent.parse`, `UserAgent.describe`: all labels, and their text.
-/

namespace Bookmarks

/-- What a user agent says. -/
structure UserAgent where
  text : Text
  browser : Text
  os : Text
  device : Text
deriving DecidableEq, Repr

namespace UserAgent

/-- The label for what is not recognised. -/
def unknown : Text := "Unknown"

/-- A run of digits as long as possible, and what follows. -/
def digitRun? (s : Text) : Option (Text × Text) :=
  let digits := s.takeWhile Text.isDigit
  if digits.isEmpty then none else some (digits, s.dropWhile Text.isDigit)

/-- One of the separators and a run of digits after it, and what follows. -/
def group? (separators : Text) : Text → Option (Text × Text)
  | c :: rest =>
    if separators.contains c then (digitRun? rest).map fun (digits, rest) => (c :: digits, rest)
    else none
  | [] => none

/-- The form of a version: a run of digits, `required` further groups of a separator and digits, and
`optional` groups more if they are there. -/
structure VersionForm where
  separators : Text
  required : Nat
  optional : Nat

/-- The required and the optional groups at the beginning of a text. -/
def groups? (separators : Text) : (required optional : Nat) → Text → Option Text
  | 0, 0, _ => some []
  | 0, optional + 1, s =>
    match group? separators s with
    | none => some []
    | some (group, rest) => (groups? separators 0 optional rest).map (group ++ ·)
  | required + 1, optional, s => do
    let (group, rest) ← group? separators s
    return group ++ (← groups? separators required optional rest)

/-- The version at the beginning of a text. -/
def VersionForm.here? (form : VersionForm) (s : Text) : Option Text := do
  let (digits, rest) ← digitRun? s
  return digits ++ (← groups? form.separators form.required form.optional rest)

/-- The version at the leftmost place where the words before it are followed by one. -/
def version? (words : Text) (form : VersionForm) (ua : Text) : Option Text :=
  Text.leftmost? (fun s => (Text.after? words s).bind form.here?) ua

/-- The text of a version, with points for underscores. -/
def versionText (version : Text) : Text :=
  version.map fun c => if c = .char '_' then .char '.' else c

/-- The name of a system, with its version if it is known. -/
def named (name : Text) : Option Text → Text
  | none => name
  | some version => name ++ .char ' ' :: versionText version

/-- The names by which some versions of Windows are known. -/
def windowsNames : List (Text × Text) :=
  [("10.0", "Windows 10/11"), ("6.3", "Windows 8.1"), ("6.2", "Windows 8"), ("6.1", "Windows 7")]

/-- The name of Windows, by its version. -/
def windows : Option Text → Text
  | none => "Windows"
  | some version => (windowsNames.lookup version).getD ("Windows " ++ version)

/-- The label of the browser. -/
def browserOf (ua : Text) : Text :=
  let has := fun word : String => Text.occursIn (Text.ofString word) ua
  if has "Firefox" && !has "Chrome" then "Firefox"
  else if has "Chrome" && !has "Edge" then
    if has "OPR" then "Opera" else if has "Brave" then "Brave" else "Chrome"
  else if has "Edge" then "Edge"
  else if has "Safari" && !has "Chrome" then "Safari"
  else if has "Opera" then "Opera"
  else unknown

/-- The label of the operating system. -/
def osOf (ua : Text) : Text :=
  let has := fun word : String => Text.occursIn (Text.ofString word) ua
  if has "Windows NT" then windows (version? "Windows NT " ⟨[.char '.'], 1, 0⟩ ua)
  else if has "Mac OS X" then named "macOS" (version? "Mac OS X " ⟨[.char '.', .char '_'], 2, 0⟩ ua)
  else if has "Linux" then
    if has "Android" then named "Android" (version? "Android " ⟨[.char '.'], 0, 1⟩ ua) else "Linux"
  else if has "iPhone OS" || has "iPad" then
    named (if has "iPad" then "iPadOS" else "iOS")
      (version? "OS " ⟨[.char '.', .char '_'], 1, 1⟩ ua)
  else unknown

/-- The label of the device. -/
def deviceOf (ua : Text) : Text :=
  let has := fun word : String => Text.occursIn (Text.ofString word) ua
  if has "Mobile" || has "Android" then
    if has "iPad" then "Tablet"
    else if has "iPhone" || has "iPod" then "Mobile"
    else if has "Android" then if has "Mobile" then "Mobile" else "Tablet"
    else "Mobile"
  else if has "iPad" then "Tablet"
  else "Desktop"

/-- All that a user agent says. -/
def parse (ua : Text) : UserAgent :=
  ⟨ua, browserOf ua, osOf ua, deviceOf ua⟩

/-- The labels in one line. -/
def describe (info : UserAgent) : Text :=
  info.browser ++ " on " ++ info.os ++ " (" ++ info.device ++ ")"

end UserAgent

end Bookmarks
