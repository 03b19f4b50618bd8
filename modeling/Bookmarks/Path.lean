import Bookmarks.Fault
import Bookmarks.Table
import Bookmarks.Text.Split

/-!
# Paths

A path has a root, or none, and names. In its plain form there is one slash between two names.

* `Path.root`, `Path.names`: the parts of a path.
* `Homes`: the home directories that a path may begin with.
* `Path.expand`: the plain form, with the home directory for a `~` in front.
-/

namespace Bookmarks

/-- The home directories of a machine. -/
structure Homes where
  /-- The one of the account that runs the program. -/
  own : Option String
  /-- Those of all accounts, by name. -/
  ofAccount : Table String String

namespace Path

/-- The root of a path: two slashes in front are kept, three or more count as one. -/
def root : List Char → List Char
  | '/' :: '/' :: '/' :: _ => ['/']
  | '/' :: '/' :: _ => ['/', '/']
  | '/' :: _ => ['/']
  | _ => []

/-- The names in a path, without empty ones and the points that stand for no step. -/
def names (s : List Char) : List (List Char) :=
  (Text.splitOn '/' s).filter fun name => !name.isEmpty && name != ['.']

/-- A path from its root and names. -/
def join (root : List Char) (names : List (List Char)) : String :=
  let s := root ++ ['/'].intercalate names
  if s.isEmpty then "." else String.ofList s

/-- A home directory without the slashes at its end; with nothing left it is the root. -/
def trimHome (home : String) : List Char :=
  let s := Text.dropEnd (· == '/') home.toList
  if s.isEmpty then ['/'] else s

/-- The home directory of an account; no name stands for the one that runs the program. A directory
that begins with `~` itself is as good as none. -/
def home? (homes : Homes) (account : List Char) : Option (List Char) :=
  let home := if account.isEmpty then homes.own else homes.ofAccount.get? (String.ofList account)
  (home.map trimHome).filter fun s => s.head? != some '~'

/-- A path in its plain form, with the home directory for a `~` in front. -/
def expand (homes : Homes) (s : List Char) : Except Fault String :=
  match root s, names s with
  | [], ('~' :: account) :: rest =>
    match home? homes account with
    | some home => .ok (join (root home) (names home ++ rest))
    | none => .error .noHome
  | root, names => .ok (join root names)

end Path

end Bookmarks
