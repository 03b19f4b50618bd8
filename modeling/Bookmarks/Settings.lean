import Bookmarks.Path
import Bookmarks.Relevance.Config

/-!
# Settings

The settings are read from the variables of the environment. Those of relevance are numbers, the
size of a page is an integer, and the path of the store may begin in the home directory.

* `Settings.usualPath`, `Settings.path`: the path of the store.
* `Settings.ofEnvironment`: the settings of an environment, or what is wrong with it.
-/

namespace Bookmarks

/-- The variables of the environment. -/
abbrev Environment : Type := Table String String

/-- The settings of the program. -/
structure Settings where
  relevance : RelevanceConfig
  /-- The path of the store, none for the usual one. -/
  storePath : Option String
  pageSize : Int
deriving DecidableEq

namespace Settings

/-- The usual path of the store, in a home directory. -/
def usualPath (home : String) : String :=
  let s := home.toList
  Path.join (Path.root s) (Path.names s ++ [".bookmarks-search".toList, "bookmarks.json".toList])

/-- The path of the store: the one in the settings, or else the usual one. -/
def path (s : Settings) (usual : String) : String :=
  s.storePath.getD usual

/-- A number from a variable; `usual` is the text where it is not set. -/
def realVariable (env : Environment) (name usual : String) : Except Fault Number := do
  return .real (← Numeral.real ((env.get? name).getD usual))

/-- The home directories as the environment has them: it may name another one of its own. -/
def homes (machine : Homes) (env : Environment) : Homes :=
  { machine with own := (env.get? "HOME").orElse fun _ => machine.own }

/-- The settings of an environment on a machine. -/
def ofEnvironment (machine : Homes) (env : Environment) : Except Fault Settings := do
  let storePath ←
    match env.get? "BOOKMARKS_STORE_PATH" with
    | none => .ok none
    | some s => if s.isEmpty then .ok none else some <$> Path.expand (homes machine env) s.toList
  let clickWeight ← realVariable env "BOOKMARKS_CLICK_WEIGHT" "0.7"
  let recencyWeight ← realVariable env "BOOKMARKS_RECENCY_WEIGHT" "0.3"
  let decayDays ← realVariable env "BOOKMARKS_DECAY_DAYS" "30"
  let newItemDays ← realVariable env "BOOKMARKS_NEW_ITEM_DAYS" "7"
  let pageSize ← Numeral.integer ((env.get? "BOOKMARKS_PAGE_SIZE").getD "20")
  let relevance := { RelevanceConfig.standard with
    clickWeight, recencyWeight, decayDays, newItemDays }
  return ⟨relevance, storePath, pageSize⟩

end Settings

end Bookmarks
