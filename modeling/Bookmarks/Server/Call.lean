import Bookmarks.Server.Answer
import Bookmarks.Server.State
import Bookmarks.Server.Tool

/-!
# Calling the tools

* `Arguments.positive`: a whole number among the arguments.
* `Server.call`: the answer of a tool to its arguments. An argument that does not fit is answered
  with a line on what is wrong with it.
* `Step`, `Server.step`: all that can happen to the server, one thing at a time.
-/

namespace Bookmarks

/-- The arguments of a call, by their names. -/
abbrev Arguments : Type := Table Text Json

namespace Arguments

/-- The arguments that a value holds: what does not count as present holds none. -/
def ofJson (value : Json) : Except Fault Arguments :=
  if !value.isTrue then .ok []
  else
    match value with
    | .object fields => .ok fields
    | value => .error (.notObject value.kind)

/-- The positive integer of a name. Null stands for `usual`, and so does a missing one, which is
checked as well. -/
def positive (arguments : Arguments) (name : String) (usual : Int) : Except Fault Int :=
  match (arguments.get? (Text.ofString name)).getD (.number (.int usual)) with
  | .null => .ok usual
  | .number (.int n) => if n < 1 then .error (.notPositive name) else .ok n
  | _ => .error (.notPositive name)

/-- The text of the argument of a name, empty if it is missing. -/
def text (arguments : Arguments) (name : String) : Except Fault Text :=
  ((arguments.get? (Text.ofString name)).getD (.string [])).text

/-- The text of a value that is one. -/
def string? : Json → Option Text
  | .string s => some s
  | _ => none

/-- The tags among the arguments, if they are a list of texts; none for what does not count as
present. -/
def tags? (arguments : Arguments) : Option (List Text) :=
  match Json.field arguments "tags" with
  | .array items => items.mapM string?
  | value => if value.isTrue then none else some []

end Arguments

namespace Server

/-- An answer on what is wrong with a call. -/
def errorLine (text : String) : Answer :=
  .line ("Error: " ++ text)

/-- The answer where there are no bookmarks. -/
def noBookmarks : Answer :=
  .line "No bookmarks available. Please check the bookmark store path."

/-- What fails in the arguments is answered; a home directory that cannot be found is not. -/
def answered {α : Type} (action : Action α) (next : α → Action Answer) : Action Answer := do
  let result ← observing action
  match result with
  | .ok value => next value
  | .error .noHome => throw .noHome
  | .error fault => return errorLine fault.message
where
  /-- The outcome of an action, as a value. -/
  observing (action : Action α) : Action (Except Fault α) :=
    tryCatch (Except.ok <$> action) fun fault => return .error fault

/-- The page and its size that a search asks for. -/
def pageArguments (arguments : Arguments) : Action (Int × Int) := do
  let page ← arguments.positive "page" 1
  let settings ← getSettings
  let size ← arguments.positive "per_page" settings.pageSize
  return (page, size)

/-- A page of the bookmarks that pass a query. -/
def searchPage (query : Text) (page size : Int) : Action Answer := do
  let entries ← loadEntries none
  if entries.isEmpty then return noBookmarks
  else
    let found ← Filtered.ofQuery query entries (← get).clock
    return .ofPage found (← paginate found.data page size)

/-- The most relevant bookmarks among those with one of the tags. -/
def relevantEntries (limit : Int) (tags : List Text) : Action Answer := do
  let entries ← loadEntries none
  if entries.isEmpty then return noBookmarks
  else
    let settings ← getSettings
    Answer.ofRanking (withAnyTag tags entries) limit settings.relevance (← get).clock

/-- The answer of a tool to its arguments. -/
def answer (tool : Tool) (arguments : Arguments) : Action Answer :=
  match tool with
  | .search =>
    match Json.field arguments "query" with
    | .null => return errorLine "'query' parameter is required"
    | query =>
      answered (pageArguments arguments) fun (page, size) => do
        searchPage (← query.text) page size
  | .parseQuery => do
    return .document (Spec.parse (← arguments.text "query")).toJson
  | .listTags => do
    let text ← arguments.text "filter"
    let entries ← loadEntries none
    return .ofTags (tagsContaining text (tagCounts (entries.map Entry.bookmark)))
  | .relevant =>
    answered (arguments.positive "limit" 10) fun limit => do
      match arguments.tags? with
      | none => return errorLine "'tags' must be a list of strings"
      | some tags => relevantEntries limit tags

/-- The answer of the tool with a name. -/
def call (name : String) (arguments : Json) : Action Answer := do
  match Tool.ofName? name with
  | none => throw (.unknownTool name)
  | some tool => answer tool (← Arguments.ofJson arguments)

end Server

/-! ## Steps -/

/-- All that can happen to the server. -/
inductive Step where
  /-- Another file stands at a path. -/
  | putFile (path : String) (file : StoreFile)
  /-- Variables are set, or removed. -/
  | setVariables (changes : List (String × Option String))
  /-- The clock is set. -/
  | setClock (now : Timestamp)
  /-- The bookmarks are forgotten. -/
  | forgetEntries
  /-- The settings are forgotten. -/
  | forgetSettings
  /-- The bookmarks are asked for, from a path or from that of the settings. -/
  | load (path : Option String)
  /-- A tool is called. -/
  | call (name : String) (arguments : Json)

/-- The result of a step. -/
inductive Reply where
  | done
  /-- The addresses of the bookmarks, and whether they had been read before. -/
  | loaded (urls : List Text) (cached : Bool)
  | answer (answer : Answer)

namespace Server

/-- The environment with some variables set or removed. -/
def changeVariables (env : Environment) (changes : List (String × Option String)) : Environment :=
  changes.foldl
    (fun env (name, value) =>
      match value with
      | some value => env.set name value
      | none => env.erase name)
    env

/-- What happens in a step. -/
def perform : Step → Action Reply
  | .putFile path file => do
    modify fun s => { s with files := s.files.set path file }
    return .done
  | .setVariables changes => do
    modify fun s => { s with environment := changeVariables s.environment changes }
    return .done
  | .setClock now => do
    modify fun s => { s with clock := now }
    return .done
  | .forgetEntries => do
    modify fun s => { s with entries := none }
    return .done
  | .forgetSettings => do
    modify fun s => { s with settings := none }
    return .done
  | .load path => do
    let cached := (← get).entries.isSome
    let entries ← loadEntries path
    return .loaded (entries.map fun e => e.bookmark.url) cached
  | .call name arguments => return .answer (← call name arguments)

/-- One step: its result or fault, and the server after it, with the notices of this step. -/
def step (server : Server) (s : Step) : Except Fault Reply × Server :=
  (perform s).run.run { server with notices := [] }

end Server

end Bookmarks
