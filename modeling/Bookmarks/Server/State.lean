import Bookmarks.Settings
import Bookmarks.Store.File

/-!
# The state of the server

The server reads its settings and its bookmarks when they are first needed and keeps them until it
is told to forget them. Settings that cannot be read are not kept. Bookmarks that cannot be read
count as none, and that is kept.

* `Server`: the state, with the world around it: files, environment and clock.
* `Action`: what may fail, and changes the state even then.
* `Server.getSettings`, `Server.loadEntries`: the two things that are kept.
-/

namespace Bookmarks

/-- The server and the world around it. -/
structure Server where
  /-- The path of the store where the settings name none. -/
  usualPath : String
  /-- The home directories of the machine. -/
  homes : Homes
  files : Table String StoreFile
  environment : Environment
  clock : Timestamp
  /-- The settings, once they have been read. -/
  settings : Option Settings
  /-- The bookmarks, once they have been read. -/
  entries : Option (List Entry)
  /-- The lines written to the error channel since the beginning of the step. -/
  notices : List String

/-- What may fail, and changes the state even then. -/
abbrev Action : Type → Type := ExceptT Fault (StateM Server)

namespace Server

/-- What stands at a path. -/
def fileAt (s : Server) (path : String) : StoreFile :=
  (s.files.get? path).getD .missing

/-- The settings; they are read on the first call that succeeds. -/
def getSettings : Action Settings := do
  let s ← get
  match s.settings with
  | some settings => return settings
  | none =>
    let settings ← Settings.ofEnvironment s.homes s.environment
    set { s with settings := some settings }
    return settings

/-- Reads the bookmarks from a path, or else from the one in the settings. -/
def readEntries (path : Option String) : Action (List Entry) := do
  let path ←
    match path with
    | some path => pure path
    | none => pure ((← getSettings).path (← get).usualPath)
  let loaded ← StoreFile.load path ((← get).fileAt path)
  modify fun s => { s with notices := s.notices ++ loaded.notices }
  return loaded.entries

/-- The notice on a store that cannot be read. -/
def failureNotice (fault : Fault) : String :=
  match fault with
  | .storeMissing _ => "Warning: Could not find bookmark store: " ++ fault.message
  | fault => "Error loading bookmarks: " ++ fault.message

/-- A line more on the error channel. -/
def notify (line : String) : Action Unit :=
  modify fun s => { s with notices := s.notices ++ [line] }

/-- No bookmarks, and a notice on why the store cannot be read. -/
def noEntries (fault : Fault) : Action (List Entry) := do
  notify (failureNotice fault)
  return []

/-- The bookmarks; they are read on the first call, and there are none if that fails. -/
def loadEntries (path : Option String) : Action (List Entry) := do
  match (← get).entries with
  | some entries => return entries
  | none =>
    let entries ← tryCatch (readEntries path) noEntries
    modify fun s => { s with entries := some entries }
    return entries

end Server

end Bookmarks
