import Bookmarks.Proofs.Fault
import Bookmarks.Server.State
import Mathlib

/-!
# What the server keeps

An action ends with a value or a fault, and leaves a server behind in either case. The two actions
that fill what is kept are described here by what they give and by the server that they leave.

* `Action.on`: the outcome of an action on a server, with one lemma for each way to build actions.
* `Server.currentSettings`, `Server.keepSettings`: the settings in use, and the server that keeps
  them.
* `Server.readStore`, `Server.outcome`: what reading a store gives, and what a load makes of it.
* `Server.currentEntries`, `Server.keepEntries`: the bookmarks in use, and the server that keeps
  them.
* **`Server.on_getSettings`**, **`Server.on_loadEntries`**: asking for the settings and for the
  bookmarks.
-/

namespace Bookmarks

/-! ## Running actions -/

namespace Action

variable {α β : Type}

/-- The outcome of an action on a server, and the server after it. -/
def on (a : Action α) (s : Server) : Except Fault α × Server :=
  a.run.run s

@[simp] theorem on_pure (x : α) (s : Server) : on (pure x) s = (.ok x, s) := rfl

@[simp] theorem on_get (s : Server) : on get s = (.ok s, s) := rfl

@[simp] theorem on_lift (x : Except Fault α) (s : Server) :
    on (liftM x : Action α) s = (x, s) := rfl

theorem on_bind (a : Action α) (f : α → Action β) (s : Server) :
    on (a >>= f) s = match on a s with
      | (.ok x, t) => on (f x) t
      | (.error e, t) => (.error e, t) := by
  change (match on a s with | (x, t) => ExceptT.bindCont f x t) = _
  rcases on a s with ⟨_ | x, t⟩ <;> rfl

theorem on_map (g : α → β) (a : Action α) (s : Server) :
    on (g <$> a) s = ((on a s).1.map g, (on a s).2) := by
  rw [← bind_pure_comp, on_bind]
  rcases on a s with ⟨_ | x, t⟩ <;> rfl

theorem on_tryCatch (a : Action α) (handle : Fault → Action α) (s : Server) :
    on (tryCatch a handle) s = match on a s with
      | (.ok x, t) => (.ok x, t)
      | (.error e, t) => on (handle e) t := by
  unfold on tryCatch instMonadExceptOfMonadExceptOf
  simp only [tryCatchThe, MonadExceptOf.tryCatch, ExceptT.tryCatch, ExceptT.run, ExceptT.mk,
    StateT.run, bind, StateT.bind]
  cases a s with
  | mk result t => cases result <;> rfl

end Action

namespace Server

open Bookmarks.Action

/-! ## Settings -/

/-- The settings in use: those that are kept, or else what the environment gives. -/
def currentSettings (s : Server) : Except Fault Settings :=
  match s.settings with
  | some settings => .ok settings
  | none => Settings.ofEnvironment s.homes s.environment

/-- The server with the settings in use kept. -/
def keepSettings (s : Server) : Server :=
  { s with settings := s.currentSettings.toOption }

/-- **Asking for the settings** gives those in use and keeps them, unless they cannot be read. -/
theorem on_getSettings (s : Server) : on getSettings s = (s.currentSettings, s.keepSettings) := by
  obtain ⟨usual, homes, files, environment, now, settings, entries, notices⟩ := s
  cases settings with
  | some settings => rfl
  | none =>
    simp only [getSettings, on_bind, on_get, on_lift, currentSettings, keepSettings]
    cases Settings.ofEnvironment homes environment <;> rfl

@[simp] theorem currentSettings_keepSettings (s : Server) :
    s.keepSettings.currentSettings = s.currentSettings := by
  obtain ⟨usual, homes, files, environment, now, settings, entries, notices⟩ := s
  cases settings with
  | some settings => rfl
  | none =>
    change (match (Settings.ofEnvironment homes environment).toOption with
      | some settings => .ok settings
      | none => Settings.ofEnvironment homes environment) = Settings.ofEnvironment homes environment
    cases Settings.ofEnvironment homes environment <;> rfl

/-! ## Bookmarks -/

/-- The path that a load reads from: the one given, or else that of the settings in use. -/
def storePath (s : Server) : Option String → Except Fault String
  | some path => .ok path
  | none => s.currentSettings.map fun settings => settings.path s.usualPath

/-- The store that a load reads. -/
def readStore (s : Server) (path : Option String) : Except Fault Store.Loaded := do
  let path ← s.storePath path
  StoreFile.load path (s.fileAt path)

/-- The bookmarks that reading the store gives, none at all if it fails for any cause. -/
def outcome (s : Server) (path : Option String) : List Entry :=
  match s.readStore path with
  | .ok loaded => loaded.entries
  | .error _ => []

/-- The notices on reading the store. -/
def readNotices (s : Server) (path : Option String) : List String :=
  match s.readStore path with
  | .ok loaded => loaded.notices
  | .error f => [failureNotice f]

/-- The bookmarks in use: those that are kept, or else what reading the store gives. -/
def currentEntries (s : Server) (path : Option String) : List Entry :=
  s.entries.getD (s.outcome path)

/-- The server after a load has found the path to read from. -/
def afterPath (s : Server) (path : Option String) : Server :=
  if path.isNone then s.keepSettings else s

/-- The server after a load: the bookmarks that it gave, or none at all, are kept. -/
def afterLoad (s : Server) (path : Option String) : Server :=
  let t := s.afterPath path
  { t with entries := some (s.outcome path), notices := t.notices ++ s.readNotices path }

/-- The server with the bookmarks in use kept. -/
def keepEntries (s : Server) (path : Option String) : Server :=
  match s.entries with
  | some _ => s
  | none => s.afterLoad path

theorem on_readEntries (s : Server) (path : Option String) :
    on (readEntries path) s = match s.readStore path with
      | .ok loaded => (.ok loaded.entries,
          { s.afterPath path with notices := (s.afterPath path).notices ++ loaded.notices })
      | .error f => (.error f, s.afterPath path) := by
  cases path with
  | some path =>
    change _ = match StoreFile.load path (s.fileAt path) with | .ok _ => _ | .error _ => _
    simp only [readEntries, on_bind, on_pure, on_get, on_lift]
    cases StoreFile.load path (s.fileAt path) <;> rfl
  | none =>
    simp only [readEntries, on_bind, on_pure, on_get, on_lift, on_getSettings]
    cases h : s.currentSettings with
    | error f =>
      have hread : s.readStore none = .error f := by rw [readStore, storePath, h]; rfl
      rw [hread]
      rfl
    | ok settings =>
      have hread : s.readStore none = StoreFile.load (settings.path s.keepSettings.usualPath)
          (s.keepSettings.fileAt (settings.path s.keepSettings.usualPath)) := by
        rw [readStore, storePath, h]
        rfl
      rw [hread]
      dsimp only
      cases StoreFile.load (settings.path s.keepSettings.usualPath)
        (s.keepSettings.fileAt (settings.path s.keepSettings.usualPath)) <;> rfl

/-- **Asking for the bookmarks** gives those in use and keeps them, even if they cannot be read. -/
theorem on_loadEntries (s : Server) (path : Option String) :
    on (loadEntries path) s = (.ok (s.currentEntries path), s.keepEntries path) := by
  cases h : s.entries with
  | some entries => simp [loadEntries, on_bind, h, currentEntries, keepEntries]
  | none =>
    simp only [loadEntries, on_bind, on_get, h, on_tryCatch, on_readEntries, currentEntries,
      keepEntries, afterLoad, outcome, readNotices]
    cases s.readStore path <;> rfl

end Server

end Bookmarks
