import Bookmarks.Proofs.Server.Request

/-!
# What a run of the server keeps

A run is a list of steps from a server that has read nothing yet. What is kept at any point of it
comes from the first step, since the last one that forgets, in which it was read. Bookmarks are kept
even where they could not be read, and settings are not.

* `Turn`, `Server.turns`: a step with the server it is taken on, and those of a run.
* `Turn.outcome?`, `Turn.settings?`: the bookmarks and the settings that a step reads, as they
  would be if nothing were kept.
* `firstEntries`, `firstSettings`: what was read first since it was last forgotten.
* `Keeps`: a part of the server that keeps what is read first. `Turn.keeps_entries`,
  `Turn.keeps_settings` and `Turn.reply_eq` are about a single step, `Keeps.first` is about a run.
* **`Server.usesFirst_turn`**: at every turn of a run, what was read first is what is used.
-/

namespace Bookmarks

open Bookmarks.Action Bookmarks.Request
open Bookmarks.Server (errorLine noBookmarks)

/-! ## Steps -/

namespace Step

/-- The bookmarks are forgotten in a step. -/
def forgetsEntries : Step → Bool
  | forgetEntries => true
  | _ => false

/-- The settings are forgotten in a step. -/
def forgetsSettings : Step → Bool
  | forgetSettings => true
  | _ => false

/-- The result of a step, by the settings, the time and the bookmarks that are used in it. -/
def reply (settings : Except Fault Settings) (now : Timestamp) (cached : Bool)
    (entries : List Entry) : Step → Except Fault Reply
  | load _ => .ok (.loaded (entries.map fun e => e.bookmark.url) cached)
  | call name arguments =>
    .answer <$> conclude settings now entries (ofCall settings name arguments)
  | _ => .ok .done

end Step

/-- A step and the server that it is taken on. -/
structure Turn where
  server : Server
  step : Step

namespace Turn

/-- The result of the step. -/
def reply (t : Turn) : Except Fault Reply :=
  (t.server.step t.step).1

/-- The server after the step. -/
def after (t : Turn) : Server :=
  (t.server.step t.step).2

/-- The request that the step comes to, if it is a call and its checks end with one. -/
def request? (t : Turn) : Option Request :=
  match t.step with
  | .call name arguments => ofChecked? (ofCall t.server.currentSettings name arguments)
  | _ => none

/-- The path from which the bookmarks are asked for, if they are. -/
def loadPath? (t : Turn) : Option (Option String) :=
  match t.step with
  | .load path => some path
  | _ => t.request?.map fun _ => none

/-- What reading the store gives in this step, if the bookmarks are asked for. -/
def outcome? (t : Turn) : Option (List Entry) :=
  t.loadPath?.map t.server.outcome

/-- The settings are asked for in this step. -/
def asksSettings (t : Turn) : Bool :=
  match t.step with
  | .load path => t.server.entries.isNone && path.isNone
  | .call name arguments =>
    callAsks name arguments || t.request?.any fun r =>
      t.server.entries.isNone || r.asks (t.server.currentEntries none)
  | _ => false

/-- The settings that the environment gives in this step, if they are asked for. -/
def settings? (t : Turn) : Option Settings :=
  if t.asksSettings then (Settings.ofEnvironment t.server.homes t.server.environment).toOption
  else none

/-- A call that is turned down: it has no tool, its arguments are no object, or it is answered with
a line on an error. Calls of `parse_query` are counted here as well. -/
def IsIdle (t : Turn) : Prop :=
  ∃ name arguments, t.step = .call name arguments ∧
    (Tool.ofName? name = none ∨ Tool.ofName? name = some .parseQuery ∨
      (Arguments.ofJson arguments).isOk = false ∨
      ∃ text, t.reply = .ok (.answer (errorLine text)))

end Turn

/-- The server after some steps. -/
def Server.after (s : Server) (steps : List Step) : Server :=
  steps.foldl (fun s st => (s.step st).2) s

/-- Some steps, each with the server that it is taken on. -/
def Server.turns (s : Server) : List Step → List Turn
  | [] => []
  | st :: steps => ⟨s, st⟩ :: (s.step st).2.turns steps

/-! ## The first reading -/

/-- The first value since the last step that forgets. -/
def firstSince {α : Type} (forgets : Step → Bool) (value? : Turn → Option α)
    (turns : List Turn) : Option α :=
  (turns.rtakeWhile fun t => !forgets t.step).findSome? value?

/-- The bookmarks that were read first since they were last forgotten. -/
def firstEntries : List Turn → Option (List Entry) :=
  firstSince Step.forgetsEntries Turn.outcome?

/-- The settings that were read first since they were last forgotten. -/
def firstSettings : List Turn → Option Settings :=
  firstSince Step.forgetsSettings Turn.settings?

theorem firstSince_concat {α : Type} (forgets : Step → Bool) (value? : Turn → Option α)
    (turns : List Turn) (t : Turn) :
    firstSince forgets value? (turns ++ [t]) =
      if forgets t.step then none else (firstSince forgets value? turns).or (value? t) := by
  unfold firstSince
  rw [List.rtakeWhile_concat]
  cases h : forgets t.step with
  | true => rfl
  | false => simp only [Bool.not_false, if_true, List.findSome?_append, List.findSome?_singleton,
      Bool.false_eq_true, if_false]

/-- The settings in use: those that were read first, or else what the environment gives now. -/
def settingsInUse (before : List Turn) (s : Server) : Except Fault Settings :=
  match firstSettings before with
  | some settings => .ok settings
  | none => Settings.ofEnvironment s.homes s.environment

/-- What is kept and used in a turn that comes after others. -/
structure Turn.UsesFirst (t : Turn) (before : List Turn) : Prop where
  /-- The bookmarks that are kept were read first since they were last forgotten. -/
  entries : t.server.entries = firstEntries before
  entries_after : t.after.entries = firstEntries (before ++ [t])
  /-- So were the settings, from an environment that gives any. -/
  settings : t.server.settings = firstSettings before
  settings_after : t.after.settings = firstSettings (before ++ [t])
  /-- The result is made from these. -/
  reply : t.reply = t.step.reply (settingsInUse before t.server) t.server.clock
    (firstEntries before).isSome ((firstEntries (before ++ [t])).getD [])
  /-- Bookmarks that were read stay until they are forgotten, and settings stay as well. -/
  entries_stay : ∀ es later, t.after.entries = some es →
    (∀ st ∈ later, st.forgetsEntries = false) → (t.after.after later).entries = some es
  settings_stay : ∀ c later, t.after.settings = some c →
    (∀ st ∈ later, st.forgetsSettings = false) → (t.after.after later).settings = some c
  /-- A call that is turned down reads no bookmarks, and keeps those that are kept. -/
  idle : t.IsIdle → t.outcome? = none ∧ t.after.entries = t.server.entries
  /-- Settings that cannot be read are not kept. -/
  unread : ∀ f, settingsInUse before t.server = .error f → t.after.settings = none

/-- A part of the server that keeps what is read first: in a step it is forgotten, or else it stays
where there is any, and is read where there is none. -/
def Keeps {α : Type} (kept : Server → Option α) (forgets : Step → Bool)
    (value? : Turn → Option α) : Prop :=
  ∀ t : Turn, kept t.after = if forgets t.step then none else (kept t.server).or (value? t)

/-! ## A single step -/

namespace Server

theorem toOption_currentSettings (s : Server) : s.currentSettings.toOption =
    s.settings.or (Settings.ofEnvironment s.homes s.environment).toOption := by
  unfold currentSettings
  cases s.settings <;> rfl

theorem entries_keepEntries (s : Server) (path : Option String) :
    (s.keepEntries path).entries = some (s.currentEntries path) := by
  unfold keepEntries currentEntries
  cases h : s.entries with
  | some entries => exact h
  | none => rfl

theorem settings_keepEntries (s : Server) (path : Option String) :
    (s.keepEntries path).settings =
      if s.entries.isNone && path.isNone then s.currentSettings.toOption else s.settings := by
  unfold keepEntries
  cases s.entries with
  | some entries => rfl
  | none => cases path <;> rfl

theorem entries_afterRequest (s : Server) (r : Request) :
    (s.afterRequest r).entries = some (s.currentEntries none) := by
  unfold afterRequest
  split
  · exact s.entries_keepEntries none
  · exact s.entries_keepEntries none

theorem settings_afterRequest (s : Server) (r : Request) : (s.afterRequest r).settings =
    if s.entries.isNone || r.asks (s.currentEntries none) then s.currentSettings.toOption
    else s.settings := by
  unfold afterRequest
  cases r.asks (s.currentEntries none) with
  | true =>
    rw [Bool.or_true, if_pos rfl, if_pos rfl, ← s.currentSettings_keepEntries none]
    rfl
  | false =>
    rw [if_neg Bool.false_ne_true, s.settings_keepEntries none, Bool.or_false]
    simp only [Option.isNone_none, Bool.and_true]

theorem entries_finish (s : Server) (c : Checked) : (s.finish c).2.entries =
    s.entries.or ((ofChecked? c).map fun _ => s.outcome none) := by
  unfold finish
  cases ofChecked? c with
  | none => exact s.entries.or_none.symm
  | some r =>
    rw [Option.map_some, Option.or_some]
    exact s.entries_afterRequest r

theorem settings_finish (s : Server) (c : Checked) : (s.finish c).2.settings =
    if (ofChecked? c).any fun r => s.entries.isNone || r.asks (s.currentEntries none) then
      s.currentSettings.toOption
    else s.settings := by
  unfold finish
  cases ofChecked? c with
  | none => rfl
  | some r => exact s.settings_afterRequest r

theorem entries_afterChecks (s : Server) (asks : Bool) :
    (s.afterChecks asks).entries = s.entries := by
  cases asks <;> rfl

theorem settings_afterChecks (s : Server) (asks : Bool) : (s.afterChecks asks).settings =
    if asks then s.currentSettings.toOption else s.settings := by
  cases asks <;> rfl

theorem clock_afterChecks (s : Server) (asks : Bool) : (s.afterChecks asks).clock = s.clock := by
  cases asks <;> rfl

theorem currentSettings_afterChecks (s : Server) (asks : Bool) :
    (s.afterChecks asks).currentSettings = s.currentSettings := by
  cases asks with
  | true => exact s.currentSettings_keepSettings
  | false => rfl

theorem outcome_afterChecks (s : Server) (asks : Bool) (path : Option String) :
    (s.afterChecks asks).outcome path = s.outcome path := by
  cases asks with
  | true => exact s.outcome_keepSettings path
  | false => rfl

theorem currentEntries_afterChecks (s : Server) (asks : Bool) (path : Option String) :
    (s.afterChecks asks).currentEntries path = s.currentEntries path := by
  rw [currentEntries, entries_afterChecks, outcome_afterChecks]
  rfl

/-- The server as a step finds it, with no notices yet. -/
def silent (s : Server) : Server :=
  { s with notices := [] }

theorem step_load (s : Server) (path : Option String) :
    s.step (.load path) =
      (.ok (.loaded ((s.currentEntries path).map fun e => e.bookmark.url) s.entries.isSome),
        s.silent.keepEntries path) := by
  change on (perform (.load path)) s.silent = _
  simp only [perform, on_bind, on_get, on_loadEntries, on_pure]
  rfl

theorem step_call (s : Server) (name : String) (arguments : Json) :
    s.step (.call name arguments) =
      let next := (s.silent.afterChecks (callAsks name arguments)).finish
        (ofCall s.currentSettings name arguments)
      (.answer <$> next.1, next.2) := by
  change on (call name arguments >>= fun answer => pure (Reply.answer answer)) s.silent = _
  rw [bind_pure_comp, on_map, on_call]
  rfl

end Server

namespace Turn

theorem keeps_entries : Keeps Server.entries Step.forgetsEntries outcome? := by
  intro t
  obtain ⟨s, st⟩ := t
  cases st with
  | putFile | setVariables | setClock | forgetSettings => exact s.entries.or_none.symm
  | forgetEntries => rfl
  | load path =>
    change (s.step (.load path)).2.entries = s.entries.or (some (s.outcome path))
    rw [s.step_load path, Server.entries_keepEntries, Option.or_some]
    rfl
  | call name arguments =>
    change (s.step (.call name arguments)).2.entries = s.entries.or
      (((ofChecked? (ofCall s.currentSettings name arguments)).map fun _ => none).map s.outcome)
    rw [s.step_call name arguments, Server.entries_finish, Server.entries_afterChecks,
      Server.outcome_afterChecks, Option.map_map]
    rfl

theorem keeps_settings : Keeps Server.settings Step.forgetsSettings settings? := by
  intro t
  have hasks : ∀ asks : Bool,
      (if asks then t.server.currentSettings.toOption else t.server.settings) =
        t.server.settings.or (if asks then
          (Settings.ofEnvironment t.server.homes t.server.environment).toOption else none) := by
    intro asks
    cases asks with
    | true => exact t.server.toOption_currentSettings
    | false => exact t.server.settings.or_none.symm
  have hnot : t.step.forgetsSettings = false → t.after.settings =
      (if t.asksSettings then t.server.currentSettings.toOption else t.server.settings) →
      t.after.settings =
        if t.step.forgetsSettings then none else t.server.settings.or t.settings? := by
    intro h ha
    rw [h, ha, hasks]
    rfl
  obtain ⟨s, st⟩ := t
  cases st with
  | putFile | setVariables | setClock | forgetEntries => exact hnot rfl rfl
  | forgetSettings => rfl
  | load path =>
    refine hnot rfl ?_
    change (s.step (.load path)).2.settings = _
    rw [s.step_load path, Server.settings_keepEntries]
    rfl
  | call name arguments =>
    refine hnot rfl ?_
    change (s.step (.call name arguments)).2.settings =
      if callAsks name arguments ||
        (ofChecked? (ofCall s.currentSettings name arguments)).any fun r =>
          s.entries.isNone || r.asks (s.currentEntries none) then _ else _
    rw [s.step_call name arguments, Server.settings_finish, Server.entries_afterChecks,
      Server.currentEntries_afterChecks, Server.currentSettings_afterChecks,
      Server.settings_afterChecks]
    cases callAsks name arguments with
    | false => rfl
    | true => exact ite_self _

theorem reply_eq (t : Turn) : t.reply =
    t.step.reply t.server.currentSettings t.server.clock t.server.entries.isSome
      ((t.server.entries.or t.outcome?).getD []) := by
  obtain ⟨s, st⟩ := t
  have hused : ∀ es, (s.entries.or (some es)).getD [] = s.entries.getD es := by
    intro es
    rw [Option.or_some, Option.getD_some]
  cases st with
  | putFile | setVariables | setClock | forgetEntries | forgetSettings => rfl
  | load path =>
    change (s.step (.load path)).1 = .ok (.loaded (((s.entries.or (some (s.outcome path))).getD
      []).map _) _)
    rw [s.step_load path, hused]
    rfl
  | call name arguments =>
    change (s.step (.call name arguments)).1 = .answer <$> conclude _ _ ((s.entries.or
      (((ofChecked? (ofCall s.currentSettings name arguments)).map fun _ => none).map
        s.outcome)).getD []) _
    rw [s.step_call name arguments]
    simp only [Server.finish, Server.currentSettings_afterChecks, Server.clock_afterChecks,
      Server.currentEntries_afterChecks]
    cases ofCall s.currentSettings name arguments with
    | error f => rfl
    | ok c =>
      cases c with
      | inl answer => rfl
      | inr r =>
        rw [ofChecked?, Option.map_some, Option.map_some, hused]
        rfl

end Turn

/-! ## Calls that come to no request -/

namespace Request

theorem line_ne_errorLine {line : String} (h : line.toList.head? = some 'N') (text : String) :
    Answer.line line ≠ errorLine text := by
  intro heq
  rw [Answer.line.inj heq, String.toList_append] at h
  cases h

theorem respond_ne_errorLine {settings : Except Fault Settings} {now : Timestamp}
    {entries : List Entry} {r : Request} (text : String) :
    r.respond settings now entries ≠ .ok (errorLine text) := by
  have hnone : Except.ok noBookmarks ≠ (.ok (errorLine text) : Except Fault Answer) := by
    intro h
    exact line_ne_errorLine rfl text (Except.ok.inj h)
  intro h
  cases r with
  | search query page size =>
    rw [respond] at h
    split at h
    · exact hnone h
    · obtain ⟨found, -, h⟩ := Fault.bind_eq_ok.1 h
      obtain ⟨page, -, h⟩ := Fault.bind_eq_ok.1 h
      cases h
  | listTags filter =>
    rw [respond, Answer.ofTags] at h
    split at h
    · exact line_ne_errorLine rfl text (Except.ok.inj h)
    · cases h
  | relevant limit tags =>
    rw [respond] at h
    split at h
    · exact hnone h
    · obtain ⟨settings, -, h⟩ := Fault.bind_eq_ok.1 h
      obtain ⟨ranked, -, h⟩ := Fault.bind_eq_ok.1 h
      obtain ⟨results, -, h⟩ := Fault.bind_eq_ok.1 h
      obtain ⟨stats, -, h⟩ := Fault.bind_eq_ok.1 h
      cases h

end Request

namespace Turn

theorem loadPath?_of_isIdle {t : Turn} (h : t.IsIdle) : t.loadPath? = none := by
  obtain ⟨s, st⟩ := t
  obtain ⟨name, arguments, rfl, h⟩ := h
  suffices hc : ofChecked? (ofCall s.currentSettings name arguments) = none from
    congrArg (Option.map fun _ => none) hc
  rcases h with h | h | h | ⟨text, h⟩
  · rw [ofCall, h]
    rfl
  · rw [ofCall, h]
    cases Arguments.ofJson arguments with
    | error f => rfl
    | ok arguments =>
      change ofChecked? (arguments.text "query" >>= _) = none
      cases arguments.text "query" <;> rfl
  · rw [ofCall]
    cases Tool.ofName? name with
    | none => rfl
    | some tool =>
      cases ha : Arguments.ofJson arguments with
      | error f => rfl
      | ok arguments =>
        rw [ha] at h
        cases h
  · rw [reply_eq] at h
    change Reply.answer <$> conclude _ _ _ (ofCall s.currentSettings name arguments) = _ at h
    cases hc : ofCall s.currentSettings name arguments with
    | error f => rfl
    | ok c =>
      cases c with
      | inl answer => rfl
      | inr r =>
        rw [hc, Fault.map_eq_ok] at h
        obtain ⟨answer, h, heq⟩ := h
        obtain rfl := Reply.answer.inj heq
        exact absurd h (r.respond_ne_errorLine text)

end Turn

/-! ## Runs -/

namespace Server

theorem after_concat (s : Server) (steps : List Step) (st : Step) :
    s.after (steps ++ [st]) = (Turn.mk (s.after steps) st).after :=
  List.foldl_concat _ _ _ _

theorem turns_concat (s : Server) (steps : List Step) (st : Step) :
    s.turns (steps ++ [st]) = s.turns steps ++ [⟨s.after steps, st⟩] := by
  induction steps generalizing s with
  | nil => rfl
  | cons first steps ih => exact congrArg _ (ih _)

end Server

namespace Keeps

variable {α : Type} {kept : Server → Option α} {forgets : Step → Bool} {value? : Turn → Option α}

/-- **What is kept after a run** was read first since it was last forgotten. -/
theorem first (h : Keeps kept forgets value?) (s : Server) (hs : kept s = none)
    (steps : List Step) : kept (s.after steps) = firstSince forgets value? (s.turns steps) := by
  induction steps using List.reverseRecOn with
  | nil => exact hs
  | append_singleton steps st ih =>
    rw [s.after_concat, s.turns_concat, firstSince_concat, h, ← ih]

/-- **What is kept stays**, whatever happens but that it is forgotten. -/
theorem stay (h : Keeps kept forgets value?) (s : Server) {a : α} (hs : kept s = some a)
    (later : List Step) (hlater : ∀ st ∈ later, forgets st = false) :
    kept (s.after later) = some a := by
  induction later using List.reverseRecOn with
  | nil => exact hs
  | append_singleton later st ih =>
    have hkept : kept (s.after later) = some a :=
      ih fun st hst => hlater st (List.mem_append_left [_] hst)
    have hst : forgets st = false := hlater st (List.mem_append_right later List.mem_cons_self)
    rw [s.after_concat, h, hst, hkept]
    rfl

end Keeps

/-- What is used in a turn is what was read first if what is kept before it is. -/
theorem Turn.usesFirst {before : List Turn} {t : Turn}
    (hentries : t.server.entries = firstEntries before)
    (hsettings : t.server.settings = firstSettings before) : t.UsesFirst before := by
  have hentriesAfter : t.after.entries = firstEntries (before ++ [t]) := by
    rw [t.keeps_entries, hentries, firstEntries, firstSince_concat]
  have hsettingsAfter : t.after.settings = firstSettings (before ++ [t]) := by
    rw [t.keeps_settings, hsettings, firstSettings, firstSince_concat]
  have huse : settingsInUse before t.server = t.server.currentSettings := by
    rw [settingsInUse, ← hsettings]
    rfl
  refine ⟨hentries, hentriesAfter, hsettings, hsettingsAfter, ?_, ?_, ?_, ?_, ?_⟩
  · rw [t.reply_eq, huse, ← hentries]
    cases hst : t.step with
    | forgetEntries => rfl
    | _ =>
      rw [← hst, ← hentriesAfter, t.keeps_entries, hst]
      rfl
  · intro es later hes
    exact Turn.keeps_entries.stay _ hes later
  · intro c later hc
    exact Turn.keeps_settings.stay _ hc later
  · intro h
    have hnone : t.outcome? = none := by
      rw [outcome?, loadPath?_of_isIdle h]
      rfl
    obtain ⟨name, arguments, hst, -⟩ := h
    refine ⟨hnone, ?_⟩
    rw [t.keeps_entries, hst, hnone, Option.or_none]
    rfl
  · intro f hf
    have hnone : t.server.currentSettings.toOption = none := by
      rw [← huse, hf]
      rfl
    rw [t.server.toOption_currentSettings, Option.or_eq_none_iff] at hnone
    obtain ⟨hkept, hread⟩ := hnone
    rw [t.keeps_settings, hkept, settings?, hread, ite_self, Option.or_none, ite_self]

/-- **At every turn of a run, what was read first is what is used.** -/
theorem Server.usesFirst_turn (s : Server) (hentries : s.entries = none)
    (hsettings : s.settings = none) (steps : List Step) (st : Step) :
    (Turn.mk (s.after steps) st).UsesFirst (s.turns steps) :=
  Turn.usesFirst (Turn.keeps_entries.first s hentries steps)
    (Turn.keeps_settings.first s hsettings steps)

/-- A store that is missing counts as empty, also when there is one later. -/
theorem Server.usesFirst_turn_missing_store :
    let s : Server := ⟨"/usual", ⟨none, []⟩, [], [], Timestamp.epoch, none, none, []⟩
    let steps := [.load (some "/a"), .putFile "/a" (.bytes []), .call "no_tool" .null]
    let t : Turn := ⟨s.after steps, .load (some "/b")⟩
    s.entries = none ∧ s.settings = none ∧ t.UsesFirst (s.turns steps) ∧
      t.reply = .ok (.loaded [] true) :=
  ⟨rfl, rfl, Server.usesFirst_turn _ rfl rfl _ _, rfl⟩

end Bookmarks
