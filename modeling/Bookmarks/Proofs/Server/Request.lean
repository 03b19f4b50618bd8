import Bookmarks.Proofs.Server.Kept
import Bookmarks.Server.Call

/-!
# What a call comes down to

A call begins with checks of its arguments. They end with an answer, or with a request to the
bookmarks in use. Both parts are functions of the settings in use, the time and the bookmarks, and
the server is seen nowhere else.

* `Request`, `Request.ofCall`: the requests, and how the checks of a call end.
* `Request.respond`, `Request.conclude`: the answer to a request, and that of a call.
* `Server.afterChecks`, `Server.afterRequest`: the server after the two parts.
* **`Server.on_call`**: a call is its checks, followed by its request if there is one.
-/

namespace Bookmarks

/-- What is asked of the bookmarks in use. -/
inductive Request where
  | search (query : Text) (page size : Int)
  | listTags (text : Text)
  | relevant (limit : Int) (tags : List Text)

namespace Request

open Bookmarks.Server (errorLine noBookmarks)

/-- How checks end: with an answer or a request, if not with a fault. -/
abbrev Checked : Type := Except Fault (Answer ⊕ Request)

/-- What fails in a check is answered; a home directory that cannot be found is not. -/
def report {α : Type} (x : Except Fault α) (next : α → Checked) : Checked :=
  match x with
  | .ok value => next value
  | .error .noHome => .error .noHome
  | .error f => .ok (.inl (errorLine f.message))

/-- The page and its size that a search asks for. -/
def pageAndSize (settings : Except Fault Settings) (arguments : Arguments) :
    Except Fault (Int × Int) := do
  let page ← arguments.positive "page" 1
  let size ← arguments.positive "per_page" (← settings).pageSize
  return (page, size)

/-- How the checks of a tool end. -/
def check (settings : Except Fault Settings) (arguments : Arguments) : Tool → Checked
  | .search =>
    match Json.field arguments "query" with
    | .null => .ok (.inl (errorLine "'query' parameter is required"))
    | query => report (pageAndSize settings arguments) fun (page, size) => do
      return .inr (.search (← query.text) page size)
  | .parseQuery => do return .inl (.document (Spec.parse (← arguments.text "query")).toJson)
  | .listTags => do return .inr (.listTags (← arguments.text "filter"))
  | .relevant => report (arguments.positive "limit" 10) fun limit =>
    match arguments.tags? with
    | none => .ok (.inl (errorLine "'tags' must be a list of strings"))
    | some tags => .ok (.inr (.relevant limit tags))

/-- A tool asks for the settings in its checks: a search does so once its page is in order. -/
def checkAsks (arguments : Arguments) : Tool → Bool
  | .search =>
    match Json.field arguments "query" with
    | .null => false
    | _ => (arguments.positive "page" 1).isOk
  | _ => false

/-- How the checks of a call end. -/
def ofCall (settings : Except Fault Settings) (name : String) (arguments : Json) : Checked :=
  match Tool.ofName? name with
  | none => .error (.unknownTool name)
  | some tool => do check settings (← Arguments.ofJson arguments) tool

/-- A call asks for the settings in its checks. -/
def callAsks (name : String) (arguments : Json) : Bool :=
  match Tool.ofName? name, Arguments.ofJson arguments with
  | some tool, .ok arguments => checkAsks arguments tool
  | _, _ => false

/-- The answer to a request. -/
def respond (settings : Except Fault Settings) (now : Timestamp) (entries : List Entry) :
    Request → Except Fault Answer
  | search query page size =>
    if entries.isEmpty then .ok noBookmarks
    else do
      let found ← Filtered.ofQuery query entries now
      return .ofPage found (← paginate found.data page size)
  | listTags text => .ok (.ofTags (tagsContaining text (tagCounts (entries.map Entry.bookmark))))
  | relevant limit tags =>
    if entries.isEmpty then .ok noBookmarks
    else do Answer.ofRanking (withAnyTag tags entries) limit (← settings).relevance now

/-- A search is answered with a page of its result. -/
theorem respond_search {settings : Except Fault Settings} {now : Timestamp} {entries : List Entry}
    (hne : entries.isEmpty = false) {query : Text} {page size : Int} {found : Filtered}
    {p : Page Entry} (hfound : Filtered.ofQuery query entries now = .ok found)
    (hp : paginate found.data page size = .ok p) :
    (search query page size).respond settings now entries = .ok (.ofPage found p) := by
  rw [respond, hne, if_neg Bool.false_ne_true, hfound, Fault.ok_bind, hp]
  rfl

/-- A request asks for the settings again, with the bookmarks at hand. -/
def asks (entries : List Entry) : Request → Bool
  | relevant _ _ => !entries.isEmpty
  | _ => false

/-- The answer of a call whose checks have ended. -/
def conclude (settings : Except Fault Settings) (now : Timestamp) (entries : List Entry) :
    Checked → Except Fault Answer
  | .error f => .error f
  | .ok (.inl answer) => .ok answer
  | .ok (.inr r) => r.respond settings now entries

/-- The request that checks end with, if they do. -/
def ofChecked? : Checked → Option Request
  | .ok (.inr r) => some r
  | _ => none

end Request

namespace Server

open Bookmarks.Action Request

/-! ## What asking leaves as it is -/

@[simp] theorem clock_keepEntries (s : Server) (path : Option String) :
    (s.keepEntries path).clock = s.clock := by
  unfold keepEntries afterLoad afterPath
  split
  · rfl
  · cases path <;> rfl

@[simp] theorem currentSettings_keepEntries (s : Server) (path : Option String) :
    (s.keepEntries path).currentSettings = s.currentSettings := by
  unfold keepEntries
  split
  · rfl
  · cases path with
    | some path => rfl
    | none => exact s.currentSettings_keepSettings

@[simp] theorem outcome_keepSettings (s : Server) (path : Option String) :
    s.keepSettings.outcome path = s.outcome path := by
  unfold outcome readStore
  cases path with
  | some path => rfl
  | none =>
    rw [storePath, storePath, s.currentSettings_keepSettings]
    rfl

/-! ## The two parts of a call -/

/-- The server after the checks of a call. -/
def afterChecks (s : Server) (asks : Bool) : Server :=
  if asks then s.keepSettings else s

/-- The server after a request. -/
def afterRequest (s : Server) (r : Request) : Server :=
  if r.asks (s.currentEntries none) then (s.keepEntries none).keepSettings else s.keepEntries none

/-- What is left to do after the checks, and the server that it leaves. -/
def finish (s : Server) (c : Checked) : Except Fault Answer × Server :=
  (conclude s.currentSettings s.clock (s.currentEntries none) c,
    match ofChecked? c with
    | some r => s.afterRequest r
    | none => s)

theorem on_answered {α : Type} (a : Action α) (next : α → Action Answer) (s : Server) :
    on (answered a next) s = match on a s with
      | (.ok x, t) => on (next x) t
      | (.error .noHome, t) => (.error .noHome, t)
      | (.error f, t) => (.ok (errorLine f.message), t) := by
  have hobserving : on (answered.observing a) s = (.ok (on a s).1, (on a s).2) := by
    rw [answered.observing, on_tryCatch, on_map]
    rcases on a s with ⟨f | x, t⟩ <;> rfl
  rw [answered, on_bind, hobserving]
  rcases on a s with ⟨f | x, t⟩
  · cases f <;> rfl
  · rfl

theorem on_pageArguments (s : Server) (arguments : Arguments) :
    on (pageArguments arguments) s = (pageAndSize s.currentSettings arguments,
      s.afterChecks (arguments.positive "page" 1).isOk) := by
  simp only [pageArguments, on_bind, on_lift, on_getSettings, on_pure, pageAndSize]
  cases arguments.positive "page" 1 with
  | error f => rfl
  | ok page =>
    simp only [Fault.ok_bind]
    cases s.currentSettings with
    | error f => rfl
    | ok settings =>
      simp only [Fault.ok_bind]
      cases arguments.positive "per_page" settings.pageSize <;> rfl

theorem on_searchPage (s : Server) (query : Text) (page size : Int) :
    on (searchPage query page size) s = s.finish (.ok (.inr (.search query page size))) := by
  simp only [searchPage, on_bind, on_loadEntries, finish, conclude, respond, ofChecked?,
    afterRequest, asks]
  cases (s.currentEntries none).isEmpty with
  | true => rfl
  | false =>
    simp only [Bool.false_eq_true, if_false, on_bind, on_get, on_lift, clock_keepEntries]
    cases Filtered.ofQuery query (s.currentEntries none) s.clock with
    | error f => rfl
    | ok found =>
      simp only [Fault.ok_bind]
      cases paginate found.data page size <;> rfl

theorem on_relevantEntries (s : Server) (limit : Int) (tags : List Text) :
    on (relevantEntries limit tags) s = s.finish (.ok (.inr (.relevant limit tags))) := by
  simp only [relevantEntries, on_bind, on_loadEntries, finish, conclude, respond, ofChecked?,
    afterRequest, asks]
  by_cases h : (s.currentEntries none).isEmpty = true
  · simp only [h, if_true]
    rfl
  · have hclock : (s.keepEntries none).keepSettings.clock = s.clock := s.clock_keepEntries none
    simp only [h, Bool.false_eq_true, if_false, on_bind, on_getSettings,
      currentSettings_keepEntries]
    cases s.currentSettings with
    | error f => rfl
    | ok settings =>
      simp only [Fault.ok_bind, on_lift, on_get, hclock]
      rfl

theorem on_search (s : Server) (arguments : Arguments) (query : Json) :
    on (answered (pageArguments arguments) fun (page, size) => do
      searchPage (← query.text) page size) s =
        (s.afterChecks (arguments.positive "page" 1).isOk).finish
          (report (pageAndSize s.currentSettings arguments) fun (page, size) => do
            return .inr (.search (← query.text) page size)) := by
  rw [on_answered, on_pageArguments]
  generalize s.afterChecks (arguments.positive "page" 1).isOk = t
  rcases pageAndSize s.currentSettings arguments with f | ⟨page, size⟩
  · cases f <;> rfl
  · simp only [on_bind, on_lift, report]
    cases query.text with
    | error f => rfl
    | ok text => exact t.on_searchPage text page size

theorem on_answer (s : Server) (tool : Tool) (arguments : Arguments) :
    on (answer tool arguments) s = (s.afterChecks (checkAsks arguments tool)).finish
      (check s.currentSettings arguments tool) := by
  cases tool with
  | search =>
    unfold answer check checkAsks
    cases Json.field arguments "query" with
    | null => rfl
    | _ => exact s.on_search arguments _
  | parseQuery =>
    simp only [answer, on_bind, on_lift, on_pure, check]
    cases arguments.text "query" <;> rfl
  | listTags =>
    simp only [answer, on_bind, on_lift, on_loadEntries, on_pure, check]
    cases arguments.text "filter" <;> rfl
  | relevant =>
    simp only [answer, on_answered, on_lift, check]
    cases arguments.positive "limit" 10 with
    | error f => cases f <;> rfl
    | ok limit =>
      simp only [report]
      cases arguments.tags? with
      | none => rfl
      | some tags => exact s.on_relevantEntries limit tags

/-- **A call is its checks, followed by its request** if there is one. -/
theorem on_call (s : Server) (name : String) (arguments : Json) :
    on (call name arguments) s = (s.afterChecks (callAsks name arguments)).finish
      (ofCall s.currentSettings name arguments) := by
  unfold call ofCall callAsks
  cases Tool.ofName? name with
  | none => rfl
  | some tool =>
    simp only [on_bind, on_lift]
    cases Arguments.ofJson arguments with
    | error f => rfl
    | ok arguments => exact s.on_answer tool arguments

end Server

end Bookmarks
