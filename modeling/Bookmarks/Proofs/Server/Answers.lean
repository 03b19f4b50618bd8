import Bookmarks.Proofs.Filter.Total
import Bookmarks.Proofs.Json.Digits
import Bookmarks.Proofs.Page
import Bookmarks.Proofs.Relevance.Overflow
import Bookmarks.Proofs.Server.Absent

/-!
# Which calls are answered

With the usual relevance and with pages that are not empty, a tool answers whatever it is asked:
what does not fit is answered by a line on an error. The one exception is `relevant_bookmarks`,
which fails where something in a score is too large.

* `Settings.IsUsual`: the usual relevance, and pages that are not empty.
* `Tool.Fits`: the arguments that fit a tool.
* `Tool.overflow?`: what is too large for an answer, if anything is.
* **`Server.step_tool_failsBy`**: the calls of the tools that are answered, and how the others fail.
-/

namespace Bookmarks

open Bookmarks.Request
open Bookmarks.Server (errorLine noBookmarks)

/-! ## Settings and arguments -/

namespace Settings

/-- The usual relevance, as it is built in or read, and pages that are not empty. -/
structure IsUsual (c : Settings) : Prop where
  relevance : c.relevance = .standard ∨ c.relevance = .usual
  pageSize : 1 ≤ c.pageSize

theorem realVariable_of_missing {env : Environment} {name usual : String} {x : Binary64}
    (h : env.get? name = none) (hx : Numeral.real usual = .ok x) :
    realVariable env name usual = .ok (.real x) := by
  rw [realVariable, h, Option.getD_none, hx]
  rfl

/-- An environment that names nothing on relevance gives the usual one. -/
theorem relevance_eq_usual {machine : Homes} {env : Environment}
    (hclick : env.get? "BOOKMARKS_CLICK_WEIGHT" = none)
    (hrecency : env.get? "BOOKMARKS_RECENCY_WEIGHT" = none)
    (hdecay : env.get? "BOOKMARKS_DECAY_DAYS" = none)
    (hnewItem : env.get? "BOOKMARKS_NEW_ITEM_DAYS" = none) {c : Settings}
    (hc : ofEnvironment machine env = .ok c) : c.relevance = .usual := by
  unfold ofEnvironment at hc
  rw [realVariable_of_missing hclick rfl, realVariable_of_missing hrecency rfl,
    realVariable_of_missing hdecay rfl, realVariable_of_missing hnewItem rfl] at hc
  dsimp only [Fault.ok_bind] at hc
  split at hc
  · obtain ⟨pageSize, -, hc⟩ := Fault.bind_eq_ok.1 hc
    obtain rfl := Except.ok.inj hc
    rfl
  · split at hc
    · obtain ⟨pageSize, -, hc⟩ := Fault.bind_eq_ok.1 hc
      obtain rfl := Except.ok.inj hc
      rfl
    · obtain ⟨storePath, -, hc⟩ := Fault.bind_eq_ok.1 hc
      obtain ⟨pageSize, -, hc⟩ := Fault.bind_eq_ok.1 hc
      obtain rfl := Except.ok.inj hc
      rfl

end Settings

namespace Arguments

theorem exists_text {arguments : Arguments} (h : (Json.object arguments).FewDigits)
    (name : String) : ∃ s, arguments.text name = .ok s := by
  have hfield := h.field name
  unfold Json.field at hfield
  unfold Arguments.text
  cases hget : arguments.get? (Text.ofString name) with
  | none => exact ⟨[], rfl⟩
  | some value =>
    rw [hget] at hfield
    exact Json.exists_text hfield

theorem positive_eq (arguments : Arguments) (name : String) {usual : Int} (h : 1 ≤ usual) :
    (∃ n, 1 ≤ n ∧ arguments.positive name usual = .ok n) ∨
      arguments.positive name usual = .error (.notPositive name) := by
  unfold positive
  split
  · exact .inl ⟨usual, h, rfl⟩
  · next n _ =>
    split
    · exact .inr rfl
    · exact .inl ⟨n, by omega, rfl⟩
  · exact .inr rfl

theorem exists_positive {arguments : Arguments} {name : String} {usual : Int} (h : 1 ≤ usual)
    (hok : (arguments.positive name usual).isOk = true) :
    ∃ n, 1 ≤ n ∧ arguments.positive name usual = .ok n := by
  rcases arguments.positive_eq name h with hn | herror
  · exact hn
  · rw [herror] at hok
    cases hok

end Arguments

namespace Tool

/-- The arguments fit a tool, if pages have the given size where none is asked for. -/
def Fits (arguments : Arguments) (size : Int) : Tool → Prop
  | search =>
    Json.field arguments "query" ≠ .null ∧ (arguments.positive "page" 1).isOk = true ∧
      (arguments.positive "per_page" size).isOk = true
  | parseQuery | listTags => True
  | relevant => (arguments.positive "limit" 10).isOk = true ∧ arguments.tags?.isSome = true

/-- What is too large for the answer of a tool, if anything is. -/
def overflow? (arguments : Arguments) (now : Timestamp) (entries : List Entry) :
    Tool → Option Fault
  | relevant => firstOverflow? (withAnyTag (arguments.tags?.getD []) entries) now
  | _ => none

end Tool

/-! ## Checks -/

namespace Request

variable {c : Settings} {arguments : Arguments}

theorem check_of_not_fits (hc : c.IsUsual) {tool : Tool} (h : ¬tool.Fits arguments c.pageSize) :
    ∃ text, check (.ok c) arguments tool = .ok (.inl (errorLine text)) := by
  cases tool with
  | parseQuery | listTags => exact absurd trivial h
  | search =>
    rw [check]
    split
    · exact ⟨_, rfl⟩
    · next hquery =>
      unfold pageAndSize
      rcases arguments.positive_eq "page" (le_refl 1) with ⟨page, -, hpage⟩ | hpage
      · rcases arguments.positive_eq "per_page" hc.pageSize with ⟨size, -, hsize⟩ | hsize
        · rw [Tool.Fits, hpage, hsize] at h
          exact absurd ⟨hquery, rfl, rfl⟩ h
        · rw [hpage, Fault.ok_bind, Fault.ok_bind, hsize]
          exact ⟨_, rfl⟩
      · rw [hpage]
        exact ⟨_, rfl⟩
  | relevant =>
    rw [check]
    have hten : (1 : Int) ≤ 10 := by decide
    rcases arguments.positive_eq "limit" hten with ⟨limit, -, hlimit⟩ | hlimit
    · cases htags : arguments.tags? with
      | none =>
        rw [hlimit]
        exact ⟨_, rfl⟩
      | some tags =>
        rw [Tool.Fits, hlimit, htags] at h
        exact absurd ⟨rfl, rfl⟩ h
    · rw [hlimit]
      exact ⟨_, rfl⟩

theorem check_search (hc : c.IsUsual) (hfew : (Json.object arguments).FewDigits)
    (h : Tool.search.Fits arguments c.pageSize) : ∃ query page size, 1 ≤ size ∧
      check (.ok c) arguments .search = .ok (.inr (.search query page size)) := by
  obtain ⟨hquery, hpageOk, hsizeOk⟩ := h
  obtain ⟨page, -, hpage⟩ := Arguments.exists_positive (le_refl 1) hpageOk
  obtain ⟨size, hpos, hsize⟩ := Arguments.exists_positive hc.pageSize hsizeOk
  obtain ⟨query, htext⟩ := Json.exists_text (hfew.field "query")
  refine ⟨query, page, size, hpos, ?_⟩
  rw [check]
  split
  · next hnull => exact absurd hnull hquery
  · rw [pageAndSize, hpage, Fault.ok_bind, Fault.ok_bind, hsize, htext]
    rfl

theorem check_relevant (h : Tool.relevant.Fits arguments c.pageSize) : ∃ limit,
    check (.ok c) arguments .relevant =
      .ok (.inr (.relevant limit (arguments.tags?.getD []))) := by
  obtain ⟨hlimitOk, htagsOk⟩ := h
  obtain ⟨limit, -, hlimit⟩ := Arguments.exists_positive (by decide) hlimitOk
  obtain ⟨tags, htags⟩ := Option.isSome_iff_exists.1 htagsOk
  refine ⟨limit, ?_⟩
  rw [check, hlimit, htags]
  rfl

/-! ## Answers -/

variable (now : Timestamp) (entries : List Entry)

theorem exists_respond_search (settings : Except Fault Settings) (query : Text) (page : Int)
    {size : Int} (h : 1 ≤ size) :
    ∃ answer, (search query page size).respond settings now entries = .ok answer := by
  cases hempty : entries.isEmpty with
  | true =>
    rw [respond, hempty]
    exact ⟨_, rfl⟩
  | false =>
    obtain ⟨found, hfound⟩ := Filtered.exists_ofQuery query entries now
    obtain ⟨p, hp⟩ := exists_paginate found.data page h
    exact ⟨_, respond_search hempty hfound hp⟩

theorem respond_relevant_failsBy (hc : c.IsUsual) (limit : Int) (tags : List Text) :
    Fault.FailsBy (firstOverflow? (withAnyTag tags entries) now)
      ((relevant limit tags).respond (.ok c) now entries) := by
  rw [respond]
  split
  · next hempty =>
    have hnone : withAnyTag tags [] = [] := ite_self []
    rw [List.isEmpty_iff.1 hempty, hnone]
    exact ⟨_, rfl⟩
  · rw [Fault.ok_bind]
    rcases hc.relevance with h | h
    · rw [h, Answer.ofRanking_standard]
      exact Answer.ofRanking_failsBy _ now limit
    · rw [h]
      exact Answer.ofRanking_failsBy _ now limit

theorem conclude_request (settings : Except Fault Settings) (r : Request) :
    conclude settings now entries (.ok (.inr r)) = r.respond settings now entries := rfl

/-- Arguments that fit are answered by no line on an error, unless something in a score is too
large. -/
theorem conclude_of_fits (hc : c.IsUsual) (hfew : (Json.object arguments).FewDigits) {tool : Tool}
    (h : tool.Fits arguments c.pageSize) :
    Fault.FailsBy (tool.overflow? arguments now entries)
        (conclude (.ok c) now entries (check (.ok c) arguments tool)) ∧
      ∀ text, conclude (.ok c) now entries (check (.ok c) arguments tool) ≠
        .ok (errorLine text) := by
  cases tool with
  | search =>
    obtain ⟨query, page, size, hpos, hcheck⟩ := check_search hc hfew h
    rw [hcheck, conclude_request]
    exact ⟨exists_respond_search now entries (.ok c) query page hpos, respond_ne_errorLine⟩
  | parseQuery =>
    obtain ⟨query, hquery⟩ := Arguments.exists_text hfew "query"
    rw [check, hquery]
    refine ⟨⟨_, rfl⟩, fun text heq => ?_⟩
    cases heq
  | listTags =>
    obtain ⟨text, htext⟩ := Arguments.exists_text hfew "filter"
    rw [check, htext, Fault.ok_bind]
    change _ ∧ ∀ other, (listTags text).respond (.ok c) now entries ≠ .ok (errorLine other)
    exact ⟨⟨_, rfl⟩, respond_ne_errorLine⟩
  | relevant =>
    obtain ⟨limit, hcheck⟩ := check_relevant h
    rw [hcheck, conclude_request]
    exact ⟨respond_relevant_failsBy now entries hc limit _, respond_ne_errorLine⟩

end Request

theorem mem_of_mem_withAnyTag {tags : List Text} {entries : List Entry} {e : Entry}
    (h : e ∈ withAnyTag tags entries) : e ∈ entries := by
  unfold withAnyTag at h
  split at h
  · exact h
  · exact List.mem_of_mem_filter h

theorem Tool.overflow?_eq_none {tool : Tool} {entries : List Entry} {now : Timestamp}
    (h : tool = .relevant → ∀ e ∈ entries,
      e.bookmark.clicked.natAbs < 100 * Binary64.overflow ∧
        ∀ t ∈ e.bookmark.last, t.instant ≤ now.instant) (arguments : Arguments) :
    tool.overflow? arguments now entries = none := by
  cases tool with
  | search | parseQuery | listTags => rfl
  | relevant =>
    refine List.findSome?_eq_none_iff.2 fun e he => ?_
    obtain ⟨hclicks, hlast⟩ := h rfl e (mem_of_mem_withAnyTag he)
    exact Bookmark.overflow?_eq_none hclicks hlast

/-! ## Calls -/

namespace Server

theorem step_tool_reply (s : Server) (tool : Tool) (arguments : Arguments) :
    (s.step (.call tool.name (.object arguments))).1 =
      .answer <$> conclude s.currentSettings s.clock (s.currentEntries none)
        (check s.currentSettings arguments tool) := by
  rw [step_tool]
  simp only [finish, currentSettings_afterChecks, clock_afterChecks, currentEntries_afterChecks]
  rfl

/-- **The calls of the tools that are answered, and how the others fail.** With usual settings, what
does not fit is answered by a line on an error. What fits is answered unless something in a score is
too large, and that is what the call fails by. -/
theorem step_tool_failsBy (s : Server) {c : Settings} (hs : s.currentSettings = .ok c)
    (hc : c.IsUsual) (tool : Tool) {arguments : Arguments}
    (hfew : (Json.object arguments).FewDigits) :
    let reply := (s.step (.call tool.name (.object arguments))).1
    let entries := s.currentEntries none
    let fault? := tool.overflow? arguments s.clock entries
    ((∃ text, reply = .ok (.answer (errorLine text))) ↔ ¬tool.Fits arguments c.pageSize) ∧
      (tool.Fits arguments c.pageSize →
        ((∃ answer, reply = .ok (.answer answer)) ↔ fault? = none) ∧
          ∀ f, reply = .error f ↔ fault? = some f) ∧
      ((tool = .relevant → ∀ e ∈ entries,
          e.bookmark.clicked.natAbs < 100 * Binary64.overflow ∧
            ∀ t ∈ e.bookmark.last, t.instant ≤ s.clock.instant) →
        ∃ answer, reply = .ok (.answer answer)) := by
  intro reply entries fault?
  have hreply : reply = .answer <$> conclude (.ok c) s.clock entries
      (check (.ok c) arguments tool) := by
    rw [← hs]
    exact s.step_tool_reply tool arguments
  have hinjective : Function.Injective Reply.answer := fun _ _ => Reply.answer.inj
  have hnot : ¬tool.Fits arguments c.pageSize →
      ∃ text, reply = .ok (.answer (errorLine text)) := by
    intro h
    obtain ⟨text, hcheck⟩ := check_of_not_fits hc h
    rw [hcheck] at hreply
    exact ⟨text, hreply⟩
  have hanswered : tool.Fits arguments c.pageSize →
      ((∃ answer, reply = .ok (.answer answer)) ↔ fault? = none) := by
    intro h
    have hfails := (conclude_of_fits s.clock entries hc hfew h).1
    simpa only [hreply, Fault.map_eq_ok_apply hinjective] using hfails.exists_ok_iff
  refine ⟨⟨?_, hnot⟩, fun h => ⟨hanswered h, fun f => ?_⟩, fun h => ?_⟩
  · rintro ⟨text, htext⟩ h
    rw [hreply, Fault.map_eq_ok_apply hinjective] at htext
    exact (conclude_of_fits s.clock entries hc hfew h).2 text htext
  · rw [hreply, Fault.map_eq_error]
    exact (conclude_of_fits s.clock entries hc hfew h).1.eq_error_iff f
  · by_cases hfits : tool.Fits arguments c.pageSize
    · exact (hanswered hfits).2 (Tool.overflow?_eq_none h arguments)
    · obtain ⟨text, htext⟩ := hnot hfits
      exact ⟨_, htext⟩

/-- One bookmark that was never clicked, with settings that come from an empty environment. -/
theorem step_tool_failsBy_moderate :
    let s : Server := { bare with settings := none, entries := some [⟨0, .ofUrl "http://a"⟩] }
    s.currentSettings = .ok ⟨.usual, none, 20⟩ ∧ Settings.IsUsual ⟨.usual, none, 20⟩ ∧
      (Json.object []).FewDigits ∧
      (∀ e ∈ s.currentEntries none, e.bookmark.clicked.natAbs < 100 * Binary64.overflow ∧
        ∀ t ∈ e.bookmark.last, t.instant ≤ s.clock.instant) ∧
      ∃ answer, (s.step (.call Tool.relevant.name (.object []))).1 = .ok (.answer answer) := by
  intro s
  have hs : Settings.ofEnvironment s.homes [] = .ok ⟨.usual, none, 20⟩ := by decide +kernel
  have hc : Settings.IsUsual ⟨.usual, none, 20⟩ :=
    ⟨.inr (Settings.relevance_eq_usual rfl rfl rfl rfl hs), by decide⟩
  have hfew : (Json.object []).FewDigits := .of_integers_eq_nil rfl
  have hmoderate : ∀ e ∈ s.currentEntries none,
      e.bookmark.clicked.natAbs < 100 * Binary64.overflow ∧
        ∀ t ∈ e.bookmark.last, t.instant ≤ s.clock.instant := by
    intro e he
    obtain rfl := List.mem_singleton.1 he
    refine ⟨by decide +kernel, fun t ht => ?_⟩
    cases ht
  exact ⟨hs, hc, hfew, hmoderate,
    (step_tool_failsBy s hs hc .relevant hfew).2.2 fun _ => hmoderate⟩

/-- The least number of clicks that is too many, and a visit that lies far ahead, each in the only
record of a store. -/
theorem relevant_fails :
    let load := fun fields : Table Text Json =>
      Store.Loaded.entries <$> Store.load (.array [.object fields])
    let reply := fun b : Bookmark =>
      (({ bare with entries := some [⟨0, b⟩] } : Server).step
        (.call Tool.relevant.name (.object []))).1
    let clicks := 100 * Binary64.overflow
    ∃ busy ahead : Bookmark,
      load [("url", .string "http://a"), ("clicked", .number (.int clicks))] =
        .ok [⟨0, busy⟩] ∧
      reply busy = .error .quotientTooLarge ∧
      load [("url", .string "http://a"), ("clicked", .number (.int 1)),
        ("last", .string "9999-01-01")] = .ok [⟨0, ahead⟩] ∧
      reply ahead = .error .exponentialTooLarge := by
  intro load reply clicks
  have hreply : ∀ {b : Bookmark} {f : Fault}, b.overflow? bare.clock = some f →
      reply b = .error f := by
    intro b f h
    have hc : Settings.IsUsual ⟨.standard, none, 20⟩ := ⟨.inl rfl, by decide⟩
    have hfits : Tool.relevant.Fits [] 20 := ⟨rfl, rfl⟩
    have hfails := (conclude_of_fits bare.clock [⟨0, b⟩] hc (.of_integers_eq_nil rfl) hfits).1
    have hoverflow : Tool.relevant.overflow? [] bare.clock [⟨0, b⟩] = some f := by
      change List.findSome? _ [_] = _
      rw [List.findSome?_singleton, h]
    exact (step_tool_reply _ .relevant []).trans
      (Fault.map_eq_error.2 ((hfails.eq_error_iff f).2 hoverflow))
  exact ⟨_, _, rfl, hreply (by decide +kernel), rfl, hreply (by decide +kernel)⟩

end Server

end Bookmarks
