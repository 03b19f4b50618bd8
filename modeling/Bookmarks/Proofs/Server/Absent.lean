import Bookmarks.Proofs.Server.Run

/-!
# Arguments that are null

A tool reads most of its arguments in such a way that null stands for a missing one. The text that
`parse_query` and `list_tags` read is different: null is written out there, as the text `None`.

* `Tool.reading`: arguments with null among them, as a tool reads them.
* `Tool.OmitsNull`: when null does what a missing argument does.
* `Request.check_reading`: the checks of a tool on these arguments.
* **`Server.step_null`**: a call with null among its arguments.
-/

namespace Bookmarks

open Bookmarks.Request

/-! ## Reading arguments -/

namespace Arguments

variable {arguments : Arguments} {key : Text}

theorem field_erase_of_null (h : arguments.get? key = some .null) (name : String) :
    Json.field (arguments.erase key) name = Json.field arguments name := by
  unfold Json.field
  rw [Table.get?_erase]
  by_cases hname : Text.ofString name = key
  · rw [if_pos hname, hname, h]
    rfl
  · rw [if_neg hname]

theorem positive_erase_of_null (h : arguments.get? key = some .null) (name : String) {usual : Int}
    (husual : 1 ≤ usual) :
    positive (arguments.erase key) name usual = arguments.positive name usual := by
  unfold positive
  rw [Table.get?_erase]
  by_cases hname : Text.ofString name = key
  · rw [if_pos hname, hname, h]
    exact if_neg (by omega)
  · rw [if_neg hname]

theorem tags?_erase_of_null (h : arguments.get? key = some .null) :
    tags? (arguments.erase key) = arguments.tags? := by
  unfold tags?
  rw [field_erase_of_null h]

theorem text_of_null {name : String} (h : arguments.get? (Text.ofString name) = some .null) :
    arguments.text name = .ok "None" := by
  rw [text, h]
  rfl

theorem text_set (name : String) (s : Text) :
    text (arguments.set (Text.ofString name) (.string s)) name = .ok s := by
  rw [text, Table.get?_set, if_pos rfl]
  rfl

theorem text_erase (name : String) : text (arguments.erase (Text.ofString name)) name = .ok [] := by
  rw [text, Table.get?_erase, if_pos rfl]
  rfl

end Arguments

namespace Tool

/-- Arguments with null under a key, as a tool reads them: without the key, or with the text `None`
under it. -/
def reading (key : Text) (arguments : Arguments) : Tool → Arguments
  | search | relevant => arguments.erase key
  | parseQuery | listTags => arguments.set key (.string "None")

/-- A tool answers null as it does a missing argument. Where null is read as the text `None`, this
takes bookmarks with that text in all of their tags. -/
def OmitsNull (entries : List Entry) : Tool → Prop
  | search | relevant => True
  | parseQuery => False
  | listTags => ∀ info ∈ tagCounts (entries.map Entry.bookmark),
      Text.occursIn (TagCount.normalize "None") info.tag = true

end Tool

namespace Answer

theorem length_eq_of_ofTags_eq {a b : List TagCount} (h : ofTags a = ofTags b) :
    a.length = b.length := by
  unfold ofTags at h
  cases a with
  | nil =>
    cases b with
    | nil => rfl
    | cons info b => cases h
  | cons info a =>
    cases b with
    | nil => cases h
    | cons other b =>
      have hitems := Json.array.inj (document.inj h)
      simpa only [List.length_map] using congrArg List.length hitems

theorem ofTags_tagsContaining_eq_iff {text : Text} (htext : Text.isBlankText text = false)
    (counts : List TagCount) :
    ofTags (tagsContaining text counts) = ofTags counts ↔
      ∀ info ∈ counts, Text.occursIn (TagCount.normalize text) info.tag = true := by
  rw [tagsContaining, htext, if_neg Bool.false_ne_true]
  constructor
  · intro h
    exact List.length_filter_eq_length_iff.1 (length_eq_of_ofTags_eq h)
  · intro h
    rw [List.filter_eq_self.2 h]

end Answer

theorem Spec.parse_none : Spec.parse "None" = { Spec.empty with optional := ["None"] } := by
  decide

namespace Request

variable {settings : Except Fault Settings} {arguments : Arguments} {key : Text}

theorem pageAndSize_erase_of_null (hsettings : ∀ c, settings = .ok c → 1 ≤ c.pageSize)
    (h : arguments.get? key = some .null) :
    pageAndSize settings (arguments.erase key) = pageAndSize settings arguments := by
  unfold pageAndSize
  rw [Arguments.positive_erase_of_null h _ (le_refl 1)]
  cases settings with
  | error f => rfl
  | ok c =>
    simp only [Fault.ok_bind]
    rw [Arguments.positive_erase_of_null h _ (hsettings c rfl)]

theorem checkAsks_reading (h : arguments.get? key = some .null) (tool : Tool) :
    checkAsks (tool.reading key arguments) tool = checkAsks arguments tool := by
  cases tool with
  | search =>
    unfold checkAsks Tool.reading
    rw [Arguments.field_erase_of_null h, Arguments.positive_erase_of_null h _ (le_refl 1)]
  | _ => rfl

theorem check_reading (hsettings : ∀ c, settings = .ok c → 1 ≤ c.pageSize)
    (h : arguments.get? key = some .null) {tool : Tool} (hkey : key ∈ tool.arguments.keys) :
    check settings (tool.reading key arguments) tool = check settings arguments tool := by
  cases tool with
  | search =>
    unfold check Tool.reading
    rw [Arguments.field_erase_of_null h, pageAndSize_erase_of_null hsettings h]
  | parseQuery =>
    obtain rfl : key = Text.ofString "query" := List.mem_singleton.1 hkey
    rw [Tool.reading, check, check, Arguments.text_set, Arguments.text_of_null h]
  | listTags =>
    obtain rfl : key = Text.ofString "filter" := List.mem_singleton.1 hkey
    rw [Tool.reading, check, check, Arguments.text_set, Arguments.text_of_null h]
  | relevant =>
    unfold check Tool.reading
    rw [Arguments.positive_erase_of_null h _ (by decide), Arguments.tags?_erase_of_null h]

end Request

namespace Server

theorem step_tool (s : Server) (tool : Tool) (arguments : Arguments) :
    s.step (.call tool.name (.object arguments)) =
      let next := (s.silent.afterChecks (checkAsks arguments tool)).finish
        (check s.currentSettings arguments tool)
      (.answer <$> next.1, next.2) := by
  have hname : Tool.ofName? tool.name = some tool := by cases tool <;> rfl
  have hobject : Arguments.ofJson (.object arguments) = .ok arguments := by
    cases arguments <;> rfl
  rw [step_call, ofCall, callAsks, hname, hobject]
  rfl

theorem step_reading (s : Server) (hs : ∀ c, s.currentSettings = .ok c → 1 ≤ c.pageSize)
    {tool : Tool} {arguments : Arguments} {key : Text} (hkey : key ∈ tool.arguments.keys)
    (h : arguments.get? key = some .null) :
    s.step (.call tool.name (.object arguments)) =
      s.step (.call tool.name (.object (tool.reading key arguments))) := by
  rw [step_tool, step_tool, checkAsks_reading h, check_reading hs h hkey]

theorem step_parseQuery (s : Server) {arguments : Arguments} {query : Text}
    (h : arguments.text "query" = .ok query) :
    s.step (.call Tool.parseQuery.name (.object arguments)) =
      (.ok (.answer (.document (Spec.parse query).toJson)), s.silent) := by
  rw [step_tool, check, h]
  rfl

theorem step_listTags (s : Server) {arguments : Arguments} {text : Text}
    (h : arguments.text "filter" = .ok text) :
    s.step (.call Tool.listTags.name (.object arguments)) =
      (.ok (.answer (.ofTags
        (tagsContaining text (tagCounts ((s.currentEntries none).map Entry.bookmark))))),
        s.silent.keepEntries none) := by
  rw [step_tool, check, h]
  rfl

theorem step_eq_step_erase_iff (s : Server)
    (hs : ∀ c, s.currentSettings = .ok c → 1 ≤ c.pageSize) {tool : Tool} {arguments : Arguments}
    {key : Text} (hkey : key ∈ tool.arguments.keys) (h : arguments.get? key = some .null) :
    s.step (.call tool.name (.object arguments)) =
        s.step (.call tool.name (.object (arguments.erase key))) ↔
      tool.OmitsNull (s.currentEntries none) := by
  cases tool with
  | search | relevant => exact iff_of_true (s.step_reading hs hkey h) trivial
  | parseQuery =>
    obtain rfl : key = Text.ofString "query" := List.mem_singleton.1 hkey
    rw [s.step_parseQuery (Arguments.text_of_null h), s.step_parseQuery (Arguments.text_erase _)]
    refine iff_of_false ?_ id
    intro heq
    have hdocument : (Spec.parse "None").toJson = (Spec.parse []).toJson :=
      Answer.document.inj (Reply.answer.inj (Except.ok.inj (Prod.mk.inj heq).1))
    rw [Spec.parse_none] at hdocument
    cases hdocument
  | listTags =>
    obtain rfl : key = Text.ofString "filter" := List.mem_singleton.1 hkey
    rw [s.step_listTags (Arguments.text_of_null h), s.step_listTags (Arguments.text_erase _),
      Prod.mk.injEq, Except.ok.injEq, Reply.answer.injEq, and_iff_left rfl]
    exact Answer.ofTags_tagsContaining_eq_iff rfl _

/-- **Null among the arguments of a call stands for a missing one, or for the text `None`.** It is a
missing argument for `search_bookmarks` and `relevant_bookmarks`, never for `parse_query`, and for
`list_tags` just where that text is written in all tags. -/
theorem step_null (s : Server) (hs : ∀ c, s.currentSettings = .ok c → 1 ≤ c.pageSize) {tool : Tool}
    {arguments : Arguments} {key : Text} (hkey : key ∈ tool.arguments.keys)
    (h : arguments.get? key = some .null) :
    s.step (.call tool.name (.object arguments)) =
        s.step (.call tool.name (.object (tool.reading key arguments))) ∧
      (s.step (.call tool.name (.object arguments)) =
          s.step (.call tool.name (.object (arguments.erase key))) ↔
        tool.OmitsNull (s.currentEntries none)) :=
  ⟨s.step_reading hs hkey h, s.step_eq_step_erase_iff hs hkey h⟩

/-- A server whose settings and bookmarks are kept: the usual settings, and no bookmarks. -/
def bare : Server :=
  ⟨"/usual", ⟨none, []⟩, [], [], Timestamp.epoch, some ⟨.standard, none, 20⟩, some [], []⟩

theorem pageSize_bare (c : Settings) (h : bare.currentSettings = .ok c) : 1 ≤ c.pageSize := by
  obtain rfl := Except.ok.inj h
  decide

theorem step_null_page :
    let arguments : Arguments := [("query", .string "a"), ("page", .null)]
    (∀ c, bare.currentSettings = .ok c → 1 ≤ c.pageSize) ∧
      Text.ofString "page" ∈ Tool.search.arguments.keys ∧
      arguments.get? ("page" : Text) = some .null ∧
      bare.step (.call Tool.search.name (.object arguments)) =
        bare.step (.call Tool.search.name (.object (arguments.erase ("page" : Text)))) :=
  ⟨pageSize_bare, by decide, rfl,
    ((step_null bare pageSize_bare (by decide) rfl).2).2 trivial⟩

/-- `parse_query` takes null for a word. -/
theorem parseQuery_null_ne_missing :
    let arguments : Arguments := [("query", .null)]
    (∀ c, bare.currentSettings = .ok c → 1 ≤ c.pageSize) ∧
      Text.ofString "query" ∈ Tool.parseQuery.arguments.keys ∧
      arguments.get? ("query" : Text) = some .null ∧
      bare.step (.call Tool.parseQuery.name (.object arguments)) ≠
        bare.step (.call Tool.parseQuery.name (.object (arguments.erase ("query" : Text)))) :=
  ⟨pageSize_bare, by decide, rfl,
    (bare.step_eq_step_erase_iff pageSize_bare (by decide) rfl).not.2 id⟩

end Server

end Bookmarks
