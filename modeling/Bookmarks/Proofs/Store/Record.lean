import Bookmarks.Proofs.Fault
import Bookmarks.Proofs.Store.Times
import Bookmarks.Store.Record

/-!
# Records read back

Reading a record settles the fields of a bookmark: no text or tag is empty, no number of clicks is
negative, and without clicks there is no last visit (**`Bookmark.isSettled_of_ofRecord`**). From the
record of a settled bookmark the same bookmark is read, but for its user agent
(**`Bookmark.ofRecord_recordFields`**).

* `Bookmark.IsSettled`: the bookmarks that are read from records;
  `Bookmark.withoutUserAgent` is what a record keeps of one.
* `Bookmark.IsReadFrom`, `Bookmark.ofRecord_eq_ok`: the fields of a bookmark that is read.
* `Record.clicks_int`, `Record.tags_array`, `Record.optionalText_ofText`, `Record.ofJson?_ofTime`:
  each field on its own.
-/

namespace Bookmarks

/-- The bookmarks that are read from records. -/
structure Bookmark.IsSettled (b : Bookmark) : Prop where
  title : b.title ≠ some []
  description : b.description ≠ some []
  notes : b.notes ≠ some []
  tags : ∀ tag ∈ b.tags, Text.isBlankText tag = false
  added : ∀ t ∈ b.added, t.IsReadable
  clicked : 0 ≤ b.clicked
  last : ∀ t ∈ b.last, t.IsReadable
  unvisited : b.clicked = 0 → b.last = none
  device : b.device ≠ some []
  os : b.os ≠ some []
  browser : b.browser ≠ some []

/-- The bookmark as its record keeps it. -/
def Bookmark.withoutUserAgent (b : Bookmark) : Bookmark :=
  { b with userAgent := none }

namespace Record

/-! ## Texts, times, clicks and tags -/

theorem optionalText_ne {value : Json} {s : Option Text} (h : optionalText value = .ok s) :
    s ≠ some [] := by
  unfold optionalText at h
  split at h
  · obtain rfl := Except.ok.inj h
    nofun
  · obtain ⟨text, -, h⟩ := Fault.bind_eq_ok.1 h
    obtain rfl := Except.ok.inj h
    split
    · nofun
    · next htext =>
      intro heq
      rw [Option.some.inj heq] at htext
      exact htext rfl

theorem optionalText_ofText {s : Option Text} (h : s ≠ some []) :
    optionalText (ofText s) = .ok s := by
  cases s with
  | none => rfl
  | some text =>
    have htext : text.isEmpty = false := by simpa using fun hnil => h (congrArg some hnil)
    change (pure (if text.isEmpty then none else some text) : Except Fault (Option Text)) = _
    rw [htext]
    rfl

theorem ofJson?_ofTime {time : Option Timestamp} (h : ∀ t ∈ time, t.IsReadable) :
    Timestamp.ofJson? (ofTime time) = time := by
  cases time with
  | none => rfl
  | some t => exact Timestamp.ofJson?_text (h t rfl)

theorem clicks_nonneg {value : Json} {n : Int} (h : clicks value = .ok n) : 0 ≤ n := by
  unfold clicks at h
  split at h
  · exact (Except.ok.inj h).le
  · split at h
    case h_4 =>
      obtain ⟨m, -, h⟩ := Fault.bind_eq_ok.1 h
      exact Except.ok.inj h ▸ le_max_left 0 m
    case h_2 | h_5 => exact Except.ok.inj h ▸ le_max_left 0 _
    all_goals exact Except.ok.inj h ▸ by decide

theorem clicks_int {n : Int} (h : 0 ≤ n) : clicks (.number (.int n)) = .ok n := by
  unfold clicks
  split
  · next hzero =>
    have : n = 0 := by simpa [Json.isTrue] using hzero
    rw [this]
  · exact congrArg Except.ok (max_eq_right h)

theorem tags_visible {value : Json} {ts : List Text} (h : tags value = .ok ts) :
    ∀ tag ∈ ts, Text.isBlankText tag = false := by
  obtain ⟨items, -, h⟩ := Fault.bind_eq_ok.1 h
  obtain ⟨texts, -, h⟩ := Fault.bind_eq_ok.1 h
  obtain rfl := Except.ok.inj h
  intro tag htag
  simpa using (List.mem_filter.1 htag).2

theorem tags_array {ts : List Text} (h : ∀ tag ∈ ts, Text.isBlankText tag = false) :
    tags (.array (ts.map .string)) = .ok ts := by
  have hsequence : sequence (.array (ts.map .string)) = .ok (ts.map .string) := by
    cases ts <;> rfl
  have htexts : (ts.map Json.string).mapM Json.text = .ok ts := by
    have hok : ∀ s ∈ ts, (Json.text ∘ Json.string) s = .ok (id s) := fun _ _ => rfl
    rw [List.mapM_map, Fault.mapM_eq_ok hok, List.map_id]
  have hkept : ts.filter (!Text.isBlankText ·) = ts :=
    List.filter_eq_self.2 fun tag htag => by rw [h tag htag]; rfl
  unfold tags
  rw [hsequence]
  change ((ts.map Json.string).mapM Json.text >>= fun texts =>
    pure (texts.filter (!Text.isBlankText ·))) = _
  rw [htexts]
  exact congrArg Except.ok hkept

end Record

/-! ## Labels -/

namespace UserAgent

theorem browserOf_ne_nil (ua : Text) : browserOf ua ≠ [] := by
  unfold browserOf
  dsimp only
  repeat' split
  all_goals decide

theorem deviceOf_ne_nil (ua : Text) : deviceOf ua ≠ [] := by
  unfold deviceOf
  dsimp only
  repeat' split
  all_goals decide

theorem named_ne_nil {name : Text} (h : name ≠ []) (version : Option Text) :
    named name version ≠ [] := by
  cases version with
  | none => exact h
  | some version => exact List.append_ne_nil_of_left_ne_nil h _

theorem windows_ne_nil (version : Option Text) : windows version ≠ [] := by
  have hnames : ∀ entry ∈ windowsNames, entry.2 ≠ [] := by decide
  cases version with
  | none => decide
  | some version =>
    change (windowsNames.lookup version).getD _ ≠ []
    cases hname : windowsNames.lookup version with
    | none => exact List.append_ne_nil_of_left_ne_nil (by decide) _
    | some name =>
      obtain ⟨before, after, hsplit, -⟩ := List.lookup_eq_some_iff.1 hname
      exact hnames (version, name) (by simp [hsplit])

theorem osOf_ne_nil (ua : Text) : osOf ua ≠ [] := by
  unfold osOf
  dsimp only
  split
  · exact windows_ne_nil _
  split
  · exact named_ne_nil (by decide) _
  split
  · split
    · exact named_ne_nil (by decide) _
    · decide
  split
  · exact named_ne_nil (by split <;> decide) _
  · decide

end UserAgent

namespace Record

theorem recognised_ne {label : Text} (h : label ≠ []) : recognised label ≠ some [] := by
  unfold recognised
  split
  · nofun
  · exact fun heq => h (Option.some.inj heq)

/-- No label is empty, be it stored or taken from the user agent. -/
theorem labels_ne (userAgent : Option Text) {device os browser : Option Text}
    (hdevice : device ≠ some []) (hos : os ≠ some []) (hbrowser : browser ≠ some []) :
    (labels userAgent device os browser).1 ≠ some [] ∧
      (labels userAgent device os browser).2.1 ≠ some [] ∧
        (labels userAgent device os browser).2.2 ≠ some [] := by
  unfold labels
  split
  · exact ⟨recognised_ne (UserAgent.deviceOf_ne_nil _), recognised_ne (UserAgent.osOf_ne_nil _),
      recognised_ne (UserAgent.browserOf_ne_nil _)⟩
  · exact ⟨hdevice, hos, hbrowser⟩

end Record

/-! ## Records -/

namespace Bookmark

/-- The bookmark is what the fields of a record say. -/
structure IsReadFrom (b : Bookmark) (fields : Table Text Json) : Prop where
  url : (Record.firstTrue (Json.field fields "url") (Json.field fields "href")).text = .ok b.url
  title : Record.optionalText (Json.field fields "title") = .ok b.title
  description : Record.optionalText (Json.field fields "description") = .ok b.description
  notes : Record.optionalText (Json.field fields "notes") = .ok b.notes
  tags : Record.tags (Json.field fields "tags") = .ok b.tags
  added : b.added = Timestamp.ofJson? (Json.field fields "added")
  clicked : Record.clicks (Json.field fields "clicked") = .ok b.clicked
  last : b.last = if 0 < b.clicked then Timestamp.ofJson? (Json.field fields "last") else none
  userAgent : Record.optionalText (Json.field fields "userAgent") = .ok b.userAgent
  labels : ∃ device os browser,
    Record.optionalText (Json.field fields "device") = .ok device ∧
      Record.optionalText (Json.field fields "os") = .ok os ∧
      Record.optionalText (Json.field fields "browser") = .ok browser ∧
      Record.labels b.userAgent device os browser = (b.device, b.os, b.browser)

/-- **A record is read field by field.** -/
theorem ofRecord_eq_ok {fields : Table Text Json} {b : Bookmark} :
    ofRecord fields = .ok b ↔ b.IsReadFrom fields := by
  constructor
  · intro h
    obtain ⟨clicked, hclicked, h⟩ := Fault.bind_eq_ok.1 h
    obtain ⟨tags, htags, h⟩ := Fault.bind_eq_ok.1 h
    obtain ⟨userAgent, huserAgent, h⟩ := Fault.bind_eq_ok.1 h
    obtain ⟨device, hdevice, h⟩ := Fault.bind_eq_ok.1 h
    obtain ⟨os, hos, h⟩ := Fault.bind_eq_ok.1 h
    obtain ⟨browser, hbrowser, h⟩ := Fault.bind_eq_ok.1 h
    obtain ⟨url, hurl, h⟩ := Fault.bind_eq_ok.1 h
    obtain ⟨title, htitle, h⟩ := Fault.bind_eq_ok.1 h
    obtain ⟨description, hdescription, h⟩ := Fault.bind_eq_ok.1 h
    obtain ⟨notes, hnotes, h⟩ := Fault.bind_eq_ok.1 h
    obtain rfl := Except.ok.inj h
    exact ⟨hurl, htitle, hdescription, hnotes, htags, rfl, hclicked, rfl, huserAgent,
      device, os, browser, hdevice, hos, hbrowser, rfl⟩
  · intro h
    obtain ⟨device, os, browser, hdevice, hos, hbrowser, hlabels⟩ := h.labels
    unfold ofRecord
    simp only [h.clicked, h.tags, h.userAgent, hdevice, hos, hbrowser, hlabels, h.url, h.title,
      h.description, h.notes, ← h.added, ← h.last, Fault.ok_bind]
    rfl

/-- **Reading a record settles the fields of the bookmark.** -/
theorem isSettled_of_ofRecord {fields : Table Text Json} {b : Bookmark}
    (h : ofRecord fields = .ok b) : b.IsSettled := by
  have hread := ofRecord_eq_ok.1 h
  obtain ⟨device, os, browser, hdevice, hos, hbrowser, hlabels⟩ := hread.labels
  have hne := Record.labels_ne b.userAgent (Record.optionalText_ne hdevice)
    (Record.optionalText_ne hos) (Record.optionalText_ne hbrowser)
  rw [hlabels] at hne
  exact {
    title := Record.optionalText_ne hread.title
    description := Record.optionalText_ne hread.description
    notes := Record.optionalText_ne hread.notes
    tags := Record.tags_visible hread.tags
    added := fun t ht => Timestamp.isReadable_of_ofJson? (hread.added ▸ ht)
    clicked := Record.clicks_nonneg hread.clicked
    last := fun t ht => by
      rw [hread.last] at ht
      split at ht
      · exact Timestamp.isReadable_of_ofJson? ht
      · cases ht
    unvisited := fun hzero => by rw [hread.last, if_neg (by omega)]
    device := hne.1
    os := hne.2.1
    browser := hne.2.2 }

/-- **From the record of a settled bookmark the same bookmark is read**, but for its user agent. -/
theorem ofRecord_recordFields {b : Bookmark} (h : b.IsSettled) :
    ofRecord b.recordFields = .ok b.withoutUserAgent := by
  -- an empty address does not count as present, but the default is empty as well
  have hurl : (Record.firstTrue (.string b.url) .null).text = .ok b.url := by
    cases b.url <;> rfl
  have hlast : (if 0 < b.clicked then Timestamp.ofJson? (Record.ofTime b.last) else none) =
      b.last := by
    rw [Record.ofJson?_ofTime h.last]
    split
    · rfl
    · exact (h.unvisited (by have := h.clicked; omega)).symm
  refine ofRecord_eq_ok.2 {
    url := hurl
    title := Record.optionalText_ofText h.title
    description := Record.optionalText_ofText h.description
    notes := Record.optionalText_ofText h.notes
    tags := Record.tags_array h.tags
    added := (Record.ofJson?_ofTime h.added).symm
    clicked := Record.clicks_int h.clicked
    last := hlast.symm
    userAgent := rfl
    labels := ⟨b.device, b.os, b.browser, Record.optionalText_ofText h.device,
      Record.optionalText_ofText h.os, Record.optionalText_ofText h.browser, rfl⟩ }

end Bookmark

end Bookmarks
