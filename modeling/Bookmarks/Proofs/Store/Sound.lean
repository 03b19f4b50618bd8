import Bookmarks.Filter.Holds
import Bookmarks.Proofs.Store.Reload
import Bookmarks.Store.File

/-!
# What holds of loaded bookmarks

The records of a store come from many programs, and each field is read with a rule of its own. All
the same, filters, scores and tools can rely on the bookmarks that come out of it: their addresses
are usable and distinct, their texts say something, their times have an offset, and a user agent
never stands alone (**`StoreFile.load_isSound`**).

* `UserAgent.deviceOf_mem`: the labels of devices; every user agent gets one of them.
* `Bookmark.IsSound`, `Store.Loaded.IsSound`: what can be relied on.
* `Record.exists_label`: with a user agent there is a label, be it stored or recognised.
-/

namespace Bookmarks

/-! ## Labels -/

namespace UserAgent

/-- The labels of devices. -/
def devices : List Text :=
  ["Desktop", "Mobile", "Tablet"]

theorem deviceOf_mem (ua : Text) : deviceOf ua ∈ devices := by
  unfold deviceOf
  dsimp only
  repeat' split
  all_goals decide

theorem recognised_deviceOf (ua : Text) : Record.recognised (deviceOf ua) = some (deviceOf ua) := by
  have hdevices : ∀ label ∈ devices, Record.recognised label = some label := by decide
  exact hdevices _ (deviceOf_mem ua)

end UserAgent

namespace Record

/-- With a user agent there is a label: a stored one, or else at least that of the device. -/
theorem exists_label {userAgent : Option Text} (h : userAgent ≠ none)
    (device os browser : Option Text) :
    (labels userAgent device os browser).1 ≠ none ∨
      (labels userAgent device os browser).2.1 ≠ none ∨
        (labels userAgent device os browser).2.2 ≠ none := by
  unfold labels
  split
  · next text =>
    left
    change recognised (UserAgent.deviceOf text) ≠ none
    rw [UserAgent.recognised_deviceOf]
    exact Option.some_ne_none _
  · next hstored =>
    obtain ⟨text, rfl⟩ := Option.ne_none_iff_exists'.1 h
    by_contra hnone
    simp only [ne_eq, not_or, not_not] at hnone
    exact hstored text rfl hnone.1 hnone.2.1 hnone.2.2

end Record

/-! ## Bookmarks -/

namespace Bookmark

/-- The texts that a bookmark may lack. -/
def optionalTexts (b : Bookmark) : List (Option Text) :=
  [b.title, b.description, b.notes, b.userAgent, b.device, b.os, b.browser]

/-- **What can be relied on in a bookmark of a store.** -/
structure IsSound (b : Bookmark) : Prop where
  usable : Url.isUsable b.url = true
  clicked : 0 ≤ b.clicked
  unvisited : b.clicked = 0 → b.last = none
  added : ∀ t ∈ b.added, t.offset ≠ none
  last : ∀ t ∈ b.last, t.offset ≠ none
  texts : some [] ∉ b.optionalTexts
  tags : ∀ tag ∈ b.tags, Text.isBlankText tag = false
  labelled : b.userAgent ≠ none → ∃ l, b.label l ≠ none

theorem IsReadFrom.exists_label {b : Bookmark} {fields : Table Text Json} (h : b.IsReadFrom fields)
    (hsome : b.userAgent ≠ none) : ∃ l, b.label l ≠ none := by
  obtain ⟨device, os, browser, -, -, -, hlabels⟩ := h.labels
  have hlabel := Record.exists_label hsome device os browser
  rw [hlabels] at hlabel
  rcases hlabel with hlabel | hlabel | hlabel
  · exact ⟨.device, hlabel⟩
  · exact ⟨.os, hlabel⟩
  · exact ⟨.browser, hlabel⟩

theorem isSound_of_ofRecord {fields : Table Text Json} {b : Bookmark} (h : ofRecord fields = .ok b)
    (husable : Url.isUsable b.url = true) : b.IsSound := by
  have hsettled := isSettled_of_ofRecord h
  have hread := ofRecord_eq_ok.1 h
  have huserAgent := Record.optionalText_ne hread.userAgent
  have hoffset : ∀ {t : Timestamp}, t.IsReadable → t.offset ≠ none := by
    rintro t ⟨o, ho, -⟩
    rw [ho]
    exact Option.some_ne_none o
  exact {
    usable := husable
    clicked := hsettled.clicked
    unvisited := hsettled.unvisited
    added := fun t ht => hoffset (hsettled.added t ht)
    last := fun t ht => hoffset (hsettled.last t ht)
    texts := by
      simp only [optionalTexts, List.mem_cons, List.not_mem_nil, or_false, not_or]
      exact ⟨hsettled.title.symm, hsettled.description.symm, hsettled.notes.symm, huserAgent.symm,
        hsettled.device.symm, hsettled.os.symm, hsettled.browser.symm⟩
    tags := hsettled.tags
    labelled := hread.exists_label }

end Bookmark

/-! ## Collections -/

/-- What can be relied on in a loaded collection: no two bookmarks have one address, and each of
them is sound. -/
structure Store.Loaded.IsSound (loaded : Loaded) : Prop where
  nodup : (loaded.entries.map (·.bookmark.url)).Nodup
  bookmarks : ∀ e ∈ loaded.entries, e.bookmark.IsSound

theorem Store.isSound_of_load {document : Json} {loaded : Loaded}
    (h : load document = .ok loaded) : loaded.IsSound := by
  obtain ⟨husable, -, hnodup⟩ := isClean_of_load h
  refine ⟨hnodup, fun e he => ?_⟩
  obtain ⟨fields, hfields⟩ := exists_ofRecord_of_load h e he
  exact Bookmark.isSound_of_ofRecord hfields (husable _ (List.mem_map_of_mem he))

/-- **Every collection that is loaded from a store file is sound**, whatever the file holds. -/
theorem StoreFile.load_isSound {path : String} {file : StoreFile} {loaded : Store.Loaded}
    (h : file.load path = .ok loaded) : loaded.IsSound := by
  obtain ⟨document, -, hload⟩ := Fault.bind_eq_ok.1 h
  exact Store.isSound_of_load hload

/-- A record that tells nothing of the device but in its user agent, and one with its address. -/
theorem StoreFile.load_isSound_userAgent :
    let content := "[\x7b\"url\":\"a.b\",\"userAgent\":\"x\"\x7d,\x7b\"href\":\"a.b\"\x7d]"
    let b : Bookmark :=
      { Bookmark.ofUrl "a.b" with device := some "Desktop", userAgent := some "x" }
    let loaded : Store.Loaded := ⟨[⟨0, b⟩], 0, 0, 1⟩
    StoreFile.load "/s" (.bytes (content.toList.map Char.toNat)) = .ok loaded ∧ loaded.IsSound := by
  intro content b loaded
  have hdecode : Text.decodeUtf8 (content.toList.map Char.toNat) = .ok (Text.ofString content) := by
    cbv
  have hread : Json.read (Text.unifyNewlines (Text.ofString content)) =
      .ok (.array [.object [("url", .string "a.b"), ("userAgent", .string "x")],
        .object [("href", .string "a.b")]]) := by
    cbv
  have hload : StoreFile.load "/s" (.bytes (content.toList.map Char.toNat)) = .ok loaded := by
    rw [StoreFile.load, StoreFile.document, hdecode]
    dsimp only
    rw [hread, Fault.ok_bind]
    rfl
  exact ⟨hload, load_isSound hload⟩

end Bookmarks
