import Bookmarks.Proofs.Store.Record
import Bookmarks.Store.Document

/-!
# A stored collection loaded again

The bookmarks that were loaded from a document can be written as records again. Loading these gives
the same bookmarks in the same order, but for their user agents, and nothing is left out
(**`Store.load_toRecord`**).

* `Store.IsClean`: addresses of which cleaning leaves none out.
* `Store.isClean_cleanAfter`, `Store.cleanAfter_of_isClean`: cleaning gives such addresses, and
  keeps all of them.
-/

namespace Bookmarks

theorem Entry.map_bookmark_number (bookmarks : List Bookmark) :
    (number bookmarks).map (·.bookmark) = bookmarks := by
  rw [number, List.map_map]
  exact List.zipIdx_map_fst 0 bookmarks

namespace Store

/-! ## Cleaning -/

/-- The addresses are usable and distinct, and none of them is among the addresses `seen`. -/
structure IsClean (seen urls : List Text) : Prop where
  usable : ∀ url ∈ urls, Url.isUsable url = true
  unseen : ∀ url ∈ urls, url ∉ seen
  nodup : urls.Nodup

theorem cleanAfter_sublist (seen : List Text) (entries : List Entry) :
    (cleanAfter seen entries).kept.Sublist entries := by
  induction entries generalizing seen with
  | nil => exact List.Sublist.slnil
  | cons e rest ih =>
    unfold cleanAfter
    dsimp only
    split
    · exact (ih seen).cons e
    · split
      · exact (ih seen).cons e
      · exact (ih _).cons_cons e

theorem isClean_cleanAfter (seen : List Text) (entries : List Entry) :
    IsClean seen ((cleanAfter seen entries).kept.map (·.bookmark.url)) := by
  induction entries generalizing seen with
  | nil => constructor <;> simp [cleanAfter]
  | cons e rest ih =>
    unfold cleanAfter
    dsimp only
    split
    · exact ih seen
    · next husable =>
      split
      · exact ih seen
      · next hseen =>
        obtain ⟨hrest, hunseen, hnodup⟩ := ih (e.bookmark.url :: seen)
        refine ⟨?_, ?_, ?_⟩
        · exact List.forall_mem_cons.2 ⟨by simpa using husable, hrest⟩
        · refine List.forall_mem_cons.2 ⟨by simpa using hseen, fun url hurl hmem => ?_⟩
          exact hunseen url hurl (List.mem_cons_of_mem _ hmem)
        · refine List.nodup_cons.2 ⟨fun hmem => ?_, hnodup⟩
          exact hunseen _ hmem List.mem_cons_self

theorem cleanAfter_of_isClean {seen : List Text} {entries : List Entry}
    (h : IsClean seen (entries.map (·.bookmark.url))) :
    cleanAfter seen entries = ⟨entries, 0, 0⟩ := by
  induction entries generalizing seen with
  | nil => rfl
  | cons e rest ih =>
    obtain ⟨husable, hunseen, hnodup⟩ := h
    obtain ⟨hhead, hrest⟩ := List.nodup_cons.1 hnodup
    obtain ⟨heusable, husable⟩ := List.forall_mem_cons.1 husable
    obtain ⟨heunseen, hunseen⟩ := List.forall_mem_cons.1 hunseen
    have hclean : IsClean (e.bookmark.url :: seen) (rest.map (·.bookmark.url)) := by
      refine ⟨husable, fun url hurl hmem => ?_, hrest⟩
      rcases List.mem_cons.1 hmem with rfl | hmem
      · exact hhead hurl
      · exact hunseen url hurl hmem
    unfold cleanAfter
    dsimp only
    rw [heusable, if_neg (by decide), if_neg (by simpa using heunseen), ih hclean]

/-! ## Loading -/

theorem exists_ofRecord_of_load {document : Json} {loaded : Loaded}
    (h : load document = .ok loaded) :
    ∀ e ∈ loaded.entries, ∃ fields, Bookmark.ofRecord fields = .ok e.bookmark := by
  obtain ⟨⟨version, items⟩, -, h⟩ := Fault.bind_eq_ok.1 h
  obtain ⟨bookmarks, hbookmarks, h⟩ := Fault.bind_eq_ok.1 h
  obtain rfl := Except.ok.inj h
  intro e he
  have hmem : e.bookmark ∈ bookmarks := by
    rw [← Entry.map_bookmark_number bookmarks]
    exact List.mem_map_of_mem ((cleanAfter_sublist _ _).subset he)
  obtain ⟨fields, -, hfields⟩ := Fault.exists_of_mem_mapM hbookmarks _ hmem
  exact ⟨fields, hfields⟩

theorem isClean_of_load {document : Json} {loaded : Loaded} (h : load document = .ok loaded) :
    IsClean [] (loaded.entries.map (·.bookmark.url)) := by
  obtain ⟨⟨version, items⟩, -, h⟩ := Fault.bind_eq_ok.1 h
  obtain ⟨bookmarks, -, h⟩ := Fault.bind_eq_ok.1 h
  obtain rfl := Except.ok.inj h
  exact isClean_cleanAfter _ _

/-- **Loading the records of a loaded collection gives the same bookmarks**, in the same order and
with every field but the user agent; no record is left out. -/
theorem load_toRecord {document : Json} {loaded : Loaded} (h : load document = .ok loaded) :
    load (.array (loaded.entries.map (·.bookmark.toRecord))) =
      .ok ⟨Entry.number (loaded.entries.map (·.bookmark.withoutUserAgent)), 0, 0, 0⟩ := by
  have hsettled : ∀ e ∈ loaded.entries, e.bookmark.IsSettled := fun e he => by
    obtain ⟨fields, hfields⟩ := exists_ofRecord_of_load h e he
    exact Bookmark.isSettled_of_ofRecord hfields
  have hclean := isClean_of_load h
  have hobjects : (loaded.entries.map (·.bookmark.toRecord)).filterMap objectFields? =
      loaded.entries.map (·.bookmark.recordFields) := by
    rw [List.filterMap_map, ← List.filterMap_eq_map]
    rfl
  have hread : (loaded.entries.map (·.bookmark.recordFields)).mapM Bookmark.ofRecord =
      .ok (loaded.entries.map (·.bookmark.withoutUserAgent)) := by
    rw [List.mapM_map]
    exact Fault.mapM_eq_ok fun e he => Bookmark.ofRecord_recordFields (hsettled e he)
  have hurls : (Entry.number (loaded.entries.map (·.bookmark.withoutUserAgent))).map
      (·.bookmark.url) = loaded.entries.map (·.bookmark.url) := by
    change (Entry.number _).map (Bookmark.url ∘ Entry.bookmark) = _
    rw [← List.map_map, Entry.map_bookmark_number, List.map_map]
    rfl
  refine Fault.bind_eq_ok.2 ⟨(defaultVersion, _), rfl, ?_⟩
  dsimp only
  rw [hobjects]
  refine Fault.bind_eq_ok.2 ⟨_, hread, ?_⟩
  rw [clean, cleanAfter_of_isClean (hurls ▸ hclean), List.length_map, List.length_map, Nat.sub_self]
  rfl

/-- A time with an offset and microseconds, labels taken from a user agent, and a record that is no
object. -/
theorem load_toRecord_one :
    let document : Json := .array [.null, .object [("href", .string "example.com"),
      ("added", .string "2025-06-01T12:00:00.25+02:00"), ("userAgent", .string "Firefox")]]
    let b : Bookmark := { Bookmark.ofUrl "example.com" with
      added := some ⟨⟨2025, 6, 1, by decide⟩, ⟨12, 0, 0, 250000, by decide⟩,
        some ⟨7200000000, by decide⟩⟩
      device := some "Desktop", browser := some "Firefox", userAgent := some "Firefox" }
    load document = .ok ⟨[⟨0, b⟩], 1, 0, 0⟩ ∧
      load (.array [b.toRecord]) = .ok ⟨[⟨0, b.withoutUserAgent⟩], 0, 0, 0⟩ := by
  intro document b
  have h : load document = .ok ⟨[⟨0, b⟩], 1, 0, 0⟩ := by rfl
  exact ⟨h, load_toRecord h⟩

end Store

end Bookmarks
