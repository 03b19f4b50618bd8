import Bookmarks.Proofs.Json.Digits
import Bookmarks.Proofs.Server.Run
import Bookmarks.Proofs.Store.Record

/-!
# Records that can be read

Two fields of a record are not read with tolerance: a number of clicks that is infinite is refused,
and so are tags that count as present and hold nothing in sequence. A record with such a field takes
all the others down with it.

* `Record.IsReadable`: a record without such a field.
* `Bookmark.exists_ofRecord_iff`, `Store.exists_load_iff`: the records and the documents that are
  read.
* **`Server.load_readable`**: what a load makes of a document in which some record is not readable.
-/

namespace Bookmarks

namespace Record

/-- A number of clicks can be made of the value: it is no infinity. -/
def IsCount : Json → Prop
  | .number (.real (.infinite _)) => False
  | _ => True

/-- Tags can be made of the value: it is a text, an array or an object, or does not count as
present. -/
def IsSequence : Json → Prop
  | .boolean b => b = false
  | .number n => (Json.number n).isTrue = false
  | _ => True

/-- A bookmark can be made of the record. -/
structure IsReadable (fields : Table Text Json) : Prop where
  clicked : IsCount (Json.field fields "clicked")
  tags : IsSequence (Json.field fields "tags")

/-! ## Fields -/

theorem exists_clicks_iff (value : Json) : (∃ n, clicks value = .ok n) ↔ IsCount value := by
  unfold clicks
  cases value with
  | number n =>
    cases n with
    | int n =>
      refine iff_of_true ?_ trivial
      split
      · exact ⟨_, rfl⟩
      · exact ⟨_, rfl⟩
    | real x =>
      cases x with
      | infinite negative =>
        refine iff_of_false ?_ id
        rintro ⟨n, h⟩
        cases h
      | nan => exact iff_of_true ⟨_, rfl⟩ trivial
      | finite negative m e =>
        refine iff_of_true ?_ trivial
        split
        · exact ⟨_, rfl⟩
        · exact ⟨_, rfl⟩
  | _ =>
    refine iff_of_true ?_ trivial
    split
    · exact ⟨_, rfl⟩
    · exact ⟨_, rfl⟩

theorem exists_sequence_iff (value : Json) :
    (∃ items, sequence value = .ok items) ↔ IsSequence value := by
  unfold sequence
  cases value with
  | null => exact iff_of_true ⟨_, rfl⟩ trivial
  | boolean b =>
    cases b with
    | false => exact iff_of_true ⟨_, rfl⟩ rfl
    | true =>
      refine iff_of_false ?_ Bool.true_eq_false.mp
      rintro ⟨items, h⟩
      cases h
  | number n =>
    rw [IsSequence]
    cases (Json.number n).isTrue with
    | false => exact iff_of_true ⟨_, rfl⟩ rfl
    | true =>
      refine iff_of_false ?_ Bool.true_eq_false.mp
      rintro ⟨items, h⟩
      cases h
  | _ =>
    refine iff_of_true ?_ trivial
    split
    · exact ⟨_, rfl⟩
    · exact ⟨_, rfl⟩

theorem fewDigits_of_sequence {value : Json} (h : value.FewDigits) {items : List Json}
    (hitems : sequence value = .ok items) : ∀ item ∈ items, item.FewDigits := by
  unfold sequence at hitems
  split at hitems
  · obtain rfl := Except.ok.inj hitems
    exact List.forall_mem_nil _
  · split at hitems
    · obtain rfl := Except.ok.inj hitems
      exact List.forall_mem_map.2 fun _ _ => .of_integers_eq_nil rfl
    · obtain rfl := Except.ok.inj hitems
      exact Json.digitsWithin_array.1 h
    · obtain rfl := Except.ok.inj hitems
      exact List.forall_mem_map.2 fun _ _ => .of_integers_eq_nil rfl
    · cases hitems

theorem exists_tags_iff {value : Json} (h : value.FewDigits) :
    (∃ ts, tags value = .ok ts) ↔ IsSequence value := by
  rw [tags, Fault.exists_bind_iff, ← exists_sequence_iff]
  constructor
  · rintro ⟨items, hitems, -⟩
    exact ⟨items, hitems⟩
  · rintro ⟨items, hitems⟩
    have hfew := fewDigits_of_sequence h hitems
    obtain ⟨texts, htexts⟩ := Fault.exists_mapM_iff.2 fun item hitem =>
      Json.exists_text (hfew item hitem)
    exact ⟨items, hitems, Fault.exists_bind_iff.2 ⟨texts, htexts, _, rfl⟩⟩

theorem exists_optionalText {value : Json} (h : value.FewDigits) :
    ∃ s, optionalText value = .ok s := by
  cases value with
  | null => exact ⟨none, rfl⟩
  | _ =>
    obtain ⟨s, hs⟩ := Json.exists_text h
    exact Fault.exists_bind_iff.2 ⟨s, hs, _, rfl⟩

theorem fewDigits_firstTrue {a b : Json} (ha : a.FewDigits) (hb : b.FewDigits) :
    (firstTrue a b).FewDigits := by
  unfold firstTrue
  split
  · exact ha
  · split
    · exact hb
    · exact .of_integers_eq_nil rfl

end Record

theorem Bookmark.exists_ofRecord_iff {fields : Table Text Json}
    (h : (Json.object fields).FewDigits) :
    (∃ b, ofRecord fields = .ok b) ↔ Record.IsReadable fields := by
  constructor
  · rintro ⟨b, hb⟩
    have hread := ofRecord_eq_ok.1 hb
    exact ⟨(Record.exists_clicks_iff _).1 ⟨b.clicked, hread.clicked⟩,
      (Record.exists_tags_iff (h.field "tags")).1 ⟨b.tags, hread.tags⟩⟩
  · rintro ⟨hclicked, htags⟩
    obtain ⟨clicked, hclicked⟩ := (Record.exists_clicks_iff _).2 hclicked
    obtain ⟨tags, htags⟩ := (Record.exists_tags_iff (h.field "tags")).2 htags
    have htext : ∀ name, ∃ s, Record.optionalText (Json.field fields name) = .ok s := fun name =>
      Record.exists_optionalText (h.field name)
    obtain ⟨userAgent, huserAgent⟩ := htext "userAgent"
    obtain ⟨device, hdevice⟩ := htext "device"
    obtain ⟨os, hos⟩ := htext "os"
    obtain ⟨browser, hbrowser⟩ := htext "browser"
    obtain ⟨url, hurl⟩ := Json.exists_text (Record.fewDigits_firstTrue (h.field "url")
      (h.field "href"))
    obtain ⟨title, htitle⟩ := htext "title"
    obtain ⟨description, hdescription⟩ := htext "description"
    obtain ⟨notes, hnotes⟩ := htext "notes"
    unfold ofRecord
    simp only [hclicked, htags, huserAgent, hdevice, hos, hbrowser, hurl, htitle, hdescription,
      hnotes, Fault.ok_bind]
    exact ⟨_, rfl⟩

namespace Store

theorem fewDigits_of_records {document : Json} (h : document.FewDigits) {version : Json}
    {items : List Json} (hrecords : records document = .ok (version, items)) :
    ∀ item ∈ items, item.FewDigits := by
  unfold records at hrecords
  split at hrecords
  · obtain ⟨-, rfl⟩ := Prod.mk.inj (Except.ok.inj hrecords)
    exact Json.digitsWithin_array.1 h
  · next fields =>
    split at hrecords
    · next items' hfield =>
      obtain ⟨-, rfl⟩ := Prod.mk.inj (Except.ok.inj hrecords)
      have hbookmarks := h.field "bookmarks"
      rw [hfield] at hbookmarks
      exact Json.digitsWithin_array.1 hbookmarks
    · cases hrecords
  · cases hrecords

theorem exists_load_iff {document : Json} (h : document.FewDigits) {version : Json}
    {items : List Json} (hrecords : records document = .ok (version, items)) :
    (∃ loaded, load document = .ok loaded) ↔
      ∀ fields, .object fields ∈ items → Record.IsReadable fields := by
  have hitems := fewDigits_of_records h hrecords
  have hobjects : ∀ fields, fields ∈ items.filterMap objectFields? ↔ .object fields ∈ items := by
    intro fields
    rw [List.mem_filterMap]
    constructor
    · rintro ⟨item, hitem, heq⟩
      cases item with
      | object found => exact Option.some.inj heq ▸ hitem
      | _ => cases heq
    · intro hmem
      exact ⟨_, hmem, rfl⟩
  rw [load, hrecords, Fault.ok_bind, Fault.exists_bind_iff]
  constructor
  · rintro ⟨bookmarks, hbookmarks, -⟩ fields hfields
    exact (Bookmark.exists_ofRecord_iff (hitems _ hfields)).1
      (Fault.exists_mapM_iff.1 ⟨bookmarks, hbookmarks⟩ fields ((hobjects fields).2 hfields))
  · intro hread
    obtain ⟨bookmarks, hbookmarks⟩ := Fault.exists_mapM_iff.2 fun fields hfields =>
      have hmem := (hobjects fields).1 hfields
      (Bookmark.exists_ofRecord_iff (hitems _ hmem)).2 (hread fields hmem)
    exact ⟨bookmarks, hbookmarks, _, rfl⟩

end Store

/-! ## Loading -/

namespace Server

theorem fewDigits_of_document {path : String} {file : StoreFile} {document : Json}
    (h : file.document path = .ok document) : document.FewDigits := by
  cases file with
  | missing => cases h
  | directory => cases h
  | bytes content =>
    rw [StoreFile.document] at h
    split at h
    · cases h
    · exact Json.fewDigits_of_read h

/-- **A record that is not readable leaves a load with no bookmarks at all**, and it takes such a
record to make the load of a document with records fail. -/
theorem load_readable (s : Server) (path : Option String) {found : String}
    (hpath : s.storePath path = .ok found) {document : Json}
    (hdocument : (s.fileAt found).document found = .ok document) {version : Json}
    {items : List Json} (hrecords : Store.records document = .ok (version, items)) :
    (∀ fields, (Json.object fields).FewDigits →
        ((∃ b, Bookmark.ofRecord fields = .ok b) ↔ Record.IsReadable fields)) ∧
      ((∃ loaded, s.readStore path = .ok loaded) ↔
        ∀ fields, .object fields ∈ items → Record.IsReadable fields) ∧
      ((∃ fields, .object fields ∈ items ∧ ¬Record.IsReadable fields) → s.entries = none →
        (s.step (.load path)).1 = .ok (.loaded [] false)) := by
  have hread : (∃ loaded, s.readStore path = .ok loaded) ↔
      ∀ fields, .object fields ∈ items → Record.IsReadable fields := by
    rw [readStore, hpath, Fault.ok_bind, StoreFile.load, hdocument, Fault.ok_bind]
    exact Store.exists_load_iff (fewDigits_of_document hdocument) hrecords
  refine ⟨fun fields h => Bookmark.exists_ofRecord_iff h, hread, ?_⟩
  rintro ⟨fields, hfields, hnot⟩ hnone
  have houtcome : s.outcome path = [] := by
    rw [outcome]
    cases hloaded : s.readStore path with
    | error f => rfl
    | ok loaded => exact absurd (hread.1 ⟨loaded, hloaded⟩ fields hfields) hnot
  rw [s.step_load path, currentEntries, hnone, houtcome]
  rfl

/-- A store of two records, of which the second has a number for its tags. -/
def twoRecords : StoreFile :=
  .bytes ("[\x7b\"url\":\"http://a\"\x7d,\x7b\"tags\":5\x7d]".toList.map Char.toNat)

theorem document_twoRecords (path : String) : twoRecords.document path =
    .ok (.array [.object [("url", .string "http://a")],
      .object [("tags", .number (.int 5))]]) := by
  have hdecode : Text.decodeUtf8 ("[\x7b\"url\":\"http://a\"\x7d,\x7b\"tags\":5\x7d]".toList.map
      Char.toNat) = .ok "[\x7b\"url\":\"http://a\"\x7d,\x7b\"tags\":5\x7d]" := by cbv
  rw [twoRecords, StoreFile.document, hdecode]
  with_unfolding_all rfl

/-- One record of two is not readable, and there are no bookmarks. -/
theorem load_readable_twoRecords :
    let items : List Json := [.object [("url", .string "http://a")],
      .object [("tags", .number (.int 5))]]
    let s : Server :=
      ⟨"/usual", ⟨none, []⟩, [("/b", twoRecords)], [], Timestamp.epoch, none, none, []⟩
    s.storePath (some "/b") = .ok "/b" ∧ (s.fileAt "/b").document "/b" = .ok (.array items) ∧
      Store.records (.array items) = .ok (Store.defaultVersion, items) ∧ s.entries = none ∧
      (s.step (.load (some "/b"))).1 = .ok (.loaded [] false) := by
  intro items s
  refine ⟨rfl, document_twoRecords "/b", rfl, rfl,
    (load_readable s (some "/b") rfl (document_twoRecords "/b") rfl).2.2 ?_ rfl⟩
  exact ⟨_, List.mem_cons_of_mem _ List.mem_cons_self, fun h => Bool.false_ne_true h.tags.symm⟩

/-- A single record is refused that has an infinite number of clicks. -/
theorem ofRecord_infinite_clicks :
    ∃ fields, Json.read "\x7b\"clicked\":Infinity\x7d" = .ok (.object fields) ∧
      Bookmark.ofRecord fields = .error .infiniteInteger :=
  ⟨[("clicked", .number (.real (.infinite false)))], by with_unfolding_all rfl, rfl⟩

end Server

end Bookmarks
