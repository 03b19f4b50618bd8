import Bookmarks.Proofs.Store.Reload
import Bookmarks.Store.File
import Mathlib.Data.List.ReduceOption

/-!
# An account of all stored records

Loading a store leaves records out for three reasons, and says how many for each of them. What
becomes of a record is settled by its address and the addresses before it, so the bookmarks that are
kept and the three numbers account for every record once.

* `Store.fate`, `Store.fates`: what becomes of records.
* `Store.cleanAfter_eq`: cleaning finds these fates, with the addresses it has kept in place of all
  addresses before.
* `Store.Cleaned.IsAccountOf`, `Store.Loaded.IsAccountOf`: accounts of entries and of records.
* **`Store.clean_isAccountOf`**, **`Store.isAccountOf_of_load`**: cleaning and loading give them.
-/

namespace Bookmarks.Store

/-! ## Fates -/

/-- What becomes of a stored record. -/
inductive Fate where
  /-- It is left out, since it is no object. -/
  | notObject
  /-- It is left out, since its address is not usable. -/
  | invalid
  /-- It is left out, since an earlier record has its address. -/
  | duplicate
  /-- It is kept. -/
  | kept
deriving DecidableEq

/-- **What becomes of a record** with some address, none if it is no object, behind records with the
addresses `earlier`. -/
def fate (earlier : List (Option Text)) : Option Text → Fate
  | none => .notObject
  | some url =>
    if !Url.isUsable url then .invalid else if some url ∈ earlier then .duplicate else .kept

/-- What becomes of records with these addresses, each behind those before it and those in
`earlier`. -/
def fates (earlier urls : List (Option Text)) : List Fate :=
  urls.mapIdx fun i => fate (earlier ++ urls.take i)

/-- The elements of a list that have a given fate, in their order. -/
def withFate {α : Type} (f : Fate) (xs : List α) (fs : List Fate) : List α :=
  ((xs.zip fs).filter fun x => x.2 = f).map Prod.fst

theorem fates_cons (earlier : List (Option Text)) (url : Option Text) (urls : List (Option Text)) :
    fates earlier (url :: urls) = fate earlier url :: fates (earlier ++ [url]) urls := by
  simp [fates, List.mapIdx_cons]

theorem length_fates (earlier urls : List (Option Text)) :
    (fates earlier urls).length = urls.length :=
  List.length_mapIdx

section WithFate

variable {α β : Type} (f : Fate)

theorem withFate_cons (x : α) (xs : List α) (g : Fate) (fs : List Fate) :
    withFate f (x :: xs) (g :: fs) = if g = f then x :: withFate f xs fs else withFate f xs fs := by
  by_cases h : g = f <;> simp [withFate, h]

theorem withFate_map (k : α → β) (xs : List α) (fs : List Fate) :
    withFate f (xs.map k) fs = (withFate f xs fs).map k := by
  induction xs generalizing fs with
  | nil => rfl
  | cons x xs ih =>
    cases fs with
    | nil => rfl
    | cons g fs =>
      rw [List.map_cons, withFate_cons, withFate_cons, ih]
      split_ifs <;> rfl

theorem length_withFate {xs : List α} {fs : List Fate} (h : fs.length = xs.length) :
    (withFate f xs fs).length = fs.count f := by
  induction fs generalizing xs with
  | nil => simp [withFate]
  | cons g fs ih =>
    obtain ⟨x, xs, rfl⟩ := List.exists_cons_of_length_eq_add_one h.symm
    rw [withFate_cons, List.count_cons, ← ih (by simpa using h)]
    by_cases hg : g = f <;> simp [hg]

end WithFate

theorem count_fates (fs : List Fate) : fs.count .kept + fs.count .notObject + fs.count .invalid +
    fs.count .duplicate = fs.length := by
  induction fs with
  | nil => rfl
  | cons f fs ih =>
    cases f <;> simp <;> omega

/-! ## Cleaning -/

/-- **Cleaning settles the fates.** It looks up an address among those that it has kept; a usable
one is among them exactly if it is among all addresses before. -/
theorem cleanAfter_eq {seen : List Text} {earlier : List (Option Text)}
    (h : ∀ url, Url.isUsable url = true → (url ∈ seen ↔ some url ∈ earlier))
    (found : List (Option Entry)) :
    let c := cleanAfter seen found.reduceOption
    let fs := fates earlier (found.map (Option.map (·.bookmark.url)))
    c.kept.map some = withFate .kept found fs ∧ c.invalid = fs.count .invalid ∧
      c.duplicates = fs.count .duplicate := by
  induction found generalizing seen earlier with
  | nil => exact ⟨rfl, rfl, rfl⟩
  | cons e? found ih =>
    dsimp only
    rw [List.map_cons, fates_cons]
    cases e? with
    | none =>
      have hrest := @ih seen (earlier ++ [none]) (by simpa using h)
      simpa [withFate_cons, fate] using hrest
    | some e =>
      rw [List.reduceOption_cons_of_some, cleanAfter, Option.map_some]
      dsimp only
      generalize e.bookmark.url = url
      have hnext : ∀ other, Url.isUsable other = true →
          (some other ∈ earlier ++ [some url] ↔ other ∈ seen ∨ other = url) := by
        intro other hother
        rw [h other hother, List.mem_append, List.mem_singleton, Option.some_inj]
      by_cases husable : Url.isUsable url = true
      · by_cases hseen : url ∈ seen
        · have hrest := @ih seen (earlier ++ [some url]) fun other hother =>
            ((hnext other hother).trans (or_iff_left_of_imp fun heq => heq ▸ hseen)).symm
          simpa [withFate_cons, fate, husable, hseen, (h url husable).1 hseen] using hrest
        · have hrest := @ih (url :: seen) (earlier ++ [some url]) fun other hother => by
            rw [hnext other hother, List.mem_cons, or_comm]
          simpa [withFate_cons, fate, husable, hseen, mt (h url husable).2 hseen] using hrest
      · -- an address that is not usable is never looked up again
        have hrest := @ih seen (earlier ++ [some url]) fun other hother =>
          ((hnext other hother).trans (or_iff_left fun heq => husable (heq ▸ hother))).symm
        simpa [withFate_cons, fate, husable] using hrest

theorem count_fates_eq_countP {f : Fate} {p : Option Text → Bool}
    (h : ∀ earlier url, fate earlier url = f ↔ p url = true) (earlier urls : List (Option Text)) :
    (fates earlier urls).count f = urls.countP p := by
  induction urls generalizing earlier with
  | nil => rfl
  | cons url urls ih =>
    rw [fates_cons, List.count_cons, List.countP_cons, ih]
    simp [h]

theorem fate_eq_notObject_iff (earlier : List (Option Text)) (url : Option Text) :
    fate earlier url = .notObject ↔ url.isNone = true := by
  cases url with
  | none => simp [fate]
  | some url =>
    rw [fate]
    split_ifs <;> simp

theorem fate_eq_invalid_iff (earlier : List (Option Text)) (url : Option Text) :
    fate earlier url = .invalid ↔ (url.any fun url => !Url.isUsable url) = true := by
  cases url with
  | none => simp [fate]
  | some url =>
    rw [fate]
    split_ifs <;> simp_all

/-- What becomes of entries. -/
def fatesOfEntries (entries : List Entry) : List Fate :=
  fates [] (entries.map fun e => some e.bookmark.url)

/-- **An account of entries**: those that are kept are the ones with a usable address that no
earlier entry has, and the numbers count the others. -/
structure Cleaned.IsAccountOf (c : Cleaned) (entries : List Entry) : Prop where
  kept : c.kept = withFate .kept entries (fatesOfEntries entries)
  sublist : c.kept.Sublist entries
  nodup : (c.kept.map (·.bookmark.url)).Nodup
  invalid : c.invalid = entries.countP fun e => !Url.isUsable e.bookmark.url
  duplicates : c.duplicates = (fatesOfEntries entries).count .duplicate
  total : c.kept.length + c.invalid + c.duplicates = entries.length
  again : clean c.kept = ⟨c.kept, 0, 0⟩

/-- **Cleaning gives an account of all entries.** -/
theorem clean_isAccountOf (entries : List Entry) : (clean entries).IsAccountOf entries := by
  have hclean := isClean_cleanAfter [] entries
  obtain ⟨hkept, hinvalid, hduplicates⟩ := @cleanAfter_eq [] [] (by simp) (entries.map some)
  have hentries : (entries.map some).reduceOption = entries := by
    rw [List.reduceOption, List.filterMap_map]
    exact List.filterMap_some
  have hfates : fates [] ((entries.map some).map (Option.map fun e => e.bookmark.url)) =
      fatesOfEntries entries := by
    rw [List.map_map]
    rfl
  rw [hentries, hfates] at hkept hinvalid hduplicates
  have hall : (clean entries).kept = withFate .kept entries (fatesOfEntries entries) :=
    List.map_injective_iff.2 (Option.some_injective Entry) (hkept.trans (withFate_map _ _ _ _))
  have hcount := count_fates (fatesOfEntries entries)
  have hlength : (fatesOfEntries entries).length = entries.length := by
    simp [fatesOfEntries, length_fates]
  exact {
    kept := hall
    sublist := cleanAfter_sublist [] entries
    nodup := hclean.nodup
    invalid := by
      rw [clean, hinvalid, fatesOfEntries, count_fates_eq_countP fate_eq_invalid_iff,
        List.countP_map]
      rfl
    duplicates := hduplicates
    total := by
      have hobjects : (fatesOfEntries entries).count .notObject = 0 := by
        rw [fatesOfEntries, count_fates_eq_countP fate_eq_notObject_iff]
        simp
      rw [hall, length_withFate _ hlength, clean, hinvalid, hduplicates]
      omega
    again := cleanAfter_of_isClean hclean }

/-! ## Loading -/

/-- The bookmark of a record that is an object and can be read. -/
def bookmark? (item : Json) : Option Bookmark :=
  (objectFields? item).bind fun fields => (Bookmark.ofRecord fields).toOption

/-- What becomes of the records of a store. -/
def fatesOfRecords (items : List Json) : List Fate :=
  fates [] (items.map fun item => (bookmark? item).map (·.url))

/-- **An account of records**: each of them has one fate, the bookmarks are those of the records
that are kept, in their order, and the numbers count the others. -/
structure Loaded.IsAccountOf (loaded : Loaded) (items : List Json) : Prop where
  readable : ∀ item ∈ items, ∀ fields ∈ objectFields? item, ∃ b, Bookmark.ofRecord fields = .ok b
  entries : loaded.entries.map (some ·.bookmark) =
    withFate .kept (items.map bookmark?) (fatesOfRecords items)
  notObjects : loaded.notObjects = (fatesOfRecords items).count .notObject
  invalid : loaded.invalid = (fatesOfRecords items).count .invalid
  duplicates : loaded.duplicates = (fatesOfRecords items).count .duplicate
  total : loaded.entries.length + loaded.notObjects + loaded.invalid + loaded.duplicates =
    items.length

theorem exists_map_eq_of_reduceOption {α β : Type} {g : α → β} {read : List (Option β)}
    {xs : List α} (h : xs.map g = read.reduceOption) :
    ∃ found : List (Option α), found.reduceOption = xs ∧ found.map (Option.map g) = read := by
  induction read generalizing xs with
  | nil => exact ⟨[], (List.map_eq_nil_iff.1 h).symm, rfl⟩
  | cons b? read ih =>
    cases b? with
    | none =>
      obtain ⟨found, hxs, hread⟩ := ih h
      exact ⟨none :: found, hxs, by rw [List.map_cons, hread]; rfl⟩
    | some b =>
      obtain ⟨x, rest, rfl, rfl, hrest⟩ := List.map_eq_cons_iff.1 h
      obtain ⟨found, hfound, hread⟩ := ih hrest
      exact ⟨some x :: found, by rw [List.reduceOption_cons_of_some, hfound],
        by rw [List.map_cons, hread]; rfl⟩

section Load

variable {items : List Json} {bookmarks : List Bookmark}
  (h : (items.filterMap objectFields?).mapM Bookmark.ofRecord = .ok bookmarks)
include h

theorem reduceOption_bookmarks : (items.map bookmark?).reduceOption = bookmarks := by
  have hread := congrArg (List.filterMap Except.toOption) (Fault.mapM_eq_ok_iff.1 h)
  rw [List.filterMap_map, List.filterMap_filterMap, List.filterMap_map] at hread
  rw [List.reduceOption, List.filterMap_map]
  exact hread.trans List.filterMap_some

theorem count_notObject : (fatesOfRecords items).count .notObject =
    items.length - (items.filterMap objectFields?).length := by
  have hobjects : (items.filterMap objectFields?).length = bookmarks.length := by
    simpa using congrArg List.length (Fault.mapM_eq_ok_iff.1 h)
  have hall := (items.map bookmark?).length_eq_reduceOption_length_add_filter_none
  have hnone : (fatesOfRecords items).count .notObject =
      ((items.map bookmark?).filter Option.isNone).length := by
    rw [fatesOfRecords, count_fates_eq_countP fate_eq_notObject_iff, ← List.countP_eq_length_filter,
      List.countP_map, List.countP_map]
    exact List.countP_congr fun item _ => by simp
  rw [reduceOption_bookmarks h, List.length_map] at hall
  omega

end Load

/-- **Loading gives an account of all records.** -/
theorem isAccountOf_of_load {document version : Json} {items : List Json} {loaded : Loaded}
    (hitems : records document = .ok (version, items)) (h : load document = .ok loaded) :
    loaded.IsAccountOf items := by
  obtain ⟨_, hrecords, h⟩ := Fault.bind_eq_ok.1 h
  obtain rfl := Except.ok.inj (hrecords.symm.trans hitems)
  obtain ⟨bookmarks, hbookmarks, h⟩ := Fault.bind_eq_ok.1 h
  obtain rfl := Except.ok.inj h
  -- the entries of the bookmarks stand where their records do
  obtain ⟨found, hfound, hread⟩ := exists_map_eq_of_reduceOption
    ((Entry.map_bookmark_number bookmarks).trans (reduceOption_bookmarks hbookmarks).symm)
  have hfates : fates [] (found.map (Option.map fun e => e.bookmark.url)) =
      fatesOfRecords items := by
    have hurls := congrArg (List.map (Option.map Bookmark.url)) hread
    rw [List.map_map, List.map_map] at hurls
    refine congrArg (fates []) (Eq.trans (List.map_congr_left fun e? _ => ?_) hurls)
    exact Option.map_map _ _ _ |>.symm
  obtain ⟨hkept, hinvalid, hduplicates⟩ := @cleanAfter_eq [] [] (by simp) found
  rw [hfound, hfates] at hkept hinvalid hduplicates
  have hentries := congrArg (List.map (Option.map Entry.bookmark)) hkept
  rw [← withFate_map, hread, List.map_map] at hentries
  have hnotObjects := count_notObject hbookmarks
  exact {
    readable := by
      intro item hitem fields hfields
      exact Fault.exists_mapM_iff.1 ⟨_, hbookmarks⟩ fields
        (List.mem_filterMap.2 ⟨item, hitem, hfields⟩)
    entries := hentries
    notObjects := hnotObjects.symm
    invalid := hinvalid
    duplicates := hduplicates
    total := by
      have hcount := count_fates (fatesOfRecords items)
      have hall : (fatesOfRecords items).length = items.length := by
        simp [fatesOfRecords, length_fates]
      have hlength := congrArg List.length hentries
      rw [length_withFate _ (by simp [hall]), List.length_map] at hlength
      dsimp only [clean]
      omega }

/-- **Cleaning and loading account for everything once.** Of any entries cleaning keeps the first
one for each usable address. A store that is loaded gives the bookmarks of the records that are
kept, in stored order, and each other record is in exactly one of the three numbers. -/
theorem clean_load_isAccountOf :
    (∀ entries, (clean entries).IsAccountOf entries) ∧
      ∀ (path : String) (file : StoreFile) (loaded : Loaded), file.load path = .ok loaded →
        ∃ document version items, file.document path = .ok document ∧
          records document = .ok (version, items) ∧ loaded.IsAccountOf items := by
  refine ⟨clean_isAccountOf, fun path file loaded h => ?_⟩
  obtain ⟨document, hdocument, hload⟩ := Fault.bind_eq_ok.1 h
  obtain ⟨⟨version, items⟩, hrecords, -⟩ := Fault.bind_eq_ok.1 hload
  exact ⟨document, version, items, hdocument, hrecords, isAccountOf_of_load hrecords hload⟩

/-- A document with a record of each fate. -/
def fourRecordsText : String :=
  "[1,\x7b\"url\":\"a.b\"\x7d,\x7b\x7d,\x7b\"href\":\"a.b\"\x7d]"

/-- The store with this document. -/
def fourRecords : StoreFile :=
  .bytes (fourRecordsText.toList.map Char.toNat)

theorem document_fourRecords (path : String) : fourRecords.document path =
    .ok (.array [.number (.int 1), .object [("url", .string "a.b")], .object [],
      .object [("href", .string "a.b")]]) := by
  have hdecode : Text.decodeUtf8 (fourRecordsText.toList.map Char.toNat) =
      .ok (Text.ofString fourRecordsText) := by
    cbv
  rw [fourRecords, StoreFile.document, hdecode]
  with_unfolding_all rfl

/-- The second record is kept, the third has no address, and the last one repeats the second. -/
theorem clean_load_isAccountOf_four_records :
    let items : List Json := [.number (.int 1), .object [("url", .string "a.b")], .object [],
      .object [("href", .string "a.b")]]
    let loaded : Loaded := ⟨[⟨0, Bookmark.ofUrl "a.b"⟩], 1, 1, 1⟩
    fourRecords.load "/s" = .ok loaded ∧ loaded.IsAccountOf items ∧
      fatesOfRecords items = [.notObject, .kept, .invalid, .duplicate] := by
  intro items loaded
  have hload : fourRecords.load "/s" = .ok loaded := by
    rw [StoreFile.load, document_fourRecords, Fault.ok_bind]
    rfl
  obtain ⟨document, version, found, hfound, hrecords, haccount⟩ :=
    clean_load_isAccountOf.2 "/s" fourRecords loaded hload
  obtain rfl := Except.ok.inj ((document_fourRecords "/s").symm.trans hfound)
  obtain ⟨rfl, rfl⟩ := Prod.mk.inj (Except.ok.inj hrecords)
  exact ⟨hload, haccount, by decide +kernel⟩

end Bookmarks.Store
