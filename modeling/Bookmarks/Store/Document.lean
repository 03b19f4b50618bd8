import Bookmarks.Store.Record
import Bookmarks.Url.Valid

/-!
# The stored collection

A store is a document: an object with a list of bookmarks and a version, or just the list. What
cannot be used is left out and counted.

* `Store.records`: the version and the records of a document.
* `Store.clean`: entries without unusable and repeated addresses.
* `Store.load`: the bookmarks of a document, and what was left out.
-/

namespace Bookmarks

namespace Store

/-- The version of a document that names none. -/
def defaultVersion : Json := .string "2025-08-13"

/-- The version and the records of a document. -/
def records (document : Json) : Except Fault (Json × List Json) :=
  match document with
  | .array items => .ok (defaultVersion, items)
  | .object fields =>
    match Json.field fields "bookmarks" with
    | .array items =>
      let version := Json.field fields "version"
      .ok (if version.isTrue then version else defaultVersion, items)
    | _ => .error .notStore
  | _ => .error .notStore

/-- The entries that are kept, and how many were left out for either reason. -/
structure Cleaned where
  kept : List Entry
  invalid : Nat
  duplicates : Nat

/-- The entries with a usable address that is not among the addresses `seen`, nor that of an earlier
entry. -/
def cleanAfter (seen : List Text) : List Entry → Cleaned
  | [] => ⟨[], 0, 0⟩
  | e :: rest =>
    let url := e.bookmark.url
    if !Url.isUsable url then
      let c := cleanAfter seen rest
      { c with invalid := c.invalid + 1 }
    else if seen.contains url then
      let c := cleanAfter seen rest
      { c with duplicates := c.duplicates + 1 }
    else
      let c := cleanAfter (url :: seen) rest
      { c with kept := e :: c.kept }

/-- The entries with a usable address, the first one for each address. -/
def clean (entries : List Entry) : Cleaned :=
  cleanAfter [] entries

/-- The bookmarks of a document, and how many records were left out for each reason. -/
structure Loaded where
  entries : List Entry
  notObjects : Nat
  invalid : Nat
  duplicates : Nat

/-- The fields of a record that is an object. -/
def objectFields? : Json → Option (Table Text Json)
  | .object fields => some fields
  | _ => none

/-- The bookmarks of a document. -/
def load (document : Json) : Except Fault Loaded := do
  let (_, items) ← records document
  let objects := items.filterMap objectFields?
  let bookmarks ← objects.mapM Bookmark.ofRecord
  let cleaned := clean (Entry.number bookmarks)
  return ⟨cleaned.kept, items.length - objects.length, cleaned.invalid, cleaned.duplicates⟩

/-- A notice on records that were left out, if there are any. -/
def notice (count : Nat) (what : String) : List String :=
  if count = 0 then [] else ["Skipped " ++ Fault.number count ++ " " ++ what]

/-- The notices on all records that were left out. -/
def Loaded.notices (l : Loaded) : List String :=
  notice l.notObjects "non-object record(s) in bookmark store" ++
    notice l.invalid "bookmark(s) with invalid URLs" ++
    notice l.duplicates "duplicate bookmark(s)"

end Store

end Bookmarks
