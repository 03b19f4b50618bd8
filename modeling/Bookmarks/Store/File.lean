import Bookmarks.Json.Reader
import Bookmarks.Store.Document

/-!
# The store file

* `StoreFile`: what stands at a path.
* `StoreFile.load`: the bookmarks that are read from it.
-/

namespace Bookmarks

/-- What stands at a path: nothing, a directory, or a file of bytes. -/
inductive StoreFile where
  | missing
  | directory
  | bytes (content : List Nat)
deriving DecidableEq

namespace StoreFile

/-- The document in a file: UTF-8 text in which every end of line is a line feed. -/
def document (path : String) : StoreFile → Except Fault Json
  | missing => .error (.storeMissing path)
  | directory => .error (.storeIsDirectory path)
  | bytes content =>
    match Text.decodeUtf8 content with
    | .error m => .error (.misread m)
    | .ok text => Json.read (Text.unifyNewlines text)

/-- The bookmarks in a file. -/
def load (path : String) (file : StoreFile) : Except Fault Store.Loaded := do
  Store.load (← file.document path)

end StoreFile

end Bookmarks
