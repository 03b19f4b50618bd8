import Bookmarks.Filter.Evaluate
import Bookmarks.Query.Parser
import Bookmarks.Sorting
import Bookmarks.Table

/-!
# Filtering a collection

* `Scores`: the scores of bookmarks; equal bookmarks share one.
* `rank`: entries by falling scores.
* `Spec.filter`: the entries that pass a query, ranked, with their scores.
* `Filtered.ofQuery`, `search`: the same for the text of a query.
-/

namespace Bookmarks

/-- The scores of bookmarks. Equal bookmarks have one score. -/
abbrev Scores : Type := Table BookmarkKey Int

/-- The score of a bookmark. -/
def Scores.of? (scores : Scores) (b : Bookmark) : Option Int :=
  scores.get? b.key

/-- The scores with that of one bookmark set. -/
def Scores.assign (scores : Scores) (b : Bookmark) (score : Int) : Scores :=
  scores.set b.key score

/-- The entries by falling scores; a bookmark without a score counts as zero, and equal scores keep
their order. -/
def rank (scores : Scores) (entries : List Entry) : List Entry :=
  if scores.isEmpty then entries
  else sortDescending (fun a b => decide (a < b)) (fun e => (scores.of? e.bookmark).getD 0) entries

/-- The entries that passed a query. -/
structure Filtered where
  /-- The entries, ranked. -/
  data : List Entry
  spec : Spec
  query : Text
  /-- The scores of the entries, none at all for a query without words. -/
  scores : Scores

/-- The state of a pass over a collection. -/
structure Pass where
  texts : SearchTexts
  survivors : List Entry
  scores : Scores

namespace Spec

/-- One entry more in a pass. -/
def visit (spec : Spec) (now : Timestamp) (pass : Pass) (e : Entry) : Except Fault Pass := do
  match ← spec.evaluateWith e now pass.texts with
  | (none, texts) => return { pass with texts }
  | (some score, texts) =>
    let scores := if spec.hasTerms then pass.scores.assign e.bookmark score else pass.scores
    return { texts, survivors := pass.survivors ++ [e], scores }

/-- The entries that pass the query. Where there are no entries, or nothing is asked for, all of
them pass as they are. -/
def filter (spec : Spec) (entries : List Entry) (now : Timestamp) : Except Fault Filtered := do
  if entries.isEmpty || spec.isEmpty then return ⟨entries, spec, [], []⟩
  else
    let pass ← entries.foldlM (spec.visit now) ⟨[], [], []⟩
    return ⟨rank pass.scores pass.survivors, spec, [], pass.scores⟩

end Spec

/-- The entries that pass the query which a text writes. -/
def Filtered.ofQuery (query : Text) (entries : List Entry) (now : Timestamp) :
    Except Fault Filtered := do
  return { ← (Spec.parse query).filter entries now with query }

/-- The best entries for a query, as many as `limit` says. -/
def search (query : Text) (entries : List Entry) (limit : Int) (now : Timestamp) :
    Except Fault (List Entry) := do
  return upTo limit (← Filtered.ofQuery query entries now).data

end Bookmarks
