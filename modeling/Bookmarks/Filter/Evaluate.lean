import Bookmarks.Filter.Holds
import Bookmarks.Filter.SearchText
import Bookmarks.Query.Spec

/-!
# Evaluating a query on one bookmark

A bookmark passes the structured filters first. Then the words decide: an excluded word rejects it,
a required word that is missing rejects it, and where no word is required one of the optional words
must occur. A required word counts two points and an optional word that occurs counts one.

* `Spec.admits`: the structured filters.
* `Spec.noneOccurs`, `Spec.scoreRequired`, `Spec.scoreOptional`, `Spec.scoreText`: the words.
* `Spec.evaluate`: the score of a bookmark that passes; `Spec.evaluateWith` shares search texts.
-/

namespace Bookmarks

/-- The points for a required word. -/
def requiredWeight : Nat := 2

/-- The points for an optional word that occurs. -/
def optionalWeight : Nat := 1

namespace Spec

/-- All filters hold; the first one that does not ends the search. -/
def allHold (b : Bookmark) (now : Timestamp) : List Predicate → Except Fault Bool
  | [] => .ok true
  | p :: rest => do if ← p.holds b now then allHold b now rest else return false

/-- No filter holds; the first one that does ends the search. -/
def noneHolds (b : Bookmark) (now : Timestamp) : List Predicate → Except Fault Bool
  | [] => .ok true
  | p :: rest => do if ← p.holds b now then return false else noneHolds b now rest

/-- The bookmark passes the structured filters. -/
def admits (spec : Spec) (b : Bookmark) (now : Timestamp) : Except Fault Bool := do
  if ← allHold b now spec.filters then noneHolds b now spec.negated else return false

/-- The word occurs in a search text. -/
def matchesTerm (text term : Text) : Bool :=
  Text.occursIn (Text.lower term) text

/-- No excluded word occurs; the first one that does ends the search. -/
def noneOccurs (text : Text) : List Text → Bool
  | [] => true
  | term :: rest => if matchesTerm text term then false else noneOccurs text rest

/-- The score after the required words; the first one that is missing ends the search. -/
def scoreRequired (text : Text) (score : Nat) : List Text → Option Nat
  | [] => some score
  | term :: rest =>
    if matchesTerm text term then scoreRequired text (score + requiredWeight) rest else none

/-- The score after the optional words, and whether one of them occurs. -/
def scoreOptional (text : Text) (score : Nat) (found : Bool) : List Text → Nat × Bool
  | [] => (score, found)
  | term :: rest =>
    if matchesTerm text term then scoreOptional text (score + optionalWeight) true rest
    else scoreOptional text score found rest

/-- The score of a search text, none if the words reject it. -/
def scoreText (spec : Spec) (text : Text) : Option Nat :=
  if !noneOccurs text spec.excluded then none
  else
    match scoreRequired text 0 spec.required with
    | none => none
    | some score =>
      let (score, found) := scoreOptional text score false spec.optional
      if !spec.optional.isEmpty && spec.required.isEmpty && !found then none else some score

/-- The score of a bookmark, none if the query rejects it. -/
def evaluate (spec : Spec) (b : Bookmark) (now : Timestamp) : Except Fault (Option Nat) := do
  if ← spec.admits b now then
    if spec.hasTerms then return spec.scoreText b.searchText else return some 0
  else return none

/-- The score of an entry's bookmark, with search texts that are kept for the whole pass. -/
def evaluateWith (spec : Spec) (e : Entry) (now : Timestamp) (texts : SearchTexts) :
    Except Fault (Option Nat × SearchTexts) := do
  if ← spec.admits e.bookmark now then
    if spec.hasTerms then
      let (text, texts) := texts.fetch e
      return (spec.scoreText text, texts)
    else return (some 0, texts)
  else return (none, texts)

end Spec

end Bookmarks
