import Bookmarks.Proofs.Relevance.Distribution
import Bookmarks.Proofs.Relevance.Order
import Bookmarks.Proofs.Server.Answers
import Bookmarks.Proofs.Server.Pages

/-!
# The most relevant bookmarks

The answer of `relevant_bookmarks` lists the beginning of the candidates by falling relevance. Where
the scores of the candidates can be computed, nothing else in the call fails: their explanations and
the statistics need the same scores.

* `Answer.Lists`: the entries that an answer lists, with their relevance.
* `Bookmark.HasAnyTag`, `withAnyTag_eq`: the candidates.
* `Answer.exists_ofRanking`: there is an answer, and it lists the first entries.
* **`sortByRelevance_ranked`**: sorting by relevance, and what the tool lists.
-/

namespace Bookmarks

open Bookmarks.Action Bookmarks.Request

namespace Answer

/-- **The answer lists these entries**, each with its relevance in words. -/
structure Lists (a : Answer) (config : RelevanceConfig) (now : Timestamp) (listed : List Entry) :
    Prop where
  results : a.results.map .ok = listed.map fun e => ofRanked config now e.bookmark
  /-- What it lists shows the bookmarks of these entries. -/
  bookmarks : List.Forall₂ Json.Shows a.results (listed.map Entry.bookmark)
  relevance : List.Forall₂ (Json.SaysRelevance config now) a.results (listed.map Entry.bookmark)

theorem Lists.of_results {a : Answer} {config : RelevanceConfig} {now : Timestamp}
    {listed : List Entry}
    (h : a.results.map .ok = listed.map fun e => ofRanked config now e.bookmark) :
    a.Lists config now listed := by
  have hranked : List.Forall₂ (fun value b => .ok value = ofRanked config now b)
      a.results (listed.map Entry.bookmark) := by
    refine List.forall₂_map_left_iff.1 (List.forall₂_map_right_iff.1 ?_)
    rw [h, List.map_map, List.forall₂_eq_eq_eq]
    rfl
  exact ⟨h, hranked.imp fun _ _ h => (shows_of_ofRanked h.symm).1,
    hranked.imp fun _ _ h => (shows_of_ofRanked h.symm).2⟩

end Answer

/-! ## Candidates -/

/-- The bookmark has one of the tags, in any letter case, or no tag is asked for. -/
def Bookmark.HasAnyTag (b : Bookmark) (tags : List Text) : Prop :=
  tags = [] ∨ ∃ tag ∈ b.tags, ∃ wanted ∈ tags, Text.lower wanted = Text.lower tag

instance (b : Bookmark) : DecidablePred b.HasAnyTag :=
  fun tags => inferInstanceAs (Decidable (tags = [] ∨ _))

theorem withAnyTag_eq (tags : List Text) (entries : List Entry) :
    withAnyTag tags entries = entries.filter fun e => e.bookmark.HasAnyTag tags := by
  unfold withAnyTag
  cases tags with
  | nil => exact (List.filter_eq_self.2 fun e _ => decide_eq_true (.inl rfl)).symm
  | cons wanted tags =>
    refine List.filter_congr fun e _ => ?_
    rw [Bool.eq_iff_iff, List.any_eq_true, decide_eq_true_iff, Bookmark.HasAnyTag,
      or_iff_right (List.cons_ne_nil wanted tags)]
    simp only [List.contains_iff_mem, List.mem_map]

section Candidates

variable {config : RelevanceConfig} {now : Timestamp} {score : Bookmark → Binary64}
  {entries : List Entry}
  (hscore : ∀ e ∈ entries, e.bookmark.relevance config now = .ok (score e.bookmark))
include hscore

theorem Answer.exists_ofRanked {e : Entry} (he : e ∈ entries) :
    ∃ value, ofRanked config now e.bookmark = .ok value := by
  rw [ofRanked, Bookmark.explainRelevance, hscore e he]
  exact ⟨_, rfl⟩

variable (hnan : ∀ e ∈ entries, score e.bookmark ≠ .nan)
include hnan

/-- **The first entries by falling relevance are listed.** -/
theorem Answer.exists_ofRanking (limit : Nat) : ∃ answer,
    ofRanking entries limit config now = .ok answer ∧
      answer.Lists config now ((byRelevance score entries).take limit) := by
  have hranked : ∀ e ∈ (byRelevance score entries).take limit,
      ∃ value, ofRanked config now e.bookmark = .ok value := fun e he =>
    exists_ofRanked hscore ((byRelevance_perm score entries).mem_iff.1 (List.mem_of_mem_take he))
  obtain ⟨results, hresults⟩ := Fault.exists_mapM_iff.2 hranked
  obtain ⟨stats, hstats⟩ := exists_relevanceStats (List.forall_mem_map.2 hscore)
  refine ⟨.document (.object [("stats", stats.toJson), ("results", .array results)]), ?_,
    .of_results (Fault.mapM_eq_ok_iff.1 hresults).symm⟩
  rw [ofRanking, sortByRelevance_eq hscore hnan, Fault.ok_bind, upTo_natCast]
  dsimp only
  rw [hresults, Fault.ok_bind, hstats]
  rfl

end Candidates

namespace Server

section Calls

variable {s : Server} {all : List Entry} {now : Timestamp} (h : s.Serves all now) {c : Settings}
  (hs : s.currentSettings = .ok c) {tags : List Text} {score : Bookmark → Binary64}
  (hscore : ∀ e ∈ withAnyTag tags all,
    e.bookmark.relevance c.relevance now = .ok (score e.bookmark))
  (hnan : ∀ e ∈ withAnyTag tags all, score e.bookmark ≠ .nan)
include hscore hnan

theorem exists_respond_relevant (limit : Nat) : ∃ answer : Answer,
    (relevant limit tags).respond (.ok c) now all = .ok answer ∧
      answer.Lists c.relevance now ((byRelevance score (withAnyTag tags all)).take limit) := by
  cases all with
  | nil =>
    have hnone : withAnyTag tags [] = [] := ite_self []
    refine ⟨noBookmarks, rfl, ?_⟩
    rw [hnone, (byRelevance_perm score []).eq_nil, List.take_nil]
    exact .of_results rfl
  | cons e rest =>
    exact Answer.exists_ofRanking hscore hnan limit

include h hs

theorem exists_relevantEntries (limit : Nat) : ∃ answer : Answer,
    (on (relevantEntries limit tags) s).1 = .ok answer ∧
      answer.Lists c.relevance now ((byRelevance score (withAnyTag tags all)).take limit) ∧
      ∀ arguments : Arguments, arguments.positive "limit" 10 = .ok (limit : Int) →
        arguments.tags? = some tags →
        (s.step (.call Tool.relevant.name (.object arguments))).1 = .ok (.answer answer) := by
  obtain ⟨answer, hanswer, hlists⟩ := exists_respond_relevant hscore hnan limit
  refine ⟨answer, ?_, hlists, fun arguments hlimit htags => ?_⟩
  · rw [on_relevantEntries, finish, conclude, h.entries, h.clock, hs]
    exact hanswer
  · have hcheck : check (.ok c) arguments .relevant = .ok (.inr (.relevant limit tags)) := by
      rw [check, hlimit, htags]
      rfl
    rw [step_tool_reply, h.entries, h.clock, hs, hcheck, conclude_request, hanswer]
    rfl

end Calls

end Server

/-- **Sorting by relevance.** If the scores can be computed and are numbers, the entries stand by
falling scores, then by clicks, by the last visit and by the time of addition, where a missing time
is that of the epoch. Each position is there once, and where all four agree, entries keep their
order. Sorting again changes nothing. Where these entries are the ones with a tag that is asked for,
the tool lists the first of them, as many as the limit says, each with all that is stored of its
bookmark and with its relevance, and none of the others comes before them. -/
theorem sortByRelevance_ranked {entries : List Entry} {config : RelevanceConfig} {now : Timestamp}
    {score : Bookmark → Binary64}
    (hscore : ∀ e ∈ entries, e.bookmark.relevance config now = .ok (score e.bookmark))
    (hnan : ∀ e ∈ entries, score e.bookmark ≠ .nan) :
    ∃ sorted positions, sortByRelevance entries config now = .ok sorted ∧
      IsDescending (fun e => relevancePlaces score e.bookmark) entries sorted positions ∧
      sortByRelevance sorted config now = .ok sorted ∧
      ∀ (s : Server) (all : List Entry) (c : Settings) (tags : List Text) (limit : Nat),
        s.Serves all now → s.currentSettings = .ok c → c.relevance = config →
        (all.filter fun e => e.bookmark.HasAnyTag tags) = entries →
        ∃ answer : Answer, (on (Server.relevantEntries limit tags) s).1 = .ok answer ∧
          answer.Lists config now (sorted.take limit) ∧
          (∀ e ∈ sorted.take limit, ∀ other ∈ sorted.drop limit,
            relevancePlaces score other.bookmark ≤ relevancePlaces score e.bookmark) ∧
          ∀ arguments : Arguments, arguments.positive "limit" 10 = .ok (limit : Int) →
            arguments.tags? = some tags →
            (s.step (.call Tool.relevant.name (.object arguments))).1 = .ok (.answer answer) := by
  have hperm := byRelevance_perm score entries
  have hdescending := sortDescending_isDescending
    (fun e : Entry => relevancePlaces score e.bookmark) entries
  refine ⟨byRelevance score entries, _, sortByRelevance_eq hscore hnan, hdescending, ?_, ?_⟩
  · have hagain : byRelevance score (byRelevance score entries) = byRelevance score entries :=
      sortDescending_sortDescending _ entries
    rw [sortByRelevance_eq (fun e he => hscore e (hperm.mem_iff.1 he))
      fun e he => hnan e (hperm.mem_iff.1 he), hagain]
  · rintro s all c tags limit hserves hs rfl hcandidates
    obtain rfl := (withAnyTag_eq tags all).trans hcandidates
    obtain ⟨answer, hanswer, hlists, hcalls⟩ :=
      Server.exists_relevantEntries hserves hs hscore hnan limit
    exact ⟨answer, hanswer, hlists, fun e he other hother => hdescending.le_of_mem_take he hother,
      hcalls⟩

/-- Three bookmarks with the least score, one of them clicked and two of them equal. -/
theorem sortByRelevance_ranked_ties :
    let first : Entry := ⟨0, Bookmark.ofUrl "a.org"⟩
    let clicked : Entry := ⟨1, { Bookmark.ofUrl "b.org" with clicked := 3 }⟩
    let second : Entry := ⟨2, Bookmark.ofUrl "a.org"⟩
    let entries := [first, clicked, second]
    let sorted := [clicked, first, second]
    let score := fun b : Bookmark => (b.relevance .standard .epoch).toOption.getD .nan
    let s : Server := { Server.bare with entries := some entries }
    (∀ e ∈ entries, e.bookmark.relevance .standard .epoch = .ok (score e.bookmark)) ∧
      (∀ e ∈ entries, score e.bookmark ≠ .nan) ∧
      sortByRelevance entries .standard .epoch = .ok sorted ∧
      sortByRelevance sorted .standard .epoch = .ok sorted ∧
      (∃ positions, IsDescending (fun e => relevancePlaces score e.bookmark) entries sorted
        positions) ∧
      ∃ answer : Answer, answer.Lists .standard .epoch [clicked, first] ∧
        answer.results.map (Json.field? "url") =
          [some (.string "b.org"), some (.string "a.org")] ∧
        (s.step (.call Tool.relevant.name (.object [("limit", Answer.integer 2)]))).1 =
          .ok (.answer answer) := by
  intro first clicked second entries sorted score s
  have hscore : ∀ e ∈ entries, e.bookmark.relevance .standard .epoch = .ok (score e.bookmark) := by
    decide +kernel
  have hnan : ∀ e ∈ entries, score e.bookmark ≠ .nan := by
    decide +kernel
  have hevaluated : sortByRelevance entries .standard .epoch = .ok sorted := by
    decide +kernel
  obtain ⟨found, positions, hsorted, hdescending, hagain, hserver⟩ :=
    sortByRelevance_ranked hscore hnan
  obtain rfl : sorted = found := Except.ok.inj (hevaluated.symm.trans hsorted)
  obtain ⟨answer, -, hlists, -, hcalls⟩ :=
    hserver s entries ⟨.standard, none, 20⟩ [] 2 ⟨rfl, rfl⟩ rfl rfl rfl
  exact ⟨hscore, hnan, hsorted, hagain, ⟨positions, hdescending⟩, answer, hlists,
    Json.Shows.map_url hlists.bookmarks, hcalls _ rfl rfl⟩

end Bookmarks
