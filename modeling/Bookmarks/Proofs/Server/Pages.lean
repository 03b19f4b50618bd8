import Bookmarks.Proofs.Filter.Total
import Bookmarks.Proofs.Page
import Bookmarks.Proofs.Server.Absent
import Bookmarks.Proofs.Server.Listed

/-!
# Reading a result page by page

A search gives one page of its result. As long as the bookmarks in use and the time stay the same,
the pages belong to one result, and reading all of them shows each of its entries once.

* `Answer.ShowAll`: answers that show a result page by page.
* `Server.readPages`, `Server.searchStep`: searches for some pages, and for one as a call.
* `Server.Serves`: the bookmarks in use and the time. A search keeps them (`Server.finish_search`,
  `Server.step_search`), and so do many (`Server.on_readPages`, `Server.reply_turns_search`).
* **`Server.readPages_showAll`**: reading all pages shows every result once.
-/

namespace Bookmarks

open Bookmarks.Action Bookmarks.Request

namespace Answer

/-- A range of positions as it stands in an answer. -/
def ofRange (range : Int × Int) : Json :=
  .array [integer range.1, integer range.2]

/-- **The answers show a result page by page**, with pages of one size. -/
structure ShowAll (answers : List Answer) (r : Filtered) (size : Int) : Prop where
  /-- One after the other they list the entries of the result, each with its score. -/
  results : answers.flatMap results = r.data.map fun e => ofFound r.scores e.bookmark
  /-- What they list shows the bookmarks of these entries. -/
  listed : List.Forall₂ Json.Shows (answers.flatMap Answer.results) (r.data.map Entry.bookmark)
  total : ∀ a ∈ answers, a.field? "total" = some (integer r.data.length)
  totalPages : ∀ a ∈ answers, a.field? "total_pages" = some (integer answers.length)
  page : answers.map (field? "page") =
    (List.range answers.length).map fun k : Nat => some (integer (k + 1))
  /-- The pages before the last one are full. -/
  full : ∀ a ∈ answers.dropLast, (a.results.length : Int) = size
  /-- The ranges that they show cover the positions in the result. -/
  showing : ∃ ranges, answers.map (field? "showing") = ranges.map (some ∘ ofRange) ∧
    (r.data = [] → ranges = [(0, 0)]) ∧
    (r.data ≠ [] → Tiles 1 ranges r.data.length ∧
      answers.map (fun a => (a.results.length : Int)) =
        ranges.map fun range => range.2 - range.1 + 1)

variable (r : Filtered) {size : Nat}

theorem results_ofPage (p : Page Entry) :
    (ofPage r p).results = p.items.map fun e => ofFound r.scores e.bookmark :=
  rfl

/-- The answers for all pages. -/
def pages (size : Nat) : List Answer :=
  (List.range (pageCount r.data.length size)).map fun k => ofPage r (.nth r.data size k)

theorem length_pages (size : Nat) : (pages r size).length = pageCount r.data.length size := by
  rw [pages, List.length_map, List.length_range]

theorem map_pageNumbers (size : Nat) : (pageNumbers (pages r size).length).map (fun page =>
    ofPage r (.nth r.data size (page.toNat - 1))) = pages r size := by
  rw [length_pages, pageNumbers, List.map_map]
  rfl

theorem getLast?_pages (size : Nat) : (pages r size).getLast? =
    some (ofPage r (.nth r.data size (pageCount r.data.length size - 1))) := by
  obtain ⟨count, hcount⟩ := Nat.exists_eq_add_one.2 (pageCount_pos r.data.length size)
  rw [pages, hcount, List.range_succ, List.map_append, List.map_singleton, List.getLast?_concat]
  rfl

theorem flatMap_pages (h : 0 < size) :
    (pages r size).flatMap results = r.data.map fun e => ofFound r.scores e.bookmark := by
  unfold pages
  rw [List.flatMap_map]
  simp only [results_ofPage]
  rw [← List.map_flatMap, Page.flatMap_nth r.data h]

/-- **The answers for all pages show the result.** -/
theorem showAll_pages (h : 0 < size) : ShowAll (pages r size) r size where
  results := flatMap_pages r h
  listed := by
    rw [flatMap_pages r h, List.forall₂_map_left_iff, List.forall₂_map_right_iff,
      List.forall₂_same]
    exact fun e _ => shows_ofFound r.scores e.bookmark
  total a ha := by
    obtain ⟨k, -, rfl⟩ := List.mem_map.1 ha
    rfl
  totalPages a ha := by
    obtain ⟨k, -, rfl⟩ := List.mem_map.1 ha
    rw [length_pages]
    rfl
  page := by
    rw [length_pages, pages, List.map_map]
    rfl
  full a ha := by
    obtain ⟨count, hcount⟩ := Nat.exists_eq_add_one.2 (pageCount_pos r.data.length size)
    rw [pages, hcount, List.range_succ, List.map_append, List.map_singleton,
      List.dropLast_concat] at ha
    obtain ⟨k, hk, rfl⟩ := List.mem_map.1 ha
    have hlt : k + 1 < pageCount r.data.length size := by
      have := List.mem_range.1 hk
      omega
    rw [results_ofPage, List.length_map, Page.length_nth h hlt]
  showing := by
    refine ⟨(List.range (pageCount r.data.length size)).map fun k =>
      (Page.nth r.data size k).range, ?_, fun hnil => ?_, fun hne => ⟨Page.tiles_nth h hne, ?_⟩⟩
    · rw [pages, List.map_map, List.map_map]
      rfl
    · rw [hnil, List.length_nil, pageCount_zero h]
      rfl
    · rw [pages, List.map_map, List.map_map]
      refine List.map_congr_left fun k hk => ?_
      rw [Function.comp_apply, results_ofPage, List.length_map,
        Page.length_nth_eq h hne (List.mem_range.1 hk)]
      rfl

end Answer

/-! ## Scores -/

theorem Filtered.Ranks.field?_ofFound {r : Filtered} {spec : Spec} {now : Timestamp}
    {c : Collection} (h : r.Ranks spec now c) (hspec : spec.Bounded) {e : Entry} (he : e ∈ r.data) :
    ∃ n, spec.evaluate e.bookmark now = .ok (some n) ∧
      (Answer.ofFound r.scores e.bookmark).field? "score" =
        if spec.hasTerms then some (Answer.integer n) else none := by
  refine ⟨spec.points e.bookmark, ?_, ?_⟩
  · rw [Spec.evaluate_eq hspec, if_pos (h.mem_data_iff.1 he).2]
  · rw [Answer.field?_ofFound, h.of?_eq he, Spec.score?]
    split <;> rfl

/-! ## Searches -/

namespace Server

/-- The bookmarks in use and the time. -/
structure Serves (s : Server) (entries : List Entry) (now : Timestamp) : Prop where
  entries : s.currentEntries none = entries
  clock : s.clock = now

/-- The answers to a search for some pages, one after the other. -/
def readPages (query : Text) (size : Int) (pages : List Int) : Action (List Answer) :=
  pages.mapM fun page => searchPage query page size

/-- The arguments of a search for a page. -/
def searchArguments (query : Text) (size page : Int) : Arguments :=
  [("query", .string query), ("page", Answer.integer page), ("per_page", Answer.integer size)]

/-- A search for a page, as a call of its tool. -/
def searchStep (query : Text) (size page : Int) : Step :=
  .call Tool.search.name (.object (searchArguments query size page))

theorem check_searchArguments (settings : Settings) (query : Text) {size page : Int}
    (hsize : 1 ≤ size) (hpage : 1 ≤ page) :
    check (.ok settings) (searchArguments query size page) .search =
      .ok (.inr (.search query page size)) := by
  have hpositive : ∀ {n : Int} {name : String} (usual : Int), 1 ≤ n →
      (searchArguments query size page).get? (Text.ofString name) = some (Answer.integer n) →
      (searchArguments query size page).positive name usual = .ok n := by
    intro n name usual hn hget
    rw [Arguments.positive, hget]
    exact if_neg (by omega)
  change report (pageAndSize (.ok settings) (searchArguments query size page)) _ = _
  rw [pageAndSize, hpositive 1 hpage rfl, Fault.ok_bind, Fault.ok_bind,
    hpositive settings.pageSize hsize rfl]
  rfl

namespace Serves

variable {s : Server} {entries : List Entry} {now : Timestamp} (h : s.Serves entries now)
include h

theorem keepEntries : (s.keepEntries none).Serves entries now where
  entries := by
    rw [currentEntries, entries_keepEntries]
    exact h.entries
  clock := (s.clock_keepEntries none).trans h.clock

theorem afterChecks (asks : Bool) : (s.silent.afterChecks asks).Serves entries now where
  entries := (s.silent.currentEntries_afterChecks asks none).trans h.entries
  clock := (s.silent.clock_afterChecks asks).trans h.clock

end Serves

section Search

variable {s : Server} {entries : List Entry} {now : Timestamp} (h : s.Serves entries now)
  (hne : entries ≠ []) {query : Text} {r : Filtered}
  (hr : Filtered.ofQuery query entries now = .ok r)
include h hne hr

theorem finish_search {page size : Int} {p : Page Entry} (hp : paginate r.data page size = .ok p) :
    s.finish (.ok (.inr (.search query page size))) = (.ok (.ofPage r p), s.keepEntries none) := by
  rw [finish, conclude, h.entries, h.clock,
    respond_search (List.isEmpty_eq_false_iff.2 hne) hr hp]
  rfl

theorem on_readPages {size : Int} {p : Int → Page Entry} {pages : List Int}
    (hp : ∀ page ∈ pages, paginate r.data page size = .ok (p page)) :
    ∃ t : Server, t.Serves entries now ∧
      on (readPages query size pages) s = (.ok (pages.map fun page => .ofPage r (p page)), t) := by
  induction pages generalizing s with
  | nil => exact ⟨s, h, rfl⟩
  | cons page pages ih =>
    -- a search keeps the bookmarks in use, so that the next page belongs to the same result
    have hpage := finish_search h hne hr (hp page List.mem_cons_self)
    obtain ⟨t, ht, hpages⟩ :=
      ih h.keepEntries fun other hother => hp other (List.mem_cons_of_mem page hother)
    refine ⟨t, ht, ?_⟩
    rw [readPages, List.mapM_cons, on_bind, on_searchPage, hpage]
    change on (readPages query size pages >>= _) _ = _
    rw [on_bind, hpages]
    rfl

theorem step_search {settings : Settings} (hs : s.currentSettings = .ok settings) {page size : Int}
    (hpage : 1 ≤ page) (hsize : 1 ≤ size) {p : Page Entry}
    (hp : paginate r.data page size = .ok p) :
    ∃ t : Server, t.Serves entries now ∧ t.currentSettings = .ok settings ∧
      s.step (searchStep query size page) = (.ok (.answer (.ofPage r p)), t) := by
  have hchecks := h.afterChecks (checkAsks (searchArguments query size page) .search)
  refine ⟨_, hchecks.keepEntries, ?_, ?_⟩
  · rw [currentSettings_keepEntries, currentSettings_afterChecks]
    exact hs
  · rw [searchStep, step_tool, hs, check_searchArguments settings query hsize hpage,
      finish_search hchecks hne hr hp]
    rfl

theorem reply_turns_search {settings : Settings} (hs : s.currentSettings = .ok settings)
    {size : Int} (hsize : 1 ≤ size) {p : Int → Page Entry} {pages : List Int}
    (hp : ∀ page ∈ pages, 1 ≤ page ∧ paginate r.data page size = .ok (p page)) :
    (s.turns (pages.map (searchStep query size))).map Turn.reply =
      pages.map fun page => .ok (.answer (.ofPage r (p page))) := by
  induction pages generalizing s with
  | nil => rfl
  | cons page pages ih =>
    obtain ⟨hpos, hpage⟩ := hp page List.mem_cons_self
    obtain ⟨t, ht, hsettings, hstep⟩ := step_search h hne hr hs hpos hsize hpage
    have hpages := ih ht hsettings fun other hother => hp other (List.mem_cons_of_mem page hother)
    rw [List.map_cons, turns, List.map_cons, hstep, hpages, Turn.reply, hstep]
    rfl

end Search

/-- **Reading all pages shows every result once.** The answers for the pages from the first to the
last list the entries of the result in their order, each with all that is stored of its bookmark, and
with its score if there are words to score. Beyond the last page stands the last page. Calls of the
tool give these answers as well, where there are settings to be read. -/
theorem readPages_showAll {s : Server} {c : Collection} {now : Timestamp}
    (h : s.Serves c.entries now) (hne : c.entries ≠ []) (query : Text) {size : Int}
    (hsize : 1 ≤ size) :
    ∃ (r : Filtered) (answers : List Answer) (last : Answer),
      Filtered.ofQuery query c.entries now = .ok r ∧ Answer.ShowAll answers r size ∧
      (∀ e ∈ r.data, ∃ n, (Spec.parse query).evaluate e.bookmark now = .ok (some n) ∧
        (Answer.ofFound r.scores e.bookmark).field? "score" =
          if (Spec.parse query).hasTerms then some (Answer.integer n) else none) ∧
      (∃ t : Server, t.Serves c.entries now ∧
        on (readPages query size (pageNumbers answers.length)) s = (.ok answers, t)) ∧
      (∀ settings, s.currentSettings = .ok settings →
        (s.turns ((pageNumbers answers.length).map (searchStep query size))).map Turn.reply =
          answers.map fun a => .ok (.answer a)) ∧
      answers.getLast? = some last ∧
      ∀ t : Server, t.Serves c.entries now → ∀ page : Int, answers.length < page →
        (on (searchPage query page size) t).1 = .ok last ∧
        ∀ settings, t.currentSettings = .ok settings →
          (t.step (searchStep query size page)).1 = .ok (.answer last) := by
  obtain ⟨r, hr, hranks⟩ := Filtered.exists_ranks query c now
  obtain ⟨size, rfl⟩ := Int.eq_ofNat_of_zero_le (zero_le_one.trans hsize)
  have hpos : 0 < size := by omega
  have hpages : ∀ page ∈ pageNumbers (Answer.pages r size).length, 1 ≤ page ∧
      paginate r.data page size = .ok (.nth r.data size (page.toNat - 1)) := fun page hpage =>
    paginate_of_mem r.data hpos (Answer.length_pages r size ▸ hpage)
  have hbeyond : ∀ page : Int, (Answer.pages r size).length < page →
      paginate r.data page size = .ok (.nth r.data size (pageCount r.data.length size - 1)) :=
    fun page hpage => paginate_of_gt r.data hpos (Answer.length_pages r size ▸ hpage)
  refine ⟨r, Answer.pages r size, _, hr, Answer.showAll_pages r hpos,
    fun e he => hranks.field?_ofFound (Spec.bounded_parse query) he, ?_, fun settings hs => ?_,
    Answer.getLast?_pages r size, fun t ht page hpage => ⟨?_, fun settings hs => ?_⟩⟩
  · obtain ⟨t, ht, hread⟩ := on_readPages h hne hr fun page hpage => (hpages page hpage).2
    exact ⟨t, ht, by rw [hread, Answer.map_pageNumbers]⟩
  · rw [reply_turns_search h hne hr hs hsize hpages, ← Answer.map_pageNumbers r size, List.map_map,
      Answer.map_pageNumbers]
    rfl
  · rw [on_searchPage, finish_search ht hne hr (hbeyond page hpage)]
  · obtain ⟨u, -, -, hstep⟩ := step_search ht hne hr hs (by omega) hsize (hbeyond page hpage)
    rw [hstep]

/-- Two bookmarks on a page each. -/
theorem readPages_showAll_two_pages :
    let c := Collection.ofBookmarks [Bookmark.ofUrl "a.org", Bookmark.ofUrl "b.org/a"]
    let s : Server := { bare with entries := some c.entries }
    s.Serves c.entries .epoch ∧ c.entries ≠ [] ∧ ∃ (r : Filtered) (answers : List Answer),
      Filtered.ofQuery "a |b" c.entries .epoch = .ok r ∧ r.data.length = 2 ∧
        Answer.ShowAll answers r 1 ∧
        (answers.flatMap Answer.results).map (Json.field? "url") =
          [some (.string "b.org/a"), some (.string "a.org")] ∧
        (s.turns ((pageNumbers answers.length).map (searchStep "a |b" 1))).map Turn.reply =
          answers.map fun a => .ok (.answer a) := by
  intro c s
  have hs : s.Serves c.entries .epoch := ⟨rfl, rfl⟩
  have hne : c.entries ≠ [] := List.cons_ne_nil _ _
  obtain ⟨r, answers, -, hr, hall, -, -, hcalls, -⟩ :=
    readPages_showAll hs hne "a |b" (le_refl 1)
  have hdata : (Filtered.ofQuery "a |b" c.entries .epoch).map (·.data) =
      .ok [⟨1, Bookmark.ofUrl "b.org/a"⟩, ⟨0, Bookmark.ofUrl "a.org"⟩] := by
    decide +kernel
  rw [hr] at hdata
  have hdata : r.data = _ := Except.ok.inj hdata
  have hurls := Json.Shows.map_url hall.listed
  rw [hdata] at hurls
  exact ⟨hs, hne, r, answers, hr, congrArg List.length hdata, hall, hurls, hcalls _ rfl⟩

end Server

end Bookmarks
