import Bookmarks.Sorting.MapLemmas

/-!
# Lemmas on stable sorting

What cutting into runs, insertion and merging keep is kept by the whole (`IsKept.sortBy`). For a
comparison that is an order up to ties, the sorted list is known without the algorithm: it is the
one list in order in which the elements tied with any given one stand as they did before
(**`sortBy_eq_iff`**).

* `sortBy_perm`: sorting loses and adds nothing, for any comparison.
* `sortBy_inOrder`, `filter_tied_sortBy`: the sorted list is in order, and ties stand as before.
* `filter_sortBy`, `sortBy_sortBy`: sorting a part of a list, and sorting again.
* `sortDescending_perm`, `sortDescending_map`, `sortDescending_congr`: what falling keys keep, and
  what they look at.
* `sortDescending_eq_sortBy`: falling keys are the turned comparison.
-/

namespace Bookmarks

open List

variable {α : Type} {before : α → α → Bool}

/-! ## What sorting keeps -/

/-- Each step of sorting gives its lists the property `P`, and relates what it makes by `R` to what
it has taken. -/
structure IsKept (before : α → α → Bool) (P : List α → Prop) (R : List α → List α → Prop) :
    Prop where
  refl : ∀ xs, R xs xs
  trans : ∀ {xs ys zs}, R xs ys → R ys zs → R xs zs
  append : ∀ {xs xs' ys ys'}, R xs xs' → R ys ys' → R (xs ++ ys) (xs' ++ ys')
  nil : P []
  first : ∀ xs, P (firstRun before xs).1 ∧
    R ((firstRun before xs).1 ++ (firstRun before xs).2) xs
  insert : ∀ x {xs}, P xs → P (insertBy before x xs) ∧ R (insertBy before x xs) (xs ++ [x])
  merge : ∀ eager {xs ys}, P xs → P ys →
    P (mergeRuns before eager xs ys).1 ∧ R (mergeRuns before eager xs ys).1 (xs ++ ys)

/-- The elements of the runs that wait. -/
def Stack.contents : List (Run α) → List α
  | [] => []
  | run :: rest => contents rest ++ run.items

namespace IsKept

variable {P : List α → Prop} {R : List α → List α → Prop} (k : IsKept before P R)
include k

theorem insertAll (new : List α) {xs : List α} (hxs : P xs) :
    P (Bookmarks.insertAll before xs new) ∧ R (Bookmarks.insertAll before xs new) (xs ++ new) := by
  induction new generalizing xs with
  | nil => exact ⟨hxs, (append_nil xs).symm ▸ k.refl xs⟩
  | cons x new ih =>
    have hx := k.insert x hxs
    have hnew := ih hx.1
    refine ⟨hnew.1, k.trans hnew.2 ?_⟩
    rw [← singleton_append, ← append_assoc]
    exact k.append hx.2 (k.refl new)

theorem runs (least : Nat) (xs : List α) :
    (∀ run ∈ runs before least xs, P run) ∧ R (Bookmarks.runs before least xs).flatten xs := by
  fun_induction Bookmarks.runs before least xs with
  | case1 => exact ⟨fun _ h => absurd h not_mem_nil, k.refl _⟩
  | case2 x xs hlength run missing ih =>
    have hfirst := k.first (x :: xs)
    have hrun := k.insertAll (run.2.take missing) hfirst.1
    refine ⟨fun r hr => ?_, ?_⟩
    · rcases mem_cons.1 hr with rfl | hr
      · exact hrun.1
      · exact ih.1 r hr
    · refine k.trans (k.append hrun.2 ih.2) ?_
      rw [append_assoc, take_append_drop]
      exact hfirst.2

theorem settle (power eager : Nat) {runs : List (Run α)} (hP : ∀ run ∈ runs, P run.items) :
    (∀ run ∈ (Stack.settle before power eager runs).runs, P run.items) ∧
      R (Stack.contents (Stack.settle before power eager runs).runs) (Stack.contents runs) := by
  fun_induction Stack.settle before power eager runs with
  | case1 eager top below rest hpower items eager' hmerge ih =>
    have hm := k.merge eager (hP below (by simp)) (hP top (by simp))
    rw [hmerge] at hm
    have hrest := ih fun run hr => by
      rcases mem_cons.1 hr with rfl | hr
      · exact hm.1
      · exact hP run (by simp [hr])
    refine ⟨hrest.1, k.trans hrest.2 ?_⟩
    simp only [Stack.contents, append_assoc]
    exact k.append (k.refl _) hm.2
  | case2 => exact ⟨hP, k.refl _⟩
  | case3 => exact ⟨hP, k.refl _⟩

omit k in
theorem contents_setPower (power : Nat) (runs : List (Run α)) :
    Stack.contents (Stack.setPower power runs) = Stack.contents runs := by
  cases runs <;> rfl

theorem push (total : Nat) {stack : Stack α} (hP : ∀ run ∈ stack.runs, P run.items)
    {items : List α} (hitems : P items) :
    (∀ run ∈ (stack.push before total items).runs, P run.items) ∧
      R (Stack.contents (stack.push before total items).runs)
        (Stack.contents stack.runs ++ items) := by
  fun_cases Stack.push before total stack items with
  | case1 h =>
    rw [h]
    exact ⟨fun run hr => mem_singleton.1 hr ▸ hitems, k.refl _⟩
  | case2 top rest h power settled =>
    have hs := k.settle power stack.eager (h ▸ hP)
    refine ⟨fun run hr => ?_, ?_⟩
    · rcases mem_cons.1 hr with rfl | hr
      · exact hitems
      · obtain ⟨run', hr', heq⟩ := exists_of_mem_setPower hr
        exact heq ▸ hs.1 run' hr'
    · rw [Stack.contents, contents_setPower, h]
      exact k.append hs.2 (k.refl items)
where
  /-- The elements of the runs are the same. -/
  exists_of_mem_setPower {power : Nat} {runs : List (Run α)} {run : Run α}
      (hr : run ∈ Stack.setPower power runs) : ∃ run' ∈ runs, run'.items = run.items := by
    cases runs with
    | nil => exact absurd hr not_mem_nil
    | cons top rest =>
      rcases mem_cons.1 hr with rfl | hr
      · exact ⟨top, mem_cons_self, rfl⟩
      · exact ⟨run, mem_cons_of_mem top hr, rfl⟩

theorem collapse (eager : Nat) {runs : List (Run α)} (hP : ∀ run ∈ runs, P run.items) :
    P (Stack.collapse before eager runs) ∧
      R (Stack.collapse before eager runs) (Stack.contents runs) := by
  fun_induction Stack.collapse before eager runs with
  | case1 => exact ⟨k.nil, k.refl _⟩
  | case2 eager run => exact ⟨hP run mem_cons_self, k.refl _⟩
  | case3 eager top second => exact k.merge eager (hP second (by simp)) (hP top (by simp))
  | case4 eager top second third rest hlength items eager' hmerge ih =>
    have hm := k.merge eager (hP third (by simp)) (hP second (by simp))
    rw [hmerge] at hm
    have hrest := ih fun run hr => by
      rcases mem_cons.1 hr with rfl | hr
      · exact hP run (by simp)
      · rcases mem_cons.1 hr with rfl | hr
        · exact hm.1
        · exact hP run (by simp [hr])
    refine ⟨hrest.1, k.trans hrest.2 ?_⟩
    simp only [Stack.contents]
    refine k.append ?_ (k.refl top.items)
    rw [append_assoc]
    exact k.append (k.refl _) hm.2
  | case5 eager top second third rest hlength items eager' hmerge ih =>
    have hm := k.merge eager (hP second (by simp)) (hP top (by simp))
    rw [hmerge] at hm
    have hrest := ih fun run hr => by
      rcases mem_cons.1 hr with rfl | hr
      · exact hm.1
      · exact hP run (by simp_all)
    refine ⟨hrest.1, k.trans hrest.2 ?_⟩
    simp only [Stack.contents]
    rw [append_assoc _ second.items]
    exact k.append (k.refl _) hm.2

theorem foldl_push (total : Nat) {runs : List (List α)} (hruns : ∀ run ∈ runs, P run)
    (stack : Stack α) (hP : ∀ run ∈ stack.runs, P run.items) :
    (∀ run ∈ (runs.foldl (Stack.push before total) stack).runs, P run.items) ∧
      R (Stack.contents (runs.foldl (Stack.push before total) stack).runs)
        (Stack.contents stack.runs ++ runs.flatten) := by
  induction runs generalizing stack with
  | nil => exact ⟨hP, (append_nil (Stack.contents stack.runs)).symm ▸ k.refl _⟩
  | cons run runs ih =>
    have hpush := k.push total hP (hruns run mem_cons_self)
    have hrest := ih (fun r hr => hruns r (mem_cons_of_mem run hr)) _ hpush.1
    refine ⟨hrest.1, k.trans hrest.2 ?_⟩
    rw [flatten_cons, ← append_assoc]
    exact k.append hpush.2 (k.refl _)

/-- **What the steps of sorting keep, sorting keeps.** -/
theorem sortBy (xs : List α) : P (sortBy before xs) ∧ R (Bookmarks.sortBy before xs) xs := by
  have hruns := k.runs (leastRun xs.length) xs
  have hstack := k.foldl_push xs.length hruns.1 ⟨[], manyInRow⟩ fun _ h => absurd h not_mem_nil
  exact ⟨(k.collapse _ hstack.1).1,
    k.trans (k.collapse _ hstack.1).2 (k.trans hstack.2 hruns.2)⟩

end IsKept

/-! ## Sorting -/

/-- **Sorting loses and adds nothing**, whatever the comparison. -/
theorem sortBy_perm (before : α → α → Bool) (xs : List α) : (sortBy before xs).Perm xs := by
  have k : IsKept before (fun _ => True) Perm :=
    { refl := Perm.refl
      trans := Perm.trans
      append := Perm.append
      nil := trivial
      first := fun xs => ⟨trivial, firstRun_perm before xs⟩
      insert := fun x xs _ => ⟨trivial, insertBy_perm before x xs⟩
      merge := fun eager xs ys _ _ => ⟨trivial, mergeRuns_perm before eager xs ys⟩ }
  exact (k.sortBy xs).2

theorem isKept_ties (h : IsWeakOrder before) :
    IsKept before (InOrder before)
      (fun ys xs => ∀ a, ys.filter (tied before a) = xs.filter (tied before a)) where
  refl _ _ := rfl
  trans hxy hyz a := (hxy a).trans (hyz a)
  append hx hy a := by rw [filter_append, filter_append, hx a, hy a]
  nil := Pairwise.nil
  first xs := ⟨firstRun_inOrder h xs, filter_tied_firstRun h xs⟩
  insert x _ hxs :=
    have hs := insertBy_isSorting h hxs x
    ⟨hs.inOrder, hs.ties⟩
  merge eager _ _ hxs hys :=
    have hs := mergeRuns_isSorting h eager hxs hys
    ⟨hs.inOrder, hs.ties⟩

/-- **The sorted list is in order, and ties stand as before.** -/
theorem sortBy_isSorting (h : IsWeakOrder before) (xs : List α) :
    IsSorting before xs (sortBy before xs) :=
  have hs := (isKept_ties h).sortBy xs
  ⟨hs.1, hs.2⟩

theorem sortBy_inOrder (h : IsWeakOrder before) (xs : List α) :
    InOrder before (sortBy before xs) :=
  (sortBy_isSorting h xs).inOrder

/-- **Sorting is stable**: the elements tied with any given one stand as they did before. -/
theorem filter_tied_sortBy (h : IsWeakOrder before) (xs : List α) (a : α) :
    (sortBy before xs).filter (tied before a) = xs.filter (tied before a) :=
  (sortBy_isSorting h xs).ties a

/-- **The sorted list, without its algorithm**: it is the one list in order in which ties stand as
before. -/
theorem sortBy_eq_iff (h : IsWeakOrder before) {xs ys : List α} :
    sortBy before xs = ys ↔
      InOrder before ys ∧ ∀ a, ys.filter (tied before a) = xs.filter (tied before a) := by
  constructor
  · rintro rfl
    exact ⟨sortBy_inOrder h xs, filter_tied_sortBy h xs⟩
  · intro hys
    exact eq_of_inOrder h (sortBy_inOrder h xs) hys.1 fun a =>
      (filter_tied_sortBy h xs a).trans (hys.2 a).symm

theorem sortBy_of_inOrder (h : IsWeakOrder before) {xs : List α} (hxs : InOrder before xs) :
    sortBy before xs = xs :=
  (sortBy_eq_iff h).2 ⟨hxs, fun _ => rfl⟩

theorem sortBy_sortBy (h : IsWeakOrder before) (xs : List α) :
    sortBy before (sortBy before xs) = sortBy before xs :=
  sortBy_of_inOrder h (sortBy_inOrder h xs)

theorem filter_sortBy (h : IsWeakOrder before) (p : α → Bool) (xs : List α) :
    (sortBy before xs).filter p = sortBy before (xs.filter p) := by
  refine ((sortBy_eq_iff h).2 ⟨(sortBy_inOrder h xs).filter p, fun a => ?_⟩).symm
  rw [filter_filter, filter_filter]
  have hcomm : (fun b => tied before a b && p b) = fun b => p b && tied before a b :=
    funext fun b => Bool.and_comm _ _
  rw [hcomm, ← filter_filter, ← filter_filter, filter_tied_sortBy h]

/-! ## Falling keys -/

/-- The list by falling keys is the list turned round, sorted by its keys and turned round again. -/
theorem sortDescending_eq_reverse {κ : Type} (lt : κ → κ → Bool) (key : α → κ) (xs : List α) :
    sortDescending lt key xs =
      (sortBy (fun a b => lt (key a) (key b)) xs.reverse).reverse := by
  have hsort := sortBy_map (fun a b : κ × α => lt a.1 b.1) (fun x => (key x, x)) xs.reverse
  rw [sortDescending, ← map_reverse, hsort, ← map_reverse, map_map]
  exact map_id _

/-- Only the comparisons of keys of the list count. -/
theorem sortDescending_congr {κ κ' : Type} {lt : κ → κ → Bool} {key : α → κ}
    {other : κ' → κ' → Bool} {key' : α → κ'} {xs : List α}
    (h : ∀ a ∈ xs, ∀ b ∈ xs, lt (key a) (key b) = other (key' a) (key' b)) :
    sortDescending lt key xs = sortDescending other key' xs := by
  rw [sortDescending_eq_reverse, sortDescending_eq_reverse, sortBy_congr]
  exact fun a ha b hb => h a (mem_reverse.1 ha) b (mem_reverse.1 hb)

theorem sortDescending_map {β κ : Type} (lt : κ → κ → Bool) (key : β → κ) (f : α → β)
    (xs : List α) :
    sortDescending lt key (xs.map f) = (sortDescending lt (fun x => key (f x)) xs).map f := by
  rw [sortDescending_eq_reverse, sortDescending_eq_reverse, ← map_reverse, sortBy_map, map_reverse]

/-- Sorting by falling keys loses and adds nothing, whatever the comparison. -/
theorem sortDescending_perm {κ : Type} (lt : κ → κ → Bool) (key : α → κ) (xs : List α) :
    (sortDescending lt key xs).Perm xs := by
  rw [sortDescending_eq_reverse]
  exact (reverse_perm _).trans ((sortBy_perm _ _).trans (reverse_perm _))

theorem sortDescending_eq_sortBy {κ : Type} {lt : κ → κ → Bool} (h : IsWeakOrder lt) (key : α → κ)
    (xs : List α) :
    sortDescending lt key xs = sortBy (fun a b => lt (key b) (key a)) xs := by
  have hkey := h.comap key
  rw [sortDescending_eq_reverse]
  refine ((sortBy_eq_iff hkey.swap).2
    ⟨pairwise_reverse.2 (sortBy_inOrder hkey _), fun a => ?_⟩).symm
  rw [tied_swap, filter_reverse, filter_tied_sortBy hkey, filter_reverse, reverse_reverse]

/-! ## The first elements -/

theorem mem_of_mem_upTo {limit : Int} {xs : List α} {x : α} (h : x ∈ upTo limit xs) : x ∈ xs := by
  unfold upTo at h
  split at h
  · exact mem_of_mem_take h
  · exact mem_of_mem_take h

theorem upTo_natCast (limit : Nat) (xs : List α) : upTo limit xs = xs.take limit := by
  rw [upTo, if_neg (by omega), Int.toNat_natCast]

end Bookmarks
