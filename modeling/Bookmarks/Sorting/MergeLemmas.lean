import Bookmarks.Sorting.Merge
import Bookmarks.Sorting.Order

/-!
# Lemmas on merging

* `mergeRuns_perm`: merging loses and adds nothing, for any comparison.
* `mergeRuns_isSorting`: two lists in order become their sorted list.
-/

namespace Bookmarks

open List

variable {α : Type} {before : α → α → Bool}

/-! ## Nothing is lost -/

theorem take_append_perm {xs ys zs : List α} {n : Nat} {y : α}
    (h : zs.Perm (xs.drop n ++ ys)) : (xs.take n ++ [y] ++ zs).Perm (xs ++ y :: ys) := by
  conv => rhs; rw [← take_append_drop n xs]
  rw [append_assoc, append_assoc]
  exact ((h.cons y).trans perm_middle.symm).append_left _

theorem mergeRest_perm (side : Side) (before : α → α → Bool) (eager next : Nat) (mode : Mode)
    (xs ys : List α) : (mergeRest side before eager next mode xs ys).1.Perm (xs ++ ys) := by
  fun_induction mergeRest side before eager next mode xs ys with
  | case1 eager next x x' xs y ys left right hy ih => exact (ih.cons y).trans perm_middle.symm
  | case2 eager next x x' xs y ys left right hy ih => exact ih.cons x
  | case3 eager next x x' xs y ys passed all count hone =>
    conv => rhs; rw [← take_append_drop count (x :: x' :: xs)]
    rw [append_assoc, append_assoc]
    exact perm_append_comm.append_left _
  | case4 eager next x x' xs y ys passed all count hone mode wins hmode ih =>
    exact take_append_perm ih
  | case5 eager next x x' xs y ys passed all count hone => exact perm_append_comm
  | case6 eager next x x' xs y ys passed all count hone mode wins hmode ih =>
    exact (take_append_perm (ih.trans perm_append_comm)).trans perm_append_comm
  | case7 => exact perm_append_comm

theorem mergeEnds_perm (side : Side) (before : α → α → Bool) (eager : Nat) (xs ys : List α) :
    (mergeEnds side before eager xs ys).1.Perm (xs ++ ys) := by
  cases ys with
  | nil => exact Perm.of_eq (append_nil xs).symm
  | cons y ys => exact ((mergeRest_perm ..).cons y).trans perm_middle.symm

theorem mergeBack_perm (before : α → α → Bool) (eager : Nat) (xs ys : List α) :
    (mergeBack before eager xs ys).1.Perm (xs ++ ys) := by
  refine (reverse_perm _).trans ((mergeEnds_perm ..).trans ?_)
  rw [← reverse_append]
  exact reverse_perm _

theorem mergeShorter_perm (before : α → α → Bool) (eager : Nat) (xs ys : List α) :
    (mergeShorter before eager xs ys).1.Perm (xs ++ ys) := by
  unfold mergeShorter
  split
  · exact mergeEnds_perm ..
  · exact mergeBack_perm ..

/-- **Merging loses and adds nothing**, whatever the comparison. -/
theorem mergeRuns_perm (before : α → α → Bool) (eager : Nat) (xs ys : List α) :
    (mergeRuns before eager xs ys).1.Perm (xs ++ ys) := by
  fun_cases mergeRuns before eager xs ys with
  | case1 => exact Perm.of_eq (append_nil xs).symm
  | case2 y ys low left hlast => exact Perm.refl _
  | case3 y ys low left x hlast =>
    dsimp only
    refine Perm.trans ?_ (Perm.of_eq (by rw [← append_assoc, take_append_drop] :
      xs.take low ++ (left ++ y :: ys) = xs ++ y :: ys))
    rw [append_assoc]
    refine Perm.append_left _ ?_
    conv =>
      rhs
      rw [← take_append_drop
        ((y :: ys).length - countUntil .lower (before · x) (y :: ys).reverse) (y :: ys),
        ← append_assoc]
    exact (mergeShorter_perm ..).append_right _

/-! ## The result is sorted -/

/-- The left list holds the last element of both. -/
def HoldsLast (before : α → α → Bool) (xs ys : List α) : Prop :=
  ∀ z ∈ xs.getLast?, ∀ b ∈ ys, before b z = true

theorem HoldsLast.mono {xs xs' ys ys' : List α} (hlast : HoldsLast before xs ys)
    (hxs : xs'.getLast? = xs.getLast?) (hys : ∀ b ∈ ys', b ∈ ys) : HoldsLast before xs' ys' :=
  fun z hz b hb => hlast z (hxs ▸ hz) b (hys b hb)

theorem HoldsLast.suffix {l r ys : List α} (hlast : HoldsLast before (l ++ r) ys) :
    HoldsLast before r ys := by
  intro z hz
  refine hlast z ?_
  rw [getLast?_append, Option.mem_def.1 hz]
  rfl

theorem isSorting_append_swap (h : IsWeakOrder before) {xs ys : List α} (hys : InOrder before ys)
    (hlast : HoldsLast before xs ys) (hshort : xs.length ≤ 1) :
    IsSorting before (xs ++ ys) (ys ++ xs) := by
  match xs, hshort with
  | [], _ =>
    rw [append_nil]
    exact .refl hys
  | [z], _ =>
    have hz : IsSorting before ([z] ++ []) [z] := .refl (pairwise_singleton _ _)
    have := hz.appendRight h ((append_nil ys).symm ▸ hys)
      fun b hb a ha => mem_singleton.1 ha ▸ hlast z rfl b hb
    rwa [append_nil] at this

theorem mergeRest_isSorting (h : IsWeakOrder before) (side : Side) (eager next : Nat) (mode : Mode)
    {xs ys : List α} (hxs : InOrder before xs) (hys : InOrder before ys)
    (hlast : HoldsLast before xs ys) :
    IsSorting before (xs ++ ys) (mergeRest side before eager next mode xs ys).1 := by
  fun_induction mergeRest side before eager next mode xs ys with
  | case1 eager next x x' xs y ys left right hy ih =>
    have hy' := pairwise_cons.1 hys
    exact (ih hxs hy'.2 (hlast.mono rfl fun _ => mem_cons_of_mem y)).consRight h
      (hxs.before_all h hy) hy'.1
  | case2 eager next x x' xs y ys left right hy ih =>
    have hx := pairwise_cons.1 hxs
    rw [Bool.not_eq_true] at hy
    exact (ih hx.2 hys (hlast.mono rfl fun _ => id)).consLeft h hx.1 (hys.not_before h hy)
  | case3 eager next x x' xs y ys passed all count hone =>
    obtain ⟨l, r, hall, hl, hr⟩ := hxs.split_before h y
    have hcount : count = l.length := by simpa only [count, all, hall] using countUntil_eq _ hl hr
    rw [hall] at hxs hlast ⊢
    simp only [all, hall, hcount, take_left', drop_left'] at hone ⊢
    rw [append_assoc l (y :: ys)]
    exact (isSorting_append_swap h hys hlast.suffix hone).appendLeft h hxs
      fun a ha => hys.not_before h (hl a ha)
  | case4 eager next x x' xs y ys passed all count hone mode wins hmode ih =>
    obtain ⟨l, r, hall, hl, hr⟩ := hxs.split_before h y
    have hcount : count = l.length := by simpa only [count, all, hall] using countUntil_eq _ hl hr
    have hy := pairwise_cons.1 hys
    rw [hall] at hxs hlast ⊢
    simp only [all, hall, hcount, take_left', drop_left'] at ih ⊢
    have hrest := ih (pairwise_append.1 hxs).2.1 hy.2
      (hlast.suffix.mono rfl fun _ => mem_cons_of_mem y)
    rw [prepend, append_assoc l [y]]
    exact (hrest.consRight h hr hy.1).appendLeft h hxs fun a ha => hys.not_before h (hl a ha)
  | case5 eager next x x' xs y ys passed all count hone =>
    obtain ⟨l, r, hall, hl, hr⟩ := hys.split_not_before h x
    have hcount : count = l.length := by simpa only [count, all, hall] using countUntil_eq _ hl hr
    rw [hall] at hys ⊢
    simp only [all, hall, hcount, drop_left', List.isEmpty_iff] at hone ⊢
    subst hone
    have hx : IsSorting before (x :: x' :: xs ++ []) (x :: x' :: xs) :=
      (append_nil (x :: x' :: xs)).symm ▸ .refl hxs
    exact (append_nil l).symm ▸ hx.appendRight h hys
      fun b hb => hxs.before_all h (by simpa using hl b hb)
  | case6 eager next x x' xs y ys passed all count hone mode wins hmode ih =>
    obtain ⟨l, r, hall, hl, hr⟩ := hys.split_not_before h x
    have hcount : count = l.length := by simpa only [count, all, hall] using countUntil_eq _ hl hr
    have hx := pairwise_cons.1 hxs
    rw [hall] at hys hlast ⊢
    simp only [all, hall, hcount, take_left', drop_left'] at ih ⊢
    have hrest := ih hx.2 (pairwise_append.1 hys).2.1
      (hlast.mono rfl fun _ => mem_append_right l)
    rw [prepend, append_assoc l [x]]
    exact (hrest.consLeft h hx.1 fun b hb => by simpa using hr b hb).appendRight h hys
      fun b hb => hxs.before_all h (by simpa using hl b hb)
  | case7 eager next mode xs ys hshort =>
    match xs, ys, hshort with
    | [], ys, _ => exact isSorting_append_swap h hys hlast (Nat.zero_le _)
    | [z], ys, _ => exact isSorting_append_swap h hys hlast (Nat.le_refl _)
    | x :: x' :: xs, [], _ => exact (append_nil (x :: x' :: xs)).symm ▸ .refl hxs
    | x :: x' :: xs, y :: ys, hshort => exact (hshort x x' xs y ys rfl rfl).elim

/-- The right list holds the first element of both. -/
def HoldsFirst (before : α → α → Bool) (xs ys : List α) : Prop :=
  ∀ y ∈ ys.head?, ∀ a ∈ xs, before y a = true

theorem mergeEnds_isSorting (h : IsWeakOrder before) (side : Side) (eager : Nat) {xs ys : List α}
    (hxs : InOrder before xs) (hys : InOrder before ys) (hlast : HoldsLast before xs ys)
    (hfirst : HoldsFirst before xs ys) :
    IsSorting before (xs ++ ys) (mergeEnds side before eager xs ys).1 := by
  cases ys with
  | nil => exact (append_nil xs).symm ▸ .refl hxs
  | cons y ys =>
    have hy := pairwise_cons.1 hys
    exact (mergeRest_isSorting h side eager eager (.compare 0 0) hxs hy.2
      (hlast.mono rfl fun _ => mem_cons_of_mem y)).consRight h (hfirst y rfl) hy.1

theorem mergeBack_isSorting (h : IsWeakOrder before) (eager : Nat) {xs ys : List α}
    (hxs : InOrder before xs) (hys : InOrder before ys) (hlast : HoldsLast before xs ys)
    (hfirst : HoldsFirst before xs ys) :
    IsSorting before (xs ++ ys) (mergeBack before eager xs ys).1 := by
  refine IsSorting.reverse ?_
  rw [reverse_append]
  refine mergeEnds_isSorting h.swap .back eager (pairwise_reverse.2 hys) (pairwise_reverse.2 hxs)
    (fun y hy a ha => ?_) fun x hx b hb => ?_
  · rw [getLast?_reverse] at hy
    exact hfirst y hy a (mem_reverse.1 ha)
  · rw [head?_reverse] at hx
    exact hlast x hx b (mem_reverse.1 hb)

theorem mergeShorter_isSorting (h : IsWeakOrder before) (eager : Nat) {xs ys : List α}
    (hxs : InOrder before xs) (hys : InOrder before ys) (hlast : HoldsLast before xs ys)
    (hfirst : HoldsFirst before xs ys) :
    IsSorting before (xs ++ ys) (mergeShorter before eager xs ys).1 := by
  unfold mergeShorter
  split
  · exact mergeEnds_isSorting h .front eager hxs hys hlast hfirst
  · exact mergeBack_isSorting h eager hxs hys hlast hfirst

/-- **Two lists in order become their sorted list.** -/
theorem mergeRuns_isSorting (h : IsWeakOrder before) (eager : Nat) {xs ys : List α}
    (hxs : InOrder before xs) (hys : InOrder before ys) :
    IsSorting before (xs ++ ys) (mergeRuns before eager xs ys).1 := by
  fun_cases mergeRuns before eager xs ys with
  | case1 => exact (append_nil xs).symm ▸ .refl hxs
  | case2 y ys low left hlast =>
    obtain ⟨l, r, rfl, hl, hr⟩ := hxs.split_before h y
    have hlow : low = l.length := countUntil_eq _ hl hr
    simp only [left, hlow, drop_left', getLast?_eq_none_iff] at hlast
    subst hlast
    have hy : IsSorting before ([] ++ y :: ys) (y :: ys) := .refl hys
    have := hy.appendLeft h hxs fun a ha => hys.not_before h (hl a ha)
    rwa [append_nil] at this ⊢
  | case3 y ys low left x hlast =>
    obtain ⟨l, r, rfl, hl, hr⟩ := hxs.split_before h y
    have hlow : low = l.length := countUntil_eq _ hl hr
    simp only [left, hlow, drop_left', take_left'] at hlast ⊢
    obtain ⟨u, v, huv, hu, hv⟩ := exists_split (p := fun b => before b x)
      ((pairwise_reverse.2 hys).imp fun {a b} hab hax => h.before_of_not_before hab hax)
    have hparts : y :: ys = v.reverse ++ u.reverse := by
      rw [← reverse_append, ← huv, reverse_reverse]
    have hhigh : (y :: ys).length - u.length = v.reverse.length := by
      simp only [hparts, length_append, length_reverse, Nat.add_sub_cancel]
    have hfirst : HoldsFirst before r v.reverse := by
      intro b hb a ha
      have hy := congrArg head? hparts
      rw [head?_append, Option.mem_def.1 hb, head?_cons, Option.some_or, Option.some.injEq] at hy
      exact hy ▸ hr a ha
    have hlast' : HoldsLast before r v.reverse := by
      intro z hz b hb
      rw [hlast, Option.mem_def, Option.some.injEq] at hz
      exact hz ▸ hv b (mem_reverse.1 hb)
    have hright := pairwise_append.1 (hparts ▸ hys)
    have hleft : InOrder before r := (pairwise_append.1 hxs).2.1
    have hmerged := mergeShorter_isSorting h eager hleft hright.1 hlast' hfirst
    rw [huv, countUntil_eq _ hu hv, hhigh, hparts, take_left, drop_left, append_assoc l _ u.reverse]
    refine IsSorting.appendLeft h ?_ hxs fun a ha => hparts ▸ hys.not_before h (hl a ha)
    rw [← append_assoc]
    refine hmerged.appendEnd h hright.2.1 fun a ha b hb => ?_
    rcases mem_append.1 ha with ha | ha
    · exact h.not_before_trans (hleft.not_before_last h hlast a ha) (hu b (mem_reverse.1 hb))
    · exact hright.2.2 a ha b hb

end Bookmarks
