import Bookmarks.Sorting.Order
import Bookmarks.Sorting.Run

/-!
# Lemmas on runs

* `insertBy_eq`: insertion into a list in order, as a split of the list.
* `insertBy_perm`, `firstRun_perm`: nothing is lost, for any comparison.
* `insertBy_isSorting`, `firstRun_inOrder`, `filter_tied_firstRun`: what is in order afterwards, and
  that ties stand as before.
-/

namespace Bookmarks

open List

variable {α : Type} {before : α → α → Bool}

/-! ## Insertion -/

theorem insertBy_eq {x : α} {l r : List α} (hl : ∀ a ∈ l, before x a = false)
    (hr : ∀ a ∈ r, before x a = true) : insertBy before x (l ++ r) = l ++ x :: r := by
  have hplace : bisect .upper (holdsAt (before x) (l ++ r)) 0 (l ++ r).length = l.length :=
    bisect_eq .upper (Nat.zero_le _) (by simp) (fun _ => holdsAt_append_left hl)
      fun _ => holdsAt_append_right hr
  simp only [insertBy, hplace, take_left, drop_left]

theorem insertBy_perm (before : α → α → Bool) (x : α) (xs : List α) :
    (insertBy before x xs).Perm (xs ++ [x]) := by
  conv => rhs; rw [← take_append_drop
    (bisect .upper (holdsAt (before x) xs) 0 xs.length) xs, append_assoc]
  exact (perm_append_comm.append_left _ : (_ ++ ([x] ++ _) : List α).Perm (_ ++ (_ ++ [x])))

theorem insertBy_isSorting (h : IsWeakOrder before) {xs : List α} (hxs : InOrder before xs)
    (x : α) : IsSorting before (xs ++ [x]) (insertBy before x xs) := by
  obtain ⟨l, r, rfl, hl, hr⟩ := hxs.split_before h x
  have hx : IsSorting before (r ++ []) r := (append_nil r).symm ▸ .refl (pairwise_append.1 hxs).2.1
  rw [insertBy_eq hl hr]
  exact (hx.consRight h hr fun b hb => absurd hb not_mem_nil).appendLeft h hxs
    fun a ha b hb => mem_singleton.1 hb ▸ hl a ha

/-! ## The run at the beginning -/

theorem runFrom_append (follows : α → α → Bool) (last : α) (xs : List α) :
    (runFrom follows last xs).1 ++ (runFrom follows last xs).2 = xs := by
  induction xs generalizing last with
  | nil => rfl
  | cons x xs ih =>
    rw [runFrom]
    split
    · exact congrArg (x :: ·) (ih x)
    · rfl

theorem pairwise_runFrom (follows : α → α → Bool)
    (htrans : ∀ a b c, follows a b = true → follows b c = true → follows a c = true)
    (last : α) (xs : List α) :
    (last :: (runFrom follows last xs).1).Pairwise fun a b => follows a b = true := by
  induction xs generalizing last with
  | nil => exact pairwise_singleton _ _
  | cons x xs ih =>
    rw [runFrom]
    split
    case isTrue hx =>
      refine pairwise_cons.2 ⟨fun b hb => ?_, ih x⟩
      rcases mem_cons.1 hb with rfl | hb
      · exact hx
      · exact htrans _ _ _ hx ((pairwise_cons.1 (ih x)).1 b hb)
    case isFalse => exact pairwise_singleton _ _

theorem firstRun_perm (before : α → α → Bool) (xs : List α) :
    ((firstRun before xs).1 ++ (firstRun before xs).2).Perm xs := by
  cases xs with
  | nil => exact Perm.refl _
  | cons x xs =>
    have happ := runFrom_append (fun a b => before b a == xs.head?.any (before · x)) x xs
    simp only [firstRun]
    split
    · refine ((reverse_perm _).append_right _).trans ?_
      rw [cons_append, happ]
    · rw [cons_append, happ]

theorem firstRun_inOrder (h : IsWeakOrder before) (xs : List α) :
    InOrder before (firstRun before xs).1 := by
  cases xs with
  | nil => exact Pairwise.nil
  | cons x xs =>
    simp only [firstRun]
    split
    case isTrue hf =>
      rw [InOrder, pairwise_reverse]
      have hrun := pairwise_runFrom (fun a b => before b a == true)
        (fun a b c hab hbc => by simp only [beq_iff_eq] at *; exact h.trans hbc hab) x xs
      rw [hf]
      exact hrun.imp fun {a b} hab => h.asymm b a (by simpa using hab)
    case isFalse hf =>
      have hrun := pairwise_runFrom (fun a b => before b a == false)
        (fun a b c hab hbc => by simp only [beq_iff_eq] at *; exact h.not_before_trans hab hbc) x xs
      rw [Bool.not_eq_true] at hf
      rw [hf]
      exact hrun.imp fun {a b} hab => by simpa using hab

theorem reverse_filter_tied (h : IsWeakOrder before) {xs : List α}
    (hxs : xs.Pairwise fun a b => before b a = true) (a : α) :
    (xs.filter (tied before a)).reverse = xs.filter (tied before a) := by
  have hpair := hxs.filter (tied before a)
  have hmem : ∀ b ∈ xs.filter (tied before a), tied before a b = true :=
    fun b hb => (mem_filter.1 hb).2
  generalize xs.filter (tied before a) = ys at hpair hmem
  match ys, hpair, hmem with
  | [], _, _ => rfl
  | [_], _, _ => rfl
  | b :: c :: _, hpair, hmem =>
    have hbc := h.tied_of_tied (hmem b mem_cons_self) (hmem c (mem_cons_of_mem _ mem_cons_self))
    rw [tied, (pairwise_cons.1 hpair).1 c mem_cons_self, Bool.not_true, Bool.and_false] at hbc
    exact absurd hbc Bool.false_ne_true

theorem filter_tied_firstRun (h : IsWeakOrder before) (xs : List α) (a : α) :
    ((firstRun before xs).1 ++ (firstRun before xs).2).filter (tied before a) =
      xs.filter (tied before a) := by
  cases xs with
  | nil => rfl
  | cons x xs =>
    have happ := runFrom_append (fun a b => before b a == xs.head?.any (before · x)) x xs
    simp only [firstRun]
    split
    case isTrue hf =>
      have hrun := pairwise_runFrom (fun a b => before b a == true)
        (fun a b c hab hbc => by simp only [beq_iff_eq] at *; exact h.trans hbc hab) x xs
      rw [hf] at happ ⊢
      conv => rhs; rw [← happ]
      rw [← cons_append, filter_append, filter_append, filter_reverse]
      rw [reverse_filter_tied h (hrun.imp fun {a b} hab => by simpa using hab)]
    case isFalse hf =>
      rw [cons_append, happ]

end Bookmarks
