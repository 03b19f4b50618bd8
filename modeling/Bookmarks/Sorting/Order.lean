/-!
# Orders up to ties

A comparison is an `IsWeakOrder` when it is a strict order up to ties. For such a comparison a
sorted list is known without any algorithm: it is the one list in order in which the elements tied
with any given one stand as they did before.

* `tied`, `InOrder`: ties, and lists in order.
* `InOrder.split_before`: the place of an element in a list in order.
* `IsSorting before xs ys`: the list `ys` is `xs`, sorted with all ties as they were.
* `eq_of_inOrder`: a list in order is determined by its ties.
* `IsSorting.consLeft`, `IsSorting.consRight`: the next element of two lists that are merged.
-/

namespace Bookmarks

open List

variable {α : Type} {before : α → α → Bool}

/-- **A strict order up to ties**: of two elements at most one comes before the other, and where one
comes before another, a third comes behind the first or before the second. -/
structure IsWeakOrder (before : α → α → Bool) : Prop where
  asymm : ∀ a b, before a b = true → before b a = false
  cotrans : ∀ a b c, before a c = true → before a b = true ∨ before b c = true

/-- Neither element comes before the other. -/
def tied (before : α → α → Bool) (a b : α) : Bool :=
  !before a b && !before b a

/-- No element stands behind one that it has to come before. -/
def InOrder (before : α → α → Bool) (xs : List α) : Prop :=
  xs.Pairwise fun a b => before b a = false

/-- The list `ys` is in order, and the elements tied with any given one stand there as in `xs`. -/
structure IsSorting (before : α → α → Bool) (xs ys : List α) : Prop where
  inOrder : InOrder before ys
  ties : ∀ a, ys.filter (tied before a) = xs.filter (tied before a)

namespace IsWeakOrder

variable (h : IsWeakOrder before)
include h

theorem irrefl (a : α) : before a a = false := by
  cases ha : before a a with
  | false => rfl
  | true => exact ha ▸ h.asymm a a ha

theorem trans {a b c : α} (hab : before a b = true) (hbc : before b c = true) :
    before a c = true := by
  rcases h.cotrans a c b hab with hac | hcb
  · exact hac
  · rw [h.asymm b c hbc] at hcb
    exact absurd hcb Bool.false_ne_true

theorem not_before_trans {a b c : α} (hba : before b a = false) (hcb : before c b = false) :
    before c a = false := by
  cases hca : before c a with
  | false => rfl
  | true => rcases h.cotrans c b a hca with hc | hc <;> simp_all

theorem before_of_before {a b c : α} (hab : before a b = true) (hcb : before c b = false) :
    before a c = true := by
  rcases h.cotrans a c b hab with hac | hc
  · exact hac
  · rw [hcb] at hc
    exact absurd hc Bool.false_ne_true

theorem before_of_not_before {a b c : α} (hba : before b a = false) (hbc : before b c = true) :
    before a c = true := by
  rcases h.cotrans b a c hbc with hb | hac
  · rw [hba] at hb
    exact absurd hb Bool.false_ne_true
  · exact hac

theorem tied_self (a : α) : tied before a a = true := by
  rw [tied, h.irrefl]
  rfl

theorem tied_of_tied {a b c : α} (hab : tied before a b = true) (hac : tied before a c = true) :
    tied before b c = true := by
  simp only [tied, Bool.and_eq_true, Bool.not_eq_true'] at *
  exact ⟨h.not_before_trans hac.1 hab.2, h.not_before_trans hab.1 hac.2⟩

theorem swap : IsWeakOrder fun a b => before b a where
  asymm _ _ hab := h.asymm _ _ hab
  cotrans _ b _ hac := (h.cotrans _ b _ hac).symm

end IsWeakOrder

theorem tied_swap (a : α) : tied (fun b c => before c b) a = tied before a :=
  funext fun _ => Bool.and_comm _ _

theorem IsWeakOrder.comap {κ : Type} {lt : κ → κ → Bool} (h : IsWeakOrder lt) (key : α → κ) :
    IsWeakOrder fun a b => lt (key a) (key b) where
  asymm _ _ hab := h.asymm _ _ hab
  cotrans _ b _ hac := h.cotrans _ (key b) _ hac

theorem filter_tied_eq_nil (h : IsWeakOrder before) {a x : α} (hax : tied before a x = true)
    {xs : List α} (hxs : ∀ b ∈ xs, before x b = true) : xs.filter (tied before a) = [] := by
  refine filter_eq_nil_iff.2 fun b hb hab => ?_
  have := h.tied_of_tied hax hab
  rw [tied, hxs b hb] at this
  exact absurd this Bool.false_ne_true

/-- **A list in order is determined by its ties.** -/
theorem eq_of_inOrder (h : IsWeakOrder before) {xs ys : List α} (hxs : InOrder before xs)
    (hys : InOrder before ys)
    (hties : ∀ a, xs.filter (tied before a) = ys.filter (tied before a)) : xs = ys := by
  induction xs generalizing ys with
  | nil =>
    cases ys with
    | nil => rfl
    | cons y ys => simpa [h.tied_self] using hties y
  | cons x xs ih =>
    cases ys with
    | nil => simpa [h.tied_self] using hties x
    | cons y ys =>
      have hx : x ∈ y :: ys :=
        (mem_filter.1 (show x ∈ filter (tied before x) (y :: ys) by
          rw [← hties x]; simp [h.tied_self])).1
      have hy : y ∈ x :: xs :=
        (mem_filter.1 (show y ∈ filter (tied before y) (x :: xs) by
          rw [hties y]; simp [h.tied_self])).1
      have hxy : before x y = false := by
        rcases mem_cons.1 hx with rfl | hx
        · exact h.irrefl x
        · exact (pairwise_cons.1 hys).1 x hx
      have hyx : before y x = false := by
        rcases mem_cons.1 hy with rfl | hy
        · exact h.irrefl y
        · exact (pairwise_cons.1 hxs).1 y hy
      have htie : tied before x y = true := by rw [tied, hxy, hyx]; rfl
      have heq : x = y := by
        have := hties x
        rw [filter_cons_of_pos (h.tied_self x), filter_cons_of_pos htie] at this
        exact (cons.inj this).1
      subst heq
      refine congrArg (x :: ·) (ih (pairwise_cons.1 hxs).2 (pairwise_cons.1 hys).2 fun a => ?_)
      have := hties a
      rw [filter_cons, filter_cons] at this
      split at this
      · exact (cons.inj this).2
      · exact this

/-! ## Lists in order -/

theorem exists_split {p : α → Bool} {xs : List α}
    (h : xs.Pairwise fun a b => p a = true → p b = true) :
    ∃ l r, xs = l ++ r ∧ (∀ a ∈ l, p a = false) ∧ ∀ a ∈ r, p a = true := by
  induction xs with
  | nil => exact ⟨[], [], rfl, by simp, by simp⟩
  | cons x xs ih =>
    rw [pairwise_cons] at h
    cases hx : p x with
    | true =>
      refine ⟨[], x :: xs, rfl, by simp, fun a ha => ?_⟩
      rcases mem_cons.1 ha with rfl | ha
      · exact hx
      · exact h.1 a ha hx
    | false =>
      obtain ⟨l, r, rfl, hl, hr⟩ := ih h.2
      refine ⟨x :: l, r, rfl, fun a ha => ?_, hr⟩
      rcases mem_cons.1 ha with rfl | ha
      · exact hx
      · exact hl a ha

/-- A list in order, split at the place of an element, which goes behind its ties. -/
theorem InOrder.split_before (h : IsWeakOrder before) {xs : List α} (hxs : InOrder before xs)
    (y : α) :
    ∃ l r, xs = l ++ r ∧ (∀ a ∈ l, before y a = false) ∧ ∀ a ∈ r, before y a = true :=
  exists_split (hxs.imp fun hba hya => h.before_of_before hya hba)

/-- A list in order, split at the place of an element, which goes before its ties. -/
theorem InOrder.split_not_before (h : IsWeakOrder before) {ys : List α} (hys : InOrder before ys)
    (x : α) :
    ∃ l r, ys = l ++ r ∧ (∀ b ∈ l, (!before b x) = false) ∧ ∀ b ∈ r, (!before b x) = true := by
  refine exists_split (hys.imp fun {a b} hba hax => ?_)
  simp only [Bool.not_eq_true'] at *
  exact h.not_before_trans hax hba

theorem InOrder.not_before (h : IsWeakOrder before) {y a : α} {ys : List α}
    (hys : InOrder before (y :: ys)) (hya : before y a = false) :
    ∀ b ∈ y :: ys, before b a = false := by
  intro b hb
  rcases mem_cons.1 hb with rfl | hb
  · exact hya
  · exact h.not_before_trans hya ((pairwise_cons.1 hys).1 b hb)

theorem InOrder.before_all (h : IsWeakOrder before) {x b : α} {xs : List α}
    (hxs : InOrder before (x :: xs)) (hbx : before b x = true) :
    ∀ a ∈ x :: xs, before b a = true := by
  intro a ha
  rcases mem_cons.1 ha with rfl | ha
  · exact hbx
  · exact h.before_of_before hbx ((pairwise_cons.1 hxs).1 a ha)

theorem InOrder.not_before_last (h : IsWeakOrder before) {xs : List α} (hxs : InOrder before xs)
    {z : α} (hz : xs.getLast? = some z) : ∀ a ∈ xs, before z a = false := by
  obtain ⟨l, rfl⟩ := getLast?_eq_some_iff.1 hz
  intro a ha
  rcases mem_append.1 ha with ha | ha
  · exact (pairwise_append.1 hxs).2.2 a ha z mem_cons_self
  · rw [mem_singleton.1 ha]
    exact h.irrefl z

/-! ## Sorted lists -/

namespace IsSorting

theorem refl {xs : List α} (hxs : InOrder before xs) : IsSorting before xs xs :=
  ⟨hxs, fun _ => rfl⟩

theorem mem_iff (h : IsWeakOrder before) {xs ys : List α} (hs : IsSorting before xs ys) {a : α} :
    a ∈ ys ↔ a ∈ xs := by
  have := congrArg (a ∈ ·) (hs.ties a)
  simpa [h.tied_self] using this

theorem reverse {xs ys : List α} (hs : IsSorting (fun a b => before b a) xs.reverse ys) :
    IsSorting before xs ys.reverse where
  inOrder := pairwise_reverse.2 hs.inOrder
  ties a := by
    have := hs.ties a
    rw [tied_swap, filter_reverse] at this
    rw [filter_reverse, this, reverse_reverse]

theorem consLeft (h : IsWeakOrder before) {x : α} {xs ys zs : List α}
    (hs : IsSorting before (xs ++ ys) zs) (hx : ∀ a ∈ xs, before a x = false)
    (hy : ∀ b ∈ ys, before b x = false) : IsSorting before (x :: xs ++ ys) (x :: zs) where
  inOrder := pairwise_cons.2 ⟨fun b hb => by
    rcases mem_append.1 ((hs.mem_iff h).1 hb) with hb | hb
    · exact hx b hb
    · exact hy b hb, hs.inOrder⟩
  ties a := by rw [cons_append, filter_cons, filter_cons, hs.ties a]

theorem consRight (h : IsWeakOrder before) {y : α} {xs ys zs : List α}
    (hs : IsSorting before (xs ++ ys) zs) (hx : ∀ a ∈ xs, before y a = true)
    (hy : ∀ b ∈ ys, before b y = false) : IsSorting before (xs ++ y :: ys) (y :: zs) where
  inOrder := pairwise_cons.2 ⟨fun b hb => by
    rcases mem_append.1 ((hs.mem_iff h).1 hb) with hb | hb
    · exact h.asymm y b (hx b hb)
    · exact hy b hb, hs.inOrder⟩
  ties a := by
    have := hs.ties a
    rw [filter_append] at this
    rw [filter_append, filter_cons, filter_cons, this]
    split
    case isTrue hay => rw [filter_tied_eq_nil h hay hx]; rfl
    case isFalse => rfl

theorem appendLeft (h : IsWeakOrder before) {l xs ys zs : List α}
    (hs : IsSorting before (xs ++ ys) zs) (hl : InOrder before (l ++ xs))
    (hy : ∀ a ∈ l, ∀ b ∈ ys, before b a = false) :
    IsSorting before ((l ++ xs) ++ ys) (l ++ zs) := by
  induction l with
  | nil => exact hs
  | cons x l ih =>
    have hl := pairwise_cons.1 hl
    exact (ih hl.2 fun a ha => hy a (mem_cons_of_mem x ha)).consLeft h hl.1 (hy x mem_cons_self)

theorem appendRight (h : IsWeakOrder before) {l xs ys zs : List α}
    (hs : IsSorting before (xs ++ ys) zs) (hl : InOrder before (l ++ ys))
    (hx : ∀ b ∈ l, ∀ a ∈ xs, before b a = true) :
    IsSorting before (xs ++ (l ++ ys)) (l ++ zs) := by
  induction l with
  | nil => exact hs
  | cons y l ih =>
    have hl := pairwise_cons.1 hl
    exact (ih hl.2 fun b hb => hx b (mem_cons_of_mem y hb)).consRight h (hx y mem_cons_self) hl.1

theorem appendEnd (h : IsWeakOrder before) {xs w zs : List α} (hs : IsSorting before xs zs)
    (hw : InOrder before w) (hx : ∀ a ∈ xs, ∀ b ∈ w, before b a = false) :
    IsSorting before (xs ++ w) (zs ++ w) where
  inOrder := pairwise_append.2 ⟨hs.inOrder, hw, fun a ha => hx a ((hs.mem_iff h).1 ha)⟩
  ties a := by rw [filter_append, filter_append, hs.ties a]

end IsSorting

end Bookmarks
