/-!
# Searching a sorted list

Two ways to find the first place where something holds, if it holds from there on. Where it does
not, the answer depends on the places that are looked at, so these are part of the definitions.

* `bisect`: the range in question is halved again and again.
* `gallop`: steps of growing width lead to a range, which is then halved.
* `countUntil`: the same for the elements of a list.
* `bisect_eq`, `gallop_eq`, `countUntil_eq`: what is found, where `p` holds from some place on.
-/

namespace Bookmarks

/-- Which one of two middle places counts as the middle. -/
inductive Middle where
  | lower
  | upper
deriving DecidableEq, Repr

/-- The middle of the places from `low` on and before `high`. -/
def Middle.place (middle : Middle) (low high : Nat) : Nat :=
  match middle with
  | upper => low + (high - low) / 2
  | lower => high - 1 - (high - low) / 2

theorem Middle.place_bounds (middle : Middle) {low high : Nat} (h : low < high) :
    low ≤ middle.place low high ∧ middle.place low high < high := by
  cases middle <;> simp only [place] <;> omega

/-- The first place in question where `p` holds, by halving: the places from `low` on and before
`high` are in question, and `high` itself if `p` holds at none of them. -/
def bisect (middle : Middle) (p : Nat → Bool) (low high : Nat) : Nat :=
  if h : low < high then
    have := middle.place_bounds h
    let m := middle.place low high
    if p m then bisect middle p low m else bisect middle p (m + 1) high
  else high
termination_by high - low

/-- The last place before `stop` that was looked at in vain, and the first one where `p` holds, or
`stop`; looking begins at `next`, and each step is one wider than twice the one before. -/
def stride (p : Nat → Bool) (last next stop : Nat) : Nat × Nat :=
  if next < stop then
    if p next then (last, next) else stride p next (2 * next + 1) stop
  else (last, stop)
termination_by stop - next

/-- The first place before `stop` where `p` holds, or `stop`: by strides from the first place on,
and by halving the last one of them. -/
def gallop (middle : Middle) (p : Nat → Bool) (stop : Nat) : Nat :=
  if stop = 0 || p 0 then 0
  else
    let (last, next) := stride p 0 1 stop
    bisect middle p (last + 1) next

variable {α : Type}

/-- `p` holds for the element at a place of a list. -/
def holdsAt (p : α → Bool) (xs : List α) (i : Nat) : Bool :=
  xs[i]?.any p

/-- The number of elements before the first one for which `p` holds. -/
def countUntil (middle : Middle) (p : α → Bool) (xs : List α) : Nat :=
  gallop middle (holdsAt p xs) xs.length

/-! ## What is found -/

theorem bisect_eq (middle : Middle) {p : Nat → Bool} {low high n : Nat} (hlow : low ≤ n)
    (hhigh : n ≤ high) (hbefore : ∀ i < n, p i = false)
    (hfrom : ∀ i < high, n ≤ i → p i = true) : bisect middle p low high = n := by
  fun_induction bisect middle p low high with
  | case1 low high h hb m hp ih =>
    have hm : n ≤ m := Nat.le_of_not_lt fun hm => by simp [hbefore m hm] at hp
    exact ih hlow hm fun i hi => hfrom i (Nat.lt_trans hi hb.2)
  | case2 low high h hb m hp ih =>
    have hm : m < n := Nat.lt_of_not_le fun hm => hp (hfrom m hb.2 hm)
    exact ih hm hhigh hfrom
  | case3 low high h => omega

theorem stride_bounds (next : Nat) {p : Nat → Bool} {last stop n : Nat} (hlast : last < n)
    (hstop : n ≤ stop) (hbefore : ∀ i < n, p i = false) (hfrom : ∀ i < stop, n ≤ i → p i = true) :
    (stride p last next stop).1 < n ∧ n ≤ (stride p last next stop).2 ∧
      (stride p last next stop).2 ≤ stop := by
  fun_induction stride p last next stop with
  | case1 last next h hp =>
    exact ⟨hlast, Nat.le_of_not_lt fun hn => by simp [hbefore next hn] at hp, Nat.le_of_lt h⟩
  | case2 last next h hp ih => exact ih (Nat.lt_of_not_le fun hn => hp (hfrom next h hn))
  | case3 last next h => exact ⟨hlast, hstop, Nat.le_refl _⟩

theorem gallop_eq (middle : Middle) {p : Nat → Bool} {stop n : Nat} (hstop : n ≤ stop)
    (hbefore : ∀ i < n, p i = false) (hfrom : ∀ i < stop, n ≤ i → p i = true) :
    gallop middle p stop = n := by
  unfold gallop
  split
  case isTrue h =>
    rcases Nat.eq_zero_or_pos n with hn | hn
    · exact hn.symm
    · have : stop ≠ 0 := by omega
      simp [this, hbefore 0 hn] at h
  case isFalse h =>
    have hn : 0 < n := by
      refine Nat.pos_of_ne_zero fun hn => h ?_
      rcases Nat.eq_zero_or_pos stop with hs | hs
      · simp [hs]
      · simp [hfrom 0 hs (Nat.le_of_eq hn)]
    have hb := stride_bounds 1 hn hstop hbefore hfrom
    exact bisect_eq middle hb.1 hb.2.1 hbefore
      fun i hi => hfrom i (Nat.lt_of_lt_of_le hi hb.2.2)

theorem holdsAt_append_left {p : α → Bool} {l r : List α} (hl : ∀ a ∈ l, p a = false) {i : Nat}
    (hi : i < l.length) : holdsAt p (l ++ r) i = false := by
  rw [holdsAt, List.getElem?_append_left hi, List.getElem?_eq_getElem hi]
  exact hl _ (List.getElem_mem hi)

theorem holdsAt_append_right {p : α → Bool} {l r : List α} (hr : ∀ a ∈ r, p a = true) {i : Nat}
    (hi : i < (l ++ r).length) (hl : l.length ≤ i) : holdsAt p (l ++ r) i = true := by
  have hi : i - l.length < r.length := by rw [List.length_append] at hi; omega
  rw [holdsAt, List.getElem?_append_right hl, List.getElem?_eq_getElem hi]
  exact hr _ (List.getElem_mem hi)

theorem countUntil_eq (middle : Middle) {p : α → Bool} {l r : List α} (hl : ∀ a ∈ l, p a = false)
    (hr : ∀ a ∈ r, p a = true) : countUntil middle p (l ++ r) = l.length :=
  gallop_eq middle (by simp) (fun _ => holdsAt_append_left hl) fun _ => holdsAt_append_right hr

end Bookmarks
