import Bookmarks.Fault

/-!
# Computations that can fail

* `Fault.bind_eq_ok`, `Fault.map_eq_ok`: a computation in two steps succeeds if both of them do.
* `Fault.mapM_eq_ok_iff`: the same for a computation on each item of a list.
* `Fault.exists_bind_iff`, `Fault.exists_mapM_iff`: whether there is a result at all.
* `Fault.FailsBy`: with which fault a computation fails, if it does.
-/

namespace Bookmarks.Fault

variable {α β : Type}

@[simp] theorem ok_bind (a : α) (f : α → Except Fault β) : Except.ok a >>= f = f a := rfl

theorem bind_eq_ok {x : Except Fault α} {f : α → Except Fault β} {b : β} :
    x >>= f = .ok b ↔ ∃ a, x = .ok a ∧ f a = .ok b := by
  cases x with
  | error e => simp [bind, Except.bind]
  | ok a => simp [bind, Except.bind]

theorem map_eq_ok {x : Except Fault α} {f : α → β} {b : β} :
    f <$> x = .ok b ↔ ∃ a, x = .ok a ∧ f a = b := by
  cases x with
  | error e => simp [Functor.map, Except.map]
  | ok a => simp [Functor.map, Except.map]

theorem map_eq_ok_apply {x : Except Fault α} {f : α → β} (hf : Function.Injective f) {a : α} :
    f <$> x = .ok (f a) ↔ x = .ok a := by
  rw [map_eq_ok]
  constructor
  · rintro ⟨found, hx, heq⟩
    exact hx.trans (congrArg Except.ok (hf heq))
  · intro hx
    exact ⟨a, hx, rfl⟩

theorem map_eq_error {x : Except Fault α} {f : α → β} {e : Fault} :
    f <$> x = .error e ↔ x = .error e := by
  cases x with
  | error found => exact Except.error.injEq found e ▸ Except.error.injEq found e ▸ Iff.rfl
  | ok a => simp [Functor.map, Except.map]

/-- A computation on each item succeeds if it does on all of them. -/
theorem mapM_eq_ok_iff {f : α → Except Fault β} {xs : List α} {ys : List β} :
    xs.mapM f = .ok ys ↔ xs.map f = ys.map .ok := by
  induction xs generalizing ys with
  | nil => cases ys <;> simp [pure, Except.pure]
  | cons x xs ih =>
    rw [List.mapM_cons, bind_eq_ok]
    constructor
    · rintro ⟨y, hy, h⟩
      obtain ⟨rest, hrest, h⟩ := bind_eq_ok.1 h
      obtain rfl := Except.ok.inj h
      rw [List.map_cons, List.map_cons, hy, ih.1 hrest]
    · intro h
      obtain ⟨y, rest, rfl, hy, hrest⟩ := List.map_eq_cons_iff.1 h.symm
      exact ⟨y, hy.symm, bind_eq_ok.2 ⟨rest, ih.2 hrest.symm, rfl⟩⟩

theorem mapM_eq_ok {f : α → Except Fault β} {g : α → β} {xs : List α}
    (h : ∀ x ∈ xs, f x = .ok (g x)) : xs.mapM f = .ok (xs.map g) := by
  rw [mapM_eq_ok_iff, List.map_map]
  exact List.map_congr_left h

theorem exists_of_mem_mapM {f : α → Except Fault β} {xs : List α} {ys : List β}
    (h : xs.mapM f = .ok ys) : ∀ y ∈ ys, ∃ x ∈ xs, f x = .ok y := by
  intro y hy
  have hmem : Except.ok y ∈ xs.map f := mapM_eq_ok_iff.1 h ▸ List.mem_map_of_mem hy
  exact List.mem_map.1 hmem

theorem exists_bind_iff {x : Except Fault α} {f : α → Except Fault β} :
    (∃ b, x >>= f = .ok b) ↔ ∃ a, x = .ok a ∧ ∃ b, f a = .ok b := by
  constructor
  · rintro ⟨b, hb⟩
    obtain ⟨a, ha, hb⟩ := bind_eq_ok.1 hb
    exact ⟨a, ha, b, hb⟩
  · rintro ⟨a, ha, b, hb⟩
    exact ⟨b, bind_eq_ok.2 ⟨a, ha, hb⟩⟩

theorem exists_mapM_iff {f : α → Except Fault β} {xs : List α} :
    (∃ ys, xs.mapM f = .ok ys) ↔ ∀ x ∈ xs, ∃ y, f x = .ok y := by
  induction xs with
  | nil => exact iff_of_true ⟨[], rfl⟩ (List.forall_mem_nil _)
  | cons x xs ih =>
    rw [List.mapM_cons, exists_bind_iff, List.forall_mem_cons, ← ih]
    constructor
    · rintro ⟨y, hy, h⟩
      obtain ⟨ys, hys, -⟩ := exists_bind_iff.1 h
      exact ⟨⟨y, hy⟩, ys, hys⟩
    · rintro ⟨⟨y, hy⟩, ys, hys⟩
      exact ⟨y, hy, exists_bind_iff.2 ⟨ys, hys, _, rfl⟩⟩

/-! ## Which fault it is -/

/-- A computation fails with a fault, if there is one, and has a result otherwise. -/
def FailsBy (fault? : Option Fault) (x : Except Fault α) : Prop :=
  match fault? with
  | some f => x = .error f
  | none => ∃ a, x = .ok a

namespace FailsBy

variable {fault? next? : Option Fault} {x : Except Fault α} {f : α → Except Fault β}

theorem eq_error_iff (h : FailsBy fault? x) (e : Fault) : x = .error e ↔ fault? = some e := by
  cases fault? with
  | none =>
    obtain ⟨a, rfl⟩ := h
    refine iff_of_false ?_ (Option.some_ne_none e).symm
    intro heq
    cases heq
  | some found =>
    rw [h, Except.error.injEq, Option.some.injEq]

theorem exists_ok_iff (h : FailsBy fault? x) : (∃ a, x = .ok a) ↔ fault? = none := by
  cases fault? with
  | none => exact iff_of_true h rfl
  | some found =>
    refine iff_of_false ?_ (Option.some_ne_none found)
    rintro ⟨a, ha⟩
    rw [h] at ha
    cases ha

/-- Of two computations, one after the other, the first one that fails decides. -/
theorem bind (h : FailsBy fault? x) (hnext : ∀ a, x = .ok a → FailsBy next? (f a)) :
    FailsBy (fault?.or next?) (x >>= f) := by
  cases fault? with
  | none =>
    obtain ⟨a, rfl⟩ := h
    exact hnext a rfl
  | some found =>
    rw [h]
    rfl

theorem map (h : FailsBy fault? x) (g : α → β) : FailsBy fault? (g <$> x) := by
  cases fault? with
  | none =>
    obtain ⟨a, rfl⟩ := h
    exact ⟨g a, rfl⟩
  | some found =>
    rw [h]
    rfl

/-- Of computations on the items of a list, the first one that fails decides. -/
theorem mapM {fault? : α → Option Fault} {xs : List α} (h : ∀ x ∈ xs, FailsBy (fault? x) (f x)) :
    FailsBy (xs.findSome? fault?) (xs.mapM f) := by
  induction xs with
  | nil => exact ⟨[], rfl⟩
  | cons x xs ih =>
    obtain ⟨hx, hxs⟩ := List.forall_mem_cons.1 h
    rw [List.mapM_cons, List.findSome?_cons]
    have hrest := hx.bind (f := fun y => do return y :: (← xs.mapM f))
      fun y _ => (ih hxs).map (List.cons y)
    cases hfault : fault? x with
    | none => rwa [hfault] at hrest
    | some found => rwa [hfault] at hrest

end FailsBy

end Bookmarks.Fault
