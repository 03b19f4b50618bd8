/-!
# Tables

A table holds values under keys, in the order in which the keys first came.

* `Table.set`: the value of a key is replaced where it stands, a new key goes to the end.
* `Table.get?_append`: of two tables the first one that has a key decides.
* `Table.get?_set`: a value that was set is found, and other keys keep theirs.
* `Table.get?_erase`: a key that was removed is not found, and other keys keep their values.
* `Table.mem_keys_set`, `Table.nodup_keys_set`: setting a value adds its key, and no key twice.
* `Table.get?_eq_some_iff`: without a key twice, what a table holds is found.
-/

namespace Bookmarks

/-- Values under keys, in the order of the keys' first appearance. -/
abbrev Table (κ ν : Type) : Type := List (κ × ν)

namespace Table

variable {κ ν : Type} [DecidableEq κ]

/-- The value of a key. -/
def get? (key : κ) : Table κ ν → Option ν
  | [] => none
  | (k, v) :: rest => if k = key then some v else get? key rest

/-- The table with the value of a key set. -/
def set (key : κ) (value : ν) : Table κ ν → Table κ ν
  | [] => [(key, value)]
  | (k, v) :: rest => if k = key then (k, value) :: rest else (k, v) :: set key value rest

/-- The keys of a table. -/
def keys (table : Table κ ν) : List κ :=
  table.map Prod.fst

/-- The table without a key. -/
def erase (key : κ) (table : Table κ ν) : Table κ ν :=
  table.filter fun entry => entry.1 ≠ key

@[simp] theorem get?_nil (key : κ) : get? key ([] : Table κ ν) = none := rfl

theorem get?_append (key : κ) (first second : Table κ ν) :
    get? key (first ++ second) = (first.get? key).or (second.get? key) := by
  induction first with
  | nil => rfl
  | cons entry rest ih =>
    by_cases h : entry.1 = key
    · simp [get?, h]
    · simp [get?, h, ih]

theorem get?_set (key other : κ) (value : ν) (table : Table κ ν) :
    (set key value table).get? other = if other = key then some value else table.get? other := by
  induction table with
  | nil => simp [set, get?, eq_comm]
  | cons entry rest ih =>
    obtain ⟨k, v⟩ := entry
    by_cases hk : k = key
    · by_cases ho : k = other <;> simp_all [set, get?, eq_comm]
    · by_cases ho : k = other
      · subst ho
        simp [set, get?, hk]
      · simp [set, get?, hk, ho, ih]

theorem get?_erase (key other : κ) (table : Table κ ν) :
    (erase key table).get? other = if other = key then none else table.get? other := by
  induction table with
  | nil => exact (ite_self _).symm
  | cons entry rest ih =>
    obtain ⟨k, v⟩ := entry
    by_cases hk : k = key
    · rw [show erase key ((k, v) :: rest) = erase key rest by simp [erase, hk], ih, get?]
      by_cases ho : other = key
      · rw [if_pos ho, if_pos ho]
      · rw [if_neg ho, if_neg ho, if_neg fun h => ho (h.symm.trans hk)]
    · rw [show erase key ((k, v) :: rest) = (k, v) :: erase key rest by simp [erase, hk], get?, ih,
        get?]
      by_cases ho : k = other
      · rw [if_pos ho, if_pos ho, if_neg (ho ▸ hk)]
      · rw [if_neg ho, if_neg ho]

theorem get?_eq_some_iff {key : κ} {value : ν} {table : Table κ ν} (hkeys : table.keys.Nodup) :
    table.get? key = some value ↔ (key, value) ∈ table := by
  induction table with
  | nil => simp
  | cons entry rest ih =>
    obtain ⟨k, v⟩ := entry
    obtain ⟨hhead, hrest⟩ := List.nodup_cons.1 hkeys
    by_cases hk : k = key
    · subst hk
      have hnot : (k, value) ∉ rest := fun h => hhead (List.mem_map.2 ⟨_, h, rfl⟩)
      simp [get?, hnot, eq_comm]
    · simp [get?, hk, Ne.symm hk, ih hrest]

theorem get?_isSome_iff {key : κ} {table : Table κ ν} :
    (table.get? key).isSome = true ↔ key ∈ table.keys := by
  induction table with
  | nil => simp [keys]
  | cons entry rest ih =>
    obtain ⟨k, v⟩ := entry
    rw [show keys ((k, v) :: rest) = k :: keys rest from rfl, List.mem_cons, ← ih]
    by_cases hk : k = key
    · simp [get?, hk]
    · simp [get?, hk, Ne.symm hk]

theorem mem_keys_set {key other : κ} {value : ν} {table : Table κ ν} :
    other ∈ (set key value table).keys ↔ other = key ∨ other ∈ table.keys := by
  rw [← get?_isSome_iff, get?_set, ← get?_isSome_iff]
  split <;> simp_all

theorem nodup_keys_set (key : κ) (value : ν) {table : Table κ ν} (h : table.keys.Nodup) :
    (set key value table).keys.Nodup := by
  induction table with
  | nil => simp [set, keys]
  | cons entry rest ih =>
    obtain ⟨k, v⟩ := entry
    have hrest := List.nodup_cons.1 h
    by_cases hk : k = key
    · rw [set, if_pos hk]
      exact hk ▸ h
    · rw [set, if_neg hk]
      refine List.nodup_cons.2 ⟨fun hmem => ?_, ih hrest.2⟩
      rcases mem_keys_set.1 hmem with hkey | hmem
      · exact hk hkey
      · exact hrest.1 hmem

end Table

end Bookmarks
