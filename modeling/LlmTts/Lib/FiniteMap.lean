import Mathlib.Data.Finmap
import Mathlib.Data.Finset.Sort

/-!
# The rows of a finite map

A finite map as the list of its entries in the order of the keys. A list of pairs is
that of a map exactly if it is sorted and holds the same entries.
-/

namespace FiniteMap

variable {κ α : Type} [LinearOrder κ]

/-- The entries in the order of their keys. -/
def rows (m : Finmap fun _ : κ => α) : List (κ × α) :=
  (m.keys.sort (· ≤ ·)).filterMap fun key => (m.lookup key).map (key, ·)

/-- The order of the keys, without repetition. -/
def Ascending (items : List (κ × α)) : Prop := items.Pairwise fun one other => one.1 < other.1

variable {m : Finmap fun _ : κ => α} {items : List (κ × α)}

/-- The rows are the entries. -/
theorem mem_rows {key : κ} {value : α} : (key, value) ∈ rows m ↔ m.lookup key = some value := by
  unfold rows
  rw [List.mem_filterMap]
  constructor
  · rintro ⟨key', -, found⟩
    obtain ⟨value', here, same⟩ := Option.map_eq_some_iff.1 found
    cases same
    exact here
  · intro found
    refine ⟨key, ?_, by rw [found]; rfl⟩
    rw [Finset.mem_sort, Finmap.mem_keys]
    exact Finmap.mem_of_lookup_eq_some found

/-- The rows are in the order of the keys. -/
theorem ascending_rows : Ascending (rows m) := by
  unfold Ascending rows
  rw [List.pairwise_filterMap]
  refine m.keys.sortedLT_sort.pairwise.imp fun {one other} less => ?_
  intro item found item' found'
  obtain ⟨value, -, rfl⟩ := Option.map_eq_some_iff.1 found
  obtain ⟨value', -, rfl⟩ := Option.map_eq_some_iff.1 found'
  exact less

/-- Ascending keys are different. -/
theorem Ascending.nodup_keys (ascending : Ascending items) : (items.map Prod.fst).Nodup :=
  List.pairwise_map.2 (ascending.imp fun less => less.ne)

theorem Ascending.nodup (ascending : Ascending items) : items.Nodup :=
  List.Nodup.of_map Prod.fst ascending.nodup_keys

theorem nodup_keys_rows : ((rows m).map Prod.fst).Nodup := ascending_rows.nodup_keys

@[simp] theorem rows_empty : rows (∅ : Finmap fun _ : κ => α) = [] := by
  unfold rows
  rw [Finmap.keys_empty, Finset.sort_empty]
  rfl

/-- A list with distinct keys and the entries of a map is its rows up to the order. -/
theorem perm_rows (distinct : (items.map Prod.fst).Nodup)
    (same : ∀ key value, (key, value) ∈ items ↔ m.lookup key = some value) : items.Perm (rows m) := by
  rw [List.perm_ext_iff_of_nodup (List.Nodup.of_map Prod.fst distinct) ascending_rows.nodup]
  rintro ⟨key, value⟩
  rw [same, mem_rows]

/-- The rows of a map whose values are taken from those of another one. -/
theorem rows_of_lookup {β : Type} {n : Finmap fun _ : κ => β} {f : α → β}
    (same : ∀ key, n.lookup key = (m.lookup key).map f) : rows n = (rows m).map fun row => (row.1, f row.2) := by
  have keys : n.keys = m.keys := by
    ext key
    rw [Finmap.mem_keys, Finmap.mem_keys, ← Finmap.lookup_isSome, ← Finmap.lookup_isSome, same, Option.isSome_map]
  unfold rows
  rw [keys, List.map_filterMap]
  refine List.filterMap_congr fun key _ => ?_
  rw [same]
  cases m.lookup key <;> rfl

/-- An insertion is found, and changes nothing else. -/
theorem lookup_insert_apply (m : Finmap fun _ : κ => α) (value : α) (key other : κ) :
    (m.insert other value).lookup key = if key = other then some value else m.lookup key := by
  split
  · rename_i same
    rw [same, Finmap.lookup_insert]
  · rename_i apart
    rw [Finmap.lookup_insert_of_ne m apart]

/-- An erased key is not found, and nothing else changes. -/
theorem lookup_erase_apply (m : Finmap fun _ : κ => α) (key other : κ) :
    (m.erase other).lookup key = if key = other then none else m.lookup key := by
  split
  · rename_i same
    rw [same, Finmap.lookup_erase]
  · rename_i apart
    rw [Finmap.lookup_erase_ne apart]

end FiniteMap
