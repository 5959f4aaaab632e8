import Mathlib.Algebra.BigOperators.Group.List.Basic
import Mathlib.Data.List.Nodup
import Mathlib.Data.List.Basic

/-!
# Lists of components that change one at a time

The components of a system stand in a list and are named by their index. A step
replaces one of them or appends a new one; these are the lookups and the counts
in the list after it.
-/

namespace Slots

variable {α : Type} {l : List α} {i j : Nat} {a b : α} {p : α → Bool}

theorem getElem?_set_cases (found : (l.set i b)[j]? = some a) :
    j = i ∧ a = b ∨ j ≠ i ∧ l[j]? = some a := by
  rw [List.getElem?_set] at found
  split at found
  · rename_i same
    split at found
    · exact .inl ⟨same.symm, (Option.some.inj found).symm⟩
    · cases found
  · rename_i apart
    exact .inr ⟨Ne.symm apart, found⟩

theorem getElem?_concat_cases (found : (l ++ [b])[j]? = some a) : l[j]? = some a ∨ a = b := by
  rcases List.mem_append.1 (List.mem_of_getElem? found) with _ | new
  · by_cases inside : j < l.length
    · rw [List.getElem?_append_left inside] at found
      exact .inl found
    · rw [List.getElem?_append_right (Nat.le_of_not_lt inside)] at found
      exact .inr (List.mem_singleton.1 (List.mem_of_getElem? found))
  · exact .inr (List.mem_singleton.1 new)

theorem mem_set_cases (member : a ∈ l.set i b) : a = b ∨ a ∈ l := by
  rcases List.mem_or_eq_of_mem_set member with old | new
  · exact .inr old
  · exact .inl new

/-- The count moves with the component that was replaced. -/
theorem countP_set (found : l[i]? = some a) :
    (l.set i b).countP p + (if p a then 1 else 0) = l.countP p + (if p b then 1 else 0) := by
  obtain ⟨inside, rfl⟩ := List.getElem?_eq_some_iff.1 found
  have positive : p l[i] = true → 0 < l.countP p := fun counted =>
    List.countP_pos_iff.2 ⟨l[i], List.getElem_mem inside, counted⟩
  rw [List.countP_set inside]
  split
  · rename_i counted
    have := positive counted
    omega
  · omega

/-- So does a sum over the components. -/
theorem sum_map_set {M : Type} [AddCommMonoid M] {f : α → M} (found : l[i]? = some a) :
    ((l.set i b).map f).sum + f a = (l.map f).sum + f b := by
  induction l generalizing i with
  | nil => cases found
  | cons first l ih =>
    cases i with
    | zero =>
      cases found
      simp only [List.set_cons_zero, List.map_cons, List.sum_cons]
      rw [add_comm (f b), add_assoc, add_comm (f b), ← add_assoc, add_comm (List.sum _)]
    | succ i =>
      simp only [List.set_cons_succ, List.map_cons, List.sum_cons]
      rw [add_assoc, ih found, add_assoc]

/-- Different components that meet `p` are at most as many as the count says. -/
theorem length_le_countP {js : List Nat} (distinct : js.Nodup)
    (each : ∀ j ∈ js, ∃ a, l[j]? = some a ∧ p a = true) : js.length ≤ l.countP p := by
  -- one component after the other is marked as counted
  have marks : ∀ (js : List Nat) (bs : List Bool), js.Nodup → (∀ j ∈ js, bs[j]? = some true) →
      js.length ≤ bs.countP id := by
    intro js
    induction js with
    | nil => exact fun _ _ _ => Nat.zero_le _
    | cons j js ih =>
      intro bs distinct each
      obtain ⟨new, distinct⟩ := List.nodup_cons.1 distinct
      have here := each j List.mem_cons_self
      have rest : ∀ k ∈ js, (bs.set j false)[k]? = some true := by
        intro k member
        have apart : j ≠ k := fun same => new (same ▸ member)
        rw [List.getElem?_set_ne apart]
        exact each k (List.mem_cons_of_mem j member)
      have fewer := ih (bs.set j false) distinct rest
      have count := countP_set (b := false) (p := id) here
      simp only [id_eq, if_true, Bool.false_eq_true, if_false] at count
      rw [List.length_cons]
      omega
  have counted := marks js (l.map p) distinct fun j member => by
    obtain ⟨a, found, holds⟩ := each j member
    rw [List.getElem?_map, found, Option.map_some, holds]
  rwa [List.countP_map] at counted

/-- Two kinds of component that exclude each other, both of a third kind. -/
theorem countP_add_le {l : List α} {q r : α → Bool} (left : ∀ a ∈ l, p a = true → r a = true)
    (right : ∀ a ∈ l, q a = true → r a = true) (apart : ∀ a ∈ l, p a = true → q a = false) :
    l.countP p + l.countP q ≤ l.countP r := by
  induction l with
  | nil => exact Nat.le_refl _
  | cons a l ih =>
    have rest := ih (fun b member => left b (List.mem_cons_of_mem a member))
      (fun b member => right b (List.mem_cons_of_mem a member))
      (fun b member => apart b (List.mem_cons_of_mem a member))
    have here : (if p a then 1 else 0) + (if q a then 1 else 0) ≤ if r a then 1 else 0 := by
      have left := left a List.mem_cons_self
      have right := right a List.mem_cons_self
      have apart := apart a List.mem_cons_self
      split_ifs <;> simp_all
    simp only [List.countP_cons]
    omega

end Slots
