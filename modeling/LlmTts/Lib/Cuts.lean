import Mathlib.Data.List.Infix

/-!
# Cutting a list into consecutive groups

A list is cut into consecutive groups that all have to fit. Where a part of a group that
fits fits too, the greedy cut, which closes a group only when the next element has no
room in it, has the fewest groups.
-/

namespace Cuts

variable {α : Type} (fits : List α → Prop)

/-- The groups make up the list, and each of them fits. -/
structure Cut (xs : List α) (groups : List (List α)) : Prop where
  whole : groups.flatten = xs
  fit : ∀ group ∈ groups, fits group

/-- A part of a group that fits fits. -/
def Hereditary : Prop := ∀ part group : List α, part <:+: group → fits group → fits part

variable [DecidablePred fits]

/-- The greedy cut of `xs`, with a group that is open. -/
def greedy (current : List α) : List α → List (List α)
  | [] => if current = [] then [] else [current]
  | x :: xs =>
    if current ≠ [] ∧ ¬fits (current ++ [x]) then current :: greedy [x] xs else greedy (current ++ [x]) xs

variable {fits}

theorem greedy_flatten (current xs : List α) : (greedy fits current xs).flatten = current ++ xs := by
  induction xs generalizing current with
  | nil =>
    unfold greedy
    split
    · rename_i empty
      rw [empty]
      rfl
    · rw [List.flatten_singleton, List.append_nil]
  | cons x xs ih =>
    unfold greedy
    split
    · rw [List.flatten_cons, ih]
      rfl
    · rw [ih, List.append_assoc]
      rfl

/-- Every group of the greedy cut fits, if single elements do. -/
theorem greedy_fit {current xs : List α} (opened : current ≠ [] → fits current) (singles : ∀ x ∈ xs, fits [x]) :
    ∀ group ∈ greedy fits current xs, fits group := by
  induction xs generalizing current with
  | nil =>
    intro group member
    unfold greedy at member
    split at member
    · cases member
    · rename_i nonempty
      rw [List.mem_singleton.1 member]
      exact opened nonempty
  | cons x xs ih =>
    have here := singles x List.mem_cons_self
    have later : ∀ y ∈ xs, fits [y] := fun y member => singles y (List.mem_cons_of_mem x member)
    intro group member
    unfold greedy at member
    split at member
    · rename_i closed
      rcases List.mem_cons.1 member with rfl | member
      · exact opened closed.1
      · exact ih (fun _ => here) later group member
    · rename_i room
      apply ih _ later group member
      intro _
      by_cases empty : current = []
      · rw [empty]
        exact here
      · by_contra full
        exact room ⟨empty, full⟩

theorem greedy_cut {xs : List α} (singles : ∀ x ∈ xs, fits [x]) : Cut fits xs (greedy fits [] xs) :=
  ⟨greedy_flatten [] xs, greedy_fit (fun nonempty => absurd rfl nonempty) singles⟩

/-- The greedy cut stays ahead: if its open group begins no earlier than the first group
of another cut, it has at most as many groups from there on. -/
theorem greedy_ahead (hereditary : Hereditary fits) {current begun xs : List α} {groups : List (List α)}
    (nonempty : current ≠ []) (ahead : current <:+ begun) (cut : Cut fits (begun ++ xs) groups) :
    (greedy fits current xs).length ≤ groups.length := by
  induction xs generalizing current begun groups with
  | nil =>
    have full : groups ≠ [] := by
      rintro rfl
      have whole := cut.whole
      rw [List.append_nil] at whole
      rw [← whole] at ahead
      exact nonempty (List.suffix_nil.1 ahead)
    unfold greedy
    rw [if_neg nonempty]
    exact List.length_pos_iff.2 full
  | cons x xs ih =>
    have shifted : begun ++ x :: xs = (begun ++ [x]) ++ xs := by rw [List.append_assoc, List.singleton_append]
    unfold greedy
    split
    · rename_i closed
      -- the other cut has to close its first group here, if it has not done so before
      cases groups with
      | nil => exact absurd cut.whole (List.append_ne_nil_of_right_ne_nil _ (List.cons_ne_nil _ _)).symm
      | cons group groups =>
        have whole := cut.whole
        rw [List.flatten_cons] at whole
        have fit := cut.fit group List.mem_cons_self
        rcases List.append_eq_append_iff.1 whole with ⟨rest, left, right⟩ | ⟨rest, left, right⟩
        · have kept : Cut fits ((rest ++ [x]) ++ xs) groups := by
            constructor
            · rw [right, List.append_assoc, List.singleton_append]
            · exact fun other member => cut.fit other (List.mem_cons_of_mem group member)
          exact Nat.succ_le_succ (ih (List.cons_ne_nil _ _) (List.suffix_append rest [x]) kept)
        · cases rest with
          | nil =>
            have kept : Cut fits (([] ++ [x]) ++ xs) groups := by
              constructor
              · exact right.symm
              · exact fun other member => cut.fit other (List.mem_cons_of_mem group member)
            exact Nat.succ_le_succ (ih (List.cons_ne_nil _ _) (List.suffix_append [] [x]) kept)
          | cons y rest =>
            rw [List.cons_append] at right
            obtain ⟨rfl, -⟩ := List.cons.inj right
            obtain ⟨front, rfl⟩ := ahead
            apply absurd (hereditary _ _ _ fit) closed.2
            refine ⟨front, rest, ?_⟩
            rw [left]
            simp
    · apply ih (List.append_ne_nil_of_right_ne_nil _ (List.cons_ne_nil _ _)) _ (shifted ▸ cut)
      obtain ⟨front, rfl⟩ := ahead
      exact ⟨front, (List.append_assoc front current [x]).symm⟩

/-- The greedy cut has the fewest groups. -/
theorem greedy_minimal (hereditary : Hereditary fits) {xs : List α} {groups : List (List α)}
    (cut : Cut fits xs groups) : (greedy fits [] xs).length ≤ groups.length := by
  cases xs with
  | nil => exact Nat.zero_le _
  | cons x xs =>
    have start : greedy fits [] (x :: xs) = greedy fits [x] xs := if_neg fun closed => closed.1 rfl
    rw [start]
    exact greedy_ahead hereditary (List.cons_ne_nil _ _) (List.suffix_refl [x]) cut

end Cuts
