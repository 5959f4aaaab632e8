import Mathlib.Data.List.Dedup
import Mathlib.Data.List.Nodup

/-!
# Recency

The keys of a history of uses, oldest use first, by how recently each was used.
`recent n` keeps the `n` most recently used ones; one more use moves a key that
is among them to the front, and pushes the last one out for a key that is not.
-/

namespace Recency

variable {K : Type} [DecidableEq K]

/-- The distinct keys, by their last uses, the most recent first. -/
def order (uses : List K) : List K := uses.dedup.reverse

/-- The `n` most recently used distinct keys. -/
def recent (n : Nat) (uses : List K) : List K := (order uses).take n

@[simp] theorem order_nil : order ([] : List K) = [] := rfl

@[simp] theorem recent_nil (n : Nat) : recent n ([] : List K) = [] := List.take_nil

theorem nodup_order (uses : List K) : (order uses).Nodup :=
  List.nodup_reverse.2 (List.nodup_dedup uses)

theorem nodup_recent (n : Nat) (uses : List K) : (recent n uses).Nodup :=
  (nodup_order uses).sublist (List.take_sublist n _)

theorem mem_of_mem_recent {n : Nat} {uses : List K} {key : K} (member : key ∈ recent n uses) : key ∈ uses :=
  List.mem_dedup.1 (List.mem_reverse.1 (List.mem_of_mem_take member))

theorem length_recent_le (n : Nat) (uses : List K) : (recent n uses).length ≤ n := by
  unfold recent
  rw [List.length_take]
  exact Nat.min_le_left _ _

theorem dedup_concat (uses : List K) (key : K) :
    (uses ++ [key]).dedup = uses.dedup.filter (fun other => !decide (other = key)) ++ [key] := by
  induction uses with
  | nil => rfl
  | cons first uses ih =>
    rw [List.cons_append]
    by_cases again : first ∈ uses
    · rw [List.dedup_cons_of_mem (List.mem_append_left _ again), List.dedup_cons_of_mem again]
      exact ih
    · rw [List.dedup_cons_of_notMem again]
      by_cases same : first = key
      · have member : first ∈ uses ++ [key] := by rw [same]; exact List.mem_append_right _ List.mem_cons_self
        rw [List.dedup_cons_of_mem member, ih, List.filter_cons_of_neg (by simp [same])]
      · have new : first ∉ uses ++ [key] := by
          rw [List.mem_append, List.mem_singleton, not_or]
          exact ⟨again, same⟩
        rw [List.dedup_cons_of_notMem new, ih, List.filter_cons_of_pos (by simp [same])]
        rfl

/-- A use puts its key first. -/
theorem order_concat (uses : List K) (key : K) :
    order (uses ++ [key]) = key :: (order uses).filter fun other => !decide (other = key) := by
  unfold order
  rw [dedup_concat, List.reverse_append, List.reverse_singleton, List.singleton_append,
    List.filter_reverse]

section Bounded

variable {n : Nat} {uses : List K} {key : K}

/-- Only a full list of recent keys leaves any out. -/
theorem order_of_short (short : (recent n uses).length < n) : order uses = recent n uses := by
  unfold recent at short ⊢
  rw [List.length_take] at short
  rw [List.take_of_length_le (by omega)]

theorem recent_succ_concat (n : Nat) (uses : List K) (key : K) :
    recent (n + 1) (uses ++ [key]) =
      key :: ((recent (n + 1) uses).filter (fun other => !decide (other = key)) ++
        ((order uses).drop (n + 1)).filter fun other => !decide (other = key)).take n := by
  rw [← List.filter_append, recent, recent, List.take_append_drop, order_concat, List.take_succ_cons]

/-- A use of one of the `n` most recently used keys only moves it to the front. -/
theorem recent_concat_of_mem (member : key ∈ recent n uses) :
    recent n (uses ++ [key]) = key :: (recent n uses).filter fun other => !decide (other = key) := by
  obtain _ | n := n
  · cases member
  rw [recent_succ_concat]
  have length := List.length_erase_add_one member
  rw [(nodup_recent _ uses).erase_eq_filter] at length
  have one : ((recent (n + 1) uses).filter fun other => !decide (other = key)).length + 1 =
      (recent (n + 1) uses).length := length
  by_cases short : (recent (n + 1) uses).length < n + 1
  · have all : (order uses).drop (n + 1) = [] := by
      apply List.drop_of_length_le
      rw [order_of_short short]
      omega
    rw [all, List.filter_nil, List.append_nil, List.take_of_length_le (by omega)]
  · have bounded := length_recent_le (n + 1) uses
    rw [List.take_left' (by omega)]

/-- A use of any other key pushes out all but the `n - 1` most recently used ones. -/
theorem recent_concat_of_notMem (positive : 1 ≤ n) (new : key ∉ recent n uses) :
    recent n (uses ++ [key]) = key :: (recent n uses).take (n - 1) := by
  obtain _ | n := n
  · omega
  have kept : (recent (n + 1) uses).filter (fun other => !decide (other = key)) = recent (n + 1) uses := by
    apply List.filter_eq_self.2
    intro other member
    have apart : other ≠ key := fun same => new (same ▸ member)
    simp [apart]
  rw [recent_succ_concat, kept]
  by_cases short : (recent (n + 1) uses).length < n + 1
  · have all : (order uses).drop (n + 1) = [] := by
      apply List.drop_of_length_le
      rw [order_of_short short]
      omega
    rw [all, List.filter_nil, List.append_nil]
    rfl
  · rw [List.take_append_of_le_length (by omega)]
    rfl

/-- The keys that a use of any other key pushes out. -/
theorem pushed_out (positive : 1 ≤ n) (new : key ∉ recent n uses) :
    (recent n uses).filter (fun other => !decide (other ∈ recent n (uses ++ [key]))) =
      (recent n uses).drop (n - 1) := by
  have distinct := nodup_recent n uses
  have apart : ∀ other ∈ recent n uses, other ≠ key := fun other member same => new (same ▸ member)
  rw [recent_concat_of_notMem positive new]
  conv_lhs => rw [← List.take_append_drop (n - 1) (recent n uses)]
  rw [← List.take_append_drop (n - 1) (recent n uses)] at distinct
  rw [List.filter_append]
  have stays : ((recent n uses).take (n - 1)).filter (fun other =>
      !decide (other ∈ key :: (recent n uses).take (n - 1))) = [] := by
    apply List.filter_eq_nil_iff.2
    intro other member
    simp [member]
  have leaves : ((recent n uses).drop (n - 1)).filter (fun other =>
      !decide (other ∈ key :: (recent n uses).take (n - 1))) = (recent n uses).drop (n - 1) := by
    apply List.filter_eq_self.2
    intro other member
    have gone : other ∉ (recent n uses).take (n - 1) := fun kept =>
      (List.nodup_append.1 distinct).2.2 other kept other member rfl
    simp [gone, apart other (List.mem_of_mem_drop member)]
  rw [List.take_append_drop, stays, leaves, List.nil_append]

end Bounded

end Recency
