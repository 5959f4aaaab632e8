import Mathlib.Data.List.Nodup
import Mathlib.Data.List.Perm.Basic

/-!
# Ordered dictionaries

A dictionary that remembers the order of its keys, oldest first. A key can be
moved to the end, a new one is appended, and the oldest items can be popped until
at most `n` are left.
-/

/-- Items with distinct keys, oldest first. -/
structure OrderedDict (K V : Type) where
  items : List (K × V)
  distinct : (items.map Prod.fst).Nodup

namespace OrderedDict

variable {K V : Type}

def empty : OrderedDict K V := ⟨[], List.nodup_nil⟩

def keys (d : OrderedDict K V) : List K := d.items.map Prod.fst

def values (d : OrderedDict K V) : List V := d.items.map Prod.snd

@[simp] theorem empty_items : (empty : OrderedDict K V).items = [] := rfl

section Lookup

variable [DecidableEq K]

/-- The value of a key. -/
def get? (d : OrderedDict K V) (key : K) : Option V :=
  (d.items.find? fun item => item.1 = key).map Prod.snd

/-- What is found is an item. -/
theorem mem_of_get? {d : OrderedDict K V} {key : K} {v : V} (found : d.get? key = some v) :
    (key, v) ∈ d.items := by
  obtain ⟨⟨k, w⟩, first, rfl⟩ := Option.map_eq_some_iff.1 found
  have same : k = key := by simpa using List.find?_some first
  exact same ▸ List.mem_of_find?_eq_some first

/-- A key is not found exactly if it is not there. -/
theorem get?_eq_none_iff {d : OrderedDict K V} {key : K} : d.get? key = none ↔ key ∉ d.keys := by
  unfold get? keys
  simp only [Option.map_eq_none_iff, List.find?_eq_none, List.mem_map, not_exists, not_and,
    decide_eq_true_eq]

/-- `d.move_to_end(key)`. -/
def moveToEnd (d : OrderedDict K V) (key : K) : OrderedDict K V where
  items := d.items.filter (fun item => !decide (item.1 = key)) ++
    d.items.filter fun item => decide (item.1 = key)
  distinct := by
    have perm := List.perm_append_comm.trans (List.filter_append_perm (fun item => decide (item.1 = key)) d.items)
    exact (perm.map Prod.fst).nodup_iff.2 d.distinct

/-- A move to the end keeps the items. -/
theorem moveToEnd_perm (d : OrderedDict K V) (key : K) : (d.moveToEnd key).items.Perm d.items :=
  List.perm_append_comm.trans (List.filter_append_perm _ _)

theorem moveToEnd_length (d : OrderedDict K V) (key : K) :
    (d.moveToEnd key).items.length = d.items.length :=
  (d.moveToEnd_perm key).length_eq

/-- Moving a key to the end takes it out of its place and puts it behind all others. -/
theorem keys_moveToEnd {d : OrderedDict K V} {key : K} (member : key ∈ d.keys) :
    (d.moveToEnd key).keys = d.keys.filter (fun other => !decide (other = key)) ++ [key] := by
  have one : d.keys.filter (fun other => decide (other = key)) = [key] := by
    rw [List.filter_eq]
    exact congrArg (List.replicate · key) (List.count_eq_one_of_mem d.distinct member)
  rw [← one]
  unfold keys moveToEnd
  rw [List.map_append, List.filter_map, List.filter_map]
  rfl

end Lookup

/-- `d[key] = value` for a new key. -/
def append (d : OrderedDict K V) (key : K) (value : V) (new : key ∉ d.keys) : OrderedDict K V where
  items := d.items ++ [(key, value)]
  distinct := by
    rw [List.map_append]
    exact List.nodup_append.2 ⟨d.distinct, List.nodup_singleton _, fun a member b last same => by
      rw [List.mem_singleton.1 last] at same
      rw [same] at member
      exact new member⟩

/-- `while len(d) > n: d.popitem(last=False)`: what is left, and what was popped. -/
def popOverflow (n : Nat) : List (K × V) → List (K × V) × List (K × V)
  | [] => ([], [])
  | item :: items =>
    if n < (item :: items).length then
      ((popOverflow n items).1, item :: (popOverflow n items).2)
    else (item :: items, [])

/-- What is popped was in front of what is left. -/
theorem popOverflow_append (n : Nat) (items : List (K × V)) :
    (popOverflow n items).2 ++ (popOverflow n items).1 = items := by
  induction items with
  | nil => rfl
  | cons item items ih =>
    unfold popOverflow
    split
    · exact congrArg (item :: ·) ih
    · rfl

theorem popOverflow_length (n : Nat) (items : List (K × V)) :
    (popOverflow n items).1.length = min n items.length := by
  induction items with
  | nil => simp [popOverflow]
  | cons item items ih =>
    unfold popOverflow
    split
    · rename_i longer
      rw [ih]
      simp only [List.length_cons] at longer ⊢
      omega
    · rename_i fits
      simp only [List.length_cons] at fits ⊢
      omega

/-- Pop the oldest items until at most `n` are left. -/
def trim (d : OrderedDict K V) (n : Nat) : OrderedDict K V where
  items := (popOverflow n d.items).1
  distinct := by
    have all := d.distinct
    rw [← popOverflow_append n d.items, List.map_append] at all
    exact (List.nodup_append.1 all).2.1

/-- The items `trim` pops, oldest first. -/
def popped (d : OrderedDict K V) (n : Nat) : List (K × V) := (popOverflow n d.items).2

/-- So it is for a dictionary. -/
theorem popped_append_trim (d : OrderedDict K V) (n : Nat) :
    d.popped n ++ (d.trim n).items = d.items :=
  popOverflow_append n d.items

/-- At most the maximum is left. -/
theorem trim_length (d : OrderedDict K V) (n : Nat) :
    (d.trim n).items.length = min n d.items.length :=
  popOverflow_length n d.items

theorem popped_eq_take (d : OrderedDict K V) (n : Nat) :
    d.popped n = d.items.take (d.items.length - n) := by
  have parts := popped_append_trim d n
  have length : (d.popped n).length = d.items.length - n := by
    have total := congrArg List.length parts
    rw [List.length_append, trim_length] at total
    omega
  rw [← length]
  conv_rhs => rw [← parts]
  rw [List.take_left]

theorem trim_eq_drop (d : OrderedDict K V) (n : Nat) :
    (d.trim n).items = d.items.drop (d.items.length - n) := by
  have parts := popped_append_trim d n
  rw [popped_eq_take] at parts
  have whole := List.take_append_drop (d.items.length - n) d.items
  exact List.append_cancel_left (parts.trans whole.symm)

/-- An item is left or popped. -/
theorem mem_trim_or_popped {d : OrderedDict K V} {n : Nat} {item : K × V} :
    item ∈ d.items ↔ item ∈ d.popped n ∨ item ∈ (d.trim n).items := by
  rw [← popped_append_trim d n, List.mem_append]

/-- The newest item is not popped while one item may stay. -/
theorem last_mem_trim {d : OrderedDict K V} {n : Nat} {item : K × V} {front : List (K × V)}
    (shape : d.items = front ++ [item]) (positive : 1 ≤ n) : item ∈ (d.trim n).items := by
  have parts := popped_append_trim d n
  have long : (d.trim n).items ≠ [] := by
    intro nothing
    have length := trim_length d n
    rw [nothing, shape] at length
    simp at length
    omega
  have last : (d.popped n ++ (d.trim n).items).getLast? = some item := by
    rw [parts, shape, List.getLast?_concat]
  rw [List.getLast?_append_of_ne_nil _ long] at last
  exact List.mem_of_getLast? last

/-- Where all values differ, no popped value is still there. -/
theorem popped_not_mem_trim {d : OrderedDict K V} {n : Nat} {α : Type} {f : V → α}
    (values : (d.items.map fun item => f item.2).Nodup) {x y : K × V} (popped : x ∈ d.popped n)
    (kept : y ∈ (d.trim n).items) : f x.2 ≠ f y.2 := by
  rw [← popped_append_trim d n, List.map_append] at values
  exact (List.nodup_append.1 values).2.2 _ (List.mem_map_of_mem popped) _ (List.mem_map_of_mem kept)

end OrderedDict
