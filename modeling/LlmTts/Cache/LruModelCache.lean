import LlmTts.Lib.OrderedDict

/-!
# The model cache

`LRUModelCache` of `model_cache.py`. `_try_hit` and `_install` are the two
critical sections of `get_or_load`; validating, loading and unloading happen
outside the lock.
-/

namespace LlmTts

/-- `_CacheEntry`. `unloader` says whether a teardown callback was registered. -/
structure CacheEntry (M : Type) where
  model : M
  unloader : Bool
  deriving DecidableEq, Repr

/-- `LRUModelCache`: at most `maxSize` entries, least recently used first. -/
structure LRUModelCache (K M : Type) where
  maxSize : Nat
  positive : 1 ≤ maxSize
  entries : OrderedDict K (CacheEntry M)
  bounded : entries.items.length ≤ maxSize

namespace LRUModelCache

variable {K M : Type}

/-- `LRUModelCache(max_size)`; a size below 1 raises. -/
def create (maxSize : Nat) : Option (LRUModelCache K M) :=
  if positive : 1 ≤ maxSize then some ⟨maxSize, positive, .empty, Nat.zero_le _⟩ else none

/-- The models in the cache. -/
def models (cache : LRUModelCache K M) : List M := cache.entries.values.map (·.model)

theorem mem_models {cache : LRUModelCache K M} {m : M} :
    m ∈ cache.models ↔ ∃ item ∈ cache.entries.items, item.2.model = m := by
  simp only [models, OrderedDict.values, List.map_map, List.mem_map, Function.comp_apply]

/-! ## Insertion -/

/-- What `_install` does to the entries when the key is new: the entry is
appended, and the overflow is popped. -/
def inserted (cache : LRUModelCache K M) (key : K) (entry : CacheEntry M)
    (new : key ∉ cache.entries.keys) : LRUModelCache K M where
  maxSize := cache.maxSize
  positive := cache.positive
  entries := (cache.entries.append key entry new).trim cache.maxSize
  bounded := by rw [OrderedDict.trim_length]; exact Nat.min_le_left _ _

/-- The entries `_install` pops for a new key. -/
def evicted (cache : LRUModelCache K M) (key : K) (entry : CacheEntry M)
    (new : key ∉ cache.entries.keys) : List (CacheEntry M) :=
  ((cache.entries.append key entry new).popped cache.maxSize).map Prod.snd

section Insert

variable {cache : LRUModelCache K M} {key : K} {entry : CacheEntry M}
  {new : key ∉ cache.entries.keys}

/-- A model of the cache after an insertion is the new one or was there before. -/
theorem mem_models_inserted {m : M} (member : m ∈ (cache.inserted key entry new).models) :
    m = entry.model ∨ m ∈ cache.models := by
  obtain ⟨item, kept, rfl⟩ := mem_models.1 member
  have all : item ∈ (cache.entries.append key entry new).items :=
    OrderedDict.mem_trim_or_popped.2 (.inr kept)
  rcases List.mem_append.1 all with old | last
  · exact .inr (mem_models.2 ⟨item, old, rfl⟩)
  · exact .inl (by rw [List.mem_singleton.1 last])

theorem models_append_nodup (new : key ∉ cache.entries.keys) (distinct : cache.models.Nodup)
    (fresh : entry.model ∉ cache.models) :
    ((cache.entries.append key entry new).items.map fun item => item.2.model).Nodup := by
  have all : (cache.entries.append key entry new).items.map (fun item => item.2.model) =
      cache.models ++ [entry.model] := by
    simp [OrderedDict.append, models, OrderedDict.values]
  rw [all]
  exact List.nodup_append.2 ⟨distinct, List.nodup_singleton _, fun a member b last same => by
    rw [List.mem_singleton.1 last] at same
    exact fresh (same ▸ member)⟩

/-- An evicted model was in the cache, and is neither the new one nor there any more. -/
theorem evicted_model (distinct : cache.models.Nodup) (fresh : entry.model ∉ cache.models)
    {e : CacheEntry M} (out : e ∈ cache.evicted key entry new) :
    e.model ∈ cache.models ∧ e.model ≠ entry.model ∧
      e.model ∉ (cache.inserted key entry new).models := by
  obtain ⟨item, popped, rfl⟩ := List.mem_map.1 out
  have values := models_append_nodup new distinct fresh
  have gone : ∀ kept ∈ (cache.inserted key entry new).entries.items,
      item.2.model ≠ kept.2.model := fun kept member =>
    OrderedDict.popped_not_mem_trim (f := fun e : CacheEntry M => e.model) values popped member
  have apart : item.2.model ≠ entry.model := gone (key, entry) (OrderedDict.last_mem_trim rfl cache.positive)
  have all : item ∈ (cache.entries.append key entry new).items :=
    OrderedDict.mem_trim_or_popped.2 (.inl popped)
  refine ⟨?_, apart, fun member => ?_⟩
  · rcases List.mem_append.1 all with old | last
    · exact mem_models.2 ⟨item, old, rfl⟩
    · exact absurd (by rw [List.mem_singleton.1 last]) apart
  · obtain ⟨kept, there, same⟩ := mem_models.1 member
    exact gone kept there same.symm

theorem models_inserted_nodup (distinct : cache.models.Nodup) (fresh : entry.model ∉ cache.models) :
    (cache.inserted key entry new).models.Nodup := by
  have values := models_append_nodup new distinct fresh
  rw [← OrderedDict.popped_append_trim _ cache.maxSize, List.map_append] at values
  have kept := (List.nodup_append.1 values).2.1
  rw [models, OrderedDict.values, List.map_map]
  exact kept

end Insert

/-! ## The critical sections -/

variable [DecidableEq K]

/-- The entry that inserting a new key evicts: the least recently used one of a
full cache. -/
def victim (cache : LRUModelCache K M) (key : K) : Option (CacheEntry M) :=
  if key ∈ cache.entries.keys ∨ cache.entries.items.length < cache.maxSize then none
  else cache.entries.items.head?.map Prod.snd

theorem victim_of_evicted {cache : LRUModelCache K M} {key : K} {entry e : CacheEntry M}
    {new : key ∉ cache.entries.keys} (out : e ∈ cache.evicted key entry new) :
    cache.victim key = some e := by
  unfold evicted at out
  rw [OrderedDict.popped_eq_take] at out
  have bounded := cache.bounded
  have positive := cache.positive
  simp only [OrderedDict.append, List.length_append, List.length_singleton] at out
  by_cases room : cache.entries.items.length < cache.maxSize
  · have nothing : cache.entries.items.length + 1 - cache.maxSize = 0 := by omega
    rw [nothing] at out
    cases out
  · have one : cache.entries.items.length + 1 - cache.maxSize = 1 := by omega
    rw [one] at out
    rw [victim, if_neg (not_or.2 ⟨new, room⟩)]
    cases items : cache.entries.items with
    | nil =>
      rw [items] at room
      exact absurd (Nat.lt_of_lt_of_le Nat.zero_lt_one positive) room
    | cons first rest =>
      rw [items] at out
      have same : e = first.2 := by simpa using out
      rw [same]
      rfl

/-- Mark a key as the most recently used one. -/
def touch (cache : LRUModelCache K M) (key : K) : LRUModelCache K M where
  maxSize := cache.maxSize
  positive := cache.positive
  entries := cache.entries.moveToEnd key
  bounded := by rw [OrderedDict.moveToEnd_length]; exact cache.bounded

/-- `_try_hit`. -/
def tryHit (cache : LRUModelCache K M) (key : K) : Option (M × LRUModelCache K M) :=
  (cache.entries.get? key).map fun entry => (entry.model, cache.touch key)

/-- The critical section of `_install`: the model to return, the cache, and the
models whose unloaders are to be called, in order. -/
def install (cache : LRUModelCache K M) (key : K) (model : M) (unloader : Bool) :
    M × LRUModelCache K M × List M :=
  match found : cache.entries.get? key with
  | some existing => (existing.model, cache.touch key, [])
  | none =>
    have new := OrderedDict.get?_eq_none_iff.1 found
    (model, cache.inserted key ⟨model, unloader⟩ new,
      ((cache.evicted key ⟨model, unloader⟩ new).filter (·.unloader)).map (·.model))

/-- For a present key `_install` adopts the entry, and the new model is dropped. -/
theorem install_of_mem (cache : LRUModelCache K M) {key : K} (model : M) (unloader : Bool)
    (present : key ∈ cache.entries.keys) :
    ∃ m ∈ cache.models, cache.install key model unloader = (m, cache.touch key, []) := by
  unfold install
  split
  · rename_i existing found
    exact ⟨existing.model, mem_models.2 ⟨(key, existing), OrderedDict.mem_of_get? found, rfl⟩, rfl⟩
  · rename_i found
    exact absurd present (OrderedDict.get?_eq_none_iff.1 found)

theorem install_of_new {cache : LRUModelCache K M} {key : K} {model : M} {unloader : Bool}
    (new : key ∉ cache.entries.keys) : cache.install key model unloader =
      (model, cache.inserted key ⟨model, unloader⟩ new,
        ((cache.evicted key ⟨model, unloader⟩ new).filter (·.unloader)).map (·.model)) := by
  unfold install
  split
  · rename_i existing found
    exact absurd (List.mem_map.2 ⟨_, OrderedDict.mem_of_get? found, rfl⟩) new
  · rfl

theorem models_touch_perm (cache : LRUModelCache K M) (key : K) :
    (cache.touch key).models.Perm cache.models :=
  ((cache.entries.moveToEnd_perm key).map Prod.snd).map _

theorem mem_models_touch {cache : LRUModelCache K M} {key : K} {m : M} :
    m ∈ (cache.touch key).models ↔ m ∈ cache.models :=
  (cache.models_touch_perm key).mem_iff

/-- A hit returns a model of the cache. -/
theorem tryHit_some {cache after : LRUModelCache K M} {key : K} {m : M}
    (hit : cache.tryHit key = some (m, after)) : m ∈ cache.models ∧ after = cache.touch key := by
  obtain ⟨entry, found, same⟩ := Option.map_eq_some_iff.1 hit
  cases same
  exact ⟨mem_models.2 ⟨(key, entry), OrderedDict.mem_of_get? found, rfl⟩, rfl⟩

end LRUModelCache

end LlmTts
