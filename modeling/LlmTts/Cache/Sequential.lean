import LlmTts.Cache.LruModelCache
import LlmTts.Lib.Recency

/-!
# One call after another

`get_or_load` and `preload` of `model_cache.py`, run one after the other, with
the callbacks each call runs. The reference knows no entries and no order: it has
the list of the successful uses so far, and reads off what is resident, what a
call returns and what it evicts. `refines_recency` says that the cache gives the
same answers.
-/

namespace LlmTts

/-- The arguments of `get_or_load`, with what its callbacks do: whether the
validator, if one is given, succeeds, and the model of the loader unless it raises. -/
structure LoadCall (K M : Type) where
  key : K
  validator : Option Bool
  loader : Option M
  unloader : Bool
  deriving DecidableEq, Repr

/-- A callback that the cache runs. -/
inductive Callback (M : Type) where
  | validator
  | loader
  | unloader (model : M)
  deriving DecidableEq, Repr

inductive LoadResult (M : Type) where
  | returned (model : M)
  | validatorRaised
  | loaderRaised
  deriving DecidableEq, Repr

/-- The result of a call, and the callbacks it ran, in order. -/
structure LoadAnswer (M : Type) where
  result : LoadResult M
  callbacks : List (Callback M)
  deriving DecidableEq, Repr

/-- The callbacks before the loader: the validator, if one is given. -/
def LoadCall.validated {K M : Type} (call : LoadCall K M) : List (Callback M) :=
  if call.validator.isSome then [.validator] else []

namespace Callback

variable {M : Type}

/-- The model that a callback is given to unload. -/
def unloaded? : Callback M → Option M
  | unloader model => some model
  | validator | loader => none

end Callback

/-- The models that a call passed to their unloaders, in order. -/
def LoadAnswer.unloads {M : Type} (answer : LoadAnswer M) : List M :=
  answer.callbacks.filterMap Callback.unloaded?

theorem LoadCall.unloads_validated {K M : Type} (call : LoadCall K M) :
    call.validated.filterMap Callback.unloaded? = [] := by
  unfold LoadCall.validated
  split
  · rfl
  · rfl

/-- A call of the cache. -/
inductive CacheOp (K M : Type) where
  | getOrLoad (call : LoadCall K M)
  | preload (call : LoadCall K M)
  deriving DecidableEq, Repr

namespace CacheOp

variable {K M : Type}

def call : CacheOp K M → LoadCall K M
  | getOrLoad call | preload call => call

end CacheOp

namespace LoadResult

variable {M : Type}

/-- The call returns. -/
def Ok : LoadResult M → Prop
  | returned _ => True
  | validatorRaised | loaderRaised => False

end LoadResult

/-! ## The cache -/

namespace LRUModelCache

variable {K M : Type}

/-- `loaded_keys`. -/
def loadedKeys (cache : LRUModelCache K M) : List K := cache.entries.keys.reverse

/-- `__len__`. -/
def len (cache : LRUModelCache K M) : Nat := cache.entries.items.length

theorem loadedKeys_inserted {cache : LRUModelCache K M} {key : K} {entry : CacheEntry M}
    (new : key ∉ cache.entries.keys) :
    (cache.inserted key entry new).loadedKeys = key :: cache.loadedKeys.take (cache.maxSize - 1) := by
  have all : (cache.entries.append key entry new).items.map Prod.fst =
      cache.entries.items.map Prod.fst ++ [key] := by
    simp [OrderedDict.append]
  have length : (cache.entries.append key entry new).items.length = cache.entries.items.length + 1 := by
    simp [OrderedDict.append]
  have bounded := cache.bounded
  obtain ⟨n, size⟩ := Nat.exists_eq_add_of_le' cache.positive
  unfold loadedKeys inserted OrderedDict.keys
  rw [OrderedDict.trim_eq_drop, List.map_drop, List.reverse_drop, all, length, List.reverse_append,
    List.reverse_singleton, List.singleton_append, List.length_append, List.length_singleton,
    List.length_map, size, Nat.add_sub_cancel, ← List.take_succ_cons, List.take_eq_take_iff,
    List.length_cons, List.length_reverse, List.length_map]
  omega

variable [DecidableEq K]

/-- `get_or_load`. What an unloader raises is logged and dropped. -/
def getOrLoad (cache : LRUModelCache K M) (call : LoadCall K M) : LoadAnswer M × LRUModelCache K M :=
  match cache.tryHit call.key with
  | some (model, after) => (⟨.returned model, []⟩, after)
  | none =>
    if call.validator = some false then (⟨.validatorRaised, [.validator]⟩, cache)
    else
      match call.loader with
      | none => (⟨.loaderRaised, call.validated ++ [.loader]⟩, cache)
      | some loaded =>
        let installed := cache.install call.key loaded call.unloader
        (⟨.returned installed.1, call.validated ++ .loader :: installed.2.2.map .unloader⟩, installed.2.1)

/-- `preload`. -/
def preload (cache : LRUModelCache K M) (call : LoadCall K M) : LoadAnswer M × LRUModelCache K M :=
  cache.getOrLoad call

def exec (cache : LRUModelCache K M) : CacheOp K M → LoadAnswer M × LRUModelCache K M
  | .getOrLoad call => cache.getOrLoad call
  | .preload call => cache.preload call

/-- The answers to a sequence of calls, and the cache after them. -/
def run (cache : LRUModelCache K M) : List (CacheOp K M) → List (LoadAnswer M) × LRUModelCache K M
  | [] => ([], cache)
  | op :: ops =>
    let first := cache.exec op
    let rest := first.2.run ops
    (first.1 :: rest.1, rest.2)

end LRUModelCache

/-! ## The reference -/

/-- A successful use of a key: the entry it loaded, or none for a hit. -/
structure KeyUse (K M : Type) where
  key : K
  load : Option (CacheEntry M)

namespace KeyUse

variable {K M : Type} [DecidableEq K]

/-- The entry of the latest load of a key. -/
def latest (uses : List (KeyUse K M)) (key : K) : Option (CacheEntry M) :=
  uses.reverse.findSome? fun use => if use.key = key then use.load else none

/-- The `n` most recently used distinct keys, the most recent first. -/
def resident (n : Nat) (uses : List (KeyUse K M)) : List K := Recency.recent n (uses.map (·.key))

/-- What the cache has for a key: the latest load, if the key is resident. -/
def lookup (n : Nat) (uses : List (KeyUse K M)) (key : K) : Option (CacheEntry M) :=
  if key ∈ resident n uses then latest uses key else none

/-- The keys that are no longer resident after another use, the least recently used first. -/
def evicted (n : Nat) (uses : List (KeyUse K M)) (next : KeyUse K M) : List K :=
  ((resident n uses).filter fun key => !decide (key ∈ resident n (uses ++ [next]))).reverse

/-- The models of evicted entries that have an unloader. -/
def unloaded (n : Nat) (uses : List (KeyUse K M)) (next : KeyUse K M) : List M :=
  (((evicted n uses next).filterMap (latest uses)).filter (·.unloader)).map (·.model)

/-- A call on the uses before it. -/
def exec (n : Nat) (uses : List (KeyUse K M)) (op : CacheOp K M) : LoadAnswer M × List (KeyUse K M) :=
  match lookup n uses op.call.key with
  | some entry => (⟨.returned entry.model, []⟩, uses ++ [⟨op.call.key, none⟩])
  | none =>
    if op.call.validator = some false then (⟨.validatorRaised, [.validator]⟩, uses)
    else
      match op.call.loader with
      | none => (⟨.loaderRaised, op.call.validated ++ [.loader]⟩, uses)
      | some model =>
        let use : KeyUse K M := ⟨op.call.key, some ⟨model, op.call.unloader⟩⟩
        (⟨.returned model, op.call.validated ++ .loader :: (unloaded n uses use).map .unloader⟩, uses ++ [use])

/-- The answers to a sequence of calls, and the uses after them. -/
def run (n : Nat) (uses : List (KeyUse K M)) : List (CacheOp K M) → List (LoadAnswer M) × List (KeyUse K M)
  | [] => ([], uses)
  | op :: ops =>
    let first := exec n uses op
    let rest := run n first.2 ops
    (first.1 :: rest.1, rest.2)

theorem latest_concat (uses : List (KeyUse K M)) (next : KeyUse K M) (key : K) :
    latest (uses ++ [next]) key =
      (if next.key = key then next.load else none).or (latest uses key) := by
  unfold latest
  rw [List.reverse_append, List.reverse_singleton, List.singleton_append, List.findSome?_cons]
  cases (if next.key = key then next.load else none) with
  | none => rfl
  | some entry => rfl

theorem resident_concat (n : Nat) (uses : List (KeyUse K M)) (next : KeyUse K M) :
    resident n (uses ++ [next]) = Recency.recent n (uses.map (·.key) ++ [next.key]) := by
  unfold resident
  rw [List.map_append, List.map_singleton]

end KeyUse

/-! ## The refinement -/

/-- The cache holds the resident keys in their order, each with its latest load. -/
structure LRUModelCache.Represents {K M : Type} [DecidableEq K] (cache : LRUModelCache K M)
    (uses : List (KeyUse K M)) : Prop where
  keys : cache.loadedKeys = KeyUse.resident cache.maxSize uses
  entries : ∀ item ∈ cache.entries.items, KeyUse.latest uses item.1 = some item.2

namespace LRUModelCache

variable {K M : Type} [DecidableEq K] {cache : LRUModelCache K M} {uses : List (KeyUse K M)} {key : K}

theorem Represents.mem_resident (represents : cache.Represents uses) :
    key ∈ cache.entries.keys ↔ key ∈ KeyUse.resident cache.maxSize uses := by
  rw [← represents.keys, loadedKeys, List.mem_reverse]

theorem Represents.get?_eq (represents : cache.Represents uses) :
    cache.entries.get? key = KeyUse.lookup cache.maxSize uses key := by
  unfold KeyUse.lookup
  cases found : cache.entries.get? key with
  | some entry =>
    have member := OrderedDict.mem_of_get? found
    have present : key ∈ KeyUse.resident cache.maxSize uses :=
      represents.mem_resident.1 (List.mem_map.2 ⟨_, member, rfl⟩)
    rw [if_pos present, represents.entries _ member]
  | none =>
    have absent := OrderedDict.get?_eq_none_iff.1 found
    rw [if_neg (mt represents.mem_resident.2 absent)]

/-- A hit moves its key to the front, and loads nothing. -/
theorem Represents.touch (represents : cache.Represents uses) (present : key ∈ cache.entries.keys) :
    (cache.touch key).Represents (uses ++ [⟨key, none⟩]) := by
  have recent := represents.mem_resident.1 present
  constructor
  · have moved : (cache.touch key).loadedKeys =
        key :: (cache.loadedKeys).filter fun other => !decide (other = key) := by
      unfold loadedKeys LRUModelCache.touch
      rw [OrderedDict.keys_moveToEnd present, List.reverse_append, List.reverse_singleton,
        List.singleton_append, List.filter_reverse]
    rw [moved, represents.keys, KeyUse.resident_concat]
    exact (Recency.recent_concat_of_mem recent).symm
  · intro item member
    have before := represents.entries item (((cache.entries.moveToEnd_perm key).mem_iff).1 member)
    rw [KeyUse.latest_concat, before]
    simp only [ite_self, Option.none_or]

section Insert

variable {entry : CacheEntry M}

/-- A load puts its key first, and pushes out the least recently used key of a full cache. -/
theorem Represents.inserted (represents : cache.Represents uses) (new : key ∉ cache.entries.keys) :
    (cache.inserted key entry new).Represents (uses ++ [⟨key, some entry⟩]) := by
  have absent := mt represents.mem_resident.2 new
  constructor
  · rw [loadedKeys_inserted new, represents.keys, KeyUse.resident_concat]
    exact (Recency.recent_concat_of_notMem cache.positive absent).symm
  · intro item member
    rw [KeyUse.latest_concat]
    have all : item ∈ (cache.entries.append key entry new).items :=
      OrderedDict.mem_trim_or_popped.2 (.inr member)
    rcases List.mem_append.1 all with old | last
    · have apart : key ≠ item.1 := by
        intro same
        rw [same] at new
        exact new (List.mem_map.2 ⟨item, old, rfl⟩)
      rw [if_neg apart, Option.none_or]
      exact represents.entries item old
    · rw [List.mem_singleton.1 last, if_pos rfl]
      rfl

/-- The popped entries are the latest loads of the keys that are pushed out. -/
theorem Represents.evicted (represents : cache.Represents uses) (new : key ∉ cache.entries.keys) :
    cache.evicted key entry new =
      (KeyUse.evicted cache.maxSize uses ⟨key, some entry⟩).filterMap (KeyUse.latest uses) := by
  have absent := mt represents.mem_resident.2 new
  have positive := cache.positive
  have keys : KeyUse.evicted cache.maxSize uses ⟨key, some entry⟩ =
      (cache.entries.items.take (cache.entries.items.length + 1 - cache.maxSize)).map Prod.fst := by
    unfold KeyUse.evicted
    rw [KeyUse.resident_concat]
    have out := Recency.pushed_out positive absent
    unfold KeyUse.resident at out ⊢
    rw [out]
    have resident := represents.keys
    unfold KeyUse.resident at resident
    rw [← resident, List.reverse_drop, loadedKeys, List.reverse_reverse, List.length_reverse,
      OrderedDict.keys, List.length_map, List.map_take]
    congr 1
    omega
  have values : cache.evicted key entry new =
      (cache.entries.items.take (cache.entries.items.length + 1 - cache.maxSize)).map Prod.snd := by
    unfold LRUModelCache.evicted
    rw [OrderedDict.popped_eq_take]
    have front : (cache.entries.append key entry new).items = cache.entries.items ++ [(key, entry)] := rfl
    rw [front, List.length_append, List.length_singleton, List.take_append_of_le_length (by omega)]
  rw [keys, values, List.filterMap_map, ← List.filterMap_eq_map]
  apply List.filterMap_congr
  intro item member
  exact (represents.entries item (List.mem_of_mem_take member)).symm

end Insert

/-! ## Runs -/

theorem exec_eq (cache : LRUModelCache K M) (op : CacheOp K M) : cache.exec op = cache.getOrLoad op.call := by
  cases op with
  | getOrLoad call => rfl
  | preload call => rfl

/-- One call: the cache answers as the reference does. -/
theorem Represents.exec (represents : cache.Represents uses) (op : CacheOp K M) :
    (cache.exec op).1 = (KeyUse.exec cache.maxSize uses op).1 ∧
      (cache.exec op).2.Represents (KeyUse.exec cache.maxSize uses op).2 ∧
      (cache.exec op).2.maxSize = cache.maxSize := by
  have got : cache.entries.get? op.call.key = KeyUse.lookup cache.maxSize uses op.call.key := represents.get?_eq
  rw [exec_eq, getOrLoad, tryHit, KeyUse.exec, ← got]
  cases found : cache.entries.get? op.call.key with
  | some entry =>
    have present : op.call.key ∈ cache.entries.keys :=
      List.mem_map.2 ⟨_, OrderedDict.mem_of_get? found, rfl⟩
    exact ⟨rfl, represents.touch present, rfl⟩
  | none =>
    have new := OrderedDict.get?_eq_none_iff.1 found
    simp only [Option.map_none]
    split
    · exact ⟨rfl, represents, rfl⟩
    · cases op.call.loader with
      | none => exact ⟨rfl, represents, rfl⟩
      | some model =>
        simp only [install_of_new new, represents.evicted new, KeyUse.unloaded]
        exact ⟨trivial, represents.inserted new, rfl⟩

/-- A call that raises leaves the cache as it was. -/
theorem exec_raised (cache : LRUModelCache K M) (op : CacheOp K M) (raised : ¬(cache.exec op).1.result.Ok) :
    (cache.exec op).2 = cache := by
  rw [exec_eq, getOrLoad] at raised ⊢
  cases hit : cache.tryHit op.call.key with
  | some found =>
    rw [hit] at raised
    exact absurd trivial raised
  | none =>
    simp only [hit] at raised ⊢
    split at raised
    · rename_i rejected
      rw [if_pos rejected]
    · rename_i passed
      rw [if_neg passed]
      cases loaded : op.call.loader with
      | none => rfl
      | some model =>
        rw [loaded] at raised
        exact absurd trivial raised

/-- A hit returns what the key's latest load returned, and runs no callback. -/
theorem Represents.exec_hit (represents : cache.Represents uses) {op : CacheOp K M}
    (present : op.call.key ∈ cache.loadedKeys) :
    ∃ entry, KeyUse.latest uses op.call.key = some entry ∧
      (cache.exec op).1 = ⟨.returned entry.model, []⟩ := by
  rw [loadedKeys, List.mem_reverse] at present
  obtain ⟨item, member, same⟩ := List.mem_map.1 present
  have latest := represents.entries item member
  rw [same] at latest
  refine ⟨item.2, latest, ?_⟩
  have resident := represents.mem_resident.1 present
  rw [(represents.exec op).1, KeyUse.exec, KeyUse.lookup, if_pos resident, latest]

/-- A call unloads the entries that it evicts, each once. -/
theorem Represents.exec_unloads (represents : cache.Represents uses) (op : CacheOp K M) :
    (cache.exec op).1.unloads =
      (((cache.loadedKeys.filter fun key => !decide (key ∈ (cache.exec op).2.loadedKeys)).reverse.filterMap
        (KeyUse.latest uses)).filter (·.unloader)).map (·.model) := by
  obtain ⟨answer, after, size⟩ := represents.exec op
  rw [answer, after.keys, represents.keys, size]
  -- no key leaves unless the call loads a model
  have stays : ∀ {later : List (KeyUse K M)},
      (∀ key ∈ KeyUse.resident cache.maxSize uses, key ∈ KeyUse.resident cache.maxSize later) →
      (KeyUse.resident cache.maxSize uses).filter
        (fun key => !decide (key ∈ KeyUse.resident cache.maxSize later)) = [] := by
    intro later all
    apply List.filter_eq_nil_iff.2
    intro key member
    simp [all key member]
  unfold KeyUse.exec
  cases found : KeyUse.lookup cache.maxSize uses op.call.key with
  | some entry =>
    have resident : op.call.key ∈ KeyUse.resident cache.maxSize uses := by
      unfold KeyUse.lookup at found
      split at found
      · assumption
      · cases found
    rw [stays]
    · rfl
    · intro key member
      rw [KeyUse.resident_concat, Recency.recent_concat_of_mem resident, List.mem_cons, List.mem_filter]
      by_cases same : key = op.call.key
      · exact .inl same
      · exact .inr ⟨member, by simp [same]⟩
  | none =>
    simp only
    split
    · rw [stays fun _ member => member]
      rfl
    · cases op.call.loader with
      | none =>
        rw [stays fun _ member => member]
        simp [LoadAnswer.unloads, LoadCall.unloads_validated, Callback.unloaded?]
      | some model =>
        simp only [LoadAnswer.unloads, List.filterMap_append, LoadCall.unloads_validated, List.nil_append,
          List.filterMap_cons, Callback.unloaded?, List.filterMap_map]
        exact List.filterMap_some

theorem Represents.run (represents : cache.Represents uses) (ops : List (CacheOp K M)) :
    (cache.run ops).1 = (KeyUse.run cache.maxSize uses ops).1 ∧
      (cache.run ops).2.Represents (KeyUse.run cache.maxSize uses ops).2 ∧
      (cache.run ops).2.maxSize = cache.maxSize := by
  induction ops generalizing cache uses with
  | nil => exact ⟨rfl, represents, rfl⟩
  | cons op ops ih =>
    obtain ⟨answer, next, size⟩ := represents.exec op
    obtain ⟨answers, last, sizes⟩ := ih next
    rw [size] at answers last sizes
    refine ⟨?_, last, sizes⟩
    show _ :: _ = _ :: _
    rw [answer, answers]

/-- **The cache is the list of the most recently used keys.** After any calls, it
has given the answers of the reference; it has at most `max_size` keys, and they are
the most recently used ones, most recent first; a hit returns the key's latest load
and runs no callback; a call unloads exactly what it evicts; and a call that raises
changes nothing. -/
theorem refines_recency {maxSize : Nat} (positive : 1 ≤ maxSize) (ops : List (CacheOp K M)) :
    ∃ cache : LRUModelCache K M, create maxSize = some cache ∧
      let after := (cache.run ops).2
      let uses := (KeyUse.run maxSize [] ops).2
      (cache.run ops).1 = (KeyUse.run maxSize [] ops).1 ∧
      after.len ≤ maxSize ∧
      after.loadedKeys = Recency.recent maxSize (uses.map (·.key)) ∧
      (∀ op : CacheOp K M, op.call.key ∈ after.loadedKeys →
        ∃ entry, KeyUse.latest uses op.call.key = some entry ∧
          (after.exec op).1 = ⟨.returned entry.model, []⟩) ∧
      (∀ op : CacheOp K M, (after.exec op).1.unloads =
        (((after.loadedKeys.filter fun key => !decide (key ∈ (after.exec op).2.loadedKeys)).reverse.filterMap
          (KeyUse.latest uses)).filter (·.unloader)).map (·.model)) ∧
      ∀ op : CacheOp K M, ¬(after.exec op).1.result.Ok → (after.exec op).2 = after := by
  refine ⟨⟨maxSize, positive, .empty, Nat.zero_le _⟩, dif_pos positive, ?_⟩
  intro after uses
  have start : (⟨maxSize, positive, .empty, Nat.zero_le _⟩ : LRUModelCache K M).Represents [] := by
    constructor
    · exact (Recency.recent_nil maxSize).symm
    · intro item member
      cases member
  obtain ⟨answers, represents, size⟩ := start.run ops
  have bounded : after.len ≤ after.maxSize := after.bounded
  have keys := represents.keys
  rw [size] at keys bounded
  exact ⟨answers, bounded, keys, fun op => represents.exec_hit, represents.exec_unloads, exec_raised after⟩

/-- A warm-up, a failed validation, a hit, and a load that evicts: three keys on a
cache of size 2. -/
def warmAndEvict : List (CacheOp (String × String) Nat) :=
  [.preload ⟨("mlx", "a"), some true, some 0, true⟩, .getOrLoad ⟨("mlx", "b"), none, some 1, true⟩,
    .getOrLoad ⟨("mlx", "c"), some false, some 2, true⟩, .getOrLoad ⟨("mlx", "a"), some true, some 3, false⟩,
    .getOrLoad ⟨("mlx", "c"), some true, some 4, true⟩]

theorem warmAndEvict_refines : ∃ cache : LRUModelCache (String × String) Nat, create 2 = some cache ∧
    (cache.run warmAndEvict).1 = (KeyUse.run 2 [] warmAndEvict).1 ∧
      (cache.run warmAndEvict).2.len ≤ 2 := by
  obtain ⟨cache, created, answers, bounded, -⟩ := refines_recency (by decide : 1 ≤ 2) warmAndEvict
  exact ⟨cache, created, answers, bounded⟩

end LRUModelCache

end LlmTts
