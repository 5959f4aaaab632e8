import LlmTts.Cache.Eviction
import LlmTts.Cache.Sequential
import LlmTts.Startup.Environment

/-!
# Preloading

`_get_model` and `preload` of `CachedModelProvider` on the shared cache, and the models
that a start preloads. `preloadModels_ends`: a preload of listed models fails only where
`_load_model` raises for a model that is not among the most recently used ones.
-/

namespace LlmTts
open Python Checked

/-! ## Models -/

section Models

variable {M : Type} (settings : Settings)

/-- `_validate_model`. An empty allow-list would disable the check. -/
def validateModel (key : CacheKey) : Except OpenAIHTTPException Unit :=
  let allowedModels := settings.modelAllowedForProvider key.1
  if allowedModels ≠ [] ∧ key.2 ∉ allowedModels then
    .error (invalidRequest [.text s!"model '{key.2}' is not allowed for provider '{key.1}'"] (some "model") "unknown_model")
  else .ok ()

/-- What `_get_model` hands to the shared cache. `loaded` is the model of `_load_model`,
unless it raises. -/
def getModelCall (key : CacheKey) (loaded : Option M) : LoadCall CacheKey M where
  key := key
  validator := some (validateModel settings key).isOk
  loader := loaded
  unloader := true

/-- What `preload` raises. -/
inductive PreloadFailure where
  /-- The registry or the allow-list refuses. -/
  | refused (exc : OpenAIHTTPException)
  /-- `_load_model` raised. -/
  | loader (key : CacheKey)
  deriving DecidableEq, Repr

/-- `provider.preload(model)`, for the provider that the registry has under the name. -/
def preloadModel (key : CacheKey) (loaded : Option M) (cache : LRUModelCache CacheKey M) :
    Except PreloadFailure (LRUModelCache CacheKey M) := do
  let _ ← (defaultProviderRegistry.get key.1).mapError .refused
  let answer := cache.preload (getModelCall settings key loaded)
  match answer.1.result with
  | .returned _ => return answer.2
  | .validatorRaised =>
    let _ ← (validateModel settings key).mapError .refused
    return answer.2
  | .loaderRaised => throw (.loader key)

/-- `_preload_models`, from the `i`-th load on. -/
def preloadModels (load : Nat → CacheKey → Option M) :
    Nat → List CacheKey → LRUModelCache CacheKey M → Except PreloadFailure (LRUModelCache CacheKey M)
  | _, [], cache => .ok cache
  | i, key :: keys, cache => do
    let after ← preloadModel settings key (load i key) cache
    preloadModels load (i + 1) keys after

end Models

/-! ## The allow-lists -/

section Lists

variable {settings : Settings} {provider model : String}

/-- A provider with an allow-list is registered, and the list is the one of its models. -/
theorem allowListForProvider_some {allowed : List String} (known : settings.allowListForProvider provider = some allowed) :
    provider ∈ defaultProviderRegistry.names ∧ settings.modelAllowedForProvider provider = allowed := by
  unfold Settings.allowListForProvider at known
  split at known
  · rename_i same
    cases same
    exact ⟨by decide, Option.some.inj known⟩
  · split at known
    · rename_i same
      cases same
      exact ⟨by decide, Option.some.inj known⟩
    · split at known
      · rename_i same
        cases same
        exact ⟨by decide, Option.some.inj known⟩
      · cases known

theorem lists_iff : settings.Lists provider model ↔
    provider ∈ defaultProviderRegistry.names ∧ model ∈ settings.modelAllowedForProvider provider := by
  constructor
  · rintro ⟨allowed, known, listed⟩
    obtain ⟨registered, same⟩ := allowListForProvider_some known
    exact ⟨registered, same ▸ listed⟩
  · rintro ⟨registered, listed⟩
    have names : provider = "mlx_audio" ∨ provider = "voxtral" ∨ provider = "vllm-omni" := by
      simpa [defaultProviderRegistry, TTSProviderRegistry.names] using registered
    rcases names with rfl | rfl | rfl
    · exact ⟨_, rfl, listed⟩
    · exact ⟨_, rfl, listed⟩
    · exact ⟨_, rfl, listed⟩

theorem validateModel_ok_iff {key : CacheKey} :
    validateModel settings key = .ok () ↔ key.2 ∈ settings.modelAllowedForProvider key.1 := by
  have full : settings.modelAllowedForProvider key.1 ≠ [] := List.ne_nil_of_mem (settings.default_mem key.1)
  unfold validateModel
  dsimp only
  by_cases listed : key.2 ∈ settings.modelAllowedForProvider key.1
  · rw [if_neg (not_and_of_not_right _ (not_not.2 listed))]
    exact iff_of_true rfl listed
  · rw [if_pos ⟨full, listed⟩]
    exact iff_of_false nofun listed

/-- A validator that does not raise has found the model on the allow-list. -/
theorem validates_of_valid {M : Type} {key : CacheKey} {loaded : Option M}
    (valid : (getModelCall settings key loaded).validator ≠ some false) : validateModel settings key = .ok () := by
  cases checked : validateModel settings key with
  | error exc =>
    refine absurd ?_ valid
    simp [getModelCall, checked, Except.isOk, Except.toBool]
  | ok => rfl

/-- The default model of a registered provider is listed. -/
theorem lists_default (registered : provider ∈ defaultProviderRegistry.names) :
    settings.Lists provider (settings.modelDefaultForProvider provider) :=
  lists_iff.2 ⟨registered, settings.default_mem provider⟩

end Lists

/-! ## The keys that were used -/

namespace LRUModelCache

variable {K M : Type} [DecidableEq K] {cache : LRUModelCache K M} {used : List K}

/-- The successful calls of the cache had the keys `used`. -/
def Used (cache : LRUModelCache K M) (used : List K) : Prop :=
  ∃ uses : List (KeyUse K M), cache.Represents uses ∧ uses.map (·.key) = used

theorem used_nil {maxSize : Nat} (positive : 1 ≤ maxSize) :
    (⟨maxSize, positive, .empty, Nat.zero_le _⟩ : LRUModelCache K M).Used [] := by
  refine ⟨[], ⟨(Recency.recent_nil maxSize).symm, ?_⟩, rfl⟩
  intro item member
  cases member

theorem Used.keys (warm : cache.Used used) : cache.loadedKeys = Recency.recent cache.maxSize used := by
  obtain ⟨uses, represents, rfl⟩ := warm
  exact represents.keys

end LRUModelCache

/-- How `get_or_load` ends over a cache of size `n` in which the keys `used` were used,
and the used keys after it. -/
inductive LoadEnd {K M : Type} [DecidableEq K] (n : Nat) (call : LoadCall K M) (used : List K) :
    LoadResult M → List K → Prop
  | hit (model : M) (resident : call.key ∈ Recency.recent n used) :
    LoadEnd n call used (.returned model) (used ++ [call.key])
  | refused (cold : call.key ∉ Recency.recent n used) (invalid : call.validator = some false) :
    LoadEnd n call used .validatorRaised used
  | failed (cold : call.key ∉ Recency.recent n used) (valid : call.validator ≠ some false)
    (raised : call.loader = none) : LoadEnd n call used .loaderRaised used
  | loaded (model : M) (cold : call.key ∉ Recency.recent n used) (valid : call.validator ≠ some false)
    (loads : call.loader = some model) : LoadEnd n call used (.returned model) (used ++ [call.key])

namespace LRUModelCache

variable {K M : Type} [DecidableEq K] {cache : LRUModelCache K M} {used : List K}

/-- One call of the reference, whose resident keys were all loaded. -/
theorem exec_ends {n : Nat} {uses : List (KeyUse K M)} (op : CacheOp K M)
    (loaded : op.call.key ∈ KeyUse.resident n uses → ∃ entry, KeyUse.latest uses op.call.key = some entry) :
    LoadEnd n op.call (uses.map (·.key)) (KeyUse.exec n uses op).1.result ((KeyUse.exec n uses op).2.map (·.key)) := by
  unfold KeyUse.exec KeyUse.lookup
  by_cases resident : op.call.key ∈ KeyUse.resident n uses
  · obtain ⟨entry, latest⟩ := loaded resident
    rw [if_pos resident, latest]
    simp only [List.map_append, List.map_singleton]
    exact .hit entry.model resident
  · rw [if_neg resident]
    dsimp only
    split
    · rename_i invalid
      exact .refused resident invalid
    · rename_i valid
      cases loader : op.call.loader with
      | none => exact .failed resident valid loader
      | some model =>
        simp only [List.map_append, List.map_singleton]
        exact .loaded model resident valid loader

/-- One call of a cache. -/
theorem Used.getOrLoad (warm : cache.Used used) (call : LoadCall K M) :
    ∃ after, LoadEnd cache.maxSize call used (cache.getOrLoad call).1.result after ∧
      (cache.getOrLoad call).2.Used after ∧ (cache.getOrLoad call).2.maxSize = cache.maxSize := by
  obtain ⟨uses, represents, rfl⟩ := warm
  obtain ⟨answer, next, size⟩ := represents.exec (.getOrLoad call)
  have loaded (resident : (CacheOp.getOrLoad call).call.key ∈ KeyUse.resident cache.maxSize uses) :
      ∃ entry, KeyUse.latest uses (CacheOp.getOrLoad call).call.key = some entry := by
    rw [← represents.keys] at resident
    exact (represents.exec_hit resident).imp fun _ found => found.1
  have ends := exec_ends (.getOrLoad call) loaded
  rw [← answer] at ends
  exact ⟨_, ends, ⟨_, next, rfl⟩, size⟩

/-- The model of a resident key is returned at once. -/
theorem Used.hit (warm : cache.Used used) {key : K} (resident : key ∈ Recency.recent cache.maxSize used) :
    ∃ model, ∀ call : LoadCall K M, call.key = key → (cache.getOrLoad call).1 = ⟨.returned model, []⟩ := by
  rw [← warm.keys, loadedKeys, List.mem_reverse] at resident
  cases found : cache.entries.get? key with
  | none => exact absurd resident (OrderedDict.get?_eq_none_iff.1 found)
  | some entry =>
    refine ⟨entry.model, ?_⟩
    rintro call rfl
    simp only [LRUModelCache.getOrLoad, tryHit, found, Option.map_some]

/-- Keys with a property, where a validator checks it, stay keys with it. -/
theorem Used.keeps {p : K → Prop} (warm : cache.Used used) (all : ∀ key ∈ used, p key) (call : LoadCall K M)
    (checked : call.validator ≠ some false → p call.key) :
    ∃ after, (cache.getOrLoad call).2.Used after ∧ (∀ key ∈ after, p key) ∧
      (cache.getOrLoad call).2.maxSize = cache.maxSize := by
  obtain ⟨after, ends, next, size⟩ := warm.getOrLoad call
  refine ⟨after, next, ?_, size⟩
  have more (here : p call.key) : ∀ key ∈ used ++ [call.key], p key := by
    intro key member
    rcases List.mem_append.1 member with old | new
    · exact all key old
    · rwa [List.mem_singleton.1 new]
  revert ends
  generalize (cache.getOrLoad call).1.result = result
  rintro (⟨model, resident⟩ | _ | _ | ⟨model, cold, valid, loads⟩)
  · exact more (all call.key (Recency.mem_of_mem_recent resident))
  · exact all
  · exact all
  · exact more (checked valid)

end LRUModelCache

/-! ## Preloads -/

section Preloads

variable {M : Type} {settings : Settings} {cache : LRUModelCache CacheKey M} {used : List CacheKey} {key : CacheKey}

/-- A preload of a listed model: its key is used, or its load raised. -/
theorem preloadModel_ends (warm : cache.Used used) (listed : settings.Lists key.1 key.2) (loaded : Option M) :
    (∃ after, preloadModel settings key loaded cache = .ok after ∧ after.Used (used ++ [key]) ∧
      after.maxSize = cache.maxSize) ∨
      preloadModel settings key loaded cache = .error (.loader key) ∧
        key ∉ Recency.recent cache.maxSize used ∧ loaded = none := by
  obtain ⟨registered, allowed⟩ := lists_iff.1 listed
  obtain ⟨strategy, found⟩ := TTSProviderRegistry.mem_names_iff.1 registered
  have valid : validateModel settings key = .ok () := validateModel_ok_iff.2 allowed
  obtain ⟨after, ends, next, size⟩ := warm.getOrLoad (getModelCall settings key loaded)
  have passes : (getModelCall settings key loaded).validator ≠ some false := by
    simp [getModelCall, valid, Except.isOk, Except.toBool]
  unfold preloadModel
  rw [TTSProviderRegistry.get_ok_iff.2 found]
  simp only [Except.mapError, bind, Except.bind, LRUModelCache.preload]
  generalize (cache.getOrLoad (getModelCall settings key loaded)) = answer at ends next size ⊢
  obtain ⟨⟨result, callbacks⟩, cache'⟩ := answer
  cases ends with
  | hit model resident => exact .inl ⟨cache', rfl, next, size⟩
  | refused cold invalid => exact absurd invalid passes
  | failed cold _ raised => exact .inr ⟨rfl, cold, raised⟩
  | loaded model cold _ loads => exact .inl ⟨cache', rfl, next, size⟩

/-- Preloads of listed models: all their keys are used, or the load of the first that is
asked for and raises. -/
theorem preloadModels_ends (load : Nat → CacheKey → Option M) {keys : List CacheKey} (warm : cache.Used used)
    (listed : ∀ key ∈ keys, settings.Lists key.1 key.2) (i : Nat) :
    (∃ after, preloadModels settings load i keys cache = .ok after ∧ after.Used (used ++ keys) ∧
      after.maxSize = cache.maxSize) ∨
      ∃ j key, keys[j]? = some key ∧ preloadModels settings load i keys cache = .error (.loader key) ∧
        key ∉ Recency.recent cache.maxSize (used ++ keys.take j) ∧ load (i + j) key = none := by
  induction keys generalizing i cache used with
  | nil => exact .inl ⟨cache, rfl, by rwa [List.append_nil], rfl⟩
  | cons key keys ih =>
    obtain ⟨first, rest⟩ := List.forall_mem_cons.1 listed
    unfold preloadModels
    obtain ⟨next, ended, warm', size⟩ | ⟨raised, cold, failed⟩ := preloadModel_ends warm first (load i key)
    · rw [ended]
      obtain ⟨after, all, warm'', size'⟩ | ⟨j, key', there, raised, cold, failed⟩ := ih warm' rest (i + 1)
      · refine .inl ⟨after, all, ?_, size'.trans size⟩
        rwa [List.append_assoc] at warm''
      · refine .inr ⟨j + 1, key', there, raised, ?_, ?_⟩
        · rw [size, List.append_assoc] at cold
          exact cold
        · rwa [Nat.add_comm j 1, ← Nat.add_assoc]
    · refine .inr ⟨0, key, rfl, ?_, ?_, failed⟩
      · rw [raised]
        rfl
      · rwa [List.take_zero, List.append_nil]

end Preloads

end LlmTts
