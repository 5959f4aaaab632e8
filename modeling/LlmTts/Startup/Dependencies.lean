import LlmTts.Presets.Allowed
import LlmTts.Presets.Reload
import LlmTts.Providers.Generate
import LlmTts.Startup.Preload
import LlmTts.Voice.Sandbox

/-!
# The construction of the service

`build_default_dependencies` and `_load_presets_or_exit`: what the lifespan does before
the seed pass. Later steps repeat checks that the settings have made; `start_up` says
which of them can still fail, and what a service that started has.
-/

namespace LlmTts
open Python Checked

/-! ## Repositories -/

/-- What a start meets outside of the service. -/
structure StartHost (M : Type) where
  device : DeviceHost
  files : VoiceMapFiles
  /-- `_load_model` in the `i`-th preload, or `none` where it raises. -/
  load : Nat → CacheKey → Option M
  /-- The `mkdir` of a repository does not raise. -/
  makesDirectory : String → Bool
  /-- The module that the import of an extra does not find. -/
  missingModule : (extra : String) → Option String
  modelValidate : ModelValidate
  processUid : Option Nat
  stat : String → Except String FileStat
  presets : String → PresetsFile

/-- What a start ends in before the seed pass, if not in a service. -/
inductive StartFailure where
  | settings (exc : SettingsFailure)
  | device (exc : DeviceFailure)
  | selection (exc : ProviderSelectionError)
  /-- `LRUModelCache max_size must be >= 1`. -/
  | cacheSize
  | preload (exc : PreloadFailure)
  /-- `RuntimeError` with the text. -/
  | missingExtra (message : String)
  /-- `TTS_VOICE_METADATA_DSN must be set when TTS_VOICE_METADATA_BACKEND=postgres`. -/
  | missingDsn
  /-- `S3BlobRepository requires a non-empty bucket name`. -/
  | missingBucket
  /-- The `OSError` of `mkdir`. -/
  | storeDirectory (storeDir : String)
  /-- `SystemExit` of `_load_presets_or_exit`. -/
  | presets (exc : PresetsFailure)
  deriving DecidableEq, Repr

section Build

variable {M : Type} (host : StartHost M)

/-- `self._store_dir.mkdir(parents=True, exist_ok=True)`. -/
def makeStoreDirectory (storeDir : String) : Except StartFailure Unit :=
  if host.makesDirectory storeDir then .ok () else .error (.storeDirectory storeDir)

/-- The import of a module that needs an extra. -/
def importExtra (extra : String) (message : (missing : String) → String) : Except StartFailure Unit :=
  match host.missingModule extra with
  | none => .ok ()
  | some missing => .error (.missingExtra (message missing))

/-- `build_voice_metadata_repo`. -/
def buildVoiceMetadataRepo (settings : ServiceSettings) : Except StartFailure MetadataBackend :=
  match settings.metadata.backend with
  | .fsJson => do
    makeStoreDirectory host settings.voiceStoreDir
    return .fsJson ⟨settings.voiceStoreDir⟩
  | .postgres => do
    importExtra host "postgres" fun missing =>
      "config_error.missing_extra: voice metadata backend 'postgres' requires the [postgres] extra (missing module: " ++
        missing ++ "). Install via `pip install '.[postgres]'`."
    match settings.metadata.dsn with
    | none => throw .missingDsn
    | some _ => return .postgres

/-- `_build_voice_blob_repo`. -/
def buildVoiceBlobRepo (settings : ServiceSettings) : Except StartFailure BlobBackend :=
  match settings.blob.backend with
  | .fs => do
    let repository : FsBlobRepository := ⟨settings.voiceStoreDir⟩
    makeStoreDirectory host repository.blobsDir
    return .fs repository
  | .s3 => do
    importExtra host "s3" fun missing =>
      "provider_error.missing_extra: TTS_VOICE_BLOB_BACKEND=s3 requires the '[s3]' extra (missing module: " ++
        missing ++ "). Install with 'pip install .[s3]'."
    if named : settings.blob.bucket = "" then throw .missingBucket
    else return .s3 ⟨settings.blob.bucket, named⟩

/-- `_read_override_from_env`. -/
def readOverrideFromEnv (env : Environ) : Option String :=
  (env "TTS_PROVIDER").bind fun raw =>
    let candidate := lowerWord (strip raw)
    if candidate = "" ∨ candidate = "auto" then none else some candidate

/-- `AppDependencies`, with the preset registry of `app.state`. -/
structure StartedService (M : Type) where
  settings : ServiceSettings
  deviceProfile : DeviceProfile
  providerSelection : ProviderSelection
  modelCache : LRUModelCache CacheKey M
  backends : VoiceBackends
  seedFilePath : Option String
  presetRegistry : PresetRegistry

/-- The keys of `TTS_PRELOAD_MODELS`. -/
def ServiceSettings.preloadKeys (settings : ServiceSettings) : List CacheKey :=
  settings.preloadModels.map fun entry => (entry.1.provider, entry.1.model)

/-- The key that `TTSService.__init__` preloads. -/
def ServiceSettings.defaultKey (settings : ServiceSettings) : CacheKey :=
  (settings.ttsProvider, settings.modelDefaultForProvider settings.ttsProvider)

/-- `_preload_models`, and the preload in `TTSService.__init__`. -/
def warmCache {M : Type} (load : Nat → CacheKey → Option M) (settings : ServiceSettings)
    (cache : LRUModelCache CacheKey M) : Except PreloadFailure (LRUModelCache CacheKey M) := do
  let warmed ← preloadModels settings.toSettings load 0 settings.preloadKeys cache
  preloadModel settings.toSettings settings.defaultKey (load settings.preloadKeys.length settings.defaultKey) warmed

/-- The settings after the selection of a provider. -/
def ServiceSettings.reconciled (settings : ServiceSettings) (selection : ProviderSelection) : ServiceSettings :=
  { settings with ttsProvider := selection.providerName }

/-- `build_default_dependencies` and `_load_presets_or_exit`. -/
def startUp (env : Environ) : Except StartFailure (StartedService M) := do
  let settings ← (ServiceSettings.load env host.files).mapError .settings
  let profile ← (resolveDeviceProfile env host.device).mapError .device
  let selection ← (selectProvider profile.1.device defaultProviderRegistry (readOverrideFromEnv env)).mapError .selection
  let settings := settings.reconciled selection
  let some cache := LRUModelCache.create settings.modelCacheSize.1.toNat | throw .cacheSize
  let warmed ← (warmCache host.load settings cache).mapError .preload
  let metadataRepo ← buildVoiceMetadataRepo host settings
  let blobRepo ← buildVoiceBlobRepo host settings
  let presetRegistry ← (initializePresetRegistry host.modelValidate settings.presetsFile settings.toSettings
    (some defaultProviderRegistry) host.processUid (host.stat settings.presetsFile)
    (host.presets settings.presetsFile)).mapError .presets
  let seedFilePath := resolveSeedFilePath env host.files
  return ⟨settings, profile.1, selection, warmed, ⟨metadataRepo, blobRepo⟩, seedFilePath, presetRegistry⟩

end Build

/-! ## What can fail -/

/-- The keys that a start preloads, in order. -/
def ServiceSettings.warmKeys (settings : ServiceSettings) : List CacheKey := settings.preloadKeys ++ [settings.defaultKey]

/-- Where a failure of a start comes from. No check of the settings is made twice: the size
of the cache, the names of the providers and of the preloaded models, the values of
`TTS_DEVICE` and `TTS_DTYPE` and the bucket fail in the settings or not at all. -/
inductive StartFailure.Caused {M : Type} (host : StartHost M) (env : Environ) : StartFailure → Prop
  | settings {exc : SettingsFailure} (refused : ServiceSettings.load env host.files = .error exc) :
    Caused host env (.settings exc)
  | probe {settings : ServiceSettings} {text : String} (loaded : ServiceSettings.load env host.files = .ok settings)
    (automatic : settings.device = none) (raised : probeDevice host.device = .error (.probe text)) :
    Caused host env (.device (.probe text))
  | selection {settings : ServiceSettings} {device : Device} {exc : ProviderSelectionError}
    (loaded : ServiceSettings.load env host.files = .ok settings)
    (detected : settings.detectedDevice host.device = .ok device)
    (unserved : ∀ provider ∈ defaultProviderRegistry.providers,
      (∀ name ∈ readOverrideFromEnv env, provider.providerName = name) → device ∉ provider.supportsDevices) :
    Caused host env (.selection exc)
  | loader {settings : ServiceSettings} {selection : ProviderSelection} {i : Nat} {key : CacheKey}
    (loaded : ServiceSettings.load env host.files = .ok settings)
    (there : (settings.reconciled selection).warmKeys[i]? = some key)
    (cold : key ∉ Recency.recent settings.modelCacheSize.1.toNat ((settings.reconciled selection).warmKeys.take i))
    (raised : host.load i key = none) : Caused host env (.preload (.loader key))
  | missingExtra {extra missing message : String} (absent : host.missingModule extra = some missing) :
    Caused host env (.missingExtra message)
  | missingDsn {settings : ServiceSettings} (loaded : ServiceSettings.load env host.files = .ok settings)
    (unset : settings.metadata = ⟨.postgres, none⟩) : Caused host env .missingDsn
  | storeDirectory {storeDir : String} (raised : host.makesDirectory storeDir = false) :
    Caused host env (.storeDirectory storeDir)
  | presets {settings : ServiceSettings} {exc : PresetsFailure}
    (loaded : ServiceSettings.load env host.files = .ok settings)
    (refused : initializePresetRegistry host.modelValidate settings.presetsFile settings.toSettings
      (some defaultProviderRegistry) host.processUid (host.stat settings.presetsFile)
      (host.presets settings.presetsFile) = .error exc) : Caused host env (.presets exc)

section Selection

variable {device : Device} {registry : TTSProviderRegistry}

theorem selectAuto_error {providers : List TTSProviderStrategy} {rejections : List ProviderRejection}
    {exc : ProviderSelectionError} (refused : selectAuto device rejections providers = .error exc) :
    ∀ provider ∈ providers, device ∉ provider.supportsDevices := by
  induction providers generalizing rejections with
  | nil => exact fun _ member => absurd member List.not_mem_nil
  | cons provider providers ih =>
    unfold selectAuto at refused
    split at refused
    · cases refused
    · rename_i undeclared
      exact List.forall_mem_cons.2 ⟨undeclared, ih refused⟩

/-- A selection fails where no provider that the override admits declares the device. -/
theorem selectProvider_error {override : Option String} {exc : ProviderSelectionError}
    (known : ∀ name ∈ override, name ∈ registry.names)
    (refused : selectProvider device registry override = .error exc) :
    ∀ provider ∈ registry.providers, (∀ name ∈ override, provider.providerName = name) →
      device ∉ provider.supportsDevices := by
  cases override with
  | none => exact fun provider member _ => selectAuto_error refused provider member
  | some name =>
    intro provider member same
    have named : provider.providerName = name := same name rfl
    have found : registry.find name = some provider := named ▸ TTSProviderRegistry.find_of_mem member
    simp only [selectProvider, validateOverride, found] at refused
    split at refused
    · cases refused
    · assumption

theorem selectProvider_device {override : Option String} {selection : ProviderSelection}
    (selected : selectProvider device registry override = .ok selection) : selection.device = device := by
  cases override with
  | none =>
    have auto {providers : List TTSProviderStrategy} {rejections : List ProviderRejection}
        (selected : selectAuto device rejections providers = .ok selection) : selection.device = device := by
      induction providers generalizing rejections with
      | nil => cases selected
      | cons provider providers ih =>
        unfold selectAuto at selected
        split at selected
        · cases selected
          rfl
        · exact ih selected
    exact auto selected
  | some name =>
    simp only [selectProvider, validateOverride] at selected
    split at selected
    · cases selected
    · split at selected
      · cases selected
        rfl
      · cases selected

end Selection

/-- Where the settings load, the override names a registered provider. -/
theorem override_known {env : Environ} {provider : String} (loaded : loadTtsProvider env = .ok provider) :
    ∀ name ∈ readOverrideFromEnv env, name ∈ defaultProviderRegistry.names := by
  intro name overridden
  unfold readOverrideFromEnv at overridden
  obtain ⟨raw, set, chosen⟩ := Option.bind_eq_some_iff.1 overridden
  unfold loadTtsProvider at loaded
  rw [set, Option.getD_some] at loaded
  dsimp only at chosen loaded
  generalize lowerWord (strip raw) = word at chosen loaded
  split at chosen
  · cases chosen
  · rename_i named
    cases chosen
    rw [if_neg named] at loaded
    split at loaded
    · assumption
    · cases loaded

/-! ## Each step of a start -/

section Steps

variable {M : Type} {host : StartHost M} {env : Environ} {settings : ServiceSettings} {selection : ProviderSelection}

theorem probeDevice_error {host : DeviceHost} {exc : DeviceFailure} (raised : probeDevice host = .error exc) :
    ∃ text, exc = .probe text := by
  have called {availability : Availability} (raised : availability.call = .error exc) : ∃ text, exc = .probe text := by
    cases availability with
    | none => cases raised
    | some answer =>
      obtain ⟨text, failed, same⟩ := mapError_error_iff.1 raised
      exact ⟨text, same.symm⟩
  unfold probeDevice at raised
  split at raised
  · cases raised
  · rcases bind_error_iff.1 raised with first | ⟨found, -, raised⟩
    · exact called first
    · split at raised
      · cases raised
      · rcases bind_error_iff.1 raised with second | ⟨found, -, raised⟩
        · exact called second
        · split at raised <;> cases raised

theorem profile_caused (loaded : ServiceSettings.load env host.files = .ok settings) {exc : DeviceFailure}
    (raised : resolveDeviceProfile env host.device = .error exc) : StartFailure.Caused host env (.device exc) := by
  have again := resolveDeviceProfile_of_load loaded host.device
  rw [raised] at again
  unfold ServiceSettings.detectedDevice at again
  cases automatic : settings.device with
  | some device =>
    rw [automatic] at again
    cases again
  | none =>
    rw [automatic] at again
    have probed : probeDevice host.device = .error exc := map_error_iff.1 again.symm
    obtain ⟨text, rfl⟩ := probeDevice_error probed
    exact .probe loaded automatic probed

theorem profile_detected (loaded : ServiceSettings.load env host.files = .ok settings)
    {profile : DeviceProfile × SelectionSource} (resolved : resolveDeviceProfile env host.device = .ok profile) :
    settings.detectedDevice host.device = .ok profile.1.device := by
  have again := resolveDeviceProfile_of_load loaded host.device
  rw [resolved] at again
  obtain ⟨device, detected, same⟩ := map_ok_iff.1 again.symm
  rw [detected, ← same]

theorem preloadModels_concat {settings : Settings} {load : Nat → CacheKey → Option M} {key : CacheKey}
    {keys : List CacheKey} (i : Nat) (cache : LRUModelCache CacheKey M) :
    preloadModels settings load i (keys ++ [key]) cache =
      preloadModels settings load i keys cache >>= preloadModel settings key (load (i + keys.length) key) := by
  induction keys generalizing i cache with
  | nil =>
    show (preloadModel settings key (load i key) cache >>= pure) = preloadModel settings key (load i key) cache
    exact bind_pure _
  | cons first keys ih =>
    simp only [List.cons_append, preloadModels, bind_assoc, ih, List.length_cons]
    rw [Nat.add_comm keys.length 1, ← Nat.add_assoc]

theorem warmCache_eq {load : Nat → CacheKey → Option M} (cache : LRUModelCache CacheKey M) :
    warmCache load settings cache = preloadModels settings.toSettings load 0 settings.warmKeys cache := by
  rw [ServiceSettings.warmKeys, preloadModels_concat, Nat.zero_add]
  rfl

/-- Every key that a start preloads is listed. -/
theorem lists_warmKeys (selected : settings.ttsProvider ∈ defaultProviderRegistry.names) :
    ∀ key ∈ settings.warmKeys, settings.Lists key.1 key.2 := by
  intro key member
  rcases List.mem_append.1 member with preloaded | default
  · obtain ⟨entry, -, rfl⟩ := List.mem_map.1 preloaded
    exact entry.2
  · rw [List.mem_singleton.1 default]
    exact lists_default selected

/-- The cache of the size of the settings, before any call. -/
theorem create_cache (settings : ServiceSettings) : ∃ cache : LRUModelCache CacheKey M,
    LRUModelCache.create settings.modelCacheSize.1.toNat = some cache ∧ cache.Used [] ∧
      cache.maxSize = settings.modelCacheSize.1.toNat := by
  have positive : 1 ≤ settings.modelCacheSize.1.toNat := by
    have := settings.modelCacheSize.2
    omega
  exact ⟨_, dif_pos positive, LRUModelCache.used_nil positive, rfl⟩

theorem directory_caused {storeDir : String} {failure : StartFailure}
    (raised : makeStoreDirectory host storeDir = .error failure) : failure.Caused host env := by
  unfold makeStoreDirectory at raised
  split at raised
  · cases raised
  · rename_i refused
    cases raised
    exact .storeDirectory (Bool.eq_false_iff.2 refused)

theorem extra_caused {extra : String} {message : String → String} {failure : StartFailure}
    (raised : importExtra host extra message = .error failure) : failure.Caused host env := by
  unfold importExtra at raised
  split at raised
  · cases raised
  · rename_i missing absent
    cases raised
    exact .missingExtra absent

theorem metadata_caused (loaded : ServiceSettings.load env host.files = .ok settings) {failure : StartFailure}
    (raised : buildVoiceMetadataRepo host (settings.reconciled selection) = .error failure) : failure.Caused host env := by
  unfold buildVoiceMetadataRepo at raised
  split at raised
  · rcases bind_error_iff.1 raised with failed | ⟨_, -, failed⟩
    · exact directory_caused failed
    · cases failed
  · rename_i postgres
    rcases bind_error_iff.1 raised with failed | ⟨_, -, failed⟩
    · exact extra_caused failed
    · split at failed
      · rename_i unset
        cases failed
        have both : settings.metadata = ⟨.postgres, none⟩ := MetadataSettings.ext postgres unset
        exact .missingDsn loaded both
      · cases failed

/-- The bucket is not missing once the settings have loaded. -/
theorem blob_caused {failure : StartFailure} (raised : buildVoiceBlobRepo host settings = .error failure) :
    failure.Caused host env := by
  unfold buildVoiceBlobRepo at raised
  split at raised
  · rcases bind_error_iff.1 raised with failed | ⟨_, -, failed⟩
    · exact directory_caused failed
    · cases failed
  · rename_i s3
    rcases bind_error_iff.1 raised with failed | ⟨_, -, failed⟩
    · exact extra_caused failed
    · rw [dif_neg (settings.blob.named s3)] at failed
      cases failed

end Steps

/-! ## What a started service has -/

namespace StartedService

variable {M : Type}

/-- A service that can take requests. -/
structure Ready (service : StartedService M) : Prop where
  declared : ∃ provider, defaultProviderRegistry.find service.providerSelection.providerName = some provider ∧
    service.deviceProfile.device ∈ provider.supportsDevices
  device : service.providerSelection.device = service.deviceProfile.device
  provider : service.settings.ttsProvider = service.providerSelection.providerName
  presets : service.presetRegistry.Sound service.settings.toSettings defaultProviderRegistry
  warm : service.modelCache.Used service.settings.warmKeys
  size : service.modelCache.maxSize = service.settings.modelCacheSize.1.toNat

/-- The cache after `_get_model` of the providers, once for each model with what
`_load_model` comes to. -/
def getModels (service : StartedService M) (uses : List (ProviderKind × String × Option M)) : LRUModelCache CacheKey M :=
  uses.foldl (fun cache use =>
    (cache.getOrLoad (getModelCall service.settings.toSettings (use.1.name, use.2.1) use.2.2)).2) service.modelCache

variable {service : StartedService M}

theorem Ready.registered (ready : service.Ready) : service.settings.ttsProvider ∈ defaultProviderRegistry.names := by
  obtain ⟨provider, found, -⟩ := ready.declared
  rw [ready.provider]
  exact TTSProviderRegistry.mem_names_iff.2 ⟨provider, found⟩

/-- The default model of the selected provider is the most recently used one. -/
theorem default_resident (service : StartedService M) :
    service.settings.defaultKey ∈ Recency.recent service.modelCache.maxSize service.settings.warmKeys := by
  obtain ⟨n, size⟩ := Nat.exists_eq_add_of_le' service.modelCache.positive
  rw [size, ServiceSettings.warmKeys, Recency.recent_succ_concat]
  exact List.mem_cons_self

/-- A request that names no provider and no model is for the default key. -/
theorem Ready.resolves (ready : service.Ready) {effective : EffectiveSynthesisConfig} (provider : effective.provider = none)
    (model : effective.model = none) : ∃ strategy,
      resolveProviderAndModel service.settings.toSettings defaultProviderRegistry service.providerSelection effective =
        .ok (service.settings.defaultKey.1, service.settings.defaultKey.2, strategy) := by
  have blank : strip "" = "" := by decide
  have name : providerName service.providerSelection effective = service.settings.ttsProvider := by
    rw [ready.provider, providerName, provider]
    exact if_pos blank
  obtain ⟨strategy, found⟩ := TTSProviderRegistry.mem_names_iff.1 ready.registered
  have get : defaultProviderRegistry.get (providerName service.providerSelection effective) = .ok strategy := by
    rw [name]
    exact TTSProviderRegistry.get_ok_iff.2 found
  have default : modelName service.settings.toSettings service.providerSelection effective =
      service.settings.defaultKey.2 := by
    rw [modelName, model, name]
    exact if_pos blank
  refine ⟨strategy, ?_⟩
  rw [resolveProviderAndModel_of_get _ get, default, name]
  exact if_pos (service.settings.default_mem service.settings.ttsProvider)

/-- What the resolution of a request accepts, the allow-list of the provider accepts. -/
theorem validates_of_resolved {effective : EffectiveSynthesisConfig} {provider model : String}
    {strategy : TTSProviderStrategy}
    (resolved : resolveProviderAndModel service.settings.toSettings defaultProviderRegistry service.providerSelection
      effective = .ok (provider, model, strategy)) :
    validateModel service.settings.toSettings (provider, model) = .ok () := by
  obtain ⟨rfl, rfl, found⟩ := resolved_names resolved
  rw [resolveProviderAndModel_of_get _ (TTSProviderRegistry.get_ok_iff.2 found)] at resolved
  split at resolved
  · rename_i allowed
    exact validateModel_ok_iff.2 allowed
  · cases resolved

/-- The cache keeps to listed models. -/
theorem Ready.getModels_lists (ready : service.Ready) (uses : List (ProviderKind × String × Option M)) :
    ∃ used, (service.getModels uses).Used used ∧ (∀ key ∈ used, service.settings.Lists key.1 key.2) ∧
      (service.getModels uses).maxSize = service.settings.modelCacheSize.1.toNat := by
  refine List.foldlRecOn (motive := fun cache : LRUModelCache CacheKey M => ∃ used, cache.Used used ∧
    (∀ key ∈ used, service.settings.Lists key.1 key.2) ∧ cache.maxSize = service.settings.modelCacheSize.1.toNat)
    uses _ ⟨_, ready.warm, lists_warmKeys ready.registered, ready.size⟩ ?_
  rintro cache ⟨used, warm, listed, size⟩ use -
  have registered : use.1.name ∈ defaultProviderRegistry.names := by
    cases use.1 <;> decide
  obtain ⟨after, next, all, same⟩ := warm.keeps listed
    (getModelCall service.settings.toSettings (use.1.name, use.2.1) use.2.2) fun valid =>
      lists_iff.2 ⟨registered, validateModel_ok_iff.1 (validates_of_valid valid)⟩
  exact ⟨after, next, all, same.trans size⟩

end StartedService

/-! ## The start -/

section Start

variable {M : Type}

/-- A start that fails has a cause, and one that does not fail leaves a service that is ready. -/
theorem startUp_ends (host : StartHost M) (env : Environ) :
    (∃ failure, startUp host env = .error failure ∧ failure.Caused host env) ∨
      ∃ service, startUp host env = .ok service ∧ service.Ready := by
  unfold startUp
  cases loaded : ServiceSettings.load env host.files with
  | error exc => exact .inl ⟨_, rfl, .settings loaded⟩
  | ok settings =>
  cases resolved : resolveDeviceProfile env host.device with
  | error exc => exact .inl ⟨_, rfl, profile_caused loaded resolved⟩
  | ok profile =>
  have reads := ServiceSettings.reads_of_load loaded
  dsimp only [Except.mapError, bind, Except.bind]
  cases selected : selectProvider profile.1.device defaultProviderRegistry (readOverrideFromEnv env) with
  | error exc =>
    exact .inl ⟨_, rfl, .selection loaded (profile_detected loaded resolved)
      (selectProvider_error (override_known reads.provider) selected)⟩
  | ok selection =>
  obtain ⟨provider, found, declared⟩ := selectProvider_ok selected
  have registered : (settings.reconciled selection).ttsProvider ∈ defaultProviderRegistry.names :=
    TTSProviderRegistry.mem_names_iff.2 ⟨provider, found⟩
  obtain ⟨cache, created, fresh, size⟩ := create_cache (M := M) (settings.reconciled selection)
  dsimp only
  rw [created]
  dsimp only
  rw [warmCache_eq]
  obtain ⟨warmed, ended, warm, same⟩ | ⟨i, key, there, ended, cold, raised⟩ :=
    preloadModels_ends host.load fresh (lists_warmKeys registered) 0
  case inr =>
    rw [ended]
    rw [size] at cold
    rw [Nat.zero_add] at raised
    exact .inl ⟨_, rfl, .loader loaded there cold raised⟩
  rw [ended]
  dsimp only
  cases metadata : buildVoiceMetadataRepo host (settings.reconciled selection) with
  | error failure => exact .inl ⟨_, rfl, metadata_caused loaded metadata⟩
  | ok metadataRepo =>
  dsimp only
  cases blob : buildVoiceBlobRepo host (settings.reconciled selection) with
  | error failure => exact .inl ⟨_, rfl, blob_caused blob⟩
  | ok blobRepo =>
  dsimp only
  cases initialized : initializePresetRegistry host.modelValidate (settings.reconciled selection).presetsFile
      (settings.reconciled selection).toSettings (some defaultProviderRegistry) host.processUid
      (host.stat (settings.reconciled selection).presetsFile) (host.presets (settings.reconciled selection).presetsFile) with
  | error exc => exact .inl ⟨_, rfl, .presets loaded initialized⟩
  | ok presetRegistry =>
  exact .inr ⟨_, rfl, ⟨provider, found, declared⟩, selectProvider_device selected, rfl,
    (initialize_passes initialized).sound, warm, same.trans size⟩

end Start

/-- A Mac without torch, where every model loads. -/
def macHost : StartHost Nat where
  device := ⟨none, "Darwin", "arm64"⟩
  files := ⟨fun _ => ⟨false, false, false⟩, fun _ => .missing⟩
  load := fun i _ => some i
  makesDirectory := fun _ => true
  missingModule := fun _ => none
  modelValidate := validatePins
  processUid := some 1000
  stat := fun _ => .ok ⟨1000, 0o100644⟩
  presets := fun _ => pinFile "mlx_audio"

/-- Two models to preload, with room for both. -/
def preloadEnv : Environ := fun name =>
  if name = "TTS_PRELOAD_MODELS" then
    some "voxtral:mlx-community/Voxtral-4B-TTS-2603-mlx-4bit, mlx_audio:Qwen/Qwen3-TTS-12Hz-0.6B-Base"
  else if name = "TTS_MODEL_CACHE_SIZE" then some "2"
  else none

end LlmTts
