import LlmTts.Lib.Numeral
import LlmTts.Presets.Headers
import LlmTts.Voice.VoiceMap

/-!
# The environment of a start

`Settings.__post_init__` of `config.py`, with every variable in the order it is read, and
`resolve_device_profile` of `engine/device.py`, which reads two of them once more.
`resolveDeviceProfile_of_load`: what the settings accept, the second reading accepts.
-/

namespace LlmTts
open Python Checked

/-- What `Settings()` raises. -/
inductive SettingsFailure where
  | valueError (message : Message)
  /-- `{name}={raw.lower()!r} is not valid (expected one of: …)`. -/
  | notValid (name raw : String) (expected : List String)
  | voiceMap (exc : VoiceMapFailure)
  deriving DecidableEq, Repr

/-- `raw.lower()`, as far as it can be a word of ASCII letters. -/
def lowerWord (raw : String) : String := String.ofList (TTSProviderRegistry.lowered raw)

/-! ## The readers -/

section Readers

variable (env : Environ) (name : String)

/-- `_load_enum`. -/
def loadEnum {α : Type} (spelled : α → String) (allowed : List α) (default : α) : Except SettingsFailure α :=
  let raw := strip ((env name).getD (spelled default))
  if lowerWord raw = "" then .ok default
  else match allowed.find? fun value => spelled value = lowerWord raw with
    | some value => .ok value
    | none => .error (.notValid name raw (sortedNames (allowed.map spelled)))

/-- A timeout, as `_load_optional_timeout` lets it pass. NaN is one. -/
abbrev Timeout : Type := { seconds : PyFloat // seconds.le (.finite 0) = false }

/-- `_load_optional_timeout`. -/
def loadOptionalTimeout : Except SettingsFailure (Option Timeout) :=
  let raw := strip ((env name).getD "")
  if raw = "" then .ok none
  else match PyFloat.ofText? raw with
    | none => .error (.valueError [.text s!"{name} must be a positive number of seconds"])
    | some seconds =>
      if positive : seconds.le (.finite 0) = false then .ok (some ⟨seconds, positive⟩)
      else .error (.valueError [.text s!"{name} must be > 0 (omit the variable to disable the timeout)"])

/-- `_load_int`, with its exception. -/
def loadBounded (minimum : Int) (default : { n : Int // minimum ≤ n }) :
    Except SettingsFailure { n : Int // minimum ≤ n } :=
  (loadInt env name minimum default).mapError fun message => .valueError [.text message]

/-- A path, or its default where the variable is blank. -/
def loadPath (default : String) : String :=
  let raw := strip ((env name).getD "")
  if raw = "" then default else raw

end Readers

/-- `TTS_PROVIDER` in `_load_provider_models`. -/
def loadTtsProvider (env : Environ) : Except SettingsFailure String :=
  let raw := lowerWord (strip ((env "TTS_PROVIDER").getD ""))
  if raw = "" ∨ raw = "auto" then .ok "mlx_audio"
  else if raw ∈ ["mlx_audio", "voxtral", "vllm-omni"] then .ok raw
  else .error (.valueError [.text "TTS_PROVIDER must be one of 'mlx_audio', 'voxtral', 'vllm-omni' (or 'auto')"])

/-- `TTS_MAX_INPUT_CHARS` in `_load_tts_limits`. A blank value is no integer. -/
def loadMaxInputChars (env : Environ) : Except SettingsFailure { n : Int // 256 ≤ n } :=
  match int? (strip ((env "TTS_MAX_INPUT_CHARS").getD "4096")) with
  | none => .error (.valueError [.text "TTS_MAX_INPUT_CHARS must be an integer"])
  | some value =>
    if enough : 256 ≤ value then .ok ⟨value, enough⟩
    else .error (.valueError [.text "TTS_MAX_INPUT_CHARS must be >= 256"])

/-- `_load_stt_models`: the default and the allow-list. -/
def loadSttModels (env : Environ) : String × List String :=
  let default := (env "STT_MODEL_DEFAULT").getD "whisper-1"
  let allowed := strip ((env "STT_MODEL_ALLOWED").getD "")
  (default, if allowed = "" then [default] else splitCsv allowed)

/-- `TTS_SILENCE_TRIM_THRESHOLD_DB` in `_load_presets_settings`. -/
def loadSilenceTrimThresholdDb (env : Environ) : Except SettingsFailure PyFloat :=
  let raw := strip ((env "TTS_SILENCE_TRIM_THRESHOLD_DB").getD "")
  if raw = "" then .ok (.finite (-50))
  else match PyFloat.ofText? raw with
    | none => .error (.valueError [.text "TTS_SILENCE_TRIM_THRESHOLD_DB must be a floating-point dBFS value"])
    | some db => .ok db

/-! ## Models to preload -/

/-- `_allow_list_for_provider`. -/
def Settings.allowListForProvider (settings : Settings) (provider : String) : Option (List String) :=
  if provider = "mlx_audio" then some settings.mlxAudio.allowed
  else if provider = "voxtral" then some settings.voxtral.allowed
  else if provider = "vllm-omni" then some settings.vllmOmni.allowed
  else none

/-- `PreloadEntry`. -/
structure PreloadEntry where
  provider : String
  model : String
  deriving DecidableEq, Repr

/-- The provider is known, and the model is on its list. -/
def Settings.Lists (settings : Settings) (provider model : String) : Prop :=
  ∃ allowed, settings.allowListForProvider provider = some allowed ∧ model ∈ allowed

/-- An entry that passed the checks. -/
abbrev ListedEntry (settings : Settings) : Type := { entry : PreloadEntry // settings.Lists entry.provider entry.model }

/-- `item.split(":", 1)` with both parts stripped, if there is a colon. -/
def splitEntry (item : String) : Option PreloadEntry :=
  match item.toList.span (· ≠ ':') with
  | (_, []) => none
  | (provider, _ :: model) => some ⟨strip (String.ofList provider), strip (String.ofList model)⟩

/-- One turn of the loop of `_load_preload_models`. -/
def loadPreloadEntry (settings : Settings) (name item : String) : Except SettingsFailure (ListedEntry settings) :=
  let refuse (reason : Message) : SettingsFailure := .valueError ([.text s!"{name} entry ", .repr item] ++ reason)
  match splitEntry item with
  | none => .error (refuse [.text " must be of the form 'provider:model'"])
  | some entry =>
    if entry.provider = "" ∨ entry.model = "" then .error (refuse [.text " must have non-empty provider and model"])
    else match known : settings.allowListForProvider entry.provider with
      | none => .error (refuse [.text ": unknown provider ", .repr entry.provider])
      | some allowed =>
        if listed : entry.model ∈ allowed then .ok ⟨entry, allowed, known, listed⟩
        else .error (refuse [.text ": model ", .repr entry.model, .text " not in allow-list for provider ",
          .repr entry.provider])

/-- `_load_preload_models`. -/
def loadPreloadModels (settings : Settings) (env : Environ) (name : String) :
    Except SettingsFailure (List (ListedEntry settings)) :=
  let raw := strip ((env name).getD "")
  if raw = "" then .ok [] else (splitCsv raw).mapM (loadPreloadEntry settings name)

/-! ## Backends -/

/-- `APP_LOG_FORMAT`. -/
inductive LogFormat where
  | text
  | json
  deriving DecidableEq, Repr

def LogFormat.name : LogFormat → String
  | text => "text"
  | json => "json"

/-- `TTS_VOICE_METADATA_BACKEND`. -/
inductive MetadataChoice where
  | fsJson
  | postgres
  deriving DecidableEq, Repr

def MetadataChoice.name : MetadataChoice → String
  | fsJson => "fs_json"
  | postgres => "postgres"

/-- `TTS_VOICE_BLOB_BACKEND`. -/
inductive BlobChoice where
  | fs
  | s3
  deriving DecidableEq, Repr

def BlobChoice.name : BlobChoice → String
  | fs => "fs"
  | s3 => "s3"

/-- What `_load_voice_metadata_backend` sets. -/
@[ext]
structure MetadataSettings where
  backend : MetadataChoice
  dsn : Option String
  deriving DecidableEq, Repr

/-- `_load_voice_metadata_backend`. A missing DSN is no error here. -/
def loadVoiceMetadataBackend (env : Environ) : Except SettingsFailure MetadataSettings := do
  let backend ← loadEnum env "TTS_VOICE_METADATA_BACKEND" MetadataChoice.name [.fsJson, .postgres] .fsJson
  let dsn := strip ((env "TTS_VOICE_METADATA_DSN").getD "")
  return ⟨backend, if dsn = "" then none else some dsn⟩

/-- What `_load_voice_blob_backend` sets. -/
structure BlobSettings where
  backend : BlobChoice
  endpoint : String
  bucket : String
  region : String
  named : backend = .s3 → bucket ≠ ""

/-- `_load_voice_blob_backend`. -/
def loadVoiceBlobBackend (env : Environ) : Except SettingsFailure BlobSettings := do
  let backend ← loadEnum env "TTS_VOICE_BLOB_BACKEND" BlobChoice.name [.fs, .s3] .fs
  let text (name : String) : String := strip ((env name).getD "")
  if missing : backend = .s3 ∧ text "TTS_VOICE_BLOB_S3_BUCKET" = "" then
    throw (.valueError [.text "TTS_VOICE_BLOB_S3_BUCKET must be set when TTS_VOICE_BLOB_BACKEND=s3"])
  else
    return ⟨backend, text "TTS_VOICE_BLOB_S3_ENDPOINT", text "TTS_VOICE_BLOB_S3_BUCKET",
      text "TTS_VOICE_BLOB_S3_REGION", not_and.1 missing⟩

/-! ## The settings -/

/-- A value of `TTS_DEVICE` or `TTS_DTYPE`, where `none` is `auto`. -/
def orAuto {α : Type} (spelled : α → String) : Option α → String
  | none => "auto"
  | some value => spelled value

/-- The devices of `_VALID_DEVICES`. -/
def validDevices : List Device := [.mps, .cuda, .cpu]

/-- The types of `_VALID_DTYPES`. -/
def validDtypes : List Dtype := [.float16, .bfloat16, .float32]

/-- `Settings`, with everything that it checks. -/
structure ServiceSettings extends Settings where
  ttsProvider : String
  sttModels : String × List String
  maxInputChars : { n : Int // 256 ≤ n }
  admission : AdmissionKnobs
  device : Option Device
  dtype : Option Dtype
  logFormat : LogFormat
  modelCacheSize : { n : Int // 1 ≤ n }
  shutdownDrainSeconds : { n : Int // 0 ≤ n }
  minFreeMemoryGb : { n : Int // 0 ≤ n }
  inferenceTimeoutSeconds : Option Timeout
  preloadModels : List (ListedEntry toSettings)
  voiceStoreDir : String
  metadata : MetadataSettings
  blob : BlobSettings
  refaudioMaxBytes : { n : Int // 1 ≤ n }
  presetsFile : String
  silenceTrimThresholdDb : PyFloat
  voiceMap : List (String × VoiceConfig)

/-- A default, which passes the check of the values that replace it. -/
def checkedDefault (minimum default : Int) (passes : decide (minimum ≤ default) = true) : { n : Int // minimum ≤ n } :=
  ⟨default, of_decide_eq_true passes⟩

/-- `__post_init__`. -/
def ServiceSettings.load (env : Environ) (files : VoiceMapFiles) : Except SettingsFailure ServiceSettings := do
  let ttsProvider ← loadTtsProvider env
  let maxInputChars ← loadMaxInputChars env
  let maxConcurrentRequests ← (loadMaxConcurrentRequests env).mapError fun message => .valueError [.text message]
  let device ← loadEnum env "TTS_DEVICE" (orAuto Device.name) (none :: validDevices.map some) none
  let dtype ← loadEnum env "TTS_DTYPE" (orAuto Dtype.name) (none :: validDtypes.map some) none
  let logFormat ← loadEnum env "APP_LOG_FORMAT" LogFormat.name [.text, .json] .text
  let maxQueueDepth ← loadBounded env "TTS_MAX_QUEUE_DEPTH" 0 (checkedDefault 0 8 (.refl true))
  let modelCacheSize ← loadBounded env "TTS_MODEL_CACHE_SIZE" 1 (checkedDefault 1 1 (.refl true))
  let shutdownDrainSeconds ← loadBounded env "TTS_SHUTDOWN_DRAIN_SECONDS" 0 (checkedDefault 0 30 (.refl true))
  let minFreeMemoryGb ← loadBounded env "TTS_MIN_FREE_MEMORY_GB" 0 (checkedDefault 0 4 (.refl true))
  let inferenceTimeoutSeconds ← loadOptionalTimeout env "TTS_INFERENCE_TIMEOUT_SECONDS"
  let preloadModels ← loadPreloadModels (.load env) env "TTS_PRELOAD_MODELS"
  let metadata ← loadVoiceMetadataBackend env
  let blob ← loadVoiceBlobBackend env
  let refaudioMaxBytes ← loadBounded env "TTS_REFAUDIO_MAX_BYTES" 1
    (checkedDefault 1 (10 * 1024 * 1024 : Nat) (.refl true))
  let silenceTrimThresholdDb ← loadSilenceTrimThresholdDb env
  let voiceMap ← (loadVoiceMapFromFile env files).mapError .voiceMap
  return {
    toSettings := .load env, ttsProvider := ttsProvider, sttModels := loadSttModels env,
    maxInputChars := maxInputChars, admission := ⟨maxConcurrentRequests, maxQueueDepth⟩, device := device,
    dtype := dtype, logFormat := logFormat, modelCacheSize := modelCacheSize,
    shutdownDrainSeconds := shutdownDrainSeconds, minFreeMemoryGb := minFreeMemoryGb,
    inferenceTimeoutSeconds := inferenceTimeoutSeconds, preloadModels := preloadModels,
    voiceStoreDir := loadPath env "TTS_VOICE_STORE_DIR" "var/voices", metadata := metadata, blob := blob,
    refaudioMaxBytes := refaudioMaxBytes, presetsFile := loadPath env "TTS_PRESETS_FILE" "config/presets.json",
    silenceTrimThresholdDb := silenceTrimThresholdDb, voiceMap := voiceMap }

/-! ## The device -/

/-- What `is_available` of a backend of torch comes to, where it can be called. -/
abbrev Availability : Type := Option (Except String Bool)

/-- What `_probe_device` sees of the host. -/
structure DeviceHost where
  /-- The backends of torch, if its import does not raise. -/
  torch : Option (Availability × Availability)
  system : String
  machine : String

/-- What `resolve_device_profile` raises. -/
inductive DeviceFailure where
  /-- `{name}={raw.lower()!r} is not a valid {noun} (expected one of: auto, …)`. -/
  | notValid (name noun raw : String) (expected : List String)
  /-- What `is_available` raised. -/
  | probe (exc : String)
  deriving DecidableEq, Repr

/-- A call of `is_available`, behind `callable`. -/
def Availability.call : Availability → Except DeviceFailure Bool
  | none => .ok false
  | some answer => answer.mapError .probe

/-- `_probe_device`. -/
def probeDevice (host : DeviceHost) : Except DeviceFailure Device :=
  match host.torch with
  | none => .ok (if host.system = "Darwin" ∧ host.machine = "arm64" then .mps else .cpu)
  | some (mps, cuda) => do
    if ← mps.call then return .mps
    if ← cuda.call then return .cuda
    return .cpu

/-- `detect_device` and `detect_dtype`: a blank value counts as `auto`. -/
def detect {α : Type} (name noun : String) (spelled : α → String) (valid : List α) (auto : Except DeviceFailure α)
    (raw : String) : Except DeviceFailure α :=
  let raw := strip raw
  if lowerWord raw = "" ∨ lowerWord raw = "auto" then auto
  else match valid.find? fun value => spelled value = lowerWord raw with
    | some value => .ok value
    | none => .error (.notValid name noun raw (sortedNames (valid.map spelled)))

/-- `detect_device`. -/
def detectDevice (host : DeviceHost) (raw : String) : Except DeviceFailure Device :=
  detect "TTS_DEVICE" "device" Device.name validDevices (probeDevice host) raw

/-- `detect_dtype`. -/
def detectDtype (device : Device) (raw : String) : Except DeviceFailure Dtype :=
  detect "TTS_DTYPE" "dtype" Dtype.name validDtypes (.ok (if device = .cpu then .float32 else .float16)) raw

/-- `resolve_device_profile`, with the source that it logs. A variable that is set to a
blank value counts as a source, although the detection is automatic. -/
def resolveDeviceProfile (env : Environ) (host : DeviceHost) : Except DeviceFailure (DeviceProfile × SelectionSource) := do
  let rawDevice := (env "TTS_DEVICE").getD "auto"
  let rawDtype := (env "TTS_DTYPE").getD "auto"
  let device ← detectDevice host rawDevice
  let dtype ← detectDtype device rawDtype
  let automatic := lowerWord (strip rawDevice) = "auto" ∧ lowerWord (strip rawDtype) = "auto"
  return (⟨device, dtype⟩, if automatic then .auto else .env)

/-- The device of a host under the settings. -/
def ServiceSettings.detectedDevice (settings : ServiceSettings) (host : DeviceHost) : Except DeviceFailure Device :=
  settings.device.elim (probeDevice host) .ok

/-- The type of a device under the settings. -/
def ServiceSettings.detectedDtype (settings : ServiceSettings) (device : Device) : Dtype :=
  settings.dtype.getD (if device = .cpu then .float32 else .float16)

section Twice

variable {α : Type} {env : Environ} {name noun : String} {spelled : α → String} {valid : List α} {choice : Option α}

/-- What `_load_enum` accepts is what the detection reads. -/
theorem detect_of_loadEnum (loaded : loadEnum env name (orAuto spelled) (none :: valid.map some) none = .ok choice)
    (auto : Except DeviceFailure α) :
    detect name noun spelled valid auto ((env name).getD "auto") = choice.elim auto .ok := by
  unfold loadEnum at loaded
  unfold detect
  have default : orAuto spelled none = "auto" := rfl
  rw [default] at loaded
  generalize strip ((env name).getD "auto") = raw at loaded ⊢
  dsimp only at loaded ⊢
  generalize lowerWord raw = word at loaded ⊢
  by_cases blank : word = ""
  · rw [if_pos blank] at loaded
    cases loaded
    rw [if_pos (.inl blank)]
    rfl
  · rw [if_neg blank, List.find?_cons] at loaded
    by_cases same : word = "auto"
    · have first : decide (orAuto spelled none = word) = true := decide_eq_true same.symm
      rw [first] at loaded
      cases loaded
      rw [if_pos (.inr same)]
      rfl
    · have first : decide (orAuto spelled none = word) = false := decide_eq_false (Ne.symm same)
      have others : (fun value => decide (orAuto spelled value = word)) ∘ some =
          fun value => decide (spelled value = word) := rfl
      rw [first, List.find?_map, others] at loaded
      rw [if_neg (not_or.2 ⟨blank, same⟩)]
      cases found : valid.find? fun value => decide (spelled value = word) with
      | none =>
        rw [found] at loaded
        cases loaded
      | some value =>
        rw [found] at loaded
        cases loaded
        rfl

end Twice

/-- What the settings hold of the variables that are read again. -/
structure ServiceSettings.Reads (settings : ServiceSettings) (env : Environ) : Prop where
  models : settings.toSettings = .load env
  provider : loadTtsProvider env = .ok settings.ttsProvider
  device : loadEnum env "TTS_DEVICE" (orAuto Device.name) (none :: validDevices.map some) none = .ok settings.device
  dtype : loadEnum env "TTS_DTYPE" (orAuto Dtype.name) (none :: validDtypes.map some) none = .ok settings.dtype

theorem ServiceSettings.reads_of_load {env : Environ} {files : VoiceMapFiles} {settings : ServiceSettings}
    (loaded : ServiceSettings.load env files = .ok settings) : settings.Reads env := by
  unfold ServiceSettings.load at loaded
  obtain ⟨_, provider, loaded⟩ := bind_ok_iff.1 loaded
  obtain ⟨_, -, loaded⟩ := bind_ok_iff.1 loaded
  obtain ⟨_, -, loaded⟩ := bind_ok_iff.1 loaded
  obtain ⟨_, device, loaded⟩ := bind_ok_iff.1 loaded
  obtain ⟨_, dtype, loaded⟩ := bind_ok_iff.1 loaded
  iterate 12 obtain ⟨_, -, loaded⟩ := bind_ok_iff.1 loaded
  cases loaded
  exact ⟨rfl, provider, device, dtype⟩

/-- **The second reading.** Where the settings load, the detection of the device refuses no
value: it takes the one of the settings, and probes the host if that is `auto`. -/
theorem resolveDeviceProfile_of_load {env : Environ} {files : VoiceMapFiles} {settings : ServiceSettings}
    (loaded : ServiceSettings.load env files = .ok settings) (host : DeviceHost) :
    (resolveDeviceProfile env host).map Prod.fst =
      (settings.detectedDevice host).map fun device => ⟨device, settings.detectedDtype device⟩ := by
  have reads := ServiceSettings.reads_of_load loaded
  have device : detectDevice host ((env "TTS_DEVICE").getD "auto") = settings.detectedDevice host :=
    detect_of_loadEnum reads.device _
  have dtype (device : Device) :
      detectDtype device ((env "TTS_DTYPE").getD "auto") = .ok (settings.detectedDtype device) := by
    refine (detect_of_loadEnum reads.dtype _).trans ?_
    unfold ServiceSettings.detectedDtype
    cases settings.dtype <;> rfl
  unfold resolveDeviceProfile
  dsimp only
  rw [device]
  cases settings.detectedDevice host with
  | error exc => rfl
  | ok device => simp only [bind, Except.bind, dtype, pure, Except.pure, Except.map]

end LlmTts
