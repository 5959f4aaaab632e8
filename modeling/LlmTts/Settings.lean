import LlmTts.Lib.Python

/-!
# Settings

What `Settings` reads from the environment: the runtime knobs of the admission, and
the models of the providers. A value that `Settings` refuses stops the start of the
service, so that the knobs carry the bounds it checks.
-/

namespace LlmTts
open Python

/-- `os.environ`. -/
abbrev Environ : Type := String → Option String

/-- `_load_int`: an unset or blank variable gives the default. -/
def loadInt (env : Environ) (name : String) (minimum : Int) (default : { n : Int // minimum ≤ n }) :
    Except String { n : Int // minimum ≤ n } :=
  let raw := strip ((env name).getD "")
  if raw = "" then .ok default
  else match int? raw with
    | none => .error s!"{name} must be an integer"
    | some value =>
      if h : minimum ≤ value then .ok ⟨value, h⟩ else .error s!"{name} must be >= {minimum}"

/-- `TTS_MAX_CONCURRENT_REQUESTS` in `_load_tts_limits`: a smaller number counts as 1. -/
def loadMaxConcurrentRequests (env : Environ) : Except String { n : Int // 1 ≤ n } :=
  match int? (strip ((env "TTS_MAX_CONCURRENT_REQUESTS").getD "1")) with
  | none => .error "TTS_MAX_CONCURRENT_REQUESTS must be an integer >= 1"
  | some value => .ok ⟨max 1 value, Int.le_max_left 1 value⟩

/-- The two knobs the semaphores are created from. -/
structure AdmissionKnobs where
  maxConcurrentRequests : { n : Int // 1 ≤ n }
  maxQueueDepth : { n : Int // 0 ≤ n }

/-- The knobs of an environment, in the order `Settings` checks them. -/
def AdmissionKnobs.load (env : Environ) : Except String AdmissionKnobs := do
  let maxConcurrentRequests ← loadMaxConcurrentRequests env
  let maxQueueDepth ← loadInt env "TTS_MAX_QUEUE_DEPTH" 0 ⟨8, by decide⟩
  return ⟨maxConcurrentRequests, maxQueueDepth⟩

/-! ## Providers and models -/

/-- The model default and the allow-list of one provider. -/
structure ProviderModels where
  default : String
  allowed : List String
  listed : default ∈ allowed
  trimmed : ∀ model ∈ allowed, strip model = model

/-- `_split_csv`. -/
def splitCsv (raw : String) : List String :=
  ((raw.toList.splitOn ',').map fun item => strip (String.ofList item)).filter (· ≠ "")

theorem strip_of_mem_splitCsv {raw item : String} (member : item ∈ splitCsv raw) : strip item = item := by
  obtain ⟨piece, -, rfl⟩ := List.mem_map.1 (List.mem_of_mem_filter member)
  exact strip_strip _

/-- `_load_provider_model_list`: the default is always on the list. -/
def loadProviderModelList (env : Environ) (defaultEnv allowedEnv fallbackDefault : String) : ProviderModels :=
  let modelDefault := strip ((env defaultEnv).getD fallbackDefault)
  let rawAllowed := strip ((env allowedEnv).getD "")
  let allowedModels := if rawAllowed = "" then [modelDefault] else splitCsv rawAllowed
  have trimmed : ∀ model ∈ allowedModels, strip model = model := by
    intro model member
    by_cases unset : rawAllowed = ""
    · simp only [allowedModels, unset, if_true, List.mem_singleton] at member
      rw [member]
      exact strip_strip _
    · simp only [allowedModels, unset, if_false] at member
      exact strip_of_mem_splitCsv member
  if listed : modelDefault ∈ allowedModels then ⟨modelDefault, allowedModels, listed, trimmed⟩
  else
    ⟨modelDefault, modelDefault :: allowedModels, List.mem_cons_self,
      List.forall_mem_cons.2 ⟨strip_strip _, trimmed⟩⟩

/-- The settings that the resolution of a request reads. -/
structure Settings where
  mlxAudio : ProviderModels
  voxtral : ProviderModels
  vllmOmni : ProviderModels
  defaultPreset : String

/-- `_load_provider_models` and `_load_presets_settings`, as far as the resolution of a
request depends on them. -/
def Settings.load (env : Environ) : Settings where
  mlxAudio := loadProviderModelList env "TTS_MLX_AUDIO_MODEL_DEFAULT" "TTS_MLX_AUDIO_MODEL_ALLOWED"
    "Qwen/Qwen3-TTS-12Hz-0.6B-Base"
  voxtral := loadProviderModelList env "TTS_VOXTRAL_MODEL_DEFAULT" "TTS_VOXTRAL_MODEL_ALLOWED"
    "mlx-community/Voxtral-4B-TTS-2603-mlx-4bit"
  vllmOmni := loadProviderModelList env "TTS_VLLM_OMNI_MODEL_DEFAULT" "TTS_VLLM_OMNI_MODEL_ALLOWED"
    "vllm-omni/default-tts"
  defaultPreset :=
    let rawPreset := strip ((env "TTS_DEFAULT_PRESET").getD "")
    if rawPreset = "" then "balanced" else rawPreset

/-- The settings of an empty environment. -/
def plainSettings : Settings := Settings.load fun _ => none

/-- The slot of a provider; an unknown name gets the one of `mlx_audio`. -/
def Settings.models (settings : Settings) (provider : String) : ProviderModels :=
  if provider = "vllm-omni" then settings.vllmOmni
  else if provider = "voxtral" then settings.voxtral
  else settings.mlxAudio

/-- `tts_model_default_for_provider`. -/
def Settings.modelDefaultForProvider (settings : Settings) (provider : String) : String :=
  (settings.models provider).default

/-- `tts_model_allowed_for_provider`. -/
def Settings.modelAllowedForProvider (settings : Settings) (provider : String) : List String :=
  (settings.models provider).allowed

/-- The model default of a provider is on its allow-list. -/
theorem Settings.default_mem (settings : Settings) (provider : String) :
    settings.modelDefaultForProvider provider ∈ settings.modelAllowedForProvider provider :=
  (settings.models provider).listed

end LlmTts
