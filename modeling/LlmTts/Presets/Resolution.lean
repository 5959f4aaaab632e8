import LlmTts.Lib.FloatText
import LlmTts.Presets.Config
import LlmTts.Synthesis.Streaming
import LlmTts.Voice.Records

/-!
# Resolution of a request

`resolve_preset`, the voice fallback of `synthesize_core`,
`_resolve_provider_and_model` and `_build_voice_config`: each knob comes from the
request, the preset, or a default.
-/

namespace LlmTts
open Python

/-- `SynthesizeRequest`. Its format is always `wav`. -/
structure SynthesizeRequest where
  input : String
  voice : Option String := none
  provider : Option String := none
  model : Option String := none
  stream : Bool := false
  preset : Option String := none
  normalizeDb : Option PyFloat := none
  maxSentencesPerChunk : Option Int := none
  language : Option String := none
  numberLang : Option String := none
  temperature : Option PyFloat := none
  topP : Option PyFloat := none
  deriving DecidableEq

/-- `EffectiveSynthesisConfig`. -/
structure EffectiveSynthesisConfig where
  presetName : String
  provider : Option String
  model : Option String
  temperature : Option PyFloat
  topP : Option PyFloat
  maxSentencesPerChunk : Option Int
  normalizeDb : Option PyFloat
  responseFormat : ResponseFormat
  postprocess : Option PresetPostprocess
  language : Option String
  numberLang : Option String
  voice : Option String
  ignoredKnobs : List String
  effectiveOverrides : List (String × String)

section Pick

variable {α : Type}

/-- The value `_pick` returns. -/
def pick (explicit presetValue : Option α) : Option α :=
  match explicit with
  | some value => some value
  | none => presetValue

/-- What `_pick` records in `overrides`. -/
def overrideOf [PyValue α] (fieldName : String) (explicit presetValue : Option α) : List (String × String) :=
  match explicit, presetValue with
  | some value, some preset => if PyValue.eq value preset then [] else [(fieldName, PyValue.str value)]
  | _, _ => []

end Pick

/-- `resolve_preset` for the entry it found. -/
def effectiveConfig (request : SynthesizeRequest) (name : String) (defaults : PresetDefaults) :
    EffectiveSynthesisConfig where
  presetName := name
  provider := pick request.provider defaults.provider
  model := pick request.model defaults.model
  temperature := pick request.temperature defaults.temperature
  topP := pick request.topP defaults.topP
  maxSentencesPerChunk := pick request.maxSentencesPerChunk defaults.maxSentencesPerChunk
  normalizeDb := pick request.normalizeDb defaults.normalizeDb
  responseFormat := defaults.responseFormat.getD .wav
  postprocess := defaults.postprocess
  language := pick request.language defaults.language
  numberLang := pick request.numberLang defaults.numberLang
  voice := pick request.voice defaults.voice
  ignoredKnobs := if defaults.responseFormat.getD .wav = .wav then [] else ["response_format"]
  effectiveOverrides :=
    overrideOf "provider" request.provider defaults.provider ++
    overrideOf "model" request.model defaults.model ++
    overrideOf "temperature" request.temperature defaults.temperature ++
    overrideOf "top_p" request.topP defaults.topP ++
    overrideOf "max_sentences_per_chunk" request.maxSentencesPerChunk defaults.maxSentencesPerChunk ++
    overrideOf "normalize_db" request.normalizeDb defaults.normalizeDb ++
    overrideOf "language" request.language defaults.language ++
    overrideOf "number_lang" request.numberLang defaults.numberLang ++
    overrideOf "voice" request.voice defaults.voice

/-- The name of the preset a request selects. -/
def SynthesizeRequest.presetName (request : SynthesizeRequest) (settings : Settings) : String :=
  request.preset.getD settings.defaultPreset

/-- `preset_unknown`. -/
def presetUnknown (name : String) (available : List String) : OpenAIHTTPException :=
  ⟨400, ⟨[.text "unknown preset ", .repr name, .text "; available presets: "] ++ reprList (sortedNames available),
    .validationError, "preset_unknown", some "preset"⟩⟩

/-- `resolve_preset`. -/
def resolvePreset (request : SynthesizeRequest) (snapshot : PresetRegistry) (settings : Settings) :
    Except OpenAIHTTPException EffectiveSynthesisConfig :=
  let name := request.presetName settings
  match snapshot.get name with
  | none => .error (presetUnknown name snapshot.names)
  | some entry => .ok (effectiveConfig request name entry.defaults)

/-- `value or fallback` of an optional string. -/
def textOr (value : Option String) (fallback : String) : String :=
  match value with
  | none => fallback
  | some text => if text = "" then fallback else text

/-- `resolved_voice` in `synthesize_core`. -/
def resolvedVoice (payload : SynthesizeRequest) (effective : EffectiveSynthesisConfig) : String :=
  strip (textOr payload.voice (textOr effective.voice ""))

/-- `provider_name` in `_resolve_provider_and_model`. -/
def providerName (selection : ProviderSelection) (effective : EffectiveSynthesisConfig) : String :=
  let name := strip (textOr effective.provider "")
  if name = "" then selection.providerName else name

/-- `model_name` in `_resolve_provider_and_model`. -/
def modelName (settings : Settings) (selection : ProviderSelection) (effective : EffectiveSynthesisConfig) : String :=
  let name := strip (textOr effective.model "")
  if name = "" then settings.modelDefaultForProvider (providerName selection effective) else name

/-- `unknown_model`. -/
def unknownModel (model provider : String) : OpenAIHTTPException :=
  invalidRequest [.text "model ", .repr model, .text " is not allowed for provider ", .repr provider]
    (some "model") "unknown_model"

/-- `_resolve_provider_and_model`. -/
def resolveProviderAndModel (settings : Settings) (providerRegistry : TTSProviderRegistry)
    (selection : ProviderSelection) (effective : EffectiveSynthesisConfig) :
    Except OpenAIHTTPException (String × String × TTSProviderStrategy) := do
  let provider := providerName selection effective
  let strategy ← providerRegistry.get provider
  let model := modelName settings selection effective
  let allowedModels := settings.modelAllowedForProvider provider
  if allowedModels ≠ [] ∧ model ∉ allowedModels then .error (unknownModel model provider)
  else .ok (provider, model, strategy)

/-- `_build_voice_config`. -/
def buildVoiceConfig (record : VoiceRecord) (tmpPath : String) (effective : EffectiveSynthesisConfig) :
    VoiceConfig where
  refAudioPath := tmpPath
  refText := record.transcript
  language :=
    let language := strip (textOr effective.language record.language)
    if language = "" then record.language else language
  numberLang := effective.numberLang.getD record.numberLang
  temperature := effective.temperature.getD record.temperature
  topP := effective.topP.getD record.topP
  targetDb := effective.normalizeDb.getD record.targetDb
  maxSentencesPerChunk := (effective.maxSentencesPerChunk.map .int).getD record.maxSentencesPerChunk

/-- A preset that is found gives the effective configuration. -/
theorem resolvePreset_of_get {request : SynthesizeRequest} {snapshot : PresetRegistry} {settings : Settings}
    {entry : PresetEntry} (found : snapshot.get (request.presetName settings) = some entry) :
    resolvePreset request snapshot settings =
      .ok (effectiveConfig request (request.presetName settings) entry.defaults) := by
  simp only [resolvePreset, found]

end LlmTts
