import LlmTts.Lib.Checked
import LlmTts.Providers.Selection
import LlmTts.Settings

/-!
# Presets

The entries of `presets.json`, the registry of them, and the cross-check of the
pinned providers and models against the allow-lists.
-/

namespace LlmTts
open Python Checked

/-- `PresetPostprocess`. -/
structure PresetPostprocess where
  rmsNormalize : Bool
  silenceTrim : Bool
  denoise : Bool
  deriving DecidableEq, Repr

/-- The formats a preset can ask for. -/
inductive ResponseFormat where
  | wav
  | wav24
  | flac
  deriving DecidableEq, Repr

def ResponseFormat.name : ResponseFormat → String
  | wav => "wav"
  | wav24 => "wav24"
  | flac => "flac"

/-- `PresetDefaults`. -/
structure PresetDefaults where
  provider : Option String := none
  model : Option String := none
  temperature : Option PyFloat := none
  topP : Option PyFloat := none
  maxSentencesPerChunk : Option Int := none
  normalizeDb : Option PyFloat := none
  responseFormat : Option ResponseFormat := none
  postprocess : Option PresetPostprocess := none
  language : Option String := none
  numberLang : Option String := none
  voice : Option String := none
  deriving DecidableEq

/-- What the schema asks of the numbers of `PresetDefaults`. The checks `ge`, `gt` and `le`
refuse a number that compares the wrong way; NaN, which compares in no way, passes them. -/
structure PresetDefaults.Conforms (defaults : PresetDefaults) : Prop where
  temperature : ∀ x ∈ defaults.temperature, x.lt (.finite 0) = false ∧ PyFloat.lt (.finite 2) x = false
  topP : ∀ x ∈ defaults.topP, x.le (.finite 0) = false ∧ PyFloat.lt (.finite 1) x = false
  maxSentencesPerChunk : ∀ n ∈ defaults.maxSentencesPerChunk, 1 ≤ n

instance (defaults : PresetDefaults) : Decidable defaults.Conforms :=
  decidable_of_iff
    ((∀ x ∈ defaults.temperature, x.lt (.finite 0) = false ∧ PyFloat.lt (.finite 2) x = false) ∧
      (∀ x ∈ defaults.topP, x.le (.finite 0) = false ∧ PyFloat.lt (.finite 1) x = false) ∧
      ∀ n ∈ defaults.maxSentencesPerChunk, 1 ≤ n)
    ⟨fun ⟨temperature, topP, maxSentences⟩ => ⟨temperature, topP, maxSentences⟩,
      fun conforms => ⟨conforms.temperature, conforms.topP, conforms.maxSentencesPerChunk⟩⟩

example : PresetDefaults.Conforms { temperature := some .nan } := by decide

/-- `PresetEntry`. -/
structure PresetEntry where
  label : String
  description : String
  defaults : PresetDefaults
  deriving DecidableEq

/-- `PresetRegistry`: a dictionary from names to entries. -/
structure PresetRegistry where
  presets : List (String × PresetEntry)
  distinct : (presets.map Prod.fst).Nodup

namespace PresetRegistry

/-- `get()`. -/
def get (registry : PresetRegistry) (name : String) : Option PresetEntry := dictGet registry.presets name

/-- `names()`. -/
def names (registry : PresetRegistry) : List String := registry.presets.map Prod.fst

theorem mem_of_get {registry : PresetRegistry} {name : String} {entry : PresetEntry}
    (found : registry.get name = some entry) : (name, entry) ∈ registry.presets :=
  mem_of_dictGet found

/-- A name of the registry has an entry. -/
theorem get_of_mem_names {registry : PresetRegistry} {name : String} (member : name ∈ registry.names) :
    ∃ entry, registry.get name = some entry :=
  Option.isSome_iff_exists.1 (dictGet_isSome_iff.2 member)

end PresetRegistry

/-! ## The provider cross-check -/

/-- The allowed models of each provider that a preset may pin. -/
abbrev AllowLists : Type := List (String × List String)

/-- `_allow_lists_from_settings`. -/
def allowListsFromSettings (settings : Settings) (providerRegistry : Option TTSProviderRegistry) : AllowLists :=
  let raw := [("mlx_audio", settings.mlxAudio.allowed), ("voxtral", settings.voxtral.allowed),
    ("vllm-omni", settings.vllmOmni.allowed)]
  match providerRegistry with
  | none => raw
  | some registry => raw.filter fun item => item.1 ∈ registry.names

/-- The text of a list of strings. -/
def reprList : List String → Message
  | [] => [.text "[]"]
  | name :: names => [.text "[", .repr name] ++ names.flatMap (fun name => [.text ", ", .repr name]) ++ [.text "]"]

/-- `sorted` of strings. -/
def sortedNames (names : List String) : List String := names.mergeSort fun a b => decide (a ≤ b)

/-- The message of a `PresetProviderInvalidError`. -/
structure PresetProviderInvalidError where
  message : Message
  deriving DecidableEq, Repr

/-- The check of one preset in `validate_preset_providers`. -/
def validatePresetPins (allowLists : AllowLists) (name : String) (defaults : PresetDefaults) :
    Except PresetProviderInvalidError Unit :=
  match defaults.provider with
  | none => .ok ()
  | some provider =>
    match dictGet allowLists provider with
    | none =>
      .error ⟨[.text "preset ", .repr name, .text " pins unknown provider ", .repr provider,
        .text "; known providers: "] ++ reprList (sortedNames (allowLists.map Prod.fst))⟩
    | some allowed =>
      match defaults.model with
      | none => .ok ()
      | some model =>
        if model ∈ allowed then .ok ()
        else
          .error ⟨[.text "preset ", .repr name, .text " pins model ", .repr model, .text " for provider ",
            .repr provider, .text ", but that model is not in the provider's allow-list"]⟩

/-- `validate_preset_providers`. -/
def validatePresetProviders (registry : PresetRegistry) (allowLists : AllowLists) :
    Except PresetProviderInvalidError Unit :=
  registry.presets.forM fun item => validatePresetPins allowLists item.1 item.2.defaults

/-- What the cross-check asks of a preset: its provider has an allow-list, with its model on it. -/
def PresetDefaults.Pinned (defaults : PresetDefaults) (allowLists : AllowLists) : Prop :=
  ∀ provider, defaults.provider = some provider → ∃ allowed, dictGet allowLists provider = some allowed ∧
    ∀ model, defaults.model = some model → model ∈ allowed

theorem validatePresetPins_ok_iff {allowLists : AllowLists} {name : String} {defaults : PresetDefaults} :
    validatePresetPins allowLists name defaults = .ok () ↔ defaults.Pinned allowLists := by
  unfold validatePresetPins PresetDefaults.Pinned
  cases defaults.provider with
  | none => exact iff_of_true rfl nofun
  | some provider =>
    cases found : dictGet allowLists provider with
    | none => simp [found]
    | some allowed =>
      cases defaults.model with
      | none => simp [found]
      | some model => by_cases member : model ∈ allowed <;> simp [found, member]

theorem validatePresetProviders_ok_iff {registry : PresetRegistry} {allowLists : AllowLists} :
    validatePresetProviders registry allowLists = .ok () ↔
      ∀ item ∈ registry.presets, item.2.defaults.Pinned allowLists := by
  unfold validatePresetProviders
  rw [forM_ok_iff]
  exact forall₂_congr fun item _ => validatePresetPins_ok_iff

/-- A pinned provider has a slot, is registered, and its models are those of the
settings. -/
theorem allowLists_get {settings : Settings} {registry : TTSProviderRegistry} {provider : String}
    {allowed : List String}
    (found : dictGet (allowListsFromSettings settings (some registry)) provider = some allowed) :
    provider ∈ ["mlx_audio", "voxtral", "vllm-omni"] ∧ provider ∈ registry.names ∧
      allowed = settings.modelAllowedForProvider provider := by
  have member := mem_of_dictGet found
  simp only [allowListsFromSettings, List.mem_filter, List.mem_cons, Prod.mk.injEq, List.not_mem_nil, or_false,
    decide_eq_true_eq] at member
  obtain ⟨slot, registered⟩ := member
  rcases slot with ⟨rfl, rfl⟩ | ⟨rfl, rfl⟩ | ⟨rfl, rfl⟩
  · exact ⟨by simp, registered, rfl⟩
  · exact ⟨by simp, registered, rfl⟩
  · exact ⟨by simp, registered, rfl⟩

/-- Every pinned provider is registered, and every model pinned with it is on its
allow-list. -/
def PresetDefaults.Allowed (defaults : PresetDefaults) (settings : Settings) (providers : TTSProviderRegistry) : Prop :=
  ∀ provider, defaults.provider = some provider → provider ∈ providers.names ∧
    ∀ model, defaults.model = some model → model ∈ settings.modelAllowedForProvider provider

theorem PresetDefaults.Pinned.allowed {defaults : PresetDefaults} {settings : Settings}
    {providers : TTSProviderRegistry} (pinned : defaults.Pinned (allowListsFromSettings settings (some providers))) :
    defaults.Allowed settings providers := by
  intro provider pin
  obtain ⟨allowed, listed, models⟩ := pinned provider pin
  obtain ⟨-, registered, rfl⟩ := allowLists_get listed
  exact ⟨registered, models⟩

end LlmTts
