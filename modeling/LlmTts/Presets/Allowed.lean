import LlmTts.Presets.Precedence

/-!
# The model of a request that names none

The provider and the model of a request are picked independently, although they are
valid as a pair only. `unnamed_model_allowed_iff` says when the pair is valid for a
request without a model.
-/

namespace LlmTts
open Python Checked

section Pair

variable {settings : Settings} {providers : TTSProviderRegistry} {selection : ProviderSelection}
  {effective : EffectiveSynthesisConfig} {strategy : TTSProviderStrategy}

/-- Once the provider is found, only the allow-list can refuse the model. -/
theorem resolveProviderAndModel_of_get (settings : Settings)
    (found : providers.get (providerName selection effective) = .ok strategy) :
    resolveProviderAndModel settings providers selection effective =
      if modelName settings selection effective ∈
          settings.modelAllowedForProvider (providerName selection effective) then
        .ok (providerName selection effective, modelName settings selection effective, strategy)
      else .error (unknownModel (modelName settings selection effective) (providerName selection effective)) := by
  have listed : settings.modelAllowedForProvider (providerName selection effective) ≠ [] :=
    List.ne_nil_of_mem (settings.default_mem _)
  simp only [resolveProviderAndModel, found, bind, Except.bind]
  by_cases allowed : modelName settings selection effective ∈
      settings.modelAllowedForProvider (providerName selection effective)
  · rw [if_pos allowed]
    exact if_neg fun refused => refused.2 allowed
  · rw [if_neg allowed]
    exact if_pos ⟨listed, allowed⟩

/-- What is resolved are the two names, and the provider is registered. -/
theorem resolved_names {provider model : String}
    (resolved : resolveProviderAndModel settings providers selection effective = .ok (provider, model, strategy)) :
    provider = providerName selection effective ∧ model = modelName settings selection effective ∧
      providers.find provider = some strategy := by
  unfold resolveProviderAndModel at resolved
  obtain ⟨found, there, resolved⟩ := bind_ok_iff.1 resolved
  dsimp only at resolved
  split at resolved
  · cases resolved
  · cases resolved
    exact ⟨rfl, rfl, TTSProviderRegistry.get_ok_iff.1 there⟩

/-- A name that is not blank and has no white space around it stands for itself. -/
theorem setText_of_trimmed {name : String} (trimmed : strip name = name) (full : name ≠ "") :
    setText (some name) = some name := by
  have seen : isBlank name = false := by
    rw [Bool.eq_false_iff]
    intro blank
    exact full (trimmed.symm.trans (strip_eq_empty_iff.2 blank))
  rw [setText_full seen, trimmed]

/-- The names of the registry are identifiers. -/
def TTSProviderRegistry.Identifiers (providers : TTSProviderRegistry) : Prop :=
  ∀ name ∈ providers.names, strip name = name ∧ name ≠ ""

theorem defaultProviderRegistry_identifiers : defaultProviderRegistry.Identifiers := by
  unfold TTSProviderRegistry.Identifiers
  decide

variable {request : SynthesizeRequest} {defaults : PresetDefaults}

/-- A registered provider of the request, or else that of the preset, or else the
selected one. -/
theorem providerName_registered (selection : ProviderSelection) (name : String)
    (identifiers : providers.Identifiers)
    (known : ∀ provider ∈ request.provider, provider ∈ providers.names)
    (allowed : defaults.Allowed settings providers) :
    providerName selection (effectiveConfig request name defaults) =
      (request.provider.or defaults.provider).getD selection.providerName := by
  have itself : ∀ provider, provider ∈ providers.names → setText (some provider) = some provider :=
    fun provider member => setText_of_trimmed (identifiers provider member).1 (identifiers provider member).2
  rw [providerName_eq]
  show (setText (pick request.provider defaults.provider)).getD _ = _
  cases explicit : request.provider with
  | some provider =>
    rw [pick, itself provider (known provider explicit)]
    rfl
  | none =>
    cases pin : defaults.provider with
    | some provider =>
      rw [pick, itself provider (allowed provider pin).1]
      rfl
    | none => rfl

theorem providerName_mem (name : String) (identifiers : providers.Identifiers)
    (known : ∀ provider ∈ request.provider, provider ∈ providers.names)
    (allowed : defaults.Allowed settings providers) (selected : selection.providerName ∈ providers.names) :
    providerName selection (effectiveConfig request name defaults) ∈ providers.names := by
  rw [providerName_registered selection name identifiers known allowed]
  cases explicit : request.provider with
  | some provider => exact known provider explicit
  | none =>
    cases pin : defaults.provider with
    | some provider => exact (allowed provider pin).1
    | none => exact selected

/-- The provider that the request names allows the model that the preset pins. -/
def Compatible (settings : Settings) (request : SynthesizeRequest) (defaults : PresetDefaults) : Prop :=
  ∀ provider ∈ request.provider, ∀ model ∈ defaults.model, isBlank model = false →
    model ∈ settings.modelAllowedForProvider provider

theorem modelName_allowed_iff (selection : ProviderSelection) (name : String)
    (identifiers : providers.Identifiers)
    (known : ∀ provider ∈ request.provider, provider ∈ providers.names)
    (allowed : defaults.Allowed settings providers) (unnamed : request.model = none)
    (pins : defaults.model.isSome → defaults.provider.isSome) :
    modelName settings selection (effectiveConfig request name defaults) ∈ settings.modelAllowedForProvider
        (providerName selection (effectiveConfig request name defaults)) ↔
      Compatible settings request defaults := by
  have model : modelName settings selection (effectiveConfig request name defaults) =
      (setText defaults.model).getD (settings.modelDefaultForProvider
        (providerName selection (effectiveConfig request name defaults))) := by
    rw [modelName_eq]
    show (setText (pick request.model defaults.model)).getD _ = _
    rw [unnamed]
    rfl
  rw [model]
  cases pinned : defaults.model with
  | none =>
    refine iff_of_true (settings.default_mem _) fun provider _ model member => ?_
    rw [pinned] at member
    cases member
  | some model =>
    cases blank : isBlank model with
    | true =>
      rw [setText_blank blank]
      refine iff_of_true (settings.default_mem _) fun provider _ other member full => ?_
      rw [pinned] at member
      cases member
      exact nomatch blank.symm.trans full
    | false =>
      obtain ⟨pin, pinProvider⟩ := Option.isSome_iff_exists.1 (pins (by rw [pinned]; rfl))
      have listed := (allowed pin pinProvider).2 model pinned
      have trimmed : strip model = model := (settings.models pin).trimmed model listed
      rw [setText_full blank, trimmed, Option.getD_some,
        providerName_registered selection name identifiers known allowed, pinProvider]
      cases explicit : request.provider with
      | none =>
        refine iff_of_true listed fun provider member => ?_
        rw [explicit] at member
        cases member
      | some provider =>
        constructor
        · intro fits other member model' here _
          rw [explicit] at member
          rw [pinned] at here
          cases member
          cases here
          exact fits
        · intro compatible
          exact compatible provider explicit model pinned blank

end Pair

/-- **The model of a request that names none.** For all settings, provider registries
whose names are identifiers, selections and validated presets that pin a model only
with a provider: a request without a model, whose provider is absent or registered, is
resolved to a model on the allow-list of its provider if and only if the provider that
it names, if any, allows the model that its preset pins, if any. Otherwise it gets
`unknown_model`. -/
theorem unnamed_model_allowed_iff (settings : Settings) {providers : TTSProviderRegistry}
    (identifiers : providers.Identifiers) {device : Device} {override : Option String}
    {selection : ProviderSelection} (selected : selectProvider device providers override = .ok selection)
    (snapshot : PresetRegistry)
    (valid : validatePresetProviders snapshot (allowListsFromSettings settings (some providers)) = .ok ())
    (pins : ∀ item ∈ snapshot.presets, item.2.defaults.model.isSome → item.2.defaults.provider.isSome)
    (request : SynthesizeRequest) (unnamed : request.model = none)
    (known : ∀ provider ∈ request.provider, provider ∈ providers.names) {entry : PresetEntry}
    (found : snapshot.get (request.presetName settings) = some entry) :
    ∃ effective, resolvePreset request snapshot settings = .ok effective ∧
      ((∃ provider model strategy, resolveProviderAndModel settings providers selection effective =
            .ok (provider, model, strategy) ∧ model ∈ settings.modelAllowedForProvider provider) ↔
        Compatible settings request entry.defaults) ∧
      ((∃ provider model, resolveProviderAndModel settings providers selection effective =
            .error (unknownModel model provider)) ↔ ¬Compatible settings request entry.defaults) := by
  refine ⟨_, resolvePreset_of_get found, ?_⟩
  have member := PresetRegistry.mem_of_get found
  have allowed := (validatePresetProviders_ok_iff.1 valid _ member).allowed
  obtain ⟨own, there, -⟩ := selectProvider_ok selected
  have registered := providerName_mem (request.presetName settings) identifiers known allowed
    (TTSProviderRegistry.mem_names_iff.2 ⟨own, there⟩)
  obtain ⟨strategy, there⟩ := TTSProviderRegistry.mem_names_iff.1 registered
  have fits := modelName_allowed_iff selection (request.presetName settings) identifiers known allowed unnamed
    (pins _ member)
  rw [resolveProviderAndModel_of_get settings (TTSProviderRegistry.get_ok_iff.2 there), ← fits]
  split
  · rename_i good
    exact ⟨iff_of_true ⟨_, _, _, rfl, good⟩ good, iff_of_false nofun (not_not.2 good)⟩
  · rename_i bad
    exact ⟨iff_of_false nofun bad, iff_of_true ⟨_, _, rfl⟩ bad⟩

/-- A preset that pins the default engine and its model. -/
def pinnedPair : PresetDefaults := { provider := some "mlx_audio", model := some "Qwen/Qwen3-TTS-12Hz-0.6B-Base" }

theorem pinnedPair_allowed :
    ∃ effective, resolvePreset { input := "ciao", preset := some "reading" } (onePreset pinnedPair)
        plainSettings = .ok effective ∧
      ∃ provider model strategy, resolveProviderAndModel plainSettings defaultProviderRegistry
          ⟨"mlx_audio", .mps, .auto⟩ effective = .ok (provider, model, strategy) ∧
        model ∈ plainSettings.modelAllowedForProvider provider := by
  have selected : selectProvider .mps defaultProviderRegistry none = .ok ⟨"mlx_audio", .mps, .auto⟩ := rfl
  obtain ⟨effective, resolved, fits, -⟩ := unnamed_model_allowed_iff plainSettings
    defaultProviderRegistry_identifiers selected (onePreset pinnedPair) (by rfl)
    (by intro item member _; cases List.mem_singleton.1 member; rfl)
    { input := "ciao", preset := some "reading" } rfl nofun rfl
  exact ⟨effective, resolved, fits.2 nofun⟩

/-- The preset pins a model of `mlx_audio`, and the request names `voxtral` and no model. -/
theorem voxtral_unknownModel :
    ¬∀ (settings : Settings) (providers : TTSProviderRegistry) (device : Device) (override : Option String)
      (selection : ProviderSelection) (snapshot : PresetRegistry) (request : SynthesizeRequest)
      (effective : EffectiveSynthesisConfig), providers.Identifiers →
      selectProvider device providers override = .ok selection →
      validatePresetProviders snapshot (allowListsFromSettings settings (some providers)) = .ok () →
      (∀ item ∈ snapshot.presets, item.2.defaults.model.isSome → item.2.defaults.provider.isSome) →
      request.model = none → (∀ provider ∈ request.provider, provider ∈ providers.names) →
      resolvePreset request snapshot settings = .ok effective →
      ∃ provider model strategy, resolveProviderAndModel settings providers selection effective =
          .ok (provider, model, strategy) ∧ model ∈ settings.modelAllowedForProvider provider := by
  intro claim
  obtain ⟨provider, model, strategy, resolved, -⟩ := claim plainSettings defaultProviderRegistry .mps none
    ⟨"mlx_audio", .mps, .auto⟩ (onePreset pinnedPair)
    { input := "ciao", preset := some "reading", provider := some "voxtral" } _
    defaultProviderRegistry_identifiers rfl (by rfl)
    (by intro item member _; cases List.mem_singleton.1 member; rfl) rfl
    (by intro provider member; cases member; decide) rfl
  cases resolved

end LlmTts
