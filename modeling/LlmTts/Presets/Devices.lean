import LlmTts.Presets.Allowed
import LlmTts.Presets.Reload

/-!
# The device of a pinned provider

Auto-selection asks that the provider declare the device. The cross-check of the pins
asks only that the provider be registered, and `build_default_dependencies` registers
every provider on every host. `declares_iff` says when a request is still routed to a
provider that declares the device.
-/

namespace LlmTts
open Python

/-- The provider that a preset pins, if any, declares the device. -/
def PresetDefaults.Declares (defaults : PresetDefaults) (providers : TTSProviderRegistry) (device : Device) : Prop :=
  ∀ pin ∈ defaults.provider, ∀ strategy ∈ providers.find pin, device ∈ strategy.supportsDevices

/-- A pin that passed the cross-check stands for itself. -/
theorem PresetDefaults.Pinned.itself {defaults : PresetDefaults} {settings : Settings}
    {providers : TTSProviderRegistry} (pinned : defaults.Pinned (allowListsFromSettings settings (some providers)))
    {pin : String} (pins : defaults.provider = some pin) : setText (some pin) = some pin := by
  obtain ⟨allowed, listed, -⟩ := pinned pin pins
  have slot := (allowLists_get listed).1
  have identifiers : ∀ name ∈ ["mlx_audio", "voxtral", "vllm-omni"], strip name = name ∧ name ≠ "" := by decide
  exact setText_of_trimmed (identifiers pin slot).1 (identifiers pin slot).2

section Route

variable {settings : Settings} {providers : TTSProviderRegistry} {device : Device} {override : Option String}
  {selection : ProviderSelection} {request : SynthesizeRequest} {defaults : PresetDefaults}
  {provider model name : String} {strategy : TTSProviderStrategy}

/-- A request without a provider is routed to the pinned provider, or else to the
selected one. -/
theorem routed_find (pinned : defaults.Pinned (allowListsFromSettings settings (some providers)))
    (unnamed : request.provider = none)
    (resolved : resolveProviderAndModel settings providers selection (effectiveConfig request name defaults) =
      .ok (provider, model, strategy)) :
    providers.find (defaults.provider.getD selection.providerName) = some strategy := by
  obtain ⟨rfl, -, found⟩ := resolved_names resolved
  rw [providerName_eq] at found
  have picked : (effectiveConfig request name defaults).provider = defaults.provider := by
    unfold effectiveConfig
    rw [unnamed]
    rfl
  rw [picked] at found
  cases pins : defaults.provider with
  | none =>
    rw [pins] at found
    exact found
  | some pin =>
    rw [pins, pinned.itself pins] at found
    exact found

theorem routed_supports_iff (selected : selectProvider device providers override = .ok selection)
    (pinned : defaults.Pinned (allowListsFromSettings settings (some providers)))
    (unnamed : request.provider = none)
    (resolved : resolveProviderAndModel settings providers selection (effectiveConfig request name defaults) =
      .ok (provider, model, strategy)) :
    device ∈ strategy.supportsDevices ↔ defaults.Declares providers device := by
  have found := routed_find pinned unnamed resolved
  unfold PresetDefaults.Declares
  cases pins : defaults.provider with
  | none =>
    rw [pins] at found
    obtain ⟨own, there, supports⟩ := selectProvider_ok selected
    cases there.symm.trans found
    exact iff_of_true supports nofun
  | some pin =>
    rw [pins] at found
    constructor
    · intro supports other same strategy' there
      cases same
      cases found.symm.trans there
      exact supports
    · intro declares
      exact declares pin rfl strategy found

end Route

/-- **The device of the provider.** For all devices, provider registries and selections,
and every preset registry that is live after the start and any reloads: the provider to
which a request without one is routed declares the device if and only if the preset it
selects pins no provider, or one that declares the device. -/
theorem declares_iff (modelValidate : ModelValidate) (path : String) (settings : Settings)
    (providers : TTSProviderRegistry) {device : Device} {override : Option String} {selection : ProviderSelection}
    (selected : selectProvider device providers override = .ok selection)
    (processUid : Option Nat) (stat : Except String FileStat) (file : PresetsFile) {start : PresetRegistry}
    (accepted : initializePresetRegistry modelValidate path settings (some providers) processUid stat file = .ok start)
    (files : List PresetsFile) (request : SynthesizeRequest) (unnamed : request.provider = none) {entry : PresetEntry}
    (found : (reloads modelValidate path settings (some providers) start files).get (request.presetName settings) =
      some entry) :
    ∃ effective, resolvePreset request (reloads modelValidate path settings (some providers) start files) settings =
        .ok effective ∧
      ∀ provider model strategy,
        resolveProviderAndModel settings providers selection effective = .ok (provider, model, strategy) →
        (device ∈ strategy.supportsDevices ↔ entry.defaults.Declares providers device) := by
  refine ⟨_, resolvePreset_of_get found, fun provider model strategy resolved => ?_⟩
  obtain ⟨source, passed⟩ := reloads_passed ⟨file, initialize_passes accepted⟩ files
  have pinned := passed.pinned _ (PresetRegistry.mem_of_get found)
  exact routed_supports_iff selected pinned unnamed resolved

/-- A request that asks for the preset `reading` and names no provider. -/
def readingRequest : SynthesizeRequest := { input := "ciao", preset := some "reading" }

theorem readingRequest_declares :
    ∃ effective, resolvePreset readingRequest (reloads validatePins "config/presets.json" plainSettings
        (some defaultProviderRegistry) (pinRegistry "mlx_audio") [pinFile "voxtral"]) plainSettings = .ok effective ∧
      ∀ provider model strategy,
        resolveProviderAndModel plainSettings defaultProviderRegistry ⟨"mlx_audio", .mps, .auto⟩ effective =
          .ok (provider, model, strategy) →
        Device.mps ∈ strategy.supportsDevices := by
  have selected : selectProvider .mps defaultProviderRegistry none = .ok ⟨"mlx_audio", .mps, .auto⟩ := rfl
  obtain ⟨effective, resolved, supports⟩ := declares_iff validatePins "config/presets.json" plainSettings
    defaultProviderRegistry selected (some 1000) (.ok ⟨1000, 0o100644⟩) (pinFile "mlx_audio")
    rfl [pinFile "voxtral"] readingRequest rfl rfl
  refine ⟨effective, resolved, fun provider model strategy routed => (supports provider model strategy routed).2 ?_⟩
  intro pin pins declared found
  cases pins
  cases found
  decide

/-- The start on `mps` accepts a preset that pins the provider for `cuda`. -/
theorem vllmOmni_routed :
    ¬∀ (modelValidate : ModelValidate) (path : String) (settings : Settings) (providers : TTSProviderRegistry)
      (device : Device) (override : Option String) (selection : ProviderSelection) (processUid : Option Nat)
      (stat : Except String FileStat) (file : PresetsFile) (start : PresetRegistry) (files : List PresetsFile)
      (request : SynthesizeRequest) (effective : EffectiveSynthesisConfig) (provider model : String)
      (strategy : TTSProviderStrategy),
      selectProvider device providers override = .ok selection →
      initializePresetRegistry modelValidate path settings (some providers) processUid stat file = .ok start →
      request.provider = none →
      resolvePreset request (reloads modelValidate path settings (some providers) start files) settings =
        .ok effective →
      resolveProviderAndModel settings providers selection effective = .ok (provider, model, strategy) →
      device ∈ strategy.supportsDevices := by
  intro claim
  have supports := claim validatePins "config/presets.json" plainSettings defaultProviderRegistry .mps none
    ⟨"mlx_audio", .mps, .auto⟩ (some 1000) (.ok ⟨1000, 0o100644⟩) (pinFile "vllm-omni") (pinRegistry "vllm-omni")
    [] readingRequest _ _ _ ⟨"vllm-omni", [.cuda]⟩ rfl rfl rfl rfl rfl
  exact absurd supports (by decide)

end LlmTts
