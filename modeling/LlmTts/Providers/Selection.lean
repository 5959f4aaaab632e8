import LlmTts.Errors

/-!
# The provider registry and auto-selection

`TTSProviderRegistry` and `select_provider`: the first registered provider that
declares the device, or the one that `TTS_PROVIDER` names, if it declares the device.
-/

namespace LlmTts
open Python

/-- `Device`. -/
inductive Device where
  | mps
  | cuda
  | cpu
  deriving DecidableEq, Repr

def Device.name : Device → String
  | mps => "mps"
  | cuda => "cuda"
  | cpu => "cpu"

/-- What the registry and the selection read of a `TTSProviderStrategy`. -/
structure TTSProviderStrategy where
  providerName : String
  supportsDevices : List Device
  deriving DecidableEq, Repr

/-- `sorted(provider.supports_devices)`, as text. -/
def TTSProviderStrategy.sortedDevices (provider : TTSProviderStrategy) : String :=
  let devices := [Device.cpu, .cuda, .mps].filter (· ∈ provider.supportsDevices)
  "[" ++ ", ".intercalate (devices.map fun device => "'" ++ device.name ++ "'") ++ "]"

/-- `TTSProviderRegistry`: a dictionary from names to providers. -/
structure TTSProviderRegistry where
  providers : List TTSProviderStrategy
  distinct : (providers.map (·.providerName)).Nodup

namespace TTSProviderRegistry

/-- `names()`. -/
def names (registry : TTSProviderRegistry) : List String := registry.providers.map (·.providerName)

/-- `find()`. -/
def find (registry : TTSProviderRegistry) (providerName : String) : Option TTSProviderStrategy :=
  registry.providers.find? fun provider => provider.providerName = providerName

/-- The lower case of a name, where it can begin with ASCII letters. -/
def lowered (name : String) : List Char :=
  name.toList.flatMap fun c =>
    if c.toNat = 0x212A then ['k']
    else if c.toNat = 0x130 then ['i', Char.ofNat 0x307]
    else [c.toLower]

/-- `_looks_like_model_name`. -/
def looksLikeModelName (name : String) : Bool :=
  '/' ∈ name.toList ||
    ["qwen", "voxtral-mini", "voxtral-small", "llama", "mistral"].any fun family =>
      family.toList.isPrefixOf (lowered name)

/-- The message for a provider that is not registered. -/
def unsupportedMessage (registry : TTSProviderRegistry) (providerName : String) : Message :=
  [.text ("provider '" ++ providerName ++ "' is not supported. Valid providers: " ++
    ", ".intercalate registry.names ++ ".")] ++
  if looksLikeModelName providerName then
    [.text (" Note: '" ++ providerName ++ "' refers to a model family, not a provider — " ++
      "use provider='mlx_audio' with the desired model (e.g. model='Qwen/Qwen3-TTS-12Hz-0.6B-Base').")]
  else []

/-- `get()`. -/
def get (registry : TTSProviderRegistry) (providerName : String) :
    Except OpenAIHTTPException TTSProviderStrategy :=
  match registry.find providerName with
  | none => .error (invalidRequest (registry.unsupportedMessage providerName) (some "provider"))
  | some provider => .ok provider

variable {registry : TTSProviderRegistry} {providerName : String} {provider : TTSProviderStrategy}

theorem find_some (found : registry.find providerName = some provider) :
    provider ∈ registry.providers ∧ provider.providerName = providerName :=
  ⟨List.mem_of_find?_eq_some found, by simpa using List.find?_some found⟩

/-- A registered provider is found under its name. -/
theorem find_of_mem (member : provider ∈ registry.providers) :
    registry.find provider.providerName = some provider := by
  cases found : registry.find provider.providerName with
  | none =>
    have absent := List.find?_eq_none.1 found provider member
    exact absurd (decide_eq_true rfl) absent
  | some other =>
    obtain ⟨there, same⟩ := find_some found
    exact congrArg some (List.inj_on_of_nodup_map registry.distinct there member same)

theorem get_ok_iff : registry.get providerName = .ok provider ↔ registry.find providerName = some provider := by
  unfold get
  cases registry.find providerName with
  | none => exact iff_of_false nofun nofun
  | some other =>
    exact ⟨fun same => congrArg some (Except.ok.inj same), fun same => congrArg Except.ok (Option.some.inj same)⟩

theorem mem_names_iff : providerName ∈ registry.names ↔ ∃ provider, registry.find providerName = some provider := by
  constructor
  · intro member
    obtain ⟨provider, there, rfl⟩ := List.mem_map.1 member
    exact ⟨provider, find_of_mem there⟩
  · rintro ⟨provider, found⟩
    obtain ⟨there, rfl⟩ := find_some found
    exact List.mem_map_of_mem there

end TTSProviderRegistry

/-! ## Selection -/

/-- `SelectionSource`. -/
inductive SelectionSource where
  | auto
  | env
  deriving DecidableEq, Repr

/-- `ProviderSelection`. -/
structure ProviderSelection where
  providerName : String
  device : Device
  source : SelectionSource
  deriving DecidableEq, Repr

/-- `ProviderRejection`. -/
structure ProviderRejection where
  provider : String
  reason : String
  deriving DecidableEq, Repr

/-- `ProviderSelectionError`. -/
structure ProviderSelectionError where
  message : Message
  rejections : List ProviderRejection
  deriving DecidableEq, Repr

/-- `for_device`. -/
def ProviderSelectionError.forDevice (device : Device) (rejections : List ProviderRejection) :
    ProviderSelectionError where
  message :=
    let rows := "; ".intercalate (rejections.map fun r => r.provider ++ ": " ++ r.reason)
    [.text "provider_error.no_viable_provider: no registered TTS provider supports device ",
      .repr device.name, .text (" (" ++ (if rows = "" then "no providers registered" else rows) ++ ")")]
  rejections := rejections

/-- `for_override`. -/
def ProviderSelectionError.forOverride (override : String) (device : Device) (reason : String) :
    ProviderSelectionError where
  message := [.text "provider_error.no_viable_provider: TTS_PROVIDER=", .repr override,
    .text " cannot serve device ", .repr device.name, .text (": " ++ reason)]
  rejections := [⟨override, reason⟩]

/-- `_validate_override`. -/
def validateOverride (override : String) (device : Device) (registry : TTSProviderRegistry) :
    Except ProviderSelectionError ProviderSelection :=
  match registry.find override with
  | none =>
    let known := ", ".intercalate (registry.names.mergeSort fun a b => decide (a ≤ b))
    let reason := "unknown provider; known providers: " ++ (if known = "" then "(none registered)" else known)
    .error (.forOverride override device reason)
  | some provider =>
    if device ∈ provider.supportsDevices then .ok ⟨override, device, .env⟩
    else
      let reason := "provider supports devices " ++ provider.sortedDevices ++ " but device is '" ++ device.name ++ "'"
      .error (.forOverride override device reason)

/-- The loop of `_select_auto`. -/
def selectAuto (device : Device) (rejections : List ProviderRejection) :
    List TTSProviderStrategy → Except ProviderSelectionError ProviderSelection
  | [] => .error (.forDevice device rejections)
  | provider :: providers =>
    if device ∈ provider.supportsDevices then .ok ⟨provider.providerName, device, .auto⟩
    else selectAuto device
      (rejections ++ [⟨provider.providerName, "supports_devices=" ++ provider.sortedDevices⟩]) providers

/-- `select_provider`. `override` is the name in `TTS_PROVIDER`, if there is one. -/
def selectProvider (device : Device) (registry : TTSProviderRegistry) (override : Option String) :
    Except ProviderSelectionError ProviderSelection :=
  match override with
  | some override => validateOverride override device registry
  | none => selectAuto device [] registry.providers

theorem selectAuto_ok {device : Device} {rejections : List ProviderRejection}
    {providers : List TTSProviderStrategy} {selection : ProviderSelection}
    (selected : selectAuto device rejections providers = .ok selection) :
    ∃ provider ∈ providers, provider.providerName = selection.providerName ∧
      device ∈ provider.supportsDevices := by
  induction providers generalizing rejections with
  | nil => cases selected
  | cons provider providers ih =>
    unfold selectAuto at selected
    split at selected
    · rename_i supported
      cases selected
      exact ⟨provider, List.mem_cons_self, rfl, supported⟩
    · obtain ⟨other, member, rest⟩ := ih selected
      exact ⟨other, List.mem_cons_of_mem provider member, rest⟩

/-- The selected provider is registered and declares the device. -/
theorem selectProvider_ok {device : Device} {registry : TTSProviderRegistry} {override : Option String}
    {selection : ProviderSelection} (selected : selectProvider device registry override = .ok selection) :
    ∃ provider, registry.find selection.providerName = some provider ∧ device ∈ provider.supportsDevices := by
  cases override with
  | none =>
    obtain ⟨provider, member, name, supported⟩ := selectAuto_ok selected
    exact ⟨provider, name ▸ TTSProviderRegistry.find_of_mem member, supported⟩
  | some override =>
    simp only [selectProvider, validateOverride] at selected
    split at selected
    · cases selected
    · rename_i provider found
      split at selected
      · rename_i supported
        cases selected
        exact ⟨provider, found, supported⟩
      · cases selected

/-! ## The providers of the service -/

/-- `MLXAudioTTSProvider`, `VoxtralTTSProvider` and `VllmOmniTTSProvider`, in the order
`build_default_dependencies` registers them. -/
def defaultProviderRegistry : TTSProviderRegistry where
  providers := [⟨"mlx_audio", [.mps]⟩, ⟨"voxtral", [.mps]⟩, ⟨"vllm-omni", [.cuda]⟩]
  distinct := by decide

end LlmTts
