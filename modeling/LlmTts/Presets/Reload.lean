import LlmTts.Presets.Resolution

/-!
# The live preset registry

`initialize_preset_registry` at the start of the service and `reload_once` at every
change of the presets file. The two chains repeat the same checks, except that only the
first looks at the permissions of the file; `live_registry` is what they keep together.
-/

namespace LlmTts
open Python Checked

/-! ## Parsing -/

/-- One piece of the `loc` of a pydantic error. -/
inductive LocPiece where
  | key (name : String)
  | index (n : Int)
  deriving DecidableEq, Repr

/-- What `_format_validation_error` reads of an entry of `exc.errors()`. -/
structure ValidationIssue where
  loc : List LocPiece
  msg : Option String
  deriving DecidableEq, Repr

/-- `PresetConfig.model_validate` of the pairs of a JSON object. -/
abbrev ModelValidate : Type := List (String × Json) → Except (List ValidationIssue) (List (String × PresetEntry))

/-- What the calls on the path of the presets file come to. -/
inductive PresetsFile where
  /-- `path.exists()` raises, for instance without permission on the directory. -/
  | unreachable
  | missing
  | notRegular
  /-- `read_text` raises an `OSError`. -/
  | unreadable (exc : String)
  /-- `read_text` raises `UnicodeDecodeError`, which is no `OSError`. -/
  | undecodable
  | notJson (exc : String)
  /-- `json.loads` raises something else than `JSONDecodeError`: too deep a nesting, too
  long an integer. -/
  | unparsable
  | json (raw : Json)

/-- The exceptions of the two chains. -/
inductive PresetsFailure where
  /-- `PresetsInvalidError`. -/
  | invalid (message : Message)
  /-- `PresetsUnsafePermissionsError`. -/
  | unsafePermissions (message : Message)
  | providerInvalid (exc : PresetProviderInvalidError)
  /-- An exception that no `except` of the chains names. -/
  | other
  deriving DecidableEq, Repr

/-- `_format_validation_error`. -/
def formatValidationError (issues : List ValidationIssue) : String :=
  let line (issue : ValidationIssue) : String :=
    let pieces := issue.loc.map fun piece => match piece with
      | .key name => name
      | .index n => s!"[{n}]"
    (".".intercalate ("presets" :: pieces)).replace ".[" "[" ++ ": " ++ issue.msg.getD "invalid value"
  "; ".intercalate (issues.map line)

/-- `load_preset_registry`. -/
def loadPresetRegistry (modelValidate : ModelValidate) (path : String) : PresetsFile → Except PresetsFailure PresetRegistry
  | .unreachable => .error .other
  | .missing => .error (.invalid [.text s!"presets file not found: {path}"])
  | .notRegular => .error (.invalid [.text s!"presets path is not a regular file: {path}"])
  | .unreadable exc => .error (.invalid [.text s!"cannot read presets file {path}: {exc}"])
  | .undecodable => .error .other
  | .notJson exc => .error (.invalid [.text s!"presets.json is not valid JSON: {exc}"])
  | .unparsable => .error .other
  | .json (.obj pairs) =>
    match modelValidate (dictItems pairs) with
    | .error issues => .error (.invalid [.text (formatValidationError issues)])
    | .ok [] => .error (.invalid [.text "presets.json defines no presets"])
    | .ok root => .ok ⟨dictItems root, dictItems_nodup root⟩
  | .json _ => .error (.invalid [.text "presets.json top-level must be a JSON object of name -> preset"])

/-! ## File-permission posture -/

/-- What `check_presets_file_permissions` reads of `path.stat()`. -/
structure FileStat where
  uid : Nat
  mode : Nat
  deriving DecidableEq, Repr

/-- `oct(n)`. -/
def oct (n : Nat) : String := "0o" ++ String.ofList (Nat.toDigits 8 n)

/-- `check_presets_file_permissions`. `processUid` is `os.geteuid()`, where there is one. -/
def checkPresetsFilePermissions (path : String) (processUid : Option Nat) (stat : Except String FileStat) :
    Except PresetsFailure Unit := do
  let st ← stat.mapError fun exc => .unsafePermissions [.text s!"cannot stat presets file {path}: {exc}"]
  if let some uid := processUid then
    if st.uid ≠ uid then
      throw (.unsafePermissions
        [.text s!"presets file {path} is owned by uid={st.uid} but service runs as uid={uid}"])
  if st.mode &&& 0o2 ≠ 0 then
    throw (.unsafePermissions
      [.text (s!"presets file {path} is world-writable (mode=" ++ oct (st.mode &&& 0o777) ++ ")")])

/-! ## The two chains -/

section Chains

variable (modelValidate : ModelValidate) (path : String) (settings : Settings)
  (providerRegistry : Option TTSProviderRegistry)

/-- `initialize_preset_registry`. -/
def initializePresetRegistry (processUid : Option Nat) (stat : Except String FileStat) (file : PresetsFile) :
    Except PresetsFailure PresetRegistry := do
  checkPresetsFilePermissions path processUid stat
  let registry ← loadPresetRegistry modelValidate path file
  if settings.defaultPreset ∉ registry.names then
    throw (.invalid ([.text "TTS_DEFAULT_PRESET=", .repr settings.defaultPreset,
      .text s!" does not match any preset in {path}; defined presets: "] ++ reprList (sortedNames registry.names)))
  (validatePresetProviders registry (allowListsFromSettings settings providerRegistry)).mapError .providerInvalid
  return registry

/-- What a reload ends in: the new registry handed to `on_swap`, a warning with a code
and a reason, or an exception. -/
inductive ReloadOutcome where
  | swapped
  | refused (code : String) (reason : Message)
  | raised
  deriving DecidableEq, Repr

/-- `reload_once` on the registry of `app.state`. -/
def reloadOnce (live : PresetRegistry) (file : PresetsFile) : ReloadOutcome × PresetRegistry :=
  match loadPresetRegistry modelValidate path file with
  | .error (.invalid message) => (.refused "config_error.presets_invalid" message, live)
  | .error _ => (.raised, live)
  | .ok registry =>
    if settings.defaultPreset ∉ registry.names then
      (.refused "config_error.presets_invalid" ([.text
        s!"default_preset_unknown default={settings.defaultPreset} defined="] ++
        reprList (sortedNames registry.names)), live)
    else
      match validatePresetProviders registry (allowListsFromSettings settings providerRegistry) with
      | .error exc => (.refused "config_error.preset_provider_invalid" exc.message, live)
      | .ok () => (.swapped, registry)

/-- The registry of `app.state` after a reload of each of `files`. -/
def reloads (start : PresetRegistry) (files : List PresetsFile) : PresetRegistry :=
  files.foldl (fun live file => (reloadOnce modelValidate path settings providerRegistry live file).2) start

/-- The checks of a reload, passed by `file` with the registry it holds. -/
structure PassesChecks (file : PresetsFile) (registry : PresetRegistry) : Prop where
  loads : loadPresetRegistry modelValidate path file = .ok registry
  default : settings.defaultPreset ∈ registry.names
  pinned : ∀ item ∈ registry.presets,
    item.2.defaults.Pinned (allowListsFromSettings settings providerRegistry)

variable {modelValidate path settings providerRegistry}

/-- The chain of the start has made the checks of a reload. -/
theorem initialize_passes {processUid : Option Nat} {stat : Except String FileStat} {file : PresetsFile}
    {start : PresetRegistry}
    (accepted : initializePresetRegistry modelValidate path settings providerRegistry processUid stat file = .ok start) :
    PassesChecks modelValidate path settings providerRegistry file start := by
  unfold initializePresetRegistry at accepted
  obtain ⟨_, -, accepted⟩ := bind_ok_iff.1 accepted
  obtain ⟨registry, loads, accepted⟩ := bind_ok_iff.1 accepted
  split at accepted
  · cases accepted
  · rename_i default
    obtain ⟨_, valid, same⟩ := bind_ok_iff.1 accepted
    cases same
    exact ⟨loads, not_not.1 default, validatePresetProviders_ok_iff.1 (mapError_ok_iff.1 valid)⟩

/-- A reload of a file that passes the checks swaps its registry in. -/
theorem reloadOnce_of_passes {live registry : PresetRegistry} {file : PresetsFile}
    (passes : PassesChecks modelValidate path settings providerRegistry file registry) :
    reloadOnce modelValidate path settings providerRegistry live file = (.swapped, registry) := by
  unfold reloadOnce
  rw [passes.loads]
  dsimp only
  rw [if_neg (not_not.2 passes.default), validatePresetProviders_ok_iff.2 passes.pinned]

/-- A reload of any other file leaves the live registry, also when it raises. -/
theorem reloadOnce_of_fails {file : PresetsFile}
    (fails : ∀ registry, ¬PassesChecks modelValidate path settings providerRegistry file registry)
    (live : PresetRegistry) : (reloadOnce modelValidate path settings providerRegistry live file).2 = live := by
  unfold reloadOnce
  split
  · rfl
  · rfl
  · rename_i registry loads
    split
    · rfl
    · rename_i default
      split
      · rfl
      · rename_i valid
        exact absurd ⟨loads, not_not.1 default, validatePresetProviders_ok_iff.1 valid⟩ (fails registry)

/-- One reload keeps that the live registry has passed the checks. -/
theorem reloadOnce_passed {live : PresetRegistry}
    (passed : ∃ file, PassesChecks modelValidate path settings providerRegistry file live) (file : PresetsFile) :
    ∃ source, PassesChecks modelValidate path settings providerRegistry source
      (reloadOnce modelValidate path settings providerRegistry live file).2 := by
  by_cases passes : ∃ registry, PassesChecks modelValidate path settings providerRegistry file registry
  · obtain ⟨registry, passes⟩ := passes
    rw [reloadOnce_of_passes passes]
    exact ⟨file, passes⟩
  · rw [reloadOnce_of_fails (not_exists.1 passes)]
    exact passed

/-- So does every sequence of reloads. -/
theorem reloads_passed {start : PresetRegistry}
    (passed : ∃ file, PassesChecks modelValidate path settings providerRegistry file start) (files : List PresetsFile) :
    ∃ source, PassesChecks modelValidate path settings providerRegistry source
      (reloads modelValidate path settings providerRegistry start files) :=
  List.foldlRecOn (motive := fun live => ∃ source, PassesChecks modelValidate path settings providerRegistry source live)
    files _ passed fun _ passed file _ => reloadOnce_passed passed file

end Chains

/-- What the service relies on in the live registry. -/
structure PresetRegistry.Sound (registry : PresetRegistry) (settings : Settings) (providers : TTSProviderRegistry) :
    Prop where
  default : settings.defaultPreset ∈ registry.names
  allowed : ∀ item ∈ registry.presets, item.2.defaults.Allowed settings providers

theorem PassesChecks.sound {modelValidate : ModelValidate} {path : String} {settings : Settings}
    {providers : TTSProviderRegistry} {file : PresetsFile} {registry : PresetRegistry}
    (passes : PassesChecks modelValidate path settings (some providers) file registry) :
    registry.Sound settings providers where
  default := passes.default
  allowed := fun _ member => (passes.pinned _ member).allowed

/-- The live registry of a service that started is sound after any reloads. -/
theorem reloads_sound {modelValidate : ModelValidate} {path : String} {settings : Settings}
    {providers : TTSProviderRegistry} {processUid : Option Nat} {stat : Except String FileStat} {file : PresetsFile}
    {start : PresetRegistry}
    (accepted : initializePresetRegistry modelValidate path settings (some providers) processUid stat file = .ok start)
    (files : List PresetsFile) :
    (reloads modelValidate path settings (some providers) start files).Sound settings providers := by
  obtain ⟨source, passed⟩ := reloads_passed ⟨file, initialize_passes accepted⟩ files
  exact passed.sound

/-- A request without a preset resolves against a sound registry. -/
theorem PresetRegistry.Sound.resolves {registry : PresetRegistry} {settings : Settings}
    {providers : TTSProviderRegistry} (sound : registry.Sound settings providers) {request : SynthesizeRequest}
    (unnamed : request.preset = none) : ∃ effective, resolvePreset request registry settings = .ok effective := by
  have name : request.presetName settings = settings.defaultPreset := by
    unfold SynthesizeRequest.presetName
    rw [unnamed]
    rfl
  obtain ⟨entry, found⟩ := PresetRegistry.get_of_mem_names sound.default
  exact ⟨_, resolvePreset_of_get (name ▸ found)⟩

/-- **The live preset registry.** For all settings, provider registries and validations,
from every registry that the start of the service accepts, after a reload of each of any
sequence of files: the live registry has the default preset, its provider pins are
registered and its model pins are on the allow-list of their provider; a reload of a
file that fails a check leaves it as it is; and a request without a preset resolves. -/
theorem live_registry (modelValidate : ModelValidate) (path : String) (settings : Settings)
    (providers : TTSProviderRegistry) (processUid : Option Nat) (stat : Except String FileStat) (file : PresetsFile)
    {start : PresetRegistry}
    (accepted : initializePresetRegistry modelValidate path settings (some providers) processUid stat file = .ok start)
    (files : List PresetsFile) :
    let live := reloads modelValidate path settings (some providers) start files
    live.Sound settings providers ∧
      (∀ next, (∀ registry, ¬PassesChecks modelValidate path settings (some providers) next registry) →
        (reloadOnce modelValidate path settings (some providers) live next).2 = live) ∧
      ∀ request : SynthesizeRequest, request.preset = none →
        ∃ effective, resolvePreset request live settings = .ok effective := by
  intro live
  have sound : live.Sound settings providers := reloads_sound accepted files
  exact ⟨sound, fun next fails => reloadOnce_of_fails fails live, fun request unnamed => sound.resolves unnamed⟩

/-- The entry of a preset that pins a provider at most. -/
def entryOfPin : Json → Option PresetEntry
  | .obj [("label", .str label), ("description", .str description), ("defaults", .obj [])] =>
    some ⟨label, description, {}⟩
  | .obj [("label", .str label), ("description", .str description), ("defaults", .obj [("provider", .str provider)])] =>
    some ⟨label, description, { provider := some provider }⟩
  | _ => none

/-- The validation of presets that pin a provider at most. -/
def validatePins : ModelValidate := fun pairs =>
  match pairs.mapM fun item => (entryOfPin item.2).map (item.1, ·) with
  | some root => .ok root
  | none => .error []

/-- A presets file with the default preset and one that pins `provider`. -/
def pinFile (provider : String) : PresetsFile :=
  .json (.obj [
    ("balanced", .obj [("label", .str "Balanced"), ("description", .str "For all"), ("defaults", .obj [])]),
    ("reading", .obj [("label", .str "Reading"), ("description", .str "For books"),
      ("defaults", .obj [("provider", .str provider)])])])

/-- The registry that `pinFile` holds. -/
def pinRegistry (provider : String) : PresetRegistry where
  presets := [("balanced", ⟨"Balanced", "For all", {}⟩),
    ("reading", ⟨"Reading", "For books", { provider := some provider }⟩)]
  distinct := by simp

/-- The edits are an unknown provider, bytes that are no UTF-8, and a valid pin. -/
theorem edits_sound :
    (reloads validatePins "config/presets.json" plainSettings (some defaultProviderRegistry)
      (pinRegistry "mlx_audio") [pinFile "piper", .undecodable, pinFile "voxtral"]).Sound plainSettings
        defaultProviderRegistry :=
  (live_registry validatePins "config/presets.json" plainSettings defaultProviderRegistry (some 1000)
    (.ok ⟨1000, 0o100644⟩) (pinFile "mlx_audio") rfl [pinFile "piper", .undecodable, pinFile "voxtral"]).1

end LlmTts
