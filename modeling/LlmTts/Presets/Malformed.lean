import LlmTts.Lib.JsonLoads
import LlmTts.Presets.Reload

/-!
# Presets files of any content

`load_preset_registry` on a regular file given by its bytes, and what the start of the
service and a reload make of its exceptions. `presets_handled_iff` says for which contents
a malformed file is a `PresetsInvalidError`.
-/

namespace LlmTts
open Python Checked

/-- What the calls on a regular presets file of these bytes come to. `limit` is the nesting
that the stack has room for, and `message` the text of a `JSONDecodeError`. -/
def presetsFile (limit : Nat) (message : List Char → String) (content : Bytes) : PresetsFile :=
  match readText content with
  | none => .undecodable
  | some text =>
    match Json.read limit text with
    | .ok raw => .json raw
    | .error .decode => .notJson (message text)
    | .error _ => .unparsable

/-! ## The schema -/

/-- The constraints of the fields of `PresetEntry`. -/
structure PresetEntry.Conforms (entry : PresetEntry) : Prop where
  label : 1 ≤ entry.label.length
  description : 1 ≤ entry.description.length
  defaults : entry.defaults.Conforms

instance (entry : PresetEntry) : Decidable entry.Conforms :=
  decidable_of_iff (1 ≤ entry.label.length ∧ 1 ≤ entry.description.length ∧ entry.defaults.Conforms)
    ⟨fun ⟨label, description, defaults⟩ => ⟨label, description, defaults⟩,
      fun valid => ⟨valid.label, valid.description, valid.defaults⟩⟩

/-! ## The start of the service -/

/-- How `_load_presets_or_exit` ends. -/
inductive PresetsStart where
  | loaded (registry : PresetRegistry)
  /-- `SystemExit`, with the code and the detail of its message. -/
  | exits (code : String) (detail : Message)
  /-- An exception that it does not translate. -/
  | crashes

/-- The exceptions that `_load_presets_or_exit` translates. -/
def startOf : Except PresetsFailure PresetRegistry → PresetsStart
  | .ok registry => .loaded registry
  | .error (.unsafePermissions message) => .exits "config_error.presets_unsafe_permissions" message
  | .error (.providerInvalid exc) => .exits "config_error.preset_provider_invalid" exc.message
  | .error (.invalid message) => .exits "config_error.presets_invalid" message
  | .error .other => .crashes

/-- `_load_presets_or_exit`. -/
def loadPresetsOrExit (modelValidate : ModelValidate) (path : String) (settings : Settings)
    (providerRegistry : Option TTSProviderRegistry) (processUid : Option Nat) (stat : Except String FileStat)
    (file : PresetsFile) : PresetsStart :=
  startOf (initializePresetRegistry modelValidate path settings providerRegistry processUid stat file)

section Handled

variable (modelValidate : ModelValidate) (path : String) (settings : Settings)
  (providerRegistry : Option TTSProviderRegistry) (limit : Nat) (message : List Char → String) (content : Bytes)

/-- The file is loaded to entries that satisfy the schema, or refused as invalid. -/
def LoadsOrInvalid : Prop :=
  (∃ registry, loadPresetRegistry modelValidate path (presetsFile limit message content) = .ok registry ∧
    ∀ item ∈ registry.presets, item.2.Conforms) ∨
  ∃ reason, loadPresetRegistry modelValidate path (presetsFile limit message content) = .error (.invalid reason)

/-- A file that is not loaded is refused as invalid, by the start of the service and by
every reload, which does not raise in any case. -/
structure PresetsHandled : Prop where
  loads : LoadsOrInvalid modelValidate path limit message content
  starts : ∀ processUid stat, checkPresetsFilePermissions path processUid stat = .ok () →
    (∀ registry, loadPresetRegistry modelValidate path (presetsFile limit message content) ≠ .ok registry) →
    ∃ detail, loadPresetsOrExit modelValidate path settings providerRegistry processUid stat
      (presetsFile limit message content) = .exits "config_error.presets_invalid" detail
  reloads : ∀ live, (reloadOnce modelValidate path settings providerRegistry live
    (presetsFile limit message content)).1 ≠ .raised
  refusals : ∀ live,
    (∀ registry, loadPresetRegistry modelValidate path (presetsFile limit message content) ≠ .ok registry) →
    ∃ reason, reloadOnce modelValidate path settings providerRegistry live (presetsFile limit message content) =
      (.refused "config_error.presets_invalid" reason, live)

variable {modelValidate path settings providerRegistry limit message content}

/-- The bytes come to `JSON` or to an error that is translated. -/
theorem load_of_quiet (conforms : ∀ pairs root, modelValidate pairs = .ok root → ∀ item ∈ root, item.2.Conforms)
    (quiet : Json.LoadsQuietly limit content) : LoadsOrInvalid modelValidate path limit message content := by
  obtain ⟨text, decoded, only⟩ := quiet
  unfold LoadsOrInvalid presetsFile
  rw [decoded]
  dsimp only
  cases loaded : Json.read limit text with
  | error e =>
    rw [only e loaded]
    exact .inr ⟨_, rfl⟩
  | ok raw =>
    cases raw with
    | obj pairs =>
      simp only [loadPresetRegistry]
      cases validated : modelValidate (dictItems pairs) with
      | error issues => exact .inr ⟨_, rfl⟩
      | ok root =>
        cases root with
        | nil => exact .inr ⟨_, rfl⟩
        | cons first rest =>
          left
          refine ⟨_, rfl, ?_⟩
          intro item member
          exact conforms _ _ validated item (mem_of_mem_dictItems member)
    | _ => exact .inr ⟨_, rfl⟩

theorem load_of_loud (loud : ¬Json.LoadsQuietly limit content) :
    loadPresetRegistry modelValidate path (presetsFile limit message content) = .error .other := by
  unfold presetsFile
  cases decoded : readText content with
  | none => rfl
  | some text =>
    dsimp only
    cases loaded : Json.read limit text with
    | ok raw =>
      exfalso
      apply loud
      exact ⟨text, decoded, by simp [loaded]⟩
    | error e =>
      cases e with
      | decode =>
        exfalso
        apply loud
        exact ⟨text, decoded, by simp [loaded]⟩
      | digits => rfl
      | recursion => rfl

/-- What the start and a reload do follows from what `load_preset_registry` does. -/
theorem handled_of_loads (loads : LoadsOrInvalid modelValidate path limit message content) :
    PresetsHandled modelValidate path settings providerRegistry limit message content := by
  have invalid : (∀ registry, loadPresetRegistry modelValidate path (presetsFile limit message content) ≠ .ok registry) →
      ∃ reason, loadPresetRegistry modelValidate path (presetsFile limit message content) =
        .error (.invalid reason) := by
    intro fails
    rcases loads with ⟨registry, loaded, -⟩ | refused
    · exact absurd loaded (fails registry)
    · exact refused
  constructor
  · exact loads
  · intro processUid stat allowed fails
    obtain ⟨reason, refused⟩ := invalid fails
    unfold loadPresetsOrExit initializePresetRegistry
    rw [allowed, refused]
    exact ⟨reason, rfl⟩
  · intro live
    unfold reloadOnce
    rcases loads with ⟨registry, loaded, -⟩ | ⟨reason, refused⟩
    · rw [loaded]
      dsimp only
      split
      · simp
      · split <;> simp
    · rw [refused]
      simp
  · intro live fails
    obtain ⟨reason, refused⟩ := invalid fails
    unfold reloadOnce
    rw [refused]
    exact ⟨reason, rfl⟩

end Handled

/-- **Presets files of any content.** For every byte content of a regular presets file and
every nesting limit, where the instances that pydantic returns meet the constraints of
their fields: the file is loaded to entries that satisfy the schema or refused as invalid,
by the start of the service and by every reload, exactly if it is UTF-8 and `json.loads`
raises nothing but a `JSONDecodeError`. -/
theorem presets_handled_iff (modelValidate : ModelValidate)
    (conforms : ∀ pairs root, modelValidate pairs = .ok root → ∀ item ∈ root, item.2.Conforms) (path : String)
    (settings : Settings) (providerRegistry : Option TTSProviderRegistry) (limit : Nat)
    (message : List Char → String) (content : Bytes) :
    PresetsHandled modelValidate path settings providerRegistry limit message content ↔
      Json.LoadsQuietly limit content := by
  constructor
  · intro handled
    by_contra loud
    have raised : loadPresetRegistry modelValidate path (presetsFile limit message content) = .error .other :=
      load_of_loud loud
    rcases handled.loads with ⟨registry, loaded, -⟩ | ⟨reason, refused⟩
    · rw [raised] at loaded
      cases loaded
    · rw [raised] at refused
      cases refused
  · intro quiet
    exact handled_of_loads (load_of_quiet conforms quiet)

/-- The validation of presets that pin a provider at most, with the constraints of the schema. -/
def validateConforming : ModelValidate := fun pairs =>
  match validatePins pairs with
  | .error issues => .error issues
  | .ok root => if ∀ item ∈ root, item.2.Conforms then .ok root else .error []

theorem validateConforming_conforms (pairs : List (String × Json)) (root : List (String × PresetEntry))
    (validated : validateConforming pairs = .ok root) : ∀ item ∈ root, item.2.Conforms := by
  unfold validateConforming at validated
  split at validated
  · cases validated
  · split at validated
    · rename_i conforms
      cases validated
      exact conforms
    · cases validated

/-- `{"balanced": {"label": "B", "description": "D", "defaults": {}}}` -/
def balancedFile : Bytes :=
  "\x7b\"balanced\": \x7b\"label\": \"B\", \"description\": \"D\", \"defaults\": \x7b\x7d\x7d\x7d".toUTF8.toList

theorem balancedFile_handled :
    PresetsHandled validateConforming "config/presets.json" plainSettings (some defaultProviderRegistry) 1000
      (fun _ => "Expecting value: line 1 column 1 (char 0)") balancedFile := by
  apply (presets_handled_iff validateConforming validateConforming_conforms _ _ _ _ _ _).2
  have loaded : ((readText balancedFile).map fun text => (Json.read 1000 text).toOption.isSome) = some true := by
    decide +kernel
  obtain ⟨text, decoded, read⟩ := Option.map_eq_some_iff.1 loaded
  refine ⟨text, decoded, ?_⟩
  intro e failed
  rw [failed] at read
  cases read

/-- A byte that is no UTF-8 ends the start and the reload with an exception. -/
theorem stray_byte_crashes :
    ¬PresetsHandled validateConforming "config/presets.json" plainSettings (some defaultProviderRegistry) 1000
        (fun _ => "Expecting value: line 1 column 1 (char 0)") [0xff] ∧
      (∀ live, (reloadOnce validateConforming "config/presets.json" plainSettings (some defaultProviderRegistry) live
        (presetsFile 1000 (fun _ => "Expecting value: line 1 column 1 (char 0)") [0xff])).1 = .raised) ∧
      loadPresetsOrExit validateConforming "config/presets.json" plainSettings (some defaultProviderRegistry)
        (some 1000) (.ok ⟨1000, 0o100644⟩)
        (presetsFile 1000 (fun _ => "Expecting value: line 1 column 1 (char 0)") [0xff]) = .crashes := by
  have unread : presetsFile 1000 (fun _ => "Expecting value: line 1 column 1 (char 0)") [0xff] = .undecodable := by
    have undecoded : readText [0xff] = none := by decide +kernel
    unfold presetsFile
    rw [undecoded]
  refine ⟨?_, ?_, ?_⟩
  · intro handled
    apply handled.reloads (pinRegistry "mlx_audio")
    rw [unread]
    rfl
  · intro live
    rw [unread]
    rfl
  · rw [unread]
    rfl

end LlmTts
