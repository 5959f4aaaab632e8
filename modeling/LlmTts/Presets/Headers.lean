import LlmTts.Http.RequestId
import LlmTts.Presets.Allowed

/-!
# The diagnostic headers of a synthesis

`_synthesis_headers` and `_format_preset_effective_header`. The texts of the request,
of the preset and of the settings flow into them as they are: `headers_clean_iff` says
which of them must be free of control characters and latin-1.
-/

namespace LlmTts
open Python

/-- A latin-1 character that is no control character. -/
def headerChar (c : Char) : Bool :=
  (0x20 ≤ c.toNat && c.toNat < 0x7F) || (0xA0 ≤ c.toNat && c.toNat ≤ 0xFF)

/-- A text that can be sent as a header and ends where it ends. -/
def Clean (text : String) : Prop := ∀ c ∈ text.toList, headerChar c = true

instance (text : String) : Decidable (Clean text) := List.decidableBAll _ _

/-! ## The headers -/

/-- `Dtype`. -/
inductive Dtype where
  | float16
  | bfloat16
  | float32
  deriving DecidableEq, Repr

def Dtype.name : Dtype → String
  | float16 => "float16"
  | bfloat16 => "bfloat16"
  | float32 => "float32"

/-- What the headers show of a `DeviceProfile`. -/
structure DeviceProfile where
  device : Device
  dtype : Dtype
  deriving DecidableEq, Repr

def VoiceSource.name : VoiceSource → String
  | seed => "seed"
  | crud => "crud"

/-- One entry of `parts`, if the knob is set. -/
def headerPart {α : Type} [PyValue α] (key : String) (value : Option α) : List (String × String) :=
  match value with
  | none => []
  | some value => [(key, PyValue.str value)]

/-- `parts` of `_format_preset_effective_header`, formatted. -/
def headerParts (cfg : EffectiveSynthesisConfig) : List (String × String) :=
  headerPart "provider" cfg.provider ++ headerPart "model" cfg.model ++
    headerPart "temperature" cfg.temperature ++ headerPart "top_p" cfg.topP ++
    headerPart "max_sentences_per_chunk" cfg.maxSentencesPerChunk ++
    headerPart "normalize_db" cfg.normalizeDb ++ headerPart "language" cfg.language ++
    headerPart "number_lang" cfg.numberLang ++ headerPart "voice" cfg.voice ++
    [("response_format", cfg.responseFormat.name)]

/-- `_format_preset_effective_header`. -/
def formatPresetEffectiveHeader (cfg : EffectiveSynthesisConfig) : String :=
  let body := ",".intercalate
    (((headerParts cfg).mergeSort fun a b => decide (a.1 ≤ b.1)).map fun part => part.1 ++ "=" ++ part.2)
  cfg.presetName ++ "(" ++ body ++ ")"

/-- `preset_headers` in `synthesize_core`. -/
def presetHeaders (effective : EffectiveSynthesisConfig) : List (String × String) :=
  ("X-Preset-Effective", formatPresetEffectiveHeader effective) ::
    if effective.ignoredKnobs = [] then []
    else [("X-Preset-Ignored-Knobs", ",".intercalate effective.ignoredKnobs)]

/-- `_synthesis_headers`. `totals` are the chunks and the duration of a buffered response. -/
def synthesisHeaders (requestId provider model : String) (profile : DeviceProfile) (record : VoiceRecord)
    (totals : Option (Int × Int)) : List (String × String) :=
  [("X-Request-ID", requestId), ("X-Provider", provider), ("X-Model", model),
    ("X-Device", profile.device.name), ("X-Dtype", profile.dtype.name),
    ("X-Voice-Source", record.source.name), ("X-Voice-Id", record.id)] ++
  match totals with
  | none => []
  | some (chunks, durationMs) => [("X-Chunks", intStr chunks), ("X-Total-Duration-Ms", intStr durationMs)]

/-- The headers of the response of a request that gets that far. -/
def diagnosticHeaders (requestId provider model : String) (profile : DeviceProfile) (record : VoiceRecord)
    (totals : Option (Int × Int)) (effective : EffectiveSynthesisConfig) : List (String × String) :=
  synthesisHeaders requestId provider model profile record totals ++ presetHeaders effective

/-! ## Texts of some characters -/

section Made

variable {p : Char → Prop}

/-- Every character of the text satisfies `p`. -/
def Made (p : Char → Prop) (text : String) : Prop := ∀ c ∈ text.toList, p c

@[simp] theorem made_append {front back : String} : Made p (front ++ back) ↔ Made p front ∧ Made p back := by
  unfold Made
  rw [String.toList_append]
  exact List.forall_mem_append

theorem made_intercalate {separator : String} (made : Made p separator) (texts : List String) :
    Made p (separator.intercalate texts) ↔ ∀ text ∈ texts, Made p text := by
  unfold Made at made ⊢
  rw [String.toList_intercalate]
  induction texts with
  | nil => exact iff_of_true nofun nofun
  | cons text texts ih =>
    cases texts with
    | nil => simp
    | cons next texts =>
      rw [List.map_cons, List.map_cons, List.intercalate_cons_cons, List.forall_mem_append, List.forall_mem_append,
        List.forall_mem_cons, and_iff_left made]
      exact and_congr_right fun _ => ih

theorem headerPart_made_iff {α : Type} [PyValue α] {key : String} (named : Made p (key ++ "=")) (value : Option α) :
    (∀ part ∈ headerPart key value, Made p (part.1 ++ "=" ++ part.2)) ↔ ∀ v ∈ value, Made p (PyValue.str v) := by
  cases value with
  | none => exact iff_of_true nofun nofun
  | some value =>
    have whole : Made p (key ++ "=" ++ PyValue.str value) ↔ Made p (PyValue.str value) :=
      made_append.trans (and_iff_right named)
    simp only [headerPart, List.forall_mem_singleton, whole, Option.mem_def, Option.some.injEq, forall_eq']

end Made

/-! ## Clean texts -/

@[simp] theorem clean_append {front back : String} : Clean (front ++ back) ↔ Clean front ∧ Clean back := made_append

theorem clean_strip {text : String} (clean : Clean text) : Clean (strip text) :=
  fun c member => clean c (mem_of_mem_strip member)

/-- The printable characters of ASCII. -/
theorem headerChar_of_between {c : Char} (low : 0x20 ≤ c.toNat) (high : c.toNat < 0x7F) : headerChar c = true := by
  simp only [headerChar, Bool.or_eq_true, Bool.and_eq_true, decide_eq_true_eq]
  exact .inl ⟨low, high⟩

/-- The characters between two printable ones are printable. -/
theorem headerChar_of_range {first last c : Char} (low : first ≤ c) (high : c ≤ last) (start : 0x20 ≤ first.toNat)
    (stop : last.toNat < 0x7F) : headerChar c = true :=
  headerChar_of_between (Nat.le_trans start (Char.le_def.1 low)) (Nat.lt_of_le_of_lt (Char.le_def.1 high) stop)

theorem clean_of_textual {text : String} (textual : PyFloat.Textual text.toList) : Clean text := by
  intro c member
  have char := textual c member
  rw [PyFloat.textChar, Bool.or_eq_true] at char
  rcases char with digit | other
  · obtain ⟨low, high⟩ := PyFloat.digit_bounds digit
    exact headerChar_of_between (by omega) (by omega)
  · have all : ∀ c ∈ ['.', 'e', '+', '-', 'i', 'n', 'f', 'a'], headerChar c = true := List.all_eq_true.1 (by decide)
    exact all c (of_decide_eq_true other)

theorem clean_of_safeId {text : String} (safe : safeIdBody text.toList = true) : Clean text := by
  intro c member
  simp only [safeIdBody, Bool.and_eq_true, List.all_eq_true] at safe
  have classified := safe.2 c member
  simp only [safeIdChar, Bool.or_eq_true, Bool.and_eq_true, decide_eq_true_eq, beq_iff_eq] at classified
  rcases classified with ((((⟨low, high⟩ | ⟨low, high⟩) | ⟨low, high⟩) | rfl) | rfl) | rfl
  · exact headerChar_of_range low high (by decide) (by decide)
  · exact headerChar_of_range low high (by decide) (by decide)
  · exact headerChar_of_range low high (by decide) (by decide)
  · decide
  · decide
  · decide

/-- An id that the store accepts, without a final newline. -/
theorem clean_of_validVoiceId {text : String} (valid : validateVoiceId (strip text) = .ok ()) : Clean (strip text) := by
  have matched : voiceIdRegexMatch (strip text) = true := by
    unfold validateVoiceId at valid
    split at valid
    · rename_i accepted
      exact accepted
    · cases valid
  have body : voiceIdBody (strip text).toList = true := by
    simp only [voiceIdRegexMatch, Bool.or_eq_true, Bool.and_eq_true, beq_iff_eq] at matched
    rcases matched with body | newline
    · exact body
    · exact absurd newline.1 (getLast?_strip text)
  intro c member
  simp only [voiceIdBody, Bool.and_eq_true, List.all_eq_true] at body
  have classified := body.2 c member
  simp only [voiceIdChar, Bool.or_eq_true, Bool.and_eq_true, decide_eq_true_eq, beq_iff_eq] at classified
  rcases classified with ((⟨low, high⟩ | ⟨low, high⟩) | rfl) | rfl
  · exact headerChar_of_range low high (by decide) (by decide)
  · exact headerChar_of_range low high (by decide) (by decide)
  · decide
  · decide

/-- The texts that `X-Preset-Effective` shows. -/
structure CleanConfig (effective : EffectiveSynthesisConfig) : Prop where
  presetName : Clean effective.presetName
  provider : ∀ text ∈ effective.provider, Clean text
  model : ∀ text ∈ effective.model, Clean text
  language : ∀ text ∈ effective.language, Clean text
  numberLang : ∀ text ∈ effective.numberLang, Clean text
  voice : ∀ text ∈ effective.voice, Clean text

/-- The texts of the request and the preset that `X-Preset-Effective` shows satisfy `p`. -/
structure MadeConfig (p : Char → Prop) (effective : EffectiveSynthesisConfig) : Prop where
  presetName : Made p effective.presetName
  provider : ∀ text ∈ effective.provider, Made p text
  model : ∀ text ∈ effective.model, Made p text
  language : ∀ text ∈ effective.language, Made p text
  numberLang : ∀ text ∈ effective.numberLang, Made p text
  voice : ∀ text ∈ effective.voice, Made p text

/-- What else the header shows is printable. -/
theorem formatPresetEffectiveHeader_made_iff {p : Char → Prop} (printable : ∀ c, headerChar c = true → p c)
    (effective : EffectiveSynthesisConfig) :
    Made p (formatPresetEffectiveHeader effective) ↔ MadeConfig p effective := by
  have clean : ∀ text, Clean text → Made p text := fun text all c member => printable c (all c member)
  have float : ∀ value : Option PyFloat, ∀ v ∈ value, Made p (PyValue.str v) :=
    fun _ v _ => clean _ (clean_of_textual (PyFloat.textual_str v))
  have int : ∀ value : Option Int, ∀ v ∈ value, Made p (PyValue.str v) :=
    fun _ v _ => clean _ (clean_of_textual (textual_intStr v))
  have format : Made p ("response_format" ++ "=" ++ effective.responseFormat.name) := by
    apply clean
    cases effective.responseFormat <;> decide
  have comma : Made p "," := clean _ (by decide)
  have brackets : Made p "(" ∧ Made p ")" := ⟨clean _ (by decide), clean _ (by decide)⟩
  have sorted : ∀ part, part ∈ (headerParts effective).mergeSort (fun a b => decide (a.1 ≤ b.1)) ↔
      part ∈ headerParts effective := fun part => List.mem_mergeSort
  unfold formatPresetEffectiveHeader
  simp only [made_append, made_intercalate comma, List.forall_mem_map, sorted]
  simp only [← made_append, headerParts, List.forall_mem_append, List.forall_mem_singleton]
  rw [headerPart_made_iff (clean _ (by decide)), headerPart_made_iff (clean _ (by decide)),
    headerPart_made_iff (clean _ (by decide)), headerPart_made_iff (clean _ (by decide)),
    headerPart_made_iff (clean _ (by decide)), headerPart_made_iff (clean _ (by decide)),
    headerPart_made_iff (clean _ (by decide)), headerPart_made_iff (clean _ (by decide)),
    headerPart_made_iff (clean _ (by decide))]
  simp only [and_assoc]
  constructor
  · rintro ⟨front, provider, model, -, -, -, -, language, numberLang, voice, -⟩
    exact ⟨(made_append.1 front).1, provider, model, language, numberLang, voice⟩
  · intro made
    exact ⟨made_append.2 ⟨made.presetName, brackets.1⟩, made.provider, made.model, float _, float _, int _,
      float _, made.language, made.numberLang, made.voice, format, brackets.2⟩

theorem formatPresetEffectiveHeader_clean_iff (effective : EffectiveSynthesisConfig) :
    Clean (formatPresetEffectiveHeader effective) ↔ CleanConfig effective := by
  have made := formatPresetEffectiveHeader_made_iff (fun _ printable => printable) effective
  constructor
  · intro clean
    obtain ⟨presetName, provider, model, language, numberLang, voice⟩ := made.1 clean
    exact ⟨presetName, provider, model, language, numberLang, voice⟩
  · intro clean
    exact made.2 ⟨clean.presetName, clean.provider, clean.model, clean.language, clean.numberLang, clean.voice⟩

theorem presetHeaders_clean_iff (request : SynthesizeRequest) (name : String) (defaults : PresetDefaults) :
    (∀ header ∈ presetHeaders (effectiveConfig request name defaults), Clean header.1 ∧ Clean header.2) ↔
      CleanConfig (effectiveConfig request name defaults) := by
  have ignored : ∀ header ∈ (if (effectiveConfig request name defaults).ignoredKnobs = [] then [] else
      [("X-Preset-Ignored-Knobs", ",".intercalate (effectiveConfig request name defaults).ignoredKnobs)]),
      Clean header.1 ∧ Clean header.2 := by
    unfold effectiveConfig
    dsimp only
    by_cases wav : defaults.responseFormat.getD .wav = .wav
    · rw [if_pos wav, if_pos rfl]
      exact nofun
    · have knobs : ["response_format"] ≠ [] := by decide
      rw [if_neg wav, if_neg knobs, List.forall_mem_singleton]
      decide
  have named : Clean "X-Preset-Effective" := by decide
  unfold presetHeaders
  rw [List.forall_mem_cons, and_iff_left ignored, and_iff_right named]
  exact formatPresetEffectiveHeader_clean_iff _

theorem synthesisHeaders_clean_iff {requestId provider : String} {record : VoiceRecord} (id : Clean requestId)
    (name : Clean provider) (voice : Clean record.id) (model : String) (profile : DeviceProfile)
    (totals : Option (Int × Int)) :
    (∀ header ∈ synthesisHeaders requestId provider model profile record totals,
      Clean header.1 ∧ Clean header.2) ↔ Clean model := by
  have device : Clean profile.device.name := by cases profile.device <;> decide
  have dtype : Clean profile.dtype.name := by cases profile.dtype <;> decide
  have source : Clean record.source.name := by cases record.source <;> decide
  have counts : ∀ n : Int, Clean (intStr n) := fun n => clean_of_textual (textual_intStr n)
  unfold synthesisHeaders
  constructor
  · intro all
    exact (all ("X-Model", model) (by simp)).2
  · intro clean header member
    rcases List.mem_append.1 member with member | member
    · simp only [List.mem_cons, List.not_mem_nil, or_false] at member
      rcases member with rfl | rfl | rfl | rfl | rfl | rfl | rfl
      · exact ⟨(by decide : Clean "X-Request-ID"), id⟩
      · exact ⟨(by decide : Clean "X-Provider"), name⟩
      · exact ⟨(by decide : Clean "X-Model"), clean⟩
      · exact ⟨(by decide : Clean "X-Device"), device⟩
      · exact ⟨(by decide : Clean "X-Dtype"), dtype⟩
      · exact ⟨(by decide : Clean "X-Voice-Source"), source⟩
      · exact ⟨(by decide : Clean "X-Voice-Id"), voice⟩
    · cases totals with
      | none => cases member
      | some totals =>
        simp only [List.mem_cons, List.not_mem_nil, or_false] at member
        rcases member with rfl | rfl
        · exact ⟨(by decide : Clean "X-Chunks"), counts _⟩
        · exact ⟨(by decide : Clean "X-Total-Duration-Ms"), counts _⟩

/-- The texts of a request that reach the headers. -/
structure CleanTexts (settings : Settings) (selection : ProviderSelection) (request : SynthesizeRequest)
    (defaults : PresetDefaults) : Prop where
  preset : Clean (request.presetName settings)
  provider : ∀ text ∈ request.provider.or defaults.provider, Clean text
  model : ∀ text ∈ request.model.or defaults.model, Clean text
  language : ∀ text ∈ request.language.or defaults.language, Clean text
  numberLang : ∀ text ∈ request.numberLang.or defaults.numberLang, Clean text
  voice : ∀ text ∈ request.voice.or defaults.voice, Clean text
  /-- Where no model is named, the default of the provider is shown. -/
  default : setText (request.model.or defaults.model) = none → Clean (settings.modelDefaultForProvider
    ((setText (request.provider.or defaults.provider)).getD selection.providerName))

theorem pick_eq_or {α : Type} (explicit presetValue : Option α) : pick explicit presetValue = explicit.or presetValue := by
  cases explicit <;> rfl

/-- **Clean headers.** For every request that gets as far as its response (its preset,
provider, model and voice are resolved), whatever the preset, the record and the totals:
all names and values of the diagnostic headers are latin-1 without control characters
if and only if the texts of the request, or else of the preset, that are shown as they
are, are so, and the model default that stands in for a model. -/
theorem headers_clean_iff {settings : Settings} {providers : TTSProviderRegistry}
    (names : ∀ name ∈ providers.names, Clean name) {selection : ProviderSelection} {snapshot : PresetRegistry}
    {request : SynthesizeRequest} {entry : PresetEntry} {effective : EffectiveSynthesisConfig}
    {provider model : String} {strategy : TTSProviderStrategy} {record : VoiceRecord}
    (found : snapshot.get (request.presetName settings) = some entry)
    (preset : resolvePreset request snapshot settings = .ok effective)
    (pair : resolveProviderAndModel settings providers selection effective = .ok (provider, model, strategy))
    (valid : validateVoiceId (resolvedVoice request effective) = .ok ())
    (stored : record.id = resolvedVoice request effective)
    (fresh : HexId) (inbound : Headers) (profile : DeviceProfile) (totals : Option (Int × Int)) :
    (∀ header ∈ diagnosticHeaders (resolveRequestId fresh inbound) provider model profile record totals effective,
      Clean header.1 ∧ Clean header.2) ↔ CleanTexts settings selection request entry.defaults := by
  rw [resolvePreset_of_get found] at preset
  cases preset
  obtain ⟨rfl, rfl, registered⟩ := resolved_names pair
  have id : Clean (resolveRequestId fresh inbound) := clean_of_safeId (resolveRequestId_safe fresh inbound)
  have voice : Clean record.id := stored ▸ clean_of_validVoiceId valid
  unfold diagnosticHeaders
  rw [List.forall_mem_append,
    synthesisHeaders_clean_iff id (names _ (TTSProviderRegistry.mem_names_iff.2 ⟨_, registered⟩)) voice,
    presetHeaders_clean_iff, modelName_eq, providerName_eq]
  simp only [effectiveConfig, pick_eq_or]
  constructor
  · rintro ⟨shown, config⟩
    refine ⟨config.presetName, config.provider, config.model, config.language, config.numberLang, config.voice,
      fun unnamed => ?_⟩
    rwa [unnamed, Option.getD_none] at shown
  · intro clean
    refine ⟨?_, clean.preset, clean.provider, clean.model, clean.language, clean.numberLang, clean.voice⟩
    cases named : setText (request.model.or entry.defaults.model) with
    | none => exact clean.default named
    | some model =>
      obtain ⟨text, member, set⟩ := Option.bind_eq_some_iff.1 named
      split at set
      · cases set
      · cases set
        exact clean_strip (clean.model text member)

theorem defaultProviderRegistry_clean : ∀ name ∈ defaultProviderRegistry.names, Clean name := by
  decide

/-- Ordinary texts, from the request and from the preset. -/
theorem overriddenVoice_clean :
    ∃ effective provider model strategy,
      resolvePreset overriddenVoice (onePreset { language := some "it" }) plainSettings = .ok effective ∧
      resolveProviderAndModel plainSettings defaultProviderRegistry ⟨"mlx_audio", .mps, .auto⟩ effective =
        .ok (provider, model, strategy) ∧
      ∀ header ∈ diagnosticHeaders (resolveRequestId someHexId []) provider model ⟨.mps, .float16⟩
          (plainRecord "ada" .crud) (some (2, 1500)) effective,
        Clean header.1 ∧ Clean header.2 := by
  have found : (onePreset { language := some "it" }).get (overriddenVoice.presetName plainSettings) =
      some ⟨"Reading", "For books", { language := some "it" }⟩ := rfl
  have preset := resolvePreset_of_get found
  have pair : resolveProviderAndModel plainSettings defaultProviderRegistry ⟨"mlx_audio", .mps, .auto⟩
      (effectiveConfig overriddenVoice (overriddenVoice.presetName plainSettings) { language := some "it" }) =
      .ok ("mlx_audio", "Qwen/Qwen3-TTS-12Hz-0.6B-Base", ⟨"mlx_audio", [.mps]⟩) := rfl
  refine ⟨_, _, _, _, preset, pair, ?_⟩
  refine (headers_clean_iff defaultProviderRegistry_clean found preset pair (by rfl) (by decide) someHexId [] _ _).2 ?_
  exact ⟨by decide, by decide, by decide, by decide, by decide, by decide, fun _ => by decide⟩

/-- A request in Japanese. -/
def japanese : SynthesizeRequest :=
  { input := "hello", preset := some "reading", voice := some "ada", language := some "日本語" }

/-- The language of an accepted request is not latin-1, and the header shows it. -/
theorem japanese_unclean :
    ¬∀ (settings : Settings) (selection : ProviderSelection) (snapshot : PresetRegistry)
      (request : SynthesizeRequest) (effective : EffectiveSynthesisConfig) (provider model : String)
      (strategy : TTSProviderStrategy) (record : VoiceRecord) (fresh : HexId) (inbound : Headers)
      (profile : DeviceProfile) (totals : Option (Int × Int)),
      resolvePreset request snapshot settings = .ok effective →
      resolveProviderAndModel settings defaultProviderRegistry selection effective = .ok (provider, model, strategy) →
      validateVoiceId (resolvedVoice request effective) = .ok () → record.id = resolvedVoice request effective →
      ∀ header ∈ diagnosticHeaders (resolveRequestId fresh inbound) provider model profile record totals effective,
        Clean header.1 ∧ Clean header.2 := by
  intro claim
  have all := claim plainSettings ⟨"mlx_audio", .mps, .auto⟩ (onePreset {}) japanese _ _ _ _
    (plainRecord "ada" .crud) someHexId [] ⟨.mps, .float16⟩ none rfl rfl (by rfl) (by decide)
  have shown := all ("X-Preset-Effective", _) (List.mem_append_right _ List.mem_cons_self)
  have language := ((formatPresetEffectiveHeader_clean_iff _).1 shown.2).language "日本語" rfl
  exact absurd language (by decide)

end LlmTts
