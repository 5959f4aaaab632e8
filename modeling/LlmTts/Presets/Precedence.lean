import LlmTts.Presets.Resolution

/-!
# Precedence of the sources of a knob

The order that the resolution is to follow: a knob has its first set value among the
request, the preset and a default. `precedence_iff` says when the resolution follows
it.
-/

namespace LlmTts
open Python

/-! ## The first set value -/

/-- A text that counts as set, without the white space around it. -/
def setText (text : Option String) : Option String :=
  text.bind fun text => if isBlank text then none else some (strip text)

/-- The first set value of a knob. -/
def firstSet {α : Type} (explicit presetValue : Option α) (fallback : α) : α :=
  (explicit.or presetValue).getD fallback

/-- The knobs of a synthesis. Texts are compared without the white space around them;
no voice is the empty text. -/
structure Knobs where
  provider : String
  model : String
  voice : String
  language : String
  numberLang : String
  temperature : PyFloat
  topP : PyFloat
  targetDb : PyFloat
  maxSentencesPerChunk : PyInt

/-- The knobs in the intended order of precedence. -/
def Knobs.intended (settings : Settings) (selection : ProviderSelection) (record : VoiceRecord)
    (request : SynthesizeRequest) (defaults : PresetDefaults) : Knobs :=
  let provider := firstSet (setText request.provider) (setText defaults.provider) selection.providerName
  { provider := provider
    model := firstSet (setText request.model) (setText defaults.model) (settings.modelDefaultForProvider provider)
    voice := firstSet (setText request.voice) (setText defaults.voice) ""
    language := firstSet (setText request.language) (setText defaults.language) (strip record.language)
    numberLang := firstSet request.numberLang defaults.numberLang record.numberLang
    temperature := firstSet request.temperature defaults.temperature record.temperature
    topP := firstSet request.topP defaults.topP record.topP
    targetDb := firstSet request.normalizeDb defaults.normalizeDb record.targetDb
    maxSentencesPerChunk :=
      firstSet (request.maxSentencesPerChunk.map .int) (defaults.maxSentencesPerChunk.map .int)
        record.maxSentencesPerChunk }

/-- The knobs that `synthesize_core` uses. -/
def Knobs.used (settings : Settings) (selection : ProviderSelection) (record : VoiceRecord) (tmpPath : String)
    (request : SynthesizeRequest) (effective : EffectiveSynthesisConfig) : Knobs :=
  let voiceConfig := buildVoiceConfig record tmpPath effective
  { provider := providerName selection effective
    model := modelName settings selection effective
    voice := resolvedVoice request effective
    language := strip voiceConfig.language
    numberLang := voiceConfig.numberLang
    temperature := voiceConfig.temperature
    topP := voiceConfig.topP
    targetDb := voiceConfig.targetDb
    maxSentencesPerChunk := voiceConfig.maxSentencesPerChunk }

/-- A blank text of the request stands before a text of the preset that differs from
the default. -/
def Hides (explicit presetValue : Option String) (fallback : String) : Prop :=
  (∃ text ∈ explicit, isBlank text = true) ∧ ∃ text ∈ presetValue, isBlank text = false ∧ strip text ≠ fallback

instance (explicit presetValue : Option String) (fallback : String) : Decidable (Hides explicit presetValue fallback) :=
  inferInstanceAs (Decidable (_ ∧ _))

/-! ## One knob -/

section Knob

@[simp] theorem setText_none : setText none = none := rfl

theorem setText_blank {text : String} (blank : isBlank text = true) : setText (some text) = none := by
  simp [setText, blank]

theorem setText_full {text : String} (full : isBlank text = false) : setText (some text) = some (strip text) := by
  simp [setText, full]

/-- The strip-or-fallback expressions of the code. -/
theorem strip_or_eq (text : Option String) (fallback : String) :
    (if strip (textOr text "") = "" then fallback else strip (textOr text "")) =
      (setText text).getD fallback := by
  cases text with
  | none => rfl
  | some text =>
    have same : textOr (some text) "" = text := by
      unfold textOr
      split <;> simp_all
    rw [same]
    cases blank : isBlank text with
    | true => rw [if_pos (strip_eq_empty_iff.2 blank), setText_blank blank, Option.getD_none]
    | false =>
      have full : strip text ≠ "" := fun empty => by
        rw [strip_eq_empty_iff.1 empty] at blank
        cases blank
      rw [if_neg full, setText_full blank, Option.getD_some]

/-- Picking first and testing for blank texts afterwards follows the order of
precedence unless a blank text hides the preset. -/
theorem picked_eq_firstSet_iff (explicit presetValue : Option String) (fallback : String) :
    (setText (pick explicit presetValue)).getD fallback =
      firstSet (setText explicit) (setText presetValue) fallback ↔ ¬Hides explicit presetValue fallback := by
  cases explicit with
  | none =>
    refine iff_of_true rfl ?_
    rintro ⟨⟨text, member, -⟩, -⟩
    cases member
  | some text =>
    show (setText (some text)).getD fallback = _ ↔ _
    cases blank : isBlank text with
    | false =>
      rw [setText_full blank]
      refine iff_of_true rfl ?_
      rintro ⟨⟨other, member, hollow⟩, -⟩
      cases member
      exact nomatch blank.symm.trans hollow
    | true =>
      rw [setText_blank blank]
      have hides : Hides (some text) presetValue fallback ↔
          ∃ preset ∈ presetValue, isBlank preset = false ∧ strip preset ≠ fallback :=
        and_iff_right ⟨text, rfl, blank⟩
      rw [hides]
      cases presetValue with
      | none => exact iff_of_true rfl (by rintro ⟨preset, member, -⟩; cases member)
      | some preset =>
        cases hollow : isBlank preset with
        | true =>
          rw [setText_blank hollow]
          refine iff_of_true rfl ?_
          rintro ⟨other, member, full, -⟩
          cases member
          exact nomatch full.symm.trans hollow
        | false =>
          rw [setText_full hollow]
          constructor
          · rintro same ⟨other, member, -, apart⟩
            cases member
            exact apart same.symm
          · intro shown
            by_contra apart
            exact shown ⟨preset, rfl, hollow, fun same => apart same.symm⟩

/-- A knob that is tested for `None` has its first set value. -/
theorem pick_getD {α : Type} (explicit presetValue : Option α) (fallback : α) :
    (pick explicit presetValue).getD fallback = firstSet explicit presetValue fallback := by
  cases explicit <;> rfl

theorem map_pick {α β : Type} (f : α → β) (explicit presetValue : Option α) :
    (pick explicit presetValue).map f = pick (explicit.map f) (presetValue.map f) := by
  cases explicit <;> rfl

end Knob

/-! ## All knobs -/

section Request

variable {settings : Settings} {selection : ProviderSelection} {record : VoiceRecord} {tmpPath : String}
  {request : SynthesizeRequest} {defaults : PresetDefaults} {name : String}

theorem providerName_eq (effective : EffectiveSynthesisConfig) :
    providerName selection effective = (setText effective.provider).getD selection.providerName :=
  strip_or_eq _ _

theorem modelName_eq (effective : EffectiveSynthesisConfig) :
    modelName settings selection effective = (setText effective.model).getD
      (settings.modelDefaultForProvider (providerName selection effective)) :=
  strip_or_eq _ _

theorem resolvedVoice_eq :
    resolvedVoice request (effectiveConfig request name defaults) =
      (setText (pick request.voice defaults.voice)).getD "" := by
  have same : textOr request.voice (textOr (pick request.voice defaults.voice) "") =
      textOr (pick request.voice defaults.voice) "" := by
    cases request.voice with
    | none => rfl
    | some voice =>
      unfold textOr
      simp [pick]
  have stripped := strip_or_eq (pick request.voice defaults.voice) ""
  have mine : resolvedVoice request (effectiveConfig request name defaults) =
      strip (textOr (pick request.voice defaults.voice) "") := congrArg strip same
  rw [mine, ← stripped]
  split
  · rename_i empty
    exact empty
  · rfl

theorem language_eq (effective : EffectiveSynthesisConfig) :
    strip (buildVoiceConfig record tmpPath effective).language =
      (setText effective.language).getD (strip record.language) := by
  unfold buildVoiceConfig
  dsimp only
  cases effective.language with
  | none =>
    show strip (if strip record.language = "" then record.language else strip record.language) = strip record.language
    split
    · rfl
    · exact strip_strip _
  | some text =>
    by_cases empty : text = ""
    · subst empty
      show strip (if strip record.language = "" then record.language else strip record.language) = strip record.language
      split
      · rfl
      · exact strip_strip _
    · simp only [textOr, empty, if_false]
      cases blank : isBlank text with
      | true => rw [if_pos (strip_eq_empty_iff.2 blank), setText_blank blank, Option.getD_none]
      | false =>
        have full : strip text ≠ "" := fun hollow => by
          rw [strip_eq_empty_iff.1 hollow] at blank
          cases blank
        rw [if_neg full, setText_full blank, Option.getD_some, strip_strip]

end Request

/-- No blank text of the request hides a text of the preset. -/
structure Unhidden (settings : Settings) (selection : ProviderSelection) (record : VoiceRecord)
    (request : SynthesizeRequest) (defaults : PresetDefaults) : Prop where
  provider : ¬Hides request.provider defaults.provider selection.providerName
  model : ¬Hides request.model defaults.model (settings.modelDefaultForProvider
    (firstSet (setText request.provider) (setText defaults.provider) selection.providerName))
  voice : ¬Hides request.voice defaults.voice ""
  language : ¬Hides request.language defaults.language (strip record.language)

/-- **Precedence.** For all requests, presets, records, settings and selections, the
knobs used are the first set ones in the order request, preset, default if and only if
no blank provider, model, voice or language of the request stands before a set one of
the preset that differs from the default. -/
theorem precedence_iff (settings : Settings) (snapshot : PresetRegistry) (request : SynthesizeRequest)
    (selection : ProviderSelection) (record : VoiceRecord) (tmpPath : String) {entry : PresetEntry}
    (found : snapshot.get (request.presetName settings) = some entry) :
    ∃ effective, resolvePreset request snapshot settings = .ok effective ∧
      (Knobs.used settings selection record tmpPath request effective =
          Knobs.intended settings selection record request entry.defaults ↔
        Unhidden settings selection record request entry.defaults) := by
  refine ⟨_, resolvePreset_of_get found, ?_⟩
  have provider := picked_eq_firstSet_iff request.provider entry.defaults.provider selection.providerName
  have model := picked_eq_firstSet_iff request.model entry.defaults.model (settings.modelDefaultForProvider
    (firstSet (setText request.provider) (setText entry.defaults.provider) selection.providerName))
  have voice := picked_eq_firstSet_iff request.voice entry.defaults.voice ""
  have language := picked_eq_firstSet_iff request.language entry.defaults.language (strip record.language)
  simp only [Knobs.used, Knobs.intended, Knobs.mk.injEq, providerName_eq, modelName_eq, resolvedVoice_eq,
    language_eq]
  simp only [effectiveConfig, buildVoiceConfig, map_pick, pick_getD, and_true]
  constructor
  · rintro ⟨sameProvider, sameModel, sameVoice, sameLanguage⟩
    rw [sameProvider] at sameModel
    exact ⟨provider.1 sameProvider, model.1 sameModel, voice.1 sameVoice, language.1 sameLanguage⟩
  · intro unhidden
    have sameProvider := provider.2 unhidden.provider
    rw [sameProvider]
    exact ⟨rfl, model.2 unhidden.model, voice.2 unhidden.voice, language.2 unhidden.language⟩

/-- A registry whose one preset `reading` has these defaults. -/
def onePreset (defaults : PresetDefaults) : PresetRegistry where
  presets := [("reading", ⟨"Reading", "For books", defaults⟩)]
  distinct := List.nodup_singleton _

/-- A request that overrides the voice of its preset. -/
def overriddenVoice : SynthesizeRequest := { input := "ciao", preset := some "reading", voice := some " ada " }

theorem overriddenVoice_precedes :
    ∃ effective, resolvePreset overriddenVoice (onePreset { language := some "it", voice := some "eve" })
        plainSettings = .ok effective ∧
      Knobs.used plainSettings ⟨"mlx_audio", .mps, .auto⟩ (plainRecord "ada" .crud) "/tmp/voice.wav"
          overriddenVoice effective =
        Knobs.intended plainSettings ⟨"mlx_audio", .mps, .auto⟩ (plainRecord "ada" .crud) overriddenVoice
          { language := some "it", voice := some "eve" } := by
  obtain ⟨effective, resolved, precedes⟩ := precedence_iff plainSettings
    (onePreset { language := some "it", voice := some "eve" }) overriddenVoice
    ⟨"mlx_audio", .mps, .auto⟩ (plainRecord "ada" .crud) "/tmp/voice.wav" rfl
  exact ⟨effective, resolved, precedes.2 ⟨by decide, by decide, by decide, by decide⟩⟩

/-- A request with an empty language gets the language of the record, not that of the
preset. -/
theorem emptyLanguage_hides :
    ¬∀ (settings : Settings) (snapshot : PresetRegistry) (request : SynthesizeRequest) (entry : PresetEntry)
      (selection : ProviderSelection) (record : VoiceRecord) (tmpPath : String)
      (effective : EffectiveSynthesisConfig), snapshot.get (request.presetName settings) = some entry →
      resolvePreset request snapshot settings = .ok effective →
      Knobs.used settings selection record tmpPath request effective =
        Knobs.intended settings selection record request entry.defaults := by
  intro claim
  have same := claim plainSettings (onePreset { language := some "it" })
    { input := "ciao", preset := some "reading", language := some "" } _
    ⟨"mlx_audio", .mps, .auto⟩ (plainRecord "ada" .crud) "/tmp/voice.wav" _ rfl rfl
  have language := congrArg Knobs.language same
  exact absurd language (by decide)

end LlmTts
