import LlmTts.Synthesis.ModelCalls
import LlmTts.Synthesis.Ranges

/-!
# Preset knobs that cannot matter

`resolve_preset` lists the knobs of a preset that the pipeline cannot honour. A knob is
dead for a resolved provider and the parameter names of its model if no two values of it
can make a difference there: to the calls of the model, or to the audio.
`dead_of_not_matters` finds knobs that are dead; a text that is shown in a header never
is, by `text_not_dead`.
-/

namespace LlmTts
open Python Effect Checked

/-! ## Knobs -/

/-- The fields of `PresetDefaults`. -/
inductive Knob where
  | provider
  | model
  | temperature
  | topP
  | maxSentencesPerChunk
  | normalizeDb
  | responseFormat
  | postprocess
  | language
  | numberLang
  | voice
  deriving DecidableEq, Repr

namespace Knob

def name : Knob → String
  | provider => "provider"
  | model => "model"
  | temperature => "temperature"
  | topP => "top_p"
  | maxSentencesPerChunk => "max_sentences_per_chunk"
  | normalizeDb => "normalize_db"
  | responseFormat => "response_format"
  | postprocess => "postprocess"
  | language => "language"
  | numberLang => "number_lang"
  | voice => "voice"

/-- The preset sets the knob. -/
def SetBy (knob : Knob) (defaults : PresetDefaults) : Prop :=
  match knob with
  | provider => defaults.provider ≠ none
  | model => defaults.model ≠ none
  | temperature => defaults.temperature ≠ none
  | topP => defaults.topP ≠ none
  | maxSentencesPerChunk => defaults.maxSentencesPerChunk ≠ none
  | normalizeDb => defaults.normalizeDb ≠ none
  | responseFormat => defaults.responseFormat ≠ none
  | postprocess => defaults.postprocess ≠ none
  | language => defaults.language ≠ none
  | numberLang => defaults.numberLang ≠ none
  | voice => defaults.voice ≠ none

/-- The request does not override the knob; it cannot override the last two. -/
def FreeIn (knob : Knob) (payload : SynthesizeRequest) : Prop :=
  match knob with
  | provider => payload.provider = none
  | model => payload.model = none
  | temperature => payload.temperature = none
  | topP => payload.topP = none
  | maxSentencesPerChunk => payload.maxSentencesPerChunk = none
  | normalizeDb => payload.normalizeDb = none
  | language => payload.language = none
  | numberLang => payload.numberLang = none
  | voice => payload.voice = none
  | responseFormat | postprocess => True

/-- `defaults` with the value that the knob has in `source`. -/
def copy (knob : Knob) (source defaults : PresetDefaults) : PresetDefaults :=
  match knob with
  | provider => { defaults with provider := source.provider }
  | model => { defaults with model := source.model }
  | temperature => { defaults with temperature := source.temperature }
  | topP => { defaults with topP := source.topP }
  | maxSentencesPerChunk => { defaults with maxSentencesPerChunk := source.maxSentencesPerChunk }
  | normalizeDb => { defaults with normalizeDb := source.normalizeDb }
  | responseFormat => { defaults with responseFormat := source.responseFormat }
  | postprocess => { defaults with postprocess := source.postprocess }
  | language => { defaults with language := source.language }
  | numberLang => { defaults with numberLang := source.numberLang }
  | voice => { defaults with voice := source.voice }

end Knob

/-! ## Two runs -/

/-- A provider, its model, and the parameter names of the model. -/
structure Resolved where
  kind : ProviderKind
  modelName : String
  params : List String

/-- The run uses this provider and model, and the model has these parameters if it can be loaded. -/
structure Resolved.Fits (resolved : Resolved) (events : SynthesisEvents) (prepared : Prepared) : Prop where
  provider : prepared.strategy.providerName = resolved.kind.name
  model : prepared.modelName = resolved.modelName
  params : ∀ model, events.getModel resolved.kind resolved.modelName = .ok model →
    resolved.kind.signatureParams model = resolved.params

/-- The calls of the model, and the audio that is returned. -/
structure Observed where
  calls : List ModelCall
  audio : Option Bytes

/-- The body of a response. -/
def audioOf : Except Thrown RouteOutcome → Option Bytes
  | .ok (.responds _ _ _ _ body) => some body
  | _ => none

variable (packages : Packages)

def observe (events : SynthesisEvents) (host : SynthesisHost) (payload : SynthesizeRequest) : Observed where
  calls := (coreProg packages events host payload).run.asked events.generate
  audio := audioOf ((coreProg packages events host payload).run.answered events.generate)

/-- The knob cannot matter: any two runs for which the selected preset differs in the
knob alone make the same calls and return the same audio. -/
def Dead (host : SynthesisHost) (resolved : Resolved) (knob : Knob) : Prop :=
  ∀ (events : SynthesisEvents) (payload : SynthesizeRequest) (one two : PresetRegistry) (first second : PresetEntry)
    (prepared : Prepared), one.get (payload.presetName host.settings) = some first →
    two.get (payload.presetName host.settings) = some second → first.defaults.Conforms → second.defaults.Conforms →
    second.defaults = knob.copy second.defaults first.defaults → knob.SetBy first.defaults →
    knob.SetBy second.defaults → knob.FreeIn payload → (∀ n ∈ payload.maxSentencesPerChunk, 1 ≤ n) →
    prepare { host with presetSnapshot := one } (coreCalls packages events) payload = .ok prepared →
    resolved.Fits events prepared →
    observe packages events { host with presetSnapshot := one } payload =
      observe packages events { host with presetSnapshot := two } payload

/-- The model is called at all: mlx-audio needs a parameter for the voice. -/
def Resolved.Voiced (resolved : Resolved) : Prop :=
  resolved.kind = .mlxAudio → Takes resolved.params voiceNameAliases ∨ Takes resolved.params refAudioAliases ∨
    Takes resolved.params refTextAliases

/-- The knobs that can matter for a provider and the parameters of its model. -/
def Knob.Matters (knob : Knob) (resolved : Resolved) : Prop :=
  match knob with
  | .provider | .model | .language | .numberLang | .voice => True
  | .temperature => resolved.Voiced ∧ Takes resolved.params temperatureAliases
  | .topP => resolved.Voiced ∧ Takes resolved.params topPAliases
  | .maxSentencesPerChunk | .normalizeDb => resolved.Voiced
  | .responseFormat | .postprocess => False

/-- The response names the knob. -/
def Knob.ReportedIn (knob : Knob) (prepared : Prepared) (headers : List (String × String)) : Prop :=
  knob.name ∈ prepared.effective.ignoredKnobs ∧
    ∃ value, ("X-Preset-Ignored-Knobs", value) ∈ headers ∧ knob.name.toList ∈ value.toList.splitOn ','

/-! ## Headers that can be encoded -/

/-- The characters of Latin-1. -/
def Latin (c : Char) : Prop := c.toNat ≤ 0xFF

/-- The texts of a response that may not be Latin-1. -/
structure Encodable (prepared : Prepared) : Prop where
  provider : Made Latin prepared.providerName
  model : Made Latin prepared.modelName
  voice : Made Latin prepared.record.id
  effective : MadeConfig Latin prepared.effective
  ignored : ∀ knob ∈ prepared.effective.ignoredKnobs, Made Latin knob

theorem latin_of_headerChar {c : Char} (printable : headerChar c = true) : Latin c := by
  simp only [headerChar, Bool.or_eq_true, Bool.and_eq_true, decide_eq_true_eq] at printable
  unfold Latin
  omega

theorem latin_of_clean {text : String} (clean : Clean text) : Made Latin text := by
  intro c member
  exact latin_of_headerChar (clean c member)

theorem respond_ok_iff_latin {host : SynthesisHost} {prepared : Prepared} {totals : Option (Int × Int)} {body : Bytes} :
    (∃ outcome, respond host prepared totals body = .ok outcome) ↔
      ∀ header ∈ plainHeaders host prepared totals, Made Latin header.2 := by
  unfold respond
  split
  · rename_i all
    apply iff_of_true ⟨_, rfl⟩
    intro header member c inside
    have low := List.all_eq_true.1 (List.all_eq_true.1 all header member) c inside
    rw [decide_eq_true_eq] at low
    exact low
  · rename_i foreign
    apply iff_of_false
    · rintro ⟨outcome, built⟩
      cases built
    intro all
    apply foreign
    apply List.all_eq_true.2
    intro header member
    apply List.all_eq_true.2
    intro c inside
    exact decide_eq_true (all header member c inside)

/-- Whether a response can be built depends on these texts only. -/
theorem respond_ok_iff (host : SynthesisHost) {prepared : Prepared} (totals : Option (Int × Int)) (body : Bytes) :
    (∃ outcome, respond host prepared totals body = .ok outcome) ↔ Encodable prepared := by
  have device : Made Latin host.deviceProfile.device.name := by
    apply latin_of_clean
    cases host.deviceProfile.device <;> decide
  have dtype : Made Latin host.deviceProfile.dtype.name := by
    apply latin_of_clean
    cases host.deviceProfile.dtype <;> decide
  have source : Made Latin prepared.record.source.name := by
    apply latin_of_clean
    cases prepared.record.source <;> decide
  have counted : ∀ n : Int, Made Latin (intStr n) := fun n => latin_of_clean (clean_of_textual (textual_intStr n))
  have comma : Made Latin "," := latin_of_clean (by decide)
  have shown := formatPresetEffectiveHeader_made_iff (p := Latin) (fun _ => latin_of_headerChar) prepared.effective
  have listed := made_intercalate comma prepared.effective.ignoredKnobs
  have headers : ∃ counts : List (String × String), plainHeaders host prepared totals =
      [("X-Provider", prepared.providerName), ("X-Model", prepared.modelName),
        ("X-Device", host.deviceProfile.device.name), ("X-Dtype", host.deviceProfile.dtype.name),
        ("X-Voice-Source", prepared.record.source.name), ("X-Voice-Id", prepared.record.id)] ++ counts ++
      presetHeaders prepared.effective ∧ ∀ header ∈ counts, Made Latin header.2 := by
    cases totals with
    | none => exact ⟨[], rfl, List.forall_mem_nil _⟩
    | some totals => exact ⟨_, rfl, List.forall_mem_cons.2 ⟨counted _, List.forall_mem_singleton.2 (counted _)⟩⟩
  obtain ⟨counts, headers, totalled⟩ := headers
  rw [respond_ok_iff_latin, headers, List.forall_mem_append, List.forall_mem_append]
  simp only [List.forall_mem_cons, List.not_mem_nil, false_implies, implies_true, and_true]
  unfold presetHeaders
  rw [List.forall_mem_cons, shown]
  constructor
  · rintro ⟨⟨⟨provider, model, -, -, -, voice⟩, -⟩, effective, ignored⟩
    refine ⟨provider, model, voice, effective, ?_⟩
    split at ignored
    · rename_i silent
      rw [silent]
      exact List.forall_mem_nil _
    · exact listed.1 (ignored _ List.mem_cons_self)
  · intro encodable
    refine ⟨⟨⟨encodable.provider, encodable.model, device, dtype, source, encodable.voice⟩, totalled⟩,
      encodable.effective, ?_⟩
    split
    · exact List.forall_mem_nil _
    · exact List.forall_mem_singleton.2 (listed.2 encodable.ignored)

/-! ## Runs that are alike -/

theorem synthesisInput_ok_iff {host : SynthesisHost} {payload : SynthesizeRequest}
    {effective : EffectiveSynthesisConfig} {voiceId : String} :
    synthesisInput host payload = .ok (effective, voiceId) ↔
      resolvePreset payload host.presetSnapshot host.settings = .ok effective ∧
        resolvedVoice payload effective = voiceId ∧ voiceId ≠ "" ∧ isBlank payload.input = false ∧
        payload.input.length ≤ host.maxInputChars := by
  unfold synthesisInput
  rw [bind_ok_iff]
  constructor
  · rintro ⟨effective, resolved, rest⟩
    dsimp only at rest
    split at rest
    · cases rest
    · rename_i voiced
      split at rest
      · cases rest
      · rename_i full
        split at rest
        · cases rest
        · rename_i short
          cases rest
          exact ⟨resolved, rfl, voiced, Bool.eq_false_iff.2 full, Nat.le_of_not_lt short⟩
  · rintro ⟨resolved, rfl, voiced, full, short⟩
    refine ⟨effective, resolved, ?_⟩
    dsimp only
    rw [if_neg voiced, if_neg (Bool.eq_false_iff.1 full), if_neg (Nat.not_lt_of_le short)]

/-- The provider and the model are resolved from two fields. -/
theorem resolveProviderAndModel_congr (settings : Settings) (registry : TTSProviderRegistry)
    (selection : ProviderSelection) {one two : EffectiveSynthesisConfig} (provider : one.provider = two.provider)
    (model : one.model = two.model) :
    resolveProviderAndModel settings registry selection one = resolveProviderAndModel settings registry selection two := by
  have providers : providerName selection one = providerName selection two := by
    unfold providerName
    rw [provider]
  unfold resolveProviderAndModel modelName
  rw [providers, model]

theorem resolvedVoice_congr {payload : SynthesizeRequest} {one two : EffectiveSynthesisConfig}
    (voice : one.voice = two.voice) : resolvedVoice payload one = resolvedVoice payload two := by
  unfold resolvedVoice
  rw [voice]

/-- What two configurations share when neither their provider, nor their model, nor
their voice differs. -/
structure SameTarget (one two : EffectiveSynthesisConfig) : Prop where
  provider : one.provider = two.provider
  model : one.model = two.model
  voice : one.voice = two.voice

section Switch

variable {host : SynthesisHost} {calls : CoreCalls} {payload : SynthesizeRequest} {prepared : Prepared}
  {one two : PresetRegistry} {entry : PresetEntry}

/-- A run with another preset, for the same provider, model and voice. -/
theorem prepare_switch (before : prepare { host with presetSnapshot := one } calls payload = .ok prepared)
    (found : two.get (payload.presetName host.settings) = some entry)
    (same : SameTarget prepared.effective (effectiveConfig payload (payload.presetName host.settings) entry.defaults)) :
    prepare { host with presetSnapshot := two } calls payload =
      .ok { prepared with
        effective := effectiveConfig payload (payload.presetName host.settings) entry.defaults } := by
  obtain ⟨input, stored, pair⟩ := prepare_ok_iff.1 before
  obtain ⟨-, voice, voiced, full, short⟩ := synthesisInput_ok_iff.1 input
  apply prepare_ok_iff.2
  refine ⟨synthesisInput_ok_iff.2 ⟨resolvePreset_of_get found, ?_, voiced, full, short⟩, stored, ?_⟩
  · rw [← resolvedVoice_congr same.voice]
    exact voice
  · rw [← resolveProviderAndModel_congr _ _ _ same.provider same.model]
    exact pair

end Switch

theorem respond_of_encodable (host : SynthesisHost) {prepared : Prepared} (encodable : Encodable prepared)
    (totals : Option (Int × Int)) (body : Bytes) :
    ∃ outcome, respond host prepared totals body = .ok outcome ∧ audioOf (.ok outcome) = some body := by
  obtain ⟨outcome, built⟩ := (respond_ok_iff host totals body).2 encodable
  refine ⟨outcome, built, ?_⟩
  rw [respond_ok built]
  rfl

theorem respond_of_not_encodable {host : SynthesisHost} {prepared : Prepared} (unencodable : ¬Encodable prepared)
    (totals : Option (Int × Int)) (body : Bytes) : respond host prepared totals body = .error (.fault .headers) := by
  cases built : respond host prepared totals body with
  | ok outcome => exact absurd ((respond_ok_iff host totals body).1 ⟨outcome, built⟩) unencodable
  | error thrown =>
    unfold respond at built
    split at built
    · cases built
    · exact built.symm

section Alike

variable {packages} {events : SynthesisEvents} {host : SynthesisHost} {payload : SynthesizeRequest}

/-- The two programs make the same calls and return the same audio. -/
def SeenSame (generate : (call : ModelCall) → Generated call) (x y : ModelProg Thrown RouteOutcome) : Prop :=
  x.run.asked generate = y.run.asked generate ∧
    audioOf (x.run.answered generate) = audioOf (y.run.answered generate)

/-- The end of a run, for two prepared requests that make the same responses. -/
theorem respond_seen {generate : (call : ModelCall) → Generated call} {other : SynthesisHost} {first second : Prepared}
    (encodes : Encodable first ↔ Encodable second) (totals totals' : Option (Int × Int)) (body : Bytes) :
    SeenSame generate (ExceptT.mk (pure (respond host first totals body)))
      (ExceptT.mk (pure (respond other second totals' body))) := by
  refine ⟨rfl, ?_⟩
  show audioOf (respond host first totals body) = audioOf (respond other second totals' body)
  by_cases encodable : Encodable first
  · obtain ⟨outcome, built, audio⟩ := respond_of_encodable host encodable totals body
    obtain ⟨outcome', built', audio'⟩ := respond_of_encodable other (encodes.1 encodable) totals' body
    rw [built, built', audio, audio']
  · rw [respond_of_not_encodable encodable, respond_of_not_encodable fun there => encodable (encodes.2 there)]

theorem SeenSame.bind {generate : (call : ModelCall) → Generated call} {α : Type}
    (x : ModelProg Thrown α) {f g : α → ModelProg Thrown RouteOutcome} (rest : ∀ a, SeenSame generate (f a) (g a)) :
    SeenSame generate (x >>= f) (x >>= g) := by
  unfold SeenSame
  rw [Prog.asked_run_bind, Prog.asked_run_bind, Prog.answered_run_bind, Prog.answered_run_bind]
  cases x.run.answered generate with
  | error thrown => exact ⟨rfl, rfl⟩
  | ok a =>
    dsimp only
    rw [(rest a).1]
    exact ⟨rfl, (rest a).2⟩

/-- Two prepared requests that differ in their configuration, with loops that do the same. -/
theorem synthesisProg_seen {other : SynthesisHost} {prepared : Prepared} {effective : EffectiveSynthesisConfig}
    {voice voice' : VoiceConfig} {chunks chunks' : List String}
    (encodes : Encodable prepared ↔ Encodable { prepared with effective := effective })
    (streams : streamProg packages.np (providerProg events prepared.strategy)
        ⟨prepared.modelName, voice, prepared.voiceId, "wav"⟩ chunks =
      streamProg packages.np (providerProg events prepared.strategy)
        ⟨prepared.modelName, voice', prepared.voiceId, "wav"⟩ chunks')
    (buffers : bufferedProg packages.np (providerProg events prepared.strategy) events.disconnected
        ⟨prepared.modelName, voice, prepared.voiceId, "wav"⟩ chunks =
      bufferedProg packages.np (providerProg events prepared.strategy) events.disconnected
        ⟨prepared.modelName, voice', prepared.voiceId, "wav"⟩ chunks') :
    SeenSame events.generate (synthesisProg packages events host payload prepared voice chunks)
      (synthesisProg packages events other payload { prepared with effective := effective } voice' chunks') := by
  unfold synthesisProg
  dsimp only
  by_cases stream : payload.stream = true
  · rw [if_pos stream, if_pos stream, ← streams]
    by_cases encodable : Encodable prepared
    · obtain ⟨outcome, built, -⟩ := respond_of_encodable host encodable none []
      obtain ⟨outcome', built', -⟩ := respond_of_encodable other (encodes.1 encodable) none []
      rw [built, built', Prog.mk_ok_bind, Prog.mk_ok_bind]
      exact SeenSame.bind _ fun yielded => respond_seen encodes none none yielded.flatten
    · have unencodable : ¬Encodable { prepared with effective := effective } := fun there => encodable (encodes.2 there)
      rw [respond_of_not_encodable encodable, respond_of_not_encodable unencodable, Prog.mk_error_bind,
        Prog.mk_error_bind]
      exact ⟨rfl, rfl⟩
  · rw [if_neg stream, if_neg stream, ← buffers]
    exact SeenSame.bind _ fun buffered => respond_seen encodes _ _ buffered.body

/-- The loops of two voices do the same: the provider makes nothing of the difference,
or it does not get as far as the model. -/
inductive VoicesAlike (events : SynthesisEvents) (prepared : Prepared) (voice voice' : VoiceConfig) : Prop where
  | same (sentences : voice.maxSentencesPerChunk = voice'.maxSentencesPerChunk)
      (level : voice.targetDb = voice'.targetDb)
      (provider : ∀ chunkText,
        providerProg events prepared.strategy
          (buildSynthesisRequest ⟨prepared.modelName, voice, prepared.voiceId, "wav"⟩ chunkText) =
        providerProg events prepared.strategy
          (buildSynthesisRequest ⟨prepared.modelName, voice', prepared.voiceId, "wav"⟩ chunkText))
  | raises (raised : Raised)
      (first : ∀ chunkText, providerProg events prepared.strategy
        (buildSynthesisRequest ⟨prepared.modelName, voice, prepared.voiceId, "wav"⟩ chunkText) = throw raised)
      (second : ∀ chunkText, providerProg events prepared.strategy
        (buildSynthesisRequest ⟨prepared.modelName, voice', prepared.voiceId, "wav"⟩ chunkText) = throw raised)

/-- The text is preprocessed alike, and it has chunks for both or for neither. -/
theorem chunksOf_alike (packages : Packages) (events : SynthesisEvents) (host : SynthesisHost)
    (payload : SynthesizeRequest) (positive : 0 < host.maxInputChars) {voice voice' : VoiceConfig}
    (language : voice.language = voice'.language) (numberLang : voice.numberLang = voice'.numberLang) :
    (∃ thrown, chunksOf packages events host payload voice = .error thrown ∧
      chunksOf packages events host payload voice' = .error thrown) ∨
    ∃ chunks chunks', chunksOf packages events host payload voice = .ok chunks ∧
      chunksOf packages events host payload voice' = .ok chunks' ∧ chunks ≠ [] ∧ chunks' ≠ [] ∧
      (voice.maxSentencesPerChunk = voice'.maxSentencesPerChunk → chunks = chunks') := by
  unfold chunksOf
  rw [← language, ← numberLang]
  dsimp only
  cases (coreCalls packages events).preprocessForTts payload.input
    (if voice.numberLang = "" then voice.language else voice.numberLang) with
  | none => exact .inl ⟨_, rfl, rfl⟩
  | some normalized =>
    have empty : ∀ n, (splitTextSemantic normalized.toList host.maxInputChars n).map String.ofList = [] ↔
        stripped normalized.toList = [] := by
      intro n
      rw [List.map_eq_nil_iff]
      exact splitTextSemantic_eq_nil_iff positive _ n
    dsimp only [coreCalls]
    by_cases blank : stripped normalized.toList = []
    · rw [if_pos ((empty _).2 blank), if_pos ((empty _).2 blank)]
      exact .inl ⟨_, rfl, rfl⟩
    · have full := mt (empty voice.maxSentencesPerChunk.toInt).1 blank
      have full' := mt (empty voice'.maxSentencesPerChunk.toInt).1 blank
      rw [if_neg full, if_neg full']
      cases events.admission with
      | full => exact .inl ⟨_, rfl, rfl⟩
      | cancelled => exact .inl ⟨_, rfl, rfl⟩
      | admitted => exact .inr ⟨_, _, rfl, rfl, full, full', fun same => by rw [same]⟩

/-- Two runs that prepare the same request but for its configuration. -/
theorem observe_alike (positive : 0 < host.maxInputChars) {one two : PresetRegistry} {prepared : Prepared}
    {effective : EffectiveSynthesisConfig}
    (before : prepare { host with presetSnapshot := one } (coreCalls packages events) payload = .ok prepared)
    (before' : prepare { host with presetSnapshot := two } (coreCalls packages events) payload =
      .ok { prepared with effective := effective })
    (encodes : Encodable prepared ↔ Encodable { prepared with effective := effective })
    (language : prepared.effective.language = effective.language)
    (numberLang : prepared.effective.numberLang = effective.numberLang)
    (alike : ∀ tmpPath, VoicesAlike events prepared (buildVoiceConfig prepared.record tmpPath prepared.effective)
      (buildVoiceConfig prepared.record tmpPath effective)) :
    observe packages events { host with presetSnapshot := one } payload =
      observe packages events { host with presetSnapshot := two } payload := by
  have seen : SeenSame events.generate (coreProg packages events { host with presetSnapshot := one } payload)
      (coreProg packages events { host with presetSnapshot := two } payload) := by
    unfold coreProg
    rw [before, before', Prog.mk_ok_bind, Prog.mk_ok_bind]
    dsimp only
    cases events.tempFile prepared.voiceId prepared.blobBytes with
    | none => exact ⟨rfl, rfl⟩
    | some tmpPath =>
      have spoken : (buildVoiceConfig prepared.record tmpPath prepared.effective).language =
          (buildVoiceConfig prepared.record tmpPath effective).language := by
        unfold buildVoiceConfig
        rw [language]
      have counted : (buildVoiceConfig prepared.record tmpPath prepared.effective).numberLang =
          (buildVoiceConfig prepared.record tmpPath effective).numberLang := by
        unfold buildVoiceConfig
        rw [numberLang]
      dsimp only
      rcases chunksOf_alike packages events { host with presetSnapshot := one } payload positive spoken counted with
        ⟨thrown, first, second⟩ | ⟨chunks, chunks', first, second, nonempty, nonempty', same⟩
      · have second' : chunksOf packages events { host with presetSnapshot := two } payload _ = .error thrown := second
        rw [first, second', Prog.mk_error_bind, Prog.mk_error_bind]
        exact ⟨rfl, rfl⟩
      · have second' : chunksOf packages events { host with presetSnapshot := two } payload _ = .ok chunks' := second
        rw [first, second', Prog.mk_ok_bind, Prog.mk_ok_bind]
        cases alike tmpPath with
        | same sentences level provider =>
          rw [← same sentences]
          exact synthesisProg_seen encodes (streamProg_congr provider level chunks)
            (bufferedProg_congr provider level chunks)
        | raises raised fails fails' =>
          apply synthesisProg_seen encodes
          · rw [streamProg_raises fails, streamProg_raises fails']
          · rw [bufferedProg_raises fails nonempty, bufferedProg_raises fails' nonempty']
  exact congrArg₂ Observed.mk seen.1 seen.2

end Alike

/-! ## Knobs that cannot matter -/

section Dead

variable {packages} {events : SynthesisEvents} {host : SynthesisHost} {payload : SynthesizeRequest}
  {resolved : Resolved} {prepared : Prepared} {knob : Knob}

/-- The presets have the same texts. -/
structure SameTexts (one two : PresetDefaults) : Prop where
  provider : one.provider = two.provider
  model : one.model = two.model
  language : one.language = two.language
  numberLang : one.numberLang = two.numberLang
  voice : one.voice = two.voice

theorem sameTexts_of_copy {first second : PresetDefaults} (unmatters : ¬knob.Matters resolved)
    (copied : second = knob.copy second first) : SameTexts first second := by
  rw [copied]
  cases knob with
  | provider | model | language | numberLang | voice => exact absurd trivial unmatters
  | temperature | topP | maxSentencesPerChunk | normalizeDb | responseFormat | postprocess =>
    exact ⟨rfl, rfl, rfl, rfl, rfl⟩

theorem SameTexts.target {first second : PresetDefaults} (texts : SameTexts first second)
    (payload : SynthesizeRequest) (name : String) :
    SameTarget (effectiveConfig payload name first) (effectiveConfig payload name second) := by
  unfold effectiveConfig
  constructor
  · rw [texts.provider]
  · rw [texts.model]
  · rw [texts.voice]

/-- The name of the only knob that is ever ignored is Latin-1. -/
theorem ignoredKnobs_latin (name : String) (defaults : PresetDefaults) :
    ∀ ignored ∈ (effectiveConfig payload name defaults).ignoredKnobs, Made Latin ignored := by
  intro ignored member
  unfold effectiveConfig at member
  dsimp only at member
  split at member
  · cases member
  · rw [List.mem_singleton.1 member]
    apply latin_of_clean
    decide

theorem SameTexts.symm {first second : PresetDefaults} (texts : SameTexts first second) : SameTexts second first :=
  ⟨texts.provider.symm, texts.model.symm, texts.language.symm, texts.numberLang.symm, texts.voice.symm⟩

theorem SameTexts.made {first second : PresetDefaults} (texts : SameTexts first second) {name : String}
    (made : MadeConfig Latin (effectiveConfig payload name first)) :
    MadeConfig Latin (effectiveConfig payload name second) := by
  obtain ⟨presetName, provider, model, language, numberLang, voice⟩ := made
  unfold effectiveConfig at *
  rw [texts.provider] at provider
  rw [texts.model] at model
  rw [texts.language] at language
  rw [texts.numberLang] at numberLang
  rw [texts.voice] at voice
  exact ⟨presetName, provider, model, language, numberLang, voice⟩

theorem SameTexts.encodes {first second : PresetDefaults} (texts : SameTexts first second) {name : String}
    (effective : prepared.effective = effectiveConfig payload name first) :
    Encodable prepared ↔ Encodable { prepared with effective := effectiveConfig payload name second } := by
  constructor
  · intro encodable
    have shown := encodable.effective
    rw [effective] at shown
    exact ⟨encodable.provider, encodable.model, encodable.voice, texts.made shown, ignoredKnobs_latin name second⟩
  · intro encodable
    have shown := texts.symm.made encodable.effective
    refine ⟨encodable.provider, encodable.model, encodable.voice, ?_, ?_⟩
    · rw [effective]
      exact shown
    · rw [effective]
      exact ignoredKnobs_latin name first

theorem providerProg_of_fits (fits : resolved.Fits events prepared) (request : SynthesisRequest) :
    providerProg events prepared.strategy request = resolved.kind.synthesizeChunks events.getModel request := by
  unfold providerProg
  rw [kindOf_eq_some fits.provider]

/-- Without a parameter for the voice the provider raises, whatever it is asked. -/
theorem providerProg_unvoiced (fits : resolved.Fits events prepared) (unvoiced : ¬resolved.Voiced) :
    ∃ raised, ∀ voice chunkText, providerProg events prepared.strategy
      (buildSynthesisRequest ⟨prepared.modelName, voice, prepared.voiceId, "wav"⟩ chunkText) = throw raised := by
  unfold Resolved.Voiced at unvoiced
  rw [Classical.not_imp, not_or, not_or] at unvoiced
  obtain ⟨mlxAudio, voiceless, audioless, textless⟩ := unvoiced
  have unnamed : ∀ request : SynthesisRequest, request.modelName = resolved.modelName → ∀ model,
      events.getModel .mlxAudio request.modelName = .ok model →
      ProviderKind.mlxAudio.voiceArgs request (ProviderKind.mlxAudio.signatureParams model) = [] := by
    intro request named model loads
    have params := fits.params model
    rw [mlxAudio] at params
    rw [params (named ▸ loads)]
    exact ProviderKind.mlxAudio_voiceArgs_eq_nil_iff.2 ⟨.inr ⟨audioless, textless⟩, .inr voiceless⟩
  have fails := fun voice chunkText => ProviderKind.synthesizeChunks_unvoiced
    (unnamed (buildSynthesisRequest ⟨prepared.modelName, voice, prepared.voiceId, "wav"⟩ chunkText) fits.model)
  simp only [providerProg_of_fits fits, mlxAudio, fails]
  show ∃ raised, ∀ (voice : VoiceConfig) (chunkText : String),
    (ExceptT.mk (pure (events.getModel .mlxAudio prepared.modelName)) >>= fun _ => throw _ :
      ModelProg Raised (List Bytes)) = throw raised
  cases events.getModel .mlxAudio prepared.modelName with
  | error raised => exact ⟨raised, fun _ _ => rfl⟩
  | ok model => exact ⟨_, fun _ _ => rfl⟩

/-- A knob other than the level and the number of sentences, if a model is called, is a
parameter that the model does not take, or is not used at all. -/
theorem voicesAlike_of_voiced (fits : resolved.Fits events prepared) (voiced : resolved.Voiced)
    (unmatters : ¬knob.Matters resolved) {first second : PresetDefaults} (copied : second = knob.copy second first)
    {name : String} (effective : prepared.effective = effectiveConfig payload name first) (tmpPath : String) :
    VoicesAlike events prepared (buildVoiceConfig prepared.record tmpPath prepared.effective)
      (buildVoiceConfig prepared.record tmpPath (effectiveConfig payload name second)) := by
  have args : ∀ chunkText params, params = resolved.params →
      generationArgs (buildSynthesisRequest ⟨prepared.modelName, buildVoiceConfig prepared.record tmpPath
        prepared.effective, prepared.voiceId, "wav"⟩ chunkText) params =
      generationArgs (buildSynthesisRequest ⟨prepared.modelName, buildVoiceConfig prepared.record tmpPath
        (effectiveConfig payload name second), prepared.voiceId, "wav"⟩ chunkText) params := by
    rintro chunkText params rfl
    rw [effective, copied]
    cases knob with
    | provider | model | language | numberLang | voice => exact absurd trivial unmatters
    | maxSentencesPerChunk | normalizeDb => exact absurd voiced unmatters
    | responseFormat | postprocess => rfl
    | temperature =>
      have untaken : ¬Takes resolved.params temperatureAliases := fun takes => unmatters ⟨voiced, takes⟩
      show _ ++ supportedArg temperatureAliases _ _ ++ _ = _ ++ supportedArg temperatureAliases _ _ ++ _
      rw [supportedArg_of_not_takes untaken]
      rfl
    | topP =>
      have untaken : ¬Takes resolved.params topPAliases := fun takes => unmatters ⟨voiced, takes⟩
      show _ ++ supportedArg topPAliases _ _ = _ ++ supportedArg topPAliases _ _
      rw [supportedArg_of_not_takes untaken]
      rfl
  have numbers : (buildVoiceConfig prepared.record tmpPath prepared.effective).maxSentencesPerChunk =
        (buildVoiceConfig prepared.record tmpPath (effectiveConfig payload name second)).maxSentencesPerChunk ∧
      (buildVoiceConfig prepared.record tmpPath prepared.effective).targetDb =
        (buildVoiceConfig prepared.record tmpPath (effectiveConfig payload name second)).targetDb := by
    rw [effective, copied]
    cases knob with
    | provider | model | language | numberLang | voice => exact absurd trivial unmatters
    | maxSentencesPerChunk | normalizeDb => exact absurd voiced unmatters
    | temperature | topP | responseFormat | postprocess => exact ⟨rfl, rfl⟩
  apply VoicesAlike.same numbers.1 numbers.2
  intro chunkText
  rw [providerProg_of_fits fits, providerProg_of_fits fits]
  apply ProviderKind.synthesizeChunks_congr
  · exact Eq.refl prepared.modelName
  · exact Eq.refl [chunkText]
  · exact Eq.refl prepared.voiceId
  · exact Eq.refl tmpPath
  · exact Eq.refl prepared.record.transcript
  · intro model loads
    apply args
    apply fits.params
    rw [← fits.model]
    exact loads

/-- A knob that cannot matter is dead. -/
theorem dead_of_not_matters (positive : 0 < host.maxInputChars) (unmatters : ¬knob.Matters resolved) :
    Dead packages host resolved knob := by
  intro events payload one two first second prepared found found' _ _ copied _ _ _ _ before fits
  obtain ⟨entry, found'', prepares⟩ := prepare_ok before
  cases found.symm.trans found''
  have effective := prepares.effective
  have texts := sameTexts_of_copy unmatters copied
  have target := texts.target payload (payload.presetName host.settings)
  rw [← effective] at target
  apply observe_alike positive before (prepare_switch before found' target) (texts.encodes effective)
  · rw [effective]
    exact congrArg (pick payload.language) texts.language
  · rw [effective]
    exact congrArg (pick payload.numberLang) texts.numberLang
  · intro tmpPath
    by_cases voiced : resolved.Voiced
    · exact voicesAlike_of_voiced fits voiced unmatters copied effective tmpPath
    · obtain ⟨raised, fails⟩ := providerProg_unvoiced fits voiced
      exact .raises raised (fails _) (fails _)

end Dead

/-! ## Responses -/

section Responses

variable {packages} {events : SynthesisEvents} {host : SynthesisHost} {payload : SynthesizeRequest}
  {prepared : Prepared} {outcome : RouteOutcome}

/-- The headers of a response could be encoded. -/
theorem encodable_of_run (before : prepare host (coreCalls packages events) payload = .ok prepared)
    (run : (coreProg packages events host payload).run.answered events.generate = .ok outcome) :
    Encodable prepared ∧ ∃ totals body, outcome = .responds 200 (rawHeaders (plainHeaders host prepared totals))
      (plainHeaders_plain host prepared totals) true body := by
  rw [coreProg_answered, before] at run
  obtain ⟨tmpPath, -, done⟩ := tryBlock_ok run
  obtain ⟨totals, body, built⟩ := pipeline_responds done
  exact ⟨(respond_ok_iff host totals body).1 ⟨outcome, built⟩, totals, body, respond_ok built⟩

theorem prepared_of_run (run : (coreProg packages events host payload).run.answered events.generate = .ok outcome) :
    ∃ prepared, prepare host (coreCalls packages events) payload = .ok prepared := by
  rw [coreProg_answered] at run
  obtain ⟨prepared, before, -⟩ := bind_ok_iff.1 run
  exact ⟨prepared, before⟩

theorem exists_of_audioOf {result : Except Thrown RouteOutcome} {body : Bytes} (audio : audioOf result = some body) :
    ∃ outcome, result = .ok outcome := by
  cases result with
  | ok outcome => exact ⟨outcome, rfl⟩
  | error thrown => cases audio

/-- A run that is observed like one that responds has headers that can be encoded. -/
theorem encodable_of_observe {other : SynthesisHost} {payload' : SynthesizeRequest}
    (run : (coreProg packages events host payload).run.answered events.generate = .ok outcome)
    (same : observe packages events host payload = observe packages events other payload') :
    ∃ prepared, prepare other (coreCalls packages events) payload' = .ok prepared ∧ Encodable prepared := by
  obtain ⟨prepared, before⟩ := prepared_of_run run
  obtain ⟨-, totals, body, rfl⟩ := encodable_of_run before run
  have audio := congrArg Observed.audio same
  unfold observe at audio
  rw [run] at audio
  obtain ⟨outcome', run'⟩ := exists_of_audioOf audio.symm
  obtain ⟨prepared', before'⟩ := prepared_of_run run'
  exact ⟨prepared', before', (encodable_of_run before' run').1⟩

end Responses

/-- The registry of one preset. -/
def single (name : String) (entry : PresetEntry) : PresetRegistry := ⟨[(name, entry)], List.nodup_singleton _⟩

theorem get_single (name : String) (entry : PresetEntry) : (single name entry).get name = some entry := by
  unfold PresetRegistry.get single dictGet
  simp

/-! ## Texts that matter -/

/-- Texts that no header can carry. -/
def unspeakable : PresetDefaults where
  provider := some "日"
  model := some "日"
  language := some "日"
  numberLang := some "日"
  voice := some "日"

section Texts

variable {packages} {events : SynthesisEvents} {host : SynthesisHost} {payload : SynthesizeRequest}
  {resolved : Resolved} {prepared : Prepared} {outcome : RouteOutcome} {entry : PresetEntry} {knob : Knob}

/-- A response does not show such a text. -/
theorem not_encodable_of_text (free : knob.FreeIn payload) (text : knob ∈ [.provider, .model, .language, .numberLang, .voice])
    {name : String} {defaults : PresetDefaults}
    (effective : prepared.effective = effectiveConfig payload name (knob.copy unspeakable defaults)) :
    ¬Encodable prepared := by
  have foreign : ¬Made Latin "日" := by
    intro made
    have high := made '日' (by decide)
    unfold Latin at high
    revert high
    decide
  intro encodable
  have shown := encodable.effective
  rw [effective] at shown
  simp only [List.mem_cons, List.not_mem_nil, or_false] at text
  rcases text with rfl | rfl | rfl | rfl | rfl
  · exact foreign (shown.provider "日" (congrArg (pick · _) free))
  · exact foreign (shown.model "日" (congrArg (pick · _) free))
  · exact foreign (shown.language "日" (congrArg (pick · _) free))
  · exact foreign (shown.numberLang "日" (congrArg (pick · _) free))
  · exact foreign (shown.voice "日" (congrArg (pick · _) free))

/-- A knob whose value is shown in a header matters: a text that is not Latin-1 fails. -/
theorem text_not_dead (run : (coreProg packages events host payload).run.answered events.generate = .ok outcome)
    (before : prepare host (coreCalls packages events) payload = .ok prepared) (fits : resolved.Fits events prepared)
    (found : host.presetSnapshot.get (payload.presetName host.settings) = some entry) (valid : entry.defaults.Conforms)
    (set : knob.SetBy entry.defaults) (free : knob.FreeIn payload)
    (bounded : ∀ n ∈ payload.maxSentencesPerChunk, 1 ≤ n)
    (text : knob ∈ [.provider, .model, .language, .numberLang, .voice]) : ¬Dead packages host resolved knob := by
  intro dead
  have valid' : (knob.copy unspeakable entry.defaults).Conforms ∧ knob.SetBy (knob.copy unspeakable entry.defaults) ∧
      knob.copy unspeakable entry.defaults = knob.copy (knob.copy unspeakable entry.defaults) entry.defaults := by
    simp only [List.mem_cons, List.not_mem_nil, or_false] at text
    rcases text with rfl | rfl | rfl | rfl | rfl
    all_goals exact ⟨⟨valid.temperature, valid.topP, valid.maxSentencesPerChunk⟩, Option.some_ne_none _, rfl⟩
  have same := dead events payload host.presetSnapshot
    (single (payload.presetName host.settings) { entry with defaults := knob.copy unspeakable entry.defaults })
    entry { entry with defaults := knob.copy unspeakable entry.defaults } prepared found (get_single _ _) valid
    valid'.1 valid'.2.2 set valid'.2.1 free bounded before fits
  obtain ⟨prepared', before', encodable⟩ := encodable_of_observe run same
  obtain ⟨entry', found', prepares⟩ := prepare_ok before'
  cases (get_single _ _).symm.trans found'
  exact not_encodable_of_text free text prepares.effective encodable

end Texts

end LlmTts
