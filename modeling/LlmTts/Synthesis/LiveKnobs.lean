import LlmTts.Synthesis.DeadKnobs

/-!
# Preset knobs that matter

A knob that can matter is not dead: there are two values of it, and a run, for which the
first call of the model differs, or the audio does. With that `dead_iff` finds the dead
knobs, and `dead_reported_iff` tells when a response reports them.
-/

namespace LlmTts
open Python Effect Checked

/-! ## The probe -/

/-- The request, for a text of two sentences. -/
def probeRequest (payload : SynthesizeRequest) (stream : Bool) : SynthesizeRequest :=
  { payload with input := "A. B", stream := stream }

/-- An undisturbed run with a model that has these parameters and returns the same payload for every call. -/
def probeEvents (events : SynthesisEvents) (params : List String) (wav : Bytes) : SynthesisEvents :=
  { events with
    tempFile := fun _ _ => some "/tmp/voice.wav"
    admission := .admitted
    disconnected := fun _ => false
    getModel := fun _ _ => .ok ⟨some params, true⟩
    generate := fun _ => .ok (oneResult wav) }

section Probes

variable {packages : Packages} {events : SynthesisEvents} {host : SynthesisHost} {payload : SynthesizeRequest}
  {resolved : Resolved} {prepared : Prepared} {entry : PresetEntry} {defaults : PresetDefaults} {wav : Bytes}
  {stream : Bool} {knob : Knob}

/-- The probe has the provider, the model and the voice of the run. -/
theorem prepare_probe (before : prepare host (coreCalls packages events) payload = .ok prepared)
    (found : host.presetSnapshot.get (payload.presetName host.settings) = some entry)
    (texts : SameTexts entry.defaults defaults) (limit : 4 ≤ host.maxInputChars) (params : List String) (wav : Bytes)
    (stream : Bool) :
    prepare { host with presetSnapshot := single (payload.presetName host.settings) { entry with defaults := defaults } }
        (coreCalls packages (probeEvents events params wav)) (probeRequest payload stream) =
      .ok { prepared with
        effective := effectiveConfig payload (payload.presetName host.settings) defaults } := by
  obtain ⟨entry', found', prepares⟩ := prepare_ok before
  cases found.symm.trans found'
  have target := texts.target payload (payload.presetName host.settings)
  rw [← prepares.effective] at target
  obtain ⟨input, stored, pair⟩ := prepare_ok_iff.1 before
  obtain ⟨-, voice, voiced, -, -⟩ := synthesisInput_ok_iff.1 input
  have full : isBlank "A. B" = false := by
    decide +kernel
  have length : "A. B".length = 4 := by decide
  have short : "A. B".length ≤ host.maxInputChars := by omega
  have resolves : resolvePreset (probeRequest payload stream)
      (single (payload.presetName host.settings) { entry with defaults := defaults }) host.settings =
      .ok (effectiveConfig payload (payload.presetName host.settings) defaults) :=
    resolvePreset_of_get (get_single _ _)
  apply prepare_ok_iff.2
  refine ⟨synthesisInput_ok_iff.2 ⟨resolves, ?_, voiced, full, short⟩, stored, ?_⟩
  · rw [← voice, resolvedVoice_congr target.voice]
    rfl
  · rw [resolveProviderAndModel_congr _ _ _ target.provider target.model] at pair
    exact pair

/-- The text of the probe has nothing to expand or to clean. -/
theorem preprocess_probe (packages : Packages) (events : SynthesisEvents) (language : String) :
    (coreCalls packages events).preprocessForTts "A. B" language = some "A. B" := by
  have slashless : '/' ∉ "A. B".toList := by decide
  have digits : ("A. B".toList.all fun c => !isDecimal c) = true := by decide
  have digitless : ∀ c ∈ "A. B".toList, isDecimal c = false := by
    intro c member
    simpa using List.all_eq_true.1 digits c member
  have clean : cleanPunctuation "A. B".toList = "A. B".toList := by decide
  have done : preprocessForTts packages.num2words packages.words "A. B".toList language = .ok "A. B".toList := by
    unfold preprocessForTts
    simp only [expandDates_of_slashless slashless, expandNumbers_of_digitless digitless, bind, Except.bind, clean]
    rfl
  unfold coreCalls
  simp only [done]
  rfl

/-- The first chunk of the probe. -/
def probeChunk (maxSentencesPerChunk : Int) : String := if maxSentencesPerChunk = 1 then "A." else "A. B"

theorem split_probe {maxChars : Nat} (limit : 4 ≤ maxChars) (maxSentencesPerChunk : Int) (positive : 1 ≤ maxSentencesPerChunk) :
    ∃ rest, (splitTextSemantic "A. B".toList maxChars maxSentencesPerChunk).map String.ofList =
      probeChunk maxSentencesPerChunk :: rest := by
  have full : stripped "A. B".toList ≠ [] := by decide
  have two : sentencesOf (stripped "A. B".toList) = ["A.".toList, "B".toList] := by decide
  have joined : chunkOf ["A.".toList, "B".toList] = "A. B".toList := by decide
  have first : chunkOf ["A.".toList] = "A.".toList := by decide
  have lengths : "A.".toList.length = 2 ∧ "B".toList.length = 1 ∧ "A. B".toList.length = 4 := by decide
  have short : (chunkOf ["A.".toList, "B".toList]).length ≤ maxChars := by
    rw [joined]
    omega
  rw [splitTextSemantic_two full two (by omega) (by omega) short _ positive, joined, first]
  unfold probeChunk
  split
  · exact ⟨[_], rfl⟩
  · exact ⟨[], rfl⟩

/-- The configuration of the probe. -/
def probeVoice (prepared : Prepared) (payload : SynthesizeRequest) (name : String) (defaults : PresetDefaults) :
    VoiceConfig :=
  buildVoiceConfig prepared.record "/tmp/voice.wav" (effectiveConfig payload name defaults)

def probeInput (prepared : Prepared) (payload : SynthesizeRequest) (name : String) (defaults : PresetDefaults) :
    SynthesisInput :=
  ⟨prepared.modelName, probeVoice prepared payload name defaults, prepared.voiceId, "wav"⟩

/-- What the provider is asked for a chunk of the probe. -/
def probeSynthesis (prepared : Prepared) (payload : SynthesizeRequest) (name : String) (defaults : PresetDefaults)
    (chunk : String) : SynthesisRequest :=
  buildSynthesisRequest (probeInput prepared payload name defaults) chunk

/-- The voice is the same for every preset. -/
theorem probeSynthesis_voice (prepared : Prepared) (payload : SynthesizeRequest) (name : String)
    (defaults : PresetDefaults) (chunk : String) :
    (probeSynthesis prepared payload name defaults chunk).voiceName = prepared.voiceId ∧
      (probeSynthesis prepared payload name defaults chunk).voice.refAudioPath = "/tmp/voice.wav" ∧
      (probeSynthesis prepared payload name defaults chunk).voice.refText = prepared.record.transcript :=
  ⟨rfl, rfl, rfl⟩

theorem probeSynthesis_args (prepared : Prepared) (payload : SynthesizeRequest) (name : String)
    (defaults : PresetDefaults) (chunk : String) (params : List String) :
    generationArgs (probeSynthesis prepared payload name defaults chunk) params =
      supportedArg languageAliasNames (.str (probeVoice prepared payload name defaults).language) params ++
        supportedArg temperatureAliases
          (.float ((pick payload.temperature defaults.temperature).getD prepared.record.temperature)) params ++
        supportedArg topPAliases (.float ((pick payload.topP defaults.topP).getD prepared.record.topP)) params := rfl

/-- The host of the probe. -/
def probeHost (host : SynthesisHost) (payload : SynthesizeRequest) (entry : PresetEntry) (defaults : PresetDefaults) :
    SynthesisHost :=
  { host with presetSnapshot := single (payload.presetName host.settings) { entry with defaults := defaults } }

/-- The chunks of the probe. -/
theorem chunksOf_probe (packages : Packages) (events : SynthesisEvents) (host : SynthesisHost)
    (payload : SynthesizeRequest) (admitted : events.admission = .admitted) (text : payload.input = "A. B")
    {voice : VoiceConfig} {chunk : String} {rest : List String}
    (split : (splitTextSemantic "A. B".toList host.maxInputChars voice.maxSentencesPerChunk.toInt).map String.ofList =
      chunk :: rest) : chunksOf packages events host payload voice = .ok (chunk :: rest) := by
  have pieces : (coreCalls packages events).splitTextSemantic "A. B" host.maxInputChars voice.maxSentencesPerChunk.toInt =
      some (chunk :: rest) := congrArg some split
  unfold chunksOf
  dsimp only
  rw [text, preprocess_probe]
  dsimp only
  rw [pieces]
  dsimp only
  rw [if_neg (List.cons_ne_nil _ _), admitted]

/-- The probe gets as far as the loops. -/
theorem probe_eq (before : prepare host (coreCalls packages events) payload = .ok prepared)
    (found : host.presetSnapshot.get (payload.presetName host.settings) = some entry)
    (texts : SameTexts entry.defaults defaults) (limit : 4 ≤ host.maxInputChars) (params : List String) (wav : Bytes)
    (stream : Bool) {chunk : String} {rest : List String}
    (split : (splitTextSemantic "A. B".toList host.maxInputChars (probeVoice prepared payload
      (payload.presetName host.settings) defaults).maxSentencesPerChunk.toInt).map String.ofList = chunk :: rest) :
    coreProg packages (probeEvents events params wav) (probeHost host payload entry defaults)
        (probeRequest payload stream) =
      synthesisProg packages (probeEvents events params wav) (probeHost host payload entry defaults)
        (probeRequest payload stream)
        { prepared with effective := effectiveConfig payload (payload.presetName host.settings) defaults }
        (probeVoice prepared payload (payload.presetName host.settings) defaults) (chunk :: rest) := by
  have chunked := chunksOf_probe packages (probeEvents events params wav) (probeHost host payload entry defaults)
    (probeRequest payload stream) rfl rfl split
  exact coreProg_eq _ _ _ _ (prepare_probe before found texts limit params wav stream) rfl chunked

/-- A model that has these parameters and returns one payload is called for the probe. -/
theorem probe_voiced (voiced : resolved.Voiced) {request : SynthesisRequest} (path : request.voice.refAudioPath ≠ "")
    (name : request.voiceName ≠ "") : resolved.kind.Voiced request resolved.params := by
  unfold Resolved.Voiced at voiced
  cases provider : resolved.kind with
  | mlxAudio =>
    intro voiceless
    obtain ⟨pathless, nameless⟩ := ProviderKind.mlxAudio_voiceArgs_eq_nil_iff.1 voiceless
    rcases voiced provider with takes | takes | takes
    · exact nameless.elim name (absurd takes)
    · exact pathless.elim path fun untaken => untaken.1 takes
    · exact pathless.elim path fun untaken => untaken.2 takes
  | voxtral => exact path
  | vllmOmni => trivial

theorem probe_fits (fits : resolved.Fits events prepared) (effective : EffectiveSynthesisConfig) (wav : Bytes) :
    resolved.Fits (probeEvents events resolved.params wav) { prepared with effective := effective } := by
  constructor
  · exact fits.provider
  · exact fits.model
  · intro model loads
    cases loads
    rfl

theorem probe_free (free : knob.FreeIn payload) (stream : Bool) : knob.FreeIn (probeRequest payload stream) := by
  cases knob with
  | responseFormat | postprocess => trivial
  | provider | model | temperature | topP | maxSentencesPerChunk | normalizeDb | language | numberLang | voice =>
    exact free

/-- A knob that is dead makes no difference to the probe. -/
theorem probe_dead (dead : Dead packages host resolved knob)
    (before : prepare host (coreCalls packages events) payload = .ok prepared)
    (found : host.presetSnapshot.get (payload.presetName host.settings) = some entry)
    (fits : resolved.Fits events prepared) (limit : 4 ≤ host.maxInputChars) (free : knob.FreeIn payload)
    (bounded : ∀ n ∈ payload.maxSentencesPerChunk, 1 ≤ n) (first second : PresetDefaults)
    (texts : SameTexts entry.defaults first) (valid : first.Conforms) (valid' : second.Conforms)
    (copied : second = knob.copy second first) (set : knob.SetBy first) (set' : knob.SetBy second) (wav : Bytes)
    (stream : Bool) :
    observe packages (probeEvents events resolved.params wav) (probeHost host payload entry first)
        (probeRequest payload stream) =
      observe packages (probeEvents events resolved.params wav) (probeHost host payload entry second)
        (probeRequest payload stream) := by
  apply dead _ _ _ _ { entry with defaults := first } { entry with defaults := second }
  · exact get_single _ _
  · exact get_single _ _
  · exact valid
  · exact valid'
  · exact copied
  · exact set
  · exact set'
  · exact probe_free free stream
  · exact bounded
  · exact prepare_probe before found texts limit resolved.params wav stream
  · exact probe_fits fits _ wav

/-- The first call of the probe. -/
theorem probe_call (before : prepare host (coreCalls packages events) payload = .ok prepared)
    (found : host.presetSnapshot.get (payload.presetName host.settings) = some entry)
    (texts : SameTexts entry.defaults defaults) (fits : resolved.Fits events prepared) (voiced : resolved.Voiced)
    (limit : 4 ≤ host.maxInputChars) (wav : Bytes) {chunk : String} {rest : List String}
    (split : (splitTextSemantic "A. B".toList host.maxInputChars (probeVoice prepared payload
      (payload.presetName host.settings) defaults).maxSentencesPerChunk.toInt).map String.ofList = chunk :: rest) :
    (observe packages (probeEvents events resolved.params wav) (probeHost host payload entry defaults)
      (probeRequest payload false)).calls.head? =
      some (resolved.kind.firstCall (probeSynthesis prepared payload (payload.presetName host.settings) defaults chunk)
        resolved.params chunk) := by
  obtain ⟨input, -, -⟩ := prepare_ok_iff.1 before
  obtain ⟨-, -, named, -, -⟩ := synthesisInput_ok_iff.1 input
  have fits' := probe_fits fits (effectiveConfig payload (payload.presetName host.settings) defaults) wav
  unfold observe
  rw [Prog.head?_asked, probe_eq before found texts limit resolved.params wav false split]
  unfold synthesisProg
  apply Prog.next?_run_bind
  apply Prog.next?_map
  apply Prog.next?_run_bind
  unfold runProg
  rw [providerProg_of_fits fits']
  apply Prog.next?_run_bind
  apply ProviderKind.next_first (?_ : _ = Except.ok (TtsModel.mk (some resolved.params) true))
  · rfl
  · apply probe_voiced voiced
    · exact (by decide : "/tmp/voice.wav" ≠ "")
    · exact named
  · rfl
  · rfl

theorem probe_split {maxChars : Nat} (limit : 4 ≤ maxChars) (maxSentencesPerChunk : Int) :
    ∃ chunk rest, (splitTextSemantic "A. B".toList maxChars maxSentencesPerChunk).map String.ofList = chunk :: rest := by
  have full : stripped "A. B".toList ≠ [] := by decide
  have positive : 0 < maxChars := by omega
  have chunked := mt (splitTextSemantic_eq_nil_iff positive "A. B".toList maxSentencesPerChunk).1 full
  exact List.exists_cons_of_ne_nil (mt List.map_eq_nil_iff.1 chunked)

end Probes

/-! ## Numbers that the model is given -/

theorem forall_mem_some {α : Type} {p : α → Prop} {a : α} (holds : p a) : ∀ b ∈ some a, p b := by
  intro b member
  cases member
  exact holds

section Numbers

variable {packages : Packages} {events : SynthesisEvents} {host : SynthesisHost} {payload : SynthesizeRequest}
  {resolved : Resolved} {prepared : Prepared} {entry : PresetEntry} {knob : Knob}
  (before : prepare host (coreCalls packages events) payload = .ok prepared)
  (found : host.presetSnapshot.get (payload.presetName host.settings) = some entry)
  (fits : resolved.Fits events prepared) (limit : 4 ≤ host.maxInputChars)
  (bounded : ∀ n ∈ payload.maxSentencesPerChunk, 1 ≤ n)

include before found fits limit bounded

/-- The temperature and the top-p that the model is given, for two values of a dead knob. -/
theorem numbers_of_dead (dead : Dead packages host resolved knob) (voiced : resolved.Voiced)
    (free : knob.FreeIn payload) (first second : PresetDefaults) (texts : SameTexts entry.defaults first)
    (texts' : SameTexts entry.defaults second) (valid : first.Conforms) (valid' : second.Conforms)
    (copied : second = knob.copy second first) (set : knob.SetBy first) (set' : knob.SetBy second)
    (sentences : first.maxSentencesPerChunk = second.maxSentencesPerChunk) :
    supportedArg temperatureAliases
        (.float ((pick payload.temperature first.temperature).getD prepared.record.temperature)) resolved.params =
      supportedArg temperatureAliases
        (.float ((pick payload.temperature second.temperature).getD prepared.record.temperature)) resolved.params ∧
    supportedArg topPAliases (.float ((pick payload.topP first.topP).getD prepared.record.topP)) resolved.params =
      supportedArg topPAliases (.float ((pick payload.topP second.topP).getD prepared.record.topP)) resolved.params := by
  have observed := congrArg (·.calls.head?)
    (probe_dead dead before found fits limit free bounded first second texts valid valid' copied set set' [] false)
  obtain ⟨chunk, rest, split⟩ := probe_split limit (probeVoice prepared payload
    (payload.presetName host.settings) first).maxSentencesPerChunk.toInt
  have counted : (probeVoice prepared payload (payload.presetName host.settings) first).maxSentencesPerChunk =
      (probeVoice prepared payload (payload.presetName host.settings) second).maxSentencesPerChunk := by
    show ((pick payload.maxSentencesPerChunk first.maxSentencesPerChunk).map PyInt.int).getD _ = _
    rw [sentences]
    rfl
  have one := probe_call before found texts fits voiced limit [] split
  have two := probe_call before found texts' fits voiced limit [] (counted ▸ split)
  have calls := Option.some.inj (one.symm.trans (observed.trans two))
  obtain ⟨named, path, text⟩ := probeSynthesis_voice prepared payload (payload.presetName host.settings) first chunk
  obtain ⟨named', path', text'⟩ := probeSynthesis_voice prepared payload (payload.presetName host.settings) second chunk
  have args := (ProviderKind.firstCall_inj (named.trans named'.symm) (path.trans path'.symm) (text.trans text'.symm)
    calls).2
  rw [probeSynthesis_args, probeSynthesis_args] at args
  obtain ⟨front, topP⟩ := List.append_inj' args (supportedArg_length _ _ _ _)
  exact ⟨(List.append_inj' front (supportedArg_length _ _ _ _)).2, topP⟩

theorem temperature_not_dead (free : payload.temperature = none) (valid : entry.defaults.Conforms)
    (matters : Knob.temperature.Matters resolved) : ¬Dead packages host resolved .temperature := by
  have lower : PyFloat.lt (.finite 0) (.finite 0) = false ∧ PyFloat.lt (.finite 2) (.finite 0) = false := by
    decide +kernel
  have higher : PyFloat.lt (.finite 1) (.finite 0) = false ∧ PyFloat.lt (.finite 2) (.finite 1) = false := by
    decide +kernel
  have distinct : (0 : ℚ) ≠ 1 := by norm_num
  intro dead
  have numbers := numbers_of_dead before found fits limit bounded dead matters.1 free
    { entry.defaults with temperature := some (.finite 0) }
    { entry.defaults with temperature := some (.finite 1) }
    ⟨rfl, rfl, rfl, rfl, rfl⟩ ⟨rfl, rfl, rfl, rfl, rfl⟩
    ⟨forall_mem_some lower, valid.topP, valid.maxSentencesPerChunk⟩
    ⟨forall_mem_some higher, valid.topP, valid.maxSentencesPerChunk⟩
    rfl (Option.some_ne_none _) (Option.some_ne_none _) rfl
  rw [free] at numbers
  have same := supportedArg_inj matters.2 numbers.1
  exact distinct (PyFloat.finite.inj (Kwarg.float.inj same))

theorem topP_not_dead (free : payload.topP = none) (valid : entry.defaults.Conforms)
    (matters : Knob.topP.Matters resolved) : ¬Dead packages host resolved .topP := by
  have lower : PyFloat.le (.finite (1 / 2)) (.finite 0) = false ∧ PyFloat.lt (.finite 1) (.finite (1 / 2)) = false := by
    decide +kernel
  have higher : PyFloat.le (.finite 1) (.finite 0) = false ∧ PyFloat.lt (.finite 1) (.finite 1) = false := by
    decide +kernel
  have distinct : (1 / 2 : ℚ) ≠ 1 := by norm_num
  intro dead
  have numbers := numbers_of_dead before found fits limit bounded dead matters.1 free
    { entry.defaults with topP := some (.finite (1 / 2)) }
    { entry.defaults with topP := some (.finite 1) }
    ⟨rfl, rfl, rfl, rfl, rfl⟩ ⟨rfl, rfl, rfl, rfl, rfl⟩
    ⟨valid.temperature, forall_mem_some lower, valid.maxSentencesPerChunk⟩
    ⟨valid.temperature, forall_mem_some higher, valid.maxSentencesPerChunk⟩
    rfl (Option.some_ne_none _) (Option.some_ne_none _) rfl
  rw [free] at numbers
  have same := supportedArg_inj matters.2 numbers.2
  exact distinct (PyFloat.finite.inj (Kwarg.float.inj same))

theorem maxSentences_not_dead (free : payload.maxSentencesPerChunk = none) (valid : entry.defaults.Conforms)
    (voiced : resolved.Voiced) : ¬Dead packages host resolved .maxSentencesPerChunk := by
  intro dead
  have lower : (1 : Int) ≤ 1 := by decide
  have higher : (1 : Int) ≤ 2 := by decide
  have texts : ∀ n, SameTexts entry.defaults { entry.defaults with maxSentencesPerChunk := some n } :=
    fun n => ⟨rfl, rfl, rfl, rfl, rfl⟩
  have observed := congrArg (·.calls.head?) (probe_dead dead before found fits limit free bounded
    { entry.defaults with maxSentencesPerChunk := some 1 } { entry.defaults with maxSentencesPerChunk := some 2 }
    (texts 1) ⟨valid.temperature, valid.topP, forall_mem_some lower⟩
    ⟨valid.temperature, valid.topP, forall_mem_some higher⟩
    rfl (Option.some_ne_none _) (Option.some_ne_none _) [] false)
  have counted : ∀ n, (probeVoice prepared payload (payload.presetName host.settings)
      { entry.defaults with maxSentencesPerChunk := some n }).maxSentencesPerChunk.toInt = n := by
    intro n
    show (((pick payload.maxSentencesPerChunk (some n)).map PyInt.int).getD _).toInt = n
    rw [free]
    rfl
  obtain ⟨rest, split⟩ := split_probe limit 1 lower
  obtain ⟨rest', split'⟩ := split_probe limit 2 higher
  have one := probe_call before found (texts 1) fits voiced limit [] ((counted 1).symm ▸ split)
  have two := probe_call before found (texts 2) fits voiced limit [] ((counted 2).symm ▸ split')
  have calls := Option.some.inj (one.symm.trans (observed.trans two))
  have chunks := congrArg (fun call => call.kwargs.head?) calls
  have spoken := Kwarg.str.inj (Prod.mk.inj (Option.some.inj chunks)).2
  rw [counted, counted] at spoken
  revert spoken
  decide

end Numbers

/-! ## The level of the audio -/

/-- One frame of two bytes. -/
def mono : Wave.Params := ⟨1, 2, 8000, "NONE", "not compressed"⟩

def monoWav (frame : Bytes) : Bytes := Wave.header mono 2 ++ frame

theorem write_mono {frame : Bytes} (two : frame.length = 2) : Wave.write mono [frame] = .ok (monoWav frame) := by
  have length : [frame].flatten.length = 2 := by simp [two]
  have packs : mono.Packs 2 := by decide
  unfold Wave.write
  rw [length, if_neg (by decide), if_neg (by decide), if_neg (by decide), if_neg (by decide), if_pos packs]
  simp [monoWav]

/-- numpy scales some frame to different samples for different levels. -/
structure Scales (np : Rescale) (frame : Bytes) (quiet loud : PyFloat) (low high : Bytes) : Prop where
  two : frame.length = 2
  quiet : np.rescale 2 quiet frame = .scaled low
  loud : np.rescale 2 loud frame = .scaled high
  differ : low ≠ high

theorem normalize_mono {np : Rescale} {frame out : Bytes} {targetDb : PyFloat} (two : frame.length = 2)
    (scaled : np.rescale 2 targetDb frame = .scaled out) :
    normalizeWavRms np (monoWav frame) targetDb = .ok (monoWav out) := by
  obtain ⟨reader, opened, params, -, frames⟩ := Wave.openRead_write (write_mono two)
  have stored : mono.stored = mono := rfl
  have whole : [frame].flatten.length / mono.frameSize * mono.frameSize = 2 := by simp [two, mono, Wave.Params.frameSize]
  rw [whole, List.flatten_cons, List.flatten_nil, List.append_nil, ← two, List.take_length] at frames
  rw [stored] at params
  have nonempty : frame ≠ [] := List.ne_nil_of_length_pos (by omega)
  have wide : np.rescale mono.sampleWidth targetDb frame = .scaled out := scaled
  unfold normalizeWavRms
  rw [if_neg (isWav_write (write_mono two)).nonempty, opened]
  show (if !hasDtype reader.params.sampleWidth then _ else _ : Except Raised Bytes) = _
  rw [params, frames]
  show (if frame.length % 2 ≠ 0 then _ else _ : Except Raised Bytes) = _
  rw [two, if_neg (by decide), if_neg nonempty]
  rw [wide]
  show raiseWave (Wave.write mono [out]) = _
  rw [write_mono ((np.length_eq scaled).trans two)]
  rfl

section Level

variable {packages : Packages} {events : SynthesisEvents} {host : SynthesisHost} {payload : SynthesizeRequest}
  {resolved : Resolved} {prepared : Prepared} {entry : PresetEntry} {outcome : RouteOutcome}
  (before : prepare host (coreCalls packages events) payload = .ok prepared)
  (found : host.presetSnapshot.get (payload.presetName host.settings) = some entry)
  (fits : resolved.Fits events prepared) (limit : 4 ≤ host.maxInputChars) (voiced : resolved.Voiced)

include before found fits limit voiced

/-- The audio of a streamed probe has the same frame for every chunk. -/
theorem probe_audio {defaults : PresetDefaults} (texts : SameTexts entry.defaults defaults)
    (encodable : Encodable prepared) {frame out : Bytes} (two : frame.length = 2)
    (scaled : packages.np.rescale 2
      (probeVoice prepared payload (payload.presetName host.settings) defaults).targetDb frame = .scaled out)
    {chunk : String} {rest : List String}
    (split : (splitTextSemantic "A. B".toList host.maxInputChars (probeVoice prepared payload
      (payload.presetName host.settings) defaults).maxSentencesPerChunk.toInt).map String.ofList = chunk :: rest) :
    (observe packages (probeEvents events resolved.params (monoWav frame)) (probeHost host payload entry defaults)
      (probeRequest payload true)).audio = some (List.replicate (rest.length + 1) (monoWav out)).flatten := by
  obtain ⟨input, -, -⟩ := prepare_ok_iff.1 before
  obtain ⟨-, -, named, -, -⟩ := synthesisInput_ok_iff.1 input
  obtain ⟨entry', found', prepares⟩ := prepare_ok before
  cases found.symm.trans found'
  have fits' := probe_fits fits (effectiveConfig payload (payload.presetName host.settings) defaults) (monoWav frame)
  have encodes := (texts.encodes prepares.effective).1 encodable
  have provided : ∀ chunk, (coreCalls packages (probeEvents events resolved.params (monoWav frame))).synthesizeChunks
      prepared.strategy (probeSynthesis prepared payload (payload.presetName host.settings) defaults chunk) =
      .ok [monoWav frame] := by
    intro chunk
    show (providerProg _ _ _).run.answered _ = _
    rw [providerProg_of_fits fits']
    apply ProviderKind.answered_oneResult (?_ : _ = Except.ok (TtsModel.mk (some resolved.params) true))
    · rfl
    · apply probe_voiced voiced
      · exact (by decide : "/tmp/voice.wav" ≠ "")
      · exact named
    · rfl
    · rfl
  have plays : ∀ chunk, Plays packages.np ((coreCalls packages (probeEvents events resolved.params
      (monoWav frame))).synthesizeChunks prepared.strategy)
      (probeInput prepared payload (payload.presetName host.settings) defaults) chunk (monoWav out) := by
    intro chunk
    constructor
    · exact firstWav_of_ok (provided chunk) (normalize_mono two scaled)
    · exact wavDurationMs_isWav (isWav_write (write_mono ((packages.np.length_eq scaled).trans two)))
  obtain ⟨totals, completed⟩ := completed_of_same plays ⟨0, 0⟩ (chunk :: rest)
  obtain ⟨outcome, built, audio⟩ := respond_of_encodable (probeHost host payload entry defaults) encodes none
    (List.replicate (rest.length + 1) (monoWav out)).flatten
  unfold observe
  dsimp only
  rw [probe_eq before found texts limit resolved.params (monoWav frame) true split, synthesisProg_answered]
  unfold probeInput at completed
  show audioOf (respond _ _ none (streamSynthesisChunks packages.np _ _ ⟨0, 0⟩ (chunk :: rest)).1.flatten) = _
  rw [completed]
  exact (congrArg audioOf built).trans audio

/-- The level matters where the model is called: the samples of the probe are scaled to it. -/
theorem normalizeDb_not_dead (bounded : ∀ n ∈ payload.maxSentencesPerChunk, 1 ≤ n) (free : payload.normalizeDb = none)
    (valid : entry.defaults.Conforms) (encodable : Encodable prepared) {frame low high : Bytes} {quiet loud : PyFloat}
    (scales : Scales packages.np frame quiet loud low high) : ¬Dead packages host resolved .normalizeDb := by
  intro dead
  have texts : ∀ db, SameTexts entry.defaults { entry.defaults with normalizeDb := some db } :=
    fun db => ⟨rfl, rfl, rfl, rfl, rfl⟩
  have same := congrArg Observed.audio (probe_dead dead before found fits limit free bounded
    { entry.defaults with normalizeDb := some quiet } { entry.defaults with normalizeDb := some loud } (texts quiet)
    ⟨valid.temperature, valid.topP, valid.maxSentencesPerChunk⟩
    ⟨valid.temperature, valid.topP, valid.maxSentencesPerChunk⟩
    rfl (Option.some_ne_none _) (Option.some_ne_none _) (monoWav frame) true)
  have leveled : ∀ db, (probeVoice prepared payload (payload.presetName host.settings)
      { entry.defaults with normalizeDb := some db }).targetDb = db := by
    intro db
    show (pick payload.normalizeDb (some db)).getD _ = db
    rw [free]
    rfl
  have lengths : low.length = high.length := (packages.np.length_eq scales.quiet).trans (packages.np.length_eq scales.loud).symm
  obtain ⟨chunk, rest, split⟩ := probe_split limit (probeVoice prepared payload
    (payload.presetName host.settings) entry.defaults).maxSentencesPerChunk.toInt
  have one := probe_audio before found fits limit voiced (texts quiet) encodable scales.two
    ((leveled quiet).symm ▸ scales.quiet) split
  have two := probe_audio before found fits limit voiced (texts loud) encodable scales.two
    ((leveled loud).symm ▸ scales.loud) split
  have bodies := Option.some.inj (one.symm.trans (same.trans two))
  rw [List.replicate_succ, List.replicate_succ, List.flatten_cons, List.flatten_cons] at bodies
  have wavs := (List.append_inj bodies (by simp [monoWav, lengths])).1
  exact scales.differ (List.append_cancel_left wavs)

end Level

/-! ## Dead knobs and reports -/

section Reports

variable {packages : Packages} {events : SynthesisEvents} {host : SynthesisHost} {payload : SynthesizeRequest}
  {resolved : Resolved} {prepared : Prepared} {entry : PresetEntry} {outcome : RouteOutcome} {knob : Knob}

/-- The knobs that are dead where a request succeeds. -/
theorem dead_iff (run : (coreProg packages events host payload).run.answered events.generate = .ok outcome)
    (before : prepare host (coreCalls packages events) payload = .ok prepared)
    (found : host.presetSnapshot.get (payload.presetName host.settings) = some entry) (valid : entry.defaults.Conforms)
    (set : knob.SetBy entry.defaults) (free : knob.FreeIn payload)
    (bounded : ∀ n ∈ payload.maxSentencesPerChunk, 1 ≤ n) (limit : 4 ≤ host.maxInputChars)
    {frame low high : Bytes} {quiet loud : PyFloat} (scales : Scales packages.np frame quiet loud low high)
    (fits : resolved.Fits events prepared) : Dead packages host resolved knob ↔ ¬knob.Matters resolved := by
  constructor
  · intro dead matters
    revert dead
    cases knob with
    | provider => exact text_not_dead run before fits found valid set free bounded (by decide)
    | model => exact text_not_dead run before fits found valid set free bounded (by decide)
    | language => exact text_not_dead run before fits found valid set free bounded (by decide)
    | numberLang => exact text_not_dead run before fits found valid set free bounded (by decide)
    | voice => exact text_not_dead run before fits found valid set free bounded (by decide)
    | temperature => exact temperature_not_dead before found fits limit bounded free valid matters
    | topP => exact topP_not_dead before found fits limit bounded free valid matters
    | maxSentencesPerChunk => exact maxSentences_not_dead before found fits limit bounded free valid matters
    | normalizeDb =>
      exact normalizeDb_not_dead before found fits limit matters bounded free valid (encodable_of_run before run).1 scales
    | responseFormat | postprocess => exact absurd matters id
  · exact dead_of_not_matters (by omega)

/-- The response names the format, if it is not wav, and nothing else. -/
theorem reportedIn_iff (totals : Option (Int × Int)) {name : String} {defaults : PresetDefaults}
    (effective : prepared.effective = effectiveConfig payload name defaults) (set : knob.SetBy defaults) :
    knob.ReportedIn prepared (plainHeaders host prepared totals) ↔
      knob = .responseFormat ∧ defaults.responseFormat ≠ some .wav := by
  have ignored : prepared.effective.ignoredKnobs =
      if defaults.responseFormat.getD .wav = .wav then [] else ["response_format"] := by
    rw [effective]
    rfl
  unfold Knob.ReportedIn
  rw [ignored]
  split
  · rename_i wav
    apply iff_of_false
    · exact fun ⟨member, _⟩ => absurd member List.not_mem_nil
    · rintro ⟨rfl, other⟩
      obtain ⟨format, chosen⟩ := Option.ne_none_iff_exists'.1 set
      rw [chosen] at wav other
      exact other (congrArg some wav)
  · rename_i other
    have shown : ("X-Preset-Ignored-Knobs", "response_format") ∈ plainHeaders host prepared totals := by
      unfold plainHeaders diagnosticHeaders synthesisHeaders presetHeaders
      rw [ignored, if_neg other]
      simp
    constructor
    · rintro ⟨member, -⟩
      refine ⟨?_, fun wav => other (congrArg (·.getD .wav) wav)⟩
      have named := List.mem_singleton.1 member
      revert named
      cases knob <;> decide
    · rintro ⟨rfl, -⟩
      exact ⟨List.mem_singleton_self _, _, shown, by decide⟩

/-- **Dead knobs.** For every request that succeeds and every knob that its preset sets and
it does not override: if the knob is dead for the provider and the parameters of the model,
then the response reports it, if and only if the knob can matter there or is a format other
than wav. -/
theorem dead_reported_iff {str : Fault → String}
    (run : synthesizeCore host (coreCalls packages events) payload str = .ok outcome)
    (found : host.presetSnapshot.get (payload.presetName host.settings) = some entry) (valid : entry.defaults.Conforms)
    (set : knob.SetBy entry.defaults) (free : knob.FreeIn payload)
    (bounded : ∀ n ∈ payload.maxSentencesPerChunk, 1 ≤ n) (limit : 256 ≤ host.maxInputChars)
    {frame low high : Bytes} {quiet loud : PyFloat} (scales : Scales packages.np frame quiet loud low high) :
    ∃ prepared totals body, prepare host (coreCalls packages events) payload = .ok prepared ∧
      outcome = .responds 200 (rawHeaders (plainHeaders host prepared totals))
        (plainHeaders_plain host prepared totals) true body ∧
      ∀ resolved : Resolved, resolved.Fits events prepared →
        ((Dead packages host resolved knob → knob.ReportedIn prepared (plainHeaders host prepared totals)) ↔
          knob.Matters resolved ∨ knob = .responseFormat ∧ entry.defaults.responseFormat ≠ some .wav) := by
  have run := (synthesizeCore_ok_iff packages events host payload).1 run
  obtain ⟨prepared, before⟩ := prepared_of_run run
  obtain ⟨-, totals, body, responds⟩ := encodable_of_run before run
  obtain ⟨entry', found', prepares⟩ := prepare_ok before
  cases found.symm.trans found'
  refine ⟨prepared, totals, body, before, responds, ?_⟩
  intro resolved fits
  rw [dead_iff run before found valid set free bounded (by omega) scales fits,
    reportedIn_iff totals prepares.effective set]
  by_cases matters : knob.Matters resolved
  · exact iff_of_true (fun dead => absurd matters dead) (.inl matters)
  · exact ⟨fun reported => .inr (reported matters), fun either _ => either.resolve_left matters⟩

end Reports

/-! ## A preset with a temperature -/

/-- What numpy makes of one frame at two levels. -/
def levels : Rescale where
  rescale sampleWidth targetDb frames :=
    if sampleWidth = 2 ∧ frames = [0x00, 0x40] then
      if targetDb = .finite (-20) then .scaled [0xCC, 0x0C]
      else if targetDb = .finite (-40) then .scaled [0x47, 0x01]
      else .silent
    else .silent
  length_eq := by
    intro sampleWidth targetDb frames out scaled
    split at scaled
    · rename_i frame
      rw [frame.2]
      split at scaled
      · cases scaled
        rfl
      · split at scaled
        · cases scaled
          rfl
        · cases scaled
    · cases scaled

def asciiPackages : Packages := ⟨none, asciiWords, levels⟩

/-- The model has no parameter for a temperature. -/
def coolModel : SynthesisEvents where
  store := fullDisk.store
  tempFile _ _ := some "/tmp/voice-ada-x1.wav"
  admission := .admitted
  disconnected _ := false
  getModel _ _ := .ok ⟨some ["text", "voice"], true⟩
  generate _ := .ok (oneResult (monoWav [0x00, 0x40]))

def warmHost : SynthesisHost := { adaHost with presetSnapshot := onePreset { temperature := some (.finite (1 / 2)) } }

def warmRequest : SynthesizeRequest := { input := "A. B", preset := some "reading", voice := some "ada", stream := true }

def coolResolved : Resolved := ⟨.mlxAudio, plainSettings.modelDefaultForProvider "mlx_audio", ["text", "voice"]⟩

theorem warm_prepared : ∃ prepared, prepare warmHost (coreCalls asciiPackages coolModel) warmRequest = .ok prepared ∧
    coolResolved.Fits coolModel prepared ∧ (∀ header ∈ plainHeaders warmHost prepared none, Clean header.2) ∧
    prepared.effective.ignoredKnobs = [] := by
  have before : prepare warmHost (coreCalls asciiPackages coolModel) warmRequest = .ok _ := rfl
  refine ⟨_, before, ⟨by decide +kernel, by decide +kernel, ?_⟩, ?_, rfl⟩
  · intro model loads
    cases loads
    rfl
  · exact plainHeaders_clean (by decide +kernel) (by decide +kernel) (by decide +kernel)
      ⟨by decide, nofun, nofun, nofun, nofun, by decide⟩ rfl

theorem warm_runs (str : Fault → String) :
    ∃ outcome, synthesizeCore warmHost (coreCalls asciiPackages coolModel) warmRequest str = .ok outcome := by
  obtain ⟨prepared, before, -, clean, -⟩ := warm_prepared
  obtain ⟨chunk, rest, split⟩ := probe_split (by decide : 4 ≤ warmHost.maxInputChars)
    (buildVoiceConfig prepared.record "/tmp/voice-ada-x1.wav" prepared.effective).maxSentencesPerChunk.toInt
  have chunked := chunksOf_probe asciiPackages coolModel warmHost warmRequest rfl rfl split
  obtain ⟨outcome, built⟩ := respond_of_clean clean _
  refine ⟨outcome, (synthesizeCore_ok_iff _ _ _ _).2 ?_⟩
  rw [coreProg_eq _ _ _ _ before rfl chunked, synthesisProg_answered]
  exact built

/-- The temperature of the preset is dropped, and no response says so. -/
theorem warm_unreported :
    ¬∀ (packages : Packages) (events : SynthesisEvents) (host : SynthesisHost) (payload : SynthesizeRequest)
      (str : Fault → String) (outcome : RouteOutcome) (entry : PresetEntry) (knob : Knob) (prepared : Prepared)
      (resolved : Resolved), synthesizeCore host (coreCalls packages events) payload str = .ok outcome →
      host.presetSnapshot.get (payload.presetName host.settings) = some entry → knob.SetBy entry.defaults →
      knob.FreeIn payload → prepare host (coreCalls packages events) payload = .ok prepared →
      resolved.Fits events prepared → Dead packages host resolved knob →
      knob.name ∈ prepared.effective.ignoredKnobs := by
  intro claim
  obtain ⟨prepared, before, fits, -, ignored⟩ := warm_prepared
  obtain ⟨outcome, run⟩ := warm_runs fun _ => ""
  have unmatters : ¬Knob.temperature.Matters coolResolved := fun matters => absurd matters.2 (by decide)
  have reported := claim asciiPackages coolModel warmHost warmRequest _ outcome _ .temperature prepared coolResolved run
    rfl (Option.some_ne_none _) rfl before fits (dead_of_not_matters (by decide) unmatters)
  rw [ignored] at reported
  cases reported

theorem warm_report_iff :
    ∃ outcome prepared totals body,
      synthesizeCore warmHost (coreCalls asciiPackages coolModel) warmRequest (fun _ => "") = .ok outcome ∧
      prepare warmHost (coreCalls asciiPackages coolModel) warmRequest = .ok prepared ∧
      outcome = .responds 200 (rawHeaders (plainHeaders warmHost prepared totals))
        (plainHeaders_plain warmHost prepared totals) true body ∧
      ∀ resolved : Resolved, resolved.Fits coolModel prepared →
        ((Dead asciiPackages warmHost resolved .temperature →
          Knob.temperature.ReportedIn prepared (plainHeaders warmHost prepared totals)) ↔
          Knob.temperature.Matters resolved ∨ Knob.temperature = .responseFormat ∧
            (none : Option ResponseFormat) ≠ some .wav) := by
  have half : PyFloat.lt (.finite (1 / 2)) (.finite 0) = false ∧ PyFloat.lt (.finite 2) (.finite (1 / 2)) = false := by
    decide +kernel
  have scales : Scales asciiPackages.np [0x00, 0x40] (.finite (-20)) (.finite (-40)) [0xCC, 0x0C] [0x47, 0x01] := by
    constructor
    · rfl
    · simp [asciiPackages, levels]
    · simp [asciiPackages, levels]
    · decide
  obtain ⟨outcome, run⟩ := warm_runs fun _ => ""
  have set : Knob.temperature.SetBy { temperature := some (.finite (1 / 2)) } := Option.some_ne_none _
  obtain ⟨prepared, totals, body, reported⟩ := dead_reported_iff run rfl ⟨forall_mem_some half, nofun, nofun⟩ set rfl
    nofun (by decide) scales
  exact ⟨outcome, prepared, totals, body, run, reported⟩

end LlmTts
