import LlmTts.Lib.Effect
import LlmTts.Providers.Selection
import LlmTts.Synthesis.Streaming

/-!
# The providers

`synthesize_chunks` of the three providers. Each maps a request to keyword arguments of
`model.generate`, under the names that the model's signature has; what it has no name
for is dropped. A provider is a program over the calls of the model. The libraries that
load a model, and the model itself, are parameters.
-/

namespace LlmTts
open Python Effect

/-! ## Keyword arguments -/

/-- The value of a keyword argument. -/
inductive Kwarg where
  | str (value : String)
  | float (value : PyFloat)
  deriving DecidableEq

abbrev Kwargs : Type := List (String × Kwarg)

def voiceNameAliases : List String := ["voice", "voice_id", "speaker"]
def refAudioAliases : List String := ["ref_audio", "reference_audio"]
def refTextAliases : List String := ["ref_text", "reference_text"]
def languageAliasNames : List String := ["lang_code", "language", "lang"]
def temperatureAliases : List String := ["temperature"]
def topPAliases : List String := ["top_p", "topP"]

/-- `_first_supported_name`. -/
def firstSupportedName (candidates availableParams : List String) : Option String :=
  candidates.find? (· ∈ availableParams)

/-- The argument for a value, if there is a name for it. -/
def supportedArg (candidates : List String) (value : Kwarg) (availableParams : List String) : Kwargs :=
  match firstSupportedName candidates availableParams with
  | none => []
  | some name => [(name, value)]

/-- `build_named_voice_args`. -/
def buildNamedVoiceArgs (voiceName : String) (availableParams : List String) : Kwargs :=
  if voiceName = "" then [] else supportedArg voiceNameAliases (.str voiceName) availableParams

/-- `build_clone_voice_args`. -/
def buildCloneVoiceArgs (refAudioPath refText : String) (availableParams : List String) : Kwargs :=
  if refAudioPath = "" then []
  else supportedArg refAudioAliases (.str refAudioPath) availableParams ++
    supportedArg refTextAliases (.str refText) availableParams

/-- `VoiceArgsSelection`. -/
structure VoiceArgsSelection where
  primaryArgs : Kwargs
  cloneFallbackArgs : Kwargs
  usedNamedVoice : Bool

/-- `select_voice_args`. -/
def selectVoiceArgs (voiceName refAudioPath refText : String) (availableParams : List String)
    (preferClone requireAny : Bool) : VoiceArgsSelection :=
  let cloneArgs := buildCloneVoiceArgs refAudioPath refText availableParams
  let namedArgs := buildNamedVoiceArgs voiceName availableParams
  let ordered := if preferClone then [cloneArgs, namedArgs] else [namedArgs, cloneArgs]
  let selected := (ordered.find? (· ≠ [])).getD []
  if requireAny ∧ selected = [] then ⟨[], cloneArgs, false⟩
  else ⟨selected, cloneArgs, selected ≠ [] ∧ selected = namedArgs⟩

/-- `build_generation_args`. -/
def buildGenerationArgs (language : String) (temperature topP : PyFloat) (availableParams : List String) : Kwargs :=
  supportedArg languageAliasNames (.str language) availableParams ++
    supportedArg temperatureAliases (.float temperature) availableParams ++
    supportedArg topPAliases (.float topP) availableParams

/-- `_generation_args`. -/
def generationArgs (request : SynthesisRequest) (params : List String) : Kwargs :=
  match request.generation with
  | none => []
  | some generation => buildGenerationArgs generation.language generation.temperature generation.topP params

/-! ## Models -/

/-- The three providers. -/
inductive ProviderKind where
  | mlxAudio
  | voxtral
  | vllmOmni
  deriving DecidableEq, Repr

/-- `provider_name`. -/
def ProviderKind.name : ProviderKind → String
  | mlxAudio => "mlx_audio"
  | voxtral => "voxtral"
  | vllmOmni => "vllm-omni"

/-- What the providers ask of a loaded model. -/
structure TtsModel where
  /-- The parameters of `inspect.signature(model.generate)`, if it does not raise. -/
  signature : Option (List String)
  /-- `model.generate`, or for vllm-omni the model itself, can be called. -/
  callable : Bool

/-- `_signature_params`. -/
def ProviderKind.signatureParams (kind : ProviderKind) (model : TtsModel) : List String :=
  model.signature.getD <|
    match kind with
    | mlxAudio => ["text", "voice", "ref_audio", "ref_text"]
    | voxtral => ["text", "ref_audio", "ref_text"]
    | vllmOmni => ["text", "voice", "voice_id", "speaker", "ref_audio", "reference_audio", "ref_text",
        "reference_text"]

/-- A call of `generate`. -/
structure ModelCall where
  kind : ProviderKind
  modelName : String
  kwargs : Kwargs
  deriving DecidableEq

/-- The attributes `audio` and `sample_rate` of a value, and what `soundfile` makes of them. -/
inductive AudioAttribute where
  /-- There is no attribute `audio`. -/
  | absent
  /-- One of the two is `None`, or there is no `sample_rate`. -/
  | unusable
  | encoded (wav : Except Raised Bytes)

/-- A value that `generate` returns, or yields. `wavBytes` is its `wav_bytes`, if these are
bytes; `encoded` is what `soundfile` makes of the `audio` and the `sample_rate` of a
dictionary, if it has both. -/
inductive ModelValue where
  | bytes (content : Bytes)
  | dict (wavBytes : Option Bytes) (encoded : Option (Except Raised Bytes))
  | object (wavBytes : Option Bytes) (audio : AudioAttribute)

/-- What a `for` loop over a value sees: the elements, and how the iteration ends. -/
structure Iteration where
  elements : List ModelValue
  ended : Except Raised Unit

/-- A loop that takes every element as it comes. -/
def Iteration.mapM (iteration : Iteration) (decode : ModelValue → Except Raised Bytes) : Except Raised (List Bytes) := do
  let wavs ← iteration.elements.mapM decode
  iteration.ended
  return wavs

/-- What `generate` returns. -/
structure ModelResults where
  value : ModelValue
  iteration : Iteration

/-- What `generate` raises. -/
inductive GenerateError where
  | assertion (message : String)
  | other (raised : Raised)

abbrev Generated : ModelCall → Type := fun _ => Except GenerateError ModelResults

/-- A program that calls models. -/
abbrev ModelProg (ε α : Type) : Type := ExceptT ε (Prog ModelCall Generated) α

/-- `model.generate(**kwargs)`. -/
def generateCall (call : ModelCall) : ModelProg Raised (Except GenerateError ModelResults) :=
  ExceptT.lift (Prog.perform call)

/-- A call that is not guarded by an `except AssertionError`. -/
def generateOrRaise (call : ModelCall) : ModelProg Raised ModelResults := do
  match ← generateCall call with
  | .ok results => return results
  | .error (.assertion message) => throw (.provider message)
  | .error (.other raised) => throw raised

/-- The payload that `soundfile` writes for a result of mlx-audio. -/
def encodedAudio : ModelValue → Except Raised Bytes
  | .object _ (.encoded wav) => wav
  | _ => .error (.provider "the result has no audio")

/-- `_result_to_wav_bytes`. -/
def resultToWavBytes : ModelValue → Except Raised Bytes
  | .bytes content => .ok content
  | .dict (some content) _ | .object (some content) _ => .ok content
  | .dict none (some wav) | .object none (.encoded wav) => wav
  | .dict none none | .object none .unusable | .object none .absent =>
    .error (.http (invalidRequest [.text "vllm-omni provider returned an unsupported audio payload"]
      (some "provider")))

/-- The results are one value, not a sequence of them. -/
def ModelValue.isSingle : ModelValue → Bool
  | .object _ .absent => false
  | _ => true

/-! ## Synthesis -/

section Synthesis

-- `_get_model` of a provider: the model of a name, unless it cannot be loaded.
variable (getModel : (modelName : String) → Except Raised TtsModel)

/-- `generate` is looked up. -/
def lookupGenerate (model : TtsModel) (otherwise : Raised) : ModelProg Raised Unit :=
  if model.callable then return else throw otherwise

/-- `AttributeError` or `TypeError`. -/
def noGenerate : Raised := .provider "the model has no callable generate"

/-- `MLXAudioTTSProvider.synthesize_chunks`. -/
def mlxAudioChunks (request : SynthesisRequest) : ModelProg Raised (List Bytes) := do
  let model ← ExceptT.mk (pure (getModel request.modelName))
  let params := ProviderKind.mlxAudio.signatureParams model
  let selection := selectVoiceArgs request.voiceName request.voice.refAudioPath request.voice.refText params true true
  if selection.primaryArgs = [] then
    throw (.http (invalidRequest
      [.text "No usable voice provided: configure ref_audio_path/ref_text or set request voice_name"] (some "voice")))
  let generation := generationArgs request params
  let outputs ← request.chunks.mapM fun chunk => do
    lookupGenerate model noGenerate
    let call (voiceArgs : Kwargs) : ModelCall :=
      ⟨.mlxAudio, request.modelName, ("text", .str chunk) :: voiceArgs ++ generation⟩
    let results ← match ← generateCall (call selection.primaryArgs) with
      | .ok results => pure results
      | .error (.assertion message) =>
        if selection.usedNamedVoice ∧ selection.cloneFallbackArgs ≠ [] then
          generateOrRaise (call selection.cloneFallbackArgs)
        else throw (.http (invalidRequest [.text message] (some "voice")))
      | .error (.other raised) => throw raised
    ExceptT.mk (pure (results.iteration.mapM encodedAudio))
  return outputs.flatten

/-- `VoxtralTTSProvider.synthesize_chunks`. -/
def voxtralChunks (request : SynthesisRequest) : ModelProg Raised (List Bytes) := do
  let model ← ExceptT.mk (pure (getModel request.modelName))
  let params := ProviderKind.voxtral.signatureParams model
  let outputs ← request.chunks.mapM fun chunk => do
    if request.voice.refAudioPath = "" then
      throw (.http (invalidRequest
        [.text "Voxtral provider requires voice cloning references (ref_audio_path/ref_text)"] (some "voice")))
    let generation := generationArgs request params
    lookupGenerate model noGenerate
    let results ← generateOrRaise ⟨.voxtral, request.modelName, ("text", .str chunk) ::
      [("ref_audio", .str request.voice.refAudioPath), ("ref_text", .str request.voice.refText)] ++ generation⟩
    ExceptT.mk (pure (results.iteration.mapM encodedAudio))
  return outputs.flatten

/-- `VllmOmniTTSProvider.synthesize_chunks`. A named voice that fails is tried without
the voice where it cannot be cloned, other than for mlx-audio. -/
def vllmOmniChunks (request : SynthesisRequest) : ModelProg Raised (List Bytes) := do
  let model ← ExceptT.mk (pure (getModel request.modelName))
  let params := ProviderKind.vllmOmni.signatureParams model
  let selection := selectVoiceArgs request.voiceName request.voice.refAudioPath request.voice.refText params true false
  let generation := generationArgs request params
  let outputs ← request.chunks.mapM fun chunk => do
    lookupGenerate model (.http (invalidRequest [.text "vllm-omni model does not expose a callable generator"]
      (some "model")))
    let call (voiceArgs : Kwargs) : ModelCall :=
      ⟨.vllmOmni, request.modelName, ("text", .str chunk) :: voiceArgs ++ generation⟩
    let results ← match ← generateCall (call selection.primaryArgs) with
      | .ok results => pure results
      | .error (.assertion message) =>
        if selection.usedNamedVoice ∧ selection.cloneFallbackArgs ≠ [] then
          generateOrRaise (call selection.cloneFallbackArgs)
        else if selection.usedNamedVoice then generateOrRaise (call [])
        else throw (.http (invalidRequest [.text message] (some "voice")))
      | .error (.other raised) => throw raised
    if results.value.isSingle then return [← ExceptT.mk (pure (resultToWavBytes results.value))]
    else ExceptT.mk (pure (results.iteration.mapM resultToWavBytes))
  return outputs.flatten

end Synthesis

/-- `synthesize_chunks` of a provider. -/
def ProviderKind.synthesizeChunks (getModel : ProviderKind → String → Except Raised TtsModel) (kind : ProviderKind)
    (request : SynthesisRequest) : ModelProg Raised (List Bytes) :=
  match kind with
  | mlxAudio => mlxAudioChunks (getModel mlxAudio) request
  | voxtral => voxtralChunks (getModel voxtral) request
  | vllmOmni => vllmOmniChunks (getModel vllmOmni) request

/-! ## Names that a model has -/

/-- The model has a parameter under one of the names. -/
def Takes (params names : List String) : Prop := ∃ name ∈ names, name ∈ params

instance (params names : List String) : Decidable (Takes params names) :=
  inferInstanceAs (Decidable (∃ name ∈ names, name ∈ params))

theorem supportedArg_eq_nil_iff {candidates params : List String} {value : Kwarg} :
    supportedArg candidates value params = [] ↔ ¬Takes params candidates := by
  unfold supportedArg firstSupportedName Takes
  cases found : candidates.find? (· ∈ params) with
  | none => simpa using found
  | some name =>
    have member := List.mem_of_find?_eq_some found
    have taken : name ∈ params := by simpa using List.find?_some found
    exact iff_of_false (List.cons_ne_nil _ _) fun untaken => untaken ⟨name, member, taken⟩

/-- Two values are passed alike only if they are the same or not passed. -/
theorem supportedArg_inj {candidates params : List String} {one two : Kwarg} (takes : Takes params candidates)
    (same : supportedArg candidates one params = supportedArg candidates two params) : one = two := by
  unfold supportedArg at same
  cases found : firstSupportedName candidates params with
  | none =>
    have dropped : supportedArg candidates one params = [] := by
      unfold supportedArg
      rw [found]
    exact absurd takes (supportedArg_eq_nil_iff.1 dropped)
  | some name =>
    rw [found] at same
    cases same
    rfl

theorem supportedArg_of_not_takes {candidates params : List String} (untaken : ¬Takes params candidates)
    (one two : Kwarg) : supportedArg candidates one params = supportedArg candidates two params := by
  rw [supportedArg_eq_nil_iff.2 untaken, supportedArg_eq_nil_iff.2 untaken]

theorem supportedArg_length (candidates params : List String) (one two : Kwarg) :
    (supportedArg candidates one params).length = (supportedArg candidates two params).length := by
  unfold supportedArg
  split
  · rfl
  · rfl

theorem cloneArgs_eq_nil_iff {refAudioPath refText : String} {params : List String} :
    buildCloneVoiceArgs refAudioPath refText params = [] ↔
      refAudioPath = "" ∨ ¬Takes params refAudioAliases ∧ ¬Takes params refTextAliases := by
  unfold buildCloneVoiceArgs
  split
  · rename_i pathless
    exact iff_of_true rfl (.inl pathless)
  · rename_i path
    rw [List.append_eq_nil_iff, supportedArg_eq_nil_iff, supportedArg_eq_nil_iff, or_iff_right path]

theorem namedArgs_eq_nil_iff {voiceName : String} {params : List String} :
    buildNamedVoiceArgs voiceName params = [] ↔ voiceName = "" ∨ ¬Takes params voiceNameAliases := by
  unfold buildNamedVoiceArgs
  split
  · rename_i nameless
    exact iff_of_true rfl (.inl nameless)
  · rename_i name
    rw [supportedArg_eq_nil_iff, or_iff_right name]

/-! ## The first call -/

/-- The results of a model that returns one payload. -/
def oneResult (wav : Bytes) : ModelResults :=
  ⟨.object none (.encoded (.ok wav)), ⟨[.object none (.encoded (.ok wav))], .ok ()⟩⟩

namespace ProviderKind

/-- How the voice is passed, unless the model refuses it. -/
def voiceArgs (kind : ProviderKind) (request : SynthesisRequest) (params : List String) : Kwargs :=
  let select := selectVoiceArgs request.voiceName request.voice.refAudioPath request.voice.refText params true
  match kind with
  | mlxAudio => (select true).primaryArgs
  | voxtral => [("ref_audio", .str request.voice.refAudioPath), ("ref_text", .str request.voice.refText)]
  | vllmOmni => (select false).primaryArgs

def firstCall (kind : ProviderKind) (request : SynthesisRequest) (params : List String) (chunk : String) : ModelCall :=
  ⟨kind, request.modelName, ("text", .str chunk) :: kind.voiceArgs request params ++ generationArgs request params⟩

/-- The provider finds a way to pass the voice. -/
def Voiced (kind : ProviderKind) (request : SynthesisRequest) (params : List String) : Prop :=
  match kind with
  | mlxAudio => mlxAudio.voiceArgs request params ≠ []
  | voxtral => request.voice.refAudioPath ≠ ""
  | vllmOmni => True

/-- mlx-audio passes the reference audio, its text or the name of the voice. -/
theorem mlxAudio_voiceArgs_eq_nil_iff {request : SynthesisRequest} {params : List String} :
    mlxAudio.voiceArgs request params = [] ↔
      (request.voice.refAudioPath = "" ∨ ¬Takes params refAudioAliases ∧ ¬Takes params refTextAliases) ∧
        (request.voiceName = "" ∨ ¬Takes params voiceNameAliases) := by
  rw [← @cloneArgs_eq_nil_iff _ request.voice.refText, ← namedArgs_eq_nil_iff]
  unfold voiceArgs selectVoiceArgs
  by_cases cloned : buildCloneVoiceArgs request.voice.refAudioPath request.voice.refText params = []
  · by_cases spoken : buildNamedVoiceArgs request.voiceName params = []
    · simp [cloned, spoken]
    · simp [cloned, spoken]
  · simp [cloned]

variable {getModel : ProviderKind → String → Except Raised TtsModel} {kind : ProviderKind}
  {request : SynthesisRequest} {model : TtsModel} {chunk : String}

theorem next_first (loads : getModel kind request.modelName = .ok model) (callable : model.callable = true)
    (voiced : kind.Voiced request (kind.signatureParams model)) (one : request.chunks = [chunk]) :
    (kind.synthesizeChunks getModel request).run.next? =
      some (kind.firstCall request (kind.signatureParams model) chunk) := by
  have found (otherwise : Raised) : lookupGenerate model otherwise = pure () := if_pos callable
  cases kind with
  | mlxAudio =>
    simp only [synthesizeChunks, mlxAudioChunks, loads, one, Prog.mk_ok_bind, found]
    show (if mlxAudio.voiceArgs request (mlxAudio.signatureParams model) = [] then _ else _ :
      ModelProg Raised (List Bytes)).run.next? = _
    rw [if_neg voiced]
    rfl
  | voxtral =>
    have path : request.voice.refAudioPath ≠ "" := voiced
    simp only [synthesizeChunks, voxtralChunks, loads, one, Prog.mk_ok_bind, found, if_neg path]
    rfl
  | vllmOmni =>
    simp only [synthesizeChunks, vllmOmniChunks, loads, one, Prog.mk_ok_bind, found]
    rfl

/-- A model that returns the same payload for every call. -/
theorem answered_oneResult (loads : getModel kind request.modelName = .ok model) (callable : model.callable = true)
    (voiced : kind.Voiced request (kind.signatureParams model)) (one : request.chunks = [chunk]) (wav : Bytes) :
    (kind.synthesizeChunks getModel request).run.answered (fun _ => .ok (oneResult wav)) = .ok [wav] := by
  have found (otherwise : Raised) : lookupGenerate model otherwise = pure () := if_pos callable
  cases kind with
  | mlxAudio =>
    simp only [synthesizeChunks, mlxAudioChunks, loads, one, Prog.mk_ok_bind, found]
    show (if mlxAudio.voiceArgs request (mlxAudio.signatureParams model) = [] then _ else _ :
      ModelProg Raised (List Bytes)).run.answered _ = _
    rw [if_neg voiced]
    rfl
  | voxtral =>
    have path : request.voice.refAudioPath ≠ "" := voiced
    simp only [synthesizeChunks, voxtralChunks, loads, one, Prog.mk_ok_bind, found, if_neg path]
    rfl
  | vllmOmni =>
    simp only [synthesizeChunks, vllmOmniChunks, loads, one, Prog.mk_ok_bind, found]
    rfl

/-! ## Two requests -/

/-- What the first call says of the chunk and of the generation options. -/
theorem firstCall_inj {one two : SynthesisRequest} {params : List String} {chunk chunk' : String}
    (voice : one.voiceName = two.voiceName) (path : one.voice.refAudioPath = two.voice.refAudioPath)
    (text : one.voice.refText = two.voice.refText)
    (same : kind.firstCall one params chunk = kind.firstCall two params chunk') :
    chunk = chunk' ∧ generationArgs one params = generationArgs two params := by
  have voices : kind.voiceArgs one params = kind.voiceArgs two params := by
    unfold voiceArgs
    rw [voice, path, text]
  unfold firstCall at same
  rw [voices, ModelCall.mk.injEq, List.cons_append, List.cons_append, List.cons.injEq] at same
  obtain ⟨-, -, spoken, args⟩ := same
  cases spoken
  exact ⟨rfl, List.append_cancel_left args⟩

/-- A provider reads the generation options through the arguments it makes of them. -/
theorem synthesizeChunks_congr {one two : SynthesisRequest} (names : one.modelName = two.modelName)
    (chunks : one.chunks = two.chunks) (voice : one.voiceName = two.voiceName)
    (path : one.voice.refAudioPath = two.voice.refAudioPath) (text : one.voice.refText = two.voice.refText)
    (args : ∀ model, getModel kind one.modelName = .ok model →
      generationArgs one (kind.signatureParams model) = generationArgs two (kind.signatureParams model)) :
    kind.synthesizeChunks getModel one = kind.synthesizeChunks getModel two := by
  cases loads : getModel kind one.modelName with
  | error raised =>
    have loads' := names ▸ loads
    cases kind with
    | mlxAudio => simp only [synthesizeChunks, mlxAudioChunks, loads, loads', Prog.mk_error_bind]
    | voxtral => simp only [synthesizeChunks, voxtralChunks, loads, loads', Prog.mk_error_bind]
    | vllmOmni => simp only [synthesizeChunks, vllmOmniChunks, loads, loads', Prog.mk_error_bind]
  | ok model =>
    have loads' := names ▸ loads
    have same := args model loads
    cases kind with
    | mlxAudio =>
      simp only [synthesizeChunks, mlxAudioChunks, loads', Prog.mk_ok_bind, chunks, voice, path, text, same, names]
    | voxtral =>
      simp only [synthesizeChunks, voxtralChunks, loads', Prog.mk_ok_bind, chunks, path, text, same, names]
    | vllmOmni =>
      simp only [synthesizeChunks, vllmOmniChunks, loads', Prog.mk_ok_bind, chunks, voice, path, text, same, names]

/-- A model of mlx-audio that has no name for a voice is not called. -/
theorem synthesizeChunks_unvoiced
    (unvoiced : ∀ model, getModel mlxAudio request.modelName = .ok model →
      mlxAudio.voiceArgs request (mlxAudio.signatureParams model) = []) :
    mlxAudio.synthesizeChunks getModel request =
      (ExceptT.mk (pure (getModel mlxAudio request.modelName)) >>= fun _ => throw (.http (invalidRequest
        [.text "No usable voice provided: configure ref_audio_path/ref_text or set request voice_name"]
        (some "voice")))) := by
  cases loads : getModel mlxAudio request.modelName with
  | error raised => simp only [synthesizeChunks, mlxAudioChunks, loads, Prog.mk_error_bind]
  | ok model =>
    simp only [synthesizeChunks, mlxAudioChunks, loads, Prog.mk_ok_bind]
    show (if mlxAudio.voiceArgs request (mlxAudio.signatureParams model) = [] then _ else _ :
      ModelProg Raised (List Bytes)) = _
    rw [if_pos (unvoiced model loads)]
    rfl

end ProviderKind

end LlmTts
