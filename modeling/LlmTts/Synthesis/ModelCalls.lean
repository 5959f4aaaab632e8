import LlmTts.Providers.Generate
import LlmTts.Synthesis.Effective
import LlmTts.Synthesis.TextPreprocessing

/-!
# The calls of the model in a run

`synthesize_core` with the preprocessing of the text and the providers as they are, as a
program over the calls of the model. `coreProg_answered` says that it is the handler:
its result, when the model answers, is that of `synthesizeCore`.
-/

namespace LlmTts
open Python Effect Checked

/-- The packages that are outside the repository. -/
structure Packages where
  num2words : Num2words
  words : WordChars
  np : Rescale

/-- What one run meets: the stores, the disk, the other requests, the client and the models. -/
structure SynthesisEvents where
  store : (c : StoreCall) → c.Reply
  tempFile : (voiceId : String) → Bytes → Option String
  admission : AdmissionWait
  disconnected : Nat → Bool
  getModel : ProviderKind → (modelName : String) → Except Raised TtsModel
  generate : (call : ModelCall) → Generated call

/-- The provider of a registered name. -/
def kindOf (strategy : TTSProviderStrategy) : Option ProviderKind :=
  [ProviderKind.mlxAudio, .voxtral, .vllmOmni].find? fun kind => kind.name = strategy.providerName

/-- A provider is found by its name. -/
theorem kindOf_eq_some {strategy : TTSProviderStrategy} {kind : ProviderKind}
    (named : strategy.providerName = kind.name) : kindOf strategy = some kind := by
  unfold kindOf
  rw [named]
  cases kind <;> decide

variable (packages : Packages) (events : SynthesisEvents)

/-- `synthesize_chunks` of a registered provider. -/
def providerProg (strategy : TTSProviderStrategy) (request : SynthesisRequest) : ModelProg Raised (List Bytes) :=
  match kindOf strategy with
  | some kind => kind.synthesizeChunks events.getModel request
  | none => throw (.provider "no such provider")

/-- The calls of a run, with the repository's own text processing and providers. -/
def coreCalls : CoreCalls where
  store := events.store
  tempFile := events.tempFile
  preprocessForTts text language :=
    (LlmTts.preprocessForTts packages.num2words packages.words text.toList language).toOption.map String.ofList
  splitTextSemantic text maxChars maxSentencesPerChunk :=
    some ((LlmTts.splitTextSemantic text.toList maxChars maxSentencesPerChunk).map String.ofList)
  admission := events.admission
  synthesizeChunks strategy request := (providerProg events strategy request).run.answered events.generate
  disconnected := events.disconnected
  np := packages.np

/-! ## The loops -/

section Loops

variable (np : Rescale) (synthesizeChunks : SynthesisRequest → ModelProg Raised (List Bytes))
  (disconnected : Nat → Bool) (input : SynthesisInput)

/-- The loop of `_run_synthesis`. -/
def runProg (index : Nat) (outputs : List Bytes) : List String → ModelProg Raised (List Bytes)
  | [] => return outputs
  | chunkText :: chunks =>
    if disconnected index then throw .cancelled
    else do
      let chunkResults ← synthesizeChunks (buildSynthesisRequest input chunkText)
      runProg (index + 1) (outputs ++ chunkResults) chunks

/-- The end of `synthesize_core` for a buffered response. -/
def finishBuffered (targetDb : PyFloat) (chunkWavs : List Bytes) : Except Raised Buffered := do
  let normalizedChunks ← chunkWavs.mapM fun chunkWav => normalizeWavRms np chunkWav targetDb
  let merged ← concatWavBytes normalizedChunks
  let durationMs ← wavDurationMs merged
  return ⟨merged, chunkWavs.length, durationMs⟩

def bufferedProg (chunks : List String) : ModelProg Raised Buffered := do
  let chunkWavs ← runProg synthesizeChunks disconnected input 0 [] chunks
  ExceptT.mk (pure (finishBuffered np input.voice.targetDb chunkWavs))

/-- `normalize_wav_rms(result[0])`. -/
def normalizeFirst (targetDb : PyFloat) : List Bytes → Except Raised Bytes
  | [] => .error .index
  | wav :: _ => normalizeWavRms np wav targetDb

def firstWavProg (chunkText : String) : ModelProg Raised Bytes := do
  let result ← synthesizeChunks (buildSynthesisRequest input chunkText)
  ExceptT.mk (pure (normalizeFirst np input.voice.targetDb result))

/-- The payloads that the loop of `_stream_synthesis_chunks` yields. -/
def streamProg : List String → Prog ModelCall Generated (List Bytes)
  | [] => pure []
  | chunkText :: chunks => do
    match ← (firstWavProg np synthesizeChunks input chunkText).run with
    | .error _ => return []
    | .ok chunkWav =>
      match wavDurationMs chunkWav with
      | .error _ => return []
      | .ok _ => return chunkWav :: (← streamProg chunks)

variable (generate : (call : ModelCall) → Generated call)

/-- The program of `_run_synthesis` is its loop. -/
theorem runProg_answered (index : Nat) (outputs : List Bytes) (chunks : List String) :
    (runProg synthesizeChunks disconnected input index outputs chunks).run.answered generate =
      runSynthesis (fun request => (synthesizeChunks request).run.answered generate) disconnected input index outputs
        chunks := by
  induction chunks generalizing index outputs with
  | nil => rfl
  | cons chunkText chunks ih =>
    unfold runProg runSynthesis
    split
    · rfl
    · rw [Prog.answered_run_bind]
      simp only [ih]

/-- The program of a buffered response is the function. -/
theorem bufferedProg_answered (chunks : List String) :
    (bufferedProg np synthesizeChunks disconnected input chunks).run.answered generate =
      synthesizeBuffered np (fun request => (synthesizeChunks request).run.answered generate) disconnected input
        chunks := by
  unfold bufferedProg
  rw [Prog.answered_run_bind, runProg_answered]
  rfl

theorem firstWavProg_answered (chunkText : String) :
    (firstWavProg np synthesizeChunks input chunkText).run.answered generate =
      firstWav np (fun request => (synthesizeChunks request).run.answered generate) input chunkText := by
  unfold firstWavProg firstWav
  rw [Prog.answered_run_bind]
  refine congrArg _ (funext fun result => ?_)
  cases result <;> rfl

/-- The program of a stream yields what its loop does. -/
theorem streamProg_answered (totals : Totals) (chunks : List String) :
    (streamProg np synthesizeChunks input chunks).answered generate =
      (streamSynthesisChunks np (fun request => (synthesizeChunks request).run.answered generate) input totals
        chunks).1 := by
  induction chunks generalizing totals with
  | nil => rfl
  | cons chunkText chunks ih =>
    unfold streamProg streamSynthesisChunks
    rw [Prog.answered_bind, firstWavProg_answered]
    cases firstWav np (fun request => (synthesizeChunks request).run.answered generate) input chunkText with
    | error raised => rfl
    | ok chunkWav =>
      dsimp only
      cases wavDurationMs chunkWav with
      | error raised => rfl
      | ok ms =>
        dsimp only
        rw [Prog.answered_bind, ih]
        rfl

end Loops

/-! ## Two inputs -/

section TwoInputs

variable {np : Rescale} {synthesizeChunks : SynthesisRequest → ModelProg Raised (List Bytes)}
  {disconnected : Nat → Bool} {one two : SynthesisInput}

section Same

variable (same : ∀ chunkText, synthesizeChunks (buildSynthesisRequest one chunkText) =
  synthesizeChunks (buildSynthesisRequest two chunkText))

include same

/-- Two inputs with the same requests make the same calls. -/
theorem runProg_congr (index : Nat) (outputs : List Bytes) (chunks : List String) :
    runProg synthesizeChunks disconnected one index outputs chunks =
      runProg synthesizeChunks disconnected two index outputs chunks := by
  induction chunks generalizing index outputs with
  | nil => rfl
  | cons chunkText chunks ih =>
    unfold runProg
    rw [same]
    simp only [ih]

theorem bufferedProg_congr (level : one.voice.targetDb = two.voice.targetDb) (chunks : List String) :
    bufferedProg np synthesizeChunks disconnected one chunks =
      bufferedProg np synthesizeChunks disconnected two chunks := by
  unfold bufferedProg
  rw [runProg_congr same, level]

theorem streamProg_congr (level : one.voice.targetDb = two.voice.targetDb) (chunks : List String) :
    streamProg np synthesizeChunks one chunks = streamProg np synthesizeChunks two chunks := by
  have first : ∀ chunkText,
      firstWavProg np synthesizeChunks one chunkText = firstWavProg np synthesizeChunks two chunkText := by
    intro chunkText
    unfold firstWavProg
    rw [same, level]
  induction chunks with
  | nil => rfl
  | cons chunkText chunks ih =>
    unfold streamProg
    rw [first, ih]

end Same

section Raises

variable {raised : Raised} (raises : ∀ chunkText, synthesizeChunks (buildSynthesisRequest one chunkText) = throw raised)

include raises

/-- A provider that raises before it calls the model ends a stream with its first chunk. -/
theorem streamProg_raises (chunks : List String) : streamProg np synthesizeChunks one chunks = pure [] := by
  cases chunks with
  | nil => rfl
  | cons chunkText chunks =>
    unfold streamProg firstWavProg
    rw [raises]
    rfl

/-- A provider that raises before it calls the model fails the response. -/
theorem bufferedProg_raises {chunks : List String} (nonempty : chunks ≠ []) :
    bufferedProg np synthesizeChunks disconnected one chunks =
      throw (if disconnected 0 then .cancelled else raised) := by
  cases chunks with
  | nil => exact absurd rfl nonempty
  | cons chunkText chunks =>
    unfold bufferedProg runProg
    rw [raises]
    split
    · rfl
    · rfl

end Raises

end TwoInputs

/-! ## The handler -/

section Handler

variable (host : SynthesisHost) (payload : SynthesizeRequest)

/-- The text chunks of a request that is admitted. -/
def chunksOf (voice : VoiceConfig) : Except Thrown (List String) := do
  let language := if voice.numberLang = "" then voice.language else voice.numberLang
  let some normalized := (coreCalls packages events).preprocessForTts payload.input language | .error (.fault .text)
  let some chunks := (coreCalls packages events).splitTextSemantic normalized host.maxInputChars
    voice.maxSentencesPerChunk.toInt | .error (.fault .text)
  if chunks = [] then
    .error (.openai (invalidRequest [.text "input is required"] (some "input")))
  else
    match events.admission with
    | .full => .error (.openai queueFull)
    | .cancelled => .error .cancelled
    | .admitted => .ok chunks

/-- The rest of the `try` block. The headers of a stream are encoded before it starts. -/
def synthesisProg (prepared : Prepared) (voice : VoiceConfig) (chunks : List String) :
    ModelProg Thrown RouteOutcome :=
  let input : SynthesisInput := ⟨prepared.modelName, voice, prepared.voiceId, "wav"⟩
  let provider := providerProg events prepared.strategy
  if payload.stream then do
    let _ ← ExceptT.mk (pure (respond host prepared none []))
    let yielded ← ExceptT.lift (streamProg packages.np provider input chunks)
    ExceptT.mk (pure (respond host prepared none yielded.flatten))
  else do
    let buffered ← ExceptT.mk ((·.mapError Thrown.ofRaised) <$>
      (bufferedProg packages.np provider events.disconnected input chunks).run)
    ExceptT.mk (pure (respond host prepared (some (buffered.chunks, buffered.durationMs)) buffered.body))

/-- `synthesize_core`, apart from its `except` clauses. -/
def coreProg : ModelProg Thrown RouteOutcome := do
  let prepared ← ExceptT.mk (pure (prepare host (coreCalls packages events) payload))
  match events.tempFile prepared.voiceId prepared.blobBytes with
  | none => throw (.fault .tempFile)
  | some tmpPath =>
    let voice := buildVoiceConfig prepared.record tmpPath prepared.effective
    let chunks ← ExceptT.mk (pure (chunksOf packages events host payload voice))
    synthesisProg packages events host payload prepared voice chunks

/-- Whether the headers can be encoded does not depend on the body. -/
theorem respond_after (prepared : Prepared) (totals : Option (Int × Int)) (body : Bytes) :
    (respond host prepared totals [] >>= fun _ => respond host prepared totals body) =
      respond host prepared totals body := by
  unfold respond
  split
  · rfl
  · rfl

/-- The program of the two loops is what the handler does. -/
theorem synthesisProg_answered (prepared : Prepared) (voice : VoiceConfig) (chunks : List String) :
    (synthesisProg packages events host payload prepared voice chunks).run.answered events.generate =
      if payload.stream then
        respond host prepared none (streamSynthesisChunks packages.np
          ((coreCalls packages events).synthesizeChunks prepared.strategy)
          ⟨prepared.modelName, voice, prepared.voiceId, "wav"⟩ ⟨0, 0⟩ chunks).1.flatten
      else
        ((synthesizeBuffered packages.np ((coreCalls packages events).synthesizeChunks prepared.strategy)
          events.disconnected ⟨prepared.modelName, voice, prepared.voiceId, "wav"⟩ chunks).mapError .ofRaised) >>=
        fun buffered => respond host prepared (some (buffered.chunks, buffered.durationMs)) buffered.body := by
  unfold synthesisProg
  dsimp only
  split
  · rw [Prog.answered_run_bind, ← respond_after host prepared none (List.flatten _)]
    refine congrArg _ (funext fun _ => ?_)
    rw [Prog.answered_run_bind, ExceptT.run_lift, Prog.answered_map, streamProg_answered _ _ _ _ ⟨0, 0⟩]
    rfl
  · rw [Prog.answered_run_bind, ExceptT.run_mk, Prog.answered_map, bufferedProg_answered]
    rfl

theorem pipeline_answered (prepared : Prepared) (voice : VoiceConfig) :
    (chunksOf packages events host payload voice >>= fun chunks =>
      (synthesisProg packages events host payload prepared voice chunks).run.answered events.generate) =
      pipeline host (coreCalls packages events) payload prepared voice := by
  have admission : (coreCalls packages events).admission = events.admission := rfl
  unfold pipeline chunksOf
  simp only [synthesisProg_answered]
  cases (coreCalls packages events).preprocessForTts payload.input
    (if voice.numberLang = "" then voice.language else voice.numberLang) with
  | none => rfl
  | some normalized =>
    dsimp only
    cases (coreCalls packages events).splitTextSemantic normalized host.maxInputChars voice.maxSentencesPerChunk.toInt with
    | none => rfl
    | some chunks =>
      dsimp only
      by_cases empty : chunks = []
      · rw [if_pos empty, if_pos empty]
        rfl
      · rw [if_neg empty, if_neg empty, admission]
        cases events.admission <;> rfl

/-- The program is the handler. -/
theorem coreProg_answered :
    (coreProg packages events host payload).run.answered events.generate =
      prepare host (coreCalls packages events) payload >>= tryBlock host (coreCalls packages events) payload := by
  have file : (coreCalls packages events).tempFile = events.tempFile := rfl
  unfold coreProg
  rw [Prog.answered_run_bind]
  apply congrArg
  funext prepared
  unfold tryBlock
  rw [file]
  cases events.tempFile prepared.voiceId prepared.blobBytes with
  | none => rfl
  | some tmpPath =>
    dsimp only
    rw [Prog.answered_run_bind]
    exact pipeline_answered packages events host payload prepared _

/-- The program of a run that gets as far as the loops. -/
theorem coreProg_eq {prepared : Prepared} {tmpPath : String} {chunks : List String}
    (before : prepare host (coreCalls packages events) payload = .ok prepared)
    (file : events.tempFile prepared.voiceId prepared.blobBytes = some tmpPath)
    (chunked : chunksOf packages events host payload (buildVoiceConfig prepared.record tmpPath prepared.effective) =
      .ok chunks) :
    coreProg packages events host payload = synthesisProg packages events host payload prepared
      (buildVoiceConfig prepared.record tmpPath prepared.effective) chunks := by
  unfold coreProg
  rw [before, Prog.mk_ok_bind]
  simp only [file, chunked, Prog.mk_ok_bind]

/-- A run ends in a response when the program does. -/
theorem synthesizeCore_ok_iff {str : Fault → String} {outcome : RouteOutcome} :
    synthesizeCore host (coreCalls packages events) payload str = .ok outcome ↔
      (coreProg packages events host payload).run.answered events.generate = .ok outcome := by
  rw [coreProg_answered, synthesizeCore, bind_ok_iff, bind_ok_iff]
  simp only [mapError_ok_iff]

end Handler

end LlmTts
