import LlmTts.Synthesis.Core

/-!
# What a provider is handed

The requests that one run of `synthesize_core` makes of its provider. `tryBlock_congr`
says that the run depends on the answers to these alone, and `handed_ne_nil_iff` which
runs get as far as a provider.
-/

namespace LlmTts
open Python Checked

/-! ## Before the `try` -/

/-- `synthesize_core` before its first repository call. -/
def synthesisInput (host : SynthesisHost) (payload : SynthesizeRequest) :
    Except OpenAIHTTPException (EffectiveSynthesisConfig × String) := do
  let effective ← resolvePreset payload host.presetSnapshot host.settings
  let voiceId := resolvedVoice payload effective
  if voiceId = "" then
    .error (invalidRequest [.text "voice is required"] (some "voice") "voice_required")
  else if isBlank payload.input then
    .error (invalidRequest [.text "input is required"] (some "input"))
  else if host.maxInputChars < payload.input.length then
    .error (invalidRequest
      [.text s!"input length {payload.input.length} exceeds TTS_MAX_INPUT_CHARS={host.maxInputChars}"]
      (some "input") "input_too_long")
  else .ok (effective, voiceId)

section Prepare

variable {host : SynthesisHost} {calls : CoreCalls} {payload : SynthesizeRequest}

theorem prepare_eq :
    prepare host calls payload = (do
      let (effective, voiceId) ← (synthesisInput host payload).mapError .openai
      let (record, blobBytes) ← calls.resolveVoice voiceId
      let (provider, model, strategy) ←
        (resolveProviderAndModel host.settings host.providerRegistry host.selection effective).mapError .openai
      return ⟨effective, voiceId, record, blobBytes, provider, model, strategy⟩) := by
  unfold prepare synthesisInput
  cases resolvePreset payload host.presetSnapshot host.settings with
  | error e => rfl
  | ok effective =>
    simp only [Except.mapError, bind, Except.bind]
    by_cases silent : resolvedVoice payload effective = ""
    · simp only [if_pos silent]
    · simp only [if_neg silent]
      split
      · rfl
      · split
        · rfl
        · rfl

/-- The handler goes on with what these calls and checks return. -/
theorem prepare_ok_iff {prepared : Prepared} :
    prepare host calls payload = .ok prepared ↔
      synthesisInput host payload = .ok (prepared.effective, prepared.voiceId) ∧
      calls.resolveVoice prepared.voiceId = .ok (prepared.record, prepared.blobBytes) ∧
      resolveProviderAndModel host.settings host.providerRegistry host.selection prepared.effective =
        .ok (prepared.providerName, prepared.modelName, prepared.strategy) := by
  rw [prepare_eq, bind_ok_iff]
  constructor
  · rintro ⟨⟨effective, voiceId⟩, input, rest⟩
    obtain ⟨⟨record, blobBytes⟩, stored, rest⟩ := bind_ok_iff.1 rest
    obtain ⟨⟨provider, model, strategy⟩, pair, built⟩ := bind_ok_iff.1 rest
    cases built
    exact ⟨mapError_ok_iff.1 input, stored, mapError_ok_iff.1 pair⟩
  · rintro ⟨input, stored, pair⟩
    exact ⟨_, mapError_ok_iff.2 input, bind_ok_iff.2 ⟨_, stored, bind_ok_iff.2 ⟨_, mapError_ok_iff.2 pair, rfl⟩⟩⟩

end Prepare

/-! ## The requests of a run -/

section Requests

variable (host : SynthesisHost) (calls : CoreCalls) (payload : SynthesizeRequest)

/-- The chunks of the text of a request. -/
def textChunks (voice : VoiceConfig) : Option (List String) := do
  let language := if voice.numberLang = "" then voice.language else voice.numberLang
  let normalized ← calls.preprocessForTts payload.input language
  calls.splitTextSemantic normalized host.maxInputChars voice.maxSentencesPerChunk.toInt

/-- The requests that the loop over the chunks makes of the provider. The response of a
stream is built before its generator runs. -/
def loopRequests (prepared : Prepared) (voice : VoiceConfig) (chunks : List String) : List SynthesisRequest :=
  let input : SynthesisInput := ⟨prepared.modelName, voice, prepared.voiceId, "wav"⟩
  let provider := calls.synthesizeChunks prepared.strategy
  if payload.stream then
    match respond host prepared none [] with
    | .error _ => []
    | .ok _ => streamRequests calls.np provider input chunks
  else runRequests provider calls.disconnected input 0 chunks

/-- The requests that the `try` block makes of the provider. -/
def tryRequests (prepared : Prepared) : List SynthesisRequest :=
  match calls.tempFile prepared.voiceId prepared.blobBytes, calls.admission with
  | some tmpPath, .admitted =>
    let voice := buildVoiceConfig prepared.record tmpPath prepared.effective
    match textChunks host calls payload voice with
    | some chunks => loopRequests host calls payload prepared voice chunks
    | none => []
  | _, _ => []

/-- The local variables of a run with this voice, if it gets to its `try`. -/
def preparedWith (record : VoiceRecord) (blobBytes : Bytes) : Except OpenAIHTTPException Prepared := do
  let (effective, voiceId) ← synthesisInput host payload
  let (provider, model, strategy) ←
    resolveProviderAndModel host.settings host.providerRegistry host.selection effective
  return ⟨effective, voiceId, record, blobBytes, provider, model, strategy⟩

/-- The requests that a provider is handed in a run with this voice. The calls of the
repositories are not among `calls`: they have returned the voice. -/
def handed (record : VoiceRecord) (blobBytes : Bytes) : List SynthesisRequest :=
  match preparedWith host payload record blobBytes with
  | .ok prepared => tryRequests host calls payload prepared
  | .error _ => []

/-- The run gets from its `try` to a provider: the temporary file is written, the text has
chunks, the request is admitted, and the client is there. -/
def ComesToProvider (prepared : Prepared) : Prop :=
  ∃ tmpPath chunks, calls.tempFile prepared.voiceId prepared.blobBytes = some tmpPath ∧
    textChunks host calls payload (buildVoiceConfig prepared.record tmpPath prepared.effective) = some chunks ∧
    chunks ≠ [] ∧ calls.admission = .admitted ∧
    if payload.stream then ∃ outcome, respond host prepared none [] = .ok outcome else calls.disconnected 0 = false

variable {host calls payload} {record : VoiceRecord} {blobBytes : Bytes} {prepared : Prepared} {voice : VoiceConfig}
  {chunks : List String}

theorem preparedWith_ok_iff :
    preparedWith host payload record blobBytes = .ok prepared ↔
      synthesisInput host payload = .ok (prepared.effective, prepared.voiceId) ∧
      (record, blobBytes) = (prepared.record, prepared.blobBytes) ∧
      resolveProviderAndModel host.settings host.providerRegistry host.selection prepared.effective =
        .ok (prepared.providerName, prepared.modelName, prepared.strategy) := by
  unfold preparedWith
  rw [bind_ok_iff]
  constructor
  · rintro ⟨⟨effective, voiceId⟩, input, rest⟩
    obtain ⟨⟨provider, model, strategy⟩, pair, built⟩ := bind_ok_iff.1 rest
    cases built
    exact ⟨input, rfl, pair⟩
  · rintro ⟨input, voice, pair⟩
    cases voice
    exact ⟨_, input, bind_ok_iff.2 ⟨_, pair, rfl⟩⟩

/-- They are the requests of the handler, when the repositories have returned the voice. -/
theorem handed_of_prepare (before : prepare host calls payload = .ok prepared) :
    handed host calls payload prepared.record prepared.blobBytes = tryRequests host calls payload prepared := by
  obtain ⟨input, -, pair⟩ := prepare_ok_iff.1 before
  unfold handed
  rw [preparedWith_ok_iff.2 ⟨input, rfl, pair⟩]

theorem exists_of_mem_loopRequests {request : SynthesisRequest}
    (member : request ∈ loopRequests host calls payload prepared voice chunks) :
    ∃ chunkText, request =
      buildSynthesisRequest ⟨prepared.modelName, voice, prepared.voiceId, "wav"⟩ chunkText := by
  unfold loopRequests at member
  dsimp only at member
  split at member
  · split at member
    · cases member
    · exact exists_of_mem_streamRequests member
  · exact exists_of_mem_runRequests member

/-- Each of the requests is about one chunk, with the same configuration of the voice. -/
theorem exists_of_mem_tryRequests {request : SynthesisRequest}
    (member : request ∈ tryRequests host calls payload prepared) :
    ∃ tmpPath chunkText, request = buildSynthesisRequest
      ⟨prepared.modelName, buildVoiceConfig prepared.record tmpPath prepared.effective, prepared.voiceId, "wav"⟩
      chunkText := by
  unfold tryRequests at member
  split at member
  · rename_i tmpPath _ _
    dsimp only at member
    split at member
    · exact ⟨tmpPath, exists_of_mem_loopRequests member⟩
    · cases member
  · cases member

theorem loopRequests_ne_nil_iff :
    loopRequests host calls payload prepared voice chunks ≠ [] ↔ chunks ≠ [] ∧
      if payload.stream then ∃ outcome, respond host prepared none [] = .ok outcome
      else calls.disconnected 0 = false := by
  unfold loopRequests
  dsimp only
  split
  · cases respond host prepared none [] with
    | error thrown => simp
    | ok outcome => simp [streamRequests_eq_nil_iff]
  · simp [runRequests_eq_nil_iff]

theorem tryRequests_ne_nil_iff :
    tryRequests host calls payload prepared ≠ [] ↔ ComesToProvider host calls payload prepared := by
  unfold tryRequests ComesToProvider
  cases calls.tempFile prepared.voiceId prepared.blobBytes with
  | none => simp
  | some tmpPath =>
    cases calls.admission with
    | full => simp
    | cancelled => simp
    | admitted =>
      dsimp only
      cases chunked : textChunks host calls payload (buildVoiceConfig prepared.record tmpPath prepared.effective) with
      | none => simp [chunked]
      | some chunks =>
        dsimp only
        rw [loopRequests_ne_nil_iff]
        simp [chunked]

/-- A provider is called in a run that passes every check before. -/
theorem handed_ne_nil_iff :
    handed host calls payload record blobBytes ≠ [] ↔
      ∃ prepared, preparedWith host payload record blobBytes = .ok prepared ∧
        ComesToProvider host calls payload prepared := by
  unfold handed
  cases preparedWith host payload record blobBytes with
  | error e => simp
  | ok prepared =>
    dsimp only
    rw [tryRequests_ne_nil_iff]
    simp

/-- Whether a response can be built does not depend on its body. -/
theorem respond_eq_error {totals : Option (Int × Int)} {body : Bytes} {thrown : Thrown}
    (fails : respond host prepared totals [] = .error thrown) : respond host prepared totals body = .error thrown := by
  unfold respond at *
  split at fails
  · cases fails
  · rename_i foreign
    rw [if_neg foreign]
    exact fails

/-- The `try` block depends on the answers to its requests alone. -/
theorem tryBlock_congr {other : TTSProviderStrategy → Provider}
    (same : ∀ request ∈ tryRequests host calls payload prepared,
      calls.synthesizeChunks prepared.strategy request = other prepared.strategy request) :
    tryBlock host calls payload prepared = tryBlock host { calls with synthesizeChunks := other } payload prepared := by
  unfold tryRequests at same
  unfold tryBlock
  cases file : calls.tempFile prepared.voiceId prepared.blobBytes with
  | none => rfl
  | some tmpPath =>
    rw [file] at same
    dsimp only
    split
    · rename_i normalized processed
      split
      · rename_i chunks splits
        split
        · rfl
        · cases admission : calls.admission with
          | full => rfl
          | cancelled => rfl
          | admitted =>
            have chunked : textChunks host calls payload
                (buildVoiceConfig prepared.record tmpPath prepared.effective) = some chunks := by
              unfold textChunks
              dsimp only
              rw [processed]
              exact splits
            simp only [admission, chunked, loopRequests] at same
            dsimp only
            split
            · rename_i streams
              rw [if_pos streams] at same
              cases built : respond host prepared none [] with
              | error thrown => rw [respond_eq_error built, respond_eq_error built]
              | ok outcome =>
                rw [built] at same
                rw [streamSynthesisChunks_congr same]
            · rename_i buffers
              rw [if_neg buffers] at same
              rw [synthesizeBuffered_congr same]
      · rfl
    · rfl

end Requests

end LlmTts
