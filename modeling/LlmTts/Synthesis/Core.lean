import LlmTts.Http.Responses
import LlmTts.Presets.Headers
import LlmTts.Voice.Programs

/-!
# The synthesis handler and its two routes to a 500

`synthesize_core` from the request to its response. An exception that it does not turn
into an `OpenAIHTTPException` by name reaches the client in one of two ways: its
`except Exception` clause puts the text of the exception into the message, and the
handler of unhandled exceptions does not. `texts_hidden_iff` says when the client sees
none of the text.
-/

namespace LlmTts
open Python Checked

/-- An exception inside `synthesize_core` that is no `OpenAIHTTPException`. -/
inductive Fault where
  /-- A repository raises, other than for an invalid or an unknown id. -/
  | repository (e : StoreError)
  /-- `OSError` of the temporary file. -/
  | tempFile
  /-- `preprocess_for_tts` or `split_text_semantic` raises. -/
  | text
  /-- The provider, `wave` or numpy raises. -/
  | engine (raised : Raised)
  /-- `UnicodeEncodeError`: a header value is not Latin-1. -/
  | headers
  deriving DecidableEq, Repr

/-- What `synthesize_core` raises. -/
inductive Thrown where
  | openai (exc : OpenAIHTTPException)
  /-- `asyncio.CancelledError`, which is no `Exception`. -/
  | cancelled
  | fault (raised : Fault)
  deriving DecidableEq, Repr

def Thrown.ofRaised : Raised → Thrown
  | .http exc => .openai exc
  | .cancelled => .cancelled
  | raised => .fault (.engine raised)

def Thrown.ofStore : StoreError → Thrown
  | .cancelled => .cancelled
  | e => .fault (.repository e)

/-- How the wait for admission ends. -/
inductive AdmissionWait where
  | admitted
  | full
  | cancelled
  deriving DecidableEq, Repr

/-- What `synthesize_core` is given besides the request. -/
structure SynthesisHost where
  settings : Settings
  maxInputChars : Nat
  providerRegistry : TTSProviderRegistry
  selection : ProviderSelection
  deviceProfile : DeviceProfile
  presetSnapshot : PresetRegistry

/-- What the calls of one run come to; `none` stands for an exception. -/
structure CoreCalls where
  store : (c : StoreCall) → c.Reply
  tempFile : (voiceId : String) → Bytes → Option String
  preprocessForTts : (text language : String) → Option String
  splitTextSemantic : (text : String) → (maxChars : Nat) → (maxSentencesPerChunk : Int) → Option (List String)
  admission : AdmissionWait
  synthesizeChunks : TTSProviderStrategy → Provider
  disconnected : Nat → Bool
  np : Rescale

/-- The local variables of `synthesize_core` at its `try`. -/
structure Prepared where
  effective : EffectiveSynthesisConfig
  voiceId : String
  record : VoiceRecord
  blobBytes : Bytes
  providerName : String
  modelName : String
  strategy : TTSProviderStrategy

section Core

variable (host : SynthesisHost) (calls : CoreCalls) (payload : SynthesizeRequest)

/-- `_resolve_voice` on the answers of the run. -/
def CoreCalls.resolveVoice (voiceId : String) : Except Thrown (VoiceRecord × Bytes) :=
  match calls.store (.metaGet voiceId) with
  | .error (.voiceNotFound _) =>
    .error (.openai (voiceError "voice_not_found"
      [.text "voice ", .repr voiceId, .text " not found in voice store"] 404 (some "voice")))
  | .error (.voiceIdInvalid message) => .error (.openai (invalidRequest message (some "voice")))
  | .error e => .error (.ofStore e)
  | .ok record =>
    match calls.store (.blobGet voiceId) with
    | .error (.voiceNotFound _) =>
      .error (.openai (voiceError "voice_blob_missing"
        [.text "voice ", .repr voiceId, .text " metadata exists but blob is missing"] 422 (some "voice")))
    | .error e => .error (.ofStore e)
    | .ok blobBytes => .ok (record.val, blobBytes)

def Thrown.ofExc : Exc → Thrown
  | .http exc => .openai exc
  | .store e => .ofStore e
  | .other => .fault (.repository .other)

/-- It is the handler's `_resolve_voice`, with its calls answered. -/
theorem resolveVoice_answered (voiceId : String) :
    ((LlmTts.resolveVoice voiceId).answered calls.store).mapError .ofExc =
      (calls.resolveVoice voiceId).map fun (record, blobBytes) => .resolved record blobBytes := by
  rw [resolveVoice_eq]
  show Except.mapError _ ((resolveLoaded voiceId (calls.store (.metaGet voiceId))).answered calls.store) = _
  unfold CoreCalls.resolveVoice
  rcases calls.store (.metaGet voiceId) with (_ | _ | _ | _ | _) | record <;> try rfl
  show Except.mapError _ ((resolveRead voiceId record.val (calls.store (.blobGet voiceId))).answered calls.store) = _
  rcases calls.store (.blobGet voiceId) with (_ | _ | _ | _ | _) | blobBytes <;> rfl

/-- `synthesize_core` before its `try`. -/
def prepare : Except Thrown Prepared := do
  let effective ← (resolvePreset payload host.presetSnapshot host.settings).mapError .openai
  let voiceId := resolvedVoice payload effective
  if voiceId = "" then
    .error (.openai (invalidRequest [.text "voice is required"] (some "voice") "voice_required"))
  else if isBlank payload.input then
    .error (.openai (invalidRequest [.text "input is required"] (some "input")))
  else if host.maxInputChars < payload.input.length then
    .error (.openai (invalidRequest
      [.text s!"input length {payload.input.length} exceeds TTS_MAX_INPUT_CHARS={host.maxInputChars}"]
      (some "input") "input_too_long"))
  else
    let (record, blobBytes) ← calls.resolveVoice voiceId
    let (provider, model, strategy) ←
      (resolveProviderAndModel host.settings host.providerRegistry host.selection effective).mapError .openai
    return ⟨effective, voiceId, record, blobBytes, provider, model, strategy⟩

/-- The headers of a response, without `X-Request-ID`, which comes first. -/
def plainHeaders (prepared : Prepared) (totals : Option (Int × Int)) : List (String × String) :=
  (diagnosticHeaders "" prepared.providerName prepared.modelName host.deviceProfile prepared.record totals
    prepared.effective).drop 1

/-- `Response.init_headers`. -/
def rawHeaders (headers : List (String × String)) : Headers :=
  headers.map fun header => (lowerBytes (latin1Bytes header.1), latin1Bytes header.2)

theorem plainHeaders_plain (prepared : Prepared) (totals : Option (Int × Int)) :
    requestIds (rawHeaders (plainHeaders host prepared totals)) = [] := by
  have names : ∀ name ∈ (plainHeaders host prepared totals).map Prod.fst,
      name ∈ ["X-Provider", "X-Model", "X-Device", "X-Dtype", "X-Voice-Source", "X-Voice-Id", "X-Chunks",
        "X-Total-Duration-Ms", "X-Preset-Effective", "X-Preset-Ignored-Knobs"] := by
    unfold plainHeaders diagnosticHeaders synthesisHeaders presetHeaders
    cases totals <;> split <;> simp
  have others : ∀ name ∈ ["X-Provider", "X-Model", "X-Device", "X-Dtype", "X-Voice-Source", "X-Voice-Id", "X-Chunks",
      "X-Total-Duration-Ms", "X-Preset-Effective", "X-Preset-Ignored-Knobs"],
      lowerBytes (lowerBytes (latin1Bytes name)) ≠ requestIdHeader := by decide
  unfold requestIds rawHeaders
  rw [List.map_eq_nil_iff, List.filter_eq_nil_iff]
  intro raw member
  obtain ⟨header, there, rfl⟩ := List.mem_map.1 member
  have other := others _ (names _ (List.mem_map_of_mem there))
  simpa using other

/-- The constructor of the response: it encodes the headers. -/
def respond (prepared : Prepared) (totals : Option (Int × Int)) (body : Bytes) : Except Thrown RouteOutcome :=
  if (plainHeaders host prepared totals).all fun header => header.2.toList.all fun c => decide (c.toNat ≤ 0xFF) then
    .ok (.responds 200 (rawHeaders (plainHeaders host prepared totals)) (plainHeaders_plain host prepared totals)
      true body)
  else .error (.fault .headers)

/-- The `try` of `synthesize_core`. The body of a streamed response is what its
generator yields; it may still raise, once the response has begun. -/
def tryBlock (prepared : Prepared) : Except Thrown RouteOutcome := do
  let some tmpPath := calls.tempFile prepared.voiceId prepared.blobBytes | .error (.fault .tempFile)
  let voice := buildVoiceConfig prepared.record tmpPath prepared.effective
  let language := if voice.numberLang = "" then voice.language else voice.numberLang
  let some normalized := calls.preprocessForTts payload.input language | .error (.fault .text)
  let some chunks := calls.splitTextSemantic normalized host.maxInputChars voice.maxSentencesPerChunk.toInt
    | .error (.fault .text)
  if chunks = [] then
    .error (.openai (invalidRequest [.text "input is required"] (some "input")))
  else
    match calls.admission with
    | .full => .error (.openai queueFull)
    | .cancelled => .error .cancelled
    | .admitted =>
      let input : SynthesisInput := ⟨prepared.modelName, voice, prepared.voiceId, "wav"⟩
      let provider := calls.synthesizeChunks prepared.strategy
      if payload.stream then
        respond host prepared none (streamSynthesisChunks calls.np provider input ⟨0, 0⟩ chunks).1.flatten
      else do
        let buffered ← (synthesizeBuffered calls.np provider calls.disconnected input chunks).mapError .ofRaised
        respond host prepared (some (buffered.chunks, buffered.durationMs)) buffered.body

/-- The `except` clauses. `str` gives the text of an exception. -/
def exceptClauses (str : Fault → String) : Thrown → Thrown
  | .fault raised => .openai (internalError [.text s!"Speech generation failed: {str raised}"])
  | thrown => thrown

/-- `synthesize_core`. -/
def synthesizeCore (str : Fault → String) : Except Thrown RouteOutcome := do
  let prepared ← prepare host calls payload
  (tryBlock host calls payload prepared).mapError (exceptClauses str)

/-- What an exception that leaves the route comes to. -/
def Thrown.sent (str : Fault → String) (fresh : HexId) (inbound : Headers) : Thrown → Option Response
  | .openai exc => (serve fresh inbound (.openai exc)).sent
  | .cancelled => none
  | .fault raised => (serve fresh inbound (.other (str raised))).sent

/-- The response the client gets, if any. -/
def answer (str : Fault → String) (fresh : HexId) (inbound : Headers) : Option Response :=
  match synthesizeCore host calls payload str with
  | .ok outcome => (serve fresh inbound outcome).sent
  | .error thrown => thrown.sent str fresh inbound

end Core

/-! ## Apart from the request id -/

/-- The headers other than `X-Request-ID`. -/
def otherHeaders (headers : Headers) : Headers := headers.filter fun header => lowerBytes header.1 ≠ requestIdHeader

/-- A response apart from the request id. -/
def Response.apart (response : Response) : Nat × Headers × (Bytes ⊕ OpenAIError) :=
  (response.statusCode, otherHeaders response.headers,
    match response.body with
    | .content bytes => .inl bytes
    | .envelope error _ => .inr error)

theorem otherHeaders_id (requestId : Bytes) (headers : Headers) :
    otherHeaders ((requestIdHeader, requestId) :: headers) = otherHeaders headers := by
  have here : lowerBytes requestIdHeader = requestIdHeader := by decide
  simp [otherHeaders, here]

theorem otherHeaders_wrapSend (requestId : String) (headers : Headers) :
    otherHeaders (wrapSend requestId headers) = otherHeaders headers := by
  unfold wrapSend
  split
  · rfl
  · have alone := otherHeaders_id (latin1Bytes requestId) []
    unfold otherHeaders at alone ⊢
    rw [List.filter_append, alone, List.filter_nil, List.append_nil]

theorem apart_wrapSend (requestId : String) (response : Response) :
    Response.apart { response with headers := wrapSend requestId response.headers } = response.apart := by
  unfold Response.apart
  rw [otherHeaders_wrapSend]

/-- What the client sees of an outcome does not depend on the request id. -/
theorem serve_apart (fresh fresh' : HexId) (inbound : Headers) (outcome : RouteOutcome) :
    (serve fresh inbound outcome).sent.map Response.apart =
      (serve fresh' inbound outcome).sent.map Response.apart := by
  cases outcome with
  | responds statusCode headers plain echoes body =>
    show some _ = some _
    rw [apart_wrapSend, apart_wrapSend]
    cases echoes with
    | false => rfl
    | true =>
      show some (statusCode, otherHeaders (_ :: headers), _) = some (statusCode, otherHeaders (_ :: headers), _)
      rw [otherHeaders_id, otherHeaders_id]
  | openai exc =>
    show some _ = some _
    rw [apart_wrapSend, apart_wrapSend]
    rfl
  | http statusCode detail =>
    show some _ = some _
    rw [apart_wrapSend, apart_wrapSend]
    rfl
  | validation errors =>
    show some _ = some _
    rw [apart_wrapSend, apart_wrapSend]
    rfl
  | other text => rfl

/-! ## Two runs -/

section TwoRuns

variable {host : SynthesisHost} {calls : CoreCalls} {payload : SynthesizeRequest}

/-- What is raised before the `try` is hidden by the handlers. -/
theorem sent_apart (str₁ str₂ : Fault → String) (fresh₁ fresh₂ : HexId) (inbound : Headers) (thrown : Thrown) :
    (thrown.sent str₁ fresh₁ inbound).map Response.apart = (thrown.sent str₂ fresh₂ inbound).map Response.apart := by
  cases thrown with
  | openai exc => exact serve_apart fresh₁ fresh₂ inbound _
  | cancelled => rfl
  | fault raised => rfl

/-- The message of the `except Exception` clause shows the text. -/
theorem speechFailed_inj {text₁ text₂ : String}
    (same : internalError [.text s!"Speech generation failed: {text₁}"] =
      internalError [.text s!"Speech generation failed: {text₂}"]) : text₁ = text₂ := by
  have pieces := congrArg (·.error.message) same
  simp only [internalError, List.cons.injEq, Piece.text.injEq, and_true] at pieces
  exact (String.append_right_inj _).1 pieces

/-- What the `try` block raises is hidden unless it is shown by the `except` clause. -/
theorem clauses_apart_iff (str₁ str₂ : Fault → String) (fresh₁ fresh₂ : HexId) (inbound : Headers) (thrown : Thrown) :
    ((exceptClauses str₁ thrown).sent str₁ fresh₁ inbound).map Response.apart =
        ((exceptClauses str₂ thrown).sent str₂ fresh₂ inbound).map Response.apart ↔
      ∀ raised, thrown = .fault raised → str₁ raised = str₂ raised := by
  cases thrown with
  | openai exc => exact iff_of_true (sent_apart str₁ str₂ fresh₁ fresh₂ inbound (.openai exc)) nofun
  | cancelled => exact iff_of_true rfl nofun
  | fault raised =>
    constructor
    · intro same other here
      cases here
      have bodies : (Sum.inr _ : Bytes ⊕ OpenAIError) = .inr _ := congrArg (·.2.2) (Option.some.inj same)
      exact speechFailed_inj (congrArg (OpenAIHTTPException.mk 500) (Sum.inr.inj bodies))
    · intro hidden
      simp only [exceptClauses, hidden raised rfl]
      exact serve_apart fresh₁ fresh₂ inbound _

section Answer

variable {str : Fault → String} {fresh : HexId} {inbound : Headers} {prepared : Prepared} {thrown : Thrown}
  {outcome : RouteOutcome}

theorem answer_of_unprepared (before : prepare host calls payload = .error thrown) :
    answer host calls payload str fresh inbound = thrown.sent str fresh inbound := by
  simp only [answer, synthesizeCore, before, bind, Except.bind]

theorem answer_of_response (before : prepare host calls payload = .ok prepared)
    (inside : tryBlock host calls payload prepared = .ok outcome) :
    answer host calls payload str fresh inbound = (serve fresh inbound outcome).sent := by
  simp only [answer, synthesizeCore, before, bind, Except.bind, inside, Except.mapError]

theorem answer_of_thrown (before : prepare host calls payload = .ok prepared)
    (inside : tryBlock host calls payload prepared = .error thrown) :
    answer host calls payload str fresh inbound = (exceptClauses str thrown).sent str fresh inbound := by
  simp only [answer, synthesizeCore, before, bind, Except.bind, inside, Except.mapError]

end Answer

/-- **Exception texts.** For every request, host and outcome of the calls, and any two
texts of each exception: the client gets the same response apart from the request id if
and only if an exception that the `try` block of `synthesize_core` raises, other than an
`OpenAIHTTPException` or a cancellation, has the same text in both. -/
theorem texts_hidden_iff (host : SynthesisHost) (calls : CoreCalls) (payload : SynthesizeRequest)
    (str₁ str₂ : Fault → String) (fresh₁ fresh₂ : HexId) (inbound : Headers) :
    (answer host calls payload str₁ fresh₁ inbound).map Response.apart =
        (answer host calls payload str₂ fresh₂ inbound).map Response.apart ↔
      ∀ prepared raised, prepare host calls payload = .ok prepared →
        tryBlock host calls payload prepared = .error (.fault raised) → str₁ raised = str₂ raised := by
  cases before : prepare host calls payload with
  | error thrown =>
    rw [answer_of_unprepared before, answer_of_unprepared before]
    refine iff_of_true (sent_apart str₁ str₂ fresh₁ fresh₂ inbound thrown) fun prepared raised here _ => ?_
    cases here
  | ok prepared =>
    cases inside : tryBlock host calls payload prepared with
    | ok outcome =>
      rw [answer_of_response before inside, answer_of_response before inside]
      refine iff_of_true (serve_apart fresh₁ fresh₂ inbound outcome) fun prepared' raised here raises => ?_
      cases here
      rw [inside] at raises
      cases raises
    | error thrown =>
      rw [answer_of_thrown before inside, answer_of_thrown before inside, clauses_apart_iff]
      constructor
      · intro hidden prepared' raised here raises
        cases here
        rw [inside] at raises
        exact hidden raised (Except.error.inj raises)
      · intro hidden raised here
        exact hidden prepared raised rfl (here ▸ inside)

end TwoRuns

/-- A host with one preset. -/
def adaHost : SynthesisHost where
  settings := plainSettings
  maxInputChars := 4096
  providerRegistry := defaultProviderRegistry
  selection := ⟨"mlx_audio", .mps, .auto⟩
  deviceProfile := ⟨.mps, .float16⟩
  presetSnapshot := onePreset {}

/-- The voice is there, and the temporary file cannot be written. -/
def fullDisk : CoreCalls where
  store
    | .metaGet voiceId => .ok ⟨plainRecord voiceId .crud, rfl⟩
    | .blobGet _ => .ok []
    | c => raised c .other
  tempFile _ _ := none
  preprocessForTts text _ := some text
  splitTextSemantic text _ _ := some [text]
  admission := .admitted
  synthesizeChunks _ := oneWav
  disconnected _ := false
  np := silence

/-- The path of the temporary file reaches the client. -/
theorem fullDisk_shows :
    ¬∀ (host : SynthesisHost) (calls : CoreCalls) (payload : SynthesizeRequest) (str₁ str₂ : Fault → String)
      (fresh₁ fresh₂ : HexId) (inbound : Headers),
      (answer host calls payload str₁ fresh₁ inbound).map Response.apart =
        (answer host calls payload str₂ fresh₂ inbound).map Response.apart := by
  intro claim
  have same := claim adaHost fullDisk overriddenVoice
    (fun _ => "[Errno 28] No space left on device: '/tmp/voice-ada-x1.wav'")
    (fun _ => "[Errno 28] No space left on device: '/srv/tmp/voice-ada-x2.wav'") someHexId someHexId []
  have before : prepare adaHost fullDisk overriddenVoice = .ok _ := rfl
  have inside : ∀ prepared, tryBlock adaHost fullDisk overriddenVoice prepared = .error (.fault .tempFile) :=
    fun _ => rfl
  rw [answer_of_thrown before (inside _), answer_of_thrown before (inside _), clauses_apart_iff] at same
  exact absurd (same .tempFile rfl) (by decide)

end LlmTts
