import LlmTts.Synthesis.Core
import LlmTts.Synthesis.Trailers

/-!
# The OpenAI adapter

`POST /v1/audio/speech` translates its request into one of the rich endpoint and strips the
response. `speech_parity` compares the messages of the two endpoints: whatever becomes of the
generator and of the connection, those of the adapter are those of the rich endpoint without
its headers and trailers.
-/

namespace LlmTts
open Python Checked

/-! ## Requests -/

/-- `SpeechRequest`. -/
structure SpeechRequest where
  model : String
  input : String
  voice : String
  provider : Option String := none
  responseFormat : String := "wav"
  instructions : Option String := none
  speed : Option PyFloat := none
  streamFormat : Option String := none
  normalizeDb : Option PyFloat := none

/-- `_translate_openai_request`. -/
def translateOpenaiRequest (req : SpeechRequest) (stream : Bool) : Except OpenAIHTTPException SynthesizeRequest :=
  if req.responseFormat ≠ "" ∧ req.responseFormat.toLower ≠ "wav" then
    .error (invalidRequest [.text "Only 'wav' response_format is currently supported"] (some "response_format"))
  else
    .ok {
      input := req.input
      voice := some req.voice
      provider := req.provider
      model := some req.model
      stream := stream
      normalizeDb := req.normalizeDb }

/-- `_client_advertises_trailers`, on the text of the `TE` header. -/
def clientAdvertisesTrailers (teHeader : String) : Bool :=
  teHeader ≠ "" && (teHeader.splitOn ",").any fun t =>
    (String.ofList ((strip t).toList.takeWhile (· ≠ ';'))).toLower = "trailers"

/-! ## Responses -/

/-- The response of a synthesis: a `Response`, or a `StreamingResponse` with or without the
trailers. -/
inductive SynthesisResponse where
  | buffered (headers : Headers) (content : Bytes)
  | streaming (headers : Headers) (generator : Generator)
  | trailerStreaming (headers : Headers) (generator : Generator) (teTrailers : Bool)

/-- `Response.init_headers` for WAV audio. A stream has no length. -/
def initHeaders (headers : List (String × String)) (content : Option Bytes) : Headers :=
  rawHeaders headers ++
    (match content with
      | some bytes => [(latin1Bytes "content-length", latin1Bytes (intStr bytes.length))]
      | none => []) ++
    [(latin1Bytes "content-type", latin1Bytes "audio/wav")]

/-- The messages that a response may come to. The server has the extension for trailers or not,
and `StreamingResponse` listens for the client to leave or not. -/
inductive SynthesisResponse.Sends (listens extension : Bool) : SynthesisResponse → List Sent → Prop
  | buffered {headers : Headers} {content : Bytes} {messages : List Sent}
      (begun : messages <+: [.start 200 headers false, .body content false]) :
    Sends listens extension (.buffered headers content) messages
  | streaming {headers : Headers} {generator : Generator} {messages : List Sent} {taken : Nat} {returned : Bool}
      (streamed : Streamed listens headers generator messages taken returned) :
    Sends listens extension (.streaming headers generator) messages
  | trailerStreaming {headers : Headers} {generator : Generator} {teTrailers : Bool} {messages : List Sent}
      (streamed : TrailerStreamed listens (teTrailers && extension) headers generator messages) :
    Sends listens extension (.trailerStreaming headers generator teTrailers) messages

section Endpoints

variable (host : SynthesisHost) (calls : CoreCalls) (requestId teHeader : String) (str : Fault → String)

/-- The headers of a response, which have to be Latin-1. -/
def encodedHeaders (prepared : Prepared) (totals : Option (Int × Int)) (content : Option Bytes) : Except Thrown Headers :=
  if (plainHeaders host prepared totals).all fun header => header.2.toList.all fun c => decide (c.toNat ≤ 0xFF) then
    .ok (initHeaders (("X-Request-ID", requestId) :: plainHeaders host prepared totals) content)
  else .error (.fault .headers)

/-- The `try` of `synthesize_core`, up to its response object. -/
def tryResponse (payload : SynthesizeRequest) (prepared : Prepared) : Except Thrown SynthesisResponse := do
  let some tmpPath := calls.tempFile prepared.voiceId prepared.blobBytes | .error (.fault .tempFile)
  let voice := buildVoiceConfig prepared.record tmpPath prepared.effective
  let language := if voice.numberLang = "" then voice.language else voice.numberLang
  let some normalized := calls.preprocessForTts payload.input language | .error (.fault .text)
  let some chunks := calls.splitTextSemantic normalized host.maxInputChars voice.maxSentencesPerChunk.toInt
    | .error (.fault .text)
  if chunks = [] then
    .error (.openai (invalidRequest [.text "input is required"] (some "input")))
  else
    match calls.admission with
    | .full => .error (.openai queueFull)
    | .cancelled => .error .cancelled
    | .admitted =>
      let input : SynthesisInput := ⟨prepared.modelName, voice, prepared.voiceId, "wav"⟩
      let provider := calls.synthesizeChunks prepared.strategy
      if payload.stream then do
        let headers ← encodedHeaders host requestId prepared none none
        return .trailerStreaming headers ⟨calls.np, provider, input, chunks⟩ (clientAdvertisesTrailers teHeader)
      else do
        let buffered ← (synthesizeBuffered calls.np provider calls.disconnected input chunks).mapError .ofRaised
        let headers ← encodedHeaders host requestId prepared (some (buffered.chunks, buffered.durationMs)) buffered.body
        return .buffered headers buffered.body

/-- The rich endpoint, `synthesize`. -/
def synthesize (payload : SynthesizeRequest) : Except Thrown SynthesisResponse := do
  let prepared ← prepare host calls payload
  (tryResponse host calls requestId teHeader payload prepared).mapError (exceptClauses str)

/-- `_RICH_ONLY_HEADERS`. -/
def richOnlyHeaders : List String :=
  ["x-provider", "x-model", "x-device", "x-dtype", "x-voice-source", "x-voice-id", "x-chunks", "x-total-duration-ms",
    "x-preset-effective", "x-preset-ignored-knobs"]

/-- The headers whose names are not among them. -/
def stripHeaders (headers : Headers) : Headers := headers.filter fun header => (latin1 header.1).toLower ∉ richOnlyHeaders

/-- `_openai_response`. -/
def openaiResponse : SynthesisResponse → SynthesisResponse
  | .streaming _ generator | .trailerStreaming _ generator _ =>
    .streaming (initHeaders [("X-Request-ID", requestId)] none) generator
  | .buffered headers content => .buffered (stripHeaders headers) content

/-- `create_speech`. -/
def createSpeech (req : SpeechRequest) (stream : Bool) : Except Thrown SynthesisResponse := do
  let payload ← (translateOpenaiRequest req stream).mapError .openai
  let inner ← synthesize host calls requestId teHeader str payload
  return openaiResponse requestId inner

end Endpoints

/-! ## Headers -/

section Strip

variable {host : SynthesisHost} {prepared : Prepared} {totals : Option (Int × Int)} {requestId : String}

theorem plainHeaders_names :
    ∀ name ∈ (plainHeaders host prepared totals).map Prod.fst,
      name ∈ ["X-Provider", "X-Model", "X-Device", "X-Dtype", "X-Voice-Source", "X-Voice-Id", "X-Chunks",
        "X-Total-Duration-Ms", "X-Preset-Effective", "X-Preset-Ignored-Knobs"] := by
  unfold plainHeaders diagnosticHeaders synthesisHeaders presetHeaders
  cases totals <;> split <;> simp

theorem stripHeaders_append (front back : Headers) :
    stripHeaders (front ++ back) = stripHeaders front ++ stripHeaders back := List.filter_append ..

/-- Every header that a synthesis adds is stripped. -/
theorem stripHeaders_plain : stripHeaders (rawHeaders (plainHeaders host prepared totals)) = [] := by
  have known : ∀ name ∈ ["X-Provider", "X-Model", "X-Device", "X-Dtype", "X-Voice-Source", "X-Voice-Id", "X-Chunks",
      "X-Total-Duration-Ms", "X-Preset-Effective", "X-Preset-Ignored-Knobs"],
      (latin1 (lowerBytes (latin1Bytes name))).toLower ∈ richOnlyHeaders := by decide +kernel
  unfold stripHeaders rawHeaders
  rw [List.filter_eq_nil_iff]
  intro raw member
  obtain ⟨header, there, rfl⟩ := List.mem_map.1 member
  have stripped := known _ (plainHeaders_names _ (List.mem_map_of_mem there))
  simpa using stripped

/-- The others stay. -/
theorem stripHeaders_init (content : Option Bytes) :
    stripHeaders (initHeaders (("X-Request-ID", requestId) :: plainHeaders host prepared totals) content) =
      initHeaders [("X-Request-ID", requestId)] content := by
  have id : (latin1 (lowerBytes (latin1Bytes "X-Request-ID"))).toLower ∉ richOnlyHeaders := by decide +kernel
  have length : (latin1 (latin1Bytes "content-length")).toLower ∉ richOnlyHeaders := by decide +kernel
  have type : (latin1 (latin1Bytes "content-type")).toLower ∉ richOnlyHeaders := by decide +kernel
  have plain : stripHeaders (rawHeaders (("X-Request-ID", requestId) :: plainHeaders host prepared totals)) =
      rawHeaders [("X-Request-ID", requestId)] := by
    have cons : rawHeaders (("X-Request-ID", requestId) :: plainHeaders host prepared totals) =
        rawHeaders [("X-Request-ID", requestId)] ++ rawHeaders (plainHeaders host prepared totals) := rfl
    rw [cons, stripHeaders_append, stripHeaders_plain, List.append_nil]
    simp [stripHeaders, rawHeaders, id]
  unfold initHeaders
  rw [stripHeaders_append, stripHeaders_append, plain]
  cases content with
  | none => simp [stripHeaders, type]
  | some bytes => simp [stripHeaders, length, type]

end Strip

/-! ## Messages -/

/-- A message of the rich endpoint as the adapter sends it. -/
def stripMessage : Sent → Option Sent
  | .start statusCode headers _ => some (.start statusCode (stripHeaders headers) false)
  | .body bytes moreBody => some (.body bytes moreBody)
  | .trailers _ _ => none

def stripMessages (messages : List Sent) : List Sent := messages.filterMap stripMessage

section Messages

variable {rich : Headers} {g : Generator} {messages : List Sent} {listens supports : Bool} {taken : Nat} {returned : Bool}

/-- The message with other headers. -/
def withHeaders (headers : Headers) : Sent → Sent
  | .start statusCode _ trailers => .start statusCode headers trailers
  | message => message

theorem withHeaders_messages (headers : Headers) : (g.messages rich).map (withHeaders headers) = g.messages headers := by
  unfold Generator.messages bodyMessages
  rw [List.map_append, List.map_cons, List.map_map]
  cases g.ending <;> rfl

theorem sentChunks_withHeaders (headers : Headers) :
    sentChunks (messages.map (withHeaders headers)) = sentChunks messages := by
  unfold sentChunks
  rw [List.filterMap_map]
  refine List.filterMap_congr fun message _ => ?_
  cases message <;> rfl

/-- How far a stream gets does not depend on its headers. -/
theorem Streamed.withHeaders (streamed : Streamed listens rich g messages taken returned) (headers : Headers) :
    Streamed listens headers g (messages.map (withHeaders headers)) taken returned := by
  have moved {messages : List Sent} (begun : messages <+: g.messages rich) :
      messages.map (LlmTts.withHeaders headers) <+: g.messages headers := by
    rw [← withHeaders_messages headers]
    exact begun.map _
  have kept {messages : List Sent} {taken : Nat} (counted : Taken g messages taken) :
      Taken g (messages.map (LlmTts.withHeaders headers)) taken := by
    unfold Taken
    rw [sentChunks_withHeaders]
    exact counted
  cases streamed with
  | ended =>
    rw [withHeaders_messages]
    exact .ended
  | left listening begun counted => exact .left listening (moved begun) (kept counted)
  | broken begun counted => exact .broken (moved begun) (kept counted)

/-- Stripped, the messages of a stream are those with the stripped headers. -/
theorem strip_reached (reached : Reached rich g messages) (supports : Bool) :
    stripMessages (messages.map (sendWithTrailerFlag supports)) = messages.map (withHeaders (stripHeaders rich)) := by
  have bodies (chunks : List Bytes) :
      stripMessages (bodyMessages chunks) = (bodyMessages chunks).map (withHeaders (stripHeaders rich)) := by
    induction chunks with
    | nil => rfl
    | cons chunk chunks ih => exact congrArg (Sent.body chunk true :: ·) ih
  cases reached with
  | nothing => rfl
  | body n =>
    rw [List.map_cons, List.map_cons, flagged_bodyMessages, ← bodies]
    rfl
  | whole ended =>
    rw [List.map_cons, List.map_cons, List.map_append, List.map_append, flagged_bodyMessages, ← bodies]
    show Sent.start 200 (stripHeaders rich) false :: stripMessages (bodyMessages g.yields ++ [.body [] false]) = _
    unfold stripMessages
    rw [List.filterMap_append]
    rfl

theorem withHeaders_reached {headers : Headers} (reached : Reached headers g messages) :
    messages.map (withHeaders headers) = messages := by
  have bodies (chunks : List Bytes) : (bodyMessages chunks).map (withHeaders headers) = bodyMessages chunks := by
    unfold bodyMessages
    rw [List.map_map]
    rfl
  cases reached with
  | nothing => rfl
  | body n =>
    rw [List.map_cons, bodies]
    rfl
  | whole ended =>
    rw [List.map_cons, List.map_append, bodies]
    rfl

/-- The streams of the two endpoints. -/
theorem streams_agree :
    (∃ taken returned, Streamed listens (stripHeaders rich) g messages taken returned) ↔
      ∃ richMessages, TrailerStreamed listens supports rich g richMessages ∧ messages = stripMessages richMessages := by
  constructor
  · rintro ⟨taken, returned, streamed⟩
    have back := streamed.withHeaders rich
    refine ⟨_, .raised back, ?_⟩
    have again : withHeaders (stripHeaders rich) ∘ withHeaders rich = withHeaders (stripHeaders rich) := by
      funext message
      cases message <;> rfl
    rw [strip_reached back.reached, List.map_map, again, withHeaders_reached streamed.reached]
  · rintro ⟨richMessages, sent, rfl⟩
    cases sent with
    | raised streamed =>
      rw [strip_reached streamed.reached]
      exact ⟨_, _, streamed.withHeaders (stripHeaders rich)⟩
    | returned streamed =>
      have dropped : ∀ totals, stripMessages (if supports then [trailerMessage totals] else []) = [] := by
        intro totals
        cases supports <;> rfl
      unfold stripMessages at dropped ⊢
      rw [List.filterMap_append, dropped, List.append_nil]
      show ∃ taken returned, Streamed listens (stripHeaders rich) g (stripMessages _) taken returned
      rw [strip_reached streamed.reached]
      exact ⟨_, _, streamed.withHeaders (stripHeaders rich)⟩

end Messages

/-! ## Parity -/

/-- What the adapter may send for a response of the rich endpoint. -/
structure SpeechResponse (listens extension : Bool) (requestId : String) (rich speech : SynthesisResponse) : Prop where
  parity : ∀ messages, speech.Sends listens extension messages ↔
    ∃ richMessages, rich.Sends listens extension richMessages ∧ messages = stripMessages richMessages
  accepted : ∀ messages, speech.Sends listens extension messages → Accepted messages
  headers : ∀ messages statusCode headers trailers, speech.Sends listens extension messages →
    .start statusCode headers trailers ∈ messages → ∃ content, headers = initHeaders [("X-Request-ID", requestId)] content

/-- `synthesize_core` answers with the headers and the bytes of its response object. -/
inductive Describes (host : SynthesisHost) (prepared : Prepared) (requestId : String) :
    RouteOutcome → SynthesisResponse → Prop
  | buffered {totals : Option (Int × Int)} {content : Bytes} :
    Describes host prepared requestId
      (.responds 200 (rawHeaders (plainHeaders host prepared totals)) (plainHeaders_plain host prepared totals) true content)
      (.buffered (initHeaders (("X-Request-ID", requestId) :: plainHeaders host prepared totals) (some content)) content)
  | streaming {g : Generator} {teTrailers : Bool} :
    Describes host prepared requestId
      (.responds 200 (rawHeaders (plainHeaders host prepared none)) (plainHeaders_plain host prepared none) true
        g.yields.flatten)
      (.trailerStreaming (initHeaders (("X-Request-ID", requestId) :: plainHeaders host prepared none) none) g teTrailers)

section Parity

variable {host : SynthesisHost} {calls : CoreCalls} {requestId teHeader : String} {str : Fault → String}
  {payload : SynthesizeRequest} {prepared : Prepared} {rich : SynthesisResponse}

/-- A response object is built where `respond` builds one. -/
theorem encodedHeaders_cases (totals : Option (Int × Int)) (content : Option Bytes) (body : Bytes) :
    (respond host prepared totals body = .ok (.responds 200 (rawHeaders (plainHeaders host prepared totals))
        (plainHeaders_plain host prepared totals) true body) ∧
      encodedHeaders host requestId prepared totals content =
        .ok (initHeaders (("X-Request-ID", requestId) :: plainHeaders host prepared totals) content)) ∨
    respond host prepared totals body = .error (.fault .headers) ∧
      encodedHeaders host requestId prepared totals content = .error (.fault .headers) := by
  unfold respond encodedHeaders
  split
  · exact .inl ⟨rfl, rfl⟩
  · exact .inr ⟨rfl, rfl⟩

variable (host calls requestId teHeader payload)

/-- The response object is that of `synthesize_core`. -/
theorem tryResponse_describes :
    (∃ thrown, tryBlock host calls payload prepared = .error thrown ∧
      tryResponse host calls requestId teHeader payload prepared = .error thrown) ∨
    ∃ outcome rich, tryBlock host calls payload prepared = .ok outcome ∧
      tryResponse host calls requestId teHeader payload prepared = .ok rich ∧
      Describes host prepared requestId outcome rich := by
  unfold tryBlock tryResponse
  cases calls.tempFile prepared.voiceId prepared.blobBytes with
  | none => exact .inl ⟨_, rfl, rfl⟩
  | some tmpPath =>
    dsimp only
    generalize buildVoiceConfig prepared.record tmpPath prepared.effective = voice
    cases calls.preprocessForTts payload.input (if voice.numberLang = "" then voice.language else voice.numberLang) with
    | none => exact .inl ⟨_, rfl, rfl⟩
    | some normalized =>
      dsimp only
      cases calls.splitTextSemantic normalized host.maxInputChars voice.maxSentencesPerChunk.toInt with
      | none => exact .inl ⟨_, rfl, rfl⟩
      | some chunks =>
        dsimp only
        by_cases empty : chunks = []
        · rw [if_pos empty, if_pos empty]
          exact .inl ⟨_, rfl, rfl⟩
        · rw [if_neg empty, if_neg empty]
          cases calls.admission with
          | full => exact .inl ⟨_, rfl, rfl⟩
          | cancelled => exact .inl ⟨_, rfl, rfl⟩
          | admitted =>
            dsimp only
            cases payload.stream with
            | true =>
              generalize made : (⟨calls.np, calls.synthesizeChunks prepared.strategy,
                ⟨prepared.modelName, voice, prepared.voiceId, "wav"⟩, chunks⟩ : Generator) = g
              have yields : (streamSynthesisChunks calls.np (calls.synthesizeChunks prepared.strategy)
                  ⟨prepared.modelName, voice, prepared.voiceId, "wav"⟩ ⟨0, 0⟩ chunks).1 = g.yields := by
                rw [← made]
                rfl
              rw [yields, if_pos rfl, if_pos rfl]
              rcases encodedHeaders_cases none none g.yields.flatten with ⟨responded, encoded⟩ | ⟨refused, encoded⟩
              · rw [responded, encoded]
                exact .inr ⟨_, _, rfl, rfl, .streaming⟩
              · rw [refused, encoded]
                exact .inl ⟨_, rfl, rfl⟩
            | false =>
              rw [if_neg Bool.false_ne_true, if_neg Bool.false_ne_true]
              cases synthesizeBuffered calls.np (calls.synthesizeChunks prepared.strategy) calls.disconnected
                  ⟨prepared.modelName, voice, prepared.voiceId, "wav"⟩ chunks with
              | error raised => exact .inl ⟨_, rfl, rfl⟩
              | ok buffered =>
                simp only [Except.mapError, bind, Except.bind]
                rcases encodedHeaders_cases (some ((buffered.chunks : Int), buffered.durationMs)) (some buffered.body)
                  buffered.body with ⟨responded, encoded⟩ | ⟨refused, encoded⟩
                · rw [responded, encoded]
                  exact .inr ⟨_, _, rfl, rfl, .buffered⟩
                · rw [refused, encoded]
                  exact .inl ⟨_, rfl, rfl⟩

/-- `synthesize_core` is the rich endpoint up to its response object. -/
theorem synthesize_describes (str : Fault → String) :
    (∃ thrown, synthesizeCore host calls payload str = .error thrown ∧
      synthesize host calls requestId teHeader str payload = .error thrown) ∨
    ∃ outcome rich prepared, synthesizeCore host calls payload str = .ok outcome ∧
      synthesize host calls requestId teHeader str payload = .ok rich ∧ Describes host prepared requestId outcome rich := by
  unfold synthesizeCore synthesize
  cases prepare host calls payload with
  | error thrown => exact .inl ⟨_, rfl, rfl⟩
  | ok prepared =>
    simp only [bind, Except.bind]
    rcases tryResponse_describes host calls requestId teHeader payload with
      ⟨thrown, raised, same⟩ | ⟨outcome, rich, responded, same, describes⟩
    · rw [raised, same]
      exact .inl ⟨_, rfl, rfl⟩
    · rw [responded, same]
      exact .inr ⟨outcome, rich, prepared, rfl, rfl, describes⟩

end Parity

section Stripped

variable {host : SynthesisHost} {prepared : Prepared} {requestId : String} {rich : SynthesisResponse}

/-- How far a buffered response gets. -/
theorem buffered_cases {headers : Headers} {content : Bytes} {messages : List Sent}
    (begun : messages <+: [.start 200 headers false, .body content false]) :
    messages = [] ∨ messages = [.start 200 headers false] ∨
      messages = [.start 200 headers false, .body content false] := by
  simp only [List.prefix_cons_iff, List.prefix_nil] at begun
  rcases begun with rfl | ⟨_, rfl, rfl | ⟨_, rfl, rfl⟩⟩
  · exact .inl rfl
  · exact .inr (.inl rfl)
  · exact .inr (.inr rfl)

/-- A buffered response with its headers stripped. -/
theorem speech_buffered (listens extension : Bool) {headers : Headers} {content : Bytes} {sent : Option Bytes}
    (stripped : stripHeaders headers = initHeaders [("X-Request-ID", requestId)] sent) :
    SpeechResponse listens extension requestId (.buffered headers content)
      (openaiResponse requestId (.buffered headers content)) := by
  constructor
  · intro messages
    constructor
    · rintro ⟨begun⟩
      rcases buffered_cases begun with rfl | rfl | rfl
      · exact ⟨[], .buffered List.nil_prefix, rfl⟩
      · exact ⟨[.start 200 headers false], .buffered ⟨[_], rfl⟩, rfl⟩
      · exact ⟨[.start 200 headers false, .body content false], .buffered (List.prefix_refl _), rfl⟩
    · rintro ⟨richMessages, ⟨begun⟩, rfl⟩
      rcases buffered_cases begun with rfl | rfl | rfl
      · exact .buffered List.nil_prefix
      · exact .buffered ⟨[_], rfl⟩
      · exact .buffered (List.prefix_refl _)
  · rintro messages ⟨begun⟩
    rcases buffered_cases begun with rfl | rfl | rfl <;> rfl
  · rintro messages statusCode own trailers ⟨begun⟩ member
    rcases buffered_cases begun with rfl | rfl | rfl
    · cases member
    · cases List.mem_singleton.1 member
      exact ⟨sent, stripped⟩
    · rcases List.mem_cons.1 member with first | later
      · cases first
        exact ⟨sent, stripped⟩
      · cases List.mem_singleton.1 later

/-- A stream with its headers stripped, and without its trailers. -/
theorem speech_streaming (listens extension : Bool) {headers : Headers} {g : Generator} {teTrailers : Bool}
    (stripped : stripHeaders headers = initHeaders [("X-Request-ID", requestId)] none) :
    SpeechResponse listens extension requestId (.trailerStreaming headers g teTrailers)
      (openaiResponse requestId (.trailerStreaming headers g teTrailers)) := by
  show SpeechResponse listens extension requestId _ (.streaming (initHeaders [("X-Request-ID", requestId)] none) g)
  rw [← stripped]
  constructor
  · intro messages
    constructor
    · intro sends
      cases sends with
      | streaming streamed =>
        obtain ⟨richMessages, sent, same⟩ := streams_agree.1 ⟨_, _, streamed⟩
        exact ⟨richMessages, .trailerStreaming sent, same⟩
    · rintro ⟨richMessages, sends, same⟩
      cases sends with
      | trailerStreaming sent =>
        obtain ⟨taken, returned, streamed⟩ := streams_agree.2 ⟨richMessages, sent, same⟩
        exact .streaming streamed
  · intro messages sends
    cases sends with
    | streaming streamed => exact streamed.reached.accepted
  · intro messages statusCode own trailers sends member
    cases sends with
    | streaming streamed =>
      rw [← withHeaders_reached streamed.reached] at member
      obtain ⟨message, -, same⟩ := List.mem_map.1 member
      cases message <;> cases same
      exact ⟨none, stripped⟩

theorem speech_of_describes {outcome : RouteOutcome} (describes : Describes host prepared requestId outcome rich)
    (listens extension : Bool) : SpeechResponse listens extension requestId rich (openaiResponse requestId rich) := by
  cases describes with
  | buffered => exact speech_buffered listens extension (stripHeaders_init _)
  | streaming => exact speech_streaming listens extension (stripHeaders_init none)

end Stripped

/-- **Parity.** For every request of the adapter, host, outcome of the calls and server: a format
other than WAV is refused, and otherwise the adapter raises what the rich endpoint raises for
the translated request, or may send exactly what that may send, without its headers and
trailers. A server never refuses it, and its headers are the id of the request and those of
the content. -/
theorem speech_parity (host : SynthesisHost) (calls : CoreCalls) (requestId teHeader : String) (str : Fault → String)
    (req : SpeechRequest) (stream listens extension : Bool) :
    match translateOpenaiRequest req stream with
    | .error exc => createSpeech host calls requestId teHeader str req stream = .error (.openai exc)
    | .ok payload =>
      match synthesize host calls requestId teHeader str payload with
      | .error thrown => createSpeech host calls requestId teHeader str req stream = .error thrown
      | .ok rich => ∃ speech, createSpeech host calls requestId teHeader str req stream = .ok speech ∧
          SpeechResponse listens extension requestId rich speech := by
  unfold createSpeech
  cases translateOpenaiRequest req stream with
  | error exc => rfl
  | ok payload =>
    dsimp only
    rcases synthesize_describes host calls requestId teHeader payload str with
      ⟨thrown, -, raised⟩ | ⟨outcome, rich, prepared, -, responded, describes⟩
    · rw [raised]
      simp only [Except.mapError, bind, Except.bind]
      rw [raised]
    · rw [responded]
      simp only [Except.mapError, bind, Except.bind]
      rw [responded]
      exact ⟨_, rfl, speech_of_describes describes listens extension⟩

end LlmTts
