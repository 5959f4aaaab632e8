import LlmTts.Synthesis.Audio

/-!
# Buffered and streamed synthesis

The two loops over the text chunks of a request: `_run_synthesis` with the end of
`synthesize_core`, and `_stream_synthesis_chunks`. Both call the provider once
for every chunk, and take its list of payloads apart in different ways:
`stream_agrees_iff` says when the results are the same.
-/

namespace LlmTts
open Python Checked

/-- `VoiceConfig`. -/
structure VoiceConfig where
  refAudioPath : String
  refText : String
  language : String
  numberLang : String
  temperature : PyFloat
  topP : PyFloat
  targetDb : PyFloat
  maxSentencesPerChunk : PyInt

/-- `GenerationOptions`. -/
structure GenerationOptions where
  language : String
  temperature : PyFloat
  topP : PyFloat

/-- `SynthesisRequest`. -/
structure SynthesisRequest where
  modelName : String
  chunks : List String
  voice : VoiceConfig
  voiceName : String
  responseFormat : String
  generation : Option GenerationOptions

/-- What the two loops are given besides the chunks. -/
structure SynthesisInput where
  modelName : String
  voice : VoiceConfig
  voiceName : String
  responseFormat : String

/-- `_build_synthesis_request`. -/
def buildSynthesisRequest (input : SynthesisInput) (chunkText : String) : SynthesisRequest where
  modelName := input.modelName
  chunks := [chunkText]
  voice := input.voice
  voiceName := input.voiceName
  responseFormat := input.responseFormat
  generation := some ⟨input.voice.language, input.voice.temperature, input.voice.topP⟩

/-- `synthesize_chunks` of a deterministic provider. -/
abbrev Provider : Type := SynthesisRequest → Except Raised (List Bytes)

/-- `totals` of a stream. -/
structure Totals where
  chunks : Nat
  durationMs : Int
  deriving DecidableEq, Repr

/-- The body of a buffered response, and its `X-Chunks` and `X-Total-Duration-Ms`. -/
structure Buffered where
  body : Bytes
  chunks : Nat
  durationMs : Int
  deriving DecidableEq, Repr

section Loops

variable (np : Rescale) (synthesizeChunks : Provider) (disconnected : Nat → Bool) (input : SynthesisInput)

/-- The loop of `_run_synthesis` from chunk `index` on. `disconnected` gives the
answers of `request.is_disconnected()`. -/
def runSynthesis (index : Nat) (outputs : List Bytes) : List String → Except Raised (List Bytes)
  | [] => .ok outputs
  | chunkText :: chunks =>
    if disconnected index then .error .cancelled
    else do
      let chunkResults ← synthesizeChunks (buildSynthesisRequest input chunkText)
      runSynthesis (index + 1) (outputs ++ chunkResults) chunks

/-- `synthesize_core` from the call of `_run_synthesis` to the response. -/
def synthesizeBuffered (chunks : List String) : Except Raised Buffered := do
  let chunkWavs ← runSynthesis synthesizeChunks disconnected input 0 [] chunks
  let normalizedChunks ← chunkWavs.mapM fun chunkWav => normalizeWavRms np chunkWav input.voice.targetDb
  let merged ← concatWavBytes normalizedChunks
  let durationMs ← wavDurationMs merged
  return ⟨merged, chunkWavs.length, durationMs⟩

/-- `normalize_wav_rms(result[0])` of one chunk. -/
def firstWav (chunkText : String) : Except Raised Bytes := do
  match ← synthesizeChunks (buildSynthesisRequest input chunkText) with
  | [] => .error .index
  | wav :: _ => normalizeWavRms np wav input.voice.targetDb

/-- The loop of `_stream_synthesis_chunks`: the payloads it yields, its totals, and
how it ends. -/
def streamSynthesisChunks (totals : Totals) : List String → List Bytes × Totals × Except Raised Unit
  | [] => ([], totals, .ok ())
  | chunkText :: chunks =>
    match firstWav np synthesizeChunks input chunkText with
    | .error raised => ([], totals, .error raised)
    | .ok chunkWav =>
      match wavDurationMs chunkWav with
      | .error raised => ([], { totals with chunks := totals.chunks + 1 }, .error raised)
      | .ok ms =>
        let (yielded, totals, outcome) := streamSynthesisChunks ⟨totals.chunks + 1, totals.durationMs + ms⟩ chunks
        (chunkWav :: yielded, totals, outcome)

end Loops

variable {np : Rescale} {synthesizeChunks : Provider} {disconnected : Nat → Bool} {input : SynthesisInput}

/-! ## The buffered loop -/

/-- A loop that succeeds got a list of payloads for every chunk, and returns them all. -/
theorem runSynthesis_ok {chunks : List String} {index : Nat} {outputs wavs : List Bytes}
    (done : runSynthesis synthesizeChunks disconnected input index outputs chunks = .ok wavs) :
    ∃ results : List (List Bytes),
      List.Forall₂ (fun chunkText result =>
        synthesizeChunks (buildSynthesisRequest input chunkText) = .ok result) chunks results ∧
      wavs = outputs ++ results.flatten := by
  induction chunks generalizing index outputs with
  | nil =>
    cases done
    exact ⟨[], .nil, by simp⟩
  | cons chunkText chunks ih =>
    rw [runSynthesis] at done
    split at done
    · cases done
    · obtain ⟨result, called, rest⟩ := bind_ok_iff.1 done
      obtain ⟨results, others, rfl⟩ := ih rest
      exact ⟨result :: results, .cons called others, by simp⟩

/-! ## The requests of a loop -/

section Requests

variable (np synthesizeChunks disconnected input)

/-- The requests that `_run_synthesis` makes of the provider, in order. -/
def runRequests (index : Nat) : List String → List SynthesisRequest
  | [] => []
  | chunkText :: chunks =>
    if disconnected index then []
    else
      buildSynthesisRequest input chunkText ::
        match synthesizeChunks (buildSynthesisRequest input chunkText) with
        | .error _ => []
        | .ok _ => runRequests (index + 1) chunks

/-- The requests that `_stream_synthesis_chunks` makes of the provider, if it is read to its end. -/
def streamRequests : List String → List SynthesisRequest
  | [] => []
  | chunkText :: chunks =>
    buildSynthesisRequest input chunkText ::
      match firstWav np synthesizeChunks input chunkText with
      | .error _ => []
      | .ok chunkWav =>
        match wavDurationMs chunkWav with
        | .error _ => []
        | .ok _ => streamRequests chunks

variable {np synthesizeChunks disconnected input} {index : Nat} {chunks : List String}

theorem exists_of_mem_runRequests {request : SynthesisRequest}
    (member : request ∈ runRequests synthesizeChunks disconnected input index chunks) :
    ∃ chunkText, request = buildSynthesisRequest input chunkText := by
  induction chunks generalizing index with
  | nil => cases member
  | cons chunkText chunks ih =>
    unfold runRequests at member
    split at member
    · cases member
    · rcases List.mem_cons.1 member with rfl | later
      · exact ⟨chunkText, rfl⟩
      · split at later
        · cases later
        · exact ih later

theorem exists_of_mem_streamRequests {request : SynthesisRequest}
    (member : request ∈ streamRequests np synthesizeChunks input chunks) :
    ∃ chunkText, request = buildSynthesisRequest input chunkText := by
  induction chunks with
  | nil => cases member
  | cons chunkText chunks ih =>
    unfold streamRequests at member
    rcases List.mem_cons.1 member with rfl | later
    · exact ⟨chunkText, rfl⟩
    · split at later
      · cases later
      · split at later
        · cases later
        · exact ih later

theorem runRequests_eq_nil_iff :
    runRequests synthesizeChunks disconnected input index chunks = [] ↔ chunks = [] ∨ disconnected index = true := by
  cases chunks with
  | nil => simp [runRequests]
  | cons chunkText chunks => simp [runRequests]

theorem streamRequests_eq_nil_iff : streamRequests np synthesizeChunks input chunks = [] ↔ chunks = [] := by
  cases chunks with
  | nil => simp [streamRequests]
  | cons chunkText chunks => simp [streamRequests]

end Requests

/-! ## Two providers -/

section TwoProviders

variable {one other : Provider} {index : Nat} {chunks : List String}

theorem firstWav_congr {chunkText : String}
    (same : one (buildSynthesisRequest input chunkText) = other (buildSynthesisRequest input chunkText)) :
    firstWav np one input chunkText = firstWav np other input chunkText := by
  unfold firstWav
  rw [same]

/-- The loop depends on the answers to its requests alone. -/
theorem runSynthesis_congr {outputs : List Bytes}
    (same : ∀ request ∈ runRequests one disconnected input index chunks, one request = other request) :
    runSynthesis one disconnected input index outputs chunks =
      runSynthesis other disconnected input index outputs chunks := by
  induction chunks generalizing index outputs with
  | nil => rfl
  | cons chunkText chunks ih =>
    unfold runRequests at same
    unfold runSynthesis
    split at same
    · rename_i gone
      rw [if_pos gone, if_pos gone]
    · rename_i connected
      obtain ⟨here, later⟩ := List.forall_mem_cons.1 same
      rw [if_neg connected, if_neg connected, ← here]
      cases called : one (buildSynthesisRequest input chunkText) with
      | error raised => rfl
      | ok chunkResults =>
        rw [called] at later
        exact ih later

/-- So does the end of `synthesize_core`. -/
theorem synthesizeBuffered_congr
    (same : ∀ request ∈ runRequests one disconnected input 0 chunks, one request = other request) :
    synthesizeBuffered np one disconnected input chunks = synthesizeBuffered np other disconnected input chunks := by
  unfold synthesizeBuffered
  rw [runSynthesis_congr same]

/-- And so does a stream. -/
theorem streamSynthesisChunks_congr {totals : Totals}
    (same : ∀ request ∈ streamRequests np one input chunks, one request = other request) :
    streamSynthesisChunks np one input totals chunks = streamSynthesisChunks np other input totals chunks := by
  induction chunks generalizing totals with
  | nil => rfl
  | cons chunkText chunks ih =>
    unfold streamRequests at same
    obtain ⟨here, later⟩ := List.forall_mem_cons.1 same
    unfold streamSynthesisChunks
    rw [← firstWav_congr here]
    cases first : firstWav np one input chunkText with
    | error raised => rfl
    | ok chunkWav =>
      rw [first] at later
      dsimp only at later ⊢
      cases duration : wavDurationMs chunkWav with
      | error raised => rfl
      | ok ms =>
        rw [duration] at later
        simp only [ih later]

section Asks

variable {request : SynthesisRequest} {raised : Raised} (fails : other request = .error raised)
  (same : ∀ request', request' ≠ request → other request' = one request')

include fails same

/-- Each of the requests is made: a provider that fails for it ends the loop. -/
theorem runSynthesis_asks {outputs : List Bytes} (member : request ∈ runRequests one disconnected input index chunks) :
    runSynthesis other disconnected input index outputs chunks = .error raised := by
  induction chunks generalizing index outputs with
  | nil => cases member
  | cons chunkText chunks ih =>
    unfold runRequests at member
    unfold runSynthesis
    split at member
    · cases member
    · rename_i connected
      rw [if_neg connected]
      by_cases here : buildSynthesisRequest input chunkText = request
      · rw [here, fails]
        rfl
      · have later := (List.mem_cons.1 member).resolve_left (Ne.symm here)
        rw [same _ here]
        split at later
        · cases later
        · rename_i chunkResults called
          rw [called]
          exact ih later

/-- It ends a stream in the same way. -/
theorem streamSynthesisChunks_asks {totals : Totals} (member : request ∈ streamRequests np one input chunks) :
    (streamSynthesisChunks np other input totals chunks).2.2 = .error raised := by
  induction chunks generalizing totals with
  | nil => cases member
  | cons chunkText chunks ih =>
    unfold streamRequests at member
    unfold streamSynthesisChunks
    by_cases here : buildSynthesisRequest input chunkText = request
    · have failed : firstWav np other input chunkText = .error raised := by
        unfold firstWav
        rw [here, fails]
        rfl
      rw [failed]
    · have later := (List.mem_cons.1 member).resolve_left (Ne.symm here)
      rw [firstWav_congr (same _ here)]
      cases first : firstWav np one input chunkText with
      | error raised' =>
        rw [first] at later
        cases later
      | ok chunkWav =>
        rw [first] at later
        dsimp only at later ⊢
        cases duration : wavDurationMs chunkWav with
        | error raised' =>
          rw [duration] at later
          cases later
        | ok ms =>
          rw [duration] at later
          exact ih later

end Asks

end TwoProviders

/-! ## The streamed loop -/

/-- What a stream yields for one chunk, when it goes on. -/
def Plays (np : Rescale) (synthesizeChunks : Provider) (input : SynthesisInput) (chunkText : String)
    (wav : Bytes) : Prop :=
  firstWav np synthesizeChunks input chunkText = .ok wav ∧ ∃ ms, wavDurationMs wav = .ok ms

/-- A stream that completes has played every chunk, and has counted them. -/
theorem plays_of_completed {chunks : List String} {totals totals' : Totals} {yielded : List Bytes}
    (completed : streamSynthesisChunks np synthesizeChunks input totals chunks = (yielded, totals', .ok ())) :
    List.Forall₂ (Plays np synthesizeChunks input) chunks yielded ∧
      totals'.chunks = totals.chunks + chunks.length := by
  induction chunks generalizing totals yielded with
  | nil =>
    cases completed
    exact ⟨.nil, rfl⟩
  | cons chunkText chunks ih =>
    rw [streamSynthesisChunks] at completed
    split at completed
    · cases completed
    · rename_i wav first
      split at completed
      · cases completed
      · rename_i ms duration
        generalize rest : streamSynthesisChunks np synthesizeChunks input
          ⟨totals.chunks + 1, totals.durationMs + ms⟩ chunks = result at completed
        obtain ⟨others, last, outcome⟩ := result
        cases completed
        obtain ⟨played, count⟩ := ih rest
        refine ⟨.cons ⟨first, ms, duration⟩ played, ?_⟩
        rw [count, List.length_cons]
        dsimp only
        omega

/-- A stream that can play every chunk completes. -/
theorem completed_of_plays {chunks : List String} {yielded : List Bytes} (totals : Totals)
    (plays : List.Forall₂ (Plays np synthesizeChunks input) chunks yielded) :
    ∃ totals', streamSynthesisChunks np synthesizeChunks input totals chunks = (yielded, totals', .ok ()) := by
  induction plays generalizing totals with
  | nil => exact ⟨totals, rfl⟩
  | @cons chunkText wav chunks yielded play _ ih =>
    obtain ⟨first, ms, duration⟩ := play
    obtain ⟨totals', completed⟩ := ih ⟨totals.chunks + 1, totals.durationMs + ms⟩
    exact ⟨totals', by simp only [streamSynthesisChunks, first, duration, completed]⟩

/-- A stream that plays the same payload for every chunk. -/
theorem completed_of_same {wav : Bytes} (plays : ∀ chunkText, Plays np synthesizeChunks input chunkText wav)
    (totals : Totals) (chunks : List String) : ∃ totals',
      streamSynthesisChunks np synthesizeChunks input totals chunks =
        (List.replicate chunks.length wav, totals', .ok ()) := by
  apply completed_of_plays
  induction chunks with
  | nil => exact .nil
  | cons chunkText chunks ih => exact .cons (plays chunkText) ih

theorem firstWav_ok {chunkText : String} {wav : Bytes}
    (first : firstWav np synthesizeChunks input chunkText = .ok wav) :
    ∃ payload rest, synthesizeChunks (buildSynthesisRequest input chunkText) = .ok (payload :: rest) ∧
      normalizeWavRms np payload input.voice.targetDb = .ok wav := by
  obtain ⟨result, called, chosen⟩ := bind_ok_iff.1 first
  cases result with
  | nil => cases chosen
  | cons payload rest => exact ⟨payload, rest, called, chosen⟩

theorem firstWav_of_ok {chunkText : String} {payload wav : Bytes} {rest : List Bytes}
    (called : synthesizeChunks (buildSynthesisRequest input chunkText) = .ok (payload :: rest))
    (normalized : normalizeWavRms np payload input.voice.targetDb = .ok wav) :
    firstWav np synthesizeChunks input chunkText = .ok wav := by
  unfold firstWav
  rw [called]
  exact normalized

/-! ## Agreement -/

/-- The stream completes, the frames of what it yields are those of the buffered
body, and it counts as many chunks. -/
def StreamAgrees (np : Rescale) (synthesizeChunks : Provider) (input : SynthesisInput)
    (chunks : List String) (buffered : Buffered) : Prop :=
  ∃ yielded totals, streamSynthesisChunks np synthesizeChunks input ⟨0, 0⟩ chunks = (yielded, totals, .ok ()) ∧
    (∃ frames, List.Forall₂ (fun wav fr => framesOf wav = some fr) yielded frames ∧
      framesOf buffered.body = some frames.flatten) ∧
    totals.chunks = buffered.chunks

/-- The provider returns WAV files only. -/
def ReturnsWavs (synthesizeChunks : Provider) (input : SynthesisInput) (chunks : List String) : Prop :=
  ∀ chunkText ∈ chunks, ∀ result, synthesizeChunks (buildSynthesisRequest input chunkText) = .ok result →
    ∀ wav ∈ result, IsWav wav

/-- Non-empty lists have as many elements as there are lists only if each has one. -/
theorem singletons {results : List (List Bytes)} (nonempty : ∀ result ∈ results, result ≠ [])
    (count : results.flatten.length ≤ results.length) : ∀ result ∈ results, ∃ wav, result = [wav] := by
  have least : ∀ {results : List (List Bytes)}, (∀ result ∈ results, result ≠ []) →
      results.length ≤ results.flatten.length := by
    intro results nonempty
    induction results with
    | nil => exact Nat.le_refl _
    | cons result results ih =>
      have here := List.length_pos_iff.2 (nonempty result List.mem_cons_self)
      have rest := ih fun other member => nonempty other (List.mem_cons_of_mem result member)
      rw [List.flatten_cons, List.length_append, List.length_cons]
      omega
  induction results with
  | nil => exact fun result member => nomatch member
  | cons result results ih =>
    have others : ∀ other ∈ results, other ≠ [] := fun other member =>
      nonempty other (List.mem_cons_of_mem result member)
    have here := List.length_pos_iff.2 (nonempty result List.mem_cons_self)
    have rest := least others
    rw [List.flatten_cons, List.length_append, List.length_cons] at count
    intro other member
    rcases List.mem_cons.1 member with rfl | member
    · exact List.length_eq_one_iff.1 (by omega)
    · exact ih others (by omega) other member

/-- When every call returns one WAV file, the stream plays what the buffered
request normalises. -/
theorem plays_of_singles {chunks : List String} {results : List (List Bytes)} {normalized : List Bytes}
    (wavs : ReturnsWavs synthesizeChunks input chunks)
    (single : ∀ chunkText ∈ chunks, ∃ wav, synthesizeChunks (buildSynthesisRequest input chunkText) = .ok [wav])
    (called : List.Forall₂ (fun chunkText result =>
      synthesizeChunks (buildSynthesisRequest input chunkText) = .ok result) chunks results)
    (scaled : List.Forall₂ (fun wav out => normalizeWavRms np wav input.voice.targetDb = .ok out)
      results.flatten normalized) :
    List.Forall₂ (Plays np synthesizeChunks input) chunks normalized ∧ ∀ out ∈ normalized, IsWav out := by
  induction called generalizing normalized with
  | nil =>
    cases scaled
    exact ⟨.nil, fun out member => nomatch member⟩
  | @cons chunkText result chunks results call _ ih =>
    obtain ⟨wav, one⟩ := single chunkText List.mem_cons_self
    cases call.symm.trans one
    obtain ⟨out, rest, first, others, rfl⟩ := List.forall₂_cons_left_iff.1 scaled
    have valid := isWav_normalize (wavs chunkText List.mem_cons_self [wav] one wav List.mem_cons_self) first
    obtain ⟨plays, valids⟩ := ih
      (fun other member => wavs other (List.mem_cons_of_mem chunkText member))
      (fun other member => single other (List.mem_cons_of_mem chunkText member)) others
    refine ⟨.cons ⟨?_, wavDurationMs_isWav valid⟩ plays, fun other member => ?_⟩
    · exact bind_ok_iff.2 ⟨[wav], one, first⟩
    · rcases List.mem_cons.1 member with rfl | member
      · exact valid
      · exact valids other member

/-- **Streamed and buffered synthesis.** When the buffered request succeeds, the
streamed one agrees with it if and only if every call of the provider returned
exactly one WAV file. -/
theorem stream_agrees_iff {chunks : List String} {buffered : Buffered}
    (wavs : ReturnsWavs synthesizeChunks input chunks)
    (succeeded : synthesizeBuffered np synthesizeChunks disconnected input chunks = .ok buffered) :
    StreamAgrees np synthesizeChunks input chunks buffered ↔
      ∀ chunkText ∈ chunks, ∃ wav, synthesizeChunks (buildSynthesisRequest input chunkText) = .ok [wav] := by
  obtain ⟨outputs, looped, afterLoop⟩ := bind_ok_iff.1 succeeded
  obtain ⟨normalized, scaled, afterScale⟩ := bind_ok_iff.1 afterLoop
  obtain ⟨merged, concat, afterConcat⟩ := bind_ok_iff.1 afterScale
  obtain ⟨durationMs, duration, done⟩ := bind_ok_iff.1 afterConcat
  cases done
  obtain ⟨results, called, rfl⟩ := runSynthesis_ok looped
  simp only [List.nil_append] at scaled
  constructor
  · rintro ⟨yielded, totals, completed, -, count⟩
    obtain ⟨plays, counted⟩ := plays_of_completed completed
    have nonempty : ∀ result ∈ results, result ≠ [] := by
      intro result member
      obtain ⟨chunkText, there, call⟩ := exists_of_mem_right called member
      obtain ⟨wav, -, first, -⟩ := exists_of_mem_left plays there
      obtain ⟨payload, rest, again, -⟩ := firstWav_ok first
      cases call.symm.trans again
      exact nofun
    have lengths := called.length_eq
    have total : results.flatten.length = chunks.length := by simpa [counted, eq_comm] using count
    intro chunkText there
    obtain ⟨result, member, call⟩ := exists_of_mem_left called there
    obtain ⟨wav, rfl⟩ := singletons nonempty (by omega) result member
    exact ⟨wav, call⟩
  · intro single
    obtain ⟨plays, valid⟩ := plays_of_singles wavs single called (mapM_ok_iff.1 scaled)
    obtain ⟨totals, completed⟩ := completed_of_plays ⟨0, 0⟩ plays
    have counted : totals.chunks = chunks.length := by simpa using (plays_of_completed completed).2
    refine ⟨normalized, totals, completed, framesOf_concat valid concat, ?_⟩
    have played := plays.length_eq
    have outputs := (mapM_ok_iff.1 scaled).length_eq
    simp only [List.nil_append]
    omega

/-- A mono file of 8-bit samples, which are not scaled. -/
def tone (samples : Bytes) : Bytes :=
  Wave.header ⟨1, 1, 8000, "NONE", "not compressed"⟩ samples.length ++ samples

def adaInput : SynthesisInput where
  modelName := "a"
  voice := ⟨"ada.wav", "", "English", "", .finite (4 / 5), .finite (19 / 20), .finite (-20), .int 2⟩
  voiceName := "ada"
  responseFormat := "wav"

theorem isWav_tone {samples : Bytes} (short : samples.length < 2 ^ 16) : IsWav (tone samples) := by
  have packs : (Wave.Params.mk 1 1 8000 "NONE" "not compressed").Packs samples.length :=
    ⟨by decide, by decide, by decide, by decide, by omega⟩
  have written : Wave.write ⟨1, 1, 8000, "NONE", "not compressed"⟩ [samples] = .ok (tone samples) := by
    simp [Wave.write, packs, tone]
  exact isWav_write written

/-- One file for each chunk. -/
def oneWav : Provider := fun request =>
  .ok [tone (if request.chunks = ["one"] then [0x81, 0x7F] else [0x82])]

theorem oneWav_agrees :
    StreamAgrees silence oneWav adaInput ["one", "two"] ⟨tone [0x81, 0x7F, 0x82], 2, 0⟩ := by
  have wavs : ReturnsWavs oneWav adaInput ["one", "two"] := by
    rintro chunkText - result call wav member
    cases call
    rw [List.mem_singleton.1 member]
    exact isWav_tone (by split <;> decide)
  have succeeded : synthesizeBuffered silence oneWav (fun _ => false) adaInput ["one", "two"] =
      .ok ⟨tone [0x81, 0x7F, 0x82], 2, 0⟩ := by
    decide +kernel
  exact (stream_agrees_iff wavs succeeded).2 fun chunkText _ => ⟨_, rfl⟩

/-- Two files for a chunk, as a provider returns that gets two results from its model. -/
def twoWavs : Provider := fun _ => .ok [tone [0x81], tone [0x82]]

/-- The second file of the chunk is in the buffered body and not in the stream. -/
theorem stream_drops_wav :
    ¬∀ (np : Rescale) (synthesizeChunks : Provider) (disconnected : Nat → Bool) (input : SynthesisInput)
      (chunks : List String) (buffered : Buffered), ReturnsWavs synthesizeChunks input chunks →
      synthesizeBuffered np synthesizeChunks disconnected input chunks = .ok buffered →
      StreamAgrees np synthesizeChunks input chunks buffered := by
  intro claim
  have wavs : ReturnsWavs twoWavs adaInput ["one"] := by
    rintro chunkText - result call wav member
    cases call
    rcases List.mem_cons.1 member with rfl | member
    · exact isWav_tone (by decide)
    · rw [List.mem_singleton.1 member]
      exact isWav_tone (by decide)
  have succeeded : synthesizeBuffered silence twoWavs (fun _ => false) adaInput ["one"] =
      .ok ⟨tone [0x81, 0x82], 2, 0⟩ := by
    decide +kernel
  obtain ⟨yielded, totals, completed, -, count⟩ := claim silence twoWavs _ adaInput ["one"] _ wavs succeeded
  have counted := (plays_of_completed completed).2
  rw [count] at counted
  cases counted

end LlmTts
