import LlmTts.Lib.Checked
import LlmTts.Voice.Router

/-!
# Seed ingestion

`_validate_entry`, `_parse_and_validate` and `VoiceSeedIngestor.ingest_once` of
`seed_ingestion.py`. A pass sees the file system through `SeedPass`: the decoded
seed file, what the audio paths look like during validation, and what
`read_bytes` gives later, which may differ.
-/

namespace LlmTts
open Python Effect

/-- `_ParsedSeedEntry`. -/
structure ParsedSeedEntry where
  voiceId : String
  refAudioPath : String
  transcript : String
  language : String
  numberLang : String
  temperature : PyFloat
  topP : PyFloat
  targetDb : PyFloat
  maxSentencesPerChunk : PyInt

/-- What reading and decoding the seed file gives. -/
inductive SeedText where
  /-- No path is configured, or the file does not exist. -/
  | missing
  /-- Reading raises something other than `JSONDecodeError`. -/
  | unreadable
  | invalidJson
  | json (value : Json)

/-- How a path looks to `exists`, `is_file` and `os.access`. -/
structure AudioProbe where
  pathExists : Bool
  isFile : Bool
  readable : Bool

/-- What `read_bytes` does. -/
inductive ReadResult where
  | data (bytes : Bytes)
  | osError
  | raises

/-- The world of one ingestion pass. `probe` is `none` where the path calls
themselves raise; `clock` gives the two timestamps of an entry's record. -/
structure SeedPass where
  text : SeedText
  probe : String → Option AudioProbe
  readBytes : String → ReadResult
  clock : String → DateTime × DateTime

/-- Why validation stops: a `_SeedValidationError`, which the pass catches, or
another exception, which it does not. -/
inductive SeedFailure where
  | invalid (reason : String) (voiceId : Option String)
  | raises
  deriving DecidableEq, Repr

/-- The doubles 0.8 and 0.95, the defaults of the two sampling numbers. -/
def defaultTemperature : PyFloat := .finite (3602879701896397 / 4503599627370496)

def defaultTopP : PyFloat := .finite (4278419646001971 / 4503599627370496)

/-- `body.get(key, default)`. -/
def bodyGet (body : List (String × Json)) (key : String) (default : Json) : Json :=
  (dictGet body key).getD default

/-- A number field: `isinstance` check, then `float(value)` and a range check. -/
def numberField (value : Json) (accept : PyFloat → Bool) (reason : String) (voiceId : String) :
    Except SeedFailure PyFloat :=
  match value.float? with
  | none => .error (.invalid reason voiceId)
  | some none => .error .raises
  | some (some x) => if accept x then .ok x else .error (.invalid reason voiceId)

/-- A string field. -/
def stringField (value : Json) (accept : String → Bool) (reason : String) (voiceId : String) :
    Except SeedFailure String :=
  match value with
  | .str s => if accept s then .ok s else .error (.invalid reason voiceId)
  | _ => .error (.invalid reason voiceId)

/-- `max_sentences_per_chunk`: an `int` of at least 1. It is kept as it is: a `true` is an
`int` as well. -/
def maxSentencesField (value : Json) (voiceId : String) : Except SeedFailure PyInt :=
  match value.int? with
  | some n => if 1 ≤ n.toInt then .ok n
    else .error (.invalid "max_sentences_per_chunk_invalid" voiceId)
  | none => .error (.invalid "max_sentences_per_chunk_invalid" voiceId)

/-- The three checks of the reference audio path. -/
def probeAudio (probe : String → Option AudioProbe) (path : String) (voiceId : String) :
    Except SeedFailure Unit :=
  match probe path with
  | none => .error .raises
  | some audio =>
    if !audio.pathExists || !audio.isFile then .error (.invalid "ref_audio_missing" voiceId)
    else if !audio.readable then .error (.invalid "ref_audio_unreadable" voiceId)
    else .ok ()

/-- The id check, which turns any exception into a validation error. -/
def validEntryId (voiceId : String) : Except SeedFailure Unit :=
  (validateVoiceId voiceId).mapError fun _ => .invalid "voice_id_invalid" voiceId

/-- The fields of an entry, which has to be an object. -/
def entryFields (voiceId : String) : Json → Except SeedFailure (List (String × Json))
  | .obj pairs => .ok (dictItems pairs)
  | _ => .error (.invalid "entry_not_object" voiceId)

/-- `isinstance(value, (int, float))`, without the conversion. -/
def isNumber (value : Json) (reason : String) (voiceId : String) : Except SeedFailure Unit :=
  if value.float?.isSome then .ok () else .error (.invalid reason voiceId)

/-- `_validate_entry`. `target_db` is only converted when the entry is built. -/
def validateEntry (probe : String → Option AudioProbe) (voiceId : String) (body : Json) :
    Except SeedFailure ParsedSeedEntry := do
  validEntryId voiceId
  let fields ← entryFields voiceId body
  let path ← stringField (bodyGet fields "ref_audio_path" .null) (!·.isEmpty)
    "missing_ref_audio_path" voiceId
  let transcript ← stringField (bodyGet fields "ref_text" (.str "")) (fun _ => true)
    "transcript_not_string" voiceId
  let language ← stringField (bodyGet fields "language" .null) (!isBlank ·)
    "missing_language" voiceId
  let numberLang ← stringField (bodyGet fields "number_lang" (.str "")) (fun _ => true)
    "number_lang_not_string" voiceId
  let temperature ← numberField (bodyGet fields "temperature" (.float defaultTemperature))
    (fun x => PyFloat.le (.finite 0) x && x.le (.finite 2)) "temperature_invalid" voiceId
  let topP ← numberField (bodyGet fields "top_p" (.float defaultTopP))
    (fun x => PyFloat.lt (.finite 0) x && x.le (.finite 1)) "top_p_invalid" voiceId
  let targetValue := bodyGet fields "target_db" (.float (.finite (-20)))
  isNumber targetValue "target_db_not_numeric" voiceId
  let maxSentences ← maxSentencesField (bodyGet fields "max_sentences_per_chunk" (.int 2)) voiceId
  probeAudio probe path voiceId
  let targetDb ← numberField targetValue (fun _ => true) "target_db_not_numeric" voiceId
  return {
    voiceId := voiceId, refAudioPath := path, transcript := transcript, language := language,
    numberLang := numberLang, temperature := temperature, topP := topP, targetDb := targetDb,
    maxSentencesPerChunk := maxSentences }

/-- `_parse_and_validate`. It is called on a file that exists. -/
def parseAndValidate (pass : SeedPass) : Except SeedFailure (List ParsedSeedEntry) :=
  match pass.text with
  | .missing => .ok []
  | .unreadable => .error .raises
  | .invalidJson => .error (.invalid "invalid_json" none)
  | .json (.obj pairs) =>
    (dictItems pairs).mapM fun item => validateEntry pass.probe item.1 item.2
  | .json _ => .error (.invalid "root_not_object" none)

/-- The record of a seed entry. -/
def seedRecord (pass : SeedPass) (entry : ParsedSeedEntry) : VoiceRecord where
  id := entry.voiceId
  transcript := entry.transcript
  language := entry.language
  consentAcknowledged := true
  numberLang := entry.numberLang
  targetDb := entry.targetDb
  temperature := entry.temperature
  topP := entry.topP
  maxSentencesPerChunk := entry.maxSentencesPerChunk
  source := .seed
  createdAt := (pass.clock entry.voiceId).1
  updatedAt := (pass.clock entry.voiceId).2

/-- The loop of `ingest_once`. An audio file that cannot be read any more ends
the pass with the number of voices created so far. -/
def ingestEntries (pass : SeedPass) : List ParsedSeedEntry → Nat → Handler VoiceResult
  | [], created => return .ingested created
  | entry :: entries, created => do
    let present : Bool ← repo (.metaExists entry.voiceId)
    if present then ingestEntries pass entries created
    else
      match pass.readBytes entry.refAudioPath with
      | .osError => return .ingested created
      | .raises => throw .other
      | .data audioBytes =>
        repo (.blobPut entry.voiceId audioBytes)
        let _ ← repo (.metaCreate (seedRecord pass entry))
        ingestEntries pass entries (created + 1)

/-- `VoiceSeedIngestor.ingest_once`. -/
def ingestOnce (pass : SeedPass) : Handler VoiceResult :=
  match pass.text with
  | .missing => return .ingested 0
  | _ =>
    match parseAndValidate pass with
    | .error (.invalid _ _) => return .ingested 0
    | .error .raises => throw .other
    | .ok entries => ingestEntries pass entries 0

/-! ## What validation guarantees -/

/-- An accepted entry keeps its id, and the id is valid. -/
theorem validateEntry_id {probe : String → Option AudioProbe} {voiceId : String} {body : Json}
    {entry : ParsedSeedEntry} (accepted : validateEntry probe voiceId body = .ok entry) :
    entry.voiceId = voiceId ∧ validateVoiceId voiceId = .ok () := by
  unfold validateEntry at accepted
  simp only [Checked.bind_ok_iff] at accepted
  obtain ⟨_, valid, _, -, _, -, _, -, _, -, _, -, _, -, _, -, _, -, _, -, _, -, _, -, built⟩ := accepted
  cases built
  refine ⟨rfl, ?_⟩
  unfold validEntryId at valid
  cases checked : validateVoiceId voiceId with
  | ok u => rfl
  | error e => rw [checked] at valid; cases valid

theorem validateEntries_ids {probe : String → Option AudioProbe} {items : List (String × Json)}
    {entries : List ParsedSeedEntry}
    (accepted : (items.mapM fun item => validateEntry probe item.1 item.2) = .ok entries) :
    entries.map (·.voiceId) = items.map Prod.fst ∧
      ∀ entry ∈ entries, validateVoiceId entry.voiceId = .ok () := by
  induction items generalizing entries with
  | nil => cases accepted; simp
  | cons item items ih =>
    simp only [List.mapM_cons, Checked.bind_ok_iff] at accepted
    obtain ⟨entry, first, rest, remaining, built⟩ := accepted
    cases built
    obtain ⟨same, valid⟩ := validateEntry_id first
    obtain ⟨ids, valids⟩ := ih remaining
    refine ⟨by simp only [List.map_cons, same, ids], fun e member => ?_⟩
    rcases List.mem_cons.1 member with rfl | member
    · rw [same]; exact valid
    · exact valids e member

/-- The entries of a pass have distinct, valid ids. -/
theorem parseAndValidate_ids {pass : SeedPass} {entries : List ParsedSeedEntry}
    (parsed : parseAndValidate pass = .ok entries) :
    (entries.map (·.voiceId)).Nodup ∧ ∀ entry ∈ entries, validateVoiceId entry.voiceId = .ok () := by
  unfold parseAndValidate at parsed
  split at parsed
  · cases parsed; simp
  · cases parsed
  · cases parsed
  · obtain ⟨ids, valid⟩ := validateEntries_ids parsed
    rw [ids]
    exact ⟨dictItems_nodup _, valid⟩
  · cases parsed

/-- A pass over a seed file with the voices `ada` and `bob`. -/
def plainPass (readBytes : String → ReadResult) : SeedPass where
  text := .json (.obj [
    ("ada", .obj [("ref_audio_path", .str "ada.wav"), ("language", .str "en")]),
    ("bob", .obj [("ref_audio_path", .str "bob.wav"), ("language", .str "en")])])
  probe _ := some ⟨true, true, true⟩
  readBytes := readBytes
  clock _ := (⟨0, 0⟩, ⟨0, 0⟩)

end LlmTts
