import LlmTts.Voice.Repository

/-!
# The voice handlers

`create_voice`, `update_voice` and `delete_voice` of `routers/voices.py`, and
`_resolve_voice` of `synthesize_service.py`, as programs over the repositories.
What `_parse_metadata_json` returns or raises is an input of the handlers; the
audio checks are modelled.
-/

namespace LlmTts
open Python Effect

/-! ## The uploaded audio -/

/-- An `UploadFile` part. -/
structure UploadFile where
  contentType : Option String
  filename : Option String
  body : Bytes
  deriving DecidableEq

/-- `_ALLOWED_CONTENT_TYPES`. -/
def allowedContentTypes : List String := ["audio/wav", "audio/x-wav", "audio/flac", "audio/mpeg"]

/-- `_check_magic_bytes`. -/
def checkMagicBytes (contentType : String) (data : Bytes) : Bool :=
  if contentType == "audio/wav" || contentType == "audio/x-wav" then
    12 ≤ data.length && data.take 4 == [82, 73, 70, 70] && (data.drop 8).take 4 == [87, 65, 86, 69]
  else if contentType == "audio/flac" then data.take 4 == [102, 76, 97, 67]
  else if contentType == "audio/mpeg" then
    data.take 3 == [73, 68, 51] ||
      match data with
      | first :: second :: _ => first == 0xFF && (second &&& 0xE0) == 0xE0
      | _ => false
  else false

/-- `_ref_audio_invalid`. -/
def refAudioInvalid (message : String) : OpenAIHTTPException :=
  invalidRequest [.text message] (some "audio") "ref_audio_invalid"

/-- `_read_audio_validated`. -/
def readAudioValidated (audio : UploadFile) (maxBytes : Nat) : Except OpenAIHTTPException Bytes :=
  let contentType := (audio.contentType.getD "").toLower
  if contentType ∉ allowedContentTypes then
    .error (refAudioInvalid "audio content-type is not allowed")
  else
    let data := audio.body.take (maxBytes + 1)
    if maxBytes < data.length then
      .error (refAudioInvalid s!"audio exceeds maximum size of {maxBytes} bytes")
    else if data.isEmpty then .error (refAudioInvalid "audio body is empty")
    else if checkMagicBytes contentType data then .ok data
    else .error (refAudioInvalid "audio magic bytes do not match declared content-type")

/-! ## Requests -/

/-- A POST request: the parsed metadata part (or what its parsing raised: an
`OpenAIHTTPException`, or for instance the `ValueError` of an integer of more than 4300
digits), the audio part, the size limit of the settings, and the time of the request. -/
structure CreateRequest where
  metadata : Except Exc VoiceCreate
  audio : UploadFile
  refaudioMaxBytes : Nat
  now : DateTime

/-- A PUT request; its audio part is optional. -/
structure UpdateRequest where
  voiceId : String
  metadata : Except Exc VoiceUpdate
  audio : Option UploadFile
  refaudioMaxBytes : Nat
  now : DateTime

/-- What a request answers. A `VoiceResponse` has the fields of the record. -/
inductive VoiceResult where
  | voice (record : VoiceRecord)
  | noContent
  | resolved (record : VoiceRecord) (blob : Bytes)
  | ingested (created : Nat)
  deriving DecidableEq

/-- Raise what a check that is no repository call raises. -/
def check {α : Type} : Except Exc α → Handler α
  | .ok a => pure a
  | .error exc => throw exc

/-- `except Exception` catches it. -/
def Exc.isException : Exc → Bool
  | .store .cancelled => false
  | _ => true

/-- A `try` with `except Exception`. -/
def exceptException {α : Type} (body : Handler α) (handler : Exc → Handler α) : Handler α :=
  tryCatch body fun exc => if exc.isException then handler exc else throw exc

/-- The consent error of POST and PUT. -/
def consentRequired : OpenAIHTTPException :=
  invalidRequest [.text "consent_acknowledged must be true"] (some "consent_acknowledged")
    "consent_required"

def voiceNotFoundError (voiceId : String) : OpenAIHTTPException :=
  voiceError "voice_not_found" [.text "voice ", .repr voiceId, .text " not found"]

/-- The record a POST stores. -/
def createdRecord (payload : VoiceCreate) (now : DateTime) : VoiceRecord where
  id := payload.id
  transcript := payload.transcript
  language := payload.language
  consentAcknowledged := true
  numberLang := payload.numberLang
  targetDb := payload.targetDb
  temperature := payload.temperature
  topP := payload.topP
  maxSentencesPerChunk := .int payload.maxSentencesPerChunk
  source := .crud
  createdAt := now
  updatedAt := now

/-- The record a PUT stores over `existing`. -/
def updatedRecord (existing : VoiceRecord) (payload : VoiceUpdate) (now : DateTime) : VoiceRecord where
  id := existing.id
  transcript := payload.transcript
  language := payload.language
  consentAcknowledged := true
  numberLang := payload.numberLang
  targetDb := payload.targetDb
  temperature := payload.temperature
  topP := payload.topP
  maxSentencesPerChunk := .int payload.maxSentencesPerChunk
  source := existing.source
  createdAt := existing.createdAt
  updatedAt := now

@[simp] theorem createdRecord_id (payload : VoiceCreate) (now : DateTime) :
    (createdRecord payload now).id = payload.id := rfl

@[simp] theorem updatedRecord_id (existing : VoiceRecord) (payload : VoiceUpdate) (now : DateTime) :
    (updatedRecord existing payload now).id = existing.id := rfl

/-- The schemas give an `int`. -/
@[simp] theorem settled_createdRecord (payload : VoiceCreate) (now : DateTime) :
    (createdRecord payload now).settled = createdRecord payload now := rfl

@[simp] theorem settled_updatedRecord (existing : VoiceRecord) (payload : VoiceUpdate) (now : DateTime) :
    (updatedRecord existing payload now).settled = updatedRecord existing payload now := rfl

/-- `create_voice`. The rollback of a failed blob write is best-effort; a cancelled one
is not rolled back. -/
def createVoice (request : CreateRequest) : Handler VoiceResult := do
  let payload ← check request.metadata
  unless payload.consentAcknowledged do throw (.http consentRequired)
  let audioBytes ← check ((readAudioValidated request.audio request.refaudioMaxBytes).mapError .http)
  let record := createdRecord payload request.now
  let created ← tryCatch (repo (.metaCreate record)) fun exc =>
    match exc with
    | .store (.voiceAlreadyExists _) =>
      throw (.http (invalidRequest
        [.text "voice id ", .repr payload.id, .text " already exists"] (some "id")
        "voice_id_exists" 409))
    | .store (.voiceIdInvalid message) => throw (.http (invalidRequest message (some "id")))
    | exc => throw exc
  exceptException (repo (.blobPut payload.id audioBytes)) fun exc => do
    exceptException (repo (.metaDelete payload.id)) fun _ => pure ()
    throw exc
  return .voice created

/-- `validate_voice_id` in a handler whose path carries the id. -/
def checkPathId (voiceId : String) : Handler Unit :=
  match validateVoiceId voiceId with
  | .ok () => pure ()
  | .error (.voiceIdInvalid message) => throw (.http (invalidRequest message (some "voice_id")))
  | .error e => throw (.store e)

/-- A missing record becomes 404. -/
def orNotFound {α : Type} (voiceId : String) (call : Handler α) : Handler α :=
  tryCatch call fun exc =>
    match exc with
    | .store (.voiceNotFound _) => throw (.http (voiceNotFoundError voiceId))
    | exc => throw exc

/-- `get_voice`. -/
def getVoice (voiceId : String) : Handler VoiceResult := do
  checkPathId voiceId
  let record ← orNotFound voiceId (repo (.metaGet voiceId))
  return .voice record.val

/-- `get_voice_audio`. -/
def getVoiceAudio (voiceId : String) : Handler VoiceResult := do
  checkPathId voiceId
  let record ← orNotFound voiceId (repo (.metaGet voiceId))
  let data ← tryCatch (repo (.blobGet voiceId)) fun exc =>
    match exc with
    | .store (.voiceNotFound _) =>
      throw (.http (voiceError "voice_blob_missing"
        [.text "audio for voice ", .repr voiceId, .text " not found"] 404))
    | exc => throw exc
  return .resolved record.val data

/-- The audio part of a PUT, if it has one with a file name. -/
def newBlob (request : UpdateRequest) : Except OpenAIHTTPException (Option Bytes) :=
  match request.audio with
  | none => .ok none
  | some audio =>
    if (audio.filename.getD "").isEmpty then .ok none
    else (readAudioValidated audio request.refaudioMaxBytes).map some

/-- `update_voice`. The blob is written first. -/
def updateVoice (request : UpdateRequest) : Handler VoiceResult := do
  checkPathId request.voiceId
  let payload ← check request.metadata
  unless payload.consentAcknowledged do throw (.http consentRequired)
  let existing ← orNotFound request.voiceId (repo (.metaGet request.voiceId))
  let blob ← check ((newBlob request).mapError .http)
  match blob with
  | some data => repo (.blobPut request.voiceId data)
  | none => pure ()
  let saved ← repo (.metaUpdate (updatedRecord existing.val payload request.now))
  return .voice saved

/-- `delete_voice`. A blob that is already gone is no error. -/
def deleteVoice (voiceId : String) : Handler VoiceResult := do
  checkPathId voiceId
  orNotFound voiceId (repo (.metaDelete voiceId))
  tryCatch (do
    let present : Bool ← repo (.blobExists voiceId)
    if present then repo (.blobDelete voiceId) else pure ()) fun exc =>
      match exc with
      | .store (.voiceNotFound _) => pure ()
      | exc => throw exc
  return .noContent

/-- `_resolve_voice`. -/
def resolveVoice (voiceId : String) : Handler VoiceResult := do
  let record ← tryCatch (repo (.metaGet voiceId)) fun exc =>
    match exc with
    | .store (.voiceNotFound _) =>
      throw (.http (voiceError "voice_not_found"
        [.text "voice ", .repr voiceId, .text " not found in voice store"] 404 (some "voice")))
    | .store (.voiceIdInvalid message) => throw (.http (invalidRequest message (some "voice")))
    | exc => throw exc
  let blob ← tryCatch (repo (.blobGet voiceId)) fun exc =>
    match exc with
    | .store (.voiceNotFound _) =>
      throw (.http (voiceError "voice_blob_missing"
        [.text "voice ", .repr voiceId, .text " metadata exists but blob is missing"] 422
        (some "voice")))
    | exc => throw exc
  return .resolved record.val blob

/-! ## Plain requests -/

/-- A WAV upload with the smallest body the checks accept and one more byte. -/
def plainAudio (last : UInt8) : UploadFile where
  contentType := some "audio/wav"
  filename := some "ref.wav"
  body := [82, 73, 70, 70, 0, 0, 0, 0, 87, 65, 86, 69, last]

/-- The metadata part of a plain request. -/
def plainFields : VoiceFields where
  transcript := "hello"
  language := "en"
  consentAcknowledged := true
  numberLang := "en"
  targetDb := .finite (-20)
  temperature := .finite 1
  topP := .finite 1
  maxSentencesPerChunk := 2
  transcriptNonempty := by decide
  languageNonempty := by decide

/-- A POST for the voice `ada`. -/
def plainCreate (last : UInt8) : CreateRequest where
  metadata := .ok { plainFields with id := "ada", idMatches := by decide }
  audio := plainAudio last
  refaudioMaxBytes := 100
  now := ⟨0, 0⟩

/-- A PUT for the voice `ada` with new audio. -/
def plainUpdate (last : UInt8) : UpdateRequest where
  voiceId := "ada"
  metadata := .ok { plainFields with }
  audio := some (plainAudio last)
  refaudioMaxBytes := 100
  now := ⟨0, 0⟩

end LlmTts
