import LlmTts.Errors

/-!
# Voice records and ids

`VoiceRecord`, the id pattern and `validate_voice_id` of `records.py`, the
errors of `voice_store/errors.py`, and the request schemas of
`schemas/voices.py`.
-/

namespace LlmTts
open Python

/-- Who created a record. -/
inductive VoiceSource where
  | seed
  | crud
  deriving DecidableEq, Repr

/-- `VoiceRecord`. -/
structure VoiceRecord where
  id : String
  transcript : String
  language : String
  consentAcknowledged : Bool
  numberLang : String
  targetDb : PyFloat
  temperature : PyFloat
  topP : PyFloat
  maxSentencesPerChunk : PyInt
  source : VoiceSource
  createdAt : DateTime
  updatedAt : DateTime
  deriving DecidableEq

/-- A record with the given id and source; the other fields do not matter to the stores. -/
def plainRecord (id : String) (source : VoiceSource) : VoiceRecord where
  id := id
  transcript := "hello"
  language := "en"
  consentAcknowledged := true
  numberLang := "en"
  targetDb := .finite (-20)
  temperature := .finite 1
  topP := .finite 1
  maxSentencesPerChunk := .int 2
  source := source
  createdAt := ⟨0, 0⟩
  updatedAt := ⟨0, 0⟩

/-- The record as a repository reads it back: `max_sentences_per_chunk` goes through
`int`, and is a `bool` only until then. -/
def VoiceRecord.settled (record : VoiceRecord) : VoiceRecord :=
  { record with maxSentencesPerChunk := .int record.maxSentencesPerChunk.toInt }

@[simp] theorem VoiceRecord.settled_settled (record : VoiceRecord) : record.settled.settled = record.settled := rfl

@[simp] theorem VoiceRecord.settled_id (record : VoiceRecord) : record.settled.id = record.id := rfl

@[simp] theorem VoiceRecord.settled_source (record : VoiceRecord) : record.settled.source = record.source := rfl

@[simp] theorem VoiceRecord.settled_consent (record : VoiceRecord) :
    record.settled.consentAcknowledged = record.consentAcknowledged := rfl

@[simp] theorem VoiceRecord.settled_createdAt (record : VoiceRecord) :
    record.settled.createdAt = record.createdAt := rfl

@[simp] theorem plainRecord_id (id : String) (source : VoiceSource) : (plainRecord id source).id = id := rfl

@[simp] theorem settled_plainRecord (id : String) (source : VoiceSource) :
    (plainRecord id source).settled = plainRecord id source := rfl

/-! ## Voice ids -/

/-- The class `[a-z0-9_-]`. -/
def voiceIdChar (c : Char) : Bool :=
  ('a' ≤ c && c ≤ 'z') || ('0' ≤ c && c ≤ '9') || c == '_' || c == '-'

/-- The whole of `cs` matches `[a-z0-9_-]{1,64}`. -/
def voiceIdBody (cs : List Char) : Bool :=
  1 ≤ cs.length && cs.length ≤ 64 && cs.all voiceIdChar

/-- `VOICE_ID_REGEX.match(voice_id)`. A trailing `$` of `re.match` also matches
just before a final newline. -/
def voiceIdRegexMatch (voiceId : String) : Bool :=
  let cs := voiceId.toList
  voiceIdBody cs || (cs.getLast? == some '\n' && voiceIdBody cs.dropLast)

/-- What a repository raises. `other` is any `Exception` that is none of the typed
ones; `cancelled` is `CancelledError`, which is no `Exception`. -/
inductive StoreError where
  | voiceIdInvalid (message : Message)
  | voiceNotFound (voiceId : String)
  | voiceAlreadyExists (voiceId : String)
  | other
  | cancelled
  deriving DecidableEq, Repr

/-- The message of `VoiceIdInvalidError`. -/
def voiceIdInvalidMessage (voiceId : String) : Message :=
  [.text "voice id ", .repr voiceId, .text " must match ^[a-z0-9_-]{1,64}$"]

/-- `validate_voice_id`. -/
def validateVoiceId (voiceId : String) : Except StoreError Unit :=
  if voiceIdRegexMatch voiceId then .ok ()
  else .error (.voiceIdInvalid (voiceIdInvalidMessage voiceId))

/-! ## Request schemas -/

/-- The fields `VoiceCreate` and `VoiceUpdate` share, as the schema accepts them. -/
structure VoiceFields where
  transcript : String
  language : String
  consentAcknowledged : Bool
  numberLang : String
  targetDb : PyFloat
  temperature : PyFloat
  topP : PyFloat
  maxSentencesPerChunk : Int
  transcriptNonempty : 1 ≤ transcript.length
  languageNonempty : 1 ≤ language.length

/-- `VoiceUpdate`. -/
structure VoiceUpdate extends VoiceFields

/-- `VoiceCreate`. Its pattern engine matches a trailing `$` only at the end. -/
structure VoiceCreate extends VoiceFields where
  id : String
  idMatches : voiceIdBody id.toList = true

/-- An id the schema accepts is accepted by the repositories. -/
theorem VoiceCreate.idValid (payload : VoiceCreate) : validateVoiceId payload.id = .ok () := by
  simp only [validateVoiceId, voiceIdRegexMatch, payload.idMatches, Bool.true_or, if_true]

end LlmTts
