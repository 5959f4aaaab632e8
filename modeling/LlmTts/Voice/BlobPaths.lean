import LlmTts.Lib.Paths
import LlmTts.Presets.Headers
import LlmTts.Voice.SeedContent

/-!
# Names built from voice ids

`FsBlobRepository._path_for`, `S3BlobRepository._key_for` and the header `X-Voice-Id`.
`validate_voice_id` guards them; `exactId_iff` says for which texts it is as exact as its
pattern says.
-/

namespace LlmTts
open Python Checked Paths

/-- 1 to 64 of the characters `a` to `z`, `0` to `9`, `_` and `-`. -/
structure WellFormedId (voiceId : String) : Prop where
  nonempty : 1 ≤ voiceId.length
  short : voiceId.length ≤ 64
  chars : ∀ c ∈ voiceId.toList, voiceIdChar c = true

/-- `FsBlobRepository`. -/
structure FsBlobRepository where
  storeDir : String

namespace FsBlobRepository

def blobsDir (self : FsBlobRepository) : String := join self.storeDir "blobs"

/-- `_path_for`. -/
def pathFor (self : FsBlobRepository) (voiceId : String) : Except StoreError String := do
  validateVoiceId voiceId
  return join self.blobsDir (voiceId ++ ".wav")

end FsBlobRepository

/-- `S3BlobRepository`, which refuses an empty bucket name. -/
structure S3BlobRepository where
  bucket : String
  named : bucket ≠ ""

/-- `_key_for`. -/
def S3BlobRepository.keyFor (_self : S3BlobRepository) (voiceId : String) : Except StoreError String := do
  validateVoiceId voiceId
  return voiceId ++ ".wav"

section Ids

variable {voiceId : String}

theorem wellFormedId_iff : WellFormedId voiceId ↔ voiceIdBody voiceId.toList = true := by
  have length : voiceId.toList.length = voiceId.length := String.length_toList
  unfold voiceIdBody
  simp only [length, Bool.and_eq_true, decide_eq_true_eq, List.all_eq_true]
  constructor
  · rintro ⟨nonempty, short, chars⟩
    exact ⟨⟨nonempty, short⟩, chars⟩
  · rintro ⟨⟨nonempty, short⟩, chars⟩
    exact ⟨nonempty, short, chars⟩

theorem validateVoiceId_ok_iff : validateVoiceId voiceId = .ok () ↔ voiceIdRegexMatch voiceId = true := by
  unfold validateVoiceId
  split <;> simp_all

/-- What `re.match` accepts: a well-formed id, alone or with a newline after it. -/
theorem validateVoiceId_ok_cases :
    validateVoiceId voiceId = .ok () ↔ WellFormedId voiceId ∨ ∃ id, WellFormedId id ∧ voiceId = id ++ "\n" := by
  rw [validateVoiceId_ok_iff, wellFormedId_iff]
  unfold voiceIdRegexMatch
  simp only [Bool.or_eq_true, Bool.and_eq_true, beq_iff_eq]
  apply or_congr_right
  constructor
  · rintro ⟨last, body⟩
    obtain ⟨front, same⟩ := List.getLast?_eq_some_iff.1 last
    rw [same, List.dropLast_concat] at body
    refine ⟨String.ofList front, ?_, ?_⟩
    · rw [wellFormedId_iff, String.toList_ofList]
      exact body
    · rw [← String.ofList_toList (s := voiceId), same, String.ofList_append]
  · rintro ⟨id, wellFormed, rfl⟩
    have split : (id ++ "\n").toList = id.toList ++ ['\n'] := String.toList_append
    rw [split, List.dropLast_concat, List.getLast?_concat]
    exact ⟨rfl, wellFormedId_iff.1 wellFormed⟩

/-- A newline is no character of a well-formed id. -/
theorem not_wellFormedId_newline {id : String} : ¬WellFormedId (id ++ "\n") := by
  intro wellFormed
  have member : '\n' ∈ (id ++ "\n").toList := by simp
  exact absurd (wellFormed.chars _ member) (by decide)

end Ids

/-- The seams of one id: the validation is exact, an id that enters through the seed file
could be posted as well, and what is built from a stored id has the characters of the
class only, apart from the `.wav` of the two kinds of names. -/
structure ExactId (voiceId : String) : Prop where
  validate : validateVoiceId voiceId = .ok () ↔ WellFormedId voiceId
  seed : ∀ (probe : String → Option AudioProbe) (body : Json) (entry : ParsedSeedEntry),
    validateEntry probe voiceId body = .ok entry →
      ∀ fields : VoiceFields, ∃ payload : VoiceCreate, payload.id = entry.voiceId ∧ payload.toVoiceFields = fields
  header : ∀ (requestId provider model : String) (profile : DeviceProfile) (record : VoiceRecord)
    (totals : Option (Int × Int)) (value : String), validateVoiceId voiceId = .ok () → record.id = voiceId →
      ("X-Voice-Id", value) ∈ synthesisHeaders requestId provider model profile record totals →
        ∀ c ∈ value.toList, voiceIdChar c = true
  file : ∀ (repository : FsBlobRepository) (path : String), repository.pathFor voiceId = .ok path →
    ∃ stem, basename path = stem ++ ".wav" ∧ ∀ c ∈ stem.toList, voiceIdChar c = true
  key : ∀ (repository : S3BlobRepository) (key : String), repository.keyFor voiceId = .ok key →
    ∃ stem, key = stem ++ ".wav" ∧ ∀ c ∈ stem.toList, voiceIdChar c = true

section Names

variable {voiceId : String}

theorem pathFor_ok_iff {repository : FsBlobRepository} {path : String} :
    repository.pathFor voiceId = .ok path ↔
      validateVoiceId voiceId = .ok () ∧ join repository.blobsDir (voiceId ++ ".wav") = path :=
  guarded_ok_iff

theorem keyFor_ok_iff {repository : S3BlobRepository} {key : String} :
    repository.keyFor voiceId = .ok key ↔ validateVoiceId voiceId = .ok () ∧ voiceId ++ ".wav" = key :=
  guarded_ok_iff

/-- The characters of an id class, or the newline, are characters of names. -/
theorem char_of_validateVoiceId (valid : validateVoiceId voiceId = .ok ()) {c : Char} (member : c ∈ voiceId.toList) :
    voiceIdChar c = true ∨ c = '\n' := by
  rcases validateVoiceId_ok_cases.1 valid with wellFormed | ⟨id, wellFormed, rfl⟩
  · exact .inl (wellFormed.chars c member)
  · rw [String.toList_append, List.mem_append] at member
    rcases member with member | member
    · exact .inl (wellFormed.chars c member)
    · right
      simpa using member

theorem voiceIdChar_allowed {c : Char} (member : voiceIdChar c = true ∨ c = '\n') :
    c ≠ '/' ∧ c ≠ Char.ofNat 0 ∧ c ≠ '.' := by
  refine ⟨?_, ?_, ?_⟩
  · rintro rfl
    exact absurd member (by decide)
  · rintro rfl
    exact absurd member (by decide)
  · rintro rfl
    exact absurd member (by decide)

theorem no_slash_of_valid (valid : validateVoiceId voiceId = .ok ()) : '/' ∉ (voiceId ++ ".wav").toList := by
  rw [String.toList_append, List.mem_append]
  rintro (member | member)
  · exact (voiceIdChar_allowed (char_of_validateVoiceId valid member)).1 rfl
  · exact absurd member (by decide)

theorem mem_synthesisHeaders_voiceId {requestId provider model value : String} {profile : DeviceProfile}
    {record : VoiceRecord} {totals : Option (Int × Int)}
    (member : ("X-Voice-Id", value) ∈ synthesisHeaders requestId provider model profile record totals) :
    value = record.id := by
  unfold synthesisHeaders at member
  cases totals <;> simpa using member

end Names

/-- **Voice ids at every seam.** The validation of a text is exact at every seam unless
the text is a well-formed id with a newline after it, which `re.match` lets pass. -/
theorem exactId_iff (voiceId : String) : ExactId voiceId ↔ ¬∃ id, WellFormedId id ∧ voiceId = id ++ "\n" := by
  constructor
  · rintro exactly ⟨id, wellFormed, rfl⟩
    have accepted : validateVoiceId (id ++ "\n") = .ok () := validateVoiceId_ok_cases.2 (.inr ⟨id, wellFormed, rfl⟩)
    exact not_wellFormedId_newline (exactly.validate.1 accepted)
  · intro other
    have exactly : validateVoiceId voiceId = .ok () ↔ WellFormedId voiceId := by
      rw [validateVoiceId_ok_cases]
      exact or_iff_left other
    constructor
    · exact exactly
    · intro probe body entry accepted fields
      obtain ⟨same, valid⟩ := validateEntry_id accepted
      rw [same]
      exact ⟨⟨fields, voiceId, wellFormedId_iff.1 (exactly.1 (same ▸ valid))⟩, rfl, rfl⟩
    · intro requestId provider model profile record totals value valid same member
      rw [mem_synthesisHeaders_voiceId member, same]
      exact (exactly.1 valid).chars
    · intro repository path built
      obtain ⟨valid, rfl⟩ := pathFor_ok_iff.1 built
      exact ⟨voiceId, basename_join _ (no_slash_of_valid valid), (exactly.1 valid).chars⟩
    · intro repository key built
      obtain ⟨valid, rfl⟩ := keyFor_ok_iff.1 built
      exact ⟨voiceId, rfl, (exactly.1 valid).chars⟩

/-- The id `ada` with a newline passes the validation and the seed file, and no
`VoiceCreate` has it. -/
theorem newline_accepted :
    ¬ExactId "ada\n" ∧ validateVoiceId "ada\n" = .ok () ∧ ¬WellFormedId "ada\n" ∧
      ∃ entry, validateEntry (fun _ => some ⟨true, true, true⟩) "ada\n"
          (.obj [("ref_audio_path", .str "ada.wav"), ("language", .str "en")]) = .ok entry ∧
        ¬∃ payload : VoiceCreate, payload.id = entry.voiceId := by
  have wellFormed : WellFormedId "ada" := wellFormedId_iff.2 (by decide)
  have id : (validateEntry (fun _ => some ⟨true, true, true⟩) "ada\n"
      (.obj [("ref_audio_path", .str "ada.wav"), ("language", .str "en")])).map (·.voiceId) = .ok "ada\n" := by
    decide +kernel
  have unlike : ¬WellFormedId "ada\n" := by
    intro accepted
    exact absurd (accepted.chars '\n' (by decide)) (by decide)
  refine ⟨fun exactly => (exactId_iff "ada\n").1 exactly ⟨"ada", wellFormed, by decide⟩, by decide, unlike, ?_⟩
  obtain ⟨entry, accepted, same⟩ := map_ok_iff.1 id
  refine ⟨entry, accepted, ?_⟩
  rintro ⟨payload, posted⟩
  have matched := payload.idMatches
  rw [posted, same] at matched
  exact absurd matched (by decide)

end LlmTts
