import LlmTts.Synthesis.Ranges
import LlmTts.Voice.BlobPaths
import LlmTts.Voice.FsJsonMetadata

/-!
# The sandbox of the voice store

Which files and objects the calls of the two repositories touch, on every backend, and
the temporary file of `synthesize_core`. No caller checks an id for its use in a path:
`voices_sandboxed` says that the checks of the repositories are enough on every way from
an id to a path.
-/

namespace LlmTts
open Python Effect Checked Paths

/-- A file, or an object of a bucket. -/
inductive Place where
  | file (path : String)
  | object (bucket key : String)

inductive MetadataBackend where
  | fsJson (repository : FsJsonMetadataRepository)
  | postgres

inductive BlobBackend where
  | fs (repository : FsBlobRepository)
  | s3 (repository : S3BlobRepository)

/-- The backends that the settings select. -/
structure VoiceBackends where
  metadata : MetadataBackend
  blobs : BlobBackend

/-! ## What a call touches -/

section Places

variable (random : RandomName)

/-- The temporary file of a blob write. -/
def FsBlobRepository.tempPathFor (self : FsBlobRepository) (voiceId : String) : String :=
  tempPath self.blobsDir ("." ++ voiceId ++ ".") random ".tmp"

def FsJsonMetadataRepository.metadataPath (self : FsJsonMetadataRepository) : String :=
  join self.storeDir "metadata.json"

/-- The temporary file of `_atomic_write`. -/
def FsJsonMetadataRepository.tempPath (self : FsJsonMetadataRepository) : String :=
  Paths.tempPath self.storeDir ".metadata." random ".tmp"

/-- The files of a metadata call, in the order in which it comes to them. -/
def MetadataBackend.places (self : MetadataBackend) (voiceId : String) (writes : Bool) :
    Except StoreError (List Place) := do
  validateVoiceId voiceId
  match self with
  | .fsJson repository =>
    if writes then return [.file repository.metadataPath, .file (repository.tempPath random)]
    else return [.file repository.metadataPath]
  | .postgres => return []

/-- `put` of a blob repository. -/
def BlobBackend.putPlaces (voiceId : String) : BlobBackend → Except StoreError (List Place)
  | .fs repository => do
    let target ← repository.pathFor voiceId
    return [.file (repository.tempPathFor random voiceId), .file target]
  | .s3 repository => do
    let key ← repository.keyFor voiceId
    return [.object repository.bucket key]

/-- `get`, `exists` and `delete` of a blob repository. -/
def BlobBackend.targetPlaces (voiceId : String) : BlobBackend → Except StoreError (List Place)
  | .fs repository => do
    let target ← repository.pathFor voiceId
    return [.file target]
  | .s3 repository => do
    let key ← repository.keyFor voiceId
    return [.object repository.bucket key]

/-- What a repository call touches, or what it raises before it touches anything. -/
def VoiceBackends.places (backends : VoiceBackends) : StoreCall → Except StoreError (List Place)
  | .metaGet v | .metaExists v => backends.metadata.places random v false
  | .metaCreate record | .metaUpdate record => backends.metadata.places random record.id true
  | .metaDelete v => backends.metadata.places random v true
  | .blobPut v _ => backends.blobs.putPlaces random v
  | .blobGet v | .blobExists v | .blobDelete v => backends.blobs.targetPlaces v

/-- The place is a direct child of the directory, or of the bucket, that it belongs to. -/
def VoiceBackends.Inside (backends : VoiceBackends) : Place → Prop
  | .file path =>
    (∃ repository, backends.metadata = .fsJson repository ∧ DirectChild repository.storeDir path) ∨
      ∃ repository, backends.blobs = .fs repository ∧ DirectChild repository.blobsDir path
  | .object bucket key => ∃ repository, backends.blobs = .s3 repository ∧ bucket = repository.bucket ∧ IsName key

/-- The temporary file of the voice sample in `synthesize_core`. -/
def samplePath (tempDir voiceId : String) : String := tempPath tempDir ("voice-" ++ voiceId ++ "-") random ".wav"

end Places

section Names

variable {voiceId : String}

theorem plain_of_valid (valid : validateVoiceId voiceId = .ok ()) : plain voiceId = true := by
  apply List.all_eq_true.2
  intro c member
  obtain ⟨slash, nul, -⟩ := voiceIdChar_allowed (char_of_validateVoiceId valid member)
  simp [slash, nul]

theorem exists_letter (valid : validateVoiceId voiceId = .ok ()) : ∃ c ∈ voiceId.toList, c ≠ '.' := by
  have nonempty : voiceId.toList ≠ [] := by
    intro empty
    rw [validateVoiceId_ok_iff] at valid
    unfold voiceIdRegexMatch at valid
    rw [empty] at valid
    exact absurd valid (by decide)
  obtain ⟨c, cs, split⟩ := List.exists_cons_of_ne_nil nonempty
  have member : c ∈ voiceId.toList := by simp [split]
  exact ⟨c, member, (voiceIdChar_allowed (char_of_validateVoiceId valid member)).2.2⟩

/-- A valid id between two texts without slashes makes a name. -/
theorem isName_of_valid (valid : validateVoiceId voiceId = .ok ()) {front back : String} (before : plain front = true)
    (after : plain back = true) : IsName (front ++ voiceId ++ back) := by
  obtain ⟨c, member, letter⟩ := exists_letter valid
  have inside : c ∈ (front ++ voiceId ++ back).toList := by
    simp [String.toList_append, member]
  apply IsName.of_plain _ inside letter
  rw [plain_append, plain_append, before, plain_of_valid valid, after]
  rfl

theorem eq_of_validate_error {e : StoreError} (invalid : validateVoiceId voiceId = .error e) :
    e = .voiceIdInvalid (voiceIdInvalidMessage voiceId) := by
  unfold validateVoiceId at invalid
  split at invalid
  · cases invalid
  · cases invalid
    rfl

end Names

section Calls

variable (backends : VoiceBackends) (random : RandomName) {voiceId : String} {e : StoreError}

theorem metadataPlaces_inside (writes : Bool) (valid : validateVoiceId voiceId = .ok ()) :
    ∃ places, backends.metadata.places random voiceId writes = .ok places ∧ ∀ place ∈ places, backends.Inside place := by
  unfold MetadataBackend.places
  rw [valid]
  cases selected : backends.metadata with
  | postgres => exact ⟨[], rfl, List.forall_mem_nil _⟩
  | fsJson repository =>
    have document : backends.Inside (.file repository.metadataPath) := by
      refine .inl ⟨repository, selected, IsName.child ?_ _⟩
      exact IsName.of_plain (c := 'm') (by decide) (by decide) (by decide)
    have temporary : backends.Inside (.file (repository.tempPath random)) := by
      refine .inl ⟨repository, selected, IsName.child ?_ _⟩
      apply IsName.of_plain (c := 'm')
      · rw [plain_append, plain_append, random.plain]
        rfl
      · simp [String.toList_append]
      · decide
    cases writes with
    | false => exact ⟨_, rfl, List.forall_mem_singleton.2 document⟩
    | true => exact ⟨_, rfl, List.forall_mem_cons.2 ⟨document, List.forall_mem_singleton.2 temporary⟩⟩

/-- The target of a blob call is the child of its directory, or of its bucket. -/
theorem targetPlaces_inside (valid : validateVoiceId voiceId = .ok ()) :
    ∃ places, backends.blobs.targetPlaces voiceId = .ok places ∧ ∀ place ∈ places, backends.Inside place := by
  have name : IsName (voiceId ++ ".wav") := by
    have built : IsName ("" ++ voiceId ++ ".wav") := isName_of_valid valid rfl rfl
    rwa [String.empty_append] at built
  cases selected : backends.blobs with
  | fs repository =>
    refine ⟨[.file (join repository.blobsDir (voiceId ++ ".wav"))], ?_, ?_⟩
    · simp only [BlobBackend.targetPlaces, FsBlobRepository.pathFor, valid]
      rfl
    · exact List.forall_mem_singleton.2 (.inr ⟨repository, selected, name.child _⟩)
  | s3 repository =>
    refine ⟨[.object repository.bucket (voiceId ++ ".wav")], ?_, ?_⟩
    · simp only [BlobBackend.targetPlaces, S3BlobRepository.keyFor, valid]
      rfl
    · exact List.forall_mem_singleton.2 ⟨repository, selected, rfl, name⟩

theorem putPlaces_inside (valid : validateVoiceId voiceId = .ok ()) :
    ∃ places, backends.blobs.putPlaces random voiceId = .ok places ∧ ∀ place ∈ places, backends.Inside place := by
  obtain ⟨places, target, inside⟩ := targetPlaces_inside backends valid
  cases selected : backends.blobs with
  | fs repository =>
    rw [selected] at target
    have temporary : backends.Inside (.file (repository.tempPathFor random voiceId)) := by
      refine .inr ⟨repository, selected, IsName.child ?_ _⟩
      have joined : "." ++ voiceId ++ "." ++ random.text ++ ".tmp" = "." ++ voiceId ++ ("." ++ random.text ++ ".tmp") := by
        simp only [String.append_assoc]
      rw [joined]
      apply isName_of_valid valid rfl
      rw [plain_append, plain_append, random.plain]
      rfl
    refine ⟨.file (repository.tempPathFor random voiceId) :: places, ?_, List.forall_mem_cons.2 ⟨temporary, inside⟩⟩
    simp only [BlobBackend.targetPlaces, FsBlobRepository.pathFor, valid] at target
    simp only [BlobBackend.putPlaces, FsBlobRepository.pathFor, valid]
    cases target
    rfl
  | s3 repository =>
    rw [selected] at target
    exact ⟨places, target, inside⟩

/-- With a valid id, a call touches direct children only. -/
theorem places_inside {c : StoreCall} (valid : validateVoiceId c.voiceId = .ok ()) :
    ∃ places, backends.places random c = .ok places ∧ ∀ place ∈ places, backends.Inside place := by
  cases c with
  | metaGet v => exact metadataPlaces_inside backends random false valid
  | metaExists v => exact metadataPlaces_inside backends random false valid
  | metaCreate record => exact metadataPlaces_inside backends random true valid
  | metaUpdate record => exact metadataPlaces_inside backends random true valid
  | metaDelete v => exact metadataPlaces_inside backends random true valid
  | blobPut v data => exact putPlaces_inside backends random valid
  | blobGet v => exact targetPlaces_inside backends valid
  | blobExists v => exact targetPlaces_inside backends valid
  | blobDelete v => exact targetPlaces_inside backends valid

theorem blobPlaces_invalid (invalid : validateVoiceId voiceId = .error e) :
    backends.blobs.targetPlaces voiceId = .error e ∧ backends.blobs.putPlaces random voiceId = .error e := by
  cases backends.blobs with
  | fs repository =>
    simp only [BlobBackend.targetPlaces, BlobBackend.putPlaces, FsBlobRepository.pathFor, invalid]
    exact ⟨rfl, rfl⟩
  | s3 repository =>
    simp only [BlobBackend.targetPlaces, BlobBackend.putPlaces, S3BlobRepository.keyFor, invalid]
    exact ⟨rfl, rfl⟩

theorem metadataPlaces_invalid (writes : Bool) (invalid : validateVoiceId voiceId = .error e) :
    backends.metadata.places random voiceId writes = .error e := by
  unfold MetadataBackend.places
  rw [invalid]
  rfl

/-- With any other id, a call raises before it touches anything. -/
theorem places_invalid {c : StoreCall} (invalid : validateVoiceId c.voiceId = .error e) :
    backends.places random c = .error e := by
  cases c with
  | metaGet v => exact metadataPlaces_invalid backends random false invalid
  | metaExists v => exact metadataPlaces_invalid backends random false invalid
  | metaCreate record => exact metadataPlaces_invalid backends random true invalid
  | metaUpdate record => exact metadataPlaces_invalid backends random true invalid
  | metaDelete v => exact metadataPlaces_invalid backends random true invalid
  | blobPut v data => exact (blobPlaces_invalid backends random invalid).2
  | blobGet v => exact (blobPlaces_invalid backends random invalid).1
  | blobExists v => exact (blobPlaces_invalid backends random invalid).1
  | blobDelete v => exact (blobPlaces_invalid backends random invalid).1

end Calls

/-! ## From an id to its calls -/

/-- What takes an id from outside to the repositories, apart from `synthesize_core`. -/
inductive VoiceRoute where
  | op (op : VoiceOp)
  | get (voiceId : String)
  | getAudio (voiceId : String)

def VoiceRoute.body : VoiceRoute → StoreProg VoiceEnd
  | .op request => request.body
  | .get v => getVoice v
  | .getAudio v => getVoiceAudio v

/-- The text is supplied as an id: in the path of a request, as a key of the seed file, or in
the metadata of a POST. Metadata that `VoiceCreate` accepts has it as its id; what it refuses
may hold any text. -/
def VoiceRoute.Supplied : VoiceRoute → String → Prop
  | .op (.create request), v => ∀ payload, request.metadata = .ok payload → payload.id = v
  | .op (.update request), v => request.voiceId = v
  | .op (.delete w), v | .op (.resolve w), v | .get w, v | .getAudio w, v => w = v
  | .op (.ingest pass), v => ∃ pairs, pass.text = .json (.obj pairs) ∧ ∃ item ∈ dictItems pairs, item.1 = v

/-- How a route ends that refuses an id: with the message of the validation and status 400;
a seed pass logs it and ends, unless another entry raises before; and a POST raises what the
parsing of its metadata does. -/
def VoiceRoute.Refused : VoiceRoute → String → VoiceEnd → Prop
  | .op (.create request), _, r => ∃ exc, request.metadata = .error exc ∧ r = .error exc
  | .op (.ingest _), _, r => r = .ok (.ingested 0) ∨ r = .error .other
  | _, v, r => ∃ param, r = .error (.http (invalidRequest (voiceIdInvalidMessage v) (some param)))

/-- A reply of a repository, which checks the id first. -/
def Validates (c : StoreCall) (r : c.Reply) : Prop := ∀ e, validateVoiceId c.voiceId = .error e → r = .error e

theorem exec_validates (s : Stores) (c : StoreCall) : Validates c (s.exec c).1 := by
  intro e invalid
  unfold Stores.exec
  rw [invalid]

section Routes

variable {voiceId : String} {e : StoreError}

/-- A route that begins with this check refuses the id before its first call. -/
theorem checkPathId_refuses (invalid : validateVoiceId voiceId = .error e) (rest : Unit → Handler VoiceResult)
    {S : (c : StoreCall) → c.Reply → Prop} {P : StoreCall → Prop} {Q : VoiceEnd → Prop}
    (refused : Q (.error (.http (invalidRequest (voiceIdInvalidMessage voiceId) (some "voice_id"))))) :
    Prog.Meets S P Q ((checkPathId voiceId >>= rest : Handler VoiceResult) : StoreProg VoiceEnd) := by
  unfold checkPathId
  rw [invalid, eq_of_validate_error invalid]
  exact refused

/-- A POST whose metadata is refused makes no call. -/
theorem createVoice_refused {request : CreateRequest} {exc : Exc} (parsed : request.metadata = .error exc) :
    (createVoice request : StoreProg VoiceEnd) = .ret (.error exc) := by
  show (createVoice request).run = _
  unfold createVoice
  rw [parsed]
  rfl

/-- Nor does a pass over a voice map that does not validate. -/
theorem ingestOnce_refused {pass : SeedPass} {pairs : List (String × Json)} (decoded : pass.text = .json (.obj pairs))
    {failure : SeedFailure} (rejected : parseAndValidate pass = .error failure) :
    ∃ r : VoiceEnd, ingestOnce pass = (Prog.ret r : StoreProg VoiceEnd) ∧
      (r = .ok (.ingested 0) ∨ r = .error .other) := by
  unfold ingestOnce
  rw [decoded, rejected]
  cases failure with
  | invalid reason id => exact ⟨_, rfl, .inl rfl⟩
  | raises => exact ⟨_, rfl, .inr rfl⟩

/-- A seed file with an entry of that id does not validate. -/
theorem parseAndValidate_invalid {pass : SeedPass} {pairs : List (String × Json)} {item : String × Json}
    (decoded : pass.text = .json (.obj pairs)) (member : item ∈ dictItems pairs)
    (invalid : validateVoiceId item.1 = .error e) : ∃ failure, parseAndValidate pass = .error failure := by
  cases parsed : parseAndValidate pass with
  | error failure => exact ⟨failure, rfl⟩
  | ok entries =>
    unfold parseAndValidate at parsed
    rw [decoded] at parsed
    obtain ⟨entry, -, accepted⟩ := exists_of_mem_left (mapM_ok_iff.1 parsed) member
    have valid := (validateEntry_id accepted).2
    rw [invalid] at valid
    cases valid

/-- **Refused ids.** A route makes no call that touches anything for an id that the
validation refuses, and refuses it as well. -/
theorem route_refuses (backends : VoiceBackends) (random : RandomName) (route : VoiceRoute)
    (supplied : route.Supplied voiceId) (invalid : validateVoiceId voiceId = .error e) :
    route.body.Meets Validates (fun c => backends.places random c = .error e) (route.Refused voiceId) := by
  cases route with
  | get v =>
    cases supplied
    exact checkPathId_refuses invalid _ ⟨"voice_id", rfl⟩
  | getAudio v =>
    cases supplied
    exact checkPathId_refuses invalid _ ⟨"voice_id", rfl⟩
  | op request =>
    cases request with
    | create request =>
      cases parsed : request.metadata with
      | ok payload =>
        cases supplied payload parsed
        rw [payload.idValid] at invalid
        cases invalid
      | error exc =>
        show (createVoice request : StoreProg VoiceEnd).Meets _ _ _
        rw [createVoice_refused parsed]
        exact ⟨exc, parsed, rfl⟩
    | update request =>
      cases supplied
      exact checkPathId_refuses invalid _ ⟨"voice_id", rfl⟩
    | delete v =>
      cases supplied
      exact checkPathId_refuses invalid _ ⟨"voice_id", rfl⟩
    | ingest pass =>
      obtain ⟨pairs, decoded, item, member, rfl⟩ := supplied
      obtain ⟨failure, rejected⟩ := parseAndValidate_invalid decoded member invalid
      obtain ⟨r, body, refused⟩ := ingestOnce_refused decoded rejected
      show (ingestOnce pass : StoreProg VoiceEnd).Meets _ _ _
      rw [body]
      exact refused
    | resolve v =>
      cases supplied
      show (resolveVoice voiceId : StoreProg VoiceEnd).Meets _ _ _
      rw [resolveVoice_eq]
      have raised : backends.places random (.metaGet voiceId) = .error e := places_invalid backends random invalid
      refine ⟨raised, ?_⟩
      intro r validates
      rw [validates e invalid, eq_of_validate_error invalid]
      exact ⟨"voice", rfl⟩

end Routes

/-! ## `synthesize_core` -/

section Core

variable (host : SynthesisHost) (calls : CoreCalls) (payload : SynthesizeRequest)

/-- What a run of `synthesize_core` touches: the repository calls of `_resolve_voice`, and
the temporary file, if it comes to it. -/
def synthesisPlaces (backends : VoiceBackends) (random : RandomName) (tempDir : String) : List Place :=
  (match synthesisInput host payload with
    | .ok (_, voiceId) => ((resolveVoice voiceId : StoreProg VoiceEnd).asked calls.store).flatMap fun c =>
        match backends.places random c with
        | .ok places => places
        | .error _ => []
    | .error _ => []) ++
  match prepare host calls payload with
  | .ok prepared => [.file (samplePath random tempDir prepared.voiceId)]
  | .error _ => []

variable {host calls payload} {backends : VoiceBackends} {random : RandomName} {tempDir : String}
  {effective : EffectiveSynthesisConfig} {voiceId : String} {e : StoreError}

theorem resolveVoice_invalid (validates : ∀ c, Validates c (calls.store c))
    (invalid : validateVoiceId voiceId = .error e) :
    calls.resolveVoice voiceId =
        .error (.openai (invalidRequest (voiceIdInvalidMessage voiceId) (some "voice"))) ∧
      (resolveVoice voiceId : StoreProg VoiceEnd).asked calls.store = [.metaGet voiceId] := by
  have raised : calls.store (.metaGet voiceId) = .error (.voiceIdInvalid (voiceIdInvalidMessage voiceId)) := by
    rw [← eq_of_validate_error invalid]
    exact validates (.metaGet voiceId) e invalid
  constructor
  · unfold CoreCalls.resolveVoice
    rw [raised]
  · rw [resolveVoice_eq, Prog.asked, raised]
    rfl

/-- The id of the temporary file has been through a repository. -/
theorem prepared_valid (validates : ∀ c, Validates c (calls.store c)) {prepared : Prepared}
    (found : prepare host calls payload = .ok prepared) : validateVoiceId prepared.voiceId = .ok () := by
  rw [prepare_eq] at found
  obtain ⟨⟨effective, voiceId⟩, -, found⟩ := Checked.bind_ok_iff.1 found
  obtain ⟨⟨record, blobBytes⟩, resolved, found⟩ := Checked.bind_ok_iff.1 found
  obtain ⟨chosen, -, built⟩ := Checked.bind_ok_iff.1 found
  cases built
  cases valid : validateVoiceId voiceId with
  | ok _ => rfl
  | error e =>
    rw [(resolveVoice_invalid validates valid).1] at resolved
    cases resolved

theorem samplePath_inside (tempDir : String) (valid : validateVoiceId voiceId = .ok ()) :
    DirectChild tempDir (samplePath random tempDir voiceId) := by
  apply IsName.child
  have joined : "voice-" ++ voiceId ++ "-" ++ random.text ++ ".wav" =
      "voice-" ++ voiceId ++ ("-" ++ random.text ++ ".wav") := by
    simp only [String.append_assoc]
  rw [joined]
  apply isName_of_valid valid rfl
  rw [plain_append, plain_append, random.plain]
  rfl

/-- An id that the validation refuses gets its 400 before anything is touched. -/
theorem synthesis_refuses (validates : ∀ c, Validates c (calls.store c))
    (checked : synthesisInput host payload = .ok (effective, voiceId))
    (invalid : validateVoiceId voiceId = .error e) (str : Fault → String) :
    synthesizeCore host calls payload str =
        .error (.openai (invalidRequest (voiceIdInvalidMessage voiceId) (some "voice"))) ∧
      synthesisPlaces host calls payload backends random tempDir = [] := by
  obtain ⟨refused, asked⟩ := resolveVoice_invalid validates invalid
  have failed : prepare host calls payload =
      .error (.openai (invalidRequest (voiceIdInvalidMessage voiceId) (some "voice"))) := by
    rw [prepare_eq, checked]
    show (calls.resolveVoice voiceId >>= _) = _
    rw [refused]
    rfl
  constructor
  · unfold synthesizeCore
    rw [failed]
    rfl
  · have raised : backends.places random (.metaGet voiceId) = .error e := places_invalid backends random invalid
    unfold synthesisPlaces
    rw [checked, failed]
    dsimp only
    rw [asked, List.flatMap_singleton, raised]
    rfl

/-- Whatever a run touches is a direct child of its directory. -/
theorem synthesisPlaces_inside (validates : ∀ c, Validates c (calls.store c)) {place : Place}
    (member : place ∈ synthesisPlaces host calls payload backends random tempDir) :
    backends.Inside place ∨ ∃ path, place = .file path ∧ DirectChild tempDir path := by
  unfold synthesisPlaces at member
  rcases List.mem_append.1 member with member | member
  · split at member
    · obtain ⟨c, -, there⟩ := List.mem_flatMap.1 member
      left
      cases valid : validateVoiceId c.voiceId with
      | ok _ =>
        obtain ⟨places, found, inside⟩ := places_inside backends random valid
        rw [found] at there
        exact inside place there
      | error e =>
        rw [places_invalid backends random valid] at there
        cases there
    · cases member
  · split at member
    · rename_i prepared found
      cases List.mem_singleton.1 member
      exact .inr ⟨_, rfl, samplePath_inside tempDir (prepared_valid validates found)⟩
    · cases member

end Core

/-! ## Different names -/

section Different

variable {repository : FsBlobRepository} {voiceId other path : String}

theorem basename_pathFor (built : repository.pathFor voiceId = .ok path) : basename path = voiceId ++ ".wav" := by
  obtain ⟨valid, rfl⟩ := pathFor_ok_iff.1 built
  exact basename_join _ (no_slash_of_valid valid)

theorem wav_injective (same : voiceId ++ ".wav" = other ++ ".wav") : voiceId = other := by
  have lists : voiceId.toList ++ ".wav".toList = other.toList ++ ".wav".toList := by
    rw [← String.toList_append, same, String.toList_append]
  exact String.toList_inj.1 (List.append_cancel_right lists)

/-- A blob path is the path of no file whose name ends in another letter. -/
theorem pathFor_ne_join {dir name : String} (built : repository.pathFor voiceId = .ok path)
    (slash : '/' ∉ name.toList) (ends : name.toList.getLast? ≠ some 'v') : path ≠ join dir name := by
  intro same
  have names : voiceId ++ ".wav" = name := by
    rw [← basename_pathFor built, same, basename_join dir slash]
  rw [← names, String.toList_append] at ends
  apply ends
  rw [List.getLast?_append]
  rfl

theorem pathFor_ne_tempPath {dir front : String} (random : RandomName) (isPlain : plain front = true)
    (built : repository.pathFor voiceId = .ok path) : path ≠ tempPath dir front random ".tmp" := by
  have whole : plain (front ++ random.text ++ ".tmp") = true := by
    rw [plain_append, plain_append, isPlain, random.plain]
    rfl
  apply pathFor_ne_join built (not_mem_of_plain whole).1
  rw [String.toList_append, List.getLast?_append]
  show some 'p' ≠ some 'v'
  decide

end Different

/-- The sandbox of the voice store on some backends, with the directory of the temporary
files. -/
structure Sandboxed (backends : VoiceBackends) (tempDir : String) : Prop where
  /-- A repository call raises `VoiceIdInvalidError` before it touches anything, or
  touches direct children only; and its reply says which. -/
  calls : ∀ (random : RandomName) (c : StoreCall),
    (∃ message, backends.places random c = .error (.voiceIdInvalid message) ∧
      ∀ s : Stores, (s.exec c).1 = .error (.voiceIdInvalid message)) ∨
    ∃ places, backends.places random c = .ok places ∧ ∀ place ∈ places, backends.Inside place
  /-- A supplied id that is not valid is refused before anything is touched. -/
  routes : ∀ (random : RandomName) (route : VoiceRoute) (voiceId : String) (e : StoreError),
    route.Supplied voiceId → validateVoiceId voiceId = .error e →
      route.body.Meets Validates (fun c => backends.places random c = .error e) (route.Refused voiceId)
  /-- So it is in `synthesize_core`, with any calls that validate as the repositories do. -/
  synthesis : ∀ (random : RandomName) (host : SynthesisHost) (calls : CoreCalls) (payload : SynthesizeRequest)
    (effective : EffectiveSynthesisConfig) (voiceId : String) (e : StoreError) (str : Fault → String),
    (∀ c, Validates c (calls.store c)) → synthesisInput host payload = .ok (effective, voiceId) →
      validateVoiceId voiceId = .error e →
        synthesizeCore host calls payload str =
            .error (.openai (invalidRequest (voiceIdInvalidMessage voiceId) (some "voice"))) ∧
          synthesisPlaces host calls payload backends random tempDir = []
  sample : ∀ (random : RandomName) (host : SynthesisHost) (calls : CoreCalls) (payload : SynthesizeRequest),
    (∀ c, Validates c (calls.store c)) → ∀ place ∈ synthesisPlaces host calls payload backends random tempDir,
      backends.Inside place ∨ ∃ path, place = .file path ∧ DirectChild tempDir path
  /-- Different ids have different blobs. -/
  distinct : ∀ (repository : FsBlobRepository) (v w path : String),
    repository.pathFor v = .ok path → repository.pathFor w = .ok path → v = w
  keys : ∀ (repository : S3BlobRepository) (v w key : String),
    repository.keyFor v = .ok key → repository.keyFor w = .ok key → v = w
  /-- No blob is a temporary file of a repository, or the document of the records. -/
  apart : ∀ (repository : FsBlobRepository) (records : FsJsonMetadataRepository) (random : RandomName)
    (v path : String), repository.pathFor v = .ok path →
      path ≠ records.metadataPath ∧ path ≠ records.tempPath random ∧
        ∀ w, validateVoiceId w = .ok () → path ≠ repository.tempPathFor random w

/-- **The sandbox of the voice store.** -/
theorem voices_sandboxed (backends : VoiceBackends) (tempDir : String) : Sandboxed backends tempDir := by
  constructor
  · intro random c
    cases valid : validateVoiceId c.voiceId with
    | ok _ => exact .inr (places_inside backends random valid)
    | error e =>
      have message := eq_of_validate_error valid
      subst message
      exact .inl ⟨_, places_invalid backends random valid, fun s => exec_validates s c _ valid⟩
  · intro random route voiceId e supplied invalid
    exact route_refuses backends random route supplied invalid
  · intro random host calls payload effective voiceId e str validates checked invalid
    exact synthesis_refuses validates checked invalid str
  · intro random host calls payload validates place member
    exact synthesisPlaces_inside validates member
  · intro repository v w path left right
    apply wav_injective
    rw [← basename_pathFor left, basename_pathFor right]
  · intro repository v w key left right
    obtain ⟨-, left⟩ := keyFor_ok_iff.1 left
    obtain ⟨-, right⟩ := keyFor_ok_iff.1 right
    exact wav_injective (left.trans right.symm)
  · intro repository records random v path built
    refine ⟨?_, ?_, ?_⟩
    · exact pathFor_ne_join built (by decide) (by decide)
    · exact pathFor_ne_tempPath random rfl built
    · intro w valid
      apply pathFor_ne_tempPath random _ built
      rw [plain_append, plain_append, plain_of_valid valid]
      rfl

end LlmTts
