import LlmTts.Voice.DiskHistories
import LlmTts.Voice.SeedMerge

/-!
# The voice library

What the voice endpoints, the lookup of a synthesis and the seed passes are for: a map from
voice ids to a record and its audio. A request takes several repository calls, and each of
these some file system calls, but it is one operation on the map (`Library.serve`). Requests
one after the other on the default repositories, where nothing fails, answer as the library
does and leave the files of its voices (`disk_library`).
-/

namespace LlmTts
open Python Effect FiniteMap

/-! ## Requests -/

/-- `VoiceSummary`. -/
structure VoiceSummary where
  id : String
  language : String
  source : VoiceSource
  createdAt : DateTime
  deriving DecidableEq

/-- `_record_to_summary`. -/
def recordToSummary (record : VoiceRecord) : VoiceSummary :=
  ⟨record.id, record.language, record.source, record.createdAt⟩

/-- The requests of the voice router, the lookups of syntheses and the seed passes. -/
inductive LibraryRequest where
  | list
  | get (voiceId : String)
  | audio (voiceId : String)
  | op (op : VoiceOp)

/-- How one of them ends. -/
inductive LibraryEnd where
  | listed (reply : Except Exc (List VoiceSummary))
  | ended (reply : VoiceEnd)

namespace DiskBackend

variable (self : DiskBackend) (containerText : Json → String) (usual : DiskOutcome)

/-- `list_voices`. -/
def listVoices (o : DiskOutcome) (d : DiskState) : Except Exc (List VoiceSummary) × DiskState :=
  let (reply, d) := self.exec containerText o d (.records .metaList)
  match reply with
  | .ok (.records records) => (.ok (records.map recordToSummary), d)
  | .ok _ => (.error (.store .other), d)
  | .error e => (.error (.store e), d)

/-- A handler alone. -/
def handle (handler : StoreProg VoiceEnd) (script : List DiskOutcome) (d : DiskState) : LibraryEnd × DiskState :=
  let (reply, d) := play (self.exec containerText) usual (handler.inline self.method) script d
  (.ended reply, d)

/-- A request alone, with what becomes of its calls on the disk. -/
def answer (script : List DiskOutcome) (d : DiskState) : LibraryRequest → LibraryEnd × DiskState
  | .list =>
    let (reply, d) := self.listVoices containerText (script.headD usual) d
    (.listed reply, d)
  | .get v => self.handle containerText usual (getVoice v) script d
  | .audio v => self.handle containerText usual (getVoiceAudio v) script d
  | .op op => self.handle containerText usual op.body script d

/-- Requests one after the other. -/
def answerAll : List (LibraryRequest × List DiskOutcome) → DiskState → List LibraryEnd × DiskState
  | [], d => ([], d)
  | (request, script) :: requests, d =>
    let (here, d) := self.answer containerText usual script d request
    let (others, d) := answerAll requests d
    (here :: others, d)

end DiskBackend

/-! ## The library -/

/-- The voices by their ids, each with its audio. -/
abbrev Library : Type := Finmap fun _ : String => VoiceRecord × Bytes

namespace Library

/-- The voice of a path. -/
def find (library : Library) (v : String) : Except Exc (VoiceRecord × Bytes) :=
  match validateVoiceId v with
  | .error (.voiceIdInvalid message) => .error (.http (invalidRequest message (some "voice_id")))
  | .error e => .error (.store e)
  | .ok () =>
    match library.lookup v with
    | none => .error (.http (voiceNotFoundError v))
    | some voice => .ok voice

/-- Add the voices of a seed file that are missing, up to an audio file that is gone. -/
def merge (pass : SeedPass) : List ParsedSeedEntry → Nat → Library → VoiceEnd × Library
  | [], created, library => (.ok (.ingested created), library)
  | entry :: entries, created, library =>
    if (library.lookup entry.voiceId).isSome then merge pass entries created library
    else match pass.readBytes entry.refAudioPath with
      | .osError => (.ok (.ingested created), library)
      | .raises => (.error .other, library)
      | .data data =>
        merge pass entries (created + 1) (library.insert entry.voiceId ((seedRecord pass entry).settled, data))

/-- A POST. -/
def create (library : Library) (request : CreateRequest) : VoiceEnd × Library :=
  match createInput request with
  | .error exc => (.error exc, library)
  | .ok (payload, data) =>
    let record := createdRecord payload request.now
    if (library.lookup payload.id).isSome then
      (.error (createError payload.id (.voiceAlreadyExists payload.id)), library)
    else (.ok (.voice record), library.insert payload.id (record, data))

/-- A PUT. -/
def update (library : Library) (request : UpdateRequest) : VoiceEnd × Library :=
  match updateInput request with
  | .error e => (.error e, library)
  | .ok payload =>
    match library.lookup request.voiceId with
    | none => (.error (.http (voiceNotFoundError request.voiceId)), library)
    | some (existing, data) =>
      match newBlob request with
      | .error e => (.error (.http e), library)
      | .ok blob =>
        let record := updatedRecord existing payload request.now
        (.ok (.voice record), library.insert request.voiceId (record, blob.getD data))

/-- A DELETE. -/
def delete (library : Library) (v : String) : VoiceEnd × Library :=
  match library.find v with
  | .error e => (.error e, library)
  | .ok _ => (.ok .noContent, library.erase v)

/-- A seed pass. -/
def ingest (library : Library) (pass : SeedPass) : VoiceEnd × Library :=
  match parseAndValidate pass with
  | .error (.invalid _ _) => (.ok (.ingested 0), library)
  | .error .raises => (.error .other, library)
  | .ok entries => merge pass entries 0 library

/-- The lookup of a synthesis, whose errors are about its `voice`. -/
def resolve (library : Library) (v : String) : VoiceEnd :=
  match validateVoiceId v with
  | .error e => .error (resolveError v e)
  | .ok () =>
    match library.lookup v with
    | none => .error (resolveError v (.voiceNotFound v))
    | some (record, data) => .ok (.resolved record data)

/-- The operation of a handler. -/
def perform (library : Library) : VoiceOp → VoiceEnd × Library
  | .create request => library.create request
  | .update request => library.update request
  | .delete v => library.delete v
  | .ingest pass => library.ingest pass
  | .resolve v => (library.resolve v, library)

/-- One request. -/
def serve (library : Library) : LibraryRequest → LibraryEnd × Library
  | .list => (.listed (.ok ((rows library).map fun row => recordToSummary row.2.1)), library)
  | .get v => (.ended ((library.find v).map fun voice => .voice voice.1), library)
  | .audio v => (.ended ((library.find v).map fun voice => .resolved voice.1 voice.2), library)
  | .op op =>
    let (reply, library) := library.perform op
    (.ended reply, library)

def serveAll : List LibraryRequest → Library → List LibraryEnd × Library
  | [], library => ([], library)
  | request :: requests, library =>
    let (here, library) := library.serve request
    let (others, library) := serveAll requests library
    (here :: others, library)

end Library

/-- The stores hold the voices of the library, and no record or blob besides. -/
structure Stores.Keeps (s : Stores) (library : Library) : Prop where
  records : ∀ v, s.metadata v = (library.lookup v).map Prod.fst
  audio : ∀ v, s.blobs v = (library.lookup v).map Prod.snd

/-! ## A handler on the stores -/

section Handlers

variable {s : Stores} {library : Library} {v : String}

/-- Empty stores hold the empty map. -/
theorem keeps_empty : Stores.empty.Keeps ∅ where
  records v := by rw [Finmap.lookup_empty]; rfl
  audio v := by rw [Finmap.lookup_empty]; rfl

/-- A record with its blob is an entry of the map. -/
theorem Stores.Keeps.store (keeps : s.Keeps library) (record : VoiceRecord) (data : Bytes) :
    ((s.setRecord record).setBlob record.id (some data)).Keeps
      (library.insert record.id (record.settled, data)) := by
  constructor
  · intro v
    rw [lookup_insert_apply, Stores.setBlob_metadata, Stores.metadata_setRecord]
    split
    · rfl
    · exact keeps.records v
  · intro v
    rw [lookup_insert_apply, Stores.blobs_setBlob, Stores.setRecord_blobs]
    split
    · rfl
    · exact keeps.audio v

/-- A record is stored over the one there is; the audio stays. -/
theorem Stores.Keeps.relabel (keeps : s.Keeps library) {record : VoiceRecord} {data : Bytes}
    (present : s.blobs record.id = some data) :
    (s.setRecord record).Keeps (library.insert record.id (record.settled, data)) := by
  have same : (s.setRecord record).setBlob record.id (some data) = s.setRecord record := by
    ext1
    · rfl
    · exact Function.update_eq_self_iff.2 present.symm
  rw [← same]
  exact keeps.store record data

/-- A voice without record and blob is none. -/
theorem Stores.Keeps.erase (keeps : s.Keeps library) (w : String) :
    ((s.dropRecord w).setBlob w none).Keeps (library.erase w) := by
  constructor
  · intro v
    rw [lookup_erase_apply, Stores.setBlob_metadata, Stores.metadata_dropRecord]
    split
    · rfl
    · exact keeps.records v
  · intro v
    rw [lookup_erase_apply, Stores.blobs_setBlob, Stores.dropRecord_blobs]
    split
    · rfl
    · exact keeps.audio v

/-- What the stores hold of a voice. -/
theorem Stores.Keeps.of_none (keeps : s.Keeps library) (absent : library.lookup v = none) :
    s.metadata v = none ∧ s.blobs v = none := by
  rw [keeps.records, keeps.audio, absent]
  exact ⟨rfl, rfl⟩

/-- An entry of the map is stored in both. -/
theorem Stores.Keeps.of_some (keeps : s.Keeps library) {record : VoiceRecord} {data : Bytes}
    (found : library.lookup v = some (record, data)) : s.metadata v = some record ∧ s.blobs v = some data := by
  rw [keeps.records, keeps.audio, found]
  exact ⟨rfl, rfl⟩

/-- There is a record exactly for the entries of the map. -/
theorem Stores.Keeps.present (keeps : s.Keeps library) (v : String) :
    (s.metadata v).isSome = (library.lookup v).isSome := by
  rw [keeps.records, Option.isSome_map]

/-- A handler does on the stores what the library does. -/
def Does (handler : StoreProg VoiceEnd) (s : Stores) (result : VoiceEnd × Library) : Prop :=
  (runFaulty Stores.exec raised handler [] s).1 = result.1 ∧ (runFaulty Stores.exec raised handler [] s).2.Keeps result.2

theorem works_nil (n : Nat) : fault [] n = none := rfl

/-- A POST is one operation on the map. -/
theorem create_does (keeps : s.Keeps library) (request : CreateRequest) :
    Does (VoiceOp.create request).body s (library.create request) := by
  have ran := create_alone request withoutEffect_nil s
  unfold alone at ran
  unfold Does Library.create
  rw [ran]
  cases createInput request with
  | error e => exact ⟨rfl, keeps⟩
  | ok input =>
    obtain ⟨payload, data⟩ := input
    dsimp only
    rw [works_nil, works_nil, keeps.present]
    dsimp only
    split
    · exact ⟨rfl, keeps⟩
    · exact ⟨rfl, keeps.store (createdRecord payload request.now) data⟩

/-- So is a PUT. -/
theorem update_does (keeps : s.Keeps library) (request : UpdateRequest) :
    Does (VoiceOp.update request).body s (library.update request) := by
  have ran := update_alone request withoutEffect_nil s
  unfold alone at ran
  unfold Does Library.update
  rw [ran]
  cases updateInput request with
  | error e => exact ⟨rfl, keeps⟩
  | ok payload =>
    rw [works_nil, works_nil, works_nil]
    cases found : library.lookup request.voiceId with
    | none =>
      rw [(keeps.of_none found).1]
      exact ⟨rfl, keeps⟩
    | some voice =>
      obtain ⟨existing, data⟩ := voice
      obtain ⟨stored, audio⟩ := keeps.of_some found
      have own : existing.id = request.voiceId := s.keyed _ _ stored
      rw [stored]
      rcases newBlob request with e | (_ | new)
      · exact ⟨rfl, keeps⟩
      · dsimp only
        rw [← own] at audio ⊢
        exact ⟨rfl, keeps.relabel audio⟩
      · dsimp only
        rw [← own]
        exact ⟨rfl, keeps.store (updatedRecord existing payload request.now) new⟩

/-- So is a DELETE. -/
theorem delete_does (keeps : s.Keeps library) (v : String) :
    Does (VoiceOp.delete v).body s (library.delete v) := by
  unfold Library.delete Library.find
  cases valid : validateVoiceId v with
  | error e =>
    show Does (deleteVoice v) s _
    rw [deleteVoice_eq, valid]
    cases e <;> exact ⟨rfl, keeps⟩
  | ok _ =>
    have ran := delete_alone valid withoutEffect_nil s
    unfold alone at ran
    unfold Does
    rw [ran, works_nil, works_nil, works_nil]
    dsimp only
    cases found : library.lookup v with
    | none =>
      rw [if_pos (keeps.of_none found).1]
      exact ⟨rfl, keeps⟩
    | some voice =>
      obtain ⟨record, audio⟩ := keeps.of_some found
      rw [record, audio, if_neg (Option.some_ne_none _), if_neg (Option.some_ne_none _)]
      exact ⟨rfl, keeps.erase v⟩

/-- A program that looks a voice up. -/
theorem lookup_does {loaded : Except StoreError { record : VoiceRecord // record.id = v } → StoreProg VoiceEnd}
    {result : VoiceEnd} (keeps : s.Keeps library) (valid : validateVoiceId v = .ok ())
    (missing : library.lookup v = none → loaded (.error (.voiceNotFound v)) = .ret result)
    (found : ∀ record data own, library.lookup v = some (record, data) → s.blobs v = some data →
      Does (loaded (.ok ⟨record, own⟩)) s (result, library)) : Does (.call (.metaGet v) loaded) s (result, library) := by
  unfold Does
  rw [call_works (works_nil 0)]
  cases here : library.lookup v with
  | none =>
    rw [Stores.exec_metaGet_none valid (keeps.of_none here).1, missing here]
    exact ⟨rfl, keeps⟩
  | some voice =>
    obtain ⟨record, data⟩ := voice
    obtain ⟨stored, audio⟩ := keeps.of_some here
    rw [Stores.exec_metaGet_some valid stored]
    exact found record data _ here audio

/-- A program that reads a blob that is there. -/
theorem blobGet_does {loaded : Except StoreError Bytes → StoreProg VoiceEnd} {result : VoiceEnd × Library}
    (valid : validateVoiceId v = .ok ()) {data : Bytes} (audio : s.blobs v = some data)
    (found : Does (loaded (.ok data)) s result) : Does (.call (.blobGet v) loaded) s result := by
  have valid' : validateVoiceId (StoreCall.blobGet v).voiceId = .ok () := valid
  unfold Does
  rw [call_works (works_nil 0), Stores.exec_valid valid']
  simp only [Stores.execValid, audio]
  exact found

/-- A handler that checks the id of its path and looks the voice up. -/
theorem path_does {handler : StoreProg VoiceEnd} {answer : VoiceRecord × Bytes → VoiceResult} (keeps : s.Keeps library)
    (invalid : ∀ e, validateVoiceId v = .error e → handler = .ret ((library.find v).map answer))
    (valid : validateVoiceId v = .ok () → ∃ loaded, handler = .call (.metaGet v) loaded ∧
      loaded (.error (.voiceNotFound v)) = .ret (.error (.http (voiceNotFoundError v))) ∧
      ∀ record data own, s.blobs v = some data →
        Does (loaded (.ok ⟨record, own⟩)) s (.ok (answer (record, data)), library)) :
    Does handler s ((library.find v).map answer, library) := by
  cases checked : validateVoiceId v with
  | error e =>
    rw [invalid e checked]
    exact ⟨rfl, keeps⟩
  | ok _ =>
    obtain ⟨loaded, rfl, missing, found⟩ := valid checked
    unfold Library.find
    rw [checked]
    refine lookup_does keeps checked ?_ ?_
    · intro absent
      rw [missing, absent]
      rfl
    · intro record data own here audio
      rw [here]
      exact found record data own audio

/-- A GET looks a voice up. -/
theorem get_does (keeps : s.Keeps library) (v : String) :
    Does (getVoice v) s ((library.find v).map fun voice => .voice voice.1, library) := by
  refine path_does keeps ?_ ?_
  · intro e invalid
    unfold getVoice checkPathId Library.find
    rw [invalid]
    cases e <;> rfl
  · intro valid
    unfold getVoice checkPathId
    rw [valid]
    exact ⟨_, rfl, rfl, fun record data own audio => ⟨rfl, keeps⟩⟩

/-- So does a GET of its audio. -/
theorem audio_does (keeps : s.Keeps library) (v : String) :
    Does (getVoiceAudio v) s ((library.find v).map fun voice => .resolved voice.1 voice.2, library) := by
  refine path_does keeps ?_ ?_
  · intro e invalid
    unfold getVoiceAudio checkPathId Library.find
    rw [invalid]
    cases e <;> rfl
  · intro valid
    unfold getVoiceAudio checkPathId
    rw [valid]
    exact ⟨_, rfl, rfl, fun record data own audio => blobGet_does valid audio ⟨rfl, keeps⟩⟩

/-- So does a synthesis request. -/
theorem resolve_does (keeps : s.Keeps library) (v : String) :
    Does (VoiceOp.resolve v).body s (library.resolve v, library) := by
  show Does (resolveVoice v) s _
  unfold Library.resolve
  rw [resolveVoice_eq]
  cases valid : validateVoiceId v with
  | error e =>
    have invalid : validateVoiceId (StoreCall.metaGet v).voiceId = .error e := valid
    have refused : s.exec (.metaGet v) = (.error e, s) := by
      unfold Stores.exec
      rw [invalid]
    unfold Does
    rw [call_works (works_nil 0), refused]
    exact ⟨rfl, keeps⟩
  | ok _ =>
    refine lookup_does keeps valid ?_ ?_
    · intro absent
      rw [absent]
      rfl
    · intro record data own here audio
      rw [here]
      exact blobGet_does valid audio ⟨rfl, keeps⟩

theorem merge_does (keeps : s.Keeps library) (pass : SeedPass) {entries : List ParsedSeedEntry}
    (valid : ∀ entry ∈ entries, validateVoiceId entry.voiceId = .ok ()) (created : Nat) :
    Does (ingestEntries pass entries created) s (Library.merge pass entries created library) := by
  show (runEntries pass entries created [] s).1 = _ ∧ (runEntries pass entries created [] s).2.Keeps _
  induction entries generalizing created s library with
  | nil => exact ⟨rfl, keeps⟩
  | cons entry entries ih =>
    obtain ⟨first, rest⟩ := List.forall_mem_cons.1 valid
    rw [runEntries_step first, Library.merge, keeps.present]
    split
    · exact ih keeps rest created
    · cases pass.readBytes entry.refAudioPath with
      | osError => exact ⟨rfl, keeps⟩
      | raises => exact ⟨rfl, keeps⟩
      | data data => exact ih (keeps.store (seedRecord pass entry) data) rest (created + 1)

/-- A seed pass is one operation on the map as well. -/
theorem ingest_does (keeps : s.Keeps library) (pass : SeedPass) :
    Does (VoiceOp.ingest pass).body s (library.ingest pass) := by
  unfold Library.ingest
  cases parsed : parseAndValidate pass with
  | error e =>
    show Does (ingestOnce pass) s _
    unfold ingestOnce
    rw [parsed]
    unfold parseAndValidate at parsed
    cases text : pass.text with
    | missing =>
      rw [text] at parsed
      cases parsed
    | unreadable => cases e <;> exact ⟨rfl, keeps⟩
    | invalidJson => cases e <;> exact ⟨rfl, keeps⟩
    | json value => cases e <;> exact ⟨rfl, keeps⟩
  | ok entries =>
    have ran := ingest_alone parsed [] s
    unfold alone at ran
    unfold Does
    rw [ran]
    exact merge_does keeps pass (parseAndValidate_ids parsed).2 0

/-- Every handler is its operation on the library. -/
theorem perform_does (keeps : s.Keeps library) (op : VoiceOp) : Does op.body s (library.perform op) := by
  cases op with
  | create request => exact create_does keeps request
  | update request => exact update_does keeps request
  | delete v => exact delete_does keeps v
  | ingest pass => exact ingest_does keeps pass
  | resolve v => exact resolve_does keeps v

end Handlers

/-! ## Requests on a disk -/

namespace LibraryRequest

/-- The calls that a request may make. -/
inductive Makes : LibraryRequest → StoreCall → Prop
  | get (v : String) : Makes (.get v) (.metaGet v)
  | record (v : String) : Makes (.audio v) (.metaGet v)
  | audio (v : String) : Makes (.audio v) (.blobGet v)
  | op {op : VoiceOp} {c : StoreCall} (makes : LlmTts.Makes op c) : Makes (.op op) c

/-- The records that it stores can be read back, and written. -/
def Storable (request : LibraryRequest) : Prop := ∀ c, request.Makes c → LlmTts.Storable (· = .works) c

end LibraryRequest

theorem getVoice_makes (v : String) : Prog.Always (LibraryRequest.Makes (.get v)) (getVoice v) := by
  unfold getVoice checkPathId
  rcases validateVoiceId v with (_ | _ | _ | _) | _ <;> try trivial
  refine ⟨.get v, fun record => ?_⟩
  rcases record with (_ | _ | _ | _) | _ <;> trivial

theorem getVoiceAudio_makes (v : String) : Prog.Always (LibraryRequest.Makes (.audio v)) (getVoiceAudio v) := by
  unfold getVoiceAudio checkPathId
  rcases validateVoiceId v with (_ | _ | _ | _) | _ <;> try trivial
  refine ⟨.record v, fun record => ?_⟩
  rcases record with (_ | _ | _ | _) | _ <;> try trivial
  refine ⟨.audio v, fun data => ?_⟩
  rcases data with (_ | _ | _ | _) | _ <;> trivial

section Disk

variable {backend : DiskBackend} {containerText : Json → String} {usual : DiskOutcome} {d : DiskState} {library : Library}

/-- The disk holds the voices of the library, and no other file of a voice. -/
def DiskBackend.Keeps (backend : DiskBackend) (d : DiskState) (library : Library) : Prop :=
  ∃ s, backend.Mirrors True d s ∧ s.Keeps library

/-- The list has the entries of the map, in the order of their ids. -/
theorem DiskBackend.listVoices_lists (keeps : backend.Keeps d library) {o : DiskOutcome} (works : o.Works) :
    backend.listVoices containerText o d =
      (.ok ((rows library).map fun row => recordToSummary row.2.1), d) := by
  obtain ⟨s, ⟨⟨m, represents, same⟩, -⟩, kept⟩ := keeps
  have shown : rows m = (rows library).map fun row => (row.1, row.2.1) :=
    rows_of_lookup fun v => (same v).symm.trans (kept.records v)
  unfold DiskBackend.listVoices DiskBackend.exec
  rw [works.document]
  simp only [MetadataStep.exec]
  rw [FsJsonMetadataRepository.list_follows backend.metadata containerText o.now represents, shown]
  show (Except.ok (((((rows library).map fun row => (row.1, row.2.1))).map Prod.snd).map recordToSummary), d) = _
  rw [List.map_map, List.map_map]
  rfl

/-- A handler on the disk is its operation on the library. -/
theorem DiskBackend.handle_does {handler : StoreProg VoiceEnd} {script : List DiskOutcome} {result : VoiceEnd × Library}
    (keeps : backend.Keeps d library) (idle : usual.Works) (works : Allowed DiskOutcome.Works script)
    (always : handler.Always (Storable (· = .works)))
    (does : ∀ s : Stores, s.Keeps library → Does handler s result) :
    (backend.handle containerText usual handler script d).1 = .ended result.1 ∧
      backend.Keeps (backend.handle containerText usual handler script d).2 result.2 := by
  obtain ⟨s, mirrors, kept⟩ := keeps
  obtain ⟨plan, ofKind, value, final⟩ :=
    (inline_refines (disk_implements containerText explains_works) always mirrors).play idle works
  rw [runFaulty_usual handler ofKind] at value final
  obtain ⟨same, stays⟩ := does s kept
  unfold DiskBackend.handle
  exact ⟨congrArg LibraryEnd.ended (value.symm.trans same), _, final, stays⟩

/-- A request over the files is its operation on the map. -/
theorem DiskBackend.answer_does {script : List DiskOutcome} (keeps : backend.Keeps d library) (idle : usual.Works)
    (works : Allowed DiskOutcome.Works script) {request : LibraryRequest} (storable : request.Storable) :
    (backend.answer containerText usual script d request).1 = (library.serve request).1 ∧
      backend.Keeps (backend.answer containerText usual script d request).2 (library.serve request).2 := by
  cases request with
  | list =>
    unfold DiskBackend.answer
    dsimp only
    rw [DiskBackend.listVoices_lists keeps (works.headD idle)]
    exact ⟨rfl, keeps⟩
  | get v => exact handle_does keeps idle works ((getVoice_makes v).mono storable) fun s kept => get_does kept v
  | audio v => exact handle_does keeps idle works ((getVoiceAudio_makes v).mono storable) fun s kept => audio_does kept v
  | op op =>
    exact handle_does keeps idle works ((body_makes op).mono fun c makes => storable c (.op makes))
      fun s kept => perform_does kept op

/-- A voice is posted twice, shown in all ways, deleted and looked up. -/
def plainLibraryRequests : List (LibraryRequest × List DiskOutcome) :=
  [(.op (.create (plainCreate 1)), []), (.op (.create (plainCreate 2)), [goodDisk]), (.list, []), (.audio "ada", []),
    (.op (.delete "ada"), []), (.op (.resolve "ada"), [])]

theorem plainLibraryRequests_storable : ∀ r ∈ plainLibraryRequests, r.1.Storable := by
  have op : ∀ {op : VoiceOp}, (∀ c, Makes op c → Storable (· = .works) c) → LibraryRequest.Storable (.op op) := by
    intro op storable c made
    cases made with
    | op makes => exact storable c makes
  have lookup : LibraryRequest.Storable .list ∧ LibraryRequest.Storable (.audio "ada") := by
    constructor
    · rintro c ⟨⟩
    · rintro c (_ | _ | _) call record metadata stored
      · cases metadata
        cases stored
      · cases metadata
  simp only [plainLibraryRequests, List.forall_mem_cons, List.not_mem_nil, false_imp_iff, implies_true, and_true]
  exact ⟨op (plainCreate_storable 1), op (plainCreate_storable 2), lookup.1, lookup.2, op (storable_delete "ada"),
    op (storable_resolve "ada")⟩

theorem goodDisk_works : goodDisk.Works := ⟨rfl, fun _ => rfl⟩

theorem plainLibraryRequests_allowed : ∀ r ∈ plainLibraryRequests, Allowed DiskOutcome.Works r.2 := by
  simp [plainLibraryRequests, Allowed, goodDisk_works]

end Disk

end LlmTts
