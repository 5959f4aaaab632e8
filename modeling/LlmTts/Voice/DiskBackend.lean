import LlmTts.Voice.BackendRuns
import LlmTts.Voice.FsBlob

/-!
# The handlers on a disk

The default repositories together: `metadata.json` and a file for each blob. A handler is
written against the contract of the repositories (`Stores.exec`); here its calls are those
of `FsJsonMetadataRepository` and `FsBlobRepository`, and what fails, or is the last thing
to happen before a kill, is a file system call. `method_refines` relates the two for one
repository call, `history_refines` for any history of requests.
-/

namespace LlmTts
open Python Effect FsJsonMetadataRepository

/-! ## The backend -/

/-- The two repositories of the default settings. -/
structure DiskBackend where
  metadata : FsJsonMetadataRepository
  blobs : FsBlobRepository

/-- A call on the document of the records, or on another file. -/
inductive DiskCall where
  | records (c : MetadataCall)
  | file (c : FileCall)

abbrev DiskCall.Reply : DiskCall → Type
  | records _ => MetadataReply
  | file c => c.Reply

structure DiskState where
  documents : Disk
  files : Files

/-- What becomes of a call on the document: it works, the document cannot be read, or it
cannot be replaced, or the call raises after it was replaced. -/
inductive DocumentOutcome where
  | usual
  | unreadable
  | unwritable
  | raisesLate
  deriving DecidableEq

/-- What becomes of the next call, whichever it is, and what the clock reads. -/
structure DiskOutcome where
  document : DocumentOutcome
  now : DateTime
  files : FileOutcomes

namespace DiskBackend

variable (self : DiskBackend) (containerText : Json → String)

/-- One call on the disk. -/
def exec (o : DiskOutcome) (d : DiskState) : (c : DiskCall) → c.Reply × DiskState
  | .records call =>
    match o.document with
    | .usual =>
      let (reply, documents) := (⟨self.metadata, call, o.now, false⟩ : MetadataStep).exec containerText d.documents
      (reply, { d with documents })
    | .unreadable => (.error .other, d)
    | .unwritable =>
      let (reply, documents) := (⟨self.metadata, call, o.now, true⟩ : MetadataStep).exec containerText d.documents
      (reply, { d with documents })
    | .raisesLate =>
      let (_, documents) := (⟨self.metadata, call, o.now, false⟩ : MetadataStep).exec containerText d.documents
      (.error .other, { d with documents })
  | .file call => ((call.exec o.files d.files).1, { d with files := (call.exec o.files d.files).2 })

/-- A call on the document. -/
def ask (call : MetadataCall) : Prog DiskCall DiskCall.Reply MetadataReply := .call (.records call) .ret

/-- A method of the blob repository. -/
def onFiles {α : Type} (p : FileProg α) : Prog DiskCall DiskCall.Reply α :=
  p.inline fun c => .call (.file c) .ret

/-- The method that answers a call. -/
def method : (c : StoreCall) → Prog DiskCall DiskCall.Reply c.Reply :=
  backendMethod ask {
    put := fun v data => onFiles (self.blobs.put v data).run
    get := fun v => onFiles (self.blobs.get v).run
    existsId := fun v => onFiles (self.blobs.existsId v).run
    delete := fun v => onFiles (self.blobs.delete v).run }

end DiskBackend

/-! ## What is on the disk -/

/-- The document is that of the records, and the files are those of the blobs; where
`clean`, there are no others. -/
structure DiskBackend.Mirrors (backend : DiskBackend) (clean : Prop) (d : DiskState) (s : Stores) : Prop where
  document : ∃ m : VoiceMap, Represents (d.documents backend.metadata.storeDir) m ∧ ∀ v, s.metadata v = m.lookup v
  files : backend.blobs.Mirrors clean d.files s

/-- The outcomes of repository calls that the outcomes of calls on the disk come to. -/
structure DiskExplains (allowed : DiskOutcome → Prop) (kind : Outcome StoreError → Prop) (clean : Prop) : Prop where
  works : kind .works
  raises : ∀ o, allowed o → o.document ≠ .usual → kind (.raises .other)
  late : ∀ o, allowed o → o.document = .raisesLate → kind (.raisesLate .other)
  files : Explains (fun os => ∃ o, allowed o ∧ o.files = os) kind clean

/-- The record that a call stores can be read back, and is written or refused as a whole. -/
def Storable (kind : Outcome StoreError → Prop) (c : StoreCall) : Prop :=
  ∀ call record, MetadataCall.ofStore? c = some call → call.record? = some record →
    record.Typed ∧ (record.tooLong = false ∨ kind (.raises .other))

section Methods

variable {backend : DiskBackend} {containerText : Json → String} {allowed : DiskOutcome → Prop} {kind : Outcome StoreError → Prop}
  {clean : Prop} {d : DiskState} {s : Stores} {c : StoreCall}

theorem DiskBackend.Mirrors.loosen (mirrors : backend.Mirrors clean d s) : backend.Mirrors False d s :=
  ⟨mirrors.document, mirrors.files.holds, False.elim⟩

/-- One call on the document, by what becomes of it. -/
theorem records_exec (containerText : Json → String) {call : MetadataCall} (metadata : MetadataCall.ofStore? c = some call)
    (valid : validateVoiceId c.voiceId = .ok ()) (storable : Storable kind c) (explains : DiskExplains allowed kind clean)
    (mirrors : backend.Mirrors clean d s) {o : DiskOutcome} (allow : allowed o) :
    Meets Stores.exec raised kind (backend.Mirrors clean) c s
      ((backend.exec containerText o d (.records call)).1.bind (MetadataAnswer.toStore c))
      (backend.exec containerText o d (.records call)).2 := by
  obtain ⟨⟨m, represents, same⟩, files⟩ := mirrors
  obtain ⟨answer, after⟩ := Stores.exec_metadata same metadata valid
  have about : call.voiceId? = some c.voiceId := by
    cases c <;> cases metadata <;> rfl
  have step (fault : Bool) : Follows backend.metadata.storeDir d.documents
      ((⟨backend.metadata, call, o.now, fault⟩ : MetadataStep).exec containerText d.documents)
      (m.exec (fault || call.record?.any VoiceRecord.tooLong) call).1
      (m.exec (fault || call.record?.any VoiceRecord.tooLong) call).2 := by
    refine MetadataStep.exec_follows containerText ⟨rfl, ?_, ?_⟩ represents
    · intro v here
      cases about.symm.trans here
      exact valid
    · intro record stored
      exact (storable call record metadata stored).1
  -- what is on the disk after a call that is carried out, and after one that is not
  have done {documents : Disk} (written : Represents (documents backend.metadata.storeDir) (m.exec false call).2) :
      backend.Mirrors clean { d with documents } (s.exec c).2 :=
    ⟨⟨_, written, after⟩, files.congr (exec_blobs metadata)⟩
  have unchanged {documents : Disk} (kept : Represents (documents backend.metadata.storeDir) m) :
      backend.Mirrors clean { d with documents } s := ⟨⟨m, kept, same⟩, files⟩
  have long : call.record?.any VoiceRecord.tooLong = true → kind (.raises .other) := by
    intro refused
    cases stored : call.record? with
    | none =>
      rw [stored] at refused
      cases refused
    | some record =>
      rw [stored] at refused
      have tooLong : record.tooLong = true := refused
      exact (storable call record metadata stored).2.resolve_left (by rw [tooLong]; decide)
  have settle {fails : Bool} {result : MetadataReply × Disk} (cause : fails = true → kind (.raises .other))
      (follows : Follows backend.metadata.storeDir d.documents result (m.exec fails call).1 (m.exec fails call).2) :
      Meets Stores.exec raised kind (backend.Mirrors clean) c s (result.1.bind (MetadataAnswer.toStore c))
        { d with documents := result.2 } := by
    have usual (written : m.exec fails call = m.exec false call) :
        Meets Stores.exec raised kind (backend.Mirrors clean) c s (result.1.bind (MetadataAnswer.toStore c))
          { d with documents := result.2 } := by
      rw [written] at follows
      refine .works explains.works ?_ (done follows.represents)
      rw [follows.reply, ← answer, bind_toStore metadata]
    cases fails with
    | false => exact usual rfl
    | true =>
      rcases m.exec_fails call with written | refused
      · exact usual written
      · rw [refused] at follows
        refine .raises (cause rfl) ?_ (unchanged follows.represents)
        rw [follows.reply]
        rfl
  unfold DiskBackend.exec
  cases outcome : o.document with
  | usual => exact settle long (step false)
  | unreadable => exact .raises (explains.raises o allow (by rw [outcome]; decide)) rfl (unchanged represents)
  | unwritable => exact settle (fun _ => explains.raises o allow (by rw [outcome]; decide)) (step true)
  | raisesLate =>
    have follows := step false
    have late (written : m.exec (false || call.record?.any VoiceRecord.tooLong) call = m.exec false call) :
        Meets Stores.exec raised kind (backend.Mirrors clean) c s (.error .other)
          { d with documents :=
            ((⟨backend.metadata, call, o.now, false⟩ : MetadataStep).exec containerText d.documents).2 } := by
      rw [written] at follows
      exact .raisesLate (explains.late o allow outcome) rfl (done follows.represents)
    cases refuses : call.record?.any VoiceRecord.tooLong with
    | false => exact late (by rw [refuses]; rfl)
    | true =>
      rcases m.exec_fails call with written | refused
      · exact late (by rw [refuses]; exact written)
      · rw [refuses, Bool.false_or, refused] at follows
        exact .raises (long refuses) rfl (unchanged follows.represents)

/-- A method of the metadata repository does what its call does under some outcome. -/
theorem recordsMethod_refines {call : MetadataCall} (metadata : MetadataCall.ofStore? c = some call)
    (storable : Storable kind c) (explains : DiskExplains allowed kind clean) (mirrors : backend.Mirrors clean d s) :
    Ensures (backend.exec containerText) allowed
      (fun t => backend.Mirrors False t s ∨ backend.Mirrors False t (s.exec c).2) (recordsMethod DiskBackend.ask c call) d
      (Meets Stores.exec raised kind (backend.Mirrors clean) c s) := by
  unfold recordsMethod
  cases valid : validateVoiceId c.voiceId with
  | error e =>
    have same : s.exec c = (.error e, s) := by
      unfold Stores.exec
      rw [valid]
    refine .works explains.works ?_ ?_
    · rw [same]
    · rw [same]
      exact mirrors
  | ok _ =>
    intro o allow
    have met := records_exec containerText metadata valid storable explains mirrors allow
    refine ⟨?_, met⟩
    obtain ⟨outcome, -, -, next⟩ := met
    cases outcome with
    | works | raisesLate => exact .inr next.loosen
    | raises => exact .inl next.loosen

/-- A method of the blob repository, on the whole disk. -/
theorem onFiles_refines (blob : MetadataCall.ofStore? c = none)
    (mirrors : backend.Mirrors clean d s) {p : FileProg c.Reply}
    (meets : Ensures FileCall.exec (fun os => ∃ o, allowed o ∧ o.files = os) (backend.blobs.Between s c) p d.files
      (Meets Stores.exec raised kind (backend.blobs.Mirrors clean) c s)) :
    Ensures (backend.exec containerText) allowed
      (fun t => backend.Mirrors False t s ∨ backend.Mirrors False t (s.exec c).2) (DiskBackend.onFiles p) d
      (Meets Stores.exec raised kind (backend.Mirrors clean) c s) := by
  obtain ⟨m, represents, same⟩ := mirrors.document
  have untouched {t : DiskState} (kept : t.documents = d.documents) :
      Represents (t.documents backend.metadata.storeDir) m := by
    rw [kept]
    exact represents
  have records : ∀ v, (s.exec c).2.metadata v = m.lookup v := by
    rw [exec_records blob]
    exact same
  have whole : Ensures (backend.exec containerText) allowed
      (fun t => t.documents = d.documents ∧ backend.blobs.Between s c t.files) (DiskBackend.onFiles p) d
      fun reply t => t.documents = d.documents ∧
        Meets Stores.exec raised kind (backend.blobs.Mirrors clean) c s reply t.files := by
    refine Ensures.embed ?_ meets rfl
    intro e t' kept o allow
    exact ⟨⟨kept, _, ⟨o, allow, rfl⟩, rfl⟩, kept, _, ⟨o, allow, rfl⟩, rfl, rfl⟩
  refine (whole.between_mono ?_).mono ?_
  · rintro t ⟨kept, before | after⟩
    · exact .inl ⟨⟨m, untouched kept, same⟩, before, False.elim⟩
    · exact .inr ⟨⟨m, untouched kept, records⟩, after, False.elim⟩
  · rintro reply t ⟨kept, outcome, ofKind, answer, next⟩
    refine ⟨outcome, ofKind, answer, ?_⟩
    cases outcome with
    | works | raisesLate => exact ⟨⟨m, untouched kept, records⟩, next⟩
    | raises => exact ⟨⟨m, untouched kept, same⟩, next⟩

/-- Every method does what its call does under some outcome; cut off, it leaves what there
was before or after the call. -/
theorem method_refines (storable : Storable kind c) (explains : DiskExplains allowed kind clean)
    (mirrors : backend.Mirrors clean d s) :
    Ensures (backend.exec containerText) allowed
      (fun t => backend.Mirrors False t s ∨ backend.Mirrors False t (s.exec c).2) (backend.method c) d
      (Meets Stores.exec raised kind (backend.Mirrors clean) c s) := by
  cases c with
  | metaGet v | metaExists v | metaCreate record | metaUpdate record | metaDelete v =>
    exact recordsMethod_refines rfl storable explains mirrors
  | blobPut v data => exact onFiles_refines rfl mirrors (put_meets explains.files mirrors.files)
  | blobGet v => exact onFiles_refines rfl mirrors (get_meets explains.files mirrors.files)
  | blobExists v => exact onFiles_refines rfl mirrors (existsId_meets explains.files mirrors.files)
  | blobDelete v => exact onFiles_refines rfl mirrors (delete_meets explains.files mirrors.files)

end Methods

end LlmTts
