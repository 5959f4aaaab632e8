import LlmTts.Lib.Contract
import LlmTts.Voice.Sandbox

/-!
# The blob repository on a file system

`FsBlobRepository` of `fs_blob.py` as programs over file system calls, each of which may
fail or be the last one before the process is killed. The lock is never contended: no
call is awaited while it is held.
-/

namespace LlmTts
open Python Effect Paths

/-! ## The file system -/

/-- The file system calls of a blob repository. -/
inductive FileCall where
  | create (dir start ending : String)
  | write (path : String) (data : Bytes)
  | flush (path : String)
  | fsync (path : String)
  | close (path : String)
  | replace (source target : String)
  | exists_ (path : String)
  | readBytes (path : String)
  | unlink (path : String)
  deriving DecidableEq

/-- `FileNotFoundError`, or any other `OSError`. -/
inductive FileError where
  | fileNotFound
  | osError
  deriving DecidableEq

namespace FileCall

/-- What a call returns when it does not raise. -/
@[reducible] def Value : FileCall → Type
  | create _ _ _ => String
  | exists_ _ => Bool
  | readBytes _ => Bytes
  | _ => Unit

abbrev Reply (c : FileCall) : Type := Except FileError c.Value

/-- The calls that change which blob a name stands for. -/
def commits : FileCall → Bool
  | replace _ _ | unlink _ => true
  | _ => false

end FileCall

/-- The contents of the files, and for an open file what is to be in it. -/
structure Files where
  entries : String → Option Bytes
  buffer : String → Bytes

namespace Files

def set (files : Files) (path : String) (data : Option Bytes) : Files :=
  { files with entries := Function.update files.entries path data }

@[simp] theorem set_entries (files : Files) (path other : String) (data : Option Bytes) :
    (files.set path data).entries other = if other = path then data else files.entries other :=
  Function.update_apply ..

@[simp] theorem set_buffer (files : Files) (path : String) (data : Option Bytes) :
    (files.set path data).buffer = files.buffer := rfl

end Files

/-- What becomes of a call; one that fails raises `OSError`. A new file gets the random
name; a write passes on the first `kept` bytes and keeps the rest in the buffer. -/
structure FileOutcome where
  outcome : Outcome Unit
  random : RandomName
  kept : Nat

/-- What becomes of the next call, whichever it is. -/
abbrev FileOutcomes : Type := FileCall → FileOutcome

namespace FileCall

/-- The effect of a call, and what it returns or raises by itself. -/
def effect (o : FileOutcome) (files : Files) : (c : FileCall) → c.Reply × Files
  | create dir start ending =>
    let path := tempPath dir start o.random ending
    if (files.entries path).isSome then (.error .osError, files)
    else (.ok path, { files.set path (some []) with buffer := Function.update files.buffer path [] })
  | write path data =>
    (.ok (), { files.set path (some (data.take o.kept)) with buffer := Function.update files.buffer path data })
  | flush path | close path => (.ok (), files.set path (some (files.buffer path)))
  | fsync _ => (.ok (), files)
  | replace source target =>
    match files.entries source with
    | some data => (.ok (), (files.set target (some data)).set source none)
    | none => (.error .fileNotFound, files)
  | exists_ path => (.ok (files.entries path).isSome, files)
  | readBytes path =>
    match files.entries path with
    | some data => (.ok data, files)
    | none => (.error .fileNotFound, files)
  | unlink path =>
    if (files.entries path).isSome then (.ok (), files.set path none) else (.error .fileNotFound, files)

theorem effect_unlink (o : FileOutcome) (files : Files) (path : String) :
    (unlink path).effect o files =
      if (files.entries path).isSome then (.ok (), files.set path none) else (.error .fileNotFound, files) := rfl

/-- A call: it works, or raises before or after its effect. -/
def exec (os : FileOutcomes) (files : Files) (c : FileCall) : c.Reply × Files :=
  match (os c).outcome with
  | .works => c.effect (os c) files
  | .raises _ => (.error .osError, files)
  | .raisesLate _ => (.error .osError, (c.effect (os c) files).2)

end FileCall

/-! ## The repository -/

theorem Stores.exec_blobGet {s : Stores} {v : String} (valid : validateVoiceId v = .ok ()) :
    s.exec (.blobGet v) = ((s.blobs v).elim (.error (.voiceNotFound v)) .ok, s) := by
  have valid' : validateVoiceId (StoreCall.blobGet v).voiceId = .ok () := valid
  rw [exec_valid valid', execValid]
  cases s.blobs v <;> rfl

/-- A program over file system calls. -/
abbrev FileProg (α : Type) : Type := Prog FileCall FileCall.Reply α

/-- A method of a repository: a program over file system calls that may raise. -/
abbrev FileAction (α : Type) : Type := ExceptT StoreError (Prog FileCall FileCall.Reply) α

/-- A file system call; its `OSError` passes through. -/
def file (c : FileCall) : FileAction c.Value :=
  ExceptT.mk (.call c fun reply => .ret (reply.mapError fun _ => .other))

/-- `with fd:`. -/
def withFile (path : String) (body : FileAction Unit) : FileAction Unit := do
  tryCatch body fun exc => do
    file (.close path)
    throw exc
  file (.close path)

/-- `unlink(missing_ok=True)`. -/
def unlinkMissingOk (path : String) : FileAction Unit :=
  ExceptT.mk (.call (.unlink path) fun
    | .error .osError => .ret (.error .other)
    | _ => .ret (.ok ()))

namespace FsBlobRepository

variable (self : FsBlobRepository) (voiceId : String)

/-- The path of the blob, or what its check raises. -/
def target : FileAction String := ExceptT.mk (.ret (self.pathFor voiceId))

/-- What `put` does once it has its temporary file. -/
def fill (tmpPath target : String) (data : Bytes) : FileAction Unit := do
  withFile tmpPath do
    file (.write tmpPath data)
    file (.flush tmpPath)
    file (.fsync tmpPath)
  file (.replace tmpPath target)

/-- `put`. -/
def put (data : Bytes) : FileAction Unit := do
  let target ← self.target voiceId
  let tmpPath : String ← file (.create self.blobsDir ("." ++ voiceId ++ ".") ".tmp")
  tryCatch (fill tmpPath target data) fun exc => do
    unlinkMissingOk tmpPath
    throw exc

/-- `get`. -/
def get : FileAction Bytes := do
  let target ← self.target voiceId
  let present : Bool ← file (.exists_ target)
  unless present do throw (.voiceNotFound voiceId)
  file (.readBytes target)

/-- `exists`. -/
def existsId : FileAction Bool := do
  let target ← self.target voiceId
  file (.exists_ target)

/-- `delete`. -/
def delete : FileAction Unit := do
  let target ← self.target voiceId
  let present : Bool ← file (.exists_ target)
  unless present do throw (.voiceNotFound voiceId)
  file (.unlink target)

end FsBlobRepository

/-! ## What the directory holds -/

namespace FsBlobRepository

variable (repository : FsBlobRepository)

/-- The blobs of the directory are those of the stores. -/
def Holds (files : Files) (s : Stores) : Prop := ∀ v path, repository.pathFor v = .ok path → files.entries path = s.blobs v

/-- Every file, but perhaps that of `spare`, is a blob. -/
def TidyBut (spare : String) (files : Files) : Prop :=
  ∀ path, path ≠ spare → (files.entries path).isSome → ∃ v, repository.pathFor v = .ok path

/-- Every file is a blob. -/
def Tidy (files : Files) : Prop := ∀ path, (files.entries path).isSome → ∃ v, repository.pathFor v = .ok path

/-- The directory holds the blobs of the stores, and where `clean` nothing else. -/
structure Mirrors (clean : Prop) (files : Files) (s : Stores) : Prop where
  holds : repository.Holds files s
  tidy : clean → repository.Tidy files

/-- The same in the midst of a `put`. -/
structure Staged (clean : Prop) (tmpPath : String) (s : Stores) (files : Files) : Prop where
  holds : repository.Holds files s
  tidy : clean → repository.TidyBut tmpPath files

end FsBlobRepository

/-- The outcomes of the calls of a repository that the outcomes of file system calls come
to. Where `clean`, a temporary file is always given to the repository, and removed when
the repository asks for it. -/
structure Explains (allowed : FileOutcomes → Prop) (kind : Outcome StoreError → Prop) (clean : Prop) : Prop where
  works : kind .works
  raises : ∀ o c, allowed o → (o c).outcome ≠ .works → kind (.raises .other)
  late : ∀ o c, allowed o → c.commits = true → (o c).outcome = .raisesLate () → kind (.raisesLate .other)
  named : clean ∨ kind (.raises .other)
  removes : clean → ∀ o path, allowed o → (o (.unlink path)).outcome ≠ .raises ()
  creates : clean → ∀ o dir start ending, allowed o → (o (.create dir start ending)).outcome ≠ .raisesLate ()

/-! ## Calls on a temporary file -/

section Spare

variable {repository : FsBlobRepository} {clean : Prop} {tmpPath voiceId : String} {s : Stores} {files : Files}

theorem tempPathFor_ne (valid : validateVoiceId voiceId = .ok ()) (random : RandomName) (v : String) :
    repository.pathFor v ≠ .ok (repository.tempPathFor random voiceId) := by
  intro built
  apply pathFor_ne_tempPath random _ built rfl
  rw [plain_append, plain_append, plain_of_valid valid]
  rfl

namespace FsBlobRepository

/-- A file that is no blob can have any contents. -/
theorem Staged.set (staged : repository.Staged clean tmpPath s files) (apart : ∀ v, repository.pathFor v ≠ .ok tmpPath)
    (data : Option Bytes) : repository.Staged clean tmpPath s (files.set tmpPath data) := by
  constructor
  · intro v path built
    have other : path ≠ tmpPath := by
      rintro rfl
      exact apart v built
    rw [Files.set_entries, if_neg other]
    exact staged.holds v path built
  · intro cleaned path other present
    rw [Files.set_entries, if_neg other] at present
    exact staged.tidy cleaned path other present

theorem Staged.buffer (staged : repository.Staged clean tmpPath s files) (buffer : String → Bytes) :
    repository.Staged clean tmpPath s { files with buffer := buffer } :=
  ⟨staged.holds, staged.tidy⟩

/-- Without its temporary file a directory in the midst of a `put` is one after it. -/
theorem Staged.mirrors (staged : repository.Staged clean tmpPath s files) (gone : files.entries tmpPath = none) :
    repository.Mirrors clean files s := by
  refine ⟨staged.holds, fun cleaned path present => ?_⟩
  by_cases same : path = tmpPath
  · rw [same, gone] at present
    cases present
  · exact staged.tidy cleaned path same present

/-- Only the blobs of the stores count. -/
theorem Mirrors.congr {t : Stores} (mirrors : repository.Mirrors clean files s) (same : t.blobs = s.blobs) :
    repository.Mirrors clean files t := by
  refine ⟨fun v path built => ?_, mirrors.tidy⟩
  rw [same]
  exact mirrors.holds v path built

theorem Mirrors.staged (mirrors : repository.Mirrors clean files s) : repository.Staged clean tmpPath s files :=
  ⟨mirrors.holds, fun cleaned path _ present => mirrors.tidy cleaned path present⟩

end FsBlobRepository

/-- The calls on an open file, which reach no other file. -/
inductive FileCall.OnOpen (path : String) : FileCall → Prop
  | write (data : Bytes) : OnOpen path (.write path data)
  | flush : OnOpen path (.flush path)
  | fsync : OnOpen path (.fsync path)
  | close : OnOpen path (.close path)

open FsBlobRepository FileCall

theorem FsBlobRepository.Staged.effect {c : FileCall} (onOpen : c.OnOpen tmpPath) (staged : repository.Staged clean tmpPath s files)
    (apart : ∀ v, repository.pathFor v ≠ .ok tmpPath) (o : FileOutcome) :
    repository.Staged clean tmpPath s (c.effect o files).2 := by
  cases onOpen with
  | write data => exact (staged.set apart _).buffer _
  | flush => exact staged.set apart _
  | fsync => exact staged
  | close => exact staged.set apart _

/-- Whatever becomes of a call on the temporary file, the blobs stay. -/
theorem FsBlobRepository.Staged.exec {c : FileCall} (onOpen : c.OnOpen tmpPath) (staged : repository.Staged clean tmpPath s files)
    (apart : ∀ v, repository.pathFor v ≠ .ok tmpPath) (o : FileOutcomes) :
    repository.Staged clean tmpPath s (c.exec o files).2 := by
  unfold FileCall.exec
  cases (o c).outcome with
  | works => exact staged.effect onOpen apart _
  | raises _ => exact staged
  | raisesLate _ => exact staged.effect onOpen apart _

end Spare

/-! ## The methods -/

section Methods

variable {repository : FsBlobRepository} {allowed : FileOutcomes → Prop} {kind : Outcome StoreError → Prop} {clean : Prop}
  {between : Files → Prop} {tmpPath voiceId path : String} {s : Stores} {files : Files} {data : Bytes}

open FsBlobRepository FileCall

/-- What a call replies and leaves, by its outcome. -/
inductive ExecCase (o : FileOutcomes) (files : Files) (c : FileCall) : c.Reply × Files → Prop
  | works (usual : (o c).outcome = .works) : ExecCase o files c (c.effect (o c) files)
  | raises (fails : (o c).outcome = .raises ()) : ExecCase o files c (.error .osError, files)
  | raisesLate (fails : (o c).outcome = .raisesLate ()) : ExecCase o files c (.error .osError, (c.effect (o c) files).2)

theorem execCase (o : FileOutcomes) (files : Files) (c : FileCall) : ExecCase o files c (c.exec o files) := by
  unfold FileCall.exec
  cases outcome : (o c).outcome with
  | works => exact .works outcome
  | raises _ => exact .raises outcome
  | raisesLate _ => exact .raisesLate outcome

/-- A call that a method makes, and what holds after it. -/
theorem file_ensures {c : FileCall} {post : Except StoreError c.Value → Files → Prop}
    (after : ∀ o result, allowed o → ExecCase o files c result → between result.2 ∧
      post (result.1.mapError fun _ => .other) result.2) :
    Ensures FileCall.exec allowed between (file c).run files post :=
  fun o allow => after o _ allow (execCase o files c)

/-- A call on the temporary file: if it works, then as its effect says. -/
theorem file_onOpen {c : FileCall} (onOpen : c.OnOpen tmpPath) (explains : Explains allowed kind clean)
    (apart : ∀ v, repository.pathFor v ≠ .ok tmpPath) (staged : repository.Staged clean tmpPath s files)
    (stays : ∀ files', repository.Staged clean tmpPath s files' → between files')
    {post : Except StoreError c.Value → Files → Prop}
    (works : ∀ o, repository.Staged clean tmpPath s (c.effect o files).2 →
      post ((c.effect o files).1.mapError fun _ => .other) (c.effect o files).2)
    (raises : ∀ files', kind (.raises .other) → repository.Staged clean tmpPath s files' → post (.error .other) files') :
    Ensures FileCall.exec allowed between (file c).run files post := by
  intro o allow
  have next := staged.exec onOpen apart o
  refine ⟨stays _ next, ?_⟩
  show post ((c.exec o files).1.mapError fun _ => .other) (c.exec o files).2
  have ended := execCase o files c
  generalize c.exec o files = result at ended next ⊢
  cases ended with
  | works usual => exact works _ next
  | raises fails => exact raises _ (explains.raises o c allow (by rw [fails]; decide)) next
  | raisesLate fails => exact raises _ (explains.raises o c allow (by rw [fails]; decide)) next

section Put

variable (explains : Explains allowed kind clean) (apart : ∀ v, repository.pathFor v ≠ .ok tmpPath)
  (stays : ∀ files', repository.Staged clean tmpPath s files' → between files')

include explains apart stays

/-- A call on the temporary file, and what its effect brings about. -/
theorem onOpen_ensures {c : FileCall} (onOpen : c.OnOpen tmpPath) (kept : Files → Prop)
    (staged : repository.Staged clean tmpPath s files) (keeps : ∀ o, kept (c.effect o files).2) :
    Ensures FileCall.exec allowed between (file c).run files
      (Ended (fun _ files' => repository.Staged clean tmpPath s files' ∧ kept files')
        fun e files' => e = .other ∧ kind (.raises .other) ∧ repository.Staged clean tmpPath s files') := by
  refine file_onOpen onOpen explains apart staged stays ?_ fun files' raises next => ⟨rfl, raises, next⟩
  intro o next
  have kept := keeps o
  cases onOpen <;> exact ⟨next, kept⟩

/-- A write to the temporary file: all is in the buffer or the file, or it failed. -/
theorem written_ensures (staged : repository.Staged clean tmpPath s files) :
    Ensures FileCall.exec allowed between
      (do file (.write tmpPath data); file (.flush tmpPath); file (.fsync tmpPath) : FileAction Unit).run files
      (Ended (fun _ files' => repository.Staged clean tmpPath s files' ∧ files'.buffer tmpPath = data)
        fun e files' => e = .other ∧ kind (.raises .other) ∧ repository.Staged clean tmpPath s files') := by
  have write := onOpen_ensures explains apart stays (.write data) (·.buffer tmpPath = data) staged fun o =>
    Function.update_self ..
  refine write.run_bind ?_ fun e files' failed => failed
  rintro - files' ⟨next, kept⟩
  have flush := onOpen_ensures explains apart stays .flush (·.buffer tmpPath = data) next fun o => kept
  refine flush.run_bind ?_ fun e files' failed => failed
  rintro - files' ⟨flushed, kept⟩
  exact onOpen_ensures explains apart stays .fsync (·.buffer tmpPath = data) flushed fun o => kept

/-- With the file closed, all of it is in the file. -/
theorem withFile_ensures (staged : repository.Staged clean tmpPath s files) :
    Ensures FileCall.exec allowed between
      (withFile tmpPath do file (.write tmpPath data); file (.flush tmpPath); file (.fsync tmpPath)).run files
      (Ended (fun _ files' => repository.Staged clean tmpPath s files' ∧ files'.entries tmpPath = some data)
        fun e files' => e = .other ∧ kind (.raises .other) ∧ repository.Staged clean tmpPath s files') := by
  have body : Ensures FileCall.exec allowed between
      (tryCatch (do file (.write tmpPath data); file (.flush tmpPath); file (.fsync tmpPath)) fun exc => do
        file (.close tmpPath)
        throw exc : FileAction Unit).run files
      (Ended (fun _ files' => repository.Staged clean tmpPath s files' ∧ files'.buffer tmpPath = data)
        fun e files' => e = .other ∧ kind (.raises .other) ∧ repository.Staged clean tmpPath s files') := by
    refine (written_ensures explains apart stays staged).run_tryCatch (fun _ files' done => done) ?_
    rintro e files' ⟨rfl, raises, next⟩
    have close := onOpen_ensures explains apart stays .close (fun _ => True) next fun o => trivial
    exact close.run_bind (fun _ files' closed => ⟨rfl, raises, closed.1⟩) fun e files' failed => failed
  refine body.run_bind ?_ fun e files' failed => failed
  rintro - files' ⟨next, kept⟩
  refine onOpen_ensures explains apart stays .close (·.entries tmpPath = some data) next fun o => ?_
  show (files'.set tmpPath (some (files'.buffer tmpPath))).entries tmpPath = some data
  rw [Files.set_entries, if_pos rfl, kept]

end Put

/-- Blobs with one path are those of one id. -/
theorem pathFor_inj {v other : String} (built : repository.pathFor voiceId = .ok path)
    (named : repository.pathFor v = .ok other) : other = path ↔ v = voiceId := by
  constructor
  · rintro rfl
    exact wav_injective ((basename_pathFor named).symm.trans (basename_pathFor built))
  · rintro rfl
    exact Except.ok.inj (named.symm.trans built)

/-- `os.replace` of a complete temporary file. -/
theorem replaced_mirrors (apart : ∀ v, repository.pathFor v ≠ .ok tmpPath)
    (built : repository.pathFor voiceId = .ok path) (staged : repository.Staged clean tmpPath s files) (data : Bytes) :
    repository.Mirrors clean ((files.set path (some data)).set tmpPath none) (s.setBlob voiceId (some data)) := by
  constructor
  · intro v other named
    have different : other ≠ tmpPath := by
      rintro rfl
      exact apart v named
    rw [Files.set_entries, if_neg different, Files.set_entries, Stores.blobs_setBlob]
    simp only [pathFor_inj built named]
    split
    · rfl
    · exact staged.holds v other named
  · intro cleaned other present
    rw [Files.set_entries] at present
    split at present
    · cases present
    · rename_i different
      rw [Files.set_entries] at present
      split at present
      · rename_i same
        exact ⟨voiceId, same ▸ built⟩
      · exact staged.tidy cleaned other different present

/-- A temporary file that is complete is made the blob, unless that raises. -/
theorem fill_ensures (explains : Explains allowed kind clean) (apart : ∀ v, repository.pathFor v ≠ .ok tmpPath)
    (built : repository.pathFor voiceId = .ok path)
    (stays : ∀ files', repository.Staged clean tmpPath s files' → between files')
    (stored : ∀ files', repository.Mirrors clean files' (s.setBlob voiceId (some data)) → between files')
    (staged : repository.Staged clean tmpPath s files) :
    Ensures FileCall.exec allowed between (fill tmpPath path data).run files
      (Ended (fun _ files' => repository.Mirrors clean files' (s.setBlob voiceId (some data)))
        fun e files' => e = .other ∧ (kind (.raises .other) ∧ repository.Staged clean tmpPath s files' ∨
          kind (.raisesLate .other) ∧ repository.Mirrors clean files' (s.setBlob voiceId (some data)))) := by
  refine Ensures.run_bind (withFile_ensures explains apart stays staged) ?_ ?_
  · rintro - files' ⟨next, complete⟩
    have mirrors := replaced_mirrors apart built next data
    have moved (o : FileOutcome) : (FileCall.replace tmpPath path).effect o files' =
        (.ok (), (files'.set path (some data)).set tmpPath none) := by
      simp only [FileCall.effect, complete]
    refine file_ensures fun o result allow ended => ?_
    cases ended with
    | works usual =>
      rw [moved]
      exact ⟨stored _ mirrors, mirrors⟩
    | raises fails =>
      have permitted := explains.raises o _ allow (by rw [fails]; decide)
      exact ⟨stays _ next, rfl, .inl ⟨permitted, next⟩⟩
    | raisesLate fails =>
      have permitted := explains.late o _ allow rfl fails
      rw [moved]
      exact ⟨stored _ mirrors, rfl, .inr ⟨permitted, mirrors⟩⟩
  · rintro e files' ⟨rfl, raises, next⟩
    exact ⟨rfl, .inl ⟨raises, next⟩⟩

/-- The temporary file is removed, and what the removal raises is what `put` raises anyway. -/
theorem unlink_ensures (explains : Explains allowed kind clean) (apart : ∀ v, repository.pathFor v ≠ .ok tmpPath)
    (stays : ∀ files', repository.Staged clean tmpPath s files' → between files')
    (staged : repository.Staged clean tmpPath s files) :
    Ensures FileCall.exec allowed between
      (do unlinkMissingOk tmpPath; throw .other : FileAction Unit).run files
      (Ended (fun _ _ => False) fun e files' => e = .other ∧ repository.Mirrors clean files' s) := by
  have removed (o : FileOutcome) : repository.Mirrors clean ((FileCall.unlink tmpPath).effect o files).2 s := by
    rw [FileCall.effect_unlink]
    split
    · exact (staged.set apart none).mirrors (by rw [Files.set_entries, if_pos rfl])
    · rename_i absent
      exact staged.mirrors (Option.not_isSome_iff_eq_none.1 absent)
  have unlinked : Ensures FileCall.exec allowed between (unlinkMissingOk tmpPath).run files
      (Ended (fun _ files' => repository.Mirrors clean files' s)
        fun e files' => e = .other ∧ repository.Mirrors clean files' s) := by
    intro o allow
    have ended := execCase o files (.unlink tmpPath)
    dsimp only
    generalize (FileCall.unlink tmpPath).exec o files = result at ended ⊢
    cases ended with
    | works usual =>
      refine ⟨stays _ (removed _).staged, ?_⟩
      have next := removed (o (.unlink tmpPath))
      rw [FileCall.effect_unlink] at next ⊢
      split at next
      · rename_i present
        rw [if_pos present]
        exact next
      · rename_i absent
        rw [if_neg absent]
        exact next
    | raises fails =>
      refine ⟨stays _ staged, rfl, staged.holds, fun cleaned => ?_⟩
      exact absurd fails (explains.removes cleaned o tmpPath allow)
    | raisesLate fails => exact ⟨stays _ (removed _).staged, rfl, removed _⟩
  refine Ensures.run_bind unlinked (fun _ files' next => ⟨rfl, next⟩) fun e files' failed => failed

/-- The new temporary file of a `put`. -/
theorem create_ensures (explains : Explains allowed kind clean) (valid : validateVoiceId voiceId = .ok ())
    (stays : ∀ files', repository.Holds files' s → between files') (mirrors : repository.Mirrors clean files s) :
    Ensures FileCall.exec allowed between (file (.create repository.blobsDir ("." ++ voiceId ++ ".") ".tmp")).run files
      (Ended (fun tmpPath files' => (∀ v, repository.pathFor v ≠ .ok tmpPath) ∧ repository.Staged clean tmpPath s files')
        fun e files' => e = .other ∧ kind (.raises .other) ∧ repository.Mirrors clean files' s) := by
  have opened (o : FileOutcome) : repository.Staged clean (repository.tempPathFor o.random voiceId) s
      ((FileCall.create repository.blobsDir ("." ++ voiceId ++ ".") ".tmp").effect o files).2 := by
    have apart := @tempPathFor_ne repository voiceId valid o.random
    unfold FileCall.effect
    dsimp only
    split
    · exact mirrors.staged
    · exact (mirrors.staged.set apart _).buffer _
  refine file_ensures fun o result allow ended => ?_
  cases ended with
  | works usual =>
    have apart := @tempPathFor_ne repository voiceId valid
      (o (.create repository.blobsDir ("." ++ voiceId ++ ".") ".tmp")).random
    have staged := opened (o (.create repository.blobsDir ("." ++ voiceId ++ ".") ".tmp"))
    refine ⟨stays _ staged.holds, ?_⟩
    unfold FileCall.effect at staged ⊢
    dsimp only at staged ⊢
    split at staged
    · rename_i taken
      rw [if_pos taken]
      refine ⟨rfl, ?_, mirrors⟩
      rcases explains.named with cleaned | raises
      · obtain ⟨v, built⟩ := mirrors.tidy cleaned _ taken
        exact absurd built (apart v)
      · exact raises
    · rename_i free
      rw [if_neg free]
      exact ⟨apart, staged⟩
  | raises fails => exact ⟨stays _ mirrors.holds, rfl, explains.raises o _ allow (by rw [fails]; decide), mirrors⟩
  | raisesLate fails =>
    have staged := opened (o (.create repository.blobsDir ("." ++ voiceId ++ ".") ".tmp"))
    refine ⟨stays _ staged.holds, rfl, explains.raises o _ allow (by rw [fails]; decide), staged.holds, fun cleaned => ?_⟩
    exact absurd fails (explains.creates cleaned o _ _ _ allow)

/-- The directory holds the blobs before or after the call. -/
def FsBlobRepository.Between (repository : FsBlobRepository) (s : Stores) (c : StoreCall) (files : Files) : Prop :=
  repository.Holds files s ∨ repository.Holds files (s.exec c).2

/-- A method whose id is not valid raises what the call raises, before it calls anything. -/
theorem target_meets (c : StoreCall) (usual : kind .works) (mirrors : repository.Mirrors clean files s)
    {method : String → FileAction c.Value}
    (after : ∀ path, repository.pathFor c.voiceId = .ok path → validateVoiceId c.voiceId = .ok () →
      Ensures FileCall.exec allowed between (method path).run files
        (Meets Stores.exec raised kind (repository.Mirrors clean) c s)) :
    Ensures FileCall.exec allowed between (repository.target c.voiceId >>= method).run files
      (Meets Stores.exec raised kind (repository.Mirrors clean) c s) := by
  cases valid : validateVoiceId c.voiceId with
  | ok _ =>
    have built : repository.pathFor c.voiceId = .ok (join repository.blobsDir (c.voiceId ++ ".wav")) :=
      pathFor_ok_iff.2 ⟨valid, rfl⟩
    unfold FsBlobRepository.target
    rw [built]
    exact after _ built valid
  | error e =>
    have refused : repository.pathFor c.voiceId = .error e := by
      unfold FsBlobRepository.pathFor
      rw [valid]
      rfl
    have same : s.exec c = (.error e, s) := by
      unfold Stores.exec
      rw [valid]
    unfold FsBlobRepository.target
    rw [refused]
    show Meets Stores.exec raised kind (repository.Mirrors clean) c s (.error e) files
    refine .works usual ?_ ?_
    · rw [same]
    · rw [same]
      exact mirrors

/-- `put` stores all of the blob or leaves the old one. -/
theorem put_meets (explains : Explains allowed kind clean) (mirrors : repository.Mirrors clean files s) :
    Ensures FileCall.exec allowed (repository.Between s (.blobPut voiceId data)) (repository.put voiceId data).run files
      (Meets Stores.exec raised kind (repository.Mirrors clean) (.blobPut voiceId data) s) := by
  refine target_meets (.blobPut voiceId data) explains.works mirrors ?_
  intro path built valid
  dsimp only [StoreCall.voiceId] at built valid
  have effect := @Stores.exec_blobPut s voiceId data valid
  have old : ∀ files', repository.Holds files' s → repository.Between s (.blobPut voiceId data) files' :=
    fun files' holds => .inl holds
  have new : ∀ files', repository.Mirrors clean files' (s.setBlob voiceId (some data)) →
      repository.Between s (.blobPut voiceId data) files' := by
    intro files' stored
    right
    rw [effect]
    exact stored.holds
  have done : ∀ reply files', kind .works → reply = .ok () → repository.Mirrors clean files' (s.setBlob voiceId (some data)) →
      Meets Stores.exec raised kind (repository.Mirrors clean) (.blobPut voiceId data) s reply files' := by
    rintro reply files' usual rfl stored
    exact .works usual (by rw [effect]) (by rw [effect]; exact stored)
  have failed : ∀ reply files', reply = .error .other →
      (kind (.raises .other) ∧ repository.Mirrors clean files' s ∨
        kind (.raisesLate .other) ∧ repository.Mirrors clean files' (s.setBlob voiceId (some data))) →
      Meets Stores.exec raised kind (repository.Mirrors clean) (.blobPut voiceId data) s reply files' := by
    rintro reply files' rfl (⟨fails, unchanged⟩ | ⟨fails, stored⟩)
    · exact .raises fails rfl unchanged
    · exact .raisesLate fails rfl (by rw [effect]; exact stored)
  refine Ensures.run_bind (create_ensures explains valid old mirrors) ?_ ?_
  · rintro tmpPath files' ⟨apart, staged⟩
    refine Ensures.run_tryCatch (fill_ensures explains apart built (fun f staged => old f staged.holds) new staged)
      (fun _ f stored => done _ f explains.works rfl stored) ?_
    rintro e f ⟨rfl, ⟨fails, unchanged⟩ | ⟨fails, stored⟩⟩
    · refine (unlink_ensures explains apart (fun f staged => old f staged.holds) unchanged).mono ?_
      rintro (e | _) f ended
      · obtain ⟨rfl, mirrors⟩ := ended
        exact failed _ f rfl (.inl ⟨fails, mirrors⟩)
      · cases ended
    · refine (unlink_ensures explains apart (fun f staged => ?_) stored.staged).mono ?_
      · right
        rw [effect]
        exact staged.holds
      rintro (e | _) f ended
      · obtain ⟨rfl, mirrors⟩ := ended
        exact failed _ f rfl (.inr ⟨fails, mirrors⟩)
      · cases ended
  · rintro e files' ⟨rfl, fails, unchanged⟩
    exact failed _ files' rfl (.inl ⟨fails, unchanged⟩)

/-- A call that only looks at a blob. -/
theorem look_ensures {c : FileCall} (quiet : ∀ o, (c.effect o files).2 = files) (explains : Explains allowed kind clean)
    (stays : between files) {post : Except StoreError c.Value → Files → Prop}
    (works : ∀ o, post ((c.effect o files).1.mapError fun _ => .other) files)
    (raises : kind (.raises .other) → post (.error .other) files) :
    Ensures FileCall.exec allowed between (file c).run files post := by
  refine file_ensures fun o result allow ended => ?_
  cases ended with
  | works usual =>
    have same := works (o c)
    rw [quiet]
    exact ⟨stays, same⟩
  | raises fails => exact ⟨stays, raises (explains.raises o c allow (by rw [fails]; decide))⟩
  | raisesLate fails =>
    rw [quiet]
    exact ⟨stays, raises (explains.raises o c allow (by rw [fails]; decide))⟩

/-- Whether the blob of an id is there. -/
theorem present_ensures (explains : Explains allowed kind clean) (mirrors : repository.Mirrors clean files s)
    (built : repository.pathFor voiceId = .ok path) (stays : between files) :
    Ensures FileCall.exec allowed between (file (.exists_ path)).run files
      (Ended (fun present files' => present = (s.blobs voiceId).isSome ∧ files' = files)
        fun e files' => e = .other ∧ kind (.raises .other) ∧ files' = files) := by
  refine look_ensures (fun _ => rfl) explains stays ?_ fun fails => ⟨rfl, fails, rfl⟩
  intro o
  exact ⟨congrArg Option.isSome (mirrors.holds voiceId path built), rfl⟩

/-- `exists`. -/
theorem existsId_meets (explains : Explains allowed kind clean) (mirrors : repository.Mirrors clean files s) :
    Ensures FileCall.exec allowed (repository.Between s (.blobExists voiceId)) (repository.existsId voiceId).run files
      (Meets Stores.exec raised kind (repository.Mirrors clean) (.blobExists voiceId) s) := by
  refine target_meets (.blobExists voiceId) explains.works mirrors ?_
  intro path built valid
  dsimp only [StoreCall.voiceId] at built valid
  have effect := Stores.exec_blobExists (s := s) valid
  refine look_ensures (fun _ => rfl) explains (.inl mirrors.holds) ?_ fun fails => .raises fails rfl mirrors
  intro o
  refine .works explains.works ?_ ?_
  · rw [effect, ← mirrors.holds voiceId path built]
    rfl
  · rw [effect]
    exact mirrors

/-- `get`. -/
theorem get_meets (explains : Explains allowed kind clean) (mirrors : repository.Mirrors clean files s) :
    Ensures FileCall.exec allowed (repository.Between s (.blobGet voiceId)) (repository.get voiceId).run files
      (Meets Stores.exec raised kind (repository.Mirrors clean) (.blobGet voiceId) s) := by
  refine target_meets (.blobGet voiceId) explains.works mirrors ?_
  intro path built valid
  dsimp only [StoreCall.voiceId] at built valid
  have effect := Stores.exec_blobGet (s := s) valid
  have here := mirrors.holds voiceId path built
  refine (present_ensures explains mirrors built (.inl mirrors.holds)).run_bind ?_ ?_
  · rintro present files' ⟨rfl, rfl⟩
    cases found : s.blobs voiceId with
    | none =>
      rw [found] at effect
      show Meets Stores.exec raised kind (repository.Mirrors clean) (.blobGet voiceId) s (.error (.voiceNotFound voiceId)) files'
      refine .works explains.works ?_ ?_
      · rw [effect]
        rfl
      · rw [effect]
        exact mirrors
    | some data =>
      rw [found] at here effect
      have read (o : FileOutcome) : (FileCall.readBytes path).effect o files' = (.ok data, files') := by
        simp only [FileCall.effect, here]
      refine look_ensures (fun o => by rw [read]) explains (.inl mirrors.holds) ?_ fun fails => .raises fails rfl mirrors
      intro o
      rw [read]
      refine .works explains.works ?_ ?_
      · rw [effect]
        rfl
      · rw [effect]
        exact mirrors
  · rintro e files' ⟨rfl, fails, rfl⟩
    exact .raises fails rfl mirrors

/-- The file of a blob is removed. -/
theorem unlinked_mirrors (built : repository.pathFor voiceId = .ok path) (mirrors : repository.Mirrors clean files s) :
    repository.Mirrors clean (files.set path none) (s.setBlob voiceId none) := by
  constructor
  · intro v other named
    simp only [Files.set_entries, Stores.blobs_setBlob, pathFor_inj built named]
    split
    · rfl
    · exact mirrors.holds v other named
  · intro cleaned other present
    rw [Files.set_entries] at present
    split at present
    · cases present
    · exact mirrors.tidy cleaned other present

/-- `delete`. -/
theorem delete_meets (explains : Explains allowed kind clean) (mirrors : repository.Mirrors clean files s) :
    Ensures FileCall.exec allowed (repository.Between s (.blobDelete voiceId)) (repository.delete voiceId).run files
      (Meets Stores.exec raised kind (repository.Mirrors clean) (.blobDelete voiceId) s) := by
  refine target_meets (.blobDelete voiceId) explains.works mirrors ?_
  intro path built valid
  dsimp only [StoreCall.voiceId] at built valid
  have effect := Stores.exec_blobDelete (s := s) valid
  have here := mirrors.holds voiceId path built
  refine (present_ensures explains mirrors built (.inl mirrors.holds)).run_bind ?_ ?_
  · rintro present files' ⟨rfl, rfl⟩
    cases found : s.blobs voiceId with
    | none =>
      rw [found] at effect
      show Meets Stores.exec raised kind (repository.Mirrors clean) (.blobDelete voiceId) s (.error (.voiceNotFound voiceId)) files'
      refine .works explains.works ?_ ?_
      · rw [effect]
        rfl
      · rw [effect]
        exact mirrors
    | some data =>
      rw [found] at here effect
      have removed (o : FileOutcome) : (FileCall.unlink path).effect o files' = (.ok (), files'.set path none) := by
        rw [FileCall.effect_unlink, here]
        rfl
      have erased := unlinked_mirrors built mirrors
      refine file_ensures fun o result allow ended => ?_
      cases ended with
      | works usual =>
        rw [removed]
        refine ⟨.inr ?_, .works explains.works ?_ ?_⟩
        · rw [effect]
          exact erased.holds
        · rw [effect]
          rfl
        · rw [effect]
          exact erased
      | raises fails =>
        exact ⟨.inl mirrors.holds, .raises (explains.raises o _ allow (by rw [fails]; decide)) rfl mirrors⟩
      | raisesLate fails =>
        rw [removed]
        refine ⟨.inr ?_, .raisesLate (explains.late o _ allow rfl fails) rfl ?_⟩
        · rw [effect]
          exact erased.holds
        · rw [effect]
          exact erased
  · rintro e files' ⟨rfl, fails, rfl⟩
    exact .raises fails rfl mirrors

end Methods

end LlmTts
