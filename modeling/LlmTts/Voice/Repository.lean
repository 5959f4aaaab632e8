import LlmTts.Lib.Effect
import LlmTts.Voice.Records

/-!
# The two voice repositories

The contract of `VoiceMetadataRepository` and `VoiceBlobRepository`: the calls a
handler can make (`StoreCall`), the stores they act on, and what each call
answers (`Stores.exec`). Every call validates its id first. A handler is a
program over these calls that returns a value or raises.
-/

namespace LlmTts
open Python Effect

/-- A call of one of the two repositories. -/
inductive StoreCall where
  | metaGet (voiceId : String)
  | metaExists (voiceId : String)
  | metaCreate (record : VoiceRecord)
  | metaUpdate (record : VoiceRecord)
  | metaDelete (voiceId : String)
  | blobPut (voiceId : String) (data : Bytes)
  | blobGet (voiceId : String)
  | blobExists (voiceId : String)
  | blobDelete (voiceId : String)

namespace StoreCall

/-- The id a call is about. -/
def voiceId : StoreCall → String
  | metaGet v | metaExists v | metaDelete v | blobPut v _ | blobGet v | blobExists v
  | blobDelete v => v
  | metaCreate record | metaUpdate record => record.id

/-- The value a call returns when it does not raise. -/
@[reducible] def Value : StoreCall → Type
  | metaGet v => { record : VoiceRecord // record.id = v }
  | metaExists _ | blobExists _ => Bool
  | metaCreate _ | metaUpdate _ => VoiceRecord
  | metaDelete _ | blobPut _ _ | blobDelete _ => Unit
  | blobGet _ => Bytes

abbrev Reply (c : StoreCall) : Type := Except StoreError c.Value

/-- The calls that may change a store. -/
def mutates : StoreCall → Bool
  | metaCreate _ | metaUpdate _ | metaDelete _ | blobPut _ _ | blobDelete _ => true
  | _ => false

end StoreCall

/-- The contents of the two repositories. A record is stored under its own id. -/
@[ext] structure Stores where
  metadata : String → Option VoiceRecord
  blobs : String → Option Bytes
  keyed : ∀ v record, metadata v = some record → record.id = v

namespace Stores

/-- Store a record under its id. It is found as it is read back. -/
def setRecord (s : Stores) (record : VoiceRecord) : Stores where
  metadata := Function.update s.metadata record.id (some record.settled)
  blobs := s.blobs
  keyed v r found := by
    by_cases same : v = record.id
    · subst same
      rw [Function.update_self] at found
      cases found; rfl
    · rw [Function.update_of_ne same] at found
      exact s.keyed v r found

/-- Remove the record of an id. -/
def dropRecord (s : Stores) (voiceId : String) : Stores where
  metadata := Function.update s.metadata voiceId none
  blobs := s.blobs
  keyed v r found := by
    by_cases same : v = voiceId
    · subst same
      rw [Function.update_self] at found
      cases found
    · rw [Function.update_of_ne same] at found
      exact s.keyed v r found

/-- Store or remove the blob of an id. -/
def setBlob (s : Stores) (voiceId : String) (data : Option Bytes) : Stores :=
  { s with blobs := Function.update s.blobs voiceId data }

theorem setRecord_metadata (s : Stores) (record : VoiceRecord) :
    (s.setRecord record).metadata = Function.update s.metadata record.id (some record.settled) := rfl

@[simp] theorem setRecord_blobs (s : Stores) (record : VoiceRecord) :
    (s.setRecord record).blobs = s.blobs := rfl

theorem dropRecord_metadata (s : Stores) (v : String) :
    (s.dropRecord v).metadata = Function.update s.metadata v none := rfl

@[simp] theorem dropRecord_blobs (s : Stores) (v : String) : (s.dropRecord v).blobs = s.blobs := rfl

@[simp] theorem setBlob_metadata (s : Stores) (v : String) (data : Option Bytes) :
    (s.setBlob v data).metadata = s.metadata := rfl

theorem setBlob_blobs (s : Stores) (v : String) (data : Option Bytes) :
    (s.setBlob v data).blobs = Function.update s.blobs v data := rfl

/-- A record is stored under its own id. -/
@[simp] theorem metadata_setRecord (s : Stores) (record : VoiceRecord) (v : String) :
    (s.setRecord record).metadata v = if v = record.id then some record.settled else s.metadata v :=
  Function.update_apply ..

/-- A deletion takes one record. -/
@[simp] theorem metadata_dropRecord (s : Stores) (w v : String) :
    (s.dropRecord w).metadata v = if v = w then none else s.metadata v :=
  Function.update_apply ..

/-- A blob is stored under one id. -/
@[simp] theorem blobs_setBlob (s : Stores) (w v : String) (data : Option Bytes) :
    (s.setBlob w data).blobs v = if v = w then data else s.blobs v :=
  Function.update_apply ..

/-- Two empty stores. -/
def empty : Stores where
  metadata _ := none
  blobs _ := none
  keyed _ _ found := by cases found

/-- The ids with a record are the ids with a blob. -/
def Agree (s : Stores) : Prop := ∀ v, (s.metadata v).isSome = (s.blobs v).isSome

/-- Stores that hold one voice. -/
def oneVoice (record : VoiceRecord) (data : Bytes) : Stores :=
  (empty.setRecord record).setBlob record.id (some data)

/-- A record with its blob makes stores that agree. -/
theorem oneVoice_agree (record : VoiceRecord) (data : Bytes) : (oneVoice record data).Agree := by
  intro v
  by_cases same : v = record.id
  · subst same
    simp only [oneVoice, setBlob_metadata, setRecord_metadata, setBlob_blobs, Function.update_self,
      Option.isSome_some]
  · simp only [oneVoice, setBlob_metadata, setRecord_metadata, setBlob_blobs, setRecord_blobs,
      Function.update_of_ne same, empty, Option.isSome_none]

/-- What a call on a valid id answers, and the stores after it. -/
def execValid (s : Stores) : (c : StoreCall) → c.Reply × Stores
  | .metaGet v =>
    match found : s.metadata v with
    | some record => (.ok ⟨record, s.keyed v record found⟩, s)
    | none => (.error (.voiceNotFound v), s)
  | .metaExists v => (.ok (s.metadata v).isSome, s)
  | .metaCreate record =>
    if (s.metadata record.id).isSome then (.error (.voiceAlreadyExists record.id), s)
    else (.ok record, s.setRecord record)
  | .metaUpdate record =>
    if (s.metadata record.id).isSome then (.ok record, s.setRecord record)
    else (.error (.voiceNotFound record.id), s)
  | .metaDelete v =>
    if (s.metadata v).isSome then (.ok (), s.dropRecord v)
    else (.error (.voiceNotFound v), s)
  | .blobPut v data => (.ok (), s.setBlob v (some data))
  | .blobGet v =>
    match s.blobs v with
    | some data => (.ok data, s)
    | none => (.error (.voiceNotFound v), s)
  | .blobExists v => (.ok (s.blobs v).isSome, s)
  | .blobDelete v =>
    if (s.blobs v).isSome then (.ok (), s.setBlob v none)
    else (.error (.voiceNotFound v), s)

/-- One repository call. -/
def exec (s : Stores) (c : StoreCall) : c.Reply × Stores :=
  match validateVoiceId c.voiceId with
  | .error e => (.error e, s)
  | .ok () => s.execValid c

/-! ### What a call leaves unchanged -/

/-- With a valid id a call gets to the store. -/
theorem exec_valid {s : Stores} {c : StoreCall} (valid : validateVoiceId c.voiceId = .ok ()) :
    s.exec c = s.execValid c := by
  simp only [exec, valid]

/-- `get` returns the record that is stored. -/
theorem exec_metaGet_some {s : Stores} {v : String} {record : VoiceRecord}
    (valid : validateVoiceId v = .ok ()) (found : s.metadata v = some record) :
    s.exec (.metaGet v) = (.ok ⟨record, s.keyed v record found⟩, s) := by
  have valid' : validateVoiceId (StoreCall.metaGet v).voiceId = .ok () := valid
  rw [exec_valid valid']
  simp only [execValid]
  split
  · rename_i other found'
    cases found.symm.trans found'
    rfl
  · rename_i absent
    cases found.symm.trans absent

/-- `get` raises for a record that is not. -/
theorem exec_metaGet_none {s : Stores} {v : String} (valid : validateVoiceId v = .ok ())
    (absent : s.metadata v = none) : s.exec (.metaGet v) = (.error (.voiceNotFound v), s) := by
  have valid' : validateVoiceId (StoreCall.metaGet v).voiceId = .ok () := valid
  rw [exec_valid valid']
  simp only [execValid]
  split
  · rename_i record found
    cases absent.symm.trans found
  · rfl

/-- `exists` tells whether there is a record. -/
theorem exec_metaExists {s : Stores} {v : String} (valid : validateVoiceId v = .ok ()) :
    s.exec (.metaExists v) = (.ok (s.metadata v).isSome, s) := by
  have valid' : validateVoiceId (StoreCall.metaExists v).voiceId = .ok () := valid
  rw [exec_valid valid']
  rfl

/-- `create` raises where there is a record. -/
theorem exec_metaCreate {s : Stores} {record : VoiceRecord}
    (valid : validateVoiceId record.id = .ok ()) :
    s.exec (.metaCreate record) =
      if (s.metadata record.id).isSome then (.error (.voiceAlreadyExists record.id), s)
      else (.ok record, s.setRecord record) := by
  have valid' : validateVoiceId (StoreCall.metaCreate record).voiceId = .ok () := valid
  rw [exec_valid valid']
  rfl

/-- `update` raises where there is none. -/
theorem exec_metaUpdate {s : Stores} {record : VoiceRecord}
    (valid : validateVoiceId record.id = .ok ()) :
    s.exec (.metaUpdate record) =
      if (s.metadata record.id).isSome then (.ok record, s.setRecord record)
      else (.error (.voiceNotFound record.id), s) := by
  have valid' : validateVoiceId (StoreCall.metaUpdate record).voiceId = .ok () := valid
  rw [exec_valid valid']
  rfl

/-- So does `delete`. -/
theorem exec_metaDelete {s : Stores} {v : String} (valid : validateVoiceId v = .ok ()) :
    s.exec (.metaDelete v) =
      if (s.metadata v).isSome then (.ok (), s.dropRecord v) else (.error (.voiceNotFound v), s) := by
  have valid' : validateVoiceId (StoreCall.metaDelete v).voiceId = .ok () := valid
  rw [exec_valid valid']
  rfl

/-- `put` stores the blob, or replaces it. -/
theorem exec_blobPut {s : Stores} {v : String} {data : Bytes} (valid : validateVoiceId v = .ok ()) :
    s.exec (.blobPut v data) = (.ok (), s.setBlob v (some data)) := by
  have valid' : validateVoiceId (StoreCall.blobPut v data).voiceId = .ok () := valid
  rw [exec_valid valid']
  rfl

/-- `exists` tells whether there is a blob. -/
theorem exec_blobExists {s : Stores} {v : String} (valid : validateVoiceId v = .ok ()) :
    s.exec (.blobExists v) = (.ok (s.blobs v).isSome, s) := by
  have valid' : validateVoiceId (StoreCall.blobExists v).voiceId = .ok () := valid
  rw [exec_valid valid']
  rfl

/-- `delete` raises where there is none. -/
theorem exec_blobDelete {s : Stores} {v : String} (valid : validateVoiceId v = .ok ()) :
    s.exec (.blobDelete v) =
      if (s.blobs v).isSome then (.ok (), s.setBlob v none) else (.error (.voiceNotFound v), s) := by
  have valid' : validateVoiceId (StoreCall.blobDelete v).voiceId = .ok () := valid
  rw [exec_valid valid']
  rfl

/-- A call that only reads changes nothing. -/
theorem exec_reads {s : Stores} {c : StoreCall} (reads : c.mutates = false) : (s.exec c).2 = s := by
  unfold exec
  split
  · rfl
  · cases c <;> simp only [StoreCall.mutates, Bool.true_eq_false] at reads <;>
      simp only [execValid] <;> (try split) <;> rfl

/-- A call that raises changes nothing. -/
theorem exec_error {s : Stores} {c : StoreCall} {e : StoreError} (failed : (s.exec c).1 = .error e) :
    (s.exec c).2 = s := by
  unfold exec at failed ⊢
  split at failed
  · rfl
  · cases c <;> simp only [execValid] at failed ⊢ <;> (try split) <;> simp_all

/-- A call changes the record and the blob of no other id. -/
theorem exec_frame {s : Stores} {c : StoreCall} {v : String} (other : v ≠ c.voiceId) :
    (s.exec c).2.metadata v = s.metadata v ∧ (s.exec c).2.blobs v = s.blobs v := by
  unfold exec
  split
  · exact ⟨rfl, rfl⟩
  · cases c <;> simp only [execValid, StoreCall.voiceId] at other ⊢ <;> (try split) <;>
      simp only [setRecord_metadata, setRecord_blobs, dropRecord_metadata, dropRecord_blobs,
        setBlob_metadata, setBlob_blobs, Function.update_of_ne other, and_self]

end Stores

/-! ## Handlers -/

/-- An exception inside a handler. -/
inductive Exc where
  | http (e : OpenAIHTTPException)
  | store (e : StoreError)
  | other
  deriving DecidableEq, Repr

/-- A program over the repositories. -/
abbrev StoreProg (α : Type) : Type := Prog StoreCall StoreCall.Reply α

/-- A handler: a program over the repositories that may raise. -/
abbrev Handler (α : Type) : Type := ExceptT Exc (Prog StoreCall StoreCall.Reply) α

/-- `await` a repository call. -/
def repo (c : StoreCall) : Handler c.Value :=
  ExceptT.mk (.call c fun reply => .ret (reply.mapError .store))

/-- A repository call that raises `e`, with or without effect. -/
def raised (c : StoreCall) (e : StoreError) : c.Reply := .error e

end LlmTts
