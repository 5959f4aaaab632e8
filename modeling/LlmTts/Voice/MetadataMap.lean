import LlmTts.Lib.FiniteMap
import LlmTts.Voice.FsJsonMetadata

/-!
# The metadata repository as a finite map

What the repository is for: a finite map from voice ids to records. The document of
`FsJsonMetadataRepository` is a function of the map (`Represents`), each call keeps it
so, and a run of calls answers as the map does.
-/

namespace LlmTts
open Python FiniteMap

/-! ## Calls -/

/-- A call of a metadata repository. -/
inductive MetadataCall where
  | metaList
  | metaGet (voiceId : String)
  | metaExists (voiceId : String)
  | metaCreate (record : VoiceRecord)
  | metaUpdate (record : VoiceRecord)
  | metaDelete (voiceId : String)

namespace MetadataCall

/-- The id a call is about. -/
def voiceId? : MetadataCall → Option String
  | metaList => none
  | metaGet v | metaExists v | metaDelete v => some v
  | metaCreate record | metaUpdate record => some record.id

/-- The record a call stores. -/
def record? : MetadataCall → Option VoiceRecord
  | metaCreate record | metaUpdate record => some record
  | _ => none

end MetadataCall

/-- What a call returns when it does not raise. -/
inductive MetadataAnswer where
  | records (records : List VoiceRecord)
  | record (record : VoiceRecord)
  | present (present : Bool)
  | done
  deriving DecidableEq

abbrev MetadataReply : Type := Except StoreError MetadataAnswer

/-- One call: the instance it is made through, what the clock reads, and whether the
disk makes a write fail. -/
structure MetadataStep where
  repository : FsJsonMetadataRepository
  call : MetadataCall
  now : DateTime
  fault : Bool

namespace MetadataStep

/-- A write fails: the disk is at fault, or the record cannot be encoded. -/
def fails (step : MetadataStep) : Bool := step.fault || step.call.record?.any VoiceRecord.tooLong

/-- A call through an instance over the directory, on a valid id, with a record whose
fields have their types. -/
structure Sound (storeDir : String) (step : MetadataStep) : Prop where
  sameDir : step.repository.storeDir = storeDir
  valid : ∀ v, step.call.voiceId? = some v → validateVoiceId v = .ok ()
  typed : ∀ record, step.call.record? = some record → record.Typed

/-- The call on the disk. -/
def exec (containerText : Json → String) (step : MetadataStep) (disk : Disk) : MetadataReply × Disk :=
  let self := step.repository
  match step.call with
  | .metaList => ((self.list containerText step.now disk).map .records, disk)
  | .metaGet v => ((self.get containerText step.now disk v).map .record, disk)
  | .metaExists v => ((self.existsId containerText step.now disk v).map .present, disk)
  | .metaCreate record =>
    let (reply, disk) := self.create containerText step.now disk step.fault record
    (reply.map .record, disk)
  | .metaUpdate record =>
    let (reply, disk) := self.update containerText step.now disk step.fault record
    (reply.map .record, disk)
  | .metaDelete v =>
    let (reply, disk) := self.delete containerText step.now disk step.fault v
    (reply.map fun _ => .done, disk)

/-- The calls one after the other. -/
def run (containerText : Json → String) : List MetadataStep → Disk → List MetadataReply × Disk
  | [], disk => ([], disk)
  | step :: steps, disk =>
    let (reply, disk) := step.exec containerText disk
    let (replies, disk) := run containerText steps disk
    (reply :: replies, disk)

end MetadataStep

/-! ## The map -/

/-- The records by their ids. -/
abbrev VoiceMap : Type := Finmap fun _ : String => VoiceRecord

namespace VoiceMap

/-- A call on the map, and whether its write fails. A record is kept as it is read back. -/
def exec (m : VoiceMap) (fails : Bool) : MetadataCall → MetadataReply × VoiceMap
  | .metaList => (.ok (.records ((rows m).map Prod.snd)), m)
  | .metaGet v =>
    match m.lookup v with
    | some record => (.ok (.record record), m)
    | none => (.error (.voiceNotFound v), m)
  | .metaExists v => (.ok (.present (m.lookup v).isSome), m)
  | .metaCreate record =>
    if (m.lookup record.id).isSome then (.error (.voiceAlreadyExists record.id), m)
    else if fails then (.error .other, m)
    else (.ok (.record record), m.insert record.id record.settled)
  | .metaUpdate record =>
    if (m.lookup record.id).isSome then
      if fails then (.error .other, m) else (.ok (.record record), m.insert record.id record.settled)
    else (.error (.voiceNotFound record.id), m)
  | .metaDelete v =>
    if (m.lookup v).isSome then if fails then (.error .other, m) else (.ok .done, m.erase v)
    else (.error (.voiceNotFound v), m)

def run : List MetadataStep → VoiceMap → List MetadataReply × VoiceMap
  | [], m => ([], m)
  | step :: steps, m =>
    let (reply, m) := m.exec step.fails step.call
    let (replies, m) := run steps m
    (reply :: replies, m)

theorem exec_metaGet (m : VoiceMap) (fails : Bool) (v : String) :
    m.exec fails (.metaGet v) =
      (match m.lookup v with
        | some record => .ok (.record record)
        | none => .error (.voiceNotFound v), m) := by
  rw [exec]
  cases m.lookup v <;> rfl

/-- A call that raises leaves the map unchanged. -/
theorem exec_error {m : VoiceMap} {fails : Bool} {call : MetadataCall} {e : StoreError}
    (failed : (m.exec fails call).1 = .error e) : (m.exec fails call).2 = m := by
  cases call with
  | metaList => rfl
  | metaGet v => rw [exec_metaGet]
  | metaExists v => rfl
  | metaCreate record =>
    rw [exec] at failed ⊢
    split_ifs at failed ⊢ <;> rfl
  | metaUpdate record =>
    rw [exec] at failed ⊢
    split_ifs at failed ⊢ <;> rfl
  | metaDelete v =>
    rw [exec] at failed ⊢
    split_ifs at failed ⊢ <;> rfl

/-- A record that the map keeps under an id. -/
structure Entry (v : String) (record : VoiceRecord) : Prop where
  id : record.id = v
  typed : record.Typed
  settled : record.settled = record

/-- The records are those of their ids, as they are read back. -/
def Keyed (m : VoiceMap) : Prop := ∀ v record, m.lookup v = some record → Entry v record

theorem keyed_empty : Keyed ∅ := by
  intro v record found
  rw [Finmap.lookup_empty] at found
  cases found

variable {m : VoiceMap}

theorem Keyed.insert (keyed : Keyed m) {record : VoiceRecord} (typed : record.Typed) :
    Keyed (m.insert record.id record.settled) := by
  intro v found here
  rw [lookup_insert_apply] at here
  split at here
  · rename_i same
    cases here
    exact ⟨same.symm, typed.settled, rfl⟩
  · exact keyed v found here

theorem Keyed.erase (keyed : Keyed m) (w : String) : Keyed (m.erase w) := by
  intro v found here
  rw [lookup_erase_apply] at here
  split at here
  · cases here
  · exact keyed v found here

/-- Looking a key up in the rows. -/
theorem dictGet_rows (v : String) : dictGet (rows m) v = m.lookup v := by
  apply Option.ext
  intro record
  rw [dictGet_eq_some_iff nodup_keys_rows, mem_rows]

/-- A dictionary with the lookups of a map has its rows, up to the order. -/
theorem perm_rows_of_dictGet {records : List (String × VoiceRecord)} (distinct : (records.map Prod.fst).Nodup)
    (same : ∀ v, dictGet records v = m.lookup v) : records.Perm (rows m) :=
  perm_rows distinct fun v record => by rw [← same, dictGet_eq_some_iff distinct]

/-- The records of the map can be encoded. -/
def Short (m : VoiceMap) : Prop := ∀ v record, m.lookup v = some record → record.tooLong = false

/-- The map is what is read back of the records of `written`. -/
def ReadFrom (m written : VoiceMap) : Prop := ∀ v, m.lookup v = (written.lookup v).map VoiceRecord.settled

/-- A keyed map is read back as it is. -/
theorem Keyed.readFrom (keyed : m.Keyed) : m.ReadFrom m := by
  intro v
  cases found : m.lookup v with
  | none => rfl
  | some record => rw [Option.map_some, (keyed v record found).settled]

theorem Keyed.readFrom_insert (keyed : m.Keyed) (record : VoiceRecord) :
    ReadFrom (m.insert record.id record.settled) (m.insert record.id record) := by
  intro v
  rw [lookup_insert_apply, lookup_insert_apply]
  split
  · rfl
  · exact keyed.readFrom v

theorem ReadFrom.keyed_erase {written : VoiceMap} (reads : m.ReadFrom written) (w : String) :
    ReadFrom (m.erase w) (written.erase w) := by
  intro v
  rw [lookup_erase_apply, lookup_erase_apply]
  split
  · rfl
  · exact reads v

theorem ReadFrom.rows_eq {written : VoiceMap} (reads : m.ReadFrom written) :
    rows m = (rows written).map fun row => (row.1, row.2.settled) := rows_of_lookup reads

theorem short_iff {written : VoiceMap} {records : List (String × VoiceRecord)} (reads : m.ReadFrom written)
    (same : records.Perm (rows written)) : (∀ item ∈ records, item.2.tooLong = false) ↔ m.Short := by
  constructor
  · intro all v record found
    rw [reads, Option.map_eq_some_iff] at found
    obtain ⟨given, here, rfl⟩ := found
    rw [VoiceRecord.tooLong_settled]
    exact all (v, given) (same.mem_iff.2 (mem_rows.2 here))
  · rintro all ⟨v, given⟩ member
    rw [← VoiceRecord.tooLong_settled]
    apply all v
    rw [reads, mem_rows.1 (same.mem_iff.1 member)]
    rfl

theorem Short.insert_iff (short : m.Short) (record : VoiceRecord) :
    Short (m.insert record.id record.settled) ↔ record.tooLong = false := by
  rw [← VoiceRecord.tooLong_settled]
  constructor
  · intro all
    exact all record.id record.settled (by rw [lookup_insert_apply, if_pos rfl])
  · intro here v found looked
    rw [lookup_insert_apply] at looked
    split at looked
    · cases looked
      exact here
    · exact short v found looked

theorem Short.erase (short : m.Short) (w : String) : Short (m.erase w) := by
  intro v found looked
  rw [lookup_erase_apply] at looked
  split at looked
  · cases looked
  · exact short v found looked

end VoiceMap

/-! ## The document of a map -/

namespace FsJsonMetadataRepository

/-- The document of a map, which there is none of before the first write. It has the
records as they were written; the map has them as they are read back. -/
structure Represents (file : Option String) (m : VoiceMap) : Prop where
  keyed : m.Keyed
  document : (file = none ∧ m = ∅) ∨
    ∃ text written, file = some text ∧ m.ReadFrom written ∧ (payload (rows written)).dumps = some text

theorem represents_none : Represents none ∅ := ⟨VoiceMap.keyed_empty, Or.inl ⟨rfl, rfl⟩⟩

variable {m : VoiceMap} {records : List (String × VoiceRecord)}

theorem payload_eq (records : List (String × VoiceRecord)) :
    payload records = .obj (records.map fun item => (item.1, .obj (serializeRecord item.2))) := rfl

/-- A document is refused exactly if one of its records is. -/
theorem dumps_payload_isSome_iff : (payload records).dumps.isSome ↔ ∀ item ∈ records, item.2.tooLong = false := by
  rw [Json.dumps, Option.isSome_map, payload_eq, Json.sorted_obj, Json.encode_obj_isSome_iff, List.map_map]
  simp only [List.mem_insertionSort, List.forall_mem_map, Function.comp_apply, encode_record_isSome_iff]

/-- The order of the records is lost in the document. -/
theorem dumps_payload_perm (same : records.Perm (rows m)) : (payload records).dumps = (payload (rows m)).dumps := by
  have distinct : (records.map Prod.fst).Nodup := (same.map Prod.fst).nodup_iff.2 nodup_keys_rows
  rw [Json.dumps, Json.dumps, payload_eq, payload_eq, Json.sorted_obj_perm ?_ (same.map _)]
  rw [List.map_map]
  exact distinct

/-- What is written has the types of what is read back. -/
theorem typed_written {written : VoiceMap} (keyed : m.Keyed) (reads : m.ReadFrom written)
    {item : String × VoiceRecord} (member : item ∈ rows written) : item.2.Typed := by
  have found : m.lookup item.1 = some item.2.settled := by
    rw [reads, mem_rows.1 member]
    rfl
  exact (keyed _ _ found).typed.of_settled

theorem doubles_payload {written : VoiceMap} (keyed : m.Keyed) (reads : m.ReadFrom written) :
    (payload (rows written)).Doubles := by
  refine Json.Doubles.obj fun pair member => ?_
  obtain ⟨item, here, rfl⟩ := List.mem_map.1 member
  exact doubles_record (typed_written keyed reads here)

/-- The rows are in the order of the document. -/
theorem sorted_payload_rows :
    (payload (rows m)).sorted =
      .obj ((rows m).map fun item => (item.1, (Json.obj (serializeRecord item.2)).sorted)) := by
  rw [payload_eq, Json.sorted_obj, List.map_map]
  congr 1
  apply List.Pairwise.insertionSort_eq
  exact List.pairwise_map.2 (ascending_rows.imp fun less => less.le)

/-- A document is no blank text. -/
theorem isBlank_dumps {pairs : List (String × Json)} {text : String} (written : (Json.obj pairs).dumps = some text) :
    isBlank text = false := by
  rw [Json.dumps, Json.sorted_obj] at written
  obtain ⟨cs, encoded, rfl⟩ := Option.map_eq_some_iff.1 written
  obtain ⟨rest, rfl⟩ := Json.encode_obj_cons encoded
  rw [isBlank, String.toList_ofList, List.all_cons]
  rfl

section Calls

variable (self : FsJsonMetadataRepository) (containerText : Json → String) (now : DateTime) {disk : Disk}

theorem deserialize_rows (items : List (String × VoiceRecord)) (typed : ∀ item ∈ items, item.2.Typed) :
    ((items.map fun item => (item.1, (Json.obj (serializeRecord item.2)).sorted)).mapM fun (key, value) =>
      (deserializeRecord containerText now value).map (key, ·)) =
      some (items.map fun item => (item.1, item.2.settled)) := by
  induction items with
  | nil => rfl
  | cons item items ih =>
    obtain ⟨here, others⟩ := List.forall_mem_cons.1 typed
    rw [List.map_cons, List.mapM_cons, ih others]
    dsimp only
    rw [deserialize_serialize containerText now here]
    rfl

/-- The document is read as the rows of the map. -/
theorem loadAll_of_represents (represents : Represents (disk self.storeDir) m) :
    self.loadAll containerText now disk = some (rows m) := by
  obtain ⟨keyed, ⟨absent, rfl⟩ | ⟨text, written, present, reads, encoded⟩⟩ := represents
  · rw [loadAll, absent, rows_empty]
  · have distinct : (((rows written).map fun item => (item.1, (Json.obj (serializeRecord item.2)).sorted)).map
        Prod.fst).Nodup := by
      rw [List.map_map]
      exact nodup_keys_rows
    rw [loadAll, present]
    dsimp only
    rw [isBlank_dumps encoded, if_neg Bool.false_ne_true, Json.loads_dumps (doubles_payload keyed reads) encoded,
      sorted_payload_rows]
    dsimp only
    rw [dictItems_of_nodup distinct, reads.rows_eq]
    exact deserialize_rows containerText now (rows written) fun item member => typed_written keyed reads member

/-- A call on a valid id answers from the rows. -/
theorem reading_of_represents (represents : Represents (disk self.storeDir) m) {α : Type} {v : String}
    (valid : validateVoiceId v = .ok ()) (answer : List (String × VoiceRecord) → Except StoreError α) :
    self.reading containerText now disk v answer = answer (rows m) := by
  rw [reading, valid]
  dsimp only
  rw [loadAll_of_represents self containerText now represents]

variable (fault : Bool)

/-- Only short records are in a document. -/
theorem Represents.short {file : Option String} (represents : Represents file m) : m.Short := by
  obtain ⟨-, ⟨-, rfl⟩ | ⟨text, written, -, reads, encoded⟩⟩ := represents
  · intro v record found
    rw [Finmap.lookup_empty] at found
    cases found
  · rw [← VoiceMap.short_iff reads (List.Perm.refl _), ← dumps_payload_isSome_iff, encoded]
    rfl

/-- A write fails, or leaves the document of the new map. -/
theorem atomicWrite_of_perm (files : Disk) {written : VoiceMap} (keyed : m.Keyed) (reads : m.ReadFrom written)
    (same : records.Perm (rows written)) :
    match self.atomicWrite files fault records with
    | none => fault = true ∨ ¬ m.Short
    | some written => fault = false ∧ m.Short ∧ Represents (written self.storeDir) m := by
  have writable : (payload records).dumps.isSome ↔ m.Short :=
    dumps_payload_isSome_iff.trans (VoiceMap.short_iff reads same)
  unfold atomicWrite
  cases encoded : (payload records).dumps with
  | none =>
    right
    rw [← writable, encoded]
    exact Bool.false_ne_true
  | some text =>
    rw [encoded] at writable
    cases fault with
    | true => exact Or.inl rfl
    | false =>
      refine ⟨rfl, writable.1 rfl, keyed, Or.inr ⟨text, _, Function.update_self .., reads, ?_⟩⟩
      rw [← dumps_payload_perm same]
      exact encoded

end Calls

/-- The result of a call on the disk, against the answer and the map it is to have. A call
that raises leaves the disk as it is. -/
structure Follows (storeDir : String) (disk : Disk) {α : Type} (result : Except StoreError α × Disk)
    (reply : Except StoreError α) (m : VoiceMap) : Prop where
  reply : result.1 = reply
  represents : Represents (result.2 storeDir) m
  unchanged : ∀ e, result.1 = .error e → result.2 = disk

theorem Follows.map {storeDir : String} {disk : Disk} {α β : Type} {result : Except StoreError α × Disk}
    {reply : Except StoreError α} (follows : Follows storeDir disk result reply m) (f : α → β) :
    Follows storeDir disk (result.1.map f, result.2) (reply.map f) m := by
  obtain ⟨same, represents, unchanged⟩ := follows
  refine ⟨congrArg (Except.map f) same, represents, fun e failed => unchanged e ?_⟩
  obtain ⟨reply', disk'⟩ := result
  cases reply' with
  | error e' =>
    cases failed
    rfl
  | ok value => cases failed

section Writing

variable (self : FsJsonMetadataRepository) (containerText : Json → String) (now : DateTime) (fault : Bool)
  {disk : Disk} {α : Type} {v : String} {value : α}
  {change : List (String × VoiceRecord) → Except StoreError (List (String × VoiceRecord))}

/-- A change that is refused writes nothing. -/
theorem writing_refused (represents : Represents (disk self.storeDir) m) (valid : validateVoiceId v = .ok ())
    {e : StoreError} (refused : change (rows m) = .error e) :
    Follows self.storeDir disk (self.writing containerText now disk fault v value change) (.error e) m := by
  rw [writing, reading_of_represents self containerText now represents valid, refused]
  exact ⟨rfl, represents, fun _ _ => rfl⟩

/-- A change to another map is written, unless the write fails. -/
theorem writing_accepted (represents : Represents (disk self.storeDir) m) (valid : validateVoiceId v = .ok ())
    {next given : VoiceMap} (accepted : change (rows m) = .ok records) (keyed : next.Keyed)
    (reads : next.ReadFrom given) (same : records.Perm (rows given)) {fails : Bool} (cause : fails = true ↔ fault = true ∨ ¬ next.Short) :
    Follows self.storeDir disk (self.writing containerText now disk fault v value change)
      (if fails then .error .other else .ok value) (if fails then m else next) := by
  have write := atomicWrite_of_perm self fault disk keyed reads same
  rw [writing, reading_of_represents self containerText now represents valid, accepted]
  dsimp only
  cases written : self.atomicWrite disk fault records with
  | none =>
    rw [written] at write
    rw [cause.2 write]
    exact ⟨rfl, represents, fun _ _ => rfl⟩
  | some disk' =>
    rw [written] at write
    obtain ⟨sane, short, represents'⟩ := write
    have succeeds : fails = false := by
      rw [Bool.eq_false_iff, Ne, cause, sane]
      rintro (fault | long)
      · exact Bool.false_ne_true fault
      · exact long short
    subst succeeds
    exact ⟨rfl, represents', fun e failed => by cases failed⟩

end Writing

end FsJsonMetadataRepository

namespace VoiceMap

variable {m : VoiceMap}

theorem perm_set (record : VoiceRecord) :
    (dictSet (rows m) record.id record).Perm (rows (m.insert record.id record)) := by
  apply perm_rows_of_dictGet (dictSet_nodup nodup_keys_rows _ _)
  intro v
  rw [dictGet_dictSet, dictGet_rows, lookup_insert_apply]

theorem perm_del (v : String) : ((rows m).filter fun item => item.1 ≠ v).Perm (rows (m.erase v)) := by
  apply perm_rows_of_dictGet (nodup_keys_rows.sublist (List.filter_sublist.map _))
  intro w
  rw [dictGet_filter, dictGet_rows, lookup_erase_apply]

end VoiceMap

namespace FsJsonMetadataRepository

section Operations

variable (self : FsJsonMetadataRepository) (containerText : Json → String) (now : DateTime) (fault : Bool)
  {disk : Disk}

theorem list_follows (represents : Represents (disk self.storeDir) m) :
    self.list containerText now disk = .ok ((rows m).map Prod.snd) := by
  rw [list, loadAll_of_represents self containerText now represents]

theorem get_follows (represents : Represents (disk self.storeDir) m) {v : String}
    (valid : validateVoiceId v = .ok ()) :
    self.get containerText now disk v =
      match m.lookup v with
      | none => .error (.voiceNotFound v)
      | some record => .ok record := by
  have read {α : Type} := reading_of_represents self containerText now represents valid (α := α)
  cases found : m.lookup v <;> simp only [get, read, VoiceMap.dictGet_rows, found]

theorem existsId_follows (represents : Represents (disk self.storeDir) m) {v : String}
    (valid : validateVoiceId v = .ok ()) :
    self.existsId containerText now disk v = .ok (m.lookup v).isSome := by
  rw [existsId, reading_of_represents self containerText now represents valid, VoiceMap.dictGet_rows]

/-- The write of a record fails if the disk is at fault or the record is too long. -/
theorem cause_insert (represents : Represents (disk self.storeDir) m) (record : VoiceRecord) :
    (fault || record.tooLong) = true ↔ fault = true ∨ ¬ VoiceMap.Short (m.insert record.id record.settled) := by
  rw [represents.short.insert_iff, Bool.or_eq_true, Bool.not_eq_false]

theorem create_follows (represents : Represents (disk self.storeDir) m) {record : VoiceRecord}
    (valid : validateVoiceId record.id = .ok ()) (typed : record.Typed) :
    Follows self.storeDir disk (self.create containerText now disk fault record)
      (if (m.lookup record.id).isSome then .error (.voiceAlreadyExists record.id)
        else if fault || record.tooLong then .error .other else .ok record)
      (if (m.lookup record.id).isSome then m
        else if fault || record.tooLong then m else m.insert record.id record.settled) := by
  split
  · rename_i present
    apply writing_refused self containerText now fault represents valid
    rw [VoiceMap.dictGet_rows, if_pos present]
  · rename_i absent
    refine writing_accepted self containerText now fault represents valid ?_ (represents.keyed.insert typed)
      (represents.keyed.readFrom_insert record) (VoiceMap.perm_set record) (cause_insert self fault represents record)
    rw [VoiceMap.dictGet_rows, if_neg absent]

theorem update_follows (represents : Represents (disk self.storeDir) m) {record : VoiceRecord}
    (valid : validateVoiceId record.id = .ok ()) (typed : record.Typed) :
    Follows self.storeDir disk (self.update containerText now disk fault record)
      (if (m.lookup record.id).isSome then if fault || record.tooLong then .error .other else .ok record
        else .error (.voiceNotFound record.id))
      (if (m.lookup record.id).isSome then if fault || record.tooLong then m else m.insert record.id record.settled
        else m) := by
  split
  · rename_i present
    refine writing_accepted self containerText now fault represents valid ?_ (represents.keyed.insert typed)
      (represents.keyed.readFrom_insert record) (VoiceMap.perm_set record) (cause_insert self fault represents record)
    rw [VoiceMap.dictGet_rows, if_pos present]
  · rename_i absent
    apply writing_refused self containerText now fault represents valid
    rw [VoiceMap.dictGet_rows, if_neg absent]

theorem delete_follows (represents : Represents (disk self.storeDir) m) {v : String}
    (valid : validateVoiceId v = .ok ()) :
    Follows self.storeDir disk (self.delete containerText now disk fault v)
      (if (m.lookup v).isSome then if fault then .error .other else .ok () else .error (.voiceNotFound v))
      (if (m.lookup v).isSome then if fault then m else m.erase v else m) := by
  split
  · rename_i present
    have cause : fault = true ↔ fault = true ∨ ¬ VoiceMap.Short (m.erase v) := by
      have short := represents.short.erase v
      constructor
      · exact Or.inl
      · rintro (failed | long)
        · exact failed
        · exact absurd short long
    refine writing_accepted self containerText now fault represents valid ?_ (represents.keyed.erase v)
      (represents.keyed.readFrom.keyed_erase v) (VoiceMap.perm_del v) cause
    rw [VoiceMap.dictGet_rows, if_pos present]
  · rename_i absent
    apply writing_refused self containerText now fault represents valid
    rw [VoiceMap.dictGet_rows, if_neg absent]

end Operations

end FsJsonMetadataRepository

/-! ## Runs -/

namespace MetadataStep

open FsJsonMetadataRepository

variable (containerText : Json → String) {storeDir : String} {m : VoiceMap}

/-- A call answers as the map does, and leaves the document of the map after it. -/
theorem exec_follows {step : MetadataStep} {disk : Disk} (sound : step.Sound storeDir)
    (represents : Represents (disk storeDir) m) :
    Follows storeDir disk (step.exec containerText disk) (m.exec step.fails step.call).1
      (m.exec step.fails step.call).2 := by
  obtain ⟨self, call, now, fault⟩ := step
  obtain ⟨rfl, valid, typed⟩ := sound
  dsimp only at represents valid typed ⊢
  cases call with
  | metaList =>
    have read := list_follows self containerText now represents
    refine ⟨?_, represents, fun _ _ => rfl⟩
    exact congrArg (Except.map MetadataAnswer.records) read
  | metaGet v =>
    have read := get_follows self containerText now represents (valid v rfl)
    rw [VoiceMap.exec_metaGet]
    refine ⟨?_, represents, fun _ _ => rfl⟩
    show (self.get containerText now disk v).map MetadataAnswer.record = _
    rw [read]
    cases m.lookup v <;> rfl
  | metaExists v =>
    have read := existsId_follows self containerText now represents (valid v rfl)
    refine ⟨?_, represents, fun _ _ => rfl⟩
    exact congrArg (Except.map MetadataAnswer.present) read
  | metaCreate record =>
    have follows := (create_follows self containerText now fault represents (valid _ rfl) (typed _ rfl)).map
      MetadataAnswer.record
    have failing : fails ⟨self, .metaCreate record, now, fault⟩ = (fault || record.tooLong) := rfl
    rw [failing, VoiceMap.exec]
    split_ifs at follows ⊢ <;> exact follows
  | metaUpdate record =>
    have follows := (update_follows self containerText now fault represents (valid _ rfl) (typed _ rfl)).map
      MetadataAnswer.record
    have failing : fails ⟨self, .metaUpdate record, now, fault⟩ = (fault || record.tooLong) := rfl
    rw [failing, VoiceMap.exec]
    split_ifs at follows ⊢ <;> exact follows
  | metaDelete v =>
    have follows := (delete_follows self containerText now fault represents (valid _ rfl)).map
      fun _ => MetadataAnswer.done
    have failing : fails ⟨self, .metaDelete v, now, fault⟩ = fault := Bool.or_false fault
    rw [failing, VoiceMap.exec]
    split_ifs at follows ⊢ <;> exact follows

/-- A run answers as the map does, and leaves the document of the map after it. -/
theorem run_follows {steps : List MetadataStep} {disk : Disk} (sound : ∀ step ∈ steps, step.Sound storeDir)
    (represents : Represents (disk storeDir) m) :
    (run containerText steps disk).1 = (VoiceMap.run steps m).1 ∧
      Represents ((run containerText steps disk).2 storeDir) (VoiceMap.run steps m).2 := by
  induction steps generalizing disk m with
  | nil => exact ⟨rfl, represents⟩
  | cons step steps ih =>
    obtain ⟨here, others⟩ := List.forall_mem_cons.1 sound
    have follows := exec_follows containerText here represents
    obtain ⟨replies, after⟩ := ih others follows.represents
    exact ⟨congrArg₂ List.cons follows.reply replies, after⟩

/-- Over a directory without a document, the repository is a finite map: a run of calls
answers as the map does; any instance lists and reads the records of the map then; and
the next call that raises leaves disk and map unchanged. -/
theorem refines_map {disk : Disk} {steps : List MetadataStep} (fresh : disk storeDir = none)
    (sound : ∀ step ∈ steps, step.Sound storeDir) :
    (run containerText steps disk).1 = (VoiceMap.run steps ∅).1 ∧
      (∀ now, (FsJsonMetadataRepository.mk storeDir).list containerText now (run containerText steps disk).2 =
        .ok ((rows (VoiceMap.run steps ∅).2).map Prod.snd)) ∧
      (∀ now v, validateVoiceId v = .ok () →
        (FsJsonMetadataRepository.mk storeDir).get containerText now (run containerText steps disk).2 v =
          match (VoiceMap.run steps ∅).2.lookup v with
          | none => .error (.voiceNotFound v)
          | some record => .ok record) ∧
      ∀ step : MetadataStep, step.Sound storeDir → ∀ e,
        (step.exec containerText (run containerText steps disk).2).1 = .error e →
          (step.exec containerText (run containerText steps disk).2).2 = (run containerText steps disk).2 ∧
            ((VoiceMap.run steps ∅).2.exec step.fails step.call).2 = (VoiceMap.run steps ∅).2 := by
  have start : Represents (disk storeDir) ∅ := by
    rw [fresh]
    exact represents_none
  obtain ⟨replies, final⟩ := run_follows containerText sound start
  refine ⟨replies, fun now => list_follows ⟨storeDir⟩ containerText now final,
    fun now v valid => get_follows ⟨storeDir⟩ containerText now final valid, ?_⟩
  intro step within e failed
  have follows := exec_follows containerText within final
  refine ⟨follows.unchanged e failed, ?_⟩
  apply VoiceMap.exec_error
  rw [← follows.reply]
  exact failed

/-- Two instances: a voice is created, its second creation and a faulty update fail, and
the other instance lists it as it was created. -/
def adaSteps : List MetadataStep :=
  let first : FsJsonMetadataRepository := ⟨"voices"⟩
  let second : FsJsonMetadataRepository := ⟨"voices"⟩
  let ada := plainRecord "ada" .crud
  [⟨first, .metaCreate ada, ⟨0, 0⟩, false⟩, ⟨second, .metaCreate ada, ⟨0, 0⟩, false⟩,
    ⟨first, .metaUpdate { ada with transcript := "bye" }, ⟨0, 0⟩, true⟩, ⟨second, .metaList, ⟨0, 0⟩, false⟩]

theorem refines_map_ada :
    (run (fun _ => "") adaSteps fun _ => none).1 = [.ok (.record (plainRecord "ada" .crud)),
      .error (.voiceAlreadyExists "ada"), .error .other, .ok (.records [plainRecord "ada" .crud])] := by
  have valid : validateVoiceId "ada" = .ok () := by decide +kernel
  have created : (plainRecord "ada" .crud).Typed := by decide +kernel
  have updated : { plainRecord "ada" .crud with transcript := "bye" }.Typed := by decide +kernel
  have sound : ∀ step ∈ adaSteps, step.Sound "voices" := by
    simp only [adaSteps, List.forall_mem_cons, List.not_mem_nil, false_imp_iff, implies_true, and_true]
    refine ⟨⟨rfl, ?_, ?_⟩, ⟨rfl, ?_, ?_⟩, ⟨rfl, ?_, ?_⟩, ⟨rfl, ?_, ?_⟩⟩ <;> intro about same <;> cases same <;>
      assumption
  rw [(refines_map (fun _ => "") rfl sound).1]
  decide +kernel

end MetadataStep

/-! ## The stores of the handlers -/

/-- The metadata calls of the handlers, which never list the records. -/
def MetadataCall.ofStore? : StoreCall → Option MetadataCall
  | .metaGet v => some (.metaGet v)
  | .metaExists v => some (.metaExists v)
  | .metaCreate record => some (.metaCreate record)
  | .metaUpdate record => some (.metaUpdate record)
  | .metaDelete v => some (.metaDelete v)
  | _ => none

def MetadataAnswer.ofStore : (c : StoreCall) → c.Value → MetadataAnswer
  | .metaGet _, found => .record found.1
  | .metaExists _, found => .present found
  | .metaCreate _, stored => .record stored
  | .metaUpdate _, stored => .record stored
  | _, _ => .done

/-- The metadata half of the stores is the map, with writes that do not fail. -/
theorem Stores.exec_metadata {s : Stores} {m : VoiceMap} (same : ∀ v, s.metadata v = m.lookup v) {c : StoreCall}
    {call : MetadataCall} (metadata : MetadataCall.ofStore? c = some call)
    (valid : validateVoiceId c.voiceId = .ok ()) :
    (s.exec c).1.map (MetadataAnswer.ofStore c) = (m.exec false call).1 ∧
      ∀ v, (s.exec c).2.metadata v = (m.exec false call).2.lookup v := by
  cases c with
  | metaGet v =>
    cases metadata
    dsimp only [StoreCall.voiceId] at valid
    have expected := VoiceMap.exec_metaGet m false v
    cases found : m.lookup v with
    | none =>
      rw [found] at expected
      rw [expected, exec_metaGet_none valid ((same v).trans found)]
      exact ⟨rfl, same⟩
    | some record =>
      rw [found] at expected
      rw [expected, exec_metaGet_some valid ((same v).trans found)]
      exact ⟨rfl, same⟩
  | metaExists v =>
    cases metadata
    dsimp only [StoreCall.voiceId] at valid
    rw [exec_metaExists valid, same]
    exact ⟨rfl, same⟩
  | metaCreate record =>
    cases metadata
    dsimp only [StoreCall.voiceId] at valid
    rw [exec_metaCreate valid, VoiceMap.exec, same]
    split
    · exact ⟨rfl, same⟩
    · rw [if_neg Bool.false_ne_true]
      refine ⟨rfl, fun v => ?_⟩
      rw [lookup_insert_apply, metadata_setRecord, same]
  | metaUpdate record =>
    cases metadata
    dsimp only [StoreCall.voiceId] at valid
    rw [exec_metaUpdate valid, VoiceMap.exec, same]
    split
    · rw [if_neg Bool.false_ne_true]
      refine ⟨rfl, fun v => ?_⟩
      rw [lookup_insert_apply, metadata_setRecord, same]
    · exact ⟨rfl, same⟩
  | metaDelete w =>
    cases metadata
    dsimp only [StoreCall.voiceId] at valid
    rw [exec_metaDelete valid, VoiceMap.exec, same]
    split
    · rw [if_neg Bool.false_ne_true]
      refine ⟨rfl, fun v => ?_⟩
      rw [lookup_erase_apply, metadata_dropRecord, same]
    · exact ⟨rfl, same⟩
  | _ => cases metadata

end LlmTts
