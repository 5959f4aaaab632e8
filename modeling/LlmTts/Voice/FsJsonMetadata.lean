import LlmTts.Lib.DateText
import LlmTts.Lib.JsonRead
import LlmTts.Voice.Seed

/-!
# The JSON metadata repository

`FsJsonMetadataRepository` of `fs_json_metadata.py`: every operation reads
`metadata.json` afresh, and a changing one writes the whole document. A record is read
back from the document (`deserialize_serialize`).
-/

namespace LlmTts
open Python

/-! ## Records as JSON -/

def VoiceSource.text : VoiceSource → String
  | .seed => "seed"
  | .crud => "crud"

/-- An `int` as `json.dumps` takes it: a `bool` becomes a JSON constant. -/
def intJson : PyInt → Json
  | .int n => .int n
  | .bool b => .bool b

/-- `_serialize_record`. -/
def serializeRecord (record : VoiceRecord) : List (String × Json) := [
  ("id", .str record.id),
  ("transcript", .str record.transcript),
  ("language", .str record.language),
  ("consent_acknowledged", .bool record.consentAcknowledged),
  ("number_lang", .str record.numberLang),
  ("target_db", .float record.targetDb),
  ("temperature", .float record.temperature),
  ("top_p", .float record.topP),
  ("max_sentences_per_chunk", intJson record.maxSentencesPerChunk),
  ("source", .str record.source.text),
  ("created_at", .str record.createdAt.isoformat),
  ("updated_at", .str record.updatedAt.isoformat)]

theorem sorted_intJson (n : PyInt) : (intJson n).sorted = intJson n := by
  cases n <;> rfl

/-- The keys of a document are sorted; the values of a record have no keys. -/
theorem serializeRecord_sorted (record : VoiceRecord) :
    ∃ pairs, (Json.obj (serializeRecord record)).sorted = .obj pairs ∧ pairs.Perm (serializeRecord record) := by
  have flat : ((serializeRecord record).map fun pair => (pair.1, pair.2.sorted)) = serializeRecord record := by
    simp [serializeRecord, Json.sorted, sorted_intJson]
  rw [Json.sorted_obj, flat]
  exact ⟨_, rfl, List.perm_insertionSort _ _⟩

/-- The fields of a record have different names. -/
theorem serializeRecord_keys (record : VoiceRecord) : ((serializeRecord record).map Prod.fst).Nodup := by
  show ["id", "transcript", "language", "consent_acknowledged", "number_lang", "target_db", "temperature", "top_p",
    "max_sentences_per_chunk", "source", "created_at", "updated_at"].Nodup
  decide

section Deserialize

variable (containerText : Json → String) (now : DateTime)

/-- `str(x)`. Arrays and objects are those of `containerText`. -/
def strOf : Json → Option String
  | .null => some "None"
  | .bool b => some (if b then "True" else "False")
  | .int n => if maxStrDigits < (Nat.toDigits 10 n.natAbs).length then none else some (intStr n)
  | .float x => some x.str
  | .str s => some s
  | value => some (containerText value)

/-- `bool(x)`. -/
def boolOf : Json → Bool
  | .null => false
  | .bool b => b
  | .int n => n ≠ 0
  | .float x => x.value? ≠ some 0
  | .str s => s ≠ ""
  | .arr items => !items.isEmpty
  | .obj pairs => !pairs.isEmpty

/-- `float(x)`, or `none` where Python raises. -/
def floatOf : Json → Option PyFloat
  | .str s => PyFloat.ofText? s
  | value => value.float?.bind id

/-- `int(x)`, or `none` where Python raises; a float is cut off. -/
def intOf : Json → Option Int
  | .float x => x.value?.map fun q => q.num.tdiv q.den
  | .str s => int? s
  | value => value.int?.map PyInt.toInt

/-- A source other than the two is left out. -/
def sourceOf : Json → Option VoiceSource
  | .str "seed" => some .seed
  | .str "crud" => some .crud
  | _ => none

/-- `_parse_dt`; the clock reads `now`. -/
def parseDt : Json → Option DateTime
  | .str s => if s = "" then some now else DateTime.fromisoformat s
  | _ => some now

/-- `_deserialize_record`, or `none` where it raises. -/
def deserializeRecord : Json → Option VoiceRecord
  | .obj pairs => do
    let raw := dictItems pairs
    let id ← strOf containerText (← dictGet raw "id")
    let transcript ← strOf containerText (bodyGet raw "transcript" (.str ""))
    let language ← strOf containerText (← dictGet raw "language")
    let consentAcknowledged := boolOf (bodyGet raw "consent_acknowledged" (.bool false))
    let numberLang ← strOf containerText (bodyGet raw "number_lang" (.str ""))
    let targetDb ← floatOf (bodyGet raw "target_db" (.float (.finite (-20))))
    let temperature ← floatOf (bodyGet raw "temperature" (.float defaultTemperature))
    let topP ← floatOf (bodyGet raw "top_p" (.float defaultTopP))
    let maxSentencesPerChunk ← intOf (bodyGet raw "max_sentences_per_chunk" (.int 2))
    let source ← sourceOf (bodyGet raw "source" (.str "crud"))
    let createdAt ← parseDt now (bodyGet raw "created_at" .null)
    let updatedAt ← parseDt now (bodyGet raw "updated_at" .null)
    return {
      id, transcript, language, consentAcknowledged, numberLang, targetDb, temperature, topP,
      maxSentencesPerChunk := .int maxSentencesPerChunk, source, createdAt, updatedAt }
  | _ => none

/-! ### Reading a record back -/

/-- The floats of a record are doubles and its timestamps are those of aware datetimes. -/
structure VoiceRecord.Typed (record : VoiceRecord) : Prop where
  targetDb : record.targetDb.IsDouble
  temperature : record.temperature.IsDouble
  topP : record.topP.IsDouble
  createdAt : record.createdAt.InRange
  updatedAt : record.updatedAt.InRange

instance (record : VoiceRecord) : Decidable record.Typed :=
  decidable_of_iff (record.targetDb.IsDouble ∧ record.temperature.IsDouble ∧ record.topP.IsDouble ∧
      record.createdAt.InRange ∧ record.updatedAt.InRange)
    ⟨fun ⟨target, temperature, top, created, updated⟩ => ⟨target, temperature, top, created, updated⟩,
      fun ⟨target, temperature, top, created, updated⟩ => ⟨target, temperature, top, created, updated⟩⟩

theorem VoiceRecord.Typed.settled {record : VoiceRecord} (typed : record.Typed) : record.settled.Typed :=
  ⟨typed.targetDb, typed.temperature, typed.topP, typed.createdAt, typed.updatedAt⟩

theorem VoiceRecord.Typed.of_settled {record : VoiceRecord} (typed : record.settled.Typed) : record.Typed :=
  ⟨typed.targetDb, typed.temperature, typed.topP, typed.createdAt, typed.updatedAt⟩

/-- `json.dumps` refuses the record: its integer has more digits than `str` writes. -/
def VoiceRecord.tooLong (record : VoiceRecord) : Bool :=
  match record.maxSentencesPerChunk with
  | .int n => maxStrDigits < (Nat.toDigits 10 n.natAbs).length
  | .bool _ => false

/-- What is read back is no longer than what was written. -/
theorem VoiceRecord.tooLong_settled {record : VoiceRecord} : record.settled.tooLong = record.tooLong := by
  unfold tooLong settled
  dsimp only
  cases record.maxSentencesPerChunk with
  | int n => rfl
  | bool b =>
    have short : (Nat.toDigits 10 (PyInt.bool b).toInt.natAbs).length = 1 := by cases b <;> rfl
    rw [short]
    rfl

/-- A record can be written unless one of its numbers has too many digits. -/
theorem encode_record_isSome_iff {level : Nat} (record : VoiceRecord) :
    ((Json.obj (serializeRecord record)).sorted.encode level).isSome ↔ record.tooLong = false := by
  obtain ⟨pairs, shape, perm⟩ := serializeRecord_sorted record
  have members : ∀ pair, pair ∈ pairs ↔ pair ∈ serializeRecord record := fun pair => perm.mem_iff
  rw [shape, Json.encode_obj_isSome_iff]
  simp only [members, serializeRecord, List.forall_mem_cons, Json.encode, Option.isSome_some, true_and,
    List.not_mem_nil, false_imp_iff, implies_true, and_true]
  unfold VoiceRecord.tooLong
  cases record.maxSentencesPerChunk with
  | int n =>
    simp only [intJson, Json.encode, decide_eq_false_iff_not]
    split <;> simp_all
  | bool b => simp [intJson, Json.encode]

theorem doubles_intJson (n : PyInt) : (intJson n).Doubles := by
  cases n with
  | int n => exact .int n
  | bool b => exact .bool b

/-- `int()` of what is stored for a number is the number. -/
theorem intOf_intJson (n : PyInt) : intOf (intJson n) = some n.toInt := by
  cases n <;> rfl

/-- The floats of a typed record are doubles. -/
theorem doubles_record {record : VoiceRecord} (typed : record.Typed) :
    (Json.obj (serializeRecord record)).Doubles := by
  refine Json.Doubles.obj ?_
  simp only [serializeRecord, List.forall_mem_cons, List.not_mem_nil, false_imp_iff, implies_true, and_true]
  exact ⟨.str _, .str _, .str _, .bool _, .str _, .float typed.targetDb,
    .float typed.temperature, .float typed.topP, doubles_intJson _, .str _, .str _, .str _⟩

theorem sourceOf_text (source : VoiceSource) : sourceOf (.str source.text) = some source := by
  cases source <;> rfl

theorem isoformat_ne_empty (t : DateTime) : t.isoformat ≠ "" := by
  intro empty
  rw [← String.toList_inj, DateTime.isoformat, String.toList_ofList, String.toList_empty, Date.text] at empty
  simp only [List.append_eq_nil_iff] at empty
  exact List.cons_ne_nil _ _ empty.1.1.1.2

/-- A time is read back from its text. -/
theorem parseDt_isoformat {t : DateTime} (inRange : t.InRange) : parseDt now (.str t.isoformat) = some t := by
  rw [parseDt, if_neg (isoformat_ne_empty t), DateTime.fromisoformat_isoformat inRange]

/-- A record is read back from its object in the document, settled. -/
theorem deserialize_serialize {record : VoiceRecord} (typed : record.Typed) :
    deserializeRecord containerText now (Json.obj (serializeRecord record)).sorted = some record.settled := by
  obtain ⟨pairs, shape, perm⟩ := serializeRecord_sorted record
  have distinct : (pairs.map Prod.fst).Nodup := (perm.map Prod.fst).nodup_iff.2 (serializeRecord_keys record)
  have lookup : ∀ key, dictGet pairs key = dictGet (serializeRecord record) key :=
    fun key => dictGet_perm distinct perm key
  rw [shape, deserializeRecord, dictItems_of_nodup distinct]
  simp only [bodyGet, lookup]
  simp [serializeRecord, dictGet, strOf, boolOf, floatOf, intOf_intJson, Json.float?, sourceOf_text,
    VoiceRecord.settled, parseDt_isoformat now typed.createdAt, parseDt_isoformat now typed.updatedAt]

end Deserialize

/-! ## The repository -/

/-- The text of `metadata.json` in each directory. -/
abbrev Disk : Type := String → Option String

/-- An instance keeps nothing but its directory. -/
structure FsJsonMetadataRepository where
  storeDir : String
  deriving DecidableEq

namespace FsJsonMetadataRepository

variable (self : FsJsonMetadataRepository) (containerText : Json → String) (now : DateTime) (disk : Disk)

/-- `_load_all`, or `none` where it raises. -/
def loadAll : Option (List (String × VoiceRecord)) :=
  match disk self.storeDir with
  | none => some []
  | some rawText =>
    if isBlank rawText then some []
    else
      match Json.loads rawText with
      | some (.obj pairs) =>
        (dictItems pairs).mapM fun (key, value) => (deserializeRecord containerText now value).map (key, ·)
      | _ => none

/-- The document of some records. -/
def payload (records : List (String × VoiceRecord)) : Json :=
  .obj (records.map fun (key, record) => (key, .obj (serializeRecord record)))

/-- `_atomic_write`. With `fault` the write fails before `os.replace`. -/
def atomicWrite (fault : Bool) (records : List (String × VoiceRecord)) : Option Disk :=
  match (payload records).dumps with
  | some encoded => if fault then none else some (Function.update disk self.storeDir (some encoded))
  | none => none

/-- The calls that look up one id: the check of the id, then the records. -/
def reading {α : Type} (voiceId : String) (answer : List (String × VoiceRecord) → Except StoreError α) :
    Except StoreError α :=
  match validateVoiceId voiceId with
  | .error e => .error e
  | .ok () =>
    match self.loadAll containerText now disk with
    | none => .error .other
    | some records => answer records

/-- The calls that change one id: the records are read, changed and written. -/
def writing {α : Type} (fault : Bool) (voiceId : String) (value : α)
    (change : List (String × VoiceRecord) → Except StoreError (List (String × VoiceRecord))) :
    Except StoreError α × Disk :=
  match self.reading containerText now disk voiceId change with
  | .error e => (.error e, disk)
  | .ok records =>
    match self.atomicWrite disk fault records with
    | none => (.error .other, disk)
    | some written => (.ok value, written)

/-- `list`. -/
def list : Except StoreError (List VoiceRecord) :=
  match self.loadAll containerText now disk with
  | none => .error .other
  | some records => .ok (records.map Prod.snd)

/-- `get`. -/
def get (voiceId : String) : Except StoreError VoiceRecord :=
  self.reading containerText now disk voiceId fun records =>
    match dictGet records voiceId with
    | none => .error (.voiceNotFound voiceId)
    | some record => .ok record

/-- `exists`. -/
def existsId (voiceId : String) : Except StoreError Bool :=
  self.reading containerText now disk voiceId fun records => .ok (dictGet records voiceId).isSome

/-- `create`. -/
def create (fault : Bool) (record : VoiceRecord) : Except StoreError VoiceRecord × Disk :=
  self.writing containerText now disk fault record.id record fun records =>
    if (dictGet records record.id).isSome then .error (.voiceAlreadyExists record.id)
    else .ok (dictSet records record.id record)

/-- `update`. -/
def update (fault : Bool) (record : VoiceRecord) : Except StoreError VoiceRecord × Disk :=
  self.writing containerText now disk fault record.id record fun records =>
    if (dictGet records record.id).isSome then .ok (dictSet records record.id record)
    else .error (.voiceNotFound record.id)

/-- `delete`. -/
def delete (fault : Bool) (voiceId : String) : Except StoreError Unit × Disk :=
  self.writing containerText now disk fault voiceId () fun records =>
    if (dictGet records voiceId).isSome then .ok (records.filter fun item => item.1 ≠ voiceId)
    else .error (.voiceNotFound voiceId)

end FsJsonMetadataRepository

end LlmTts
