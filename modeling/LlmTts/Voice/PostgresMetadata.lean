import LlmTts.Voice.Consent
import LlmTts.Voice.MetadataMap

/-!
# The PostgreSQL metadata repository

`PostgresMetadataRepository` of `postgres_metadata.py`, over the statements that it
executes. The server is a parameter with what is documented of it (`Documented`). The
repository is then the same finite map as `FsJsonMetadataRepository`, as long as its
columns hold the records (`backends_agree`).
-/

namespace LlmTts
open Python FiniteMap

/-! ## The table -/

/-- A record as it is given to a repository. A `String` has no lone surrogates; where the
texts of a seed entry have some (`"\ud800"`), `record` shows U+FFFD in their place. -/
structure GivenRecord where
  record : VoiceRecord
  loneSurrogates : Bool
  deriving DecidableEq

/-- A row of `voice_records`, as psycopg takes and gives its columns. -/
structure Row where
  /-- There are lone surrogates in its texts. -/
  loneSurrogates : Bool
  id : String
  transcript : String
  language : String
  consentAcknowledged : Bool
  numberLang : String
  targetDb : PyFloat
  temperature : PyFloat
  topP : PyFloat
  maxSentencesPerChunk : PyInt
  source : VoiceSource
  createdAt : DateTime
  updatedAt : DateTime
  deriving DecidableEq

/-- The parameters of `INSERT` and `UPDATE`. -/
def rowOf (given : GivenRecord) : Row where
  loneSurrogates := given.loneSurrogates
  id := given.record.id
  transcript := given.record.transcript
  language := given.record.language
  consentAcknowledged := given.record.consentAcknowledged
  numberLang := given.record.numberLang
  targetDb := given.record.targetDb
  temperature := given.record.temperature
  topP := given.record.topP
  maxSentencesPerChunk := given.record.maxSentencesPerChunk
  source := given.record.source
  createdAt := given.record.createdAt
  updatedAt := given.record.updatedAt

/-- `_row_to_record`. The columns are of type `TIMESTAMPTZ`: their datetimes are aware. -/
def rowToRecord (row : Row) : VoiceRecord where
  id := row.id
  transcript := row.transcript
  language := row.language
  consentAcknowledged := row.consentAcknowledged
  numberLang := row.numberLang
  targetDb := row.targetDb
  temperature := row.temperature
  topP := row.topP
  maxSentencesPerChunk := .int row.maxSentencesPerChunk.toInt
  source := row.source
  createdAt := row.createdAt
  updatedAt := row.updatedAt

@[simp] theorem rowToRecord_rowOf (given : GivenRecord) : rowToRecord (rowOf given) = given.record.settled := rfl

/-- What psycopg raises. -/
inductive DatabaseError where
  | uniqueViolation
  | other
  deriving DecidableEq, Repr

/-- The statements of the repository. A statement that writes returns `rowcount` and the
state that `commit` makes the next one. -/
structure Database where
  State : Type
  /-- `CREATE TABLE IF NOT EXISTS voice_records`. -/
  createTable : State → State
  /-- `SELECT … ORDER BY id`. -/
  selectAll : State → Except DatabaseError (List Row)
  /-- `SELECT … WHERE id = %s`. -/
  selectOne : State → String → Except DatabaseError (Option Row)
  /-- `SELECT 1 … WHERE id = %s`. -/
  probe : State → String → Except DatabaseError Bool
  insert : State → Row → Except DatabaseError State
  update : State → Row → Except DatabaseError (Nat × State)
  delete : State → String → Except DatabaseError (Nat × State)

/-! ## The repository -/

/-- A call of both repositories. -/
inductive BackendCall where
  | list
  | get (voiceId : String)
  | existsId (voiceId : String)
  | create (given : GivenRecord)
  | update (given : GivenRecord)
  | delete (voiceId : String)

namespace BackendCall

/-- The call of `FsJsonMetadataRepository`. `json.dumps` escapes a lone surrogate as it does
the other characters beyond ASCII, and `json.loads` reads it back. -/
def metadata : BackendCall → MetadataCall
  | list => .metaList
  | get v => .metaGet v
  | existsId v => .metaExists v
  | create given => .metaCreate given.record
  | update given => .metaUpdate given.record
  | delete v => .metaDelete v

/-- The record a call stores. -/
def given? : BackendCall → Option GivenRecord
  | create given | update given => some given
  | _ => none

@[simp] theorem record?_metadata (call : BackendCall) : call.metadata.record? = call.given?.map (·.record) := by
  cases call <;> rfl

end BackendCall

/-- `PostgresMetadataRepository` with its database. -/
structure PostgresMetadataRepository (db : Database) where
  initialized : Bool
  state : db.State

namespace PostgresMetadataRepository

variable {db : Database} (self : PostgresMetadataRepository db)

/-- `_connect`, which creates the table first. -/
def connect : PostgresMetadataRepository db :=
  if self.initialized then self else ⟨true, db.createTable self.state⟩

/-- The check of an id, then a connection. -/
def connected {α : Type} (voiceId : String)
    (body : PostgresMetadataRepository db → Except StoreError α × PostgresMetadataRepository db) :
    Except StoreError α × PostgresMetadataRepository db :=
  match validateVoiceId voiceId with
  | .error e => (.error e, self)
  | .ok () => body self.connect

/-- `list`. -/
def list : Except StoreError (List VoiceRecord) × PostgresMetadataRepository db :=
  match db.selectAll self.connect.state with
  | .error _ => (.error .other, self.connect)
  | .ok rows => (.ok (rows.map rowToRecord), self.connect)

/-- `get`. -/
def get (voiceId : String) : Except StoreError VoiceRecord × PostgresMetadataRepository db :=
  self.connected voiceId fun conn =>
    match db.selectOne conn.state voiceId with
    | .error _ => (.error .other, conn)
    | .ok none => (.error (.voiceNotFound voiceId), conn)
    | .ok (some row) => (.ok (rowToRecord row), conn)

/-- `exists`. -/
def existsId (voiceId : String) : Except StoreError Bool × PostgresMetadataRepository db :=
  self.connected voiceId fun conn =>
    match db.probe conn.state voiceId with
    | .error _ => (.error .other, conn)
    | .ok present => (.ok present, conn)

/-- `create`. -/
def create (given : GivenRecord) : Except StoreError VoiceRecord × PostgresMetadataRepository db :=
  self.connected given.record.id fun conn =>
    match db.insert conn.state (rowOf given) with
    | .error .uniqueViolation => (.error (.voiceAlreadyExists given.record.id), conn)
    | .error .other => (.error .other, conn)
    | .ok committed => (.ok given.record, { conn with state := committed })

/-- A statement that writes, answered with `value` if it changed a row. -/
def writing {α : Type} (conn : PostgresMetadataRepository db) (voiceId : String) (value : α)
    (result : Except DatabaseError (Nat × db.State)) : Except StoreError α × PostgresMetadataRepository db :=
  match result with
  | .error _ => (.error .other, conn)
  | .ok (rowcount, committed) =>
    if rowcount = 0 then (.error (.voiceNotFound voiceId), conn) else (.ok value, { conn with state := committed })

/-- `update`. -/
def update (given : GivenRecord) : Except StoreError VoiceRecord × PostgresMetadataRepository db :=
  self.connected given.record.id fun conn =>
    conn.writing given.record.id given.record (db.update conn.state (rowOf given))

/-- `delete`. -/
def delete (voiceId : String) : Except StoreError Unit × PostgresMetadataRepository db :=
  self.connected voiceId fun conn => conn.writing voiceId () (db.delete conn.state voiceId)

/-- One call. -/
def exec : BackendCall → MetadataReply × PostgresMetadataRepository db
  | .list => self.list.map (·.map .records) id
  | .get v => (self.get v).map (·.map .record) id
  | .existsId v => (self.existsId v).map (·.map .present) id
  | .create given => (self.create given).map (·.map .record) id
  | .update given => (self.update given).map (·.map .record) id
  | .delete v => (self.delete v).map (·.map fun _ => .done) id

/-- The calls one after the other. -/
def run : List BackendCall → PostgresMetadataRepository db → List MetadataReply × PostgresMetadataRepository db
  | [], self => ([], self)
  | call :: calls, self =>
    let (reply, self) := self.exec call
    let (replies, self) := run calls self
    (reply :: replies, self)

end PostgresMetadataRepository

/-! ## What is documented of the server -/

/-- The timestamps apart from their time zones. -/
def Row.inUtc (row : Row) : Row :=
  { row with createdAt := ⟨row.createdAt.micros, 0⟩, updatedAt := ⟨row.updatedAt.micros, 0⟩ }

def VoiceRecord.inUtc (record : VoiceRecord) : VoiceRecord :=
  { record with createdAt := ⟨record.createdAt.micros, 0⟩, updatedAt := ⟨record.updatedAt.micros, 0⟩ }

/-- `TEXT` holds no NUL. -/
def NulFree (text : String) : Prop := Char.ofNat 0 ∉ text.toList

instance (text : String) : Decidable (NulFree text) := inferInstanceAs (Decidable (_ ∉ _))

/-- `INTEGER` holds 32 bits. A `bool` is a parameter of type `boolean`, which it does not take. -/
def Int32 : PyInt → Prop
  | .int n => -2 ^ 31 ≤ n ∧ n < 2 ^ 31
  | .bool _ => False

instance : (n : PyInt) → Decidable (Int32 n)
  | .int n => inferInstanceAs (Decidable (-2 ^ 31 ≤ n ∧ n < 2 ^ 31))
  | .bool _ => inferInstanceAs (Decidable False)

/-- Every column holds its value. The texts are sent as UTF-8, which has no surrogates. -/
structure Row.Storable (row : Row) : Prop where
  encodable : row.loneSurrogates = false
  id : NulFree row.id
  transcript : NulFree row.transcript
  language : NulFree row.language
  numberLang : NulFree row.numberLang
  maxSentencesPerChunk : Int32 row.maxSentencesPerChunk

/-- The rows by their primary key. -/
abbrev Table : Type := Finmap fun _ : String => Row

/-- What the statements do to the table, if there is one. A row is found with its
timestamps in the time zone of the session. -/
structure Documented (db : Database) (table : db.State → Option Table) : Prop where
  createTable : ∀ s, table (db.createTable s) = some ((table s).getD ∅)
  selectAll : ∀ s t, table s = some t → ∃ found, db.selectAll s = .ok found ∧
    (found.map Row.inUtc).Perm ((rows t).map fun item => item.2.inUtc)
  selectOne : ∀ s t v, table s = some t → NulFree v → ∃ found, db.selectOne s v = .ok found ∧
    found.map Row.inUtc = (t.lookup v).map Row.inUtc
  probe : ∀ s t v, table s = some t → NulFree v → db.probe s v = .ok (t.lookup v).isSome
  insert : ∀ s t row, table s = some t → row.Storable → t.lookup row.id = none →
    ∃ s', db.insert s row = .ok s' ∧ table s' = some (t.insert row.id row)
  insert_taken : ∀ s t row, table s = some t → row.Storable → (t.lookup row.id).isSome →
    db.insert s row = .error .uniqueViolation
  insert_rejected : ∀ s t row, table s = some t → ¬row.Storable → db.insert s row = .error .other
  update : ∀ s t row, table s = some t → row.Storable → (t.lookup row.id).isSome →
    ∃ s', db.update s row = .ok (1, s') ∧ table s' = some (t.insert row.id row)
  update_absent : ∀ s t row, table s = some t → row.Storable → t.lookup row.id = none →
    ∃ s', db.update s row = .ok (0, s')
  update_rejected : ∀ s t row, table s = some t → ¬row.Storable → (t.lookup row.id).isSome →
    db.update s row = .error .other
  delete : ∀ s t v, table s = some t → NulFree v → (t.lookup v).isSome →
    ∃ s', db.delete s v = .ok (1, s') ∧ table s' = some (t.erase v)
  delete_absent : ∀ s t v, table s = some t → NulFree v → t.lookup v = none →
    ∃ s', db.delete s v = .ok (0, s')

/-- A valid id is a parameter that psycopg takes. -/
theorem nulFree_of_valid {v : String} (valid : validateVoiceId v = .ok ()) : NulFree v := by
  have body : ∀ cs : List Char, voiceIdBody cs = true → Char.ofNat 0 ∉ cs := by
    intro cs all member
    rw [voiceIdBody, Bool.and_eq_true, List.all_eq_true] at all
    exact absurd (all.2 _ member) (by decide)
  have regex : voiceIdRegexMatch v = true := by
    unfold validateVoiceId at valid
    split at valid
    · assumption
    · cases valid
  rw [voiceIdRegexMatch, Bool.or_eq_true, Bool.and_eq_true] at regex
  rcases regex with whole | ⟨newline, front⟩
  · exact body _ whole
  · intro member
    have last : v.toList.getLast? = some '\n' := eq_of_beq newline
    rw [← List.dropLast_append_getLast? '\n' last, List.mem_append] at member
    rcases member with inside | final
    · exact body _ front inside
    · exact absurd (List.mem_singleton.1 final) (by decide)

/-! ## Answers that are the same -/

/-- The order of a list is unspecified, and a timestamp is an instant. -/
def MetadataAnswer.Same : MetadataAnswer → MetadataAnswer → Prop
  | .records one, .records two => (one.map VoiceRecord.inUtc).Perm (two.map VoiceRecord.inUtc)
  | .record one, .record two => one.inUtc = two.inUtc
  | .present one, .present two => one = two
  | .done, .done => True
  | _, _ => False

/-- The same result, or the same error. -/
def SameReply : MetadataReply → MetadataReply → Prop
  | .ok one, .ok two => one.Same two
  | .error one, .error two => one = two
  | _, _ => False

/-! ## The repository as a finite map -/

namespace PostgresMetadataRepository

variable {db : Database} {table : db.State → Option Table} {self : PostgresMetadataRepository db} {m : VoiceMap}

/-- After the table was created its rows are read as the records of the map. -/
def Holds (table : db.State → Option Table) (self : PostgresMetadataRepository db) (m : VoiceMap) : Prop :=
  ∃ t, table self.connect.state = some t ∧ ∀ v, m.lookup v = (t.lookup v).map rowToRecord

theorem initialized_connect (self : PostgresMetadataRepository db) : self.connect.initialized = true := by
  cases created : self.initialized <;> simp [connect, created]

theorem holds_of_table (created : self.initialized = true) {t : Table} (found : table self.state = some t)
    (same : ∀ v, m.lookup v = (t.lookup v).map rowToRecord) : Holds table self m :=
  ⟨t, by rw [connect, if_pos created]; exact found, same⟩

theorem Holds.connect (holds : Holds table self m) : Holds table self.connect m := by
  obtain ⟨t, found, same⟩ := holds
  exact holds_of_table (initialized_connect self) found same

theorem connected_valid {α : Type} {v : String} (valid : validateVoiceId v = .ok ())
    (body : PostgresMetadataRepository db → Except StoreError α × PostgresMetadataRepository db) :
    self.connected v body = body self.connect := by
  rw [connected, valid]

/-! ### The calls -/

/-- The repository answers as the map does, and holds it afterwards. -/
structure Follows (table : db.State → Option Table) (result : MetadataReply × PostgresMetadataRepository db)
    (reply : MetadataReply) (m : VoiceMap) : Prop where
  reply : SameReply reply result.1
  holds : Holds table result.2 m

theorem list_follows (documented : Documented db table) (holds : Holds table self m) :
    Follows table (self.exec .list) (m.exec false .metaList).1 m := by
  obtain ⟨t, found, same⟩ := holds
  obtain ⟨rows', selected, equal⟩ := documented.selectAll _ t found
  have listed : self.list = (.ok (rows'.map rowToRecord), self.connect) := by
    rw [list, selected]
  rw [exec, listed]
  refine ⟨?_, holds_of_table (initialized_connect self) found same⟩
  show (((rows m).map Prod.snd).map VoiceRecord.inUtc).Perm ((rows'.map rowToRecord).map VoiceRecord.inUtc)
  have records := equal.symm.map rowToRecord
  rw [List.map_map, List.map_map] at records
  rw [rows_of_lookup same, List.map_map, List.map_map, List.map_map]
  exact records

theorem get_follows (documented : Documented db table) (holds : Holds table self m) {v : String}
    (valid : validateVoiceId v = .ok ()) :
    Follows table (self.exec (.get v)) (m.exec false (.metaGet v)).1 m := by
  obtain ⟨t, found, same⟩ := holds
  obtain ⟨row, selected, equal⟩ := documented.selectOne _ t v found (nulFree_of_valid valid)
  have kept := holds_of_table (initialized_connect self) found same
  rw [VoiceMap.exec_metaGet, exec, get, connected_valid valid, selected, same]
  cases row with
  | none =>
    cases here : t.lookup v with
    | none => exact ⟨rfl, kept⟩
    | some stored =>
      rw [here] at equal
      cases equal
  | some row =>
    cases here : t.lookup v with
    | none =>
      rw [here] at equal
      cases equal
    | some stored =>
      rw [here] at equal
      have records : rowToRecord row.inUtc = rowToRecord stored.inUtc := congrArg rowToRecord (Option.some.inj equal)
      exact ⟨records.symm, kept⟩

theorem existsId_follows (documented : Documented db table) (holds : Holds table self m) {v : String}
    (valid : validateVoiceId v = .ok ()) :
    Follows table (self.exec (.existsId v)) (m.exec false (.metaExists v)).1 m := by
  obtain ⟨t, found, same⟩ := holds
  have probed := documented.probe _ t v found (nulFree_of_valid valid)
  have answered : (m.exec false (.metaExists v)).1 = .ok (.present (t.lookup v).isSome) := by
    rw [VoiceMap.exec, same, Option.isSome_map]
  rw [exec, existsId, connected_valid valid, probed, answered]
  exact ⟨rfl, holds_of_table (initialized_connect self) found same⟩

/-- The table after a row was written. -/
theorem holds_insert {t : Table} {s : db.State} (same : ∀ v, m.lookup v = (t.lookup v).map rowToRecord)
    (given : GivenRecord) (written : table s = some (t.insert given.record.id (rowOf given))) :
    Holds table { self.connect with state := s } (m.insert given.record.id given.record.settled) := by
  have created : ({ self.connect with state := s } : PostgresMetadataRepository db).initialized = true :=
    initialized_connect self
  refine holds_of_table created written fun v => ?_
  rw [lookup_insert_apply, lookup_insert_apply]
  split
  · rfl
  · exact same v

/-- The table after a row was deleted. -/
theorem holds_erase {t : Table} {s : db.State} (same : ∀ v, m.lookup v = (t.lookup v).map rowToRecord) (v : String)
    (written : table s = some (t.erase v)) : Holds table { self.connect with state := s } (m.erase v) := by
  have created : ({ self.connect with state := s } : PostgresMetadataRepository db).initialized = true :=
    initialized_connect self
  refine holds_of_table created written fun w => ?_
  rw [lookup_erase_apply, lookup_erase_apply]
  split
  · rfl
  · exact same w

theorem create_follows (documented : Documented db table) (holds : Holds table self m) {given : GivenRecord}
    (valid : validateVoiceId given.record.id = .ok ()) (storable : (rowOf given).Storable) :
    Follows table (self.exec (.create given)) (m.exec false (.metaCreate given.record)).1
      (m.exec false (.metaCreate given.record)).2 := by
  obtain ⟨t, found, same⟩ := holds
  rw [exec, create, connected_valid valid, VoiceMap.exec, same, Option.isSome_map]
  cases here : t.lookup given.record.id with
  | some other =>
    rw [documented.insert_taken _ t _ found storable (Option.isSome_iff_exists.2 ⟨other, here⟩)]
    exact ⟨rfl, holds_of_table (initialized_connect self) found same⟩
  | none =>
    obtain ⟨s', inserted, written⟩ := documented.insert _ t _ found storable here
    rw [inserted]
    exact ⟨rfl, holds_insert same given written⟩

theorem update_follows (documented : Documented db table) (holds : Holds table self m) {given : GivenRecord}
    (valid : validateVoiceId given.record.id = .ok ()) (storable : (rowOf given).Storable) :
    Follows table (self.exec (.update given)) (m.exec false (.metaUpdate given.record)).1
      (m.exec false (.metaUpdate given.record)).2 := by
  obtain ⟨t, found, same⟩ := holds
  rw [exec, update, connected_valid valid, VoiceMap.exec, same, Option.isSome_map]
  cases here : t.lookup given.record.id with
  | some other =>
    obtain ⟨s', updated, written⟩ :=
      documented.update _ t _ found storable (Option.isSome_iff_exists.2 ⟨other, here⟩)
    rw [updated]
    exact ⟨rfl, holds_insert same given written⟩
  | none =>
    obtain ⟨s', absent⟩ := documented.update_absent _ t _ found storable here
    rw [absent]
    exact ⟨rfl, holds_of_table (initialized_connect self) found same⟩

theorem delete_follows (documented : Documented db table) (holds : Holds table self m) {v : String}
    (valid : validateVoiceId v = .ok ()) :
    Follows table (self.exec (.delete v)) (m.exec false (.metaDelete v)).1 (m.exec false (.metaDelete v)).2 := by
  obtain ⟨t, found, same⟩ := holds
  rw [exec, delete, connected_valid valid, VoiceMap.exec, same, Option.isSome_map]
  cases here : t.lookup v with
  | some stored =>
    obtain ⟨s', deleted, written⟩ :=
      documented.delete _ t v found (nulFree_of_valid valid) (Option.isSome_iff_exists.2 ⟨stored, here⟩)
    rw [deleted]
    exact ⟨trivial, holds_erase same v written⟩
  | none =>
    obtain ⟨s', absent⟩ := documented.delete_absent _ t v found (nulFree_of_valid valid) here
    rw [absent]
    exact ⟨rfl, holds_of_table (initialized_connect self) found same⟩

/-- A call on a valid id, with a record that the columns hold. -/
theorem exec_follows (documented : Documented db table) (holds : Holds table self m) {call : BackendCall}
    (valid : ∀ v, call.metadata.voiceId? = some v → validateVoiceId v = .ok ())
    (storable : ∀ given, call.given? = some given → (rowOf given).Storable) :
    Follows table (self.exec call) (m.exec false call.metadata).1 (m.exec false call.metadata).2 := by
  cases call with
  | list => exact list_follows documented holds
  | get v =>
    have follows := get_follows documented holds (valid v rfl)
    have unchanged : (m.exec false (.metaGet v)).2 = m := by rw [VoiceMap.exec_metaGet]
    dsimp only [BackendCall.metadata]
    rw [unchanged]
    exact follows
  | existsId v => exact existsId_follows documented holds (valid v rfl)
  | create given => exact create_follows documented holds (valid _ rfl) (storable _ rfl)
  | update given => exact update_follows documented holds (valid _ rfl) (storable _ rfl)
  | delete v => exact delete_follows documented holds (valid v rfl)

/-- A call on an id that is not valid. -/
theorem exec_invalid {call : BackendCall} {v : String} {e : StoreError} (about : call.metadata.voiceId? = some v)
    (invalid : validateVoiceId v = .error e) : self.exec call = (.error e, self) := by
  cases call with
  | list => cases about
  | get w | existsId w | create given | update given | delete w =>
    cases about
    simp only [exec, get, existsId, create, update, delete, connected, invalid]
    rfl

end PostgresMetadataRepository

/-! ## Both repositories -/

/-- What is read from JSON text: the fields have their types, and an integer has no more
digits than Python reads. -/
structure VoiceRecord.Parsed (record : VoiceRecord) : Prop where
  typed : record.Typed
  short : record.tooLong = false

namespace MetadataStep

variable (containerText : Json → String) {step : MetadataStep} {disk : Disk}

/-- A call on an id that is not valid. -/
theorem exec_invalid {v : String} {e : StoreError} (about : step.call.voiceId? = some v)
    (invalid : validateVoiceId v = .error e) : step.exec containerText disk = (.error e, disk) := by
  obtain ⟨repository, call, now, fault⟩ := step
  cases call with
  | metaList => cases about
  | metaGet w | metaExists w | metaCreate record | metaUpdate record | metaDelete w =>
    cases about
    simp only [exec, FsJsonMetadataRepository.get, FsJsonMetadataRepository.existsId,
      FsJsonMetadataRepository.create, FsJsonMetadataRepository.update, FsJsonMetadataRepository.delete,
      FsJsonMetadataRepository.writing, FsJsonMetadataRepository.reading, invalid]
    rfl

end MetadataStep

/-- A call of both repositories, the instance of `FsJsonMetadataRepository` that it is
made through, and what the clock reads. -/
structure BackendStep where
  repository : FsJsonMetadataRepository
  call : BackendCall
  now : DateTime

/-- The call on a disk that works. -/
def BackendStep.metadata (step : BackendStep) : MetadataStep := ⟨step.repository, step.call.metadata, step.now, false⟩

/-- A call works, if its record can be encoded. -/
theorem BackendStep.not_fails {step : BackendStep}
    (parsed : ∀ given, step.call.given? = some given → given.record.Parsed) : step.metadata.fails = false := by
  show (false || step.call.metadata.record?.any VoiceRecord.tooLong) = false
  rw [Bool.false_or, BackendCall.record?_metadata]
  cases stored : step.call.given? with
  | none => rfl
  | some given => exact (parsed given stored).short

section Agree

variable {db : Database} {table : db.State → Option Table} {storeDir : String}

theorem call_agrees (documented : Documented db table) (containerText : Json → String) {step : BackendStep}
    {disk : Disk} {self : PostgresMetadataRepository db} {m : VoiceMap}
    (sameDir : step.repository.storeDir = storeDir)
    (parsed : ∀ given, step.call.given? = some given → given.record.Parsed)
    (storable : ∀ given, step.call.given? = some given → validateVoiceId given.record.id = .ok () →
      (rowOf given).Storable)
    (represents : FsJsonMetadataRepository.Represents (disk storeDir) m) (holds : self.Holds table m) :
    SameReply (step.metadata.exec containerText disk).1 (self.exec step.call).1 ∧
      ∃ m', FsJsonMetadataRepository.Represents ((step.metadata.exec containerText disk).2 storeDir) m' ∧
        (self.exec step.call).2.Holds table m' := by
  by_cases valid : ∀ v, step.call.metadata.voiceId? = some v → validateVoiceId v = .ok ()
  · have typed : ∀ record, step.metadata.call.record? = some record → record.Typed := by
      intro record stored
      have mapped : step.call.given?.map (·.record) = some record :=
        (BackendCall.record?_metadata step.call).symm.trans stored
      obtain ⟨given, here, rfl⟩ := Option.map_eq_some_iff.1 mapped
      exact (parsed given here).typed
    have held : ∀ given, step.call.given? = some given → (rowOf given).Storable := by
      intro given stored
      have about : step.call.metadata.voiceId? = some given.record.id := by
        cases call : step.call <;> rw [call] at stored <;> cases stored <;> rfl
      exact storable given stored (valid given.record.id about)
    have sound : step.metadata.Sound storeDir := ⟨sameDir, valid, typed⟩
    have reads := MetadataStep.exec_follows containerText sound represents
    have answers := PostgresMetadataRepository.exec_follows documented holds valid held
    rw [BackendStep.not_fails parsed] at reads
    refine ⟨?_, _, reads.represents, answers.holds⟩
    rw [reads.reply]
    exact answers.reply
  · simp only [not_forall] at valid
    obtain ⟨v, about, bad⟩ := valid
    cases invalid : validateVoiceId v with
    | ok u => exact absurd invalid bad
    | error e =>
      have about' : step.metadata.call.voiceId? = some v := about
      rw [MetadataStep.exec_invalid containerText about' invalid,
        PostgresMetadataRepository.exec_invalid about invalid]
      exact ⟨rfl, m, represents, holds⟩

/-- A run over a document and a table with the same records. -/
theorem run_agrees (documented : Documented db table) (containerText : Json → String) {steps : List BackendStep}
    {disk : Disk} {self : PostgresMetadataRepository db} {m : VoiceMap}
    (sameDir : ∀ step ∈ steps, step.repository.storeDir = storeDir)
    (parsed : ∀ step ∈ steps, ∀ given, step.call.given? = some given → given.record.Parsed)
    (storable : ∀ step ∈ steps, ∀ given, step.call.given? = some given → validateVoiceId given.record.id = .ok () →
      (rowOf given).Storable)
    (represents : FsJsonMetadataRepository.Represents (disk storeDir) m) (holds : self.Holds table m) :
    List.Forall₂ SameReply (MetadataStep.run containerText (steps.map (·.metadata)) disk).1
      (PostgresMetadataRepository.run (steps.map (·.call)) self).1 := by
  induction steps generalizing disk self m with
  | nil => exact .nil
  | cons step steps ih =>
    obtain ⟨here, others⟩ := List.forall_mem_cons.1 sameDir
    obtain ⟨read, reads⟩ := List.forall_mem_cons.1 parsed
    obtain ⟨held, storables⟩ := List.forall_mem_cons.1 storable
    obtain ⟨same, m', represents, holds⟩ := call_agrees documented containerText here read held represents holds
    exact .cons same (ih others reads storables represents holds)

theorem holds_empty (documented : Documented db table) {s : db.State} (empty : (table s).getD ∅ = ∅) :
    (PostgresMetadataRepository.mk false s).Holds table ∅ := by
  refine ⟨∅, ?_, fun v => ?_⟩
  · rw [← empty]
    exact documented.createTable s
  · rw [Finmap.lookup_empty, Finmap.lookup_empty]
    rfl

variable (storeDir)

/-- A record that the columns do not hold is created in one of the repositories only. -/
theorem create_differs (documented : Documented db table) (containerText : Json → String) (disk : Disk)
    {given : GivenRecord} {s : db.State} (parsed : given.record.Parsed)
    (valid : validateVoiceId given.record.id = .ok ()) (rejected : ¬(rowOf given).Storable)
    (fresh : disk storeDir = none) (empty : (table s).getD ∅ = ∅) :
    ¬List.Forall₂ SameReply
      (MetadataStep.run containerText [BackendStep.metadata ⟨⟨storeDir⟩, .create given, ⟨0, 0⟩⟩] disk).1
      (PostgresMetadataRepository.run [.create given] (⟨false, s⟩ : PostgresMetadataRepository db)).1 := by
  have represents : FsJsonMetadataRepository.Represents (disk storeDir) ∅ := by
    rw [fresh]
    exact FsJsonMetadataRepository.represents_none
  have sound : (BackendStep.metadata ⟨⟨storeDir⟩, .create given, ⟨0, 0⟩⟩).Sound storeDir := by
    refine ⟨rfl, fun v about => ?_, fun stored same => ?_⟩
    · cases about
      exact valid
    · cases same
      exact parsed.typed
  have reads := (MetadataStep.exec_follows containerText sound represents).reply
  have works : (BackendStep.metadata ⟨⟨storeDir⟩, .create given, ⟨0, 0⟩⟩).fails = false := parsed.short
  obtain ⟨t, found, -⟩ := holds_empty documented empty
  have refused := documented.insert_rejected _ t _ found rejected
  have created : ((⟨false, s⟩ : PostgresMetadataRepository db).exec (.create given)).1 = .error .other := by
    rw [PostgresMetadataRepository.exec, PostgresMetadataRepository.create,
      PostgresMetadataRepository.connected_valid valid, refused]
    rfl
  have stored : ((∅ : VoiceMap).exec false (.metaCreate given.record)).1 = .ok (.record given.record) := by
    rw [VoiceMap.exec, Finmap.lookup_empty]
    rfl
  intro same
  have here : SameReply ((BackendStep.metadata ⟨⟨storeDir⟩, .create given, ⟨0, 0⟩⟩).exec containerText disk).1
      ((⟨false, s⟩ : PostgresMetadataRepository db).exec (.create given)).1 := (List.forall₂_cons.1 same).1
  rw [works] at reads
  rw [reads.trans stored, created] at here
  exact here

/-- **Backends.** For every server as documented and every class of records read from
JSON text: the repository over an empty table answers as the one over an empty directory,
in every sequence of calls with these records, also on ids that are not valid, if and
only if the columns hold each of them that has a valid id. -/
theorem backends_agree_iff (documented : Documented db table) (containerText : Json → String) {s : db.State}
    (empty : (table s).getD ∅ = ∅) {admitted : GivenRecord → Prop}
    (parsed : ∀ given, admitted given → given.record.Parsed) :
    (∀ (steps : List BackendStep) (disk : Disk), (∀ step ∈ steps, step.repository.storeDir = storeDir) →
        (∀ step ∈ steps, ∀ given, step.call.given? = some given → admitted given) → disk storeDir = none →
        List.Forall₂ SameReply (MetadataStep.run containerText (steps.map (·.metadata)) disk).1
          (PostgresMetadataRepository.run (steps.map (·.call)) (⟨false, s⟩ : PostgresMetadataRepository db)).1) ↔
      ∀ given, admitted given → validateVoiceId given.record.id = .ok () → (rowOf given).Storable := by
  constructor
  · intro agree given admits valid
    by_contra rejected
    refine create_differs storeDir documented containerText (fun _ => none) (parsed given admits) valid rejected
      rfl empty (agree [⟨⟨storeDir⟩, .create given, ⟨0, 0⟩⟩] (fun _ => none) ?_ ?_ rfl)
    · intro step member
      cases List.mem_singleton.1 member
      rfl
    · intro step member stored same
      cases List.mem_singleton.1 member
      cases same
      exact admits
  · intro storable steps disk sameDir records fresh
    have represents : FsJsonMetadataRepository.Represents (disk storeDir) ∅ := by
      rw [fresh]
      exact FsJsonMetadataRepository.represents_none
    exact run_agrees documented containerText sameDir
      (fun step member given stored => parsed given (records step member given stored))
      (fun step member given stored => storable given (records step member given stored)) represents
      (holds_empty documented empty)

end Agree

/-! ## A server -/

instance (row : Row) : Decidable row.Storable :=
  decidable_of_iff (row.loneSurrogates = false ∧ NulFree row.id ∧ NulFree row.transcript ∧ NulFree row.language ∧
      NulFree row.numberLang ∧ Int32 row.maxSentencesPerChunk)
    ⟨fun ⟨utf8, id, transcript, language, numberLang, int⟩ => ⟨utf8, id, transcript, language, numberLang, int⟩,
      fun ⟨utf8, id, transcript, language, numberLang, int⟩ => ⟨utf8, id, transcript, language, numberLang, int⟩⟩

/-- A server that is nothing but its table. -/
def tableServer : Database where
  State := Option Table
  createTable s := some (s.getD ∅)
  selectAll
    | none => .error .other
    | some t => .ok ((rows t).map Prod.snd)
  selectOne
    | none, _ => .error .other
    | some t, v => .ok (t.lookup v)
  probe
    | none, _ => .error .other
    | some t, v => .ok (t.lookup v).isSome
  insert
    | none, _ => .error .other
    | some t, row =>
      if ¬row.Storable then .error .other
      else if (t.lookup row.id).isSome then .error .uniqueViolation
      else .ok (some (t.insert row.id row))
  update
    | none, _ => .error .other
    | some t, row =>
      if ¬row.Storable then .error .other
      else if (t.lookup row.id).isSome then .ok (1, some (t.insert row.id row))
      else .ok (0, some t)
  delete
    | none, _ => .error .other
    | some t, v => if (t.lookup v).isSome then .ok (1, some (t.erase v)) else .ok (0, some t)

theorem tableServer_documented : Documented tableServer id where
  createTable _ := rfl
  selectAll := by
    rintro s t rfl
    exact ⟨_, rfl, by rw [List.map_map]; exact .refl _⟩
  selectOne := by
    rintro s t v rfl _
    exact ⟨_, rfl, rfl⟩
  probe := by
    rintro s t v rfl _
    rfl
  insert := by
    rintro s t row rfl storable absent
    exact ⟨_, by simp [tableServer, storable, absent], rfl⟩
  insert_taken := by
    rintro s t row rfl storable present
    simp [tableServer, storable, present]
  insert_rejected := by
    rintro s t row rfl rejected
    simp [tableServer, rejected]
  update := by
    rintro s t row rfl storable present
    exact ⟨_, by simp [tableServer, storable, present], rfl⟩
  update_absent := by
    rintro s t row rfl storable absent
    exact ⟨some t, by simp [tableServer, storable, absent]⟩
  update_rejected := by
    rintro s t row rfl rejected present
    simp [tableServer, rejected]
  delete := by
    rintro s t v rfl _ present
    exact ⟨_, by simp [tableServer, present], rfl⟩
  delete_absent := by
    rintro s t v rfl _ absent
    exact ⟨some t, by simp [tableServer, absent]⟩

/-- A record of a voice, with a transcript. -/
def eveSays (transcript : String) : GivenRecord := ⟨{ plainRecord "eve" .crud with transcript := transcript }, false⟩

/-- Calls about one voice, with a second creation and ids without a record. -/
def eveSteps : List BackendStep :=
  [BackendCall.create (eveSays "hi"), .create (eveSays "hi"), .get "eve", .list, .update (eveSays "bye"),
    .existsId "bob", .delete "eve", .get "eve", .get "no id"].map fun call => ⟨⟨"voices"⟩, call, ⟨0, 0⟩⟩

theorem eveSteps_agree :
    List.Forall₂ SameReply (MetadataStep.run (fun _ => "") (eveSteps.map (·.metadata)) fun _ => none).1
      (PostgresMetadataRepository.run (eveSteps.map (·.call))
        (⟨false, none⟩ : PostgresMetadataRepository tableServer)).1 := by
  have parsed : ∀ given, given = eveSays "hi" ∨ given = eveSays "bye" → given.record.Parsed := by
    rintro given (rfl | rfl)
    · exact ⟨by decide +kernel, by decide +kernel⟩
    · exact ⟨by decide +kernel, by decide +kernel⟩
  refine (backends_agree_iff "voices" tableServer_documented (fun _ => "") rfl parsed).2 ?_ eveSteps _ ?_ ?_ rfl
  · rintro given (rfl | rfl) -
    · decide +kernel
    · decide +kernel
  · intro step member
    obtain ⟨call, -, rfl⟩ := List.mem_map.1 member
    rfl
  · simp [eveSteps, BackendCall.given?]

/-- A seed entry is created whose `max_sentences_per_chunk` is `true`, or whose transcript
has a lone surrogate: the document takes it, and the table does not. -/
example (given : GivenRecord) (odd : given.loneSurrogates = true ∨ ∃ b, given.record.maxSentencesPerChunk = .bool b) :
    ¬(rowOf given).Storable := by
  rintro ⟨utf8, -, -, -, -, int⟩
  obtain lone | ⟨b, truth⟩ := odd
  · exact absurd (lone.symm.trans utf8) (by simp)
  · rw [rowOf, truth] at int
    exact int

/-- A POST with 2147483648 sentences per chunk, which the schema accepts. -/
def longChunks : CreateRequest :=
  { plainCreate 1 with
    metadata := .ok { plainFields with maxSentencesPerChunk := 2 ^ 31, id := "mia", idMatches := by decide } }

/-- The record that it stores. -/
def longRecord : VoiceRecord := { plainRecord "mia" .crud with maxSentencesPerChunk := .int (2 ^ 31) }

theorem longRecord_made : Makes (.create longChunks) (.metaCreate longRecord) := by
  have accepted : (createInput longChunks).isOk = true := by decide +kernel
  cases input : createInput longChunks with
  | error e =>
    rw [input] at accepted
    cases accepted
  | ok accepted =>
    obtain ⟨payload, data⟩ := accepted
    have made := Makes.create input
    cases (createInput_consents input).1
    exact made

/-- A record that a request or a seed pass creates or updates. Only the texts of a seed
file have lone surrogates; the schemas refuse them. -/
def GivenRecord.Made (given : GivenRecord) : Prop :=
  ∃ op, (Makes op (.metaCreate given.record) ∨ Makes op (.metaUpdate given.record)) ∧
    (given.loneSurrogates = true → ∃ pass, op = .ingest pass)

/-- The record is created in the document, and not in the table. -/
theorem longChunks_differs :
    ¬∀ (db : Database) (table : db.State → Option Table) (s : db.State) (steps : List BackendStep) (disk : Disk),
      Documented db table → (table s).getD ∅ = ∅ → (∀ step ∈ steps, step.repository.storeDir = "voices") →
      (∀ step ∈ steps, ∀ given, step.call.given? = some given → given.record.Parsed ∧ given.Made) →
      disk "voices" = none →
      List.Forall₂ SameReply (MetadataStep.run (fun _ => "") (steps.map (·.metadata)) disk).1
        (PostgresMetadataRepository.run (steps.map (·.call)) (⟨false, s⟩ : PostgresMetadataRepository db)).1 := by
  intro claim
  have parsed : longRecord.Parsed := ⟨by decide +kernel, by decide +kernel⟩
  have rejected : ¬(rowOf ⟨longRecord, false⟩).Storable := by decide +kernel
  refine create_differs "voices" tableServer_documented (fun _ => "") (fun _ => none) parsed (by decide +kernel)
    rejected rfl rfl
    (claim tableServer id none [⟨⟨"voices"⟩, .create ⟨longRecord, false⟩, ⟨0, 0⟩⟩] _ tableServer_documented rfl ?_ ?_
      rfl)
  · intro step member
    cases List.mem_singleton.1 member
    rfl
  · intro step member given stored
    cases List.mem_singleton.1 member
    cases stored
    exact ⟨parsed, _, .inl longRecord_made, fun lone => by cases lone⟩

end LlmTts
