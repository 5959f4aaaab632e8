import LlmTts.Voice.Programs

/-!
# What one repository call of a request can do

`At op p` says that the request `op` can be at the program `p` when no repository
call has failed. `Moves s op c s' p'` says, for each call `c` such a program
makes, how the stores change and which program follows; it is the transition
table of the five handlers. `At.moves` derives it from the handlers, and the
interleaving results are proved by cases on it.
-/

namespace LlmTts
open Python Effect

/-- The programs a request is at between two calls. -/
inductive At : VoiceOp → StoreProg VoiceEnd → Prop
  | ended (op : VoiceOp) (r : VoiceEnd) : At op (.ret r)
  | createRecord {request : CreateRequest} {payload : VoiceCreate} {data : Bytes}
      (input : createInput request = .ok (payload, data)) :
      At (.create request) (.call (.metaCreate (createdRecord payload request.now))
        (createCreated payload.id data))
  | createBlob {request : CreateRequest} {payload : VoiceCreate} {data : Bytes}
      (input : createInput request = .ok (payload, data)) (created : VoiceRecord) :
      At (.create request) (.call (.blobPut payload.id data) (createStored payload.id created))
  | updateLookup {request : UpdateRequest} {payload : VoiceUpdate}
      (input : updateInput request = .ok payload) :
      At (.update request) (.call (.metaGet request.voiceId) (updateLoaded request payload))
  | updateBlob {request : UpdateRequest} {payload : VoiceUpdate} {data : Bytes}
      (input : updateInput request = .ok payload) (audio : newBlob request = .ok (some data))
      (existing : { record : VoiceRecord // record.id = request.voiceId }) :
      At (.update request) (.call (.blobPut request.voiceId data)
        (updateStored (updatedRecord existing.val payload request.now)))
  | updateRecord {request : UpdateRequest} {payload : VoiceUpdate} {blob : Option Bytes}
      (input : updateInput request = .ok payload) (audio : newBlob request = .ok blob)
      (existing : { record : VoiceRecord // record.id = request.voiceId }) :
      At (.update request)
        (.call (.metaUpdate (updatedRecord existing.val payload request.now)) updateSaved)
  | deleteRecord {v : String} (valid : validateVoiceId v = .ok ()) :
      At (.delete v) (.call (.metaDelete v) (deleteDropped v))
  | deleteLookup {v : String} (valid : validateVoiceId v = .ok ()) :
      At (.delete v) (.call (.blobExists v) (deleteProbed v))
  | deleteBlob {v : String} (valid : validateVoiceId v = .ok ()) :
      At (.delete v) (.call (.blobDelete v) deleteErased)
  | ingestLookup {pass : SeedPass} {entry : ParsedSeedEntry} {entries : List ParsedSeedEntry}
      (valid : ∀ e ∈ entry :: entries, validateVoiceId e.voiceId = .ok ()) (created : Nat) :
      At (.ingest pass) (.call (.metaExists entry.voiceId) (ingestProbed pass entry entries created))
  | ingestBlob {pass : SeedPass} {entry : ParsedSeedEntry} {entries : List ParsedSeedEntry}
      {data : Bytes} (valid : ∀ e ∈ entry :: entries, validateVoiceId e.voiceId = .ok ())
      (audio : pass.readBytes entry.refAudioPath = .data data) (created : Nat) :
      At (.ingest pass) (.call (.blobPut entry.voiceId data) (ingestStored pass entry entries created))
  | ingestRecord {pass : SeedPass} {entry : ParsedSeedEntry} {entries : List ParsedSeedEntry}
      (valid : ∀ e ∈ entry :: entries, validateVoiceId e.voiceId = .ok ()) (created : Nat) :
      At (.ingest pass) (.call (.metaCreate (seedRecord pass entry)) (ingestCreated pass entries created))
  | resolveRecord (v : String) : At (.resolve v) (.call (.metaGet v) (resolveLoaded v))
  | resolveBlob (v : String) (record : VoiceRecord) :
      At (.resolve v) (.call (.blobGet v) (resolveRead v record))

/-- The transition table. `s` is the state a call is made in; the result is the
state and the program after it. -/
inductive Moves (s : Stores) : VoiceOp → StoreCall → Stores → StoreProg VoiceEnd → Prop
  | createTaken {request : CreateRequest} {record : VoiceRecord} (r : VoiceEnd)
      (present : (s.metadata record.id).isSome) :
      Moves s (.create request) (.metaCreate record) s (.ret r)
  | created {request : CreateRequest} {record : VoiceRecord} {data : Bytes}
      {k : Except StoreError Unit → StoreProg VoiceEnd} (absent : s.metadata record.id = none)
      (crud : record.source = .crud) :
      Moves s (.create request) (.metaCreate record) (s.setRecord record)
        (.call (.blobPut record.id data) k)
  | createStored {request : CreateRequest} {v : String} {data : Bytes} (r : VoiceEnd) :
      Moves s (.create request) (.blobPut v data) (s.setBlob v (some data)) (.ret r)
  | updateEnded {request : UpdateRequest} {v : String} (r : VoiceEnd) :
      Moves s (.update request) (.metaGet v) s (.ret r)
  | updateWithBlob {request : UpdateRequest} {v : String} {data : Bytes}
      {k : Except StoreError Unit → StoreProg VoiceEnd}
      (present : (s.metadata v).isSome) (audio : newBlob request = .ok (some data)) :
      Moves s (.update request) (.metaGet v) s (.call (.blobPut v data) k)
  | updateWithoutBlob {request : UpdateRequest} {record : VoiceRecord}
      {k : Except StoreError VoiceRecord → StoreProg VoiceEnd}
      (present : (s.metadata record.id).isSome) (audio : newBlob request = .ok none) :
      Moves s (.update request) (.metaGet record.id) s (.call (.metaUpdate record) k)
  | updateStored {request : UpdateRequest} {data : Bytes} {record : VoiceRecord}
      {k : Except StoreError VoiceRecord → StoreProg VoiceEnd} :
      Moves s (.update request) (.blobPut record.id data) (s.setBlob record.id (some data))
        (.call (.metaUpdate record) k)
  | updateSaved {request : UpdateRequest} {record : VoiceRecord} (r : VoiceEnd)
      (present : (s.metadata record.id).isSome) :
      Moves s (.update request) (.metaUpdate record) (s.setRecord record) (.ret r)
  | updateLost {request : UpdateRequest} {record : VoiceRecord} (r : VoiceEnd)
      (absent : s.metadata record.id = none) :
      Moves s (.update request) (.metaUpdate record) s (.ret r)
  | deleteMissing {v : String} (r : VoiceEnd) (absent : s.metadata v = none) :
      Moves s (.delete v) (.metaDelete v) s (.ret r)
  | deleteDropped {v : String} {k : Except StoreError Bool → StoreProg VoiceEnd}
      (present : (s.metadata v).isSome) :
      Moves s (.delete v) (.metaDelete v) (s.dropRecord v) (.call (.blobExists v) k)
  | deleteNoBlob {v : String} (r : VoiceEnd) (absent : s.blobs v = none) :
      Moves s (.delete v) (.blobExists v) s (.ret r)
  | deleteFound {v : String} {k : Except StoreError Unit → StoreProg VoiceEnd}
      (present : (s.blobs v).isSome) :
      Moves s (.delete v) (.blobExists v) s (.call (.blobDelete v) k)
  | deleteErased {v : String} (r : VoiceEnd) (present : (s.blobs v).isSome) :
      Moves s (.delete v) (.blobDelete v) (s.setBlob v none) (.ret r)
  | deleteGone {v : String} (r : VoiceEnd) (absent : s.blobs v = none) :
      Moves s (.delete v) (.blobDelete v) s (.ret r)
  | ingestPresent {pass : SeedPass} {v : String} {entries : List ParsedSeedEntry} {created : Nat}
      (present : (s.metadata v).isSome) :
      Moves s (.ingest pass) (.metaExists v) s (ingestEntries pass entries created)
  | ingestUnread {pass : SeedPass} {v : String} (r : VoiceEnd) (absent : s.metadata v = none) :
      Moves s (.ingest pass) (.metaExists v) s (.ret r)
  | ingestAbsent {pass : SeedPass} {v : String} {data : Bytes}
      {k : Except StoreError Unit → StoreProg VoiceEnd} (absent : s.metadata v = none) :
      Moves s (.ingest pass) (.metaExists v) s (.call (.blobPut v data) k)
  | ingestStored {pass : SeedPass} {record : VoiceRecord} {data : Bytes}
      {k : Except StoreError VoiceRecord → StoreProg VoiceEnd} (seed : record.source = .seed) :
      Moves s (.ingest pass) (.blobPut record.id data) (s.setBlob record.id (some data))
        (.call (.metaCreate record) k)
  | ingestTaken {pass : SeedPass} {record : VoiceRecord} (r : VoiceEnd)
      (present : (s.metadata record.id).isSome) :
      Moves s (.ingest pass) (.metaCreate record) s (.ret r)
  | ingestCreated {pass : SeedPass} {record : VoiceRecord} {entries : List ParsedSeedEntry}
      {created : Nat} (absent : s.metadata record.id = none) (seed : record.source = .seed) :
      Moves s (.ingest pass) (.metaCreate record) (s.setRecord record)
        (ingestEntries pass entries created)
  | resolveFailed {v : String} (e : Exc) : Moves s (.resolve v) (.metaGet v) s (.ret (.error e))
  | resolveLoaded {v : String} {k : Except StoreError Bytes → StoreProg VoiceEnd}
      (present : (s.metadata v).isSome) :
      Moves s (.resolve v) (.metaGet v) s (.call (.blobGet v) k)
  | resolveBlobFailed {v : String} (e : Exc) : Moves s (.resolve v) (.blobGet v) s (.ret (.error e))
  | resolveRead {v : String} (r : VoiceEnd) (present : (s.blobs v).isSome) :
      Moves s (.resolve v) (.blobGet v) s (.ret r)

theorem ingestEntries_at {pass : SeedPass} {entries : List ParsedSeedEntry}
    (valid : ∀ e ∈ entries, validateVoiceId e.voiceId = .ok ()) (created : Nat) :
    At (.ingest pass) (ingestEntries pass entries created) := by
  cases entries with
  | nil => exact .ended _ _
  | cons entry entries =>
    rw [ingestEntries_cons]
    exact .ingestLookup valid created

theorem updateInput_valid {request : UpdateRequest} {payload : VoiceUpdate}
    (input : updateInput request = .ok payload) : validateVoiceId request.voiceId = .ok () := by
  unfold updateInput at input
  split at input
  · cases input
  · cases input
  · assumption

/-- A request starts at a listed program. -/
theorem At.start (op : VoiceOp) : At op op.body := by
  cases op with
  | create request =>
    simp only [VoiceOp.body, createVoice_eq]
    split
    · rename_i input; exact .createRecord input
    · exact .ended _ _
  | update request =>
    simp only [VoiceOp.body, updateVoice_eq]
    split
    · rename_i input; exact .updateLookup input
    · exact .ended _ _
  | delete v =>
    simp only [VoiceOp.body, deleteVoice_eq]
    split
    · rename_i valid; exact .deleteRecord valid
    · exact .ended _ _
    · exact .ended _ _
  | ingest pass =>
    obtain ⟨r, ended⟩ | ⟨entries, parsed, begun⟩ := ingestOnce_eq pass
    · simp only [VoiceOp.body, ended]; exact .ended _ _
    · simp only [VoiceOp.body, begun]
      exact ingestEntries_at (parseAndValidate_ids parsed).2 0
  | resolve v =>
    simp only [VoiceOp.body, resolveVoice_eq]
    exact .resolveRecord v

/-! ## The calls of each handler -/

section Handlers

variable {c : StoreCall} {k : c.Reply → StoreProg VoiceEnd}

/-- A call of a POST: its `create`, then its blob write. -/
theorem create_moves {request : CreateRequest} (here : At (.create request) (.call c k)) (s : Stores) :
    Moves s (.create request) c (s.exec c).2 (k (s.exec c).1) ∧ At (.create request) (k (s.exec c).1) := by
  cases here with
  | @createRecord _ payload data input =>
    have valid : validateVoiceId (StoreCall.metaCreate (createdRecord payload request.now)).voiceId = .ok () :=
      payload.idValid
    rw [Stores.exec_valid valid]
    simp only [Stores.execValid]
    split
    · rename_i present; exact ⟨.createTaken _ present, .ended _ _⟩
    · rename_i absent; exact ⟨.created (by simpa using absent) rfl, .createBlob input _⟩
  | @createBlob _ payload data input created =>
    have valid : validateVoiceId (StoreCall.blobPut payload.id data).voiceId = .ok () := payload.idValid
    rw [Stores.exec_valid valid]
    exact ⟨.createStored _, .ended _ _⟩

/-- A call of a PUT: its lookup, then its blob write if it has audio, then its `update`. -/
theorem update_moves {request : UpdateRequest} (here : At (.update request) (.call c k)) (s : Stores) :
    Moves s (.update request) c (s.exec c).2 (k (s.exec c).1) ∧ At (.update request) (k (s.exec c).1) := by
  cases here with
  | @updateLookup _ payload input =>
    have valid : validateVoiceId (StoreCall.metaGet request.voiceId).voiceId = .ok () := updateInput_valid input
    rw [Stores.exec_valid valid]
    simp only [Stores.execValid]
    split
    · rename_i existing found
      have present : (s.metadata request.voiceId).isSome := by rw [found]; rfl
      have keyed : existing.id = request.voiceId := s.keyed _ _ found
      have same : (updatedRecord existing payload request.now).id = request.voiceId := keyed
      simp only [updateLoaded]
      split
      · rename_i data audio
        exact ⟨.updateWithBlob present audio, .updateBlob input audio ⟨existing, keyed⟩⟩
      · rename_i audio
        refine ⟨?_, .updateRecord input audio ⟨existing, keyed⟩⟩
        have move := @Moves.updateWithoutBlob s request
          (updatedRecord existing payload request.now) updateSaved (same.symm ▸ present) audio
        rw [same] at move
        exact move
      · exact ⟨.updateEnded _, .ended _ _⟩
    · exact ⟨.updateEnded _, .ended _ _⟩
  | @updateBlob _ payload data input audio existing =>
    have valid : validateVoiceId (StoreCall.blobPut request.voiceId data).voiceId = .ok () := updateInput_valid input
    have same : (updatedRecord existing.val payload request.now).id = request.voiceId := existing.property
    rw [Stores.exec_valid valid]
    have move := @Moves.updateStored s request data
      (updatedRecord existing.val payload request.now) updateSaved
    rw [same] at move
    exact ⟨move, .updateRecord input audio existing⟩
  | @updateRecord _ payload blob input audio existing =>
    have same : (updatedRecord existing.val payload request.now).id = request.voiceId := existing.property
    generalize updatedRecord existing.val payload request.now = record at same ⊢
    have valid : validateVoiceId (StoreCall.metaUpdate record).voiceId = .ok () := by
      simpa only [StoreCall.voiceId, same] using updateInput_valid input
    rw [Stores.exec_valid valid]
    simp only [Stores.execValid]
    split
    · rename_i present; exact ⟨.updateSaved _ present, .ended _ _⟩
    · rename_i absent; exact ⟨.updateLost _ (by simpa using absent), .ended _ _⟩

/-- A call of a DELETE: its metadata delete, its blob lookup, then its blob delete. -/
theorem delete_moves {v : String} (here : At (.delete v) (.call c k)) (s : Stores) :
    Moves s (.delete v) c (s.exec c).2 (k (s.exec c).1) ∧ At (.delete v) (k (s.exec c).1) := by
  cases here with
  | deleteRecord valid =>
    have valid' : validateVoiceId (StoreCall.metaDelete v).voiceId = .ok () := valid
    rw [Stores.exec_valid valid']
    simp only [Stores.execValid]
    split
    · rename_i present; exact ⟨.deleteDropped present, .deleteLookup valid⟩
    · rename_i absent; exact ⟨.deleteMissing _ (by simpa using absent), .ended _ _⟩
  | deleteLookup valid =>
    have valid' : validateVoiceId (StoreCall.blobExists v).voiceId = .ok () := valid
    rw [Stores.exec_valid valid']
    simp only [Stores.execValid]
    cases found : s.blobs v with
    | none => exact ⟨.deleteNoBlob _ found, .ended _ _⟩
    | some data => exact ⟨.deleteFound (by rw [found]; rfl), .deleteBlob valid⟩
  | deleteBlob valid =>
    have valid' : validateVoiceId (StoreCall.blobDelete v).voiceId = .ok () := valid
    rw [Stores.exec_valid valid']
    simp only [Stores.execValid]
    split
    · rename_i present; exact ⟨.deleteErased _ present, .ended _ _⟩
    · rename_i absent; exact ⟨.deleteGone _ (by simpa using absent), .ended _ _⟩

/-- A call of a pass: for each entry its lookup, its blob write and its `create`. -/
theorem ingest_moves {pass : SeedPass} (here : At (.ingest pass) (.call c k)) (s : Stores) :
    Moves s (.ingest pass) c (s.exec c).2 (k (s.exec c).1) ∧ At (.ingest pass) (k (s.exec c).1) := by
  cases here with
  | @ingestLookup _ entry entries valid created =>
    obtain ⟨first, rest⟩ := List.forall_mem_cons.1 valid
    have first' : validateVoiceId (StoreCall.metaExists entry.voiceId).voiceId = .ok () := first
    rw [Stores.exec_valid first']
    simp only [Stores.execValid]
    cases found : s.metadata entry.voiceId with
    | some record =>
      exact ⟨.ingestPresent (by rw [found]; rfl), ingestEntries_at rest created⟩
    | none =>
      simp only [Option.isSome_none, ingestProbed]
      split
      · exact ⟨.ingestUnread _ found, .ended _ _⟩
      · exact ⟨.ingestUnread _ found, .ended _ _⟩
      · rename_i audio; exact ⟨.ingestAbsent found, .ingestBlob valid audio created⟩
  | @ingestBlob _ entry entries data valid audio created =>
    have first : validateVoiceId (StoreCall.blobPut entry.voiceId data).voiceId = .ok () :=
      valid entry List.mem_cons_self
    rw [Stores.exec_valid first]
    have move := @Moves.ingestStored s pass (seedRecord pass entry) data
      (ingestCreated pass entries created) rfl
    exact ⟨move, .ingestRecord valid created⟩
  | @ingestRecord _ entry entries valid created =>
    obtain ⟨first, rest⟩ := List.forall_mem_cons.1 valid
    have valid : validateVoiceId (StoreCall.metaCreate (seedRecord pass entry)).voiceId = .ok () := first
    rw [Stores.exec_valid valid]
    simp only [Stores.execValid]
    split
    · rename_i present; exact ⟨.ingestTaken _ present, .ended _ _⟩
    · rename_i absent
      exact ⟨.ingestCreated (by simpa using absent) rfl, ingestEntries_at rest (created + 1)⟩

/-- A call of a voice lookup, whose id need not be valid. -/
theorem resolve_moves {v : String} (here : At (.resolve v) (.call c k)) (s : Stores) :
    Moves s (.resolve v) c (s.exec c).2 (k (s.exec c).1) ∧ At (.resolve v) (k (s.exec c).1) := by
  cases here with
  | resolveRecord =>
    unfold Stores.exec
    split
    · exact ⟨.resolveFailed _, .ended _ _⟩
    · simp only [Stores.execValid]
      split
      · rename_i found; exact ⟨.resolveLoaded (by rw [found]; rfl), .resolveBlob _ _⟩
      · exact ⟨.resolveFailed _, .ended _ _⟩
  | resolveBlob _ record =>
    unfold Stores.exec
    split
    · exact ⟨.resolveBlobFailed _, .ended _ _⟩
    · simp only [Stores.execValid]
      split
      · rename_i found; exact ⟨.resolveRead _ (by rw [found]; rfl), .ended _ _⟩
      · exact ⟨.resolveBlobFailed _, .ended _ _⟩

end Handlers

/-- **One call of a request**: it is a move of the table, and leads to a listed
program. -/
theorem At.moves {op : VoiceOp} {c : StoreCall} {k : c.Reply → StoreProg VoiceEnd}
    (here : At op (.call c k)) (s : Stores) :
    Moves s op c (s.exec c).2 (k (s.exec c).1) ∧ At op (k (s.exec c).1) := by
  cases op with
  | create request => exact create_moves here s
  | update request => exact update_moves here s
  | delete v => exact delete_moves here s
  | ingest pass => exact ingest_moves here s
  | resolve v => exact resolve_moves here s

/-! ## Requests in progress together -/

/-- Requests in progress over the stores. -/
abbrev VoicePool : Type := Pool Stores VoiceOp StoreCall StoreCall.Reply VoiceEnd

abbrev VoiceTask : Type := Task VoiceOp StoreCall StoreCall.Reply VoiceEnd

/-- One atomic step: a request starts, or a request makes its next repository call. -/
def voiceStep : VoicePool → Act VoiceOp → Option VoicePool :=
  Pool.step VoiceOp.body fun _ => Stores.exec

/-- Every request of the pool is at a listed program. -/
def Listed (p : VoicePool) : Prop := ∀ task ∈ p.tasks, At task.tag task.prog

/-- Everything one step can do. -/
theorem voiceStep_cases {p q : VoicePool} {a : Act VoiceOp} (listed : Listed p)
    (taken : voiceStep p a = some q) :
    (∃ op, a = .spawn op ∧ q = { p with tasks := p.tasks ++ [⟨op, op.body⟩] }) ∨
    ∃ i op c k s prog, a = .step i ∧ p.tasks[i]? = some ⟨op, .call c k⟩ ∧
      Moves p.store op c s prog ∧ q = { store := s, tasks := p.tasks.set i ⟨op, prog⟩ } := by
  obtain spawned | ⟨i, op, c, k, acted, found, rfl⟩ := Pool.step_cases taken
  · exact .inl spawned
  · have here := listed _ (List.mem_of_getElem? found)
    exact .inr ⟨i, op, c, k, _, _, acted, found, (At.moves here p.store).1, rfl⟩

/-- Every request stays at a listed program. -/
theorem listed_step {p q : VoicePool} {a : Act VoiceOp} (listed : Listed p)
    (taken : voiceStep p a = some q) : Listed q := by
  have run : Transition.runs voiceStep p [a] = some q := Transition.runs_cons_iff.2 ⟨q, taken, rfl⟩
  exact Pool.tasks_inv At.start (fun _ s _ _ _ here => (At.moves here s).2) listed run

end LlmTts
