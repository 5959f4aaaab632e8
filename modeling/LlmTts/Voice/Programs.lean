import LlmTts.Voice.Seed

/-!
# The handlers as call trees

Every handler makes a few repository calls in a fixed order. `At op p` lists the
programs `p` that a request `op` can be at between two calls, each with the call
it makes next and its continuation on every reply. A request starts at such a
program (`At.start`) and every reply leads to another one (`At.resume`); facts
about runs are proved by cases on `At`.
-/

namespace LlmTts
open Python Effect

/-- The requests and passes that use the voice stores. -/
inductive VoiceOp where
  | create (request : CreateRequest)
  | update (request : UpdateRequest)
  | delete (voiceId : String)
  | ingest (pass : SeedPass)
  | resolve (voiceId : String)

/-- How a request ends. -/
abbrev VoiceEnd : Type := Except Exc VoiceResult

/-- The program of a request. -/
def VoiceOp.body : VoiceOp → StoreProg VoiceEnd
  | .create request => createVoice request
  | .update request => updateVoice request
  | .delete voiceId => deleteVoice voiceId
  | .ingest pass => ingestOnce pass
  | .resolve voiceId => resolveVoice voiceId

/-! ## Continuations -/

/-- After the rollback of a POST. Only a cancellation takes the place of the exception
that the rollback is for. -/
def createUndone (exc : Exc) : Except StoreError Unit → StoreProg VoiceEnd
  | .error .cancelled => .ret (.error (.store .cancelled))
  | _ => .ret (.error exc)

/-- After the blob write of a POST. -/
def createStored (voiceId : String) (created : VoiceRecord) :
    Except StoreError Unit → StoreProg VoiceEnd
  | .ok () => .ret (.ok (.voice created))
  | .error e =>
    if e = .cancelled then .ret (.error (.store .cancelled))
    else .call (.metaDelete voiceId) (createUndone (.store e))

/-- The error of a POST whose `create` raised. -/
def createError (voiceId : String) : StoreError → Exc
  | .voiceAlreadyExists _ =>
    .http (invalidRequest [.text "voice id ", .repr voiceId, .text " already exists"] (some "id")
      "voice_id_exists" 409)
  | .voiceIdInvalid message => .http (invalidRequest message (some "id"))
  | e => .store e

/-- After the `create` of a POST. -/
def createCreated (voiceId : String) (data : Bytes) :
    Except StoreError VoiceRecord → StoreProg VoiceEnd
  | .ok created => .call (.blobPut voiceId data) (createStored voiceId created)
  | .error e => .ret (.error (createError voiceId e))

/-- The error of a lookup that maps a missing record to 404. -/
def lookupError (voiceId : String) : StoreError → Exc
  | .voiceNotFound _ => .http (voiceNotFoundError voiceId)
  | e => .store e

/-- After the `update` of a PUT. -/
def updateSaved : Except StoreError VoiceRecord → StoreProg VoiceEnd
  | .ok saved => .ret (.ok (.voice saved))
  | .error e => .ret (.error (.store e))

/-- After the blob write of a PUT. -/
def updateStored (record : VoiceRecord) : Except StoreError Unit → StoreProg VoiceEnd
  | .ok () => .call (.metaUpdate record) updateSaved
  | .error e => .ret (.error (.store e))

/-- After the `get` of a PUT. -/
def updateLoaded (request : UpdateRequest) (payload : VoiceUpdate) :
    Except StoreError { record : VoiceRecord // record.id = request.voiceId } → StoreProg VoiceEnd
  | .ok existing =>
    match newBlob request with
    | .ok (some data) =>
      .call (.blobPut request.voiceId data)
        (updateStored (updatedRecord existing.val payload request.now))
    | .ok none => .call (.metaUpdate (updatedRecord existing.val payload request.now)) updateSaved
    | .error e => .ret (.error (.http e))
  | .error e => .ret (.error (lookupError request.voiceId e))

/-- After a blob call of a DELETE raised: only a missing blob is passed over. -/
def deleteError : StoreError → StoreProg VoiceEnd
  | .voiceNotFound _ => .ret (.ok .noContent)
  | e => .ret (.error (.store e))

/-- After the blob delete of a DELETE. -/
def deleteErased : Except StoreError Unit → StoreProg VoiceEnd
  | .ok () => .ret (.ok .noContent)
  | .error e => deleteError e

/-- After the blob lookup of a DELETE. -/
def deleteProbed (voiceId : String) : Except StoreError Bool → StoreProg VoiceEnd
  | .ok true => .call (.blobDelete voiceId) deleteErased
  | .ok false => .ret (.ok .noContent)
  | .error e => deleteError e

/-- After the metadata delete of a DELETE. -/
def deleteDropped (voiceId : String) : Except StoreError Unit → StoreProg VoiceEnd
  | .ok () => .call (.blobExists voiceId) (deleteProbed voiceId)
  | .error e => .ret (.error (lookupError voiceId e))

/-- After the record of a seed entry was created. -/
def ingestCreated (pass : SeedPass) (entries : List ParsedSeedEntry) (created : Nat) :
    Except StoreError VoiceRecord → StoreProg VoiceEnd
  | .ok _ => ingestEntries pass entries (created + 1)
  | .error e => .ret (.error (.store e))

/-- After the blob of a seed entry was written. -/
def ingestStored (pass : SeedPass) (entry : ParsedSeedEntry) (entries : List ParsedSeedEntry)
    (created : Nat) : Except StoreError Unit → StoreProg VoiceEnd
  | .ok () => .call (.metaCreate (seedRecord pass entry)) (ingestCreated pass entries created)
  | .error e => .ret (.error (.store e))

/-- After the lookup of a seed entry. -/
def ingestProbed (pass : SeedPass) (entry : ParsedSeedEntry) (entries : List ParsedSeedEntry)
    (created : Nat) : Except StoreError Bool → StoreProg VoiceEnd
  | .ok true => ingestEntries pass entries created
  | .ok false =>
    match pass.readBytes entry.refAudioPath with
    | .osError => .ret (.ok (.ingested created))
    | .raises => .ret (.error .other)
    | .data audioBytes =>
      .call (.blobPut entry.voiceId audioBytes) (ingestStored pass entry entries created)
  | .error e => .ret (.error (.store e))

/-- The error of `_resolve_voice` when the metadata lookup raised. -/
def resolveError (voiceId : String) : StoreError → Exc
  | .voiceNotFound _ =>
    .http (voiceError "voice_not_found"
      [.text "voice ", .repr voiceId, .text " not found in voice store"] 404 (some "voice"))
  | .voiceIdInvalid message => .http (invalidRequest message (some "voice"))
  | e => .store e

/-- The error of `_resolve_voice` when the blob lookup raised. -/
def resolveBlobError (voiceId : String) : StoreError → Exc
  | .voiceNotFound _ =>
    .http (voiceError "voice_blob_missing"
      [.text "voice ", .repr voiceId, .text " metadata exists but blob is missing"] 422
      (some "voice"))
  | e => .store e

/-- After the blob lookup of `_resolve_voice`. -/
def resolveRead (voiceId : String) (record : VoiceRecord) :
    Except StoreError Bytes → StoreProg VoiceEnd
  | .ok blob => .ret (.ok (.resolved record blob))
  | .error e => .ret (.error (resolveBlobError voiceId e))

/-- After the metadata lookup of `_resolve_voice`. -/
def resolveLoaded (voiceId : String) :
    Except StoreError { record : VoiceRecord // record.id = voiceId } → StoreProg VoiceEnd
  | .ok record => .call (.blobGet voiceId) (resolveRead voiceId record.val)
  | .error e => .ret (.error (resolveError voiceId e))

/-! ## Call trees -/

@[simp] theorem check_ok_bind {α β : Type} (a : α) (f : α → Handler β) :
    (check (.ok a) >>= f) = f a := rfl

@[simp] theorem check_error_bind {α β : Type} (exc : Exc) (f : α → Handler β) :
    (check (.error exc) >>= f) = throw exc := rfl

/-- The checks of a POST before its first repository call. -/
def createInput (request : CreateRequest) : Except Exc (VoiceCreate × Bytes) :=
  match request.metadata with
  | .error exc => .error exc
  | .ok payload =>
    if payload.consentAcknowledged then
      match readAudioValidated request.audio request.refaudioMaxBytes with
      | .error e => .error (.http e)
      | .ok data => .ok (payload, data)
    else .error (.http consentRequired)

/-- The calls of a POST. -/
theorem createVoice_eq (request : CreateRequest) :
    createVoice request = match createInput request with
      | .ok (payload, data) =>
        .call (.metaCreate (createdRecord payload request.now)) (createCreated payload.id data)
      | .error exc => .ret (.error exc) := by
  unfold createVoice createInput
  cases request.metadata with
  | error e => rfl
  | ok payload =>
    rw [check_ok_bind]
    dsimp only
    cases payload.consentAcknowledged with
    | false => rfl
    | true =>
      cases readAudioValidated request.audio request.refaudioMaxBytes with
      | error e => rfl
      | ok data =>
        refine congrArg (Prog.call _) (funext fun created => ?_)
        rcases created with (_ | _ | _ | _ | _) | record <;> try rfl
        refine congrArg (Prog.call _) (funext fun stored => ?_)
        rcases stored with (_ | _ | _ | _ | _) | _ <;> try rfl
        all_goals
          refine congrArg (Prog.call _) (funext fun undone => ?_)
          rcases undone with (_ | _ | _ | _ | _) | _ <;> rfl

/-- The checks of a PUT before its first repository call. -/
def updateInput (request : UpdateRequest) : Except Exc VoiceUpdate :=
  match validateVoiceId request.voiceId with
  | .error (.voiceIdInvalid message) => .error (.http (invalidRequest message (some "voice_id")))
  | .error e => .error (.store e)
  | .ok () =>
    match request.metadata with
    | .error exc => .error exc
    | .ok payload =>
      if payload.consentAcknowledged then .ok payload else .error (.http consentRequired)

/-- The calls of a PUT. -/
theorem updateVoice_eq (request : UpdateRequest) :
    updateVoice request = match updateInput request with
      | .ok payload => .call (.metaGet request.voiceId) (updateLoaded request payload)
      | .error e => .ret (.error e) := by
  unfold updateVoice updateInput checkPathId
  rcases validateVoiceId request.voiceId with (_ | _ | _ | _ | _) | _ <;> try rfl
  cases request.metadata with
  | error e => rfl
  | ok payload =>
    rw [check_ok_bind]
    dsimp only
    cases payload.consentAcknowledged with
    | false => rfl
    | true =>
      refine congrArg (Prog.call _) (funext fun existing => ?_)
      rcases existing with (_ | _ | _ | _ | _) | existing <;> try rfl
      unfold updateLoaded
      rcases newBlob request with _ | _ | data
      · rfl
      · exact congrArg (Prog.call _) (funext fun saved => by cases saved <;> rfl)
      · refine congrArg (Prog.call _) (funext fun stored => ?_)
        cases stored with
        | error e => rfl
        | ok _ => exact congrArg (Prog.call _) (funext fun saved => by cases saved <;> rfl)

/-- The calls of a DELETE. -/
theorem deleteVoice_eq (voiceId : String) :
    deleteVoice voiceId = match validateVoiceId voiceId with
      | .ok () => .call (.metaDelete voiceId) (deleteDropped voiceId)
      | .error (.voiceIdInvalid message) =>
        .ret (.error (.http (invalidRequest message (some "voice_id"))))
      | .error e => .ret (.error (.store e)) := by
  unfold deleteVoice checkPathId
  rcases validateVoiceId voiceId with (_ | _ | _ | _ | _) | _ <;> try rfl
  refine congrArg (Prog.call _) (funext fun dropped => ?_)
  rcases dropped with (_ | _ | _ | _ | _) | _ <;> try rfl
  refine congrArg (Prog.call _) (funext fun present => ?_)
  rcases present with (_ | _ | _ | _ | _) | (_ | _) <;> try rfl
  exact congrArg (Prog.call _) (funext fun erased => by rcases erased with (_ | _ | _ | _ | _) | _ <;> rfl)

/-- The calls of `_resolve_voice`. -/
theorem resolveVoice_eq (voiceId : String) :
    resolveVoice voiceId = .call (.metaGet voiceId) (resolveLoaded voiceId) := by
  refine congrArg (Prog.call _) (funext fun record => ?_)
  rcases record with (_ | _ | _ | _ | _) | record <;> try rfl
  exact congrArg (Prog.call _) (funext fun blob => by rcases blob with (_ | _ | _ | _ | _) | _ <;> rfl)

@[simp] theorem ingestEntries_nil (pass : SeedPass) (created : Nat) :
    ingestEntries pass [] created = .ret (.ok (.ingested created)) := rfl

/-- The calls of a pass for one entry. -/
theorem ingestEntries_cons (pass : SeedPass) (entry : ParsedSeedEntry)
    (entries : List ParsedSeedEntry) (created : Nat) :
    ingestEntries pass (entry :: entries) created =
      .call (.metaExists entry.voiceId) (ingestProbed pass entry entries created) := by
  refine congrArg (Prog.call _) (funext fun present => ?_)
  rcases present with e | (_ | _)
  · rfl
  · unfold ingestProbed
    cases pass.readBytes entry.refAudioPath with
    | osError => rfl
    | raises => rfl
    | data audioBytes =>
      refine congrArg (Prog.call _) (funext fun stored => ?_)
      cases stored with
      | error e => rfl
      | ok _ => exact congrArg (Prog.call _) (funext fun record => by cases record <;> rfl)
  · rfl

/-- A pass ends at once or goes through the validated entries. -/
theorem ingestOnce_eq (pass : SeedPass) :
    (∃ r, ingestOnce pass = .ret r) ∨
    ∃ entries, parseAndValidate pass = .ok entries ∧ ingestOnce pass = ingestEntries pass entries 0 := by
  unfold ingestOnce
  split
  · exact .inl ⟨_, rfl⟩
  · split
    · exact .inl ⟨_, rfl⟩
    · exact .inl ⟨_, rfl⟩
    · rename_i entries parsed
      exact .inr ⟨entries, parsed, rfl⟩

end LlmTts
