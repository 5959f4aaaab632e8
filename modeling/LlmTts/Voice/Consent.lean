import LlmTts.Voice.Calls

/-!
# Consent

Every record is stored with consent, and every blob comes from a request that
carried it or from an audio file that the seed file names. This follows from the
calls that the handlers can make at all, so it holds in any interleaving and
whatever calls fail.
-/

namespace LlmTts
open Python Effect

/-! ## Where blobs come from -/

/-- The request carries consent and the bytes, or the pass reads them from an audio
file of its seed file. -/
def Supplies (data : Bytes) : VoiceOp → Prop
  | .create request => ∃ payload, request.metadata = .ok payload ∧ payload.consentAcknowledged = true ∧
    data = request.audio.body
  | .update request => ∃ payload audio, request.metadata = .ok payload ∧
    payload.consentAcknowledged = true ∧ request.audio = some audio ∧ data = audio.body
  | .ingest pass => ∃ entries, parseAndValidate pass = .ok entries ∧
    ∃ entry ∈ entries, pass.readBytes entry.refAudioPath = .data data
  | .delete _ | .resolve _ => False

/-- The whole body is read: a longer one is refused. -/
theorem readAudioValidated_body {audio : UploadFile} {maxBytes : Nat} {data : Bytes}
    (read : readAudioValidated audio maxBytes = .ok data) : data = audio.body := by
  unfold readAudioValidated at read
  dsimp only at read
  split at read
  · cases read
  · split at read
    · cases read
    · rename_i fits
      rw [List.length_take] at fits
      have all : audio.body.take (maxBytes + 1) = audio.body := List.take_of_length_le (by omega)
      rw [all] at read
      split at read
      · cases read
      · split at read
        · cases read
          rfl
        · cases read

theorem newBlob_body {request : UpdateRequest} {data : Bytes} (read : newBlob request = .ok (some data)) :
    ∃ audio, request.audio = some audio ∧ data = audio.body := by
  unfold newBlob at read
  cases part : request.audio with
  | none =>
    rw [part] at read
    cases read
  | some audio =>
    rw [part] at read
    dsimp only at read
    split at read
    · cases read
    · cases checked : readAudioValidated audio request.refaudioMaxBytes with
      | error e =>
        rw [checked] at read
        cases read
      | ok bytes =>
        rw [checked] at read
        cases read
        exact ⟨audio, rfl, readAudioValidated_body checked⟩

/-! ## The calls of a request -/

/-- A call that stores records with consent only, and bytes that a started request supplies. -/
def Consents (started : VoiceOp → Prop) : StoreCall → Prop
  | .metaCreate record | .metaUpdate record => record.consentAcknowledged = true
  | .blobPut _ data => ∃ op, started op ∧ Supplies data op
  | _ => True

theorem createInput_consents {request : CreateRequest} {payload : VoiceCreate} {data : Bytes}
    (input : createInput request = .ok (payload, data)) :
    request.metadata = .ok payload ∧ payload.consentAcknowledged = true ∧ data = request.audio.body := by
  unfold createInput at input
  split at input
  · cases input
  · rename_i payload' parsed
    split at input
    · rename_i consent
      cases read : readAudioValidated request.audio request.refaudioMaxBytes with
      | error e =>
        rw [read] at input
        cases input
      | ok bytes =>
        rw [read] at input
        cases input
        exact ⟨parsed, consent, readAudioValidated_body read⟩
    · cases input

theorem updateInput_consents {request : UpdateRequest} {payload : VoiceUpdate}
    (input : updateInput request = .ok payload) :
    request.metadata = .ok payload ∧ payload.consentAcknowledged = true := by
  unfold updateInput at input
  split at input
  · cases input
  · cases input
  · split at input
    · cases input
    · rename_i parsed
      split at input
      · rename_i consent
        cases input
        exact ⟨parsed, consent⟩
      · cases input

/-- Every request checks consent before its first call that writes. -/
theorem consents_of_makes {started : VoiceOp → Prop} {op : VoiceOp} (begun : started op) (c : StoreCall)
    (makes : Makes op c) : Consents started c := by
  cases makes with
  | create | update | ingest => exact rfl
  | createBlob input =>
    obtain ⟨parsed, consent, body⟩ := createInput_consents input
    exact ⟨_, begun, _, parsed, consent, body⟩
  | updateBlob input blob =>
    obtain ⟨parsed, consent⟩ := updateInput_consents input
    obtain ⟨audio, part, body⟩ := newBlob_body blob
    exact ⟨_, begun, _, audio, parsed, consent, part, body⟩
  | ingestBlob parsed member read => exact ⟨_, begun, _, parsed, _, member, read⟩
  | createUndo | updateGet | delete | deleteProbe | deleteBlob | ingestProbe | resolve | resolveBlob => trivial

/-! ## Requests in progress, with failing calls -/

/-- The stores, and what becomes of the calls to come; calls beyond the plan work. -/
structure FaultyStores where
  stores : Stores
  plan : List (Outcome StoreError)

/-- One repository call under the next outcome of the plan. -/
def FaultyStores.exec (w : FaultyStores) (c : StoreCall) : c.Reply × FaultyStores :=
  let reply := execFaulty Stores.exec raised (w.plan.headD .works) w.stores c
  (reply.1, ⟨reply.2, w.plan.tail⟩)

/-- Requests in progress over stores whose calls may fail. -/
abbrev FaultyPool : Type := Pool FaultyStores VoiceOp StoreCall StoreCall.Reply VoiceEnd

def faultyStep : FaultyPool → Act VoiceOp → Option FaultyPool :=
  Pool.step VoiceOp.body fun _ => FaultyStores.exec

/-- A record that is stored after a call was there, or the call stores it. -/
theorem metadata_after {s : Stores} {c : StoreCall} {v : String} {record : VoiceRecord}
    (found : (s.exec c).2.metadata v = some record) :
    s.metadata v = some record ∨
      ∃ given : VoiceRecord, record = given.settled ∧ (c = .metaCreate given ∨ c = .metaUpdate given) := by
  by_cases reads : c.mutates = false
  · rw [Stores.exec_reads reads] at found
    exact .inl found
  · unfold Stores.exec at found
    split at found
    · exact .inl found
    · cases c with
      | metaCreate other =>
        simp only [Stores.execValid] at found
        split at found
        · exact .inl found
        · rw [Stores.metadata_setRecord] at found
          split at found
          · cases found
            exact .inr ⟨other, rfl, .inl rfl⟩
          · exact .inl found
      | metaUpdate other =>
        simp only [Stores.execValid] at found
        split at found
        · rw [Stores.metadata_setRecord] at found
          split at found
          · cases found
            exact .inr ⟨other, rfl, .inr rfl⟩
          · exact .inl found
        · exact .inl found
      | metaDelete w =>
        simp only [Stores.execValid] at found
        split at found
        · rw [Stores.metadata_dropRecord] at found
          split at found
          · cases found
          · exact .inl found
        · exact .inl found
      | blobPut w bytes => exact .inl found
      | blobDelete w =>
        simp only [Stores.execValid] at found
        split at found
        · exact .inl found
        · exact .inl found
      | _ => exact absurd rfl reads

/-- A blob that is stored after a call was there, or the call writes it. -/
theorem blobs_after {s : Stores} {c : StoreCall} {v : String} {data : Bytes}
    (found : (s.exec c).2.blobs v = some data) : s.blobs v = some data ∨ c = .blobPut v data := by
  by_cases reads : c.mutates = false
  · rw [Stores.exec_reads reads] at found
    exact .inl found
  · unfold Stores.exec at found
    split at found
    · exact .inl found
    · cases c with
      | blobPut w bytes =>
        simp only [Stores.execValid, Stores.blobs_setBlob] at found
        split at found
        · rename_i same
          cases found
          rw [same]
          exact .inr rfl
        · exact .inl found
      | blobDelete w =>
        simp only [Stores.execValid] at found
        split at found
        · rw [Stores.blobs_setBlob] at found
          split at found
          · cases found
          · exact .inl found
        · exact .inl found
      | metaCreate _ | metaUpdate _ | metaDelete _ =>
        simp only [Stores.execValid] at found
        split at found
        · exact .inl found
        · exact .inl found
      | _ => exact absurd rfl reads

/-- Every record has consent, and every blob was there at the start or is supplied by a request. -/
structure Consented (start : Stores) (started : VoiceOp → Prop) (s : Stores) : Prop where
  records : ∀ v record, s.metadata v = some record → record.consentAcknowledged = true
  blobs : ∀ v data, s.blobs v = some data → start.blobs v = some data ∨ ∃ op, started op ∧ Supplies data op

theorem consented_exec {start s : Stores} {started : VoiceOp → Prop} {c : StoreCall}
    (consented : Consented start started s) (consents : Consents started c) :
    Consented start started (s.exec c).2 := by
  constructor
  · intro v record found
    rcases metadata_after found with before | ⟨given, rfl, rfl | rfl⟩
    · exact consented.records v record before
    · exact consents
    · exact consents
  · intro v data found
    rcases blobs_after found with before | rfl
    · exact consented.blobs v data before
    · exact .inr consents

theorem consented_faulty {start : Stores} {started : VoiceOp → Prop} {w : FaultyStores} {c : StoreCall}
    (consented : Consented start started w.stores) (consents : Consents started c) :
    Consented start started (w.exec c).2.stores := by
  show Consented start started (execFaulty Stores.exec raised (w.plan.headD .works) w.stores c).2
  cases w.plan.headD .works with
  | works => exact consented_exec consented consents
  | raises _ => exact consented
  | raisesLate _ => exact consented_exec consented consents

/-- **Consent.** In any interleaving of requests and seed passes, whatever calls fail,
every stored record has consent, and every stored blob was supplied by a request that
carried consent or by an audio file of a seed file, if it was not there before. -/
theorem stored_with_consent {s : Stores} {plan : List (Outcome StoreError)} {acts : List (Act VoiceOp)} {p : FaultyPool}
    (start : ∀ v record, s.metadata v = some record → record.consentAcknowledged = true)
    (run : Transition.runs faultyStep ⟨⟨s, plan⟩, []⟩ acts = some p) :
    (∀ v record, p.store.stores.metadata v = some record → record.consentAcknowledged = true) ∧
      ∀ v data, p.store.stores.blobs v = some data →
        s.blobs v = some data ∨ ∃ op, .spawn op ∈ acts ∧ Supplies data op := by
  have consented : Consented s (fun op => .spawn op ∈ acts) p.store.stores := by
    apply Pool.always_inv (P := Consents fun op => .spawn op ∈ acts)
      (I := fun w => Consented s (fun op => .spawn op ∈ acts) w.stores) _ _ _ _ run
    · exact fun op spawned => (body_makes op).mono (consents_of_makes spawned)
    · exact fun _ w c consented consents => consented_faulty consented consents
    · exact ⟨start, fun v data found => .inl found⟩
    · intro task member
      cases member
  exact ⟨consented.records, consented.blobs⟩

/-- A POST whose blob write fails late, so that its blob stays without a record, and a
seed pass whose first record cannot be created. -/
def faultyPostAndSeed : List (Act VoiceOp) :=
  [.spawn (.create (plainCreate 1)), .spawn (.ingest (plainPass fun _ => .data [7])), .step 0, .step 1, .step 0,
    .step 1, .step 0, .step 1]

theorem faultyPostAndSeed_consents :
    ∃ p, Transition.runs faultyStep ⟨⟨.empty, [.works, .works, .raisesLate .other, .works, .works, .raises .other]⟩, []⟩
        faultyPostAndSeed = some p ∧
      (p.store.stores.blobs "ada").isSome ∧ p.store.stores.metadata "ada" = none ∧
      ∀ v data, p.store.stores.blobs v = some data →
        Stores.empty.blobs v = some data ∨ ∃ op, .spawn op ∈ faultyPostAndSeed ∧ Supplies data op := by
  have run := Transition.runs_final faultyStep
    ⟨⟨.empty, [.works, .works, .raisesLate .other, .works, .works, .raises .other]⟩, []⟩ faultyPostAndSeed (by decide +kernel)
  refine ⟨_, run, by decide +kernel, by decide +kernel, (stored_with_consent ?_ run).2⟩
  intro v record found
  cases found

end LlmTts
