import LlmTts.Voice.Programs

/-!
# The calls of a request

`Makes op c` lists the repository calls that a request can come to, whatever its
calls are answered. Facts about everything that is ever written follow from this
list, by `Pool.always_inv` and `Pool.meets_inv`.
-/

namespace LlmTts
open Python Effect

/-- The calls of a request, with the checks that come before them. -/
inductive Makes : VoiceOp → StoreCall → Prop
  | create {request : CreateRequest} {payload : VoiceCreate} {data : Bytes}
      (input : createInput request = .ok (payload, data)) :
      Makes (.create request) (.metaCreate (createdRecord payload request.now))
  | createBlob {request : CreateRequest} {payload : VoiceCreate} {data : Bytes}
      (input : createInput request = .ok (payload, data)) : Makes (.create request) (.blobPut payload.id data)
  | createUndo {request : CreateRequest} {payload : VoiceCreate} {data : Bytes}
      (input : createInput request = .ok (payload, data)) : Makes (.create request) (.metaDelete payload.id)
  | updateGet {request : UpdateRequest} {payload : VoiceUpdate} (input : updateInput request = .ok payload) :
      Makes (.update request) (.metaGet request.voiceId)
  | updateBlob {request : UpdateRequest} {payload : VoiceUpdate} {data : Bytes}
      (input : updateInput request = .ok payload) (blob : newBlob request = .ok (some data)) :
      Makes (.update request) (.blobPut request.voiceId data)
  | update {request : UpdateRequest} {payload : VoiceUpdate} {blob : Option Bytes}
      (input : updateInput request = .ok payload) (blob : newBlob request = .ok blob) (existing : VoiceRecord) :
      Makes (.update request) (.metaUpdate (updatedRecord existing payload request.now))
  | delete (v : String) : Makes (.delete v) (.metaDelete v)
  | deleteProbe (v : String) : Makes (.delete v) (.blobExists v)
  | deleteBlob (v : String) : Makes (.delete v) (.blobDelete v)
  | ingestProbe (pass : SeedPass) (v : String) : Makes (.ingest pass) (.metaExists v)
  | ingestBlob {pass : SeedPass} {entries : List ParsedSeedEntry} {entry : ParsedSeedEntry} {data : Bytes}
      (parsed : parseAndValidate pass = .ok entries) (member : entry ∈ entries)
      (read : pass.readBytes entry.refAudioPath = .data data) : Makes (.ingest pass) (.blobPut entry.voiceId data)
  | ingest {pass : SeedPass} {entries : List ParsedSeedEntry} {entry : ParsedSeedEntry} {data : Bytes}
      (parsed : parseAndValidate pass = .ok entries) (member : entry ∈ entries)
      (read : pass.readBytes entry.refAudioPath = .data data) :
      Makes (.ingest pass) (.metaCreate (seedRecord pass entry))
  | resolve (v : String) : Makes (.resolve v) (.metaGet v)
  | resolveBlob (v : String) : Makes (.resolve v) (.blobGet v)

/-- The program makes only calls of the request. -/
abbrev Stays (op : VoiceOp) (prog : StoreProg VoiceEnd) : Prop := prog.Always (Makes op)

/-- A request that has ended makes no more calls. -/
theorem stays_ret (op : VoiceOp) (r : VoiceEnd) : Stays op (.ret r) := Prog.always_ret r

/-- The rollback of a POST makes its last call. -/
theorem createStored_stays {request : CreateRequest} {payload : VoiceCreate} {data : Bytes}
    (input : createInput request = .ok (payload, data)) (created : VoiceRecord) (stored : Except StoreError Unit) :
    Stays (.create request) (createStored payload.id created stored) := by
  rcases stored with e | _
  · rw [createStored]
    split
    · exact stays_ret _ _
    · refine Prog.always_call (.createUndo input) fun undone => ?_
      rcases undone with (_ | _ | _ | _ | _) | _ <;> exact stays_ret _ _
  · exact stays_ret _ _

/-- A POST makes the calls of the list only. -/
theorem createVoice_stays (request : CreateRequest) : Stays (.create request) (createVoice request) := by
  rw [createVoice_eq]
  split
  · rename_i payload data input
    refine Prog.always_call (.create input) fun created => ?_
    rcases created with e | record
    · exact stays_ret _ _
    · exact Prog.always_call (.createBlob input) fun stored => createStored_stays input record stored
  · exact stays_ret _ _

/-- A PUT makes the calls of the list only. -/
theorem updateVoice_stays (request : UpdateRequest) : Stays (.update request) (updateVoice request) := by
  rw [updateVoice_eq]
  split
  · rename_i payload input
    have saves : ∀ (blob : Option Bytes) (existing : VoiceRecord), newBlob request = .ok blob →
        Stays (.update request) (.call (.metaUpdate (updatedRecord existing payload request.now)) updateSaved) := by
      intro blob existing read
      refine Prog.always_call (.update input read existing) fun saved => ?_
      rcases saved with e | _
      · exact stays_ret _ _
      · exact stays_ret _ _
    refine Prog.always_call (.updateGet input) fun existing => ?_
    rcases existing with e | existing
    · exact stays_ret _ _
    · show Stays _ (updateLoaded request payload (.ok existing))
      rw [updateLoaded]
      rcases read : newBlob request with e | _ | data
      · exact stays_ret _ _
      · exact saves none existing.val read
      · refine Prog.always_call (.updateBlob input read) fun stored => ?_
        rcases stored with e | _
        · exact stays_ret _ _
        · exact saves (some data) existing.val read
  · exact stays_ret _ _

/-- A DELETE makes the calls of the list only. -/
theorem deleteVoice_stays (v : String) : Stays (.delete v) (deleteVoice v) := by
  have ends : ∀ e, Stays (.delete v) (deleteError e) := by
    intro e
    cases e with
    | _ => exact stays_ret _ _
  rw [deleteVoice_eq]
  split
  · refine Prog.always_call (.delete v) fun dropped => ?_
    rcases dropped with e | _
    · exact stays_ret _ _
    · refine Prog.always_call (.deleteProbe v) fun present => ?_
      rcases present with e | (_ | _)
      · exact ends e
      · exact stays_ret _ _
      · refine Prog.always_call (.deleteBlob v) fun erased => ?_
        rcases erased with e | _
        · exact ends e
        · exact stays_ret _ _
  · exact stays_ret _ _
  · exact stays_ret _ _

/-- The loop of a pass makes, for each of its validated entries, the calls of the list. -/
theorem ingestEntries_stays {pass : SeedPass} {all entries : List ParsedSeedEntry}
    (parsed : parseAndValidate pass = .ok all) (among : ∀ entry ∈ entries, entry ∈ all) (created : Nat) :
    Stays (.ingest pass) (ingestEntries pass entries created) := by
  induction entries generalizing created with
  | nil => exact stays_ret _ _
  | cons entry entries ih =>
    have rest := ih fun other member => among other (List.mem_cons_of_mem entry member)
    have here := among entry List.mem_cons_self
    rw [ingestEntries_cons]
    refine Prog.always_call (.ingestProbe pass entry.voiceId) fun present => ?_
    rcases present with e | (_ | _)
    · exact stays_ret _ _
    · show Stays _ (ingestProbed pass entry entries created (.ok false))
      rw [ingestProbed]
      cases read : pass.readBytes entry.refAudioPath with
      | osError => exact stays_ret _ _
      | raises => exact stays_ret _ _
      | data audioBytes =>
        refine Prog.always_call (.ingestBlob parsed here read) fun stored => ?_
        rcases stored with e | _
        · exact stays_ret _ _
        · refine Prog.always_call (.ingest parsed here read) fun record => ?_
          rcases record with e | _
          · exact stays_ret _ _
          · exact rest (created + 1)
    · exact rest created

/-- A voice lookup makes the calls of the list only. -/
theorem resolveVoice_stays (v : String) : Stays (.resolve v) (resolveVoice v) := by
  rw [resolveVoice_eq]
  refine Prog.always_call (.resolve v) fun record => ?_
  rcases record with e | record
  · exact stays_ret _ _
  · refine Prog.always_call (.resolveBlob v) fun blob => ?_
    rcases blob with e | _
    · exact stays_ret _ _
    · exact stays_ret _ _

/-- A request makes the calls of the list only. -/
theorem body_makes (op : VoiceOp) : op.body.Always (Makes op) := by
  cases op with
  | create request => exact createVoice_stays request
  | update request => exact updateVoice_stays request
  | delete v => exact deleteVoice_stays v
  | ingest pass =>
    obtain ⟨r, ended⟩ | ⟨entries, parsed, goes⟩ := ingestOnce_eq pass
    · show Stays (.ingest pass) (ingestOnce pass)
      rw [ended]
      exact stays_ret _ _
    · show Stays (.ingest pass) (ingestOnce pass)
      rw [goes]
      exact ingestEntries_stays parsed (fun _ member => member) 0
  | resolve v => exact resolveVoice_stays v

end LlmTts
