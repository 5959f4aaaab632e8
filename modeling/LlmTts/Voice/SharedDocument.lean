import LlmTts.Lib.Slots
import LlmTts.Lib.Transition
import LlmTts.Voice.MetadataMap

/-!
# One document and several processes

Any number of processes, each with its own `FsJsonMetadataRepository` over one
directory. The lock of an instance makes the calls of its process one after the
other; a call of another process can come between the `_load_all` and the
`_atomic_write` of a changing call. `writes_kept` gives the replaces that have to be
excluded for no returned write to be lost.
-/

namespace LlmTts
open Python FiniteMap

/-- A record whose fields have the types that `VoiceRecord` declares. -/
abbrev TypedRecord : Type := { record : VoiceRecord // record.Typed }

/-- A call that changes the document. -/
inductive WriteCall where
  | create (record : TypedRecord)
  | update (record : TypedRecord)
  | delete (voiceId : String)
  deriving DecidableEq

namespace WriteCall

def voiceId : WriteCall → String
  | create record | update record => record.1.id
  | delete v => v

/-- The record of the id after the call, as it is read back. -/
def stored? : WriteCall → Option VoiceRecord
  | create record | update record => some record.1.settled
  | delete _ => none

/-- The record of a voice that the call creates. -/
def created? : WriteCall → Option VoiceRecord
  | create record => some record.1
  | update _ | delete _ => none

/-- What the call does to the records it has read. -/
def change (records : List (String × VoiceRecord)) : WriteCall → Except StoreError (List (String × VoiceRecord))
  | create record =>
    if (dictGet records record.1.id).isSome then .error (.voiceAlreadyExists record.1.id)
    else .ok (dictSet records record.1.id record.1)
  | update record =>
    if (dictGet records record.1.id).isSome then .ok (dictSet records record.1.id record.1)
    else .error (.voiceNotFound record.1.id)
  | delete v =>
    if (dictGet records v).isSome then .ok (records.filter fun item => item.1 ≠ v)
    else .error (.voiceNotFound v)

end WriteCall

/-- The returned writes and what is found for an id then: no write is lost. -/
structure Kept (returned : List WriteCall) (found : String → Option VoiceRecord) : Prop where
  /-- A voice that was created, and not deleted since, is there, as it was created
  unless another call wrote it since. -/
  creates : ∀ front back record, returned = front ++ .create record :: back → .delete record.1.id ∉ back →
    (found record.1.id).isSome ∧
      ((∀ later ∈ back, later.voiceId ≠ record.1.id) → found record.1.id = some record.1.settled)
  /-- A voice that was updated, and neither updated nor deleted since, is there as it
  was updated. -/
  updates : ∀ front back record, returned = front ++ .update record :: back → .delete record.1.id ∉ back →
    (∀ later, .update later ∈ back → later.1.id ≠ record.1.id) → found record.1.id = some record.1.settled
  /-- A voice that was created twice was deleted in between. -/
  once : ∀ front mid back one other, returned = front ++ .create one :: (mid ++ .create other :: back) →
    other.1.id = one.1.id → .delete one.1.id ∈ mid

theorem kept_nil (found : String → Option VoiceRecord) : Kept [] found := by
  constructor
  · intro front back record empty
    simp at empty
  · intro front back record empty
    simp at empty
  · intro front mid back one other empty
    simp at empty

/-- The last call of a list that was extended is the new one, or an old one before it. -/
theorem eq_concat_cases {returned front back : List WriteCall} {call one : WriteCall}
    (same : returned ++ [call] = front ++ one :: back) :
    (back = [] ∧ call = one ∧ returned = front) ∨
      ∃ before, back = before ++ [call] ∧ returned = front ++ one :: before := by
  obtain rfl | ⟨before, last, rfl⟩ := List.eq_nil_or_concat back
  · obtain ⟨same, last⟩ := List.append_inj' same rfl
    exact .inl ⟨rfl, List.singleton_inj.1 last, same⟩
  · have shifted : returned ++ [call] = (front ++ one :: before) ++ [last] := by simpa using same
    obtain ⟨earlier, new⟩ := List.append_inj' shifted rfl
    rw [← List.singleton_inj.1 new]
    exact .inr ⟨before, by rw [List.concat_eq_append], earlier⟩

section Append

variable {returned : List WriteCall} {found found' : String → Option VoiceRecord} {call : WriteCall}

/-- One more write, which leaves the other ids as they are and creates no voice that
is there. -/
theorem Kept.append (kept : Kept returned found) (others : ∀ v, v ≠ call.voiceId → found' v = found v)
    (written : found' call.voiceId = call.stored?)
    (new : ∀ record ∈ call.created?, found record.id = none) :
    Kept (returned ++ [call]) found' := by
  constructor
  · intro front back record same stays
    rcases eq_concat_cases same with ⟨rfl, rfl, -⟩ | ⟨before, rfl, earlier⟩
    · have there : found' record.1.id = some record.1.settled := written
      rw [there]
      exact ⟨rfl, fun _ => rfl⟩
    · obtain ⟨there, unwritten⟩ := kept.creates front before record earlier fun gone =>
        stays (List.mem_append_left _ gone)
      by_cases here : record.1.id = call.voiceId
      · constructor
        · rw [here, written]
          cases call with
          | create other => rfl
          | update other => rfl
          | delete v =>
            rw [here] at stays
            exact absurd (List.mem_append_right before List.mem_cons_self) stays
        · intro alone
          exact absurd here.symm (alone call (List.mem_append_right before List.mem_cons_self))
      · rw [others _ here]
        exact ⟨there, fun alone => unwritten fun later member => alone later (List.mem_append_left _ member)⟩
  · intro front back record same stays last
    rcases eq_concat_cases same with ⟨rfl, rfl, -⟩ | ⟨before, rfl, earlier⟩
    · exact written
    · have there := kept.updates front before record earlier (fun gone => stays (List.mem_append_left _ gone))
        fun later member => last later (List.mem_append_left _ member)
      by_cases here : record.1.id = call.voiceId
      · cases call with
        | create other =>
          -- the voice is there, so it is not created
          have absent : found record.1.id = none := by
            rw [here]
            exact new other.1 rfl
          rw [absent] at there
          cases there
        | update other =>
          exact absurd here.symm (last other (List.mem_append_right before List.mem_cons_self))
        | delete v =>
          rw [here] at stays
          exact absurd (List.mem_append_right before List.mem_cons_self) stays
      · rw [others _ here]
        exact there
  · intro front mid back one other same again
    have shifted : returned ++ [call] = (front ++ .create one :: mid) ++ .create other :: back := by
      simpa using same
    rcases eq_concat_cases shifted with
      ⟨-, rfl, earlier⟩ | ⟨before, -, earlier⟩
    · by_contra stays
      have there := (kept.creates front mid one earlier stays).1
      rw [← again, new other.1 rfl] at there
      cases there
    · exact kept.once front mid before one other (by simpa using earlier) again

end Append

/-- The document, what each process is about to write, and the calls that have
returned, in that order. -/
structure SharedDocument where
  disk : Disk
  pending : List (Option (WriteCall × List (String × VoiceRecord)))
  returned : List WriteCall

/-- A process begins a call: it reads the document and changes the records. Or it
replaces the document, or fails to. -/
inductive DocumentAct where
  | load (i : Nat) (call : WriteCall) (now : DateTime)
  | replace (i : Nat) (fault : Bool)

namespace SharedDocument

variable (containerText : Json → String) (storeDir : String)

def step (s : SharedDocument) : DocumentAct → Option SharedDocument
  | .load i call now =>
    match s.pending[i]? with
    | some none =>
      match (FsJsonMetadataRepository.mk storeDir).reading containerText now s.disk call.voiceId
          fun records => call.change records with
      | .error _ => some s
      | .ok records => some { s with pending := s.pending.set i (some (call, records)) }
    | _ => none
  | .replace i fault =>
    match s.pending[i]? with
    | some (some (call, records)) =>
      match (FsJsonMetadataRepository.mk storeDir).atomicWrite s.disk fault records with
      | none => some { s with pending := s.pending.set i none }
      | some disk => some ⟨disk, s.pending.set i none, s.returned ++ [call]⟩
    | _ => none

/-- `n` processes over a directory, and no call yet. -/
def initial (disk : Disk) (n : Nat) : SharedDocument := ⟨disk, List.replicate n none, []⟩

/-- The record of an id in `metadata.json`. -/
def visible (now : DateTime) (disk : Disk) (v : String) : Option VoiceRecord :=
  ((FsJsonMetadataRepository.mk storeDir).loadAll containerText now disk).bind fun records => dictGet records v

/-- A process replaces the document only if its records and those of the document
are the same outside the id of the call, and a voice to be created is not there. -/
def Current (now : DateTime) (s : SharedDocument) : DocumentAct → Prop
  | .load _ _ _ => True
  | .replace i _ => ∀ write ∈ s.pending[i]?, ∀ pending ∈ write,
    ∀ records ∈ (FsJsonMetadataRepository.mk storeDir).loadAll containerText now s.disk,
      (∀ item ∈ records, item.1 ≠ pending.1.voiceId → item ∈ pending.2) ∧
      (∀ item ∈ pending.2, item.1 ≠ pending.1.voiceId → item ∈ records) ∧
      ∀ record ∈ pending.1.created?, dictGet records record.id = none

instance (now : DateTime) (s : SharedDocument) : (a : DocumentAct) → Decidable (Current containerText storeDir now s a)
  | .load _ _ _ => isTrue trivial
  | .replace i _ => inferInstanceAs (Decidable (∀ write ∈ s.pending[i]?, ∀ pending ∈ write,
    ∀ records ∈ (FsJsonMetadataRepository.mk storeDir).loadAll containerText now s.disk,
      (∀ item ∈ records, item.1 ≠ pending.1.voiceId → item ∈ pending.2) ∧
      (∀ item ∈ pending.2, item.1 ≠ pending.1.voiceId → item ∈ records) ∧
      ∀ record ∈ pending.1.created?, dictGet records record.id = none))

/-! ## One step -/

end SharedDocument

namespace WriteCall

/-- The call on the map of the document. -/
def apply (m : VoiceMap) : WriteCall → VoiceMap
  | create record | update record => m.insert record.1.id record.1.settled
  | delete v => m.erase v

/-- The records that the call writes. -/
def written (m : VoiceMap) : WriteCall → VoiceMap
  | create record | update record => m.insert record.1.id record.1
  | delete v => m.erase v

theorem lookup_apply (m : VoiceMap) (call : WriteCall) (v : String) :
    (call.apply m).lookup v = if v = call.voiceId then call.stored? else m.lookup v := by
  cases call with
  | create record => exact lookup_insert_apply m record.1.settled v record.1.id
  | update record => exact lookup_insert_apply m record.1.settled v record.1.id
  | delete w => exact lookup_erase_apply m v w

/-- The other records are written as they were read. -/
theorem lookup_written (m : VoiceMap) {call : WriteCall} {v : String} (other : v ≠ call.voiceId) :
    (call.written m).lookup v = (call.apply m).lookup v := by
  rw [lookup_apply, if_neg other]
  cases call with
  | create record | update record => exact Finmap.lookup_insert_of_ne m other
  | delete w => exact Finmap.lookup_erase_ne other

theorem readFrom_written {m : VoiceMap} (keyed : m.Keyed) (call : WriteCall) :
    (call.apply m).ReadFrom (call.written m) := by
  cases call with
  | create record | update record => exact keyed.readFrom_insert record.1
  | delete v => exact keyed.readFrom.keyed_erase v

theorem keyed_apply {m : VoiceMap} (keyed : m.Keyed) (call : WriteCall) : (call.apply m).Keyed := by
  cases call with
  | create record => exact keyed.insert record.2
  | update record => exact keyed.insert record.2
  | delete v => exact keyed.erase v

/-- The changed records are those that the call writes. -/
theorem change_rows {m : VoiceMap} {call : WriteCall} {records : List (String × VoiceRecord)}
    (changed : call.change (rows m) = .ok records) : records.Perm (rows (call.written m)) := by
  cases call with
  | create record =>
    rw [change] at changed
    split at changed
    · cases changed
    · cases changed
      exact VoiceMap.perm_set record.1
  | update record =>
    rw [change] at changed
    split at changed
    · cases changed
      exact VoiceMap.perm_set record.1
    · cases changed
  | delete v =>
    rw [change] at changed
    split at changed
    · cases changed
      exact VoiceMap.perm_del v
    · cases changed

end WriteCall

namespace SharedDocument

open FsJsonMetadataRepository

variable (containerText : Json → String) {storeDir : String} (now : DateTime)

theorem visible_of_represents {disk : Disk} {m : VoiceMap} (represents : Represents (disk storeDir) m)
    (v : String) : visible containerText storeDir now disk v = m.lookup v := by
  rw [visible, loadAll_of_represents ⟨storeDir⟩ containerText now represents, Option.bind_some,
    VoiceMap.dictGet_rows]

/-- The document is that of a map, and what a process is about to write is that of
the map it has read, after its call. -/
structure Consistent (storeDir : String) (s : SharedDocument) (m : VoiceMap) : Prop where
  represents : Represents (s.disk storeDir) m
  pending : ∀ call records, some (call, records) ∈ s.pending →
    ∃ read : VoiceMap, read.Keyed ∧ records.Perm (rows (call.written read))

variable {containerText now} {s s' : SharedDocument} {m : VoiceMap}

/-- A replace is current exactly if the map it writes agrees with the one of the document
outside the id of its call, and a voice it creates is not in the document. -/
theorem current_replace_iff {i : Nat} {fault : Bool} {call : WriteCall} {records : List (String × VoiceRecord)}
    {read : VoiceMap} (represents : Represents (s.disk storeDir) m)
    (found : s.pending[i]? = some (some (call, records))) (same : records.Perm (rows (call.written read))) :
    Current containerText storeDir now s (.replace i fault) ↔
      (∀ v, v ≠ call.voiceId → (call.apply read).lookup v = m.lookup v) ∧
        ∀ record ∈ call.created?, m.lookup record.id = none := by
  have loaded := loadAll_of_represents ⟨storeDir⟩ containerText now represents
  have members : ∀ v record, v ≠ call.voiceId →
      ((v, record) ∈ records ↔ (call.apply read).lookup v = some record) := by
    intro v record other
    rw [← WriteCall.lookup_written read other]
    exact same.mem_iff.trans mem_rows
  constructor
  · intro current
    obtain ⟨inside, outside, absent⟩ := current (some (call, records)) found (call, records) rfl (rows m) loaded
    constructor
    · intro v other
      apply Option.ext
      intro record
      constructor
      · intro written
        exact mem_rows.1 (outside (v, record) ((members v record other).2 written) other)
      · intro there
        exact (members v record other).1 (inside (v, record) (mem_rows.2 there) other)
    · intro record create
      rw [← VoiceMap.dictGet_rows]
      exact absent record create
  · rintro ⟨agree, absent⟩ write pending one holds all loaded'
    cases found.symm.trans pending
    cases holds
    cases loaded.symm.trans loaded'
    refine ⟨?_, ?_, ?_⟩
    · rintro ⟨v, record⟩ there other
      exact (members v record other).2 ((agree v other).trans (mem_rows.1 there))
    · rintro ⟨v, record⟩ written other
      exact mem_rows.2 ((agree v other).symm.trans ((members v record other).1 written))
    · intro record create
      rw [VoiceMap.dictGet_rows]
      exact absent record create

/-- A call reads the records of the map, or is refused. -/
theorem reading_cases {call : WriteCall} {records : List (String × VoiceRecord)}
    (represents : Represents (s.disk storeDir) m)
    (read : (FsJsonMetadataRepository.mk storeDir).reading containerText now s.disk call.voiceId
      (fun records => call.change records) = .ok records) : call.change (rows m) = .ok records := by
  cases valid : validateVoiceId call.voiceId with
  | error e =>
    rw [reading, valid] at read
    cases read
  | ok done =>
    rw [reading_of_represents ⟨storeDir⟩ containerText now represents valid] at read
    exact read

/-- A step reads, gives up, or writes what was pending. -/
theorem step_cases {a : DocumentAct} (consistent : Consistent storeDir s m)
    (taken : step containerText storeDir s a = some s') :
    (s'.returned = s.returned ∧ Consistent storeDir s' m) ∨
      ∃ i fault call records read, a = .replace i fault ∧ s.pending[i]? = some (some (call, records)) ∧
        s'.returned = s.returned ++ [call] ∧ records.Perm (rows (call.written read)) ∧
        Consistent storeDir s' (call.apply read) := by
  obtain ⟨represents, pending⟩ := consistent
  -- a slot that is set free leaves the others pending
  have freed : ∀ {i : Nat} {call records}, some (call, records) ∈ s.pending.set i none →
      some (call, records) ∈ s.pending := by
    intro i call records member
    rcases Slots.mem_set_cases member with impossible | old
    · cases impossible
    · exact old
  cases a with
  | load i call now =>
    rw [step] at taken
    split at taken
    · split at taken
      · cases taken
        exact .inl ⟨rfl, represents, pending⟩
      · rename_i records read
        cases taken
        refine .inl ⟨rfl, represents, ?_⟩
        intro other records' member
        rcases Slots.mem_set_cases member with new | old
        · cases new
          exact ⟨m, represents.keyed, WriteCall.change_rows (reading_cases represents read)⟩
        · exact pending other records' old
    · cases taken
  | replace i fault =>
    rw [step] at taken
    split at taken
    · rename_i call records found
      obtain ⟨read, keyed, same⟩ := pending call records (List.mem_of_getElem? found)
      have write := atomicWrite_of_perm ⟨storeDir⟩ fault s.disk (WriteCall.keyed_apply keyed call)
        (WriteCall.readFrom_written keyed call) same
      split at taken
      · cases taken
        exact .inl ⟨rfl, represents, fun _ _ member => pending _ _ (freed member)⟩
      · rename_i disk written
        cases taken
        rw [written] at write
        exact .inr ⟨i, fault, call, records, read, rfl, found, rfl, same, write.2.2,
          fun _ _ member => pending _ _ (freed member)⟩
    · cases taken

/-! ## Runs -/

/-- The document is that of a map, and no returned write is lost. -/
def Preserved (storeDir : String) (s : SharedDocument) : Prop :=
  ∃ m : VoiceMap, Consistent storeDir s m ∧ Kept s.returned m.lookup

theorem preserved_step {a : DocumentAct} (preserved : Preserved storeDir s)
    (current : Current containerText storeDir now s a) (taken : step containerText storeDir s a = some s') :
    Preserved storeDir s' := by
  obtain ⟨m, consistent, kept⟩ := preserved
  obtain ⟨same, after⟩ | ⟨i, fault, call, records, read, rfl, found, returned, same, after⟩ :=
    step_cases consistent taken
  · refine ⟨m, after, ?_⟩
    rw [same]
    exact kept
  · obtain ⟨agree, absent⟩ := (current_replace_iff consistent.represents found same).1 current
    refine ⟨call.apply read, after, ?_⟩
    rw [returned]
    apply kept.append agree
    · rw [WriteCall.lookup_apply, if_pos rfl]
    · exact absent

/-- **No write is lost** in a run in which a process replaces the document only while
the records outside the id of its call are those it has read, and a voice it creates
is still not there. -/
theorem writes_kept {disk : Disk} {n : Nat} {m : VoiceMap} {acts : List DocumentAct}
    (represents : Represents (disk storeDir) m)
    (current : Transition.Guarded (step containerText storeDir) (Current containerText storeDir now)
      (initial disk n) acts)
    (run : Transition.runs (step containerText storeDir) (initial disk n) acts = some s) (later : DateTime) :
    Kept s.returned (visible containerText storeDir later s.disk) := by
  have start : Preserved storeDir (initial disk n) := by
    refine ⟨m, ⟨represents, ?_⟩, kept_nil _⟩
    intro call records member
    cases List.eq_of_mem_replicate member
  obtain ⟨after, consistent, kept⟩ :=
    Transition.guarded_inv (fun _ _ _ => preserved_step) start current run
  have same : visible containerText storeDir later s.disk = after.lookup :=
    funext fun v => visible_of_represents containerText later consistent.represents v
  rw [same]
  exact kept

def ada : TypedRecord := ⟨plainRecord "ada" .crud, by decide +kernel⟩

def bob : TypedRecord := ⟨plainRecord "bob" .crud, by decide +kernel⟩

/-- Two processes create one voice each; the write of the first one fails. -/
def failThenCreate : List DocumentAct :=
  [.load 0 (.create ada) ⟨0, 0⟩, .load 1 (.create bob) ⟨0, 0⟩, .replace 0 true, .replace 1 false]

theorem failThenCreate_kept :
    let s := Transition.final (step (fun _ => "") "voices") (initial (fun _ => none) 2) failThenCreate
    s.returned = [.create bob] ∧ Kept s.returned (visible (fun _ => "") "voices" ⟨0, 0⟩ s.disk) := by
  have run := Transition.runs_final (step (fun _ => "") "voices") (initial (fun _ => none) 2) failThenCreate
    (by decide +kernel)
  have guarded : Transition.Guarded (step (fun _ => "") "voices") (Current (fun _ => "") "voices" ⟨0, 0⟩)
      (initial (fun _ => none) 2) failThenCreate := by decide +kernel
  exact ⟨by decide +kernel, writes_kept represents_none guarded run ⟨0, 0⟩⟩

/-- Two processes read the document before either of them writes it. -/
def createTwice : List DocumentAct :=
  [.load 0 (.create ada) ⟨0, 0⟩, .load 1 (.create bob) ⟨0, 0⟩, .replace 0 false, .replace 1 false]

/-- The second one replaces the voice of the first one. -/
theorem createTwice_loses :
    ¬∀ (containerText : Json → String) (storeDir : String) (disk : Disk) (n : Nat) (m : VoiceMap)
      (acts : List DocumentAct) (s : SharedDocument) (later : DateTime),
      Represents (disk storeDir) m →
      Transition.runs (step containerText storeDir) (initial disk n) acts = some s →
      Kept s.returned (visible containerText storeDir later s.disk) := by
  intro claim
  have run := Transition.runs_final (step (fun _ => "") "voices") (initial (fun _ => none) 2) createTwice
    (by decide +kernel)
  have kept := claim _ "voices" _ 2 ∅ createTwice _ ⟨0, 0⟩ represents_none run
  have returned : (Transition.final (step (fun _ => "") "voices") (initial (fun _ => none) 2) createTwice).returned =
      [] ++ .create ada :: [.create bob] := by decide +kernel
  have there := (kept.creates [] [.create bob] ada returned (by decide +kernel)).1
  -- the document has bob only
  have same : (dictSet (rows ∅) bob.1.id bob.1).Perm (rows ((∅ : VoiceMap).insert bob.1.id bob.1)) :=
    VoiceMap.perm_set bob.1
  rw [rows_empty] at same
  have written : (Transition.final (step (fun _ => "") "voices") (initial (fun _ => none) 2) createTwice).disk "voices" =
      (payload (dictSet [] bob.1.id bob.1)).dumps := by decide +kernel
  obtain ⟨text, encoded⟩ := Option.isSome_iff_exists.1
    (by decide +kernel : (payload (dictSet [] bob.1.id bob.1)).dumps.isSome)
  have after : Represents _ ((∅ : VoiceMap).insert bob.1.id bob.1.settled) :=
    ⟨VoiceMap.keyed_empty.insert bob.2, .inr ⟨text, _, written.trans encoded,
      VoiceMap.keyed_empty.readFrom_insert bob.1, (dumps_payload_perm same).symm.trans encoded⟩⟩
  rw [visible_of_represents (fun _ => "") ⟨0, 0⟩ after, lookup_insert_apply,
    if_neg (by decide +kernel), Finmap.lookup_empty] at there
  cases there

end SharedDocument

end LlmTts
