import LlmTts.Voice.Moves

/-!
# Requests alone, with failing repository calls

A request runs alone and its plan says which of its repository calls raise, and what.
The three `_alone` lemmas give the answer and the stores after each handler in
closed form.
-/

namespace LlmTts
open Python Effect

/-- A request run alone: its answer and the stores after it. -/
def alone (op : VoiceOp) (plan : List (Outcome StoreError)) (s : Stores) : VoiceEnd × Stores :=
  runFaulty Stores.exec raised op.body plan s

/-- What the call at position `n` of a request raises, if it raises. -/
def fault (plan : List (Outcome StoreError)) (n : Nat) : Option StoreError :=
  match plan.getD n .works with
  | .works => none
  | .raises e | .raisesLate e => some e

/-- The call at position `n` of a request works. -/
def Works (plan : List (Outcome StoreError)) (n : Nat) : Prop := fault plan n = none

instance (plan : List (Outcome StoreError)) (n : Nat) : Decidable (Works plan n) :=
  inferInstanceAs (Decidable (fault plan n = none))

section Plans

variable (plan : List (Outcome StoreError)) (n : Nat)

theorem works_iff : Works plan n ↔ plan.getD n .works = .works := by
  unfold Works fault
  cases plan.getD n .works <;> simp

theorem getD_zero : plan.getD 0 .works = plan.headD .works := by
  cases plan <;> rfl

theorem works_zero : Works plan 0 ↔ plan.headD .works = .works := by
  rw [works_iff, getD_zero]

/-- The calls after the first follow the rest of the plan. -/
theorem fault_tail : fault plan.tail n = fault plan (n + 1) := by
  cases plan <;> rfl

end Plans

section Calls

variable {c : StoreCall} {k : c.Reply → StoreProg VoiceEnd} {plan : List (Outcome StoreError)} {s : Stores}
  {e : StoreError}

theorem call_works (works : Works plan 0) :
    runFaulty Stores.exec raised (.call c k) plan s =
      runFaulty Stores.exec raised (k (s.exec c).1) plan.tail (s.exec c).2 :=
  runFaulty_works ((works_zero plan).1 works)

theorem call_raises (clean : WithoutEffect plan) (fails : fault plan 0 = some e) :
    runFaulty Stores.exec raised (.call c k) plan s =
      runFaulty Stores.exec raised (k (.error e)) plan.tail s := by
  rw [fault, getD_zero] at fails
  rcases clean.head with works | ⟨e', raises⟩
  · rw [works] at fails
    cases fails
  · rw [raises] at fails
    cases fails
    exact runFaulty_raises raises

/-- A call that changes nothing raises without effect in any case. -/
theorem call_reads (unchanged : (s.exec c).2 = s) (fails : fault plan 0 = some e) :
    runFaulty Stores.exec raised (.call c k) plan s =
      runFaulty Stores.exec raised (k (.error e)) plan.tail s := by
  rw [fault, getD_zero] at fails
  cases look : plan.headD .works with
  | works =>
    rw [look] at fails
    cases fails
  | raises e' =>
    rw [look] at fails
    cases fails
    exact runFaulty_raises look
  | raisesLate e' =>
    rw [look] at fails
    cases fails
    rw [runFaulty_raisesLate look, unchanged]
    rfl

end Calls

/-! ## The three handlers -/

theorem setRecord_dropRecord {s : Stores} {record : VoiceRecord}
    (absent : s.metadata record.id = none) : (s.setRecord record).dropRecord record.id = s := by
  ext1
  · simp only [Stores.dropRecord_metadata, Stores.setRecord_metadata, Function.update_idem]
    rw [← absent, Function.update_eq_self]
  · rfl

/-- The rollback of a POST whose blob write raised `e`, alone. -/
theorem createStored_alone {record : VoiceRecord} (valid : validateVoiceId record.id = .ok ())
    (created : VoiceRecord) {e : StoreError} (caught : e ≠ .cancelled) {plan : List (Outcome StoreError)}
    (clean : WithoutEffect plan) {s : Stores} (absent : s.metadata record.id = none) :
    runFaulty Stores.exec raised (createStored record.id created (.error e)) plan (s.setRecord record) =
      match fault plan 0 with
      | none => (.error (.store e), s)
      | some e' => (.error (.store (if e' = .cancelled then .cancelled else e)), s.setRecord record) := by
  rw [createStored, if_neg caught]
  cases first : fault plan 0 with
  | none =>
    rw [call_works first, Stores.exec_metaDelete valid]
    simp only [Stores.setRecord_metadata, Function.update_self, Option.isSome_some, if_true,
      setRecord_dropRecord absent]
    rfl
  | some e' =>
    rw [call_raises clean first]
    cases e' <;> rfl

/-- `create_voice` alone. Its rollback undoes the `create`, unless it fails too; a
cancelled blob write is not rolled back. -/
theorem create_alone (request : CreateRequest) {plan : List (Outcome StoreError)} (clean : WithoutEffect plan)
    (s : Stores) :
    alone (.create request) plan s = match createInput request with
      | .error exc => (.error exc, s)
      | .ok (payload, data) =>
        match fault plan 0 with
        | some e => (.error (createError payload.id e), s)
        | none =>
          if (s.metadata payload.id).isSome then
            (.error (createError payload.id (.voiceAlreadyExists payload.id)), s)
          else match fault plan 1 with
            | none =>
              (.ok (.voice (createdRecord payload request.now)),
                (s.setRecord (createdRecord payload request.now)).setBlob payload.id (some data))
            | some e =>
              if e = .cancelled then (.error (.store .cancelled), s.setRecord (createdRecord payload request.now))
              else match fault plan 2 with
                | none => (.error (.store e), s)
                | some e' =>
                  (.error (.store (if e' = .cancelled then .cancelled else e)),
                    s.setRecord (createdRecord payload request.now)) := by
  simp only [alone, VoiceOp.body]
  rw [createVoice_eq]
  rcases createInput request with exc | ⟨payload, data⟩
  · rfl
  dsimp only
  have valid := payload.idValid
  have same : (createdRecord payload request.now).id = payload.id := rfl
  generalize createdRecord payload request.now = record at same ⊢
  generalize payload.id = v at valid same ⊢
  subst same
  cases first : fault plan 0 with
  | some e =>
    rw [call_raises clean first]
    rfl
  | none =>
    rw [call_works first, Stores.exec_metaCreate valid]
    cases present : s.metadata record.id with
    | some existing => rfl
    | none =>
      simp only [Option.isSome_none, Bool.false_eq_true, if_false, createCreated]
      cases second : fault plan 1 with
      | none =>
        have works : Works plan.tail 0 := (fault_tail plan 0).trans second
        rw [call_works works, Stores.exec_blobPut valid]
        rfl
      | some e =>
        rw [call_raises clean.tail ((fault_tail plan 0).trans second)]
        by_cases caught : e = .cancelled
        · subst caught
          rfl
        · rw [createStored_alone valid record caught clean.tail.tail present, fault_tail, fault_tail]
          exact (if_neg caught).symm

/-- `update_voice` alone. -/
theorem update_alone (request : UpdateRequest) {plan : List (Outcome StoreError)} (clean : WithoutEffect plan)
    (s : Stores) :
    alone (.update request) plan s = match updateInput request with
      | .error exc => (.error exc, s)
      | .ok payload =>
        match fault plan 0 with
        | some e => (.error (lookupError request.voiceId e), s)
        | none =>
          match s.metadata request.voiceId with
          | none => (.error (.http (voiceNotFoundError request.voiceId)), s)
          | some existing =>
            match newBlob request, fault plan 1 with
            | .error e, _ => (.error (.http e), s)
            | .ok _, some e => (.error (.store e), s)
            | .ok none, none =>
              (.ok (.voice (updatedRecord existing payload request.now)),
                s.setRecord (updatedRecord existing payload request.now))
            | .ok (some data), none =>
              match fault plan 2 with
              | some e => (.error (.store e), s.setBlob request.voiceId (some data))
              | none =>
                (.ok (.voice (updatedRecord existing payload request.now)),
                  (s.setBlob request.voiceId (some data)).setRecord
                    (updatedRecord existing payload request.now)) := by
  simp only [alone, VoiceOp.body]
  rw [updateVoice_eq]
  cases input : updateInput request with
  | error exc => rfl
  | ok payload =>
    have valid := updateInput_valid input
    dsimp only
    cases first : fault plan 0 with
    | some e =>
      rw [call_raises clean first]
      rfl
    | none =>
      rw [call_works first]
      cases found : s.metadata request.voiceId with
      | none => rw [Stores.exec_metaGet_none valid found]; rfl
      | some existing =>
        rw [Stores.exec_metaGet_some valid found]
        have keyed : existing.id = request.voiceId := s.keyed _ _ found
        have same : (updatedRecord existing payload request.now).id = request.voiceId := keyed
        simp only [updateLoaded]
        generalize updatedRecord existing payload request.now = record at same ⊢
        have present : (s.metadata record.id).isSome := by rw [same, found]; rfl
        have valid' : validateVoiceId record.id = .ok () := same ▸ valid
        have next : fault plan.tail 0 = fault plan 1 := fault_tail plan 0
        rcases newBlob request with e | _ | data
        · rfl
        · dsimp only
          cases second : fault plan 1 with
          | none =>
            have works : Works plan.tail 0 := next.trans second
            rw [call_works works, Stores.exec_metaUpdate valid', if_pos present]
            rfl
          | some e =>
            rw [call_raises clean.tail (next.trans second)]
            rfl
        · dsimp only
          cases second : fault plan 1 with
          | some e =>
            rw [call_raises clean.tail (next.trans second)]
            rfl
          | none =>
            have works : Works plan.tail 0 := next.trans second
            rw [call_works works, Stores.exec_blobPut valid]
            simp only [updateStored]
            have last : fault plan.tail.tail 0 = fault plan 2 := by rw [fault_tail, fault_tail]
            cases third : fault plan 2 with
            | none =>
              have works : Works plan.tail.tail 0 := last.trans third
              rw [call_works works, Stores.exec_metaUpdate valid', Stores.setBlob_metadata, if_pos present]
              rfl
            | some e =>
              rw [call_raises clean.tail.tail (last.trans third)]
              rfl

/-- What a DELETE answers after a blob call raised. -/
def deleteFailed : StoreError → VoiceEnd
  | .voiceNotFound _ => .ok .noContent
  | e => .error (.store e)

theorem deleteError_alone (e : StoreError) (plan : List (Outcome StoreError)) (s : Stores) :
    runFaulty Stores.exec raised (deleteError e) plan s = (deleteFailed e, s) := by
  cases e <;> rfl

/-- `delete_voice` of a valid id, alone. -/
theorem delete_alone {v : String} (valid : validateVoiceId v = .ok ()) {plan : List (Outcome StoreError)}
    (clean : WithoutEffect plan) (s : Stores) :
    alone (.delete v) plan s = match fault plan 0 with
      | some e => (.error (lookupError v e), s)
      | none =>
        if s.metadata v = none then (.error (.http (voiceNotFoundError v)), s)
        else match fault plan 1 with
          | some e => (deleteFailed e, s.dropRecord v)
          | none =>
            if s.blobs v = none then (.ok .noContent, s.dropRecord v)
            else match fault plan 2 with
              | some e => (deleteFailed e, s.dropRecord v)
              | none => (.ok .noContent, (s.dropRecord v).setBlob v none) := by
  simp only [alone, VoiceOp.body]
  rw [deleteVoice_eq, valid]
  dsimp only
  cases first : fault plan 0 with
  | some e =>
    rw [call_raises clean first]
    rfl
  | none =>
    rw [call_works first, Stores.exec_metaDelete valid]
    cases found : s.metadata v with
    | none => rfl
    | some record =>
      simp only [Option.isSome_some, if_true, reduceCtorEq, if_false, deleteDropped]
      have next : fault plan.tail 0 = fault plan 1 := fault_tail plan 0
      cases second : fault plan 1 with
      | some e =>
        rw [call_raises clean.tail (next.trans second)]
        exact deleteError_alone e _ _
      | none =>
        have works : Works plan.tail 0 := next.trans second
        rw [call_works works, Stores.exec_blobExists valid, Stores.dropRecord_blobs]
        cases stored : s.blobs v with
        | none => rfl
        | some data =>
          simp only [Option.isSome_some, reduceCtorEq, if_false, deleteProbed]
          have last : fault plan.tail.tail 0 = fault plan 2 := by rw [fault_tail, fault_tail]
          cases third : fault plan 2 with
          | none =>
            have works : Works plan.tail.tail 0 := last.trans third
            rw [call_works works, Stores.exec_blobDelete valid, Stores.dropRecord_blobs, stored]
            rfl
          | some e =>
            rw [call_raises clean.tail.tail (last.trans third)]
            exact deleteError_alone e _ _

theorem delete_invalid {v : String} {e : StoreError} (invalid : validateVoiceId v = .error e)
    {plan : List (Outcome StoreError)} {s : Stores} : (alone (.delete v) plan s).2 = s := by
  simp only [alone, VoiceOp.body]
  rw [deleteVoice_eq, invalid]
  cases e <;> rfl

/-! ## All or nothing -/

/-- The handlers of the voice router. -/
def VoiceOp.IsHandler : VoiceOp → Prop
  | .create _ | .update _ | .delete _ => True
  | .ingest _ | .resolve _ => False

/-- Only the call at position `n` raises, and it raises `e`. -/
def singleFault (n : Nat) (e : StoreError) : List (Outcome StoreError) := List.replicate n .works ++ [.raises e]

@[simp] theorem fault_singleFault (n m : Nat) (e : StoreError) :
    fault (singleFault n e) m = if m = n then some e else none := by
  simp only [fault, singleFault, List.getD_eq_getElem?_getD, List.getElem?_append,
    List.length_replicate, List.getElem?_replicate]
  rcases Nat.lt_trichotomy m n with before | rfl | after
  · simp [before, before.ne]
  · simp
  · have beyond : m - n ≠ 0 := by omega
    simp [after.not_gt, after.ne', beyond]

theorem singleFault_withoutEffect (n : Nat) (e : StoreError) : WithoutEffect (singleFault n e) := by
  simp [WithoutEffect, singleFault, Outcome.Prompt, or_imp, forall_and]

/-- An answer that is an error leaves both stores as they were. -/
def AllOrNothing (op : VoiceOp) (plan : List (Outcome StoreError)) (s : Stores) : Prop :=
  (∃ e, (alone op plan s).1 = .error e) → (alone op plan s).2 = s

/-- The fault `e` at position `n` does not fall between two writes that are not undone:
it is no cancellation of the blob write of a POST that has stored its record, it does not
fall on the `update` of a PUT that replaces the stored audio, nor on the blob calls of a
DELETE of a stored voice, unless it says there that the blob is missing. -/
def FaultSpares (s : Stores) (n : Nat) (e : StoreError) : VoiceOp → Prop
  | .create request => ¬(n = 1 ∧ e = .cancelled ∧
      ∃ payload data, createInput request = .ok (payload, data) ∧ s.metadata payload.id = none)
  | .update request => ¬(n = 2 ∧ (s.metadata request.voiceId).isSome ∧
      (∃ payload, updateInput request = .ok payload) ∧
      ∃ data, newBlob request = .ok (some data) ∧ s.blobs request.voiceId ≠ some data)
  | .delete v => ¬((n = 1 ∨ n = 2) ∧ (∀ w, e ≠ .voiceNotFound w) ∧ validateVoiceId v = .ok () ∧
      (s.metadata v).isSome)
  | _ => True

theorem setBlob_eq_self_iff {s : Stores} {v : String} {data : Bytes} :
    s.setBlob v (some data) = s ↔ s.blobs v = some data := by
  constructor
  · intro same
    rw [← same, Stores.setBlob_blobs, Function.update_self]
  · intro stored
    ext1
    · rfl
    · rw [Stores.setBlob_blobs, ← stored, Function.update_eq_self]

theorem dropRecord_ne_self {s : Stores} {v : String} (present : (s.metadata v).isSome) :
    s.dropRecord v ≠ s := by
  intro same
  rw [← same, Stores.dropRecord_metadata, Function.update_self] at present
  cases present

theorem setRecord_ne_self {s : Stores} {record : VoiceRecord} (absent : s.metadata record.id = none) :
    s.setRecord record ≠ s := by
  intro same
  rw [← same, Stores.setRecord_metadata, Function.update_self] at absent
  cases absent

theorem create_all_or_nothing_iff (request : CreateRequest) (n : Nat) (e : StoreError) (s : Stores) :
    AllOrNothing (.create request) (singleFault n e) s ↔ FaultSpares s n e (.create request) := by
  unfold AllOrNothing FaultSpares
  rw [create_alone request (singleFault_withoutEffect n e)]
  cases input : createInput request with
  | error exc => simp [input]
  | ok accepted =>
    obtain ⟨payload, data⟩ := accepted
    simp only [fault_singleFault]
    by_cases first : n = 0
    · simp [first]
    rw [if_neg (Ne.symm first)]
    cases present : s.metadata payload.id with
    | some existing => simp [present, input]
    | none =>
      by_cases second : n = 1
      · by_cases caught : e = .cancelled
        · have changed : s.setRecord (createdRecord payload request.now) ≠ s := setRecord_ne_self present
          simp [second, caught, input, present, changed]
        · simp [second, caught]
      · simp [Ne.symm second, second]

theorem update_all_or_nothing_iff (request : UpdateRequest) (n : Nat) (e : StoreError) (s : Stores) :
    AllOrNothing (.update request) (singleFault n e) s ↔ FaultSpares s n e (.update request) := by
  unfold AllOrNothing FaultSpares
  rw [update_alone request (singleFault_withoutEffect n e)]
  cases input : updateInput request with
  | error exc => simp [input]
  | ok payload =>
    simp only [fault_singleFault]
    by_cases first : n = 0
    · simp [first]
    rw [if_neg (Ne.symm first)]
    cases s.metadata request.voiceId with
    | none => simp
    | some existing =>
      rcases newBlob request with e | _ | data
      · simp
      · by_cases second : n = 1
        · simp [second]
        · simp [Ne.symm second]
      · by_cases second : n = 1
        · simp [second]
        · by_cases third : n = 2
          · simp [third, setBlob_eq_self_iff, input]
          · simp [Ne.symm second, Ne.symm third, third]

theorem delete_all_or_nothing_iff {s : Stores} (agree : s.Agree) (v : String) (n : Nat) (e : StoreError) :
    AllOrNothing (.delete v) (singleFault n e) s ↔ FaultSpares s n e (.delete v) := by
  unfold AllOrNothing FaultSpares
  cases valid : validateVoiceId v with
  | error e =>
    simp [delete_invalid valid, valid]
  | ok u =>
    cases u
    rw [delete_alone valid (singleFault_withoutEffect n e)]
    simp only [fault_singleFault]
    by_cases first : n = 0
    · simp [first]
    rw [if_neg (Ne.symm first)]
    by_cases absent : s.metadata v = none
    · simp [absent]
    have present : (s.metadata v).isSome := Option.isSome_iff_ne_none.2 absent
    have stored : s.blobs v ≠ none := Option.isSome_iff_ne_none.1 (agree v ▸ present)
    rw [if_neg absent, if_neg stored]
    have changed := dropRecord_ne_self present
    by_cases second : n = 1
    · cases e <;> simp [second, deleteFailed, valid, present, changed]
    · by_cases third : n = 2
      · cases e <;> simp [third, deleteFailed, valid, present, changed]
      · simp [Ne.symm second, Ne.symm third, second, third]

/-- **All or nothing.** A handler with one failing call that ends in an error has
changed nothing, exactly when the fault spares the calls `FaultSpares` names. -/
theorem handler_all_or_nothing_iff {op : VoiceOp} (handler : op.IsHandler) {s : Stores}
    (agree : s.Agree) (n : Nat) (e : StoreError) :
    AllOrNothing op (singleFault n e) s ↔ FaultSpares s n e op := by
  cases op with
  | create request => exact create_all_or_nothing_iff request n e s
  | update request => exact update_all_or_nothing_iff request n e s
  | delete v => exact delete_all_or_nothing_iff agree v n e
  | ingest pass => cases handler
  | resolve v => cases handler

/-- A DELETE whose first call fails leaves the voice alone. -/
theorem delete_all_or_nothing_first :
    AllOrNothing (.delete "ada") (singleFault 0 .other)
      (Stores.oneVoice (plainRecord "ada" .crud) [1]) :=
  (handler_all_or_nothing_iff (show VoiceOp.IsHandler (.delete "ada") from trivial)
    (Stores.oneVoice_agree _ _) 0 .other).2 (by simp [FaultSpares])

/-- A DELETE whose blob lookup fails answers with an error and has removed the record. -/
theorem delete_not_all_or_nothing :
    ¬∀ (op : VoiceOp) (s : Stores) (n : Nat) (e : StoreError), op.IsHandler → s.Agree →
      AllOrNothing op (singleFault n e) s := by
  intro claim
  have unchanged := claim (.delete "ada") (Stores.oneVoice (plainRecord "ada" .crud) [1]) 1 .other trivial
    (Stores.oneVoice_agree _ _)
  have valid : validateVoiceId "ada" = .ok () := by decide
  rw [AllOrNothing, delete_alone valid (singleFault_withoutEffect 1 .other)] at unchanged
  exact dropRecord_ne_self (by decide) (unchanged ⟨_, rfl⟩)

end LlmTts
