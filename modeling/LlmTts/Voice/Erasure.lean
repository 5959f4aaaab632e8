import LlmTts.Voice.Faults

/-!
# What a DELETE leaves behind

Requests run one after another, and any of their repository calls may raise any
exception without effect. A DELETE removes the record first, so that a failed blob
call leaves a blob no later DELETE can reach: it finds no record and answers 404.
`orphan_after_iff` says exactly which runs leave such a blob. A DELETE also promises
too much when a call raises `VoiceNotFoundError` for what is stored (`Misled`).
-/

namespace LlmTts
open Python Effect

/-- A request and the outcomes of its calls. -/
structure Request where
  op : VoiceOp
  plan : List (Outcome StoreError)

/-- A request of the voice router whose failing calls have no effect. -/
structure Request.Ordinary (r : Request) : Prop where
  handler : r.op.IsHandler
  clean : WithoutEffect r.plan

/-- The stores after a list of requests. -/
def afterRequests (s : Stores) (requests : List Request) : Stores :=
  requests.foldl (fun s r => (alone r.op r.plan s).2) s

/-- The id has a blob and no record. -/
def Orphan (s : Stores) (v : String) : Prop := s.metadata v = none ∧ s.blobs v ≠ none

/-- A DELETE of a stored voice whose record is removed and one of whose blob calls fails. -/
structure Strands (v : String) (s : Stores) (r : Request) : Prop where
  delete : r.op = .delete v
  valid : validateVoiceId v = .ok ()
  present : (s.metadata v).isSome
  stored : s.blobs v ≠ none
  dropped : Works r.plan 0
  failed : ¬(Works r.plan 1 ∧ Works r.plan 2)

/-- A POST that stores a record for an id without one, and keeps it: its blob
write works or is cancelled, or its rollback fails. -/
def Restores (v : String) (s : Stores) (r : Request) : Prop :=
  ∃ request payload data, r.op = .create request ∧
    createInput request = .ok (payload, data) ∧ payload.id = v ∧
    s.metadata v = none ∧ Works r.plan 0 ∧
    (Works r.plan 1 ∨ fault r.plan 1 = some .cancelled ∨ ¬Works r.plan 2)

/-- No request of the run stores a record for the id again. -/
def NeverRestored (v : String) : Stores → List Request → Prop
  | _, [] => True
  | s, r :: requests => ¬Restores v s r ∧ NeverRestored v (alone r.op r.plan s).2 requests

/-- Some DELETE of the run strands the blob, and no later POST restores the record. -/
def Stranded (v : String) : Stores → List Request → Prop
  | _, [] => False
  | s, r :: requests =>
    (Strands v s r ∧ NeverRestored v (alone r.op r.plan s).2 requests) ∨
      Stranded v (alone r.op r.plan s).2 requests

/-! ## One request -/

theorem restores_create_iff {v : String} {s : Stores} {request : CreateRequest}
    {plan : List (Outcome StoreError)} {payload : VoiceCreate} {data : Bytes}
    (input : createInput request = .ok (payload, data)) :
    Restores v s ⟨.create request, plan⟩ ↔
      payload.id = v ∧ s.metadata v = none ∧ Works plan 0 ∧
        (Works plan 1 ∨ fault plan 1 = some .cancelled ∨ ¬Works plan 2) := by
  constructor
  · rintro ⟨request', payload', data', same, input', id, rest⟩
    cases same
    cases input.symm.trans input'
    exact ⟨id, rest⟩
  · rintro ⟨id, rest⟩
    exact ⟨request, payload, data, rfl, input, id, rest⟩

theorem create_orphan_iff {v : String} {request : CreateRequest} {plan : List (Outcome StoreError)}
    (clean : WithoutEffect plan) (s : Stores) :
    Orphan (alone (.create request) plan s).2 v ↔
      Orphan s v ∧ ¬Restores v s ⟨.create request, plan⟩ := by
  rw [create_alone request clean]
  cases input : createInput request with
  | error e =>
    have lost : ¬Restores v s ⟨.create request, plan⟩ := by
      rintro ⟨_, _, _, same, found, -⟩
      cases same
      cases input.symm.trans found
    simp only [lost, not_false_eq_true, and_true]
  | ok accepted =>
    obtain ⟨payload, data⟩ := accepted
    rw [restores_create_iff input]
    by_cases other : payload.id = v
    · subst other
      cases first : fault plan 0 with
      | some e => simp [Works, first]
      | none =>
        cases present : s.metadata payload.id with
        | some record => simp [Orphan, present]
        | none =>
          cases second : fault plan 1 with
          | none => simp [Orphan, Works, first, second, present]
          | some e =>
            by_cases caught : e = .cancelled
            · simp [Orphan, Works, first, second, caught, present]
            · cases third : fault plan 2 with
              | none => simp [Orphan, Works, first, second, third, caught, present]
              | some e' => simp [Orphan, Works, first, second, third, caught, present]
    · have apart : v ≠ payload.id := Ne.symm other
      simp only [other, false_and, not_false_eq_true, and_true]
      split
      · rfl
      · split_ifs
        · rfl
        · split
          · simp [Orphan, apart]
          · split_ifs
            · simp [Orphan, apart]
            · split
              · rfl
              · simp [Orphan, apart]

theorem update_orphan_iff {v : String} {request : UpdateRequest} {plan : List (Outcome StoreError)}
    (clean : WithoutEffect plan) (s : Stores) :
    Orphan (alone (.update request) plan s).2 v ↔ Orphan s v := by
  rw [update_alone request clean]
  cases updateInput request with
  | error e => rfl
  | ok payload =>
    cases fault plan 0 with
    | some e => rfl
    | none =>
      cases found : s.metadata request.voiceId with
      | none => rfl
      | some existing =>
        have known : existing.id = request.voiceId := s.keyed _ _ found
        by_cases other : v = request.voiceId
        · subst other
          rcases newBlob request with e | _ | data
          · rfl
          · cases fault plan 1 <;> simp [Orphan, known, found]
          · cases fault plan 1 <;> cases fault plan 2 <;> simp [Orphan, known, found]
        · rcases newBlob request with e | _ | data
          · rfl
          · cases fault plan 1 <;> simp [Orphan, known, other]
          · cases fault plan 1 <;> cases fault plan 2 <;> simp [Orphan, known, other]

theorem delete_orphan_iff {v w : String} {plan : List (Outcome StoreError)} (clean : WithoutEffect plan)
    (s : Stores) :
    Orphan (alone (.delete w) plan s).2 v ↔ Strands v s ⟨.delete w, plan⟩ ∨ Orphan s v := by
  cases valid : validateVoiceId w with
  | error e =>
    have keeps : ¬Strands v s ⟨.delete w, plan⟩ := by
      rintro ⟨same, valid', -⟩
      cases same
      cases valid.symm.trans valid'
    have unchanged : (alone (.delete w) plan s).2 = s := delete_invalid valid
    simp only [keeps, unchanged, false_or]
  | ok _ =>
    rw [delete_alone valid clean]
    by_cases other : v = w
    · subst other
      have strands : Strands v s ⟨.delete v, plan⟩ ↔ (s.metadata v).isSome ∧ s.blobs v ≠ none ∧
          Works plan 0 ∧ ¬(Works plan 1 ∧ Works plan 2) :=
        ⟨fun h => ⟨h.present, h.stored, h.dropped, h.failed⟩,
          fun ⟨present, stored, dropped, failed⟩ => ⟨rfl, valid, present, stored, dropped, failed⟩⟩
      rw [strands, Option.isSome_iff_ne_none]
      cases first : fault plan 0 with
      | some e => simp [Works, first]
      | none =>
        by_cases absent : s.metadata v = none
        · simp [Orphan, absent]
        · cases second : fault plan 1 with
          | some e => simp [Orphan, Works, absent, first, second]
          | none =>
            by_cases gone : s.blobs v = none
            · simp [Orphan, absent, gone]
            · cases third : fault plan 2 with
              | some e => simp [Orphan, Works, absent, gone, first, second, third]
              | none => simp [Orphan, Works, absent, gone, first, second, third]
    · have keeps : ¬Strands v s ⟨.delete w, plan⟩ := fun h => other (by cases h.delete; rfl)
      simp only [keeps, false_or]
      by_cases absent : s.metadata w = none
      · cases fault plan 0 <;> simp [absent]
      · by_cases gone : s.blobs w = none
        · cases fault plan 0 <;> cases fault plan 1 <;> simp [Orphan, other, absent, gone]
        · cases fault plan 0 <;> cases fault plan 1 <;> cases fault plan 2 <;> simp [Orphan, other, absent, gone]

/-- What one request does to an orphaned blob. -/
theorem orphan_step_iff {v : String} {r : Request} (ordinary : r.Ordinary) (s : Stores) :
    Orphan (alone r.op r.plan s).2 v ↔ Strands v s r ∨ (Orphan s v ∧ ¬Restores v s r) := by
  obtain ⟨op, plan⟩ := r
  cases op with
  | create request =>
    have keeps : ¬Strands v s ⟨.create request, plan⟩ := fun strands => by cases strands.delete
    simp only [create_orphan_iff ordinary.clean, keeps, false_or]
  | update request =>
    have keeps : ¬Strands v s ⟨.update request, plan⟩ := fun strands => by cases strands.delete
    have lost : ¬Restores v s ⟨.update request, plan⟩ := by rintro ⟨_, _, _, created, -⟩; cases created
    simp only [update_orphan_iff ordinary.clean, keeps, lost, not_false_eq_true, and_true, false_or]
  | delete w =>
    have lost : ¬Restores v s ⟨.delete w, plan⟩ := by rintro ⟨_, _, _, created, -⟩; cases created
    simp only [delete_orphan_iff ordinary.clean, lost, not_false_eq_true, and_true]
  | ingest pass => cases ordinary.handler
  | resolve w => cases ordinary.handler

/-! ## Runs -/

/-- A run leaves an orphaned blob exactly when it strands one, or starts from
one, and never restores the record. -/
theorem orphan_after_iff {v : String} {s : Stores} {requests : List Request}
    (ordinary : ∀ r ∈ requests, r.Ordinary) :
    Orphan (afterRequests s requests) v ↔
      Stranded v s requests ∨ (Orphan s v ∧ NeverRestored v s requests) := by
  induction requests generalizing s with
  | nil => simp [afterRequests, Stranded, NeverRestored]
  | cons r requests ih =>
    obtain ⟨first, rest⟩ := List.forall_mem_cons.1 ordinary
    have step := orphan_step_iff first s (v := v)
    have run := ih rest (s := (alone r.op r.plan s).2)
    simp only [afterRequests, List.foldl_cons, Stranded, NeverRestored] at run ⊢
    rw [run, step]
    tauto

/-- The answers that promise that a voice is gone. -/
def Erased (v : String) (answer : VoiceEnd) : Prop :=
  answer = .ok .noContent ∨ answer = .error (.http (voiceNotFoundError v))

theorem delete_invalid_answer {v : String} {e : StoreError}
    (invalid : validateVoiceId v = .error e) {plan : List (Outcome StoreError)} {s : Stores} :
    ¬Erased v (alone (.delete v) plan s).1 := by
  simp only [alone, VoiceOp.body]
  rw [deleteVoice_eq, invalid]
  cases e <;> simp [runFaulty, Erased, voiceNotFoundError, invalidRequest, voiceError]

/-- A DELETE of a stored voice one of whose calls says, wrongly, that the record or the
blob is missing. -/
def Misled (v : String) (plan : List (Outcome StoreError)) (s : Stores) : Prop :=
  (s.metadata v).isSome ∧ s.blobs v ≠ none ∧ ∃ n < 3, (∀ m < n, Works plan m) ∧
    ∃ w, fault plan n = some (.voiceNotFound w)

theorem not_misled {v : String} {plan : List (Outcome StoreError)} (works : ∀ n < 3, Works plan n) (s : Stores) :
    ¬Misled v plan s := by
  rintro ⟨-, -, n, below, -, w, fails⟩
  rw [works n below] at fails
  cases fails

theorem erased_deleteFailed_iff {v : String} {e : StoreError} :
    Erased v (deleteFailed e) ↔ ∃ w, e = .voiceNotFound w := by
  cases e <;> simp [Erased, deleteFailed]

theorem erased_lookupError_iff {v : String} {e : StoreError} :
    Erased v (.error (lookupError v e)) ↔ ∃ w, e = .voiceNotFound w := by
  cases e <;> simp [Erased, lookupError]

/-- A DELETE that promises the voice is gone has left its blob exactly when it
found it without a record or was misled. -/
theorem erased_blob_iff {v : String} {plan : List (Outcome StoreError)} (clean : WithoutEffect plan) {s : Stores}
    (erased : Erased v (alone (.delete v) plan s).1) :
    (alone (.delete v) plan s).2.blobs v = none ↔ ¬(Orphan s v ∨ Misled v plan s) := by
  cases valid : validateVoiceId v with
  | error e =>
    exact absurd erased (delete_invalid_answer valid)
  | ok _ =>
    rw [delete_alone valid clean] at erased ⊢
    by_cases gone : s.blobs v = none
    · simp only [Orphan, Misled, gone, ne_eq, not_true_eq_false, and_false, false_and, or_false,
        not_false_eq_true, iff_true]
      cases fault plan 0 with
      | some e => exact gone
      | none => cases fault plan 1 <;> split_ifs <;> simp [gone]
    by_cases absent : s.metadata v = none
    · simp only [absent, if_true] at erased ⊢
      cases fault plan 0 <;> simp [Orphan, absent, gone]
    have present : (s.metadata v).isSome := Option.isSome_iff_ne_none.2 absent
    cases first : fault plan 0 with
    | some e =>
      rw [first] at erased
      obtain ⟨w, rfl⟩ := erased_lookupError_iff.1 erased
      have misled : Misled v plan s := ⟨present, gone, 0, by omega, by omega, w, first⟩
      simp [gone, misled]
    | none =>
      simp only [first, if_neg absent] at erased ⊢
      have one : ∀ n < 1, Works plan n := fun n below => by rwa [Nat.lt_one_iff.1 below]
      cases second : fault plan 1 with
      | some e =>
        rw [second] at erased
        obtain ⟨w, rfl⟩ := erased_deleteFailed_iff.1 erased
        have misled : Misled v plan s := ⟨present, gone, 1, by omega, one, w, second⟩
        simp [gone, misled]
      | none =>
        simp only [second, if_neg gone] at erased ⊢
        have two : ∀ n < 2, Works plan n := Nat.forall_lt_succ_right.2 ⟨one, second⟩
        cases third : fault plan 2 with
        | some e =>
          rw [third] at erased
          obtain ⟨w, rfl⟩ := erased_deleteFailed_iff.1 erased
          have misled : Misled v plan s := ⟨present, gone, 2, by omega, two, w, third⟩
          simp [gone, misled]
        | none =>
          have heard : ¬Misled v plan s := not_misled (Nat.forall_lt_succ_right.2 ⟨two, third⟩) s
          simp [Orphan, absent, heard]

/-- **Erasure.** A DELETE that answers 204 or `voice_not_found` has erased the blob
exactly when it was not misled and no earlier DELETE stranded the blob, unless a POST has
restored the record. -/
theorem delete_erases_iff {v : String} {s : Stores} {requests : List Request} {plan : List (Outcome StoreError)}
    (ordinary : ∀ r ∈ requests, r.Ordinary) (clean : WithoutEffect plan)
    (erased : Erased v (alone (.delete v) plan (afterRequests s requests)).1) :
    (alone (.delete v) plan (afterRequests s requests)).2.blobs v = none ↔
      ¬((Stranded v s requests ∨ (Orphan s v ∧ NeverRestored v s requests)) ∨
        Misled v plan (afterRequests s requests)) := by
  rw [erased_blob_iff clean erased, orphan_after_iff ordinary]

/-- A DELETE that failed at its first call is made good by a second one. -/
theorem delete_erases_retried :
    (alone (.delete "ada") [] (afterRequests (Stores.oneVoice (plainRecord "ada" .crud) [1])
      [⟨.delete "ada", [.raises .other]⟩])).2.blobs "ada" = none := by
  refine (delete_erases_iff ?_ withoutEffect_nil (.inl rfl)).2 ?_
  · exact List.forall_mem_singleton.2 ⟨trivial, by simp [WithoutEffect, Outcome.Prompt]⟩
  · rintro (((⟨strands, -⟩ | nothing) | ⟨⟨absent, -⟩, -⟩) | ⟨-, -, n, -, -, w, fails⟩)
    · exact absurd strands.dropped (by decide)
    · exact nothing
    · exact absurd absent (by decide)
    · cases fails

/-- A DELETE whose blob lookup fails leaves a blob behind, and the DELETE that
retries it answers `voice_not_found`. -/
theorem delete_leaves_blob :
    ¬∀ (v : String) (s : Stores) (requests : List Request) (plan : List (Outcome StoreError)), s.Agree →
      (∀ r ∈ requests, r.Ordinary) → WithoutEffect plan →
      Erased v (alone (.delete v) plan (afterRequests s requests)).1 →
      (alone (.delete v) plan (afterRequests s requests)).2.blobs v = none := by
  intro claim
  have gone := claim "ada" (Stores.oneVoice (plainRecord "ada" .crud) [1])
    [⟨.delete "ada", [.works, .raises .other]⟩] [] (Stores.oneVoice_agree _ _)
    (List.forall_mem_singleton.2 ⟨trivial, by simp [WithoutEffect, Outcome.Prompt]⟩) withoutEffect_nil
    (.inr rfl)
  exact absurd gone (by decide)

end LlmTts
