import LlmTts.Voice.Moves

/-!
# The two stores agree

Any number of requests run together and each repository call is one atomic
step. The ids with a record and the ids with a blob can differ while a request
is in progress; `quiescent_agree` gives the steps that have to be excluded for
them to be the same again when every request has ended.
-/

namespace LlmTts
open Python Effect

/-! ## Requests that will mend a difference -/

/-- The next call of the request writes the blob of `v`. -/
def Fills (v : String) (task : VoiceTask) : Prop :=
  match task.prog.next? with
  | some (.blobPut w _) => w = v
  | _ => False

/-- The request is about to erase the blob of `v`, or to create the record of `v`. -/
def Settles (v : String) (task : VoiceTask) : Prop :=
  match task.tag, task.prog.next? with
  | .delete _, some (.blobExists w) | .delete _, some (.blobDelete w) => w = v
  | .create _, some (.metaCreate record) | .ingest _, some (.metaCreate record) => record.id = v
  | .ingest _, some (.blobPut w _) => w = v
  | _, _ => False

instance (v : String) : DecidablePred (Fills v) := fun ⟨_, prog⟩ => by
  induction prog using Prog.casesOn with
  | ret => exact isFalse not_false
  | call c k =>
    induction c using StoreCall.casesOn <;>
      first | exact isFalse not_false | exact decEq _ v

instance (v : String) : DecidablePred (Settles v) := fun ⟨tag, prog⟩ => by
  induction prog using Prog.casesOn with
  | ret => induction tag using VoiceOp.casesOn <;> exact isFalse not_false
  | call c k =>
    induction tag using VoiceOp.casesOn <;> induction c using StoreCall.casesOn <;>
      first | exact isFalse not_false | exact decEq _ v

/-- A call that may part the two stores is made only while another request is
about to mend the difference:
* a POST or PUT writes the blob of an id whose record has been deleted;
* a DELETE erases the blob of an id that has a record again;
* a pass creates the record of an id whose blob has been erased. -/
def Mended (p : VoicePool) (_ : Nat) (task : VoiceTask) : Prop :=
  match task.tag, task.prog.next? with
  | .create _, some (.blobPut v _) | .update _, some (.blobPut v _) =>
    p.store.metadata v = none → p.Has (Settles v)
  | .delete _, some (.blobDelete v) =>
    p.store.metadata v ≠ none → p.store.blobs v ≠ none → p.Has (Fills v)
  | .ingest _, some (.metaCreate record) =>
    p.store.metadata record.id = none → p.store.blobs record.id = none → p.Has (Fills record.id)
  | _, _ => True

instance (p : VoicePool) (i : Nat) (task : VoiceTask) : Decidable (Mended p i task) := by
  induction task using Effect.Task.casesOn with | mk tag prog =>
  induction prog using Prog.casesOn with
  | ret => induction tag using VoiceOp.casesOn <;> exact isTrue trivial
  | call c k =>
    induction tag using VoiceOp.casesOn <;> induction c using StoreCall.casesOn <;>
      dsimp only [Mended, Prog.next?] <;> infer_instance

/-- What holds between the two stores at any time. -/
structure Accounted (p : VoicePool) : Prop where
  listed : Listed p
  /-- A blob without a record will be erased, or get one. -/
  stray : ∀ v, p.store.metadata v = none → p.store.blobs v ≠ none → p.Has (Settles v)
  /-- A record without a blob will get one. -/
  bare : ∀ v, p.store.metadata v ≠ none → p.store.blobs v = none → p.Has (Fills v)

/-! ## One call -/

/-- A call after which `v` has a blob and no record: the request will settle
that itself, or it was so before and the request was not about to settle it, or
the call is the late blob write of a POST or PUT. -/
theorem stray_after {s s' : Stores} {op : VoiceOp} {c : StoreCall} {k : c.Reply → StoreProg VoiceEnd}
    {prog : StoreProg VoiceEnd} (moves : Moves s op c s' prog) {v : String}
    (absent : s'.metadata v = none) (stored : s'.blobs v ≠ none) :
    Settles v ⟨op, prog⟩ ∨
    (s.metadata v = none ∧ s.blobs v ≠ none ∧ ¬Settles v ⟨op, .call c k⟩) ∨
    (s.metadata v = none ∧ ¬Settles v ⟨op, .call c k⟩ ∧
      ((∃ request data, op = .create request ∧ c = .blobPut v data) ∨
        ∃ request data, op = .update request ∧ c = .blobPut v data)) := by
  cases moves <;> simp_all [Settles] <;> grind

/-- A call after which `v` has a record and no blob: the request will write the
blob itself, or it was so before and the request was not about to write it, or the
call is a late erasure, or the late record of a pass. -/
theorem bare_after {s s' : Stores} {op : VoiceOp} {c : StoreCall} {k : c.Reply → StoreProg VoiceEnd}
    {prog : StoreProg VoiceEnd} (moves : Moves s op c s' prog) {v : String}
    (present : s'.metadata v ≠ none) (gone : s'.blobs v = none) :
    Fills v ⟨op, prog⟩ ∨
    (s.metadata v ≠ none ∧ s.blobs v = none ∧ ¬Fills v ⟨op, .call c k⟩) ∨
    (¬Fills v ⟨op, .call c k⟩ ∧
      ((∃ w, op = .delete w ∧ c = .blobDelete v ∧ s.metadata v ≠ none ∧ s.blobs v ≠ none) ∨
        ∃ pass record, op = .ingest pass ∧ c = .metaCreate record ∧ record.id = v ∧
          s.metadata v = none ∧ s.blobs v = none)) := by
  cases moves <;> simp_all [Fills] <;> grind

/-! ## Runs -/

/-- A guarded step keeps the account of the differences. -/
theorem accounted_step {p q : VoicePool} {a : Act VoiceOp} (accounted : Accounted p)
    (mended : Pool.Before Mended p a) (taken : voiceStep p a = some q) : Accounted q := by
  have listed := listed_step accounted.listed taken
  obtain ⟨op, -, rfl⟩ | ⟨i, op, c, k, s, prog, rfl, found, moves, rfl⟩ :=
    voiceStep_cases accounted.listed taken
  · exact ⟨listed, fun v absent stored => Pool.has_spawn (accounted.stray v absent stored),
      fun v present gone => Pool.has_spawn (accounted.bare v present gone)⟩
  · have other := mended _ found
    refine ⟨listed, fun v absent stored => ?_, fun v present gone => ?_⟩
    · obtain settles | ⟨before, kept, idle⟩ | ⟨before, idle, late⟩ := stray_after (k := k) moves absent stored
      · exact Pool.has_set_self found settles
      · exact Pool.has_set found (accounted.stray v before kept) fun was => absurd was idle
      · have settled : p.Has (Settles v) := by
          obtain ⟨request, data, rfl, rfl⟩ | ⟨request, data, rfl, rfl⟩ := late
          · exact other before
          · exact other before
        exact Pool.has_set found settled fun was => absurd was idle
    · obtain fills | ⟨before, kept, idle⟩ | ⟨idle, late⟩ := bare_after (k := k) moves present gone
      · exact Pool.has_set_self found fills
      · exact Pool.has_set found (accounted.bare v before kept) fun was => absurd was idle
      · have filled : p.Has (Fills v) := by
          obtain ⟨w, rfl, rfl, before, stored⟩ | ⟨pass, record, rfl, rfl, rfl, before, erased⟩ := late
          · exact other before stored
          · exact other before erased
        exact Pool.has_set found filled fun was => absurd was idle

theorem accounted_agree {p : VoicePool} (accounted : Accounted p) (quiescent : p.Quiescent) :
    p.store.Agree := by
  intro v
  have ended : ∀ P : VoiceTask → Prop, (∀ task, P task → task.prog.next? ≠ none) → ¬p.Has P := by
    rintro P busy ⟨j, task, found, holds⟩
    exact busy task holds (quiescent task (List.mem_of_getElem? found))
  cases record : p.store.metadata v with
  | none =>
    cases blob : p.store.blobs v with
    | none => rfl
    | some data =>
      refine absurd (accounted.stray v record (by simp [blob])) (ended _ fun task settles idle => ?_)
      unfold Settles at settles
      rw [idle] at settles
      split at settles <;> simp_all
  | some r =>
    cases blob : p.store.blobs v with
    | some data => rfl
    | none =>
      refine absurd (accounted.bare v (by simp [record]) blob) (ended _ fun task fills idle => ?_)
      simp only [Fills, idle] at fills

/-- **Agreement.** From stores that agree, a run in which every step that parts
them is mended ends, once every request has ended, in stores that agree. -/
theorem quiescent_agree {s : Stores} {acts : List (Act VoiceOp)} {p : VoicePool} (agree : s.Agree)
    (mended : Transition.Guarded voiceStep (Pool.Before Mended) ⟨s, []⟩ acts)
    (run : Transition.runs voiceStep ⟨s, []⟩ acts = some p) (quiescent : p.Quiescent) :
    p.store.Agree := by
  refine accounted_agree (Transition.guarded_inv (fun p a q => accounted_step) ?_ mended run) quiescent
  refine ⟨by simp [Listed], fun v absent stored => ?_, fun v present gone => ?_⟩
  · have differ := agree v
    simp_all
  · have differ := agree v
    simp_all

/-- A PUT whose blob write falls between the two removals of a DELETE: the
DELETE erases the new blob, and the PUT finds no record to update. -/
def updateInsideDelete : List (Act VoiceOp) :=
  [.spawn (.create (plainCreate 1)), .step 0, .step 0, .spawn (.update (plainUpdate 2)), .step 1,
    .spawn (.delete "ada"), .step 2, .step 1, .step 2, .step 2, .step 1]

theorem updateInsideDelete_agree :
    ∃ p, Transition.runs voiceStep ⟨Stores.empty, []⟩ updateInsideDelete = some p ∧
      p.store.Agree := by
  have seen : (Transition.runs voiceStep ⟨Stores.empty, []⟩ updateInsideDelete).map (fun p =>
      p.tasks.all (·.prog.next?.isNone)) = some true := by
    decide +kernel
  obtain ⟨p, run, ended⟩ := Option.map_eq_some_iff.1 seen
  simp only [List.all_eq_true, Option.isNone_iff_eq_none] at ended
  exact ⟨p, run, quiescent_agree (fun _ => rfl) (by decide +kernel) run ended⟩

/-- A DELETE that runs between the two writes of a POST. -/
def deleteInsidePost : List (Act VoiceOp) :=
  [.spawn (.create (plainCreate 1)), .step 0, .spawn (.delete "ada"), .step 1, .step 1, .step 0]

/-- A DELETE between the two writes of a POST leaves a blob without a record. -/
theorem quiescent_disagree :
    ¬∀ (s : Stores) (acts : List (Act VoiceOp)) (p : VoicePool), s.Agree →
      Transition.runs voiceStep ⟨s, []⟩ acts = some p → p.Quiescent → p.store.Agree := by
  intro claim
  have seen : (Transition.runs voiceStep ⟨Stores.empty, []⟩ deleteInsidePost).map (fun p =>
      ((p.store.metadata "ada").isSome, (p.store.blobs "ada").isSome,
        p.tasks.all (·.prog.next?.isNone))) = some (false, true, true) := by
    decide +kernel
  obtain ⟨p, run, seen⟩ := Option.map_eq_some_iff.1 seen
  simp only [Prod.mk.injEq, List.all_eq_true, Option.isNone_iff_eq_none] at seen
  have agree := claim Stores.empty deleteInsidePost p (fun _ => rfl) run seen.2.2 "ada"
  rw [seen.1, seen.2.1] at agree
  cases agree

end LlmTts
