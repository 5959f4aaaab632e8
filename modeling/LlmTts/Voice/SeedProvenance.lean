import LlmTts.Voice.Moves

/-!
# Seed passes and the voices of the router

A pass looks a voice up, writes its blob and creates its record in three steps.
It never writes the record of a voice that exists; `seed_spares_crud` gives the
steps of other requests that have to be excluded for it never to write the blob
of one either.
-/

namespace LlmTts
open Python Effect

/-- The id has a record that a POST created. -/
def Crud (s : Stores) (v : String) : Prop :=
  ∃ record, s.metadata v = some record ∧ record.source = .crud

theorem crud_of_source {s : Stores} {v : String}
    (source : (s.metadata v).map (·.source) = some .crud) : Crud s v :=
  Option.map_eq_some_iff.1 source

/-- The request is an ingestion pass. -/
def IsPass (task : VoiceTask) : Prop :=
  match task.tag with
  | .ingest _ => True
  | _ => False

instance : DecidablePred IsPass := fun ⟨tag, _⟩ => by
  induction tag using VoiceOp.casesOn <;> first | exact isFalse not_false | exact isTrue trivial

/-- A pass has found no record of `v` and is about to write its blob. -/
def SeedWrites (v : String) (task : VoiceTask) : Prop :=
  match task.tag, task.prog.next? with
  | .ingest _, some (.blobPut w _) => w = v
  | _, _ => False

instance (v : String) : DecidablePred (SeedWrites v) := fun ⟨tag, prog⟩ => by
  induction prog using Prog.casesOn with
  | ret => induction tag using VoiceOp.casesOn <;> exact isFalse not_false
  | call c k =>
    induction tag using VoiceOp.casesOn <;> induction c using StoreCall.casesOn <;>
      first | exact isFalse not_false | exact decEq _ v

/-- A record with source `crud` is stored by a POST, or by a PUT that read it
before, only when no pass is between its lookup of the id and its blob write. -/
def Timely (p : VoicePool) (_ : Nat) (task : VoiceTask) : Prop :=
  match task.tag, task.prog.next? with
  | .create _, some (.metaCreate record) =>
    p.store.metadata record.id = none → ¬p.Has (SeedWrites record.id)
  | .update _, some (.metaUpdate record) =>
    record.source = .crud → p.store.metadata record.id ≠ none → ¬p.Has (SeedWrites record.id)
  | _, _ => True

instance (p : VoicePool) (i : Nat) (task : VoiceTask) : Decidable (Timely p i task) := by
  induction task using Effect.Task.casesOn with | mk tag prog =>
  induction prog using Prog.casesOn with
  | ret => induction tag using VoiceOp.casesOn <;> exact isTrue trivial
  | call c k =>
    induction tag using VoiceOp.casesOn <;> induction c using StoreCall.casesOn <;>
      dsimp only [Timely, Prog.next?] <;> infer_instance

/-! ## One call -/

theorem ingestEntries_idle (pass : SeedPass) (entries : List ParsedSeedEntry) (created : Nat)
    (v : String) : ¬SeedWrites v ⟨.ingest pass, ingestEntries pass entries created⟩ := by
  cases entries with
  | nil => exact id
  | cons entry entries =>
    rw [ingestEntries_cons]
    exact id

theorem body_idle (op : VoiceOp) (v : String) : ¬SeedWrites v ⟨op, op.body⟩ := by
  cases op with
  | ingest pass =>
    obtain ⟨r, ended⟩ | ⟨entries, -, begun⟩ := ingestOnce_eq pass
    · simp only [VoiceOp.body, ended]
      exact id
    · simp only [VoiceOp.body, begun]
      exact ingestEntries_idle pass entries 0 v
  | _ => exact id

section Call

variable {s s' : Stores} {op : VoiceOp} {c : StoreCall} {k : c.Reply → StoreProg VoiceEnd}
  {prog : StoreProg VoiceEnd} {v : String}

/-- A pass comes to a blob write only where there is no record. -/
theorem absent_before_write (moves : Moves s op c s' prog) (writes : SeedWrites v ⟨op, prog⟩) :
    s'.metadata v = none := by
  cases moves with
  | ingestAbsent absent =>
    cases writes
    exact absent
  | ingestPresent present => exact absurd writes (ingestEntries_idle _ _ _ v)
  | ingestCreated absent seed => exact absurd writes (ingestEntries_idle _ _ _ v)
  | _ => exact absurd writes id

/-- Only a POST or a PUT makes a record a `crud` one. -/
theorem crud_after (moves : Moves s op c s' prog) (crud : Crud s' v) :
    Crud s v ∨
    (∃ request record, op = .create request ∧ c = .metaCreate record ∧ record.id = v ∧
      s.metadata v = none) ∨
    ∃ request record, op = .update request ∧ c = .metaUpdate record ∧ record.id = v ∧
      record.source = .crud ∧ s.metadata v ≠ none := by
  obtain ⟨r, stored, source⟩ := crud
  cases moves <;> simp_all [Crud] <;> grind [VoiceRecord.settled_source]

/-- A call of a pass that is not the blob write of `v` spares a `crud` voice `v`. -/
theorem seed_call_spares {pass : SeedPass} (moves : Moves s (.ingest pass) c s' prog)
    (crud : Crud s v) (idle : ¬SeedWrites v ⟨.ingest pass, .call c k⟩) :
    s'.metadata v = s.metadata v ∧ s'.blobs v = s.blobs v := by
  obtain ⟨r, stored, source⟩ := crud
  cases moves <;> simp_all [SeedWrites] <;> grind

end Call

/-! ## Runs -/

/-- No pass is about to write the blob of a `crud` voice. -/
structure Untouched (p : VoicePool) : Prop where
  listed : Listed p
  spared : ∀ v, Crud p.store v → ¬p.Has (SeedWrites v)

theorem untouched_step {p q : VoicePool} {a : Act VoiceOp} (untouched : Untouched p)
    (timely : Pool.Before Timely p a) (taken : voiceStep p a = some q) : Untouched q := by
  refine ⟨listed_step untouched.listed taken, fun v crud writes => ?_⟩
  obtain ⟨op, -, rfl⟩ | ⟨i, op, c, k, s, prog, rfl, found, moves, rfl⟩ :=
    voiceStep_cases untouched.listed taken
  · rcases Pool.has_of_spawn writes with new | old
    · exact body_idle op v new
    · exact untouched.spared v crud old
  · rcases Pool.has_of_set writes with new | old
    · obtain ⟨r, stored, -⟩ := crud
      cases stored.symm.trans (absent_before_write moves new)
    · obtain before | ⟨request, record, rfl, rfl, rfl, absent⟩ |
        ⟨request, record, rfl, rfl, rfl, source, present⟩ := crud_after moves crud
      · exact untouched.spared v before old
      · exact timely _ found absent old
      · exact timely _ found source present old

/-- **Seed passes spare `crud` voices.** In a run whose `crud` records are stored
in time, no step of a pass changes the record or the blob of a `crud` voice. -/
theorem seed_spares_crud {s : Stores} {acts : List (Act VoiceOp)} {p q : VoicePool} {i : Nat}
    {task : VoiceTask} {v : String}
    (timely : Transition.Guarded voiceStep (Pool.Before Timely) ⟨s, []⟩ acts)
    (run : Transition.runs voiceStep ⟨s, []⟩ acts = some p)
    (found : p.tasks[i]? = some task) (pass : IsPass task) (crud : Crud p.store v)
    (taken : voiceStep p (.step i) = some q) :
    q.store.metadata v = p.store.metadata v ∧ q.store.blobs v = p.store.blobs v := by
  have untouched : Untouched p := by
    refine Transition.guarded_inv (fun p a q => untouched_step) ⟨by simp [Listed], ?_⟩ timely run
    rintro v - ⟨j, task, found, -⟩
    cases found
  obtain ⟨op, acted, -⟩ | ⟨j, op, c, k, s, next, acted, found', moves, rfl⟩ :=
    voiceStep_cases untouched.listed taken
  · cases acted
  · cases acted
    cases found.symm.trans found'
    cases op with
    | ingest pass =>
      exact seed_call_spares (k := k) moves crud fun writes =>
        untouched.spared v crud ⟨i, _, found, writes⟩
    | _ => exact pass.elim

/-- A POST for `ada` that is over before a pass looks the voice up. The pass goes on to
`bob`, which it finds missing, and comes to the write of his blob. -/
def postThenSeed : List (Act VoiceOp) :=
  [.spawn (.create (plainCreate 1)), .step 0, .step 0,
    .spawn (.ingest (plainPass fun _ => .data [7])), .step 1, .step 1]

theorem postThenSeed_spares :
    ∃ q, voiceStep (Transition.final voiceStep ⟨Stores.empty, []⟩ postThenSeed) (.step 1) = some q ∧
      q.store.blobs "bob" = some [7] ∧ (q.store.blobs "ada").isSome := by
  have run := Transition.runs_final voiceStep ⟨.empty, []⟩ postThenSeed
    (by decide +kernel)
  generalize reached : Transition.final voiceStep ⟨Stores.empty, []⟩ postThenSeed = p at run ⊢
  obtain ⟨task, found⟩ := Option.isSome_iff_exists.1
    (show p.tasks[1]?.isSome by rw [← reached]; decide +kernel)
  obtain ⟨q, taken⟩ := Option.isSome_iff_exists.1
    (show (voiceStep p (.step 1)).isSome by rw [← reached]; decide +kernel)
  have passes : ∀ task ∈ p.tasks[1]?, IsPass task := by rw [← reached]; decide +kernel
  have crud : Crud p.store "ada" := crud_of_source (by rw [← reached]; decide +kernel)
  have written : ∀ q ∈ voiceStep p (.step 1), q.store.blobs "bob" = some [7] := by
    rw [← reached]
    decide +kernel
  have spared := seed_spares_crud (by decide +kernel) run found (passes task found) crud taken
  refine ⟨q, taken, written q taken, ?_⟩
  rw [spared.2, ← reached]
  decide +kernel

/-- The same POST, run between the lookup of a pass and its blob write. -/
def postInsideSeed : List (Act VoiceOp) :=
  [.spawn (.ingest (plainPass fun _ => .data [7])), .step 0,
    .spawn (.create (plainCreate 1)), .step 1, .step 1]

/-- A pass overwrites the blob of a voice that a POST created after its lookup. -/
theorem seed_overwrites_crud :
    ¬∀ (s : Stores) (acts : List (Act VoiceOp)) (p q : VoicePool) (i : Nat) (task : VoiceTask)
      (v : String), Transition.runs voiceStep ⟨s, []⟩ acts = some p → p.tasks[i]? = some task →
      IsPass task → Crud p.store v → voiceStep p (.step i) = some q →
      q.store.metadata v = p.store.metadata v ∧ q.store.blobs v = p.store.blobs v := by
  intro claim
  have run := Transition.runs_final voiceStep ⟨.empty, []⟩ postInsideSeed
    (by decide +kernel)
  generalize reached : Transition.final voiceStep ⟨Stores.empty, []⟩ postInsideSeed = p at run
  obtain ⟨task, found⟩ := Option.isSome_iff_exists.1
    (show p.tasks[0]?.isSome by rw [← reached]; decide +kernel)
  obtain ⟨q, taken⟩ := Option.isSome_iff_exists.1
    (show (voiceStep p (.step 0)).isSome by rw [← reached]; decide +kernel)
  have passes : ∀ task ∈ p.tasks[0]?, IsPass task := by rw [← reached]; decide +kernel
  have crud : Crud p.store "ada" := crud_of_source (by rw [← reached]; decide +kernel)
  have changed : ∀ q ∈ voiceStep p (.step 0), q.store.blobs "ada" ≠ p.store.blobs "ada" := by
    rw [← reached]
    decide +kernel
  have spared := claim .empty postInsideSeed p q 0 task "ada" run found (passes task found) crud taken
  exact changed q taken spared.2

end LlmTts
