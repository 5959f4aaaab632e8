import LlmTts.Voice.Moves

/-!
# Where a record comes from

`source` and `created_at` of a stored record against the latest successful `create`
of its id, which is recorded next to the stores. A PUT copies the two from the record
it has read; `provenance_iff` says which of its writes have to be excluded.
-/

namespace LlmTts
open Python Effect

/-- What the `create` of a record fixes. -/
def VoiceRecord.provenance (record : VoiceRecord) : VoiceSource × DateTime := (record.source, record.createdAt)

/-- The stores, and the provenance of the latest successful `create` of each id. -/
structure Registered where
  stores : Stores
  created : String → Option (VoiceSource × DateTime)

namespace Registered

/-- The stored records were created as they are. -/
def initial (s : Stores) : Registered := ⟨s, fun v => (s.metadata v).map VoiceRecord.provenance⟩

/-- The state after the call `c`, which led to `stores`. A `create` stores its record
where there is none. -/
def after (w : Registered) (c : StoreCall) (stores : Stores) : Registered where
  stores := stores
  created := match c with
    | .metaCreate record =>
      if (w.stores.metadata record.id).isSome then w.created
      else Function.update w.created record.id (some record.provenance)
    | _ => w.created

def exec (w : Registered) (c : StoreCall) : c.Reply × Registered :=
  ((w.stores.exec c).1, w.after c (w.stores.exec c).2)

/-- Every stored record has the provenance of the latest `create` of its id. -/
def Genuine (w : Registered) : Prop :=
  ∀ v record, w.stores.metadata v = some record → w.created v = some record.provenance

end Registered

/-- Requests in progress over registered stores. -/
abbrev RegisteredPool : Type := Pool Registered VoiceOp StoreCall StoreCall.Reply VoiceEnd

def registeredStep : RegisteredPool → Act VoiceOp → Option RegisteredPool :=
  Pool.step VoiceOp.body fun _ => Registered.exec

/-- A PUT writes over a record only if that has the provenance of the one it has read. -/
def Faithful (p : RegisteredPool) (_ : Nat) (task : VoiceTask) : Prop :=
  match task.prog.next? with
  | some (.metaUpdate record) =>
    ∀ stored ∈ p.store.stores.metadata record.id, stored.provenance = record.provenance
  | _ => True

instance (p : RegisteredPool) (i : Nat) (task : VoiceTask) : Decidable (Faithful p i task) := by
  induction task using Effect.Task.casesOn with | mk tag prog =>
  induction prog using Prog.casesOn with
  | ret => exact isTrue trivial
  | call c k =>
    induction c using StoreCall.casesOn <;> dsimp only [Faithful, Prog.next?] <;> infer_instance

theorem registeredStep_cases {p q : RegisteredPool} {a : Act VoiceOp}
    (listed : ∀ task ∈ p.tasks, At task.tag task.prog) (taken : registeredStep p a = some q) :
    (∃ op, a = .spawn op ∧ q = { p with tasks := p.tasks ++ [⟨op, op.body⟩] }) ∨
    ∃ i op c k s prog, a = .step i ∧ p.tasks[i]? = some ⟨op, .call c k⟩ ∧
      Moves p.store.stores op c s prog ∧
      q = { store := p.store.after c s, tasks := p.tasks.set i ⟨op, prog⟩ } := by
  obtain spawned | ⟨i, op, c, k, acted, found, rfl⟩ := Pool.step_cases taken
  · exact .inl spawned
  · have located := listed _ (List.mem_of_getElem? found)
    exact .inr ⟨i, op, c, k, _, _, acted, found, (At.moves located p.store.stores).1, rfl⟩

theorem registered_listed {p q : RegisteredPool} {a : Act VoiceOp}
    (listed : ∀ task ∈ p.tasks, At task.tag task.prog) (taken : registeredStep p a = some q) :
    ∀ task ∈ q.tasks, At task.tag task.prog := by
  have run : Transition.runs registeredStep p [a] = some q := Transition.runs_cons_iff.2 ⟨q, taken, rfl⟩
  exact Pool.tasks_inv At.start (fun _ w _ _ _ located => (At.moves located w.stores).2) listed run

namespace Registered

variable {w : Registered} {record : VoiceRecord}

/-- A `create` that stores its record. -/
theorem genuine_create (genuine : w.Genuine) (absent : w.stores.metadata record.id = none) :
    (w.after (.metaCreate record) (w.stores.setRecord record)).Genuine := by
  intro v stored found
  have fresh : (w.after (.metaCreate record) (w.stores.setRecord record)).created =
      Function.update w.created record.id (some record.provenance) := by
    simp [after, absent]
  rw [fresh, Function.update_apply]
  change (w.stores.setRecord record).metadata v = some stored at found
  rw [Stores.metadata_setRecord] at found
  split at found
  · rename_i here
    cases found
    rw [if_pos here]
    rfl
  · rename_i other
    rw [if_neg other]
    exact genuine v stored found

/-- A `create` that finds a record. -/
theorem genuine_taken (genuine : w.Genuine) (present : (w.stores.metadata record.id).isSome) :
    (w.after (.metaCreate record) w.stores).Genuine := by
  intro v stored found
  have same : (w.after (.metaCreate record) w.stores).created = w.created := if_pos present
  rw [same]
  exact genuine v stored found

/-- An `update` keeps the provenance only if it is that of the stored record. -/
theorem genuine_update (genuine : w.Genuine) (present : (w.stores.metadata record.id).isSome) :
    (w.after (.metaUpdate record) (w.stores.setRecord record)).Genuine ↔
      ∀ stored ∈ w.stores.metadata record.id, stored.provenance = record.provenance := by
  obtain ⟨stored, there⟩ := Option.isSome_iff_exists.1 present
  have before := genuine record.id stored there
  constructor
  · intro after other found
    cases there.symm.trans found
    have now := after record.id record.settled (by
      show (w.stores.setRecord record).metadata record.id = some record.settled
      rw [Stores.metadata_setRecord, if_pos rfl])
    exact Option.some.inj (before.symm.trans now)
  · intro faithful v other found
    change (w.stores.setRecord record).metadata v = some other at found
    show w.created v = some other.provenance
    rw [Stores.metadata_setRecord] at found
    split at found
    · rename_i here
      cases found
      rw [here, before, faithful stored there]
      rfl
    · exact genuine v other found

end Registered

section Call

variable {w : Registered} {s : Stores} {op : VoiceOp} {c : StoreCall} {prog : StoreProg VoiceEnd}

/-- Only an `update` can give a stored record another provenance. -/
theorem genuine_after_iff (moves : Moves w.stores op c s prog) (genuine : w.Genuine) :
    (w.after c s).Genuine ↔ ∀ record, c = .metaUpdate record →
      ∀ stored ∈ w.stores.metadata record.id, stored.provenance = record.provenance := by
  by_cases updates : ∃ record, c = .metaUpdate record
  · obtain ⟨record, rfl⟩ := updates
    have one : (∀ other, StoreCall.metaUpdate record = .metaUpdate other →
        ∀ stored ∈ w.stores.metadata other.id, stored.provenance = other.provenance) ↔
        ∀ stored ∈ w.stores.metadata record.id, stored.provenance = record.provenance := by
      constructor
      · exact fun all => all record rfl
      · rintro faithful other ⟨⟩
        exact faithful
    rw [one]
    cases moves with
    | updateSaved r present => exact Registered.genuine_update genuine present
    | updateLost r absent =>
      refine iff_of_true genuine ?_
      rw [absent]
      intro stored found
      cases found
  · refine iff_of_true ?_ fun record same => absurd ⟨record, same⟩ updates
    cases moves with
    | createTaken r present => exact Registered.genuine_taken genuine present
    | ingestTaken r present => exact Registered.genuine_taken genuine present
    | created absent => exact Registered.genuine_create genuine absent
    | ingestCreated absent => exact Registered.genuine_create genuine absent
    | updateSaved | updateLost => exact absurd ⟨_, rfl⟩ updates
    | deleteDropped =>
      intro v record found
      change (w.stores.dropRecord _).metadata v = some record at found
      rw [Stores.metadata_dropRecord] at found
      split at found
      · cases found
      · exact genuine v record found
    | _ => exact genuine

end Call

/-! ## Runs -/

theorem genuine_step {p q : RegisteredPool} {a : Act VoiceOp} (listed : ∀ task ∈ p.tasks, At task.tag task.prog)
    (genuine : p.store.Genuine) (taken : registeredStep p a = some q) :
    q.store.Genuine ↔ Pool.Before Faithful p a := by
  obtain ⟨op, rfl, rfl⟩ | ⟨i, op, c, k, s, prog, rfl, found, moves, rfl⟩ := registeredStep_cases listed taken
  · exact iff_of_true genuine trivial
  · rw [genuine_after_iff moves genuine]
    simp only [Pool.Before, found, Option.mem_def, Option.some.injEq, forall_eq', Faithful, Prog.next?_call]
    constructor
    · intro faithful
      split
      · rename_i record same
        exact faithful record (Option.some.inj same)
      · trivial
    · rintro faithful record rfl
      exact faithful

/-- **Provenance.** The runs in which every stored record has, at any time, the source
and the creation time of the latest successful `create` of its id are those in which a
PUT only writes over a record that has the two of the record it has read. -/
theorem provenance_iff {s : Stores} {acts : List (Act VoiceOp)} {p : RegisteredPool}
    (run : Transition.runs registeredStep ⟨.initial s, []⟩ acts = some p) :
    (∀ front, front <+: acts → ∀ q, Transition.runs registeredStep ⟨.initial s, []⟩ front = some q →
        q.store.Genuine) ↔
      Transition.Guarded registeredStep (Pool.Before Faithful) ⟨.initial s, []⟩ acts := by
  refine (Transition.guarded_iff_always (I := fun q => q.store.Genuine)
    (J := fun q => ∀ task ∈ q.tasks, At task.tag task.prog) ?_ ?_ ?_ ?_ ?_ run).symm
  · exact fun _ _ _ listed taken => registered_listed listed taken
  · exact fun _ _ _ listed genuine faithful taken => (genuine_step listed genuine taken).2 faithful
  · exact fun _ _ _ listed genuine broken taken after => broken ((genuine_step listed genuine taken).1 after)
  · intro task member
    cases member
  · intro v record found
    show (s.metadata v).map VoiceRecord.provenance = some record.provenance
    rw [show s.metadata v = some record from found]
    rfl

/-- A PUT over a voice of the router. -/
def postThenPut : List (Act VoiceOp) :=
  [.spawn (.create (plainCreate 1)), .step 0, .step 0, .spawn (.update (plainUpdate 2)), .step 1, .step 1, .step 1]

theorem postThenPut_genuine :
    (Transition.final registeredStep ⟨.initial .empty, []⟩ postThenPut).store.Genuine := by
  have run := Transition.runs_final registeredStep ⟨.initial .empty, []⟩ postThenPut (by decide +kernel)
  exact (provenance_iff run).2 (by decide +kernel) postThenPut (List.prefix_refl _) _ run

/-- A PUT reads a voice of the router; the voice is deleted and a seed pass creates it
again; then the PUT writes. -/
def putAcrossSeed : List (Act VoiceOp) :=
  [.spawn (.create (plainCreate 1)), .step 0, .step 0, .spawn (.update (plainUpdate 2)), .step 1, .step 1,
    .spawn (.delete "ada"), .step 2, .spawn (.ingest (plainPass fun _ => .data [7])), .step 3, .step 3, .step 3,
    .step 1]

/-- The seed voice becomes one of the router. -/
theorem putAcrossSeed_forges :
    ¬∀ (s : Stores) (acts : List (Act VoiceOp)) (p : RegisteredPool),
      Transition.runs registeredStep ⟨.initial s, []⟩ acts = some p → p.store.Genuine := by
  intro claim
  have run := Transition.runs_final registeredStep ⟨.initial .empty, []⟩ putAcrossSeed (by decide +kernel)
  generalize reached : Transition.final registeredStep ⟨.initial .empty, []⟩ putAcrossSeed = p at run
  have genuine := claim .empty putAcrossSeed p run
  have stored : (p.store.stores.metadata "ada").map VoiceRecord.source = some .crud := by
    rw [← reached]
    decide +kernel
  have created : (p.store.created "ada").map Prod.fst = some .seed := by
    rw [← reached]
    decide +kernel
  obtain ⟨record, found, source⟩ := Option.map_eq_some_iff.1 stored
  rw [genuine "ada" record found] at created
  cases (Option.some.inj created).symm.trans source

end LlmTts
