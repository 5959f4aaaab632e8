import LlmTts.Voice.Moves

/-!
# Pairs of one writer

A record and a blob belong together when the same request supplied them. The
stores carry no mark of that, so it is recorded next to them: `Attribution`
keeps, for each id, the request that supplied the stored record and blob, and
for each request the suppliers of what it last read. `pairs_never_torn` gives
the steps that have to be excluded for a stored pair and a resolved pair always
to have one supplier.
-/

namespace LlmTts
open Python Effect

/-- The stores, and the index of the request each half of a pair came from; an
initial half came from none. -/
structure Attribution where
  stores : Stores
  recordBy : String → Option Nat
  blobBy : String → Option Nat
  readRecord : Nat → Option Nat
  readBlob : Nat → Option Nat

namespace Attribution

/-- The stores of an attribution in which every pair is an initial one. -/
def initial (s : Stores) : Attribution := ⟨s, fun _ => none, fun _ => none, fun _ => none, fun _ => none⟩

/-- The attribution after request `i` made the call `c`, which led to `stores`. A
`create` stores its record where there is none, an `update` where there is one. -/
def after (w : Attribution) (i : Nat) (c : StoreCall) (stores : Stores) : Attribution where
  stores := stores
  recordBy := match c with
    | .metaCreate record =>
      if (w.stores.metadata record.id).isSome then w.recordBy
      else Function.update w.recordBy record.id (some i)
    | .metaUpdate record =>
      if (w.stores.metadata record.id).isSome then Function.update w.recordBy record.id (some i)
      else w.recordBy
    | _ => w.recordBy
  blobBy := match c with
    | .blobPut v _ => Function.update w.blobBy v (some i)
    | _ => w.blobBy
  readRecord := match c with
    | .metaGet v => Function.update w.readRecord i (w.recordBy v)
    | _ => w.readRecord
  readBlob := match c with
    | .blobGet v => Function.update w.readBlob i (w.blobBy v)
    | _ => w.readBlob

/-- One call of request `i`. -/
def exec (i : Nat) (w : Attribution) (c : StoreCall) : c.Reply × Attribution :=
  ((w.stores.exec c).1, w.after i c (w.stores.exec c).2)

end Attribution

/-- Requests in progress over attributed stores. -/
abbrev PairPool : Type := Pool Attribution VoiceOp StoreCall StoreCall.Reply VoiceEnd

def pairStep : PairPool → Act VoiceOp → Option PairPool := Pool.step VoiceOp.body Attribution.exec

/-! ## Requests in the middle of a pair -/

/-- A POST that has stored its record and is about to write the blob of `v`. -/
def PostWrites (v : String) (task : VoiceTask) : Prop :=
  match task.tag, task.prog.next? with
  | .create _, some (.blobPut w _) => w = v
  | _, _ => False

/-- A PUT that is about to store the record of `v`. -/
def PutUpdates (v : String) (task : VoiceTask) : Prop :=
  match task.tag, task.prog.next? with
  | .update _, some (.metaUpdate record) => record.id = v
  | _, _ => False

/-- A `_resolve_voice` that has read the record of `v` and is about to read its blob. -/
def Resolves (v : String) (task : VoiceTask) : Prop :=
  match task.tag, task.prog.next? with
  | .resolve _, some (.blobGet w) => w = v
  | _, _ => False

instance (v : String) : DecidablePred (PostWrites v) := fun ⟨tag, prog⟩ => by
  induction prog using Prog.casesOn with
  | ret => induction tag using VoiceOp.casesOn <;> exact isFalse not_false
  | call c k =>
    induction tag using VoiceOp.casesOn <;> induction c using StoreCall.casesOn <;>
      first | exact isFalse not_false | exact decEq _ v

instance (v : String) : DecidablePred (PutUpdates v) := fun ⟨tag, prog⟩ => by
  induction prog using Prog.casesOn with
  | ret => induction tag using VoiceOp.casesOn <;> exact isFalse not_false
  | call c k =>
    induction tag using VoiceOp.casesOn <;> induction c using StoreCall.casesOn <;>
      first | exact isFalse not_false | exact decEq _ v

instance (v : String) : DecidablePred (Resolves v) := fun ⟨tag, prog⟩ => by
  induction prog using Prog.casesOn with
  | ret => induction tag using VoiceOp.casesOn <;> exact isFalse not_false
  | call c k =>
    induction tag using VoiceOp.casesOn <;> induction c using StoreCall.casesOn <;>
      first | exact isFalse not_false | exact decEq _ v

namespace PairPool

variable (p : PairPool)

/-- The POST that supplied the record of `v` is about to write its blob. -/
def BlobPending (v : String) : Prop :=
  ∃ j ∈ p.store.recordBy v, ∃ task ∈ p.tasks[j]?, PostWrites v task

/-- The PUT that supplied the blob of `v` is about to store its record. -/
def RecordPending (v : String) : Prop :=
  ∃ j ∈ p.store.blobBy v, ∃ task ∈ p.tasks[j]?, PutUpdates v task

/-- A blob that request `i` writes next belongs to the stored record, or will be
replaced by one that does. -/
def BlobFits (i : Nat) (v : String) : Prop :=
  p.store.stores.metadata v ≠ none → p.store.recordBy v ≠ some i → BlobPending p v

/-- A record that request `i` stores next belongs to the stored blob, or will be
replaced by one that does. -/
def RecordFits (i : Nat) (v : String) : Prop :=
  p.store.stores.blobs v ≠ none → p.store.blobBy v ≠ some i → RecordPending p v

/-- Every request that is about to read the blob of `v` has read a record of request `i`. -/
def Unread (i : Nat) (v : String) : Prop :=
  ∀ j < p.tasks.length, ∀ task ∈ p.tasks[j]?, Resolves v task → p.store.readRecord j = some i

instance (v : String) : Decidable (BlobPending p v) := by unfold BlobPending; infer_instance

instance (v : String) : Decidable (RecordPending p v) := by unfold RecordPending; infer_instance

instance (i : Nat) (v : String) : Decidable (BlobFits p i v) := by unfold BlobFits; infer_instance

instance (i : Nat) (v : String) : Decidable (RecordFits p i v) := by unfold RecordFits; infer_instance

instance (i : Nat) (v : String) : Decidable (Unread p i v) := by unfold Unread; infer_instance

end PairPool

open PairPool

/-- A write that ends a pair fits the other half, no blob is written between the
two reads of a `_resolve_voice` of another writer's record, and `_resolve_voice`
starts at a matching pair. -/
def Fitting (p : PairPool) (i : Nat) (task : VoiceTask) : Prop :=
  match task.tag, task.prog.next? with
  | .create _, some (.blobPut v _) => BlobFits p i v ∧ Unread p i v
  | .ingest _, some (.blobPut v _) => BlobFits p i v ∧ Unread p i v
  | .update _, some (.blobPut v _) => Unread p i v
  | .update _, some (.metaUpdate record) =>
    p.store.stores.metadata record.id ≠ none → RecordFits p i record.id
  | .ingest _, some (.metaCreate record) =>
    p.store.stores.metadata record.id = none → RecordFits p i record.id
  | .resolve _, some (.metaGet v) =>
    p.store.stores.metadata v ≠ none → p.store.stores.blobs v ≠ none →
      p.store.recordBy v = p.store.blobBy v
  | _, _ => True

instance (p : PairPool) (i : Nat) (task : VoiceTask) : Decidable (Fitting p i task) := by
  induction task using Effect.Task.casesOn with | mk tag prog =>
  induction prog using Prog.casesOn with
  | ret => induction tag using VoiceOp.casesOn <;> exact isTrue trivial
  | call c k =>
    induction tag using VoiceOp.casesOn <;> induction c using StoreCall.casesOn <;>
      dsimp only [Fitting, Prog.next?] <;> infer_instance

/-- What holds of pairs at any time. -/
structure Paired (p : PairPool) : Prop where
  listed : ∀ task ∈ p.tasks, At task.tag task.prog
  /-- The halves of a stored pair have one supplier, or one of them is about to be replaced. -/
  stored : ∀ v, p.store.stores.metadata v ≠ none → p.store.stores.blobs v ≠ none →
    p.store.recordBy v ≠ p.store.blobBy v → BlobPending p v ∨ RecordPending p v
  /-- A blob about to be read was supplied with the record read before. -/
  reading : ∀ i task v, p.tasks[i]? = some task → Resolves v task → p.store.stores.blobs v ≠ none →
    p.store.blobBy v = p.store.readRecord i
  /-- A resolved pair has one supplier. -/
  resolved : ∀ i v record blob,
    p.tasks[i]? = some ⟨.resolve v, .ret (.ok (.resolved record blob))⟩ →
    p.store.readRecord i = p.store.readBlob i

/-! ## One call -/

section Call

variable {w : Attribution} {s : Stores} {op : VoiceOp} {c : StoreCall}
  {k : c.Reply → StoreProg VoiceEnd} {prog : StoreProg VoiceEnd} {i : Nat} {v : String}

/-- Where the halves of a pair come from that is stored after a call: the request
will replace the other half itself, or the call did not touch the pair, or it was
the blob write or the record write that ends a pair. -/
theorem pair_after (moves : Moves w.stores op c s prog) (present : s.metadata v ≠ none)
    (stored : s.blobs v ≠ none) :
    ((w.after i c s).recordBy v = some i ∧ PostWrites v ⟨op, prog⟩) ∨
    ((w.after i c s).blobBy v = some i ∧ PutUpdates v ⟨op, prog⟩) ∨
    ((w.after i c s).recordBy v = w.recordBy v ∧ (w.after i c s).blobBy v = w.blobBy v ∧
      w.stores.metadata v ≠ none ∧ w.stores.blobs v ≠ none ∧
      ¬PostWrites v ⟨op, .call c k⟩ ∧ ¬PutUpdates v ⟨op, .call c k⟩) ∨
    ((w.after i c s).recordBy v = w.recordBy v ∧ (w.after i c s).blobBy v = some i ∧
      w.stores.metadata v ≠ none ∧
      ((∃ request data, op = .create request ∧ c = .blobPut v data) ∨
        ∃ pass data, op = .ingest pass ∧ c = .blobPut v data)) ∨
    ((w.after i c s).recordBy v = some i ∧ (w.after i c s).blobBy v = w.blobBy v ∧
      w.stores.blobs v ≠ none ∧
      ((∃ request record, op = .update request ∧ c = .metaUpdate record ∧ record.id = v ∧
          w.stores.metadata v ≠ none) ∨
        ∃ pass record, op = .ingest pass ∧ c = .metaCreate record ∧ record.id = v ∧
          w.stores.metadata v = none)) := by
  cases moves <;>
    simp_all [Attribution.after, PostWrites, PutUpdates, Function.update_apply] <;> grind

/-- Where the blob comes from that is stored after a call. -/
theorem blob_after (moves : Moves w.stores op c s prog) (stored : s.blobs v ≠ none) :
    ((w.after i c s).blobBy v = w.blobBy v ∧ w.stores.blobs v ≠ none) ∨
    ((w.after i c s).blobBy v = some i ∧ ∃ data, c = .blobPut v data ∧
      ((∃ request, op = .create request) ∨ (∃ request, op = .update request) ∨
        ∃ pass, op = .ingest pass)) := by
  cases moves <;> simp_all [Attribution.after, Function.update_apply] <;> grind

/-- A request comes to read the blob of `v` by reading its record. -/
theorem resolves_after (moves : Moves w.stores op c s prog) (reads : Resolves v ⟨op, prog⟩) :
    (∃ u, op = .resolve u) ∧ c = .metaGet v ∧ s = w.stores ∧ w.stores.metadata v ≠ none := by
  cases moves with
  | resolveLoaded present =>
    cases reads
    exact ⟨⟨_, rfl⟩, rfl, rfl, Option.isSome_iff_ne_none.1 present⟩
  | _ => exact absurd reads id

/-- A pair is resolved by reading its blob. -/
theorem resolved_after {record : VoiceRecord} {blob : Bytes}
    (moves : Moves w.stores (.resolve v) c s (.ret (.ok (.resolved record blob)))) :
    c = .blobGet v ∧ s = w.stores ∧ w.stores.blobs v ≠ none := by
  cases moves with
  | resolveRead r present => exact ⟨rfl, rfl, Option.isSome_iff_ne_none.1 present⟩

/-- A call changes what its own request has read, and nobody else's. -/
theorem reads_after {j : Nat} (other : j ≠ i) :
    (w.after i c s).readRecord j = w.readRecord j ∧ (w.after i c s).readBlob j = w.readBlob j := by
  cases c <;> simp [Attribution.after, other]

end Call

/-! ## Runs -/

theorem pairStep_cases {p q : PairPool} {a : Act VoiceOp}
    (listed : ∀ task ∈ p.tasks, At task.tag task.prog) (taken : pairStep p a = some q) :
    (∃ op, a = .spawn op ∧ q = { p with tasks := p.tasks ++ [⟨op, op.body⟩] }) ∨
    ∃ i op c k s prog, a = .step i ∧ p.tasks[i]? = some ⟨op, .call c k⟩ ∧
      Moves p.store.stores op c s prog ∧
      q = { store := p.store.after i c s, tasks := p.tasks.set i ⟨op, prog⟩ } := by
  obtain spawned | ⟨i, op, c, k, acted, found, rfl⟩ := Pool.step_cases taken
  · exact .inl spawned
  · have located := listed _ (List.mem_of_getElem? found)
    exact .inr ⟨i, op, c, k, _, _, acted, found, (At.moves located p.store.stores).1, rfl⟩

section Step

variable {p : PairPool} {i : Nat} {v : String} {old new : VoiceTask} {w : Attribution}

theorem blobPending_set (found : p.tasks[i]? = some old) (same : w.recordBy v = p.store.recordBy v)
    (idle : p.store.recordBy v = some i → ¬PostWrites v old) (pending : BlobPending p v) :
    BlobPending { store := w, tasks := p.tasks.set i new } v := by
  obtain ⟨j, acting, task, foundj, writes⟩ := pending
  refine ⟨j, same ▸ acting, task, ?_, writes⟩
  rcases eq_or_ne i j with rfl | other
  · cases found.symm.trans foundj
    exact absurd writes (idle acting)
  · rw [List.getElem?_set_ne other]
    exact foundj

theorem recordPending_set (found : p.tasks[i]? = some old) (same : w.blobBy v = p.store.blobBy v)
    (idle : p.store.blobBy v = some i → ¬PutUpdates v old) (pending : RecordPending p v) :
    RecordPending { store := w, tasks := p.tasks.set i new } v := by
  obtain ⟨j, acting, task, foundj, updates⟩ := pending
  refine ⟨j, same ▸ acting, task, ?_, updates⟩
  rcases eq_or_ne i j with rfl | other
  · cases found.symm.trans foundj
    exact absurd updates (idle acting)
  · rw [List.getElem?_set_ne other]
    exact foundj

end Step

/-- A guarded step of a request keeps the pairs matched. -/
theorem stored_step {p : PairPool} {i : Nat} {op : VoiceOp} {c : StoreCall}
    {k : c.Reply → StoreProg VoiceEnd} {s : Stores} {prog : StoreProg VoiceEnd} (paired : Paired p)
    (fitting : Fitting p i ⟨op, .call c k⟩) (found : p.tasks[i]? = some ⟨op, .call c k⟩)
    (moves : Moves p.store.stores op c s prog) {v : String} (present : s.metadata v ≠ none)
    (stored : s.blobs v ≠ none)
    (differ : (p.store.after i c s).recordBy v ≠ (p.store.after i c s).blobBy v) :
    let q : PairPool := { store := p.store.after i c s, tasks := p.tasks.set i ⟨op, prog⟩ }
    BlobPending q v ∨ RecordPending q v := by
  have self : (p.tasks.set i ⟨op, prog⟩)[i]? = some ⟨op, prog⟩ :=
    List.getElem?_set_self (List.getElem?_eq_some_iff.1 found).1
  obtain ⟨acting, writes⟩ | ⟨acting, updates⟩ | ⟨record, blob, before, kept, posts, puts⟩ |
    ⟨record, blob, before, ends⟩ | ⟨record, blob, kept, ends⟩ := pair_after (k := k) (i := i) moves present stored
  · exact .inl ⟨i, acting, _, self, writes⟩
  · exact .inr ⟨i, acting, _, self, updates⟩
  · rw [record, blob] at differ
    exact (paired.stored v before kept differ).imp
      (blobPending_set found record fun _ => posts) (recordPending_set found blob fun _ => puts)
  · rw [record, blob] at differ
    have fits : BlobFits p i v := by
      obtain ⟨request, data, rfl, rfl⟩ | ⟨pass, data, rfl, rfl⟩ := ends
      · exact fitting.1
      · exact fitting.1
    exact .inl (blobPending_set found record (fun own => absurd own differ) (fits before differ))
  · rw [record, blob] at differ
    have fits : RecordFits p i v := by
      obtain ⟨request, r, rfl, rfl, rfl, there⟩ | ⟨pass, r, rfl, rfl, rfl, absent⟩ := ends
      · exact fitting there
      · exact fitting absent
    exact .inr (recordPending_set found blob (fun own => absurd own differ.symm) (fits kept differ.symm))

/-- A guarded step of a request keeps the reads matched. -/
theorem reading_step {p : PairPool} {i : Nat} {op : VoiceOp} {c : StoreCall}
    {k : c.Reply → StoreProg VoiceEnd} {s : Stores} {prog : StoreProg VoiceEnd} (paired : Paired p)
    (fitting : Fitting p i ⟨op, .call c k⟩) (found : p.tasks[i]? = some ⟨op, .call c k⟩)
    (moves : Moves p.store.stores op c s prog) {j : Nat} {task : VoiceTask} {v : String}
    (foundj : (p.tasks.set i ⟨op, prog⟩)[j]? = some task) (reads : Resolves v task)
    (stored : s.blobs v ≠ none) :
    (p.store.after i c s).blobBy v = (p.store.after i c s).readRecord j := by
  rcases eq_or_ne i j with rfl | other
  · rw [List.getElem?_set_self (List.getElem?_eq_some_iff.1 found).1] at foundj
    cases foundj
    obtain ⟨⟨u, rfl⟩, rfl, rfl, present⟩ := resolves_after moves reads
    simpa [Attribution.after] using (fitting present stored).symm
  · rw [List.getElem?_set_ne other] at foundj
    rw [(reads_after other.symm).1]
    obtain ⟨same, kept⟩ | ⟨own, data, rfl, writer⟩ := blob_after (i := i) moves stored
    · rw [same]
      exact paired.reading j task v foundj reads kept
    · have unread : Unread p i v := by
        obtain ⟨request, rfl⟩ | ⟨request, rfl⟩ | ⟨pass, rfl⟩ := writer
        · exact fitting.2
        · exact fitting
        · exact fitting.2
      rw [own, unread j (List.getElem?_eq_some_iff.1 foundj).1 task foundj reads]

/-- A step keeps the resolved pairs matched. -/
theorem resolved_step {p : PairPool} {i : Nat} {op : VoiceOp} {c : StoreCall}
    {k : c.Reply → StoreProg VoiceEnd} {s : Stores} {prog : StoreProg VoiceEnd} (paired : Paired p)
    (found : p.tasks[i]? = some ⟨op, .call c k⟩) (moves : Moves p.store.stores op c s prog) {j : Nat}
    {v : String} {record : VoiceRecord} {blob : Bytes}
    (foundj : (p.tasks.set i ⟨op, prog⟩)[j]? =
      some ⟨.resolve v, .ret (.ok (.resolved record blob))⟩) :
    (p.store.after i c s).readRecord j = (p.store.after i c s).readBlob j := by
  rcases eq_or_ne i j with rfl | other
  · rw [List.getElem?_set_self (List.getElem?_eq_some_iff.1 found).1] at foundj
    cases foundj
    obtain ⟨rfl, rfl, stored⟩ := resolved_after moves
    have reads := paired.reading i _ v found rfl stored
    simpa [Attribution.after] using reads.symm
  · rw [List.getElem?_set_ne other] at foundj
    rw [(reads_after other.symm).1, (reads_after other.symm).2]
    exact paired.resolved j v record blob foundj

/-- A request that starts neither reads a blob next nor has resolved a pair. -/
theorem body_reads_nothing (op : VoiceOp) :
    (∀ v, ¬Resolves v ⟨op, op.body⟩) ∧ ∀ v r, op = .resolve v → op.body ≠ .ret r := by
  cases op with
  | resolve v =>
    simp only [VoiceOp.body, resolveVoice_eq]
    exact ⟨fun _ => id, fun _ _ _ ended => by cases ended⟩
  | _ => exact ⟨fun _ => id, fun _ _ other => by cases other⟩

theorem mem_spawn {tasks : List VoiceTask} {new task : VoiceTask} {j : Nat}
    (found : (tasks ++ [new])[j]? = some task) : tasks[j]? = some task ∨ task = new := by
  rw [List.getElem?_append] at found
  split at found
  · exact .inl found
  · exact .inr (List.mem_singleton.1 (List.mem_of_getElem? found))

theorem paired_spawn {p : PairPool} (paired : Paired p) (op : VoiceOp) :
    Paired { p with tasks := p.tasks ++ [⟨op, op.body⟩] } := by
  have kept : ∀ {j : Nat} {task : VoiceTask}, p.tasks[j]? = some task →
      (p.tasks ++ [⟨op, op.body⟩])[j]? = some task := by
    intro j task found
    rw [List.getElem?_append_left (List.getElem?_eq_some_iff.1 found).1]
    exact found
  refine ⟨fun task member => ?_, fun v present stored differ => ?_, fun j task v found reads stored => ?_,
    fun j v record blob found => ?_⟩
  · rcases List.mem_append.1 member with old | new
    · exact paired.listed task old
    · rw [List.mem_singleton.1 new]
      exact At.start op
  · obtain ⟨j, acting, task, found, writes⟩ | ⟨j, acting, task, found, updates⟩ :=
      paired.stored v present stored differ
    · exact .inl ⟨j, acting, task, kept found, writes⟩
    · exact .inr ⟨j, acting, task, kept found, updates⟩
  · rcases mem_spawn found with old | rfl
    · exact paired.reading j task v old reads stored
    · exact absurd reads ((body_reads_nothing op).1 v)
  · rcases mem_spawn found with old | new
    · exact paired.resolved j v record blob old
    · rw [Task.mk.injEq] at new
      exact absurd new.2.symm ((body_reads_nothing op).2 v _ new.1.symm)

theorem paired_step {p q : PairPool} {a : Act VoiceOp} (paired : Paired p)
    (fitting : Pool.Before Fitting p a) (taken : pairStep p a = some q) : Paired q := by
  have run : Transition.runs pairStep p [a] = some q := Transition.runs_cons_iff.2 ⟨q, taken, rfl⟩
  have listed : ∀ task ∈ q.tasks, At task.tag task.prog :=
    Pool.tasks_inv At.start (fun _ w _ _ _ located => (At.moves located w.stores).2) paired.listed run
  obtain ⟨op, rfl, rfl⟩ | ⟨i, op, c, k, s, prog, rfl, found, moves, rfl⟩ :=
    pairStep_cases paired.listed taken
  · exact paired_spawn paired op
  · have fits := fitting _ found
    exact ⟨listed,
      fun v present stored differ => stored_step paired fits found moves present stored differ,
      fun j task v foundj reads stored => reading_step paired fits found moves foundj reads stored,
      fun j v record blob foundj => resolved_step paired found moves foundj⟩

theorem paired_initial (s : Stores) : Paired ⟨.initial s, []⟩ := by
  refine ⟨by simp, fun v _ _ differ => absurd rfl differ, fun j task v found => ?_,
    fun j v record blob found => ?_⟩
  · cases found
  · cases found

/-- A PUT or POST in the middle of a pair is in progress. -/
theorem not_pending {p : PairPool} (quiescent : p.Quiescent) (v : String) :
    ¬(BlobPending p v ∨ RecordPending p v) := by
  rintro (⟨j, -, task, found, writes⟩ | ⟨j, -, task, found, updates⟩)
  · have idle := quiescent task (List.mem_of_getElem? found)
    unfold PostWrites at writes
    rw [idle] at writes
    split at writes <;> simp_all
  · have idle := quiescent task (List.mem_of_getElem? found)
    unfold PutUpdates at updates
    rw [idle] at updates
    split at updates <;> simp_all

/-- **No torn pair.** In a run of fitting steps, the two halves of every pair that
is stored when no request is in progress, and of every pair `_resolve_voice`
returns at any time, come from one request. -/
theorem pairs_never_torn {s : Stores} {acts : List (Act VoiceOp)} {p : PairPool}
    (fitting : Transition.Guarded pairStep (Pool.Before Fitting) ⟨.initial s, []⟩ acts)
    (run : Transition.runs pairStep ⟨.initial s, []⟩ acts = some p) :
    (p.Quiescent → ∀ v, p.store.stores.metadata v ≠ none → p.store.stores.blobs v ≠ none →
      p.store.recordBy v = p.store.blobBy v) ∧
    ∀ i v record blob, p.tasks[i]? = some ⟨.resolve v, .ret (.ok (.resolved record blob))⟩ →
      p.store.readRecord i = p.store.readBlob i := by
  have paired := Transition.guarded_inv (fun p a q => paired_step) (paired_initial s) fitting run
  refine ⟨fun quiescent v present stored => ?_, paired.resolved⟩
  by_contra differ
  exact not_pending quiescent v (paired.stored v present stored differ)

/-- A PUT with new audio after a POST, and a `_resolve_voice` that reads the
record before the PUT writes the blob and after the POST has ended. -/
def resolveThenUpdate : List (Act VoiceOp) :=
  [.spawn (.create (plainCreate 1)), .step 0, .step 0, .spawn (.resolve "ada"), .step 1, .step 1,
    .spawn (.update (plainUpdate 2)), .step 2, .step 2, .step 2]

theorem resolveThenUpdate_paired :
    ∃ p, Transition.runs pairStep ⟨.initial .empty, []⟩ resolveThenUpdate = some p ∧
      p.store.recordBy "ada" = p.store.blobBy "ada" := by
  have run := Transition.runs_final pairStep ⟨.initial .empty, []⟩ resolveThenUpdate (by decide +kernel)
  generalize reached : Transition.final pairStep ⟨.initial .empty, []⟩ resolveThenUpdate = p at run
  have torn := pairs_never_torn (by decide +kernel) run
  refine ⟨p, run, torn.1 ?_ "ada" ?_ ?_⟩
  · have ended : ∀ task ∈ p.tasks, task.prog.next?.isNone := by rw [← reached]; decide +kernel
    exact fun task member => Option.isNone_iff_eq_none.1 (ended task member)
  · rw [← reached]; decide +kernel
  · rw [← reached]; decide +kernel

/-- Two PUTs with new audio whose writes cross: the record of one is stored with
the blob of the other. -/
def crossedUpdates : List (Act VoiceOp) :=
  [.spawn (.create (plainCreate 1)), .step 0, .step 0, .spawn (.update (plainUpdate 2)), .step 1,
    .spawn (.update (plainUpdate 3)), .step 2, .step 1, .step 2, .step 2, .step 1]

/-- Every PUT of the run has a new audio part, unless its audio is rejected. -/
def AudioUpdates (acts : List (Act VoiceOp)) : Prop :=
  ∀ request, Act.spawn (.update request) ∈ acts → newBlob request ≠ .ok none

/-- Two PUTs with new audio can leave a torn pair. -/
theorem crossedUpdates_torn :
    ¬∀ (s : Stores) (acts : List (Act VoiceOp)) (p : PairPool), AudioUpdates acts →
      Transition.runs pairStep ⟨.initial s, []⟩ acts = some p →
      (p.Quiescent → ∀ v, p.store.stores.metadata v ≠ none → p.store.stores.blobs v ≠ none →
        p.store.recordBy v = p.store.blobBy v) ∧
      ∀ i v record blob, p.tasks[i]? = some ⟨.resolve v, .ret (.ok (.resolved record blob))⟩ →
        p.store.readRecord i = p.store.readBlob i := by
  intro claim
  have run := Transition.runs_final pairStep ⟨.initial .empty, []⟩ crossedUpdates (by decide +kernel)
  generalize reached : Transition.final pairStep ⟨.initial .empty, []⟩ crossedUpdates = p at run
  have ended : ∀ task ∈ p.tasks, task.prog.next?.isNone := by rw [← reached]; decide +kernel
  have audio : AudioUpdates crossedUpdates := by
    intro request member
    simp only [crossedUpdates, List.mem_cons, Act.spawn.injEq, VoiceOp.update.injEq, reduceCtorEq,
      List.not_mem_nil, or_false, false_or] at member
    rcases member with rfl | rfl <;> decide +kernel
  have paired := (claim .empty crossedUpdates p audio run).1
    (fun task member => Option.isNone_iff_eq_none.1 (ended task member)) "ada"
    (by rw [← reached]; decide +kernel) (by rw [← reached]; decide +kernel)
  rw [← reached] at paired
  exact absurd paired (by decide +kernel)

end LlmTts
