import LlmTts.Synthesis.Admission

/-!
# Mutual exclusion on a model

A lock of the dictionary is locked while a request has it, and a request only has
the lock that the dictionary names for its model. Together with the accounts of
the permits this gives `admission_exact`.
-/

namespace LlmTts
open Asyncio Slots

/-! ## The locks -/

/-- What an operation does to the locks. -/
inductive LockMove (s : SharedState) (r : SynthesisJob) : SharedState → SynthesisJob → Prop where
  | kept {s' : SharedState} {r' : SynthesisJob} (modelLocks : s'.modelLocks = s.modelLocks)
      (locked : ∀ l : Nat, s'.locks[l]?.map Lock.locked = s.locks[l]?.map Lock.locked)
      (held : ∀ l, r'.pc.held? = some l → r.pc.held? = some l)
      (model : ∀ l, r'.pc.model? = some l → r.pc.model? = some l ∨ s.modelLocks r.key = some l)
      (creating : r'.pc = .creating → s.modelLocks r.key = none) : LockMove s r s' r'
  | created (place : r.pc = .creating) :
      LockMove s r
        { s with
          modelLocks := Function.update s.modelLocks r.key (some s.locks.length)
          locks := s.locks ++ [Lock.create] }
        { r with pc := .acquiring s.locks.length }
  | taken {l : Nat} {lock after : Lock} (model : r.pc.model? = some l) (found : s.locks[l]? = some lock)
      (free : lock.locked = false) (locked : after.locked = true) :
      LockMove s r { s with locks := s.locks.set l after } { r with pc := .looping l 0 }
  | released {l : Nat} {lock : Lock} (held : r.pc.held? = some l) (found : s.locks[l]? = some lock) :
      LockMove s r { s with locks := s.locks.set l lock.release } { r with pc := .leaving }

theorem set_locked {locks : List Lock} {l : Nat} {lock after : Lock} (found : locks[l]? = some lock)
    (same : after.locked = lock.locked) (k : Nat) :
    (locks.set l after)[k]?.map Lock.locked = locks[k]?.map Lock.locked := by
  by_cases here : l = k
  · subst here
    rw [List.getElem?_set_self (List.getElem?_eq_some_iff.1 found).1, found]
    exact congrArg some same
  · rw [List.getElem?_set_ne here]

theorem inside_of_locked {locks after : List Lock}
    (same : ∀ l : Nat, after[l]?.map Lock.locked = locks[l]?.map Lock.locked) {l : Nat}
    (inside : l < locks.length) : l < after.length := by
  by_contra outside
  have here := same l
  rw [List.getElem?_eq_none (Nat.le_of_not_lt outside), List.getElem?_eq_getElem inside] at here
  cases here

theorem Move.lock {i : Nat} {s s' : SharedState} {r r' : SynthesisJob} (move : Move i s r s' r') :
    LockMove s r s' r' := by
  cases move with
  | quiet same =>
    refine .kept rfl (fun _ => rfl) (fun l held => same.held ▸ held) (fun l model => ?_) same.creating
    rcases same.model with before | named
    · exact .inl (before ▸ model)
    · exact .inr (named ▸ model)
  | abandoned place => exact .kept rfl (fun _ => rfl) nofun nofun nofun
  | queueNow place now next =>
    rcases next with rfl | rfl <;> exact .kept rfl (fun _ => rfl) nofun nofun nofun
  | queueReleased place next =>
    rcases next with rfl | rfl <;> exact .kept rfl (fun _ => rfl) nofun nofun nofun
  | queueLater | concurrencyNow | concurrencyLater | concurrencyReleased =>
    exact .kept rfl (fun _ => rfl) nofun nofun nofun
  | @concurrencyResumed _ _ acquired =>
    cases acquired <;> exact .kept rfl (fun _ => rfl) nofun nofun nofun
  | lockCreated place => exact .created place
  | lockNow place found now =>
    obtain ⟨free, locked, -⟩ := Lock.acquire_now now
    exact .taken (by rw [place]; rfl) found free locked
  | lockLater place found later =>
    have same := (Lock.acquire_later later).1
    exact .kept rfl (set_locked found same) nofun (fun l model => .inl (by rw [place]; exact model)) nofun
  | @lockResumed _ _ _ _ acquired place found resumed =>
    have taken := (Lock.resume_some resumed).2.2
    cases acquired with
    | true => exact .taken (by rw [place]; rfl) found taken.1 taken.2
    | false => exact .kept rfl (set_locked found taken) nofun nofun nofun
  | lockReleased place found => exact .released (by rw [place]; rfl) found

/-- How the locks and the requests fit. -/
structure Exclusion (w : Service) : Prop where
  known : ∀ key l, w.shared.modelLocks key = some l → l < w.shared.locks.length
  named : ∀ r ∈ w.requests, ∀ l, r.pc.model? = some l → w.shared.modelLocks r.key = some l
  creating : ∀ r ∈ w.requests, r.pc = .creating → w.shared.modelLocks r.key = none
  locked : ∀ r ∈ w.requests, ∀ l, r.pc.held? = some l → w.shared.locks[l]?.map Lock.locked = some true
  alone : ∀ (i j : Nat) (r q : SynthesisJob) (l : Nat), w.requests[i]? = some r → w.requests[j]? = some q →
    r.pc.held? = some l → q.pc.held? = some l → i = j

namespace Exclusion

variable {w w' : Service}

theorem initial (queueDepth limit : Nat) : Exclusion (Service.initial queueDepth limit) where
  known key l named := by cases named
  named r member := by cases member
  creating r member := by cases member
  locked r member := by cases member
  alone i j r q l found := by cases found

/-- An operation that takes no lock. -/
theorem kept (excl : Exclusion w) {i : Nat} {s' : SharedState} {r r' : SynthesisJob}
    (found : w.requests[i]? = some r) (key : r'.key = r.key)
    (modelLocks : s'.modelLocks = w.shared.modelLocks)
    (locked : ∀ l : Nat, s'.locks[l]?.map Lock.locked = w.shared.locks[l]?.map Lock.locked)
    (held : ∀ l, r'.pc.held? = some l → r.pc.held? = some l)
    (model : ∀ l, r'.pc.model? = some l → r.pc.model? = some l ∨ w.shared.modelLocks r.key = some l)
    (creating : r'.pc = .creating → w.shared.modelLocks r.key = none) {active : Option Nat} :
    Exclusion ⟨s', w.requests.set i r', active⟩ := by
  have member := List.mem_of_getElem? found
  refine ⟨fun key l named => ?_, fun q there l holds => ?_, fun q there place => ?_,
    fun q there l holds => ?_, fun j k q p l there other holds also => ?_⟩
  · have inside := excl.known key l (modelLocks ▸ named)
    exact inside_of_locked locked inside
  · dsimp only
    rw [modelLocks]
    rcases mem_set_cases there with rfl | there
    · rw [key]
      exact (model l holds).elim (excl.named r member l) id
    · exact excl.named q there l holds
  · dsimp only
    rw [modelLocks]
    rcases mem_set_cases there with rfl | there
    · rw [key]
      exact creating place
    · exact excl.creating q there place
  · dsimp only
    rw [locked]
    rcases mem_set_cases there with rfl | there
    · exact excl.locked r member l (held l holds)
    · exact excl.locked q there l holds
  · have before : ∀ {j : Nat} {q : SynthesisJob}, (w.requests.set i r')[j]? = some q → q.pc.held? = some l →
        ∃ p, w.requests[j]? = some p ∧ p.pc.held? = some l := by
      intro j q there holds
      obtain ⟨rfl, rfl⟩ | ⟨-, there⟩ := getElem?_set_cases there
      · exact ⟨r, found, held l holds⟩
      · exact ⟨q, there, holds⟩
    obtain ⟨q', there, holds⟩ := before there holds
    obtain ⟨p', other, also⟩ := before other also
    exact excl.alone j k q' p' l there other holds also

/-- A request that is about to create the lock of its model is the only one. -/
theorem created (excl : Exclusion w) {i : Nat} {r : SynthesisJob} (found : w.requests[i]? = some r)
    (others : ∀ j q, j ≠ i → w.requests[j]? = some q → q.pc.suspended = true)
    (place : r.pc = .creating) {active : Option Nat} :
    Exclusion ⟨{ w.shared with
        modelLocks := Function.update w.shared.modelLocks r.key (some w.shared.locks.length)
        locks := w.shared.locks ++ [Lock.create] },
      w.requests.set i { r with pc := .acquiring w.shared.locks.length }, active⟩ := by
  have member := List.mem_of_getElem? found
  have absent := excl.creating r member place
  refine ⟨fun key l named => ?_, fun q there l holds => ?_, fun q there creating => ?_,
    fun q there l holds => ?_, fun j k q p l there other holds also => ?_⟩
  · dsimp only at named ⊢
    rw [List.length_append, List.length_singleton]
    by_cases same : key = r.key
    · subst same
      rw [Function.update_self] at named
      have := Option.some.inj named
      omega
    · rw [Function.update_of_ne same] at named
      exact Nat.lt_succ_of_lt (excl.known key l named)
  · rcases mem_set_cases there with rfl | there
    · cases holds
      exact Function.update_self ..
    · have before := excl.named q there l holds
      have apart : q.key ≠ r.key := fun same => by
        rw [same, absent] at before
        cases before
      exact (Function.update_of_ne apart ..).trans before
  · obtain ⟨j, there⟩ := List.mem_iff_getElem?.1 there
    obtain ⟨rfl, rfl⟩ | ⟨apart, there⟩ := getElem?_set_cases there
    · cases creating
    · exact absurd (others j q apart there) (by simp [creating])
  · rcases mem_set_cases there with rfl | there
    · cases holds
    · have before := excl.locked q there l holds
      obtain ⟨lock, old, -⟩ := Option.map_eq_some_iff.1 before
      have inside := (List.getElem?_eq_some_iff.1 old).1
      dsimp only
      rw [List.getElem?_append_left inside]
      exact before
  · obtain ⟨rfl, rfl⟩ | ⟨-, there⟩ := getElem?_set_cases there
    · cases holds
    · obtain ⟨rfl, rfl⟩ | ⟨-, other⟩ := getElem?_set_cases other
      · cases also
      · exact excl.alone j k q p l there other holds also

/-- A lock is taken only from nobody. -/
theorem taken (excl : Exclusion w) {i l : Nat} {r : SynthesisJob} {lock after : Lock}
    (found : w.requests[i]? = some r) (model : r.pc.model? = some l)
    (there : w.shared.locks[l]? = some lock) (free : lock.locked = false) (now : after.locked = true)
    {active : Option Nat} :
    Exclusion ⟨{ w.shared with locks := w.shared.locks.set l after },
      w.requests.set i { r with pc := .looping l 0 }, active⟩ := by
  have member := List.mem_of_getElem? found
  have nobody : ∀ q ∈ w.requests, q.pc.held? ≠ some l := fun q other holds => by
    have locked := excl.locked q other l holds
    rw [there, Option.map_some, free] at locked
    cases locked
  refine ⟨fun key k named => ?_, fun q other k holds => ?_, fun q other creating => ?_,
    fun q other k holds => ?_, fun j k q p m one two holds also => ?_⟩
  · dsimp only at named ⊢
    rw [List.length_set]
    exact excl.known key k named
  · rcases mem_set_cases other with rfl | other
    · cases holds
      exact excl.named r member l model
    · exact excl.named q other k holds
  · rcases mem_set_cases other with rfl | other
    · cases creating
    · exact excl.creating q other creating
  · dsimp only
    rcases mem_set_cases other with rfl | other
    · cases holds
      rw [List.getElem?_set_self (List.getElem?_eq_some_iff.1 there).1, Option.map_some, now]
    · have apart : l ≠ k := fun same => nobody q other (same ▸ holds)
      rw [List.getElem?_set_ne apart]
      exact excl.locked q other k holds
  · obtain ⟨rfl, rfl⟩ | ⟨-, first⟩ := getElem?_set_cases one
    · obtain ⟨rfl, rfl⟩ | ⟨-, second⟩ := getElem?_set_cases two
      · rfl
      · cases holds
        exact absurd also (nobody p (List.mem_of_getElem? second))
    · obtain ⟨rfl, rfl⟩ | ⟨-, second⟩ := getElem?_set_cases two
      · cases also
        exact absurd holds (nobody q (List.mem_of_getElem? first))
      · exact excl.alone j k q p m first second holds also

/-- The request that releases a lock is the one that had it. -/
theorem released (excl : Exclusion w) {i l : Nat} {r : SynthesisJob} {lock : Lock}
    (found : w.requests[i]? = some r) (held : r.pc.held? = some l) {active : Option Nat} :
    Exclusion ⟨{ w.shared with locks := w.shared.locks.set l lock.release },
      w.requests.set i { r with pc := .leaving }, active⟩ := by
  refine ⟨fun key k named => ?_, fun q other k holds => ?_, fun q other creating => ?_,
    fun q other k holds => ?_, fun j k q p m one two holds also => ?_⟩
  · dsimp only at named ⊢
    rw [List.length_set]
    exact excl.known key k named
  · rcases mem_set_cases other with rfl | other
    · cases holds
    · exact excl.named q other k holds
  · rcases mem_set_cases other with rfl | other
    · cases creating
    · exact excl.creating q other creating
  · obtain ⟨j, other⟩ := List.mem_iff_getElem?.1 other
    obtain ⟨rfl, rfl⟩ | ⟨apart, other⟩ := getElem?_set_cases other
    · cases holds
    · have different : l ≠ k := fun same =>
        apart (excl.alone j i q r l other found (same ▸ holds) held)
      dsimp only
      rw [List.getElem?_set_ne different]
      exact excl.locked q (List.mem_of_getElem? other) k holds
  · obtain ⟨rfl, rfl⟩ | ⟨-, one⟩ := getElem?_set_cases one
    · cases holds
    · obtain ⟨rfl, rfl⟩ | ⟨-, two⟩ := getElem?_set_cases two
      · cases also
      · exact excl.alone j k q p m one two holds also

theorem stepped (excl : Exclusion w) {queueDepth limit : Nat} (adm : Admission queueDepth limit w)
    (step : Stepped w w') : Exclusion w' := by
  cases step with
  | arrived kind key chunks =>
    refine ⟨excl.known, fun q there l holds => ?_, fun q there creating => ?_,
      fun q there l holds => ?_, fun j k q p l one two holds also => ?_⟩
    · rcases List.mem_append.1 there with there | new
      · exact excl.named q there l holds
      · cases List.mem_singleton.1 new
        cases holds
    · rcases List.mem_append.1 there with there | new
      · exact excl.creating q there creating
      · cases List.mem_singleton.1 new
        cases creating
    · rcases List.mem_append.1 there with there | new
      · exact excl.locked q there l holds
      · cases List.mem_singleton.1 new
        cases holds
    · rcases getElem?_concat_cases one with one | rfl
      · rcases getElem?_concat_cases two with two | rfl
        · exact excl.alone j k q p l one two holds also
        · cases also
      · cases holds
  | @moved i s' r r' found alone move =>
    have key := move.key
    cases move.lock with
    | kept modelLocks locked held model creating =>
      exact excl.kept found key modelLocks locked held model creating
    | created place => exact excl.created found (adm.others alone) place
    | taken model there free now => exact excl.taken found model there free now
    | released held there => exact excl.released found held
  | cancelled calm =>
    refine ⟨fun key l named => ?_, ?_, ?_, fun q there l holds => ?_, excl.alone⟩
    · have inside := excl.known key l (calm.modelLocks ▸ named)
      exact inside_of_locked calm.locked inside
    · dsimp only
      rw [calm.modelLocks]
      exact excl.named
    · dsimp only
      rw [calm.modelLocks]
      exact excl.creating
    · dsimp only
      rw [calm.locked]
      exact excl.locked q there l holds

/-- Both invariants hold in every state of every run. -/
theorem run {queueDepth limit : Nat} {acts : List ServiceAct}
    (run : Transition.runs Service.step (Service.initial queueDepth limit) acts = some w) :
    Admission queueDepth limit w ∧ Exclusion w :=
  Transition.runs_inv
    (I := fun w => Admission queueDepth limit w ∧ Exclusion w)
    (fun _ _ _ ⟨adm, excl⟩ step =>
      have stepped := Service.step_cases adm.queued step
      ⟨adm.stepped stepped, excl.stepped adm stepped⟩)
    ⟨.initial queueDepth limit, .initial queueDepth limit⟩ run

/-- Two calls on one model are one call. -/
theorem one_call (excl : Exclusion w) {i j : Nat} {r q : SynthesisJob} (here : w.requests[i]? = some r)
    (there : w.requests[j]? = some q) (runs : r.pc.isRunning = true) (also : q.pc.isRunning = true)
    (same : r.key = q.key) : i = j := by
  obtain ⟨l, held⟩ := RequestPc.held?_of_isRunning runs
  obtain ⟨k, holds⟩ := RequestPc.held?_of_isRunning also
  have first := excl.named r (List.mem_of_getElem? here) l (RequestPc.model?_of_held? held)
  have second := excl.named q (List.mem_of_getElem? there) k (RequestPc.model?_of_held? holds)
  rw [same, second] at first
  cases first
  exact excl.alone i j r q l here there held holds

end Exclusion

/-! ## Admission -/

/-- Request `i` has a concurrency permit, or was granted one and is not resumed yet. -/
def Service.HasConcurrency (w : Service) (i : Nat) : Prop :=
  (∃ r, w.requests[i]? = some r ∧ r.pc.concurrent = true) ∨
    state? w.shared.concurrency.waiters i = some .granted

namespace Admission

variable {queueDepth limit : Nat} {w : Service}

theorem holdsQueue_of_phase (adm : Admission queueDepth limit w) {r : SynthesisJob} (member : r ∈ w.requests)
    (phase : r.pc.phase = .holding) : r.holdsQueue = true :=
  (adm.accounts r member).holdsQueue phase

/-- Whoever has a concurrency permit has a queue permit. -/
theorem nested (adm : Admission queueDepth limit w) {i : Nat} (has : w.HasConcurrency i) :
    ∃ r, w.requests[i]? = some r ∧ r.holdsQueue = true := by
  rcases has with ⟨r, found, inside⟩ | granted
  · exact ⟨r, found, adm.holdsQueue_of_phase (List.mem_of_getElem? found) (RequestPc.phase_of_concurrent inside)⟩
  · obtain ⟨r, found, waiting⟩ := adm.waits i (mem_tasks_of_state? granted)
    exact ⟨r, found, adm.holdsQueue_of_phase (List.mem_of_getElem? found) (by rw [waiting]; rfl)⟩

theorem running_le (adm : Admission queueDepth limit w) :
    w.requests.countP (·.pc.isRunning) ≤ limit := by
  have fewer : w.requests.countP (·.pc.isRunning) ≤ w.requests.countP (·.pc.concurrent) :=
    List.countP_mono_left fun r _ runs => RequestPc.concurrent_of_isRunning runs
  have slots := adm.slots
  omega

/-- The permits that the counter of the concurrency semaphore does not show are at
most as many as the queue permits in use. -/
theorem active_le (adm : Admission queueDepth limit w) :
    w.requests.countP (·.pc.concurrent) + granted w.shared.concurrency.waiters ≤
      w.requests.countP (·.holdsQueue) := by
  have few : granted w.shared.concurrency.waiters ≤ w.requests.countP fun r => r.pc = .waiting := by
    have waiting := length_le_countP (p := fun r : SynthesisJob => r.pc = .waiting) adm.distinct
      fun i waiter => by
        obtain ⟨r, found, place⟩ := adm.waits i waiter
        exact ⟨r, found, by simpa using place⟩
    have bounded : granted w.shared.concurrency.waiters ≤ w.shared.concurrency.waiters.length :=
      List.countP_le_length
    rw [tasks, List.length_map] at waiting
    omega
  have split : w.requests.countP (·.pc.concurrent) + w.requests.countP (fun r => r.pc = .waiting) ≤
      w.requests.countP (·.holdsQueue) := by
    refine countP_add_le (fun r member inside => ?_) (fun r member waiting => ?_)
      fun r _ inside => decide_eq_false fun waiting => ?_
    · exact adm.holdsQueue_of_phase member (RequestPc.phase_of_concurrent inside)
    · exact adm.holdsQueue_of_phase member (by rw [of_decide_eq_true waiting]; rfl)
    · rw [waiting] at inside
      cases inside
  omega

/-- The two values `/health` computes. -/
theorem reported (adm : Admission queueDepth limit w) :
    0 ≤ semaphoreUsed (some w.shared.concurrency) limit ∧
      semaphoreUsed (some w.shared.concurrency) limit ≤ semaphoreUsed (some w.shared.queue) queueDepth ∧
      semaphoreUsed (some w.shared.queue) queueDepth ≤ queueDepth := by
  have permits := adm.permits
  have slots := adm.slots
  have nested := adm.active_le
  simp only [Semaphore.idle] at slots
  unfold semaphoreUsed
  dsimp only
  refine ⟨?_, ?_, ?_⟩
  · split_ifs <;> omega
  · split_ifs <;> omega
  · split_ifs <;> omega

/-- The outcome of `queue_sem.locked()`. -/
theorem checked (adm : Admission queueDepth limit w) {i : Nat} {r : SynthesisJob} {ok : Bool}
    (active : w.active = some i) (found : w.requests[i]? = some r) (place : r.pc = .checking) :
    ∃ w', w.step (.step i ok) = some w' ∧ w'.requests[i]? =
      some { r with pc := if w.requests.countP (·.holdsQueue) = queueDepth then .refusing else .admitted } := by
  have permits := adm.permits
  have inside := (List.getElem?_eq_some_iff.1 found).1
  have locked := Semaphore.locked_iff adm.nobody
  by_cases full : w.requests.countP (·.holdsQueue) = queueDepth
  · have refused : w.shared.queue.locked = true := locked.2 (by omega)
    have done : advance i w.shared r ok = some (w.shared, { r with pc := .refusing }, true) := by
      simp only [advance, place, refused, if_true, goOn]
    refine ⟨_, Service.step_iff.2 ⟨active, r, _, found, done, rfl⟩, ?_⟩
    simp only [full, if_true]
    exact List.getElem?_set_self inside
  · have unlocked : w.shared.queue.locked = false := by
      rw [Bool.eq_false_iff]
      exact fun refused => full (by have := locked.1 refused; omega)
    have done : advance i w.shared r ok = some (w.shared, { r with pc := .admitted }, true) := by
      simp only [advance, place, unlocked, Bool.false_eq_true, if_false, goOn]
    refine ⟨_, Service.step_iff.2 ⟨active, r, _, found, done, rfl⟩, ?_⟩
    simp only [full, if_false]
    exact List.getElem?_set_self inside

/-- A request is refused at its check of the queue and nowhere else. -/
theorem refused (adm : Admission queueDepth limit w) {w' : Service} {a : ServiceAct} {i : Nat}
    {r' : SynthesisJob} (step : w.step a = some w') (found : w'.requests[i]? = some r')
    (place : r'.pc = .refusing) :
    w.requests[i]? = some r' ∨
      w.requests.countP (·.holdsQueue) = queueDepth ∧ ∃ r, w.requests[i]? = some r ∧ r.pc = .checking := by
  have permits := adm.permits
  cases Service.step_cases adm.queued step with
  | arrived kind key chunks =>
    rcases getElem?_concat_cases found with before | rfl
    · exact .inl before
    · cases place
  | @moved j s' r q there alone move =>
    obtain ⟨rfl, rfl⟩ | ⟨-, before⟩ := getElem?_set_cases found
    · cases move with
      | quiet same =>
        obtain ⟨checking, locked⟩ := same.refusing place
        have empty := (Semaphore.locked_iff adm.nobody).1 locked
        exact .inr ⟨by omega, r, there, checking⟩
      | queueNow _ _ next => rcases next with rfl | rfl <;> cases place
      | queueReleased _ next => rcases next with rfl | rfl <;> cases place
      | @concurrencyResumed _ _ acquired | @lockResumed _ _ _ _ acquired =>
        cases acquired <;> cases place
      | _ => cases place
    · exact .inl before
  | cancelled calm => exact .inl found

end Admission

/-- **Exact admission.** In every state of every run: one call at a time on a model,
at most `limit` calls, a queue permit for every concurrency permit, and the bounds
on what `/health` reports. The check of the queue refuses exactly while all its
permits are held, and nobody waits for one. -/
theorem admission_exact {queueDepth limit : Nat} {acts : List ServiceAct} {w : Service}
    (run : Transition.runs Service.step (Service.initial queueDepth limit) acts = some w) :
    (∀ (i j : Nat) (r q : SynthesisJob), w.requests[i]? = some r → w.requests[j]? = some q →
      r.pc.isRunning = true → q.pc.isRunning = true → r.key = q.key → i = j) ∧
    w.requests.countP (·.pc.isRunning) ≤ limit ∧
    (∀ i, w.HasConcurrency i → ∃ r, w.requests[i]? = some r ∧ r.holdsQueue = true) ∧
    (0 ≤ semaphoreUsed (some w.shared.concurrency) limit ∧
      semaphoreUsed (some w.shared.concurrency) limit ≤ semaphoreUsed (some w.shared.queue) queueDepth ∧
      semaphoreUsed (some w.shared.queue) queueDepth ≤ queueDepth) ∧
    (∀ (i : Nat) (r : SynthesisJob) (ok : Bool), w.active = some i → w.requests[i]? = some r →
      r.pc = .checking → ∃ w', w.step (.step i ok) = some w' ∧ w'.requests[i]? =
        some { r with pc := if w.requests.countP (·.holdsQueue) = queueDepth then .refusing else .admitted }) ∧
    (∀ (a : ServiceAct) (w' : Service) (i : Nat) (r' : SynthesisJob), w.step a = some w' →
      w'.requests[i]? = some r' → r'.pc = .refusing → w.requests[i]? = some r' ∨
        w.requests.countP (·.holdsQueue) = queueDepth ∧ ∃ r, w.requests[i]? = some r ∧ r.pc = .checking) ∧
    ∀ r ∈ w.requests, r.pc ≠ .waitingQueue := by
  obtain ⟨adm, excl⟩ := Exclusion.run run
  refine ⟨fun i j r q here there runs also same => excl.one_call here there runs also same,
    adm.running_le, fun i has => adm.nested has, adm.reported,
    fun i r ok active found place => adm.checked active found place,
    fun a w' i r' step found place => adm.refused step found place, adm.queued⟩

/-- Two requests take the two queue permits, and a third one is at its check. -/
def crowded : List ServiceAct :=
  [.arrive .buffered ("mlx", "a") 1, .arrive .buffered ("mlx", "b") 1, .arrive .buffered ("mlx", "a") 1,
    .resume 0 false] ++ List.replicate 10 (.step 0 true) ++ [.resume 0 false, .step 0 true,
    .resume 1 false] ++ List.replicate 6 (.step 1 true) ++ [.resume 2 false] ++
    List.replicate 3 (.step 2 true)

theorem crowded_refuses :
    ∃ w, Transition.runs Service.step (Service.initial 2 1) crowded = some w ∧
      w.requests.countP (·.pc.isRunning) = 1 ∧
      ∃ w', w.step (.step 2 true) = some w' ∧ w'.requests[2]?.map (·.pc) = some .refusing := by
  have run := Transition.runs_final Service.step (Service.initial 2 1) crowded
    (by decide +kernel)
  have place : (Transition.final Service.step (Service.initial 2 1) crowded).requests[2]? =
      some ⟨.buffered, ("mlx", "a"), 1, .checking, 0, 0, true⟩ := by
    decide +kernel
  obtain ⟨w', step, there⟩ := (admission_exact run).2.2.2.2.1 2 _ true (by decide +kernel) place rfl
  have full : (Transition.final Service.step (Service.initial 2 1) crowded).requests.countP
      (·.holdsQueue) = 2 := by
    decide +kernel
  refine ⟨_, run, by decide +kernel, w', step, ?_⟩
  rw [there, full]
  rfl

end LlmTts
