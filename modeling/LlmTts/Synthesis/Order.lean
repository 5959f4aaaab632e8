import LlmTts.Synthesis.Progress

/-!
# First come, first served

The concurrency permits and the locks of the models go to the requests in the order in
which these began to wait. `no_overtaking` says it for one step of any run: who is still
pending stands behind the one that is served, and the queues keep their order.
-/

namespace LlmTts
open Asyncio Slots
open scoped List

section Served

variable {i : Nat} {s s' : SharedState} {r r' : SynthesisJob}

/-- A move grants no permit behind a pending waiter. -/
theorem Move.ordered (move : Move i s r s' r') (ordered : Ordered s.concurrency.waiters) :
    Ordered s'.concurrency.waiters := by
  cases move with
  | concurrencyNow place now => exact Semaphore.acquire_ordered ordered now
  | concurrencyLater place later => exact Semaphore.acquire_ordered ordered later
  | concurrencyResumed place resumed => exact Semaphore.resume_ordered ordered resumed
  | concurrencyReleased place => exact Semaphore.release_ordered ordered
  | _ => exact ordered

/-- Where a request gets a concurrency permit, whoever waits for one came later. -/
theorem Move.permit_first (move : Move i s r s' r') (ordered : Ordered s.concurrency.waiters)
    (outside : r.pc.concurrent = false) (inside : r'.pc.concurrent = true) {x : Waiter}
    (member : x ∈ s.concurrency.waiters) (pending : x.state = .pending) :
    [⟨i, .granted⟩, x] <+ s.concurrency.waiters := by
  cases move with
  | quiet same => exact nomatch (same.concurrent.symm.trans inside).symm.trans outside
  | concurrencyNow place now => exact nomatch pending.symm.trans (Semaphore.acquire_nobody now x member)
  | @concurrencyResumed _ _ acquired place resumed =>
    cases acquired with
    | true => exact Semaphore.resume_first ordered resumed member pending
    | false => cases inside
  | queueNow place now next => rcases next with rfl | rfl <;> cases inside
  | queueReleased place next => rcases next with rfl | rfl <;> cases inside
  | lockCreated place | lockNow place _ _ | lockLater place _ _ | lockResumed place _ _ | lockReleased place _ =>
    simp [place] at outside
  | _ => cases inside

/-- Where a request gets the lock of a model, whoever waits for it came later. -/
theorem Move.lock_first (move : Move i s r s' r') {l : Nat} {lock : Lock} (found : s.locks[l]? = some lock)
    (outside : r.pc.held? ≠ some l) (inside : r'.pc.held? = some l) {x : Waiter} (member : x ∈ lock.waiters)
    (pending : x.state = .pending) : [⟨i, .granted⟩, x] <+ lock.waiters := by
  cases move with
  | quiet same => exact absurd (same.held.symm.trans inside) outside
  | lockNow place here now =>
    cases inside
    cases here.symm.trans found
    exact nomatch pending.symm.trans (Lock.acquire_nobody now x member)
  | @lockResumed _ _ _ _ acquired place here resumed =>
    cases acquired with
    | true =>
      cases inside
      cases here.symm.trans found
      exact Lock.resume_first resumed member pending
    | false => cases inside
  | queueNow place now next => rcases next with rfl | rfl <;> cases inside
  | queueReleased place next => rcases next with rfl | rfl <;> cases inside
  | @concurrencyResumed _ _ acquired => cases acquired <;> cases inside
  | _ => cases inside

/-- A move keeps the order of the waiting tasks. -/
theorem Move.inOrder (move : Move i s r s' r') (distinct : (tasks s.concurrency.waiters).Nodup) :
    InOrder (tasks s.concurrency.waiters) (tasks s'.concurrency.waiters) := by
  rcases move.waiters with ⟨-, same⟩ | ⟨-, -, joined⟩ | ⟨-, left⟩
  · rw [same]
    exact .same
  · rw [joined]
    exact .joined i
  · rw [left]
    exact .left distinct i

/-- So it does in the queue of a lock. -/
theorem LocksMove.inOrder (move : LocksMove i s r s' r') {l : Nat} {lock after : Lock}
    (distinct : (tasks lock.waiters).Nodup) (found : s.locks[l]? = some lock) (there : s'.locks[l]? = some after) :
    InOrder (tasks lock.waiters) (tasks after.waiters) := by
  cases move with
  | kept locks outside inside held =>
    rw [locks, found] at there
    cases there
    exact .same
  | created locks outside inside held =>
    rw [locks, List.getElem?_append_left (List.getElem?_eq_some_iff.1 found).1, found] at there
    cases there
    exact .same
  | queued locks here served held move =>
    rw [locks] at there
    obtain ⟨rfl, rfl⟩ | ⟨-, there⟩ := getElem?_set_cases there
    · cases here.symm.trans found
      cases move with
      | passed _ _ same =>
        rw [same]
        exact .same
      | joined _ _ _ same =>
        rw [same]
        exact .joined i
      | left _ _ _ same =>
        rw [same]
        exact .left distinct i
    · cases there.symm.trans found
      exact .same

end Served

/-- What the order of service relies on. -/
structure Queued (queueDepth limit : Nat) (w : Service) : Prop where
  attended : Attended queueDepth limit w
  ordered : Ordered w.shared.concurrency.waiters

namespace Queued

variable {queueDepth limit : Nat} {w w' : Service}

/-- What a step keeps, and whom it serves. -/
structure Serves (w w' : Service) : Prop where
  permits : InOrder (tasks w.shared.concurrency.waiters) (tasks w'.shared.concurrency.waiters)
  locks : ∀ (l : Nat) (lock after : Lock), w.shared.locks[l]? = some lock → w'.shared.locks[l]? = some after →
    InOrder (tasks lock.waiters) (tasks after.waiters)
  permit_first : ∀ (i : Nat) (r r' : SynthesisJob), w.requests[i]? = some r → w'.requests[i]? = some r' →
    r.pc.concurrent = false → r'.pc.concurrent = true → ∀ x ∈ w.shared.concurrency.waiters, x.state = .pending →
      [⟨i, .granted⟩, x] <+ w.shared.concurrency.waiters
  lock_first : ∀ (i l : Nat) (lock : Lock) (r r' : SynthesisJob), w.requests[i]? = some r →
    w'.requests[i]? = some r' → w.shared.locks[l]? = some lock → r.pc.held? ≠ some l → r'.pc.held? = some l →
      ∀ x ∈ lock.waiters, x.state = .pending → [⟨i, .granted⟩, x] <+ lock.waiters

/-- A move serves the first of those that wait. -/
theorem Serves.of_move {i : Nat} {s' : SharedState} {r r' : SynthesisJob} {active : Option Nat}
    (queued : Queued queueDepth limit w) (found : w.requests[i]? = some r) (move : Move i w.shared r s' r')
    (locks : LocksMove i w.shared r s' r') : Serves w ⟨s', w.requests.set i r', active⟩ := by
  have attended := queued.attended
  refine ⟨move.inOrder attended.drainable.admission.distinct,
    fun l lock after here there => locks.inOrder (attended.queues.distinct l lock here) here there,
    fun j q q' before after outside inside x member pending => ?_,
    fun j l lock q q' before after here outside inside x member pending => ?_⟩
  · obtain ⟨rfl, rfl⟩ | ⟨-, same⟩ := getElem?_set_cases after
    · cases before.symm.trans found
      exact move.permit_first queued.ordered outside inside member pending
    · cases before.symm.trans same
      exact nomatch outside.symm.trans inside
  · obtain ⟨rfl, rfl⟩ | ⟨-, same⟩ := getElem?_set_cases after
    · cases before.symm.trans found
      exact move.lock_first here outside inside member pending
    · cases before.symm.trans same
      exact absurd inside outside

theorem initial (queueDepth limit : Nat) : Queued queueDepth limit (.initial queueDepth limit) :=
  ⟨.initial queueDepth limit, List.Pairwise.nil⟩

/-- So does every step of the service. -/
theorem step (queued : Queued queueDepth limit w) {a : ServiceAct} (step : w.step a = some w') :
    Queued queueDepth limit w' ∧ Serves w w' := by
  have next := queued.attended.step step
  have waiting := queued.attended.drainable.admission.queued
  cases a with
  | arrive kind key chunks =>
    cases step
    refine ⟨⟨next, queued.ordered⟩, .same, fun l lock after here there => ?_, fun j q q' before after outside inside => ?_,
      fun j l lock q q' before after _ outside inside => ?_⟩
    · cases here.symm.trans there
      exact .same
    · rw [List.getElem?_append_left (List.getElem?_eq_some_iff.1 before).1, before] at after
      cases after
      exact nomatch outside.symm.trans inside
    · rw [List.getElem?_append_left (List.getElem?_eq_some_iff.1 before).1, before] at after
      cases after
      exact absurd inside outside
  | step i ok =>
    obtain ⟨active, r, p, found, done, rfl⟩ := Service.step_iff.1 step
    have move := (advance_move done).1
    exact ⟨⟨next, move.ordered queued.ordered⟩, .of_move queued found move (advance_locks done)⟩
  | resume i raises =>
    obtain ⟨active, r, p, found, done, rfl⟩ := Service.resume_iff.1 step
    have placed := waiting r (List.mem_of_getElem? found)
    have move := (awaken_move placed done).1
    exact ⟨⟨next, move.ordered queued.ordered⟩, .of_move queued found move (awaken_locks placed done)⟩
  | cancel i =>
    obtain ⟨active, r, s', found, done, rfl⟩ := Service.cancel_iff.1 step
    have calm := cancelled_calm (waiting r (List.mem_of_getElem? found)) done
    refine ⟨⟨next, ?_⟩, ?_, fun l lock after here there => ?_, fun j q q' before after outside inside => ?_,
      fun j l lock q q' before after _ outside inside => ?_⟩
    · rcases cancelled_concurrency done with same | cancelled <;> dsimp only
      · rw [same]
        exact queued.ordered
      · rw [cancelled]
        exact queued.ordered.cancelWaiter i
    · dsimp only
      rw [calm.tasks]
      exact .same
    · dsimp only at there
      rcases cancelled_locks done with same | ⟨k, other, known, locks⟩
      · rw [same] at there
        cases here.symm.trans there
        exact .same
      · rw [locks] at there
        obtain ⟨rfl, rfl⟩ | ⟨-, there⟩ := getElem?_set_cases there
        · cases known.symm.trans here
          rw [Lock.cancel_tasks]
          exact .same
        · cases here.symm.trans there
          exact .same
    · cases before.symm.trans after
      exact nomatch outside.symm.trans inside
    · cases before.symm.trans after
      exact absurd inside outside

end Queued

/-- **First come, first served.** In every step of every run, the queue of the
concurrency permits and that of each lock keep their order, whoever starts to wait joins
them at the end, and whoever gets a permit or a lock stood before every request that is
still pending, so that nobody gets one at once while somebody waits. -/
theorem no_overtaking {queueDepth limit : Nat} {acts : List ServiceAct} {w w' : Service} {a : ServiceAct}
    (run : Transition.runs Service.step (Service.initial queueDepth limit) acts = some w)
    (step : w.step a = some w') : Queued.Serves w w' := by
  have queued : Queued queueDepth limit w :=
    Transition.runs_inv (fun _ _ _ queued step => (queued.step step).1) (.initial queueDepth limit) run
  exact (queued.step step).2

/-- Two requests wait for the permit of a third one, which gives it back. -/
def twoWait : List ServiceAct :=
  [.arrive .generate ("mlx", "a") 1, .arrive .generate ("mlx", "a") 1, .arrive .generate ("mlx", "b") 1,
    .resume 0 false] ++ List.replicate 9 (.step 0 true) ++ [.resume 1 false] ++ List.replicate 4 (.step 1 true) ++
    [.resume 2 false] ++ List.replicate 4 (.step 2 true) ++ [.resume 0 false] ++ List.replicate 5 (.step 0 true)

theorem twoWait_inOrder :
    ∃ w w', Transition.runs Service.step (Service.initial 3 1) twoWait = some w ∧ w.step (.resume 1 false) = some w' ∧
      w'.requests.map (·.pc) = [.finished, .locking, .waiting] ∧
      [⟨1, .granted⟩, ⟨2, .pending⟩] <+ w.shared.concurrency.waiters := by
  have run := Transition.runs_final Service.step (Service.initial 3 1) twoWait (by decide +kernel)
  have moved : ((Transition.final Service.step (Service.initial 3 1) twoWait).step (.resume 1 false)).map
      (·.requests) = some [⟨.generate, ("mlx", "a"), 1, .finished, 1, 1, false⟩,
        ⟨.generate, ("mlx", "a"), 1, .locking, 1, 0, false⟩, ⟨.generate, ("mlx", "b"), 1, .waiting, 1, 0, false⟩] := by
    decide +kernel
  obtain ⟨w', next, requests⟩ := Option.map_eq_some_iff.1 moved
  have before : (Transition.final Service.step (Service.initial 3 1) twoWait).requests[1]? =
      some ⟨.generate, ("mlx", "a"), 1, .waiting, 1, 0, false⟩ := by
    decide +kernel
  have after : w'.requests[1]? = some ⟨.generate, ("mlx", "a"), 1, .locking, 1, 0, false⟩ := by
    rw [requests]
    rfl
  exact ⟨_, w', run, next, by rw [requests]; rfl,
    (no_overtaking run next).permit_first 1 _ _ before after rfl rfl ⟨2, .pending⟩ (by decide +kernel) rfl⟩

end LlmTts
