import LlmTts.Lib.Slots
import LlmTts.Synthesis.Moves

/-!
# Admission to the queue and to the concurrency limit

The permits of the two semaphores are accounted for in every state of every run:
what the counter does not show is held by a request or granted to one that waits.
-/

namespace LlmTts
open Asyncio Slots

namespace SynthesisJob

/-- The request has acquired a queue permit and not released it. -/
def holdsQueue (r : SynthesisJob) : Bool := r.released < r.acquired

/-- The operations on the queue semaphore that a request has made at this place. -/
def Accounts (r : SynthesisJob) : Prop :=
  match r.pc.phase with
  | .before => r.acquired = 0 ∧ r.released = 0
  | .holding => r.acquired = 1 ∧ r.released = 0
  | .ended => r.released ≤ r.acquired ∧ r.acquired ≤ 1

variable {r : SynthesisJob}

theorem Accounts.before (accounts : r.Accounts) (phase : r.pc.phase = .before) :
    r.acquired = 0 ∧ r.released = 0 := by
  simpa only [Accounts, phase] using accounts

theorem Accounts.holding (accounts : r.Accounts) (phase : r.pc.phase = .holding) :
    r.acquired = 1 ∧ r.released = 0 := by
  simpa only [Accounts, phase] using accounts

theorem Accounts.bounds (accounts : r.Accounts) : r.released ≤ r.acquired ∧ r.acquired ≤ 1 := by
  unfold Accounts at accounts
  split at accounts <;> omega

theorem Accounts.holdsQueue (accounts : r.Accounts) (phase : r.pc.phase = .holding) :
    r.holdsQueue = true := by
  obtain ⟨acquired, released⟩ := accounts.holding phase
  simp [SynthesisJob.holdsQueue, acquired, released]

/-- Every operation keeps the accounts. -/
theorem Accounts.move {i : Nat} {s s' : SharedState} {r' : SynthesisJob} (accounts : r.Accounts)
    (move : Move i s r s' r') : r'.Accounts := by
  have bounds := accounts.bounds
  cases move with
  | quiet same =>
    rcases same.phase with phase | ⟨before, ended⟩
    · unfold Accounts at accounts ⊢
      rwa [phase, same.acquired, same.released]
    · simpa only [Accounts, ended, same.acquired, same.released] using bounds
  | abandoned place => exact bounds
  | queueNow place now next =>
    have before := accounts.before (by rw [place]; rfl)
    rcases next with rfl | rfl <;> exact ⟨by simp [before], before.2⟩
  | queueLater place later => exact accounts.before (by rw [place]; rfl)
  | queueReleased place next =>
    have holding := accounts.holding (by rw [place]; rfl)
    rcases next with rfl | rfl <;> simp [Accounts, holding]
  | @concurrencyResumed _ _ acquired place _ | @lockResumed _ _ _ _ acquired place _ _ =>
    have holding := accounts.holding (by rw [place]; rfl)
    cases acquired <;> exact holding
  | concurrencyNow place _ | concurrencyLater place _ | concurrencyReleased place | lockCreated place
  | lockNow place _ _ | lockLater place _ _ | lockReleased place _ =>
    exact accounts.holding (by rw [place]; rfl)

end SynthesisJob

/-- The permits are accounted for. `queueDepth` and `limit` are the values the two
semaphores were created with. -/
structure Admission (queueDepth limit : Nat) (w : Service) : Prop where
  /-- Only the active request is between two operations. -/
  baton : ∀ i r, w.requests[i]? = some r → r.pc.suspended = false → w.active = some i
  accounts : ∀ r ∈ w.requests, r.Accounts
  queued : ∀ r ∈ w.requests, r.pc ≠ .waitingQueue
  nobody : w.shared.queue.waiters = []
  admitted : ∀ r ∈ w.requests, r.pc = .admitted → w.shared.queue.locked = false
  permits : w.shared.queue.value + w.requests.countP (·.holdsQueue) = queueDepth
  slots : w.shared.concurrency.idle + w.requests.countP (·.pc.concurrent) = limit
  distinct : (tasks w.shared.concurrency.waiters).Nodup
  waits : ∀ i ∈ tasks w.shared.concurrency.waiters, ∃ r, w.requests[i]? = some r ∧ r.pc = .waiting

/-! ## The queue semaphore -/

section Queue

variable {i : Nat} {s s' : SharedState} {r r' : SynthesisJob}

theorem Move.queued (move : Move i s r s' r') (admitted : r.pc = .admitted → s.queue.locked = false) :
    r'.pc ≠ .waitingQueue := by
  cases move with
  | quiet same => exact same.queued
  | queueNow place now next => rcases next with rfl | rfl <;> exact nofun
  | queueLater place later =>
    have free := admitted place
    simp [Semaphore.acquire, free] at later
  | queueReleased place next => rcases next with rfl | rfl <;> exact nofun
  | @concurrencyResumed _ _ acquired | @lockResumed _ _ _ _ acquired => cases acquired <;> exact nofun
  | _ => exact nofun

/-- Nothing happens between the check of the queue and the acquisition. -/
theorem Move.free (move : Move i s r s' r') (admitted : r'.pc = .admitted) :
    s'.queue.locked = false := by
  cases move with
  | quiet same => exact same.admitted admitted
  | queueNow place now next => rcases next with rfl | rfl <;> cases admitted
  | queueReleased place next => rcases next with rfl | rfl <;> cases admitted
  | @concurrencyResumed _ _ acquired | @lockResumed _ _ _ _ acquired => cases acquired <;> cases admitted
  | _ => cases admitted

/-- A queue permit that a request takes or gives back shows on the counter. -/
theorem Move.permit (move : Move i s r s' r') (admitted : r.pc = .admitted → s.queue.locked = false)
    (nobody : s.queue.waiters = []) (accounts : r.Accounts) :
    s'.queue.waiters = [] ∧ s'.queue.value + (if r'.holdsQueue then 1 else 0) =
      s.queue.value + (if r.holdsQueue then 1 else 0) := by
  have idle : ∀ q : Semaphore, q.waiters = [] → q.idle = q.value := fun q empty => by
    simp [Semaphore.idle, empty, granted]
  cases move with
  | quiet same =>
    have holds : r'.holdsQueue = r.holdsQueue := by
      simp only [SynthesisJob.holdsQueue, same.acquired, same.released]
    exact ⟨nobody, by rw [holds]⟩
  | @queueNow queue pc place now next =>
    obtain ⟨less, same⟩ := Semaphore.acquire_now now
    obtain ⟨acquired, released⟩ := accounts.before (by rw [place]; rfl)
    have empty : queue.waiters = [] := same.trans nobody
    rw [idle _ nobody, idle _ empty] at less
    exact ⟨empty, by simp [SynthesisJob.holdsQueue, acquired, released, less]⟩
  | queueLater place later =>
    have free := admitted place
    simp [Semaphore.acquire, free] at later
  | queueReleased place next =>
    obtain ⟨acquired, released⟩ := accounts.holding (by rw [place]; rfl)
    have empty : s.queue.release.waiters = [] := by
      have := s.queue.release_tasks
      simpa [nobody, tasks] using this
    have more := s.queue.release_idle
    rw [idle _ nobody, idle _ empty] at more
    exact ⟨empty, by simp [SynthesisJob.holdsQueue, acquired, released, more]⟩
  | _ => exact ⟨nobody, rfl⟩

end Queue

/-! ## The concurrency semaphore -/

section Concurrency

variable {i : Nat} {s s' : SharedState} {r r' : SynthesisJob}

theorem Move.slot (move : Move i s r s' r') :
    s'.concurrency.idle + (if r'.pc.concurrent then 1 else 0) =
      s.concurrency.idle + (if r.pc.concurrent then 1 else 0) := by
  cases move with
  | quiet same => rw [same.concurrent]
  | abandoned place => rcases place with place | place <;> simp [place]
  | queueNow place now next => rcases next with rfl | rfl <;> simp [place]
  | queueReleased place next => rcases next with rfl | rfl <;> simp [place]
  | concurrencyNow place now =>
    have less := (Semaphore.acquire_now now).1
    simp [place, less]
  | concurrencyLater place later =>
    have same := (Semaphore.acquire_later later).1
    simp [place, same]
  | @concurrencyResumed _ _ acquired place resumed =>
    have less := (Semaphore.resume_some resumed).1
    cases acquired <;> simp [place, less]
  | concurrencyReleased place =>
    have more := s.concurrency.release_idle
    simp [place, more]
  | @lockResumed _ _ _ _ acquired place _ _ => cases acquired <;> simp [place]
  | queueLater place _ | lockCreated place | lockNow place _ _ | lockLater place _ _
  | lockReleased place _ => simp [place]

/-- A request joins the queue of the semaphore when it starts to wait, and leaves it
when it is resumed. -/
theorem Move.waiters (move : Move i s r s' r') :
    (r.pc ≠ .waiting ∧ tasks s'.concurrency.waiters = tasks s.concurrency.waiters) ∨
    (r.pc ≠ .waiting ∧ r'.pc = .waiting ∧
      tasks s'.concurrency.waiters = tasks s.concurrency.waiters ++ [i]) ∨
    (i ∈ tasks s.concurrency.waiters ∧
      tasks s'.concurrency.waiters = (tasks s.concurrency.waiters).erase i) := by
  cases move with
  | quiet same => exact .inl ⟨same.awake, rfl⟩
  | abandoned place => rcases place with place | place <;> exact .inl ⟨by simp [place], rfl⟩
  | concurrencyNow place now =>
    have same := (Semaphore.acquire_now now).2
    exact .inl ⟨by simp [place], congrArg tasks same⟩
  | concurrencyLater place later =>
    have joined := (Semaphore.acquire_later later).2
    refine .inr (.inl ⟨by simp [place], rfl, ?_⟩)
    rw [joined, tasks_append]
  | concurrencyResumed place resumed =>
    obtain ⟨-, member, left⟩ := Semaphore.resume_some resumed
    exact .inr (.inr ⟨member, left⟩)
  | concurrencyReleased place => exact .inl ⟨by simp [place], s.concurrency.release_tasks⟩
  | queueNow place _ _ | queueLater place _ | queueReleased place _ | lockCreated place
  | lockNow place _ _ | lockLater place _ _ | lockResumed place _ _ | lockReleased place _ =>
    exact .inl ⟨by simp [place], rfl⟩

end Concurrency

/-! ## Every run -/

namespace Admission

variable {queueDepth limit : Nat} {w w' : Service}

theorem initial (queueDepth limit : Nat) :
    Admission queueDepth limit (Service.initial queueDepth limit) where
  baton i r found _ := by cases found
  accounts r member := by cases member
  queued r member := by cases member
  nobody := rfl
  admitted r member := by cases member
  permits := rfl
  slots := rfl
  distinct := List.nodup_nil
  waits i member := by cases member

/-- A request that runs, other than `i`, would have the baton. -/
theorem others (adm : Admission queueDepth limit w) {i : Nat} (alone : ∀ j, w.active = some j → j = i)
    (j : Nat) (q : SynthesisJob) (apart : j ≠ i) (there : w.requests[j]? = some q) :
    q.pc.suspended = true := by
  cases suspended : q.pc.suspended with
  | true => rfl
  | false => exact absurd (alone j (adm.baton j q there suspended)) apart

theorem moved (adm : Admission queueDepth limit w) {i : Nat} {s' : SharedState}
    {r r' : SynthesisJob} (found : w.requests[i]? = some r) (alone : ∀ j, w.active = some j → j = i)
    (move : Move i w.shared r s' r') :
    Admission queueDepth limit
      ⟨s', w.requests.set i r', if r'.pc.suspended then none else some i⟩ := by
  have member := List.mem_of_getElem? found
  have accounts := adm.accounts r member
  have free := adm.admitted r member
  have idle := adm.others alone
  obtain ⟨nobody, permit⟩ := move.permit free adm.nobody accounts
  refine ⟨fun j q there suspended => ?_, fun q there => ?_, fun q there => ?_, nobody,
    fun q there admitted => ?_, ?_, ?_, ?_, ?_⟩
  · obtain ⟨rfl, rfl⟩ | ⟨apart, there⟩ := getElem?_set_cases there
    · simp only [suspended, Bool.false_eq_true, if_false]
    · exact nomatch (idle j q apart there).symm.trans suspended
  · rcases mem_set_cases there with rfl | there
    · exact accounts.move move
    · exact adm.accounts q there
  · rcases mem_set_cases there with rfl | there
    · exact move.queued free
    · exact adm.queued q there
  · obtain ⟨j, there⟩ := List.mem_iff_getElem?.1 there
    obtain ⟨rfl, rfl⟩ | ⟨apart, there⟩ := getElem?_set_cases there
    · exact move.free admitted
    · exact absurd (idle j q apart there) (by simp [admitted])
  · have count := countP_set (b := r') (p := (·.holdsQueue)) found
    have total := adm.permits
    dsimp only at count ⊢
    omega
  · have count := countP_set (b := r') (p := (·.pc.concurrent)) found
    have total := adm.slots
    have slot := move.slot
    dsimp only at count ⊢
    omega
  · rcases move.waiters with ⟨-, same⟩ | ⟨out, -, joined⟩ | ⟨-, left⟩
    · rw [same]
      exact adm.distinct
    · rw [joined]
      exact List.nodup_append.2 ⟨adm.distinct, List.nodup_singleton i, fun j old k new => by
        obtain ⟨q, there, waiting⟩ := adm.waits j old
        rintro rfl
        cases List.mem_singleton.1 new
        cases there.symm.trans found
        exact out waiting⟩
    · rw [left]
      exact adm.distinct.erase i
  · intro j waiter
    have others : j ≠ i → j ∈ tasks w.shared.concurrency.waiters →
        ∃ q, (w.requests.set i r')[j]? = some q ∧ q.pc = .waiting := fun apart old => by
      obtain ⟨q, there, waiting⟩ := adm.waits j old
      exact ⟨q, (List.getElem?_set_ne (Ne.symm apart)).trans there, waiting⟩
    rcases move.waiters with ⟨out, same⟩ | ⟨-, waiting, joined⟩ | ⟨-, left⟩
    · rw [same] at waiter
      refine others (fun same => ?_) waiter
      obtain ⟨q, there, waiting⟩ := adm.waits j waiter
      cases same
      cases there.symm.trans found
      exact out waiting
    · by_cases same : j = i
      · subst same
        exact ⟨r', List.getElem?_set_self (List.getElem?_eq_some_iff.1 found).1, waiting⟩
      · rw [joined] at waiter
        refine others same ((List.mem_append.1 waiter).resolve_right fun new => ?_)
        exact same (List.mem_singleton.1 new)
    · rw [left] at waiter
      obtain ⟨apart, old⟩ := adm.distinct.mem_erase_iff.1 waiter
      exact others apart old

theorem stepped (adm : Admission queueDepth limit w) (step : Stepped w w') :
    Admission queueDepth limit w' := by
  cases step with
  | arrived kind key chunks =>
    refine ⟨fun j q there suspended => ?_, fun q there => ?_, fun q there => ?_, adm.nobody,
      fun q there admitted => ?_, ?_, ?_, adm.distinct, fun j waiter => ?_⟩
    · rcases getElem?_concat_cases there with there | rfl
      · exact adm.baton j q there suspended
      · cases suspended
    · rcases List.mem_append.1 there with there | new
      · exact adm.accounts q there
      · cases List.mem_singleton.1 new
        exact ⟨rfl, rfl⟩
    · rcases List.mem_append.1 there with there | new
      · exact adm.queued q there
      · cases List.mem_singleton.1 new
        exact nofun
    · rcases List.mem_append.1 there with there | new
      · exact adm.admitted q there admitted
      · cases List.mem_singleton.1 new
        cases admitted
    · simpa [SynthesisJob.holdsQueue] using adm.permits
    · simpa using adm.slots
    · obtain ⟨q, there, waiting⟩ := adm.waits j waiter
      have inside := (List.getElem?_eq_some_iff.1 there).1
      exact ⟨q, (List.getElem?_append_left inside).trans there, waiting⟩
  | moved found alone move => exact adm.moved found alone move
  | cancelled calm =>
    refine ⟨adm.baton, adm.accounts, adm.queued, ?_, ?_, ?_, ?_, ?_, ?_⟩
    · rw [calm.queue]; exact adm.nobody
    · rw [calm.queue]; exact adm.admitted
    · rw [calm.queue]; exact adm.permits
    · rw [calm.idle]; exact adm.slots
    · rw [calm.tasks]; exact adm.distinct
    · rw [calm.tasks]; exact adm.waits

/-- The permits are accounted for in every state of every run. -/
theorem run {acts : List ServiceAct}
    (run : Transition.runs Service.step (Service.initial queueDepth limit) acts = some w) :
    Admission queueDepth limit w :=
  Transition.runs_inv (fun _ _ _ adm step => adm.stepped (Service.step_cases adm.queued step))
    (initial queueDepth limit) run

end Admission

end LlmTts
