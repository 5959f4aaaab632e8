import LlmTts.Synthesis.Service

/-!
# What one operation of a request can do

`advance` and `awaken` have about thirty branches. `Move` sorts them by what they
do to the semaphores and locks, and `step_cases` says it for a step of the
service. The invariants are proved by cases on these two.
-/

namespace LlmTts
open Asyncio

/-- Where a request is with respect to the queue permit. -/
inductive Phase where
  | before
  | holding
  | ended
  deriving DecidableEq, Repr

namespace RequestPc

/-- The request does not run on from here by itself. -/
def suspended : RequestPc → Bool
  | arrived | waitingQueue | ready | waiting | waitingLock _ | polling _ _ | running _ _
  | yielded _ _ | finished => true
  | _ => false

def phase : RequestPc → Phase
  | arrived | opening | writing | preparing | checking | refusing | admitted | waitingQueue => .before
  | cleaning | finished => .ended
  | _ => .holding

/-- The lock the request has. -/
def held? : RequestPc → Option Nat
  | looping l _ | polling l _ | calling l _ | running l _ | received l _ | yielded l _
  | leavingLock l => some l
  | _ => none

/-- The lock the request has looked up. -/
def model? : RequestPc → Option Nat
  | acquiring l | waitingLock l => some l
  | pc => pc.held?

/-- The request is inside `async with concur_sem`. -/
def concurrent : RequestPc → Bool
  | locking | creating | leaving => true
  | pc => pc.model?.isSome

/-- A `synthesize_chunks` call runs on a worker thread. -/
def isRunning : RequestPc → Bool
  | running _ _ => true
  | _ => false

attribute [simp] suspended phase held? model? concurrent isRunning

/-- Inside `async with concur_sem` the request has its queue permit. -/
theorem phase_of_concurrent {pc : RequestPc} (inside : pc.concurrent = true) : pc.phase = .holding := by
  cases pc <;> first | rfl | cases inside

/-- The lock that a request has is the one that it looked up. -/
theorem model?_of_held? {pc : RequestPc} {l : Nat} (held : pc.held? = some l) : pc.model? = some l := by
  cases pc <;> first | exact held | cases held

/-- A worker thread runs for a request that has a lock. -/
theorem held?_of_isRunning {pc : RequestPc} (runs : pc.isRunning = true) : ∃ l, pc.held? = some l := by
  cases pc <;> first | exact ⟨_, rfl⟩ | cases runs

/-- A worker thread runs for a request inside `async with concur_sem`. -/
theorem concurrent_of_isRunning {pc : RequestPc} (runs : pc.isRunning = true) : pc.concurrent = true := by
  cases pc <;> first | rfl | cases runs

end RequestPc

/-- A request goes from one place to another without an operation on a semaphore
or on a lock. -/
structure Quiet (s : SharedState) (r r' : SynthesisJob) : Prop where
  key : r'.key = r.key
  acquired : r'.acquired = r.acquired
  released : r'.released = r.released
  phase : r'.pc.phase = r.pc.phase ∨ r.pc.phase = .before ∧ r'.pc.phase = .ended
  concurrent : r'.pc.concurrent = r.pc.concurrent
  held : r'.pc.held? = r.pc.held?
  model : r'.pc.model? = r.pc.model? ∨ r'.pc.model? = s.modelLocks r.key
  live : r.pc ≠ .finished
  awake : r.pc ≠ .waiting
  runs : r'.pc ≠ .waiting
  queued : r'.pc ≠ .waitingQueue
  admitted : r'.pc = .admitted → s.queue.locked = false
  refusing : r'.pc = .refusing → r.pc = .checking ∧ s.queue.locked = true
  creating : r'.pc = .creating → s.modelLocks r.key = none

/-- What one operation of request `i` does, unless it was suspended in `queue_sem.acquire()`. -/
inductive Move (i : Nat) (s : SharedState) (r : SynthesisJob) : SharedState → SynthesisJob → Prop where
  | quiet {r' : SynthesisJob} (same : Quiet s r r') : Move i s r s r'
  /-- The permit of a streamed request is lost with its response or its generator. -/
  | abandoned (place : r.pc = .responding ∨ r.pc = .ready) : Move i s r s { r with pc := .finished }
  | queueNow {queue : Semaphore} {pc : RequestPc} (place : r.pc = .admitted)
      (now : s.queue.acquire i = (true, queue)) (next : pc = .responding ∨ pc = .entering) :
      Move i s r { s with queue := queue } { r with pc := pc, acquired := r.acquired + 1 }
  | queueLater {queue : Semaphore} (place : r.pc = .admitted)
      (later : s.queue.acquire i = (false, queue)) :
      Move i s r { s with queue := queue } { r with pc := .waitingQueue }
  | queueReleased {pc : RequestPc} (place : r.pc = .releasing) (next : pc = .cleaning ∨ pc = .finished) :
      Move i s r { s with queue := s.queue.release } { r with pc := pc, released := r.released + 1 }
  | concurrencyNow {concurrency : Semaphore} (place : r.pc = .entering)
      (now : s.concurrency.acquire i = (true, concurrency)) :
      Move i s r { s with concurrency := concurrency } { r with pc := .locking }
  | concurrencyLater {concurrency : Semaphore} (place : r.pc = .entering)
      (later : s.concurrency.acquire i = (false, concurrency)) :
      Move i s r { s with concurrency := concurrency } { r with pc := .waiting }
  | concurrencyResumed {concurrency : Semaphore} {raises acquired : Bool} (place : r.pc = .waiting)
      (resumed : s.concurrency.resume i raises = some (acquired, concurrency)) :
      Move i s r { s with concurrency := concurrency }
        { r with pc := if acquired then .locking else .releasing }
  | concurrencyReleased (place : r.pc = .leaving) :
      Move i s r { s with concurrency := s.concurrency.release } { r with pc := .releasing }
  | lockCreated (place : r.pc = .creating) :
      Move i s r
        { s with
          modelLocks := Function.update s.modelLocks r.key (some s.locks.length)
          locks := s.locks ++ [Lock.create] }
        { r with pc := .acquiring s.locks.length }
  | lockNow {l : Nat} {lock after : Lock} (place : r.pc = .acquiring l) (found : s.locks[l]? = some lock)
      (now : lock.acquire i = (true, after)) :
      Move i s r { s with locks := s.locks.set l after } { r with pc := .looping l 0 }
  | lockLater {l : Nat} {lock after : Lock} (place : r.pc = .acquiring l) (found : s.locks[l]? = some lock)
      (later : lock.acquire i = (false, after)) :
      Move i s r { s with locks := s.locks.set l after } { r with pc := .waitingLock l }
  | lockResumed {l : Nat} {lock after : Lock} {raises acquired : Bool} (place : r.pc = .waitingLock l)
      (found : s.locks[l]? = some lock) (resumed : lock.resume i raises = some (acquired, after)) :
      Move i s r { s with locks := s.locks.set l after }
        { r with pc := if acquired then .looping l 0 else .leaving }
  | lockReleased {l : Nat} {lock : Lock} (place : r.pc = .leavingLock l) (found : s.locks[l]? = some lock) :
      Move i s r { s with locks := s.locks.set l lock.release } { r with pc := .leaving }

/-- The model of a request does not change. -/
theorem Move.key {i : Nat} {s s' : SharedState} {r r' : SynthesisJob} (move : Move i s r s' r') :
    r'.key = r.key := by
  cases move with
  | quiet same => exact same.key
  | _ => rfl

/-- A request that has ended does not move. -/
theorem Move.live {i : Nat} {s s' : SharedState} {r r' : SynthesisJob} (move : Move i s r s' r') :
    r.pc ≠ .finished := by
  cases move with
  | quiet same => exact same.live
  | abandoned place => rcases place with place | place <;> simp [place]
  | queueNow place _ _ | queueLater place _ | queueReleased place _ | concurrencyNow place _
  | concurrencyLater place _ | concurrencyResumed place _ | concurrencyReleased place
  | lockCreated place | lockNow place _ _ | lockLater place _ _ | lockResumed place _ _
  | lockReleased place _ => simp [place]

section Sorting

variable {i : Nat} {s s' : SharedState} {r r' : SynthesisJob} {on : Bool}

/-- The operation of a request that runs is one of the moves. -/
theorem advance_move {ok : Bool} (done : advance i s r ok = some (s', r', on)) :
    Move i s r s' r' ∧ r'.pc.suspended = !on := by
  cases place : r.pc with
  | admitted =>
    simp only [advance, place] at done
    split at done
    · rename_i queue now
      cases done
      refine ⟨.queueNow place now ?_, ?_⟩ <;> split <;> simp
    · rename_i queue later
      cases done
      exact ⟨.queueLater place later, rfl⟩
  | entering =>
    simp only [advance, place] at done
    split at done
    · rename_i concurrency now
      cases done
      exact ⟨.concurrencyNow place now, rfl⟩
    · rename_i concurrency later
      cases done
      exact ⟨.concurrencyLater place later, rfl⟩
  | creating =>
    simp only [advance, place] at done
    cases done
    exact ⟨.lockCreated place, rfl⟩
  | acquiring l =>
    simp only [advance, place] at done
    obtain ⟨lock, found, done⟩ := Option.bind_eq_some_iff.1 done
    split at done
    · rename_i after now
      cases done
      exact ⟨.lockNow place found now, rfl⟩
    · rename_i after later
      cases done
      exact ⟨.lockLater place found later, rfl⟩
  | leavingLock l =>
    simp only [advance, place] at done
    obtain ⟨lock, found, done⟩ := Option.bind_eq_some_iff.1 done
    cases done
    exact ⟨.lockReleased place found, rfl⟩
  | leaving =>
    simp only [advance, place] at done
    cases done
    exact ⟨.concurrencyReleased place, rfl⟩
  | releasing =>
    simp only [advance, place, afterwards] at done
    split at done <;> cases done
    · exact ⟨.queueReleased place (.inr rfl), rfl⟩
    · exact ⟨.queueReleased place (.inl rfl), rfl⟩
  | responding =>
    simp only [advance, place] at done
    cases done
    cases ok
    · exact ⟨.abandoned (.inl place), rfl⟩
    · exact ⟨.quiet (by constructor <;> simp [place]), rfl⟩
  | _ =>
    simp only [advance, place, goOn, suspend, afterwards] at done
    (repeat' split at done) <;> cases done <;>
      exact ⟨.quiet (by constructor <;> simp_all), rfl⟩

/-- So is the operation of a request that the loop resumes. -/
theorem awaken_move {raises : Bool} (queued : r.pc ≠ .waitingQueue)
    (done : awaken i s r raises = some (s', r', on)) : Move i s r s' r' ∧ r'.pc.suspended = !on := by
  cases place : r.pc with
  | waitingQueue => exact absurd place queued
  | waiting =>
    simp only [awaken, place] at done
    obtain ⟨⟨acquired, concurrency⟩, resumed, done⟩ := Option.bind_eq_some_iff.1 done
    have move := Move.concurrencyResumed place resumed
    cases acquired <;> cases done <;> exact ⟨move, rfl⟩
  | waitingLock l =>
    simp only [awaken, place] at done
    obtain ⟨lock, found, done⟩ := Option.bind_eq_some_iff.1 done
    obtain ⟨⟨acquired, after⟩, resumed, done⟩ := Option.bind_eq_some_iff.1 done
    have move := Move.lockResumed place found resumed
    cases acquired <;> cases done <;> exact ⟨move, rfl⟩
  | ready =>
    simp only [awaken, place] at done
    cases raises <;> cases done
    · exact ⟨.quiet (by constructor <;> simp [place]), rfl⟩
    · exact ⟨.abandoned (.inr place), rfl⟩
  | _ =>
    simp only [awaken, place, goOn, suspend] at done
    (repeat' split at done) <;> cases done <;>
      exact ⟨.quiet (by constructor <;> simp_all), rfl⟩

end Sorting

/-- The cancellation of a task that waits reaches its future and nothing else. -/
structure Calm (s s' : SharedState) : Prop where
  queue : s'.queue = s.queue
  idle : s'.concurrency.idle = s.concurrency.idle
  tasks : tasks s'.concurrency.waiters = tasks s.concurrency.waiters
  modelLocks : s'.modelLocks = s.modelLocks
  locked : ∀ l : Nat, s'.locks[l]?.map Lock.locked = s.locks[l]?.map Lock.locked

/-- A cancellation reaches a waiting future alone. -/
theorem cancelled_calm {i : Nat} {s s' : SharedState} {r : SynthesisJob} (queued : r.pc ≠ .waitingQueue)
    (done : cancelled i s r = some s') : Calm s s' := by
  unfold cancelled at done
  split at done
  · rename_i place
    exact absurd place queued
  · cases done
    exact ⟨rfl, s.concurrency.cancel_idle i, s.concurrency.cancel_tasks i, rfl, fun _ => rfl⟩
  · rename_i l place
    obtain ⟨lock, found, done⟩ := Option.bind_eq_some_iff.1 done
    cases done
    refine ⟨rfl, rfl, rfl, rfl, fun k => ?_⟩
    by_cases same : l = k
    · subst same
      rw [List.getElem?_set_self (List.getElem?_eq_some_iff.1 found).1, found]
      rfl
    · rw [List.getElem?_set_ne same]
  · cases done

/-- What a step of the service does while no request waits for a queue permit. -/
inductive Stepped (w : Service) : Service → Prop where
  | arrived (kind : RequestKind) (key : ModelKey) (chunks : Nat) :
      Stepped w { w with requests := w.requests ++ [⟨kind, key, chunks, .arrived, 0, 0, false⟩] }
  | moved {i : Nat} {s' : SharedState} {r r' : SynthesisJob} (found : w.requests[i]? = some r)
      (alone : ∀ j, w.active = some j → j = i) (move : Move i w.shared r s' r') :
      Stepped w ⟨s', w.requests.set i r', if r'.pc.suspended then none else some i⟩
  | cancelled {s' : SharedState} (calm : Calm w.shared s') : Stepped w { w with shared := s' }

namespace Service

variable {w w' : Service} {i : Nat}

/-- The active request goes on. -/
theorem step_iff {ok : Bool} : w.step (.step i ok) = some w' ↔
    w.active = some i ∧
      ∃ r p, w.requests[i]? = some r ∧ advance i w.shared r ok = some p ∧ w.put i p = w' := by
  by_cases active : w.active = some i <;> simp [step, guard, active, Option.bind_eq_some_iff]

/-- Where none is active, the loop resumes a request. -/
theorem resume_iff {raises : Bool} : w.step (.resume i raises) = some w' ↔
    w.active = none ∧
      ∃ r p, w.requests[i]? = some r ∧ awaken i w.shared r raises = some p ∧ w.put i p = w' := by
  by_cases active : w.active = none <;> simp [step, guard, active, Option.bind_eq_some_iff]

/-- Where none is active, a task may be cancelled. -/
theorem cancel_iff : w.step (.cancel i) = some w' ↔
    w.active = none ∧
      ∃ r s', w.requests[i]? = some r ∧ cancelled i w.shared r = some s' ∧ { w with shared := s' } = w' := by
  by_cases active : w.active = none <;> simp [step, guard, active, Option.bind_eq_some_iff]

/-- The request stays active exactly if it is not suspended. -/
theorem put_eq {p : SharedState × SynthesisJob × Bool} (on : p.2.1.pc.suspended = !p.2.2) :
    w.put i p = ⟨p.1, w.requests.set i p.2.1, if p.2.1.pc.suspended then none else some i⟩ := by
  rw [put, on]
  cases p.2.2 <;> rfl

/-- Whatever the service does is an arrival, a move of one request, or a cancellation. -/
theorem step_cases {a : ServiceAct} (queued : ∀ r ∈ w.requests, r.pc ≠ .waitingQueue)
    (step : w.step a = some w') : Stepped w w' := by
  cases a with
  | arrive kind key chunks =>
    cases step
    exact .arrived kind key chunks
  | step i ok =>
    obtain ⟨active, r, p, found, done, rfl⟩ := step_iff.1 step
    obtain ⟨move, on⟩ := advance_move done
    rw [put_eq on]
    exact .moved found (fun j other => Option.some.inj (other.symm.trans active)) move
  | resume i raises =>
    obtain ⟨active, r, p, found, done, rfl⟩ := resume_iff.1 step
    obtain ⟨move, on⟩ := awaken_move (queued r (List.mem_of_getElem? found)) done
    rw [put_eq on]
    exact .moved found (fun j other => nomatch other.symm.trans active) move
  | cancel i =>
    obtain ⟨active, r, s', found, done, rfl⟩ := cancel_iff.1 step
    exact .cancelled (cancelled_calm (queued r (List.mem_of_getElem? found)) done)

end Service

end LlmTts
