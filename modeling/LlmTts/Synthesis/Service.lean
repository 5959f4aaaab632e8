import LlmTts.Lib.Asyncio
import LlmTts.Lib.Transition

/-!
# Synthesis requests on the event loop

The control flow of `synthesize_core` (buffered through `_run_synthesis`,
streamed through `_stream_synthesis_chunks`) and of `SpeechSynthesizer.generate`
around the two semaphores, the lock of a model and the temp file of a request.
One request runs at a time, until it is suspended at an `await` or a `yield`;
`active` is the request that runs. A step is one operation of that request, so
that every state between two operations is a state of the model.
-/

namespace LlmTts
open Asyncio

/-- `(provider, model)`, the key of `model_locks`. -/
abbrev ModelKey : Type := String × String

/-- The three entries into the synthesis engine. -/
inductive RequestKind where
  | buffered
  | streamed
  | generate
  deriving DecidableEq, Repr

/-- The next operation of a request. A lock is named by its index, and `k` counts
the chunks that are done. -/
inductive RequestPc where
  /-- Suspended before the first operation. -/
  | arrived
  /-- Create the temp file. -/
  | opening
  /-- Write the voice sample to it; `tmp_path` is not set yet. -/
  | writing
  /-- Build the voice configuration and the chunks. -/
  | preparing
  /-- `queue_sem.locked()`. -/
  | checking
  /-- Raise `queue_full`. -/
  | refusing
  /-- `queue_sem.acquire()`. -/
  | admitted
  /-- Suspended in `queue_sem.acquire()`. -/
  | waitingQueue
  /-- Streamed: build the headers, the generator and the response. -/
  | responding
  /-- Suspended with the response built; its generator was never advanced. -/
  | ready
  /-- `concur_sem.acquire()`. -/
  | entering
  /-- Suspended in `concur_sem.acquire()`. -/
  | waiting
  /-- `model_locks.get(key)`. -/
  | locking
  /-- `model_locks[key] = asyncio.Lock()`. -/
  | creating
  /-- `lock.acquire()`. -/
  | acquiring (l : Nat)
  /-- Suspended in `lock.acquire()`. -/
  | waitingLock (l : Nat)
  /-- The head of the chunk loop. -/
  | looping (l k : Nat)
  /-- Buffered: suspended in `request.is_disconnected()`. -/
  | polling (l k : Nat)
  /-- Build the synthesis request and call `run_sync`. -/
  | calling (l k : Nat)
  /-- Suspended in `run_sync`: `synthesize_chunks` runs on a worker thread. -/
  | running (l k : Nat)
  /-- Take the result of the worker. -/
  | received (l k : Nat)
  /-- Streamed: suspended at the `yield` of a chunk. -/
  | yielded (l k : Nat)
  /-- `lock.release()`. -/
  | leavingLock (l : Nat)
  /-- `concur_sem.release()`. -/
  | leaving
  /-- `queue_sem.release()`. -/
  | releasing
  /-- `os.remove` of the temp file. -/
  | cleaning
  | finished
  deriving DecidableEq, Repr

/-- One request. `chunks` is the number of text chunks; `acquired` and `released`
count its operations on the queue semaphore, and `tmpFile` says whether its temp
file is on disk. -/
structure SynthesisJob where
  kind : RequestKind
  key : ModelKey
  chunks : Nat
  pc : RequestPc
  acquired : Nat
  released : Nat
  tmpFile : Bool
  deriving DecidableEq, Repr

/-- The calls of `synthesize_chunks` a request makes; `generate` passes all chunks at once. -/
def SynthesisJob.calls (r : SynthesisJob) : Nat :=
  match r.kind with
  | .generate => 1
  | _ => r.chunks

/-- `app.state`: the two semaphores, the lock dictionary, and the locks. -/
structure SharedState where
  queue : Semaphore
  concurrency : Semaphore
  modelLocks : ModelKey → Option Nat
  locks : List Lock

/-- The service: the shared state, the requests, and the one that runs. -/
structure Service where
  shared : SharedState
  requests : List SynthesisJob
  active : Option Nat

/-- What a request did: the shared state and the request after it, and whether it
runs on or was suspended. -/
abbrev Progress : Type := Option (SharedState × SynthesisJob × Bool)

section Operations

variable (i : Nat) (s : SharedState) (r : SynthesisJob)

/-- The request goes on at `pc`. -/
def goOn (pc : RequestPc) : Progress := some (s, { r with pc := pc }, true)

/-- The request is suspended at `pc`. -/
def suspend (pc : RequestPc) : Progress := some (s, { r with pc := pc }, false)

/-- What follows the release of the queue permit, or a refusal: the `finally` of
`synthesize_core` or of the generator. -/
def afterwards : Progress :=
  match r.kind with
  | .generate => suspend s r .finished
  | _ => goOn s r .cleaning

/-- The next operation of the running request `i`. `ok` says whether it succeeds,
where it can fail. -/
def advance (ok : Bool) : Progress :=
  match r.pc with
  | .opening =>
    match r.kind with
    | .generate => goOn s r .checking
    | _ => if ok then goOn s { r with tmpFile := true } .writing else suspend s r .finished
  | .writing => if ok then goOn s r .preparing else suspend s r .finished
  | .preparing => if ok && 0 < r.chunks then goOn s r .checking else goOn s r .cleaning
  | .checking => if s.queue.locked then goOn s r .refusing else goOn s r .admitted
  | .refusing => afterwards s r
  | .admitted =>
    match s.queue.acquire i with
    | (true, queue) =>
      goOn { s with queue := queue } { r with acquired := r.acquired + 1 }
        (match r.kind with
          | .streamed => .responding
          | _ => .entering)
    | (false, queue) => suspend { s with queue := queue } r .waitingQueue
  -- `tmp_path` was cleared, so that nothing is cleaned up when this fails
  | .responding => suspend s r (if ok then .ready else .finished)
  | .entering =>
    match s.concurrency.acquire i with
    | (true, concurrency) => goOn { s with concurrency := concurrency } r .locking
    | (false, concurrency) => suspend { s with concurrency := concurrency } r .waiting
  | .locking =>
    match s.modelLocks r.key with
    | some l => goOn s r (.acquiring l)
    | none => goOn s r .creating
  | .creating =>
    goOn { s with
      modelLocks := Function.update s.modelLocks r.key (some s.locks.length)
      locks := s.locks ++ [Lock.create] } r (.acquiring s.locks.length)
  | .acquiring l => do
    let lock ← s.locks[l]?
    match lock.acquire i with
    | (true, lock) => goOn { s with locks := s.locks.set l lock } r (.looping l 0)
    | (false, lock) => suspend { s with locks := s.locks.set l lock } r (.waitingLock l)
  | .looping l k =>
    if k < r.calls then
      match r.kind with
      | .buffered => suspend s r (.polling l k)
      | _ => goOn s r (.calling l k)
    else goOn s r (.leavingLock l)
  | .calling l k => if ok then suspend s r (.running l k) else goOn s r (.leavingLock l)
  | .received l k =>
    if ok then
      match r.kind with
      | .streamed => suspend s r (.yielded l k)
      | _ => goOn s r (.looping l (k + 1))
    else goOn s r (.leavingLock l)
  | .leavingLock l => do
    let lock ← s.locks[l]?
    goOn { s with locks := s.locks.set l lock.release } r .leaving
  | .leaving => goOn { s with concurrency := s.concurrency.release } r .releasing
  | .releasing =>
    afterwards { s with queue := s.queue.release } { r with released := r.released + 1 }
  | .cleaning => suspend s { r with tmpFile := false } .finished
  | _ => none

/-- The loop resumes the suspended request `i`. `raises` says that an exception is
raised at the point where it is suspended: a cancellation, a provider error, a
disconnect, the closing of a generator. A generator that was never advanced is
discarded instead. -/
def awaken (raises : Bool) : Progress :=
  match r.pc with
  | .arrived => if raises then suspend s r .finished else goOn s r .opening
  | .waitingQueue => do
    match ← s.queue.resume i raises with
    | (true, queue) =>
      goOn { s with queue := queue } { r with acquired := r.acquired + 1 }
        (match r.kind with
          | .streamed => .responding
          | _ => .entering)
    | (false, queue) => afterwards { s with queue := queue } r
  | .ready => if raises then suspend s r .finished else goOn s r .entering
  | .waiting => do
    match ← s.concurrency.resume i raises with
    | (true, concurrency) => goOn { s with concurrency := concurrency } r .locking
    | (false, concurrency) => goOn { s with concurrency := concurrency } r .releasing
  | .waitingLock l => do
    let lock ← s.locks[l]?
    match ← lock.resume i raises with
    | (true, lock) => goOn { s with locks := s.locks.set l lock } r (.looping l 0)
    | (false, lock) => goOn { s with locks := s.locks.set l lock } r .leaving
  | .polling l k => goOn s r (if raises then .leavingLock l else .calling l k)
  | .running l k => goOn s r (if raises then .leavingLock l else .received l k)
  | .yielded l k => goOn s r (if raises then .leavingLock l else .looping l (k + 1))
  | _ => none

/-- `task.cancel()` of a request that waits in a queue; elsewhere a cancellation is
an `awaken` that raises. -/
def cancelled : Option SharedState :=
  match r.pc with
  | .waitingQueue => some { s with queue := s.queue.cancel i }
  | .waiting => some { s with concurrency := s.concurrency.cancel i }
  | .waitingLock l => do
    let lock ← s.locks[l]?
    some { s with locks := s.locks.set l (lock.cancel i) }
  | _ => none

end Operations

/-- What can happen next. -/
inductive ServiceAct where
  | arrive (kind : RequestKind) (key : ModelKey) (chunks : Nat)
  | step (i : Nat) (ok : Bool)
  | resume (i : Nat) (raises : Bool)
  | cancel (i : Nat)
  deriving DecidableEq, Repr

namespace Service

/-- The service of a queue depth and a concurrency limit. -/
def initial (maxQueueDepth maxConcurrentRequests : Nat) : Service where
  shared := ⟨.create maxQueueDepth, .create maxConcurrentRequests, fun _ => none, []⟩
  requests := []
  active := none

/-- Request `i` has made progress. -/
def put (w : Service) (i : Nat) (progress : SharedState × SynthesisJob × Bool) : Service where
  shared := progress.1
  requests := w.requests.set i progress.2.1
  active := if progress.2.2 then some i else none

def step (w : Service) : ServiceAct → Option Service
  | .arrive kind key chunks =>
    some { w with requests := w.requests ++ [⟨kind, key, chunks, .arrived, 0, 0, false⟩] }
  | .step i ok => do
    guard (w.active = some i)
    let r ← w.requests[i]?
    return w.put i (← advance i w.shared r ok)
  | .resume i raises => do
    guard (w.active = none)
    let r ← w.requests[i]?
    return w.put i (← awaken i w.shared r raises)
  | .cancel i => do
    guard (w.active = none)
    let r ← w.requests[i]?
    return { w with shared := ← cancelled i w.shared r }

/-- No request is in flight. -/
def Quiescent (w : Service) : Prop := ∀ r ∈ w.requests, r.pc = .finished

instance (w : Service) : Decidable w.Quiescent :=
  inferInstanceAs (Decidable (∀ r ∈ w.requests, r.pc = .finished))

end Service

/-- `_semaphore_used`: the permits `/health` reports as taken. -/
def semaphoreUsed (sem : Option Semaphore) (capacity : Int) : Int :=
  match sem with
  | none => 0
  | some s =>
    if capacity ≤ 0 then 0
    else if 0 < capacity - s.value then capacity - s.value else 0

end LlmTts
