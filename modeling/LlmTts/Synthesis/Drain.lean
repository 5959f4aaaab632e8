import Mathlib.Data.Rat.Defs
import LlmTts.Synthesis.Admission

/-!
# The drain at shutdown

When the lifespan ends, `_drain_concurrency` polls the counter of the concurrency
semaphore while the requests in flight go on. It reports completion when the
counter shows every permit. `drained_iff` says when no request that was admitted
to the queue is left at that moment.
-/

namespace LlmTts
open Asyncio Slots

/-- Where `_drain_concurrency` is. -/
inductive DrainPc where
  /-- Not called yet. -/
  | serving
  /-- It returned without a poll. -/
  | skipped
  /-- Suspended in `asyncio.sleep`. -/
  | sleeping (deadline : ℚ)
  /-- It returned with "drain complete". -/
  | complete
  /-- It returned with "drain timed out". -/
  | timedOut (inFlight : Int)
  deriving DecidableEq, Repr

/-- One turn of the loop of `_drain_concurrency`; the clock reads `now`. -/
def drainPoll (sem : Semaphore) (capacity : Int) (deadline now : ℚ) : DrainPc :=
  let available : Int := sem.value
  if capacity ≤ available then .complete
  else if deadline - now ≤ 0 then .timedOut (capacity - available)
  else .sleeping deadline

/-- `_drain_concurrency` up to its first suspension. `capacity` is
`tts_max_concurrent_requests`; the clock reads `start` and then `now`. -/
def drainConcurrency (sem : Option Semaphore) (capacity : Option Int) (drainSeconds : Int)
    (start now : ℚ) : DrainPc :=
  match sem, capacity with
  | some sem, some capacity =>
    if capacity ≤ 0 then .skipped
    else if drainSeconds ≤ 0 then .skipped
    else drainPoll sem capacity (start + drainSeconds) now
  | _, _ => .skipped

/-- The service and the drain. -/
structure Shutdown where
  service : Service
  drain : DrainPc

/-- What can happen next. -/
inductive ShutdownAct where
  | serve (a : ServiceAct)
  /-- The lifespan ends. -/
  | drain (drainSeconds : Int) (start now : ℚ)
  /-- The loop resumes the drain. -/
  | poll (now : ℚ)
  deriving DecidableEq

namespace Shutdown

variable (limit : Nat)

def initial (queueDepth : Nat) : Shutdown := ⟨.initial queueDepth limit, .serving⟩

/-- The drain runs between two suspensions of the requests, as every task does. -/
def step (v : Shutdown) : ShutdownAct → Option Shutdown
  | .serve a => do return { v with service := ← v.service.step a }
  | .drain drainSeconds start now => do
    guard (v.drain = .serving ∧ v.service.active = none)
    return { v with
      drain := drainConcurrency (some v.service.shared.concurrency) (some limit) drainSeconds start now }
  | .poll now => do
    guard (v.service.active = none)
    match v.drain with
    | .sleeping deadline =>
      return { v with drain := drainPoll v.service.shared.concurrency limit deadline now }
    | _ => none

end Shutdown

namespace Service

/-- No request that was admitted to the queue is in flight. -/
def Drained (w : Service) : Prop := ∀ r ∈ w.requests, 0 < r.acquired → r.pc = .finished

/-- No streamed request stands between its response and the start of its generator,
and no cancelled request waits for its `CancelledError`. -/
def Settled (w : Service) : Prop :=
  (∀ r ∈ w.requests, r.pc ≠ .ready) ∧ ∀ x ∈ w.shared.concurrency.waiters, x.state ≠ .cancelled

instance (w : Service) : Decidable w.Drained :=
  inferInstanceAs (Decidable (∀ r ∈ w.requests, 0 < r.acquired → r.pc = .finished))

instance (w : Service) : Decidable w.Settled :=
  inferInstanceAs (Decidable ((∀ r ∈ w.requests, r.pc ≠ .ready) ∧
    ∀ x ∈ w.shared.concurrency.waiters, x.state ≠ .cancelled))

end Service

/-! ## What the counter shows -/

section Waiters

variable {i : Nat} {s s' : SharedState} {r r' : SynthesisJob}

theorem Move.served (move : Move i s r s' r') (served : s.concurrency.Served) : s'.concurrency.Served := by
  cases move with
  | concurrencyNow place now => exact Semaphore.acquire_served served now
  | concurrencyLater place later => exact Semaphore.acquire_served served later
  | concurrencyResumed place resumed => exact Semaphore.resume_served served resumed
  | concurrencyReleased place => exact s.concurrency.release_served
  | _ => exact served

/-- A request that waits has joined the queue. -/
theorem Move.joined (move : Move i s r s' r') (waiting : r'.pc = .waiting) :
    i ∈ tasks s'.concurrency.waiters := by
  cases move with
  | quiet same => exact absurd waiting same.runs
  | concurrencyLater place later =>
    have joined := (Semaphore.acquire_later later).2
    show i ∈ tasks _
    rw [joined, tasks_append]
    exact List.mem_append_right _ (List.mem_singleton_self i)
  | queueNow place now next => rcases next with rfl | rfl <;> cases waiting
  | queueReleased place next => rcases next with rfl | rfl <;> cases waiting
  | @concurrencyResumed _ _ acquired | @lockResumed _ _ _ _ acquired => cases acquired <;> cases waiting
  | _ => cases waiting

theorem Move.stays (move : Move i s r s' r') {j : Nat} (apart : j ≠ i)
    (waits : j ∈ tasks s.concurrency.waiters) : j ∈ tasks s'.concurrency.waiters := by
  rcases move.waiters with ⟨-, same⟩ | ⟨-, -, joined⟩ | ⟨-, left⟩
  · rwa [same]
  · rw [joined]
    exact List.mem_append_left _ waits
  · rw [left]
    exact (List.mem_erase_of_ne apart).2 waits

theorem cancelled_concurrency (done : cancelled i s r = some s') :
    s'.concurrency = s.concurrency ∨ s'.concurrency = s.concurrency.cancel i := by
  unfold cancelled at done
  split at done
  · cases done
    exact .inl rfl
  · cases done
    exact .inr rfl
  · obtain ⟨lock, -, done⟩ := Option.bind_eq_some_iff.1 done
    cases done
    exact .inl rfl
  · cases done

end Waiters

/-- What the drain relies on. -/
structure Drainable (queueDepth limit : Nat) (w : Service) : Prop where
  admission : Admission queueDepth limit w
  served : w.shared.concurrency.Served
  waits : ∀ i r, w.requests[i]? = some r → r.pc = .waiting → i ∈ tasks w.shared.concurrency.waiters

namespace Drainable

variable {queueDepth limit : Nat} {w w' : Service}

theorem initial (queueDepth limit : Nat) : Drainable queueDepth limit (.initial queueDepth limit) where
  admission := .initial queueDepth limit
  served := Semaphore.create_served limit
  waits i r found _ := by cases found

theorem moved (drainable : Drainable queueDepth limit w) {i : Nat} {s' : SharedState}
    {r r' : SynthesisJob} (found : w.requests[i]? = some r) (alone : ∀ j, w.active = some j → j = i)
    (move : Move i w.shared r s' r') :
    Drainable queueDepth limit ⟨s', w.requests.set i r', if r'.pc.suspended then none else some i⟩ := by
  refine ⟨drainable.admission.moved found alone move, move.served drainable.served, ?_⟩
  intro j q there waiting
  by_cases same : j = i
  · subst same
    cases (List.getElem?_set_self (List.getElem?_eq_some_iff.1 found).1).symm.trans there
    exact move.joined waiting
  · have before := (List.getElem?_set_ne (Ne.symm same)).symm.trans there
    exact move.stays same (drainable.waits j q before waiting)

theorem step (drainable : Drainable queueDepth limit w) {a : ServiceAct} (step : w.step a = some w') :
    Drainable queueDepth limit w' := by
  have queued := drainable.admission.queued
  have next := drainable.admission.stepped (Service.step_cases queued step)
  cases a with
  | arrive kind key chunks =>
    cases step
    refine ⟨next, drainable.served, fun i r there waiting => ?_⟩
    rcases getElem?_concat_cases there with there | rfl
    · exact drainable.waits i r there waiting
    · cases waiting
  | step i ok =>
    obtain ⟨active, r, p, found, done, rfl⟩ := Service.step_iff.1 step
    obtain ⟨move, on⟩ := advance_move done
    rw [Service.put_eq on]
    exact drainable.moved found (fun j other => Option.some.inj (other.symm.trans active)) move
  | resume i raises =>
    obtain ⟨active, r, p, found, done, rfl⟩ := Service.resume_iff.1 step
    obtain ⟨move, on⟩ := awaken_move (queued r (List.mem_of_getElem? found)) done
    rw [Service.put_eq on]
    exact drainable.moved found (fun j other => nomatch other.symm.trans active) move
  | cancel i =>
    obtain ⟨active, r, s', found, done, rfl⟩ := Service.cancel_iff.1 step
    have calm := cancelled_calm (queued r (List.mem_of_getElem? found)) done
    refine ⟨next, ?_, fun j q there waiting => ?_⟩
    · rcases cancelled_concurrency done with same | cancelled <;> dsimp only
      · rw [same]
        exact drainable.served
      · rw [cancelled]
        exact Semaphore.cancel_served drainable.served i
    · dsimp only
      rw [calm.tasks]
      exact drainable.waits j q there waiting

/-- A request that was admitted and is suspended outside the concurrency limit has
built its response, or waits. -/
theorem outside {r : SynthesisJob} (accounts : r.Accounts) (acquired : 0 < r.acquired)
    (suspended : r.pc.suspended = true) (concurrent : r.pc.concurrent = false) :
    r.pc = .finished ∨ r.pc = .ready ∨ r.pc = .waiting := by
  have admitted : r.pc.phase ≠ .before := by
    intro before
    have := accounts.before before
    omega
  cases place : r.pc with
  | finished => exact .inl rfl
  | ready => exact .inr (.inl rfl)
  | waiting => exact .inr (.inr rfl)
  | _ => simp [place] at suspended concurrent admitted

/-- Where the counter shows every permit, nobody has one and nobody waits for one. -/
theorem full (drainable : Drainable queueDepth limit w) (positive : 0 < limit)
    (full : limit ≤ w.shared.concurrency.value) :
    (∀ r ∈ w.requests, r.pc.concurrent = false) ∧
      ∀ x ∈ w.shared.concurrency.waiters, x.state = .cancelled := by
  have slots := drainable.admission.slots
  unfold Semaphore.idle at slots
  have nobody : w.requests.countP (·.pc.concurrent) = 0 := by omega
  have ungranted : granted w.shared.concurrency.waiters = 0 := by omega
  refine ⟨fun r member => ?_, fun x member => ?_⟩
  · simpa using List.countP_eq_zero.1 nobody r member
  · cases state : x.state with
    | cancelled => rfl
    | granted => exact absurd (List.countP_eq_zero.1 ungranted x member) (by simp [state])
    | pending =>
      have := drainable.served ⟨x, member, state⟩
      omega

/-- A full counter means that the admitted requests are done, unless one is on the
way to the semaphore or has left its queue cancelled. -/
theorem drained_iff_settled (drainable : Drainable queueDepth limit w) (calm : w.active = none)
    (positive : 0 < limit) (counter : limit ≤ w.shared.concurrency.value) :
    w.Drained ↔ w.Settled := by
  obtain ⟨alone, left⟩ := drainable.full positive counter
  have admitted : ∀ r ∈ w.requests, r.pc.phase = .holding → 0 < r.acquired := by
    intro r member holding
    have := (drainable.admission.accounts r member).holding holding
    omega
  constructor
  · intro drained
    refine ⟨fun r member ready => ?_, fun x member cancelled => ?_⟩
    · have finished := drained r member (admitted r member (by rw [ready]; rfl))
      cases ready.symm.trans finished
    · obtain ⟨r, found, waiting⟩ :=
        drainable.admission.waits x.task (List.mem_map_of_mem member)
      have there := List.mem_of_getElem? found
      have finished := drained r there (admitted r there (by rw [waiting]; rfl))
      cases waiting.symm.trans finished
  · rintro ⟨begun, delivered⟩ r member acquired
    obtain ⟨i, found⟩ := List.mem_iff_getElem?.1 member
    have suspended : r.pc.suspended = true := by
      by_contra running
      have active := drainable.admission.baton i r found (Bool.eq_false_iff.2 running)
      cases calm.symm.trans active
    obtain finished | ready | waiting :=
      outside (drainable.admission.accounts r member) acquired suspended (alone r member)
    · exact finished
    · exact absurd ready (begun r member)
    · obtain ⟨x, there, -⟩ := List.mem_map.1 (drainable.waits i r found waiting)
      exact absurd (left x there) (delivered x there)

end Drainable

/-! ## Every run -/

theorem drainPoll_complete_iff {sem : Semaphore} {capacity : Int} {deadline now : ℚ} :
    drainPoll sem capacity deadline now = .complete ↔ capacity ≤ sem.value := by
  unfold drainPoll
  dsimp only
  constructor
  · intro complete
    by_contra short
    rw [if_neg short] at complete
    split at complete <;> cases complete
  · intro full
    rw [if_pos full]

theorem drainConcurrency_complete_iff {sem : Semaphore} {capacity drainSeconds : Int} {start now : ℚ} :
    drainConcurrency (some sem) (some capacity) drainSeconds start now = .complete ↔
      0 < capacity ∧ 0 < drainSeconds ∧ capacity ≤ sem.value := by
  unfold drainConcurrency
  dsimp only
  split
  · exact ⟨nofun, fun ⟨positive, _, _⟩ => by omega⟩
  · split
    · exact ⟨nofun, fun ⟨_, positive, _⟩ => by omega⟩
    · rw [drainPoll_complete_iff]
      omega

namespace Shutdown

variable {queueDepth limit : Nat} {v v' : Shutdown}

/-- Where the drain finds the counter full, the service is settled. -/
def Clear (limit : Nat) (v : Shutdown) : ShutdownAct → Prop
  | .serve _ => True
  | .drain drainSeconds _ _ =>
    0 < limit → 0 < drainSeconds → limit ≤ v.service.shared.concurrency.value → v.service.Settled
  | .poll _ => limit ≤ v.service.shared.concurrency.value → v.service.Settled

instance (limit : Nat) (v : Shutdown) : (a : ShutdownAct) → Decidable (v.Clear limit a)
  | .serve _ => isTrue trivial
  | .drain drainSeconds _ _ => inferInstanceAs (Decidable
      (0 < limit → 0 < drainSeconds → limit ≤ v.service.shared.concurrency.value → v.service.Settled))
  | .poll _ => inferInstanceAs (Decidable
      (limit ≤ v.service.shared.concurrency.value → v.service.Settled))

/-- The service keeps its invariants, and the drain sleeps under a positive limit only. -/
structure Sound (queueDepth limit : Nat) (v : Shutdown) : Prop where
  service : Drainable queueDepth limit v.service
  positive : ∀ deadline, v.drain = .sleeping deadline → 0 < limit

theorem drain_iff {drainSeconds : Int} {start now : ℚ} :
    v.step limit (.drain drainSeconds start now) = some v' ↔
      v.drain = .serving ∧ v.service.active = none ∧
        { v with drain := drainConcurrency (some v.service.shared.concurrency) (some limit)
                  drainSeconds start now } = v' := by
  by_cases calm : v.drain = .serving ∧ v.service.active = none
  · simp [step, guard, calm]
  · simp only [step, guard, calm, if_false]
    exact ⟨nofun, fun ⟨serving, active, _⟩ => absurd ⟨serving, active⟩ calm⟩

theorem poll_iff {now : ℚ} :
    v.step limit (.poll now) = some v' ↔
      v.service.active = none ∧ ∃ deadline, v.drain = .sleeping deadline ∧
        { v with drain := drainPoll v.service.shared.concurrency limit deadline now } = v' := by
  by_cases calm : v.service.active = none
  · cases place : v.drain <;> simp [step, guard, calm, place]
  · simp [step, guard, calm]

theorem serve_iff {a : ServiceAct} :
    v.step limit (.serve a) = some v' ↔
      ∃ service, v.service.step a = some service ∧ { v with service := service } = v' := by
  simp [step, Option.bind_eq_some_iff]

theorem Sound.initial (queueDepth limit : Nat) : Sound queueDepth limit (.initial limit queueDepth) where
  service := .initial queueDepth limit
  positive deadline sleeps := by cases sleeps

theorem Sound.step (sound : Sound queueDepth limit v) {a : ShutdownAct} (step : v.step limit a = some v') :
    Sound queueDepth limit v' := by
  cases a with
  | serve a =>
    obtain ⟨service, moved, rfl⟩ := serve_iff.1 step
    exact ⟨sound.service.step moved, sound.positive⟩
  | drain drainSeconds start now =>
    obtain ⟨serving, active, rfl⟩ := drain_iff.1 step
    refine ⟨sound.service, fun deadline sleeps => ?_⟩
    by_contra blocked
    have zero : ((limit : Nat) : Int) ≤ 0 := by omega
    simp only [drainConcurrency, if_pos zero] at sleeps
    cases sleeps
  | poll now =>
    obtain ⟨active, deadline, sleeping, rfl⟩ := poll_iff.1 step
    exact ⟨sound.service, fun _ _ => sound.positive deadline sleeping⟩

/-- A step that completes the drain leaves no admitted request in flight exactly
when it is clear. -/
theorem Sound.clear_iff (sound : Sound queueDepth limit v) {a : ShutdownAct}
    (step : v.step limit a = some v') :
    v.Clear limit a ↔ (v.drain ≠ .complete → v'.drain = .complete → v'.service.Drained) := by
  cases a with
  | serve a =>
    obtain ⟨service, -, rfl⟩ := serve_iff.1 step
    exact iff_of_true trivial fun before after => absurd after before
  | drain drainSeconds start now =>
    obtain ⟨serving, active, rfl⟩ := drain_iff.1 step
    simp only [Clear, serving, drainConcurrency_complete_iff, Int.natCast_pos, Int.ofNat_le]
    constructor
    · rintro clear - ⟨positive, seconds, counter⟩
      exact (sound.service.drained_iff_settled active positive counter).2 (clear positive seconds counter)
    · intro drained positive seconds counter
      apply (sound.service.drained_iff_settled active positive counter).1
      exact drained nofun ⟨positive, seconds, counter⟩
  | poll now =>
    obtain ⟨active, deadline, sleeping, rfl⟩ := poll_iff.1 step
    have positive := sound.positive deadline sleeping
    simp only [Clear, sleeping, drainPoll_complete_iff, Int.ofNat_le]
    constructor
    · intro clear _ counter
      exact (sound.service.drained_iff_settled active positive counter).2 (clear counter)
    · intro drained counter
      apply (sound.service.drained_iff_settled active positive counter).1
      exact drained nofun counter

end Shutdown

/-- **Graceful drain.** In a run of the service and the drain, no admitted request is
in flight at the moment the drain reports completion if and only if every poll that
finds the counter full finds the service settled: no streamed request has its
response built and its generator not begun, and no request waits for a concurrency
permit with its cancellation not delivered. -/
theorem drained_iff {queueDepth limit : Nat} {acts : List ShutdownAct} {v : Shutdown}
    (run : Transition.runs (Shutdown.step limit) (.initial limit queueDepth) acts = some v) :
    Transition.Guarded (Shutdown.step limit) (Shutdown.Clear limit) (.initial limit queueDepth) acts ↔
      ∀ front a back u u', acts = front ++ a :: back →
        Transition.runs (Shutdown.step limit) (.initial limit queueDepth) front = some u →
        u.step limit a = some u' → u.drain ≠ .complete → u'.drain = .complete → u'.service.Drained := by
  have sound : ∀ front u, Transition.runs (Shutdown.step limit) (.initial limit queueDepth) front = some u →
      Shutdown.Sound queueDepth limit u := fun front u =>
    Transition.runs_inv (fun _ _ _ sound step => sound.step step) (.initial queueDepth limit)
  rw [Transition.guarded_iff_forall]
  constructor
  · intro clear front a back u u' cut reached step
    exact ((sound front u reached).clear_iff step).1 (clear front a back u cut reached)
  · rintro drained front a back u rfl reached
    obtain ⟨w, u', reached', step⟩ := Transition.runs_split run
    cases reached.symm.trans reached'
    exact ((sound front u reached).clear_iff step).2 (drained front a back u u' rfl reached step)

/-- The drain starts while a buffered request is on a worker thread; then the request
goes on to its end. -/
def drainDuringSynthesis : List ShutdownAct :=
  ([.arrive .buffered ("mlx", "a") 1, .resume 0 false] ++ List.replicate 10 (.step 0 true) ++
    [.resume 0 false, .step 0 true] : List ServiceAct).map .serve ++ [.drain 30 0 0] ++
  ([.resume 0 false] ++ List.replicate 6 (.step 0 true) : List ServiceAct).map .serve

/-- The next poll completes the drain. -/
theorem drainDuringSynthesis_drains :
    ∃ u u', Transition.runs (Shutdown.step 1) (.initial 1 1) drainDuringSynthesis = some u ∧
      u.step 1 (.poll (1 / 20)) = some u' ∧ u.drain = .sleeping 30 ∧ u'.drain = .complete ∧
      u'.service.requests.map (·.acquired) = [1] ∧ u'.service.Drained := by
  have before := Transition.runs_final (Shutdown.step 1) (.initial 1 1) drainDuringSynthesis
    (by decide +kernel)
  have sleeping : (Transition.final (Shutdown.step 1) (.initial 1 1) drainDuringSynthesis).drain
      = .sleeping 30 := by decide +kernel
  have step : Shutdown.step 1 (Transition.final (Shutdown.step 1) (.initial 1 1) drainDuringSynthesis)
      (.poll (1 / 20)) = some { Transition.final (Shutdown.step 1) (.initial 1 1) drainDuringSynthesis with
        drain := .complete } :=
    Shutdown.poll_iff.2 ⟨by decide +kernel, 30, sleeping, congrArg (Shutdown.mk _) (by decide +kernel)⟩
  have run := Transition.runs_final (Shutdown.step 1) (.initial 1 1)
    (drainDuringSynthesis ++ [.poll (1 / 20)]) (by decide +kernel)
  have drained := (drained_iff run).1 (by decide +kernel) drainDuringSynthesis (.poll (1 / 20)) [] _ _ rfl
    before step (by rw [sleeping]; exact nofun) rfl
  exact ⟨_, _, before, step, sleeping, rfl, by decide +kernel, drained⟩

/-- A streamed request has its response built, and the loop runs the drain before the
generator of the response. -/
def drainBeforeStream : List ShutdownAct :=
  ([.arrive .streamed ("mlx", "a") 1, .resume 0 false] ++ List.replicate 6 (.step 0 true) :
    List ServiceAct).map .serve ++ [.drain 30 0 0]

/-- The drain reports completion, and the stream has not begun. -/
theorem drainBeforeStream_completes :
    ¬∀ (queueDepth limit : Nat) (front : List ShutdownAct) (a : ShutdownAct) (u u' : Shutdown),
      Transition.runs (Shutdown.step limit) (.initial limit queueDepth) front = some u →
      u.step limit a = some u' → u.drain ≠ .complete → u'.drain = .complete → u'.service.Drained := by
  intro claim
  have run := Transition.runs_final (Shutdown.step 1) (.initial 1 1) drainBeforeStream.dropLast
    (by decide +kernel)
  have drained := claim 1 1 _ (.drain 30 0 0) _ _ run rfl (by decide +kernel) (by decide +kernel)
  exact absurd drained (by decide +kernel)

end LlmTts
