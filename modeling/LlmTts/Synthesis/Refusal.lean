import LlmTts.Settings
import LlmTts.Synthesis.Exclusion
import LlmTts.Synthesis.Permits

/-!
# When an idle service refuses

While no synthesis is active or waiting, the permits in use are the lost ones, and
a run loses one for each step that does not hand a permit over. The next request is
admitted exactly while fewer permits than the queue depth have been lost, so that a
service of depth 0 refuses every request.
-/

namespace LlmTts
open Asyncio Slots Transition

/-- The request has ended and still has its permit. -/
def SynthesisJob.lost (r : SynthesisJob) : Bool := r.pc.phase = .ended && r.holdsQueue

namespace Service

/-- The service that `build_default_dependencies` sets up. -/
def ofKnobs (knobs : AdmissionKnobs) : Service :=
  initial knobs.maxQueueDepth.1.toNat knobs.maxConcurrentRequests.1.toNat

/-- No synthesis is active or waiting. -/
def Idle (w : Service) : Prop := ∀ r ∈ w.requests, r.pc.phase ≠ .holding

instance (w : Service) : Decidable w.Idle :=
  inferInstanceAs (Decidable (∀ r ∈ w.requests, r.pc.phase ≠ .holding))

/-- The running request `i` is at its check of the queue. -/
def Checks (w : Service) (i : Nat) : Prop :=
  w.active = some i ∧ w.requests[i]?.map (·.pc) = some .checking

instance (w : Service) (i : Nat) : Decidable (w.Checks i) :=
  inferInstanceAs (Decidable (_ ∧ _))

/-- The next two operations of request `i` get it a permit. -/
def Admits (w : Service) (i : Nat) : Prop :=
  ∃ w' r', runs step w [.step i true, .step i true] = some w' ∧ w'.requests[i]? = some r' ∧
    r'.pc.phase = .holding

/-- The next operation of request `i` leads to `queue_full`. -/
def Refuses (w : Service) (i : Nat) : Prop :=
  ∃ w' r', w.step (.step i true) = some w' ∧ w'.requests[i]? = some r' ∧ r'.pc = .refusing

/-- The permits a run from `w` has lost. -/
def lostPermits (w : Service) (acts : List ServiceAct) : Nat := breaches step Hands w acts

variable {queueDepth limit : Nat} {w w' : Service}

/-- An operation loses a permit if it ends a request that was about to hand its permit over. -/
theorem lost_move {i : Nat} {s s' : SharedState} {r r' : SynthesisJob} (accounts : r.Accounts)
    (move : Move i s r s' r') :
    r'.lost = r.lost ∨ r'.lost = true ∧ r.lost = false ∧ (r.pc = .responding ∨ r.pc = .ready) ∧
      r'.pc = .finished := by
  have live : ∀ {q : SynthesisJob}, q.pc.phase ≠ .ended → q.lost = false := by
    intro q running
    rw [SynthesisJob.lost, decide_eq_false running, Bool.false_and]
  have holding := accounts.holding
  cases move with
  | quiet same =>
    left
    have holds : r'.holdsQueue = r.holdsQueue := by
      simp only [SynthesisJob.holdsQueue, same.acquired, same.released]
    rcases same.phase with phase | ⟨before, ended⟩
    · rw [SynthesisJob.lost, SynthesisJob.lost, phase, holds]
    · obtain ⟨acquired, released⟩ := accounts.before before
      have free : r.holdsQueue = false := by simp [SynthesisJob.holdsQueue, acquired]
      rw [SynthesisJob.lost, SynthesisJob.lost, holds, free, Bool.and_false, Bool.and_false]
  | abandoned place =>
    right
    have phase : r.pc.phase = .holding := by rcases place with place | place <;> rw [place] <;> rfl
    have holds := accounts.holdsQueue phase
    refine ⟨?_, live (by rw [phase]; intro ended; cases ended), place, rfl⟩
    simpa [SynthesisJob.lost, SynthesisJob.holdsQueue] using holds
  | queueNow place now next =>
    left
    rw [live (q := r) (by rw [place]; intro ended; cases ended)]
    rcases next with rfl | rfl <;> rfl
  | queueReleased place next =>
    left
    obtain ⟨acquired, released⟩ := holding (by rw [place]; rfl)
    rw [live (q := r) (by rw [place]; intro ended; cases ended)]
    simp [SynthesisJob.lost, SynthesisJob.holdsQueue, acquired, released]
  | @concurrencyResumed _ _ acquired place _ | @lockResumed _ _ _ _ acquired place _ _ =>
    left
    rw [live (q := r) (by rw [place]; intro ended; cases ended)]
    cases acquired <;> rfl
  | queueLater place _ | concurrencyNow place _ | concurrencyLater place _ | concurrencyReleased place
  | lockCreated place | lockNow place _ _ | lockLater place _ _ | lockReleased place _ =>
    left
    rw [live (q := r) (by rw [place]; intro ended; cases ended)]
    rfl

/-- A step loses at most one permit, and it does when it does not hand one over. -/
theorem lost_step {a : ServiceAct} (adm : Admission queueDepth limit w) (step : w.step a = some w') :
    w'.requests.countP (·.lost) = w.requests.countP (·.lost) + if w.Hands a then 0 else 1 := by
  by_cases hands : w.Hands a
  · rw [if_pos hands, Nat.add_zero]
    have stepped := step_cases adm.queued step
    cases stepped with
    | arrived kind key chunks =>
      rw [List.countP_append, List.countP_singleton]
      rfl
    | @moved i s' r r' found alone move =>
      have here := List.getElem?_set_self (a := r') (List.getElem?_eq_some_iff.1 found).1
      have count := countP_set (b := r') (p := (·.lost)) found
      rcases lost_move (adm.accounts r (List.mem_of_getElem? found)) move with same | ⟨-, -, place, ended⟩
      · rw [same] at count
        dsimp only
        omega
      · exact absurd ended (handed hands step found here place)
    | cancelled calm => rfl
  · rw [if_neg hands]
    obtain ⟨i, r, found, place, after⟩ := dropped hands step
    have count := countP_set (b := { r with pc := .finished }) (p := (·.lost)) found
    have phase : r.pc.phase = .holding := by rcases place with place | place <;> rw [place] <;> rfl
    have holds := (adm.accounts r (List.mem_of_getElem? found)).holdsQueue phase
    have before : r.lost = false := by
      rw [SynthesisJob.lost, phase]
      rfl
    have lost : SynthesisJob.lost { r with pc := .finished } = true := by
      rw [SynthesisJob.lost, Bool.and_eq_true]
      exact ⟨rfl, holds⟩
    rw [after]
    simpa [lost, before] using count

/-- The permits a run has lost are those of requests that have ended. -/
theorem lostPermits_eq {acts : List ServiceAct}
    (run : runs Service.step (initial queueDepth limit) acts = some w) :
    (initial queueDepth limit).lostPermits acts = w.requests.countP (·.lost) := by
  have counted := breaches_inv Hands (I := Admission queueDepth limit)
    (m := fun w => w.requests.countP (·.lost))
    (fun w a w' adm step => adm.stepped (step_cases adm.queued step))
    (fun w a w' adm step => lost_step adm step) (Admission.initial queueDepth limit) run
  rw [counted]
  exact (Nat.zero_add _).symm

/-- In an idle service the permits in use are the lost ones. -/
theorem Idle.held (idle : w.Idle) (adm : Admission queueDepth limit w) :
    w.requests.countP (·.holdsQueue) = w.requests.countP (·.lost) := by
  apply List.countP_congr
  intro r member
  have accounts := adm.accounts r member
  cases phase : r.pc.phase with
  | before =>
    obtain ⟨acquired, released⟩ := accounts.before phase
    simp [SynthesisJob.lost, SynthesisJob.holdsQueue, acquired]
  | holding => exact absurd phase (idle r member)
  | ended => rw [SynthesisJob.lost, phase, decide_eq_true rfl, Bool.true_and]

/-- A request that has passed the check gets its permit without waiting. -/
theorem admitted_holds (adm : Admission queueDepth limit w) {i : Nat} {r : SynthesisJob} (ok : Bool)
    (found : w.requests[i]? = some r) (place : r.pc = .admitted) :
    ∃ w' r', w.step (.step i ok) = some w' ∧ w'.requests[i]? = some r' ∧ r'.pc.phase = .holding := by
  have active := adm.baton i r found (by rw [place]; rfl)
  have free := adm.admitted r (List.mem_of_getElem? found) place
  have inside := (List.getElem?_eq_some_iff.1 found).1
  have taken : ∃ r', advance i w.shared r ok = some ({ w.shared with
      queue := { w.shared.queue with value := w.shared.queue.value - 1 } }, r', true) ∧
      r'.pc.phase = .holding := by
    simp only [advance, place, Semaphore.acquire, free, goOn]
    cases r.kind <;> exact ⟨_, rfl, rfl⟩
  obtain ⟨r', done, phase⟩ := taken
  exact ⟨_, r', step_iff.2 ⟨active, r, _, found, done, rfl⟩, List.getElem?_set_self inside, phase⟩

/-- The check refuses while every permit is in use, and otherwise admits. -/
theorem checks_iff (adm : Admission queueDepth limit w) {i : Nat} (checks : w.Checks i) :
    (w.Admits i ↔ w.requests.countP (·.holdsQueue) ≠ queueDepth) ∧
    (w.Refuses i ↔ w.requests.countP (·.holdsQueue) = queueDepth) := by
  obtain ⟨active, there⟩ := checks
  obtain ⟨r, found, place⟩ := Option.map_eq_some_iff.1 there
  obtain ⟨w', first, outcome⟩ : ∃ w', w.step (.step i true) = some w' ∧ _ := adm.checked active found place
  have next := adm.stepped (step_cases adm.queued first)
  by_cases full : w.requests.countP (·.holdsQueue) = queueDepth
  · rw [if_pos full] at outcome
    have refuses : w.Refuses i := ⟨w', _, first, outcome, rfl⟩
    refine ⟨iff_of_false ?_ (not_not.2 full), iff_of_true refuses full⟩
    rintro ⟨w'', r'', both, last, holding⟩
    obtain ⟨v, one, two⟩ := runs_cons_iff.1 both
    cases first.symm.trans one
    obtain ⟨v, two, rest⟩ := runs_cons_iff.1 two
    cases rest
    obtain ⟨-, q, p, before, done, rfl⟩ := step_iff.1 two
    cases outcome.symm.trans before
    have after := List.getElem?_set_self (a := p.2.1) (List.getElem?_eq_some_iff.1 outcome).1
    cases last.symm.trans after
    simp only [advance, afterwards] at done
    split at done <;> cases done <;> cases holding
  · rw [if_neg full] at outcome
    obtain ⟨w'', r'', second, last, holding⟩ := admitted_holds next true outcome rfl
    have admits : w.Admits i :=
      ⟨w'', r'', runs_cons_iff.2 ⟨w', first, runs_cons_iff.2 ⟨w'', second, rfl⟩⟩, last, holding⟩
    refine ⟨iff_of_true admits full, iff_of_false ?_ full⟩
    rintro ⟨v, q, one, refused, place⟩
    cases first.symm.trans one
    cases outcome.symm.trans refused
    cases place

end Service

/-- **Who an idle service refuses.** For all knobs within the bounds of `Settings` and all
runs to a state in which no synthesis is active or waiting, the next request is
admitted if and only if fewer permits than the queue depth have been lost, and
refused otherwise. With depth 0 every request is refused, always while every
concurrency permit is free. -/
theorem idle_admits_iff {knobs : AdmissionKnobs} {acts : List ServiceAct} {w : Service}
    (run : runs Service.step (.ofKnobs knobs) acts = some w) :
    (w.Idle → ∀ i, w.Checks i →
      (w.Admits i ↔ (Service.ofKnobs knobs).lostPermits acts < knobs.maxQueueDepth.1) ∧
      (w.Refuses i ↔ ¬(Service.ofKnobs knobs).lostPermits acts < knobs.maxQueueDepth.1)) ∧
    (knobs.maxQueueDepth.1 = 0 → ∀ i, w.Checks i →
      w.Refuses i ∧ w.shared.concurrency.value = knobs.maxConcurrentRequests.1 ∧
        w.shared.concurrency.locked = false) := by
  have adm := Admission.run run
  have permits := adm.permits
  have positive := knobs.maxConcurrentRequests.2
  have bound := knobs.maxQueueDepth.2
  refine ⟨fun idle i checks => ?_, fun zero i checks => ?_⟩
  · have lost := Service.lostPermits_eq run
    have held := idle.held adm
    obtain ⟨admits, refuses⟩ := Service.checks_iff adm checks
    rw [admits, refuses]
    unfold Service.ofKnobs
    constructor <;> omega
  · have nobody : w.requests.countP (·.holdsQueue) = 0 := by omega
    have refuses := (Service.checks_iff adm checks).2
    have active := adm.active_le
    have slots := adm.slots
    rw [Semaphore.idle] at slots
    have waiters : w.shared.concurrency.waiters = [] := by
      apply List.eq_nil_iff_forall_not_mem.2
      intro waiter member
      obtain ⟨r, found, place⟩ := adm.waits waiter.task (List.mem_map_of_mem member)
      have holds := adm.holdsQueue_of_phase (List.mem_of_getElem? found) (by rw [place]; rfl)
      exact absurd holds (List.countP_eq_zero.1 nobody r (List.mem_of_getElem? found))
    have unlocked : w.shared.concurrency.locked = false := by
      rw [Bool.eq_false_iff]
      intro locked
      have := (Semaphore.locked_iff waiters).1 locked
      omega
    exact ⟨refuses.2 (by omega), by omega, unlocked⟩

/-- A buffered request up to its check of the queue. -/
def upToCheck (i : Nat) : List ServiceAct :=
  [.arrive .buffered ("mlx", "a") 1, .resume i false] ++ List.replicate 3 (.step i true)

/-- One of two permits is lost, and the next request is admitted. -/
theorem lostOne_admits :
    ∃ knobs : AdmissionKnobs, knobs.maxQueueDepth.1 = 2 ∧ ∃ w : Service,
      runs Service.step (.ofKnobs knobs) (responseFails ++ upToCheck 1) = some w ∧ w.Idle ∧ w.Admits 1 := by
  let knobs : AdmissionKnobs := ⟨⟨1, by decide⟩, ⟨2, by decide⟩⟩
  have run := runs_final Service.step (.ofKnobs knobs) (responseFails ++ upToCheck 1) (by decide +kernel)
  have idle : (final Service.step (.ofKnobs knobs) (responseFails ++ upToCheck 1)).Idle := by
    decide +kernel
  have admits := ((idle_admits_iff run).1 idle 1 (by decide +kernel)).1
  exact ⟨knobs, rfl, _, run, idle, admits.2 (by decide +kernel)⟩

/-- `TTS_MAX_QUEUE_DEPTH=0`. -/
def depthZero : Environ := fun name => if name = "TTS_MAX_QUEUE_DEPTH" then some "0" else none

/-- An accepted depth of 0, and the first request ever is not admitted. -/
theorem depthZero_refuses :
    ¬∀ (env : Environ) (knobs : AdmissionKnobs) (acts : List ServiceAct) (w : Service) (i : Nat),
      AdmissionKnobs.load env = .ok knobs → runs Service.step (.ofKnobs knobs) acts = some w →
      w.Idle → w.Checks i → w.Admits i := by
  intro claim
  let knobs : AdmissionKnobs := ⟨⟨1, by decide⟩, ⟨0, by decide⟩⟩
  have run := runs_final Service.step (.ofKnobs knobs) (upToCheck 0) (by decide +kernel)
  have admits := claim depthZero knobs (upToCheck 0) _ 0 rfl run (by decide +kernel) (by decide +kernel)
  have full := (Service.checks_iff (Admission.run run) (by decide +kernel)).1.1 admits
  exact full (by decide +kernel)

end LlmTts
