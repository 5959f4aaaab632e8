import Mathlib.Algebra.GroupWithZero.Nat
import LlmTts.Lib.Queues
import LlmTts.Synthesis.Drain
import LlmTts.Synthesis.Exclusion

/-!
# Every request comes to its end

The service has no deadlock and does no endless work: each operation brings a request
nearer to its end, and as long as a request is unfinished some request runs or can be
resumed. A request that waits for a permit or for the lock of a model waits for one that
has it, and whoever has the lock of a model waits for nobody.
-/

namespace LlmTts
open Asyncio Slots

/-! ## The work that is left -/

/-- The operations a request has at most before it, when it makes `calls` calls. -/
def RequestPc.work (calls : Nat) : RequestPc → Nat
  | arrived => 6 * calls + 25
  | opening => 6 * calls + 24
  | writing => 6 * calls + 23
  | preparing => 6 * calls + 22
  | checking => 6 * calls + 21
  | refusing | admitted => 6 * calls + 20
  | waitingQueue => 6 * calls + 19
  | responding => 6 * calls + 18
  | ready => 6 * calls + 17
  | entering => 6 * calls + 16
  | waiting => 6 * calls + 15
  | locking => 6 * calls + 14
  | creating => 6 * calls + 13
  | acquiring _ => 6 * calls + 12
  | waitingLock _ => 6 * calls + 11
  | looping _ k => 6 * (calls - k) + 5
  | polling _ k => 6 * (calls - k - 1) + 10
  | calling _ k => 6 * (calls - k - 1) + 9
  | running _ k => 6 * (calls - k - 1) + 8
  | received _ k => 6 * (calls - k - 1) + 7
  | yielded _ k => 6 * (calls - k - 1) + 6
  | leavingLock _ => 4
  | leaving => 3
  | releasing => 2
  | cleaning => 1
  | finished => 0

def SynthesisJob.work (r : SynthesisJob) : Nat := r.pc.work r.calls

/-- The work of a request from its arrival to its end. -/
def SynthesisJob.allWork (r : SynthesisJob) : Nat := 6 * r.calls + 25

section Work

variable {i : Nat} {s s' : SharedState} {r r' : SynthesisJob} {on : Bool}

/-- An operation brings the request nearer to its end. -/
theorem advance_work {ok : Bool} (done : advance i s r ok = some (s', r', on)) :
    r'.calls = r.calls ∧ r'.work < r.work := by
  cases place : r.pc with
  | acquiring l =>
    simp only [advance, place] at done
    obtain ⟨lock, found, done⟩ := Option.bind_eq_some_iff.1 done
    split at done <;> cases done <;> exact ⟨rfl, by simp [SynthesisJob.work, SynthesisJob.calls, place, RequestPc.work]⟩
  | leavingLock l =>
    simp only [advance, place] at done
    obtain ⟨lock, found, done⟩ := Option.bind_eq_some_iff.1 done
    cases done
    exact ⟨rfl, by simp [SynthesisJob.work, place, RequestPc.work]⟩
  | looping l k =>
    simp only [advance, place] at done
    split at done
    · rename_i more
      split at done <;> cases done <;> refine ⟨rfl, ?_⟩ <;>
        simp only [SynthesisJob.work, place, RequestPc.work] <;> simp only [SynthesisJob.calls] at more ⊢ <;> omega
    · cases done
      exact ⟨rfl, by simp [SynthesisJob.work, place, RequestPc.work]⟩
  | _ =>
    simp only [advance, place, goOn, suspend, afterwards] at done
    (repeat' split at done) <;> cases done <;> refine ⟨rfl, ?_⟩ <;>
      simp only [SynthesisJob.work, SynthesisJob.calls, place, RequestPc.work] <;> omega

theorem awaken_work {raises : Bool} (done : awaken i s r raises = some (s', r', on)) :
    r'.calls = r.calls ∧ r'.work < r.work := by
  cases place : r.pc with
  | waitingQueue =>
    simp only [awaken, place] at done
    obtain ⟨⟨acquired, queue⟩, resumed, done⟩ := Option.bind_eq_some_iff.1 done
    cases acquired with
    | true =>
      cases done
      refine ⟨rfl, ?_⟩
      simp only [SynthesisJob.work, SynthesisJob.calls, place]
      cases r.kind <;> simp only [RequestPc.work] <;> omega
    | false =>
      simp only [afterwards, goOn, suspend] at done
      split at done <;> cases done <;> refine ⟨rfl, ?_⟩ <;>
        simp only [SynthesisJob.work, place, RequestPc.work] <;> omega
  | waiting =>
    simp only [awaken, place] at done
    obtain ⟨⟨acquired, concurrency⟩, resumed, done⟩ := Option.bind_eq_some_iff.1 done
    cases acquired <;> cases done <;>
      exact ⟨rfl, by simp only [SynthesisJob.work, SynthesisJob.calls, place, RequestPc.work]; omega⟩
  | waitingLock l =>
    simp only [awaken, place] at done
    obtain ⟨lock, found, done⟩ := Option.bind_eq_some_iff.1 done
    obtain ⟨⟨acquired, after⟩, resumed, done⟩ := Option.bind_eq_some_iff.1 done
    cases acquired <;> cases done <;>
      exact ⟨rfl, by simp only [SynthesisJob.work, SynthesisJob.calls, place, RequestPc.work]; omega⟩
  | _ =>
    simp only [awaken, place, goOn, suspend] at done
    (repeat' split at done) <;> cases done <;> refine ⟨rfl, ?_⟩ <;>
      simp only [SynthesisJob.work, SynthesisJob.calls, place, RequestPc.work] <;> omega

end Work

namespace Service

variable {w w' : Service}

/-- The work that all the requests have left. -/
def work (w : Service) : Nat := (w.requests.map SynthesisJob.work).sum

/-- The work of all the requests from their arrivals. -/
def allWork (w : Service) : Nat := (w.requests.map SynthesisJob.allWork).sum

/-- An operation of a request, or its resumption; not an arrival or a cancellation. -/
def operates : ServiceAct → Bool
  | .step .. | .resume .. => true
  | .arrive .. | .cancel _ => false

theorem put_work {i : Nat} {r : SynthesisJob} {p : SharedState × SynthesisJob × Bool}
    (found : w.requests[i]? = some r) (less : p.2.1.calls = r.calls ∧ p.2.1.work < r.work) :
    (w.put i p).work < w.work ∧ (w.put i p).allWork = w.allWork := by
  have left := sum_map_set (b := p.2.1) (f := SynthesisJob.work) found
  have all := sum_map_set (b := p.2.1) (f := SynthesisJob.allWork) found
  have same : p.2.1.allWork = r.allWork := by rw [SynthesisJob.allWork, less.1, SynthesisJob.allWork]
  have smaller := less.2
  simp only [work, allWork, put]
  omega

/-- What a step does to the work: an operation uses some of it up, and only an arrival
brings more. -/
theorem step_work {a : ServiceAct} (step : w.step a = some w') :
    w'.work + w.allWork + (if operates a then 1 else 0) ≤ w.work + w'.allWork := by
  cases a with
  | arrive kind key chunks =>
    cases step
    simp [work, allWork, operates, SynthesisJob.work, SynthesisJob.allWork, RequestPc.work]
    omega
  | step i ok =>
    obtain ⟨-, r, p, found, done, rfl⟩ := step_iff.1 step
    have less := put_work found (advance_work done)
    simp only [operates, if_true]
    omega
  | resume i raises =>
    obtain ⟨-, r, p, found, done, rfl⟩ := resume_iff.1 step
    have less := put_work found (awaken_work done)
    simp only [operates, if_true]
    omega
  | cancel i =>
    obtain ⟨-, r, s', found, done, rfl⟩ := cancel_iff.1 step
    simp [work, allWork, operates]

theorem step_less {a : ServiceAct} (uses : operates a = true) (step : w.step a = some w') : w'.work < w.work := by
  cases a with
  | arrive | cancel => cases uses
  | step i ok =>
    obtain ⟨-, r, p, found, done, rfl⟩ := step_iff.1 step
    exact (put_work found (advance_work done)).1
  | resume i raises =>
    obtain ⟨-, r, p, found, done, rfl⟩ := resume_iff.1 step
    exact (put_work found (awaken_work done)).1

/-- The operations of a run are paid for by the work of the requests that arrived. -/
theorem runs_work {acts : List ServiceAct} (run : Transition.runs Service.step w acts = some w') :
    w'.work + w.allWork + acts.countP operates ≤ w.work + w'.allWork := by
  induction acts generalizing w with
  | nil => cases run; simp
  | cons a acts ih =>
    obtain ⟨u, first, rest⟩ := Transition.runs_cons_iff.1 run
    have here := step_work first
    have after := ih rest
    rw [List.countP_cons]
    omega

end Service

/-! ## The queue of a model -/

/-- The lock the request waits for. -/
@[simp] def RequestPc.awaits? : RequestPc → Option Nat
  | waitingLock l => some l
  | _ => none

/-- What an operation of request `i` does to the queue of a lock. -/
inductive QueueMove (i l : Nat) (lock after : Lock) (pc pc' : RequestPc) : Prop where
  /-- Taken at once, or released. -/
  | passed (outside : pc.awaits? = none) (inside : pc'.awaits? = none) (same : tasks after.waiters = tasks lock.waiters)
      (owner : after.locked = true → pc'.held? = some l)
  | joined (outside : pc.awaits? = none) (inside : pc'.awaits? = some l) (free : pc.held? = none)
      (same : tasks after.waiters = tasks lock.waiters ++ [i]) (owner : after.locked = true → lock.locked = true)
  | left (outside : pc.awaits? = some l) (inside : pc'.awaits? = none) (free : pc.held? = none)
      (same : tasks after.waiters = (tasks lock.waiters).erase i)
      (owner : after.locked = true → pc'.held? = some l ∨ lock.locked = true)

/-- What an operation of request `i` does to the locks and their queues. -/
inductive LocksMove (i : Nat) (s : SharedState) (r : SynthesisJob) (s' : SharedState) (r' : SynthesisJob) :
    Prop where
  | kept (locks : s'.locks = s.locks) (outside : r.pc.awaits? = none) (inside : r'.pc.awaits? = none)
      (held : r'.pc.held? = r.pc.held?)
  | created (locks : s'.locks = s.locks ++ [Lock.create]) (outside : r.pc.awaits? = none)
      (inside : r'.pc.awaits? = none) (held : r.pc.held? = none)
  | queued {l : Nat} {lock after : Lock} (locks : s'.locks = s.locks.set l after) (found : s.locks[l]? = some lock)
      (served : lock.Served → after.Served) (held : ∀ k, r.pc.held? = some k → k = l)
      (move : QueueMove i l lock after r.pc r'.pc)

section Locks

variable {i : Nat} {s s' : SharedState} {r r' : SynthesisJob} {on : Bool}

theorem advance_locks {ok : Bool} (done : advance i s r ok = some (s', r', on)) : LocksMove i s r s' r' := by
  cases place : r.pc with
  | creating =>
    simp only [advance, place] at done
    cases done
    exact .created rfl (by simp [place]) rfl (by simp [place])
  | acquiring l =>
    simp only [advance, place] at done
    obtain ⟨lock, found, done⟩ := Option.bind_eq_some_iff.1 done
    split at done
    · rename_i after now
      cases done
      obtain ⟨-, -, same⟩ := Lock.acquire_now now
      exact .queued rfl found (fun served => Lock.acquire_served served now) (by simp [place])
        (.passed (by simp [place]) rfl (congrArg tasks same) fun _ => rfl)
    · rename_i after later
      cases done
      obtain ⟨locked, same⟩ := Lock.acquire_later later
      exact .queued rfl found (fun served => Lock.acquire_served served later) (by simp [place])
        (.joined (by simp [place]) rfl (by simp [place]) (by rw [same, tasks_append]) fun shut => locked ▸ shut)
  | leavingLock l =>
    simp only [advance, place] at done
    obtain ⟨lock, found, done⟩ := Option.bind_eq_some_iff.1 done
    cases done
    exact .queued rfl found Lock.release_served (by simp [place])
      (.passed (by simp [place]) rfl lock.release_tasks (by simp))
  | admitted =>
    simp only [advance, place] at done
    split at done <;> cases done
    · exact .kept rfl (by simp [place]) (by cases r.kind <;> rfl) (by rw [place]; cases r.kind <;> rfl)
    · exact .kept rfl (by simp [place]) rfl (by simp [place])
  | _ =>
    simp only [advance, place, goOn, suspend, afterwards] at done
    (repeat' split at done) <;> cases done <;> exact .kept rfl (by simp [place]) rfl (by simp [place])

theorem awaken_locks {raises : Bool} (queued : r.pc ≠ .waitingQueue) (done : awaken i s r raises = some (s', r', on)) :
    LocksMove i s r s' r' := by
  cases place : r.pc with
  | waitingLock l =>
    simp only [awaken, place] at done
    obtain ⟨lock, found, done⟩ := Option.bind_eq_some_iff.1 done
    obtain ⟨⟨acquired, after⟩, resumed, done⟩ := Option.bind_eq_some_iff.1 done
    obtain ⟨-, same, locked⟩ := Lock.resume_some resumed
    cases acquired <;> cases done
    · exact .queued rfl found (fun _ => Lock.resume_served resumed) (by simp [place])
        (.left (by simp [place]) rfl (by simp [place]) same fun shut => .inr (locked ▸ shut))
    · exact .queued rfl found (fun _ => Lock.resume_served resumed) (by simp [place])
        (.left (by simp [place]) rfl (by simp [place]) same fun _ => .inl rfl)
  | waitingQueue => exact absurd place queued
  | waiting =>
    simp only [awaken, place] at done
    obtain ⟨⟨acquired, concurrency⟩, resumed, done⟩ := Option.bind_eq_some_iff.1 done
    cases acquired <;> cases done <;> exact .kept rfl (by simp [place]) rfl (by simp [place])
  | _ =>
    simp only [awaken, place, goOn, suspend] at done
    (repeat' split at done) <;> cases done <;> exact .kept rfl (by simp [place]) rfl (by simp [place])

theorem cancelled_locks (done : cancelled i s r = some s') :
    s'.locks = s.locks ∨ ∃ l lock, s.locks[l]? = some lock ∧ s'.locks = s.locks.set l (lock.cancel i) := by
  unfold cancelled at done
  split at done
  · cases done
    exact .inl rfl
  · cases done
    exact .inl rfl
  · obtain ⟨lock, found, done⟩ := Option.bind_eq_some_iff.1 done
    cases done
    exact .inr ⟨_, lock, found, rfl⟩
  · cases done

end Locks

/-- The queues of the locks and the requests that wait in them or have a lock. -/
structure LockQueues (locks : List Lock) (requests : List SynthesisJob) : Prop where
  distinct : ∀ (l : Nat) (lock : Lock), locks[l]? = some lock → (tasks lock.waiters).Nodup
  stands : ∀ (l : Nat) (lock : Lock) (i : Nat), locks[l]? = some lock → i ∈ tasks lock.waiters →
    ∃ r : SynthesisJob, requests[i]? = some r ∧ r.pc.awaits? = some l
  waits : ∀ (i l : Nat) (r : SynthesisJob), requests[i]? = some r → r.pc.awaits? = some l →
    ∃ lock, locks[l]? = some lock ∧ i ∈ tasks lock.waiters
  served : ∀ lock ∈ locks, lock.Served
  owned : ∀ (l : Nat) (lock : Lock), locks[l]? = some lock → lock.locked = true →
    ∃ (i : Nat) (r : SynthesisJob), requests[i]? = some r ∧ r.pc.held? = some l

namespace LockQueues

variable {locks : List Lock} {requests : List SynthesisJob} {i : Nat} {r r' : SynthesisJob}

theorem initial : LockQueues [] [] where
  distinct l lock found := by cases found
  stands l lock i found := by cases found
  waits i l r found := by cases found
  served lock member := by cases member
  owned l lock found := by cases found

theorem arrived (queues : LockQueues locks requests) (outside : r.pc.awaits? = none) :
    LockQueues locks (requests ++ [r]) where
  distinct := queues.distinct
  stands l lock j found waits := by
    obtain ⟨q, there, awaits⟩ := queues.stands l lock j found waits
    exact ⟨q, (List.getElem?_append_left (List.getElem?_eq_some_iff.1 there).1).trans there, awaits⟩
  waits j l q there awaits := by
    rcases getElem?_concat_cases there with there | rfl
    · exact queues.waits j l q there awaits
    · exact nomatch outside.symm.trans awaits
  served := queues.served
  owned l lock found shut := by
    obtain ⟨j, q, there, held⟩ := queues.owned l lock found shut
    exact ⟨j, q, (List.getElem?_append_left (List.getElem?_eq_some_iff.1 there).1).trans there, held⟩

theorem cancelled (queues : LockQueues locks requests) {l : Nat} {lock : Lock} (found : locks[l]? = some lock)
    (task : Nat) : LockQueues (locks.set l (lock.cancel task)) requests where
  distinct k other there := by
    obtain ⟨rfl, rfl⟩ | ⟨-, there⟩ := getElem?_set_cases there
    · rw [Lock.cancel_tasks]
      exact queues.distinct k lock found
    · exact queues.distinct k other there
  stands k other j there waits := by
    obtain ⟨rfl, rfl⟩ | ⟨-, there⟩ := getElem?_set_cases there
    · rw [Lock.cancel_tasks] at waits
      exact queues.stands k lock j found waits
    · exact queues.stands k other j there waits
  waits j k q there awaits := by
    obtain ⟨other, here, waits⟩ := queues.waits j k q there awaits
    by_cases same : l = k
    · subst same
      cases found.symm.trans here
      exact ⟨_, List.getElem?_set_self (List.getElem?_eq_some_iff.1 found).1, by rwa [Lock.cancel_tasks]⟩
    · exact ⟨other, (List.getElem?_set_ne same).trans here, waits⟩
  served other member := by
    rcases mem_set_cases member with rfl | member
    · exact Lock.cancel_served (queues.served lock (List.mem_of_getElem? found)) task
    · exact queues.served other member
  owned k other there shut := by
    obtain ⟨rfl, rfl⟩ | ⟨-, there⟩ := getElem?_set_cases there
    · exact queues.owned k lock found shut
    · exact queues.owned k other there shut

/-- The request that operates, and the others. -/
theorem set_cases (found : requests[i]? = some r) {j : Nat} {q : SynthesisJob} (there : requests[j]? = some q) :
    j = i ∧ q = r ∨ (requests.set i r')[j]? = some q := by
  by_cases same : i = j
  · subst same
    exact .inl ⟨rfl, Option.some.inj (there.symm.trans found)⟩
  · exact .inr ((List.getElem?_set_ne same).trans there)

/-- An operation of a request that neither waits for a lock nor comes to wait for one. -/
theorem others (queues : LockQueues locks requests) (found : requests[i]? = some r) (outside : r.pc.awaits? = none)
    {l : Nat} {lock : Lock} (here : locks[l]? = some lock) {j : Nat} (waits : j ∈ tasks lock.waiters) :
    ∃ q, (requests.set i r')[j]? = some q ∧ q.pc.awaits? = some l := by
  obtain ⟨q, there, awaits⟩ := queues.stands l lock j here waits
  obtain ⟨rfl, rfl⟩ | there := set_cases found there
  · exact nomatch outside.symm.trans awaits
  · exact ⟨q, there, awaits⟩

/-- The queue that an operation changes is again the queue of those that wait. -/
theorem queue_moved (queues : LockQueues locks requests) (found : requests[i]? = some r) {l : Nat}
    {lock after : Lock} (here : locks[l]? = some lock) (move : QueueMove i l lock after r.pc r'.pc) :
    (tasks after.waiters).Nodup ∧
      (∀ j ∈ tasks after.waiters, ∃ q, (requests.set i r')[j]? = some q ∧ q.pc.awaits? = some l) ∧
      (∀ j q, (requests.set i r')[j]? = some q → q.pc.awaits? = some l → j ∈ tasks after.waiters) ∧
      (after.locked = true → ∃ (j : Nat) (q : SynthesisJob), (requests.set i r')[j]? = some q ∧
        q.pc.held? = some l) := by
  have distinct := queues.distinct l lock here
  have self := List.getElem?_set_self (a := r') (List.getElem?_eq_some_iff.1 found).1
  have joined : ∀ {j q}, requests[j]? = some q → q.pc.awaits? = some l → j ∈ tasks lock.waiters := by
    intro j q there awaits
    obtain ⟨other, same, waits⟩ := queues.waits j l q there awaits
    cases here.symm.trans same
    exact waits
  have owned : r.pc.held? = none → lock.locked = true → ∃ (j : Nat) (q : SynthesisJob),
      (requests.set i r')[j]? = some q ∧ q.pc.held? = some l := by
    intro free shut
    obtain ⟨j, q, there, held⟩ := queues.owned l lock here shut
    obtain ⟨rfl, rfl⟩ | there := set_cases found there
    · exact nomatch free.symm.trans held
    · exact ⟨j, q, there, held⟩
  cases move with
  | passed outside inside same owner =>
    rw [same]
    refine ⟨distinct, fun j waits => queues.others found outside here waits, fun j q there awaits => ?_,
      fun shut => ⟨i, r', self, owner shut⟩⟩
    obtain ⟨rfl, rfl⟩ | ⟨-, there⟩ := getElem?_set_cases there
    · exact nomatch inside.symm.trans awaits
    · exact joined there awaits
  | joined outside inside free same owner =>
    rw [same]
    refine ⟨List.nodup_append.2 ⟨distinct, List.nodup_singleton i, ?_⟩, fun j waits => ?_, fun j q there awaits => ?_,
      fun shut => owned free (owner shut)⟩
    · rintro j old k new rfl
      obtain ⟨q, there, awaits⟩ := queues.stands l lock j here old
      cases List.mem_singleton.1 new
      cases there.symm.trans found
      exact nomatch outside.symm.trans awaits
    · rcases List.mem_append.1 waits with old | new
      · exact queues.others found outside here old
      · cases List.mem_singleton.1 new
        exact ⟨r', self, inside⟩
    · obtain ⟨rfl, rfl⟩ | ⟨-, there⟩ := getElem?_set_cases there
      · exact List.mem_append_right _ (List.mem_singleton_self j)
      · exact List.mem_append_left _ (joined there awaits)
  | left outside inside free same owner =>
    rw [same]
    refine ⟨distinct.erase i, fun j waits => ?_, fun j q there awaits => ?_, fun shut => ?_⟩
    · obtain ⟨apart, old⟩ := distinct.mem_erase_iff.1 waits
      obtain ⟨q, there, awaits⟩ := queues.stands l lock j here old
      exact ⟨q, (List.getElem?_set_ne (Ne.symm apart)).trans there, awaits⟩
    · obtain ⟨rfl, rfl⟩ | ⟨apart, there⟩ := getElem?_set_cases there
      · exact nomatch inside.symm.trans awaits
      · exact distinct.mem_erase_iff.2 ⟨apart, joined there awaits⟩
    · rcases owner shut with held | before
      · exact ⟨i, r', self, held⟩
      · exact owned free before

theorem moved {s s' : SharedState} (queues : LockQueues s.locks requests) (found : requests[i]? = some r)
    (move : LocksMove i s r s' r') : LockQueues s'.locks (requests.set i r') := by
  cases move with
  | kept locks outside inside held =>
    rw [locks]
    refine ⟨queues.distinct, fun l lock j here waits => queues.others found outside here waits,
      fun j l q there awaits => ?_, queues.served, fun l lock here shut => ?_⟩
    · obtain ⟨rfl, rfl⟩ | ⟨-, there⟩ := getElem?_set_cases there
      · exact nomatch inside.symm.trans awaits
      · exact queues.waits j l q there awaits
    · obtain ⟨j, q, there, holds⟩ := queues.owned l lock here shut
      obtain ⟨rfl, rfl⟩ | there := set_cases found there
      · exact ⟨j, r', List.getElem?_set_self (List.getElem?_eq_some_iff.1 found).1, held.trans holds⟩
      · exact ⟨j, q, there, holds⟩
  | created locks outside inside held =>
    rw [locks]
    refine ⟨fun l lock here => ?_, fun l lock j here waits => ?_, fun j l q there awaits => ?_,
      fun lock member => ?_, fun l lock here shut => ?_⟩
    · rcases getElem?_concat_cases here with here | rfl
      · exact queues.distinct l lock here
      · exact List.nodup_nil
    · rcases getElem?_concat_cases here with here | rfl
      · exact queues.others found outside here waits
      · cases waits
    · obtain ⟨rfl, rfl⟩ | ⟨-, there⟩ := getElem?_set_cases there
      · exact nomatch inside.symm.trans awaits
      · obtain ⟨lock, here, waits⟩ := queues.waits j l q there awaits
        exact ⟨lock, (List.getElem?_append_left (List.getElem?_eq_some_iff.1 here).1).trans here, waits⟩
    · rcases List.mem_append.1 member with old | new
      · exact queues.served lock old
      · rw [List.mem_singleton.1 new]
        exact Lock.create_served
    · rcases getElem?_concat_cases here with here | rfl
      · obtain ⟨j, q, there, holds⟩ := queues.owned l lock here shut
        obtain ⟨rfl, rfl⟩ | there := set_cases found there
        · exact nomatch held.symm.trans holds
        · exact ⟨j, q, there, holds⟩
      · cases shut
  | @queued l lock after locks here served held move =>
    rw [locks]
    obtain ⟨distinct, stands, waits, owned⟩ := queues.queue_moved found here move
    have self := List.getElem?_set_self (a := after) (List.getElem?_eq_some_iff.1 here).1
    -- the operating request has to do with no other lock
    have apart : ∀ {k j : Nat} {q : SynthesisJob}, k ≠ l → requests[j]? = some q →
        q.pc.awaits? = some k ∨ q.pc.held? = some k → (requests.set i r')[j]? = some q := by
      intro k j q other there concerned
      obtain ⟨rfl, rfl⟩ | there := set_cases found there
      · rcases concerned with awaits | holds
        · cases move with
          | passed outside | joined outside => exact nomatch outside.symm.trans awaits
          | left outside =>
            cases outside.symm.trans awaits
            exact absurd rfl other
        · exact absurd (held k holds) other
      · exact there
    refine ⟨fun k other there => ?_, fun k other j there waiting => ?_, fun j k q there awaits => ?_,
      fun other member => ?_, fun k other there shut => ?_⟩
    · obtain ⟨rfl, rfl⟩ | ⟨-, there⟩ := getElem?_set_cases there
      · exact distinct
      · exact queues.distinct k other there
    · obtain ⟨rfl, rfl⟩ | ⟨different, there⟩ := getElem?_set_cases there
      · exact stands j waiting
      · obtain ⟨q, before, awaits⟩ := queues.stands k other j there waiting
        exact ⟨q, apart different before (.inl awaits), awaits⟩
    · by_cases same : k = l
      · subst same
        exact ⟨after, self, waits j q there awaits⟩
      · obtain ⟨rfl, rfl⟩ | ⟨-, before⟩ := getElem?_set_cases there
        · cases move with
          | passed _ inside | left _ inside => exact nomatch inside.symm.trans awaits
          | joined _ inside =>
            cases inside.symm.trans awaits
            exact absurd rfl same
        · obtain ⟨other, old, waiting⟩ := queues.waits j k q before awaits
          exact ⟨other, (List.getElem?_set_ne (Ne.symm same)).trans old, waiting⟩
    · rcases mem_set_cases member with rfl | member
      · exact served (queues.served lock (List.mem_of_getElem? here))
      · exact queues.served other member
    · obtain ⟨rfl, rfl⟩ | ⟨different, there⟩ := getElem?_set_cases there
      · exact owned shut
      · obtain ⟨j, q, before, holds⟩ := queues.owned k other there shut
        exact ⟨j, q, apart different before (.inr holds), holds⟩

end LockQueues

/-! ## Somebody can go on -/

section Enabled

variable {i : Nat} {s : SharedState} {r : SynthesisJob}

/-- A request that runs has a next operation. -/
theorem advance_isSome (awake : r.pc.suspended = false) (known : ∀ l, r.pc.model? = some l → l < s.locks.length)
    (ok : Bool) : (advance i s r ok).isSome := by
  cases place : r.pc with
  | acquiring l =>
    have inside := known l (by rw [place]; rfl)
    simp only [advance, place, List.getElem?_eq_getElem inside, Option.bind_eq_bind, Option.bind_some]
    split <;> rfl
  | leavingLock l =>
    have inside := known l (by rw [place]; rfl)
    simp only [advance, place, List.getElem?_eq_getElem inside]
    rfl
  | admitted | entering =>
    simp only [advance, place]
    split <;> rfl
  | arrived | waitingQueue | ready | waiting | waitingLock | polling | running | yielded | finished =>
    simp [place] at awake
  | _ =>
    simp only [advance, place, goOn, suspend, afterwards]
    (repeat' split) <;> rfl

/-- Inside the lock of a model no request waits for another one. -/
theorem awaken_of_held {l : Nat} (held : r.pc.held? = some l) (suspended : r.pc.suspended = true) :
    (awaken i s r false).isSome := by
  cases place : r.pc with
  | polling | running | yielded => simp [awaken, place, goOn]
  | _ => simp [place] at held suspended

end Enabled

/-- What the progress of the service relies on. -/
structure Attended (queueDepth limit : Nat) (w : Service) : Prop where
  drainable : Drainable queueDepth limit w
  exclusion : Exclusion w
  queues : LockQueues w.shared.locks w.requests
  baton : ∀ i, w.active = some i → ∃ r, w.requests[i]? = some r ∧ r.pc.suspended = false

namespace Attended

variable {queueDepth limit : Nat} {w w' : Service}

theorem initial (queueDepth limit : Nat) : Attended queueDepth limit (.initial queueDepth limit) where
  drainable := .initial queueDepth limit
  exclusion := .initial queueDepth limit
  queues := .initial
  baton i active := by cases active

theorem put_baton {i : Nat} {p : SharedState × SynthesisJob × Bool} {r : SynthesisJob}
    (found : w.requests[i]? = some r) (on : p.2.1.pc.suspended = !p.2.2) :
    ∀ j, (w.put i p).active = some j → ∃ q, (w.put i p).requests[j]? = some q ∧ q.pc.suspended = false := by
  intro j active
  simp only [Service.put] at active
  split at active
  · rename_i runs
    cases active
    exact ⟨p.2.1, List.getElem?_set_self (List.getElem?_eq_some_iff.1 found).1, by rw [on, runs]; rfl⟩
  · cases active

theorem step (attended : Attended queueDepth limit w) {a : ServiceAct} (step : w.step a = some w') :
    Attended queueDepth limit w' := by
  have adm := attended.drainable.admission
  have drainable := attended.drainable.step step
  have exclusion := attended.exclusion.stepped adm (Service.step_cases adm.queued step)
  cases a with
  | arrive kind key chunks =>
    cases step
    refine ⟨drainable, exclusion, attended.queues.arrived rfl, fun i active => ?_⟩
    obtain ⟨r, found, awake⟩ := attended.baton i active
    exact ⟨r, (List.getElem?_append_left (List.getElem?_eq_some_iff.1 found).1).trans found, awake⟩
  | step i ok =>
    obtain ⟨active, r, p, found, done, rfl⟩ := Service.step_iff.1 step
    exact ⟨drainable, exclusion, attended.queues.moved found (advance_locks done),
      put_baton found (advance_move done).2⟩
  | resume i raises =>
    obtain ⟨active, r, p, found, done, rfl⟩ := Service.resume_iff.1 step
    have queued := adm.queued r (List.mem_of_getElem? found)
    exact ⟨drainable, exclusion, attended.queues.moved found (awaken_locks queued done),
      put_baton found (awaken_move queued done).2⟩
  | cancel i =>
    obtain ⟨active, r, s', found, done, rfl⟩ := Service.cancel_iff.1 step
    refine ⟨drainable, exclusion, ?_, fun j other => nomatch active.symm.trans other⟩
    rcases cancelled_locks done with same | ⟨l, lock, here, locks⟩ <;> dsimp only
    · rw [same]
      exact attended.queues
    · rw [locks]
      exact attended.queues.cancelled here i

/-- While no request runs, all are suspended. -/
theorem suspended (attended : Attended queueDepth limit w) (calm : w.active = none) {i : Nat} {r : SynthesisJob}
    (found : w.requests[i]? = some r) : r.pc.suspended = true := by
  by_contra awake
  have active := attended.drainable.admission.baton i r found (Bool.eq_false_iff.2 awake)
  cases calm.symm.trans active

theorem resumes (calm : w.active = none) {i : Nat} {r : SynthesisJob} (found : w.requests[i]? = some r)
    (wakes : (awaken i w.shared r false).isSome) : (w.step (.resume i false)).isSome := by
  obtain ⟨p, done⟩ := Option.isSome_iff_exists.1 wakes
  rw [Service.resume_iff.2 ⟨calm, r, p, found, done, rfl⟩]
  rfl

/-- Whoever waits for the lock of a model waits for a request that can be resumed. -/
theorem lock_served (attended : Attended queueDepth limit w) (calm : w.active = none) {i l : Nat}
    {r : SynthesisJob} (found : w.requests[i]? = some r) (awaits : r.pc.awaits? = some l) :
    ∃ j, (w.step (.resume j false)).isSome := by
  obtain ⟨lock, here, waits⟩ := attended.queues.waits i l r found awaits
  cases shut : lock.locked with
  | true =>
    obtain ⟨j, q, there, held⟩ := attended.queues.owned l lock here shut
    exact ⟨j, resumes calm there (awaken_of_held held (attended.suspended calm there))⟩
  | false =>
    obtain ⟨first, member, done⟩ := (attended.queues.served lock (List.mem_of_getElem? here)).first shut waits
    obtain ⟨q, there, stands⟩ := attended.queues.stands l lock first.task here (List.mem_map_of_mem member)
    have state := state?_of_mem (attended.queues.distinct l lock here) member
    refine ⟨first.task, resumes calm there ?_⟩
    cases place : q.pc with
    | waitingLock k =>
      rw [place] at stands
      cases stands
      obtain ⟨⟨acquired, after⟩, resumed⟩ := Option.isSome_iff_exists.1 (Lock.resume_isSome state done)
      cases acquired <;> simp [awaken, place, here, resumed, goOn]
    | _ => simp [place] at stands

/-- Whoever waits for a concurrency permit waits for a request that can be resumed. -/
theorem permit_served (attended : Attended queueDepth limit w) (positive : 0 < limit) (calm : w.active = none)
    {i : Nat} {r : SynthesisJob} (found : w.requests[i]? = some r) (waiting : r.pc = .waiting) :
    ∃ j, (w.step (.resume j false)).isSome := by
  have adm := attended.drainable.admission
  by_cases idle : ∃ x ∈ w.shared.concurrency.waiters, x.state ≠ .pending
  · obtain ⟨x, member, done⟩ := idle
    obtain ⟨q, there, place⟩ := adm.waits x.task (List.mem_map_of_mem member)
    obtain ⟨⟨acquired, after⟩, resumed⟩ :=
      Option.isSome_iff_exists.1 (Semaphore.resume_isSome (state?_of_mem adm.distinct member) done)
    refine ⟨x.task, resumes calm there ?_⟩
    cases acquired <;> simp [awaken, place, resumed, goOn]
  · -- all permits are in use
    push Not at idle
    obtain ⟨x, member, -⟩ := List.mem_map.1 (attended.drainable.waits i r found waiting)
    have nobody : granted w.shared.concurrency.waiters = 0 :=
      List.countP_eq_zero.2 fun y other => by simp [idle y other]
    have slots := adm.slots
    have zero := attended.drainable.served ⟨x, member, idle x member⟩
    unfold Semaphore.idle at slots
    have inside : 0 < w.requests.countP (·.pc.concurrent) := by omega
    obtain ⟨q, member, concurrent⟩ := List.countP_pos_iff.1 inside
    obtain ⟨j, there⟩ := List.mem_iff_getElem?.1 member
    have suspended := attended.suspended calm there
    cases place : q.pc with
    | waitingLock l => exact attended.lock_served calm there (by rw [place]; rfl)
    | polling l k | running l k | yielded l k =>
      exact ⟨j, resumes calm there (awaken_of_held (by rw [place]; rfl) suspended)⟩
    | _ => simp [place] at concurrent suspended

/-- Some request runs, or can be resumed, as long as one is unfinished. -/
theorem goes_on (attended : Attended queueDepth limit w) (positive : 0 < limit) (unfinished : ¬w.Quiescent) :
    ∃ i, (∀ ok, (w.step (.step i ok)).isSome) ∨ (w.step (.resume i false)).isSome := by
  cases active : w.active with
  | some i =>
    obtain ⟨r, found, awake⟩ := attended.baton i active
    have member := List.mem_of_getElem? found
    refine ⟨i, .inl fun ok => ?_⟩
    obtain ⟨p, done⟩ := Option.isSome_iff_exists.1 <| advance_isSome (i := i) awake
      (fun l model => attended.exclusion.known _ l (attended.exclusion.named r member l model)) ok
    rw [Service.step_iff.2 ⟨active, r, p, found, done, rfl⟩]
    rfl
  | none =>
    unfold Service.Quiescent at unfinished
    push Not at unfinished
    obtain ⟨r, member, unfinished⟩ := unfinished
    obtain ⟨i, found⟩ := List.mem_iff_getElem?.1 member
    have suspended := attended.suspended active found
    have queued := attended.drainable.admission.queued r member
    have served : ∃ j, (w.step (.resume j false)).isSome := by
      cases place : r.pc with
      | waiting => exact attended.permit_served positive active found place
      | waitingLock l => exact attended.lock_served active found (by rw [place]; rfl)
      | arrived | ready | polling | running | yielded =>
        exact ⟨i, resumes active found (by simp [awaken, place, goOn])⟩
      | waitingQueue => exact absurd place queued
      | finished => exact absurd place unfinished
      | _ => simp [place] at suspended
    obtain ⟨j, resumed⟩ := served
    exact ⟨j, .inr resumed⟩

/-- The requests can be brought to their end. -/
theorem completes (attended : Attended queueDepth limit w) (positive : 0 < limit) :
    ∃ more t, (∀ a ∈ more, Service.operates a = true) ∧ Transition.runs Service.step w more = some t ∧ t.Quiescent := by
  induction left : w.work using Nat.strong_induction_on generalizing w with
  | _ n ih =>
    by_cases done : w.Quiescent
    · exact ⟨[], w, nofun, rfl, done⟩
    · obtain ⟨a, operates, enabled⟩ : ∃ a, Service.operates a = true ∧ (w.step a).isSome := by
        obtain ⟨i, runs | resumed⟩ := attended.goes_on positive done
        · exact ⟨.step i true, rfl, runs true⟩
        · exact ⟨.resume i false, rfl, resumed⟩
      obtain ⟨u, step⟩ := Option.isSome_iff_exists.1 enabled
      have less := Service.step_less operates step
      obtain ⟨more, t, all, run, quiescent⟩ := ih u.work (left ▸ less) (attended.step step) rfl
      refine ⟨a :: more, t, ?_, Transition.runs_cons_iff.2 ⟨u, step, run⟩, quiescent⟩
      rintro b member
      rcases List.mem_cons.1 member with rfl | member
      · exact operates
      · exact all b member

end Attended

/-- **No deadlock and no endless work.** In every state of every run, whatever was
cancelled or raised: the operations so far are paid for by the requests that arrived;
while a request is unfinished, one runs or can be resumed; and the requests in the service
can be brought to their end. -/
theorem every_request_ends {queueDepth limit : Nat} {acts : List ServiceAct} {w : Service} (positive : 0 < limit)
    (run : Transition.runs Service.step (Service.initial queueDepth limit) acts = some w) :
    acts.countP Service.operates + w.work ≤ (w.requests.map fun r => 6 * r.calls + 25).sum ∧
    (¬w.Quiescent → ∃ i, (∀ ok, (w.step (.step i ok)).isSome) ∨ (w.step (.resume i false)).isSome) ∧
    ∃ more t, (∀ a ∈ more, Service.operates a = true) ∧ Transition.runs Service.step w more = some t ∧
      t.Quiescent := by
  have attended : Attended queueDepth limit w :=
    Transition.runs_inv (fun _ _ _ attended step => attended.step step) (.initial queueDepth limit) run
  refine ⟨?_, attended.goes_on positive, attended.completes positive⟩
  have paid := Service.runs_work run
  have finished : (Service.initial queueDepth limit).work = 0 ∧ (Service.initial queueDepth limit).allWork = 0 :=
    ⟨rfl, rfl⟩
  have all : (w.requests.map fun r => 6 * r.calls + 25).sum = w.allWork := rfl
  omega

/-- Two requests for one model: the first one's call runs, the second one waits for the
permit, and is cancelled. -/
def oneWaits : List ServiceAct :=
  [.arrive .buffered ("mlx", "a") 1, .arrive .buffered ("mlx", "a") 2, .resume 0 false] ++
    List.replicate 10 (.step 0 true) ++ [.resume 0 false, .step 0 true, .resume 1 false] ++
    List.replicate 6 (.step 1 true) ++ [.cancel 1]

theorem oneWaits_ends :
    ∃ w, Transition.runs Service.step (Service.initial 2 1) oneWaits = some w ∧
      w.requests.map (·.pc) = [.running 0 0, .waiting] ∧
      ∃ more t, (∀ a ∈ more, Service.operates a = true) ∧ Transition.runs Service.step w more = some t ∧
        t.Quiescent := by
  have run := Transition.runs_final Service.step (Service.initial 2 1) oneWaits (by decide +kernel)
  exact ⟨_, run, by decide +kernel, (every_request_ends Nat.one_pos run).2.2⟩

end LlmTts
