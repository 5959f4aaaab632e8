import LlmTts.Synthesis.Admission

/-!
# Conservation of the queue permits

A buffered request and `generate` acquire and release in one function. A streamed
request acquires in `synthesize_core` and releases in the `finally` of its
generator, which does not run when the generator is never advanced:
`permits_conserved_iff` says that these are the only lost permits.
-/

namespace LlmTts
open Slots

namespace Service

/-- A streamed request that holds a permit gets its response built, and its
generator is advanced. -/
def Hands (w : Service) : ServiceAct → Prop
  | .step i ok => ∀ r ∈ w.requests[i]?, r.pc = .responding → ok = true
  | .resume i raises => ∀ r ∈ w.requests[i]?, r.pc = .ready → raises = false
  | _ => True

instance (w : Service) : (a : ServiceAct) → Decidable (w.Hands a)
  | .step i ok => inferInstanceAs (Decidable (∀ r ∈ w.requests[i]?, r.pc = .responding → ok = true))
  | .resume i raises => inferInstanceAs (Decidable (∀ r ∈ w.requests[i]?, r.pc = .ready → raises = false))
  | .arrive .. | .cancel _ => isTrue trivial

/-- Every request that has ended has given its permit back. -/
def Returned (w : Service) : Prop := ∀ r ∈ w.requests, r.pc.phase = .ended → r.released = r.acquired

/-- A request has ended and still has its permit. -/
def Lost (w : Service) : Prop := ∃ r ∈ w.requests, r.pc = .finished ∧ r.holdsQueue = true

variable {queueDepth limit : Nat} {w w' : Service}

/-- Where a permit can get lost, a step that hands it over does not end the request. -/
theorem handed {a : ServiceAct} (hands : w.Hands a) (step : w.step a = some w') {i : Nat}
    {r r' : SynthesisJob} (found : w.requests[i]? = some r) (after : w'.requests[i]? = some r')
    (place : r.pc = .responding ∨ r.pc = .ready) : r'.pc ≠ .finished := by
  have unfinished : r.pc ≠ .finished := by rcases place with place | place <;> simp [place]
  cases a with
  | arrive kind key chunks =>
    cases step
    have inside := (List.getElem?_eq_some_iff.1 found).1
    cases ((List.getElem?_append_left inside).trans found).symm.trans after
    exact unfinished
  | step j ok =>
    obtain ⟨-, q, p, there, done, rfl⟩ := step_iff.1 step
    obtain ⟨rfl, rfl⟩ | ⟨-, before⟩ := getElem?_set_cases after
    · cases there.symm.trans found
      rcases place with place | place
      · cases hands r found place
        simp only [advance, place, suspend, if_true] at done
        cases done
        simp
      · simp [advance, place] at done
    · cases before.symm.trans found
      exact unfinished
  | resume j raises =>
    obtain ⟨-, q, p, there, done, rfl⟩ := resume_iff.1 step
    obtain ⟨rfl, rfl⟩ | ⟨-, before⟩ := getElem?_set_cases after
    · cases there.symm.trans found
      rcases place with place | place
      · simp [awaken, place] at done
      · cases hands r found place
        simp only [awaken, place, goOn, Bool.false_eq_true, if_false] at done
        cases done
        simp
    · cases before.symm.trans found
      exact unfinished
  | cancel j =>
    obtain ⟨-, q, s', there, done, rfl⟩ := cancel_iff.1 step
    cases found.symm.trans after
    exact unfinished

theorem returned (adm : Admission queueDepth limit w) (returned : w.Returned) {a : ServiceAct}
    (hands : w.Hands a) (step : w.step a = some w') : w'.Returned := by
  cases step_cases adm.queued step with
  | arrived kind key chunks =>
    intro q there ended
    rcases List.mem_append.1 there with there | new
    · exact returned q there ended
    · cases List.mem_singleton.1 new
      cases ended
  | @moved i s' r r' found alone move =>
    intro q there ended
    rcases mem_set_cases there with rfl | there
    · have accounts := adm.accounts r (List.mem_of_getElem? found)
      have here := List.getElem?_set_self (a := q) (List.getElem?_eq_some_iff.1 found).1
      cases move with
      | quiet same =>
        rw [same.acquired, same.released]
        rcases same.phase with phase | ⟨before, -⟩
        · exact returned r (List.mem_of_getElem? found) (phase ▸ ended)
        · obtain ⟨acquired, released⟩ := accounts.before before
          rw [acquired, released]
      | abandoned place => exact absurd rfl (handed hands step found here place)
      | queueNow place now next => rcases next with rfl | rfl <;> cases ended
      | queueReleased place next =>
        obtain ⟨acquired, released⟩ := accounts.holding (by rw [place]; rfl)
        simp only [acquired, released]
      | @concurrencyResumed _ _ acquired | @lockResumed _ _ _ _ acquired => cases acquired <;> cases ended
      | _ => cases ended
    · exact returned q there ended
  | cancelled calm => exact returned

/-- A step that does not hand a permit over ends the request that holds it. -/
theorem dropped {a : ServiceAct} (drops : ¬w.Hands a) (step : w.step a = some w') :
    ∃ i r, w.requests[i]? = some r ∧ (r.pc = .responding ∨ r.pc = .ready) ∧
      w'.requests = w.requests.set i { r with pc := .finished } := by
  cases a with
  | arrive => exact absurd trivial drops
  | cancel => exact absurd trivial drops
  | step i ok =>
    obtain ⟨-, r, p, found, done, rfl⟩ := step_iff.1 step
    simp only [Hands, found, Option.mem_def, Option.some.injEq, forall_eq', not_forall] at drops
    obtain ⟨place, failed⟩ := drops
    simp only [advance, place, suspend, failed] at done
    cases done
    exact ⟨i, r, found, .inl place, rfl⟩
  | resume i raises =>
    obtain ⟨-, r, p, found, done, rfl⟩ := resume_iff.1 step
    simp only [Hands, found, Option.mem_def, Option.some.injEq, forall_eq', not_forall] at drops
    obtain ⟨place, failed⟩ := drops
    rw [Bool.not_eq_false] at failed
    simp only [awaken, place, suspend, failed, if_true] at done
    cases done
    exact ⟨i, r, found, .inr place, rfl⟩

theorem lost {a : ServiceAct} (adm : Admission queueDepth limit w) (drops : ¬w.Hands a)
    (step : w.step a = some w') : w'.Lost := by
  obtain ⟨i, r, found, place, after⟩ := dropped drops step
  have holds := (adm.accounts r (List.mem_of_getElem? found)).holdsQueue
    (by rcases place with place | place <;> rw [place] <;> rfl)
  have inside := (List.getElem?_eq_some_iff.1 found).1
  refine ⟨{ r with pc := .finished }, ?_, rfl, holds⟩
  rw [after]
  exact List.mem_of_getElem? (List.getElem?_set_self inside)

/-- A lost permit stays lost: a request that has ended does nothing more. -/
theorem stays_lost {a : ServiceAct} (adm : Admission queueDepth limit w) (lost : w.Lost)
    (step : w.step a = some w') : w'.Lost := by
  obtain ⟨q, member, finished, holds⟩ := lost
  cases step_cases adm.queued step with
  | arrived kind key chunks => exact ⟨q, List.mem_append_left _ member, finished, holds⟩
  | @moved i s' r r' found alone move =>
    obtain ⟨j, there⟩ := List.mem_iff_getElem?.1 member
    have apart : i ≠ j := by
      rintro rfl
      cases there.symm.trans found
      exact move.live finished
    exact ⟨q, List.mem_of_getElem? ((List.getElem?_set_ne apart).trans there), finished, holds⟩
  | cancelled calm => exact ⟨q, member, finished, holds⟩

end Service

/-- **Permit conservation.** No request releases a permit it does not have or
acquires a second one, and the counter never exceeds its initial value. When no
request is in flight every permit is back if and only if no streamed request
failed to build its response or had its generator discarded unadvanced. -/
theorem permits_conserved_iff {queueDepth limit : Nat} {acts : List ServiceAct} {w : Service}
    (run : Transition.runs Service.step (Service.initial queueDepth limit) acts = some w) :
    (∀ r ∈ w.requests, r.released ≤ r.acquired ∧ r.acquired ≤ 1) ∧
    w.shared.queue.value ≤ queueDepth ∧
    (w.Quiescent → ((w.shared.queue.value = queueDepth ∧ ∀ r ∈ w.requests, r.released = r.acquired) ↔
      Transition.Guarded Service.step Service.Hands (Service.initial queueDepth limit) acts)) := by
  have adm := Admission.run run
  have permits := adm.permits
  have kept : ∀ (w : Service) (a : ServiceAct) (w' : Service), Admission queueDepth limit w →
      w.step a = some w' → Admission queueDepth limit w' := fun w a w' adm step =>
    adm.stepped (Service.step_cases adm.queued step)
  refine ⟨fun r member => (adm.accounts r member).bounds, by omega, fun quiescent => ⟨?_, ?_⟩⟩
  · rintro ⟨-, equal⟩
    by_contra unguarded
    obtain ⟨r, member, -, holds⟩ := Transition.unguarded_inv kept
      (fun w a w' adm drops step => Service.lost adm drops step)
      (fun w a w' adm lost step => Service.stays_lost adm lost step)
      (Admission.initial queueDepth limit) unguarded run
    simp [SynthesisJob.holdsQueue, equal r member] at holds
  · intro guarded
    have returned : w.Returned := (Transition.guarded_inv
      (I := fun w => Admission queueDepth limit w ∧ w.Returned)
      (fun w a w' both hands step =>
        ⟨kept w a w' both.1 step, Service.returned both.1 both.2 hands step⟩)
      ⟨.initial queueDepth limit, fun r member => by cases member⟩ guarded run).2
    have equal : ∀ r ∈ w.requests, r.released = r.acquired := fun r member =>
      returned r member (by rw [quiescent r member]; rfl)
    have unheld : w.requests.countP (·.holdsQueue) = 0 :=
      List.countP_eq_zero.2 fun r member => by simp [SynthesisJob.holdsQueue, equal r member]
    exact ⟨by omega, equal⟩

/-- A streamed request of one chunk, from its arrival to the end of its generator. -/
def streamedToTheEnd : List ServiceAct :=
  [.arrive .streamed ("mlx", "a") 1, .resume 0 false] ++ List.replicate 6 (.step 0 true) ++
    [.resume 0 false] ++ List.replicate 6 (.step 0 true) ++ [.resume 0 false, .step 0 true,
    .resume 0 false] ++ List.replicate 5 (.step 0 true)

theorem streamedToTheEnd_conserves :
    ∃ w, Transition.runs Service.step (Service.initial 1 1) streamedToTheEnd = some w ∧
      w.Quiescent ∧ w.requests.map (·.acquired) = [1] ∧ w.shared.queue.value = 1 := by
  have run := Transition.runs_final Service.step (Service.initial 1 1) streamedToTheEnd (by decide +kernel)
  have ended : (Transition.final Service.step (Service.initial 1 1) streamedToTheEnd).Quiescent := by
    decide +kernel
  have conserved := (permits_conserved_iff run).2.2 ended
  exact ⟨_, run, ended, by decide +kernel, (conserved.2 (by decide +kernel)).1⟩

/-- The same request, but building its response raises: a header value is not
latin-1. -/
def responseFails : List ServiceAct :=
  [.arrive .streamed ("mlx", "a") 1, .resume 0 false] ++ List.replicate 5 (.step 0 true) ++ [.step 0 false]

/-- No request is in flight, and the only permit is gone. -/
theorem permits_leak :
    ¬∀ (queueDepth limit : Nat) (acts : List ServiceAct) (w : Service),
      Transition.runs Service.step (Service.initial queueDepth limit) acts = some w → w.Quiescent →
      w.shared.queue.value = queueDepth := by
  intro claim
  have run := Transition.runs_final Service.step (Service.initial 1 1) responseFails (by decide +kernel)
  have full := claim 1 1 responseFails _ run (by decide +kernel)
  exact absurd full (by decide +kernel)

end LlmTts
