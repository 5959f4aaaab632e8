import LlmTts.Lib.Slots
import LlmTts.Synthesis.Moves

/-!
# The temp file of a request

`synthesize_core` creates the file of the voice sample, `tmp_path` names it from the
end of the write on, and a streamed request hands it to its generator when it has
its queue permit. Each owner removes it in a `finally`. `no_sample_left_iff` says
between which owners a file can be left behind.
-/

namespace LlmTts
open Slots Transition

namespace SynthesisJob

/-- Which requests have a temp file on disk at which place. -/
def Filed (r : SynthesisJob) : Prop :=
  match r.pc with
  | .arrived | .opening => r.tmpFile = false
  | .writing | .preparing | .responding | .ready | .cleaning => r.kind ≠ .generate ∧ r.tmpFile = true
  | .finished => True
  | _ => r.tmpFile = decide (r.kind ≠ .generate)

/-- The request has ended and its voice sample is still on disk. -/
def left (r : SynthesisJob) : Bool := r.pc = .finished && r.tmpFile

end SynthesisJob

section Operations

variable {i : Nat} {s s' : SharedState} {r r' : SynthesisJob} {on : Bool}

/-- A file is left behind by a write or by a response that fails. -/
theorem advance_filed {ok : Bool} (filed : r.Filed) (done : advance i s r ok = some (s', r', on)) :
    r'.Filed ∧ (r'.left = true ↔ ok = false ∧ (r.pc = .writing ∨ r.pc = .responding)) := by
  unfold SynthesisJob.Filed at filed
  cases place : r.pc with
  | acquiring l | leavingLock l =>
    simp only [place] at filed
    simp only [advance, place, goOn, suspend] at done
    obtain ⟨lock, found, done⟩ := Option.bind_eq_some_iff.1 done
    (repeat' split at done) <;> cases done <;> simp_all [SynthesisJob.Filed, SynthesisJob.left]
  | _ =>
    simp only [place] at filed
    simp only [advance, place, goOn, suspend, afterwards] at done
    (repeat' split at done) <;> cases done <;> simp_all [SynthesisJob.Filed, SynthesisJob.left]

/-- A file is left behind by a generator that is discarded unadvanced. -/
theorem awaken_filed {raises : Bool} (filed : r.Filed) (done : awaken i s r raises = some (s', r', on)) :
    r'.Filed ∧ (r'.left = true ↔ raises = true ∧ r.pc = .ready) := by
  unfold SynthesisJob.Filed at filed
  cases place : r.pc with
  | waitingQueue | waiting =>
    simp only [place] at filed
    simp only [awaken, place, goOn, suspend, afterwards] at done
    obtain ⟨⟨acquired, after⟩, resumed, done⟩ := Option.bind_eq_some_iff.1 done
    (repeat' split at done) <;> cases done <;> simp_all [SynthesisJob.Filed, SynthesisJob.left]
  | waitingLock l =>
    simp only [place] at filed
    simp only [awaken, place, goOn] at done
    obtain ⟨lock, found, done⟩ := Option.bind_eq_some_iff.1 done
    obtain ⟨⟨acquired, after⟩, resumed, done⟩ := Option.bind_eq_some_iff.1 done
    cases acquired <;> cases done <;> simp_all [SynthesisJob.Filed, SynthesisJob.left]
  | _ =>
    simp only [place] at filed
    simp only [awaken, place, goOn, suspend] at done
    (repeat' split at done) <;> cases done <;> simp_all [SynthesisJob.Filed, SynthesisJob.left]

/-- A request that has ended has no next operation. -/
theorem not_left_of_advance {ok : Bool} {p : SharedState × SynthesisJob × Bool}
    (done : advance i s r ok = some p) : r.left = false := by
  cases place : r.pc with
  | finished => simp [advance, place] at done
  | _ => simp [SynthesisJob.left, place]

theorem not_left_of_awaken {raises : Bool} {p : SharedState × SynthesisJob × Bool}
    (done : awaken i s r raises = some p) : r.left = false := by
  cases place : r.pc with
  | finished => simp [awaken, place] at done
  | _ => simp [SynthesisJob.left, place]

end Operations

namespace Service

/-- The step does not fail where nobody owns the file: the write, the response that
is to own the generator, and the generator before its first chunk. -/
def Owned (w : Service) : ServiceAct → Prop
  | .step i ok => ∀ r ∈ w.requests[i]?, r.pc = .writing ∨ r.pc = .responding → ok = true
  | .resume i raises => ∀ r ∈ w.requests[i]?, r.pc = .ready → raises = false
  | _ => True

instance (w : Service) : (a : ServiceAct) → Decidable (w.Owned a)
  | .step i ok =>
    inferInstanceAs (Decidable (∀ r ∈ w.requests[i]?, r.pc = .writing ∨ r.pc = .responding → ok = true))
  | .resume i raises => inferInstanceAs (Decidable (∀ r ∈ w.requests[i]?, r.pc = .ready → raises = false))
  | .arrive .. | .cancel _ => isTrue trivial

variable {w w' : Service}

/-- One operation of request `i` leaves its file behind if it fails unowned. -/
theorem left_put {i : Nat} {r : SynthesisJob} {p : SharedState × SynthesisJob × Bool} {unowned : Prop}
    [Decidable unowned] (found : w.requests[i]? = some r) (before : r.left = false)
    (after : p.2.1.left = true ↔ unowned) :
    (w.put i p).requests.countP (·.left) = w.requests.countP (·.left) + if unowned then 1 else 0 := by
  have count := countP_set (b := p.2.1) (p := (·.left)) found
  rw [before] at count
  simp only [after, Bool.false_eq_true, if_false, Nat.add_zero] at count
  exact count

theorem filed_put {i : Nat} {p : SharedState × SynthesisJob × Bool} (filed : ∀ r ∈ w.requests, r.Filed)
    (after : p.2.1.Filed) : ∀ r ∈ (w.put i p).requests, r.Filed := by
  intro q there
  rcases mem_set_cases there with rfl | there
  · exact after
  · exact filed q there

theorem filed_step {a : ServiceAct} (filed : ∀ r ∈ w.requests, r.Filed) (step : w.step a = some w') :
    (∀ r ∈ w'.requests, r.Filed) ∧
      w'.requests.countP (·.left) = w.requests.countP (·.left) + if w.Owned a then 0 else 1 := by
  cases a with
  | arrive kind key chunks =>
    cases step
    refine ⟨fun q there => ?_, ?_⟩
    · rcases List.mem_append.1 there with there | new
      · exact filed q there
      · cases List.mem_singleton.1 new
        exact rfl
    · have owned : w.Owned (.arrive kind key chunks) := trivial
      rw [if_pos owned, List.countP_append, List.countP_singleton]
      rfl
  | step i ok =>
    obtain ⟨-, r, p, found, done, rfl⟩ := step_iff.1 step
    obtain ⟨next, after⟩ := advance_filed (filed r (List.mem_of_getElem? found)) done
    have before := not_left_of_advance done
    refine ⟨filed_put filed next, (left_put found before after).trans ?_⟩
    have owned : w.Owned (.step i ok) ↔ ¬(ok = false ∧ (r.pc = .writing ∨ r.pc = .responding)) := by
      simp only [Owned, found, Option.mem_def, Option.some.injEq, forall_eq']
      cases ok <;> simp
    simp only [owned, ite_not]
  | resume i raises =>
    obtain ⟨-, r, p, found, done, rfl⟩ := resume_iff.1 step
    obtain ⟨next, after⟩ := awaken_filed (filed r (List.mem_of_getElem? found)) done
    have before := not_left_of_awaken done
    refine ⟨filed_put filed next, (left_put found before after).trans ?_⟩
    have owned : w.Owned (.resume i raises) ↔ ¬(raises = true ∧ r.pc = .ready) := by
      simp only [Owned, found, Option.mem_def, Option.some.injEq, forall_eq']
      cases raises <;> simp
    simp only [owned, ite_not]
  | cancel i =>
    obtain ⟨-, r, s', found, done, rfl⟩ := cancel_iff.1 step
    exact ⟨filed, rfl⟩

/-- A run leaves as many files behind as it has steps that fail where nobody owns the file. -/
theorem left_eq {queueDepth limit : Nat} {acts : List ServiceAct}
    (run : runs Service.step (initial queueDepth limit) acts = some w) :
    w.requests.countP (·.left) = breaches Service.step Owned (initial queueDepth limit) acts := by
  have counted := breaches_inv Owned (I := fun w : Service => ∀ r ∈ w.requests, r.Filed)
    (m := fun w => w.requests.countP (·.left))
    (fun w a w' filed step => (filed_step filed step).1)
    (fun w a w' filed step => (filed_step filed step).2) (fun r member => by cases member) run
  rw [counted]
  exact Nat.zero_add _

end Service

/-- **No voice sample is left.** In every state of every run, the temp file of each
request that is over has been removed if and only if no write of a sample failed, no
streamed response failed to be built, and no generator was discarded unadvanced. -/
theorem no_sample_left_iff {queueDepth limit : Nat} {acts : List ServiceAct} {w : Service}
    (run : runs Service.step (.initial queueDepth limit) acts = some w) :
    (∀ r ∈ w.requests, r.pc = .finished → r.tmpFile = false) ↔
      Guarded Service.step Service.Owned (.initial queueDepth limit) acts := by
  rw [← breaches_eq_zero_iff, ← Service.left_eq run, List.countP_eq_zero]
  refine forall₂_congr fun r member => ?_
  simp [SynthesisJob.left]

/-- A buffered request whose provider raises. -/
def providerFails : List ServiceAct :=
  [.arrive .buffered ("mlx", "a") 1, .resume 0 false] ++ List.replicate 10 (.step 0 true) ++
    [.resume 0 false, .step 0 true, .resume 0 true] ++ List.replicate 4 (.step 0 true)

theorem providerFails_removes :
    ∃ w, runs Service.step (.initial 8 1) providerFails = some w ∧
      w.requests.map (fun r => (r.pc, r.tmpFile)) = [(.finished, false)] ∧
      ∀ r ∈ w.requests, r.pc = .finished → r.tmpFile = false := by
  have run := runs_final Service.step (.initial 8 1) providerFails (by decide +kernel)
  exact ⟨_, run, by decide +kernel, (no_sample_left_iff run).2 (by decide +kernel)⟩

/-- The disk is full: the write of the sample raises. -/
def writeFails : List ServiceAct :=
  [.arrive .buffered ("mlx", "a") 1, .resume 0 false, .step 0 true, .step 0 false]

theorem writeFails_leaves :
    ¬∀ (queueDepth limit : Nat) (acts : List ServiceAct) (w : Service),
      runs Service.step (.initial queueDepth limit) acts = some w →
      ∀ r ∈ w.requests, r.pc = .finished → r.tmpFile = false := by
  intro claim
  have run := runs_final Service.step (.initial 8 1) writeFails (by decide +kernel)
  have removed := claim 8 1 writeFails _ run
  exact absurd removed (by decide +kernel)

end LlmTts
