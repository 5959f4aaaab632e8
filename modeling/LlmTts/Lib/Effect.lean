import LlmTts.Lib.Transition

/-!
# Programs that call effects

A `Prog E R α` is a program that performs calls from the signature `E` (the call
`e` is answered with a value of `R e`) and ends with a value of `α`. One program
text has two executions here:

* `runFaulty` runs it alone; a plan says for each call whether it works, raises
  an exception without effect, or raises one after its effect has happened;
* `Pool` runs any number of programs together: each call is one atomic step, and
  between two calls of one program any other program of the pool may step.

`Prog.Always` says what calls a program can make at all; `Pool.always_inv` is the
rule for an invariant that follows from the calls alone.
-/

namespace Effect

/-- A program over the calls `E` with replies `R`. -/
inductive Prog (E : Type) (R : E → Type) (α : Type) where
  | ret (a : α)
  | call (e : E) (k : R e → Prog E R α)

namespace Prog

variable {E : Type} {R : E → Type} {α β : Type}

def bind (p : Prog E R α) (f : α → Prog E R β) : Prog E R β :=
  match p with
  | .ret a => f a
  | .call e k => .call e fun r => (k r).bind f

instance : Monad (Prog E R) where
  pure := .ret
  bind := bind

theorem bind_ret (p : Prog E R α) : p.bind .ret = p := by
  induction p with
  | ret a => rfl
  | call e k ih => exact congrArg (call e) (funext ih)

/-- Programs can be put together in any order. -/
theorem bind_assoc {γ : Type} (p : Prog E R α) (f : α → Prog E R β) (g : β → Prog E R γ) :
    (p.bind f).bind g = p.bind fun a => (f a).bind g := by
  induction p with
  | ret a => rfl
  | call e k ih => exact congrArg (call e) (funext ih)

instance : LawfulMonad (Prog E R) :=
  LawfulMonad.mk' (Prog E R) (fun p => bind_ret p) (fun _ _ => rfl) fun p f g => bind_assoc p f g

/-- Perform one call. -/
def perform (e : E) : Prog E R (R e) := .call e .ret

/-- The call the program performs next, or `none` once it has ended. -/
def next? : Prog E R α → Option E
  | .ret _ => none
  | .call e _ => some e

/-- The value the program has ended with. -/
def result? : Prog E R α → Option α
  | .ret a => some a
  | .call _ _ => none

/-- The value the program ends with when each call is answered by `reply`. -/
def answered (reply : (e : E) → R e) : Prog E R α → α
  | .ret a => a
  | .call e k => (k (reply e)).answered reply

/-- The calls the program makes when each call is answered by `reply`. -/
def asked (reply : (e : E) → R e) : Prog E R α → List E
  | .ret _ => []
  | .call e k => e :: (k (reply e)).asked reply

section Answers

variable (reply : (e : E) → R e)

/-- The result of two programs, one after the other. -/
@[simp] theorem answered_bind (p : Prog E R α) (f : α → Prog E R β) :
    (p >>= f).answered reply = (f (p.answered reply)).answered reply := by
  induction p with
  | ret a => rfl
  | call e k ih => exact ih (reply e)

/-- Their calls, one after the other. -/
@[simp] theorem asked_bind (p : Prog E R α) (f : α → Prog E R β) :
    (p >>= f).asked reply = p.asked reply ++ (f (p.answered reply)).asked reply := by
  induction p with
  | ret a => rfl
  | call e k ih => exact congrArg (e :: ·) (ih (reply e))

@[simp] theorem answered_map (f : α → β) (p : Prog E R α) : (f <$> p).answered reply = f (p.answered reply) :=
  answered_bind reply p fun a => .ret (f a)

@[simp] theorem asked_map (f : α → β) (p : Prog E R α) : (f <$> p).asked reply = p.asked reply := by
  have bound := asked_bind reply p fun a => .ret (f a)
  rw [asked, List.append_nil] at bound
  exact bound

/-- The first call does not depend on the replies. -/
theorem head?_asked (p : Prog E R α) : (p.asked reply).head? = p.next? := by
  cases p <;> rfl

variable {ε : Type}

theorem mk_ok_bind (a : α) (f : α → ExceptT ε (Prog E R) β) : (ExceptT.mk (pure (.ok a)) >>= f) = f a := rfl

theorem mk_error_bind (e : ε) (f : α → ExceptT ε (Prog E R) β) : (ExceptT.mk (pure (.error e)) >>= f) = throw e := rfl

/-- A program that may raise, and what comes after it. -/
theorem answered_run_bind (x : ExceptT ε (Prog E R) α) (f : α → ExceptT ε (Prog E R) β) :
    (x >>= f).run.answered reply = x.run.answered reply >>= fun a => (f a).run.answered reply := by
  rw [ExceptT.run_bind, answered_bind]
  cases x.run.answered reply <;> rfl

/-- A loop whose steps may raise. -/
theorem answered_mapM (f : α → ExceptT ε (Prog E R) β) (xs : List α) :
    (xs.mapM f).run.answered reply = xs.mapM fun x => (f x).run.answered reply := by
  induction xs with
  | nil => rfl
  | cons x xs ih =>
    rw [List.mapM_cons, List.mapM_cons, answered_run_bind]
    congr 1
    funext y
    rw [answered_run_bind, ih]
    congr 1

/-- A program that raises makes no further calls. -/
theorem asked_run_bind (x : ExceptT ε (Prog E R) α) (f : α → ExceptT ε (Prog E R) β) :
    (x >>= f).run.asked reply =
      x.run.asked reply ++ match x.run.answered reply with
        | .ok a => (f a).run.asked reply
        | .error _ => [] := by
  rw [ExceptT.run_bind, asked_bind]
  cases x.run.answered reply <;> rfl

end Answers

theorem next?_bind {p : Prog E R α} {e : E} (next : p.next? = some e) (f : α → Prog E R β) :
    (p >>= f).next? = some e := by
  cases p with
  | ret a => cases next
  | call e' k => exact next

theorem next?_map {p : Prog E R α} {e : E} (next : p.next? = some e) (f : α → β) : (f <$> p).next? = some e :=
  next?_bind next fun a => .ret (f a)

theorem next?_run_bind {ε : Type} {x : ExceptT ε (Prog E R) α} {e : E} (next : x.run.next? = some e)
    (f : α → ExceptT ε (Prog E R) β) : (x >>= f).run.next? = some e :=
  next?_bind next (ExceptT.bindCont f)

/-- Every call that the program can come to satisfies `P`, whatever it is answered. -/
def Always (P : E → Prop) : Prog E R α → Prop
  | .ret _ => True
  | .call e k => P e ∧ ∀ r, (k r).Always P

@[simp] theorem always_ret {P : E → Prop} (a : α) : (Prog.ret a : Prog E R α).Always P := trivial

theorem always_call {P : E → Prop} {e : E} {k : R e → Prog E R α} (here : P e)
    (rest : ∀ r, (k r).Always P) : (Prog.call e k).Always P := ⟨here, rest⟩

/-- Every call that the program can come to satisfies `P` and its value satisfies `Q`,
as long as the replies satisfy `A`. -/
def Meets (A : (e : E) → R e → Prop) (P : E → Prop) (Q : α → Prop) : Prog E R α → Prop
  | .ret a => Q a
  | .call e k => P e ∧ ∀ r, A e r → (k r).Meets A P Q

/-- Calls that are always fine are fine under every assumption on the replies. -/
theorem Always.meets {A : (e : E) → R e → Prop} {P : E → Prop} {Q : α → Prop} {prog : Prog E R α}
    (always : prog.Always P) (values : ∀ a, Q a) : prog.Meets A P Q := by
  induction prog with
  | ret a => exact values a
  | call e k ih => exact ⟨always.1, fun r _ => ih r (always.2 r)⟩

theorem Always.mono {P Q : E → Prop} {prog : Prog E R α} (always : prog.Always P)
    (weaker : ∀ e, P e → Q e) : prog.Always Q := by
  induction prog with
  | ret a => trivial
  | call e k ih => exact ⟨weaker e always.1, fun r => ih r (always.2 r)⟩

@[simp] theorem next?_ret (a : α) : (Prog.ret a : Prog E R α).next? = none := rfl

@[simp] theorem next?_call (e : E) (k : R e → Prog E R α) : (Prog.call e k).next? = some e := rfl

end Prog

/-! ## One program alone, with failing calls -/

/-- What happens to one call: it works, it raises `x` and has no effect, or it
raises `x` after its effect (a time-out of a request that was carried out). -/
inductive Outcome (X : Type) where
  | works
  | raises (x : X)
  | raisesLate (x : X)
  deriving DecidableEq, Repr

namespace Outcome

variable {X : Type}

/-- The call does not raise after its effect. -/
def Prompt : Outcome X → Prop
  | works | raises _ => True
  | raisesLate _ => False

/-- What the call raises, if it does, satisfies `P`. -/
def Raises (P : X → Prop) : Outcome X → Prop
  | works => True
  | raises x | raisesLate x => P x

end Outcome

section Alone

variable {σ E X : Type} {R : E → Type} {α : Type}
variable (exec : σ → (e : E) → R e × σ) (raised : (e : E) → X → R e)

/-- Reply and state of one call under an outcome. -/
def execFaulty (o : Outcome X) (s : σ) (e : E) : R e × σ :=
  match o with
  | .works => exec s e
  | .raises x => (raised e x, s)
  | .raisesLate x => (raised e x, (exec s e).2)

/-- Run a program alone. The plan gives the outcome of each call in turn; calls
beyond its end work. The result is the program's value and the final state. -/
def runFaulty : Prog E R α → List (Outcome X) → σ → α × σ
  | .ret a, _, s => (a, s)
  | .call e k, plan, s =>
    let reply := execFaulty exec raised (plan.headD .works) s e
    runFaulty (k reply.1) plan.tail reply.2

/-- No call of the plan raises after its effect. -/
def WithoutEffect (plan : List (Outcome X)) : Prop := ∀ o ∈ plan, o.Prompt

variable {exec raised} {e : E} {k : R e → Prog E R α} {plan : List (Outcome X)} {s : σ} {x : X}

/-- A call that works. -/
theorem runFaulty_works (works : plan.headD .works = .works) :
    runFaulty exec raised (.call e k) plan s =
      runFaulty exec raised (k (exec s e).1) plan.tail (exec s e).2 := by
  simp only [runFaulty, works, execFaulty]

/-- A call that raises before it has an effect. -/
theorem runFaulty_raises (raises : plan.headD .works = .raises x) :
    runFaulty exec raised (.call e k) plan s =
      runFaulty exec raised (k (raised e x)) plan.tail s := by
  simp only [runFaulty, raises, execFaulty]

/-- A call that raises after it has had its effect. -/
theorem runFaulty_raisesLate (late : plan.headD .works = .raisesLate x) :
    runFaulty exec raised (.call e k) plan s =
      runFaulty exec raised (k (raised e x)) plan.tail (exec s e).2 := by
  simp only [runFaulty, late, execFaulty]

theorem withoutEffect_nil : WithoutEffect ([] : List (Outcome X)) := by simp [WithoutEffect]

theorem WithoutEffect.head (clean : WithoutEffect plan) :
    plan.headD .works = .works ∨ ∃ x, plan.headD .works = .raises x := by
  cases plan with
  | nil => exact .inl rfl
  | cons o plan =>
    cases o with
    | works => exact .inl rfl
    | raises x => exact .inr ⟨x, rfl⟩
    | raisesLate x => exact (clean (.raisesLate x) List.mem_cons_self).elim

theorem WithoutEffect.tail (clean : WithoutEffect plan) : WithoutEffect plan.tail :=
  fun o member => clean o (List.mem_of_mem_tail member)

end Alone

/-! ## Any number of programs, interleaved -/

/-- One running program and what it was started for. -/
structure Task (T E : Type) (R : E → Type) (α : Type) where
  tag : T
  prog : Prog E R α

/-- A state shared by running programs. -/
structure Pool (σ T E : Type) (R : E → Type) (α : Type) where
  store : σ
  tasks : List (Task T E R α)

/-- A scheduling decision: start a program, or let program `i` perform its next call. -/
inductive Act (T : Type) where
  | spawn (t : T)
  | step (i : Nat)
  deriving DecidableEq, Repr

namespace Pool

variable {σ T E : Type} {R : E → Type} {α : Type}

/-- No program is in progress. -/
def Quiescent (p : Pool σ T E R α) : Prop := ∀ task ∈ p.tasks, task.prog.next? = none

/-- Some program of the pool satisfies `P`. -/
def Has (p : Pool σ T E R α) (P : Task T E R α → Prop) : Prop :=
  ∃ (j : Nat) (task : Task T E R α), p.tasks[j]? = some task ∧ P task

instance (p : Pool σ T E R α) (P : Task T E R α → Prop) [DecidablePred P] : Decidable (p.Has P) :=
  decidable_of_iff (∃ task ∈ p.tasks, P task) <| by
    constructor
    · rintro ⟨task, member, holds⟩
      obtain ⟨j, found⟩ := List.mem_iff_getElem?.1 member
      exact ⟨j, task, found, holds⟩
    · rintro ⟨j, task, found, holds⟩
      exact ⟨task, List.mem_of_getElem? found, holds⟩

/-- A guard on the program that performs its next call. -/
def Before (P : Pool σ T E R α → Nat → Task T E R α → Prop) (p : Pool σ T E R α) : Act T → Prop
  | .spawn _ => True
  | .step i => ∀ task ∈ p.tasks[i]?, P p i task

instance (P : Pool σ T E R α → Nat → Task T E R α → Prop) [∀ p i task, Decidable (P p i task)]
    (p : Pool σ T E R α) : (a : Act T) → Decidable (Before P p a)
  | .spawn _ => isTrue trivial
  | .step i => inferInstanceAs (Decidable (∀ task ∈ p.tasks[i]?, P p i task))

variable (body : T → Prog E R α) (exec : Nat → σ → (e : E) → R e × σ)

/-- One atomic step. The call of program `i` is executed as `exec i`, so that a
state may record which program did what. -/
def step (p : Pool σ T E R α) : Act T → Option (Pool σ T E R α)
  | .spawn t => some { p with tasks := p.tasks ++ [⟨t, body t⟩] }
  | .step i =>
    match p.tasks[i]? with
    | some ⟨t, .call e k⟩ =>
      let reply := exec i p.store e
      some { store := reply.2, tasks := p.tasks.set i ⟨t, k reply.1⟩ }
    | _ => none

variable {body exec}

/-- Everything one step of a pool can do. -/
theorem step_cases {p q : Pool σ T E R α} {a : Act T} (h : step body exec p a = some q) :
    (∃ t, a = .spawn t ∧ q = { p with tasks := p.tasks ++ [⟨t, body t⟩] }) ∨
    ∃ i t e k, a = .step i ∧ p.tasks[i]? = some ⟨t, .call e k⟩ ∧
      q = { store := (exec i p.store e).2,
            tasks := p.tasks.set i ⟨t, k (exec i p.store e).1⟩ } := by
  cases a with
  | spawn t => exact .inl ⟨t, rfl, (Option.some.inj h).symm⟩
  | step i =>
    simp only [step] at h
    split at h
    · rename_i t e k found
      exact .inr ⟨i, t, e, k, rfl, found, (Option.some.inj h).symm⟩
    · cases h

/-- A property of single programs that holds at their start and is kept by the
reply of every call holds of every program of every reachable pool. -/
theorem tasks_inv {At : T → Prog E R α → Prop} (start : ∀ t, At t (body t))
    (resume : ∀ i s t e k, At t (.call e k) → At t (k (exec i s e).1))
    {p q : Pool σ T E R α} {acts : List (Act T)} (initial : ∀ task ∈ p.tasks, At task.tag task.prog)
    (run : Transition.runs (step body exec) p acts = some q) :
    ∀ task ∈ q.tasks, At task.tag task.prog := by
  refine Transition.runs_inv (I := fun p => ∀ task ∈ p.tasks, At task.tag task.prog) ?_ initial run
  intro p a q inv taken task member
  obtain ⟨t, -, rfl⟩ | ⟨i, t, e, k, -, found, rfl⟩ := step_cases taken
  · rcases List.mem_append.1 member with old | new
    · exact inv task old
    · rw [List.mem_singleton.1 new]; exact start t
  · rcases List.mem_or_eq_of_mem_set member with old | rfl
    · exact inv task old
    · exact resume i p.store t e k (inv _ (List.mem_of_getElem? found))

/-- An invariant of the state that every call with `P` keeps and whose replies satisfy
`A` holds throughout, where the programs meet `A`, `P` and `Q`. -/
theorem meets_inv {A : (e : E) → R e → Prop} {P : E → Prop} {Q : T → α → Prop} {I : σ → Prop}
    {acts : List (Act T)} (start : ∀ t, .spawn t ∈ acts → (body t).Meets A P (Q t))
    (answers : ∀ i s e, I s → A e (exec i s e).1) (kept : ∀ i s e, I s → P e → I (exec i s e).2)
    {p q : Pool σ T E R α} (inv : I p.store) (tasks : ∀ task ∈ p.tasks, task.prog.Meets A P (Q task.tag))
    (run : Transition.runs (step body exec) p acts = some q) :
    I q.store ∧ ∀ task ∈ q.tasks, task.prog.Meets A P (Q task.tag) := by
  induction acts generalizing p with
  | nil =>
    cases run
    exact ⟨inv, tasks⟩
  | cons a acts ih =>
    obtain ⟨u, first, rest⟩ := Transition.runs_cons_iff.1 run
    have later : ∀ t, .spawn t ∈ acts → (body t).Meets A P (Q t) := fun t member =>
      start t (List.mem_cons_of_mem a member)
    obtain ⟨t, rfl, rfl⟩ | ⟨i, t, e, k, rfl, found, rfl⟩ := step_cases first
    · apply ih later _ _ rest
      · exact inv
      · intro task member
        rcases List.mem_append.1 member with old | new
        · exact tasks task old
        · rw [List.mem_singleton.1 new]
          exact start t List.mem_cons_self
    · obtain ⟨here, next⟩ : (Prog.call e k).Meets A P (Q t) := tasks _ (List.mem_of_getElem? found)
      apply ih later _ _ rest
      · exact kept i p.store e inv here
      · intro task member
        rcases List.mem_or_eq_of_mem_set member with old | rfl
        · exact tasks task old
        · exact next _ (answers i p.store e inv)

/-- An invariant of the state that every call with `P` keeps holds throughout, where
the programs come to no other calls. -/
theorem always_inv {P : E → Prop} {I : σ → Prop} {acts : List (Act T)}
    (start : ∀ t, .spawn t ∈ acts → (body t).Always P)
    (kept : ∀ i s e, I s → P e → I (exec i s e).2) {p q : Pool σ T E R α} (inv : I p.store)
    (tasks : ∀ task ∈ p.tasks, task.prog.Always P)
    (run : Transition.runs (step body exec) p acts = some q) : I q.store := by
  have meets : ∀ prog : Prog E R α, prog.Always P → prog.Meets (fun _ _ => True) P fun _ => True :=
    fun _ always => always.meets fun _ => trivial
  exact (meets_inv (A := fun _ _ => True) (Q := fun _ _ => True) (fun t spawned => meets _ (start t spawned))
    (fun _ _ _ _ => trivial) kept inv (fun task member => meets _ (tasks task member)) run).1

/-! ### Programs that satisfy a property, across a step -/

variable {P : Task T E R α → Prop} {p : Pool σ T E R α}

/-- A new task keeps those that are there. -/
theorem has_spawn {t : Task T E R α} (h : p.Has P) :
    Pool.Has { p with tasks := p.tasks ++ [t] } P := by
  obtain ⟨j, task, found, holds⟩ := h
  refine ⟨j, task, ?_, holds⟩
  have bound := (List.getElem?_eq_some_iff.1 found).1
  simpa only [List.getElem?_append_left bound] using found

/-- A step of program `i` keeps the others; if program `i` itself was the
witness, its replacement has to be looked at. -/
theorem has_set {i : Nat} {old new : Task T E R α} {s : σ} (found : p.tasks[i]? = some old)
    (h : p.Has P) (moved : P old → P new) :
    Pool.Has { store := s, tasks := p.tasks.set i new } P := by
  obtain ⟨j, task, foundj, holds⟩ := h
  by_cases same : i = j
  · subst same
    rw [found] at foundj
    cases foundj
    have bound := (List.getElem?_eq_some_iff.1 found).1
    exact ⟨i, new, by simp only [List.getElem?_set_self bound], moved holds⟩
  · exact ⟨j, task, by simpa only [List.getElem?_set_ne same] using foundj, holds⟩

/-- The task that is set is there. -/
theorem has_set_self {i : Nat} {old new : Task T E R α} {s : σ} (found : p.tasks[i]? = some old)
    (holds : P new) : Pool.Has { store := s, tasks := p.tasks.set i new } P :=
  ⟨i, new, by simp only [List.getElem?_set_self (List.getElem?_eq_some_iff.1 found).1], holds⟩

theorem has_of_set {i : Nat} {new : Task T E R α} {s : σ}
    (h : Pool.Has { store := s, tasks := p.tasks.set i new } P) : P new ∨ p.Has P := by
  obtain ⟨j, task, found, holds⟩ := h
  rcases List.mem_or_eq_of_mem_set (List.mem_of_getElem? found) with old | rfl
  · obtain ⟨j, found⟩ := List.mem_iff_getElem?.1 old
    exact .inr ⟨j, task, found, holds⟩
  · exact .inl holds

theorem has_of_spawn {t : Task T E R α}
    (h : Pool.Has { p with tasks := p.tasks ++ [t] } P) : P t ∨ p.Has P := by
  obtain ⟨j, task, found, holds⟩ := h
  rcases List.mem_append.1 (List.mem_of_getElem? found) with old | new
  · obtain ⟨j, found⟩ := List.mem_iff_getElem?.1 old
    exact .inr ⟨j, task, found, holds⟩
  · exact .inl (List.mem_singleton.1 new ▸ holds)

end Pool

end Effect
