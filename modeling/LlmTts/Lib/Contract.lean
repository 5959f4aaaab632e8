import LlmTts.Lib.Effect

/-!
# Programs whose calls may fail or be cut off

Each call of a program is performed under an outcome, which is chosen anew for every call.
`play` runs a program along a script of outcomes. `Ensures` is the weakest precondition
over all scripts of allowed outcomes, with a second condition for every state in between,
in which the program may be cut off. `Prog.inline` implements the calls of a program by
other programs; if each of these does what its call does under some outcome, then so does
the whole program (`inline_refines`).
-/

namespace Effect

namespace Prog

variable {E : Type} {R : E → Type} {α : Type}

/-- The program, cut off after `n` calls if it has not ended by then. -/
def cutAt : Nat → Prog E R α → Prog E R (Option α)
  | _, .ret a => .ret (some a)
  | 0, .call _ _ => .ret none
  | n + 1, .call e k => .call e fun r => (k r).cutAt n

theorem Always.cutAt {P : E → Prop} {p : Prog E R α} (always : p.Always P) (n : Nat) : (p.cutAt n).Always P := by
  induction p generalizing n with
  | ret a => cases n <;> exact trivial
  | call e k ih =>
    cases n with
    | zero => exact trivial
    | succ n => exact always_call always.1 fun r => ih r (always.2 r) n

/-- Every call is replaced by a program. -/
def inline {E' : Type} {R' : E' → Type} (impl : (e : E) → Prog E' R' (R e)) : Prog E R α → Prog E' R' α
  | .ret a => .ret a
  | .call e k => impl e >>= fun r => (k r).inline impl

end Prog

section Scripts

variable {σ E O : Type} {R : E → Type} {α β : Type}
variable (exec : O → σ → (e : E) → R e × σ)

/-- Run a program. The script gives the outcome of each call in turn; calls beyond its end
have the outcome `usual`. -/
def play (usual : O) : Prog E R α → List O → σ → α × σ
  | .ret a, _, s => (a, s)
  | .call e k, script, s =>
    let reply := exec (script.headD usual) s e
    play usual (k reply.1) script.tail reply.2

/-- Whatever allowed outcomes the calls have, the program ends with a value and in a state
as in `post`, and every state that a call leaves is as in `between`. -/
def Ensures (allowed : O → Prop) (between : σ → Prop) : Prog E R α → σ → (α → σ → Prop) → Prop
  | .ret a, s, post => post a s
  | .call e k, s, post => ∀ o, allowed o → between (exec o s e).2 ∧
      Ensures allowed between (k (exec o s e).1) (exec o s e).2 post

variable {exec} {allowed : O → Prop} {between : σ → Prop} {post post' : α → σ → Prop} {p : Prog E R α} {s : σ}

theorem Ensures.ret {a : α} (here : post a s) : Ensures exec allowed between (.ret a) s post := here

theorem Ensures.call {e : E} {k : R e → Prog E R α} (after : ∀ o, allowed o → between (exec o s e).2 ∧
    Ensures exec allowed between (k (exec o s e).1) (exec o s e).2 post) :
    Ensures exec allowed between (.call e k) s post := after

/-- The rule of consequence. -/
theorem Ensures.mono (ensures : Ensures exec allowed between p s post) (weaker : ∀ a t, post a t → post' a t) :
    Ensures exec allowed between p s post' := by
  induction p generalizing s with
  | ret a => exact weaker a s ensures
  | call e k ih => exact fun o allow => ⟨(ensures o allow).1, ih _ (ensures o allow).2⟩

/-- The rule of sequence. -/
theorem Ensures.bind {f : α → Prog E R β} {final : β → σ → Prop} (first : Ensures exec allowed between p s post)
    (second : ∀ a t, post a t → Ensures exec allowed between (f a) t final) :
    Ensures exec allowed between (p >>= f) s final := by
  induction p generalizing s with
  | ret a => exact second a s first
  | call e k ih => exact fun o allow => ⟨(first o allow).1, ih _ (first o allow).2⟩

section Exceptions

variable {ε : Type} {x : ExceptT ε (Prog E R) α} {final : Except ε β → σ → Prop}

/-- How a program that may raise has ended. -/
def Ended (done : α → σ → Prop) (failed : ε → σ → Prop) : Except ε α → σ → Prop
  | .ok a => done a
  | .error e => failed e

/-- The rule of sequence for programs that may raise. -/
theorem Ensures.run_bind {f : α → ExceptT ε (Prog E R) β} {done : α → σ → Prop} {failed : ε → σ → Prop}
    (first : Ensures exec allowed between x.run s (Ended done failed))
    (second : ∀ a t, done a t → Ensures exec allowed between (f a).run t final)
    (raises : ∀ e t, failed e t → final (.error e) t) :
    Ensures exec allowed between (x >>= f).run s final := by
  refine first.bind fun reply t met => ?_
  cases reply with
  | ok a => exact second a t met
  | error e => exact raises e t met

/-- The rule of an exception handler. -/
theorem Ensures.run_tryCatch {x : ExceptT ε (Prog E R) β} {handler : ε → ExceptT ε (Prog E R) β}
    {done : β → σ → Prop} {failed : ε → σ → Prop}
    (first : Ensures exec allowed between x.run s (Ended done failed))
    (passes : ∀ b t, done b t → final (.ok b) t)
    (handled : ∀ e t, failed e t → Ensures exec allowed between (handler e).run t final) :
    Ensures exec allowed between (tryCatch x handler).run s final := by
  refine first.bind fun reply t met => ?_
  cases reply with
  | ok b => exact passes b t met
  | error e => exact handled e t met

end Exceptions

/-- A program that is cut off leaves a state in between. -/
theorem Ensures.cutAt (ensures : Ensures exec allowed between p s post) (start : between s) (n : Nat) :
    Ensures exec allowed between (p.cutAt n) s fun a? t => a?.elim (between t) fun a => post a t := by
  induction p generalizing s n with
  | ret a => cases n <;> exact ensures
  | call e k ih =>
    cases n with
    | zero => exact start
    | succ n => exact fun o allow => ⟨(ensures o allow).1, ih _ (ensures o allow).2 (ensures o allow).1 n⟩

/-- A program that ends ends with a value. -/
theorem play_some (usual : O) (script : List O) : (play exec usual (some <$> p) script s).1 ≠ none := by
  induction p generalizing script s with
  | ret a => exact Option.some_ne_none a
  | call e k ih => exact ih _ _

/-- A script of allowed outcomes. -/
def Allowed (allowed : O → Prop) (script : List O) : Prop := ∀ o ∈ script, allowed o

theorem Allowed.headD {usual : O} {script : List O} (all : Allowed allowed script) (idle : allowed usual) :
    allowed (script.headD usual) := by
  cases script with
  | nil => exact idle
  | cons o script => exact all o List.mem_cons_self

theorem Allowed.tail {script : List O} (all : Allowed allowed script) : Allowed allowed script.tail :=
  fun o member => all o (List.mem_of_mem_tail member)

/-- What a program ensures holds of each of its runs. -/
theorem Ensures.play {usual : O} {script : List O} (ensures : Ensures exec allowed between p s post)
    (idle : allowed usual) (all : Allowed allowed script) :
    post (play exec usual p script s).1 (play exec usual p script s).2 := by
  induction p generalizing script s with
  | ret a => exact ensures
  | call e k ih => exact ih _ (ensures _ (all.headD idle)).2 all.tail

end Scripts

/-- An invariant that every call with `P` keeps, whatever becomes of it, is kept by a program
of such calls. -/
theorem Prog.Always.runFaulty_inv {σ E X : Type} {R : E → Type} {α : Type} {exec : σ → (e : E) → R e × σ}
    {raised : (e : E) → X → R e} {P : E → Prop} {I : σ → Prop} (kept : ∀ s e, P e → I s → I (exec s e).2)
    {p : Prog E R α} (always : p.Always P) {plan : List (Outcome X)} {s : σ} (start : I s) :
    I (runFaulty exec raised p plan s).2 := by
  induction p generalizing plan s with
  | ret a => exact start
  | call e k ih =>
    refine ih _ (always.2 _) ?_
    cases plan.headD .works with
    | works | raisesLate => exact kept s e always.1 start
    | raises => exact start

/-! ## Implementations -/

section Refinement

variable {σ σ' E E' O X : Type} {R : E → Type} {R' : E' → Type} {α : Type}

/-- What a program leaves is what its call leaves under an outcome of the kind. -/
def Meets (exec : σ → (e : E) → R e × σ) (raised : (e : E) → X → R e) (kind : Outcome X → Prop) (related : σ' → σ → Prop)
    (e : E) (s : σ) (reply : R e) (t' : σ') : Prop :=
  ∃ o, kind o ∧ reply = (execFaulty exec raised o s e).1 ∧ related t' (execFaulty exec raised o s e).2

variable {exec : σ → (e : E) → R e × σ} {raised : (e : E) → X → R e} {kind : Outcome X → Prop} {related : σ' → σ → Prop}

section Calls

variable {e : E} {s : σ} {reply : R e} {t' : σ'}

theorem Meets.works (usual : kind .works) (same : reply = (exec s e).1) (next : related t' (exec s e).2) :
    Meets exec raised kind related e s reply t' := ⟨.works, usual, same, next⟩

theorem Meets.raises {x : X} (fails : kind (.raises x)) (same : reply = raised e x) (next : related t' s) :
    Meets exec raised kind related e s reply t' := ⟨.raises x, fails, same, next⟩

theorem Meets.raisesLate {x : X} (fails : kind (.raisesLate x)) (same : reply = raised e x)
    (next : related t' (exec s e).2) : Meets exec raised kind related e s reply t' := ⟨.raisesLate x, fails, same, next⟩

end Calls

variable {exec' : O → σ' → (e : E') → R' e × σ'} {allowed : O → Prop} {between : σ' → Prop}

/-- A weaker condition on the states in between. -/
theorem Ensures.between_mono {between between' : σ' → Prop} {p : Prog E' R' α} {s' : σ'} {post : α → σ' → Prop}
    (ensures : Ensures exec' allowed between p s' post) (weaker : ∀ t', between t' → between' t') :
    Ensures exec' allowed between' p s' post := by
  induction p generalizing s' with
  | ret a => exact ensures
  | call e k ih => exact fun o allow => ⟨weaker _ (ensures o allow).1, ih _ (ensures o allow).2⟩

/-- The states that a program leaves when it is cut off after some of its calls. -/
def CutOff (exec : σ → (e : E) → R e × σ) (raised : (e : E) → X → R e) (kind : Outcome X → Prop) (loose : σ' → σ → Prop)
    (p : Prog E R α) (s : σ) (t' : σ') : Prop :=
  ∃ n plan, Allowed kind plan ∧ loose t' (runFaulty exec raised (p.cutAt n) plan s).2

variable {loose : σ' → σ → Prop}

theorem CutOff.start {p : Prog E R α} {s : σ} {t' : σ'} (here : loose t' s) : CutOff exec raised kind loose p s t' := by
  refine ⟨0, [], List.forall_mem_nil _, ?_⟩
  cases p <;> exact here

theorem CutOff.call {e : E} {k : R e → Prog E R α} {s : σ} {t' : σ'} (here : loose t' (exec s e).2) :
    CutOff exec raised kind loose (.call e k) s t' := by
  refine ⟨1, [], List.forall_mem_nil _, ?_⟩
  show loose t' (runFaulty exec raised ((k (exec s e).1).cutAt 0) [] (exec s e).2).2
  cases k (exec s e).1 <;> exact here

theorem CutOff.later {e : E} {k : R e → Prog E R α} {o : Outcome X} {s : σ} {t' : σ'} (ofKind : kind o)
    (here : CutOff exec raised kind loose (k (execFaulty exec raised o s e).1) (execFaulty exec raised o s e).2 t') :
    CutOff exec raised kind loose (.call e k) s t' := by
  obtain ⟨n, plan, all, reached⟩ := here
  exact ⟨n + 1, o :: plan, List.forall_mem_cons.2 ⟨ofKind, all⟩, reached⟩

/-- **Refinement.** Where every call that a program makes is implemented by a program that
does what the call does under some outcome, and that leaves in between what the call
starts from or comes to, the whole program does what it does under a plan of outcomes, and
leaves in between what it leaves when it is cut off between two calls. -/
theorem inline_refines {impl : (e : E) → Prog E' R' (R e)} {makes : E → Prop}
    (implements : ∀ e s' s, makes e → related s' s →
      Ensures exec' allowed (fun t' => loose t' s ∨ loose t' (exec s e).2) (impl e) s'
        (Meets exec raised kind related e s))
    {p : Prog E R α} (always : p.Always makes) {s' : σ'} {s : σ} (start : related s' s) :
    Ensures exec' allowed (CutOff exec raised kind loose p s) (p.inline impl) s' fun a t' =>
      ∃ plan, Allowed kind plan ∧ (runFaulty exec raised p plan s).1 = a ∧
        related t' (runFaulty exec raised p plan s).2 := by
  induction p generalizing s' s with
  | ret a => exact ⟨[], List.forall_mem_nil _, rfl, start⟩
  | call e k ih =>
    have first : Ensures exec' allowed (CutOff exec raised kind loose (.call e k) s) (impl e) s'
        (Meets exec raised kind related e s) := by
      apply (implements e s' s always.1 start).between_mono
      rintro t' (before | after)
      · exact CutOff.start before
      · exact CutOff.call after
    refine first.bind fun reply t' met => ?_
    obtain ⟨o, ofKind, rfl, next⟩ := met
    have later : ∀ u', CutOff exec raised kind loose (k (execFaulty exec raised o s e).1)
        (execFaulty exec raised o s e).2 u' → CutOff exec raised kind loose (.call e k) s u' :=
      fun u' reached => .later ofKind reached
    refine ((ih _ (always.2 _) next).between_mono later).mono fun a u' reached => ?_
    obtain ⟨plan, all, value, final⟩ := reached
    exact ⟨o :: plan, List.forall_mem_cons.2 ⟨ofKind, all⟩, value, final⟩

/-- The refinement of a program that may be cut off itself. -/
theorem cutAt_refines {impl : (e : E) → Prog E' R' (R e)} {makes : E → Prop}
    (loosens : ∀ t' s, related t' s → loose t' s)
    (implements : ∀ e s' s, makes e → related s' s →
      Ensures exec' allowed (fun t' => loose t' s ∨ loose t' (exec s e).2) (impl e) s'
        (Meets exec raised kind related e s))
    {p : Prog E R α} (always : p.Always makes) {s' : σ'} {s : σ} (start : related s' s) (n : Nat) :
    Ensures exec' allowed (CutOff exec raised kind loose p s) ((p.inline impl).cutAt n) s' fun a? t' =>
      a?.elim (CutOff exec raised kind loose p s t') fun a => ∃ plan, Allowed kind plan ∧
        (runFaulty exec raised p plan s).1 = a ∧ related t' (runFaulty exec raised p plan s).2 :=
  (inline_refines implements always start).cutAt (CutOff.start (loosens _ _ start)) n

section Embedding

variable {O' : Type} {exec : O → σ → (e : E) → R e × σ} {allowed : O → Prop} {between : σ → Prop}
  {execE : O' → σ' → (e : E') → R' e × σ'} {allowedE : O' → Prop}

/-- The calls of a program are performed on a part of a larger state, whose rest stays. -/
theorem Ensures.embed {impl : (e : E) → Prog E' R' (R e)} {part : σ' → σ} {rest : σ' → Prop}
    (single : ∀ e t', rest t' →
      Ensures execE allowedE (fun u' => rest u' ∧ ∃ o, allowed o ∧ part u' = (exec o (part t') e).2) (impl e) t'
        fun reply u' => rest u' ∧ ∃ o, allowed o ∧ reply = (exec o (part t') e).1 ∧ part u' = (exec o (part t') e).2)
    {p : Prog E R α} {s' : σ'} {post : α → σ → Prop} (ensures : Ensures exec allowed between p (part s') post)
    (start : rest s') :
    Ensures execE allowedE (fun u' => rest u' ∧ between (part u')) (p.inline impl) s' fun a u' =>
      rest u' ∧ post a (part u') := by
  induction p generalizing s' with
  | ret a => exact ⟨start, ensures⟩
  | call e k ih =>
    have first : Ensures execE allowedE (fun u' => rest u' ∧ between (part u')) (impl e) s' _ :=
      (single e s' start).between_mono fun u' ⟨kept, o, allow, same⟩ => ⟨kept, same ▸ (ensures o allow).1⟩
    refine first.bind fun reply u' ⟨kept, o, allow, answer, same⟩ => ?_
    subst answer
    exact ih _ (same ▸ (ensures o allow).2) kept

end Embedding

end Refinement

end Effect
