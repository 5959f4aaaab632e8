import LlmTts.Lib.Contract
import LlmTts.Voice.Consent
import LlmTts.Voice.MetadataMap

/-!
# Requests over a backend

A backend answers each repository call by a program of its own calls, and a process that
serves requests may be killed at any of them. Where every method does what its call does
under some outcome, a history of requests is one over the stores (`history_refines`).
-/

namespace LlmTts
open Python Effect

/-! ## Methods -/

/-- The value of a metadata answer for a call. The repository answers with the record of
the id that it is asked for. -/
def MetadataAnswer.toStore : (c : StoreCall) → MetadataAnswer → c.Reply
  | .metaGet v, .record found => if same : found.id = v then .ok ⟨found, same⟩ else .error .other
  | .metaExists _, .present found => .ok found
  | .metaCreate _, .record stored | .metaUpdate _, .record stored => .ok stored
  | .metaDelete _, .done => .ok ()
  | _, _ => .error .other

/-- The methods of a blob repository. -/
structure BlobMethods (E : Type) (R : E → Type) where
  put : String → Bytes → Prog E R (Except StoreError Unit)
  get : String → Prog E R (Except StoreError Bytes)
  existsId : String → Prog E R (Except StoreError Bool)
  delete : String → Prog E R (Except StoreError Unit)

section Methods

variable {E : Type} {R : E → Type} (ask : MetadataCall → Prog E R MetadataReply)

/-- A method of a metadata repository, which checks the id before anything else. -/
def recordsMethod (c : StoreCall) (call : MetadataCall) : Prog E R c.Reply :=
  match validateVoiceId c.voiceId with
  | .error e => .ret (.error e)
  | .ok () => (fun reply => reply.bind (MetadataAnswer.toStore c)) <$> ask call

/-- The method of the two repositories that answers a call. -/
def backendMethod (blobs : BlobMethods E R) : (c : StoreCall) → Prog E R c.Reply
  | .metaGet v => recordsMethod ask (.metaGet v) (.metaGet v)
  | .metaExists v => recordsMethod ask (.metaExists v) (.metaExists v)
  | .metaCreate record => recordsMethod ask (.metaCreate record) (.metaCreate record)
  | .metaUpdate record => recordsMethod ask (.metaUpdate record) (.metaUpdate record)
  | .metaDelete v => recordsMethod ask (.metaDelete v) (.metaDelete v)
  | .blobPut v data => blobs.put v data
  | .blobGet v => blobs.get v
  | .blobExists v => blobs.existsId v
  | .blobDelete v => blobs.delete v

end Methods

section Contract

variable {s : Stores} {c : StoreCall}

/-- An answer for the call is its value. -/
theorem toStore_ofStore {call : MetadataCall} (metadata : MetadataCall.ofStore? c = some call) (value : c.Value) :
    MetadataAnswer.toStore c (MetadataAnswer.ofStore c value) = .ok value := by
  cases c with
  | metaGet v => exact dif_pos value.2
  | metaExists v | metaCreate record | metaUpdate record | metaDelete v => rfl
  | _ => cases metadata

theorem bind_toStore {call : MetadataCall} (metadata : MetadataCall.ofStore? c = some call) (reply : c.Reply) :
    (reply.map (MetadataAnswer.ofStore c)).bind (MetadataAnswer.toStore c) = reply := by
  cases reply with
  | error e => rfl
  | ok value => exact toStore_ofStore metadata value

/-- A metadata call leaves the blobs, and a blob call the records. -/
theorem exec_blobs {call : MetadataCall} (metadata : MetadataCall.ofStore? c = some call) :
    (s.exec c).2.blobs = s.blobs := by
  unfold Stores.exec
  split
  · rfl
  · cases c <;> simp only [MetadataCall.ofStore?, reduceCtorEq] at metadata <;>
      simp only [Stores.execValid] <;> (try split) <;> rfl

theorem exec_records (blob : MetadataCall.ofStore? c = none) : (s.exec c).2.metadata = s.metadata := by
  unfold Stores.exec
  split
  · rfl
  · cases c <;> simp only [MetadataCall.ofStore?, reduceCtorEq] at blob <;>
      simp only [Stores.execValid] <;> (try split) <;> rfl

/-- A write that fails changes nothing, or the call did not come to it. -/
theorem VoiceMap.exec_fails (m : VoiceMap) (call : MetadataCall) :
    m.exec true call = m.exec false call ∨ m.exec true call = (.error .other, m) := by
  cases call with
  | metaList | metaGet v | metaExists v => exact .inl rfl
  | metaCreate record | metaUpdate record | metaDelete v =>
    simp only [VoiceMap.exec, if_true, Bool.false_eq_true, if_false]
    split <;> simp

end Contract

/-! ## Histories -/

/-- A request over a backend with outcomes `O`: what becomes of its calls, and whether the
process is killed after some of them. -/
structure BackendRequest (O : Type) where
  op : VoiceOp
  script : List O
  kill : Option Nat

/-- The calls of a process that is killed after some of them. -/
def untilKilled {E α : Type} {R : E → Type} (p : Prog E R α) : Option Nat → Prog E R (Option α)
  | none => some <$> p
  | some n => p.cutAt n

section Serving

variable {σ E O : Type} {R : E → Type} (exec : O → σ → (e : E) → R e × σ) (method : (c : StoreCall) → Prog E R c.Reply)
  (usual : O)

/-- One request; there is no answer when the process is killed. -/
def serveRequest (r : BackendRequest O) (d : σ) : Option VoiceEnd × σ :=
  play exec usual (untilKilled (r.op.body.inline method) r.kill) r.script d

/-- The requests one after the other. -/
def serveAll : List (BackendRequest O) → σ → List (Option VoiceEnd) × σ
  | [], d => ([], d)
  | r :: requests, d =>
    let (answer, d) := serveRequest exec method usual r d
    let (answers, d) := serveAll requests d
    (answer :: answers, d)

end Serving

/-- What a repository call raises, if it raises, is none of the typed exceptions. -/
abbrev Untyped (o : Outcome StoreError) : Prop := o.Raises (· = .other)

/-- A request on the stores that answers as the one on the backend: it follows a plan, and a
killed one is cut off between two repository calls. -/
inductive Explained (kind : Outcome StoreError → Prop) (s : Stores) (op : VoiceOp) : Option VoiceEnd → Stores → Prop
  | answered (plan : List (Outcome StoreError)) (ofKind : Allowed kind plan) :
    Explained kind s op (some (runFaulty Stores.exec raised op.body plan s).1)
      (runFaulty Stores.exec raised op.body plan s).2
  | killed (n : Nat) (plan : List (Outcome StoreError)) (ofKind : Allowed kind plan) :
    Explained kind s op none (runFaulty Stores.exec raised (op.body.cutAt n) plan s).2

/-- The same for requests one after the other. -/
inductive ExplainedAll {O : Type} (kind : Outcome StoreError → Prop) :
    Stores → List (BackendRequest O) → List (Option VoiceEnd) → Stores → Prop
  | nil (s : Stores) : ExplainedAll kind s [] [] s
  | cons {s t u : Stores} {r : BackendRequest O} {requests : List (BackendRequest O)} {answer : Option VoiceEnd}
      {answers : List (Option VoiceEnd)} (here : Explained kind s r.op answer t)
      (others : ExplainedAll kind t requests answers u) : ExplainedAll kind s (r :: requests) (answer :: answers) u

section Histories

variable {σ E O : Type} {R : E → Type} {exec : O → σ → (e : E) → R e × σ} {method : (c : StoreCall) → Prog E R c.Reply}
  {usual : O} {allowed : O → Prop} {kind : Outcome StoreError → Prop} {makes : StoreCall → Prop} {survive : Prop}
  {mirrors loose : σ → Stores → Prop} {d : σ} {s : Stores} {requests : List (BackendRequest O)}

/-- A request whose script is allowed and whose calls the backend can carry out; where all
are to survive, it is not killed. -/
structure BackendRequest.Ordinary (allowed : O → Prop) (makes : StoreCall → Prop) (survive : Prop) (r : BackendRequest O) :
    Prop where
  script : Allowed allowed r.script
  makes : ∀ c, Makes r.op c → makes c
  survives : survive → r.kill = none

/-- Every method does what its call does under some outcome, and leaves in between what
there was before or after the call. -/
def Implements (exec : O → σ → (e : E) → R e × σ) (method : (c : StoreCall) → Prog E R c.Reply) (allowed : O → Prop)
    (kind : Outcome StoreError → Prop) (makes : StoreCall → Prop) (mirrors loose : σ → Stores → Prop) : Prop :=
  ∀ c d s, makes c → mirrors d s →
    Ensures exec allowed (fun t => loose t s ∨ loose t (s.exec c).2) (method c) d (Meets Stores.exec raised kind mirrors c s)

section Implemented

variable (implements : Implements exec method allowed kind makes mirrors loose) (loosens : ∀ t s, mirrors t s → loose t s)
  (tightens : ∀ t s, loose t s → ¬survive → mirrors t s) (idle : allowed usual)

include implements loosens tightens idle

/-- A request on the backend is one on the stores. -/
theorem serve_refines {r : BackendRequest O} (ordinary : r.Ordinary allowed makes survive) (start : mirrors d s) :
    ∃ t, Explained kind s r.op (serveRequest exec method usual r d).1 t ∧ mirrors (serveRequest exec method usual r d).2 t := by
  have always : r.op.body.Always makes := (body_makes r.op).mono ordinary.makes
  unfold serveRequest
  cases kill : r.kill with
  | none =>
    have whole := inline_refines implements always start
    have mapped : Ensures exec allowed (CutOff Stores.exec raised kind loose r.op.body s) (some <$> r.op.body.inline method) d
        fun answer t => ∃ plan, Allowed kind plan ∧ answer = some (runFaulty Stores.exec raised r.op.body plan s).1 ∧
          mirrors t (runFaulty Stores.exec raised r.op.body plan s).2 := by
      refine whole.bind fun answer t reached => ?_
      obtain ⟨plan, all, value, final⟩ := reached
      exact ⟨plan, all, congrArg some value.symm, final⟩
    obtain ⟨plan, all, value, final⟩ := mapped.play idle ordinary.script
    simp only [untilKilled]
    rw [value]
    exact ⟨_, .answered plan all, final⟩
  | some n =>
    have dies : ¬survive := by
      intro survives
      have kept := ordinary.survives survives
      rw [kill] at kept
      cases kept
    have cut := (cutAt_refines loosens implements always start n).play idle ordinary.script
    simp only [untilKilled]
    generalize play exec usual ((r.op.body.inline method).cutAt n) r.script d = result at cut ⊢
    obtain ⟨answer, t⟩ := result
    cases answer with
    | none =>
      obtain ⟨m, plan, all, final⟩ := cut
      exact ⟨_, .killed m plan all, tightens t _ final dies⟩
    | some value =>
      obtain ⟨plan, all, rfl, final⟩ := cut
      exact ⟨_, .answered plan all, final⟩

/-- **Histories.** A history on the backend is one on the stores. -/
theorem history_refines (ordinary : ∀ r ∈ requests, r.Ordinary allowed makes survive) (start : mirrors d s) :
    ∃ t, ExplainedAll kind s requests (serveAll exec method usual requests d).1 t ∧
      mirrors (serveAll exec method usual requests d).2 t := by
  induction requests generalizing d s with
  | nil => exact ⟨s, .nil s, start⟩
  | cons r requests ih =>
    obtain ⟨here, others⟩ := List.forall_mem_cons.1 ordinary
    obtain ⟨t, explained, next⟩ := serve_refines implements loosens tightens idle here start
    obtain ⟨u, all, final⟩ := ih others next
    exact ⟨u, .cons explained all, final⟩

end Implemented

/-- What a history leaves came with consent, or was there before. -/
theorem ExplainedAll.consented {started : VoiceOp → Prop} {answers : List (Option VoiceEnd)} {start s t : Stores}
    (explained : ExplainedAll kind s requests answers t) (begun : ∀ r ∈ requests, started r.op)
    (consented : Consented start started s) : Consented start started t := by
  induction explained with
  | nil s => exact consented
  | cons here others ih =>
    rename_i s t u r requests answer answers
    obtain ⟨first, rest⟩ := List.forall_mem_cons.1 begun
    have always : r.op.body.Always (Consents started) := (body_makes r.op).mono (consents_of_makes first)
    have kept : ∀ s c, Consents started c → Consented start started s → Consented start started (Stores.exec s c).2 :=
      fun s c consents consented => consented_exec consented consents
    apply ih rest
    cases here with
    | answered plan ofKind => exact always.runFaulty_inv kept consented
    | killed n plan ofKind => exact (always.cutAt n).runFaulty_inv kept consented

/-- Requests on the stores, of whose calls none fails. -/
def plainRun : List VoiceOp → Stores → List VoiceEnd × Stores
  | [], s => ([], s)
  | op :: ops, s =>
    let (answer, s) := runFaulty Stores.exec raised op.body [] s
    let (answers, s) := plainRun ops s
    (answer :: answers, s)

theorem runFaulty_usual {α : Type} (p : StoreProg α) {plan : List (Outcome StoreError)} (works : Allowed (· = .works) plan) (s : Stores) :
    runFaulty Stores.exec raised p plan s = runFaulty Stores.exec raised p [] s := by
  induction p generalizing plan s with
  | ret a => rfl
  | call e k ih =>
    have head : plan.headD .works = .works := works.headD rfl
    rw [runFaulty_works head, ih _ works.tail]
    rfl

/-- Where nothing fails and nothing is killed, requests answer as on the stores. -/
theorem ExplainedAll.plain {answers : List (Option VoiceEnd)} {s t : Stores}
    (explained : ExplainedAll (· = .works) s requests answers t) (answered : none ∉ answers) :
    answers = (plainRun (requests.map (·.op)) s).1.map some ∧ t = (plainRun (requests.map (·.op)) s).2 := by
  induction explained with
  | nil s => exact ⟨rfl, rfl⟩
  | cons here others ih =>
    rename_i s t u r requests answer answers
    cases here with
    | answered plan ofKind =>
      obtain ⟨same, final⟩ := ih (mt (List.mem_cons_of_mem _) answered)
      rw [runFaulty_usual _ ofKind] at same final ⊢
      exact ⟨congrArg (_ :: ·) same, final⟩
    | killed n plan ofKind => exact absurd List.mem_cons_self answered

/-- A request that is not killed answers. -/
theorem serveAll_answers (survive : ∀ r ∈ requests, r.kill = none) : none ∉ (serveAll exec method usual requests d).1 := by
  induction requests generalizing d with
  | nil => exact List.not_mem_nil
  | cons r requests ih =>
    obtain ⟨here, others⟩ := List.forall_mem_cons.1 survive
    rintro member
    rcases List.mem_cons.1 member with first | later
    · have ended : none = (play exec usual (untilKilled (r.op.body.inline method) r.kill) r.script d).1 := first
      rw [here] at ended
      exact play_some usual r.script ended.symm
    · exact ih others later

end Histories

end LlmTts
