import LlmTts.Cache.LruModelCache
import LlmTts.Lib.Slots
import LlmTts.Lib.Transition

/-!
# Eviction and calls in flight

Any number of worker threads run `synthesize_chunks` on providers that share one
model cache. A step of a call is one critical section of the cache, or one of
the things it does outside the lock: validating, loading, calling an unloader,
generating. `unload_spares_calls` gives the evictions that have to be excluded
for no model to be unloaded while a call has it.
-/

namespace LlmTts

/-- `CacheKey`: provider and model id. -/
abbrev CacheKey : Type := String × String

/-- Where a `synthesize_chunks` call is. Models are numbered as they are loaded. -/
inductive CallPc where
  /-- `_try_hit` is next. -/
  | started
  /-- The key was not in the cache; the validator is next. -/
  | missed
  /-- The loader is next. -/
  | validated
  /-- The loader returned a model; `_install` is next. -/
  | loaded (m : Nat)
  /-- `_install` has left the lock with `m` to return and unloaders to call. -/
  | unloading (m : Nat) (pending : List Nat)
  /-- `_get_model` has returned `m`. -/
  | generating (m : Nat)
  /-- The call has returned or raised. -/
  | returned
  deriving DecidableEq, Repr

namespace CallPc

/-- The model a call has loaded and not installed yet. -/
def loaded? : CallPc → Option Nat
  | loaded m => some m
  | _ => none

/-- The model a call got out of the cache. -/
def held? : CallPc → Option Nat
  | unloading m _ | generating m => some m
  | _ => none

/-- The models a call is going to pass to their unloaders. -/
def pending : CallPc → List Nat
  | unloading _ pending => pending
  | _ => []

/-- The call refers to a model. -/
def Mentions (pc : CallPc) (m : Nat) : Prop :=
  pc.loaded? = some m ∨ pc.held? = some m ∨ m ∈ pc.pending

end CallPc

/-- One `synthesize_chunks` call. -/
structure WorkerCall where
  key : CacheKey
  unloader : Bool
  pc : CallPc
  deriving DecidableEq, Repr

/-- The shared cache and the calls in flight. -/
structure Workers where
  cache : LRUModelCache CacheKey Nat
  calls : List WorkerCall
  nextModel : Nat

/-- A call starts, or a call takes its next step. `ok` says whether the validator
or the loader succeeds. -/
inductive WorkerAct where
  | call (key : CacheKey) (unloader : Bool)
  | step (i : Nat) (ok : Bool)
  deriving DecidableEq, Repr

namespace Workers

/-- No call yet, and an empty cache. -/
def initial (maxSize : Nat) (positive : 1 ≤ maxSize) : Workers :=
  ⟨⟨maxSize, positive, .empty, Nat.zero_le _⟩, [], 0⟩

/-- The next step of a call: where it is then, the cache, and the next model number. -/
def advance (w : Workers) (call : WorkerCall) (ok : Bool) :
    Option (CallPc × LRUModelCache CacheKey Nat × Nat) :=
  match call.pc with
  | .started =>
    match w.cache.tryHit call.key with
    | some (m, cache) => some (.generating m, cache, w.nextModel)
    | none => some (.missed, w.cache, w.nextModel)
  | .missed => some (if ok then .validated else .returned, w.cache, w.nextModel)
  | .validated =>
    if ok then some (.loaded w.nextModel, w.cache, w.nextModel + 1)
    else some (.returned, w.cache, w.nextModel)
  | .loaded m =>
    let installed := w.cache.install call.key m call.unloader
    some (.unloading installed.1 installed.2.2, installed.2.1, w.nextModel)
  | .unloading m (_ :: pending) => some (.unloading m pending, w.cache, w.nextModel)
  | .unloading m [] => some (.generating m, w.cache, w.nextModel)
  | .generating _ => some (.returned, w.cache, w.nextModel)
  | .returned => none

def step (w : Workers) : WorkerAct → Option Workers
  | .call key unloader => some { w with calls := w.calls ++ [⟨key, unloader, .started⟩] }
  | .step i ok => do
    let call ← w.calls[i]?
    let (pc, cache, nextModel) ← w.advance call ok
    some ⟨cache, w.calls.set i { call with pc := pc }, nextModel⟩

/-- The model that the next step of call `i` passes to its unloader. -/
def unloads (w : Workers) (i : Nat) : Option Nat :=
  match w.calls[i]? with
  | some ⟨_, _, .unloading _ (m :: _)⟩ => some m
  | _ => none

/-- A call installs a new key in a full cache only while no call has the model of
the least recently used entry. -/
def Spares (w : Workers) : WorkerAct → Prop
  | .call _ _ => True
  | .step i _ => ∀ call ∈ w.calls[i]?, call.pc.loaded?.isSome →
    ∀ entry ∈ w.cache.victim call.key, entry.unloader = true →
      ∀ other ∈ w.calls, other.pc.held? ≠ some entry.model

instance (w : Workers) : (a : WorkerAct) → Decidable (w.Spares a)
  | .call _ _ => isTrue trivial
  | .step i _ => inferInstanceAs (Decidable (∀ call ∈ w.calls[i]?, call.pc.loaded?.isSome →
    ∀ entry ∈ w.cache.victim call.key, entry.unloader = true →
      ∀ other ∈ w.calls, other.pc.held? ≠ some entry.model))

/-- How the models are spread over the cache and the calls. -/
structure Separate (w : Workers) : Prop where
  distinct : w.cache.models.Nodup
  known : ∀ m ∈ w.cache.models, m < w.nextModel
  old : ∀ (i : Nat) (call : WorkerCall) (m : Nat), w.calls[i]? = some call → call.pc.Mentions m → m < w.nextModel
  /-- A model that was just loaded is the call's own. -/
  own : ∀ (i : Nat) (call : WorkerCall) (m : Nat), w.calls[i]? = some call → call.pc.loaded? = some m →
    m ∉ w.cache.models ∧ ∀ (j : Nat) (other : WorkerCall), w.calls[j]? = some other → other.pc.Mentions m → j = i
  /-- A model about to be unloaded is out of the cache, and no call has it. -/
  gone : ∀ (i : Nat) (call : WorkerCall) (m : Nat), w.calls[i]? = some call → m ∈ call.pc.pending →
    m ∉ w.cache.models ∧ ∀ (j : Nat) (other : WorkerCall), w.calls[j]? = some other → other.pc.held? ≠ some m

/-! ## One step -/

theorem step_cases {w v : Workers} {a : WorkerAct} (taken : w.step a = some v) :
    (∃ key unloader, a = .call key unloader ∧
      v = { w with calls := w.calls ++ [⟨key, unloader, .started⟩] }) ∨
    ∃ i ok call pc cache nextModel, a = .step i ok ∧ w.calls[i]? = some call ∧
      w.advance call ok = some (pc, cache, nextModel) ∧
      v = ⟨cache, w.calls.set i { call with pc := pc }, nextModel⟩ := by
  cases a with
  | call key unloader => exact .inl ⟨key, unloader, rfl, (Option.some.inj taken).symm⟩
  | step i ok =>
    obtain ⟨call, found, rest⟩ := Option.bind_eq_some_iff.1 taken
    obtain ⟨⟨pc, cache, nextModel⟩, advanced, same⟩ := Option.bind_eq_some_iff.1 rest
    exact .inr ⟨i, ok, call, pc, cache, nextModel, rfl, found, advanced, (Option.some.inj same).symm⟩

/-- What the next step of a call can be. -/
inductive Advanced (w : Workers) (call : WorkerCall) :
    Bool → CallPc → LRUModelCache CacheKey Nat → Nat → Prop where
  | hit {ok m} (pc_eq : call.pc = .started) (present : call.key ∈ w.cache.entries.keys)
      (resident : m ∈ w.cache.models) :
      Advanced w call ok (.generating m) (w.cache.touch call.key) w.nextModel
  | missed {ok} (pc_eq : call.pc = .started) (new : call.key ∉ w.cache.entries.keys) :
      Advanced w call ok .missed w.cache w.nextModel
  | validated (pc_eq : call.pc = .missed) : Advanced w call true .validated w.cache w.nextModel
  | raised (pc_eq : call.pc = .missed ∨ call.pc = .validated) :
      Advanced w call false .returned w.cache w.nextModel
  | loaded (pc_eq : call.pc = .validated) :
      Advanced w call true (.loaded w.nextModel) w.cache (w.nextModel + 1)
  | adopted {ok m picked} (pc_eq : call.pc = .loaded m) (present : call.key ∈ w.cache.entries.keys)
      (resident : picked ∈ w.cache.models) :
      Advanced w call ok (.unloading picked []) (w.cache.touch call.key) w.nextModel
  | installed {ok m} (pc_eq : call.pc = .loaded m) (new : call.key ∉ w.cache.entries.keys) :
      Advanced w call ok
        (.unloading m (((w.cache.evicted call.key ⟨m, call.unloader⟩ new).filter (·.unloader)).map (·.model)))
        (w.cache.inserted call.key ⟨m, call.unloader⟩ new) w.nextModel
  | unloaded {ok m first pending} (pc_eq : call.pc = .unloading m (first :: pending)) :
      Advanced w call ok (.unloading m pending) w.cache w.nextModel
  | generating {ok m} (pc_eq : call.pc = .unloading m []) :
      Advanced w call ok (.generating m) w.cache w.nextModel
  | returned {ok m} (pc_eq : call.pc = .generating m) : Advanced w call ok .returned w.cache w.nextModel

theorem advance_cases {w : Workers} {call : WorkerCall} {ok : Bool} {pc : CallPc}
    {cache : LRUModelCache CacheKey Nat} {nextModel : Nat}
    (advanced : w.advance call ok = some (pc, cache, nextModel)) : w.Advanced call ok pc cache nextModel := by
  unfold advance at advanced
  split at advanced
  · rename_i pc_eq
    split at advanced
    · rename_i m after hit
      cases advanced
      have present : call.key ∈ w.cache.entries.keys := by
        by_contra new
        rw [LRUModelCache.tryHit, OrderedDict.get?_eq_none_iff.2 new] at hit
        cases hit
      obtain ⟨resident, rfl⟩ := LRUModelCache.tryHit_some hit
      exact .hit pc_eq present resident
    · rename_i miss
      cases advanced
      exact .missed pc_eq (OrderedDict.get?_eq_none_iff.1 (Option.map_eq_none_iff.1 miss))
  · rename_i pc_eq
    cases advanced
    cases ok with
    | true => exact .validated pc_eq
    | false => exact .raised (.inl pc_eq)
  · rename_i pc_eq
    cases ok with
    | true =>
      cases advanced
      exact .loaded pc_eq
    | false =>
      cases advanced
      exact .raised (.inr pc_eq)
  · rename_i m pc_eq
    cases advanced
    by_cases present : call.key ∈ w.cache.entries.keys
    · obtain ⟨picked, resident, installed⟩ := w.cache.install_of_mem m call.unloader present
      rw [installed]
      exact .adopted pc_eq present resident
    · rw [LRUModelCache.install_of_new present]
      exact .installed pc_eq present
  · rename_i pc_eq
    cases advanced
    exact .unloaded pc_eq
  · rename_i pc_eq
    cases advanced
    exact .generating pc_eq
  · rename_i pc_eq
    cases advanced
    exact .returned pc_eq
  · cases advanced

section Step

variable {w : Workers} {i : Nat} {call : WorkerCall} {pc : CallPc}

/-- A step that only forgets models keeps them separate. -/
theorem separate_forget (separate : w.Separate) (found : w.calls[i]? = some call)
    (loaded : ∀ m, pc.loaded? = some m → call.pc.loaded? = some m)
    (held : ∀ m, pc.held? = some m → call.pc.held? = some m)
    (pending : ∀ m ∈ pc.pending, m ∈ call.pc.pending) :
    Separate { w with calls := w.calls.set i { call with pc := pc } } := by
  have mentions : ∀ m, pc.Mentions m → call.pc.Mentions m := fun m =>
    Or.imp (loaded m) (Or.imp (held m) (pending m))
  have before : ∀ {j : Nat} {other : WorkerCall}, (w.calls.set i { call with pc := pc })[j]? = some other →
      ∃ was : WorkerCall, w.calls[j]? = some was ∧
        (∀ m, other.pc.loaded? = some m → was.pc.loaded? = some m) ∧
        (∀ m, other.pc.held? = some m → was.pc.held? = some m) ∧
        (∀ m ∈ other.pc.pending, m ∈ was.pc.pending) ∧
        ∀ m, other.pc.Mentions m → was.pc.Mentions m := by
    intro j other there
    obtain ⟨rfl, rfl⟩ | ⟨-, same⟩ := Slots.getElem?_set_cases there
    · exact ⟨call, found, loaded, held, pending, mentions⟩
    · exact ⟨other, same, fun _ => id, fun _ => id, fun _ => id, fun _ => id⟩
  refine ⟨separate.distinct, separate.known, fun j other m there mention => ?_,
    fun j other m there own => ?_, fun j other m there out => ?_⟩
  · obtain ⟨was, there, -, -, -, mentioned⟩ := before there
    exact separate.old j was m there (mentioned m mention)
  · obtain ⟨was, there, loaded, -, -, -⟩ := before there
    obtain ⟨absent, alone⟩ := separate.own j was m there (loaded m own)
    refine ⟨absent, fun l third therel mention => ?_⟩
    obtain ⟨was, therel, -, -, -, mentioned⟩ := before therel
    exact alone l was therel (mentioned m mention)
  · obtain ⟨was, there, -, -, pending, -⟩ := before there
    obtain ⟨absent, free⟩ := separate.gone j was m there (pending m out)
    refine ⟨absent, fun l third therel holds => ?_⟩
    obtain ⟨was, therel, -, held, -, -⟩ := before therel
    exact free l was therel (held m holds)

/-- A step that takes a model out of the cache keeps the models separate. -/
theorem separate_hit (separate : w.Separate) {cache : LRUModelCache CacheKey Nat} {picked : Nat}
    (distinct : cache.models.Nodup) (same : ∀ m, m ∈ cache.models ↔ m ∈ w.cache.models)
    (resident : picked ∈ w.cache.models) (loaded : pc.loaded? = none) (held : pc.held? = some picked)
    (pending : pc.pending = []) :
    Separate ⟨cache, w.calls.set i { call with pc := pc }, w.nextModel⟩ := by
  have mentions : ∀ m, pc.Mentions m → m = picked := by
    intro m mention
    simpa [CallPc.Mentions, loaded, held, pending, eq_comm] using mention
  refine ⟨distinct, fun m member => separate.known m ((same m).1 member),
    fun j other m there mention => ?_, fun j other m there own => ?_, fun j other m there out => ?_⟩
  · obtain ⟨-, rfl⟩ | ⟨-, there⟩ := Slots.getElem?_set_cases there
    · rw [mentions m mention]
      exact separate.known picked resident
    · exact separate.old j other m there mention
  · obtain ⟨-, rfl⟩ | ⟨-, there⟩ := Slots.getElem?_set_cases there
    · rw [loaded] at own
      cases own
    · obtain ⟨absent, alone⟩ := separate.own j other m there own
      refine ⟨fun member => absent ((same m).1 member), fun l third therel mention => ?_⟩
      obtain ⟨-, rfl⟩ | ⟨-, therel⟩ := Slots.getElem?_set_cases therel
      · exact absurd (mentions m mention ▸ resident) absent
      · exact alone l third therel mention
  · obtain ⟨-, rfl⟩ | ⟨-, there⟩ := Slots.getElem?_set_cases there
    · rw [pending] at out
      cases out
    · obtain ⟨absent, free⟩ := separate.gone j other m there out
      refine ⟨fun member => absent ((same m).1 member), fun l third therel holds => ?_⟩
      obtain ⟨-, rfl⟩ | ⟨-, therel⟩ := Slots.getElem?_set_cases therel
      · rw [held] at holds
        exact absurd (Option.some.inj holds ▸ resident) absent
      · exact free l third therel holds

/-- A loaded model is new. -/
theorem separate_load (separate : w.Separate) (found : w.calls[i]? = some call) :
    Separate ⟨w.cache, w.calls.set i { call with pc := .loaded w.nextModel }, w.nextModel + 1⟩ := by
  have unseen : w.nextModel ∉ w.cache.models := fun member =>
    absurd (separate.known _ member) (Nat.lt_irrefl _)
  have mentions : ∀ m, (CallPc.loaded w.nextModel).Mentions m → m = w.nextModel := by
    intro m mention
    simpa [CallPc.Mentions, CallPc.loaded?, CallPc.held?, CallPc.pending, eq_comm] using mention
  refine ⟨separate.distinct, fun m member => Nat.lt_succ_of_lt (separate.known m member),
    fun j other m there mention => ?_, fun j other m there own => ?_, fun j other m there out => ?_⟩
  · obtain ⟨-, rfl⟩ | ⟨-, there⟩ := Slots.getElem?_set_cases there
    · rw [mentions m mention]
      exact Nat.lt_succ_self _
    · exact Nat.lt_succ_of_lt (separate.old j other m there mention)
  · obtain ⟨rfl, rfl⟩ | ⟨-, there⟩ := Slots.getElem?_set_cases there
    · cases mentions m (.inl own)
      refine ⟨unseen, fun l third therel mention => ?_⟩
      obtain ⟨rfl, -⟩ | ⟨-, therel⟩ := Slots.getElem?_set_cases therel
      · rfl
      · exact absurd (separate.old l third _ therel mention) (Nat.lt_irrefl _)
    · obtain ⟨absent, alone⟩ := separate.own j other m there own
      refine ⟨absent, fun l third therel mention => ?_⟩
      obtain ⟨-, rfl⟩ | ⟨-, therel⟩ := Slots.getElem?_set_cases therel
      · rw [mentions m mention] at own
        exact absurd (separate.old j other _ there (.inl own)) (Nat.lt_irrefl _)
      · exact alone l third therel mention
  · obtain ⟨-, rfl⟩ | ⟨-, there⟩ := Slots.getElem?_set_cases there
    · cases out
    · obtain ⟨absent, free⟩ := separate.gone j other m there out
      refine ⟨absent, fun l third therel holds => ?_⟩
      obtain ⟨-, rfl⟩ | ⟨-, therel⟩ := Slots.getElem?_set_cases therel
      · cases holds
      · exact free l third therel holds

/-- An insertion whose victim no call has keeps the models separate. -/
theorem separate_insert (separate : w.Separate) (found : w.calls[i]? = some call) {m : Nat}
    (pc_eq : call.pc = .loaded m) {new : call.key ∉ w.cache.entries.keys}
    (spared : ∀ entry ∈ w.cache.victim call.key, entry.unloader = true →
      ∀ other ∈ w.calls, other.pc.held? ≠ some entry.model) :
    let entry : CacheEntry Nat := ⟨m, call.unloader⟩
    let pending := ((w.cache.evicted call.key entry new).filter (·.unloader)).map (·.model)
    Separate ⟨w.cache.inserted call.key entry new,
      w.calls.set i { call with pc := .unloading m pending }, w.nextModel⟩ := by
  intro entry pending
  have loaded : call.pc.loaded? = some m := by rw [pc_eq]; rfl
  obtain ⟨fresh, alone⟩ := separate.own i call m found loaded
  have out : ∀ n ∈ pending, n ∈ w.cache.models ∧ n ≠ m ∧
      n ∉ (w.cache.inserted call.key entry new).models ∧
      ∀ other ∈ w.calls, other.pc.held? ≠ some n := by
    intro n member
    obtain ⟨e, chosen, rfl⟩ := List.mem_map.1 member
    obtain ⟨popped, registered⟩ := List.mem_filter.1 chosen
    obtain ⟨was, apart, left⟩ := LRUModelCache.evicted_model separate.distinct fresh popped
    exact ⟨was, apart, left, spared e (LRUModelCache.victim_of_evicted popped) registered⟩
  have mentions : ∀ n, (CallPc.unloading m pending).Mentions n → n = m ∨ n ∈ pending := by
    intro n mention
    simpa [CallPc.Mentions, CallPc.loaded?, CallPc.held?, CallPc.pending, eq_comm] using mention
  have kept : ∀ {n}, n ∉ w.cache.models → n ≠ m →
      n ∉ (w.cache.inserted call.key entry new).models := by
    intro n absent other member
    rcases LRUModelCache.mem_models_inserted member with same | before
    · exact other same
    · exact absent before
  refine ⟨LRUModelCache.models_inserted_nodup separate.distinct fresh, fun n member => ?_,
    fun j other n there mention => ?_, fun j other n there own => ?_, fun j other n there leaves => ?_⟩
  · rcases LRUModelCache.mem_models_inserted member with rfl | before
    · exact separate.old i call _ found (.inl loaded)
    · exact separate.known n before
  · obtain ⟨-, rfl⟩ | ⟨-, there⟩ := Slots.getElem?_set_cases there
    · rcases mentions n mention with rfl | member
      · exact separate.old i call _ found (.inl loaded)
      · exact separate.known n (out n member).1
    · exact separate.old j other n there mention
  · obtain ⟨-, rfl⟩ | ⟨apart, there⟩ := Slots.getElem?_set_cases there
    · cases own
    · obtain ⟨absent, only⟩ := separate.own j other n there own
      have different : n ≠ m := fun same => apart (alone j other there (.inl (same ▸ own)))
      refine ⟨kept absent different, fun l third therel mention => ?_⟩
      obtain ⟨-, rfl⟩ | ⟨-, therel⟩ := Slots.getElem?_set_cases therel
      · rcases mentions n mention with same | member
        · exact absurd same different
        · exact absurd (out n member).1 absent
      · exact only l third therel mention
  · obtain ⟨-, rfl⟩ | ⟨apart, there⟩ := Slots.getElem?_set_cases there
    · obtain ⟨-, different, left, free⟩ := out n leaves
      refine ⟨left, fun l third therel holds => ?_⟩
      obtain ⟨-, rfl⟩ | ⟨-, therel⟩ := Slots.getElem?_set_cases therel
      · exact different (Option.some.inj holds).symm
      · exact free third (List.mem_of_getElem? therel) holds
    · obtain ⟨absent, free⟩ := separate.gone j other n there leaves
      have different : n ≠ m := fun same => apart (alone j other there (.inr (.inr (same ▸ leaves))))
      refine ⟨kept absent different, fun l third therel holds => ?_⟩
      obtain ⟨-, rfl⟩ | ⟨-, therel⟩ := Slots.getElem?_set_cases therel
      · exact different (Option.some.inj holds).symm
      · exact free l third therel holds

end Step

theorem separate_call {w : Workers} (separate : w.Separate) (key : CacheKey) (unloader : Bool) :
    Separate { w with calls := w.calls ++ [⟨key, unloader, .started⟩] } := by
  have before : ∀ {j : Nat} {other : WorkerCall},
      (w.calls ++ [⟨key, unloader, .started⟩])[j]? = some other →
      w.calls[j]? = some other ∨ other.pc = .started := by
    intro j other there
    rw [List.getElem?_append] at there
    split at there
    · exact .inl there
    · exact .inr (by rw [List.mem_singleton.1 (List.mem_of_getElem? there)])
  have nothing : ∀ m, ¬CallPc.started.Mentions m := by
    intro m mention
    simp [CallPc.Mentions, CallPc.loaded?, CallPc.held?, CallPc.pending] at mention
  refine ⟨separate.distinct, separate.known, fun j other m there mention => ?_,
    fun j other m there own => ?_, fun j other m there out => ?_⟩
  · rcases before there with there | started
    · exact separate.old j other m there mention
    · exact absurd (started ▸ mention) (nothing m)
  · rcases before there with there | started
    · obtain ⟨absent, alone⟩ := separate.own j other m there own
      refine ⟨absent, fun l third therel mention => ?_⟩
      rcases before therel with therel | started
      · exact alone l third therel mention
      · exact absurd (started ▸ mention) (nothing m)
    · exact absurd (.inl (started ▸ own)) (nothing m)
  · rcases before there with there | started
    · obtain ⟨absent, free⟩ := separate.gone j other m there out
      refine ⟨absent, fun l third therel holds => ?_⟩
      rcases before therel with therel | started
      · exact free l third therel holds
      · exact nothing m (.inr (.inl (started ▸ holds)))
    · exact absurd (.inr (.inr (started ▸ out))) (nothing m)

/-- A guarded step keeps the models separate. -/
theorem separate_step {w v : Workers} {a : WorkerAct} (separate : w.Separate) (spares : w.Spares a)
    (taken : w.step a = some v) : v.Separate := by
  obtain ⟨key, unloader, rfl, rfl⟩ | ⟨i, ok, call, pc, cache, nextModel, rfl, found, advanced, rfl⟩ :=
    step_cases taken
  · exact separate_call separate key unloader
  · have spared := spares call found
    have nothing : ∀ {pc : CallPc}, pc.loaded? = none → pc.held? = none → pc.pending = [] →
        Separate { w with calls := w.calls.set i { call with pc := pc } } := by
      intro pc loaded held pending
      apply separate_forget separate found
      · intro m h
        rw [loaded] at h
        cases h
      · intro m h
        rw [held] at h
        cases h
      · intro m h
        rw [pending] at h
        cases h
    have touched := (LRUModelCache.models_touch_perm w.cache call.key).nodup_iff.2 separate.distinct
    cases advance_cases advanced with
    | hit pc_eq present resident =>
      exact separate_hit separate touched (fun m => LRUModelCache.mem_models_touch) resident rfl rfl rfl
    | missed => exact nothing rfl rfl rfl
    | validated => exact nothing rfl rfl rfl
    | raised => exact nothing rfl rfl rfl
    | loaded => exact separate_load separate found
    | adopted pc_eq present resident =>
      exact separate_hit separate touched (fun m => LRUModelCache.mem_models_touch) resident rfl rfl rfl
    | installed pc_eq new => exact separate_insert separate found pc_eq (spared (by rw [pc_eq]; rfl))
    | unloaded pc_eq =>
      exact separate_forget separate found (fun _ h => by cases h)
        (fun _ h => by rw [pc_eq]; exact h) (fun n h => by rw [pc_eq]; exact List.mem_cons_of_mem _ h)
    | generating pc_eq =>
      exact separate_forget separate found (fun _ h => by cases h)
        (fun _ h => by rw [pc_eq]; exact h) (fun _ h => by cases h)
    | returned => exact nothing rfl rfl rfl

theorem separate_initial {maxSize : Nat} (positive : 1 ≤ maxSize) :
    (initial maxSize positive).Separate := by
  refine ⟨List.nodup_nil, fun m member => ?_, fun j other m there => ?_, fun j other m there => ?_,
    fun j other m there => ?_⟩
  · cases member
  · cases there
  · cases there
  · cases there

/-- **Eviction spares the calls in flight.** In a run in which no call evicts a
model that another one has, no call is given a model, and has not returned, when
that model is passed to its unloader. -/
theorem unload_spares_calls {maxSize : Nat} {positive : 1 ≤ maxSize} {acts : List WorkerAct}
    {w : Workers} {i m : Nat}
    (spares : Transition.Guarded step Spares (initial maxSize positive) acts)
    (run : Transition.runs step (initial maxSize positive) acts = some w)
    (unloads : w.unloads i = some m) : ∀ call ∈ w.calls, call.pc.held? ≠ some m := by
  have separate := Transition.guarded_inv (fun w a v => separate_step) (separate_initial positive)
    spares run
  have pending : ∃ call, w.calls[i]? = some call ∧ m ∈ call.pc.pending := by
    unfold Workers.unloads at unloads
    split at unloads
    · rename_i found
      cases unloads
      exact ⟨_, found, List.mem_cons_self⟩
    · cases unloads
  obtain ⟨call, found, out⟩ := pending
  intro other member
  obtain ⟨j, there⟩ := List.mem_iff_getElem?.1 member
  exact (separate.gone i call m found out).2 j other there

/-- Two calls one after the other on a cache of size 1, up to the unloader call
of the second. -/
def callThenEvict : List WorkerAct :=
  [.call ("mlx", "a") true, .step 0 true, .step 0 true, .step 0 true, .step 0 true, .step 0 true,
    .step 0 true, .call ("mlx", "b") true, .step 1 true, .step 1 true, .step 1 true, .step 1 true]

theorem callThenEvict_spares :
    ∃ w, Transition.runs step (initial 1 (by decide)) callThenEvict = some w ∧
      w.unloads 1 = some 0 ∧ ∀ call ∈ w.calls, call.pc.held? ≠ some 0 := by
  have run := Transition.runs_final step (initial 1 (by decide)) callThenEvict (by decide +kernel)
  have unloads : (Transition.final step (initial 1 (by decide)) callThenEvict).unloads 1 = some 0 := by
    decide +kernel
  exact ⟨_, run, unloads, unload_spares_calls (by decide +kernel) run unloads⟩

/-- The same two calls, the second one while the first one is generating. -/
def evictWhileGenerating : List WorkerAct :=
  [.call ("mlx", "a") true, .step 0 true, .step 0 true, .step 0 true, .step 0 true, .step 0 true,
    .call ("mlx", "b") true, .step 1 true, .step 1 true, .step 1 true, .step 1 true]

/-- The model of a generating call is passed to its unloader. -/
theorem unload_interrupts_call :
    ¬∀ (maxSize : Nat) (positive : 1 ≤ maxSize) (acts : List WorkerAct) (w : Workers) (i m : Nat),
      Transition.runs step (initial maxSize positive) acts = some w → w.unloads i = some m →
      ∀ call ∈ w.calls, call.pc ≠ .generating m := by
  intro claim
  have run := Transition.runs_final step (initial 1 (by decide)) evictWhileGenerating (by decide +kernel)
  have spared := claim 1 (by decide) evictWhileGenerating _ 1 0 run (by decide +kernel)
  exact absurd spared (by decide +kernel)

end Workers

end LlmTts
