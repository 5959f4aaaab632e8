import LlmTts.Cache.Eviction
import Mathlib.Algebra.BigOperators.Group.List.Basic
import Mathlib.Algebra.Order.Group.Multiset
import Mathlib.Data.Multiset.AddSub
import Mathlib.Tactic.Abel

/-!
# What becomes of a loaded model

A ledger over the calls of several worker threads: the models that are owed an
unloading, because the call that loaded them registered an unloader, those that
were passed to their unloaders, and those that a call dropped when another call
had installed the same key first. `released_iff` says which runs release every model.
-/

namespace LlmTts

/-- The models of the entries that have an unloader. -/
def LRUModelCache.registered {K M : Type} (cache : LRUModelCache K M) : Multiset M :=
  (cache.entries.values.filter (·.unloader)).map (·.model)

namespace WorkerCall

/-- The models that only this call has, and that are owed an unloading. -/
def owes (call : WorkerCall) : Multiset Nat :=
  match call.pc with
  | .loaded m => if call.unloader then {m} else 0
  | .unloading _ pending => pending
  | _ => 0

/-- What the next step of the call loads. -/
def loads (call : WorkerCall) (w : Workers) (ok : Bool) : Multiset Nat :=
  match call.pc with
  | .validated => if ok ∧ call.unloader then {w.nextModel} else 0
  | _ => 0

/-- What the next step of the call passes to its unloader. -/
def unloads (call : WorkerCall) : Multiset Nat :=
  match call.pc with
  | .unloading _ (m :: _) => {m}
  | _ => 0

/-- The call comes to install its model, and the key is in the cache. -/
def Loses (call : WorkerCall) (w : Workers) : Prop :=
  call.unloader = true ∧ call.pc.loaded?.isSome ∧ call.key ∈ w.cache.entries.keys

instance (call : WorkerCall) (w : Workers) : Decidable (call.Loses w) :=
  inferInstanceAs (Decidable (_ ∧ _ ∧ _))

/-- The model that such a call drops. -/
def drops (call : WorkerCall) (w : Workers) : Multiset Nat :=
  if call.Loses w then call.pc.loaded?.toList else 0

end WorkerCall

/-- The calls, and what has become of the models so far. -/
structure Ledger where
  workers : Workers
  /-- Returned by the loader of a call that registered an unloader. -/
  owed : Multiset Nat
  unloaded : Multiset Nat
  lost : Multiset Nat

namespace Ledger

def initial (maxSize : Nat) (positive : 1 ≤ maxSize) : Ledger := ⟨.initial maxSize positive, 0, 0, 0⟩

def step (l : Ledger) : WorkerAct → Option Ledger
  | .call key unloader => (l.workers.step (.call key unloader)).map fun v => { l with workers := v }
  | .step i ok => do
    let call ← l.workers.calls[i]?
    let v ← l.workers.step (.step i ok)
    some ⟨v, l.owed + call.loads l.workers ok, l.unloaded + call.unloads, l.lost + call.drops l.workers⟩

/-- No `get_or_load` call is under way. -/
def Quiescent (l : Ledger) : Prop :=
  ∀ call ∈ l.workers.calls, call.pc = .returned ∨ call.pc.held?.isSome ∧ call.pc.pending = []

instance (l : Ledger) : Decidable l.Quiescent :=
  inferInstanceAs (Decidable (∀ call ∈ l.workers.calls, _ ∨ _))

/-- Every model that is owed an unloading is in the cache or was unloaded once, and
no model in the cache was unloaded. -/
def Released (l : Ledger) : Prop :=
  (∀ m ∈ l.owed, m ∈ l.workers.cache.models ∨ l.unloaded.count m = 1) ∧
    ∀ m ∈ l.workers.cache.models, m ∉ l.unloaded

/-- The step does not come to install a model, with an unloader, under a key that
the cache has already. -/
def Wins (l : Ledger) : WorkerAct → Prop
  | .call _ _ => True
  | .step i _ => ∀ call ∈ l.workers.calls[i]?, ¬call.Loses l.workers

instance (l : Ledger) : (a : WorkerAct) → Decidable (l.Wins a)
  | .call _ _ => isTrue trivial
  | .step i _ => inferInstanceAs (Decidable (∀ call ∈ l.workers.calls[i]?, ¬call.Loses l.workers))

end Ledger

/-! ## One step -/

namespace LRUModelCache

variable {K M : Type} {cache : LRUModelCache K M} {key : K}

theorem registered_touch [DecidableEq K] : (cache.touch key).registered = cache.registered :=
  Multiset.coe_eq_coe.2 (((((cache.entries.moveToEnd_perm key).map Prod.snd).filter _).map _))

/-- The entries with an unloader after an insertion, and those it popped. -/
theorem registered_inserted {entry : CacheEntry M} (new : key ∉ cache.entries.keys) :
    (cache.inserted key entry new).registered +
        (((cache.evicted key entry new).filter (·.unloader)).map (·.model) : List M) =
      cache.registered + if entry.unloader then {entry.model} else 0 := by
  have parts := OrderedDict.popped_append_trim (cache.entries.append key entry new) cache.maxSize
  have all : (cache.entries.append key entry new).items = cache.entries.items ++ [(key, entry)] := rfl
  rw [all] at parts
  have models := congrArg (fun items => ((items.map Prod.snd).filter (·.unloader)).map (·.model)) parts
  simp only [List.map_append, List.filter_append] at models
  rw [add_comm]
  have total := congrArg (fun l : List M => (l : Multiset M)) models
  simp only [← Multiset.coe_add] at total
  refine total.trans ?_
  unfold registered OrderedDict.values
  congr 1
  by_cases registers : entry.unloader = true
  · simp [registers]
  · simp [registers]

end LRUModelCache

namespace Workers

variable {w : Workers} {call : WorkerCall} {ok : Bool} {pc : CallPc} {cache : LRUModelCache CacheKey Nat}
  {nextModel : Nat}

/-- A call that has no loaded model drops none. -/
theorem drops_of_not_loaded (none : call.pc.loaded? = none) : call.drops w = 0 := by
  unfold WorkerCall.drops WorkerCall.Loses
  simp [none]

/-- A step moves the models that are owed an unloading from one place to the next. -/
theorem advance_balance (advanced : w.Advanced call ok pc cache nextModel) :
    cache.registered + ({ call with pc := pc } : WorkerCall).owes + call.unloads + call.drops w =
      w.cache.registered + call.owes + call.loads w ok := by
  have quiet : call.pc.loaded? = none → call.drops w = 0 := drops_of_not_loaded
  cases advanced with
  | hit pc_eq =>
    rw [quiet (by rw [pc_eq]; rfl), LRUModelCache.registered_touch]
    simp [WorkerCall.owes, WorkerCall.unloads, WorkerCall.loads, pc_eq]
  | missed pc_eq =>
    rw [quiet (by rw [pc_eq]; rfl)]
    simp [WorkerCall.owes, WorkerCall.unloads, WorkerCall.loads, pc_eq]
  | validated pc_eq =>
    rw [quiet (by rw [pc_eq]; rfl)]
    simp [WorkerCall.owes, WorkerCall.unloads, WorkerCall.loads, pc_eq]
  | raised pc_eq =>
    rcases pc_eq with pc_eq | pc_eq
    · rw [quiet (by rw [pc_eq]; rfl)]
      simp [WorkerCall.owes, WorkerCall.unloads, WorkerCall.loads, pc_eq]
    · rw [quiet (by rw [pc_eq]; rfl)]
      simp [WorkerCall.owes, WorkerCall.unloads, WorkerCall.loads, pc_eq]
  | loaded pc_eq =>
    rw [quiet (by rw [pc_eq]; rfl)]
    simp [WorkerCall.owes, WorkerCall.unloads, WorkerCall.loads, pc_eq]
  | adopted pc_eq present =>
    -- the call's own model goes nowhere
    rw [LRUModelCache.registered_touch]
    simp only [WorkerCall.owes, WorkerCall.unloads, WorkerCall.loads, WorkerCall.drops, WorkerCall.Loses,
      CallPc.loaded?, pc_eq, present]
    cases call.unloader with
    | true => simp
    | false => simp
  | installed pc_eq new =>
    simp only [WorkerCall.owes, WorkerCall.unloads, WorkerCall.loads, WorkerCall.drops, WorkerCall.Loses,
      new, pc_eq, and_false, if_false, add_zero]
    exact LRUModelCache.registered_inserted new
  | unloaded pc_eq =>
    rw [quiet (by rw [pc_eq]; rfl)]
    simp only [WorkerCall.owes, WorkerCall.unloads, WorkerCall.loads, pc_eq, add_zero, add_assoc]
    rw [← Multiset.cons_coe, ← Multiset.singleton_add, add_comm (_ : Multiset Nat) {_}]
  | generating pc_eq =>
    rw [quiet (by rw [pc_eq]; rfl)]
    simp [WorkerCall.owes, WorkerCall.unloads, WorkerCall.loads, pc_eq]
  | returned pc_eq =>
    rw [quiet (by rw [pc_eq]; rfl)]
    simp [WorkerCall.owes, WorkerCall.unloads, WorkerCall.loads, pc_eq]

/-- A step loads nothing, or one new model for a call that registered an unloader. -/
theorem loads_cases (advanced : w.Advanced call ok pc cache nextModel) :
    call.loads w ok = 0 ∨
      call.unloader = true ∧ call.loads w ok = {w.nextModel} ∧ nextModel = w.nextModel + 1 := by
  unfold WorkerCall.loads
  cases advanced with
  | loaded pc_eq =>
    rw [pc_eq]
    by_cases registers : call.unloader = true
    · exact .inr ⟨registers, by simp [registers], rfl⟩
    · exact .inl (by simp [registers])
  | raised pc_eq =>
    rcases pc_eq with pc_eq | pc_eq
    · exact .inl (by rw [pc_eq])
    · exact .inl (by rw [pc_eq]; rfl)
  | hit pc_eq | missed pc_eq | validated pc_eq | adopted pc_eq | installed pc_eq | unloaded pc_eq | generating pc_eq
  | returned pc_eq => exact .inl (by rw [pc_eq])

theorem advance_nextModel (advanced : w.Advanced call ok pc cache nextModel) : w.nextModel ≤ nextModel := by
  cases advanced with
  | loaded => exact Nat.le_succ _
  | _ => exact Nat.le_refl _

/-- A loaded model has just been loaded. -/
theorem advance_loaded (advanced : w.Advanced call ok pc cache nextModel) {m : Nat}
    (loaded : pc.loaded? = some m) : m = w.nextModel ∧ m < nextModel := by
  cases advanced with
  | loaded =>
    cases loaded
    exact ⟨rfl, Nat.lt_succ_self _⟩
  | _ => cases loaded

/-- An entry of the next cache was there, or is the one that the call installs. -/
theorem advance_items (advanced : w.Advanced call ok pc cache nextModel)
    {item : CacheKey × CacheEntry Nat} (member : item ∈ cache.entries.items) :
    item ∈ w.cache.entries.items ∨
      call.pc.loaded? = some item.2.model ∧ item.2.unloader = call.unloader := by
  have touched : item ∈ (w.cache.touch call.key).entries.items → item ∈ w.cache.entries.items :=
    ((w.cache.entries.moveToEnd_perm call.key).mem_iff).1
  cases advanced with
  | hit => exact .inl (touched member)
  | adopted => exact .inl (touched member)
  | installed pc_eq new =>
    rcases List.mem_append.1 (OrderedDict.mem_trim_or_popped.2 (.inr member)) with old | last
    · exact .inl old
    · rw [List.mem_singleton.1 last, pc_eq]
      exact .inr ⟨rfl, rfl⟩
  | _ => exact .inl member

end Workers

namespace Ledger

/-- Every model that is owed an unloading is in one place: with a call, in the
cache, unloaded or lost. -/
structure Balanced (l : Ledger) : Prop where
  total : l.owed =
    (l.workers.calls.map (·.owes)).sum + l.workers.cache.registered + l.unloaded + l.lost
  once : l.owed.Nodup
  known : ∀ m ∈ l.owed, m < l.workers.nextModel
  /-- A cached model that is owed an unloading has its unloader. -/
  cached : ∀ item ∈ l.workers.cache.entries.items,
    item.2.model < l.workers.nextModel ∧ (item.2.model ∈ l.owed → item.2.unloader = true)
  loaded : ∀ call ∈ l.workers.calls, ∀ m, call.pc.loaded? = some m →
    m < l.workers.nextModel ∧ (m ∈ l.owed → call.unloader = true)

theorem step_cases {l l' : Ledger} {a : WorkerAct} (taken : l.step a = some l') :
    (∃ key unloader, a = .call key unloader ∧
      l' = { l with workers := { l.workers with calls := l.workers.calls ++ [⟨key, unloader, .started⟩] } }) ∨
    ∃ i ok call pc cache nextModel, a = .step i ok ∧ l.workers.calls[i]? = some call ∧
      l.workers.Advanced call ok pc cache nextModel ∧
      l' = ⟨⟨cache, l.workers.calls.set i { call with pc := pc }, nextModel⟩,
        l.owed + call.loads l.workers ok, l.unloaded + call.unloads, l.lost + call.drops l.workers⟩ := by
  cases a with
  | call key unloader => exact .inl ⟨key, unloader, rfl, (Option.some.inj taken).symm⟩
  | step i ok =>
    obtain ⟨call, found, rest⟩ := Option.bind_eq_some_iff.1 taken
    obtain ⟨v, step, same⟩ := Option.bind_eq_some_iff.1 rest
    cases same
    obtain ⟨_, _, impossible, -⟩ | ⟨j, ok', call', pc, cache, nextModel, here, found', advanced, rfl⟩ :=
      Workers.step_cases step
    · cases impossible
    · cases here
      cases found.symm.trans found'
      exact .inr ⟨i, ok, call, pc, cache, nextModel, rfl, found, Workers.advance_cases advanced, rfl⟩

/-- What a step loads is not owed yet. -/
theorem Balanced.loads_new {l : Ledger} {call : WorkerCall} {ok : Bool} {pc : CallPc}
    {cache : LRUModelCache CacheKey Nat} {nextModel : Nat} (balanced : l.Balanced)
    (advanced : l.workers.Advanced call ok pc cache nextModel) :
    (l.owed + call.loads l.workers ok).Nodup ∧
      ∀ m ∈ l.owed + call.loads l.workers ok, m < nextModel := by
  have grows := Workers.advance_nextModel advanced
  rcases Workers.loads_cases advanced with none | ⟨-, one, next⟩
  · rw [none, add_zero]
    exact ⟨balanced.once, fun m member => Nat.lt_of_lt_of_le (balanced.known m member) grows⟩
  · have unseen : l.workers.nextModel ∉ l.owed := fun member =>
      Nat.lt_irrefl _ (balanced.known _ member)
    rw [one, add_comm, Multiset.singleton_add]
    refine ⟨Multiset.nodup_cons.2 ⟨unseen, balanced.once⟩, fun m member => ?_⟩
    rcases Multiset.mem_cons.1 member with rfl | old
    · omega
    · exact Nat.lt_of_lt_of_le (balanced.known m old) grows

/-- A model below the next number that is owed an unloading after a step was owed one before. -/
theorem mem_owed_before {l : Ledger} {call : WorkerCall} {ok : Bool} {pc : CallPc}
    {cache : LRUModelCache CacheKey Nat} {nextModel m : Nat}
    (advanced : l.workers.Advanced call ok pc cache nextModel) (old : m < l.workers.nextModel)
    (member : m ∈ l.owed + call.loads l.workers ok) : m ∈ l.owed := by
  rcases Multiset.mem_add.1 member with before | loaded
  · exact before
  · rcases Workers.loads_cases advanced with none | ⟨-, one, -⟩
    · rw [none] at loaded
      exact absurd loaded (Multiset.notMem_zero m)
    · rw [one, Multiset.mem_singleton] at loaded
      omega

theorem balanced_step {l l' : Ledger} {a : WorkerAct} (balanced : l.Balanced) (taken : l.step a = some l') :
    l'.Balanced := by
  obtain ⟨key, unloader, rfl, rfl⟩ | ⟨i, ok, call, pc, cache, nextModel, rfl, found, advanced, rfl⟩ :=
    step_cases taken
  · refine ⟨?_, balanced.once, balanced.known, balanced.cached, ?_⟩
    · have total := balanced.total
      simpa [WorkerCall.owes] using total
    · intro call member m loaded
      rcases List.mem_append.1 member with old | new
      · exact balanced.loaded call old m loaded
      · rw [List.mem_singleton.1 new] at loaded
        cases loaded
  · have here : call ∈ l.workers.calls := List.mem_of_getElem? found
    have grows := Workers.advance_nextModel advanced
    obtain ⟨once, known⟩ := balanced.loads_new advanced
    refine ⟨?_, once, known, ?_, ?_⟩
    · have moved := Slots.sum_map_set (f := WorkerCall.owes) (b := { call with pc := pc }) found
      have here := Workers.advance_balance advanced
      apply add_right_cancel (b := call.owes)
      calc l.owed + call.loads l.workers ok + call.owes
          = (l.workers.calls.map (·.owes)).sum + l.unloaded + l.lost +
              (l.workers.cache.registered + call.owes + call.loads l.workers ok) := by
            rw [balanced.total]
            abel
        _ = ((l.workers.calls.map (·.owes)).sum + ({ call with pc := pc } : WorkerCall).owes) +
              (cache.registered + l.unloaded + call.unloads + l.lost + call.drops l.workers) := by
            rw [← here]
            abel
        _ = ((l.workers.calls.set i { call with pc := pc }).map (·.owes)).sum + cache.registered +
              (l.unloaded + call.unloads) + (l.lost + call.drops l.workers) + call.owes := by
            rw [← moved]
            abel
    · intro item member
      rcases Workers.advance_items advanced member with old | ⟨own, registered⟩
      · obtain ⟨small, flag⟩ := balanced.cached item old
        exact ⟨Nat.lt_of_lt_of_le small grows, fun owed => flag (mem_owed_before advanced small owed)⟩
      · obtain ⟨small, flag⟩ := balanced.loaded call here _ own
        refine ⟨Nat.lt_of_lt_of_le small grows, fun owed => ?_⟩
        rw [registered]
        exact flag (mem_owed_before advanced small owed)
    · intro other member m loaded
      rcases Slots.mem_set_cases member with rfl | old
      · obtain ⟨rfl, small⟩ := Workers.advance_loaded advanced loaded
        refine ⟨small, fun owed => ?_⟩
        rcases Workers.loads_cases advanced with none | ⟨registers, -, -⟩
        · rw [none, add_zero] at owed
          exact absurd (balanced.known _ owed) (Nat.lt_irrefl _)
        · exact registers
      · obtain ⟨small, flag⟩ := balanced.loaded other old m loaded
        exact ⟨Nat.lt_of_lt_of_le small grows, fun owed => flag (mem_owed_before advanced small owed)⟩

theorem balanced_initial {maxSize : Nat} (positive : 1 ≤ maxSize) : (initial maxSize positive).Balanced := by
  refine ⟨rfl, Multiset.nodup_zero, fun m member => ?_, fun item member => ?_, fun call member => ?_⟩
  · exact absurd member (Multiset.notMem_zero m)
  · cases member
  · cases member

/-! ## Runs -/

/-- The lost models are counted by the steps that lose one. -/
theorem lost_card {l l' : Ledger} {a : WorkerAct} (taken : l.step a = some l') :
    l'.lost.card = l.lost.card + if l.Wins a then 0 else 1 := by
  obtain ⟨key, unloader, rfl, rfl⟩ | ⟨i, ok, call, pc, cache, nextModel, rfl, found, -, rfl⟩ :=
    step_cases taken
  · rfl
  · simp only [Wins, found, Option.mem_def, Option.some.injEq, forall_eq']
    rw [Multiset.card_add, WorkerCall.drops]
    by_cases loses : call.Loses l.workers
    · obtain ⟨m, loaded⟩ := Option.isSome_iff_exists.1 loses.2.1
      simp [loses, loaded]
    · simp [loses]

/-- When no call is under way, no call has a model that is owed an unloading. -/
theorem Quiescent.owes {l : Ledger} (quiescent : l.Quiescent) :
    (l.workers.calls.map (·.owes)).sum = 0 := by
  apply List.sum_eq_zero
  intro owes member
  obtain ⟨call, there, rfl⟩ := List.mem_map.1 member
  unfold WorkerCall.owes
  rcases quiescent call there with returned | ⟨holds, nothing⟩
  · rw [returned]
  · cases pc_eq : call.pc with
    | loaded m =>
      rw [pc_eq] at holds
      cases holds
    | unloading m pending =>
      rw [pc_eq] at nothing
      exact congrArg _ nothing
    | _ => rfl

/-- A cached model that is owed an unloading is among the registered ones. -/
theorem Balanced.registered {l : Ledger} {m : Nat} (balanced : l.Balanced)
    (resident : m ∈ l.workers.cache.models) (owed : m ∈ l.owed) : m ∈ l.workers.cache.registered := by
  obtain ⟨item, member, rfl⟩ := LRUModelCache.mem_models.1 resident
  have flag := (balanced.cached item member).2 owed
  exact List.mem_map.2 ⟨item.2, List.mem_filter.2 ⟨List.mem_map.2 ⟨item, member, rfl⟩, flag⟩, rfl⟩

/-- When no call is under way, the models are released unless some are lost. -/
theorem released_iff_lost {l : Ledger} (balanced : l.Balanced) (quiescent : l.Quiescent) :
    l.Released ↔ l.lost = 0 := by
  have total := balanced.total
  rw [quiescent.owes, zero_add] at total
  have once := balanced.once
  rw [total] at once
  obtain ⟨placed, -, apart⟩ := Multiset.nodup_add.1 once
  obtain ⟨-, single, disjoint⟩ := Multiset.nodup_add.1 placed
  constructor
  · rintro ⟨places, -⟩
    apply Multiset.eq_zero_of_forall_notMem
    intro m lost
    have owed : m ∈ l.owed := by
      rw [total]
      exact Multiset.mem_add.2 (.inr lost)
    rcases places m owed with resident | unloaded
    · have kept := balanced.registered resident owed
      exact Multiset.disjoint_left.1 apart (Multiset.mem_add.2 (.inl kept)) lost
    · have member : m ∈ l.unloaded := Multiset.count_pos.1 (by omega)
      exact Multiset.disjoint_left.1 apart (Multiset.mem_add.2 (.inr member)) lost
  · intro none
    rw [none, add_zero] at total
    constructor
    · intro m owed
      rw [total] at owed
      rcases Multiset.mem_add.1 owed with kept | unloaded
      · obtain ⟨entry, member, rfl⟩ := List.mem_map.1 kept
        exact .inl (List.mem_map_of_mem (List.mem_of_mem_filter member))
      · exact .inr (Multiset.count_eq_one_of_mem single unloaded)
    · intro m resident unloaded
      have owed : m ∈ l.owed := by
        rw [total]
        exact Multiset.mem_add.2 (.inr unloaded)
      exact Multiset.disjoint_left.1 disjoint (balanced.registered resident owed) unloaded

/-- **Every model is released exactly once**, in the runs in which no call that
registered an unloader finds its key in the cache when it comes to install its
model, and in no others. -/
theorem released_iff {maxSize : Nat} {positive : 1 ≤ maxSize} {acts : List WorkerAct} {l : Ledger}
    (run : Transition.runs step (initial maxSize positive) acts = some l) (quiescent : l.Quiescent) :
    l.Released ↔ Transition.Guarded step Wins (initial maxSize positive) acts := by
  have balanced := Transition.runs_inv (fun _ _ _ => balanced_step) (balanced_initial positive) run
  have counted := Transition.breaches_inv Wins (fun _ _ _ => balanced_step)
    (fun _ _ _ _ => lost_card) (balanced_initial positive) run
  rw [released_iff_lost balanced quiescent, ← Transition.breaches_eq_zero_iff, ← Multiset.card_eq_zero,
    counted]
  show 0 + _ = 0 ↔ _
  rw [Nat.zero_add]

/-- Two calls load one key after the other, and a third one evicts it. -/
def loadAndEvict : List WorkerAct :=
  [.call ("mlx", "a") true, .step 0 true, .step 0 true, .step 0 true, .step 0 true, .step 0 true,
    .call ("mlx", "a") true, .step 1 true, .call ("mlx", "b") true, .step 2 true, .step 2 true, .step 2 true,
    .step 2 true, .step 2 true, .step 2 true]

theorem loadAndEvict_releases : (Transition.final step (initial 1 (by decide)) loadAndEvict).Released := by
  have run := Transition.runs_final step (initial 1 (by decide)) loadAndEvict (by decide +kernel)
  exact (released_iff run (by decide +kernel)).2 (by decide +kernel)

/-- Two calls that load the same key at the same time. -/
def loadTwice : List WorkerAct :=
  [.call ("mlx", "a") true, .call ("mlx", "a") true, .step 0 true, .step 1 true, .step 0 true, .step 1 true,
    .step 0 true, .step 1 true, .step 0 true, .step 1 true, .step 0 true, .step 1 true]

/-- The model of the second call is neither in the cache nor unloaded. -/
theorem loadTwice_loses :
    ¬∀ (maxSize : Nat) (positive : 1 ≤ maxSize) (acts : List WorkerAct) (l : Ledger),
      Transition.runs step (initial maxSize positive) acts = some l → l.Quiescent → l.Released := by
  intro claim
  have run := Transition.runs_final step (initial 1 (by decide)) loadTwice (by decide +kernel)
  have released := claim 1 (by decide) loadTwice _ run (by decide +kernel)
  exact absurd (released.1 1 (by decide +kernel)) (by decide +kernel)

end Ledger

end LlmTts
