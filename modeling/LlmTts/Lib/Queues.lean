import LlmTts.Lib.Asyncio

/-!
# The queues of a semaphore and of a lock

Two facts about the waiters that no single operation shows. Nobody is forgotten:
where a waiter is pending, a permit is in use or some waiter is about to be resumed
(`Semaphore.Served` and `Lock.Served`). Nobody is overtaken: a granted waiter stands
before every pending one (`Ordered`, for a lock the field `front`).
-/

namespace Asyncio
open scoped List

/-! ## Futures by task -/

/-- Tasks that are all different have one future each. -/
theorem state?_of_mem {ws : List Waiter} (distinct : (tasks ws).Nodup) {w : Waiter} (member : w ∈ ws) :
    state? ws w.task = some w.state := by
  induction ws with
  | nil => cases member
  | cons v ws ih =>
    rw [tasks, List.map_cons, List.nodup_cons] at distinct
    obtain ⟨new, distinct⟩ := distinct
    rcases List.mem_cons.1 member with rfl | later
    · simp [state?]
    · have apart : v.task ≠ w.task := fun same => new (same ▸ List.mem_map_of_mem later)
      have rest := ih distinct later
      simp only [state?, List.find?_cons, apart, decide_false] at rest ⊢
      exact rest

/-- The future of a task is in the queue. -/
theorem mem_of_state? {ws : List Waiter} {task : Nat} {state : Fut} (found : state? ws task = some state) :
    ⟨task, state⟩ ∈ ws := by
  obtain ⟨w, first, rfl⟩ := Option.map_eq_some_iff.1 found
  have same : w.task = task := by simpa using List.find?_some first
  subst same
  exact List.mem_of_find?_eq_some first

/-- A waiter whose future is done can be resumed. -/
theorem Semaphore.resume_isSome {s : Semaphore} {task : Nat} {state : Fut}
    (found : state? s.waiters task = some state) (done : state ≠ .pending) : (s.resume task false).isSome := by
  unfold resume
  cases state with
  | pending => exact absurd rfl done
  | granted =>
    simp only [found, Bool.false_eq_true, if_false]
    split <;> rfl
  | cancelled => simp only [found, Option.isSome_some]

/-- A task whose future is done can be resumed. -/
theorem Lock.resume_isSome {l : Lock} {task : Nat} {state : Fut}
    (found : state? l.waiters task = some state) (done : state ≠ .pending) : (l.resume task false).isSome := by
  unfold resume
  split
  · rfl
  · rfl
  · rename_i other _
    cases state with
    | pending => exact absurd rfl done
    | granted => exact absurd found (by assumption)
    | cancelled => exact absurd found (by assumption)

/-! ## Nobody is forgotten -/

namespace Lock

/-- The first waiter of an open lock has been woken, or cancelled. -/
def Served (l : Lock) : Prop := l.locked = false → ∀ w ∈ l.waiters.head?, w.state ≠ .pending

/-- After `_wake_up_first()` the first waiter is not pending. -/
theorem head_wakeUpFirst (ws : List Waiter) : ∀ w ∈ (wakeUpFirst ws).head?, w.state ≠ .pending := by
  cases ws with
  | nil => simp [wakeUpFirst]
  | cons v ws =>
    intro w first
    simp only [wakeUpFirst] at first
    split at first
    · cases first
      simp
    · rename_i done
      cases first
      exact done

theorem create_served : create.Served := by simp [Served, create]

/-- A task that joins the queue of an open lock finds the first waiter awake. -/
theorem acquire_served {l after : Lock} {task : Nat} {now : Bool} (served : l.Served)
    (acquired : l.acquire task = (now, after)) : after.Served := by
  unfold acquire at acquired
  split at acquired
  · cases acquired
    simp [Served]
  · rename_i shut
    cases acquired
    intro free w first
    cases waiters : l.waiters with
    | nil =>
      -- an open lock that nobody waits for would have been taken
      refine absurd ⟨free, fun v member => ?_⟩ shut
      rw [waiters] at member
      cases member
    | cons v ws =>
      simp only [waiters, List.cons_append, List.head?_cons, Option.mem_def, Option.some.injEq] at first
      exact served free w (by rw [waiters, List.head?_cons, first]; rfl)

/-- A released lock wakes its first waiter. -/
theorem release_served {l : Lock} (served : l.Served) : l.release.Served := by
  unfold release
  split
  · exact fun _ => head_wakeUpFirst _
  · exact served

@[simp] theorem release_tasks (l : Lock) : tasks l.release.waiters = tasks l.waiters := by
  unfold release
  split
  · exact tasks_wakeUpFirst _
  · rfl

@[simp] theorem release_locked (l : Lock) : l.release.locked = false := by
  unfold release
  split
  · rfl
  · rename_i unlocked
    exact Bool.eq_false_iff.2 unlocked

/-- A task that leaves the queue of an open lock wakes the first of the others. -/
theorem leave_served (l : Lock) (task : Nat) : (l.leave task).Served := by
  intro free w first
  have unlocked : l.locked = false := free
  simp only [leave, unlocked, Bool.false_eq_true, if_false] at first
  exact head_wakeUpFirst _ w first

/-- So does one that is resumed without taking the lock. -/
theorem resume_served {l after : Lock} {task : Nat} {cancelling acquired : Bool}
    (resumed : l.resume task cancelling = some (acquired, after)) : after.Served := by
  unfold resume at resumed
  split at resumed
  · split at resumed
    · cases resumed
      exact l.leave_served task
    · cases resumed
      simp [Served]
  · cases resumed
    exact l.leave_served task
  · cases resumed

theorem cancel_served {l : Lock} (served : l.Served) (task : Nat) : (l.cancel task).Served := by
  intro free w first pending
  simp only [cancel, cancelWaiter, List.head?_map, Option.mem_def, Option.map_eq_some_iff] at first
  obtain ⟨v, first, same⟩ := first
  split at same
  · rw [← same] at pending
    cases pending
  · exact served free v first (same ▸ pending)

/-- Somebody waits for an open lock: the first waiter can be resumed. -/
theorem Served.first {l : Lock} (served : l.Served) (free : l.locked = false) {task : Nat}
    (waits : task ∈ tasks l.waiters) : ∃ w ∈ l.waiters, w.state ≠ .pending := by
  cases waiters : l.waiters with
  | nil => simp [waiters, tasks] at waits
  | cons w ws => exact ⟨w, List.mem_cons_self, served free w (by rw [waiters]; rfl)⟩

end Lock

/-! ## Nobody is overtaken -/

theorem sublist_or_sublist {α : Type} {a b : α} {l : List α} (here : a ∈ l) (there : b ∈ l) (apart : a ≠ b) :
    [a, b] <+ l ∨ [b, a] <+ l := by
  induction l with
  | nil => cases here
  | cons c l ih =>
    rcases List.mem_cons.1 here with rfl | behind
    · rcases List.mem_cons.1 there with rfl | after
      · exact absurd rfl apart
      · exact .inl (List.cons_sublist_cons.2 (List.singleton_sublist.2 after))
    · rcases List.mem_cons.1 there with rfl | after
      · exact .inr (List.cons_sublist_cons.2 (List.singleton_sublist.2 behind))
      · exact (ih behind after).imp (.cons c) (.cons c)

/-- One task joins the queue at its end, or leaves it, or none does; the others keep their
places. -/
structure InOrder (before after : List Nat) : Prop where
  stays : ∀ i j, [i, j] <+ before → i ∈ after → j ∈ after → [i, j] <+ after
  joins : ∀ i, i ∉ before → i ∈ after → after = before ++ [i]

namespace InOrder

variable {queue : List Nat}

theorem same : InOrder queue queue where
  stays _ _ before _ _ := before
  joins _ new old := absurd old new

/-- A task joins at the end. -/
theorem joined (task : Nat) : InOrder queue (queue ++ [task]) where
  stays _ _ before _ _ := before.trans (List.sublist_append_left queue [task])
  joins i new member := by
    rcases List.mem_append.1 member with old | last
    · exact absurd old new
    · rw [List.mem_singleton.1 last]

/-- A task that leaves changes the order of no others. -/
theorem left (distinct : queue.Nodup) (task : Nat) : InOrder queue (queue.erase task) where
  stays i j before first second := by
    have kept : ([i, j] : List Nat).erase task = [i, j] := by
      refine List.erase_of_not_mem fun member => ?_
      rcases List.mem_cons.1 member with rfl | member
      · exact distinct.not_mem_erase first
      · cases List.mem_singleton.1 member
        exact distinct.not_mem_erase second
    rw [← kept]
    exact before.erase task
  joins i new member := absurd (List.mem_of_mem_erase member) new

end InOrder

/-- No waiter is granted behind one that is pending. -/
def Ordered (ws : List Waiter) : Prop := ws.Pairwise fun a b => a.state = .pending → b.state ≠ .granted

/-- A new waiter is behind the granted ones. -/
theorem Ordered.append {ws : List Waiter} (ordered : Ordered ws) (task : Nat) :
    Ordered (ws ++ [⟨task, .pending⟩]) := by
  refine List.pairwise_append.2 ⟨ordered, List.pairwise_singleton .., fun a _ b new _ => ?_⟩
  rw [List.mem_singleton.1 new]
  simp

theorem Ordered.remove {ws : List Waiter} (ordered : Ordered ws) (task : Nat) : Ordered (remove ws task) :=
  ordered.sublist List.eraseP_sublist

theorem Ordered.cancelWaiter {ws : List Waiter} (ordered : Ordered ws) (task : Nat) :
    Ordered (cancelWaiter ws task) := by
  refine List.pairwise_map.2 (ordered.imp ?_)
  intro a b before
  split
  · simp
  · split
    · simp
    · exact before

/-- The first waiter that is not done is the first one that is pending. -/
theorem Ordered.grantNext {ws after : List Waiter} (ordered : Ordered ws) (next : grantNext ws = some after) :
    Ordered after := by
  induction ws generalizing after with
  | nil => cases next
  | cons w ws ih =>
    obtain ⟨first, rest⟩ := List.pairwise_cons.1 ordered
    unfold Asyncio.grantNext at next
    split at next
    · cases next
      exact List.pairwise_cons.2 ⟨by simp, rest⟩
    · rename_i done
      obtain ⟨later, found, rfl⟩ := Option.map_eq_some_iff.1 next
      exact List.pairwise_cons.2 ⟨fun _ _ pending => absurd pending done, ih rest found⟩

namespace Semaphore

theorem wakeUpNext_ordered {s : Semaphore} (ordered : Ordered s.waiters) : Ordered s.wakeUpNext.waiters := by
  unfold wakeUpNext
  split
  · rename_i waiters next
    exact ordered.grantNext next
  · exact ordered

theorem release_ordered {s : Semaphore} (ordered : Ordered s.waiters) : Ordered s.release.waiters :=
  wakeUpNext_ordered (s := { s with value := s.value + 1 }) ordered

/-- `acquire()` grants no waiter behind a pending one. -/
theorem acquire_ordered {s after : Semaphore} {task : Nat} {now : Bool} (ordered : Ordered s.waiters)
    (acquired : s.acquire task = (now, after)) : Ordered after.waiters := by
  unfold acquire at acquired
  split at acquired <;> cases acquired
  · exact ordered.append task
  · exact ordered

/-- Nor does a task that is resumed. -/
theorem resume_ordered {s after : Semaphore} {task : Nat} {cancelling acquired : Bool}
    (ordered : Ordered s.waiters) (resumed : s.resume task cancelling = some (acquired, after)) :
    Ordered after.waiters := by
  have rest := ordered.remove task
  unfold resume at resumed
  dsimp only at resumed
  split at resumed
  · split at resumed
    · cases resumed
      exact wakeUpNext_ordered (s := ⟨s.value + 1, _⟩) rest
    · split at resumed <;> cases resumed
      · exact wakeUpNext_ordered (s := ⟨s.value, _⟩) rest
      · exact rest
  · cases resumed
    exact rest
  · cases resumed

/-- A permit is taken at once only where everybody who waits has been cancelled. -/
theorem acquire_nobody {s after : Semaphore} {task : Nat} (now : s.acquire task = (true, after)) :
    ∀ w ∈ s.waiters, w.state = .cancelled := by
  unfold acquire at now
  split at now
  · cases now
  · rename_i unlocked
    simp only [locked, Bool.or_eq_true, List.any_eq_true, decide_eq_true_eq, not_or, not_exists, not_and,
      ne_eq, not_not] at unlocked
    exact unlocked.2

/-- Whoever is resumed with a permit stands before everybody who is pending. -/
theorem resume_first {s after : Semaphore} {task : Nat} {cancelling : Bool} (ordered : Ordered s.waiters)
    (resumed : s.resume task cancelling = some (true, after)) {x : Waiter} (member : x ∈ s.waiters)
    (pending : x.state = .pending) : [⟨task, .granted⟩, x] <+ s.waiters := by
  unfold resume at resumed
  dsimp only at resumed
  split at resumed
  · rename_i found
    have apart : (⟨task, .granted⟩ : Waiter) ≠ x := by
      rintro rfl
      cases pending
    rcases sublist_or_sublist (mem_of_state? found) member apart with before | behind
    · exact before
    · exact absurd rfl (List.pairwise_iff_forall_sublist.1 ordered behind pending)
  · cases resumed
  · cases resumed

end Semaphore

namespace Lock

/-- A lock is taken at once only where everybody who waits has been cancelled. -/
theorem acquire_nobody {l after : Lock} {task : Nat} (now : l.acquire task = (true, after)) :
    ∀ w ∈ l.waiters, w.state = .cancelled := by
  unfold acquire at now
  split at now
  · rename_i unlocked
    exact unlocked.2
  · cases now

/-- Whoever gets the lock stood before everybody who is pending. -/
theorem resume_first {l after : Lock} {task : Nat} {cancelling : Bool}
    (resumed : l.resume task cancelling = some (true, after)) {x : Waiter} (member : x ∈ l.waiters)
    (pending : x.state = .pending) : [⟨task, .granted⟩, x] <+ l.waiters := by
  unfold resume at resumed
  split at resumed
  · rename_i found
    have granted := mem_of_state? found
    cases waiters : l.waiters with
    | nil => simp [waiters] at member
    | cons w ws =>
      rw [waiters] at granted member
      rcases List.mem_cons.1 granted with first | later
      · rcases List.mem_cons.1 member with rfl | behind
        · rw [← first] at pending
          cases pending
        · rw [← first]
          exact List.cons_sublist_cons.2 (List.singleton_sublist.2 behind)
      · exact absurd rfl (l.front ⟨task, .granted⟩ (by rw [waiters]; exact later))
  · cases resumed
  · cases resumed

end Lock

end Asyncio
