import Mathlib.Data.List.Nodup
import Mathlib.Data.List.Basic
import Mathlib.Algebra.Order.Group.Nat

/-!
# Semaphores and locks of an event loop

`asyncio.Semaphore` and `asyncio.Lock`, with the tasks that wait in them. A
waiter has a future: it is pending, or has been granted, or has been cancelled.
Its task leaves the queue only when the loop resumes it, so that a granted or
cancelled waiter can stay in the queue for a while. An operation is what one task
does without being suspended.
-/

namespace Asyncio

/-- The future of a waiter. -/
inductive Fut where
  | pending
  | granted
  | cancelled
  deriving DecidableEq, Repr

/-- A task in a queue. -/
structure Waiter where
  task : Nat
  state : Fut
  deriving DecidableEq, Repr

/-! ## Queues -/

/-- The future of a task that waits in the queue. -/
def state? (ws : List Waiter) (task : Nat) : Option Fut :=
  (ws.find? fun w => w.task = task).map (·.state)

/-- `waiters.remove(fut)`. -/
def remove (ws : List Waiter) (task : Nat) : List Waiter := ws.eraseP fun w => w.task = task

/-- Grant the first future that is not done. -/
def grantNext : List Waiter → Option (List Waiter)
  | [] => none
  | w :: ws =>
    if w.state = .pending then some (⟨w.task, .granted⟩ :: ws)
    else (grantNext ws).map (w :: ·)

/-- `fut.cancel()`; it has no effect on a future that is done. -/
def cancelWaiter (ws : List Waiter) (task : Nat) : List Waiter :=
  ws.map fun w => if w.task = task ∧ w.state = .pending then ⟨w.task, .cancelled⟩ else w

/-- The number of granted waiters. -/
def granted (ws : List Waiter) : Nat := ws.countP fun w => w.state = .granted

/-- The waiting tasks. -/
def tasks (ws : List Waiter) : List Nat := ws.map (·.task)

@[simp] theorem tasks_append (ws : List Waiter) (w : Waiter) :
    tasks (ws ++ [w]) = tasks ws ++ [w.task] := by
  simp [tasks]

/-- A task that leaves the queue is gone from the tasks. -/
theorem tasks_remove (ws : List Waiter) (task : Nat) :
    tasks (remove ws task) = (tasks ws).erase task := by
  induction ws with
  | nil => rfl
  | cons w ws ih =>
    by_cases same : w.task = task
    · simp [remove, tasks, same]
    · have ih' : tasks (List.eraseP (fun w => decide (w.task = task)) ws) = (tasks ws).erase task := ih
      simp only [remove, tasks, List.map_cons] at ih' ⊢
      rw [List.eraseP_cons_of_neg (by simpa using same), List.map_cons, ih',
        List.erase_cons_tail (by simpa using same)]

/-- Granting a future keeps the tasks. -/
theorem tasks_grantNext {ws after : List Waiter} (next : grantNext ws = some after) :
    tasks after = tasks ws := by
  induction ws generalizing after with
  | nil => cases next
  | cons w ws ih =>
    unfold grantNext at next
    split at next
    · cases next; rfl
    · obtain ⟨rest, found, rfl⟩ := Option.map_eq_some_iff.1 next
      exact congrArg (w.task :: ·) (ih found)

/-- So does cancelling one. -/
theorem tasks_cancelWaiter (ws : List Waiter) (task : Nat) :
    tasks (cancelWaiter ws task) = tasks ws := by
  unfold tasks cancelWaiter
  rw [List.map_map]
  apply List.map_congr_left
  intro w _
  simp only [Function.comp_apply]
  split <;> rfl

/-- One more waiter is granted. -/
theorem granted_grantNext {ws after : List Waiter} (next : grantNext ws = some after) :
    granted after = granted ws + 1 := by
  induction ws generalizing after with
  | nil => cases next
  | cons w ws ih =>
    unfold grantNext at next
    split at next
    · rename_i pending
      cases next
      simp [granted, pending]
    · obtain ⟨rest, found, rfl⟩ := Option.map_eq_some_iff.1 next
      have ih' := ih found
      unfold granted at ih' ⊢
      simp only [List.countP_cons, ih']
      omega

/-- Where none is granted, every future is done. -/
theorem grantNext_none {ws : List Waiter} (ungranted : grantNext ws = none) :
    ∀ w ∈ ws, w.state ≠ .pending := by
  induction ws with
  | nil =>
    intro w member
    cases member
  | cons v ws ih =>
    unfold grantNext at ungranted
    split at ungranted
    · cases ungranted
    · rename_i done
      intro w member
      obtain rfl | member := List.mem_cons.1 member
      · exact done
      · exact ih (Option.map_eq_none_iff.1 ungranted) w member

/-- A granted future is not cancelled. -/
theorem granted_cancelWaiter (ws : List Waiter) (task : Nat) :
    granted (cancelWaiter ws task) = granted ws := by
  unfold granted cancelWaiter
  rw [List.countP_map]
  apply List.countP_congr
  intro w _
  simp only [Function.comp_apply, decide_eq_true_eq]
  split
  · rename_i pending
    simp [pending.2]
  · rfl

/-- Removing a task takes its own future out of the count. -/
theorem granted_remove {ws : List Waiter} {task : Nat} {state : Fut}
    (found : state? ws task = some state) :
    granted ws = granted (remove ws task) + if state = .granted then 1 else 0 := by
  induction ws with
  | nil => cases found
  | cons w ws ih =>
    by_cases same : w.task = task
    · simp only [state?, List.find?_cons, same, decide_true, Option.map_some, Option.some.injEq] at found
      simp only [granted, remove, same, decide_true, List.eraseP_cons_of_pos, List.countP_cons, found,
        decide_eq_true_eq]
    · have rest : state? ws task = some state := by
        simpa only [state?, List.find?_cons, same, decide_false] using found
      have ih' := ih rest
      unfold granted remove at ih' ⊢
      rw [List.eraseP_cons_of_neg (by simpa using same), List.countP_cons, List.countP_cons, ih']
      omega

/-- A task whose future is in the queue waits there. -/
theorem mem_tasks_of_state? {ws : List Waiter} {task : Nat} {state : Fut}
    (found : state? ws task = some state) : task ∈ tasks ws := by
  obtain ⟨w, first, -⟩ := Option.map_eq_some_iff.1 found
  have same : w.task = task := by simpa using List.find?_some first
  exact List.mem_map.2 ⟨w, List.mem_of_find?_eq_some first, same⟩

/-! ## Semaphores -/

/-- `asyncio.Semaphore`. -/
structure Semaphore where
  value : Nat
  waiters : List Waiter
  deriving Repr

namespace Semaphore

def create (value : Nat) : Semaphore := ⟨value, []⟩

/-- `locked()`. -/
def locked (s : Semaphore) : Bool :=
  s.value == 0 || s.waiters.any fun w => w.state ≠ .cancelled

/-- `acquire()` up to its first suspension: a permit is taken at once, or the task
waits in the queue. -/
def acquire (s : Semaphore) (task : Nat) : Bool × Semaphore :=
  if s.locked then (false, { s with waiters := s.waiters ++ [⟨task, .pending⟩] })
  else (true, { s with value := s.value - 1 })

/-- `_wake_up_next()`. -/
def wakeUpNext (s : Semaphore) : Semaphore :=
  match grantNext s.waiters with
  | some waiters => ⟨s.value - 1, waiters⟩
  | none => s

/-- `release()`. -/
def release (s : Semaphore) : Semaphore := wakeUpNext { s with value := s.value + 1 }

/-- The loop resumes a waiting task whose future is done; `cancelling` says that
the task was cancelled after its future was granted. The answer says whether the
task now has a permit; otherwise `CancelledError` is raised in it. -/
def resume (s : Semaphore) (task : Nat) (cancelling : Bool) : Option (Bool × Semaphore) :=
  let rest := remove s.waiters task
  match state? s.waiters task with
  | some .granted =>
    if cancelling then some (false, wakeUpNext ⟨s.value + 1, rest⟩)
    else if 0 < s.value then some (true, wakeUpNext ⟨s.value, rest⟩)
    else some (true, ⟨s.value, rest⟩)
  | some .cancelled => some (false, ⟨s.value, rest⟩)
  | _ => none

/-- A waiting task is cancelled. -/
def cancel (s : Semaphore) (task : Nat) : Semaphore :=
  { s with waiters := cancelWaiter s.waiters task }

/-- The permits no task has: those on the counter and those granted to a waiter
that has not been resumed. -/
def idle (s : Semaphore) : Nat := s.value + granted s.waiters

/-- A permit that goes from the counter to a waiter stays idle. -/
theorem wakeUpNext_idle {s : Semaphore} (positive : 0 < s.value) : s.wakeUpNext.idle = s.idle := by
  unfold wakeUpNext
  split
  · rename_i waiters next
    simp only [idle, granted_grantNext next]
    omega
  · rfl

@[simp] theorem wakeUpNext_tasks (s : Semaphore) : tasks s.wakeUpNext.waiters = tasks s.waiters := by
  unfold wakeUpNext
  split
  · rename_i waiters next
    exact tasks_grantNext next
  · rfl

/-- A permit that is taken at once was idle. -/
theorem acquire_now {s after : Semaphore} {task : Nat} (now : s.acquire task = (true, after)) :
    s.idle = after.idle + 1 ∧ after.waiters = s.waiters := by
  unfold acquire at now
  split at now
  · cases now
  · rename_i unlocked
    cases now
    simp only [locked, Bool.or_eq_true, beq_iff_eq, not_or] at unlocked
    refine ⟨?_, rfl⟩
    have positive := unlocked.1
    simp only [idle]
    omega

/-- A task that has to wait is the last in the queue, and takes no permit. -/
theorem acquire_later {s after : Semaphore} {task : Nat} (later : s.acquire task = (false, after)) :
    after.idle = s.idle ∧ after.waiters = s.waiters ++ [⟨task, .pending⟩] := by
  unfold acquire at later
  split at later
  · cases later
    simp [idle, granted]
  · cases later

/-- A released permit is idle. -/
theorem release_idle (s : Semaphore) : s.release.idle = s.idle + 1 := by
  unfold release
  rw [wakeUpNext_idle (Nat.succ_pos _)]
  simp only [idle]
  omega

@[simp] theorem release_tasks (s : Semaphore) : tasks s.release.waiters = tasks s.waiters :=
  wakeUpNext_tasks _

/-- A resumed task leaves the queue, and has taken a permit or not. -/
theorem resume_some {s after : Semaphore} {task : Nat} {cancelling acquired : Bool}
    (resumed : s.resume task cancelling = some (acquired, after)) :
    s.idle = after.idle + (if acquired then 1 else 0) ∧ task ∈ tasks s.waiters ∧
      tasks after.waiters = (tasks s.waiters).erase task := by
  unfold resume at resumed
  dsimp only at resumed
  split at resumed
  · rename_i found
    have count := granted_remove found
    refine ⟨?_, mem_tasks_of_state? found, ?_⟩
    · split at resumed
      · cases resumed
        rw [wakeUpNext_idle (Nat.succ_pos _)]
        simp only [idle, count, if_true, Bool.false_eq_true, if_false]
        omega
      · split at resumed
        · rename_i positive
          cases resumed
          have positive' : 0 < (⟨s.value, remove s.waiters task⟩ : Semaphore).value := positive
          rw [wakeUpNext_idle positive']
          simp only [idle, count, if_true]
          omega
        · cases resumed
          simp only [idle, count, if_true]
          omega
    · split at resumed
      · cases resumed
        rw [wakeUpNext_tasks, tasks_remove]
      · split at resumed <;> cases resumed
        · rw [wakeUpNext_tasks, tasks_remove]
        · rw [tasks_remove]
  · rename_i found
    have count := granted_remove found
    cases resumed
    refine ⟨?_, mem_tasks_of_state? found, tasks_remove _ _⟩
    simp only [idle, count, reduceCtorEq, if_false, Bool.false_eq_true, Nat.add_zero]
  · cases resumed

/-- A cancellation takes no permit. -/
@[simp] theorem cancel_idle (s : Semaphore) (task : Nat) : (s.cancel task).idle = s.idle := by
  simp only [idle, cancel, granted_cancelWaiter]

@[simp] theorem cancel_tasks (s : Semaphore) (task : Nat) :
    tasks (s.cancel task).waiters = tasks s.waiters :=
  tasks_cancelWaiter _ _

/-- A pending waiter waits for a permit: the counter is 0, or a granted waiter will
wake it. -/
def Served (s : Semaphore) : Prop :=
  (∃ w ∈ s.waiters, w.state = .pending) → s.value = 0 ∨ 0 < granted s.waiters

/-- Nobody waits for a new semaphore. -/
theorem create_served (value : Nat) : (create value).Served := by
  rintro ⟨w, member, -⟩
  cases member

/-- After `_wake_up_next()` a pending waiter waits for a permit. -/
theorem wakeUpNext_served (s : Semaphore) : s.wakeUpNext.Served := by
  intro pending
  cases next : grantNext s.waiters with
  | some waiters =>
    have more := granted_grantNext next
    simp only [wakeUpNext, next]
    omega
  | none =>
    simp only [wakeUpNext, next] at pending
    obtain ⟨w, member, pending⟩ := pending
    exact absurd pending (grantNext_none next w member)

theorem release_served (s : Semaphore) : s.release.Served := wakeUpNext_served _

/-- A task that joins the queue waits for a permit. -/
theorem acquire_served {s after : Semaphore} {task : Nat} {now : Bool} (served : s.Served)
    (acquired : s.acquire task = (now, after)) : after.Served := by
  unfold acquire at acquired
  split at acquired
  · rename_i locked
    cases acquired
    intro _
    simp only [Semaphore.locked, Bool.or_eq_true, beq_iff_eq, List.any_eq_true, decide_eq_true_eq] at locked
    have more : granted (s.waiters ++ [⟨task, .pending⟩]) = granted s.waiters := by simp [granted]
    show s.value = 0 ∨ 0 < granted (s.waiters ++ [⟨task, .pending⟩])
    rw [more]
    obtain zero | ⟨w, member, live⟩ := locked
    · exact .inl zero
    · cases state : w.state with
      | pending => exact served ⟨w, member, state⟩
      | granted => exact .inr (List.countP_pos_iff.2 ⟨w, member, by simp [state]⟩)
      | cancelled => exact absurd state live
  · rename_i unlocked
    cases acquired
    rintro ⟨w, member, pending⟩
    -- a pending waiter would have locked the semaphore
    refine absurd ?_ unlocked
    simp only [Semaphore.locked, Bool.or_eq_true, List.any_eq_true, decide_eq_true_eq]
    exact .inr ⟨w, member, by simp [pending]⟩

/-- A task that is resumed wakes the next, if a permit is left. -/
theorem resume_served {s after : Semaphore} {task : Nat} {cancelling acquired : Bool} (served : s.Served)
    (resumed : s.resume task cancelling = some (acquired, after)) : after.Served := by
  unfold resume at resumed
  dsimp only at resumed
  split at resumed
  · split at resumed
    · cases resumed
      apply wakeUpNext_served
    · split at resumed <;> cases resumed
      · apply wakeUpNext_served
      · rename_i zero
        exact fun _ => .inl (Nat.eq_zero_of_not_pos zero)
  · rename_i found
    cases resumed
    rintro ⟨w, member, pending⟩
    have count := granted_remove found
    simp only [reduceCtorEq, if_false, Nat.add_zero] at count
    have before := served ⟨w, List.mem_of_mem_eraseP member, pending⟩
    rwa [count] at before
  · cases resumed

/-- A cancelled waiter waits no longer. -/
theorem cancel_served {s : Semaphore} (served : s.Served) (task : Nat) : (s.cancel task).Served := by
  rintro ⟨w, member, pending⟩
  obtain ⟨v, there, same⟩ := List.mem_map.1 member
  have before := served ⟨v, there, by
    split at same
    · rw [← same] at pending
      cases pending
    · rw [same]
      exact pending⟩
  show s.value = 0 ∨ 0 < granted (cancelWaiter s.waiters task)
  rwa [granted_cancelWaiter]

/-- While nobody waits, the semaphore is locked exactly when its counter is 0. -/
theorem locked_iff {s : Semaphore} (nobody : s.waiters = []) : s.locked ↔ s.value = 0 := by
  simp [locked, nobody]

end Semaphore

/-! ## Locks -/

/-- `asyncio.Lock`. A granted waiter takes the lock when it is resumed; until then
nobody has it, and the waiter stands first in the queue. -/
structure Lock where
  locked : Bool
  waiters : List Waiter
  free : (∃ w ∈ waiters, w.state = .granted) → locked = false
  front : ∀ w ∈ waiters.tail, w.state ≠ .granted

/-- `_wake_up_first()`. -/
def wakeUpFirst : List Waiter → List Waiter
  | [] => []
  | w :: ws => if w.state = .pending then ⟨w.task, .granted⟩ :: ws else w :: ws

@[simp] theorem wakeUpFirst_tail (ws : List Waiter) : (wakeUpFirst ws).tail = ws.tail := by
  cases ws with
  | nil => rfl
  | cons w ws =>
    simp only [wakeUpFirst]
    split <;> rfl

/-- Waking the first waiter keeps the tasks. -/
@[simp] theorem tasks_wakeUpFirst (ws : List Waiter) : tasks (wakeUpFirst ws) = tasks ws := by
  cases ws with
  | nil => rfl
  | cons w ws =>
    simp only [wakeUpFirst]
    split <;> rfl

/-- What is behind the first waiter was behind it before. -/
theorem mem_remove_tail {ws : List Waiter} {task : Nat} {w : Waiter}
    (member : w ∈ (remove ws task).tail) : w ∈ ws.tail := by
  cases ws with
  | nil => cases member
  | cons v ws =>
    by_cases same : v.task = task
    · rw [remove, List.eraseP_cons_of_pos (by simpa using same)] at member
      exact List.mem_of_mem_tail member
    · rw [remove, List.eraseP_cons_of_neg (by simpa using same)] at member
      exact List.mem_of_mem_eraseP member

/-- When the granted waiter is removed, none is left. -/
theorem remove_granted {ws : List Waiter} {task : Nat} (front : ∀ w ∈ ws.tail, w.state ≠ .granted)
    (found : state? ws task = some .granted) : ∀ w ∈ remove ws task, w.state ≠ .granted := by
  cases ws with
  | nil => cases found
  | cons v ws =>
    by_cases same : v.task = task
    · intro w member
      rw [remove, List.eraseP_cons_of_pos (by simpa using same)] at member
      exact front w member
    · have later : state? ws task = some .granted := by
        simpa only [state?, List.find?_cons, same, decide_false] using found
      obtain ⟨w, first, granted⟩ := Option.map_eq_some_iff.1 later
      exact absurd granted (front w (List.mem_of_find?_eq_some first))

namespace Lock

def create : Lock := ⟨false, [], fun _ => rfl, fun _ member => by cases member⟩

/-- Only the first waiter of a lock is ever granted. -/
theorem front_append {ws : List Waiter} {task : Nat} (front : ∀ w ∈ ws.tail, w.state ≠ .granted) :
    ∀ w ∈ (ws ++ [(⟨task, .pending⟩ : Waiter)]).tail, w.state ≠ .granted := by
  intro w member granted
  cases ws with
  | nil => cases member
  | cons v ws =>
    rw [List.cons_append, List.tail_cons] at member
    rcases List.mem_append.1 member with old | new
    · exact front w old granted
    · rw [List.mem_singleton.1 new] at granted
      cases granted

/-- `acquire()` up to its first suspension: the lock is taken at once, or the task
waits in the queue. -/
def acquire (l : Lock) (task : Nat) : Bool × Lock :=
  if unlocked : l.locked = false ∧ ∀ w ∈ l.waiters, w.state = .cancelled then
    (true, {
      locked := true
      waiters := l.waiters
      free := fun ⟨w, member, granted⟩ => by cases (unlocked.2 w member).symm.trans granted
      front := l.front })
  else
    (false, {
      locked := l.locked
      waiters := l.waiters ++ [⟨task, .pending⟩]
      free := by
        rintro ⟨w, member, granted⟩
        rcases List.mem_append.1 member with old | new
        · exact l.free ⟨w, old, granted⟩
        · rw [List.mem_singleton.1 new] at granted
          cases granted
      front := front_append l.front })

/-- `release()`. On a lock that is not locked it raises and changes nothing. -/
def release (l : Lock) : Lock :=
  if l.locked then {
    locked := false
    waiters := wakeUpFirst l.waiters
    free := fun _ => rfl
    front := by rw [wakeUpFirst_tail]; exact l.front }
  else l

/-- The lock after a task has left the queue with `CancelledError`. -/
def leave (l : Lock) (task : Nat) : Lock where
  locked := l.locked
  waiters := if l.locked then remove l.waiters task else wakeUpFirst (remove l.waiters task)
  free := by
    rintro ⟨w, member, granted⟩
    split at member
    · exact l.free ⟨w, List.mem_of_mem_eraseP member, granted⟩
    · rename_i unlocked
      simpa using unlocked
  front := by
    intro w member
    split at member
    · exact l.front w (mem_remove_tail member)
    · rw [wakeUpFirst_tail] at member
      exact l.front w (mem_remove_tail member)

/-- The loop resumes a waiting task whose future is done; `cancelling` says that
the task was cancelled after its future was granted. The answer says whether the
task now has the lock; otherwise `CancelledError` is raised in it. -/
def resume (l : Lock) (task : Nat) (cancelling : Bool) : Option (Bool × Lock) :=
  match found : state? l.waiters task with
  | some .granted =>
    if cancelling then some (false, l.leave task)
    else some (true, {
      locked := true
      waiters := remove l.waiters task
      free := fun ⟨w, member, granted⟩ => absurd granted (remove_granted l.front found w member)
      front := fun w member => l.front w (mem_remove_tail member) })
  | some .cancelled => some (false, l.leave task)
  | _ => none

/-- A waiting task is cancelled. -/
def cancel (l : Lock) (task : Nat) : Lock where
  locked := l.locked
  waiters := cancelWaiter l.waiters task
  free := by
    rintro ⟨w, member, granted⟩
    obtain ⟨v, old, rfl⟩ := List.mem_map.1 member
    split at granted
    · cases granted
    · exact l.free ⟨v, old, granted⟩
  front := by
    intro w member
    rw [cancelWaiter, ← List.map_tail] at member
    obtain ⟨v, old, rfl⟩ := List.mem_map.1 member
    split
    · exact fun granted => by cases granted
    · exact l.front v old

/-- A lock that is taken at once was free. -/
theorem acquire_now {l after : Lock} {task : Nat} (now : l.acquire task = (true, after)) :
    l.locked = false ∧ after.locked = true ∧ after.waiters = l.waiters := by
  unfold acquire at now
  split at now
  · rename_i unlocked
    cases now
    exact ⟨unlocked.1, rfl, rfl⟩
  · cases now

/-- A task that has to wait is the last in the queue of the lock. -/
theorem acquire_later {l after : Lock} {task : Nat} (later : l.acquire task = (false, after)) :
    after.locked = l.locked ∧ after.waiters = l.waiters ++ [⟨task, .pending⟩] := by
  unfold acquire at later
  split at later
  · cases later
  · cases later
    exact ⟨rfl, rfl⟩

/-- A task that leaves the queue does not change who has the lock. -/
theorem leave_spec (l : Lock) (task : Nat) :
    (l.leave task).locked = l.locked ∧
      tasks (l.leave task).waiters = (tasks l.waiters).erase task := by
  refine ⟨rfl, ?_⟩
  simp only [leave]
  split
  · exact tasks_remove _ _
  · rw [tasks_wakeUpFirst, tasks_remove]

/-- A resumed task leaves the queue. It takes the lock only from nobody. -/
theorem resume_some {l after : Lock} {task : Nat} {cancelling acquired : Bool}
    (resumed : l.resume task cancelling = some (acquired, after)) :
    task ∈ tasks l.waiters ∧ tasks after.waiters = (tasks l.waiters).erase task ∧
      (if acquired then l.locked = false ∧ after.locked = true else after.locked = l.locked) := by
  unfold resume at resumed
  split at resumed
  · rename_i found
    obtain ⟨w, first, granted⟩ := Option.map_eq_some_iff.1 found
    have free := l.free ⟨w, List.mem_of_find?_eq_some first, granted⟩
    split at resumed
    · cases resumed
      exact ⟨mem_tasks_of_state? found, (l.leave_spec task).2, (l.leave_spec task).1⟩
    · cases resumed
      exact ⟨mem_tasks_of_state? found, tasks_remove _ _, free, rfl⟩
  · rename_i found
    cases resumed
    exact ⟨mem_tasks_of_state? found, (l.leave_spec task).2, (l.leave_spec task).1⟩
  · cases resumed

@[simp] theorem cancel_tasks (l : Lock) (task : Nat) :
    tasks (l.cancel task).waiters = tasks l.waiters :=
  tasks_cancelWaiter _ _

/-- A cancellation does not free the lock. -/
@[simp] theorem cancel_locked (l : Lock) (task : Nat) : (l.cancel task).locked = l.locked := rfl

end Lock

end Asyncio
