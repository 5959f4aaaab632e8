import LlmTts.Lib.Notify
import LlmTts.Startup.Dependencies

/-!
# The life of the service

The lifespan of `main.py`, with the reloader of the presets file as a task beside it. In
between anyone may edit the file, probe `/ready`, and send requests, each of which takes
its snapshot of the live registry. `lifespan_safe` is what holds in every order of these.
-/

namespace LlmTts
open Python Transition Notify

/-- `app.state.ready_reason`. -/
inductive ReadyReason where
  | warmingUp
  | ready
  | draining
  deriving DecidableEq, Repr

def ReadyReason.text : ReadyReason → String
  | warmingUp => "warming_up"
  | ready => "ready"
  | draining => "draining"

/-- The order of the reasons. -/
def ReadyReason.rank : ReadyReason → Nat
  | warmingUp => 0
  | ready => 1
  | draining => 2

/-- Where the lifespan is. -/
inductive LifespanPc where
  /-- The presets have not been read. -/
  | created
  /-- In the `await` of the first `ingest_once`. -/
  | seeding
  /-- At the `yield`. -/
  | serving
  /-- In the `await` of the cancelled seed watcher. -/
  | joiningSeed
  /-- In the `await` of the cancelled reloader. -/
  | joiningReloader
  /-- In `_drain_concurrency`. -/
  | draining
  | ended
  deriving DecidableEq, Repr

/-- The `finally` block has begun. -/
def LifespanPc.Stopping : LifespanPc → Prop
  | created | seeding | serving => False
  | joiningSeed | joiningReloader | draining | ended => True

/-- The reloader was cancelled, where there is one. -/
def LifespanPc.Stopped : LifespanPc → Prop
  | created | seeding | serving | joiningSeed => False
  | joiningReloader | draining | ended => True

/-- What the lifespan has of its dependencies and of the host. -/
structure Deployment where
  settings : ServiceSettings
  seedFilePath : Option String
  modelValidate : ModelValidate
  processUid : Option Nat
  stat : Except String FileStat

/-- `app.state`, the presets file and the tasks of the lifespan. The reader of the watch is
`app.state.preset_registry`. -/
structure App where
  pc : LifespanPc
  ready : Bool
  readyReason : ReadyReason
  presets : Watched PresetsFile (Option PresetRegistry)
  seedWatcherTask : Bool
  presetReloaderTask : Bool
  drainSeconds : Int
  /-- The snapshots of the requests. -/
  snapshots : List PresetRegistry

/-- The service as `create_app` leaves it. -/
def App.initial (file : PresetsFile) : App where
  pc := .created
  ready := false
  readyReason := .warmingUp
  presets := ⟨file, none, .off, false, none, true⟩
  seedWatcherTask := false
  presetReloaderTask := false
  drainSeconds := 0
  snapshots := []

/-- What can happen next. -/
inductive LifespanAct where
  /-- Someone edits the presets file. -/
  | edit (file : PresetsFile)
  /-- `_test_bypass_active()`: the lifespan yields at once. -/
  | bypass
  /-- `build_default_dependencies` raises. -/
  | refuse
  /-- `_load_presets_or_exit`, up to the first `await` of the lifespan. -/
  | load
  /-- The reloader runs to its first batch. -/
  | watch
  /-- `awatch` collects changed paths. -/
  | collect (changes : List String)
  /-- The reloader is given the batch. -/
  | deliver
  /-- `awatch` raises, or cannot be imported. -/
  | crash
  /-- The first seed pass is over, or has raised. -/
  | seeded (raised : Bool)
  /-- A request takes its snapshot. -/
  | enter
  /-- The server ends the lifespan. -/
  | shutdown
  /-- The task that the `finally` block awaits is over. -/
  | joined
  | drained

namespace App

variable (d : Deployment) (resolve : String → String)

/-- `reload_once` on `app.state`. -/
def reload (live : Option PresetRegistry) (file : PresetsFile) : Option PresetRegistry :=
  live.map fun live => (reloadOnce d.modelValidate d.settings.presetsFile d.settings.toSettings
    (some defaultProviderRegistry) live file).2

/-- A change of the presets file, or a step of its watch. -/
def notify (app : App) (event : Event PresetsFile (Option PresetRegistry)) : Option App := do
  let presets ← Notify.step (reload d) app.presets event
  return { app with presets := presets }

/-- The last part of the `finally` block. -/
def drain (app : App) : App := { app with pc := if 0 < app.drainSeconds then .draining else .ended }

/-- The part of the `finally` block from the cancellation of the reloader on. -/
def cancelReloader (app : App) : App :=
  if app.presetReloaderTask then { app with pc := .joiningReloader, presets := { app.presets with phase := .stopped } }
  else app.drain

/-- The `finally` block, up to its first `await`. -/
def finish (app : App) : App :=
  let app := { app with ready := false, readyReason := .draining }
  if app.seedWatcherTask then { app with pc := .joiningSeed } else app.cancelReloader

/-- `load`: the registry is read, or the lifespan fails. -/
def load (app : App) : App :=
  match initializePresetRegistry d.modelValidate d.settings.presetsFile d.settings.toSettings
      (some defaultProviderRegistry) d.processUid d.stat app.presets.value with
  | .error _ => app.finish
  | .ok registry => { app with
      pc := .seeding, presetReloaderTask := true,
      presets := { app.presets with reader := some registry, missed := false } }

/-- `touched` in `ConfigWatcher.watch`. -/
def touches (changes : List String) : Bool :=
  changes.any fun p => resolve p = resolve d.settings.presetsFile

def step (app : App) : LifespanAct → Option App
  | .edit file => app.notify d (.write file)
  | .bypass => do
    guard (app.pc = .created)
    return { app with pc := .serving }
  | .refuse => do
    guard (app.pc = .created)
    return app.finish
  | .load => do
    guard (app.pc = .created)
    return app.load d
  | .watch => do
    guard (app.presetReloaderTask = true)
    app.notify d .start
  | .collect changes => app.notify d (.collect (touches d resolve changes))
  | .deliver => app.notify d .deliver
  | .crash => do
    guard (app.presetReloaderTask = true)
    app.notify d .stop
  | .seeded raised => do
    guard (app.pc = .seeding)
    if raised then return app.finish
    else return { app with
      pc := .serving, seedWatcherTask := d.seedFilePath.isSome, drainSeconds := d.settings.shutdownDrainSeconds.1,
      ready := true, readyReason := .ready }
  | .enter => do
    let registry ← app.presets.reader
    return { app with snapshots := registry :: app.snapshots }
  | .shutdown => do
    guard (app.pc = .serving)
    return app.finish
  | .joined =>
    match app.pc with
    | .joiningSeed => some app.cancelReloader
    | .joiningReloader => some app.drain
    | _ => none
  | .drained => do
    guard (app.pc = .draining)
    return { app with pc := .ended }

/-- `ready` of `health.py`: the status, and the reason of a 503. -/
def readyAnswer (app : App) : Nat × Option String :=
  if app.ready then (200, none) else (503, some app.readyReason.text)

end App

/-! ## What holds in every order -/

section Alive

variable {d : Deployment}

/-- A sound registry is live. -/
def Fit (d : Deployment) (live : Option PresetRegistry) : Prop :=
  ∃ registry, live = some registry ∧ registry.Sound d.settings.toSettings defaultProviderRegistry

/-- If the file passes the checks, its registry is the live one. -/
def Agrees (d : Deployment) (file : PresetsFile) (live : Option PresetRegistry) : Prop :=
  ∀ registry, PassesChecks d.modelValidate d.settings.presetsFile d.settings.toSettings (some defaultProviderRegistry)
    file registry → live = some registry

/-- A reload keeps a sound registry, and takes in a file that passes the checks. -/
theorem reload_reacts (live : Option PresetRegistry) (file : PresetsFile) (fit : Fit d live) :
    Fit d (App.reload d live file) ∧ Agrees d file (App.reload d live file) := by
  obtain ⟨registry, rfl, sound⟩ := fit
  simp only [App.reload, Option.map_some]
  constructor
  · by_cases passes : ∃ next, PassesChecks d.modelValidate d.settings.presetsFile d.settings.toSettings
        (some defaultProviderRegistry) file next
    · obtain ⟨next, passes⟩ := passes
      rw [reloadOnce_of_passes passes]
      exact ⟨next, rfl, passes.sound⟩
    · rw [reloadOnce_of_fails (not_exists.1 passes)]
      exact ⟨registry, rfl, sound⟩
  · intro next passes
    rw [reloadOnce_of_passes passes]

/-- What the service has of its presets. -/
structure Stored (d : Deployment) (app : App) : Prop where
  consistent : Consistent (Fit d) (Agrees d) app.presets
  fit : app.presetReloaderTask = true → Fit d app.presets.reader
  unread : app.presetReloaderTask = false →
    app.presets.reader = none ∧ app.presets.phase = .off ∧ app.seedWatcherTask = false
  snapshots : ∀ registry ∈ app.snapshots, registry.Sound d.settings.toSettings defaultProviderRegistry

/-- The invariant of the service. -/
structure Alive (d : Deployment) (app : App) : Prop extends Stored d app where
  created : app.pc = .created → app.presetReloaderTask = false
  seeding : app.pc = .seeding → app.presetReloaderTask = true
  ready : app.ready = true ↔ app.pc = .serving ∧ app.presetReloaderTask = true
  draining : app.readyReason = .draining ↔ app.pc.Stopping
  reason : app.readyReason = .ready ↔ app.ready = true
  stopped : app.pc.Stopped → app.presetReloaderTask = true → app.presets.phase = .stopped

variable {app app' : App}

/-- A process that starts has nothing to keep yet. -/
theorem Alive.initial (d : Deployment) (file : PresetsFile) : Alive d (App.initial file) where
  consistent := ⟨by simp [App.initial], by simp [App.initial], by simp [App.initial], fun _ => ⟨rfl, rfl⟩⟩
  fit := by simp [App.initial]
  unread := fun _ => ⟨rfl, rfl, rfl⟩
  snapshots := by simp [App.initial]
  created := fun _ => rfl
  seeding := by simp [App.initial]
  ready := by simp [App.initial]
  draining := by simp [App.initial, LifespanPc.Stopping]
  reason := by simp [App.initial]
  stopped := by simp [App.initial, LifespanPc.Stopped]

/-! ### The end of the lifespan -/

/-- While the process stops, the invariant is what is stored and that nobody is told it is ready. -/
theorem Stored.stopping (stored : Stored d app) (stopping : app.pc.Stopping) (unready : app.ready = false)
    (draining : app.readyReason = .draining)
    (halted : app.pc.Stopped → app.presetReloaderTask = true → app.presets.phase = .stopped) : Alive d app where
  toStored := stored
  created := fun created => by
    rw [created] at stopping
    exact stopping.elim
  seeding := fun seeding => by
    rw [seeding] at stopping
    exact stopping.elim
  ready := by
    refine iff_of_false (by simp [unready]) fun serving => ?_
    rw [serving.1] at stopping
    exact stopping.elim
  draining := iff_of_true draining stopping
  reason := by simp [unready, draining]
  stopped := halted

/-- The drain begins. -/
theorem Stored.drain (stored : Stored d app) (unready : app.ready = false) (draining : app.readyReason = .draining)
    (halted : app.presetReloaderTask = true → app.presets.phase = .stopped) : Alive d app.drain := by
  have told : Stored d app.drain := ⟨stored.consistent, stored.fit, stored.unread, stored.snapshots⟩
  refine told.stopping ?_ unready draining fun _ => halted
  unfold App.drain
  dsimp only
  split <;> trivial

theorem Stored.cancelReloader (stored : Stored d app) (unready : app.ready = false)
    (draining : app.readyReason = .draining) : Alive d app.cancelReloader := by
  unfold App.cancelReloader
  split
  · rename_i task
    have told : Stored d { app with pc := .joiningReloader, presets := { app.presets with phase := .stopped } } :=
      ⟨⟨by simp, by simp, by simp, by simp⟩, fun _ => stored.fit task, by simp [task], stored.snapshots⟩
    exact told.stopping trivial unready draining fun _ _ => rfl
  · rename_i absent
    exact stored.drain unready draining fun there => absurd there absent

/-- The `finally` block. -/
theorem Stored.finish (stored : Stored d app) : Alive d app.finish := by
  have told : Stored d { app with ready := false, readyReason := .draining } :=
    ⟨stored.consistent, stored.fit, stored.unread, stored.snapshots⟩
  unfold App.finish
  dsimp only
  split
  · have joining : Stored d { app with ready := false, readyReason := .draining, pc := .joiningSeed } :=
      ⟨stored.consistent, stored.fit, stored.unread, stored.snapshots⟩
    exact joining.stopping trivial rfl rfl False.elim
  · exact told.cancelReloader rfl rfl

/-- A process that stops is not ready. -/
theorem Alive.quiet (alive : Alive d app) (stopping : app.pc.Stopping) :
    app.ready = false ∧ app.readyReason = .draining := by
  have draining := alive.draining.2 stopping
  refine ⟨Bool.eq_false_iff.2 fun ready => ?_, draining⟩
  cases draining.symm.trans (alive.reason.2 ready)

/-! ### Steps -/

/-- An event at the presets file. -/
theorem Alive.notify (alive : Alive d app) {event : Event PresetsFile (Option PresetRegistry)}
    (task : event = .start ∨ event = .stop → app.presetReloaderTask = true) (loads : ∀ live, event ≠ .load live)
    (done : app.notify d event = some app') : Alive d app' := by
  obtain ⟨presets, stepped, same⟩ := Option.bind_eq_some_iff.1 done
  cases same
  have consistent : Consistent (Fit d) (Agrees d) presets := by
    refine alive.consistent.step reload_reacts ?_ stepped
    cases event with
    | load live => exact absurd rfl (loads live)
    | start => exact alive.fit (task (.inl rfl))
    | _ => trivial
  refine { consistent := consistent, fit := fun there => ?_, unread := fun there => ?_, snapshots := alive.snapshots,
           created := alive.created, seeding := alive.seeding, ready := alive.ready, draining := alive.draining,
           reason := alive.reason, stopped := fun stopped there => ?_ }
  · rcases reader_step stepped loads with same | ⟨-, looked⟩
    · show Fit d presets.reader
      rw [same]
      exact alive.fit there
    · show Fit d presets.reader
      rw [looked]
      exact (reload_reacts _ _ (alive.fit there)).1
  · obtain ⟨reader, off, seed⟩ := alive.unread there
    have absent : ¬app.presetReloaderTask = true := Bool.eq_false_iff.1 there
    obtain ⟨reader', off'⟩ := off_step off stepped loads (fun starts => absent (task (.inl starts))) fun stops =>
      absent (task (.inr stops))
    exact ⟨reader'.trans reader, off', seed⟩
  · exact (stopped_step (alive.stopped stopped there) stepped).1

/-- The reading of the presets at the start. -/
theorem Alive.load (alive : Alive d app) (created : app.pc = .created) : Alive d (app.load d) := by
  unfold App.load
  have task := alive.created created
  obtain ⟨-, off, seed⟩ := alive.unread task
  have unready : app.ready = false := by simp [← Bool.not_eq_true, alive.ready, created]
  split
  · exact alive.toStored.finish
  · rename_i registry initialized
    have passes := initialize_passes initialized
    have fit : Fit d (some registry) := ⟨registry, rfl, passes.sound⟩
    have agrees : Agrees d app.presets.value (some registry) := by
      intro other passed
      have same := passes.loads.symm.trans passed.loads
      cases same
      rfl
    have loads : Loads (Fit d) (Agrees d) app.presets (.load (some registry)) := ⟨fit, agrees⟩
    exact { consistent := alive.consistent.step reload_reacts loads (if_pos off)
            fit := fun _ => fit
            unread := by simp
            snapshots := alive.snapshots
            created := by simp
            seeding := fun _ => rfl
            ready := by simp [unready]
            draining := by simp [alive.draining, created, LifespanPc.Stopping]
            reason := alive.reason
            stopped := False.elim }

variable {resolve : String → String}

/-- Every step of the lifespan keeps the invariant. -/
theorem Alive.step (alive : Alive d app) {a : LifespanAct} (stepped : app.step d resolve a = some app') :
    Alive d app' := by
  cases a with
  | edit file => exact alive.notify (by simp) (by simp) stepped
  | bypass =>
    obtain ⟨created, same⟩ := guarded_some_iff.1 stepped
    cases same
    have unready : app.ready = false := by simp [← Bool.not_eq_true, alive.ready, created]
    have task := alive.created created
    exact { toStored := ⟨alive.consistent, alive.fit, alive.unread, alive.snapshots⟩
            created := by simp
            seeding := by simp
            ready := by simp [unready, task]
            draining := by simp [alive.draining, created, LifespanPc.Stopping]
            reason := alive.reason
            stopped := False.elim }
  | refuse =>
    obtain ⟨-, same⟩ := guarded_some_iff.1 stepped
    cases same
    exact alive.toStored.finish
  | load =>
    obtain ⟨created, same⟩ := guarded_some_iff.1 stepped
    cases same
    exact alive.load created
  | watch =>
    obtain ⟨task, done⟩ := guarded_some_iff.1 stepped
    exact alive.notify (fun _ => task) (by simp) done
  | collect changes => exact alive.notify (by simp) (by simp) stepped
  | deliver => exact alive.notify (by simp) (by simp) stepped
  | crash =>
    obtain ⟨task, done⟩ := guarded_some_iff.1 stepped
    exact alive.notify (fun _ => task) (by simp) done
  | seeded raised =>
    obtain ⟨seeding, ended⟩ := guarded_some_iff.1 stepped
    cases raised with
    | true =>
      cases ended
      exact alive.toStored.finish
    | false =>
      cases ended
      have task := alive.seeding seeding
      exact { consistent := alive.consistent
              fit := alive.fit
              unread := by simp [task]
              snapshots := alive.snapshots
              created := by simp
              seeding := by simp
              ready := iff_of_true rfl ⟨rfl, task⟩
              draining := by simp [LifespanPc.Stopping]
              reason := iff_of_true rfl rfl
              stopped := False.elim }
  | enter =>
    obtain ⟨registry, live, same⟩ := Option.bind_eq_some_iff.1 stepped
    cases same
    have sound : registry.Sound d.settings.toSettings defaultProviderRegistry := by
      cases task : app.presetReloaderTask with
      | false =>
        obtain ⟨unset, -⟩ := alive.unread task
        cases live.symm.trans unset
      | true =>
        obtain ⟨other, same, sound⟩ := alive.fit task
        cases live.symm.trans same
        exact sound
    exact { alive with snapshots := List.forall_mem_cons.2 ⟨sound, alive.snapshots⟩ }
  | shutdown =>
    obtain ⟨-, same⟩ := guarded_some_iff.1 stepped
    cases same
    exact alive.toStored.finish
  | joined =>
    simp only [App.step] at stepped
    split at stepped
    · rename_i joining
      cases stepped
      obtain ⟨unready, draining⟩ := alive.quiet (by rw [joining]; trivial)
      exact alive.toStored.cancelReloader unready draining
    · rename_i joining
      cases stepped
      obtain ⟨unready, draining⟩ := alive.quiet (by rw [joining]; trivial)
      exact alive.toStored.drain unready draining (alive.stopped (by rw [joining]; trivial))
    · cases stepped
  | drained =>
    obtain ⟨draining, same⟩ := guarded_some_iff.1 stepped
    cases same
    have stopping : app.pc.Stopping := by
      rw [draining]
      trivial
    have told : Stored d { app with pc := .ended } :=
      ⟨alive.consistent, alive.fit, alive.unread, alive.snapshots⟩
    obtain ⟨unready, reason⟩ := alive.quiet stopping
    refine told.stopping trivial unready reason fun _ => alive.stopped ?_
    rw [draining]
    trivial

/-- The reason only moves on, and a cancelled reloader swaps nothing. -/
structure Onward (app app' : App) : Prop where
  reason : app.readyReason.rank ≤ app'.readyReason.rank
  stopped : app.pc.Stopped → app'.pc.Stopped ∧ app'.presets.reader = app.presets.reader

theorem Onward.refl (app : App) : Onward app app := ⟨Nat.le_refl _, fun stopped => ⟨stopped, rfl⟩⟩

/-- A step onward follows another. -/
theorem Onward.trans {app₁ app₂ app₃ : App} (first : Onward app₁ app₂) (second : Onward app₂ app₃) :
    Onward app₁ app₃ where
  reason := Nat.le_trans first.reason second.reason
  stopped := fun stopped =>
    have next := first.stopped stopped
    have last := second.stopped next.1
    ⟨last.1, last.2.trans next.2⟩

theorem rank_le (reason : ReadyReason) : reason.rank ≤ ReadyReason.draining.rank := by
  cases reason <;> decide

theorem cancelReloader_reason (app : App) : app.cancelReloader.readyReason = app.readyReason := by
  unfold App.cancelReloader
  split <;> rfl

theorem finish_reason (app : App) : app.finish.readyReason = .draining := by
  unfold App.finish
  dsimp only
  split
  · rfl
  · exact cancelReloader_reason _

/-- The end of the lifespan is the last reason. -/
theorem onward_finish (going : ¬app.pc.Stopped) : Onward app app.finish where
  reason := by
    rw [finish_reason]
    exact rank_le _
  stopped := fun stopped => absurd stopped going

theorem Alive.onward_notify (alive : Alive d app) {event : Event PresetsFile (Option PresetRegistry)}
    (task : event = .start ∨ event = .stop → app.presetReloaderTask = true) (loads : ∀ live, event ≠ .load live)
    (done : app.notify d event = some app') : Onward app app' := by
  obtain ⟨presets, stepped, same⟩ := Option.bind_eq_some_iff.1 done
  cases same
  refine ⟨Nat.le_refl _, fun stopped => ⟨stopped, ?_⟩⟩
  cases there : app.presetReloaderTask with
  | true => exact (stopped_step (alive.stopped stopped there) stepped).2
  | false =>
    obtain ⟨-, off, -⟩ := alive.unread there
    have absent : ¬app.presetReloaderTask = true := Bool.eq_false_iff.1 there
    exact (off_step off stepped loads (fun starts => absent (task (.inl starts))) fun stops =>
      absent (task (.inr stops))).1

/-- No step goes back to an earlier reason. -/
theorem Alive.onward (alive : Alive d app) {a : LifespanAct} (stepped : app.step d resolve a = some app') :
    Onward app app' := by
  cases a with
  | edit file => exact alive.onward_notify (by simp) (by simp) stepped
  | bypass =>
    obtain ⟨created, same⟩ := guarded_some_iff.1 stepped
    cases same
    exact ⟨Nat.le_refl _, fun stopped => by rw [created] at stopped; exact stopped.elim⟩
  | refuse =>
    obtain ⟨created, same⟩ := guarded_some_iff.1 stepped
    cases same
    refine onward_finish ?_
    rw [created]
    exact id
  | load =>
    obtain ⟨created, same⟩ := guarded_some_iff.1 stepped
    cases same
    have going : ¬app.pc.Stopped := by
      rw [created]
      exact id
    unfold App.load
    split
    · exact onward_finish going
    · exact ⟨Nat.le_refl _, fun stopped => absurd stopped going⟩
  | watch =>
    obtain ⟨task, done⟩ := guarded_some_iff.1 stepped
    exact alive.onward_notify (fun _ => task) (by simp) done
  | collect changes => exact alive.onward_notify (by simp) (by simp) stepped
  | deliver => exact alive.onward_notify (by simp) (by simp) stepped
  | crash =>
    obtain ⟨task, done⟩ := guarded_some_iff.1 stepped
    exact alive.onward_notify (fun _ => task) (by simp) done
  | seeded raised =>
    obtain ⟨seeding, ended⟩ := guarded_some_iff.1 stepped
    have going : ¬app.pc.Stopped := by
      rw [seeding]
      exact id
    cases raised with
    | true =>
      cases ended
      exact onward_finish going
    | false =>
      cases ended
      have before : app.readyReason ≠ .draining := by
        rw [Ne, alive.draining, seeding]
        exact id
      refine ⟨?_, fun stopped => absurd stopped going⟩
      show app.readyReason.rank ≤ 1
      cases reason : app.readyReason with
      | warmingUp => decide
      | ready => decide
      | draining => exact absurd reason before
  | enter =>
    obtain ⟨registry, live, same⟩ := Option.bind_eq_some_iff.1 stepped
    cases same
    exact ⟨Nat.le_refl _, fun stopped => ⟨stopped, rfl⟩⟩
  | shutdown =>
    obtain ⟨serving, same⟩ := guarded_some_iff.1 stepped
    cases same
    refine onward_finish ?_
    rw [serving]
    exact id
  | joined =>
    simp only [App.step] at stepped
    split at stepped
    · rename_i joining
      cases stepped
      refine ⟨Nat.le_of_eq (congrArg _ (cancelReloader_reason app).symm), fun stopped => ?_⟩
      rw [joining] at stopped
      exact stopped.elim
    · cases stepped
      refine ⟨Nat.le_refl _, fun _ => ⟨?_, rfl⟩⟩
      unfold App.drain
      dsimp only
      split <;> trivial
    · cases stepped
  | drained =>
    obtain ⟨draining, same⟩ := guarded_some_iff.1 stepped
    cases same
    exact ⟨Nat.le_refl _, fun _ => ⟨trivial, rfl⟩⟩

/-- The defaults of the settings, on a host without a seed file. -/
def plainDeployment : Deployment where
  settings :=
    { toSettings := plainSettings, ttsProvider := "mlx_audio", sttModels := ("whisper-1", ["whisper-1"]),
      maxInputChars := checkedDefault 256 4096 (.refl true),
      admission := ⟨checkedDefault 1 1 (.refl true), checkedDefault 0 8 (.refl true)⟩, device := none, dtype := none,
      logFormat := .text, modelCacheSize := checkedDefault 1 1 (.refl true),
      shutdownDrainSeconds := checkedDefault 0 30 (.refl true), minFreeMemoryGb := checkedDefault 0 4 (.refl true),
      inferenceTimeoutSeconds := none, preloadModels := [], voiceStoreDir := "var/voices", metadata := ⟨.fsJson, none⟩,
      blob := ⟨.fs, "", "", "", by simp⟩, refaudioMaxBytes := checkedDefault 1 (10 * 1024 * 1024 : Nat) (.refl true),
      presetsFile := "config/presets.json", silenceTrimThresholdDb := .finite (-50), voiceMap := [] }
  seedFilePath := none
  modelValidate := validatePins
  processUid := some 1000
  stat := .ok ⟨1000, 0o100644⟩

/-- A start, an edit that the reloader is told of, and a request. -/
def editedActs : List LifespanAct :=
  [.load, .watch, .seeded false, .edit (pinFile "voxtral"), .collect ["config/presets.json"], .deliver, .enter]

end Alive

end LlmTts
