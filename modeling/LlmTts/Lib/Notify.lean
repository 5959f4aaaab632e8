import Mathlib.Data.Bool.Basic

/-!
# A watched value and its reader

A value that anyone may write, and a reader that is told of changes: a watch collects
changes in batches, and the reader looks at the value when it is given a batch that touches
it. Changes between two looks are seen as one. `Consistent`: once the watch is on, the
reader has seen the last value unless a change is still on its way.
-/

namespace Notify

variable {C S : Type}

/-- Where the watch is. -/
inductive Phase where
  /-- Not on yet: changes go unnoticed. -/
  | off
  | on
  | stopped
  deriving DecidableEq, Repr

structure Watched (C S : Type) where
  value : C
  reader : S
  phase : Phase
  /-- The value has changed since the last batch was collected. -/
  unseen : Bool
  /-- A batch that was collected and not delivered, and whether it touches the value. -/
  batch : Option Bool
  /-- The value was changed while the watch was off, and not looked at since. -/
  missed : Bool

inductive Event (C S : Type) where
  | write (value : C)
  /-- The reader is set, by whoever looked at the value. -/
  | load (reader : S)
  | start
  | collect (touches : Bool)
  | deliver
  | stop

variable (react : S → C → S)

/-- The reader looks at the value. -/
def Watched.look (w : Watched C S) : Watched C S := { w with reader := react w.reader w.value, missed := false }

def step (w : Watched C S) : Event C S → Option (Watched C S)
  | .write value =>
    some (if w.phase = .on then { w with value := value, unseen := true }
      else { w with value := value, missed := true })
  | .load reader => if w.phase = .off then some { w with reader := reader, missed := false } else none
  | .start => if w.phase = .off then some { w with phase := .on } else none
  | .collect touches =>
    if w.phase = .on ∧ w.batch = none then
      some { w with unseen := w.unseen && !touches, batch := some touches }
    else none
  | .deliver =>
    match w.phase, w.batch with
    | .on, some touches => some { (if touches then w.look react else w) with batch := none }
    | _, _ => none
  | .stop => some { w with phase := .stopped }

/-- No change is on its way to the reader. -/
def Watched.Quiet (w : Watched C S) : Prop := w.unseen = false ∧ w.batch ≠ some true ∧ w.missed = false

variable {react} {Fit : S → Prop} {Agrees : C → S → Prop}

/-- Whoever loads the reader has looked at the value, and the watch starts after that. -/
def Loads (Fit : S → Prop) (Agrees : C → S → Prop) (w : Watched C S) : Event C S → Prop
  | .load reader => Fit reader ∧ Agrees w.value reader
  | .start => Fit w.reader
  | _ => True

/-- Where no change is on its way, the reader agrees with the value. -/
structure Consistent (Fit : S → Prop) (Agrees : C → S → Prop) (w : Watched C S) : Prop where
  fit : w.phase = .on → Fit w.reader
  quiet : w.phase = .on → w.Quiet → Agrees w.value w.reader
  fresh : w.phase = .off → w.missed = false → Agrees w.value w.reader
  idle : w.phase = .off → w.unseen = false ∧ w.batch = none

/-- A reader that takes in every value it looks at misses no change. -/
theorem Consistent.step (reacts : ∀ s c, Fit s → Fit (react s c) ∧ Agrees c (react s c)) {w w' : Watched C S}
    {e : Event C S} (consistent : Consistent Fit Agrees w) (loads : Loads Fit Agrees w e)
    (stepped : step react w e = some w') : Consistent Fit Agrees w' := by
  cases e with
  | write value =>
    cases stepped
    by_cases on : w.phase = .on
    · rw [if_pos on]
      have not_off : w.phase ≠ .off := by simp [on]
      exact ⟨consistent.fit, by simp [Watched.Quiet], fun off => absurd off not_off, fun off => absurd off not_off⟩
    · rw [if_neg on]
      exact ⟨consistent.fit, fun on' => absurd on' on, by simp, consistent.idle⟩
  | load reader =>
    simp only [Notify.step] at stepped
    split at stepped
    · rename_i off
      cases stepped
      have not_on : w.phase ≠ .on := by simp [off]
      exact ⟨fun on => absurd on not_on, fun on => absurd on not_on, fun _ _ => loads.2, consistent.idle⟩
    · cases stepped
  | start =>
    simp only [Notify.step] at stepped
    split at stepped
    · rename_i off
      cases stepped
      exact ⟨fun _ => loads, fun _ quiet => consistent.fresh off quiet.2.2, by simp, by simp⟩
    · cases stepped
  | collect touches =>
    simp only [Notify.step] at stepped
    split at stepped
    · rename_i idle
      cases stepped
      have not_off : w.phase ≠ .off := by simp [idle.1]
      refine ⟨consistent.fit, fun _ quiet => ?_, fun off => absurd off not_off, fun off => absurd off not_off⟩
      obtain ⟨seen, other, looked⟩ := quiet
      have untouched : touches = false := by simpa using other
      have unseen : w.unseen = false := by simpa [untouched] using seen
      exact consistent.quiet idle.1 ⟨unseen, by simp [idle.2], looked⟩
    · cases stepped
  | deliver =>
    simp only [Notify.step] at stepped
    split at stepped
    · rename_i touches on given
      cases stepped
      have fit := consistent.fit on
      have not_off : w.phase ≠ .off := by simp [on]
      cases touches with
      | true =>
        obtain ⟨fit, agrees⟩ := reacts w.reader w.value fit
        exact ⟨fun _ => fit, fun _ _ => agrees, fun off => absurd off not_off, fun off => absurd off not_off⟩
      | false =>
        refine ⟨fun _ => fit, fun _ quiet => ?_, fun off => absurd off not_off, fun off => absurd off not_off⟩
        exact consistent.quiet on ⟨quiet.1, by simp [given], quiet.2.2⟩
    · cases stepped
  | stop =>
    cases stepped
    exact ⟨by simp, by simp, by simp, by simp⟩

/-! ## What a step leaves as it is -/

section Frame

variable {w w' : Watched C S}

/-- The reader stays, unless it looks at the value. -/
theorem reader_step {e : Event C S} (stepped : step react w e = some w') (loads : ∀ reader, e ≠ .load reader) :
    w'.reader = w.reader ∨ w.phase = .on ∧ w'.reader = react w.reader w.value := by
  cases e with
  | write value =>
    cases stepped
    left
    split <;> rfl
  | load reader => exact absurd rfl (loads reader)
  | start =>
    simp only [Notify.step] at stepped
    split at stepped <;> cases stepped
    exact .inl rfl
  | collect touches =>
    simp only [Notify.step] at stepped
    split at stepped <;> cases stepped
    exact .inl rfl
  | deliver =>
    simp only [Notify.step] at stepped
    split at stepped
    · rename_i touches on given
      cases stepped
      cases touches with
      | true => exact .inr ⟨on, rfl⟩
      | false => exact .inl rfl
    · cases stepped
  | stop =>
    cases stepped
    exact .inl rfl

/-- Before the watch starts, only whoever looks at the value sets the reader. -/
theorem off_step {e : Event C S} (off : w.phase = .off) (stepped : step react w e = some w')
    (loads : ∀ reader, e ≠ .load reader) (starts : e ≠ .start) (stops : e ≠ .stop) :
    w'.reader = w.reader ∧ w'.phase = .off := by
  cases e with
  | write value =>
    cases stepped
    split <;> exact ⟨rfl, off⟩
  | load reader => exact absurd rfl (loads reader)
  | start => exact absurd rfl starts
  | stop => exact absurd rfl stops
  | collect touches => simp [Notify.step, off] at stepped
  | deliver => simp [Notify.step, off] at stepped

/-- A watch that was stopped stays so, and the reader with it. -/
theorem stopped_step {e : Event C S} (halted : w.phase = .stopped) (stepped : step react w e = some w') :
    w'.phase = .stopped ∧ w'.reader = w.reader := by
  cases e with
  | write value =>
    cases stepped
    split <;> exact ⟨halted, rfl⟩
  | stop =>
    cases stepped
    exact ⟨rfl, rfl⟩
  | _ => simp [Notify.step, halted] at stepped

end Frame

end Notify
