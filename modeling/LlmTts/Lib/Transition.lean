import Mathlib.Data.List.Basic

/-!
# Runs of a partial step function

A system is a function `step : S → A → Option S`: the state after one action, or
`none` when the action is not enabled. A run is a list of actions, `runs` its
execution from a state. Two rules carry an invariant over runs: `runs_inv` for
an invariant every step keeps, and `guarded_inv` for one that is kept by the
steps that meet a guard on the state before them; `guarded_iff_always` where the
other steps end it.
-/

namespace Transition

variable {S A : Type} (step : S → A → Option S)

/-- The state after `acts` from `s`, if each action is enabled in turn. -/
def runs : S → List A → Option S
  | s, [] => some s
  | s, a :: acts => (step s a).bind fun s' => runs s' acts

/-- The state after `acts` from `s`; `s` itself where some action is not enabled. -/
def final (s : S) (acts : List A) : S := (runs step s acts).getD s

/-- Each step of the run of `acts` from `s` is taken in a state that meets `guard`. -/
def Guarded (guard : S → A → Prop) : S → List A → Prop
  | _, [] => True
  | s, a :: acts => guard s a ∧
    match step s a with
    | some s' => Guarded guard s' acts
    | none => True

/-- How many steps of the run of `acts` from `s` break `guard`. -/
def breaches (guard : S → A → Prop) [∀ s a, Decidable (guard s a)] : S → List A → Nat
  | _, [] => 0
  | s, a :: acts => (if guard s a then 0 else 1) +
    match step s a with
    | some s' => breaches guard s' acts
    | none => 0

variable {step}

instance decidableGuarded {guard : S → A → Prop} [∀ s a, Decidable (guard s a)] :
    (s : S) → (acts : List A) → Decidable (Guarded step guard s acts)
  | _, [] => isTrue trivial
  | s, a :: acts =>
    have : Decidable (match step s a with
        | some s' => Guarded step guard s' acts
        | none => True) :=
      match step s a with
      | some s' => decidableGuarded s' acts
      | none => isTrue trivial
    inferInstanceAs (Decidable (_ ∧ _))

@[simp] theorem runs_nil (s : S) : runs step s [] = some s := rfl

theorem runs_cons_iff {s t : S} {a : A} {acts : List A} :
    runs step s (a :: acts) = some t ↔ ∃ u, step s a = some u ∧ runs step u acts = some t := by
  simp only [runs, Option.bind_eq_some_iff]

theorem runs_append (step : S → A → Option S) (s : S) (front back : List A) :
    runs step s (front ++ back) = (runs step s front).bind fun u => runs step u back := by
  induction front generalizing s with
  | nil => rfl
  | cons a front ih =>
    simp only [List.cons_append, runs, Option.bind_assoc, ih]

theorem runs_final (step : S → A → Option S) (s : S) (acts : List A) (enabled : (runs step s acts).isSome) :
    runs step s acts = some (final step s acts) := by
  obtain ⟨t, run⟩ := Option.isSome_iff_exists.1 enabled
  rw [final, run]
  rfl

/-- A step behind a guard. -/
theorem guarded_some_iff {α : Type} {p : Prop} [Decidable p] {x : Option α} {y : α} :
    (guard p >>= fun _ => x) = some y ↔ p ∧ x = some y := by
  by_cases held : p <;> simp [guard, held]

/-- An invariant that every step keeps holds after every run. -/
theorem runs_inv {I : S → Prop} (kept : ∀ s a t, I s → step s a = some t → I t)
    {s t : S} {acts : List A} (start : I s) (run : runs step s acts = some t) : I t := by
  induction acts generalizing s with
  | nil => cases run; exact start
  | cons a acts ih =>
    obtain ⟨u, first, rest⟩ := runs_cons_iff.1 run
    exact ih (kept s a u start first) rest

/-- An invariant that the guarded steps keep holds after every guarded run. -/
theorem guarded_inv {I : S → Prop} {guard : S → A → Prop}
    (kept : ∀ s a t, I s → guard s a → step s a = some t → I t)
    {s t : S} {acts : List A} (start : I s) (guarded : Guarded step guard s acts)
    (run : runs step s acts = some t) : I t := by
  induction acts generalizing s with
  | nil => cases run; exact start
  | cons a acts ih =>
    obtain ⟨u, first, rest⟩ := runs_cons_iff.1 run
    have after : Guarded step guard u acts := by simpa only [Guarded, first] using guarded.2
    exact ih (kept s a u start guarded.1 first) after rest

/-- A step that breaks the guard leaves a mark, and the mark stays. -/
theorem unguarded_inv {I J : S → Prop} {guard : S → A → Prop}
    (kept : ∀ s a t, I s → step s a = some t → I t)
    (broken : ∀ s a t, I s → ¬guard s a → step s a = some t → J t)
    (stays : ∀ s a t, I s → J s → step s a = some t → J t)
    {s t : S} {acts : List A} (start : I s) (unguarded : ¬Guarded step guard s acts)
    (run : runs step s acts = some t) : J t := by
  induction acts generalizing s with
  | nil => exact absurd trivial unguarded
  | cons a acts ih =>
    obtain ⟨u, first, rest⟩ := runs_cons_iff.1 run
    have next := kept s a u start first
    by_cases held : guard s a
    · refine ih next (fun guarded => unguarded ⟨held, ?_⟩) rest
      simpa only [first] using guarded
    · -- from here on the mark is kept by every step
      have marked := broken s a u start held first
      exact (runs_inv (I := fun s => I s ∧ J s)
        (fun s a t ⟨inv, mark⟩ step => ⟨kept s a t inv step, stays s a t inv mark step⟩)
        ⟨next, marked⟩ rest).2

theorem breaches_eq_zero_iff {guard : S → A → Prop} [∀ s a, Decidable (guard s a)] {s : S} {acts : List A} :
    breaches step guard s acts = 0 ↔ Guarded step guard s acts := by
  induction acts generalizing s with
  | nil => exact iff_of_true rfl trivial
  | cons a acts ih =>
    simp only [breaches, Guarded, Nat.add_eq_zero_iff, ite_eq_left_iff, Nat.one_ne_zero, imp_false, not_not]
    refine and_congr_right fun _ => ?_
    cases step s a with
    | none => exact iff_of_true rfl trivial
    | some s' => exact ih

/-- A measure that only the steps that break the guard raise, each by one, counts them. -/
theorem breaches_inv {I : S → Prop} (guard : S → A → Prop) [∀ s a, Decidable (guard s a)] {m : S → Nat}
    (kept : ∀ s a t, I s → step s a = some t → I t)
    (counts : ∀ s a t, I s → step s a = some t → m t = m s + if guard s a then 0 else 1)
    {s t : S} {acts : List A} (start : I s) (run : runs step s acts = some t) :
    m t = m s + breaches step guard s acts := by
  induction acts generalizing s with
  | nil => cases run; rfl
  | cons a acts ih =>
    obtain ⟨u, first, rest⟩ := runs_cons_iff.1 run
    have here := counts s a u start first
    have after := ih (kept s a u start first) rest
    simp only [breaches, first]
    omega

/-- A guarded run splits into a guarded prefix and the guard at the next step. -/
theorem Guarded.split {guard : S → A → Prop} {s t : S} {a : A} {front back : List A}
    (guarded : Guarded step guard s (front ++ a :: back)) (run : runs step s front = some t) :
    Guarded step guard s front ∧ guard t a := by
  induction front generalizing s with
  | nil => cases run; exact ⟨trivial, guarded.1⟩
  | cons b front ih =>
    obtain ⟨u, first, rest⟩ := runs_cons_iff.1 run
    simp only [List.cons_append, Guarded, first] at guarded ⊢
    obtain ⟨before, next⟩ := ih guarded.2 rest
    exact ⟨⟨guarded.1, before⟩, next⟩

/-- A run is guarded when the guard holds at each of its steps. -/
theorem guarded_iff_forall {guard : S → A → Prop} {s : S} {acts : List A} :
    Guarded step guard s acts ↔
      ∀ front a back t, acts = front ++ a :: back → runs step s front = some t → guard t a := by
  constructor
  · rintro guarded front a back t rfl run
    exact (guarded.split run).2
  · intro always
    induction acts generalizing s with
    | nil => trivial
    | cons a acts ih =>
      refine ⟨always [] a acts s rfl rfl, ?_⟩
      split
      · rename_i u first
        apply ih
        intro front b back t cut run
        exact always (a :: front) b back t (by rw [cut]; rfl) (runs_cons_iff.2 ⟨u, first, run⟩)
      · trivial

/-- Each step of a run is enabled. -/
theorem runs_split {s t : S} {a : A} {front back : List A}
    (run : runs step s (front ++ a :: back) = some t) :
    ∃ u u', runs step s front = some u ∧ step u a = some u' := by
  induction front generalizing s with
  | nil =>
    obtain ⟨u, first, -⟩ := runs_cons_iff.1 run
    exact ⟨s, u, rfl, first⟩
  | cons b front ih =>
    obtain ⟨v, first, rest⟩ := runs_cons_iff.1 run
    obtain ⟨u, u', reached, enabled⟩ := ih rest
    exact ⟨u, u', runs_cons_iff.2 ⟨v, first, reached⟩, enabled⟩

/-- Where a guarded step keeps `I` and any other step ends it, the guarded runs are
those in which `I` holds of every state. `J` is an invariant of all steps. -/
theorem guarded_iff_always {I J : S → Prop} {guard : S → A → Prop}
    (steps : ∀ s a t, J s → step s a = some t → J t)
    (kept : ∀ s a t, J s → I s → guard s a → step s a = some t → I t)
    (ended : ∀ s a t, J s → I s → ¬guard s a → step s a = some t → ¬I t)
    {s t : S} {acts : List A} (inv : J s) (start : I s) (run : runs step s acts = some t) :
    Guarded step guard s acts ↔ ∀ front, front <+: acts → ∀ u, runs step s front = some u → I u := by
  induction acts generalizing s with
  | nil =>
    refine iff_of_true trivial fun front before u reached => ?_
    rw [List.prefix_nil.1 before] at reached
    cases reached
    exact start
  | cons a acts ih =>
    obtain ⟨u, first, rest⟩ := runs_cons_iff.1 run
    have next := steps s a u inv first
    simp only [Guarded, first]
    constructor
    · rintro ⟨held, guarded⟩ front before v reached
      have here := kept s a u inv start held first
      obtain rfl | ⟨front, rfl, shorter⟩ := List.prefix_cons_iff.1 before
      · cases reached
        exact start
      · obtain ⟨w, first', reached⟩ := runs_cons_iff.1 reached
        cases first.symm.trans first'
        exact (ih next here rest).1 guarded front shorter v reached
    · intro always
      have here : I u := always [a] (List.prefix_append [a] acts) u (runs_cons_iff.2 ⟨u, first, rfl⟩)
      have held : guard s a := by
        by_contra broken
        exact ended s a u inv start broken first here
      refine ⟨held, (ih next here rest).2 fun front before v reached => ?_⟩
      exact always (a :: front) (List.cons_prefix_cons.2 ⟨rfl, before⟩) v (runs_cons_iff.2 ⟨u, first, reached⟩)

end Transition
