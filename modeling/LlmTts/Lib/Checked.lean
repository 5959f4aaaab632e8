import Mathlib.Data.List.Forall2

/-!
# Computations that can raise

`Except` as the monad of code that raises: when a sequence of steps, or a step on
every element of a list, returns a value.
-/

namespace Checked

variable {ε α β : Type}

/-- A sequence succeeds if both steps do. -/
theorem bind_ok_iff {x : Except ε α} {f : α → Except ε β} {b : β} :
    (x >>= f) = .ok b ↔ ∃ a, x = .ok a ∧ f a = .ok b := by
  cases x <;> simp [bind, Except.bind]

/-- It fails at its first failure. -/
theorem bind_error_iff {x : Except ε α} {f : α → Except ε β} {e : ε} :
    (x >>= f) = .error e ↔ x = .error e ∨ ∃ a, x = .ok a ∧ f a = .error e := by
  cases x <;> simp [bind, Except.bind]

/-- A value behind a check. -/
theorem guarded_ok_iff {check : Except ε Unit} {a b : α} :
    (check >>= fun _ => (pure a : Except ε α)) = .ok b ↔ check = .ok () ∧ a = b := by
  cases check <;> simp [bind, Except.bind, pure, Except.pure]

theorem map_ok_iff {f : α → β} {x : Except ε α} {b : β} : x.map f = .ok b ↔ ∃ a, x = .ok a ∧ f a = b := by
  cases x <;> simp [Except.map]

theorem map_error_iff {f : α → β} {x : Except ε α} {e : ε} : x.map f = .error e ↔ x = .error e := by
  cases x <;> simp [Except.map]

theorem mapError_ok_iff {ε' : Type} {f : ε → ε'} {x : Except ε α} {a : α} : x.mapError f = .ok a ↔ x = .ok a := by
  cases x <;> simp [Except.mapError]

theorem mapError_error_iff {ε' : Type} {f : ε → ε'} {x : Except ε α} {e : ε'} :
    x.mapError f = .error e ↔ ∃ e', x = .error e' ∧ f e' = e := by
  cases x <;> simp [Except.mapError]

/-- A list succeeds if each of its elements does. -/
theorem mapM_ok_iff {f : α → Except ε β} {xs : List α} {ys : List β} :
    xs.mapM f = .ok ys ↔ List.Forall₂ (fun x y => f x = .ok y) xs ys := by
  induction xs generalizing ys with
  | nil => cases ys <;> simp [pure, Except.pure]
  | cons x xs ih =>
    rw [List.mapM_cons, bind_ok_iff]
    constructor
    · rintro ⟨y, first, rest⟩
      obtain ⟨ys', others, same⟩ := bind_ok_iff.1 rest
      cases same
      exact .cons first (ih.1 others)
    · rintro (_ | ⟨first, others⟩)
      exact ⟨_, first, bind_ok_iff.2 ⟨_, ih.2 others, rfl⟩⟩

/-- Each on the left has one on the right. -/
theorem exists_of_mem_left {R : α → β → Prop} {xs : List α} {ys : List β} (each : List.Forall₂ R xs ys)
    {x : α} (member : x ∈ xs) : ∃ y ∈ ys, R x y := by
  induction each with
  | nil => cases member
  | cons here _ ih =>
    rcases List.mem_cons.1 member with rfl | member
    · exact ⟨_, List.mem_cons_self, here⟩
    · obtain ⟨y, there, related⟩ := ih member
      exact ⟨y, List.mem_cons_of_mem _ there, related⟩

/-- A second step that follows the first on every element follows it on the list. -/
theorem mapM_follows {γ : Type} {f : α → Except ε β} {ε' : Type} {g : α → Except ε' γ} {R : β → γ → Prop}
    {xs : List α} {ys : List β} (each : List.Forall₂ (fun x y => f x = .ok y) xs ys)
    (follows : ∀ x y, f x = .ok y → ∃ z, g x = .ok z ∧ R y z) :
    ∃ zs, xs.mapM g = .ok zs ∧ List.Forall₂ R ys zs := by
  induction each with
  | nil => exact ⟨[], rfl, .nil⟩
  | cons here _ ih =>
    obtain ⟨z, first, related⟩ := follows _ _ here
    obtain ⟨zs, rest, others⟩ := ih
    refine ⟨z :: zs, mapM_ok_iff.2 (.cons first (mapM_ok_iff.1 rest)), .cons related others⟩

/-- Each on the right has one on the left. -/
theorem exists_of_mem_right {R : α → β → Prop} {xs : List α} {ys : List β} (each : List.Forall₂ R xs ys)
    {y : β} (member : y ∈ ys) : ∃ x ∈ xs, R x y :=
  exists_of_mem_left (R := flip R) each.flip member

/-! ## Where a loop stops -/

section Reaches

variable {good bad : α → Prop} {x : α} {xs : List α}

/-- An element is bad and those before it are good: a loop over the list comes to it. -/
def Reaches (good bad : α → Prop) (xs : List α) : Prop :=
  ∃ front x back, xs = front ++ x :: back ∧ (∀ y ∈ front, good y) ∧ bad x

theorem not_reaches_nil : ¬Reaches good bad [] := by
  rintro ⟨front, x, back, same, -⟩
  exact List.append_ne_nil_of_right_ne_nil front (List.cons_ne_nil x back) same.symm

theorem reaches_cons : Reaches good bad (x :: xs) ↔ bad x ∨ good x ∧ Reaches good bad xs := by
  constructor
  · rintro ⟨front, y, back, same, before, here⟩
    cases front with
    | nil =>
      cases same
      exact .inl here
    | cons z front =>
      cases same
      obtain ⟨first, others⟩ := List.forall_mem_cons.1 before
      exact .inr ⟨first, front, y, back, rfl, others, here⟩
  · rintro (here | ⟨first, front, y, back, rfl, others, here⟩)
    · exact ⟨[], x, xs, rfl, List.forall_mem_nil _, here⟩
    · exact ⟨x :: front, y, back, rfl, List.forall_mem_cons.2 ⟨first, others⟩, here⟩

/-- The loops over two lists stop at the same place. -/
theorem reaches_congr {good' bad' : β → Prop} {R : α → β → Prop} {ys : List β} (each : List.Forall₂ R xs ys)
    (goods : ∀ x y, R x y → (good x ↔ good' y)) (bads : ∀ x y, R x y → (bad x ↔ bad' y)) :
    Reaches good bad xs ↔ Reaches good' bad' ys := by
  induction each with
  | nil => exact iff_of_false not_reaches_nil not_reaches_nil
  | cons here _ ih => rw [reaches_cons, reaches_cons, goods _ _ here, bads _ _ here, ih]

/-- A step on every element raises what the first step that fails raises. -/
theorem mapM_error_iff {f : α → Except ε β} {e : ε} :
    xs.mapM f = .error e ↔ Reaches (fun x => ∃ y, f x = .ok y) (fun x => f x = .error e) xs := by
  induction xs with
  | nil =>
    apply iff_of_false _ not_reaches_nil
    intro raised
    cases raised
  | cons x xs ih =>
    rw [List.mapM_cons, bind_error_iff, reaches_cons, ← ih]
    apply or_congr_right
    constructor
    · rintro ⟨y, first, rest⟩
      rcases bind_error_iff.1 rest with others | ⟨ys, -, built⟩
      · exact ⟨⟨y, first⟩, others⟩
      · cases built
    · rintro ⟨⟨y, first⟩, others⟩
      exact ⟨y, first, bind_error_iff.2 (.inl others)⟩

end Reaches

/-- A loop of checks passes if each of them does. -/
theorem forM_ok_iff {ε α : Type} {f : α → Except ε Unit} {as : List α} :
    as.forM f = .ok () ↔ ∀ a ∈ as, f a = .ok () := by
  induction as with
  | nil => exact iff_of_true rfl nofun
  | cons a as ih =>
    show (f a >>= fun _ => as.forM f) = .ok () ↔ _
    rw [bind_ok_iff, List.forall_mem_cons, ih]
    exact ⟨fun ⟨_, first, rest⟩ => ⟨first, rest⟩, fun ⟨first, rest⟩ => ⟨(), first, rest⟩⟩

end Checked
