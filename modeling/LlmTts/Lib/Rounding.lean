import LlmTts.Lib.FloatRead

/-!
# Rounding fractions, one by one and together

Fractions over one denominator are rounded half to even. Each leaves a signed
rest; whether the sum of the rounded fractions is the rounded sum depends on the
sum of the rests.
-/

namespace Python

/-- `m / unit` is rounded half to even to the integer below. -/
def RoundsDown (unit m : Int) : Prop :=
  2 * (m % unit) < unit ∨ 2 * (m % unit) = unit ∧ m / unit % 2 = 0

instance (unit m : Int) : Decidable (RoundsDown unit m) := inferInstanceAs (Decidable (_ ∨ _))

/-- What is left of `m` when `m / unit` is rounded; it is negative when the fraction is
rounded up. -/
def restHalfEven (unit m : Int) : Int := if RoundsDown unit m then m % unit else m % unit - unit

section Rounding

variable {unit : Int}

theorem floor_div (positive : 0 < unit) (m : Int) : ((m : ℚ) / unit).floor = m / unit := by
  have unit' : (0 : ℚ) < unit := by exact_mod_cast positive
  have whole := Int.mul_ediv_add_emod m unit
  have low := Int.emod_nonneg m (by omega : unit ≠ 0)
  have high := Int.emod_lt_of_pos m positive
  apply PyFloat.floor_eq
  · have least : m / unit * unit ≤ m := by rw [Int.mul_comm]; omega
    rw [le_div_iff₀ unit']
    exact_mod_cast least
  · have next : m < (m / unit + 1) * unit := by rw [Int.add_mul, Int.one_mul, Int.mul_comm]; omega
    rw [div_lt_iff₀ unit']
    exact_mod_cast next

/-- Rounding a fraction of integers, without fractions. -/
theorem roundHalfEven_div (positive : 0 < unit) (m : Int) :
    roundHalfEven (m / unit) = if RoundsDown unit m then m / unit else m / unit + 1 := by
  have unit' : (0 : ℚ) < unit := by exact_mod_cast positive
  have whole := Int.mul_ediv_add_emod m unit
  have fraction : (m : ℚ) / unit - (m / unit : Int) = (m % unit : Int) / unit := by
    rw [eq_div_iff unit'.ne', sub_mul, div_mul_cancel₀ _ unit'.ne', sub_eq_iff_eq_add', mul_comm]
    exact_mod_cast whole.symm
  have below : (m : ℚ) / unit - (m / unit : Int) < 1 / 2 ↔ 2 * (m % unit) < unit := by
    rw [fraction, div_lt_iff₀ unit', div_mul_eq_mul_div, lt_div_iff₀ (by norm_num), one_mul, mul_comm]
    exact_mod_cast Iff.rfl
  have above : 1 / 2 < (m : ℚ) / unit - (m / unit : Int) ↔ unit < 2 * (m % unit) := by
    rw [fraction, lt_div_iff₀ unit', div_mul_eq_mul_div, div_lt_iff₀ (by norm_num), one_mul, mul_comm]
    exact_mod_cast Iff.rfl
  unfold roundHalfEven RoundsDown
  dsimp only
  rw [floor_div positive]
  simp only [below, above]
  split_ifs <;> omega

/-- The rounded fraction and its rest make the number up. -/
theorem roundHalfEven_rest (positive : 0 < unit) (m : Int) :
    roundHalfEven (m / unit) * unit = m - restHalfEven unit m := by
  have down : m / unit * unit = m - m % unit := by
    have whole := Int.mul_ediv_add_emod m unit
    rw [Int.mul_comm]
    omega
  rw [roundHalfEven_div positive, restHalfEven]
  split_ifs
  · exact down
  · rw [Int.add_mul, Int.one_mul]
    omega

/-- Rounding gives the one integer within half a unit, the even one of two. -/
theorem roundHalfEven_div_eq_iff (positive : 0 < unit) {m k : Int} :
    roundHalfEven (m / unit) = k ↔ 2 * |m - k * unit| < unit ∨ 2 * |m - k * unit| = unit ∧ k % 2 = 0 := by
  have whole := Int.mul_ediv_add_emod m unit
  have low := Int.emod_nonneg m (by omega : unit ≠ 0)
  have high := Int.emod_lt_of_pos m positive
  have apart : m - k * unit = (m / unit - k) * unit + m % unit := by
    rw [Int.sub_mul, Int.mul_comm (m / unit)]
    omega
  rw [roundHalfEven_div positive, apart]
  unfold RoundsDown
  rcases lt_trichotomy k (m / unit) with less | rfl | more
  · -- further below than a unit
    have far : unit ≤ (m / unit - k) * unit := le_mul_of_one_le_left positive.le (by omega)
    rw [abs_of_nonneg (by omega)]
    split_ifs <;> omega
  · rw [Int.sub_self, Int.zero_mul, Int.zero_add, abs_of_nonneg low]
    split_ifs <;> omega
  · rcases Int.le_iff_lt_or_eq.1 (Int.add_one_le_of_lt more) with far | rfl
    · have far : 2 * unit ≤ (k - m / unit) * unit := mul_le_mul_of_nonneg_right (by omega) positive.le
      have flip : (m / unit - k) * unit = -((k - m / unit) * unit) := by
        rw [← Int.neg_mul, Int.neg_sub]
      rw [flip, abs_of_nonpos (by omega)]
      split_ifs <;> omega
    · have one : m / unit - (m / unit + 1) = -1 := by omega
      rw [one, Int.neg_mul, Int.one_mul, abs_of_nonpos (by omega)]
      split_ifs <;> omega

/-- The sum of the rests is what the sum of the rounded fractions leaves of the sum. -/
theorem sum_roundHalfEven (positive : 0 < unit) (ms : List Int) :
    (ms.map fun m : Int => roundHalfEven (m / unit)).sum * unit =
      ms.sum - (ms.map (restHalfEven unit)).sum := by
  induction ms with
  | nil => simp
  | cons m ms ih =>
    have first := roundHalfEven_rest positive m
    simp only [List.map_cons, List.sum_cons, Int.add_mul]
    omega

/-- **Rounding before adding.** Rounding every fraction and adding gives the rounded
sum exactly if the rests add up to less than half a unit, or to half a unit when the
sum of the rounded fractions is even. -/
theorem sum_roundHalfEven_eq_iff (positive : 0 < unit) (ms : List Int) :
    roundHalfEven (ms.sum / unit) = (ms.map fun m : Int => roundHalfEven (m / unit)).sum ↔
      2 * |(ms.map (restHalfEven unit)).sum| < unit ∨
        2 * |(ms.map (restHalfEven unit)).sum| = unit ∧
          (ms.sum - (ms.map (restHalfEven unit)).sum) / unit % 2 = 0 := by
  have total := sum_roundHalfEven positive ms
  have rests : ms.sum - (ms.map fun m : Int => roundHalfEven (m / unit)).sum * unit =
      (ms.map (restHalfEven unit)).sum := by omega
  rw [roundHalfEven_div_eq_iff positive, rests, ← total, Int.mul_ediv_cancel _ (by omega)]

end Rounding

end Python
