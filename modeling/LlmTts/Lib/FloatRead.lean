import LlmTts.Lib.FloatText
import Mathlib.Algebra.Order.Field.Basic
import Mathlib.Algebra.Order.Field.Power
import Mathlib.Tactic.Linarith
import Mathlib.Tactic.Ring
import Mathlib.Tactic.FieldSimp
import Mathlib.Tactic.NormNum

/-!
# Reading floats back

`float(text)` rounds the number a text denotes to the nearest double. The text of a
double has as many digits as it takes to be read back, and 17 are enough:
`nearest_shortest`.
-/

namespace Python
namespace PyFloat

/-! ## Powers and leading digits -/

theorem power_eq (base : Nat) (e : Int) : power base e = (base : ℚ) ^ e := by
  unfold power
  split
  · rename_i nonneg
    obtain ⟨n, rfl⟩ := Int.eq_ofNat_of_zero_le nonneg
    simp
  · rename_i negative
    obtain ⟨n, same⟩ : ∃ n : Nat, e = -(n : Int) := ⟨(-e).toNat, by omega⟩
    subst same
    rw [neg_neg, Int.toNat_natCast, zpow_neg, zpow_natCast, Rat.mkRat_eq_div]
    push_cast
    rw [one_div]

/-- Two powers with the same number between them and the next ones are the same. -/
theorem exponent_unique {base : ℚ} (large : 1 < base) {q : ℚ} {e f : Int} (le : base ^ e ≤ q)
    (lt : q < base ^ (e + 1)) (le' : base ^ f ≤ q) (lt' : q < base ^ (f + 1)) : e = f := by
  have one := (zpow_lt_zpow_iff_right₀ large).1 (lt_of_le_of_lt le lt')
  have two := (zpow_lt_zpow_iff_right₀ large).1 (lt_of_le_of_lt le' lt)
  omega

/-- The quotient of two numbers with that many digits. -/
theorem quotient_bounds {base : Nat} (large : 1 < base) {n d : Nat} (num : 0 < n) (den : 0 < d) :
    (base : ℚ) ^ ((Nat.log base n : Int) - Nat.log base d - 1) < (n : ℚ) / d ∧
      (n : ℚ) / d < (base : ℚ) ^ ((Nat.log base n : Int) - Nat.log base d + 1) := by
  have pos : (0 : ℚ) < base := by exact_mod_cast Nat.lt_of_lt_of_le Nat.one_pos large.le
  have numLow : (base : ℚ) ^ Nat.log base n ≤ n := by exact_mod_cast Nat.pow_log_le_self base num.ne'
  have numHigh : (n : ℚ) < (base : ℚ) ^ (Nat.log base n + 1) := by exact_mod_cast Nat.lt_pow_succ_log_self large n
  have denLow : (base : ℚ) ^ Nat.log base d ≤ d := by exact_mod_cast Nat.pow_log_le_self base den.ne'
  have denHigh : (d : ℚ) < (base : ℚ) ^ (Nat.log base d + 1) := by exact_mod_cast Nat.lt_pow_succ_log_self large d
  have denPos : (0 : ℚ) < d := by exact_mod_cast den
  constructor
  · rw [lt_div_iff₀ denPos]
    calc (base : ℚ) ^ ((Nat.log base n : Int) - Nat.log base d - 1) * d
        < (base : ℚ) ^ ((Nat.log base n : Int) - Nat.log base d - 1) * (base : ℚ) ^ (Nat.log base d + 1) :=
          mul_lt_mul_of_pos_left denHigh (zpow_pos pos _)
      _ = (base : ℚ) ^ Nat.log base n := by
          rw [← zpow_natCast, ← zpow_natCast, ← zpow_add₀ pos.ne']
          congr 1
          push_cast
          omega
      _ ≤ n := numLow
  · rw [div_lt_iff₀ denPos]
    calc (n : ℚ) < (base : ℚ) ^ (Nat.log base n + 1) := numHigh
      _ = (base : ℚ) ^ ((Nat.log base n : Int) - Nat.log base d + 1) * (base : ℚ) ^ Nat.log base d := by
          rw [← zpow_natCast, ← zpow_natCast, ← zpow_add₀ pos.ne']
          congr 1
          push_cast
          omega
      _ ≤ (base : ℚ) ^ ((Nat.log base n : Int) - Nat.log base d + 1) * d :=
          mul_le_mul_of_nonneg_left denLow (zpow_pos pos _).le

/-- The leading digit of a positive number. -/
theorem leading_spec {base : Nat} (large : 1 < base) {q : ℚ} (pos : 0 < q) :
    (base : ℚ) ^ leading base q ≤ q ∧ q < (base : ℚ) ^ (leading base q + 1) := by
  have num : 0 < q.num := Rat.num_pos.2 pos
  have whole : ((q.num.natAbs : Nat) : ℚ) / q.den = q := by
    have cast : ((q.num.natAbs : Nat) : ℚ) = q.num := by
      rw [← Int.cast_natCast, Int.natAbs_of_nonneg num.le]
    rw [cast, Rat.num_div_den]
  obtain ⟨low, high⟩ := quotient_bounds large (Int.natAbs_pos.2 num.ne') q.den_pos
  rw [whole] at low high
  unfold leading
  dsimp only
  rw [power_eq]
  split
  · rename_i le
    exact ⟨le, high⟩
  · rename_i lt
    refine ⟨low.le, ?_⟩
    rw [Int.sub_add_cancel]
    exact not_le.1 lt

theorem leading_eq {base : Nat} (large : 1 < base) {q : ℚ} (pos : 0 < q) {e : Int} (le : (base : ℚ) ^ e ≤ q)
    (lt : q < (base : ℚ) ^ (e + 1)) : leading base q = e := by
  obtain ⟨le', lt'⟩ := leading_spec large pos
  exact exponent_unique (by exact_mod_cast large) le' lt' le lt

/-! ## Rounding -/

theorem floor_eq {y : ℚ} {z : Int} (le : (z : ℚ) ≤ y) (lt : y < z + 1) : y.floor = z := by
  have low := Rat.le_floor_iff.2 le
  have high := Rat.floor_lt_iff.2 (show y < ((z + 1 : Int) : ℚ) by push_cast; exact lt)
  omega

/-- A number closer than one half to an integer is rounded to it. -/
theorem roundHalfEven_of_close {y : ℚ} {z : Int} (close : |y - z| < 1 / 2) : roundHalfEven y = z := by
  obtain ⟨low, high⟩ := abs_lt.1 close
  unfold roundHalfEven
  by_cases above : (z : ℚ) ≤ y
  · have floor : y.floor = z := floor_eq above (by linarith)
    dsimp only
    rw [floor, if_pos high]
  · have floor : y.floor = z - 1 := floor_eq (by push_cast; linarith) (by push_cast; linarith)
    dsimp only
    rw [floor, if_neg (by push_cast; linarith), if_pos (by push_cast; linarith)]
    omega

theorem roundHalfEven_floor (y : ℚ) : roundHalfEven y = y.floor ∨ roundHalfEven y = y.floor + 1 := by
  unfold roundHalfEven
  dsimp only
  split_ifs <;> simp

/-! ## Doubles -/

/-- The distance of the doubles next to a positive number. -/
def unit (q : ℚ) : ℚ := power 2 (max (leading 2 q - 52) (-1074))

theorem nearest_eq (q : ℚ) : nearest q = roundHalfEven (q / unit q) * unit q := rfl

@[simp] theorem nearest_zero : nearest 0 = 0 := by
  have zero : roundHalfEven 0 = 0 := by decide +kernel
  rw [nearest_eq, zero_div, zero, Int.cast_zero, zero_mul]

theorem unit_eq (q : ℚ) : unit q = (2 : ℚ) ^ max (leading 2 q - 52) (-1074) := by
  unfold unit
  rw [power_eq]
  rfl

/-- A multiple of the unit closer than half of it. -/
theorem nearest_of_close {x q : ℚ} {z : Int} (multiple : q = z * unit x) (close : |x - q| < unit x / 2) :
    nearest x = q := by
  have pos : 0 < unit x := by rw [unit_eq]; exact zpow_pos two_pos _
  rw [nearest_eq, multiple]
  congr 2
  apply roundHalfEven_of_close
  have scaled : x / unit x - z = (x - q) / unit x := by
    rw [multiple]
    field_simp
  rw [scaled, abs_div, abs_of_pos pos, div_lt_iff₀ pos]
  linarith

/-- The positive doubles below infinity. -/
structure Double (q : ℚ) : Prop where
  pos : 0 < q
  nearest : nearest q = q
  bounded : q < 2 ^ maxExponent

instance (q : ℚ) : Decidable (Double q) :=
  decidable_of_iff (0 < q ∧ PyFloat.nearest q = q ∧ q < 2 ^ maxExponent)
    ⟨fun ⟨pos, nearest, bounded⟩ => ⟨pos, nearest, bounded⟩, fun ⟨pos, nearest, bounded⟩ => ⟨pos, nearest, bounded⟩⟩

theorem power_multiple {k e : Int} (le : k ≤ e) : ∃ w : Int, (2 : ℚ) ^ e = w * (2 : ℚ) ^ k := by
  refine ⟨2 ^ (e - k).toNat, ?_⟩
  push_cast
  rw [← zpow_natCast, ← zpow_add₀ two_ne_zero]
  congr 1
  omega

theorem unit_pos (q : ℚ) : 0 < unit q := by
  rw [unit_eq]
  exact zpow_pos two_pos _

/-- The unit is at least the last of 53 bits. -/
theorem unit_low {q : ℚ} {e : Int} (leads : leading 2 q = e) : (2 : ℚ) ^ e / 2 ^ 52 ≤ unit q := by
  have split : (2 : ℚ) ^ e / 2 ^ 52 = (2 : ℚ) ^ (e - 52) := by
    rw [zpow_sub₀ two_ne_zero]
    norm_cast
  rw [split, unit_eq, leads]
  exact zpow_le_zpow_right₀ one_le_two (le_max_left _ _)

/-- A number within half a unit of the seventeenth digit of a double is rounded to it. -/
theorem Double.nearest_of_near {q x : ℚ} (double : Double q) (near : |x - q| ≤ q / (2 * 10 ^ 16)) :
    PyFloat.nearest x = q := by
  obtain ⟨pos, fixed, -⟩ := double
  obtain ⟨le, lt⟩ := leading_spec one_lt_two pos
  generalize exponent : leading 2 q = e at le lt
  have unitPos := unit_pos q
  have unitLow := unit_low exponent
  obtain ⟨z, multiple⟩ : ∃ z : Int, q = z * unit q := ⟨_, (fixed.symm.trans (nearest_eq q))⟩
  have bottom : (0 : ℚ) < (2 : ℚ) ^ e := zpow_pos two_pos e
  have top : (2 : ℚ) ^ (e + 1) = 2 * (2 : ℚ) ^ e := by rw [zpow_add_one₀ two_ne_zero, mul_comm]
  obtain ⟨low, high⟩ := abs_le.1 near
  push_cast at le lt
  have unitAtMost : unit q ≤ q := by
    have positive : 0 < z := by
      by_contra negative
      have nonpos : (z : ℚ) ≤ 0 := by exact_mod_cast not_lt.1 negative
      nlinarith
    have one : (1 : ℚ) ≤ z := by exact_mod_cast positive
    nlinarith
  have unitExponent : max (e - 52) (-1074) ≤ e := by
    have less := lt_of_le_of_lt unitAtMost lt
    rw [unit_eq, exponent] at less
    have := (zpow_lt_zpow_iff_right₀ one_lt_two).1 less
    omega
  rw [top] at lt
  -- two multiples of the unit of which one is less than the other differ by the unit
  have apart : ∀ {a b : Int}, (a : ℚ) * unit q < b * unit q → a * unit q + unit q ≤ b * unit q := by
    intro a b less
    have integers : a < b := by exact_mod_cast lt_of_mul_lt_mul_right less unitPos.le
    have next : ((a + 1 : Int) : ℚ) ≤ b := by exact_mod_cast integers
    push_cast at next
    nlinarith
  have below : x < 2 * (2 : ℚ) ^ e := by
    by_contra above
    obtain ⟨w, power⟩ := power_multiple (le_trans unitExponent (Int.le_of_lt (lt_add_one e)))
    rw [← exponent, ← unit_eq, exponent, top] at power
    have gap := apart (a := z) (b := w) (by rw [← multiple, ← power]; exact lt)
    rw [← multiple, ← power] at gap
    linarith
  by_cases same : (2 : ℚ) ^ e ≤ x
  · have leads : leading 2 x = e := leading_eq one_lt_two (lt_of_lt_of_le bottom same) same (by push_cast; linarith)
    have unitSame : unit x = unit q := by rw [unit_eq, unit_eq, leads, exponent]
    refine nearest_of_close (z := z) (by rw [unitSame]; exact multiple) ?_
    rw [unitSame, abs_lt]
    constructor <;> linarith
  · -- the number is a power of two, below which the doubles are closer
    have isPower : q = (2 : ℚ) ^ e := by
      obtain ⟨w, power⟩ := power_multiple unitExponent
      rw [← exponent, ← unit_eq, exponent] at power
      by_contra other
      have less : (w : ℚ) * unit q < z * unit q := by
        rw [← multiple, ← power]
        exact lt_of_le_of_ne le (Ne.symm other)
      have gap := apart less
      rw [← multiple, ← power] at gap
      linarith
    have half : (2 : ℚ) ^ (e - 1) = (2 : ℚ) ^ e / 2 := by rw [zpow_sub_one₀ two_ne_zero, div_eq_mul_inv]
    have leads : leading 2 x = e - 1 := by
      refine leading_eq one_lt_two (by linarith) ?_ ?_
      · push_cast
        linarith
      · rw [Int.sub_add_cancel]
        push_cast
        linarith
    have unitBelow := unit_low leads
    rw [half] at unitBelow
    obtain ⟨w, power⟩ := power_multiple (k := max (e - 1 - 52) (-1074)) (e := e) (by omega)
    refine nearest_of_close (z := w) (by rw [isPower, power, unit_eq, leads]) ?_
    rw [abs_lt]
    constructor <;> linarith

/-! ## The shortest digits -/

theorem decimal_spec {q : ℚ} (pos : 0 < q) {n m : Nat} {scale : Int} (found : decimal q n = some (m, scale)) :
    nearest (m * power 10 scale) = q := by
  have nonneg : 0 ≤ (q / power 10 (leading 10 q - n)).floor := by
    rw [Rat.le_floor_iff, power_eq]
    exact (div_pos pos (zpow_pos (by norm_num) _)).le
  unfold decimal at found
  dsimp only at found
  split at found
  · rename_i both
    cases found
    obtain ⟨down, up⟩ := Bool.and_eq_true_iff.1 both
    rcases roundHalfEven_floor (q / power 10 (leading 10 q - n)) with same | same
    · rw [same]
      exact of_decide_eq_true down
    · rw [same, Int.toNat_add nonneg (by decide)]
      exact of_decide_eq_true up
  · split at found
    · rename_i down
      cases found
      exact of_decide_eq_true down
    · split at found
      · rename_i up
        cases found
        exact of_decide_eq_true up
      · cases found

/-- With 17 digits one of the two candidates is read back. -/
theorem decimal_isSome {q : ℚ} (double : Double q) : (decimal q 16).isSome := by
  have pos := double.pos
  obtain ⟨le, -⟩ := leading_spec (by decide : 1 < 10) pos
  unfold decimal
  dsimp only
  have unitLe : power 10 (leading 10 q - (16 : Nat)) ≤ q / 10 ^ 16 := by
    have split : ((10 : Nat) : ℚ) ^ (leading 10 q - (16 : Nat)) = ((10 : Nat) : ℚ) ^ leading 10 q / 10 ^ 16 := by
      rw [zpow_sub₀ (by norm_num), zpow_natCast]
      norm_cast
    rw [power_eq, split]
    exact div_le_div_of_nonneg_right le (by norm_num)
  have unitPos : 0 < power 10 (leading 10 q - (16 : Nat)) := by
    rw [power_eq]
    exact zpow_pos (by norm_num) _
  generalize power 10 (leading 10 q - (16 : Nat)) = t at unitLe unitPos
  have whole : q / t * t = q := div_mul_cancel₀ q unitPos.ne'
  have below : ((q / t).floor : ℚ) ≤ q / t := Rat.le_floor_iff.1 le_rfl
  have above : q / t < (q / t).floor + 1 := by
    have next := Rat.floor_lt_iff.1 (Int.lt_succ (q / t).floor)
    push_cast at next
    exact next
  have nonneg : 0 ≤ (q / t).floor := Rat.le_floor_iff.2 (div_pos pos unitPos).le
  have cast : (((q / t).floor.toNat : Nat) : ℚ) = (q / t).floor := by
    rw [← Int.cast_natCast, Int.toNat_of_nonneg nonneg]
  generalize q / t = y at whole below above cast
  have either : nearest ((y.floor.toNat : Nat) * t) = q ∨ nearest ((y.floor.toNat + 1 : Nat) * t) = q := by
    by_cases lower : y - y.floor ≤ 1 / 2
    · left
      apply double.nearest_of_near
      rw [cast, abs_le]
      constructor <;> nlinarith
    · right
      apply double.nearest_of_near
      push_cast
      rw [cast, abs_le]
      constructor <;> nlinarith
  rcases either with down | up
  · simp only [down, decide_true, Bool.true_and]
    split <;> rfl
  · simp only [up, decide_true, Bool.and_true]
    split
    · rfl
    · rw [if_pos trivial]
      rfl

/-- The digits of the text of a double are read back. -/
theorem nearest_shortest {q : ℚ} (double : Double q) :
    nearest ((shortest q).1 * power 10 (shortest q).2) = q := by
  have found : ((List.range 17).findSome? (decimal q)).isSome :=
    List.findSome?_isSome_iff.2 ⟨16, by decide, decimal_isSome double⟩
  obtain ⟨⟨m, scale⟩, first⟩ := Option.isSome_iff_exists.1 found
  obtain ⟨n, -, here⟩ := List.exists_of_findSome?_eq_some first
  unfold shortest
  rw [first]
  exact decimal_spec double.pos here

end PyFloat
end Python
