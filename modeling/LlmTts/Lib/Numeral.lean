import LlmTts.Lib.FloatRead

/-!
# Numerals

The number tokens of JSON and `float` of a text. `scan_positiveText` and `scan_digits`
read the text of a double and the digits of a natural number back.
-/

namespace Python

/-- The digits and the exponent of an unsigned number token. -/
structure Numeral where
  whole : List Char
  fraction : List Char
  exponent : Option Int
  deriving DecidableEq, Repr

namespace Numeral

/-- The digits without the point. -/
def mantissa (numeral : Numeral) : Nat := Nat.ofDigitChars 10 (numeral.whole ++ numeral.fraction) 0

/-- The power of ten of the last digit. -/
def scale (numeral : Numeral) : Int := numeral.exponent.getD 0 - numeral.fraction.length

def value (numeral : Numeral) : ℚ := numeral.mantissa * PyFloat.power 10 numeral.scale

/-- `(0|[1-9]\d*)` -/
def scanWhole : List Char → Option (List Char × List Char)
  | '0' :: rest => some (['0'], rest)
  | cs =>
    let digits := cs.takeWhile Char.isDigit
    if digits = [] then none else some (digits, cs.dropWhile Char.isDigit)

/-- `(\.\d+)?` -/
def scanFraction : List Char → List Char × List Char
  | '.' :: rest =>
    let digits := rest.takeWhile Char.isDigit
    if digits = [] then ([], '.' :: rest) else (digits, rest.dropWhile Char.isDigit)
  | cs => ([], cs)

/-- `[-+]?` -/
def scanSign : List Char → Bool × List Char
  | '-' :: rest => (true, rest)
  | '+' :: rest => (false, rest)
  | cs => (false, cs)

/-- `([eE][-+]?\d+)?` -/
def scanExponent (cs : List Char) : Option Int × List Char :=
  if cs.head? = some 'e' ∨ cs.head? = some 'E' then
    let (negative, body) := scanSign cs.tail
    let digits := body.takeWhile Char.isDigit
    let size : Int := Nat.ofDigitChars 10 digits 0
    if digits = [] then (none, cs) else (some (if negative then -size else size), body.dropWhile Char.isDigit)
  else (none, cs)

/-- The longest number token at the start of a text. -/
def scan (cs : List Char) : Option (Numeral × List Char) := do
  let (whole, rest) ← scanWhole cs
  let (fraction, rest) := scanFraction rest
  let (exponent, rest) := scanExponent rest
  return (⟨whole, fraction, exponent⟩, rest)

/-! ## What ends a token -/

/-- A text that does not go on with a part of a number. -/
def Stops (rest : List Char) : Prop :=
  ∀ c ∈ rest.head?, c.isDigit = false ∧ c ≠ '.' ∧ c ≠ 'e' ∧ c ≠ 'E'

def Digits (cs : List Char) : Prop := ∀ c ∈ cs, c.isDigit = true

variable {digits rest : List Char}

/-- Digits are taken up to what ends them. -/
theorem takeWhile_digits (all : Digits digits) (ends : ∀ c ∈ rest.head?, c.isDigit = false) :
    (digits ++ rest).takeWhile Char.isDigit = digits ∧ (digits ++ rest).dropWhile Char.isDigit = rest := by
  induction digits with
  | nil =>
    cases rest with
    | nil => exact ⟨rfl, rfl⟩
    | cons c rest =>
      have stop := ends c rfl
      simp [stop]
  | cons d digits ih =>
    obtain ⟨here, others⟩ := List.forall_mem_cons.1 all
    obtain ⟨taken, dropped⟩ := ih others
    simp [here, taken, dropped]

theorem stops_nil : Stops [] := by
  intro c first
  cases first

theorem Stops.digit (stops : Stops rest) : ∀ c ∈ rest.head?, c.isDigit = false := fun c first => (stops c first).1

/-- A whole number without a leading zero is scanned. -/
theorem scanWhole_digits (all : Digits digits) (nonempty : digits ≠ []) (leading : digits.head? ≠ some '0')
    (ends : ∀ c ∈ rest.head?, c.isDigit = false) : scanWhole (digits ++ rest) = some (digits, rest) := by
  obtain ⟨taken, dropped⟩ := takeWhile_digits all ends
  unfold scanWhole
  split
  · rename_i tail same
    obtain ⟨d, digits', rfl⟩ := List.exists_cons_of_ne_nil nonempty
    cases same
    exact absurd rfl leading
  · rw [taken, dropped, if_neg nonempty]

/-- Without a point there is no fraction. -/
theorem scanFraction_none (stops : Stops rest) : scanFraction rest = ([], rest) := by
  unfold scanFraction
  split
  · rename_i tail
    exact absurd rfl (stops '.' rfl).2.1
  · rfl

/-- A fraction is scanned up to what ends its digits. -/
theorem scanFraction_digits (all : Digits digits) (nonempty : digits ≠ [])
    (ends : ∀ c ∈ rest.head?, c.isDigit = false) : scanFraction ('.' :: (digits ++ rest)) = (digits, rest) := by
  obtain ⟨taken, dropped⟩ := takeWhile_digits all ends
  simp only [scanFraction, taken, dropped, if_neg nonempty]

/-- Without an `e` there is no exponent. -/
theorem scanExponent_none (stops : Stops rest) : scanExponent rest = (none, rest) := by
  unfold scanExponent
  rw [if_neg]
  rintro (first | first)
  · exact absurd rfl (stops 'e' first).2.2.1
  · exact absurd rfl (stops 'E' first).2.2.2

/-- An exponent is scanned with its sign. -/
theorem scanExponent_digits (all : Digits digits) (nonempty : digits ≠ []) (negative : Bool) (stops : Stops rest) :
    scanExponent ('e' :: (if negative then '-' else '+') :: (digits ++ rest)) =
      (some (if negative then -(Nat.ofDigitChars 10 digits 0 : Int) else Nat.ofDigitChars 10 digits 0), rest) := by
  obtain ⟨taken, dropped⟩ := takeWhile_digits all stops.digit
  have sign : scanSign ((if negative then '-' else '+') :: (digits ++ rest)) = (negative, digits ++ rest) := by
    cases negative <;> rfl
  simp only [scanExponent, List.head?_cons, true_or, if_true, List.tail_cons, sign, taken, dropped, if_neg nonempty]

/-- A token starts with a digit. -/
theorem scan_digit {cs : List Char} {found : Numeral × List Char} (read : scan cs = some found) :
    ∃ c others, cs = c :: others ∧ c.isDigit = true := by
  unfold scan at read
  obtain ⟨⟨whole, tail⟩, front, -⟩ := Option.bind_eq_some_iff.1 read
  unfold scanWhole at front
  split at front
  · exact ⟨'0', _, rfl, rfl⟩
  · cases cs with
    | nil => cases front
    | cons c others =>
      refine ⟨c, others, rfl, ?_⟩
      by_contra other
      rw [List.takeWhile_cons_of_neg other] at front
      cases front

/-! ## Natural numbers -/

theorem digits_toDigits (n : Nat) : Digits (Nat.toDigits 10 n) :=
  fun _ member => Nat.isDigit_of_mem_toDigits (by decide) (by decide) member

theorem digitChar_ne_zero {d : Nat} (pos : 0 < d) (small : d < 10) : Nat.digitChar d ≠ '0' := by
  have all : ∀ d < 10, 0 < d → Nat.digitChar d ≠ '0' := by decide
  exact all d small pos

/-- A positive number has no leading zero. -/
theorem toDigits_head {n : Nat} (pos : 0 < n) : (Nat.toDigits 10 n).head? ≠ some '0' := by
  induction n using Nat.strongRecOn with
  | ind n ih =>
    by_cases small : n < 10
    · rw [Nat.toDigits_of_lt_base small]
      intro zero
      exact digitChar_ne_zero pos small (Option.some.inj zero)
    · rw [Nat.toDigits_of_base_le (by decide) (not_lt.1 small),
        List.head?_append_of_ne_nil _ Nat.toDigits_ne_nil]
      exact ih (n / 10) (by omega) (by omega)

/-- The decimal digits of a number are scanned as a whole number. -/
theorem scanWhole_toDigits (n : Nat) (ends : ∀ c ∈ rest.head?, c.isDigit = false) :
    scanWhole (Nat.toDigits 10 n ++ rest) = some (Nat.toDigits 10 n, rest) := by
  rcases Nat.eq_zero_or_pos n with rfl | pos
  · rfl
  · exact scanWhole_digits (digits_toDigits n) Nat.toDigits_ne_nil (toDigits_head pos) ends

/-- The digits of a natural number are read back. -/
theorem scan_toDigits (n : Nat) (stops : Stops rest) :
    scan (Nat.toDigits 10 n ++ rest) = some (⟨Nat.toDigits 10 n, [], none⟩, rest) := by
  simp only [scan, scanWhole_toDigits n stops.digit, Option.bind_eq_bind, Option.bind_some, scanFraction_none stops,
    scanExponent_none stops]
  rfl

/-! ## Doubles -/

/-- The text of the digits with the decimal point after the first `point` of them. -/
def layout (digits : List Char) (point : Int) : List Char :=
  if -4 < point ∧ point ≤ 16 then
    if point ≤ 0 then ['0', '.'] ++ List.replicate (-point).toNat '0' ++ digits
    else if digits.length ≤ point.toNat then
      digits ++ List.replicate (point.toNat - digits.length) '0' ++ ['.', '0']
    else digits.take point.toNat ++ ['.'] ++ digits.drop point.toNat
  else
    digits.take 1 ++ (if digits.length = 1 then [] else ['.']) ++ digits.drop 1 ++
      ['e', if point ≤ 0 then '-' else '+'] ++ PyFloat.exponentDigits (point - 1).natAbs

theorem positiveText_eq (q : ℚ) :
    PyFloat.positiveText q =
      layout ((Nat.toDigits 10 (PyFloat.shortest q).1).rdropWhile (· = '0'))
        ((Nat.toDigits 10 (PyFloat.shortest q).1).length + (PyFloat.shortest q).2) := rfl

/-- A token with a point or an exponent is that of a float. -/
def IsFloat (numeral : Numeral) : Prop := numeral.fraction ≠ [] ∨ numeral.exponent ≠ none

theorem digits_zeros (n : Nat) : Digits (List.replicate n '0') := by
  intro c member
  rw [List.eq_of_mem_replicate member]
  decide

theorem Digits.append {front back : List Char} (first : Digits front) (second : Digits back) :
    Digits (front ++ back) :=
  List.forall_mem_append.2 ⟨first, second⟩

/-- A numeral denotes its digits at its scale. -/
theorem value_eq (numeral : Numeral) : numeral.value = numeral.mantissa * (10 : ℚ) ^ numeral.scale := by
  rw [value, PyFloat.power_eq]
  rfl

/-- Zeros in front do not count. -/
theorem ofDigitChars_zeros (n : Nat) (digits : List Char) :
    Nat.ofDigitChars 10 (List.replicate n '0' ++ digits) 0 = Nat.ofDigitChars 10 digits 0 := by
  rw [Nat.ofDigitChars_append, Nat.ofDigitChars_replicate_zero, Nat.mul_zero]

/-- A zero more multiplies by ten. -/
theorem ofDigitChars_append_zeros (digits : List Char) (n : Nat) :
    Nat.ofDigitChars 10 (digits ++ List.replicate n '0') 0 = Nat.ofDigitChars 10 digits 0 * 10 ^ n := by
  rw [Nat.ofDigitChars_append, Nat.ofDigitChars_replicate_zero, Nat.mul_comm]

/-- The digits before the point: one zero, or no zero in front. -/
def Whole (digits : List Char) : Prop := digits = ['0'] ∨ (Digits digits ∧ digits ≠ [] ∧ digits.head? ≠ some '0')

section Shapes

variable {whole fraction : List Char}

theorem scanWhole_whole (front : Whole whole) (ends : ∀ c ∈ rest.head?, c.isDigit = false) :
    scanWhole (whole ++ rest) = some (whole, rest) := by
  rcases front with rfl | ⟨all, nonempty, leading⟩
  · rfl
  · exact scanWhole_digits all nonempty leading ends

theorem point_ends (rest : List Char) : ∀ c ∈ ('.' :: rest).head?, c.isDigit = false := by
  intro c first
  cases first
  rfl

/-- A numeral with a point is scanned. -/
theorem scan_point (front : Whole whole) (back : Digits fraction) (nonempty : fraction ≠ []) (stops : Stops rest) :
    scan (whole ++ '.' :: (fraction ++ rest)) = some (⟨whole, fraction, none⟩, rest) := by
  simp only [scan, scanWhole_whole front (point_ends _), Option.bind_eq_bind, Option.bind_some,
    scanFraction_digits back nonempty stops.digit, scanExponent_none stops]
  rfl

/-- The text of a mantissa: its point is left out if nothing follows it. -/
theorem scan_exponent (front : Whole whole) (back : Digits fraction) (negative : Bool) (all : Digits digits)
    (nonempty : digits ≠ []) (stops : Stops rest) :
    scan (whole ++ (if fraction = [] then [] else ['.']) ++ fraction ++
        'e' :: (if negative then '-' else '+') :: (digits ++ rest)) =
      some (⟨whole, fraction,
        some (if negative then -(Nat.ofDigitChars 10 digits 0 : Int) else Nat.ofDigitChars 10 digits 0)⟩, rest) := by
  generalize tail : 'e' :: (if negative then '-' else '+') :: (digits ++ rest) = exponent
  have read := scanExponent_digits all nonempty negative stops
  rw [tail] at read
  have first : exponent.head? = some 'e' := by rw [← tail]; rfl
  have letter : ∀ c ∈ exponent.head?, c.isDigit = false ∧ c ≠ '.' := by
    intro c here
    rw [first] at here
    cases here
    decide
  by_cases short : fraction = []
  · subst short
    have pointless : scanFraction exponent = ([], exponent) := by
      unfold scanFraction
      split
      · cases first
      · rfl
    rw [if_pos rfl, List.append_nil, List.append_nil]
    simp only [scan, scanWhole_whole front fun c here => (letter c here).1, Option.bind_eq_bind, Option.bind_some,
      pointless, read]
    rfl
  · rw [if_neg short, List.append_assoc, List.append_assoc]
    show scan (whole ++ '.' :: (fraction ++ exponent)) = _
    simp only [scan, scanWhole_whole front (point_ends _), Option.bind_eq_bind, Option.bind_some,
      scanFraction_digits back short fun c here => (letter c here).1, read]
    rfl

end Shapes

theorem digits_exponentDigits (e : Nat) : Digits (PyFloat.exponentDigits e) := by
  unfold PyFloat.exponentDigits
  split
  · exact List.forall_mem_cons.2 ⟨rfl, digits_toDigits e⟩
  · exact digits_toDigits e

/-- The digits of an exponent denote it. -/
theorem ofDigitChars_exponentDigits (e : Nat) : Nat.ofDigitChars 10 (PyFloat.exponentDigits e) 0 = e := by
  unfold PyFloat.exponentDigits
  split
  · exact (ofDigitChars_zeros 1 _).trans Nat.ofDigitChars_ten_toDigits
  · exact Nat.ofDigitChars_ten_toDigits

theorem exponentDigits_ne_nil (e : Nat) : PyFloat.exponentDigits e ≠ [] := by
  unfold PyFloat.exponentDigits
  split
  · exact List.cons_ne_nil _ _
  · exact Nat.toDigits_ne_nil

/-- The text of some digits with a point is read as the number it shows. -/
theorem scan_layout (all : Digits digits) (nonempty : digits ≠ []) (leading : digits.head? ≠ some '0') (point : Int)
    (stops : Stops rest) :
    ∃ numeral, scan (layout digits point ++ rest) = some (numeral, rest) ∧ numeral.IsFloat ∧
      numeral.value = Nat.ofDigitChars 10 digits 0 * (10 : ℚ) ^ (point - digits.length) := by
  have positive := List.length_pos_iff.2 nonempty
  unfold layout
  split
  · split
    · rename_i low
      -- all digits stand behind the point
      have back : Digits (List.replicate (-point).toNat '0' ++ digits) := (digits_zeros _).append all
      have filled : List.replicate (-point).toNat '0' ++ digits ≠ [] := List.append_ne_nil_of_right_ne_nil _ nonempty
      refine ⟨⟨['0'], List.replicate (-point).toNat '0' ++ digits, none⟩, ?_, Or.inl filled, ?_⟩
      · have read := scan_point (Or.inl rfl : Whole ['0']) back filled stops
        simpa only [List.append_assoc, List.cons_append, List.nil_append] using read
      · have same : (-((List.replicate (-point).toNat '0' ++ digits).length : Int)) = point - digits.length := by
          rw [List.length_append, List.length_replicate]
          omega
        rw [value_eq, mantissa, scale]
        dsimp only [Option.getD_none]
        rw [Int.zero_sub, same, ← List.append_assoc, show ['0'] = List.replicate 1 '0' from rfl, List.append_assoc,
          ofDigitChars_zeros, ofDigitChars_zeros]
    · split
      · rename_i high long
        -- all digits and some zeros stand before it
        have front : Whole (digits ++ List.replicate (point.toNat - digits.length) '0') := by
          refine Or.inr ⟨all.append (digits_zeros _), List.append_ne_nil_of_left_ne_nil nonempty _, ?_⟩
          rw [List.head?_append_of_ne_nil _ nonempty]
          exact leading
        refine ⟨⟨digits ++ List.replicate (point.toNat - digits.length) '0', ['0'], none⟩, ?_,
          Or.inl (List.cons_ne_nil '0' []), ?_⟩
        · have zero : Digits ['0'] := digits_zeros 1
          have read := scan_point front zero (List.cons_ne_nil '0' []) stops
          simpa only [List.append_assoc, List.cons_append, List.nil_append] using read
        · have same : point - digits.length = ((point.toNat - digits.length : Nat) : Int) := by omega
          rw [value_eq, mantissa, scale]
          dsimp only [Option.getD_none]
          rw [show ['0'] = List.replicate 1 '0' from rfl, ofDigitChars_append_zeros, ofDigitChars_append_zeros, same,
            zpow_natCast, List.length_replicate, Int.zero_sub, zpow_neg, zpow_natCast]
          push_cast
          field_simp
      · rename_i high short
        -- the point stands between the digits
        have front : Whole (digits.take point.toNat) := by
          refine Or.inr ⟨fun c member => all c (List.mem_of_mem_take member), ?_, ?_⟩
          · intro empty
            rcases List.take_eq_nil_iff.1 empty with zero | zero
            · omega
            · exact nonempty zero
          · rw [List.head?_take, if_neg (by omega)]
            exact leading
        have back : Digits (digits.drop point.toNat) := fun c member => all c (List.mem_of_mem_drop member)
        have filled : digits.drop point.toNat ≠ [] := by
          intro empty
          have := List.drop_eq_nil_iff.1 empty
          omega
        refine ⟨⟨digits.take point.toNat, digits.drop point.toNat, none⟩, ?_, Or.inl filled, ?_⟩
        · have read := scan_point front back filled stops
          simpa only [List.append_assoc, List.cons_append, List.nil_append] using read
        · rw [value_eq, mantissa, scale]
          dsimp only [Option.getD_none]
          rw [List.take_append_drop, List.length_drop, show (0 : Int) - (digits.length - point.toNat : Nat) =
            point - digits.length by omega]
  · -- one digit before the point, and an exponent
    obtain ⟨d, others, rfl⟩ := List.exists_cons_of_ne_nil nonempty
    have front : Whole [d] := Or.inr ⟨fun c member => all c (List.mem_cons.2 (Or.inl (List.mem_singleton.1 member))),
      List.cons_ne_nil d [], leading⟩
    have back : Digits others := fun c member => all c (List.mem_cons_of_mem d member)
    have read := scan_exponent front back (decide (point ≤ 0)) (digits_exponentDigits (point - 1).natAbs)
      (exponentDigits_ne_nil _) stops
    rw [ofDigitChars_exponentDigits] at read
    simp only [decide_eq_true_eq] at read
    refine ⟨⟨[d], others, some (if point ≤ 0 then -((point - 1).natAbs : Int) else (point - 1).natAbs)⟩, ?_,
      Or.inr (Option.some_ne_none _), ?_⟩
    · have alone : ((d :: others).length = 1) = (others = []) := by simp
      simp only [alone]
      simpa only [List.append_assoc, List.cons_append, List.nil_append, List.take_succ_cons, List.take_zero,
        List.drop_succ_cons, List.drop_zero] using read
    · have same : (if point ≤ 0 then -((point - 1).natAbs : Int) else (point - 1).natAbs) - others.length =
          point - (d :: others).length := by
        rw [List.length_cons]
        split <;> omega
      rw [value_eq, mantissa, scale]
      dsimp only [Option.getD_some]
      rw [same]
      rfl

/-- The digits of a number without the zeros at its end. -/
theorem toDigits_trim (m : Nat) :
    ∃ zeros, Nat.toDigits 10 m = (Nat.toDigits 10 m).rdropWhile (· = '0') ++ List.replicate zeros '0' := by
  refine ⟨((Nat.toDigits 10 m).rtakeWhile (· = '0')).length, ?_⟩
  have same : (Nat.toDigits 10 m).rtakeWhile (· = '0') =
      List.replicate ((Nat.toDigits 10 m).rtakeWhile (· = '0')).length '0' :=
    List.eq_replicate_of_mem fun c member => by simpa using List.mem_rtakeWhile_imp member
  rw [← same]
  exact List.rdropWhile_append_rtakeWhile.symm

/-- The text of a double is read as its shortest digits. -/
theorem scan_positiveText {q : ℚ} (double : PyFloat.Double q) (stops : Stops rest) :
    ∃ numeral, scan (PyFloat.positiveText q ++ rest) = some (numeral, rest) ∧ numeral.IsFloat ∧
      PyFloat.nearest numeral.value = q := by
  have back := PyFloat.nearest_shortest double
  rw [positiveText_eq]
  generalize PyFloat.shortest q = found at back ⊢
  obtain ⟨m, scale⟩ := found
  dsimp only at back ⊢
  have positive : 0 < m := by
    by_contra zero
    have zero : m = 0 := by omega
    rw [zero, Nat.cast_zero, zero_mul, PyFloat.nearest_zero] at back
    exact double.pos.ne back
  obtain ⟨zeros, whole⟩ := toDigits_trim m
  have total : Nat.ofDigitChars 10 (Nat.toDigits 10 m) 0 = m := Nat.ofDigitChars_ten_toDigits
  have length : (Nat.toDigits 10 m).length = ((Nat.toDigits 10 m).rdropWhile (· = '0')).length + zeros := by
    conv_lhs => rw [whole]
    rw [List.length_append, List.length_replicate]
  have inside : (Nat.toDigits 10 m).rdropWhile (· = '0') <+: Nat.toDigits 10 m := List.rdropWhile_prefix _ _
  have front := toDigits_head positive
  rw [length]
  rw [whole, ofDigitChars_append_zeros] at total
  generalize (Nat.toDigits 10 m).rdropWhile (· = '0') = digits at total inside whole ⊢
  have nonempty : digits ≠ [] := by
    rintro rfl
    rw [Nat.ofDigitChars_nil, Nat.zero_mul] at total
    omega
  rw [whole, List.head?_append_of_ne_nil _ nonempty] at front
  obtain ⟨numeral, read, float, value⟩ := scan_layout (fun c member => digits_toDigits m c (inside.subset member))
    nonempty front ((digits.length + zeros : Nat) + scale) stops
  refine ⟨numeral, read, float, ?_⟩
  have same : numeral.value = m * PyFloat.power 10 scale := by
    rw [value, PyFloat.power_eq, ← total]
    push_cast
    rw [mul_assoc, ← zpow_natCast, ← zpow_add₀ (by norm_num)]
    congr 2
    omega
  rw [same]
  exact back

end Numeral

/-! ## Reading floats -/

namespace PyFloat

/-- The double nearest to a number that is not negative. -/
def ofMagnitude (negative : Bool) (q : ℚ) : PyFloat :=
  let double := if q = 0 then 0 else nearest q
  if double = 0 ∧ negative then .negZero
  else if (2 : ℚ) ^ maxExponent ≤ double then .inf negative
  else .finite (if negative then -double else double)

/-- The floats there are: the zeros, the positive doubles with both signs, the infinities
and NaN. -/
def IsDouble : PyFloat → Prop
  | .finite q => q = 0 ∨ Double |q|
  | _ => True

instance : (x : PyFloat) → Decidable x.IsDouble
  | .finite q => inferInstanceAs (Decidable (q = 0 ∨ Double |q|))
  | .negZero => inferInstanceAs (Decidable True)
  | .inf _ => inferInstanceAs (Decidable True)
  | .nan => inferInstanceAs (Decidable True)

theorem ofMagnitude_double {x q : ℚ} (double : Double q) (back : nearest x = q) (negative : Bool) :
    ofMagnitude negative x = .finite (if negative then -q else q) := by
  have other : x ≠ 0 := by
    rintro rfl
    rw [nearest_zero] at back
    exact double.pos.ne back
  unfold ofMagnitude
  dsimp only
  rw [if_neg other, back, if_neg fun zero => double.pos.ne' zero.1, if_neg (not_le.2 double.bounded)]

/-- The text with ASCII digits, without the underscores between them. `digit` says that
the last character was a digit. -/
def plainDigits : (digit : Bool) → List Char → Option (List Char)
  | _, [] => some []
  | digit, c :: rest =>
    if c = '_' then
      if digit ∧ (rest.head?.bind decimal?).isSome then plainDigits false rest else none
    else
      match decimal? c with
      | some d => (plainDigits true rest).map (Nat.digitChar d :: ·)
      | none => (plainDigits false rest).map (c :: ·)

/-- `float(s)`, or `none` where Python raises `ValueError`. -/
def ofText? (s : String) : Option PyFloat := do
  let cs ← plainDigits false (numberText s)
  let (negative, cs) := Numeral.scanSign cs
  let word := String.ofList (cs.map Char.toLower)
  if word = "inf" ∨ word = "infinity" then return .inf negative
  if word = "nan" then return .nan
  let whole := cs.takeWhile Char.isDigit
  let rest := cs.dropWhile Char.isDigit
  let (fraction, rest) :=
    if rest.head? = some '.' then (rest.tail.takeWhile Char.isDigit, rest.tail.dropWhile Char.isDigit)
    else ([], rest)
  let (exponent, rest) := Numeral.scanExponent rest
  if whole ++ fraction ≠ [] ∧ rest = [] then return ofMagnitude negative (Numeral.value ⟨whole, fraction, exponent⟩)
  else none

end PyFloat
end Python
