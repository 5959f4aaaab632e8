import Mathlib.Data.Nat.Log
import LlmTts.Lib.Python

/-!
# The text of a float

`str(x)` of a float: the shortest decimal that rounds back to it, with an exponent
when the decimal point lies far from the digits.
-/

namespace Python
namespace PyFloat

/-- `base ^ e`. -/
def power (base : Nat) (e : Int) : ℚ :=
  if 0 ≤ e then ((base ^ e.toNat : Nat) : ℚ) else mkRat 1 (base ^ (-e).toNat)

/-- The exponent of the leading digit of a positive number. -/
def leading (base : Nat) (q : ℚ) : Int :=
  let guess : Int := (Nat.log base q.num.natAbs : Int) - (Nat.log base q.den : Int)
  if power base guess ≤ q then guess else guess - 1

/-- The double nearest to a positive number: 53 significant bits, none below `2 ^ -1074`. -/
def nearest (q : ℚ) : ℚ :=
  let unit := power 2 (max (leading 2 q - 52) (-1074))
  roundHalfEven (q / unit) * unit

/-- The number with `n + 1` significant digits next to the positive double `q` that
rounds back to it, as a natural number and a power of ten. -/
def decimal (q : ℚ) (n : Nat) : Option (Nat × Int) :=
  let scale := leading 10 q - n
  let below := (q / power 10 scale).floor.toNat
  let down : Bool := nearest (below * power 10 scale) = q
  let up : Bool := nearest ((below + 1 : Nat) * power 10 scale) = q
  if down && up then some ((roundHalfEven (q / power 10 scale)).toNat, scale)
  else if down then some (below, scale)
  else if up then some (below + 1, scale)
  else none

/-- The shortest such number; 17 digits are always enough. -/
def shortest (q : ℚ) : Nat × Int :=
  ((List.range 17).findSome? (decimal q)).getD
    ((roundHalfEven (q / power 10 (leading 10 q - 16))).toNat, leading 10 q - 16)

/-- At least two digits. -/
def exponentDigits (e : Nat) : List Char :=
  if e < 10 then '0' :: Nat.toDigits 10 e else Nat.toDigits 10 e

/-- `str` of a positive double. -/
def positiveText (q : ℚ) : List Char :=
  let all := Nat.toDigits 10 (shortest q).1
  let digits := all.rdropWhile (· = '0')
  let point : Int := all.length + (shortest q).2
  if -4 < point ∧ point ≤ 16 then
    if point ≤ 0 then ['0', '.'] ++ List.replicate (-point).toNat '0' ++ digits
    else if digits.length ≤ point.toNat then
      digits ++ List.replicate (point.toNat - digits.length) '0' ++ ['.', '0']
    else digits.take point.toNat ++ ['.'] ++ digits.drop point.toNat
  else
    digits.take 1 ++ (if digits.length = 1 then [] else ['.']) ++ digits.drop 1 ++
      ['e', if point ≤ 0 then '-' else '+'] ++ exponentDigits (point - 1).natAbs

/-- `str(x)`. -/
def str : PyFloat → String
  | .finite q =>
    if q = 0 then "0.0"
    else if q < 0 then String.ofList ('-' :: positiveText (-q))
    else String.ofList (positiveText q)
  | .negZero => "-0.0"
  | .inf negative => if negative then "-inf" else "inf"
  | .nan => "nan"

end PyFloat

/-- `str(n)` of an integer. -/
def intStr (n : Int) : String :=
  String.ofList ((if n < 0 then ['-'] else []) ++ Nat.toDigits 10 n.natAbs)

/-- `==` and `str` of a type of Python values. -/
class PyValue (α : Type) where
  eq : α → α → Bool
  str : α → String

instance : PyValue String := ⟨fun x y => decide (x = y), id⟩
instance : PyValue Int := ⟨fun x y => decide (x = y), intStr⟩
instance : PyValue PyInt :=
  ⟨fun x y => decide (x.toInt = y.toInt), fun
    | .int n => intStr n
    | .bool b => if b then "True" else "False"⟩
instance : PyValue PyFloat := ⟨fun x y => x ≠ .nan && decide (x.unsigned = y.unsigned), PyFloat.str⟩

/-! ## The characters -/

namespace PyFloat

theorem digit_bounds {c : Char} (digit : c.isDigit = true) : 48 ≤ c.toNat ∧ c.toNat ≤ 57 := by
  simp only [Char.isDigit, Bool.and_eq_true, decide_eq_true_eq] at digit
  exact digit

/-- A character of the text of a float. -/
def textChar (c : Char) : Bool := c.isDigit || c ∈ ['.', 'e', '+', '-', 'i', 'n', 'f', 'a']

/-- Decimal digits are characters of a float. -/
theorem textChar_of_mem_toDigits {n : Nat} {c : Char} (member : c ∈ Nat.toDigits 10 n) :
    textChar c = true := by
  rw [textChar, Nat.isDigit_of_mem_toDigits (by decide) (by decide) member, Bool.true_or]

/-- A text of such characters. -/
def Textual (cs : List Char) : Prop := ∀ c ∈ cs, textChar c = true

instance (cs : List Char) : Decidable (Textual cs) := List.decidableBAll _ _

/-- Two texts of such characters make one. -/
theorem Textual.append {front back : List Char} (first : Textual front) (second : Textual back) :
    Textual (front ++ back) :=
  List.forall_mem_append.2 ⟨first, second⟩

theorem textual_zeros (n : Nat) : Textual (List.replicate n '0') := by
  intro c member
  rw [List.eq_of_mem_replicate member]
  decide

theorem textual_exponentDigits (e : Nat) : Textual (exponentDigits e) := by
  intro c member
  unfold exponentDigits at member
  split at member
  · rcases List.mem_cons.1 member with rfl | member
    · decide
    · exact textChar_of_mem_toDigits member
  · exact textChar_of_mem_toDigits member

/-- The text of a positive float has such characters only. -/
theorem textual_positiveText (q : ℚ) : Textual (positiveText q) := by
  have digits : Textual ((Nat.toDigits 10 (shortest q).1).rdropWhile (· = '0')) :=
    fun c member => textChar_of_mem_toDigits ((List.rdropWhile_prefix _ _).subset member)
  have front : ∀ n, Textual (((Nat.toDigits 10 (shortest q).1).rdropWhile (· = '0')).take n) :=
    fun n c member => digits c (List.mem_of_mem_take member)
  have back : ∀ n, Textual (((Nat.toDigits 10 (shortest q).1).rdropWhile (· = '0')).drop n) :=
    fun n c member => digits c (List.mem_of_mem_drop member)
  have point : Textual ['.'] := by decide
  have mark : ∀ (alone : Prop) [Decidable alone], Textual (if alone then [] else ['.']) := by
    intro alone _
    split
    · exact fun c member => absurd member List.not_mem_nil
    · exact point
  have exponent : ∀ (small : Prop) [Decidable small], Textual ['e', if small then '-' else '+'] := by
    intro small _
    split <;> decide
  unfold positiveText
  dsimp only
  split
  · split
    · exact ((by decide : Textual ['0', '.']).append (textual_zeros _)).append digits
    · split
      · exact (digits.append (textual_zeros _)).append (by decide)
      · exact ((front _).append point).append (back _)
  · exact ((((front _).append (mark _)).append (back _)).append (exponent _)).append
      (textual_exponentDigits _)

/-- The characters of `str(x)`. -/
theorem textual_str (x : PyFloat) : Textual x.str.toList := by
  cases x with
  | finite q =>
    unfold str
    dsimp only
    split_ifs
    · decide
    · rw [String.toList_ofList]
      exact List.forall_mem_cons.2 ⟨by decide, textual_positiveText _⟩
    · rw [String.toList_ofList]
      exact textual_positiveText q
  | negZero => decide
  | inf negative => cases negative <;> decide
  | nan => decide

end PyFloat

/-- So has the text of an integer. -/
theorem textual_intStr (n : Int) : PyFloat.Textual (intStr n).toList := by
  rw [intStr, String.toList_ofList]
  have digits : PyFloat.Textual (Nat.toDigits 10 n.natAbs) :=
    fun c member => PyFloat.textChar_of_mem_toDigits member
  split
  · exact List.forall_mem_cons.2 ⟨by decide, digits⟩
  · exact digits

end Python
