import Mathlib.Data.Rat.Defs
import Mathlib.Data.List.Nodup
import Mathlib.Data.List.DropRight
import Mathlib.Data.Nat.Log
import Mathlib.Algebra.Order.Ring.Nat

/-!
# Python values

The values of Python the model computes with: floats (a finite float is the
rational it denotes), the conversion `float(int)`, decoded JSON, and dictionaries
as association lists in insertion order.
-/

namespace Python

/-- Bytes objects. -/
abbrev Bytes := List UInt8

/-- The characters `str.strip()` removes. -/
def isSpace (c : Char) : Bool :=
  let n := c.toNat
  (9 ≤ n && n ≤ 13) || (28 ≤ n && n ≤ 32) || n == 0x85 || n == 0xA0 || n == 0x1680 ||
    (0x2000 ≤ n && n ≤ 0x200A) || n == 0x2028 || n == 0x2029 || n == 0x202F || n == 0x205F ||
    n == 0x3000

/-- `not s.strip()`. -/
def isBlank (s : String) : Bool := s.toList.all isSpace

/-- `s.strip()`. -/
def strip (s : String) : String := String.ofList ((s.toList.dropWhile isSpace).rdropWhile isSpace)

@[simp] theorem toList_strip (s : String) :
    (strip s).toList = (s.toList.dropWhile isSpace).rdropWhile isSpace :=
  String.toList_ofList

theorem strip_eq_empty_iff {s : String} : strip s = "" ↔ isBlank s = true := by
  rw [← String.toList_inj, toList_strip, isBlank, List.all_eq_true]
  simp only [String.toList_empty, List.rdropWhile_eq_nil_iff]
  constructor
  · intro rest c member
    rw [← List.takeWhile_append_dropWhile (p := isSpace) (l := s.toList)] at member
    rcases List.mem_append.1 member with front | back
    · exact List.mem_takeWhile_imp front
    · exact rest c back
  · intro all c member
    exact all c ((List.dropWhile_sublist isSpace).subset member)

theorem mem_of_mem_strip {s : String} {c : Char} (member : c ∈ (strip s).toList) : c ∈ s.toList := by
  rw [toList_strip] at member
  have front := (List.rdropWhile_prefix isSpace _).subset member
  exact (List.dropWhile_sublist isSpace).subset front

/-- A character that is no white space is not stripped. -/
theorem mem_strip {s : String} {c : Char} (seen : isSpace c = false) (member : c ∈ s.toList) :
    c ∈ (strip s).toList := by
  have kept : ∀ cs : List Char, c ∈ cs → c ∈ cs.dropWhile isSpace := by
    intro cs there
    rw [← List.takeWhile_append_dropWhile (p := isSpace) (l := cs)] at there
    rcases List.mem_append.1 there with front | back
    · exact nomatch seen.symm.trans (List.mem_takeWhile_imp front)
    · exact back
  rw [toList_strip, List.rdropWhile, List.mem_reverse]
  apply kept
  rw [List.mem_reverse]
  exact kept _ member

/-- What is left of a text that is not blank is not blank. -/
theorem isBlank_strip {s : String} (full : isBlank s = false) : isBlank (strip s) = false := by
  obtain ⟨c, member, seen⟩ := List.all_eq_false.1 full
  rw [Bool.not_eq_true] at seen
  exact List.all_eq_false.2 ⟨c, mem_strip seen member, by simp [seen]⟩

/-- A prefix starts as the list does. -/
theorem dropWhile_of_prefix {p : Char → Bool} {front whole : List Char} (starts : front <+: whole)
    (fixed : whole.dropWhile p = whole) : front.dropWhile p = front := by
  cases front with
  | nil => rfl
  | cons c cs =>
    obtain ⟨rest, rfl⟩ := starts
    rw [List.dropWhile_eq_self_iff] at fixed ⊢
    exact fun _ => fixed (Nat.succ_pos _)

@[simp] theorem strip_strip (s : String) : strip (strip s) = strip s := by
  rw [← String.toList_inj, toList_strip, toList_strip]
  have front := dropWhile_of_prefix (List.rdropWhile_prefix isSpace (s.toList.dropWhile isSpace))
    (List.dropWhile_idempotent isSpace s.toList)
  rw [front, List.rdropWhile_idempotent]

/-- The zeros of the decimal digits of Unicode; the digits one to nine follow each of them. -/
def decimalZeros : List Nat :=
  [0x30, 0x660, 0x6F0, 0x7C0, 0x966, 0x9E6, 0xA66, 0xAE6, 0xB66, 0xBE6, 0xC66, 0xCE6, 0xD66, 0xDE6,
    0xE50, 0xED0, 0xF20, 0x1040, 0x1090, 0x17E0, 0x1810, 0x1946, 0x19D0, 0x1A80, 0x1A90, 0x1B50,
    0x1BB0, 0x1C40, 0x1C50, 0xA620, 0xA8D0, 0xA900, 0xA9D0, 0xA9F0, 0xAA50, 0xABF0, 0xFF10, 0x104A0,
    0x10D30, 0x11066, 0x110F0, 0x11136, 0x111D0, 0x112F0, 0x11450, 0x114D0, 0x11650, 0x116C0, 0x11730,
    0x118E0, 0x11950, 0x11C50, 0x11D50, 0x11DA0, 0x16A60, 0x16AC0, 0x16B50, 0x1D7CE, 0x1D7D8, 0x1D7E2,
    0x1D7EC, 0x1D7F6, 0x1E140, 0x1E2F0, 0x1E950, 0x1FBF0]

/-- The value of a decimal digit. -/
def decimal? (c : Char) : Option Nat :=
  (decimalZeros.find? fun first => first ≤ c.toNat && c.toNat < first + 10).map (c.toNat - ·)

/-- Digits with single underscores between them, after the digits of `value`.
`digit` says that the last character was a digit. -/
def digitsValue? : (digit : Bool) → (value : Nat) → List Char → Option Nat
  | digit, value, [] => if digit then some value else none
  | digit, value, c :: cs =>
    if c = '_' then if digit then digitsValue? false value cs else none
    else (decimal? c).bind fun d => digitsValue? true (10 * value + d) cs

/-- `int(s)` refuses longer numbers. -/
def maxStrDigits : Nat := 4300

/-- The value of an unsigned number. -/
def natValue? (cs : List Char) : Option Nat :=
  if maxStrDigits < cs.countP (· ≠ '_') then none else digitsValue? false 0 cs

/-- The characters `int` and `float` pass over around a number. The separators 28 to 31,
which `str.strip()` removes, are none of them. -/
def isNumberSpace (c : Char) : Bool := isSpace c && !(28 ≤ c.toNat && c.toNat ≤ 31)

/-- The text of a number without the space around it. -/
def numberText (s : String) : List Char := (s.toList.dropWhile isNumberSpace).rdropWhile isNumberSpace

/-- `int(s)`, or `none` where Python raises `ValueError`. -/
def int? (s : String) : Option Int :=
  match numberText s with
  | '-' :: cs => (natValue? cs).map fun n => -(n : Int)
  | '+' :: cs => (natValue? cs).map Int.ofNat
  | cs => (natValue? cs).map Int.ofNat

/-- A float: a rational, `-0.0`, which is another float than zero, an infinity, or NaN. -/
inductive PyFloat where
  | finite (q : ℚ)
  | negZero
  | inf (negative : Bool)
  | nan
  deriving DecidableEq

namespace PyFloat

/-- The number a finite float is. -/
def value? : PyFloat → Option ℚ
  | .finite q => some q
  | .negZero => some 0
  | _ => none

/-- The float that stands for those equal to it: `-0.0 == 0.0`. -/
def unsigned : PyFloat → PyFloat
  | .negZero => .finite 0
  | x => x

/-- `x <= y`; false when either is NaN. -/
def le (x y : PyFloat) : Bool :=
  match x.unsigned, y.unsigned with
  | .finite x, .finite y => decide (x ≤ y)
  | .inf negative, .finite _ => negative
  | .finite _, .inf negative => !negative
  | .inf n, .inf m => n || !m
  | _, _ => false

/-- `x < y`; false when either is NaN. -/
def lt (x y : PyFloat) : Bool :=
  match x.unsigned, y.unsigned with
  | .finite x, .finite y => decide (x < y)
  | .inf negative, .finite _ => negative
  | .finite _, .inf negative => !negative
  | .inf n, .inf m => n && !m
  | _, _ => false

/-- The largest integer part a double can hold is below this power of two. -/
def maxExponent : Nat := 1024

/-- The magnitude of `float(n)`: 53 significant bits, ties to even. -/
def roundMagnitude (a : Nat) : Nat :=
  let e := Nat.log2 a - 52
  let quotient := a / 2 ^ e
  let remainder := a % 2 ^ e
  let up := 2 ^ e < 2 * remainder ∨ (2 ^ e = 2 * remainder ∧ quotient % 2 = 1)
  (if up then quotient + 1 else quotient) * 2 ^ e

/-- `float(n)`, or `none` where Python raises `OverflowError`. -/
def ofInt? (n : Int) : Option PyFloat :=
  let magnitude := roundMagnitude n.natAbs
  if magnitude < 2 ^ maxExponent then
    some (.finite (if n < 0 then -(magnitude : ℚ) else (magnitude : ℚ)))
  else none

end PyFloat

/-- `round` to an integer, ties to even. -/
def roundHalfEven (q : ℚ) : Int :=
  let floor := q.floor
  let rest := q - floor
  if rest < 1 / 2 then floor
  else if 1 / 2 < rest then floor + 1
  else if floor % 2 = 0 then floor else floor + 1

/-! ## Dictionaries -/

section Dict

variable {α : Type}

/-- `d[key] = value`: a present key keeps its position. -/
def dictSet (d : List (String × α)) (key : String) (value : α) : List (String × α) :=
  if key ∈ d.map Prod.fst then d.map fun item => if item.1 = key then (key, value) else item
  else d ++ [(key, value)]

/-- The dictionary a list of pairs builds; a later pair replaces an earlier one. -/
def dictItems (pairs : List (String × α)) : List (String × α) :=
  pairs.foldl (fun d item => dictSet d item.1 item.2) []

/-- `d.get(key)`. -/
def dictGet (d : List (String × α)) (key : String) : Option α :=
  (d.find? fun item => item.1 = key).map Prod.snd

theorem mem_of_dictGet {d : List (String × α)} {key : String} {value : α} (found : dictGet d key = some value) :
    (key, value) ∈ d := by
  obtain ⟨⟨key', value'⟩, first, rfl⟩ := Option.map_eq_some_iff.1 found
  have same : key' = key := by simpa using List.find?_some first
  exact same ▸ List.mem_of_find?_eq_some first

theorem dictGet_isSome_iff {d : List (String × α)} {key : String} :
    (dictGet d key).isSome ↔ key ∈ d.map Prod.fst := by
  simp only [dictGet, Option.isSome_map, List.find?_isSome, decide_eq_true_eq, List.mem_map]

theorem dictSet_keys (d : List (String × α)) (key : String) (value : α) :
    (dictSet d key value).map Prod.fst =
      if key ∈ d.map Prod.fst then d.map Prod.fst else d.map Prod.fst ++ [key] := by
  unfold dictSet
  split
  · rw [List.map_map]
    apply List.map_congr_left
    intro item _
    simp only [Function.comp_apply]
    split
    · rename_i same; exact same.symm
    · rfl
  · simp

theorem dictSet_nodup {d : List (String × α)} (distinct : (d.map Prod.fst).Nodup) (key : String)
    (value : α) : ((dictSet d key value).map Prod.fst).Nodup := by
  rw [dictSet_keys]
  split
  · exact distinct
  · rename_i absent
    exact List.nodup_append.2 ⟨distinct, List.nodup_singleton _, fun a member b new same => by
      rw [List.mem_singleton.1 new] at same
      exact absent (same ▸ member)⟩

/-- The keys of a dictionary are distinct. -/
theorem dictItems_nodup (pairs : List (String × α)) : ((dictItems pairs).map Prod.fst).Nodup := by
  unfold dictItems
  suffices h : ∀ d : List (String × α), (d.map Prod.fst).Nodup →
      ((pairs.foldl (fun d item => dictSet d item.1 item.2) d).map Prod.fst).Nodup from
    h [] List.nodup_nil
  induction pairs with
  | nil => exact fun d distinct => distinct
  | cons item pairs ih => exact fun d distinct => ih _ (dictSet_nodup distinct _ _)

theorem mem_of_mem_dictSet {d : List (String × α)} {key : String} {value : α} {item : String × α}
    (member : item ∈ dictSet d key value) : item ∈ d ∨ item = (key, value) := by
  unfold dictSet at member
  split at member
  · obtain ⟨old, there, same⟩ := List.mem_map.1 member
    split at same
    · exact .inr same.symm
    · exact .inl (same ▸ there)
  · rcases List.mem_append.1 member with there | new
    · exact .inl there
    · exact .inr (List.mem_singleton.1 new)

/-- The items of a dictionary are among the pairs it was built from. -/
theorem mem_of_mem_dictItems {pairs : List (String × α)} {item : String × α} (member : item ∈ dictItems pairs) :
    item ∈ pairs := by
  have step : ∀ d : List (String × α), item ∈ pairs.foldl (fun d item => dictSet d item.1 item.2) d →
      item ∈ d ∨ item ∈ pairs := by
    clear member
    induction pairs with
    | nil => exact fun d there => .inl there
    | cons first pairs ih =>
      intro d there
      rcases ih _ there with before | later
      · rcases mem_of_mem_dictSet before with old | rfl
        · exact .inl old
        · exact .inr List.mem_cons_self
      · exact .inr (List.mem_cons_of_mem _ later)
  exact (step [] member).resolve_left List.not_mem_nil

/-- A list of pairs with distinct keys is the dictionary it builds. -/
theorem dictItems_of_nodup {pairs : List (String × α)} (distinct : (pairs.map Prod.fst).Nodup) :
    dictItems pairs = pairs := by
  unfold dictItems
  suffices h : ∀ d : List (String × α), ((d ++ pairs).map Prod.fst).Nodup →
      pairs.foldl (fun d item => dictSet d item.1 item.2) d = d ++ pairs from h [] distinct
  clear distinct
  induction pairs with
  | nil => exact fun d _ => (List.append_nil d).symm
  | cons item pairs ih =>
    intro d distinct
    have absent : item.1 ∉ d.map Prod.fst := by
      rw [List.map_append, List.map_cons] at distinct
      exact fun member => (List.nodup_append.1 distinct).2.2 _ member _ List.mem_cons_self rfl
    have whole : d ++ item :: pairs = (d ++ [item]) ++ pairs := by simp
    rw [whole] at distinct ⊢
    rw [List.foldl_cons, dictSet, if_neg absent]
    exact ih (d ++ [item]) distinct

/-- With distinct keys a lookup finds the pairs of the list. -/
theorem dictGet_eq_some_iff {d : List (String × α)} (distinct : (d.map Prod.fst).Nodup) {key : String} {value : α} :
    dictGet d key = some value ↔ (key, value) ∈ d := by
  refine ⟨mem_of_dictGet, fun member => ?_⟩
  obtain ⟨found, here⟩ := Option.isSome_iff_exists.1
    (dictGet_isSome_iff.2 (List.mem_map.2 ⟨(key, value), member, rfl⟩))
  have same := List.inj_on_of_nodup_map distinct (mem_of_dictGet here) member rfl
  rw [here, (Prod.mk.inj same).2]

/-- Lookups do not depend on the order of the keys. -/
theorem dictGet_perm {d e : List (String × α)} (distinct : (d.map Prod.fst).Nodup) (same : d.Perm e) (key : String) :
    dictGet d key = dictGet e key := by
  have distinct' : (e.map Prod.fst).Nodup := (same.map Prod.fst).nodup_iff.1 distinct
  apply Option.ext
  intro value
  rw [dictGet_eq_some_iff distinct, dictGet_eq_some_iff distinct', same.mem_iff]

theorem dictGet_cons (item : String × α) (d : List (String × α)) (key : String) :
    dictGet (item :: d) key = if item.1 = key then some item.2 else dictGet d key := by
  unfold dictGet
  rw [List.find?_cons]
  by_cases here : item.1 = key <;> simp [here]

theorem dictGet_append (d e : List (String × α)) (key : String) :
    dictGet (d ++ e) key = (dictGet d key).or (dictGet e key) := by
  unfold dictGet
  rw [List.find?_append]
  cases d.find? fun item => item.1 = key <;> rfl

/-- A key that is replaced keeps its place, and so do the others. -/
theorem dictGet_replace (d : List (String × α)) (key : String) (value : α) (other : String) :
    dictGet (d.map fun item => if item.1 = key then (key, value) else item) other =
      if other = key then (dictGet d key).map fun _ => value else dictGet d other := by
  induction d with
  | nil => simp [dictGet]
  | cons item d ih =>
    rw [List.map_cons, dictGet_cons, ih]
    simp only [dictGet_cons]
    by_cases here : item.1 = key
    · rw [if_pos here, if_pos here]
      by_cases same : other = key
      · rw [if_pos same.symm, if_pos same]
        rfl
      · rw [if_neg (Ne.symm same), if_neg same, if_neg same, if_neg fun found => same (found.symm.trans here)]
    · rw [if_neg here, if_neg here]
      by_cases same : other = key
      · rw [if_pos same, if_pos same, if_neg fun found => here (found.trans same)]
      · rw [if_neg same, if_neg same]

theorem dictGet_dictSet (d : List (String × α)) (key : String) (value : α) (other : String) :
    dictGet (dictSet d key value) other = if other = key then some value else dictGet d other := by
  unfold dictSet
  split
  · rename_i present
    obtain ⟨before, found⟩ := Option.isSome_iff_exists.1 (dictGet_isSome_iff.2 present)
    rw [dictGet_replace, found]
    rfl
  · rename_i absent
    have absent : dictGet d key = none := by
      rw [← Option.not_isSome_iff_eq_none, dictGet_isSome_iff]
      exact absent
    rw [dictGet_append, dictGet_cons]
    by_cases same : other = key
    · rw [if_pos same, same, absent, if_pos rfl]
      rfl
    · rw [if_neg same, if_neg (Ne.symm same)]
      exact Option.or_none

theorem dictGet_filter (d : List (String × α)) (key other : String) :
    dictGet (d.filter fun item => item.1 ≠ key) other = if other = key then none else dictGet d other := by
  induction d with
  | nil => simp [dictGet]
  | cons item d ih =>
    by_cases here : item.1 = key
    · rw [List.filter_cons_of_neg (by simpa using here), ih, dictGet_cons]
      by_cases same : other = key
      · rw [if_pos same, if_pos same]
      · rw [if_neg same, if_neg same, if_neg fun found => same (found.symm.trans here)]
    · rw [List.filter_cons_of_pos (by simpa using here), dictGet_cons, ih, dictGet_cons]
      by_cases same : other = key
      · rw [if_pos same, if_pos same, if_neg fun found => here (found.trans same)]
      · rw [if_neg same, if_neg same]

end Dict

/-! ## Decoded JSON -/

/-- A value `json.loads` returns. An object holds its pairs as written; Python
builds the dictionary `dictItems` from them. -/
inductive Json where
  | null
  | bool (b : Bool)
  | int (n : Int)
  | float (x : PyFloat)
  | str (s : String)
  | arr (items : List Json)
  | obj (pairs : List (String × Json))

/-- `float(x)` of a JSON number; `bool` is a subclass of `int`. The outer `none`
stands for a value that is no number, the inner one for `OverflowError`. -/
def Json.float? : Json → Option (Option PyFloat)
  | .bool b => some (some (.finite (if b then 1 else 0)))
  | .int n => some (PyFloat.ofInt? n)
  | .float x => some (some x)
  | _ => none

/-- An `int`; `bool` is a subclass of it. -/
inductive PyInt where
  | int (n : Int)
  | bool (b : Bool)
  deriving DecidableEq, Repr

/-- `int(x)`. -/
def PyInt.toInt : PyInt → Int
  | .int n => n
  | .bool b => if b then 1 else 0

/-- The value of an `isinstance(x, int)`. -/
def Json.int? : Json → Option PyInt
  | .bool b => some (.bool b)
  | .int n => some (.int n)
  | _ => none

/-- An aware datetime: microseconds since the epoch and the offset from UTC. -/
structure DateTime where
  micros : Int
  utcOffset : Int
  deriving DecidableEq, Repr

/-! ## Text with quoted parts -/

/-- One part of a formatted message: text, or `{x!r}` of a string. -/
inductive Piece where
  | text (s : String)
  | repr (s : String)
  deriving DecidableEq, Repr

/-- A formatted message; `repr` parts stay unrendered. -/
abbrev Message := List Piece

end Python
