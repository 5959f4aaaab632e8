import LlmTts.Lib.Python
import Mathlib.Tactic.Ring

/-!
# The text of a datetime

`isoformat` and `fromisoformat` of aware datetimes. A moment is a number of
microseconds; the calendar splits the days into cycles of 400 years, years and months
(`locate`), and `fromIsoformat_isoformat` is the round trip.
-/

namespace Python

/-! ## Consecutive blocks -/

/-- Which of consecutive blocks of these lengths the position `n` lies in, and where. -/
def locate : (lengths : List Nat) → (n : Nat) → Nat × Nat
  | [], n => (0, n)
  | length :: lengths, n =>
    if n < length then (0, n)
    else
      let (k, rest) := locate lengths (n - length)
      (k + 1, rest)

theorem locate_sum (lengths : List Nat) (n : Nat) :
    (lengths.take (locate lengths n).1).sum + (locate lengths n).2 = n := by
  induction lengths generalizing n with
  | nil => simp [locate]
  | cons length lengths ih =>
    unfold locate
    split
    · simp
    · have rest := ih (n - length)
      simp only [List.take_succ_cons, List.sum_cons]
      omega

/-- A position before the end of the first `k` blocks lies in one of them. -/
theorem locate_lt {lengths : List Nat} {n k : Nat} (inside : n < (lengths.take k).sum) :
    (locate lengths n).1 < k := by
  induction lengths generalizing n k with
  | nil => simp at inside
  | cons length lengths ih =>
    cases k with
    | zero => simp at inside
    | succ k =>
      simp only [List.take_succ_cons, List.sum_cons] at inside
      unfold locate
      split
      · exact Nat.succ_pos k
      · have before := ih (n := n - length) (k := k) (by omega)
        show _ + 1 < k + 1
        omega

/-- It lies before the end of its block. -/
theorem locate_rest_lt {lengths : List Nat} {n : Nat} (inside : n < lengths.sum) :
    (locate lengths n).2 < lengths.getD (locate lengths n).1 0 := by
  induction lengths generalizing n with
  | nil => simp at inside
  | cons length lengths ih =>
    rw [List.sum_cons] at inside
    unfold locate
    split
    · rename_i here
      simpa using here
    · have rest := ih (n := n - length) (by omega)
      simpa using rest

/-! ## Digits of fixed width -/

/-- `n` with `width` digits. -/
def padded : (width n : Nat) → List Char
  | 0, _ => []
  | width + 1, n => Nat.digitChar (n / 10 ^ width % 10) :: padded width n

/-- The number of exactly `width` digits, after the digits of `value`. -/
def fixed? : (width value : Nat) → List Char → Option (Nat × List Char)
  | 0, value, cs => some (value, cs)
  | _ + 1, _, [] => none
  | width + 1, value, c :: cs => if c.isDigit then fixed? width (10 * value + (c.toNat - 48)) cs else none

theorem digitChar_digit {d : Nat} (small : d < 10) :
    (Nat.digitChar d).isDigit = true ∧ (Nat.digitChar d).toNat - 48 = d := by
  have all : ∀ d < 10, (Nat.digitChar d).isDigit = true ∧ (Nat.digitChar d).toNat - 48 = d := by decide
  exact all d small

theorem fixed?_padded (width value n : Nat) (rest : List Char) :
    fixed? width value (padded width n ++ rest) = some (value * 10 ^ width + n % 10 ^ width, rest) := by
  induction width generalizing value with
  | zero => simp [fixed?, padded, Nat.mod_one]
  | succ width ih =>
    obtain ⟨digit, same⟩ := digitChar_digit (Nat.mod_lt (n / 10 ^ width) (by decide : 0 < 10))
    show fixed? (width + 1) value (_ :: (padded width n ++ rest)) = _
    rw [fixed?, if_pos digit, same, ih]
    have split : n % 10 ^ (width + 1) = n % 10 ^ width + 10 ^ width * (n / 10 ^ width % 10) := by
      rw [pow_succ, Nat.mod_mul]
    rw [split]
    congr 2
    ring

/-- A number of that many digits is read back. -/
theorem fixed?_of_lt {width n : Nat} (short : n < 10 ^ width) (rest : List Char) :
    fixed? width 0 (padded width n ++ rest) = some (n, rest) := by
  rw [fixed?_padded, Nat.zero_mul, Nat.zero_add, Nat.mod_eq_of_lt short]

/-! ## Clock times -/

/-- Hours, minutes, seconds and microseconds. -/
structure Clock where
  hour : Nat
  minute : Nat
  second : Nat
  microsecond : Nat
  deriving DecidableEq, Repr

namespace Clock

def micros (clock : Clock) : Nat :=
  ((clock.hour * 60 + clock.minute) * 60 + clock.second) * 1000000 + clock.microsecond

def ofMicros (n : Nat) : Clock where
  hour := n / 3600000000
  minute := n / 60000000 % 60
  second := n / 1000000 % 60
  microsecond := n % 1000000

@[simp] theorem micros_ofMicros (n : Nat) : (ofMicros n).micros = n := by
  unfold micros ofMicros
  dsimp only
  omega

/-- `HH:MM`. -/
def hoursText (clock : Clock) : List Char := padded 2 clock.hour ++ ':' :: padded 2 clock.minute

/-- `.ffffff`, if there are any. -/
def fractionText (clock : Clock) : List Char :=
  if clock.microsecond = 0 then [] else '.' :: padded 6 clock.microsecond

/-- The text of a time. -/
def text (clock : Clock) : List Char := clock.hoursText ++ ':' :: padded 2 clock.second ++ clock.fractionText

/-- The text of an offset: its seconds are left out if there are none. -/
def offsetText (clock : Clock) : List Char :=
  if clock.second = 0 ∧ clock.microsecond = 0 then clock.hoursText else clock.text

/-- `[.fff[fff]]` -/
def fraction? : List Char → Option (Nat × List Char)
  | '.' :: cs =>
    match fixed? 6 0 cs with
    | some found => some found
    | none => (fixed? 3 0 cs).map fun (millis, rest) => (1000 * millis, rest)
  | cs => some (0, cs)

/-- `[:SS[.fff[fff]]]` -/
def seconds? : List Char → Option ((Nat × Nat) × List Char)
  | ':' :: cs => do
    let (second, cs) ← fixed? 2 0 cs
    let (microsecond, rest) ← fraction? cs
    return ((second, microsecond), rest)
  | cs => some ((0, 0), cs)

/-- `HH[:MM[:SS[.fff[fff]]]]` -/
def parse? (cs : List Char) : Option (Clock × List Char) := do
  let (hour, cs) ← fixed? 2 0 cs
  match cs with
  | ':' :: cs =>
    let (minute, cs) ← fixed? 2 0 cs
    let ((second, microsecond), rest) ← seconds? cs
    return (⟨hour, minute, second, microsecond⟩, rest)
  | rest => return (⟨hour, 0, 0, 0⟩, rest)

/-- The numbers have at most two, two, two and six digits. -/
structure Short (clock : Clock) : Prop where
  hour : clock.hour < 100
  minute : clock.minute < 100
  second : clock.second < 100
  microsecond : clock.microsecond < 1000000

/-- The time of a moment within a day. -/
theorem wall_ofMicros {n : Nat} (day : n < 86400000000) :
    (ofMicros n).hour < 24 ∧ (ofMicros n).minute < 60 ∧ (ofMicros n).second < 60 ∧
      (ofMicros n).microsecond < 1000000 := by
  unfold ofMicros
  dsimp only
  omega

theorem short_ofMicros {n : Nat} (day : n < 86400000000) : (ofMicros n).Short := by
  obtain ⟨hour, minute, second, microsecond⟩ := wall_ofMicros day
  constructor <;> omega

/-- A text that does not go on with a part of a time. -/
def Stops (rest : List Char) : Prop := ∀ c ∈ rest.head?, c ≠ ':' ∧ c ≠ '.'

variable {clock : Clock} {rest : List Char}

theorem fraction?_fractionText (short : clock.microsecond < 1000000) (stops : Stops rest) :
    fraction? (clock.fractionText ++ rest) = some (clock.microsecond, rest) := by
  unfold fractionText
  split
  · rename_i zero
    rw [zero, List.nil_append]
    unfold fraction?
    split
    · rename_i cs
      exact absurd rfl (stops '.' rfl).2
    · rfl
  · show fraction? ('.' :: (padded 6 clock.microsecond ++ rest)) = _
    have read := fixed?_of_lt (show clock.microsecond < 10 ^ 6 from short) rest
    simp only [fraction?, read]

theorem parse?_text (short : clock.Short) (stops : Stops rest) : parse? (clock.text ++ rest) = some (clock, rest) := by
  unfold text hoursText parse?
  simp only [List.append_assoc, List.cons_append]
  rw [fixed?_of_lt short.hour]
  simp only [Option.bind_eq_bind, Option.bind_some]
  rw [fixed?_of_lt short.minute]
  simp only [Option.bind_some, seconds?, Option.bind_eq_bind]
  rw [fixed?_of_lt short.second]
  simp only [Option.bind_some]
  rw [fraction?_fractionText short.microsecond stops]
  rfl

theorem parse?_hoursText (short : clock.Short) (stops : Stops rest) :
    parse? (clock.hoursText ++ rest) = some (⟨clock.hour, clock.minute, 0, 0⟩, rest) := by
  unfold hoursText parse?
  simp only [List.append_assoc, List.cons_append]
  rw [fixed?_of_lt short.hour]
  simp only [Option.bind_eq_bind, Option.bind_some]
  rw [fixed?_of_lt short.minute]
  simp only [Option.bind_some]
  have secondless : seconds? rest = some ((0, 0), rest) := by
    unfold seconds?
    split
    · exact absurd rfl (stops ':' rfl).1
    · rfl
  rw [secondless]
  rfl

theorem parse?_offsetText (short : clock.Short) (stops : Stops rest) :
    parse? (clock.offsetText ++ rest) = some (clock, rest) := by
  unfold offsetText
  split
  · rename_i zero
    rw [parse?_hoursText short stops]
    obtain ⟨hour, minute, second, microsecond⟩ := clock
    obtain ⟨rfl, rfl⟩ := zero
    rfl
  · exact parse?_text short stops

end Clock

/-! ## The calendar -/

/-- The leap years of the proleptic Gregorian calendar. -/
def isLeap (year : Nat) : Bool := year % 4 = 0 && (year % 100 ≠ 0 || year % 400 = 0)

/-- The lengths of the years 1 to 400. -/
def yearLengths : List Nat := (List.range 400).map fun y => if isLeap (y + 1) then 366 else 365

/-- The lengths of the months of a year. -/
def monthLengths (year : Nat) : List Nat :=
  [31, if isLeap year then 29 else 28, 31, 30, 31, 30, 31, 31, 30, 31, 30, 31]

/-- A date; year, month and day count from 1. -/
structure Date where
  year : Nat
  month : Nat
  day : Nat
  deriving DecidableEq, Repr

namespace Date

/-- The days of 400 years. -/
def cycleDays : Nat := 146097

/-- The date `n` days after the first of January of the year 1. -/
def ofDays (n : Nat) : Date :=
  let (y, rest) := locate yearLengths (n % cycleDays)
  let (m, d) := locate (monthLengths (y + 1)) rest
  ⟨n / cycleDays * 400 + y + 1, m + 1, d + 1⟩

/-- The days from the first of January of the year 1 to a date. -/
def days (date : Date) : Nat :=
  let y := (date.year - 1) % 400
  (date.year - 1) / 400 * cycleDays + (yearLengths.take y).sum +
    ((monthLengths (y + 1)).take (date.month - 1)).sum + (date.day - 1)

/-- The dates that `datetime` accepts. -/
def Valid (date : Date) : Prop :=
  1 ≤ date.year ∧ date.year ≤ 9999 ∧ 1 ≤ date.month ∧ date.month ≤ 12 ∧ 1 ≤ date.day ∧
    date.day ≤ (monthLengths ((date.year - 1) % 400 + 1)).getD (date.month - 1) 0

instance (date : Date) : Decidable date.Valid := inferInstanceAs (Decidable (_ ∧ _))

/-- The days of the years 1 to 9999. -/
def maxDays : Nat := 3652059

theorem yearLengths_sum : (yearLengths.take 400).sum = cycleDays := by decide +kernel

/-- The cycle of the year 9999 lacks its last year. -/
theorem yearLengths_last : (yearLengths.take 399).sum = cycleDays - 366 := by decide +kernel

theorem monthLengths_sum (year : Nat) : ((monthLengths year).take 12).sum = if isLeap year then 366 else 365 := by
  unfold monthLengths
  cases isLeap year <;> rfl

theorem yearLengths_getD {y : Nat} (inside : y < 400) :
    yearLengths.getD y 0 = if isLeap (y + 1) then 366 else 365 := by
  simp only [yearLengths, List.getD_eq_getElem?_getD, List.getElem?_map, List.getElem?_range inside, Option.map_some,
    Option.getD_some]

section OfDays

variable (n : Nat)

theorem year_lt : (locate yearLengths (n % cycleDays)).1 < 400 := by
  apply locate_lt
  rw [yearLengths_sum]
  exact Nat.mod_lt n (Nat.succ_pos _)

theorem rest_lt : (locate yearLengths (n % cycleDays)).2 <
    ((monthLengths ((locate yearLengths (n % cycleDays)).1 + 1)).take 12).sum := by
  have inside : n % cycleDays < yearLengths.sum := by
    have all : yearLengths.sum = cycleDays := by decide +kernel
    rw [all]
    exact Nat.mod_lt n (Nat.succ_pos _)
  have rest := locate_rest_lt inside
  rw [yearLengths_getD (year_lt n)] at rest
  rw [monthLengths_sum]
  exact rest

/-- The date of a day is that day. -/
theorem days_ofDays : (ofDays n).days = n := by
  have year := year_lt n
  have inYear := locate_sum yearLengths (n % cycleDays)
  have inMonth := locate_sum (monthLengths ((locate yearLengths (n % cycleDays)).1 + 1))
    (locate yearLengths (n % cycleDays)).2
  unfold ofDays days
  dsimp only
  have cycle : (n / cycleDays * 400 + (locate yearLengths (n % cycleDays)).1 + 1 - 1) / 400 = n / cycleDays := by omega
  have position : (n / cycleDays * 400 + (locate yearLengths (n % cycleDays)).1 + 1 - 1) % 400 =
      (locate yearLengths (n % cycleDays)).1 := by omega
  rw [cycle, position, Nat.add_sub_cancel, Nat.add_sub_cancel]
  have whole := Nat.div_add_mod' n cycleDays
  omega

/-- The days up to the year 9999 have a date that `datetime` accepts. -/
theorem valid_ofDays (inRange : n < maxDays) : (ofDays n).Valid := by
  have year := year_lt n
  have month : (locate (monthLengths ((locate yearLengths (n % cycleDays)).1 + 1))
      (locate yearLengths (n % cycleDays)).2).1 < 12 := locate_lt (rest_lt n)
  have day : (locate (monthLengths ((locate yearLengths (n % cycleDays)).1 + 1))
        (locate yearLengths (n % cycleDays)).2).2 <
      (monthLengths ((locate yearLengths (n % cycleDays)).1 + 1)).getD
        (locate (monthLengths ((locate yearLengths (n % cycleDays)).1 + 1))
          (locate yearLengths (n % cycleDays)).2).1 0 := locate_rest_lt (rest_lt n)
  have last : n / cycleDays = 24 → (locate yearLengths (n % cycleDays)).1 < 399 := by
    intro final
    apply locate_lt
    rw [yearLengths_last]
    unfold maxDays at inRange
    unfold cycleDays at final ⊢
    omega
  have cycle : n / cycleDays ≤ 24 := by
    unfold maxDays at inRange
    unfold cycleDays
    omega
  have position : (n / cycleDays * 400 + (locate yearLengths (n % cycleDays)).1 + 1 - 1) % 400 =
      (locate yearLengths (n % cycleDays)).1 := by omega
  unfold Valid ofDays
  dsimp only
  rw [position, Nat.add_sub_cancel]
  refine ⟨by omega, by omega, by omega, by omega, by omega, ?_⟩
  omega

end OfDays

/-- `YYYY-MM-DD`. -/
def text (date : Date) : List Char :=
  padded 4 date.year ++ '-' :: padded 2 date.month ++ '-' :: padded 2 date.day

def parse? (cs : List Char) : Option (Date × List Char) := do
  let (year, cs) ← fixed? 4 0 cs
  match cs with
  | '-' :: cs =>
    let (month, cs) ← fixed? 2 0 cs
    match cs with
    | '-' :: cs =>
      let (day, rest) ← fixed? 2 0 cs
      return (⟨year, month, day⟩, rest)
    | _ => none
  | _ => none

theorem monthLengths_le (year month : Nat) : (monthLengths year).getD month 0 ≤ 31 := by
  have all : ∀ length ∈ monthLengths year, length ≤ 31 := by
    unfold monthLengths
    cases isLeap year <;> decide
  rw [List.getD_eq_getElem?_getD]
  cases found : (monthLengths year)[month]? with
  | none => exact Nat.zero_le 31
  | some length => exact all length (List.mem_of_getElem? found)

/-- A valid date fits its text. -/
theorem Valid.short {date : Date} (valid : date.Valid) : date.year < 10000 ∧ date.month < 100 ∧ date.day < 100 := by
  obtain ⟨-, year, -, month, -, day⟩ := valid
  have longest := monthLengths_le ((date.year - 1) % 400 + 1) (date.month - 1)
  omega

theorem parse?_text {date : Date} (year : date.year < 10000) (month : date.month < 100) (day : date.day < 100)
    (rest : List Char) : parse? (date.text ++ rest) = some (date, rest) := by
  unfold text parse?
  simp only [List.append_assoc, List.cons_append]
  rw [fixed?_of_lt year]
  simp only [Option.bind_eq_bind, Option.bind_some]
  rw [fixed?_of_lt month]
  simp only [Option.bind_some]
  rw [fixed?_of_lt day]
  rfl

end Date

/-! ## Datetimes -/

namespace DateTime

/-- The microseconds of a day. -/
def dayMicros : Int := 86400000000

/-- The microseconds from the first of January of the year 1 to the epoch. -/
def epochMicros : Int := 719162 * dayMicros

/-- The microseconds on the local clock since the first of January of the year 1. -/
def localMicros (t : DateTime) : Int := t.micros + t.utcOffset + epochMicros

/-- The aware datetimes that there are: the local year is one of 1 to 9999, and the
offset is less than a day. -/
structure InRange (t : DateTime) : Prop where
  start : 0 ≤ t.localMicros
  stop : t.localMicros < Date.maxDays * dayMicros
  west : -dayMicros < t.utcOffset
  east : t.utcOffset < dayMicros

instance (t : DateTime) : Decidable t.InRange :=
  decidable_of_iff (0 ≤ t.localMicros ∧ t.localMicros < Date.maxDays * dayMicros ∧ -dayMicros < t.utcOffset ∧
      t.utcOffset < dayMicros)
    ⟨fun ⟨start, stop, west, east⟩ => ⟨start, stop, west, east⟩,
      fun ⟨start, stop, west, east⟩ => ⟨start, stop, west, east⟩⟩

/-- `isoformat()`. -/
def isoformat (t : DateTime) : String :=
  let date := Date.ofDays (t.localMicros / dayMicros).toNat
  let clock := Clock.ofMicros (t.localMicros % dayMicros).toNat
  let offset := Clock.ofMicros t.utcOffset.natAbs
  String.ofList (date.text ++ 'T' :: clock.text ++ (if t.utcOffset < 0 then '-' else '+') :: offset.offsetText)

/-- The sign of an offset. -/
def sign? : Char → Option Int
  | '+' => some 1
  | '-' => some (-1)
  | _ => none

/-- `fromisoformat` on the formats that `isoformat` emits, with any separator. A text
without an offset, which is that of a naive datetime, is left out. -/
def fromisoformat (text : String) : Option DateTime := do
  let (date, cs) ← Date.parse? text.toList
  let _ :: cs := cs | none
  let (clock, cs) ← Clock.parse? cs
  let mark :: cs := cs | none
  let sign ← sign? mark
  let (offset, rest) ← Clock.parse? cs
  if date.Valid ∧ clock.hour < 24 ∧ clock.minute < 60 ∧ clock.second < 60 ∧ (offset.micros : Int) < dayMicros ∧
      rest = [] then
    some ⟨date.days * dayMicros + clock.micros - sign * offset.micros - epochMicros, sign * offset.micros⟩
  else none

theorem sign?_mark (offset : Int) : sign? (if offset < 0 then '-' else '+') = some (if offset < 0 then -1 else 1) := by
  split <;> rfl

theorem stops_mark (offset : Int) (rest : List Char) :
    Clock.Stops ((if offset < 0 then '-' else '+') :: rest) := by
  intro c first
  cases first
  split <;> decide

/-- A datetime is read back from its text. -/
theorem fromisoformat_isoformat {t : DateTime} (inRange : t.InRange) : fromisoformat t.isoformat = some t := by
  obtain ⟨start, stop, west, east⟩ := inRange
  unfold dayMicros at west east stop
  have days : (t.localMicros / dayMicros).toNat < Date.maxDays := by unfold dayMicros; omega
  have micros : (t.localMicros % dayMicros).toNat < 86400000000 := by unfold dayMicros; omega
  have valid := Date.valid_ofDays _ days
  obtain ⟨year, month, day⟩ := valid.short
  have clock := Clock.short_ofMicros micros
  have offset := Clock.short_ofMicros (n := t.utcOffset.natAbs) (by omega)
  unfold isoformat fromisoformat
  simp only [String.toList_ofList, List.append_assoc, List.cons_append]
  rw [Date.parse?_text year month day]
  simp only [Option.bind_eq_bind, Option.bind_some]
  rw [Clock.parse?_text clock (stops_mark _ _)]
  simp only [Option.bind_some, sign?_mark]
  have ends : Clock.Stops [] := by
    intro c first
    cases first
  have last := Clock.parse?_offsetText offset ends
  rw [List.append_nil] at last
  rw [last]
  simp only [Option.bind_some, Clock.micros_ofMicros, Date.days_ofDays]
  obtain ⟨hour, minute, second, -⟩ := Clock.wall_ofMicros micros
  rw [if_pos ⟨valid, hour, minute, second, by unfold dayMicros; omega, trivial⟩]
  have signed : (if t.utcOffset < 0 then -1 else 1) * (t.utcOffset.natAbs : Int) = t.utcOffset := by
    split <;> omega
  have whole := Int.mul_ediv_add_emod t.localMicros dayMicros
  have total : ((t.localMicros / dayMicros).toNat : Int) * dayMicros + (t.localMicros % dayMicros).toNat =
      t.localMicros := by
    unfold dayMicros at whole ⊢
    omega
  have moment : t.micros + t.utcOffset + epochMicros - t.utcOffset - epochMicros = t.micros := by omega
  rw [signed, total, localMicros, moment]

end DateTime

end Python
