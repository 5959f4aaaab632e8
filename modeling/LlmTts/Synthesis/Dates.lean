import LlmTts.Synthesis.Numbers

/-!
# Dates

A match of the pattern of `expand_dates` is a day, a month and a year between word
boundaries. A year below 100 is put into the years from 2000 on, also when it is written
with more than two digits: `expand_dates` reads the dates as they are written exactly when
that does not happen to a date that would be valid there.
-/

namespace LlmTts
open Python Regex Runs

/-! ## The digits of a number -/

/-- The value of a run of digits. -/
def numberValue (digits : List Char) : Nat := digits.foldl (fun value c => 10 * value + (decimal? c).getD 0) 0

theorem ne_underscore {c : Char} (digit : isDecimal c = true) : c ≠ '_' := by
  rintro rfl
  revert digit
  decide

theorem digitsValue?_of_digits {digits : List Char} (all : ∀ c ∈ digits, isDecimal c = true) (before : Bool) (value : Nat)
    (started : before = true ∨ digits ≠ []) : digitsValue? before value digits =
      some (digits.foldl (fun value c => 10 * value + (decimal? c).getD 0) value) := by
  induction digits generalizing before value with
  | nil =>
    rcases started with rfl | nonempty
    · rfl
    · exact absurd rfl nonempty
  | cons c cs ih =>
    obtain ⟨here, later⟩ := List.forall_mem_cons.1 all
    obtain ⟨d, digit⟩ := Option.isSome_iff_exists.1 here
    unfold digitsValue?
    rw [if_neg (ne_underscore here), digit, Option.bind_some, ih later _ _ (.inl rfl), List.foldl_cons, digit, Option.getD_some]

/-- `int()` of digits. -/
theorem intOfDigits_eq {digits : List Char} (nonempty : digits ≠ []) (all : ∀ c ∈ digits, isDecimal c = true) :
    intOfDigits digits = if maxStrDigits < digits.length then .error .digits else .ok (numberValue digits) := by
  have counted : digits.countP (· ≠ '_') = digits.length := by
    apply List.countP_eq_length.2
    intro c member
    exact decide_eq_true (ne_underscore (all c member))
  unfold intOfDigits natValue?
  rw [counted, digitsValue?_of_digits all false 0 (.inr nonempty)]
  by_cases long : maxStrDigits < digits.length
  · rw [if_pos long, if_pos long]
  · rw [if_neg long, if_neg long]
    rfl

theorem decimal?_lt {c : Char} : (decimal? c).getD 0 < 10 := by
  cases digit : decimal? c with
  | none => decide
  | some d =>
    obtain ⟨first, found, rfl⟩ := Option.map_eq_some_iff.1 digit
    have inside := List.find?_some found
    rw [Bool.and_eq_true, decide_eq_true_eq, decide_eq_true_eq] at inside
    show c.toNat - first < 10
    omega

theorem numberValue_lt (digits : List Char) : numberValue digits < 10 ^ digits.length := by
  induction digits using List.reverseRecOn with
  | nil => exact Nat.one_pos
  | append_singleton digits c ih =>
    unfold numberValue at *
    have small := decimal?_lt (c := c)
    rw [List.foldl_append, List.length_append, List.length_singleton, pow_succ]
    show 10 * _ + (decimal? c).getD 0 < _
    omega

/-! ## The shape of a date -/

/-- The text of a date token. -/
def dateText (day month year : List Char) : List Char := day ++ '/' :: (month ++ '/' :: year)

theorem length_dateText (day month year : List Char) :
    (dateText day month year).length = day.length + 1 + month.length + 1 + year.length := by
  rw [dateText, List.length_append, List.length_cons, List.length_append, List.length_cons]
  omega

/-- The groups of a date token. -/
structure DateDigits (day month year : List Char) : Prop where
  dayDigits : ∀ c ∈ day, isDecimal c = true
  monthDigits : ∀ c ∈ month, isDecimal c = true
  yearDigits : ∀ c ∈ year, isDecimal c = true
  dayLength : 1 ≤ day.length ∧ day.length ≤ 2
  monthLength : 1 ≤ month.length ∧ month.length ≤ 2
  yearLength : 2 ≤ year.length ∧ year.length ≤ 4

theorem not_mem_of_digits {c : Char} (nondigit : isDecimal c = false) {digits : List Char}
    (all : ∀ c ∈ digits, isDecimal c = true) : c ∉ digits := by
  intro member
  rw [all c member] at nondigit
  cases nondigit

/-- There are digits and slashes in the text of a date. -/
theorem not_mem_dateText {c : Char} (nondigit : isDecimal c = false) (apart : c ≠ '/') {day month year : List Char}
    (date : DateDigits day month year) : c ∉ dateText day month year := by
  unfold dateText
  simp only [List.mem_append, List.mem_cons, not_or]
  exact ⟨not_mem_of_digits nondigit date.dayDigits, apart, not_mem_of_digits nondigit date.monthDigits, apart,
    not_mem_of_digits nondigit date.yearDigits⟩

theorem takeWhile_digits_append {digits tail : List Char} (all : ∀ c ∈ digits, isDecimal c = true)
    (ends : ∀ c ∈ tail.head?, isDecimal c = false) : (digits ++ tail).takeWhile isDecimal = digits := by
  rw [List.takeWhile_append_of_pos all]
  cases tail with
  | nil => exact List.append_nil digits
  | cons c cs => rw [List.takeWhile_cons_of_neg (Bool.eq_false_iff.1 (ends c rfl)), List.append_nil]

theorem dateGroups_dateText {day month year tail : List Char} (date : DateDigits day month year)
    (ends : ∀ c ∈ tail.head?, isDecimal c = false) : dateGroups (dateText day month year ++ tail) = (day, month, year) := by
  have slash : ∀ rest : List Char, ∀ c ∈ ('/' :: rest).head?, isDecimal c = false := by
    intro rest c same
    cases same
    decide
  have first : (dateText day month year ++ tail).takeWhile isDecimal = day := by
    rw [dateText, List.append_assoc, List.cons_append, takeWhile_digits_append date.dayDigits (slash _)]
  have afterDay : (dateText day month year ++ tail).drop (day.length + 1) = month ++ '/' :: (year ++ tail) := by
    rw [dateText, List.append_assoc, ← List.drop_drop, List.drop_left]
    show (month ++ '/' :: year) ++ tail = _
    rw [List.append_assoc, List.cons_append]
  have second := takeWhile_digits_append date.monthDigits (slash (year ++ tail))
  have afterMonth : (month ++ '/' :: (year ++ tail)).drop (month.length + 1) = year ++ tail := by
    rw [← List.drop_drop, List.drop_left]
    rfl
  unfold dateGroups
  dsimp only
  rw [first, afterDay, second, afterMonth, takeWhile_digits_append date.yearDigits ends]

/-- What is before, at and behind the character that ends a run. -/
theorem takeWhile_append_at {cs : List Char} {c : Char} (here : cs[(cs.takeWhile isDecimal).length]? = some c) :
    cs = cs.takeWhile isDecimal ++ c :: cs.drop ((cs.takeWhile isDecimal).length + 1) := by
  obtain ⟨inside, same⟩ := List.getElem?_eq_some_iff.1 here
  rw [← same, ← List.drop_eq_getElem_cons inside, drop_takeWhile, List.takeWhile_append_dropWhile]

variable {words : WordChars}

/-- What the pattern matches. -/
theorem datePattern_shape {before : Option Char} {rest : List Char} {n : Nat}
    (found : datePattern words before rest = n + 1) : ∃ day month year tail, DateDigits day month year ∧
      rest = dateText day month year ++ tail ∧ (dateText day month year).length = n + 1 ∧
      boundary words before = true ∧ boundary words tail.head? = true := by
  have groups : ∃ day month year, dateGroups rest = (day, month, year) := ⟨_, _, _, rfl⟩
  obtain ⟨day, month, year, same⟩ := groups
  unfold datePattern at found
  rw [same] at found
  dsimp only at found
  split at found
  · rename_i condition
    obtain ⟨outside, dayLength, slash, monthLength, slash', yearLength, ends⟩ := condition
    unfold dateGroups at same
    dsimp only at same
    obtain ⟨rfl, later⟩ := Prod.mk.inj same
    obtain ⟨rfl, rfl⟩ := Prod.mk.inj later
    -- the text behind the day, and the text behind the month
    rw [← List.getElem?_drop] at slash'
    have front := takeWhile_append_at slash
    generalize rest.drop ((rest.takeWhile isDecimal).length + 1) = second at *
    have middle := takeWhile_append_at slash'
    generalize second.drop ((second.takeWhile isDecimal).length + 1) = third at *
    have whole : rest = dateText (rest.takeWhile isDecimal) (second.takeWhile isDecimal) (third.takeWhile isDecimal) ++
        third.dropWhile isDecimal := by
      rw [dateText, List.append_assoc, List.cons_append, List.append_assoc, List.cons_append, List.takeWhile_append_dropWhile,
        ← middle, ← front]
    have length : (dateText (rest.takeWhile isDecimal) (second.takeWhile isDecimal) (third.takeWhile isDecimal)).length =
        n + 1 := by
      rw [← found, length_dateText]
    have digits : ∀ text : List Char, ∀ c ∈ text.takeWhile isDecimal, isDecimal c = true := fun _ _ => List.mem_takeWhile_imp
    refine ⟨_, _, _, _, ⟨digits _, digits _, digits _, dayLength, monthLength, yearLength⟩, whole, length, outside, ?_⟩
    rw [found, ← length, (congrArg (List.drop _) whole).trans List.drop_left] at ends
    exact ends
  · cases found

/-- A word character is no digit's neighbour at a boundary. -/
theorem not_decimal_of_boundary {c : Option Char} (outside : boundary words c = true) : ∀ d ∈ c, isDecimal d = false := by
  intro d same
  apply Bool.eq_false_iff.2
  intro digit
  have here := boundary_iff.1 outside d same
  rw [words.digit d digit] at here
  cases here

/-- What has the shape of a date is matched. -/
theorem datePattern_dateText {day month year tail : List Char} (date : DateDigits day month year) {before : Option Char}
    (outside : boundary words before = true) (ends : boundary words tail.head? = true) :
    datePattern words before (dateText day month year ++ tail) = (dateText day month year).length := by
  have groups := dateGroups_dateText date (not_decimal_of_boundary ends)
  have slash : (dateText day month year ++ tail)[day.length]? = some '/' := by
    rw [dateText, List.append_assoc, List.getElem?_append_right (Nat.le_refl _), Nat.sub_self]
    rfl
  have slash' : (dateText day month year ++ tail)[day.length + 1 + month.length]? = some '/' := by
    rw [dateText, List.append_assoc, List.getElem?_append_right (by omega), List.cons_append, List.append_assoc]
    have inner : day.length + 1 + month.length - day.length = month.length + 1 := by omega
    rw [inner, List.getElem?_cons_succ, List.getElem?_append_right (Nat.le_refl _), Nat.sub_self]
    rfl
  unfold datePattern
  rw [groups]
  dsimp only
  rw [← length_dateText, List.drop_left]
  exact if_pos ⟨outside, date.dayLength, slash, date.monthLength, slash', date.yearLength, ends⟩

/-! ## Words for numbers -/

/-- What `num2words` documents: it refuses the languages it does not know and the numbers
beyond the largest scale word of a language, and says the others without digits. -/
structure SaysNumbers (num2words : Nat → String → Except NumberError String) (knows : String → Bool)
    (limit : String → Nat) : Prop where
  unknown : ∀ value lang, knows lang = false → num2words value lang = .error .notImplemented
  beyond : ∀ value lang, knows lang = true → limit lang ≤ value → ∃ message, num2words value lang = .error (.other message)
  within : ∀ value lang, knows lang = true → value < limit lang → ∃ said, num2words value lang = .ok said
  digitless : ∀ value lang said, num2words value lang = .ok said → ∀ c ∈ said.toList, isDecimal c = false
  english : knows "en" = true
  thousands : ∀ lang, 10000 ≤ limit lang

variable {num2words : Num2words} {knows : String → Bool} {limit : String → Nat}

/-- The language in which a number is said. -/
def spokenIn (knows : String → Bool) (langCode : String) : String := if knows langCode then langCode else "en"

theorem numberToWords_eq {f : Nat → String → Except NumberError String} (documented : SaysNumbers f knows limit) (value : Nat)
    (langCode : String) : numberToWords (some f) value langCode = f value (spokenIn knows langCode) := by
  unfold numberToWords spokenIn
  cases known : knows langCode with
  | false =>
    dsimp only
    rw [documented.unknown value langCode known]
    rfl
  | true =>
    by_cases small : value < limit langCode
    · obtain ⟨said, same⟩ := documented.within value langCode known small
      dsimp only
      rw [same]
      exact same.symm
    · obtain ⟨message, same⟩ := documented.beyond value langCode known (not_lt.1 small)
      dsimp only
      rw [same]
      exact same.symm

theorem knows_spokenIn {f : Nat → String → Except NumberError String} (documented : SaysNumbers f knows limit)
    (langCode : String) : knows (spokenIn knows langCode) = true := by
  unfold spokenIn
  split
  · assumption
  · exact documented.english

/-- A number is said unless it is too large for the language. -/
theorem numberToWords_ok_iff (documented : ∀ f ∈ num2words, SaysNumbers f knows limit) {value : Nat} {langCode : String} :
    (∃ said, numberToWords num2words value langCode = .ok said) ↔
      (num2words.isSome = true → value < limit (spokenIn knows langCode)) := by
  cases num2words with
  | none => exact iff_of_true ⟨_, rfl⟩ nofun
  | some f =>
    have documented := documented f rfl
    rw [numberToWords_eq documented]
    constructor
    · rintro ⟨said, same⟩ -
      by_contra large
      obtain ⟨message, raised⟩ := documented.beyond value _ (knows_spokenIn documented langCode) (not_lt.1 large)
      rw [raised] at same
      cases same
    · intro small
      exact documented.within value _ (knows_spokenIn documented langCode) (small rfl)

/-- The numbers of a date have words. -/
def Says (num2words : Num2words) (langCode : String) : Prop :=
  ∀ n < 10000, ∃ said, numberToWords num2words n langCode = .ok said

theorem says_of_documented (documented : ∀ f ∈ num2words, SaysNumbers f knows limit) (langCode : String) :
    Says num2words langCode := by
  intro n inside
  apply (numberToWords_ok_iff documented).2
  intro installed
  obtain ⟨f, rfl⟩ := Option.isSome_iff_exists.1 installed
  exact Nat.lt_of_lt_of_le inside ((documented f rfl).thousands _)

/-- What the dates need of `num2words`, in a language that has names of the months: words
for their numbers, and other words for a year below 100 than for the one 2000 years later. -/
structure SaysDates (num2words : Nat → String → Except NumberError String) : Prop where
  sayable : ∀ langCode, monthNames langCode ≠ [] → Says (some num2words) langCode
  apart : ∀ langCode, monthNames langCode ≠ [] → ∀ n < 100,
    numberToWords (some num2words) n langCode ≠ numberToWords (some num2words) (n + 2000) langCode

theorem says_of_dates (dates : ∀ f ∈ num2words, SaysDates f) {langCode : String} (supported : monthNames langCode ≠ []) :
    Says num2words langCode := by
  cases num2words with
  | none => exact fun n _ => ⟨_, rfl⟩
  | some f => exact (dates f rfl).sayable langCode supported

/-! ## What stands for a date -/

/-- `normalized_year`. -/
def normalizedYear (value : Nat) : Nat := if value < 100 then value + 2000 else value

variable {day month year : List Char}

theorem ok_of_short {digits : List Char} (all : ∀ c ∈ digits, isDecimal c = true) (short : 1 ≤ digits.length ∧ digits.length ≤ 4) :
    intOfDigits digits = .ok (numberValue digits) := by
  have nonempty : digits ≠ [] := List.ne_nil_of_length_pos short.1
  have fits : ¬maxStrDigits < digits.length := by
    unfold maxStrDigits
    omega
  rw [intOfDigits_eq nonempty all, if_neg fits]

theorem dateGroups_token (date : DateDigits day month year) : dateGroups (dateText day month year) = (day, month, year) := by
  have whole : dateGroups (dateText day month year ++ []) = (day, month, year) := dateGroups_dateText date nofun
  rwa [List.append_nil] at whole

theorem replaceDate_eq (date : DateDigits day month year) (langCode : String) :
    replaceDate num2words langCode (dateText day month year) =
      if (Date.mk (normalizedYear (numberValue year)) (numberValue month) (numberValue day)).Valid then
        (dateToWords num2words ⟨normalizedYear (numberValue year), numberValue month, numberValue day⟩ langCode).map String.toList
      else .ok (dateText day month year) := by
  have dayLength := date.dayLength
  have monthLength := date.monthLength
  have yearLength := date.yearLength
  unfold replaceDate
  rw [dateGroups_token date]
  dsimp only
  rw [ok_of_short date.dayDigits ⟨by omega, by omega⟩, ok_of_short date.monthDigits ⟨by omega, by omega⟩,
    ok_of_short date.yearDigits ⟨by omega, by omega⟩]
  show (if (Date.mk (normalizedYear (numberValue year)) (numberValue month) (numberValue day)).Valid then
      (dateToWords num2words ⟨normalizedYear (numberValue year), _, _⟩ langCode).bind fun said => .ok said.toList
    else .ok (dateText day month year)) = _
  cases dateToWords num2words ⟨normalizedYear (numberValue year), _, _⟩ langCode <;> rfl

theorem monthNames_cases (langCode : String) : monthNames langCode = [] ∨ (monthNames langCode).length = 12 := by
  unfold monthNames
  split
  · exact .inr rfl
  · split
    · exact .inr rfl
    · exact .inl rfl

/-- Where there are no names of the months, a date is put together of its numbers. -/
theorem dateToWords_of_unsupported {langCode : String} (unsupported : monthNames langCode = []) (date : Date) :
    dateToWords num2words date langCode =
      .ok (intStr date.day ++ "/" ++ intStr date.month ++ "/" ++ intStr date.year) := by
  unfold dateToWords
  rw [unsupported]
  rfl

/-- The words for a date, where the months have names. -/
def DateWords (num2words : Num2words) (langCode : String) (date : Date) (said : String) : Prop :=
  ∃ dayWords monthName yearWords, numberToWords num2words date.day langCode = .ok dayWords ∧
    (monthNames langCode)[date.month - 1]? = some monthName ∧ numberToWords num2words date.year langCode = .ok yearWords ∧
      said = dayWords ++ " " ++ monthName ++ " " ++ yearWords

theorem dateToWords_of_supported {langCode : String} (sayable : Says num2words langCode)
    (supported : monthNames langCode ≠ []) {date : Date} (valid : date.Valid) :
    ∃ said, dateToWords num2words date langCode = .ok said ∧ DateWords num2words langCode date said := by
  have twelve := (monthNames_cases langCode).resolve_left supported
  have short := valid.short
  obtain ⟨dayWords, day⟩ := sayable date.day (by omega)
  obtain ⟨yearWords, year⟩ := sayable date.year short.1
  have named : date.month - 1 < (monthNames langCode).length := by
    rw [twelve]
    have last := valid.2.2.2.1
    omega
  have month := List.getElem?_eq_getElem named
  refine ⟨_, ?_, dayWords, _, yearWords, day, month, year, rfl⟩
  unfold dateToWords
  rw [month]
  dsimp only
  rw [day, year]
  rfl

/-! ## Dates as they are written -/

/-- The date that a token denotes: a year of two digits is one from 2000 on. -/
def denoted (token : List Char) : Date :=
  let (day, month, year) := dateGroups token
  ⟨if year.length = 2 then numberValue year + 2000 else numberValue year, numberValue month, numberValue day⟩

section Spec

variable (num2words words) (text : List Char) (langCode : String)

/-- The date tokens of a text. -/
def dateTokens : List (List Char) := (tokens (datePattern words) none 0 text).filterMap Sum.getRight?

/-- `expand_dates` reads the dates of a text as they are written. -/
structure ReadsDates : Prop where
  outside : expandDates num2words words text langCode =
    .ok (sub (datePattern words) (replaced (replaceDate num2words langCode)) text)
  invalid : ∀ token ∈ dateTokens words text, ¬(denoted token).Valid → replaceDate num2words langCode token = .ok token
  valid : ∀ token ∈ dateTokens words text, (denoted token).Valid → monthNames langCode ≠ [] →
    ∃ said, replaceDate num2words langCode token = .ok said.toList ∧ DateWords num2words langCode (denoted token) said

end Spec

/-- A year below 100 with three or four digits, in a date that is valid from 2000 on: there
is no year 0, and in a language without names of the months nothing is said of the others. -/
def Misread (langCode : String) (token : List Char) : Prop :=
  2 < (dateGroups token).2.2.length ∧ numberValue (dateGroups token).2.2 < 100 ∧
    (Date.mk (numberValue (dateGroups token).2.2 + 2000) (numberValue (dateGroups token).2.1)
      (numberValue (dateGroups token).1)).Valid ∧
    (numberValue (dateGroups token).2.2 = 0 ∨ monthNames langCode ≠ [])

instance (langCode : String) (token : List Char) : Decidable (Misread langCode token) :=
  inferInstanceAs (Decidable (_ ∧ _))

theorem mem_dateTokens_iff {text token : List Char} :
    token ∈ dateTokens words text ↔ .inr token ∈ tokens (datePattern words) none 0 text := by
  unfold dateTokens
  rw [List.mem_filterMap]
  constructor
  · rintro ⟨found, there, same⟩
    rw [Sum.getRight?_eq_some_iff.1 same] at there
    exact there
  · exact fun there => ⟨_, there, rfl⟩

theorem shape_of_mem_dateTokens {text token : List Char} (member : token ∈ dateTokens words text) :
    ∃ day month year, DateDigits day month year ∧ token = dateText day month year := by
  obtain ⟨before, rest, n, length, rfl⟩ := exists_of_mem_match (mem_dateTokens_iff.1 member)
  obtain ⟨day, month, year, tail, date, rfl, counted, -, -⟩ := datePattern_shape length
  exact ⟨day, month, year, date, List.take_left' counted⟩

/-- The Gregorian calendar repeats after 400 years. -/
theorem valid_shift {year : Nat} (started : 1 ≤ year) (small : year < 100) (month day : Nat) :
    (Date.mk (year + 2000) month day).Valid ↔ (Date.mk year month day).Valid := by
  have cycle : (year + 2000 - 1) % 400 = (year - 1) % 400 := by omega
  unfold Date.Valid
  dsimp only
  rw [cycle]
  omega

theorem intStr_inj {m n : Nat} (same : intStr m = intStr n) : m = n := by
  have digits := String.ofList_inj.1 same
  rw [if_neg (Int.not_lt.2 (Int.natCast_nonneg m)), if_neg (Int.not_lt.2 (Int.natCast_nonneg n))] at digits
  have read := congrArg (fun digits => Nat.ofDigitChars 10 digits 0) (List.append_cancel_left digits)
  rwa [Int.natAbs_natCast, Int.natAbs_natCast, Nat.ofDigitChars_toDigits (by decide) (by decide),
    Nat.ofDigitChars_toDigits (by decide) (by decide)] at read

/-- A date token without its text: what `expand_dates` makes of it, and what it should. -/
def ReadsDate (num2words : Num2words) (langCode : String) (token : List Char) : Prop :=
  (¬(denoted token).Valid → replaceDate num2words langCode token = .ok token) ∧
    ((denoted token).Valid → monthNames langCode ≠ [] →
      ∃ said, replaceDate num2words langCode token = .ok said.toList ∧ DateWords num2words langCode (denoted token) said)

theorem denoted_dateText (date : DateDigits day month year) : denoted (dateText day month year) =
    ⟨if year.length = 2 then numberValue year + 2000 else numberValue year, numberValue month, numberValue day⟩ := by
  unfold denoted
  rw [dateGroups_token date]

theorem misread_iff (date : DateDigits day month year) (langCode : String) : Misread langCode (dateText day month year) ↔
    2 < year.length ∧ numberValue year < 100 ∧
      (Date.mk (numberValue year + 2000) (numberValue month) (numberValue day)).Valid ∧
        (numberValue year = 0 ∨ monthNames langCode ≠ []) := by
  unfold Misread
  rw [dateGroups_token date]

/-- Where the year is the one that is denoted, the date is read as it is written. -/
theorem readsDate_of_same {langCode : String} (sayable : monthNames langCode ≠ [] → Says num2words langCode)
    (date : DateDigits day month year) (same : denoted (dateText day month year) =
      ⟨normalizedYear (numberValue year), numberValue month, numberValue day⟩) :
    ReadsDate num2words langCode (dateText day month year) := by
  have replacement : replaceDate num2words langCode _ = _ := replaceDate_eq date langCode
  rw [← same] at replacement
  constructor
  · intro invalid
    rw [replacement, if_neg invalid]
  · intro valid supported
    obtain ⟨said, run, spoken⟩ := dateToWords_of_supported (sayable supported) supported valid
    refine ⟨said, ?_, spoken⟩
    rw [replacement, if_pos valid, run]
    rfl

/-- The last of the groups that slashes set apart. -/
theorem last_group {front last : List Char} (slashless : '/' ∉ last) :
    (front ++ '/' :: last).rtakeWhile (· ≠ '/') = last := by
  have back : (front ++ '/' :: last).reverse = last.reverse ++ '/' :: front.reverse := by
    rw [List.reverse_append, List.reverse_cons, List.append_assoc, List.singleton_append]
  have kept : ∀ c ∈ last.reverse, decide (c ≠ '/') = true := by
    intro c member
    apply decide_eq_true
    rintro rfl
    exact slashless (List.mem_reverse.1 member)
  rw [List.rtakeWhile, back, List.takeWhile_append_of_pos kept, List.takeWhile_cons_of_neg (by decide), List.append_nil,
    List.reverse_reverse]

/-- A date that is put into the year 2000 is not left as it is. -/
theorem replaceDate_ne (date : DateDigits day month year) (zero : numberValue year = 0)
    (valid : (Date.mk 2000 (numberValue month) (numberValue day)).Valid) (langCode : String) :
    replaceDate num2words langCode (dateText day month year) ≠ .ok (dateText day month year) := by
  intro left
  have shifted : normalizedYear (numberValue year) = 2000 := by rw [zero, normalizedYear, if_pos (by decide)]
  rw [replaceDate_eq date, shifted, if_pos valid] at left
  unfold dateToWords at left
  cases named : (monthNames langCode)[numberValue month - 1]? with
  | none =>
    -- the year is written out
    rw [named] at left
    have same : (intStr (numberValue day) ++ "/" ++ intStr (numberValue month) ++ "/" ++ intStr (2000 : Nat)).toList =
        dateText day month year := Except.ok.inj left
    have groups : (intStr (numberValue day) ++ "/" ++ intStr (numberValue month)).toList ++ '/' :: ['2', '0', '0', '0'] =
        (day ++ '/' :: month) ++ '/' :: year := by
      have written : (intStr (2000 : Nat)).toList = ['2', '0', '0', '0'] := by decide
      have slash : "/".toList = ['/'] := rfl
      rw [List.append_assoc, List.cons_append]
      apply Eq.trans _ same
      simp only [String.toList_append, written, slash, List.append_assoc, List.singleton_append]
    have last := congrArg (List.rtakeWhile (· ≠ '/')) groups
    rw [last_group (by decide), last_group (not_mem_of_digits (by decide) date.yearDigits)] at last
    rw [← last] at zero
    revert zero
    decide
  | some monthName =>
    rw [named] at left
    obtain ⟨said, run, same⟩ := Checked.map_ok_iff.1 left
    obtain ⟨dayWords, -, tail⟩ := Checked.bind_ok_iff.1 run
    obtain ⟨yearWords, -, joined⟩ := Checked.bind_ok_iff.1 tail
    cases joined
    apply not_mem_dateText (c := ' ') (by decide) (by decide) date
    rw [← same]
    simp

/-- A date can always be replaced. -/
theorem replaceDate_ok {langCode : String} (sayable : monthNames langCode ≠ [] → Says num2words langCode)
    (date : DateDigits day month year) : ∃ new, replaceDate num2words langCode (dateText day month year) = .ok new := by
  rw [replaceDate_eq date]
  split
  · rename_i valid
    by_cases supported : monthNames langCode = []
    · rw [dateToWords_of_unsupported supported]
      exact ⟨_, rfl⟩
    · obtain ⟨said, run, -⟩ := dateToWords_of_supported (sayable supported) supported valid
      rw [run]
      exact ⟨_, rfl⟩
  · exact ⟨_, rfl⟩

/-- `expand_dates` does not raise. -/
theorem expandDates_eq {langCode : String} (sayable : monthNames langCode ≠ [] → Says num2words langCode)
    (text : List Char) :
    expandDates num2words words text langCode =
      .ok (sub (datePattern words) (replaced (replaceDate num2words langCode)) text) := by
  apply trySub_eq_ok_iff.2 ⟨_, rfl⟩
  intro token member
  obtain ⟨day, month, year, date, rfl⟩ := shape_of_mem_dateTokens (mem_dateTokens_iff.2 member)
  exact replaceDate_ok sayable date

section Spoken

variable (dates : ∀ f ∈ num2words, SaysDates f)

include dates

/-- A year below 100 is not said as the one 2000 years later. -/
theorem numberToWords_ne {langCode : String} (supported : monthNames langCode ≠ []) {n : Nat} (small : n < 100) :
    numberToWords num2words n langCode ≠ numberToWords num2words (n + 2000) langCode := by
  cases num2words with
  | none =>
    intro same
    have numbers := intStr_inj (Except.ok.inj same)
    omega
  | some f => exact (dates f rfl).apart langCode supported n small

omit dates in
/-- The words for a date tell its year, given its day and its month. -/
theorem DateWords.year_words {langCode said : String} {one other : Date} (first : DateWords num2words langCode one said)
    (second : DateWords num2words langCode other said) (day : one.day = other.day) (month : one.month = other.month) :
    numberToWords num2words one.year langCode = numberToWords num2words other.year langCode := by
  obtain ⟨dayWords, monthName, yearWords, spokenDay, named, spokenYear, rfl⟩ := first
  obtain ⟨dayWords', monthName', yearWords', spokenDay', named', spokenYear', same⟩ := second
  rw [← day, spokenDay] at spokenDay'
  rw [← month, named] at named'
  cases spokenDay'
  cases named'
  have last : yearWords.toList = yearWords'.toList := by simpa using congrArg String.toList same
  have last := String.toList_inj.1 last
  rw [spokenYear, spokenYear', last]

/-- A date is read as it is written unless a year below 100 of three or four digits is shifted. -/
theorem readsDate_iff (date : DateDigits day month year) (langCode : String) :
    ReadsDate num2words langCode (dateText day month year) ↔ ¬Misread langCode (dateText day month year) := by
  have denotes := denoted_dateText date
  have digits := date.yearLength
  by_cases shifted : 2 < year.length ∧ numberValue year < 100
  · obtain ⟨long, small⟩ := shifted
    have normalized : normalizedYear (numberValue year) = numberValue year + 2000 := if_pos small
    have replacement : replaceDate num2words langCode _ = _ := replaceDate_eq date langCode
    rw [if_neg (by omega)] at denotes
    rw [normalized] at replacement
    -- from the year 1 on both years have the same dates
    have valid_iff : 1 ≤ numberValue year → ((denoted (dateText day month year)).Valid ↔
        (Date.mk (numberValue year + 2000) (numberValue month) (numberValue day)).Valid) := by
      intro started
      rw [denotes, valid_shift started small]
    have year_zero : numberValue year = 0 → ¬(denoted (dateText day month year)).Valid := by
      intro zero valid
      rw [denotes, zero] at valid
      exact absurd valid.1 (Nat.not_succ_le_zero 0)
    rw [misread_iff date]
    constructor
    · rintro ⟨invalid, valid⟩ ⟨-, -, there, why⟩
      by_cases zero : numberValue year = 0
      · apply replaceDate_ne date zero _ langCode (invalid (year_zero zero))
        rwa [zero] at there
      · have here := (valid_iff (by omega)).2 there
        have supported := why.resolve_left zero
        obtain ⟨said, same, spoken⟩ := valid here supported
        obtain ⟨said', run, spoken'⟩ :=
          dateToWords_of_supported (says_of_dates dates supported) supported there
        rw [replacement, if_pos there, run] at same
        have equal : said' = said := String.toList_inj.1 (Except.ok.inj same)
        rw [denotes] at spoken
        rw [equal] at spoken'
        exact numberToWords_ne dates supported small (spoken.year_words spoken' rfl rfl)
    · intro well
      constructor
      · intro invalid
        rw [replacement, if_neg]
        intro there
        apply well
        refine ⟨long, small, there, .inl ?_⟩
        by_contra zero
        exact invalid ((valid_iff (by omega)).2 there)
      · intro valid supported
        exfalso
        apply well
        refine ⟨long, small, (valid_iff ?_).1 valid, .inr supported⟩
        by_contra zero
        exact year_zero (by omega) valid
  · apply iff_of_true
    · apply readsDate_of_same (says_of_dates dates) date
      rw [denotes]
      have small := numberValue_lt year
      unfold normalizedYear
      by_cases two : year.length = 2
      · rw [two] at small
        rw [if_pos two, if_pos (by omega)]
      · rw [if_neg two, if_neg (by omega)]
    · rw [misread_iff date]
      rintro ⟨long, small, -, -⟩
      exact shifted ⟨long, small⟩

/-- `expand_dates` reads the dates of a text as they are written exactly when none of them has
a year below 100 of three or four digits that it can shift. -/
theorem readsDates_iff (words : WordChars) (text : List Char) (langCode : String) :
    ReadsDates words num2words text langCode ↔ ∀ token ∈ dateTokens words text, ¬Misread langCode token := by
  constructor
  · intro reads token member
    obtain ⟨day, month, year, date, rfl⟩ := shape_of_mem_dateTokens member
    exact (readsDate_iff dates date langCode).1 ⟨reads.invalid _ member, reads.valid _ member⟩
  · intro well
    have each : ∀ token ∈ dateTokens words text, ReadsDate num2words langCode token := by
      intro token member
      obtain ⟨day, month, year, date, rfl⟩ := shape_of_mem_dateTokens member
      exact (readsDate_iff dates date langCode).2 (well _ member)
    exact ⟨expandDates_eq (says_of_dates dates) text, fun token member => (each token member).1,
      fun token member => (each token member).2⟩

end Spoken

/-! ## A year below 100 -/

/-- The languages of `languageAliases`, which `num2words` knows. -/
def knownLanguages (langCode : String) : Bool := langCode ∈ ["it", "en", "es", "fr", "de", "pt"]

/-- Words for some numbers; for the others a text of the same length stands for them. -/
def englishName (value : Nat) : String :=
  if value = 5 then "five"
  else if value = 50 then "fifty"
  else if value = 2050 then "two thousand and fifty"
  else String.ofList (List.replicate value '#')

/-- `num2words` with the scale words of English, up to the 101st power of a thousand. -/
def someEnglish (value : Nat) (langCode : String) : Except NumberError String :=
  if knownLanguages langCode then
    if value < 1000 ^ 102 then .ok (englishName value) else .error (.other "OverflowError")
  else .error .notImplemented

theorem someEnglish_ok {value : Nat} {langCode said : String} (spoken : someEnglish value langCode = .ok said) :
    said = englishName value := by
  unfold someEnglish at spoken
  split at spoken
  · split at spoken
    · exact (Except.ok.inj spoken).symm
    · cases spoken
  · cases spoken

theorem someEnglish_saysNumbers : SaysNumbers someEnglish knownLanguages fun _ => 1000 ^ 102 := by
  constructor
  · intro value langCode unknown
    exact if_neg (Bool.eq_false_iff.1 unknown)
  · intro value langCode known large
    exact ⟨_, (if_pos known).trans (if_neg (not_lt.2 large))⟩
  · intro value langCode known small
    exact ⟨_, (if_pos known).trans (if_pos small)⟩
  · intro value langCode said spoken
    rw [someEnglish_ok spoken]
    unfold englishName
    split
    · exact digitless_of_none (by decide)
    · split
      · exact digitless_of_none (by decide)
      · split
        · exact digitless_of_none (by decide)
        · intro c member
          rw [String.toList_ofList] at member
          rw [List.eq_of_mem_replicate member]
          decide
  · decide
  · intro langCode
    show 10000 ≤ 1000 ^ 102
    decide

/-- The number that has the name. -/
def readName (name : String) : Nat :=
  if name = "five" then 5 else if name = "fifty" then 50 else if name = "two thousand and fifty" then 2050 else name.length

theorem readName_englishName (value : Nat) : readName (englishName value) = value := by
  have unlike : ∀ name ∈ ["five", "fifty", "two thousand and fifty"], String.ofList (List.replicate value '#') ≠ name := by
    intro name member same
    have letters : ∀ name ∈ ["five", "fifty", "two thousand and fifty"], name.toList.any (· ≠ '#') = true := by decide
    obtain ⟨c, inside, letter⟩ := List.any_eq_true.1 (letters name member)
    rw [← same, String.toList_ofList] at inside
    exact of_decide_eq_true letter (List.eq_of_mem_replicate inside)
  unfold englishName
  split
  · rename_i same
    rw [same]
    decide
  · split
    · rename_i same
      rw [same]
      decide
    · split
      · rename_i same
        rw [same]
        decide
      · unfold readName
        rw [if_neg (unlike _ (by decide)), if_neg (unlike _ (by decide)), if_neg (unlike _ (by decide)), ← String.length_toList,
          String.toList_ofList, List.length_replicate]

theorem someEnglish_distinct (m n : Nat) (langCode said : String) (one : someEnglish m langCode = .ok said)
    (two : someEnglish n langCode = .ok said) : m = n := by
  rw [← readName_englishName m, ← readName_englishName n, ← someEnglish_ok one, ← someEnglish_ok two]

theorem someEnglish_documented (f : Nat → String → Except NumberError String) (chosen : f ∈ some someEnglish) :
    SaysNumbers f knownLanguages fun _ => 1000 ^ 102 := by
  rw [← Option.some.inj chosen]
  exact someEnglish_saysNumbers

theorem someEnglish_saysDates (f : Nat → String → Except NumberError String) (chosen : f ∈ some someEnglish) : SaysDates f := by
  rw [← Option.some.inj chosen]
  have sayable (langCode : String) : Says (some someEnglish) langCode := says_of_documented someEnglish_documented langCode
  refine ⟨fun langCode _ => sayable langCode, ?_⟩
  intro langCode _ n small same
  obtain ⟨said, spoken⟩ := sayable langCode n (by omega)
  have shifted := same.symm.trans spoken
  rw [numberToWords_eq someEnglish_saysNumbers] at spoken shifted
  have years := someEnglish_distinct _ _ _ _ spoken shifted
  omega

theorem readsDates_english : ReadsDates asciiWords (some someEnglish) "on 05/03/50 or 05/03/2050".toList "en" := by
  have found : dateTokens asciiWords "on 05/03/50 or 05/03/2050".toList = ["05/03/50".toList, "05/03/2050".toList] := by
    decide +kernel
  apply (readsDates_iff someEnglish_saysDates _ _ _).2
  rw [found]
  decide +kernel

/-- The fifth of March of the year 50 is read as one of the year 2050. -/
theorem year_shifted :
    expandDates (some someEnglish) asciiWords "05/03/0050".toList "en" = .ok "five March two thousand and fifty".toList ∧
    (denoted "05/03/0050".toList).year = 50 ∧ ¬ReadsDates asciiWords (some someEnglish) "05/03/0050".toList "en" := by
  refine ⟨by decide +kernel, by decide +kernel, ?_⟩
  intro reads
  have member : "05/03/0050".toList ∈ dateTokens asciiWords "05/03/0050".toList := by decide +kernel
  obtain ⟨day, month, year, date, same⟩ := shape_of_mem_dateTokens member
  have read : ReadsDate (some someEnglish) "en" "05/03/0050".toList := ⟨reads.invalid _ member, reads.valid _ member⟩
  rw [same] at read
  apply (readsDate_iff someEnglish_saysDates date "en").1 read
  rw [← same]
  decide +kernel

end LlmTts
