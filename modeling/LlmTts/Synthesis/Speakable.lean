import LlmTts.Synthesis.Dates

/-!
# Texts that can be said

`expand_numbers` raises when a standalone number has too many digits for `int()`, or is too
large for `num2words`. The numbers in dates are never too large, so `preprocess_for_tts`
raises exactly when that is so of a number of the text itself.
-/

namespace LlmTts
open Python Regex Runs

variable {words : WordChars} {num2words : Num2words} {knows : String → Bool} {limit : String → Nat}

/-- A number that `int()` reads and, if it is there, `num2words` says. -/
def Speakable (num2words : Num2words) (knows : String → Bool) (limit : String → Nat) (langCode : String)
    (run : List Char) : Prop :=
  run.length ≤ maxStrDigits ∧ (num2words.isSome = true → numberValue run < limit (spokenIn knows langCode))

/-- `expand_numbers` returns a text if all numbers can be said. -/
theorem expandNumbers_ok_iff (documented : ∀ f ∈ num2words, SaysNumbers f knows limit) {text : List Char}
    {langCode : String} : (∃ out, expandNumbers num2words words text langCode = .ok out) ↔
      ∀ run ∈ numbersOf words text, Speakable num2words knows limit langCode run := by
  have found : (tokens (standaloneNumber words) none 0 text).filterMap Sum.getRight? = numbersOf words text :=
    (matches_standaloneNumber none 0 text).1 rfl rfl
  have listed : ∀ run, .inr run ∈ tokens (standaloneNumber words) none 0 text ↔ run ∈ numbersOf words text := by
    intro run
    rw [← found, List.mem_filterMap]
    constructor
    · exact fun there => ⟨_, there, rfl⟩
    · rintro ⟨token, there, same⟩
      rw [Sum.getRight?_eq_some_iff.1 same] at there
      exact there
  have said : ∀ run ∈ numbersOf words text, (∃ new, (do
      let value ← intOfDigits run
      return (← numberToWords num2words value langCode).toList) = Except.ok new) ↔
        Speakable num2words knows limit langCode run := by
    intro run member
    obtain ⟨nonempty, all⟩ := isDigitRun_iff.1 (List.mem_filter.1 member).2
    rw [Speakable, ← numberToWords_ok_iff documented, intOfDigits_eq nonempty all]
    by_cases long : maxStrDigits < run.length
    · rw [if_pos long]
      apply iff_of_false
      · rintro ⟨new, raised⟩
        cases raised
      · rintro ⟨short, -⟩
        omega
    · rw [if_neg long]
      constructor
      · rintro ⟨new, run⟩
        obtain ⟨value, same, tail⟩ := Checked.bind_ok_iff.1 run
        obtain ⟨said, spoken, -⟩ := Checked.bind_ok_iff.1 tail
        cases same
        exact ⟨not_lt.1 long, said, spoken⟩
      · rintro ⟨-, said, spoken⟩
        refine ⟨said.toList, Checked.bind_ok_iff.2 ⟨_, rfl, Checked.bind_ok_iff.2 ⟨said, spoken, rfl⟩⟩⟩
  unfold expandNumbers
  constructor
  · rintro ⟨out, run⟩ number member
    exact (said number member).1 ((trySub_eq_ok_iff.1 run).1 number ((listed number).2 member))
  · intro speakable
    refine ⟨_, trySub_eq_ok_iff.2 ⟨?_, rfl⟩⟩
    intro number there
    have member := (listed number).1 there
    exact (said number member).2 (speakable number member)

/-! ## Short numbers -/

/-- The numbers of the text have at most four digits. -/
def ShortNumbers (words : WordChars) (text : List Char) : Prop := ∀ run ∈ numbersOf words text, run.length ≤ 4

/-- Numbers do not reach over a character that is no word character. -/
theorem numbersOf_cut {c : Char} (outside : words.isWord c = false) (x y : List Char) :
    numbersOf words (x ++ c :: y) = numbersOf words x ++ numbersOf words y := by
  have ends : (runs words.isWord (c :: y)).1 = [] := congrArg Prod.fst (runs_of_outside outside)
  rw [numbersOf_append ends, runs_of_outside outside]
  rfl

theorem ShortNumbers.cut {c : Char} {x y : List Char} (left : ShortNumbers words x) (right : ShortNumbers words y)
    (outside : words.isWord c = false) : ShortNumbers words (x ++ c :: y) := by
  intro run member
  rw [numbersOf_cut outside] at member
  rcases List.mem_append.1 member with here | there
  · exact left run here
  · exact right run there

theorem ShortNumbers.joined {left right apart : String} {c : Char} (numbers : ShortNumbers words left.toList)
    (numbers' : ShortNumbers words right.toList) (one : apart.toList = [c]) (outside : words.isWord c = false) :
    ShortNumbers words (left ++ apart ++ right).toList := by
  rw [String.toList_append, String.toList_append, one, List.append_assoc, List.singleton_append]
  exact numbers.cut numbers' outside

theorem shortNumbers_of_length {text : List Char} (short : text.length ≤ 4) : ShortNumbers words text := by
  intro run member
  have inside := length_le_of_mem_runs (List.mem_filter.1 member).1
  omega

theorem shortNumbers_of_digitless {text : List Char} (digitless : ∀ c ∈ text, isDecimal c = false) :
    ShortNumbers words text := by
  intro run member
  rw [numbersOf_digitless digitless] at member
  cases member

theorem shortNumbers_dateText {day month year : List Char} (date : DateDigits day month year) :
    ShortNumbers words (dateText day month year) := by
  have slash : words.isWord '/' = false := not_word_of_ascii (by decide) (by decide)
  have dayLength := date.dayLength
  have monthLength := date.monthLength
  apply ShortNumbers.cut _ _ slash
  · exact shortNumbers_of_length (by omega)
  · apply ShortNumbers.cut _ _ slash
    · exact shortNumbers_of_length (by omega)
    · exact shortNumbers_of_length date.yearLength.2

theorem shortNumbers_intStr {n : Nat} (small : n < 10000) : ShortNumbers words (intStr n).toList := by
  apply shortNumbers_of_length
  rw [intStr, String.toList_ofList, if_neg (Int.not_lt.2 (Int.natCast_nonneg n)), List.nil_append, Int.natAbs_natCast]
  exact (Nat.length_toDigits_le_iff (by decide) (by decide)).2 small

theorem shortNumbers_numberToWords (documented : ∀ f ∈ num2words, SaysNumbers f knows limit) {n : Nat} (small : n < 10000)
    {langCode said : String} (spoken : numberToWords num2words n langCode = .ok said) : ShortNumbers words said.toList := by
  cases num2words with
  | none =>
    cases spoken
    exact shortNumbers_intStr small
  | some f =>
    rw [numberToWords_eq (documented f rfl)] at spoken
    exact shortNumbers_of_digitless ((documented f rfl).digitless _ _ _ spoken)

theorem monthNames_digitless {langCode name : String} (member : name ∈ monthNames langCode) :
    ∀ c ∈ name.toList, isDecimal c = false := by
  have names : ∀ name ∈ monthNames "it" ++ monthNames "en", name.toList.any isDecimal = false := by decide +kernel
  apply digitless_of_none
  apply names name
  unfold monthNames at member
  split at member
  · exact List.mem_append_left _ member
  · split at member
    · exact List.mem_append_right _ member
    · cases member

/-- What stands for a date has short numbers too. -/
theorem shortNumbers_replaceDate (documented : ∀ f ∈ num2words, SaysNumbers f knows limit) {day month year new : List Char}
    (date : DateDigits day month year) {langCode : String}
    (run : replaceDate num2words langCode (dateText day month year) = .ok new) : ShortNumbers words new := by
  have blank : words.isWord ' ' = false := words.space ' ' (by decide)
  have slash : words.isWord '/' = false := not_word_of_ascii (by decide) (by decide)
  rw [replaceDate_eq date] at run
  split at run
  · rename_i valid
    obtain ⟨said, spoken, rfl⟩ := Checked.map_ok_iff.1 run
    have short := valid.short
    dsimp only at short
    unfold dateToWords at spoken
    dsimp only at spoken
    split at spoken
    · cases spoken
      apply ShortNumbers.joined _ _ rfl slash
      · exact (shortNumbers_intStr (by omega)).joined (shortNumbers_intStr (by omega)) rfl slash
      · exact shortNumbers_intStr short.1
    · rename_i monthName named
      obtain ⟨dayWords, spokenDay, tail⟩ := Checked.bind_ok_iff.1 spoken
      obtain ⟨yearWords, spokenYear, same⟩ := Checked.bind_ok_iff.1 tail
      cases same
      have name : ShortNumbers words _ := shortNumbers_of_digitless (monthNames_digitless (List.mem_of_getElem? named))
      apply ShortNumbers.joined _ _ rfl blank
      · exact (shortNumbers_numberToWords documented (by omega) spokenDay).joined name rfl blank
      · exact shortNumbers_numberToWords documented short.1 spokenYear
  · cases run
    exact shortNumbers_dateText date

/-! ## The numbers after the dates -/

theorem datePattern_of_inside {before : Option Char} (inside : boundary words before = false) (text : List Char) :
    datePattern words before text = 0 := by
  apply if_neg
  rintro ⟨outside, -⟩
  rw [inside] at outside
  cases outside

theorem numbersOf_of_inside {c : Char} {cs : List Char} (here : words.isWord c = true) : numbersOf words (c :: cs) =
    [c :: (runs words.isWord cs).1].filter isDigitRun ++ (runs words.isWord cs).2.filter isDigitRun := by
  rw [numbersOf, runs_of_inside here, ← List.filter_append]
  rfl

/-- The last digit of a date is a word character. -/
theorem boundary_last {day month year : List Char} (date : DateDigits day month year) :
    boundary words (dateText day month year).getLast? = false := by
  obtain ⟨front, last, same⟩ := (List.eq_nil_or_concat year).resolve_left (List.ne_nil_of_length_pos (by
    have counted := date.yearLength.1
    omega))
  rw [List.concat_eq_append] at same
  have digit := date.yearDigits last (by rw [same]; exact List.mem_concat_self)
  have ends : (dateText day month year).getLast? = some last := by
    rw [dateText, same, ← List.cons_append, ← List.append_assoc, ← List.cons_append, ← List.append_assoc]
    exact List.getLast?_concat
  rw [ends, boundary, Option.all_some, words.digit last digit]
  rfl

/-- As far as short numbers are no matter, the numbers are the same when short ones have
been put in place of the dates. -/
theorem numbers_dated {new : List Char → List Char} {G : List Char → Prop} (short : ∀ run : List Char, run.length ≤ 4 → G run)
    (each : ∀ day month year, DateDigits day month year → ShortNumbers words (new (dateText day month year)))
    (text : List Char) : (∀ run ∈ numbersOf words (sub (datePattern words) new text), G run) ↔
      ∀ run ∈ numbersOf words text, G run := by
  let dated (before : Option Char) (text : List Char) : List Char :=
    (tokens (datePattern words) before 0 text).flatMap (Sum.elim (fun c => [c]) new)
  have kept : ∀ {before c cs}, datePattern words before (c :: cs) = 0 → dated before (c :: cs) = c :: dated (some c) cs := by
    intro before c cs unmatched
    show List.flatMap _ _ = _
    rw [tokens_kept unmatched, List.flatMap_cons]
    rfl
  have steps : ∀ (n : Nat) (text : List Char), text.length ≤ n → ∀ before,
      (boundary words before = true → ((∀ run ∈ numbersOf words (dated before text), G run) ↔
        ∀ run ∈ numbersOf words text, G run)) ∧
      (boundary words before = false → (runs words.isWord (dated before text)).1 = (runs words.isWord text).1 ∧
        ((∀ run ∈ (runs words.isWord (dated before text)).2.filter isDigitRun, G run) ↔
          ∀ run ∈ (runs words.isWord text).2.filter isDigitRun, G run)) := by
    intro n
    induction n with
    | zero =>
      intro text counted before
      rw [List.eq_nil_of_length_eq_zero (Nat.le_zero.1 counted)]
      exact ⟨fun _ => Iff.rfl, fun _ => ⟨rfl, Iff.rfl⟩⟩
    | succ n ih =>
      intro text counted before
      cases text with
      | nil => exact ⟨fun _ => Iff.rfl, fun _ => ⟨rfl, Iff.rfl⟩⟩
      | cons c cs =>
        have smaller : cs.length ≤ n := Nat.le_of_succ_le_succ counted
        have next : words.isWord c = true → _ := fun here =>
          (ih cs smaller (some c)).2 (by rw [boundary, Option.all_some, here]; rfl)
        have after : words.isWord c = false → _ := fun here =>
          (ih cs smaller (some c)).1 (by rw [boundary, Option.all_some, here]; rfl)
        constructor
        · intro outside
          cases length : datePattern words before (c :: cs) with
          | zero =>
            rw [kept length]
            cases here : words.isWord c with
            | true =>
              obtain ⟨first, others⟩ := next here
              rw [numbersOf_of_inside here, numbersOf_of_inside here, List.forall_mem_append, List.forall_mem_append, first,
                others]
            | false =>
              rw [numbersOf_of_outside here, numbersOf_of_outside here]
              exact after here
          | succ found =>
            -- a date, which ends at a boundary in the text and in what stands for it
            obtain ⟨day, month, year, tail, date, same, size, -, ends⟩ := datePattern_shape length
            rw [same] at length counted ⊢
            rw [List.length_append, size] at counted
            have nonempty : dateText day month year ≠ [] := List.ne_nil_of_length_pos (by omega)
            have split : dated before (dateText day month year ++ tail) =
                new (dateText day month year) ++ dated (dateText day month year).getLast? tail := by
              show List.flatMap _ _ = _
              rw [tokens_front nonempty (length.trans size.symm), List.flatMap_cons]
              rfl
            obtain ⟨first, others⟩ := (ih tail (by omega) _).2 (boundary_last date)
            have start : (runs words.isWord tail).1 = [] := first_nil_iff.2 (boundary_iff.1 ends)
            rw [split, numbersOf_append (first.trans start), numbersOf_append start, List.forall_mem_append,
              List.forall_mem_append, others]
            apply and_congr_left'
            apply iff_of_true
            · exact fun run member => short run (each day month year date run member)
            · exact fun run member => short run (shortNumbers_dateText date run member)
        · intro within
          rw [kept (datePattern_of_inside within _)]
          cases here : words.isWord c with
          | true =>
            obtain ⟨first, others⟩ := next here
            rw [runs_of_inside here, runs_of_inside here, first]
            exact ⟨rfl, others⟩
          | false =>
            rw [runs_of_outside here, runs_of_outside here]
            exact ⟨rfl, after here⟩
  exact (steps text.length text (Nat.le_refl _) none).1 rfl

/-! ## Texts that are preprocessed -/

theorem speakable_of_short (documented : ∀ f ∈ num2words, SaysNumbers f knows limit) (langCode : String)
    {run : List Char} (short : run.length ≤ 4) : Speakable num2words knows limit langCode run := by
  constructor
  · unfold maxStrDigits
    omega
  · intro installed
    obtain ⟨f, rfl⟩ := Option.isSome_iff_exists.1 installed
    calc
      numberValue run < 10 ^ run.length := numberValue_lt run
      _ ≤ 10 ^ 4 := Nat.pow_le_pow_right (by decide) short
      _ ≤ limit (spokenIn knows langCode) := (documented f rfl).thousands _

/-- `preprocess_for_tts` returns a text exactly when every standalone number of the text can be
read and said. -/
theorem preprocess_ok_iff (documented : ∀ f ∈ num2words, SaysNumbers f knows limit) (words : WordChars)
    (text : List Char) (language : String) : (∃ out, preprocessForTts num2words words text language = .ok out) ↔
      ∀ run ∈ numbersOf words text, Speakable num2words knows limit (resolveNumberLanguage language) run := by
  have each : ∀ day month year, DateDigits day month year → ShortNumbers words
      (replaced (replaceDate num2words (resolveNumberLanguage language)) (dateText day month year)) := by
    intro day month year date
    obtain ⟨new, run⟩ := replaceDate_ok (fun _ => says_of_documented documented (resolveNumberLanguage language)) date
    rw [replaced_of_ok run]
    exact shortNumbers_replaceDate documented date run
  rw [← numbers_dated (fun run => speakable_of_short documented _) each, ← expandNumbers_ok_iff documented]
  constructor
  · rintro ⟨out, run⟩
    obtain ⟨dated, dates, tail⟩ := Checked.bind_ok_iff.1 run
    obtain ⟨expanded, numbers, -⟩ := Checked.bind_ok_iff.1 tail
    rw [expandDates_eq (fun _ => says_of_documented documented _)] at dates
    cases dates
    exact ⟨expanded, numbers⟩
  · rintro ⟨expanded, numbers⟩
    exact ⟨_, Checked.bind_ok_iff.2 ⟨_, expandDates_eq (fun _ => says_of_documented documented _) text, Checked.bind_ok_iff.2 ⟨expanded, numbers, rfl⟩⟩⟩

theorem five_cats : ∃ out, preprocessForTts (some someEnglish) asciiWords "5 cats".toList "English" = .ok out := by
  apply (preprocess_ok_iff someEnglish_documented _ _ _).2
  have found : numbersOf asciiWords "5 cats".toList = ["5".toList] := by decide +kernel
  rw [found]
  intro run member
  rw [List.mem_singleton.1 member]
  exact ⟨by decide, fun _ => by decide +kernel⟩

/-- A number of four hundred digits is within the limits for the input. -/
theorem long_number_raises : SaysNumbers someEnglish knownLanguages (fun _ => 1000 ^ 102) ∧
    stripped (List.replicate 400 '1') ≠ [] ∧ (List.replicate 400 '1').length ≤ 4096 ∧
    preprocessForTts (some someEnglish) asciiWords (List.replicate 400 '1') "en" = .error (.other "OverflowError") := by
  exact ⟨someEnglish_saysNumbers, by decide +kernel, by decide +kernel, by decide +kernel⟩

end LlmTts
