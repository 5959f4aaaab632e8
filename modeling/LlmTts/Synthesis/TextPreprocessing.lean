import LlmTts.Lib.DateText
import LlmTts.Lib.FloatText
import LlmTts.Lib.Regex
import LlmTts.Providers.Selection

/-!
# Text preprocessing

`preprocess_for_tts` expands dates and numbers into words and cleans the punctuation;
`split_text_semantic` packs the sentences of a text into chunks. The package
`num2words` and the word characters of `re` are parameters.
-/

namespace LlmTts
open Python Regex

/-- The characters of `\w`. -/
structure WordChars where
  isWord : Char → Bool
  ascii : ∀ c : Char, c.toNat < 128 → isWord c = (c.isAlphanum || c = '_')
  digit : ∀ c : Char, (decimal? c).isSome → isWord c = true
  space : ∀ c : Char, isSpace c = true → isWord c = false

/-- What the expansion of a number raises. -/
inductive NumberError where
  /-- `NotImplementedError`: `num2words` does not know the language. -/
  | notImplemented
  /-- `ValueError` of `int()`: the number has too many digits. -/
  | digits
  /-- Whatever else `num2words` raises. -/
  | other (message : String)
  deriving DecidableEq, Repr

/-- The package `num2words`, if it can be imported. -/
abbrev Num2words : Type := Option (Nat → (lang : String) → Except NumberError String)

/-- `strip()`, on the characters. -/
def stripped (text : List Char) : List Char := (text.dropWhile isSpace).rdropWhile isSpace

/-! ## Languages -/

/-- `_LANGUAGE_ALIASES`. -/
def languageAliases : List (String × String) :=
  [("italian", "it"), ("it", "it"), ("english", "en"), ("en", "en"), ("spanish", "es"), ("es", "es"),
    ("french", "fr"), ("fr", "fr"), ("german", "de"), ("de", "de"), ("portuguese", "pt"), ("pt", "pt")]

/-- `resolve_number_language`. -/
def resolveNumberLanguage (language : String) : String :=
  (dictGet languageAliases (String.ofList (TTSProviderRegistry.lowered (strip language)))).getD "en"

/-- `_MONTH_NAMES`, from January on. -/
def monthNames (langCode : String) : List String :=
  if langCode = "it" then
    ["gennaio", "febbraio", "marzo", "aprile", "maggio", "giugno", "luglio", "agosto", "settembre", "ottobre",
      "novembre", "dicembre"]
  else if langCode = "en" then
    ["January", "February", "March", "April", "May", "June", "July", "August", "September", "October",
      "November", "December"]
  else []

/-! ## Punctuation -/

/-- `\s+` -/
def spaceRun : Pattern Char := fun _ cs => (cs.takeWhile isSpace).length

/-- `\.{2,}` -/
def duplicateDots : Pattern Char := fun _ cs =>
  let dots := (cs.takeWhile (· = '.')).length
  if dots < 2 then 0 else dots

/-- `([,;:!?])\1+` -/
def duplicateMarks : Pattern Char
  | _, [] => 0
  | _, c :: cs =>
    if c ∈ [',', ';', ':', '!', '?'] then
      let more := (cs.takeWhile (· = c)).length
      if more = 0 then 0 else more + 1
    else 0

/-- `([,;:])\s*\n+`: the match ends after the last line break of the white space. -/
def lineBreakAfterPunct : Pattern Char
  | _, [] => 0
  | _, c :: cs =>
    if c ∈ [',', ';', ':'] then
      let more := ((cs.takeWhile isSpace).rdropWhile (· ≠ '\n')).length
      if more = 0 then 0 else more + 1
    else 0

/-- `clean_punctuation`. -/
def cleanPunctuation (text : List Char) : List Char :=
  let collapsed := sub spaceRun (fun _ => [' ']) text
  let noDuplicateDots := sub duplicateDots (fun _ => ['.']) collapsed
  let noDuplicateMarks := sub duplicateMarks (·.take 1) noDuplicateDots
  let normalizedLines := sub lineBreakAfterPunct (fun found => found.take 1 ++ [' ']) noDuplicateMarks
  stripped normalizedLines

/-! ## Numbers and dates -/

/-- `\d` -/
def isDecimal (c : Char) : Bool := (decimal? c).isSome

section Expansion

variable (num2words : Num2words) (words : WordChars)

/-- `_number_to_words`. -/
def numberToWords (value : Nat) (langCode : String) : Except NumberError String :=
  match num2words with
  | none => .ok (intStr value)
  | some num2words =>
    match num2words value langCode with
    | .error .notImplemented => num2words value "en"
    | spoken => spoken

/-- `int()` of the digits that a pattern has matched. -/
def intOfDigits (digits : List Char) : Except NumberError Nat :=
  match natValue? digits with
  | none => .error .digits
  | some value => .ok value

/-- The other side of a `\b` next to a digit. -/
def boundary (c : Option Char) : Bool := c.all fun c => !words.isWord c

/-- `\b\d+\b` -/
def standaloneNumber : Pattern Char := fun before cs =>
  let digits := cs.takeWhile isDecimal
  if boundary words before ∧ boundary words (cs.drop digits.length).head? then digits.length else 0

/-- `expand_numbers`. -/
def expandNumbers (text : List Char) (langCode : String) : Except NumberError (List Char) :=
  trySub (standaloneNumber words)
    (fun found => do
      let value ← intOfDigits found
      return (← numberToWords num2words value langCode).toList)
    text

/-- The three runs of digits at a position, with one character between them. -/
def dateGroups (cs : List Char) : List Char × List Char × List Char :=
  let day := cs.takeWhile isDecimal
  let afterDay := cs.drop (day.length + 1)
  let month := afterDay.takeWhile isDecimal
  let afterMonth := afterDay.drop (month.length + 1)
  (day, month, afterMonth.takeWhile isDecimal)

/-- `\b(\d{1,2})/(\d{1,2})/(\d{2,4})\b` -/
def datePattern : Pattern Char := fun before cs =>
  let (day, month, year) := dateGroups cs
  let length := day.length + 1 + month.length + 1 + year.length
  if boundary words before ∧ (1 ≤ day.length ∧ day.length ≤ 2) ∧ cs[day.length]? = some '/' ∧
      (1 ≤ month.length ∧ month.length ≤ 2) ∧ cs[day.length + 1 + month.length]? = some '/' ∧
      (2 ≤ year.length ∧ year.length ≤ 4) ∧ boundary words (cs.drop length).head? then length
  else 0

/-- `_date_to_words`. -/
def dateToWords (date : Date) (langCode : String) : Except NumberError String :=
  match (monthNames langCode)[date.month - 1]? with
  | none => .ok (intStr date.day ++ "/" ++ intStr date.month ++ "/" ++ intStr date.year)
  | some monthName => do
    let dayWords ← numberToWords num2words date.day langCode
    let yearWords ← numberToWords num2words date.year langCode
    return dayWords ++ " " ++ monthName ++ " " ++ yearWords

/-- `_replace` of `expand_dates`. -/
def replaceDate (langCode : String) (found : List Char) : Except NumberError (List Char) := do
  let (dayDigits, monthDigits, yearDigits) := dateGroups found
  let day ← intOfDigits dayDigits
  let month ← intOfDigits monthDigits
  let year ← intOfDigits yearDigits
  let normalizedYear := if year < 100 then year + 2000 else year
  if (Date.mk normalizedYear month day).Valid then
    return (← dateToWords num2words ⟨normalizedYear, month, day⟩ langCode).toList
  else return found

/-- `expand_dates`. -/
def expandDates (text : List Char) (langCode : String) : Except NumberError (List Char) :=
  trySub (datePattern words) (replaceDate num2words langCode) text

/-- `preprocess_for_tts`. -/
def preprocessForTts (text : List Char) (language : String) : Except NumberError (List Char) := do
  let langCode := resolveNumberLanguage language
  let dated ← expandDates num2words words text langCode
  return cleanPunctuation (← expandNumbers num2words words dated langCode)

end Expansion

/-! ## Sentences and chunks -/

/-- `\n{2,}` -/
def blankLines : Pattern Char := fun _ cs =>
  let breaks := (cs.takeWhile (· = '\n')).length
  if breaks < 2 then 0 else breaks

/-- `(?<=[.!?…])\s+` -/
def sentenceBreak : Pattern Char := fun before cs =>
  if before.any (· ∈ ['.', '!', '?', '…']) then (cs.takeWhile isSpace).length else 0

/-- The pieces of a text that are not blank, without the white space around them. -/
def pieces (pattern : Pattern Char) (text : List Char) : List (List Char) :=
  ((split pattern text).map stripped).filter (· ≠ [])

/-- `_paragraph_sentences`. -/
def paragraphSentences (paragraph : List Char) : List (List Char) := pieces sentenceBreak paragraph

/-- `sentences` in `split_text_semantic`. -/
def sentencesOf (text : List Char) : List (List Char) :=
  (pieces blankLines text).flatMap fun paragraph =>
    if paragraphSentences paragraph = [] then [paragraph] else paragraphSentences paragraph

/-- The pieces of a sentence that is too long. -/
def slices (maxChars : Nat) (sentence : List Char) : List (List Char) :=
  ((List.range ((sentence.length + maxChars - 1) / maxChars)).map fun i =>
    stripped ((sentence.drop (i * maxChars)).take maxChars)).filter (· ≠ [])

/-- The chunk of some sentences. -/
def chunkOf (sentences : List (List Char)) : List Char := stripped ([' '].intercalate sentences)

/-- `chunks` and `current_sentences` of the loop. -/
structure Packing where
  chunks : List (List Char)
  currentSentences : List (List Char)

/-- `flush`. -/
def Packing.flush (p : Packing) : List (List Char) :=
  if p.currentSentences = [] then p.chunks else p.chunks ++ [chunkOf p.currentSentences]

/-- The body of the loop. -/
def Packing.add (maxChars : Nat) (maxSentencesPerChunk : Int) (p : Packing) (sentence : List Char) : Packing :=
  if maxChars < sentence.length then ⟨p.flush ++ slices maxChars sentence, []⟩
  else
    let candidate := chunkOf (p.currentSentences ++ [sentence])
    let chunkIsFull := maxSentencesPerChunk ≤ p.currentSentences.length
    let overLimit := maxChars < candidate.length
    if p.currentSentences ≠ [] ∧ (chunkIsFull ∨ overLimit) then ⟨p.flush, [sentence]⟩
    else ⟨p.chunks, p.currentSentences ++ [sentence]⟩

/-- `split_text_semantic`; `max_chars` is positive. -/
def splitTextSemantic (text : List Char) (maxChars : Nat) (maxSentencesPerChunk : Int) : List (List Char) :=
  if stripped text = [] then []
  else ((sentencesOf (stripped text)).foldl (Packing.add maxChars maxSentencesPerChunk) ⟨[], []⟩).flush

/-! ## Texts that are left as they are -/

section Plain

variable {num2words : Num2words} {words : WordChars} {text : List Char} {langCode : String}

/-- A date has slashes. -/
theorem expandDates_of_slashless (slashless : '/' ∉ text) : expandDates num2words words text langCode = .ok text := by
  apply trySub_of_unmatched
  intro before rest suffix
  apply if_neg
  rintro ⟨-, -, slash, -⟩
  apply slashless
  exact suffix.subset (List.mem_of_getElem? slash)

theorem standaloneNumber_of_wordless {c : Char} (wordless : isDecimal c = false) (before : Option Char) (cs : List Char) :
    standaloneNumber words before (c :: cs) = 0 := by
  have empty : (c :: cs).takeWhile isDecimal = [] := by simp [wordless]
  unfold standaloneNumber
  rw [empty]
  exact ite_self 0

theorem expandNumbers_of_digitless (digitless : ∀ c ∈ text, isDecimal c = false) :
    expandNumbers num2words words text langCode = .ok text := by
  apply trySub_of_unmatched
  apply unmatched_of_first fun c => isDecimal c = true
  · intro before
    exact ite_self 0
  · intro before c cs wordless
    exact standaloneNumber_of_wordless (Bool.eq_false_iff.2 wordless) before cs
  · intro c member
    rw [digitless c member]
    exact Bool.false_ne_true

end Plain

/-! ## ASCII texts -/

theorem ascii_of_decimal {c : Char} (low : c.toNat < 128) (digit : (decimal? c).isSome) :
    48 ≤ c.toNat ∧ c.toNat < 58 := by
  obtain ⟨first, found⟩ := Option.isSome_iff_exists.1 (Option.isSome_map.symm.trans digit)
  have inside := List.find?_some found
  have zeros : ∀ n ∈ decimalZeros, n < 128 → n = 48 := by decide
  rw [Bool.and_eq_true, decide_eq_true_eq, decide_eq_true_eq] at inside
  have here := zeros first (List.mem_of_find?_eq_some found) (by omega)
  omega

/-- White space is no digit. -/
theorem not_decimal_of_space {c : Char} (space : isSpace c = true) : isDecimal c = false := by
  have apart : ∀ first ∈ decimalZeros, ∀ range ∈ [(9, 13), (28, 32), (0x85, 0x85), (0xA0, 0xA0), (0x1680, 0x1680),
      (0x2000, 0x200A), (0x2028, 0x2029), (0x202F, 0x202F), (0x205F, 0x205F), (0x3000, 0x3000)],
      range.2 < first ∨ first + 9 < range.1 := by decide +kernel
  apply Bool.eq_false_iff.2
  intro digit
  obtain ⟨first, found⟩ := Option.isSome_iff_exists.1 (Option.isSome_map.symm.trans digit)
  have inside := List.find?_some found
  have bounds := apart first (List.mem_of_find?_eq_some found)
  simp only [List.forall_mem_cons, List.not_mem_nil, false_implies, implies_true, and_true] at bounds
  unfold isSpace at space
  simp only [Bool.or_eq_true, Bool.and_eq_true, decide_eq_true_eq, beq_iff_eq] at space inside
  omega

/-- The word characters, with no letters beyond ASCII. -/
def asciiWords : WordChars where
  isWord c := if c.toNat < 128 then c.isAlphanum || c = '_' else (decimal? c).isSome
  ascii c low := if_pos low
  digit := by
    intro c digit
    by_cases low : c.toNat < 128
    · obtain ⟨above, below⟩ := ascii_of_decimal low digit
      have last : c.toNat ≤ 57 := by omega
      have number : c.isDigit = true := by
        simp only [Char.isDigit, Bool.and_eq_true, decide_eq_true_eq]
        exact ⟨above, last⟩
      rw [if_pos low, Char.isAlphanum, number]
      simp
    · rw [if_neg low]
      exact digit
  space := by
    intro c space
    split
    · rename_i low
      have below : c.toNat ≤ 32 := by
        unfold isSpace at space
        simp only [Bool.or_eq_true, Bool.and_eq_true, decide_eq_true_eq, beq_iff_eq] at space
        omega
      have above : c.isAlphanum = true → 48 ≤ c.toNat := by
        intro letter
        change ((decide _ || (_ && _)) || (_ && _)) = true at letter
        simp only [Bool.or_eq_true, Bool.and_eq_true, decide_eq_true_eq, UInt32.le_iff_toNat_le, ge_iff_le] at letter
        change ((65 ≤ c.toNat ∧ c.toNat ≤ 90) ∨ 97 ≤ c.toNat ∧ c.toNat ≤ 122) ∨ 48 ≤ c.toNat ∧ c.toNat ≤ 57 at letter
        omega
      have plain : c.isAlphanum = false := Bool.eq_false_iff.2 fun letter => by have high := above letter; omega
      have different : c ≠ '_' := by
        rintro rfl
        revert below
        decide
      rw [plain, decide_eq_false different]
      rfl
    · exact not_decimal_of_space space

/-! ## No chunks -/

theorem stripped_eq_nil_iff {text : List Char} : stripped text = [] ↔ ∀ c ∈ text, isSpace c = true := by
  have blank := strip_eq_empty_iff (s := String.ofList text)
  rw [← String.toList_inj, toList_strip, isBlank, List.all_eq_true, String.toList_ofList] at blank
  exact blank

/-- What is left of a text starts with a character that is no white space. -/
theorem head_stripped {text : List Char} {c : Char} {cs : List Char} (left : stripped text = c :: cs) :
    isSpace c = false := by
  have front := List.rdropWhile_prefix isSpace (text.dropWhile isSpace)
  change stripped text <+: _ at front
  rw [left] at front
  obtain ⟨rest, same⟩ := front
  have head := List.head?_dropWhile_not isSpace text
  rw [← same] at head
  simpa using head

theorem pieces_of_mem {pattern : Pattern Char} (only : Matches pattern fun c => isSpace c = true) {text : List Char}
    {c : Char} (seen : isSpace c = false) (member : c ∈ text) : pieces pattern text ≠ [] := by
  obtain ⟨part, there, inside⟩ := mem_split only (by rw [seen]; exact Bool.false_ne_true) member
  have full : stripped part ≠ [] := by
    intro blank
    rw [stripped_eq_nil_iff.1 blank c inside] at seen
    cases seen
  have kept : stripped part ∈ pieces pattern text := by
    apply List.mem_filter.2
    exact ⟨List.mem_map_of_mem there, decide_eq_true full⟩
  exact List.ne_nil_of_mem kept

theorem takeWhile_length_matched {p : Char → Bool} (rest : List Char) :
    ∀ c ∈ rest.take (rest.takeWhile p).length, p c = true := by
  intro c member
  have front := List.prefix_iff_eq_take.1 (List.takeWhile_prefix (l := rest) p)
  rw [← front] at member
  exact List.mem_takeWhile_imp member

theorem blankLines_matches : Matches blankLines fun c => isSpace c = true := by
  intro before rest c member
  unfold blankLines at member
  dsimp only at member
  split at member
  · cases member
  · have newline := takeWhile_length_matched rest c member
    rw [of_decide_eq_true newline]
    decide

/-- Sentences are not empty, and have no white space around them. -/
theorem trimmed_of_mem_sentencesOf {text sentence : List Char} (member : sentence ∈ sentencesOf text) :
    sentence ≠ [] ∧ ∃ piece, sentence = stripped piece := by
  have trimmed : ∀ pattern (whole : List Char), ∀ piece ∈ pieces pattern whole,
      piece ≠ [] ∧ ∃ part, piece = stripped part := by
    intro pattern whole piece there
    obtain ⟨mapped, nonempty⟩ := List.mem_filter.1 there
    obtain ⟨part, -, rfl⟩ := List.mem_map.1 mapped
    exact ⟨of_decide_eq_true nonempty, part, rfl⟩
  obtain ⟨paragraph, there, inside⟩ := List.mem_flatMap.1 member
  split at inside
  · rw [List.mem_singleton.1 inside]
    exact trimmed _ _ _ there
  · exact trimmed _ _ _ inside

theorem sentencesOf_ne_nil {text : List Char} {c : Char} (seen : isSpace c = false) (member : c ∈ text) :
    sentencesOf text ≠ [] := by
  obtain ⟨paragraph, paragraphs, found⟩ := List.exists_cons_of_ne_nil (pieces_of_mem blankLines_matches seen member)
  unfold sentencesOf
  rw [found, List.flatMap_cons]
  apply List.append_ne_nil_of_left_ne_nil
  split
  · exact List.cons_ne_nil _ _
  · assumption

theorem slices_ne_nil {maxChars : Nat} (positive : 0 < maxChars) {sentence : List Char}
    (trimmed : ∃ piece, sentence = stripped piece) (nonempty : sentence ≠ []) : slices maxChars sentence ≠ [] := by
  obtain ⟨c, cs, rfl⟩ := List.exists_cons_of_ne_nil nonempty
  obtain ⟨piece, left⟩ := trimmed
  have seen := head_stripped left.symm
  have first : stripped ((c :: cs).take maxChars) ≠ [] := by
    intro blank
    obtain ⟨n, rfl⟩ := Nat.exists_eq_add_one.2 positive
    rw [stripped_eq_nil_iff.1 blank c List.mem_cons_self] at seen
    cases seen
  have counted : 0 < ((c :: cs).length + maxChars - 1) / maxChars := by
    apply Nat.div_pos _ positive
    rw [List.length_cons]
    omega
  have kept : stripped ((c :: cs).take maxChars) ∈ slices maxChars (c :: cs) := by
    apply List.mem_filter.2
    refine ⟨List.mem_map.2 ⟨0, List.mem_range.2 counted, ?_⟩, decide_eq_true first⟩
    rw [Nat.zero_mul, List.drop_zero]
  exact List.ne_nil_of_mem kept

/-- A step of the loop leaves something to send. -/
theorem Packing.flush_add_ne_nil {maxChars : Nat} (positive : 0 < maxChars) (maxSentencesPerChunk : Int) (p : Packing)
    {sentence : List Char} (trimmed : ∃ piece, sentence = stripped piece) (nonempty : sentence ≠ []) :
    (p.add maxChars maxSentencesPerChunk sentence).flush ≠ [] := by
  have flushed : ∀ (chunks : List (List Char)) {current : List (List Char)}, current ≠ [] →
      Packing.flush ⟨chunks, current⟩ ≠ [] := by
    intro chunks current full
    unfold flush
    rw [if_neg full]
    exact List.append_ne_nil_of_right_ne_nil _ (List.cons_ne_nil _ _)
  unfold add
  split
  · exact List.append_ne_nil_of_right_ne_nil _ (slices_ne_nil positive trimmed nonempty)
  · dsimp only
    split
    · exact flushed _ (List.cons_ne_nil _ _)
    · exact flushed _ (List.append_ne_nil_of_right_ne_nil _ (List.cons_ne_nil _ _))

/-- There are no chunks exactly when the text is blank. -/
theorem splitTextSemantic_eq_nil_iff {maxChars : Nat} (positive : 0 < maxChars) (text : List Char)
    (maxSentencesPerChunk : Int) : splitTextSemantic text maxChars maxSentencesPerChunk = [] ↔ stripped text = [] := by
  unfold splitTextSemantic
  constructor
  · intro empty
    by_contra full
    rw [if_neg full] at empty
    obtain ⟨c, cs, left⟩ := List.exists_cons_of_ne_nil full
    have sentences : sentencesOf (stripped text) ≠ [] :=
      sentencesOf_ne_nil (head_stripped left) (by rw [left]; exact List.mem_cons_self)
    obtain ⟨front, last, cut⟩ := (List.eq_nil_or_concat _).resolve_left sentences
    rw [List.concat_eq_append] at cut
    have member : last ∈ sentencesOf (stripped text) := by
      rw [cut]
      exact List.mem_concat_self
    obtain ⟨nonempty, trimmed⟩ := trimmed_of_mem_sentencesOf member
    rw [cut, List.foldl_append] at empty
    exact Packing.flush_add_ne_nil positive maxSentencesPerChunk _ trimmed nonempty empty
  · intro blank
    rw [if_pos blank]

/-! ## Two sentences -/

/-- Two short sentences are in one chunk, unless that is to have one sentence. -/
theorem splitTextSemantic_two {text first second : List Char} {maxChars : Nat} (full : stripped text ≠ [])
    (two : sentencesOf (stripped text) = [first, second]) (fits : first.length ≤ maxChars)
    (fits' : second.length ≤ maxChars) (short : (chunkOf [first, second]).length ≤ maxChars)
    (maxSentencesPerChunk : Int) (positive : 1 ≤ maxSentencesPerChunk) :
    splitTextSemantic text maxChars maxSentencesPerChunk =
      if maxSentencesPerChunk = 1 then [chunkOf [first], chunkOf [second]] else [chunkOf [first, second]] := by
  have one : Packing.add maxChars maxSentencesPerChunk ⟨[], []⟩ first = ⟨[], [first]⟩ := by
    unfold Packing.add
    rw [if_neg (Nat.not_lt_of_le fits), if_neg fun ⟨current, _⟩ => current rfl]
    rfl
  have next : Packing.add maxChars maxSentencesPerChunk ⟨[], [first]⟩ second =
      if maxSentencesPerChunk = 1 then ⟨[chunkOf [first]], [second]⟩ else ⟨[], [first, second]⟩ := by
    unfold Packing.add
    rw [if_neg (Nat.not_lt_of_le fits')]
    by_cases single : maxSentencesPerChunk = 1
    · rw [if_pos single]
      apply if_pos
      exact ⟨List.cons_ne_nil _ _, .inl (by rw [single]; rfl)⟩
    · rw [if_neg single]
      apply if_neg
      rintro ⟨-, counted | long⟩
      · have room : maxSentencesPerChunk ≤ 1 := counted
        omega
      · exact Nat.not_lt_of_le short long
  rw [splitTextSemantic, if_neg full, two, List.foldl_cons, one, List.foldl_cons, next, List.foldl_nil]
  split
  · rfl
  · rfl

end LlmTts
