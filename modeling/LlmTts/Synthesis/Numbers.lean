import LlmTts.Synthesis.Cleaning

/-!
# The numbers of a text

A standalone number is a maximal run of word characters that are all digits: that is what
the pattern of `expand_numbers` matches. So `expand_numbers` raises exactly when one of
them cannot be said, and leaves no number behind when what is said has no digits.
-/

namespace LlmTts
open Python Regex Runs

variable (words : WordChars)

/-- A run of word characters that are digits. -/
def isDigitRun (run : List Char) : Bool := !run.isEmpty && run.all isDecimal

theorem digitless_of_none {text : List Char} (digitless : text.any isDecimal = false) : ∀ c ∈ text, isDecimal c = false := by
  intro c member
  exact Bool.eq_false_iff.2 (List.any_eq_false.1 digitless c member)

/-- The standalone numbers of a text. -/
def numbersOf (text : List Char) : List (List Char) :=
  ((runs words.isWord text).1 :: (runs words.isWord text).2).filter isDigitRun

variable {words}

theorem isDigitRun_iff {run : List Char} : isDigitRun run = true ↔ run ≠ [] ∧ ∀ c ∈ run, isDecimal c = true := by
  unfold isDigitRun
  rw [Bool.and_eq_true_iff, Bool.not_eq_true', List.isEmpty_eq_false_iff, List.all_eq_true]

theorem numbersOf_eq_words (text : List Char) :
    numbersOf words text = (Runs.words words.isWord text).filter fun run => run.all isDecimal := by
  unfold numbersOf Runs.words
  rw [List.filter_filter]
  apply congrArg (fun p => List.filter p _)
  funext run
  exact Bool.and_comm _ _

theorem numbersOf_of_outside {c : Char} {cs : List Char} (here : words.isWord c = false) :
    numbersOf words (c :: cs) = numbersOf words cs := by
  rw [numbersOf_eq_words, numbersOf_eq_words, words_of_outside here]

/-! ## The pattern -/

theorem boundary_iff {c : Option Char} : boundary words c = true ↔ ∀ d ∈ c, words.isWord d = false := by
  cases c with
  | none => exact iff_of_true rfl nofun
  | some d =>
    unfold boundary
    simp

theorem standaloneNumber_of_inside {before : Option Char} (inside : boundary words before = false) (text : List Char) :
    standaloneNumber words before text = 0 := by
  apply if_neg
  rintro ⟨outside, -⟩
  rw [inside] at outside
  cases outside

/-- Where a run of word characters begins, the pattern matches it if it is a number. -/
theorem standaloneNumber_at {before : Option Char} (outside : boundary words before = true) (text : List Char) :
    standaloneNumber words before text =
      if isDigitRun (runs words.isWord text).1 then (runs words.isWord text).1.length else 0 := by
  have digit : ∀ c, isDecimal c = true → words.isWord c = true := words.digit
  rw [first_eq]
  unfold standaloneNumber
  dsimp only
  rw [drop_takeWhile]
  by_cases ends : boundary words (text.dropWhile isDecimal).head? = true
  · -- the digits are the whole run
    rw [if_pos ⟨outside, ends⟩, takeWhile_of_ends digit (boundary_iff.1 ends)]
    split
    · rfl
    · rename_i separate
      by_contra nonempty
      apply separate
      exact isDigitRun_iff.2 ⟨fun empty => nonempty (by rw [empty]; rfl), fun c => List.mem_takeWhile_imp⟩
  · rw [if_neg fun both => ends both.2, if_neg]
    intro number
    apply ends
    rw [dropWhile_of_all digit (isDigitRun_iff.1 number).2]
    exact boundary_iff.2 (head?_dropWhile text)

/-- What the pattern matches: the standalone numbers. -/
theorem matches_standaloneNumber (before : Option Char) (inside : Nat) (text : List Char) :
    (boundary words before = true → inside = 0 →
      (tokens (standaloneNumber words) before inside text).filterMap Sum.getRight? = numbersOf words text) ∧
    (boundary words before = false → inside ≤ (runs words.isWord text).1.length →
      (tokens (standaloneNumber words) before inside text).filterMap Sum.getRight? =
        (runs words.isWord text).2.filter isDigitRun) := by
  induction text generalizing before inside with
  | nil => exact ⟨fun _ _ => rfl, fun _ _ => rfl⟩
  | cons c cs ih =>
    have next : ∀ inside, inside ≤ (runs words.isWord cs).1.length → words.isWord c = true →
        (tokens (standaloneNumber words) (some c) inside cs).filterMap Sum.getRight? =
          (runs words.isWord cs).2.filter isDigitRun := fun inside short here =>
      (ih (some c) inside).2 (by rw [boundary, Option.all_some, here]; rfl) short
    have after : words.isWord c = false →
        (tokens (standaloneNumber words) (some c) 0 cs).filterMap Sum.getRight? = numbersOf words cs := fun here =>
      (ih (some c) 0).1 (by rw [boundary, Option.all_some, here]; rfl) rfl
    constructor
    · rintro outside rfl
      have length := standaloneNumber_at outside (c :: cs)
      cases here : words.isWord c with
      | true =>
        rw [runs_of_inside here] at length
        unfold numbersOf
        rw [runs_of_inside here]
        cases number : isDigitRun (c :: (runs words.isWord cs).1) with
        | true =>
          have front : (c :: cs).take ((runs words.isWord cs).1.length + 1) = c :: (runs words.isWord cs).1 := by
            rw [List.take_succ_cons, first_eq, ← List.prefix_iff_eq_take.1 (List.takeWhile_prefix _)]
          rw [if_pos number] at length
          rw [tokens_match length, List.filterMap_cons_some (Sum.getRight?_inr (α := Char)), next _ (Nat.le_refl _) here,
            List.filter_cons_of_pos number, front]
        | false =>
          rw [if_neg (Bool.eq_false_iff.1 number)] at length
          rw [tokens_kept length, List.filterMap_cons_none rfl, next 0 (Nat.zero_le _) here,
            List.filter_cons_of_neg (Bool.eq_false_iff.1 number)]
      | false =>
        rw [runs_of_outside here] at length
        rw [tokens_kept length, List.filterMap_cons_none rfl, after here, numbersOf_of_outside here]
    · intro within short
      cases inside with
      | zero =>
        rw [tokens_kept (standaloneNumber_of_inside within _), List.filterMap_cons_none rfl]
        cases here : words.isWord c with
        | true =>
          rw [runs_of_inside here]
          exact next 0 (Nat.zero_le _) here
        | false =>
          rw [runs_of_outside here]
          exact after here
      | succ inside =>
        cases here : words.isWord c with
        | true =>
          rw [runs_of_inside here] at short ⊢
          exact next inside (Nat.le_of_succ_le_succ short) here
        | false =>
          rw [runs_of_outside here] at short
          exact absurd short (Nat.not_succ_le_zero inside)

/-! ## What is said -/

/-- A run ends where the rest of the text does not go on with a word character. -/
theorem numbersOf_append {x y : List Char} (ends : (runs words.isWord y).1 = []) :
    numbersOf words (x ++ y) = numbersOf words x ++ (runs words.isWord y).2.filter isDigitRun := by
  unfold numbersOf
  rw [runs_append ends, ← List.cons_append, List.filter_append]

theorem numbersOf_digitless {text : List Char} (digitless : ∀ c ∈ text, isDecimal c = false) :
    numbersOf words text = [] := by
  apply List.filter_eq_nil_iff.2
  intro run member number
  obtain ⟨nonempty, all⟩ := isDigitRun_iff.1 number
  obtain ⟨c, cs, rfl⟩ := List.exists_cons_of_ne_nil nonempty
  have digit := all c List.mem_cons_self
  rw [digitless c (mem_runs member c List.mem_cons_self).1] at digit
  cases digit

/-- Texts without digits in place of the numbers leave no number behind. -/
theorem numbersOf_sub {say : List Char → List Char} (digitless : ∀ found, ∀ c ∈ say found, isDecimal c = false)
    (text : List Char) : numbersOf words (sub (standaloneNumber words) say text) = [] := by
  let said (before : Option Char) (inside : Nat) (text : List Char) : List Char :=
    (tokens (standaloneNumber words) before inside text).flatMap (Sum.elim (fun c => [c]) say)
  have kept : ∀ {before c cs}, standaloneNumber words before (c :: cs) = 0 →
      said before 0 (c :: cs) = c :: said (some c) 0 cs := by
    intro before c cs unmatched
    show List.flatMap _ _ = _
    rw [tokens_kept unmatched, List.flatMap_cons]
    rfl
  have steps : ∀ (text : List Char) (before : Option Char) (inside : Nat),
      (boundary words before = true → inside = 0 → numbersOf words (said before inside text) = []) ∧
      (boundary words before = false → inside ≤ (runs words.isWord text).1.length →
        (runs words.isWord (said before inside text)).1 = (runs words.isWord text).1.drop inside ∧
          (runs words.isWord (said before inside text)).2.filter isDigitRun = []) := by
    intro text
    induction text with
    | nil =>
      intro before inside
      exact ⟨fun _ _ => rfl, fun _ _ => ⟨List.drop_nil.symm, rfl⟩⟩
    | cons c cs ih =>
      intro before inside
      have next : words.isWord c = true → ∀ inside ≤ (runs words.isWord cs).1.length, _ := fun here inside short =>
        (ih (some c) inside).2 (by rw [boundary, Option.all_some, here]; rfl) short
      have after : words.isWord c = false → numbersOf words (said (some c) 0 cs) = [] := fun here =>
        (ih (some c) 0).1 (by rw [boundary, Option.all_some, here]; rfl) rfl
      constructor
      · rintro outside rfl
        have length := standaloneNumber_at outside (c :: cs)
        cases here : words.isWord c with
        | true =>
          rw [runs_of_inside here] at length
          cases number : isDigitRun (c :: (runs words.isWord cs).1) with
          | true =>
            -- the whole run is said, so that what is said ends at a boundary
            obtain ⟨first, others⟩ := next here _ (Nat.le_refl _)
            rw [List.drop_length] at first
            rw [if_pos number] at length
            show numbersOf words (List.flatMap _ _) = []
            rw [tokens_match length, List.flatMap_cons, numbersOf_append first, others]
            exact congrArg (· ++ []) (numbersOf_digitless (digitless _))
          | false =>
            obtain ⟨first, others⟩ := next here 0 (Nat.zero_le _)
            rw [if_neg (Bool.eq_false_iff.1 number)] at length
            rw [kept length, numbersOf, runs_of_inside here, first, List.drop_zero,
              List.filter_cons_of_neg (Bool.eq_false_iff.1 number), others]
        | false =>
          rw [runs_of_outside here] at length
          rw [kept length, numbersOf_of_outside here, after here]
      · intro within short
        cases inside with
        | zero =>
          rw [kept (standaloneNumber_of_inside within _), List.drop_zero]
          cases here : words.isWord c with
          | true =>
            obtain ⟨first, others⟩ := next here 0 (Nat.zero_le _)
            rw [runs_of_inside here, runs_of_inside here, first, List.drop_zero]
            exact ⟨rfl, others⟩
          | false =>
            rw [runs_of_outside here, runs_of_outside here]
            exact ⟨rfl, after here⟩
        | succ inside =>
          cases here : words.isWord c with
          | true =>
            rw [runs_of_inside here] at short ⊢
            exact next here inside (Nat.le_of_succ_le_succ short)
          | false =>
            rw [runs_of_outside here] at short
            exact absurd short (Nat.not_succ_le_zero inside)
  exact (steps text none 0).1 rfl rfl

/-! ## Cleaning -/

theorem not_word_of_ascii {c : Char} (low : c.toNat < 128) (symbol : (c.isAlphanum || c = '_') = false) :
    words.isWord c = false := by
  rw [words.ascii c low, symbol]

theorem not_word_of_mark {c : Char} (mark : c = '.' ∨ c ∈ pauseMarks) : words.isWord c = false := by
  have plain : ('.' :: pauseMarks).all (fun c => c.toNat < 128 && !(c.isAlphanum || c = '_')) = true := by decide
  obtain ⟨low, symbol⟩ := Bool.and_eq_true_iff.1 (List.all_eq_true.1 plain c (List.mem_cons.2 mark))
  exact not_word_of_ascii (of_decide_eq_true low) ((Bool.not_eq_true' _).mp symbol)

/-- `clean_punctuation` leaves the numbers, since it changes no word character and puts none
of them together. -/
theorem numbersOf_cleanPunctuation (text : List Char) : numbersOf words (cleanPunctuation text) = numbersOf words text := by
  have dot : ∀ a b, likeDots a b = true → words.isWord a = false ∧ words.isWord b = false := by
    intro a b alike
    obtain ⟨left, right⟩ := Bool.and_eq_true_iff.1 alike
    exact ⟨not_word_of_mark (.inl (of_decide_eq_true left)), not_word_of_mark (.inl (of_decide_eq_true right))⟩
  have mark : ∀ a b, likeMarks a b = true → words.isWord a = false ∧ words.isWord b = false := by
    intro a b alike
    have here : words.isWord a = false := not_word_of_mark (.inr (of_decide_eq_true (Bool.and_eq_true_iff.1 alike).2))
    exact ⟨here, likeMarks_eq alike ▸ here⟩
  have space : ∀ a b, likeSpaces a b = true → words.isWord a = false ∧ words.isWord b = false := by
    intro a b alike
    obtain ⟨left, right⟩ := Bool.and_eq_true_iff.1 alike
    exact ⟨words.space a left, words.space b right⟩
  have same : ∀ c, words.isWord c = true → repSpace c = c := by
    intro c here
    apply if_neg
    intro blank
    rw [words.space c blank] at here
    cases here
  have kept : ∀ c, words.isWord c = false → words.isWord (repSpace c) = false := by
    intro c here
    unfold repSpace
    split
    · exact words.space ' ' (by decide)
    · exact here
  obtain ⟨front, back, before, after, whole⟩ := stripped_between (squeezed text)
  have inner : Runs.words words.isWord (stripped (squeezed text)) = Runs.words words.isWord (squeezed text) := by
    conv_rhs => rw [whole]
    symm
    apply words_between
    · exact fun c member => words.space c (before c member)
    · exact fun c member => words.space c (after c member)
  have plain : ∀ {like : Char → Char → Bool}, (∀ a b, like a b = true → words.isWord a = false ∧ words.isWord b = false) →
      ∀ text, Runs.words words.isWord (squeeze like id none text) = Runs.words words.isWord text := fun outside text =>
    (words_squeeze outside (fun _ _ => rfl) (fun _ here => here) none text).1
  rw [cleanPunctuation_eq, numbersOf_eq_words, inner, squeezed, plain mark, plain dot, (words_squeeze space same kept none text).1,
    ← numbersOf_eq_words]

/-! ## The fixed point -/

theorem no_match_of_numbersOf {text : List Char} (numberless : numbersOf words text = []) (m : List Char) :
    .inr m ∉ tokens (standaloneNumber words) none 0 text := by
  intro member
  have listed : (tokens (standaloneNumber words) none 0 text).filterMap Sum.getRight? = numbersOf words text :=
    (matches_standaloneNumber none 0 text).1 rfl rfl
  rw [numberless] at listed
  exact absurd (List.filterMap_eq_nil_iff.1 listed _ member) (Option.some_ne_none m)

/-- A date starts with a number. -/
theorem datePattern_of_standaloneNumber (before : Option Char) (rest : List Char)
    (unmatched : standaloneNumber words before rest = 0) : datePattern words before rest = 0 := by
  apply if_neg
  rintro ⟨outside, ⟨nonempty, -⟩, slash, -⟩
  have ends : boundary words (rest.drop (rest.takeWhile isDecimal).length).head? = true := by
    rw [List.head?_drop]
    change rest[(rest.takeWhile isDecimal).length]? = some '/' at slash
    rw [slash, boundary, Option.all_some, words.ascii '/' (by decide)]
    decide
  have length : standaloneNumber words before rest = (rest.takeWhile isDecimal).length := if_pos ⟨outside, ends⟩
  rw [unmatched] at length
  change 1 ≤ (rest.takeWhile isDecimal).length at nonempty
  omega

section Fixed

variable {num2words : Nat → String → Except NumberError String}

theorem numbersOf_expandNumbers (digitless : ∀ value lang said, num2words value lang = .ok said →
    ∀ c ∈ said.toList, isDecimal c = false) {text out : List Char} {langCode : String}
    (run : expandNumbers (some num2words) words text langCode = .ok out) : numbersOf words out = [] := by
  obtain ⟨-, rfl⟩ := trySub_eq_ok_iff.1 run
  apply numbersOf_sub
  intro found c member
  obtain ⟨new, same, inside⟩ := mem_replaced member
  obtain ⟨value, -, tail⟩ := Checked.bind_ok_iff.1 same
  obtain ⟨said, spoken, same⟩ := Checked.bind_ok_iff.1 tail
  cases same
  unfold numberToWords at spoken
  dsimp only at spoken
  split at spoken
  · exact digitless _ _ _ spoken c inside
  · exact digitless _ _ _ spoken c inside

/-- What `preprocess_for_tts` returns has no numbers and is tidy, and it is left as it is. -/
theorem preprocess_fixed (digitless : ∀ value lang said, num2words value lang = .ok said →
    ∀ c ∈ said.toList, isDecimal c = false) {text out : List Char} {language : String}
    (run : preprocessForTts (some num2words) words text language = .ok out) :
    Absent (standaloneNumber words) out ∧ Tidy out ∧ preprocessForTts (some num2words) words out language = .ok out := by
  obtain ⟨dated, -, tail⟩ := Checked.bind_ok_iff.1 run
  obtain ⟨expanded, numbers, same⟩ := Checked.bind_ok_iff.1 tail
  cases same
  have numberless : numbersOf words (cleanPunctuation expanded) = [] := by
    rw [numbersOf_cleanPunctuation]
    exact numbersOf_expandNumbers digitless numbers
  have unmatched := no_match_of_numbersOf numberless
  have dates : expandDates (some num2words) words (cleanPunctuation expanded) (resolveNumberLanguage language) =
      .ok (cleanPunctuation expanded) := trySub_of_kept (kept_of_no_match datePattern_of_standaloneNumber unmatched) _
  have numbers' : expandNumbers (some num2words) words (cleanPunctuation expanded) (resolveNumberLanguage language) =
      .ok (cleanPunctuation expanded) := trySub_of_kept (kept_of_no_match (fun _ _ zero => zero) unmatched) _
  refine ⟨absent_of_no_match (fun before => ite_self 0) unmatched, tidy_cleanPunctuation expanded, ?_⟩
  apply Checked.bind_ok_iff.2 ⟨_, dates, _⟩
  apply Checked.bind_ok_iff.2 ⟨_, numbers', _⟩
  exact congrArg Except.ok (cleanPunctuation_of_tidy (tidy_cleanPunctuation expanded))

end Fixed

/-- Some numbers in Italian. -/
def someItalian (value : Nat) (_lang : String) : Except NumberError String :=
  match value with
  | 5 => .ok "cinque"
  | 7 => .ok "sette"
  | 2024 => .ok "duemilaventiquattro"
  | _ => .error (.other "OverflowError")

theorem someItalian_digitless (value : Nat) (lang said : String) (spoken : someItalian value lang = .ok said) :
    ∀ c ∈ said.toList, isDecimal c = false := by
  unfold someItalian at spoken
  split at spoken <;> cases spoken <;> exact digitless_of_none (by decide)

theorem preprocess_fixed_italian :
    preprocessForTts (some someItalian) asciiWords "Il 5/3/2024,, alle 7..".toList "it" =
      .ok "Il cinque marzo duemilaventiquattro, alle sette.".toList ∧
    Tidy "Il cinque marzo duemilaventiquattro, alle sette.".toList := by
  have run : preprocessForTts (some someItalian) asciiWords "Il 5/3/2024,, alle 7..".toList "it" =
      .ok "Il cinque marzo duemilaventiquattro, alle sette.".toList := by decide +kernel
  exact ⟨run, (preprocess_fixed someItalian_digitless run).2.1⟩

end LlmTts
