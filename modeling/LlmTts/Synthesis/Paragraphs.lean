import LlmTts.Synthesis.Speakable

/-!
# Paragraphs

`clean_punctuation` makes a space of a blank line, so that the splitter never sees one. The
last sentence of a paragraph and the first of the next one are apart only if the first of
them ends with a mark, or if the cuts of the sentence that is made of both happen to fall
where those of the two would.
-/

namespace LlmTts
open Python Regex Runs

variable {words : WordChars} {num2words : Num2words}

/-! ## Line breaks -/

theorem boundary_append {c : Char} (outside : words.isWord c = false) (text more : List Char) :
    boundary words (text ++ c :: more).head? = boundary words text.head? := by
  cases text with
  | nil =>
    rw [List.nil_append, List.head?_cons, boundary, Option.all_some, outside]
    rfl
  | cons d ds => rfl

theorem standaloneNumber_separator : Separator (standaloneNumber words) '\n' := by
  have outside : words.isWord '\n' = false := words.space '\n' (by decide)
  constructor
  · intro before rest
    unfold standaloneNumber
    dsimp only
    split
    · exact (List.takeWhile_prefix _).length_le
    · exact Nat.zero_le _
  · intro before rest more matched
    unfold standaloneNumber
    dsimp only
    rw [takeWhile_append_stop (by decide), List.drop_append_of_le_length (List.takeWhile_prefix _).length_le,
      boundary_append outside]
  · exact fun before more => standaloneNumber_of_wordless (by decide) before more

/-- A line break is not part of a date, and as good as the end of the text behind one. -/
theorem datePattern_append (before : Option Char) (rest more : List Char) (n : Nat) :
    datePattern words before (rest ++ '\n' :: more) = n + 1 ↔ datePattern words before rest = n + 1 := by
  have outside : words.isWord '\n' = false := words.space '\n' (by decide)
  constructor
  · intro length
    obtain ⟨day, month, year, tail, date, same, counted, start, ends⟩ := datePattern_shape length
    have inside : ∃ tail', rest = dateText day month year ++ tail' ∧ tail = tail' ++ '\n' :: more := by
      rcases List.append_eq_append_iff.1 same with ⟨cut, whole, back⟩ | ⟨tail', front, back⟩
      · cases cut with
        | nil => exact ⟨[], by rw [whole, List.append_nil, List.append_nil], back.symm⟩
        | cons c cut =>
          have first := (List.cons.inj back).1
          apply absurd _ (not_mem_dateText (c := '\n') (by decide) (by decide) date)
          rw [whole, first]
          exact List.mem_append_right _ List.mem_cons_self
      · exact ⟨tail', front, back⟩
    obtain ⟨tail', rfl, rfl⟩ := inside
    rw [boundary_append outside] at ends
    rw [datePattern_dateText date start ends, counted]
  · intro length
    obtain ⟨day, month, year, tail, date, rfl, counted, start, ends⟩ := datePattern_shape length
    rw [← boundary_append outside tail more] at ends
    rw [List.append_assoc, datePattern_dateText date start ends, counted]

theorem datePattern_separator : Separator (datePattern words) '\n' := by
  have outside : words.isWord '\n' = false := words.space '\n' (by decide)
  constructor
  · intro before rest
    cases length : datePattern words before rest with
    | zero => exact Nat.zero_le _
    | succ n =>
      obtain ⟨day, month, year, tail, -, rfl, counted, -, -⟩ := datePattern_shape length
      rw [List.length_append, counted]
      exact Nat.le_add_right _ _
  · intro before rest more _
    have same : ∀ n, datePattern words before (rest ++ '\n' :: more) = n + 1 ↔ datePattern words before rest = n + 1 :=
      datePattern_append before rest more
    cases length : datePattern words before rest with
    | succ n => exact (same n).2 length
    | zero =>
      cases longer : datePattern words before (rest ++ '\n' :: more) with
      | zero => rfl
      | succ n => exact nomatch length.symm.trans ((same n).1 longer)
  · exact fun before more => datePattern_of_standaloneNumber _ _ (standaloneNumber_of_wordless (by decide) before more)

/-! ## Cleaning across a blank line -/

theorem trimmed_append {x y z : List Char} (left : Trimmed x) (right : Trimmed y) (nonempty : x ≠ []) (nonempty' : y ≠ []) :
    Trimmed (x ++ (z ++ y)) := by
  obtain ⟨first, -⟩ := trimmed_iff.1 left
  obtain ⟨-, last⟩ := trimmed_iff.1 right
  apply trimmed_iff.2
  rw [List.head?_append_of_ne_nil _ nonempty, ← List.append_assoc, List.getLast?_append_of_ne_nil _ nonempty']
  exact ⟨first, last⟩

/-- What is stripped is what is not blank. -/
theorem stripped_of_between {front text back : List Char} (blank : ∀ c ∈ front, isSpace c = true) (trimmed : Trimmed text)
    (blank' : ∀ c ∈ back, isSpace c = true) : stripped (front ++ text ++ back) = text := by
  by_cases empty : text = []
  · rw [empty, List.append_nil]
    exact stripped_eq_nil_iff.2 (List.forall_mem_append.2 ⟨blank, blank'⟩)
  · obtain ⟨first, last⟩ := trimmed_iff.1 trimmed
    have cutFront : (front ++ (text ++ back)).dropWhile isSpace = text ++ back := by
      obtain ⟨c, cs, rfl⟩ := List.exists_cons_of_ne_nil empty
      rw [List.dropWhile_append_of_pos blank, List.cons_append, List.dropWhile_cons_of_neg (Bool.eq_false_iff.1 (first c rfl))]
    have cutBack : (text ++ back).rdropWhile isSpace = text := by
      have blankBack : ∀ c ∈ back.reverse, isSpace c = true := fun c member => blank' c (List.mem_reverse.1 member)
      obtain ⟨rest, c, rfl⟩ := (List.eq_nil_or_concat' text).resolve_left empty
      rw [List.rdropWhile, List.reverse_append, List.dropWhile_append_of_pos blankBack, List.reverse_concat,
        List.dropWhile_cons_of_neg (Bool.eq_false_iff.1 (last c List.getLast?_concat)), ← List.reverse_concat,
        List.reverse_reverse]
    rw [stripped, List.append_assoc, cutFront, cutBack]

/-- A run of white space between two texts becomes one space. -/
theorem squeezed_between {x y spaces : List Char} (last : ∀ c ∈ x.getLast?, isSpace c = false) (nonempty : spaces ≠ [])
    (blank : ∀ c ∈ spaces, isSpace c = true) (first : ∀ c ∈ y.head?, isSpace c = false) :
    squeezed (x ++ (spaces ++ y)) = squeezed x ++ ' ' :: squeezed y := by
  have run : ∀ (spaces : List Char) (c : Char), isSpace c = true → (∀ c ∈ spaces, isSpace c = true) →
      squeeze likeSpaces repSpace (some c) (spaces ++ y) = squeeze likeSpaces repSpace none y := by
    intro spaces
    induction spaces with
    | nil =>
      intro c space _
      apply squeeze_fresh
      intro d head
      rw [likeSpaces, first d head, Bool.and_false]
    | cons d ds ih =>
      intro c space blank
      obtain ⟨here, later⟩ := List.forall_mem_cons.1 blank
      have alike : likeSpaces c d = true := Bool.and_eq_true_iff.2 ⟨space, here⟩
      rw [List.cons_append, squeeze_drop (show (some c).any (likeSpaces · d) = true from alike)]
      exact ih d here later
  obtain ⟨c, rest, rfl⟩ := List.exists_cons_of_ne_nil nonempty
  obtain ⟨here, later⟩ := List.forall_mem_cons.1 blank
  have collapsed : squeeze likeSpaces repSpace none (x ++ (c :: rest ++ y)) =
      squeeze likeSpaces repSpace none x ++ ' ' :: squeeze likeSpaces repSpace none y := by
    have unlike : ∀ b ∈ x.getLast?, likeSpaces b c = false := by
      intro b member
      rw [likeSpaces, last b member, Bool.false_and]
    have single : repSpace c = ' ' := if_pos here
    rw [List.cons_append, squeeze_cut unlike, run rest c here later, single]
  have dots : ∀ b, likeDots b ' ' = false := fun b => Bool.and_false _
  have marks : ∀ b, likeMarks b ' ' = false := by
    intro b
    apply likeMarks_false.2
    rintro ⟨rfl, mark⟩
    revert mark
    decide
  have marks' : ∀ d, likeMarks ' ' d = false := fun d => Bool.and_false _
  unfold squeezed
  rw [collapsed, squeeze_apart dots (fun _ => rfl)]
  exact squeeze_apart marks marks' _ _

theorem trimmed_squeezed {text : List Char} (trimmed : Trimmed text) : Trimmed (squeezed text) := by
  obtain ⟨first, last⟩ := trimmed_iff.1 trimmed
  have spaces : ∀ a b, likeSpaces a b = true → repSpace a = repSpace b := by
    intro a b alike
    obtain ⟨left, right⟩ := Bool.and_eq_true_iff.1 alike
    rw [repSpace, repSpace, if_pos left, if_pos right]
  have equal : ∀ {like : Char → Char → Bool}, (∀ a b, like a b = true → a = b) → ∀ text,
      (squeeze like id none text).getLast? = text.getLast?.map id := fun equal =>
    getLast?_squeeze fun a b alike => congrArg id (equal a b alike)
  apply trimmed_iff.2
  unfold squeezed
  rw [head?_squeeze, head?_squeeze, head?_squeeze, equal fun a b => likeMarks_eq, equal fun a b => likeDots_eq,
    getLast?_squeeze spaces]
  simp only [Option.map_id_fun, id_eq, Option.mem_map]
  constructor
  · rintro _ ⟨c, head, rfl⟩
    rw [isSpace_repSpace]
    exact first c head
  · rintro _ ⟨c, tail, rfl⟩
    rw [isSpace_repSpace]
    exact last c tail

theorem squeezed_eq_nil_iff {text : List Char} : squeezed text = [] ↔ text = [] := by
  unfold squeezed
  rw [← List.head?_eq_none_iff, head?_squeeze, head?_squeeze, head?_squeeze, Option.map_eq_none_iff, Option.map_eq_none_iff,
    Option.map_eq_none_iff, List.head?_eq_none_iff]

/-- White space around a text makes no difference. -/
theorem cleanPunctuation_of_between {front text back : List Char} (before : ∀ c ∈ front, isSpace c = true)
    (trimmed : Trimmed text) (after : ∀ c ∈ back, isSpace c = true) :
    cleanPunctuation (front ++ text ++ back) = squeezed text := by
  rw [cleanPunctuation_eq]
  by_cases empty : text = []
  · -- nothing but white space
    rw [empty, List.append_nil]
    apply stripped_eq_nil_iff.2
    intro c member
    obtain ⟨d, inside, rfl⟩ := mem_squeeze member
    obtain ⟨e, inside', rfl⟩ := mem_squeeze inside
    obtain ⟨f, within, rfl⟩ := mem_squeeze inside'
    show isSpace (repSpace f) = true
    rw [isSpace_repSpace]
    exact List.forall_mem_append.2 ⟨before, after⟩ f within
  · obtain ⟨first, last⟩ := trimmed_iff.1 trimmed
    have right : ∃ back', (∀ c ∈ back', isSpace c = true) ∧ squeezed (text ++ back) = squeezed text ++ back' := by
      by_cases nothing : back = []
      · exact ⟨[], nofun, by rw [nothing, List.append_nil, List.append_nil]⟩
      · refine ⟨[' '], List.forall_mem_singleton.2 rfl, ?_⟩
        have cut := squeezed_between (y := []) last nothing after nofun
        rw [List.append_nil] at cut
        exact cut
    obtain ⟨back', after', same⟩ := right
    have whole : ∃ front', (∀ c ∈ front', isSpace c = true) ∧
        squeezed (front ++ text ++ back) = front' ++ squeezed text ++ back' := by
      by_cases nothing : front = []
      · exact ⟨[], nofun, by rw [nothing]; exact same⟩
      · refine ⟨[' '], List.forall_mem_singleton.2 rfl, ?_⟩
        have next : ∀ c ∈ (text ++ back).head?, isSpace c = false := by
          rw [List.head?_append_of_ne_nil _ empty]
          exact first
        have cut := squeezed_between (x := []) nofun nothing before next
        rw [same] at cut
        rw [List.append_assoc]
        exact cut
    obtain ⟨front', before', both⟩ := whole
    rw [both]
    exact stripped_of_between before' (trimmed_squeezed trimmed) after'

/-- A blank line between two texts becomes a space. -/
theorem cleanPunctuation_join (x y : List Char) :
    cleanPunctuation x = [] ∧ cleanPunctuation (x ++ '\n' :: '\n' :: y) = cleanPunctuation y ∨
    cleanPunctuation y = [] ∧ cleanPunctuation (x ++ '\n' :: '\n' :: y) = cleanPunctuation x ∨
    cleanPunctuation x ≠ [] ∧ cleanPunctuation y ≠ [] ∧
      cleanPunctuation (x ++ '\n' :: '\n' :: y) = cleanPunctuation x ++ ' ' :: cleanPunctuation y := by
  obtain ⟨front, back, before, after, left⟩ := stripped_between x
  obtain ⟨front', back', before', after', right⟩ := stripped_between y
  have trimmed := trimmed_stripped x
  have trimmed' := trimmed_stripped y
  have clean := cleanPunctuation_of_between before trimmed after
  have clean' := cleanPunctuation_of_between before' trimmed' after'
  rw [← left] at clean
  rw [← right] at clean'
  have between : ∀ c ∈ back ++ '\n' :: '\n' :: front', isSpace c = true := by
    have space : isSpace '\n' = true := by decide
    exact List.forall_mem_append.2 ⟨after, List.forall_mem_cons.2 ⟨space, List.forall_mem_cons.2 ⟨space, before'⟩⟩⟩
  have whole : x ++ '\n' :: '\n' :: y =
      front ++ (stripped x ++ ((back ++ '\n' :: '\n' :: front') ++ stripped y)) ++ back' := by
    conv_lhs => rw [left, right]
    simp only [List.append_assoc, List.cons_append]
  rw [clean, clean', whole, ne_eq, ne_eq, squeezed_eq_nil_iff, squeezed_eq_nil_iff]
  by_cases empty : stripped x = []
  · left
    refine ⟨empty, ?_⟩
    rw [empty, List.nil_append, ← List.append_assoc front]
    exact cleanPunctuation_of_between (List.forall_mem_append.2 ⟨before, between⟩) trimmed' after'
  · by_cases empty' : stripped y = []
    · right
      left
      refine ⟨empty', ?_⟩
      rw [empty', List.append_nil, ← List.append_assoc front, List.append_assoc (front ++ stripped x)]
      exact cleanPunctuation_of_between before trimmed (List.forall_mem_append.2 ⟨between, after'⟩)
    · right
      right
      refine ⟨empty, empty', ?_⟩
      rw [cleanPunctuation_of_between before (trimmed_append trimmed trimmed' empty empty') after']
      apply squeezed_between (trimmed_iff.1 trimmed).2 _ between (trimmed_iff.1 trimmed').1
      exact List.append_ne_nil_of_right_ne_nil _ (List.cons_ne_nil _ _)

/-- Expanding goes on afresh behind a blank line. -/
theorem preprocess_join {p q a b : List Char} {language : String} (first : preprocessForTts num2words words p language = .ok a)
    (second : preprocessForTts num2words words q language = .ok b) :
    ∃ p' q', a = cleanPunctuation p' ∧ b = cleanPunctuation q' ∧
      preprocessForTts num2words words (p ++ '\n' :: '\n' :: q) language =
        .ok (cleanPunctuation (p' ++ '\n' :: '\n' :: q')) := by
  have outside : ∀ c ∈ some '\n', words.isWord c = false := by
    rintro c ⟨rfl⟩
    exact words.space '\n' (by decide)
  have boundary_break : boundary words (some '\n') = boundary words none := boundary_iff.2 outside
  have numbers : ∀ rest, standaloneNumber words (some '\n') rest = standaloneNumber words none rest := by
    intro rest
    unfold standaloneNumber
    rw [boundary_break]
  have dates : ∀ rest, datePattern words (some '\n') rest = datePattern words none rest := by
    intro rest
    unfold datePattern
    rw [boundary_break]
  have empty : ∀ pattern (replace : List Char → Except NumberError (List Char)), trySub pattern replace [] = .ok [] :=
    fun _ _ => rfl
  obtain ⟨dated, run, tail⟩ := Checked.bind_ok_iff.1 first
  obtain ⟨p', numbered, same⟩ := Checked.bind_ok_iff.1 tail
  obtain ⟨dated', run', tail'⟩ := Checked.bind_ok_iff.1 second
  obtain ⟨q', numbered', same'⟩ := Checked.bind_ok_iff.1 tail'
  refine ⟨p', q', (Except.ok.inj same).symm, (Except.ok.inj same').symm, ?_⟩
  have whole := trySub_separator datePattern_separator dates run (trySub_separator datePattern_separator dates (empty _ _) run')
  have whole' := trySub_separator standaloneNumber_separator numbers numbered
    (trySub_separator standaloneNumber_separator numbers (empty _ _) numbered')
  exact Checked.bind_ok_iff.2 ⟨_, whole, Checked.bind_ok_iff.2 ⟨_, whole', rfl⟩⟩

/-! ## Sentences -/

theorem sentenceBreak_separator {c : Char} (seen : isSpace c = false) : Separator sentenceBreak c := by
  constructor
  · intro before rest
    unfold sentenceBreak
    split
    · exact (List.takeWhile_prefix _).length_le
    · exact Nat.zero_le _
  · intro before rest more _
    unfold sentenceBreak
    rw [takeWhile_append_stop seen]
  · intro before more
    apply sentenceBreak_later
    rintro ⟨-, space⟩
    rw [seen] at space
    cases space

/-- A tidy text is one paragraph. -/
theorem sentencesOf_tidy {text : List Char} (tidy : Tidy text) (nonempty : text ≠ []) :
    sentencesOf text = pieces sentenceBreak text := by
  have unmatched : Unmatched blankLines text := by
    apply unmatched_of_first (· = '\n')
    · exact fun before => rfl
    · intro before c cs apart
      unfold blankLines
      rw [List.takeWhile_cons_of_neg (by simpa using apart)]
      rfl
    · rintro c member rfl
      exact absurd (tidy.spaces '\n' member (by decide)) (by decide)
  have one : pieces blankLines text = [text] := by
    unfold pieces
    rw [split_of_unmatched unmatched, List.map_singleton, tidy.trimmed]
    exact List.filter_eq_self.2 (List.forall_mem_singleton.2 (decide_eq_true nonempty))
  rw [sentencesOf_eq, one, List.flatMap_singleton]
  rfl

/-- White space in the middle of a text is left when it is stripped. -/
theorem stripped_middle {x y : List Char} {z d : Char} (seen : isSpace z = false) (seen' : isSpace d = false)
    (middle : List Char) : stripped ((x ++ [z]) ++ (middle ++ d :: y)) = stripped (x ++ [z]) ++ (middle ++ stripped (d :: y)) ∧
      (stripped (x ++ [z])).getLast? = some z := by
  have full : ∀ {text : List Char} {c : Char}, isSpace c = false → c ∈ text → stripped text ≠ [] := by
    intro text c seen member empty
    rw [stripped_eq_nil_iff.1 empty c member] at seen
    cases seen
  obtain ⟨front, back, before, after, left⟩ := stripped_between (x ++ [z])
  obtain ⟨front', back', before', after', right⟩ := stripped_between (d :: y)
  have nonempty : stripped (x ++ [z]) ≠ [] := full seen (List.mem_append_right x List.mem_cons_self)
  have nonempty' := full seen' (List.mem_cons_self (l := y))
  -- there is no white space to be removed on the inner sides
  have closed : back = [] := by
    by_contra spaced
    have last := congrArg List.getLast? left
    rw [List.getLast?_concat, List.getLast?_append_of_ne_nil _ spaced] at last
    rw [after z (List.mem_of_getLast? last.symm)] at seen
    cases seen
  have closed' : front' = [] := by
    by_contra spaced
    have first := congrArg List.head? right
    rw [List.append_assoc, List.head?_append_of_ne_nil _ spaced] at first
    rw [before' d (List.mem_of_head? first.symm)] at seen'
    cases seen'
  rw [closed, List.append_nil] at left
  rw [closed', List.nil_append] at right
  constructor
  · have whole : (x ++ [z]) ++ (middle ++ d :: y) =
        front ++ (stripped (x ++ [z]) ++ (middle ++ stripped (d :: y))) ++ back' := by
      conv_lhs => rw [left, right]
      simp only [List.append_assoc]
    rw [whole]
    exact stripped_of_between before (trimmed_append (trimmed_stripped _) (trimmed_stripped _) nonempty nonempty') after'
  · have last := congrArg List.getLast? left
    rw [List.getLast?_concat, List.getLast?_append_of_ne_nil _ nonempty] at last
    exact last.symm

/-- The parts of two texts with a space between them. -/
theorem split_join {x y : List Char} {z d : Char} (seen : isSpace z = false) (seen' : isSpace d = false) :
    ∃ front last first others, split sentenceBreak (x ++ [z]) = front ++ [last ++ [z]] ∧
      split sentenceBreak (d :: y) = (d :: first) :: others ∧
      split sentenceBreak (x ++ z :: ' ' :: d :: y) = if isMark z then
          (front ++ [last ++ [z]]) ++ (d :: first) :: others
        else front ++ (last ++ z :: ' ' :: d :: first) :: others := by
  have start : ∀ before : Option Char, sentenceBreak before (d :: y) = 0 := fun before =>
    (sentenceBreak_separator seen').kept before y
  obtain ⟨front, last, left⟩ := (List.eq_nil_or_concat' (parts (tokens sentenceBreak none 0 x))).resolve_left (parts_ne_nil _)
  obtain ⟨first, others, right⟩ := List.exists_cons_of_ne_nil (parts_ne_nil (tokens sentenceBreak (some d) 0 y))
  have tail : ∀ before, parts (tokens sentenceBreak before 0 (d :: y)) = (d :: first) :: others := by
    intro before
    rw [tokens_kept (start before), parts_kept right]
  refine ⟨front, last, first, others, ?_, tail none, ?_⟩
  · rw [split, tokens_separator (sentenceBreak_separator seen) none (Nat.zero_le _)]
    exact parts_append left rfl
  · rw [split, tokens_separator (sentenceBreak_separator seen) none (Nat.zero_le _)]
    cases mark : isMark z with
    | true =>
      have length : sentenceBreak (some z) (' ' :: d :: y) = 0 + 1 := by
        have ends : (some z).any isMark ∧ isSpace ' ' := ⟨mark, by decide⟩
        rw [sentenceBreak_here ends, List.takeWhile_cons_of_neg (Bool.eq_false_iff.1 seen')]
        rfl
      have parted : parts (.inl z :: tokens sentenceBreak (some z) 0 (' ' :: d :: y)) = [z] :: (d :: first) :: others := by
        rw [tokens_match length]
        apply parts_kept
        exact congrArg ([] :: ·) (tail _)
      rw [parts_append left parted, if_pos rfl, List.append_assoc]
      rfl
    | false =>
      have length : sentenceBreak (some z) (' ' :: d :: y) = 0 :=
        sentenceBreak_later fun ends => Bool.false_ne_true (mark.symm.trans ends.1)
      have parted : parts (.inl z :: tokens sentenceBreak (some z) 0 (' ' :: d :: y)) = (z :: ' ' :: d :: first) :: others := by
        rw [tokens_kept length]
        exact parts_kept (parts_kept (tail _))
      rw [parts_append left parted, if_neg Bool.false_ne_true]

/-- The sentences of two tidy texts with a space between them: the last of the one and the
first of the other are one sentence unless a mark is between them. -/
theorem sentences_join {a b : List Char} (tidy : Tidy a) (tidy' : Tidy b) (whole : Tidy (a ++ ' ' :: b)) (nonempty : a ≠ [])
    (nonempty' : b ≠ []) : ∃ front u v others z, sentencesOf a = front ++ [u] ∧ sentencesOf b = v :: others ∧
      u.getLast? = some z ∧ sentencesOf (a ++ ' ' :: b) =
        if isMark z then (front ++ [u]) ++ v :: others else front ++ (u ++ ' ' :: v) :: others := by
  let cut (parts : List (List Char)) : List (List Char) := (parts.map stripped).filter (· ≠ [])
  have cut_append : ∀ x y, cut (x ++ y) = cut x ++ cut y := by
    intro x y
    show List.filter _ _ = _
    rw [List.map_append, List.filter_append]
  have cut_cons : ∀ part rest, stripped part ≠ [] → cut (part :: rest) = stripped part :: cut rest := fun part rest full =>
    List.filter_cons_of_pos (decide_eq_true full)
  obtain ⟨x, z, rfl⟩ := (List.eq_nil_or_concat' a).resolve_left nonempty
  obtain ⟨d, y, rfl⟩ := List.exists_cons_of_ne_nil nonempty'
  have seen : isSpace z = false := (trimmed_iff.1 tidy.trimmed).2 z List.getLast?_concat
  have seen' : isSpace d = false := (trimmed_iff.1 tidy'.trimmed).1 d rfl
  obtain ⟨front, last, first, others, left, right, both⟩ := split_join (x := x) (y := y) seen seen'
  obtain ⟨middle, ends⟩ := stripped_middle (x := last) (y := first) seen seen' [' ']
  have full : stripped (last ++ [z]) ≠ [] := by
    intro empty
    rw [empty] at ends
    cases ends
  have full' : stripped (d :: first) ≠ [] := by
    intro empty
    rw [stripped_eq_nil_iff.1 empty d List.mem_cons_self] at seen'
    cases seen'
  have regrouped : x ++ [z] ++ ' ' :: d :: y = x ++ z :: ' ' :: d :: y := by rw [List.append_assoc, List.singleton_append]
  refine ⟨cut front, stripped (last ++ [z]), stripped (d :: first), cut others, z, ?_, ?_, ends, ?_⟩
  · rw [sentencesOf_tidy tidy nonempty, pieces, left]
    show cut _ = _
    rw [cut_append, cut_cons _ _ full]
    rfl
  · rw [sentencesOf_tidy tidy' nonempty', pieces, right]
    exact cut_cons _ _ full'
  · rw [sentencesOf_tidy whole (List.append_ne_nil_of_left_ne_nil nonempty _), regrouped, pieces, both]
    cases mark : isMark z with
    | true =>
      rw [if_pos rfl, if_pos rfl]
      show cut _ = _
      rw [cut_append, cut_append, cut_cons _ _ full, cut_cons _ _ full']
      rfl
    | false =>
      have one : last ++ z :: ' ' :: d :: first = (last ++ [z]) ++ ([' '] ++ d :: first) := by
        rw [List.append_assoc, List.singleton_append, List.singleton_append]
      have fullJoined : stripped (last ++ z :: ' ' :: d :: first) ≠ [] := by
        rw [one, middle]
        exact List.append_ne_nil_of_left_ne_nil full _
      rw [if_neg Bool.false_ne_true, if_neg Bool.false_ne_true]
      show cut _ = _
      rw [cut_append, cut_cons _ _ fullJoined, one, middle, List.singleton_append]

/-! ## Chunks of one sentence -/

theorem slices_nil (maxChars : Nat) : slices maxChars [] = [] := by
  have zero : (0 + maxChars - 1) / maxChars = 0 := by
    rw [Nat.div_eq_zero_iff]
    omega
  unfold slices
  rw [List.length_nil, zero]
  rfl

theorem slices_cons {maxChars : Nat} (positive : 0 < maxChars) {sentence : List Char} (nonempty : sentence ≠ []) :
    slices maxChars sentence =
      [stripped (sentence.take maxChars)].filter (· ≠ []) ++ slices maxChars (sentence.drop maxChars) := by
  have counted : (sentence.length + maxChars - 1) / maxChars =
      ((sentence.drop maxChars).length + maxChars - 1) / maxChars + 1 := by
    have length := List.length_pos_of_ne_nil nonempty
    rw [List.length_drop, ← Nat.add_div_right _ positive]
    by_cases long : maxChars ≤ sentence.length
    · congr 1
      omega
    · have one : ∀ count, maxChars ≤ count → count < 2 * maxChars → count / maxChars = 1 := by
        intro count low high
        apply Nat.div_eq_of_lt_le
        · omega
        · omega
      rw [one _ (by omega) (by omega), one _ (by omega) (by omega)]
  unfold slices
  rw [counted, List.range_succ_eq_map, List.map_cons, List.map_map, ← List.singleton_append, List.filter_append]
  congr 2
  · rw [Nat.zero_mul, List.drop_zero]
  · apply List.map_congr_left
    intro i _
    show stripped ((sentence.drop ((i + 1) * maxChars)).take maxChars) = _
    rw [List.drop_drop, Nat.succ_mul, Nat.add_comm]

theorem slices_of_short {maxChars : Nat} (positive : 0 < maxChars) {sentence : List Char} (trimmed : Trimmed sentence)
    (nonempty : sentence ≠ []) (short : sentence.length ≤ maxChars) : slices maxChars sentence = [sentence] := by
  rw [slices_cons positive nonempty, List.take_of_length_le short, trimmed, List.drop_of_length_le short, slices_nil,
    List.append_nil]
  exact List.filter_eq_self.2 (List.forall_mem_singleton.2 (decide_eq_true nonempty))

/-- Where a chunk has one sentence, a step adds the slices of the sentence. -/
theorem Packing.flush_add_single {maxChars : Nat} (positive : 0 < maxChars) {p : Packing} {sentence : List Char}
    (whole : IsSentence sentence) (few : p.currentSentences.length ≤ 1) :
    (p.add maxChars 1 sentence).flush = p.flush ++ slices maxChars sentence ∧
      (p.add maxChars 1 sentence).currentSentences.length ≤ 1 := by
  have alone : chunkOf [sentence] = sentence := by
    rw [chunkOf, List.intercalate_singleton]
    exact whole.trimmed
  have single : ∀ chunks, Packing.flush ⟨chunks, [sentence]⟩ = chunks ++ [sentence] := by
    intro chunks
    rw [flush, if_neg (List.cons_ne_nil _ _), alone]
  unfold Packing.add
  by_cases long : maxChars < sentence.length
  · rw [if_pos long]
    exact ⟨rfl, Nat.zero_le _⟩
  · have one := slices_of_short positive whole.trimmed whole.nonempty (not_lt.1 long)
    rw [if_neg long, one]
    by_cases opened : p.currentSentences = []
    · have flushed : p.flush = p.chunks := if_pos opened
      rw [opened, if_neg fun full => full.1 rfl, List.nil_append, single, flushed]
      exact ⟨rfl, Nat.le_refl 1⟩
    · have full : (1 : Int) ≤ p.currentSentences.length := by
        have counted := List.length_pos_of_ne_nil opened
        omega
      dsimp only
      rw [if_pos ⟨opened, .inl full⟩, single]
      exact ⟨rfl, Nat.le_refl 1⟩

/-- With one sentence for each chunk, the chunks are the slices of the sentences. -/
theorem splitTextSemantic_single {maxChars : Nat} (positive : 0 < maxChars) {text : List Char} (trimmed : Trimmed text) :
    splitTextSemantic text maxChars 1 = (sentencesOf text).flatMap (slices maxChars) := by
  have packed : ∀ (sentences : List (List Char)) (p : Packing), (∀ sentence ∈ sentences, IsSentence sentence) →
      p.currentSentences.length ≤ 1 →
      (sentences.foldl (Packing.add maxChars 1) p).flush = p.flush ++ sentences.flatMap (slices maxChars) := by
    intro sentences
    induction sentences with
    | nil => exact fun p _ _ => (List.append_nil _).symm
    | cons sentence sentences ih =>
      intro p all few
      obtain ⟨here, later⟩ := List.forall_mem_cons.1 all
      obtain ⟨added, few'⟩ := Packing.flush_add_single positive here few
      rw [List.foldl_cons, ih _ later few', added, List.flatMap_cons, List.append_assoc]
  unfold splitTextSemantic
  rw [trimmed]
  split
  · rename_i empty
    rw [empty]
    rfl
  · exact packed _ ⟨[], []⟩ (fun sentence => isSentence_of_mem) (Nat.zero_le 1)

/-! ## Where the cuts fall -/

/-- Texts with different characters between the white space are different when stripped. -/
theorem dense_of_stripped {x y : List Char} (same : stripped x = stripped y) : dense x = dense y := by
  rw [← dense_stripped x, same, dense_stripped]

theorem dense_cons_of_seen {c : Char} (seen : isSpace c = false) (text : List Char) : dense (c :: text) = c :: dense text :=
  List.filter_cons_of_pos (by rw [seen]; rfl)

theorem stripped_space_cons {c : Char} (space : isSpace c = true) (text : List Char) : stripped (c :: text) = stripped text := by
  rw [stripped, List.dropWhile_cons_of_pos space]
  rfl

theorem stripped_concat_space {c : Char} (space : isSpace c = true) (text : List Char) :
    stripped (text ++ [c]) = stripped text := by
  obtain ⟨front, back, before, after, whole⟩ := stripped_between text
  conv_lhs => rw [whole, List.append_assoc]
  exact stripped_of_between before (trimmed_stripped text) (List.forall_mem_append.2 ⟨after, List.forall_mem_singleton.2 space⟩)

/-- A first slice that is not blank. -/
theorem slices_seen {maxChars : Nat} (positive : 0 < maxChars) {sentence : List Char} {c : Char} (seen : isSpace c = false)
    (member : c ∈ sentence.take maxChars) :
    slices maxChars sentence = stripped (sentence.take maxChars) :: slices maxChars (sentence.drop maxChars) := by
  have nonempty : sentence ≠ [] := by
    rintro rfl
    rw [List.take_nil] at member
    cases member
  have full : stripped (sentence.take maxChars) ≠ [] := by
    intro empty
    rw [stripped_eq_nil_iff.1 empty c member] at seen
    cases seen
  have kept : [stripped (sentence.take maxChars)].filter (· ≠ []) = [stripped (sentence.take maxChars)] :=
    List.filter_eq_self.2 (List.forall_mem_singleton.2 (decide_eq_true full))
  rw [slices_cons positive nonempty, kept, List.singleton_append]

/-- A sentence with single spaces inside and none around it. -/
structure Spaced (sentence : List Char) : Prop where
  first : ∃ c ∈ sentence.head?, isSpace c = false
  last : ∃ c ∈ sentence.getLast?, isSpace c = false
  single : sentence.IsChain fun a b => ¬(isSpace a = true ∧ isSpace b = true)

/-- What comes after a space in such a sentence is one too. -/
theorem Spaced.drop {sentence : List Char} (spaced : Spaced sentence) {m : Nat} (inside : m < sentence.length)
    (space : isSpace sentence[m] = true) : Spaced (sentence.drop (m + 1)) := by
  obtain ⟨last, ends, seen⟩ := spaced.last
  have rest := List.drop_eq_getElem_cons inside
  have nonempty : sentence.drop (m + 1) ≠ [] := by
    intro empty
    have same := List.getLast?_drop (l := sentence) (i := m)
    rw [if_neg (Nat.not_le_of_lt inside), rest, empty, List.getLast?_singleton, Option.mem_def.1 ends] at same
    rw [← Option.some.inj same, space] at seen
    cases seen
  obtain ⟨c, cs, tail⟩ := List.exists_cons_of_ne_nil nonempty
  have chain := spaced.single.suffix (List.drop_suffix m sentence)
  rw [rest, tail] at chain
  obtain ⟨apart, _⟩ := List.isChain_cons_cons.1 chain
  constructor
  · refine ⟨c, by rw [tail]; rfl, ?_⟩
    apply Bool.eq_false_iff.2
    exact fun space' => apart ⟨space, space'⟩
  · refine ⟨last, ?_, seen⟩
    have long : ¬sentence.length ≤ m + 1 := fun short => nonempty (List.drop_of_length_le short)
    rw [List.getLast?_drop, if_neg long]
    exact ends
  · exact spaced.single.suffix (List.drop_suffix (m + 1) sentence)

/-- A space before a sentence moves all cuts, unless there is white space behind each of them. -/
theorem slices_space_iff {m : Nat} (positive : 0 < m) {sentence : List Char} (spaced : Spaced sentence) {space : Char}
    (blank : isSpace space = true) : slices (m + 1) (space :: sentence) = slices (m + 1) sentence ↔
      ∀ k, ∀ c ∈ sentence[(k + 1) * (m + 1) - 1]?, isSpace c = true := by
  induction length : sentence.length using Nat.strongRecOn generalizing sentence space with
  | ind n ih =>
    obtain ⟨c, head, seen⟩ := spaced.first
    obtain ⟨cs, rfl⟩ := List.head?_eq_some_iff.1 head
    obtain ⟨l, rfl⟩ := Nat.exists_eq_add_one.2 positive
    have left : slices (l + 2) (space :: c :: cs) = _ :=
      slices_seen (Nat.succ_pos (l + 1)) seen (List.mem_cons_of_mem _ List.mem_cons_self)
    have right : slices (l + 2) (c :: cs) = _ := slices_seen (Nat.succ_pos (l + 1)) seen List.mem_cons_self
    rw [List.take_succ_cons, List.drop_succ_cons, stripped_space_cons blank] at left
    rw [left, right]
    by_cases short : (c :: cs).length ≤ l + 1
    · -- the sentence is one slice with and without the space
      rw [List.take_of_length_le short, List.take_of_length_le (Nat.le_succ_of_le short), List.drop_of_length_le short,
        List.drop_of_length_le (Nat.le_succ_of_le short)]
      apply iff_of_true rfl
      intro k d member
      have low : l + 2 ≤ (k + 1) * (l + 1 + 1) := Nat.le_mul_of_pos_left _ (Nat.succ_pos k)
      rw [List.getElem?_eq_none (by omega)] at member
      cases member
    · have inside : l + 1 < (c :: cs).length := not_le.1 short
      have taken := List.take_succ_eq_append_getElem inside
      have dropped := List.drop_eq_getElem_cons inside
      by_cases gap : isSpace (c :: cs)[l + 1] = true
      · have next := ih _ (by rw [List.length_drop, ← length]; omega) (spaced.drop inside gap) gap rfl
        rw [taken, stripped_concat_space gap, dropped, List.cons_inj_right, next]
        have shift : ∀ k, (k + 1 + 1) * (l + 1 + 1) - 1 = l + 1 + 1 + ((k + 1) * (l + 1 + 1) - 1) := by
          intro k
          have low : l + 2 ≤ (k + 1) * (l + 1 + 1) := Nat.le_mul_of_pos_left _ (Nat.succ_pos k)
          rw [Nat.succ_mul]
          omega
        constructor
        · intro all k d member
          cases k with
          | zero =>
            rw [Nat.zero_add, Nat.one_mul, Nat.add_sub_cancel, List.getElem?_eq_getElem inside] at member
            rw [← Option.some.inj member]
            exact gap
          | succ k =>
            apply all k d
            rw [List.getElem?_drop, ← shift k]
            exact member
        · intro all k d member
          apply all (k + 1) d
          rw [List.getElem?_drop, ← shift k] at member
          exact member
      · apply iff_of_false
        · intro same
          have heads := congrArg List.length (dense_of_stripped (List.cons.inj same).1)
          rw [taken, dense_append, List.length_append, dense_cons_of_seen (Bool.eq_false_iff.2 gap)] at heads
          exact absurd heads (by simp)
        · intro all
          apply gap
          apply all 0
          rw [Nat.zero_add, Nat.one_mul, Nat.add_sub_cancel]
          exact List.getElem?_eq_getElem inside

/-- The cuts of two sentences with a space between them fall where those of the two would. -/
def Aligned (maxChars : Nat) (first second : List Char) : Prop :=
  first.length % maxChars = maxChars - 1 ∨
    first.length % maxChars = 0 ∧ ∀ k, ∀ c ∈ second[(k + 1) * maxChars - 1]?, isSpace c = true

theorem slices_join_iff {maxChars : Nat} (positive : 0 < maxChars) {u v : List Char}
    (ends : ∀ c ∈ u.getLast?, isSpace c = false) (spaced : Spaced v) :
    slices maxChars (u ++ ' ' :: v) = slices maxChars u ++ slices maxChars v ↔ Aligned maxChars u v := by
  have space : isSpace ' ' = true := by decide
  induction length : u.length using Nat.strongRecOn generalizing u with
  | ind n ih =>
    by_cases long : maxChars ≤ u.length
    · -- the first slice is the same
      have nonempty : u ≠ [] := by
        rintro rfl
        exact absurd long (Nat.not_le_of_lt positive)
      have ends' : ∀ c ∈ (u.drop maxChars).getLast?, isSpace c = false := by
        intro c member
        rw [List.getLast?_drop] at member
        split at member
        · cases member
        · exact ends c member
      have shorter : (u.drop maxChars).length < n := by
        rw [List.length_drop]
        omega
      have later := ih _ shorter ends' rfl
      rw [slices_cons positive (List.append_ne_nil_of_left_ne_nil nonempty _), slices_cons positive nonempty, List.append_assoc,
        List.take_append_of_le_length long, List.drop_append_of_le_length long, List.append_cancel_left_eq]
      apply later.trans
      unfold Aligned
      rw [List.length_drop, ← Nat.mod_eq_sub_mod long]
    · have small := not_le.1 long
      unfold Aligned
      rw [Nat.mod_eq_of_lt small]
      by_cases empty : u = []
      · -- the space begins a slice
        rw [empty, List.nil_append, slices_nil, List.nil_append, List.length_nil]
        by_cases one : maxChars = 1
        · apply iff_of_true
          · rw [one, slices_cons Nat.one_pos (List.cons_ne_nil _ _)]
            rfl
          · exact .inl (by omega)
        · obtain ⟨m, rfl⟩ := Nat.exists_eq_add_one.2 positive
          rw [slices_space_iff (by omega) spaced space]
          constructor
          · exact fun all => .inr ⟨rfl, all⟩
          · rintro (zero | ⟨-, all⟩)
            · omega
            · exact all
      · have counted := List.length_pos_of_ne_nil empty
        obtain ⟨c, last⟩ : ∃ c, u.getLast? = some c := ⟨_, List.getLast?_eq_some_getLast empty⟩
        have seen := ends c last
        have inside : c ∈ u.take maxChars := by
          rw [List.take_of_length_le (Nat.le_of_lt small)]
          exact List.mem_of_getLast? last
        have inside' : c ∈ (u ++ ' ' :: v).take maxChars := by
          rw [List.take_append]
          exact List.mem_append_left _ inside
        have alone := slices_seen positive seen inside
        rw [List.take_of_length_le (Nat.le_of_lt small), List.drop_of_length_le (Nat.le_of_lt small), slices_nil] at alone
        rw [alone, slices_seen positive seen inside', List.singleton_append]
        by_cases full : u.length + 1 = maxChars
        · -- the space ends the only slice
          have whole : u ++ ' ' :: v = (u ++ [' ']) ++ v := by rw [List.append_assoc, List.singleton_append]
          have size : (u ++ [' ']).length = maxChars := by rw [List.length_append, List.length_singleton, full]
          apply iff_of_true
          · rw [whole, List.take_left' size, List.drop_left' size, stripped_concat_space space]
          · exact .inl (by omega)
        · -- the first slice has a part of the second sentence
          obtain ⟨d, head, seen'⟩ := spaced.first
          obtain ⟨rest, rfl⟩ := List.head?_eq_some_iff.1 head
          obtain ⟨room, counted'⟩ : ∃ room, maxChars - u.length = room + 2 := ⟨maxChars - u.length - 2, by omega⟩
          apply iff_of_false
          · intro same
            have heads := congrArg List.length (dense_of_stripped (List.cons.inj same).1)
            rw [List.take_append, List.take_of_length_le (Nat.le_of_lt small), counted', List.take_succ_cons, List.take_succ_cons,
              dense_append, List.length_append, ← List.singleton_append, dense_append, dense_cons_of_seen seen'] at heads
            exact absurd heads (by simp)
          · rintro (short | ⟨zero, -⟩)
            · omega
            · omega

/-! ## Two paragraphs -/

theorem spaced_of_mem {text sentence : List Char} (tidy : Tidy text) (nonempty : text ≠ []) (member : sentence ∈ sentencesOf text) :
    Spaced sentence := by
  have whole := isSentence_of_mem member
  obtain ⟨first, last⟩ := trimmed_iff.1 whole.trimmed
  obtain ⟨c, cs, same⟩ := List.exists_cons_of_ne_nil whole.nonempty
  rw [sentencesOf_tidy tidy nonempty] at member
  obtain ⟨part, there, rfl⟩ := List.mem_map.1 (List.mem_filter.1 member).1
  have inside := (stripped_within part).trans ((infix_of_mem_parts sentenceBreak none 0 text).2 part there)
  constructor
  · exact ⟨c, by rw [same]; rfl, first c (by rw [same]; rfl)⟩
  · exact ⟨_, List.getLast?_eq_some_getLast whole.nonempty, last _ (List.getLast?_eq_some_getLast whole.nonempty)⟩
  · exact isChain_of_inside tidy.single inside

/-- The last sentence of the one text and the first of the other are not merged: a mark is
between them, or the cuts fall where they would. -/
def StaysApart (maxChars : Nat) (a b : List Char) : Prop :=
  ∀ u ∈ (sentencesOf a).getLast?, ∀ v ∈ (sentencesOf b).head?,
    (∃ z ∈ u.getLast?, isMark z = true) ∨ Aligned maxChars u v

theorem sentencesOf_nil : sentencesOf [] = [] := rfl

/-- The chunks of two paragraphs with a blank line between them are those of the one and
those of the other exactly when the sentences at the blank line stay apart. -/
theorem paragraphs_kept_iff {maxChars : Nat} (positive : 0 < maxChars) {p q a b : List Char} {language : String}
    (first : preprocessForTts num2words words p language = .ok a)
    (second : preprocessForTts num2words words q language = .ok b) :
    ∃ c, preprocessForTts num2words words (p ++ '\n' :: '\n' :: q) language = .ok c ∧
      (splitTextSemantic c maxChars 1 = splitTextSemantic a maxChars 1 ++ splitTextSemantic b maxChars 1 ↔
        StaysApart maxChars a b) := by
  obtain ⟨p', q', rfl, rfl, both⟩ := preprocess_join first second
  refine ⟨_, both, ?_⟩
  have tidy := tidy_cleanPunctuation p'
  have tidy' := tidy_cleanPunctuation q'
  have whole := tidy_cleanPunctuation (p' ++ '\n' :: '\n' :: q')
  have chunks := splitTextSemantic_single positive tidy.trimmed
  have chunks' := splitTextSemantic_single positive tidy'.trimmed
  have chunksJoined := splitTextSemantic_single positive whole.trimmed
  rw [chunks, chunks', chunksJoined]
  rcases cleanPunctuation_join p' q' with ⟨empty, same⟩ | ⟨empty, same⟩ | ⟨nonempty, nonempty', same⟩
  · rw [same, empty]
    apply iff_of_true
    · rw [sentencesOf_nil, List.flatMap_nil, List.nil_append]
    · intro u member
      rw [sentencesOf_nil] at member
      cases member
  · rw [same, empty]
    apply iff_of_true
    · rw [sentencesOf_nil, List.flatMap_nil, List.append_nil]
    · intro u _ v member
      rw [sentencesOf_nil] at member
      cases member
  · rw [same] at whole ⊢
    obtain ⟨front, u, v, others, z, left, right, ends, middle⟩ := sentences_join tidy tidy' whole nonempty nonempty'
    have member : v ∈ sentencesOf (cleanPunctuation q') := by
      rw [right]
      exact List.mem_cons_self
    have member' : u ∈ sentencesOf (cleanPunctuation p') := by
      rw [left]
      exact List.mem_concat_self
    have seen := (trimmed_iff.1 (isSentence_of_mem member').trimmed).2
    have apart : StaysApart maxChars (cleanPunctuation p') (cleanPunctuation q') ↔ isMark z = true ∨ Aligned maxChars u v := by
      unfold StaysApart
      rw [left, right, List.getLast?_concat, List.head?_cons]
      simp [ends]
    rw [apart, middle, left, right]
    cases mark : isMark z with
    | true =>
      rw [if_pos rfl, List.flatMap_append]
      exact iff_of_true rfl (.inl rfl)
    | false =>
      rw [if_neg Bool.false_ne_true, or_iff_right Bool.false_ne_true,
        ← slices_join_iff positive seen (spaced_of_mem tidy' nonempty' member)]
      simp only [List.flatMap_append, List.flatMap_cons, List.flatMap_nil, List.append_nil, List.append_assoc]
      rw [List.append_cancel_left_eq, ← List.append_assoc (slices maxChars u), List.append_cancel_right_eq]

theorem two_paragraphs : ∃ c, preprocessForTts none asciiWords "One.\n\nTwo".toList "en" = .ok c ∧
    splitTextSemantic c 256 1 = splitTextSemantic "One.".toList 256 1 ++ splitTextSemantic "Two".toList 256 1 := by
  have first : preprocessForTts none asciiWords "One.".toList "en" = .ok "One.".toList := by decide +kernel
  have second : preprocessForTts none asciiWords "Two".toList "en" = .ok "Two".toList := by decide +kernel
  obtain ⟨c, run, kept⟩ := paragraphs_kept_iff (show 0 < 256 by decide) first second
  refine ⟨c, run, kept.2 ?_⟩
  have one : sentencesOf "One.".toList = ["One.".toList] := by decide +kernel
  intro u member v _
  rw [one] at member
  cases member
  exact .inl ⟨'.', rfl, by decide⟩

/-- A title is read together with the first sentence of the text under it. -/
theorem title_merged : preprocessForTts none asciiWords "Title".toList "en" = .ok "Title".toList ∧
    preprocessForTts none asciiWords "Text.".toList "en" = .ok "Text.".toList ∧
    preprocessForTts none asciiWords "Title\n\nText.".toList "en" = .ok "Title Text.".toList ∧
    splitTextSemantic "Title Text.".toList 256 1 = ["Title Text.".toList] ∧
    splitTextSemantic "Title Text.".toList 256 1 ≠
      splitTextSemantic "Title".toList 256 1 ++ splitTextSemantic "Text.".toList 256 1 := by
  refine ⟨?_, ?_, ?_, ?_, ?_⟩ <;> decide +kernel

end LlmTts
