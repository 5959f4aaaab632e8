import LlmTts.Lib.Runs
import LlmTts.Synthesis.Chunking

/-!
# Clean punctuation

The four substitutions of `clean_punctuation`: three of them keep one element of a run, and
the last one, which looks for line breaks, comes after the first one has removed them. What
is left is tidy, and a tidy text is left as it is.
-/

namespace LlmTts
open Python Regex Runs

/-! ## What the substitutions look for -/

def likeSpaces (a b : Char) : Bool := isSpace a && isSpace b

def repSpace (c : Char) : Char := if isSpace c then ' ' else c

def likeDots (a b : Char) : Bool := a = '.' && b = '.'

def pauseMarks : List Char := [',', ';', ':', '!', '?']

def likeMarks (a b : Char) : Bool := a = b && a ∈ pauseMarks

/-- The run of a character that has the property is as long as it lasts. -/
theorem more_eq_takeWhile (like : Char → Char → Bool) (p : Char → Bool) (alike : ∀ a b, p a = true → like a b = p b)
    {c : Char} (here : p c = true) (cs : List Char) : more like c cs = (cs.takeWhile p).length := by
  induction cs generalizing c with
  | nil => rfl
  | cons d ds ih =>
    have same := alike c d here
    cases there : p d with
    | true =>
      rw [there] at same
      rw [more_cons_of_like same, List.takeWhile_cons_of_pos there, ih there, List.length_cons]
    | false =>
      rw [there] at same
      rw [more_cons_of_unlike same, List.takeWhile_cons_of_neg (Bool.eq_false_iff.1 there), List.length_nil]

/-- A character that is like no other is no run. -/
theorem more_of_unlike {like : Char → Char → Bool} {c : Char} (unlike : ∀ d, like c d = false) (cs : List Char) :
    more like c cs = 0 := by
  cases cs with
  | nil => rfl
  | cons d ds => exact more_cons_of_unlike (unlike d)

theorem spaceRun_squeezes : Squeezes spaceRun (fun _ => [' ']) likeSpaces repSpace := by
  intro before c cs
  cases space : isSpace c with
  | true =>
    right
    have length := more_eq_takeWhile likeSpaces isSpace (fun a b here => by rw [likeSpaces, here, Bool.true_and]) space cs
    rw [length]
    constructor
    · unfold spaceRun
      rw [List.takeWhile_cons_of_pos space, List.length_cons]
    · rw [repSpace, if_pos space]
  | false =>
    have unlike : ∀ d, likeSpaces c d = false := fun d => by rw [likeSpaces, space, Bool.false_and]
    left
    refine ⟨?_, more_of_unlike unlike cs, ?_⟩
    · unfold spaceRun
      rw [List.takeWhile_cons_of_neg (Bool.eq_false_iff.1 space), List.length_nil]
    · rw [repSpace, if_neg (Bool.eq_false_iff.1 space)]

theorem duplicateDots_squeezes : Squeezes duplicateDots (fun _ => ['.']) likeDots id := by
  intro before c cs
  by_cases dot : c = '.'
  · rw [dot]
    have length := more_eq_takeWhile likeDots (· = '.') (fun a b here => by rw [likeDots, here, Bool.true_and])
      (decide_eq_true (Eq.refl '.')) cs
    have counted : duplicateDots before ('.' :: cs) =
        if more likeDots '.' cs + 1 < 2 then 0 else more likeDots '.' cs + 1 := by
      unfold duplicateDots
      rw [List.takeWhile_cons_of_pos (by decide), List.length_cons, ← length]
    rw [counted]
    split
    · left
      exact ⟨rfl, by omega, rfl⟩
    · right
      exact ⟨rfl, rfl⟩
  · have unlike : ∀ d, likeDots c d = false := fun d => by rw [likeDots, decide_eq_false dot, Bool.false_and]
    left
    refine ⟨?_, more_of_unlike unlike cs, rfl⟩
    unfold duplicateDots
    rw [List.takeWhile_cons_of_neg (by simp [dot])]
    rfl

theorem duplicateMarks_squeezes : Squeezes duplicateMarks (·.take 1) likeMarks id := by
  intro before c cs
  by_cases mark : c ∈ pauseMarks
  · have length := more_eq_takeWhile likeMarks (· = c) (fun a b here => by
      rw [of_decide_eq_true here, likeMarks, decide_eq_true mark, Bool.and_true]
      exact decide_eq_decide.2 eq_comm) (decide_eq_true rfl) cs
    have counted : duplicateMarks before (c :: cs) =
        if more likeMarks c cs = 0 then 0 else more likeMarks c cs + 1 := by
      show (if c ∈ pauseMarks then _ else _ : Nat) = _
      rw [if_pos mark, length]
    rw [counted]
    split
    · rename_i unmatched
      left
      exact ⟨rfl, unmatched, rfl⟩
    · right
      exact ⟨rfl, rfl⟩
  · have unlike : ∀ d, likeMarks c d = false := fun d => by rw [likeMarks, decide_eq_false mark, Bool.and_false]
    left
    refine ⟨?_, more_of_unlike unlike cs, rfl⟩
    unfold duplicateMarks
    exact if_neg mark

/-- After the first substitution there is no line break left. -/
theorem lineBreakAfterPunct_unmatched {text : List Char} (spaces : ∀ c ∈ text, isSpace c = true → c = ' ') :
    Unmatched lineBreakAfterPunct text := by
  intro before rest suffix
  cases rest with
  | nil => rfl
  | cons c cs =>
    have nothing : (cs.takeWhile isSpace).rdropWhile (· ≠ '\n') = [] := by
      apply List.rdropWhile_eq_nil_iff.2
      intro d member
      have inside : d ∈ text := suffix.subset (List.mem_cons_of_mem c ((List.takeWhile_sublist _).subset member))
      rw [spaces d inside (List.mem_takeWhile_imp member)]
      decide
    unfold lineBreakAfterPunct
    dsimp only
    rw [nothing]
    exact ite_self 0

/-- The text before white space is stripped. -/
def squeezed (text : List Char) : List Char :=
  squeeze likeMarks id none (squeeze likeDots id none (squeeze likeSpaces repSpace none text))

theorem spaces_of_squeezed {text : List Char} {c : Char} (member : c ∈ squeeze likeSpaces repSpace none text)
    (space : isSpace c = true) : c = ' ' := by
  obtain ⟨d, -, rfl⟩ := mem_squeeze member
  unfold repSpace at *
  split
  · rfl
  · rename_i different
    rw [if_neg different] at space
    exact absurd space different

theorem cleanPunctuation_eq (text : List Char) : cleanPunctuation text = stripped (squeezed text) := by
  have plain : ∀ c ∈ squeezed text, isSpace c = true → c = ' ' := by
    intro c member space
    obtain ⟨d, inside, rfl⟩ := mem_squeeze member
    obtain ⟨e, within, rfl⟩ := mem_squeeze inside
    exact spaces_of_squeezed within space
  unfold cleanPunctuation
  dsimp only
  rw [sub_eq_squeeze spaceRun_squeezes, sub_eq_squeeze duplicateDots_squeezes, sub_eq_squeeze duplicateMarks_squeezes]
  exact congrArg stripped (sub_of_unmatched (lineBreakAfterPunct_unmatched plain) _)

/-! ## Tidy texts -/

/-- White space is single spaces, none of them around the text, and neither dots nor pause
marks are repeated. -/
structure Tidy (text : List Char) : Prop where
  spaces : ∀ c ∈ text, isSpace c = true → c = ' '
  single : text.IsChain fun a b => ¬(isSpace a = true ∧ isSpace b = true)
  dots : text.IsChain fun a b => ¬(a = '.' ∧ b = '.')
  marks : text.IsChain fun a b => ¬(a = b ∧ a ∈ pauseMarks)
  trimmed : Trimmed text

theorem isSpace_repSpace (c : Char) : isSpace (repSpace c) = isSpace c := by
  unfold repSpace
  split
  · rename_i space
    rw [space]
    decide
  · rfl

theorem likeSpaces_uniform : Uniform likeSpaces repSpace := by
  constructor
  · intro a b d alike
    obtain ⟨left, right⟩ := Bool.and_eq_true_iff.1 alike
    rw [likeSpaces, likeSpaces, left, right]
  · intro a b
    rw [likeSpaces, isSpace_repSpace]
    rfl
  · intro a b
    rw [likeSpaces, isSpace_repSpace]
    rfl

theorem likeDots_eq {a b : Char} (alike : likeDots a b = true) : a = b := by
  obtain ⟨left, right⟩ := Bool.and_eq_true_iff.1 alike
  rw [of_decide_eq_true left, of_decide_eq_true right]

theorem likeMarks_eq {a b : Char} (alike : likeMarks a b = true) : a = b :=
  of_decide_eq_true (Bool.and_eq_true_iff.1 alike).1

/-- Where only equal elements are alike, nothing has to stand for another. -/
theorem uniform_of_eq {like : Char → Char → Bool} (equal : ∀ a b, like a b = true → a = b) : Uniform like id := by
  constructor
  · intro a b d alike
    rw [equal a b alike]
  · exact fun _ _ => rfl
  · exact fun _ _ => rfl

theorem likeSpaces_false {a b : Char} : likeSpaces a b = false ↔ ¬(isSpace a = true ∧ isSpace b = true) := by
  rw [← Bool.and_eq_true_iff, Bool.not_eq_true]
  rfl

theorem likeDots_false {a b : Char} : likeDots a b = false ↔ ¬(a = '.' ∧ b = '.') := by
  unfold likeDots
  rw [Bool.eq_false_iff, ne_eq, Bool.and_eq_true_iff, decide_eq_true_eq, decide_eq_true_eq]

theorem likeMarks_false {a b : Char} : likeMarks a b = false ↔ ¬(a = b ∧ a ∈ pauseMarks) := by
  unfold likeMarks
  rw [Bool.eq_false_iff, ne_eq, Bool.and_eq_true_iff, decide_eq_true_eq, decide_eq_true_eq]

/-- `clean_punctuation` leaves a tidy text. -/
theorem tidy_cleanPunctuation (text : List Char) : Tidy (cleanPunctuation text) := by
  have inside := stripped_within (squeezed text)
  have single := squeeze_isChain likeSpaces_uniform text
  have dots := squeeze_isChain (uniform_of_eq fun a b => likeDots_eq) (squeeze likeSpaces repSpace none text)
  have marks := squeeze_isChain (uniform_of_eq fun a b => likeMarks_eq)
    (squeeze likeDots id none (squeeze likeSpaces repSpace none text))
  have single' := squeeze_keeps_isChain (fun a b => likeMarks_eq) (squeeze_keeps_isChain (fun a b => likeDots_eq) single)
  have dots' := squeeze_keeps_isChain (fun a b => likeMarks_eq) dots
  rw [cleanPunctuation_eq]
  constructor
  · intro c member space
    obtain ⟨d, within, rfl⟩ := mem_squeeze (inside.subset member)
    obtain ⟨e, within', rfl⟩ := mem_squeeze within
    exact spaces_of_squeezed within' space
  · exact isChain_of_inside (single'.imp fun a b => likeSpaces_false.1) inside
  · exact isChain_of_inside (dots'.imp fun a b => likeDots_false.1) inside
  · exact isChain_of_inside (marks.imp fun a b => likeMarks_false.1) inside
  · exact trimmed_stripped _

/-- A tidy text is clean. -/
theorem cleanPunctuation_of_tidy {text : List Char} (tidy : Tidy text) : cleanPunctuation text = text := by
  have fixed : ∀ c ∈ text, repSpace c = c := by
    intro c member
    unfold repSpace
    split
    · rename_i space
      exact (tidy.spaces c member space).symm
    · rfl
  have single : squeeze likeSpaces repSpace none text = text :=
    squeeze_of_isChain (tidy.single.imp fun a b => likeSpaces_false.2) fixed
  have dots : squeeze likeDots id none text = text :=
    squeeze_of_isChain (tidy.dots.imp fun a b => likeDots_false.2) fun _ _ => rfl
  have marks : squeeze likeMarks id none text = text :=
    squeeze_of_isChain (tidy.marks.imp fun a b => likeMarks_false.2) fun _ _ => rfl
  rw [cleanPunctuation_eq, squeezed, single, dots, marks]
  exact tidy.trimmed

end LlmTts
