import LlmTts.Lib.Cuts
import LlmTts.Synthesis.TextPreprocessing

/-!
# The chunks of a text

What `split_text_semantic` returns: chunks within the limits (`chunk_bounds`) that have
every character of the text (`chunking_lossless`), and as few of them as there can be when
no sentence is too long (`chunking_minimal`).
-/

namespace LlmTts
open Python Regex Cuts

/-! ## White space around a text -/

/-- `strip()` changes nothing. -/
def Trimmed (text : List Char) : Prop := stripped text = text

theorem trimmed_stripped (text : List Char) : Trimmed (stripped text) := by
  have twice := congrArg String.toList (strip_strip (String.ofList text))
  rw [toList_strip, toList_strip, String.toList_ofList] at twice
  exact twice

theorem trimmed_iff {text : List Char} :
    Trimmed text ↔ (∀ c ∈ text.head?, isSpace c = false) ∧ ∀ c ∈ text.getLast?, isSpace c = false := by
  constructor
  · intro trimmed
    have front : text.dropWhile isSpace = text := by
      apply (List.dropWhile_suffix isSpace).eq_of_length_le
      have shorter := (List.rdropWhile_prefix isSpace (text.dropWhile isSpace)).length_le
      rw [show (text.dropWhile isSpace).rdropWhile isSpace = text from trimmed] at shorter
      exact shorter
    have back : text.rdropWhile isSpace = text := by
      have both : (text.dropWhile isSpace).rdropWhile isSpace = text := trimmed
      rw [front] at both
      exact both
    constructor
    · intro c first
      cases text with
      | nil => cases first
      | cons d ds =>
        cases first
        exact Bool.eq_false_iff.2 (List.dropWhile_eq_self_iff.1 front (Nat.succ_pos _))
    · intro c last
      obtain ⟨nonempty, rfl⟩ := List.mem_getLast?_eq_getLast last
      exact Bool.eq_false_iff.2 (List.rdropWhile_eq_self_iff.1 back nonempty)
  · rintro ⟨first, last⟩
    have front : text.dropWhile isSpace = text := by
      cases text with
      | nil => rfl
      | cons d ds => exact List.dropWhile_eq_self_iff.2 fun _ => Bool.eq_false_iff.1 (first d rfl)
    unfold Trimmed stripped
    rw [front]
    exact List.rdropWhile_eq_self_iff.2 fun nonempty => Bool.eq_false_iff.1 (last _ (List.getLast?_eq_some_getLast nonempty))

theorem stripped_within (text : List Char) : stripped text <:+: text :=
  (List.rdropWhile_prefix isSpace _).isInfix.trans (List.dropWhile_suffix isSpace).isInfix

theorem stripped_between (text : List Char) : ∃ front back, (∀ c ∈ front, isSpace c = true) ∧
    (∀ c ∈ back, isSpace c = true) ∧ text = front ++ stripped text ++ back := by
  refine ⟨text.takeWhile isSpace, (text.dropWhile isSpace).rtakeWhile isSpace, fun _ => List.mem_takeWhile_imp,
    fun _ => List.mem_rtakeWhile_imp, ?_⟩
  rw [List.append_assoc, stripped, List.rdropWhile_append_rtakeWhile, List.takeWhile_append_dropWhile]

/-- The characters of a text that are no white space. -/
def dense (text : List Char) : List Char := text.filter fun c => !isSpace c

theorem dense_append (x y : List Char) : dense (x ++ y) = dense x ++ dense y := List.filter_append ..

theorem dense_flatten (texts : List (List Char)) : dense texts.flatten = (texts.map dense).flatten := List.filter_flatten

theorem dense_eq_nil {text : List Char} (blank : ∀ c ∈ text, isSpace c = true) : dense text = [] := by
  apply List.filter_eq_nil_iff.2
  intro c member
  rw [blank c member]
  exact Bool.false_ne_true

theorem dense_stripped (text : List Char) : dense (stripped text) = dense text := by
  have front : ∀ cs : List Char, dense (cs.dropWhile isSpace) = dense cs := by
    intro cs
    have whole := congrArg dense (List.takeWhile_append_dropWhile (p := isSpace) (l := cs))
    rw [dense_append, dense_eq_nil fun c => List.mem_takeWhile_imp] at whole
    exact whole
  have turned : ∀ cs : List Char, dense cs.reverse = (dense cs).reverse := fun cs => List.filter_reverse ..
  unfold stripped List.rdropWhile
  rw [turned, front, turned, List.reverse_reverse, front]

/-! ## Nothing is lost -/

theorem sentenceBreak_matches : Matches sentenceBreak fun c => isSpace c = true := by
  intro before rest c member
  unfold sentenceBreak at member
  split at member
  · exact takeWhile_length_matched rest c member
  · cases member

theorem dense_pieces {pattern : Pattern Char} (only : Matches pattern fun c => isSpace c = true) (text : List Char) :
    dense (pieces pattern text).flatten = dense text := by
  have kept := filter_split only (fun c => !isSpace c) (fun c space => by rw [space]; rfl) text
  have same : (split pattern text).map (dense ∘ stripped) = (split pattern text).map dense :=
    List.map_congr_left fun part _ => dense_stripped part
  unfold pieces
  rw [List.flatten_filter_ne_nil, dense_flatten, List.map_map, same, ← dense_flatten]
  exact kept

/-- A paragraph is not blank, so it has sentences. -/
theorem sentencesOf_eq (text : List Char) :
    sentencesOf text = (pieces blankLines text).flatMap paragraphSentences := by
  unfold sentencesOf
  apply List.flatMap_congr
  intro paragraph member
  apply if_neg
  have nonempty := of_decide_eq_true (List.mem_filter.1 member).2
  have full : ¬∀ c ∈ paragraph, isSpace c = true := by
    obtain ⟨part, -, rfl⟩ := List.mem_map.1 (List.mem_filter.1 member).1
    intro blank
    have empty := stripped_eq_nil_iff.2 blank
    rw [trimmed_stripped part] at empty
    exact nonempty empty
  obtain ⟨c, inside, seen⟩ : ∃ c ∈ paragraph, isSpace c = false := by
    by_contra all
    apply full
    intro c inside
    by_contra seen
    exact all ⟨c, inside, Bool.eq_false_iff.2 seen⟩
  exact pieces_of_mem sentenceBreak_matches seen inside

/-- Texts that are cut without loss. -/
theorem dense_flatMap {cut : List Char → List (List Char)} {texts : List (List Char)}
    (kept : ∀ text ∈ texts, dense (cut text).flatten = dense text) :
    dense (texts.flatMap cut).flatten = dense texts.flatten := by
  induction texts with
  | nil => rfl
  | cons text texts ih =>
    have here := kept text List.mem_cons_self
    have later := ih fun other member => kept other (List.mem_cons_of_mem text member)
    rw [List.flatMap_cons, List.flatten_append, dense_append, here, later, List.flatten_cons, dense_append]

theorem dense_sentencesOf (text : List Char) : dense (sentencesOf text).flatten = dense text := by
  have sentences : ∀ paragraph, dense (paragraphSentences paragraph).flatten = dense paragraph :=
    dense_pieces sentenceBreak_matches
  rw [sentencesOf_eq, dense_flatMap fun paragraph _ => sentences paragraph]
  exact dense_pieces blankLines_matches text

/-- The first characters of a text, taken in pieces. -/
theorem flatten_slices (size : Nat) (text : List Char) (count : Nat) :
    ((List.range count).map fun i => (text.drop (i * size)).take size).flatten = text.take (count * size) := by
  induction count with
  | zero => simp
  | succ count ih =>
    rw [List.range_succ, List.map_append, List.flatten_append, ih, Nat.succ_mul, List.take_add]
    simp

theorem dense_slices {maxChars : Nat} (positive : 0 < maxChars) (sentence : List Char) :
    dense (slices maxChars sentence).flatten = dense sentence := by
  have enough : sentence.length ≤ (sentence.length + maxChars - 1) / maxChars * maxChars := by
    have rest := Nat.mod_lt (sentence.length + maxChars - 1) positive
    have whole := Nat.div_add_mod (sentence.length + maxChars - 1) maxChars
    rw [Nat.mul_comm] at whole
    omega
  have all := flatten_slices maxChars sentence ((sentence.length + maxChars - 1) / maxChars)
  rw [List.take_of_length_le enough] at all
  have same : (List.range ((sentence.length + maxChars - 1) / maxChars)).map
      (dense ∘ fun i => stripped ((sentence.drop (i * maxChars)).take maxChars)) =
      (List.range ((sentence.length + maxChars - 1) / maxChars)).map
        (dense ∘ fun i => (sentence.drop (i * maxChars)).take maxChars) :=
    List.map_congr_left fun i _ => dense_stripped _
  unfold slices
  rw [List.flatten_filter_ne_nil, dense_flatten, List.map_map, same, ← List.map_map, ← dense_flatten, all]

theorem dense_chunkOf (sentences : List (List Char)) : dense (chunkOf sentences) = dense sentences.flatten := by
  unfold chunkOf
  rw [dense_stripped]
  induction sentences with
  | nil => rfl
  | cons sentence rest ih =>
    cases rest with
    | nil => rw [List.intercalate_singleton, List.flatten_singleton]
    | cons next rest =>
      have space : dense [' '] = [] := by decide
      rw [List.intercalate_cons_cons, dense_append, dense_append, space, ih, List.append_nil, ← dense_append]
      rfl

theorem Packing.dense_flush (p : Packing) :
    dense p.flush.flatten = dense p.chunks.flatten ++ dense p.currentSentences.flatten := by
  unfold flush
  split
  · rename_i empty
    rw [empty]
    exact (List.append_nil _).symm
  · rw [List.flatten_append, List.flatten_singleton, dense_append, dense_chunkOf]

/-- A step adds a sentence to what has been packed. -/
theorem Packing.dense_add {maxChars : Nat} (positive : 0 < maxChars) (maxSentencesPerChunk : Int) (p : Packing)
    (sentence : List Char) :
    dense (p.add maxChars maxSentencesPerChunk sentence).flush.flatten = dense p.flush.flatten ++ dense sentence := by
  rw [dense_flush]
  unfold add
  split
  · rw [List.flatten_append, dense_append, dense_slices positive]
    exact List.append_nil _
  · dsimp only
    split
    · rw [List.flatten_singleton]
    · rw [dense_flush, List.flatten_append, List.flatten_singleton, dense_append, List.append_assoc]

/-- **Lossless chunking.** The chunks have the characters of the text, in order, but for
white space. -/
theorem chunking_lossless {maxChars : Nat} (positive : 0 < maxChars) (text : List Char) (maxSentencesPerChunk : Int) :
    dense (splitTextSemantic text maxChars maxSentencesPerChunk).flatten = dense text := by
  have packed : ∀ (sentences : List (List Char)) (p : Packing),
      dense (sentences.foldl (Packing.add maxChars maxSentencesPerChunk) p).flush.flatten =
        dense p.flush.flatten ++ dense sentences.flatten := by
    intro sentences
    induction sentences with
    | nil => exact fun p => (List.append_nil _).symm
    | cons sentence sentences ih =>
      intro p
      rw [List.foldl_cons, ih, Packing.dense_add positive, List.flatten_cons, dense_append, List.append_assoc]
  unfold splitTextSemantic
  split
  · rename_i blank
    exact (dense_eq_nil (stripped_eq_nil_iff.1 blank)).symm
  · rw [packed, dense_sentencesOf, dense_stripped]
    rfl

theorem greeting_lossless :
    0 < 6 ∧ dense (splitTextSemantic "Hello there. Bye.".toList 6 2).flatten = dense "Hello there. Bye.".toList :=
  ⟨by decide, chunking_lossless (by decide) _ 2⟩

example : splitTextSemantic "Hello there. Bye.".toList 6 2 = ["Hello".toList, "there.".toList, "Bye.".toList] := by
  decide

/-! ## Ends of sentences -/

/-- The marks that end a sentence. -/
def isMark (c : Char) : Bool := c ∈ ['.', '!', '?', '…']

theorem not_mark_of_space {c : Char} (space : isSpace c = true) : isMark c = false := by
  have marks : (['.', '!', '?', '…'].all fun c => !isSpace c) = true := by decide
  by_contra mark
  have here := List.all_eq_true.1 marks c (of_decide_eq_true (Bool.not_eq_false _ ▸ mark))
  rw [space] at here
  cases here

/-- The number of places where a mark has white space behind it. -/
def breaks : (before : Option Char) → List Char → Nat
  | _, [] => 0
  | before, c :: cs => (if before.any isMark ∧ isSpace c then 1 else 0) + breaks (some c) cs

section Breaks

variable {before : Option Char} {c : Char} {cs : List Char}

theorem breaks_here (ends : before.any isMark ∧ isSpace c) : breaks before (c :: cs) = breaks (some c) cs + 1 := by
  rw [breaks, if_pos ends, Nat.add_comm]

theorem breaks_later (unended : ¬(before.any isMark ∧ isSpace c)) : breaks before (c :: cs) = breaks (some c) cs := by
  rw [breaks, if_neg unended, Nat.zero_add]

theorem breaks_none_cons (c : Char) (cs : List Char) : breaks none (c :: cs) = breaks (some c) cs :=
  breaks_later fun ends => Bool.false_ne_true ends.1

/-- Only a mark before the text can add to its breaks. -/
theorem breaks_of_not_mark (unmarked : before.any isMark = false) (text : List Char) :
    breaks before text = breaks none text := by
  cases text with
  | nil => rfl
  | cons c cs =>
    rw [breaks_later fun ends => Bool.false_ne_true (unmarked.symm.trans ends.1), breaks_none_cons]

theorem breaks_none_le (before : Option Char) (text : List Char) : breaks none text ≤ breaks before text := by
  cases text with
  | nil => exact Nat.le_refl _
  | cons c cs =>
    rw [breaks_none_cons]
    exact Nat.le_add_left _ _

theorem breaks_append (before : Option Char) (x y : List Char) :
    breaks before (x ++ y) = breaks before x + breaks (x.getLast?.or before) y := by
  induction x generalizing before with
  | nil => exact (Nat.zero_add _).symm
  | cons c cs ih =>
    rw [List.cons_append, breaks, breaks, ih, last_cons, Nat.add_assoc]

theorem breaks_infix {part text : List Char} (inside : part <:+: text) : breaks none part ≤ breaks none text := by
  obtain ⟨front, back, rfl⟩ := inside
  rw [breaks_append, breaks_append]
  have least := breaks_none_le (front.getLast?.or none) part
  omega

/-- Where the pattern matches. -/
theorem sentenceBreak_here (ends : before.any isMark ∧ isSpace c) :
    sentenceBreak before (c :: cs) = (cs.takeWhile isSpace).length + 1 := by
  unfold sentenceBreak
  rw [if_pos (show before.any (fun c => decide (c ∈ ['.', '!', '?', '…'])) = true from ends.1),
    List.takeWhile_cons_of_pos ends.2, List.length_cons]

theorem sentenceBreak_later (unended : ¬(before.any isMark ∧ isSpace c)) : sentenceBreak before (c :: cs) = 0 := by
  unfold sentenceBreak
  by_cases marked : before.any isMark = true
  · rw [List.takeWhile_cons_of_neg fun space => unended ⟨marked, space⟩, List.length_nil]
    exact ite_self 0
  · exact if_neg marked

end Breaks

/-- The matches of the pattern are the breaks. In the white space of a match there are none. -/
theorem count_breaks (before : Option Char) (inside : Nat) {text : List Char}
    (skipped : inside ≠ 0 → before.any isMark = false) (blank : ∀ c ∈ text.take inside, isSpace c = true) :
    (tokens sentenceBreak before inside text).countP Sum.isRight = breaks before text := by
  induction text generalizing before inside with
  | nil => rfl
  | cons c cs ih =>
    cases inside with
    | succ inside =>
      have space := blank c List.mem_cons_self
      have rest := ih (some c) inside (fun _ => not_mark_of_space space) fun d member =>
        blank d (List.mem_cons_of_mem c member)
      rw [breaks_later fun ends => Bool.false_ne_true ((skipped (Nat.succ_ne_zero _)).symm.trans ends.1)]
      exact rest
    | zero =>
      by_cases ends : before.any isMark ∧ isSpace c
      · have rest := ih (some c) _ (fun _ => not_mark_of_space ends.2) (takeWhile_length_matched cs)
        rw [tokens_match (sentenceBreak_here ends), List.countP_cons_of_pos rfl, rest, breaks_here ends]
      · have rest := ih (some c) 0 (fun started => absurd rfl started) (by simp)
        rw [tokens_kept (sentenceBreak_later ends), List.countP_cons_of_neg Bool.false_ne_true, rest, breaks_later ends]

theorem length_split_sentenceBreak (text : List Char) : (split sentenceBreak text).length = breaks none text + 1 := by
  unfold split
  rw [length_parts, count_breaks none 0 (fun started => absurd rfl started) (by simp)]

/-- A sentence has no break inside. -/
theorem breaks_parts (before : Option Char) (inside : Nat) (text : List Char) :
    (inside = 0 → ∀ part ∈ (parts (tokens sentenceBreak before inside text)).head?, breaks before part = 0) ∧
      ∀ part ∈ parts (tokens sentenceBreak before inside text), breaks none part = 0 := by
  induction text generalizing before inside with
  | nil =>
    constructor
    · intro _ part first
      cases first
      rfl
    · intro part member
      rw [List.mem_singleton.1 member]
      rfl
  | cons c cs ih =>
    cases inside with
    | succ inside => exact ⟨fun zero => absurd zero (Nat.succ_ne_zero _), (ih (some c) inside).2⟩
    | zero =>
      by_cases ends : before.any isMark ∧ isSpace c
      · rw [tokens_match (sentenceBreak_here ends)]
        constructor
        · intro _ part first
          cases first
          rfl
        · intro part member
          rcases List.mem_cons.1 member with rfl | later
          · rfl
          · exact (ih (some c) _).2 part later
      · obtain ⟨part, others, split⟩ := List.exists_cons_of_ne_nil (parts_ne_nil (tokens sentenceBreak (some c) 0 cs))
        have kept := ih (some c) 0
        rw [split] at kept
        obtain ⟨head, all⟩ := kept
        rw [tokens_kept (sentenceBreak_later ends), parts_kept split]
        constructor
        · intro _ first same
          cases same
          rw [breaks_later ends]
          exact head rfl part rfl
        · intro other member
          rcases List.mem_cons.1 member with rfl | later
          · rw [breaks_none_cons]
            exact head rfl part rfl
          · exact all other (List.mem_cons_of_mem part later)

/-! ## Chunks within the limits -/

/-- A sentence as the loop gets it. -/
structure IsSentence (sentence : List Char) : Prop where
  nonempty : sentence ≠ []
  trimmed : Trimmed sentence
  unbroken : breaks none sentence = 0

theorem isSentence_of_mem {text sentence : List Char} (member : sentence ∈ sentencesOf text) : IsSentence sentence := by
  rw [sentencesOf_eq] at member
  obtain ⟨paragraph, -, inside⟩ := List.mem_flatMap.1 member
  obtain ⟨mapped, nonempty⟩ := List.mem_filter.1 inside
  obtain ⟨part, there, rfl⟩ := List.mem_map.1 mapped
  refine ⟨of_decide_eq_true nonempty, trimmed_stripped part, ?_⟩
  have unbroken := (breaks_parts none 0 paragraph).2 part there
  have least := breaks_infix (stripped_within part)
  omega

/-- Sentences with one space between them. -/
def joined (sentences : List (List Char)) : List Char := [' '].intercalate sentences

theorem joined_cons {sentence : List Char} {rest : List (List Char)} (nonempty : rest ≠ []) :
    joined (sentence :: rest) = sentence ++ ' ' :: joined rest := by
  unfold joined
  rw [List.intercalate_cons_of_ne_nil nonempty, List.append_assoc]
  rfl

/-- The sentences of a group are its only parts. -/
theorem breaks_joined {sentences : List (List Char)} (all : ∀ sentence ∈ sentences, IsSentence sentence)
    (nonempty : sentences ≠ []) : breaks none (joined sentences) + 1 ≤ sentences.length := by
  induction sentences with
  | nil => exact absurd rfl nonempty
  | cons sentence rest ih =>
    have here := all sentence List.mem_cons_self
    by_cases empty : rest = []
    · rw [empty, joined, List.intercalate_singleton, here.unbroken]
      exact Nat.le_refl 1
    · have later := ih (fun other member => all other (List.mem_cons_of_mem sentence member)) empty
      have space : breaks (some ' ') (joined rest) = breaks none (joined rest) :=
        breaks_of_not_mark (by decide) _
      have one : breaks (sentence.getLast?.or none) (' ' :: joined rest) ≤ breaks none (joined rest) + 1 := by
        rw [breaks, space]
        split <;> omega
      rw [joined_cons empty, breaks_append, here.unbroken, List.length_cons]
      omega

theorem head?_joined {sentences : List (List Char)} {sentence : List Char} {rest : List (List Char)}
    (first : sentences = sentence :: rest) (nonempty : sentence ≠ []) : (joined sentences).head? = sentence.head? := by
  rw [first]
  by_cases empty : rest = []
  · rw [empty, joined, List.intercalate_singleton]
  · rw [joined_cons empty, List.head?_append_of_ne_nil _ nonempty]

/-- A group of sentences has no white space around it. -/
theorem trimmed_joined {sentences : List (List Char)} (all : ∀ sentence ∈ sentences, IsSentence sentence) :
    Trimmed (joined sentences) ∧ (sentences ≠ [] → joined sentences ≠ []) := by
  induction sentences with
  | nil => exact ⟨rfl, fun nonempty => absurd rfl nonempty⟩
  | cons sentence rest ih =>
    have here := all sentence List.mem_cons_self
    obtain ⟨front, back⟩ := trimmed_iff.1 here.trimmed
    have nonempty : joined (sentence :: rest) ≠ [] := by
      by_cases empty : rest = []
      · rw [empty, joined, List.intercalate_singleton]
        exact here.nonempty
      · rw [joined_cons empty]
        exact List.append_ne_nil_of_left_ne_nil here.nonempty _
    refine ⟨trimmed_iff.2 ⟨?_, ?_⟩, fun _ => nonempty⟩
    · rw [head?_joined rfl here.nonempty]
      exact front
    · by_cases empty : rest = []
      · rw [empty, joined, List.intercalate_singleton]
        exact back
      · obtain ⟨later, full⟩ := ih fun other member => all other (List.mem_cons_of_mem sentence member)
        have last : (joined (sentence :: rest)).getLast? = (joined rest).getLast? := by
          rw [joined_cons empty, List.getLast?_append_of_ne_nil _ (List.cons_ne_nil _ _),
            List.getLast?_cons_of_ne_nil (full empty)]
        rw [last]
        exact (trimmed_iff.1 later).2

theorem chunkOf_eq_joined {sentences : List (List Char)} (all : ∀ sentence ∈ sentences, IsSentence sentence) :
    chunkOf sentences = joined sentences := (trimmed_joined all).1

/-- What holds of every chunk. -/
structure IsChunk (maxChars : Nat) (maxSentencesPerChunk : Int) (chunk : List Char) : Prop where
  nonempty : chunk ≠ []
  trimmed : stripped chunk = chunk
  short : chunk.length ≤ maxChars
  few : ((split sentenceBreak chunk).length : Int) ≤ max 1 maxSentencesPerChunk

/-- What the loop keeps. -/
structure Packing.Within (maxChars : Nat) (maxSentencesPerChunk : Int) (p : Packing) : Prop where
  chunks : ∀ chunk ∈ p.chunks, IsChunk maxChars maxSentencesPerChunk chunk
  sentences : ∀ sentence ∈ p.currentSentences, IsSentence sentence
  short : (chunkOf p.currentSentences).length ≤ maxChars
  few : (p.currentSentences.length : Int) ≤ max 1 maxSentencesPerChunk

section Limits

variable {maxChars : Nat} {maxSentencesPerChunk : Int}

theorem isChunk_of_slice {sentence slice : List Char} (whole : IsSentence sentence)
    (member : slice ∈ slices maxChars sentence) : IsChunk maxChars maxSentencesPerChunk slice := by
  obtain ⟨mapped, nonempty⟩ := List.mem_filter.1 member
  obtain ⟨i, -, rfl⟩ := List.mem_map.1 mapped
  have inside := stripped_within ((sentence.drop (i * maxChars)).take maxChars)
  have part : (sentence.drop (i * maxChars)).take maxChars <:+: sentence :=
    (List.take_prefix _ _).isInfix.trans (List.drop_suffix _ _).isInfix
  have unbroken := breaks_infix (inside.trans part)
  rw [whole.unbroken] at unbroken
  constructor
  · exact of_decide_eq_true nonempty
  · exact trimmed_stripped _
  · exact inside.length_le.trans (List.length_take_le _ _)
  · rw [length_split_sentenceBreak]
    omega

namespace Packing

variable {p : Packing}

theorem Within.flush (within : p.Within maxChars maxSentencesPerChunk) :
    ∀ chunk ∈ p.flush, IsChunk maxChars maxSentencesPerChunk chunk := by
  intro chunk member
  unfold Packing.flush at member
  split at member
  · exact within.chunks chunk member
  · rename_i nonempty
    rcases List.mem_append.1 member with old | new
    · exact within.chunks chunk old
    · obtain ⟨trimmed, full⟩ := trimmed_joined within.sentences
      have same := chunkOf_eq_joined within.sentences
      have few := within.few
      have counted := breaks_joined within.sentences nonempty
      rw [List.mem_singleton.1 new]
      constructor
      · rw [same]
        exact full nonempty
      · exact trimmed_stripped _
      · exact within.short
      · rw [same, length_split_sentenceBreak]
        omega

/-- A step keeps the limits. -/
theorem Within.add (within : p.Within maxChars maxSentencesPerChunk) {sentence : List Char}
    (whole : IsSentence sentence) : (p.add maxChars maxSentencesPerChunk sentence).Within maxChars maxSentencesPerChunk := by
  have one : ∀ other ∈ [sentence], IsSentence other := List.forall_mem_singleton.2 whole
  have alone : chunkOf [sentence] = sentence := by
    rw [chunkOf, List.intercalate_singleton]
    exact whole.trimmed
  unfold Packing.add
  split
  · constructor
    · intro chunk member
      rcases List.mem_append.1 member with old | new
      · exact within.flush chunk old
      · exact isChunk_of_slice whole new
    · exact nofun
    · exact Nat.zero_le _
    · exact (Int.zero_le_ofNat 1).trans (le_max_left _ _)
  · rename_i fits
    dsimp only
    split
    · constructor
      · exact within.flush
      · exact one
      · rw [alone]
        exact Nat.le_of_not_lt fits
      · exact le_max_left _ _
    · rename_i room
      have all : ∀ other ∈ p.currentSentences ++ [sentence], IsSentence other :=
        List.forall_mem_append.2 ⟨within.sentences, one⟩
      by_cases empty : p.currentSentences = []
      · rw [empty]
        constructor
        · exact within.chunks
        · exact one
        · show (chunkOf [sentence]).length ≤ maxChars
          rw [alone]
          exact Nat.le_of_not_lt fits
        · exact le_max_left _ _
      · constructor
        · exact within.chunks
        · exact all
        · by_contra long
          exact room ⟨empty, .inr (Nat.lt_of_not_le long)⟩
        · rw [List.length_append, List.length_singleton]
          by_contra many
          apply room
          refine ⟨empty, .inl ?_⟩
          omega

end Packing

/-- **Chunk bounds.** A chunk is not empty, has no white space around it, is at most
`max_chars` long, and has at most as many sentences as allowed, or one. There is no chunk
exactly when the text is blank. -/
theorem chunk_bounds (positive : 0 < maxChars) (text : List Char) (maxSentencesPerChunk : Int) :
    (∀ chunk ∈ splitTextSemantic text maxChars maxSentencesPerChunk, IsChunk maxChars maxSentencesPerChunk chunk) ∧
      (splitTextSemantic text maxChars maxSentencesPerChunk = [] ↔ ∀ c ∈ text, isSpace c = true) := by
  have packed : ∀ (sentences : List (List Char)) (p : Packing), (∀ sentence ∈ sentences, IsSentence sentence) →
      p.Within maxChars maxSentencesPerChunk →
      (sentences.foldl (Packing.add maxChars maxSentencesPerChunk) p).Within maxChars maxSentencesPerChunk := by
    intro sentences
    induction sentences with
    | nil => exact fun p _ within => within
    | cons sentence sentences ih =>
      intro p all within
      obtain ⟨here, later⟩ := List.forall_mem_cons.1 all
      exact ih _ later (within.add here)
  have start : Packing.Within maxChars maxSentencesPerChunk ⟨[], []⟩ :=
    ⟨nofun, nofun, Nat.zero_le _, (Int.zero_le_ofNat 1).trans (le_max_left _ _)⟩
  constructor
  · unfold splitTextSemantic
    split
    · exact nofun
    · exact (packed _ _ (fun sentence => isSentence_of_mem) start).flush
  · rw [splitTextSemantic_eq_nil_iff positive, stripped_eq_nil_iff]

theorem greeting_bounded :
    (∀ chunk ∈ splitTextSemantic "Hello there. Bye.".toList 6 2, IsChunk 6 2 chunk) ∧
      (splitTextSemantic "Hello there. Bye.".toList 6 2 = [] ↔ ∀ c ∈ "Hello there. Bye.".toList, isSpace c = true) :=
  chunk_bounds (by decide) _ 2

end Limits

/-! ## As few chunks as possible -/

/-- Sentences that can be one chunk. -/
def GroupFits (maxChars : Nat) (maxSentencesPerChunk : Int) (sentences : List (List Char)) : Prop :=
  (joined sentences).length ≤ maxChars ∧ (sentences.length : Int) ≤ maxSentencesPerChunk

instance (maxChars : Nat) (maxSentencesPerChunk : Int) : DecidablePred (GroupFits maxChars maxSentencesPerChunk) :=
  fun _ => inferInstanceAs (Decidable (_ ∧ _))

/-- Every sentence and the space after it, but for the last space. -/
theorem length_joined (sentences : List (List Char)) :
    (joined sentences).length = (sentences.map fun sentence => sentence.length + 1).sum - 1 := by
  induction sentences with
  | nil => rfl
  | cons sentence rest ih =>
    rw [List.map_cons, List.sum_cons]
    by_cases empty : rest = []
    · rw [empty, joined, List.intercalate_singleton]
      rfl
    · obtain ⟨next, others, rfl⟩ := List.exists_cons_of_ne_nil empty
      rw [joined_cons empty, List.length_append, List.length_cons, ih, List.map_cons, List.sum_cons]
      omega

/-- A part of a group is no longer than the group. -/
theorem groupFits_hereditary (maxChars : Nat) (maxSentencesPerChunk : Int) :
    Hereditary (GroupFits maxChars maxSentencesPerChunk) := by
  rintro part _ ⟨front, back, rfl⟩ ⟨short, few⟩
  rw [length_joined, List.map_append, List.map_append, List.sum_append, List.sum_append] at short
  rw [List.length_append, List.length_append] at few
  constructor
  · rw [length_joined]
    omega
  · omega

section Fewest

variable {maxChars : Nat} {maxSentencesPerChunk : Int}

/-- A step of the loop, for a sentence that is not too long. -/
theorem add_of_short {p : Packing} (opened : ∀ sentence ∈ p.currentSentences, IsSentence sentence)
    {sentence : List Char} (whole : IsSentence sentence) (short : sentence.length ≤ maxChars) :
    p.add maxChars maxSentencesPerChunk sentence =
      if p.currentSentences ≠ [] ∧ ¬GroupFits maxChars maxSentencesPerChunk (p.currentSentences ++ [sentence]) then
        ⟨p.flush, [sentence]⟩
      else ⟨p.chunks, p.currentSentences ++ [sentence]⟩ := by
  have more : ∀ other ∈ p.currentSentences ++ [sentence], IsSentence other :=
    List.forall_mem_append.2 ⟨opened, List.forall_mem_singleton.2 whole⟩
  unfold Packing.add
  rw [if_neg (Nat.not_lt_of_le short)]
  apply if_congr (and_congr_right' _) rfl rfl
  unfold GroupFits
  rw [chunkOf_eq_joined more, List.length_append, List.length_singleton]
  omega

/-- The loop, for sentences that are not too long, is the greedy cut. -/
theorem packed_eq_greedy {sentences : List (List Char)} {p : Packing}
    (opened : ∀ sentence ∈ p.currentSentences, IsSentence sentence)
    (all : ∀ sentence ∈ sentences, IsSentence sentence ∧ sentence.length ≤ maxChars) :
    (sentences.foldl (Packing.add maxChars maxSentencesPerChunk) p).flush =
      p.chunks ++ (greedy (GroupFits maxChars maxSentencesPerChunk) p.currentSentences sentences).map joined := by
  induction sentences generalizing p with
  | nil =>
    rw [List.foldl_nil]
    unfold Packing.flush greedy
    split
    · exact (List.append_nil _).symm
    · rw [chunkOf_eq_joined opened]
      rfl
  | cons sentence sentences ih =>
    obtain ⟨⟨whole, short⟩, later⟩ := List.forall_mem_cons.1 all
    have one : ∀ other ∈ [sentence], IsSentence other := List.forall_mem_singleton.2 whole
    rw [List.foldl_cons, add_of_short opened whole short, greedy]
    split
    · rename_i closed
      rw [ih one later]
      unfold Packing.flush
      rw [if_neg closed.1, chunkOf_eq_joined opened, List.append_assoc]
      rfl
    · rw [ih (List.forall_mem_append.2 ⟨opened, one⟩) later]

/-- **As few chunks as possible.** The chunks of a text without a sentence that is too long
are groups of its sentences within the limits, and no such groups are fewer. -/
theorem chunking_minimal (text : List Char) (positive : 1 ≤ maxSentencesPerChunk)
    (short : ∀ sentence ∈ sentencesOf (stripped text), sentence.length ≤ maxChars) :
    ∃ groups, Cut (GroupFits maxChars maxSentencesPerChunk) (sentencesOf (stripped text)) groups ∧
      splitTextSemantic text maxChars maxSentencesPerChunk = groups.map joined ∧
      ∀ others, Cut (GroupFits maxChars maxSentencesPerChunk) (sentencesOf (stripped text)) others →
        groups.length ≤ others.length := by
  refine ⟨greedy (GroupFits maxChars maxSentencesPerChunk) [] (sentencesOf (stripped text)), ?_, ?_, ?_⟩
  · apply greedy_cut
    intro sentence member
    constructor
    · rw [joined, List.intercalate_singleton]
      exact short sentence member
    · exact positive
  · unfold splitTextSemantic
    split
    · rename_i blank
      rw [blank]
      rfl
    · exact packed_eq_greedy (List.forall_mem_nil _) fun sentence member => ⟨isSentence_of_mem member, short sentence member⟩
  · exact fun others => greedy_minimal (groupFits_hereditary maxChars maxSentencesPerChunk)

theorem greeting_minimal :
    ∃ groups, Cut (GroupFits 12 2) (sentencesOf (stripped "Hello there. Bye.".toList)) groups ∧
      splitTextSemantic "Hello there. Bye.".toList 12 2 = groups.map joined ∧
      ∀ others, Cut (GroupFits 12 2) (sentencesOf (stripped "Hello there. Bye.".toList)) others →
        groups.length ≤ others.length := by
  apply chunking_minimal
  · decide
  · have short : ((sentencesOf (stripped "Hello there. Bye.".toList)).all fun sentence => sentence.length ≤ 12) = true := by
      decide
    exact fun sentence member => of_decide_eq_true (List.all_eq_true.1 short sentence member)

end Fewest

end LlmTts
