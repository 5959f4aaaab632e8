import LlmTts.Lib.Regex
import Mathlib.Data.List.Chain

/-!
# Runs in a list

Two things that patterns with a repetition work on: runs of elements that are alike, of
which `squeeze` keeps one, and the maximal runs of elements of a class, which `split`
lists with what lies before the first and between two neighbours of the others.
-/

namespace Runs
open Regex

variable {α : Type}

/-! ## Keeping one element of a run -/

/-- An element that is like the one before it is dropped; of the others `rep` is kept. -/
def squeeze (like : α → α → Bool) (rep : α → α) : (before : Option α) → List α → List α
  | _, [] => []
  | before, c :: cs =>
    if before.any (like · c) then squeeze like rep (some c) cs else rep c :: squeeze like rep (some c) cs

/-- The number of elements with which the run of an element goes on. -/
def more (like : α → α → Bool) : α → List α → Nat
  | _, [] => 0
  | c, d :: ds => if like c d then more like d ds + 1 else 0

/-- The pattern matches runs, perhaps not those of one element, and they are replaced by
what stands for them. -/
def Squeezes (pattern : Pattern α) (replace : List α → List α) (like : α → α → Bool) (rep : α → α) : Prop :=
  ∀ before c cs, pattern before (c :: cs) = 0 ∧ more like c cs = 0 ∧ rep c = c ∨
    pattern before (c :: cs) = more like c cs + 1 ∧ replace ((c :: cs).take (more like c cs + 1)) = [rep c]

variable {like : α → α → Bool} {rep : α → α}

section Equations

variable {before : Option α} {c : α} {cs : List α}

theorem squeeze_drop (alike : before.any (like · c) = true) :
    squeeze like rep before (c :: cs) = squeeze like rep (some c) cs := by
  rw [squeeze, if_pos alike]

theorem squeeze_keep (unlike : before.any (like · c) = false) :
    squeeze like rep before (c :: cs) = rep c :: squeeze like rep (some c) cs := by
  rw [squeeze, if_neg (Bool.eq_false_iff.1 unlike)]

theorem more_cons_of_like {d : α} (alike : like c d = true) : more like c (d :: cs) = more like d cs + 1 := if_pos alike

theorem more_cons_of_unlike {d : α} (unlike : like c d = false) : more like c (d :: cs) = 0 :=
  if_neg (Bool.eq_false_iff.1 unlike)

end Equations

theorem isChain_of_inside {R : α → α → Prop} {part whole : List α} (chain : whole.IsChain R) (inside : part <:+: whole) :
    part.IsChain R := by
  obtain ⟨front, back, rfl⟩ := inside
  exact chain.left_of_append.right_of_append

/-- A substitution that replaces runs squeezes the text. -/
theorem sub_eq_squeeze {pattern : Pattern α} {replace : List α → List α} (squeezes : Squeezes pattern replace like rep)
    (text : List α) : sub pattern replace text = squeeze like rep none text := by
  have steps : ∀ before : Option α, (tokens pattern before (before.elim 0 (more like · text)) text).flatMap
      (Sum.elim (fun c => [c]) replace) = squeeze like rep before text := by
    induction text with
    | nil => exact fun before => rfl
    | cons c cs ih =>
      intro before
      cases alike : before.any (like · c) with
      | true =>
        cases before with
        | none => cases alike
        | some d =>
          rw [squeeze_drop alike, ← ih]
          show (tokens pattern (some d) (more like d (c :: cs)) (c :: cs)).flatMap _ = _
          rw [more_cons_of_like alike]
          rfl
      | false =>
        have start : before.elim 0 (more like · (c :: cs)) = 0 := by
          cases before with
          | none => rfl
          | some d => exact more_cons_of_unlike alike
        rw [start, squeeze_keep alike, ← ih]
        rcases squeezes before c cs with ⟨unmatched, single, same⟩ | ⟨length, replaced⟩
        · rw [tokens_kept unmatched, List.flatMap_cons, same]
          show _ = c :: (tokens pattern (some c) (more like c cs) cs).flatMap _
          rw [single]
          rfl
        · rw [tokens_match length, List.flatMap_cons]
          exact congrArg (· ++ _) replaced
  exact steps none

theorem squeeze_append (before : Option α) (x y : List α) :
    squeeze like rep before (x ++ y) = squeeze like rep before x ++ squeeze like rep (x.getLast?.or before) y := by
  induction x generalizing before with
  | nil => rfl
  | cons c cs ih =>
    cases alike : before.any (like · c) with
    | true => rw [List.cons_append, squeeze_drop alike, squeeze_drop alike, ih, last_cons]
    | false => rw [List.cons_append, squeeze_keep alike, squeeze_keep alike, ih, last_cons, List.cons_append]

theorem mem_squeeze {before : Option α} {text : List α} {c : α} (member : c ∈ squeeze like rep before text) :
    ∃ d ∈ text, c = rep d := by
  induction text generalizing before with
  | nil => cases member
  | cons d ds ih =>
    cases alike : before.any (like · d) with
    | true =>
      rw [squeeze_drop alike] at member
      obtain ⟨e, inside, same⟩ := ih member
      exact ⟨e, List.mem_cons_of_mem d inside, same⟩
    | false =>
      rw [squeeze_keep alike] at member
      rcases List.mem_cons.1 member with rfl | later
      · exact ⟨d, List.mem_cons_self, rfl⟩
      · obtain ⟨e, inside, same⟩ := ih later
        exact ⟨e, List.mem_cons_of_mem d inside, same⟩

/-- Elements that are alike are like the same elements, and `rep` is like what it stands for. -/
structure Uniform (like : α → α → Bool) (rep : α → α) : Prop where
  same : ∀ a b d, like a b = true → like a d = like b d
  left : ∀ a b, like (rep a) b = like a b
  right : ∀ a b, like a (rep b) = like a b

/-- No two neighbours are alike after that. -/
theorem squeeze_isChain (uniform : Uniform like rep) (text : List α) :
    (squeeze like rep none text).IsChain fun a b => like a b = false := by
  have started : ∀ (text : List α) (c : α), (rep c :: squeeze like rep (some c) text).IsChain fun a b => like a b = false := by
    intro text
    induction text with
    | nil => exact fun c => .singleton _
    | cons d ds ih =>
      intro c
      cases alike : like c d with
      | true =>
        rw [squeeze_drop (show (some c).any (like · d) = true from alike)]
        obtain ⟨first, rest⟩ := List.isChain_cons.1 (ih d)
        apply List.isChain_cons.2 ⟨_, rest⟩
        intro e head
        rw [uniform.left, uniform.same c d e alike, ← uniform.left]
        exact first e head
      | false =>
        rw [squeeze_keep (show (some c).any (like · d) = false from alike)]
        apply List.isChain_cons_cons.2 ⟨_, ih d⟩
        rw [uniform.left, uniform.right]
        exact alike
  cases text with
  | nil => exact .nil
  | cons c cs =>
    rw [squeeze_keep rfl]
    exact started cs c

/-- A list without such neighbours is left as it is. -/
theorem squeeze_of_isChain {text : List α} (chain : text.IsChain fun a b => like a b = false)
    (fixed : ∀ c ∈ text, rep c = c) : squeeze like rep none text = text := by
  have started : ∀ (text : List α) (before : Option α), (before.toList ++ text).IsChain (fun a b => like a b = false) →
      (∀ c ∈ text, rep c = c) → squeeze like rep before text = text := by
    intro text
    induction text with
    | nil => exact fun _ _ _ => rfl
    | cons c cs ih =>
      intro before chain fixed
      obtain ⟨here, later⟩ := List.forall_mem_cons.1 fixed
      have unlike : before.any (like · c) = false := by
        cases before with
        | none => rfl
        | some b => exact (List.isChain_cons_cons.1 chain).1
      have rest : ((some c).toList ++ cs).IsChain fun a b => like a b = false := by
        cases before with
        | none => exact chain
        | some b => exact (List.isChain_cons_cons.1 chain).2
      rw [squeeze_keep unlike, here, ih (some c) rest later]
  exact started text none chain fixed

/-- Neighbours after that were neighbours before, where only equal elements are alike. -/
theorem squeeze_keeps_isChain (equal : ∀ a b, like a b = true → a = b) {R : α → α → Prop} {text : List α}
    (chain : text.IsChain R) : (squeeze like id none text).IsChain R := by
  have started : ∀ (text : List α) (c : α), (c :: text).IsChain R → (c :: squeeze like id (some c) text).IsChain R := by
    intro text
    induction text with
    | nil => exact fun c _ => .singleton c
    | cons d ds ih =>
      intro c chain
      obtain ⟨here, rest⟩ := List.isChain_cons_cons.1 chain
      cases alike : like c d with
      | true =>
        rw [squeeze_drop (show (some c).any (like · d) = true from alike), equal c d alike]
        exact ih d rest
      | false =>
        rw [squeeze_keep (show (some c).any (like · d) = false from alike)]
        exact List.isChain_cons_cons.2 ⟨here, ih d rest⟩
  cases text with
  | nil => exact .nil
  | cons c cs =>
    rw [squeeze_keep rfl]
    exact started cs c chain

/-! ## Where a run ends -/

section Ends

variable {c : α} {x y : List α}

/-- An element that is unlike the first one is as good as none before it. -/
theorem squeeze_fresh (unlike : ∀ d ∈ y.head?, like c d = false) : squeeze like rep (some c) y = squeeze like rep none y := by
  cases y with
  | nil => rfl
  | cons d ds => rw [squeeze_keep (show (some c).any (like · d) = false from unlike d rfl), squeeze_keep rfl]

theorem squeeze_cut (unlike : ∀ b ∈ x.getLast?, like b c = false) : squeeze like rep none (x ++ c :: y) =
    squeeze like rep none x ++ rep c :: squeeze like rep (some c) y := by
  have apart : (x.getLast?.or none).any (like · c) = false := by
    rw [Option.or_none]
    cases last : x.getLast? with
    | none => rfl
    | some b => exact unlike b last
  rw [squeeze_append, squeeze_keep apart]

/-- An element that is like no other cuts a list. -/
theorem squeeze_apart (before : ∀ b, like b c = false) (after : ∀ d, like c d = false) (x y : List α) :
    squeeze like rep none (x ++ c :: y) = squeeze like rep none x ++ rep c :: squeeze like rep none y := by
  rw [squeeze_cut fun b _ => before b, squeeze_fresh fun d _ => after d]

theorem head?_squeeze (text : List α) : (squeeze like rep none text).head? = text.head?.map rep := by
  cases text with
  | nil => rfl
  | cons c cs =>
    rw [squeeze_keep rfl]
    rfl

theorem getLast?_squeeze (same : ∀ a b, like a b = true → rep a = rep b) (text : List α) :
    (squeeze like rep none text).getLast? = text.getLast?.map rep := by
  have started : ∀ (text : List α) (c : α), (rep c :: squeeze like rep (some c) text).getLast? =
      (c :: text).getLast?.map rep := by
    intro text
    induction text with
    | nil => exact fun c => rfl
    | cons d ds ih =>
      intro c
      rw [List.getLast?_cons_cons, ← ih d]
      cases alike : like c d with
      | true => rw [squeeze_drop (show (some c).any (like · d) = true from alike), same c d alike]
      | false => rw [squeeze_keep (show (some c).any (like · d) = false from alike), List.getLast?_cons_cons]
  cases text with
  | nil => rfl
  | cons c cs =>
    rw [squeeze_keep rfl]
    exact started cs c

end Ends

/-! ## Two classes -/

section Classes

variable {p q : α → Bool} {text : List α}

/-- Where the run of the smaller class ends, that of the larger class may end too. -/
theorem takeWhile_of_ends (weaker : ∀ c, p c = true → q c = true)
    (ends : ∀ c ∈ (text.dropWhile p).head?, q c = false) : text.takeWhile q = text.takeWhile p := by
  induction text with
  | nil => rfl
  | cons c cs ih =>
    cases here : p c with
    | true =>
      rw [List.dropWhile_cons_of_pos here] at ends
      rw [List.takeWhile_cons_of_pos here, List.takeWhile_cons_of_pos (weaker c here), ih ends]
    | false =>
      have unlike := Bool.eq_false_iff.1 here
      rw [List.dropWhile_cons_of_neg unlike] at ends
      rw [List.takeWhile_cons_of_neg unlike, List.takeWhile_cons_of_neg (Bool.eq_false_iff.1 (ends c rfl))]

/-- A run of the larger class may be one of the smaller class. -/
theorem dropWhile_of_all (weaker : ∀ c, p c = true → q c = true) (all : ∀ c ∈ text.takeWhile q, p c = true) :
    text.dropWhile p = text.dropWhile q := by
  induction text with
  | nil => rfl
  | cons c cs ih =>
    cases there : q c with
    | true =>
      rw [List.takeWhile_cons_of_pos there] at all
      obtain ⟨here, later⟩ := List.forall_mem_cons.1 all
      rw [List.dropWhile_cons_of_pos there, List.dropWhile_cons_of_pos here, ih later]
    | false =>
      have unlike : ¬p c = true := fun here => nomatch there.symm.trans (weaker c here)
      rw [List.dropWhile_cons_of_neg (Bool.eq_false_iff.1 there), List.dropWhile_cons_of_neg unlike]

theorem head?_dropWhile (text : List α) : ∀ c ∈ (text.dropWhile p).head?, p c = false := by
  intro c head
  have outside := List.head?_dropWhile_not p text
  rw [Option.mem_def.1 head] at outside
  exact outside

theorem takeWhile_append_stop {c : α} (stop : p c = false) (text more : List α) :
    (text ++ c :: more).takeWhile p = text.takeWhile p := by
  induction text with
  | nil => exact List.takeWhile_cons_of_neg (Bool.eq_false_iff.1 stop)
  | cons d ds ih =>
    rw [List.cons_append, List.takeWhile_cons, List.takeWhile_cons, ih]

theorem drop_takeWhile (text : List α) : text.drop (text.takeWhile p).length = text.dropWhile p := by
  have front := congrArg (List.drop (text.takeWhile p).length) (List.takeWhile_append_dropWhile (p := p) (l := text))
  rw [List.drop_left] at front
  exact front.symm

end Classes

/-! ## Runs of a class -/

/-- The run of elements of the class at the start, and what lies between the others. -/
def runs (inside : α → Bool) : List α → List α × List (List α)
  | [] => ([], [])
  | c :: cs => if inside c then (c :: (runs inside cs).1, (runs inside cs).2) else ([], (runs inside cs).1 :: (runs inside cs).2)

/-- The runs that are not empty. -/
def words (inside : α → Bool) (text : List α) : List (List α) :=
  ((runs inside text).1 :: (runs inside text).2).filter fun run => !run.isEmpty

variable {inside : α → Bool}

section Class

variable {c : α} {cs text : List α}

theorem runs_of_inside (here : inside c = true) :
    runs inside (c :: cs) = (c :: (runs inside cs).1, (runs inside cs).2) := if_pos here

theorem runs_of_outside (here : inside c = false) :
    runs inside (c :: cs) = ([], (runs inside cs).1 :: (runs inside cs).2) := if_neg (Bool.eq_false_iff.1 here)

theorem words_of_outside (here : inside c = false) : words inside (c :: cs) = words inside cs := by
  unfold words
  rw [runs_of_outside here]
  rfl

theorem first_eq (text : List α) : (runs inside text).1 = text.takeWhile inside := by
  induction text with
  | nil => rfl
  | cons c cs ih =>
    cases here : inside c with
    | true => rw [runs_of_inside here, List.takeWhile_cons_of_pos here, ih]
    | false => rw [runs_of_outside here, List.takeWhile_cons_of_neg (Bool.eq_false_iff.1 here)]

/-- The elements of a run. -/
theorem mem_runs {run : List α} (member : run ∈ (runs inside text).1 :: (runs inside text).2) :
    ∀ c ∈ run, c ∈ text ∧ inside c = true := by
  induction text generalizing run with
  | nil =>
    rw [List.mem_singleton.1 member]
    exact fun c member => absurd member List.not_mem_nil
  | cons d ds ih =>
    have later : ∀ run ∈ (runs inside ds).1 :: (runs inside ds).2, ∀ c ∈ run, c ∈ d :: ds ∧ inside c = true :=
      fun run there c within => ⟨List.mem_cons_of_mem d (ih there c within).1, (ih there c within).2⟩
    cases here : inside d with
    | true =>
      rw [runs_of_inside here] at member
      rcases List.mem_cons.1 member with rfl | other
      · intro c within
        rcases List.mem_cons.1 within with rfl | more
        · exact ⟨List.mem_cons_self, here⟩
        · exact later _ List.mem_cons_self c more
      · exact later run (List.mem_cons_of_mem _ other)
    | false =>
      rw [runs_of_outside here] at member
      rcases List.mem_cons.1 member with rfl | other
      · exact fun c member => absurd member List.not_mem_nil
      · exact later run other

theorem length_le_of_mem_runs {run : List α} (member : run ∈ (runs inside text).1 :: (runs inside text).2) :
    run.length ≤ text.length := by
  induction text generalizing run with
  | nil =>
    rw [List.mem_singleton.1 member]
    exact Nat.le_refl 0
  | cons d ds ih =>
    cases here : inside d with
    | true =>
      rw [runs_of_inside here] at member
      rcases List.mem_cons.1 member with rfl | other
      · exact Nat.succ_le_succ (ih List.mem_cons_self)
      · exact Nat.le_succ_of_le (ih (List.mem_cons_of_mem _ other))
    | false =>
      rw [runs_of_outside here] at member
      rcases List.mem_cons.1 member with rfl | other
      · exact Nat.zero_le _
      · exact Nat.le_succ_of_le (ih other)

/-- A run ends where the rest of the list does not start with an element of the class. -/
theorem runs_append {x y : List α} (ends : (runs inside y).1 = []) :
    runs inside (x ++ y) = ((runs inside x).1, (runs inside x).2 ++ (runs inside y).2) := by
  induction x with
  | nil => exact Prod.ext ends rfl
  | cons c cs ih =>
    rw [List.cons_append]
    cases here : inside c with
    | true => rw [runs_of_inside here, runs_of_inside here, ih]
    | false => rw [runs_of_outside here, runs_of_outside here, ih, List.cons_append]

theorem first_nil_iff : (runs inside text).1 = [] ↔ ∀ c ∈ text.head?, inside c = false := by
  cases text with
  | nil => exact iff_of_true rfl nofun
  | cons c cs =>
    cases here : inside c with
    | true =>
      rw [runs_of_inside here]
      exact iff_of_false (List.cons_ne_nil _ _) fun outside => nomatch here.symm.trans (outside c rfl)
    | false =>
      rw [runs_of_outside here]
      apply iff_of_true rfl
      intro d same
      cases same
      exact here

theorem words_of_inside (here : inside c = true) :
    words inside (c :: cs) = (c :: (runs inside cs).1) :: (runs inside cs).2.filter fun run => !run.isEmpty := by
  unfold words
  rw [runs_of_inside here]
  rfl

/-- Elements outside the class around a list are no words. -/
theorem words_between {front back : List α} (before : ∀ c ∈ front, inside c = false) (after : ∀ c ∈ back, inside c = false) :
    words inside (front ++ text ++ back) = words inside text := by
  have ends : (runs inside back).1 = [] := first_nil_iff.2 fun c head => after c (List.mem_of_mem_head? head)
  have filtered : (runs inside back).2.filter (fun run => !run.isEmpty) = [] := by
    apply List.filter_eq_nil_iff.2
    intro run member
    cases run with
    | nil => exact Bool.false_ne_true
    | cons c cs =>
      obtain ⟨within, here⟩ := mem_runs (List.mem_cons_of_mem _ member) c List.mem_cons_self
      rw [after c within] at here
      cases here
  have trailing : words inside (front ++ text ++ back) = words inside (front ++ text) := by
    unfold words
    rw [runs_append ends, ← List.cons_append, List.filter_append, filtered, List.append_nil]
  rw [trailing]
  clear trailing
  induction front with
  | nil => rfl
  | cons c cs ih =>
    obtain ⟨here, later⟩ := List.forall_mem_cons.1 before
    rw [List.cons_append, words_of_outside here, ih later]

/-- Dropping and replacing elements outside the class next to others of them leaves the runs. -/
theorem words_squeeze (outside : ∀ a b, like a b = true → inside a = false ∧ inside b = false)
    (same : ∀ c, inside c = true → rep c = c) (kept : ∀ c, inside c = false → inside (rep c) = false)
    (before : Option α) (text : List α) :
    words inside (squeeze like rep before text) = words inside text ∧
      (before.all inside = true → (runs inside (squeeze like rep before text)).1 = (runs inside text).1 ∧
        (runs inside (squeeze like rep before text)).2.filter (fun run => !run.isEmpty) =
          (runs inside text).2.filter fun run => !run.isEmpty) := by
  induction text generalizing before with
  | nil => exact ⟨rfl, fun _ => ⟨rfl, rfl⟩⟩
  | cons c cs ih =>
    obtain ⟨whole, parts⟩ := ih (some c)
    cases here : inside c with
    | true =>
      -- an element of the class is kept
      have unlike : before.any (like · c) = false := by
        apply Bool.eq_false_iff.2
        intro alike
        cases before with
        | none => cases alike
        | some b => exact nomatch here.symm.trans (outside b c alike).2
      obtain ⟨first, later⟩ := parts here
      rw [squeeze_keep unlike, same c here, words_of_inside here, words_of_inside here, runs_of_inside here,
        runs_of_inside here, first, later]
      exact ⟨rfl, fun _ => ⟨rfl, rfl⟩⟩
    | false =>
      cases alike : before.any (like · c) with
      | true =>
        rw [squeeze_drop alike, words_of_outside here]
        refine ⟨whole, fun all => ?_⟩
        cases before with
        | none => cases alike
        | some b => exact nomatch (show inside b = true from all).symm.trans (outside b c alike).1
      | false =>
        rw [squeeze_keep alike, words_of_outside here, words_of_outside (kept c here), runs_of_outside here,
          runs_of_outside (kept c here)]
        exact ⟨whole, fun _ => ⟨rfl, whole⟩⟩

end Class

end Runs
