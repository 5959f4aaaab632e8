import LlmTts.Lib.Checked

/-!
# Matches of a pattern

`re.sub` and `re.split` for patterns that need no search: the length of the match at a
position is a function of the rest of the text and of the character before it. The text
is cut into the characters that are kept and the matches, from left to right.
-/

namespace Regex

variable {α : Type}

/-- The length of the match at a position, or 0 if there is none. -/
abbrev Pattern (α : Type) : Type := (before : Option α) → List α → Nat

/-- What is kept and what is matched. In a match that has begun, `inside` characters are left. -/
def tokens (pattern : Pattern α) : (before : Option α) → (inside : Nat) → List α → List (α ⊕ List α)
  | _, _, [] => []
  | _, inside + 1, c :: cs => tokens pattern (some c) inside cs
  | before, 0, c :: cs =>
    match pattern before (c :: cs) with
    | 0 => .inl c :: tokens pattern (some c) 0 cs
    | length + 1 => .inr ((c :: cs).take (length + 1)) :: tokens pattern (some c) length cs

/-- `re.sub` with a function of the match. -/
def sub (pattern : Pattern α) (replace : List α → List α) (text : List α) : List α :=
  (tokens pattern none 0 text).flatMap (Sum.elim (fun c => [c]) replace)

/-- `re.sub` with a function that may raise. -/
def trySub {ε : Type} (pattern : Pattern α) (replace : List α → Except ε (List α)) (text : List α) :
    Except ε (List α) :=
  ((tokens pattern none 0 text).mapM (Sum.elim (fun c => .ok [c]) replace)).map List.flatten

/-- The parts between the matches. -/
def parts : List (α ⊕ List α) → List (List α)
  | [] => [[]]
  | .inl c :: rest =>
    match parts rest with
    | [] => [[c]]
    | part :: others => (c :: part) :: others
  | .inr _ :: rest => [] :: parts rest

/-- `re.split`. -/
def split (pattern : Pattern α) (text : List α) : List (List α) := parts (tokens pattern none 0 text)

section Equations

variable {pattern : Pattern α} {before : Option α} {c : α} {cs : List α}

/-- The character before a position. -/
theorem last_cons (before : Option α) (c : α) (cs : List α) : (c :: cs).getLast?.or before = cs.getLast?.or (some c) := by
  rw [List.getLast?_cons]
  cases cs.getLast? <;> rfl

theorem tokens_kept (unmatched : pattern before (c :: cs) = 0) :
    tokens pattern before 0 (c :: cs) = .inl c :: tokens pattern (some c) 0 cs := by
  rw [tokens, unmatched]

theorem tokens_match {n : Nat} (length : pattern before (c :: cs) = n + 1) :
    tokens pattern before 0 (c :: cs) = .inr ((c :: cs).take (n + 1)) :: tokens pattern (some c) n cs := by
  rw [tokens, length]

theorem parts_kept {rest : List (α ⊕ List α)} {part : List α} {others : List (List α)}
    (split : parts rest = part :: others) : parts (.inl c :: rest) = (c :: part) :: others := by
  rw [parts, split]

end Equations

/-- In a match that has begun, what is left of it is passed over. -/
theorem tokens_inside (pattern : Pattern α) (before : Option α) (inside : Nat) (text : List α) :
    tokens pattern before inside text = tokens pattern ((text.take inside).getLast?.or before) 0 (text.drop inside) := by
  induction text generalizing before inside with
  | nil =>
    rw [List.take_nil, List.drop_nil]
    rfl
  | cons c cs ih =>
    cases inside with
    | zero => rfl
    | succ inside =>
      show tokens pattern (some c) inside cs = _
      rw [ih, List.take_succ_cons, last_cons, List.drop_succ_cons]

/-- The match of `front`, and what comes after it. -/
theorem tokens_front {pattern : Pattern α} {before : Option α} {front rest : List α} (nonempty : front ≠ [])
    (length : pattern before (front ++ rest) = front.length) :
    tokens pattern before 0 (front ++ rest) = .inr front :: tokens pattern front.getLast? 0 rest := by
  obtain ⟨c, cs, rfl⟩ := List.exists_cons_of_ne_nil nonempty
  have whole : (c :: (cs ++ rest)).take (cs.length + 1) = c :: cs := by rw [List.take_succ_cons, List.take_left]
  rw [List.cons_append] at length ⊢
  rw [tokens_match (n := cs.length) length, tokens_inside, whole, List.take_left, List.drop_left, ← last_cons before,
    List.getLast?_cons, Option.some_or]

/-! ## What is kept -/

/-- Every match is made of such elements. -/
def Matches (pattern : Pattern α) (matched : α → Prop) : Prop :=
  ∀ (before : Option α) (rest : List α), ∀ c ∈ rest.take (pattern before rest), matched c

/-- What cannot be part of a match is kept. -/
theorem mem_tokens {pattern : Pattern α} {matched : α → Prop} (only : Matches pattern matched) {c : α} (kept : ¬matched c)
    {text : List α} {inside : Nat} (before : Option α) (member : c ∈ text.drop inside) :
    .inl c ∈ tokens pattern before inside text := by
  induction text generalizing before inside with
  | nil =>
    rw [List.drop_nil] at member
    cases member
  | cons d ds ih =>
    cases inside with
    | succ inside => exact ih _ member
    | zero =>
      have here := only before (d :: ds)
      unfold tokens
      cases found : pattern before (d :: ds) with
      | zero =>
        rcases List.mem_cons.1 member with rfl | later
        · exact List.mem_cons_self
        · exact List.mem_cons_of_mem _ (ih _ later)
      | succ length =>
        rw [found] at here
        have whole : c ∈ (d :: ds).take (length + 1) ++ (d :: ds).drop (length + 1) := by
          rw [List.take_append_drop]
          exact member
        rcases List.mem_append.1 whole with front | back
        · exact absurd (here c front) kept
        · exact List.mem_cons_of_mem _ (ih _ back)

theorem parts_ne_nil (found : List (α ⊕ List α)) : parts found ≠ [] := by
  induction found with
  | nil => exact List.cons_ne_nil _ _
  | cons token rest ih =>
    cases token with
    | inr _ => exact List.cons_ne_nil _ _
    | inl c =>
      unfold parts
      split
      · exact List.cons_ne_nil _ _
      · exact List.cons_ne_nil _ _

theorem mem_parts {found : List (α ⊕ List α)} {c : α} (member : .inl c ∈ found) : ∃ part ∈ parts found, c ∈ part := by
  induction found with
  | nil => cases member
  | cons token rest ih =>
    cases token with
    | inr _ =>
      have later := List.mem_of_ne_of_mem Sum.inl_ne_inr member
      obtain ⟨part, there, inside⟩ := ih later
      exact ⟨part, List.mem_cons_of_mem _ there, inside⟩
    | inl d =>
      unfold parts
      cases split : parts rest with
      | nil => exact absurd split (parts_ne_nil rest)
      | cons part others =>
        rcases List.mem_cons.1 member with here | later
        · cases here
          exact ⟨_, List.mem_cons_self, List.mem_cons_self⟩
        · obtain ⟨found, there, inside⟩ := ih later
          rw [split] at there
          rcases List.mem_cons.1 there with rfl | there
          · exact ⟨_, List.mem_cons_self, List.mem_cons_of_mem _ inside⟩
          · exact ⟨found, List.mem_cons_of_mem _ there, inside⟩

/-- What cannot be part of a match is in one of the parts. -/
theorem mem_split {pattern : Pattern α} {matched : α → Prop} (only : Matches pattern matched) {c : α}
    (kept : ¬matched c) {text : List α} (member : c ∈ text) : ∃ part ∈ split pattern text, c ∈ part :=
  mem_parts (mem_tokens only kept none member)

/-! ## Nothing is lost -/

/-- The text is what is kept and what is matched. -/
theorem tokens_flatten (pattern : Pattern α) (before : Option α) (inside : Nat) (text : List α) :
    (tokens pattern before inside text).flatMap (Sum.elim (fun c => [c]) id) = text.drop inside := by
  induction text generalizing before inside with
  | nil => exact List.drop_nil.symm
  | cons c cs ih =>
    cases inside with
    | succ inside => exact ih _ _
    | zero =>
      cases length : pattern before (c :: cs) with
      | zero =>
        rw [tokens_kept length, List.flatMap_cons, ih]
        rfl
      | succ n =>
        rw [tokens_match length, List.flatMap_cons, ih]
        exact List.take_append_drop (n + 1) (c :: cs)

theorem flatten_parts (found : List (α ⊕ List α)) :
    (parts found).flatten = found.flatMap (Sum.elim (fun c => [c]) fun _ => []) := by
  induction found with
  | nil => rfl
  | cons token rest ih =>
    rw [List.flatMap_cons, ← ih]
    cases token with
    | inr _ => rfl
    | inl c =>
      obtain ⟨part, others, split⟩ := List.exists_cons_of_ne_nil (parts_ne_nil rest)
      rw [parts_kept split, split]
      rfl

/-- A match is what the pattern matches somewhere. -/
theorem exists_of_mem_match {pattern : Pattern α} {before : Option α} {inside : Nat} {text found : List α}
    (member : .inr found ∈ tokens pattern before inside text) :
    ∃ before rest n, pattern before rest = n + 1 ∧ found = rest.take (n + 1) := by
  induction text generalizing before inside with
  | nil => cases member
  | cons c cs ih =>
    cases inside with
    | succ inside => exact ih member
    | zero =>
      cases length : pattern before (c :: cs) with
      | zero =>
        rw [tokens_kept length] at member
        exact ih (List.mem_of_ne_of_mem Sum.inr_ne_inl member)
      | succ n =>
        rw [tokens_match length] at member
        rcases List.mem_cons.1 member with same | later
        · cases same
          exact ⟨before, _, n, length, rfl⟩
        · exact ih later

theorem forall_mem_match {pattern : Pattern α} {matched : α → Prop} (only : Matches pattern matched)
    {before : Option α} {inside : Nat} {text found : List α} (member : .inr found ∈ tokens pattern before inside text) :
    ∀ c ∈ found, matched c := by
  obtain ⟨before, rest, n, length, rfl⟩ := exists_of_mem_match member
  rw [← length]
  exact only before rest

/-- The parts are parts of the text. -/
theorem infix_of_mem_parts (pattern : Pattern α) (before : Option α) (inside : Nat) (text : List α) :
    (∀ part ∈ (parts (tokens pattern before inside text)).head?, part <+: text.drop inside) ∧
      ∀ part ∈ parts (tokens pattern before inside text), part <:+: text := by
  induction text generalizing before inside with
  | nil =>
    constructor
    · rintro part ⟨rfl⟩
      exact List.nil_prefix
    · intro part member
      cases List.mem_singleton.1 member
      exact List.nil_infix
  | cons c cs ih =>
    have later : ∀ before inside, ∀ part ∈ parts (tokens pattern before inside cs), part <:+: c :: cs :=
      fun before inside part member => ((ih before inside).2 part member).trans (List.suffix_cons c cs).isInfix
    cases inside with
    | succ inside => exact ⟨(ih (some c) inside).1, later _ _⟩
    | zero =>
      cases length : pattern before (c :: cs) with
      | zero =>
        obtain ⟨part, others, split⟩ := List.exists_cons_of_ne_nil (parts_ne_nil (tokens pattern (some c) 0 cs))
        have front : c :: part <+: c :: cs := by
          have first := (ih (some c) 0).1
          rw [split] at first
          exact List.cons_prefix_cons.2 ⟨rfl, first part rfl⟩
        rw [tokens_kept length, parts_kept split]
        constructor
        · rintro _ ⟨rfl⟩
          exact front
        · intro other member
          rcases List.mem_cons.1 member with rfl | there
          · exact front.isInfix
          · apply later (some c) 0
            rw [split]
            exact List.mem_cons_of_mem _ there
      | succ n =>
        rw [tokens_match length]
        constructor
        · rintro _ ⟨rfl⟩
          exact List.nil_prefix
        · intro part member
          rcases List.mem_cons.1 member with rfl | there
          · exact List.nil_infix
          · exact later _ _ part there

/-- A split removes only what can be part of a match. -/
theorem filter_split {pattern : Pattern α} {matched : α → Prop} (only : Matches pattern matched) (keep : α → Bool)
    (dropped : ∀ c, matched c → keep c = false) (text : List α) :
    (split pattern text).flatten.filter keep = text.filter keep := by
  have whole := congrArg (List.filter keep) (tokens_flatten pattern none 0 text)
  rw [List.drop_zero] at whole
  rw [split, flatten_parts, ← whole, List.filter_flatMap, List.filter_flatMap]
  apply List.flatMap_congr
  intro token member
  cases token with
  | inl c => rfl
  | inr found =>
    apply (List.filter_eq_nil_iff.2 _).symm
    intro c inside
    rw [dropped c (forall_mem_match only member c inside)]
    exact Bool.false_ne_true

/-- There is one part more than there are matches. -/
theorem length_parts (found : List (α ⊕ List α)) : (parts found).length = found.countP Sum.isRight + 1 := by
  induction found with
  | nil => rfl
  | cons token rest ih =>
    cases token with
    | inr _ =>
      rw [List.countP_cons_of_pos rfl, ← ih]
      rfl
    | inl c =>
      obtain ⟨part, others, split⟩ := List.exists_cons_of_ne_nil (parts_ne_nil rest)
      rw [List.countP_cons_of_neg Bool.false_ne_true, ← ih, parts_kept split, split]
      rfl

/-! ## Substitutions that raise -/

section Raising

variable {ε : Type}

/-- What stands for a match that can be replaced. -/
def replaced (replace : List α → Except ε (List α)) (found : List α) : List α := (replace found).toOption.getD []

variable {replace : List α → Except ε (List α)}

theorem replaced_of_ok {found new : List α} (same : replace found = .ok new) : replaced replace found = new := by
  rw [replaced, same]
  rfl

theorem mem_replaced {found : List α} {c : α} (member : c ∈ replaced replace found) : ∃ new, replace found = .ok new ∧ c ∈ new := by
  unfold replaced at member
  cases same : replace found with
  | error raised =>
    rw [same] at member
    cases member
  | ok new =>
    rw [same] at member
    exact ⟨new, rfl, member⟩

/-- A substitution raises if a match cannot be replaced. -/
theorem trySub_eq_ok_iff {pattern : Pattern α} {text out : List α} : trySub pattern replace text = .ok out ↔
    (∀ m, .inr m ∈ tokens pattern none 0 text → ∃ new, replace m = .ok new) ∧ out = sub pattern (replaced replace) text := by
  have whole : (∀ m, .inr m ∈ tokens pattern none 0 text → ∃ new, replace m = .ok new) →
      trySub pattern replace text = .ok (sub pattern (replaced replace) text) := by
    intro each
    have news : (tokens pattern none 0 text).mapM (Sum.elim (fun c => .ok [c]) replace) =
        .ok ((tokens pattern none 0 text).map (Sum.elim (fun c => [c]) (replaced replace))) := by
      rw [Checked.mapM_ok_iff, List.forall₂_map_right_iff, List.forall₂_same]
      intro token member
      cases token with
      | inl c => rfl
      | inr m =>
        obtain ⟨new, same⟩ := each m member
        exact same.trans (congrArg _ (replaced_of_ok same).symm)
    rw [trySub, news, sub, List.flatMap_def]
    rfl
  constructor
  · intro run
    have each : ∀ m, .inr m ∈ tokens pattern none 0 text → ∃ new, replace m = .ok new := by
      intro m member
      unfold trySub at run
      cases news : (tokens pattern none 0 text).mapM (Sum.elim (fun c => .ok [c]) replace) with
      | ok _ =>
        obtain ⟨new, -, same⟩ := Checked.exists_of_mem_left (Checked.mapM_ok_iff.1 news) member
        exact ⟨new, same⟩
      | error raised =>
        rw [news] at run
        cases run
    exact ⟨each, Except.ok.inj (run.symm.trans (whole each))⟩
  · rintro ⟨each, rfl⟩
    exact whole each

end Raising

/-! ## Characters that matches do not reach over -/

/-- A character at which every match ends, whatever comes after it, and none begins. -/
structure Separator (pattern : Pattern α) (c : α) : Prop where
  bound : ∀ before rest, pattern before rest ≤ rest.length
  front : ∀ before rest more, rest ≠ [] → pattern before (rest ++ c :: more) = pattern before rest
  kept : ∀ before more, pattern before (c :: more) = 0

section Separated

variable {pattern : Pattern α} {c : α}

theorem tokens_separator (separator : Separator pattern c) (before : Option α) {inside : Nat} {x : List α}
    (short : inside ≤ x.length) (y : List α) : tokens pattern before inside (x ++ c :: y) =
      tokens pattern before inside x ++ .inl c :: tokens pattern (some c) 0 y := by
  induction x generalizing before inside with
  | nil =>
    rw [Nat.le_zero.1 short]
    exact tokens_kept (separator.kept before y)
  | cons d ds ih =>
    cases inside with
    | succ inside => exact ih (some d) (Nat.le_of_succ_le_succ short)
    | zero =>
      have same := separator.front before (d :: ds) y (List.cons_ne_nil d ds)
      have bound := separator.bound before (d :: ds)
      rw [List.cons_append] at same ⊢
      cases length : pattern before (d :: ds) with
      | zero =>
        rw [length] at same
        rw [tokens_kept same, tokens_kept length, ih _ (Nat.zero_le _)]
        rfl
      | succ n =>
        rw [length] at same bound
        have inner : (d :: (ds ++ c :: y)).take (n + 1) = (d :: ds).take (n + 1) := by
          rw [← List.cons_append]
          exact List.take_append_of_le_length bound
        rw [tokens_match same, tokens_match length, ih _ (Nat.le_of_succ_le_succ bound), inner]
        rfl

/-- The character before a text matters no more than there being none. -/
theorem tokens_fresh (fresh : ∀ rest, pattern (some c) rest = pattern none rest) (text : List α) :
    tokens pattern (some c) 0 text = tokens pattern none 0 text := by
  cases text with
  | nil => rfl
  | cons d ds =>
    cases length : pattern none (d :: ds) with
    | zero => rw [tokens_kept length, tokens_kept ((fresh _).trans length)]
    | succ n => rw [tokens_match length, tokens_match ((fresh _).trans length)]

/-- A substitution goes on afresh behind the character. -/
theorem trySub_separator {ε : Type} {replace : List α → Except ε (List α)} (separator : Separator pattern c)
    (fresh : ∀ rest, pattern (some c) rest = pattern none rest) {x y x' y' : List α}
    (left : trySub pattern replace x = .ok x') (right : trySub pattern replace y = .ok y') :
    trySub pattern replace (x ++ c :: y) = .ok (x' ++ c :: y') := by
  obtain ⟨each, rfl⟩ := trySub_eq_ok_iff.1 left
  obtain ⟨each', rfl⟩ := trySub_eq_ok_iff.1 right
  have whole := tokens_separator separator none (Nat.zero_le x.length) y
  rw [tokens_fresh fresh] at whole
  rw [trySub_eq_ok_iff, sub, sub, sub, whole, List.flatMap_append, List.flatMap_cons]
  refine ⟨fun m member => ?_, rfl⟩
  rcases List.mem_append.1 member with here | there
  · exact each m here
  · exact each' m (List.mem_of_ne_of_mem Sum.inr_ne_inl there)

end Separated

/-- The parts of two lists of tokens: the last of the one and the first of the other are one part. -/
theorem parts_append {xs ys : List (α ⊕ List α)} {front others : List (List α)} {last first : List α}
    (left : parts xs = front ++ [last]) (right : parts ys = first :: others) :
    parts (xs ++ ys) = front ++ (last ++ first) :: others := by
  induction xs generalizing front last with
  | nil =>
    obtain ⟨rfl, same⟩ := List.append_eq_singleton_iff.1 left.symm |>.resolve_right (fun other => nomatch other.2)
    cases same
    exact right
  | cons token xs ih =>
    obtain ⟨part, rest, split⟩ := List.exists_cons_of_ne_nil (parts_ne_nil xs)
    cases token with
    | inr m =>
      change [] :: parts xs = front ++ [last] at left
      cases front with
      | nil => exact absurd (List.cons.inj left).2 (parts_ne_nil xs)
      | cons empty front =>
        obtain ⟨rfl, later⟩ := List.cons.inj left
        exact congrArg ([] :: ·) (ih later)
    | inl c =>
      rw [parts_kept split] at left
      cases front with
      | nil =>
        obtain ⟨rfl, rest_eq⟩ := List.cons.inj left
        rw [rest_eq] at split
        exact parts_kept (ih (show parts xs = [] ++ [part] from split))
      | cons other front =>
        obtain ⟨rfl, later⟩ := List.cons.inj left
        rw [later] at split
        exact parts_kept (ih (show parts xs = (part :: front) ++ [last] from split))

/-! ## Texts without a match -/

variable {pattern : Pattern α} {text : List α}

/-- The pattern matches at no position of the text. -/
def Unmatched (pattern : Pattern α) (text : List α) : Prop := ∀ before rest, rest <:+ text → pattern before rest = 0

/-- A pattern that matches only where a certain kind of element comes first. -/
theorem unmatched_of_first (first : α → Prop) (empty : ∀ before, pattern before [] = 0)
    (only : ∀ before c cs, ¬first c → pattern before (c :: cs) = 0) (without : ∀ c ∈ text, ¬first c) :
    Unmatched pattern text := by
  intro before rest suffix
  cases rest with
  | nil => exact empty before
  | cons c cs =>
    apply only
    apply without
    exact suffix.subset List.mem_cons_self

theorem tokens_of_unmatched (unmatched : Unmatched pattern text) (before : Option α) :
    tokens pattern before 0 text = text.map .inl := by
  induction text generalizing before with
  | nil => rfl
  | cons c cs ih =>
    have later : Unmatched pattern cs := fun before rest suffix =>
      unmatched before rest (suffix.trans (List.suffix_cons c cs))
    rw [tokens, unmatched before (c :: cs) (List.suffix_refl _), List.map_cons]
    exact congrArg _ (ih later _)

/-- The pattern matches at no position of the text, with the character that comes before it there. -/
def Absent (pattern : Pattern α) (text : List α) : Prop :=
  ∀ front rest, text = front ++ rest → pattern front.getLast? rest = 0

/-- If there is no match, a pattern that matches at fewer positions keeps the text. -/
theorem kept_of_no_match {other : Pattern α} (fewer : ∀ before rest, pattern before rest = 0 → other before rest = 0)
    {before : Option α} (unmatched : ∀ m, .inr m ∉ tokens pattern before 0 text) :
    tokens other before 0 text = text.map .inl := by
  induction text generalizing before with
  | nil => rfl
  | cons c cs ih =>
    cases length : pattern before (c :: cs) with
    | succ n =>
      rw [tokens_match length] at unmatched
      exact absurd List.mem_cons_self (unmatched _)
    | zero =>
      rw [tokens_kept length] at unmatched
      have later := ih fun m member => unmatched m (List.mem_cons_of_mem _ member)
      rw [tokens_kept (fewer _ _ length), later, List.map_cons]

theorem absent_of_no_match (empty : ∀ before, pattern before [] = 0)
    (unmatched : ∀ m, .inr m ∉ tokens pattern none 0 text) : Absent pattern text := by
  have steps : ∀ (text : List α) (before : Option α), (∀ m, .inr m ∉ tokens pattern before 0 text) →
      ∀ front rest, text = front ++ rest → pattern (front.getLast?.or before) rest = 0 := by
    intro text
    induction text with
    | nil =>
      intro before _ front rest same
      rw [(List.nil_eq_append_iff.1 same).2]
      exact empty _
    | cons c cs ih =>
      intro before unmatched front rest same
      have here : pattern before (c :: cs) = 0 := by
        cases length : pattern before (c :: cs) with
        | zero => rfl
        | succ n =>
          rw [tokens_match length] at unmatched
          exact absurd List.mem_cons_self (unmatched _)
      rw [tokens_kept here] at unmatched
      cases front with
      | nil =>
        rw [← List.nil_append rest, ← same]
        exact here
      | cons d front =>
        obtain ⟨rfl, later⟩ := List.cons.inj same
        rw [last_cons]
        exact ih (some c) (fun m member => unmatched m (List.mem_cons_of_mem _ member)) front rest later
  intro front rest same
  have found := steps text none unmatched front rest same
  rw [Option.or_none] at found
  exact found

theorem sub_of_kept (kept : tokens pattern none 0 text = text.map .inl) (replace : List α → List α) :
    sub pattern replace text = text := by
  rw [sub, kept, List.flatMap_map]
  exact List.flatMap_singleton' text

theorem trySub_of_kept {ε : Type} (kept : tokens pattern none 0 text = text.map .inl)
    (replace : List α → Except ε (List α)) : trySub pattern replace text = .ok text := by
  rw [trySub_eq_ok_iff, sub_of_kept kept, kept]
  refine ⟨fun m member => ?_, rfl⟩
  obtain ⟨c, -, other⟩ := List.mem_map.1 member
  cases other

theorem split_of_unmatched (unmatched : Unmatched pattern text) : split pattern text = [text] := by
  have whole : ∀ cs : List α, parts (cs.map .inl) = [cs] := by
    intro cs
    induction cs with
    | nil => rfl
    | cons c cs ih => exact parts_kept ih
  rw [split, tokens_of_unmatched unmatched, whole]

theorem sub_of_unmatched (unmatched : Unmatched pattern text) (replace : List α → List α) :
    sub pattern replace text = text := sub_of_kept (tokens_of_unmatched unmatched none) replace

theorem trySub_of_unmatched {ε : Type} (unmatched : Unmatched pattern text)
    (replace : List α → Except ε (List α)) : trySub pattern replace text = .ok text :=
  trySub_of_kept (tokens_of_unmatched unmatched none) replace

end Regex
