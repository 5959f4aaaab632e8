import LlmTts.Lib.JsonText

/-!
# Reading JSON back

`loads` inverts `dumps`: each token is read whatever follows it, and a block of such
tokens is read whatever follows it. `loads_dumps` is the round trip of a document whose
floats are doubles.
-/

namespace Python
namespace Json

/-- Induction with a hypothesis for each item of an array and of an object. -/
@[elab_as_elim] theorem induct {motive : Json → Prop} (null : motive .null) (bool : ∀ b, motive (.bool b))
    (int : ∀ n, motive (.int n)) (float : ∀ x, motive (.float x)) (str : ∀ s, motive (.str s))
    (arr : ∀ items, (∀ item ∈ items, motive item) → motive (.arr items))
    (obj : ∀ pairs : List (String × Json), (∀ pair ∈ pairs, motive pair.2) → motive (.obj pairs)) (v : Json) :
    motive v := by
  refine @Json.rec motive (fun items => ∀ item ∈ items, motive item) (fun pairs => ∀ pair ∈ pairs, motive pair.2)
    (fun pair => motive pair.2) null bool int float str arr obj ?_ ?_ ?_ ?_ ?_ v
  · exact fun item member => absurd member List.not_mem_nil
  · exact fun first others here rest => List.forall_mem_cons.2 ⟨here, rest⟩
  · exact fun pair member => absurd member List.not_mem_nil
  · exact fun first others here rest => List.forall_mem_cons.2 ⟨here, rest⟩
  · exact fun _ _ here => here

/-! ## Parts -/

section Parts

variable {α : Type}

/-- The element is read from the text, whatever ends it. -/
def Reads (element : List Char → Option (α × List Char)) (text : List Char) (x : α) : Prop :=
  ∀ rest, Numeral.Stops rest → element (text ++ rest) = some (x, rest)

/-- The first character of a text is neither white nor a closing bracket. -/
def Begins (text : List Char) : Prop := ∃ c rest, text = c :: rest ∧ white c = false ∧ c ≠ ']' ∧ c ≠ '}'

theorem Begins.ne_nil {text : List Char} (begins : Begins text) : text ≠ [] := by
  obtain ⟨c, rest, rfl, -⟩ := begins
  exact List.cons_ne_nil c rest

theorem Begins.append {text : List Char} (begins : Begins text) (rest : List Char) : Begins (text ++ rest) := by
  obtain ⟨c, others, rfl, first⟩ := begins
  exact ⟨c, others ++ rest, rfl, first⟩

theorem skip_cons {c : Char} {rest : List Char} (plain : white c = false) : skip (c :: rest) = c :: rest := by
  unfold skip
  rw [List.dropWhile_cons_of_neg (by rw [plain]; exact Bool.false_ne_true)]

theorem Begins.skip {text : List Char} (begins : Begins text) : skip text = text := by
  obtain ⟨c, rest, rfl, plain, -⟩ := begins
  exact skip_cons plain

/-- Characters between tokens. -/
def Blank (gap : List Char) : Prop := ∀ c ∈ gap, white c = true

theorem Blank.skip {gap : List Char} (blank : Blank gap) (rest : List Char) : skip (gap ++ rest) = skip rest :=
  List.dropWhile_append_of_pos blank

theorem blank_newline (level : Nat) : Blank (newline level) := by
  intro c member
  rcases List.mem_cons.1 member with rfl | member
  · rfl
  · rw [List.eq_of_mem_replicate member]
    rfl

/-- A closing bracket ends a token, also with blanks before it. -/
theorem Blank.stops {gap : List Char} (blank : Blank gap) {last : Char} (closing : last = ']' ∨ last = '}')
    (rest : List Char) : Numeral.Stops (gap ++ last :: rest) := by
  intro c first
  cases gap with
  | nil =>
    cases first
    rcases closing with rfl | rfl <;> decide
  | cons d gap =>
    have here := blank d List.mem_cons_self
    cases first
    simp only [white, Bool.or_eq_true, decide_eq_true_eq] at here
    rcases here with ((rfl | rfl) | rfl) | rfl <;> decide

theorem stops_comma (rest : List Char) : Numeral.Stops (',' :: rest) := by
  intro c first
  cases first
  decide

theorem begins_intercalate (gap : List Char) {text : List Char} (begins : Begins text) (texts : List (List Char)) :
    Begins (gap.intercalate (text :: texts)) := by
  cases texts with
  | nil => exact List.intercalate_singleton ▸ begins
  | cons next texts =>
    rw [List.intercalate_cons_cons, List.append_assoc]
    exact begins.append _

theorem length_intercalate_cons (gap text : List Char) (texts : List (List Char)) :
    text.length + (gap.intercalate texts).length ≤ (gap.intercalate (text :: texts)).length := by
  cases texts with
  | nil => simp
  | cons next texts =>
    rw [List.intercalate_cons_cons, List.length_append, List.length_append]
    omega

theorem length_le_intercalate (gap : List Char) {text : List Char} {texts : List (List Char)} (member : text ∈ texts) :
    text.length ≤ (gap.intercalate texts).length := by
  induction texts with
  | nil => cases member
  | cons first texts ih =>
    have whole := length_intercalate_cons gap first texts
    rcases List.mem_cons.1 member with rfl | member
    · omega
    · have := ih member
      omega

variable {element : List Char → Option (α × List Char)} {last : Char} {xs : List α} {parts : List (List Char)}

theorem length_parts (all : List.Forall₂ (fun x part => Reads element part x ∧ Begins part) xs parts)
    (gap : List Char) : parts.length ≤ (gap.intercalate parts).length := by
  induction all with
  | nil => exact Nat.zero_le _
  | @cons x part xs parts here others ih =>
    have whole := length_intercalate_cons gap part parts
    have positive := List.length_pos_iff.2 here.2.ne_nil
    rw [List.length_cons]
    omega

/-- Elements with commas and blanks between them are read. -/
theorem elements_intercalate (closing : last = ']' ∨ last = '}') {gap close : List Char} (blank : Blank gap)
    (blank' : Blank close) (all : List.Forall₂ (fun x part => Reads element part x ∧ Begins part) xs parts)
    (nonempty : parts ≠ []) {count : Nat} (enough : parts.length ≤ count) (rest : List Char) :
    elements element last count ((',' :: gap).intercalate parts ++ (close ++ last :: rest)) = some (xs, rest) := by
  have plain : white last = false ∧ last ≠ ',' := by rcases closing with rfl | rfl <;> decide
  induction all generalizing count with
  | nil => exact absurd rfl nonempty
  | @cons x part xs parts here others ih =>
    obtain ⟨reads, -⟩ := here
    cases count with
    | zero => exact absurd enough (Nat.not_succ_le_zero _)
    | succ count =>
      cases others with
      | nil =>
        rw [List.intercalate_singleton]
        simp only [elements, reads _ (blank'.stops closing _), Option.bind_eq_bind, Option.bind_some,
          blank'.skip, skip_cons plain.1]
        split
        · rename_i same
          exact absurd (List.cons.inj same).1 plain.2
        · rename_i same
          cases same
          rw [if_pos rfl]
          rfl
        · rename_i same
          cases same
      | @cons y next xs parts after others =>
        have tail := ih (List.cons_ne_nil _ _) (Nat.le_of_succ_le_succ enough)
        have begins := (begins_intercalate (',' :: gap) after.2 parts).append (close ++ last :: rest)
        have comma : skip (',' :: (gap ++ ((',' :: gap).intercalate (next :: parts) ++ (close ++ last :: rest)))) =
            ',' :: (gap ++ ((',' :: gap).intercalate (next :: parts) ++ (close ++ last :: rest))) := skip_cons rfl
        rw [List.intercalate_cons_cons, List.append_assoc, List.append_assoc, List.cons_append]
        simp only [elements, reads _ (stops_comma _), Option.bind_eq_bind, Option.bind_some, comma, blank.skip,
          begins.skip, tail]
        rfl

/-- The elements after an opening bracket and blanks are read. -/
theorem body_intercalate (closing : last = ']' ∨ last = '}') {front gap close : List Char} (blank : Blank front)
    (blank' : Blank gap) (blank'' : Blank close)
    (all : List.Forall₂ (fun x part => Reads element part x ∧ Begins part) xs parts) (nonempty : parts ≠ [])
    (rest : List Char) :
    body element last (front ++ ((',' :: gap).intercalate parts ++ (close ++ last :: rest))) = some (xs, rest) := by
  have enough : parts.length ≤ (front ++ ((',' :: gap).intercalate parts ++ (close ++ last :: rest))).length := by
    have short := length_parts all (',' :: gap)
    rw [List.length_append, List.length_append]
    omega
  have read := elements_intercalate closing blank' blank'' all nonempty enough rest
  have begins : Begins ((',' :: gap).intercalate parts ++ (close ++ last :: rest)) := by
    cases all with
    | nil => exact absurd rfl nonempty
    | cons here others => exact (begins_intercalate (',' :: gap) here.2 _).append _
  unfold body
  rw [blank.skip, begins.skip]
  obtain ⟨c, others, same, -, bracket, brace⟩ := begins
  rw [same] at read ⊢
  dsimp only
  rw [if_neg (by rcases closing with rfl | rfl <;> assumption)]
  exact read

theorem body_closed (closing : last = ']' ∨ last = '}') (rest : List Char) :
    body element last (last :: rest) = some ([], rest) := by
  rw [body, skip_cons (by rcases closing with rfl | rfl <;> rfl)]
  exact if_pos rfl

/-- What follows the bracket of a block is read. -/
theorem body_block (closing : last = ']' ∨ last = '}') (first : Char) (level : Nat)
    (all : List.Forall₂ (fun x part => Reads element part x ∧ Begins part) xs parts) :
    ∃ inner, block first last level parts = first :: inner ∧
      ∀ rest, body element last (inner ++ rest) = some (xs, rest) := by
  by_cases empty : parts = []
  · subst empty
    cases all
    exact ⟨[last], rfl, fun rest => body_closed closing rest⟩
  · refine ⟨_, if_neg empty, fun rest => ?_⟩
    rw [List.append_assoc, List.append_assoc, List.append_assoc, List.singleton_append]
    exact body_intercalate closing (blank_newline _) (blank_newline _) (blank_newline _) all empty rest

end Parts

/-! ## Tokens -/

/-- A member is read if its value is. -/
theorem reads_member {element : List Char → Option (Json × List Char)} {text : List Char} {item : Json}
    (reads : Reads element text item) (begins : Begins text) (key : String) :
    Reads (member element) (quoted key ++ ':' :: ' ' :: text) (key, item) := by
  intro rest stops
  have colon : skip (':' :: ' ' :: (text ++ rest)) = ':' :: ' ' :: (text ++ rest) := skip_cons rfl
  have blank : skip (' ' :: (text ++ rest)) = text ++ rest := by
    have first : skip (' ' :: (text ++ rest)) = skip (text ++ rest) := List.dropWhile_cons_of_pos rfl
    rw [first, (begins.append rest).skip]
  simp only [quoted, List.cons_append, List.append_assoc, List.nil_append, member, string_quoted,
    Option.bind_eq_bind, Option.bind_some, colon, blank, reads rest stops]
  rfl

theorem begins_quoted (s : String) : Begins (quoted s) := ⟨'"', _, rfl, by decide, by decide, by decide⟩

/-- The text of a number starts with a digit, after its sign. -/
def Numeric (text : List Char) : Prop :=
  ∃ c rest, (text = c :: rest ∨ text = '-' :: c :: rest) ∧ c.isDigit = true

theorem digit_ne {c d : Char} (digit : c.isDigit = true) (other : d.toNat < 48 ∨ 57 < d.toNat) : c ≠ d := by
  rintro rfl
  have := PyFloat.digit_bounds digit
  omega

theorem Numeric.begins {text : List Char} (numeric : Numeric text) : Begins text := by
  obtain ⟨c, rest, rfl | rfl, digit⟩ := numeric
  · refine ⟨c, rest, rfl, ?_, digit_ne digit (by decide), digit_ne digit (by decide)⟩
    simp only [white, Bool.or_eq_false_iff, decide_eq_false_iff_not]
    exact ⟨⟨⟨digit_ne digit (by decide), digit_ne digit (by decide)⟩, digit_ne digit (by decide)⟩,
      digit_ne digit (by decide)⟩
  · exact ⟨'-', c :: rest, rfl, by decide, by decide, by decide⟩

theorem Numeric.append {text : List Char} (numeric : Numeric text) (rest : List Char) : Numeric (text ++ rest) := by
  obtain ⟨c, others, rfl | rfl, digit⟩ := numeric
  · exact ⟨c, others ++ rest, Or.inl rfl, digit⟩
  · exact ⟨c, others ++ rest, Or.inr rfl, digit⟩

/-- A number is no word. -/
theorem Numeric.constant {text : List Char} (numeric : Numeric text) : constant text = none := by
  obtain ⟨c, rest, shape, digit⟩ := numeric
  have other : ∀ d : Char, d.toNat < 48 ∨ 57 < d.toNat → c ≠ d := fun d apart => digit_ne digit apart
  unfold Json.constant constants
  rcases shape with rfl | rfl <;>
    simp [List.dropPrefix?, other 'n' (by decide), other 't' (by decide), other 'f' (by decide),
      other 'N' (by decide), other 'I' (by decide), other '-' (by decide)]

/-- Only a string, an array and an object start with their bracket. -/
theorem Numeric.first {text : List Char} (numeric : Numeric text) {d : Char} {others : List Char}
    (same : text = d :: others) : d ≠ '"' ∧ d ≠ '{' ∧ d ≠ '[' := by
  obtain ⟨c, rest, rfl | rfl, digit⟩ := numeric <;> cases same
  · exact ⟨digit_ne digit (by decide), digit_ne digit (by decide), digit_ne digit (by decide)⟩
  · decide

theorem Numeric.value {text : List Char} (numeric : Numeric text) (depth : Nat) :
    Json.value (depth + 1) text = number text := by
  have unworded := numeric.constant
  unfold Json.value
  split
  · exact absurd rfl (numeric.first rfl).1
  · exact absurd rfl (numeric.first rfl).2.1
  · exact absurd rfl (numeric.first rfl).2.2
  · rw [unworded, Option.none_or]

theorem minus_digit {c : Char} (digit : c.isDigit = true) (rest : List Char) :
    minus (c :: rest) = (false, c :: rest) := by
  unfold minus
  split
  · rename_i same
    cases same
    exact absurd digit (by decide)
  · rfl

theorem numeric_intStr (n : Int) : Numeric (intStr n).toList := by
  obtain ⟨c, rest, same⟩ := List.exists_cons_of_ne_nil (Nat.toDigits_ne_nil (n := n.natAbs) (b := 10))
  have digit : c.isDigit = true := Numeral.digits_toDigits n.natAbs c (same ▸ List.mem_cons_self)
  rw [intStr, String.toList_ofList, same]
  split
  · exact ⟨c, rest, Or.inr rfl, digit⟩
  · exact ⟨c, rest, Or.inl rfl, digit⟩

/-- An integer is read back. -/
theorem reads_int {n : Int} (short : ¬ maxStrDigits < (Nat.toDigits 10 n.natAbs).length) :
    Reads number (intStr n).toList (.int n) := by
  intro rest stops
  have scanned := Numeral.scan_toDigits n.natAbs stops
  have mantissa : Numeral.mantissa ⟨Nat.toDigits 10 n.natAbs, [], none⟩ = n.natAbs := by
    rw [Numeral.mantissa, List.append_nil]
    exact Nat.ofDigitChars_ten_toDigits
  have sign : minus ((intStr n).toList ++ rest) = (decide (n < 0), Nat.toDigits 10 n.natAbs ++ rest) := by
    rw [intStr, String.toList_ofList]
    split
    · rename_i negative
      rw [decide_eq_true negative]
      rfl
    · rename_i nonneg
      obtain ⟨c, others, same⟩ := List.exists_cons_of_ne_nil (Nat.toDigits_ne_nil (n := n.natAbs) (b := 10))
      have digit : c.isDigit = true := Numeral.digits_toDigits n.natAbs c (same ▸ List.mem_cons_self)
      rw [same, decide_eq_false nonneg]
      exact minus_digit digit _
  simp only [number, sign, scanned, Option.bind_eq_bind, Option.bind_some, mantissa]
  rw [if_pos ⟨trivial, trivial⟩, if_neg short]
  have signed : (if decide (n < 0) = true then -(n.natAbs : Int) else n.natAbs) = n := by
    simp only [decide_eq_true_eq]
    split <;> omega
  rw [signed]
  rfl

theorem number_float {cs body rest : List Char} {negative : Bool} {numeral : Numeral}
    (sign : minus cs = (negative, body)) (read : Numeral.scan body = some (numeral, rest)) (float : numeral.IsFloat) :
    number cs = some (.float (.ofMagnitude negative numeral.value), rest) := by
  have other : ¬ (numeral.fraction = [] ∧ numeral.exponent = none) := by
    rintro ⟨empty, plain⟩
    rcases float with digits | exponent
    · exact digits empty
    · exact exponent plain
  simp only [number, sign, read, Option.bind_eq_bind, Option.bind_some, if_neg other]
  rfl

theorem positiveText_digit {q : ℚ} (double : PyFloat.Double q) :
    ∃ c others, PyFloat.positiveText q = c :: others ∧ c.isDigit = true := by
  obtain ⟨numeral, read, -⟩ := Numeral.scan_positiveText double Numeral.stops_nil
  rw [List.append_nil] at read
  exact Numeral.scan_digit read

/-- A positive double is read back, with its sign. -/
theorem reads_positive {q : ℚ} (double : PyFloat.Double q) :
    Reads number (PyFloat.positiveText q) (.float (.finite q)) ∧
      Reads number ('-' :: PyFloat.positiveText q) (.float (.finite (-q))) := by
  obtain ⟨c, others, same, digit⟩ := positiveText_digit double
  constructor
  · intro rest stops
    obtain ⟨numeral, read, float, back⟩ := Numeral.scan_positiveText double stops
    have sign : minus (PyFloat.positiveText q ++ rest) = (false, PyFloat.positiveText q ++ rest) := by
      rw [same]
      exact minus_digit digit _
    rw [number_float sign read float, PyFloat.ofMagnitude_double double back]
    rfl
  · intro rest stops
    obtain ⟨numeral, read, float, back⟩ := Numeral.scan_positiveText double stops
    have sign : minus ('-' :: PyFloat.positiveText q ++ rest) = (true, PyFloat.positiveText q ++ rest) := rfl
    rw [number_float sign read float, PyFloat.ofMagnitude_double double back]
    rfl

theorem reads_zero : Reads number "0.0".toList (.float (.finite 0)) := by
  intro rest stops
  have zero : Numeral.Digits ['0'] := Numeral.digits_zeros 1
  have read := Numeral.scan_point (Or.inl rfl : Numeral.Whole ['0']) zero (List.cons_ne_nil '0' []) stops
  have sign : minus ("0.0".toList ++ rest) = (false, ['0'] ++ '.' :: (['0'] ++ rest)) := rfl
  rw [number_float sign read (Or.inl (List.cons_ne_nil '0' []))]
  have value : Numeral.value ⟨['0'], ['0'], none⟩ = 0 := by decide +kernel
  have unsigned : PyFloat.ofMagnitude false 0 = .finite 0 := by decide +kernel
  rw [value, unsigned]

theorem reads_negZero : Reads number "-0.0".toList (.float .negZero) := by
  intro rest stops
  have zero : Numeral.Digits ['0'] := Numeral.digits_zeros 1
  have read := Numeral.scan_point (Or.inl rfl : Numeral.Whole ['0']) zero (List.cons_ne_nil '0' []) stops
  have sign : minus ("-0.0".toList ++ rest) = (true, ['0'] ++ '.' :: (['0'] ++ rest)) := rfl
  rw [number_float sign read (Or.inl (List.cons_ne_nil '0' []))]
  have value : Numeral.value ⟨['0'], ['0'], none⟩ = 0 := by decide +kernel
  have signed : PyFloat.ofMagnitude true 0 = .negZero := by decide +kernel
  rw [value, signed]

/-- A finite double is read back. -/
theorem reads_finite {q : ℚ} (double : (PyFloat.finite q).IsDouble) :
    Numeric (PyFloat.finite q).str.toList ∧ Reads number (PyFloat.finite q).str.toList (.float (.finite q)) := by
  unfold PyFloat.str
  dsimp only
  split
  · rename_i zero
    subst zero
    exact ⟨⟨'0', ['.', '0'], Or.inl rfl, rfl⟩, reads_zero⟩
  · rename_i other
    have magnitude := Or.resolve_left double other
    split
    · rename_i negative
      rw [abs_of_neg negative] at magnitude
      obtain ⟨c, others, same, digit⟩ := positiveText_digit magnitude
      have reads := (reads_positive magnitude).2
      rw [neg_neg] at reads
      rw [String.toList_ofList]
      exact ⟨⟨c, others, Or.inr (congrArg ('-' :: ·) same), digit⟩, reads⟩
    · rename_i positive
      rw [abs_of_nonneg (not_lt.1 positive)] at magnitude
      obtain ⟨c, others, same, digit⟩ := positiveText_digit magnitude
      rw [String.toList_ofList]
      exact ⟨⟨c, others, Or.inl same, digit⟩, (reads_positive magnitude).1⟩

/-- Every float that is a number is read back, with its sign. -/
theorem reads_double {x : PyFloat} {q : ℚ} (double : x.IsDouble) (finite : x.value? = some q) :
    Numeric (floatText x) ∧ Reads number (floatText x) (.float x) := by
  cases x with
  | finite q => exact reads_finite double
  | negZero => exact ⟨⟨'0', ['.', '0'], Or.inr rfl, rfl⟩, reads_negZero⟩
  | inf negative | nan => cases finite

/-- Only a text of no characters needs no depth. -/
theorem reads_deep {α : Type} {reader : Nat → List Char → Option (α × List Char)} {text : List Char} {v : α}
    (begins : Begins text) {depth : Nat} (deep : text.length ≤ depth)
    (reads : ∀ depth, text.length ≤ depth + 1 → Reads (reader (depth + 1)) text v) : Reads (reader depth) text v := by
  cases depth with
  | zero => exact absurd (List.eq_nil_of_length_eq_zero (Nat.le_zero.1 deep)) begins.ne_nil
  | succ depth => exact reads depth deep

/-- A word is read back. -/
theorem reads_word {word : String} {v : Json} (listed : (word, v) ∈ constants) (depth : Nat) :
    Begins word.toList ∧ (word.toList.length ≤ depth → Reads (value depth) word.toList v) := by
  unfold constants at listed
  simp only [List.mem_cons, Prod.mk.injEq, List.not_mem_nil, or_false] at listed
  have begins : Begins word.toList := by
    rcases listed with ⟨rfl, -⟩ | ⟨rfl, -⟩ | ⟨rfl, -⟩ | ⟨rfl, -⟩ | ⟨rfl, -⟩ | ⟨rfl, -⟩ <;>
      exact ⟨_, _, rfl, by decide, by decide, by decide⟩
  refine ⟨begins, fun deep => reads_deep begins deep fun depth _ => ?_⟩
  intro rest _
  rcases listed with ⟨rfl, rfl⟩ | ⟨rfl, rfl⟩ | ⟨rfl, rfl⟩ | ⟨rfl, rfl⟩ | ⟨rfl, rfl⟩ | ⟨rfl, rfl⟩ <;>
    simp [value, constant, constants, List.dropPrefix?]

/-! ## Documents -/

/-- All floats of a value are doubles. -/
inductive Doubles : Json → Prop
  | null : Doubles .null
  | bool (b : Bool) : Doubles (.bool b)
  | int (n : Int) : Doubles (.int n)
  | float {x : PyFloat} (double : x.IsDouble) : Doubles (.float x)
  | str (s : String) : Doubles (.str s)
  | arr {items : List Json} (all : ∀ item ∈ items, Doubles item) : Doubles (.arr items)
  | obj {pairs : List (String × Json)} (all : ∀ pair ∈ pairs, Doubles pair.2) : Doubles (.obj pairs)

theorem length_lt_block {part : List Char} {parts : List (List Char)} (member : part ∈ parts) (first last : Char)
    (level : Nat) : part.length < (block first last level parts).length := by
  have inside := length_le_intercalate (',' :: newline (level + 1)) member
  unfold block
  rw [if_neg (List.ne_nil_of_mem member)]
  simp only [List.length_cons, List.length_append]
  omega

section Encoded

variable {level depth : Nat} {parts : List (List Char)}

theorem reads_items {items : List Json}
    (each : ∀ item ∈ items, ∀ {part}, encode level item = some part →
      Begins part ∧ (part.length ≤ depth → Reads (value depth) part item))
    (texts : encodeItems level items = some parts) (short : ∀ part ∈ parts, part.length ≤ depth) :
    List.Forall₂ (fun item part => Reads (value depth) part item ∧ Begins part) items parts := by
  induction items generalizing parts with
  | nil =>
    cases texts
    exact List.Forall₂.nil
  | cons item items ih =>
    rw [encodeItems] at texts
    obtain ⟨part, here, texts⟩ := Option.bind_eq_some_iff.1 texts
    obtain ⟨others, rest, same⟩ := Option.bind_eq_some_iff.1 texts
    cases same
    obtain ⟨fits, shorter⟩ := List.forall_mem_cons.1 short
    obtain ⟨begins, reads⟩ := each item List.mem_cons_self here
    exact List.Forall₂.cons ⟨reads fits, begins⟩
      (ih (fun item member => each item (List.mem_cons_of_mem _ member)) rest shorter)

theorem reads_pairs {pairs : List (String × Json)}
    (each : ∀ pair ∈ pairs, ∀ {part}, encode level pair.2 = some part →
      Begins part ∧ (part.length ≤ depth → Reads (value depth) part pair.2))
    (texts : encodePairs level pairs = some parts) (short : ∀ part ∈ parts, part.length ≤ depth) :
    List.Forall₂ (fun pair part => Reads (member (value depth)) part pair ∧ Begins part) pairs parts := by
  induction pairs generalizing parts with
  | nil =>
    cases texts
    exact List.Forall₂.nil
  | cons pair pairs ih =>
    obtain ⟨key, item⟩ := pair
    rw [encodePairs] at texts
    obtain ⟨part, here, texts⟩ := Option.bind_eq_some_iff.1 texts
    obtain ⟨others, rest, same⟩ := Option.bind_eq_some_iff.1 texts
    cases same
    obtain ⟨fits, shorter⟩ := List.forall_mem_cons.1 short
    have fits : part.length ≤ depth := by
      rw [List.length_append, List.length_cons, List.length_cons] at fits
      omega
    obtain ⟨begins, reads⟩ := each (key, item) List.mem_cons_self here
    exact List.Forall₂.cons ⟨reads_member (reads fits) begins key, (begins_quoted key).append _⟩
      (ih (fun pair member => each pair (List.mem_cons_of_mem _ member)) rest shorter)

end Encoded

theorem begins_block (first last : Char) (level : Nat) (parts : List (List Char))
    (plain : white first = false ∧ first ≠ ']' ∧ first ≠ '}') : Begins (block first last level parts) := by
  unfold block
  split
  · exact ⟨first, [last], rfl, plain⟩
  · exact ⟨first, _, rfl, plain⟩

theorem reads_numeric {text : List Char} {v : Json} (numeric : Numeric text) (reads : Reads number text v)
    (depth : Nat) : Reads (value (depth + 1)) text v := by
  intro rest stops
  rw [(numeric.append rest).value]
  exact reads rest stops

/-- A value is read back from its text, whatever follows it. -/
theorem reads_encode (v : Json) (doubles : v.Doubles) {level : Nat} {text : List Char}
    (encoded : encode level v = some text) {depth : Nat} :
    Begins text ∧ (text.length ≤ depth → Reads (value depth) text v) := by
  induction v using Json.induct generalizing level text depth with
  | null =>
    cases encoded
    exact reads_word (by simp [constants]) depth
  | bool b =>
    cases b <;> cases encoded <;> exact reads_word (by simp [constants]) depth
  | int n =>
    rw [encode] at encoded
    split at encoded
    · cases encoded
    · rename_i short
      cases encoded
      have numeric := numeric_intStr n
      exact ⟨numeric.begins, fun deep => reads_deep numeric.begins deep fun depth _ =>
        reads_numeric numeric (reads_int short) depth⟩
  | float x =>
    cases doubles with
    | float double =>
      cases encoded
      cases x with
      | finite q =>
        obtain ⟨numeric, reads⟩ := reads_double double (rfl : (PyFloat.finite q).value? = some q)
        exact ⟨numeric.begins, fun deep => reads_deep numeric.begins deep fun depth _ =>
          reads_numeric numeric reads depth⟩
      | negZero =>
        obtain ⟨numeric, reads⟩ := reads_double double (rfl : PyFloat.negZero.value? = some 0)
        exact ⟨numeric.begins, fun deep => reads_deep numeric.begins deep fun depth _ =>
          reads_numeric numeric reads depth⟩
      | inf negative => cases negative <;> exact reads_word (by simp [constants]) depth
      | nan => exact reads_word (by simp [constants]) depth
  | str s =>
    cases encoded
    refine ⟨begins_quoted s, fun deep => reads_deep (begins_quoted s) deep fun depth _ => ?_⟩
    intro rest stops
    simp only [quoted, List.cons_append, List.append_assoc, List.nil_append, value, string_quoted, Option.map_some]
  | arr items ih =>
    cases doubles with
    | arr all =>
      obtain ⟨parts, texts, rfl⟩ := Option.map_eq_some_iff.1 encoded
      have begins : Begins (block '[' ']' level parts) := begins_block '[' ']' level parts (by decide)
      refine ⟨begins, fun deep => reads_deep begins deep fun depth deep => ?_⟩
      have short : ∀ part ∈ parts, part.length ≤ depth := by
        intro part member
        have less := length_lt_block member '[' ']' level
        omega
      have items := reads_items (fun item member part here => ih item member (all item member) here) texts short
      obtain ⟨inner, same, reads⟩ := body_block (Or.inl rfl) '[' level items
      intro rest stops
      rw [same]
      simp only [List.cons_append, value, reads, Option.map_some]
  | obj pairs ih =>
    cases doubles with
    | obj all =>
      obtain ⟨parts, texts, rfl⟩ := Option.map_eq_some_iff.1 encoded
      have begins : Begins (block '{' '}' level parts) := begins_block '{' '}' level parts (by decide)
      refine ⟨begins, fun deep => reads_deep begins deep fun depth deep => ?_⟩
      have short : ∀ part ∈ parts, part.length ≤ depth := by
        intro part member
        have less := length_lt_block member '{' '}' level
        omega
      have pairs := reads_pairs (fun pair member part here => ih pair member (all pair member) here) texts short
      obtain ⟨inner, same, reads⟩ := body_block (Or.inr rfl) '{' level pairs
      intro rest stops
      rw [same]
      simp only [List.cons_append, value, reads, Option.map_some]

/-- The text of an object is refused exactly if that of one of its values is. -/
theorem encodePairs_isSome_iff {level : Nat} {pairs : List (String × Json)} :
    (encodePairs level pairs).isSome ↔ ∀ pair ∈ pairs, (encode level pair.2).isSome := by
  induction pairs with
  | nil => exact ⟨fun _ pair member => absurd member List.not_mem_nil, fun _ => rfl⟩
  | cons pair pairs ih =>
    rw [List.forall_mem_cons, ← ih, encodePairs]
    cases encode level pair.2 with
    | none => simp
    | some text => cases encodePairs level pairs <;> simp

theorem encode_obj_isSome_iff {level : Nat} {pairs : List (String × Json)} :
    (encode level (.obj pairs)).isSome ↔ ∀ pair ∈ pairs, (encode (level + 1) pair.2).isSome := by
  rw [encode, Option.isSome_map, encodePairs_isSome_iff]

/-- The text of an object starts with its bracket. -/
theorem encode_obj_cons {level : Nat} {pairs : List (String × Json)} {text : List Char}
    (encoded : encode level (.obj pairs) = some text) : ∃ rest, text = '{' :: rest := by
  obtain ⟨parts, -, rfl⟩ := Option.map_eq_some_iff.1 encoded
  unfold block
  split
  · exact ⟨_, rfl⟩
  · exact ⟨_, rfl⟩

theorem sortedItems_eq (items : List Json) : sortedItems items = items.map sorted := by
  induction items with
  | nil => rfl
  | cons item items ih => rw [sortedItems, ih, List.map_cons]

theorem sortedPairs_eq (pairs : List (String × Json)) :
    sortedPairs pairs = pairs.map fun pair => (pair.1, pair.2.sorted) := by
  induction pairs with
  | nil => rfl
  | cons pair pairs ih => rw [sortedPairs, ih, List.map_cons]

theorem sorted_obj (pairs : List (String × Json)) :
    (Json.obj pairs).sorted =
      .obj ((pairs.map fun pair => (pair.1, pair.2.sorted)).insertionSort fun one other => one.1 ≤ other.1) := by
  rw [Json.sorted, sortedPairs_eq]

/-- The order in which an object lists distinct keys is lost. -/
theorem sorted_obj_perm {one other : List (String × Json)} (distinct : (one.map Prod.fst).Nodup)
    (same : one.Perm other) : (Json.obj one).sorted = (Json.obj other).sorted := by
  rw [sorted_obj, sorted_obj]
  congr 1
  have before := List.perm_insertionSort (fun a b : String × Json => a.1 ≤ b.1)
    (one.map fun pair => (pair.1, pair.2.sorted))
  have after := List.perm_insertionSort (fun a b : String × Json => a.1 ≤ b.1)
    (other.map fun pair => (pair.1, pair.2.sorted))
  have middle := same.map fun pair => (pair.1, pair.2.sorted)
  refine List.Perm.eq_of_pairwise ?_ (List.pairwise_insertionSort _ _) (List.pairwise_insertionSort _ _)
    (before.trans (middle.trans after.symm))
  intro a b memberA memberB le ge
  have keys : ((one.map fun pair => (pair.1, pair.2.sorted)).map Prod.fst).Nodup := by
    rw [List.map_map]
    exact distinct
  exact List.inj_on_of_nodup_map keys (before.mem_iff.1 memberA)
    (middle.mem_iff.2 (after.mem_iff.1 memberB)) (le_antisymm le ge)

theorem Doubles.sorted {v : Json} (doubles : v.Doubles) : v.sorted.Doubles := by
  induction v using Json.induct with
  | null => exact doubles
  | bool b => exact doubles
  | int n => exact doubles
  | float x => exact doubles
  | str s => exact doubles
  | arr items ih =>
    cases doubles with
    | arr all =>
      rw [Json.sorted, sortedItems_eq]
      refine Doubles.arr fun item member => ?_
      obtain ⟨before, here, rfl⟩ := List.mem_map.1 member
      exact ih before here (all before here)
  | obj pairs ih =>
    cases doubles with
    | obj all =>
      rw [sorted_obj]
      refine Doubles.obj fun pair member => ?_
      obtain ⟨before, here, rfl⟩ := List.mem_map.1 ((List.mem_insertionSort _).1 member)
      exact ih before here (all before here)

/-- A document is read back, with the keys of its objects sorted. -/
theorem loads_dumps {v : Json} {text : String} (doubles : v.Doubles) (written : v.dumps = some text) :
    loads text = some v.sorted := by
  obtain ⟨cs, encoded, rfl⟩ := Option.map_eq_some_iff.1 written
  have deep : Begins cs ∧ (cs.length ≤ cs.length → Reads (value cs.length) cs v.sorted) :=
    reads_encode v.sorted doubles.sorted encoded
  obtain ⟨begins, reads⟩ := deep
  have whole := reads le_rfl [] Numeral.stops_nil
  rw [List.append_nil] at whole
  rw [loads, String.toList_ofList, begins.skip, whole]
  rfl

end Json
end Python
