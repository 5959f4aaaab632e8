import LlmTts.Lib.Checked
import LlmTts.Lib.JsonText

/-!
# Files of JSON

`path.read_text(encoding="utf-8")` and `json.loads` of what it gives, with the exceptions
told apart: a text that is no JSON, an integer that `int` refuses, and a nesting that the
stack has no room for. `JsonText.loads` has one `none` for the three.
-/

namespace Python

/-! ## Text -/

/-- `content.decode("utf-8")`, or `none` for a `UnicodeDecodeError`. -/
def decodeUtf8 (content : Bytes) : Option (List Char) := (ByteArray.utf8Decode? ⟨content.toArray⟩).map Array.toList

/-- The line ends of a file that is read as text. -/
def universalNewlines : List Char → List Char
  | [] => []
  | '\r' :: '\n' :: rest => '\n' :: universalNewlines rest
  | '\r' :: rest => '\n' :: universalNewlines rest
  | c :: rest => c :: universalNewlines rest

/-- `path.read_text(encoding="utf-8")`. -/
def readText (content : Bytes) : Option (List Char) := (decodeUtf8 content).map universalNewlines

namespace Json

/-! ## Reading with exceptions -/

/-- What `json.loads` raises. -/
inductive LoadsError where
  /-- `JSONDecodeError`. -/
  | decode
  /-- The `ValueError` of `int(s)` for too many digits. -/
  | digits
  /-- `RecursionError`. -/
  | recursion
  deriving DecidableEq, Repr

/-- A reader takes what it reads off the front of the text. -/
abbrev Reader (α : Type) : Type := List Char → Except LoadsError (α × List Char)

/-- A surrogate without its partner is no `Char`, and is read as U+FFFD. -/
def scalar (n : Nat) : Char := (char? n).getD '\uFFFD'

/-- The characters of code points, where an escaped pair of surrogates is one. -/
def scalars : List Nat → List Char
  | [] => []
  | [n] => [scalar n]
  | n :: m :: rest =>
    if 0xd800 ≤ n ∧ n < 0xdc00 ∧ 0xdc00 ≤ m ∧ m < 0xe000 then
      scalar (0x10000 + (n - 0xd800) * 0x400 + (m - 0xdc00)) :: scalars rest
    else scalar n :: scalars (m :: rest)

/-- The string after its opening quote. -/
def readString : Reader String := fun cs =>
  match codePoints cs with
  | none => .error .decode
  | some (points, rest) => .ok (String.ofList (scalars points), rest)

/-- A number. -/
def readNumber : Reader Json := fun cs =>
  match Numeral.scan (minus cs).2 with
  | none => .error .decode
  | some (numeral, rest) =>
    if numeral.fraction = [] ∧ numeral.exponent = none then
      if maxStrDigits < numeral.whole.length then .error .digits
      else .ok (.int (if (minus cs).1 then -(numeral.mantissa : Int) else numeral.mantissa), rest)
    else .ok (.float (.ofMagnitude (minus cs).1 numeral.value), rest)

/-- A word or a number. -/
def readScalar : Reader Json := fun cs =>
  match constant cs with
  | some read => .ok read
  | none => readNumber cs

section Elements

variable {α : Type} (element : Reader α) (last : Char)

/-- What follows the element `x`: a comma and `more` elements, or the closing bracket. -/
def afterElement (more : Reader (List α)) (x : α) : Reader (List α)
  | ',' :: rest => (more (skip rest)).map fun read => (x :: read.1, read.2)
  | c :: rest => if c = last then .ok ([x], rest) else .error .decode
  | [] => .error .decode

/-- Elements with commas between them, up to a closing bracket. Each takes a character at
least, so that the text ends before `count` does. -/
def readElements : (count : Nat) → Reader (List α)
  | 0, _ => .error .decode
  | count + 1, cs => do
    let (x, rest) ← element cs
    afterElement last (readElements count) x (skip rest)

/-- What follows an opening bracket. -/
def readBody : Reader (List α) := fun cs =>
  match skip cs with
  | [] => .error .decode
  | c :: rest => if c = last then .ok ([], rest) else readElements element last cs.length (c :: rest)

end Elements

/-- A key, a colon and a value. -/
def readMember (element : Reader Json) : Reader (String × Json)
  | '"' :: cs => do
    let (key, rest) ← readString cs
    match skip rest with
    | ':' :: rest =>
      let (item, rest) ← element (skip rest)
      return ((key, item), rest)
    | _ => throw .decode
  | _ => throw .decode

/-- A value; `nested` reads those inside an array or an object, if the stack has room for it. -/
def readTerm (nested : Option (Reader Json)) : Reader Json
  | '"' :: rest => (readString rest).map fun (s, rest) => (.str s, rest)
  | '{' :: rest =>
    match nested with
    | none => .error .recursion
    | some element => (readBody (readMember element) '}' rest).map fun (pairs, rest) => (.obj pairs, rest)
  | '[' :: rest =>
    match nested with
    | none => .error .recursion
    | some element => (readBody element ']' rest).map fun (items, rest) => (.arr items, rest)
  | cs => readScalar cs

/-- A value nested at most `limit` deep. -/
def readValue : (limit : Nat) → Reader Json
  | 0 => readTerm none
  | limit + 1 => readTerm (some (readValue limit))

/-- `json.loads(text)`, on a stack with room for `limit` arrays and objects in one another. -/
def read (limit : Nat) (text : List Char) : Except LoadsError Json := do
  let (v, rest) ← readValue limit (skip text)
  if skip rest = [] then return v else throw .decode

/-- The bytes are UTF-8, and `json.loads` comes to no integer of more than 4300 digits and
to no nesting beyond the limit before the text ends or is no JSON. -/
def LoadsQuietly (limit : Nat) (content : Bytes) : Prop :=
  ∃ text, readText content = some text ∧ ∀ e, read limit text = .error e → e = .decode

/-! ## The bound of a block -/

/-- A reader finds nothing in an empty text, and takes a character at least of others. -/
structure Advances {α : Type} (element : Reader α) : Prop where
  empty : element [] = .error .decode
  shorter : ∀ {cs x rest}, element cs = .ok (x, rest) → rest.length < cs.length

section Advances

variable {α : Type} {element : Reader α} {last : Char} {cs rest : List Char}

theorem length_skip_le (cs : List Char) : (skip cs).length ≤ cs.length := (List.dropWhile_sublist white).length_le

/-- Without a comma a block has to end. -/
theorem afterElement_of_ne {more : Reader (List α)} {x : α} {c : Char} (different : c ≠ ',') :
    afterElement last more x (c :: rest) = if c = last then .ok ([x], rest) else .error .decode := by
  unfold afterElement
  split
  · rename_i same
    cases same
    exact absurd rfl different
  · rename_i same
    cases same
    rfl
  · rename_i same
    cases same

/-- An element that is read is followed by a comma or by the end. -/
theorem readElements_of_ok {x : α} {middle : List Char} (first : element cs = .ok (x, middle)) (count : Nat) :
    readElements element last (count + 1) cs = afterElement last (readElements element last count) x (skip middle) := by
  rw [readElements, first]
  rfl

/-- An element that is not read ends the block with its exception. -/
theorem readElements_of_error {e : LoadsError} (first : element cs = .error e) (count : Nat) :
    readElements element last (count + 1) cs = .error e := by
  rw [readElements, first]
  rfl

/-- The elements of a block are read alike with every bound that the text has room for. -/
theorem readElements_enough (advances : Advances element) {m n : Nat} (left : cs.length ≤ m) (right : cs.length ≤ n) :
    readElements element last m cs = readElements element last n cs := by
  have exhausted : ∀ count, readElements element last count [] = .error .decode := by
    intro count
    cases count with
    | zero => rfl
    | succ count => exact readElements_of_error advances.empty count
  induction m generalizing n cs with
  | zero => rw [List.eq_nil_of_length_eq_zero (Nat.le_zero.1 left), exhausted, exhausted]
  | succ m ih =>
    cases n with
    | zero => rw [List.eq_nil_of_length_eq_zero (Nat.le_zero.1 right), exhausted, exhausted]
    | succ n =>
      cases first : element cs with
      | error e => rw [readElements_of_error first, readElements_of_error first]
      | ok read =>
        obtain ⟨x, middle⟩ := read
        rw [readElements_of_ok first, readElements_of_ok first]
        have shorter := advances.shorter first
        have skipped := length_skip_le middle
        cases same : skip middle with
        | nil => rfl
        | cons c after =>
          by_cases comma : c = ','
          · subst comma
            have later := length_skip_le after
            rw [same, List.length_cons] at skipped
            have alike : readElements element last m (skip after) = readElements element last n (skip after) :=
              ih (by omega) (by omega)
            show (readElements element last m (skip after)).map _ = (readElements element last n (skip after)).map _
            rw [alike]
          · rw [afterElement_of_ne comma, afterElement_of_ne comma]

/-- The elements that were read, and the brackets and commas after them. -/
theorem readElements_shorter (advances : Advances element) {count : Nat} {xs : List α}
    (read : readElements element last count cs = .ok (xs, rest)) : rest.length < cs.length := by
  induction count generalizing cs xs with
  | zero => cases read
  | succ count ih =>
    cases first : element cs with
    | error e =>
      rw [readElements_of_error first] at read
      cases read
    | ok found =>
      obtain ⟨x, middle⟩ := found
      rw [readElements_of_ok first] at read
      have shorter := advances.shorter first
      have skipped := length_skip_le middle
      cases same : skip middle with
      | nil =>
        rw [same] at read
        cases read
      | cons c after =>
        rw [same, List.length_cons] at skipped
        rw [same] at read
        by_cases comma : c = ','
        · subst comma
          obtain ⟨⟨ys, later⟩, others, built⟩ := Checked.map_ok_iff.1 read
          cases built
          have blanks := length_skip_le after
          have fewer := ih others
          omega
        · rw [afterElement_of_ne comma] at read
          split at read
          · cases read
            omega
          · cases read

/-- A block takes its closing bracket at least. -/
theorem readBody_shorter (advances : Advances element) {xs : List α} (read : readBody element last cs = .ok (xs, rest)) :
    rest.length < cs.length := by
  have skipped := length_skip_le cs
  unfold readBody at read
  split at read
  · cases read
  · rename_i c after same
    rw [same] at skipped
    split at read
    · cases read
      exact skipped
    · have shorter := readElements_shorter advances read
      omega

/-- A string takes its closing quote at least. -/
theorem length_of_codePoints {points : List Nat} (read : codePoints cs = some (points, rest)) :
    rest.length < cs.length := by
  fun_induction codePoints cs generalizing points with
  | case1 => cases read
  | case2 after =>
    cases read
    exact Nat.lt_succ_self _
  | case3 a b c d after ih =>
    simp only [Option.bind_eq_bind, Option.bind_eq_some_iff] at read
    obtain ⟨_, -, _, -, _, -, _, -, ⟨points, later⟩, others, built⟩ := read
    cases built
    have shorter : later.length < after.length := ih others
    simp only [List.length_cons]
    omega
  | case4 letter after plain ih =>
    simp only [Option.bind_eq_bind, Option.bind_eq_some_iff] at read
    obtain ⟨_, -, ⟨points, later⟩, others, built⟩ := read
    cases built
    have shorter : later.length < after.length := ih others
    simp only [List.length_cons]
    omega
  | case5 c after =>
    cases read
  | case6 c after =>
    rename_i ih
    obtain ⟨⟨points, later⟩, others, built⟩ := Option.bind_eq_some_iff.1 read
    cases built
    have shorter := ih others
    rw [List.length_cons]
    omega

/-- A scan never goes back. -/
theorem length_scanFraction_le (cs : List Char) : (Numeral.scanFraction cs).2.length ≤ cs.length := by
  unfold Numeral.scanFraction
  split
  · rename_i after
    dsimp only
    split
    · exact Nat.le_refl _
    · have dropped := (List.dropWhile_sublist Char.isDigit (l := after)).length_le
      dsimp only
      rw [List.length_cons]
      omega
  · exact Nat.le_refl _

theorem length_scanSign_le (cs : List Char) : (Numeral.scanSign cs).2.length ≤ cs.length := by
  unfold Numeral.scanSign
  split
  · exact Nat.le_succ _
  · exact Nat.le_succ _
  · exact Nat.le_refl _

theorem length_scanExponent_le (cs : List Char) : (Numeral.scanExponent cs).2.length ≤ cs.length := by
  unfold Numeral.scanExponent
  split
  · have signed := length_scanSign_le cs.tail
    have dropped := (List.dropWhile_sublist Char.isDigit (l := (Numeral.scanSign cs.tail).2)).length_le
    rw [List.length_tail] at signed
    dsimp only
    split
    · exact Nat.le_refl _
    · dsimp only
      omega
  · exact Nat.le_refl _

/-- A number takes a digit at least. -/
theorem length_of_scan {numeral : Numeral} (read : Numeral.scan cs = some (numeral, rest)) :
    rest.length < cs.length := by
  obtain ⟨⟨whole, tail⟩, front, read⟩ := Option.bind_eq_some_iff.1 read
  have first : tail.length < cs.length := by
    unfold Numeral.scanWhole at front
    split at front
    · cases front
      exact Nat.lt_succ_self _
    · dsimp only at front
      split at front
      · cases front
      · rename_i nonempty
        cases front
        have whole := congrArg List.length (List.takeWhile_append_dropWhile (p := Char.isDigit) (l := cs))
        have positive := List.length_pos_iff.2 nonempty
        rw [List.length_append] at whole
        omega
  have fraction := length_scanFraction_le tail
  have exponent := length_scanExponent_le (Numeral.scanFraction tail).2
  simp only [Option.pure_def, Option.some.injEq, Prod.mk.injEq] at read
  rw [← read.2]
  omega

/-- A constant takes its letters. -/
theorem length_of_constant {v : Json} (read : constant cs = some (v, rest)) : rest.length < cs.length := by
  obtain ⟨⟨word, w⟩, listed, found⟩ := List.exists_of_findSome?_eq_some read
  obtain ⟨after, dropped, same⟩ := Option.map_eq_some_iff.1 found
  cases same
  obtain ⟨front, rfl, alike⟩ := List.dropPrefix?_eq_some_iff.1 dropped
  have nonempty : ∀ item ∈ constants, 0 < item.1.toList.length := by decide
  have positive := nonempty _ listed
  rw [← beq_iff_eq.1 alike] at positive
  rw [List.length_append]
  omega

/-- A string takes characters. -/
theorem length_of_readString {text : String} (read : readString cs = .ok (text, rest)) : rest.length < cs.length := by
  unfold readString at read
  split at read
  · cases read
  · rename_i points after found
    cases read
    exact length_of_codePoints found

/-- So does every value that is no block. -/
theorem length_of_readScalar {v : Json} (read : readScalar cs = .ok (v, rest)) : rest.length < cs.length := by
  unfold readScalar at read
  split at read
  · rename_i found
    cases read
    exact length_of_constant found
  · unfold readNumber at read
    split at read
    · cases read
    · rename_i numeral after scanned
      have shorter := length_of_scan scanned
      have signed : (minus cs).2.length ≤ cs.length := by
        unfold minus
        split
        · exact Nat.le_succ _
        · exact Nat.le_refl _
      have same : after = rest := by
        split at read
        · split at read
          · cases read
          · cases read
            rfl
        · cases read
          rfl
      rw [← same]
      omega

/-- A member takes its key and its value. -/
theorem advances_readMember {element : Reader Json} (advances : Advances element) : Advances (readMember element) := by
  constructor
  · rfl
  · intro cs read rest same
    unfold readMember at same
    split at same
    · rename_i after
      obtain ⟨⟨key, middle⟩, first, same⟩ := Checked.bind_ok_iff.1 same
      have quoted := length_of_readString first
      have skipped := length_skip_le middle
      dsimp only at same
      split at same
      · rename_i later colon
        obtain ⟨⟨item, last⟩, second, built⟩ := Checked.bind_ok_iff.1 same
        cases built
        have shorter := advances.shorter second
        have blanks := length_skip_le later
        show last.length < after.length + 1
        rw [colon, List.length_cons] at skipped
        omega
      · cases same
    · cases same

/-- Every value takes a character at least, if the values nested in it do. -/
theorem advances_readTerm {nested : Option (Reader Json)} (advances : ∀ element ∈ nested, Advances element) :
    Advances (readTerm nested) := by
  constructor
  · rfl
  · intro cs read rest same
    unfold readTerm at same
    split at same
    · rename_i after
      obtain ⟨⟨text, later⟩, quoted, built⟩ := Checked.map_ok_iff.1 same
      cases built
      exact Nat.lt_succ_of_lt (length_of_readString quoted)
    · rename_i after
      split at same
      · cases same
      · rename_i element
        obtain ⟨⟨pairs, later⟩, block, built⟩ := Checked.map_ok_iff.1 same
        cases built
        exact Nat.lt_succ_of_lt (readBody_shorter (advances_readMember (advances element rfl)) block)
    · rename_i after
      split at same
      · cases same
      · rename_i element
        obtain ⟨⟨items, later⟩, block, built⟩ := Checked.map_ok_iff.1 same
        cases built
        exact Nat.lt_succ_of_lt (readBody_shorter (advances element rfl) block)
    · exact length_of_readScalar same

/-- Every reader of values advances, so that the bound of a block never stops one. -/
theorem advances_readValue (limit : Nat) : Advances (readValue limit) := by
  induction limit with
  | zero => exact advances_readTerm (fun element impossible => nomatch impossible)
  | succ limit ih =>
    apply advances_readTerm
    rintro element ⟨rfl⟩
    exact ih

end Advances

/-! ## The reader of documents -/

/-- What the one reader reads, so does the other. -/
def Agrees {α : Type} (plain : List Char → Option (α × List Char)) (reader : Reader α) : Prop :=
  ∀ {cs x rest}, plain cs = some (x, rest) → reader cs = .ok (x, rest)

section Agrees

variable {α : Type} {plain : List Char → Option (α × List Char)} {reader : Reader α} {last : Char}

/-- Code points that are characters are read as these. -/
theorem scalars_of_characters {points : List Nat} {cs : List Char} (read : characters points = some cs) :
    scalars points = cs := by
  fun_induction characters points generalizing cs with
  | case1 =>
    cases read
    rfl
  | case2 n =>
    obtain ⟨c, here, same⟩ := Option.map_eq_some_iff.1 read
    rw [scalars, scalar, here, ← same]
    rfl
  | case3 n m rest paired ih =>
    obtain ⟨c, here, read⟩ := Option.bind_eq_some_iff.1 read
    obtain ⟨others, later, built⟩ := Option.bind_eq_some_iff.1 read
    cases built
    rw [scalars, if_pos paired, ih later, scalar, here]
    rfl
  | case4 n m rest apart ih =>
    obtain ⟨c, here, read⟩ := Option.bind_eq_some_iff.1 read
    obtain ⟨others, later, built⟩ := Option.bind_eq_some_iff.1 read
    cases built
    rw [scalars, if_neg apart, ih later, scalar, here]
    rfl

/-- A string that the plain reader reads is read alike. -/
theorem agrees_string : Agrees string readString := by
  intro cs text rest read
  obtain ⟨⟨points, later⟩, found, read⟩ := Option.bind_eq_some_iff.1 read
  obtain ⟨characters, spelled, built⟩ := Option.bind_eq_some_iff.1 read
  cases built
  rw [readString, found]
  dsimp only
  rw [scalars_of_characters spelled]

/-- So is a number or a constant. -/
theorem agrees_scalar {cs rest : List Char} {v : Json} (read : (constant cs).or (number cs) = some (v, rest)) :
    readScalar cs = .ok (v, rest) := by
  unfold readScalar
  cases word : constant cs with
  | some found =>
    rw [word] at read
    cases read
    rfl
  | none =>
    rw [word, Option.none_or] at read
    obtain ⟨⟨numeral, later⟩, scanned, read⟩ := Option.bind_eq_some_iff.1 read
    show readNumber cs = _
    rw [readNumber, scanned]
    dsimp only at read ⊢
    split at read
    · rename_i whole
      rw [if_pos whole]
      split at read
      · cases read
      · rename_i short
        rw [if_neg short]
        cases read
        rfl
    · rename_i different
      rw [if_neg different]
      cases read
      rfl

/-- So are the elements of a block. -/
theorem agrees_elements (agrees : Agrees plain reader) (count : Nat) :
    Agrees (elements plain last count) (readElements reader last count) := by
  induction count with
  | zero => exact fun read => nomatch read
  | succ count ih =>
    intro cs xs rest read
    obtain ⟨⟨x, middle⟩, first, read⟩ := Option.bind_eq_some_iff.1 read
    rw [readElements_of_ok (agrees first)]
    dsimp only at read
    split at read
    · rename_i after same
      obtain ⟨⟨others, later⟩, found, built⟩ := Option.bind_eq_some_iff.1 read
      cases built
      rw [same]
      exact Checked.map_ok_iff.2 ⟨_, ih found, rfl⟩
    · rename_i c after comma same
      rw [same, afterElement_of_ne comma]
      split at read
      · rename_i closing
        rw [if_pos closing]
        cases read
        rfl
      · cases read
    · cases read

/-- So is a block. -/
theorem agrees_body (agrees : Agrees plain reader) : Agrees (body plain last) (readBody reader last) := by
  intro cs xs rest read
  unfold readBody
  unfold body at read
  cases same : skip cs with
  | nil =>
    rw [same] at read
    cases read
  | cons c after =>
    rw [same] at read
    dsimp only at read ⊢
    split at read
    · rename_i closing
      rw [if_pos closing]
      cases read
      rfl
    · rename_i unclosed
      rw [if_neg unclosed]
      exact agrees_elements agrees _ read

/-- So is a member of an object. -/
theorem agrees_member {plain : List Char → Option (Json × List Char)} {reader : Reader Json}
    (agrees : Agrees plain reader) : Agrees (member plain) (readMember reader) := by
  intro cs pair rest read
  unfold member at read
  split at read
  · rename_i after
    obtain ⟨⟨key, middle⟩, found, read⟩ := Option.bind_eq_some_iff.1 read
    dsimp only at read
    split at read
    · rename_i later same
      obtain ⟨⟨item, last⟩, within, built⟩ := Option.bind_eq_some_iff.1 read
      cases built
      apply Checked.bind_ok_iff.2 ⟨_, agrees_string found, _⟩
      dsimp only
      rw [same]
      exact Checked.bind_ok_iff.2 ⟨_, agrees within, rfl⟩
    · cases read
  · cases read

/-- So is every value that nests no deeper than the limit. -/
theorem agrees_value (limit : Nat) : Agrees (value limit) (readValue limit) := by
  induction limit with
  | zero => exact fun read => nomatch read
  | succ limit ih =>
    intro cs v rest read
    unfold value at read
    split at read
    · obtain ⟨found, quoted, built⟩ := Option.map_eq_some_iff.1 read
      exact Checked.map_ok_iff.2 ⟨found, agrees_string quoted, built⟩
    · obtain ⟨found, block, built⟩ := Option.map_eq_some_iff.1 read
      exact Checked.map_ok_iff.2 ⟨found, agrees_body (agrees_member ih) block, built⟩
    · obtain ⟨found, block, built⟩ := Option.map_eq_some_iff.1 read
      exact Checked.map_ok_iff.2 ⟨found, agrees_body ih block, built⟩
    · rename_i quote brace bracket
      have scalar := agrees_scalar read
      rw [readValue, readTerm]
      · exact scalar
      · exact quote
      · exact brace
      · exact bracket

/-- A document that `loads` reads is read to the same value. -/
theorem read_of_loads {text : String} {v : Json} (loaded : loads text = some v) :
    read text.toList.length text.toList = .ok v := by
  obtain ⟨⟨w, rest⟩, found, ends⟩ := Option.bind_eq_some_iff.1 loaded
  dsimp only at ends
  apply Checked.bind_ok_iff.2 ⟨_, agrees_value _ found, _⟩
  dsimp only
  split at ends
  · rename_i blank
    rw [if_pos blank]
    cases ends
    rfl
  · cases ends

end Agrees

end Json
end Python
