import LlmTts.Lib.Checked
import LlmTts.Lib.JsonRead

/-!
# JSON on one line

`json.dumps(value, default=str)`: what becomes of Python objects, and the text. JSON has
no NaN and no infinities; `loadsStrict_dumpsLine_iff` says which values are read back by
a reader that has not got them either.
-/

namespace Python

/-! ## Objects -/

/-- A float of a running program. -/
structure PyDouble where
  value : PyFloat
  double : value.IsDouble

/-- A key of a dictionary. -/
inductive PyKey where
  | none
  | bool (b : Bool)
  | int (n : Int)
  | float (x : PyDouble)
  | str (s : String)
  /-- Any other key. -/
  | other

/-- An object, as `json.dumps` tells objects apart. -/
inductive PyObject where
  | none
  | bool (b : Bool)
  | int (n : Int)
  | float (x : PyDouble)
  | str (s : String)
  /-- A list or a tuple. -/
  | list (items : List PyObject)
  | dict (pairs : List (PyKey × PyObject))
  /-- A list or a dictionary that this object is inside of. -/
  | circular
  /-- Any other object, and what `str` makes of it if it does not raise. -/
  | other (text : Option String)

namespace Json

/-- The text of a key, or `none` where Python raises. -/
def key : PyKey → Option String
  | .none => some "null"
  | .bool b => some (if b then "true" else "false")
  | .int n => if maxStrDigits < (Nat.toDigits 10 n.natAbs).length then none else some (intStr n)
  | .float x => some (String.ofList (floatText x.value))
  | .str s => some s
  | .other => none

mutual

/-- The value that is written for an object, or `none` where Python raises: the stack has
room for `room` containers in one another, and for the results of `default=str`. -/
def image : (room : Nat) → PyObject → Option Json
  | _, .none => some .null
  | _, .bool b => some (.bool b)
  | _, .int n => some (.int n)
  | _, .float x => some (.float x.value)
  | _, .str s => some (.str s)
  | 0, .list _ => none
  | 0, .dict _ => none
  | 0, .other _ => none
  | room + 1, .list items => (imageItems room items).map .arr
  | room + 1, .dict pairs => (imagePairs room pairs).map .obj
  | _ + 1, .other text => text.map .str
  | _, .circular => none

def imageItems : (room : Nat) → List PyObject → Option (List Json)
  | _, [] => some []
  | room, item :: items => do
    let v ← image room item
    let vs ← imageItems room items
    return v :: vs

def imagePairs : (room : Nat) → List (PyKey × PyObject) → Option (List (String × Json))
  | _, [] => some []
  | room, (name, item) :: pairs => do
    let text ← key name
    let v ← image room item
    let vs ← imagePairs room pairs
    return (text, v) :: vs

end

/-! ## The line -/

mutual

/-- The text of a value on one line. -/
def line : Json → Option (List Char)
  | .null => some "null".toList
  | .bool b => some (if b then "true" else "false").toList
  | .int n => if maxStrDigits < (Nat.toDigits 10 n.natAbs).length then none else some (intStr n).toList
  | .float x => some (floatText x)
  | .str s => some (quoted s)
  | .arr items => (lineItems items).map fun texts => '[' :: ([',', ' '].intercalate texts ++ [']'])
  | .obj pairs => (linePairs pairs).map fun texts => '{' :: ([',', ' '].intercalate texts ++ ['}'])

def lineItems : List Json → Option (List (List Char))
  | [] => some []
  | item :: items => do
    let text ← line item
    let texts ← lineItems items
    return text :: texts

def linePairs : List (String × Json) → Option (List (List Char))
  | [] => some []
  | (key, item) :: pairs => do
    let text ← line item
    let texts ← linePairs pairs
    return (quoted key ++ ':' :: ' ' :: text) :: texts

end

/-- `json.dumps(obj, default=str)`, or `none` where Python raises. -/
def dumpsLine (room : Nat) (obj : PyObject) : Option String := do
  let v ← image room obj
  let text ← line v
  return String.ofList text

/-! ## Reading without NaN and the infinities -/

/-- The words of JSON. -/
def strictWords : List (String × Json) := [("null", .null), ("true", .bool true), ("false", .bool false)]

def strictWord (cs : List Char) : Option (Json × List Char) :=
  strictWords.findSome? fun (word, v) => (cs.dropPrefix? word.toList).map (v, ·)

/-- `value`, with the words of JSON only. -/
def strictValue : (depth : Nat) → List Char → Option (Json × List Char)
  | 0, _ => none
  | depth + 1, cs =>
    match cs with
    | '"' :: rest => (string rest).map fun (s, rest) => (.str s, rest)
    | '{' :: rest => (body (member (strictValue depth)) '}' rest).map fun (pairs, rest) => (.obj pairs, rest)
    | '[' :: rest => (body (strictValue depth) ']' rest).map fun (items, rest) => (.arr items, rest)
    | cs => (strictWord cs).or (number cs)

/-- The value of a text that is JSON. -/
def loadsStrict (text : String) : Option Json := do
  let (v, rest) ← strictValue text.toList.length (skip text.toList)
  if skip rest = [] then return v else none

/-- A value that JSON has a text for. -/
inductive Standard : Json → Prop
  | null : Standard .null
  | bool (b : Bool) : Standard (.bool b)
  | int {n : Int} (short : (Nat.toDigits 10 n.natAbs).length ≤ maxStrDigits) : Standard (.int n)
  | float {x : PyFloat} (finite : x.value?.isSome) : Standard (.float x)
  | str (s : String) : Standard (.str s)
  | arr {items : List Json} (all : ∀ item ∈ items, Standard item) : Standard (.arr items)
  | obj {pairs : List (String × Json)} (all : ∀ pair ∈ pairs, Standard pair.2) : Standard (.obj pairs)

/-! ### Parts that are read or refused -/

section Parts

variable {α : Type} {element : List Char → Option (α × List Char)} {last : Char} {standard : α → Prop}
  {xs : List α} {parts : List (List Char)}

/-- The text is refused, whatever comes after it. -/
def Fails (element : List Char → Option (α × List Char)) (text : List Char) : Prop :=
  ∀ rest, element (text ++ rest) = none

/-- The text of a standard element is read, that of any other is refused. -/
inductive Settles (standard : α → Prop) (element : List Char → Option (α × List Char)) (x : α)
    (text : List Char) : Prop
  | reads (standard : standard x) (reads : Reads element text x)
  | fails (nonstandard : ¬standard x) (fails : Fails element text)

/-- One element that is refused is enough. -/
theorem elements_fails {gap : List Char} (blank : Blank gap)
    (all : List.Forall₂ (fun x part => Settles standard element x part ∧ Begins part) xs parts)
    (bad : ∃ x ∈ xs, ¬standard x) (count : Nat) (rest : List Char) :
    elements element last count ((',' :: gap).intercalate parts ++ last :: rest) = none := by
  induction all generalizing count with
  | nil =>
    obtain ⟨x, member, -⟩ := bad
    cases member
  | @cons x part xs parts here others ih =>
    obtain ⟨settles, -⟩ := here
    cases count with
    | zero => rfl
    | succ count =>
      cases settles with
      | fails nonstandard fails =>
        have whole : ∃ after, (',' :: gap).intercalate (part :: parts) ++ last :: rest = part ++ after := by
          cases parts with
          | nil => exact ⟨_, by rw [List.intercalate_singleton]⟩
          | cons next parts => exact ⟨_, by rw [List.intercalate_cons_cons, List.append_assoc, List.append_assoc]⟩
        obtain ⟨after, same⟩ := whole
        rw [same, elements, fails]
        rfl
      | reads good reads =>
        have bad : ∃ y ∈ xs, ¬standard y := by
          obtain ⟨y, member, nonstandard⟩ := bad
          rcases List.mem_cons.1 member with rfl | member
          · exact absurd good nonstandard
          · exact ⟨y, member, nonstandard⟩
        cases others with
        | nil =>
          obtain ⟨y, member, -⟩ := bad
          cases member
        | @cons y next xs parts after others =>
          have tail := ih bad count
          have begins := (begins_intercalate (',' :: gap) after.2 parts).append (last :: rest)
          have comma : skip (',' :: (gap ++ ((',' :: gap).intercalate (next :: parts) ++ last :: rest))) =
              ',' :: (gap ++ ((',' :: gap).intercalate (next :: parts) ++ last :: rest)) := skip_cons rfl
          rw [List.intercalate_cons_cons, List.append_assoc, List.append_assoc, List.cons_append]
          simp only [elements, reads _ (stops_comma _), Option.bind_eq_bind, Option.bind_some, comma, blank.skip,
            begins.skip, tail]
          rfl

theorem body_settles (closing : last = ']' ∨ last = '}')
    (all : List.Forall₂ (fun x part => Settles standard element x part ∧ Begins part) xs parts) :
    (∀ x ∈ xs, standard x) ∧
        (∀ rest, body element last ([',', ' '].intercalate parts ++ last :: rest) = some (xs, rest)) ∨
      (¬∀ x ∈ xs, standard x) ∧ ∀ rest, body element last ([',', ' '].intercalate parts ++ last :: rest) = none := by
  have blank : Blank [' '] := by
    intro c member
    rw [List.mem_singleton.1 member]
    rfl
  have blankNil : Blank [] := fun c member => absurd member List.not_mem_nil
  by_cases good : ∀ x ∈ xs, standard x
  · refine .inl ⟨good, fun rest => ?_⟩
    have reads : List.Forall₂ (fun x part => Reads element part x ∧ Begins part) xs parts := by
      refine ((List.forall₂_and_left _ _).2 ⟨good, all⟩).imp fun x part here => ?_
      obtain ⟨standard, settles, begins⟩ := here
      cases settles with
      | reads _ reads => exact ⟨reads, begins⟩
      | fails nonstandard _ => exact absurd standard nonstandard
    by_cases empty : parts = []
    · subst empty
      cases all
      exact body_closed closing rest
    · exact body_intercalate closing blankNil blank blankNil reads empty rest
  · refine .inr ⟨good, fun rest => ?_⟩
    push Not at good
    have begins : Begins ([',', ' '].intercalate parts ++ last :: rest) := by
      cases all with
      | nil =>
        obtain ⟨x, member, -⟩ := good
        cases member
      | cons here others => exact (begins_intercalate _ here.2 _).append _
    have refused : ∀ count, elements element last count ([',', ' '].intercalate parts ++ last :: rest) = none :=
      fun count => elements_fails blank all good count rest
    unfold body
    rw [begins.skip]
    obtain ⟨c, others, same, -, bracket, brace⟩ := begins
    rw [same] at refused ⊢
    dsimp only
    rw [if_neg (by rcases closing with rfl | rfl <;> assumption)]
    exact refused _

end Parts

/-! ### Tokens -/

/-- A number is no word. -/
theorem Numeric.strictWord {text : List Char} (numeric : Numeric text) : strictWord text = none := by
  have words : ∀ word ∈ strictWords, word ∈ constants := by simp [strictWords, constants]
  rw [Json.strictWord, List.findSome?_eq_none_iff]
  intro word member
  exact List.findSome?_eq_none_iff.1 numeric.constant word (words word member)

/-- A number is read as such, by the strict reader too. -/
theorem Numeric.strictValue {text : List Char} (numeric : Numeric text) (depth : Nat) :
    Json.strictValue (depth + 1) text = number text := by
  have wordless := numeric.strictWord
  unfold Json.strictValue
  split
  · exact absurd rfl (numeric.first rfl).1
  · exact absurd rfl (numeric.first rfl).2.1
  · exact absurd rfl (numeric.first rfl).2.2
  · rw [wordless, Option.none_or]

theorem strict_numeric {text : List Char} {v : Json} (numeric : Numeric text) (reads : Reads number text v)
    (depth : Nat) : Reads (strictValue (depth + 1)) text v := by
  intro rest stops
  rw [(numeric.append rest).strictValue]
  exact reads rest stops

/-- A word of JSON is read back. -/
theorem strict_word {word : String} {v : Json} (listed : (word, v) ∈ strictWords) (depth : Nat) :
    Begins word.toList ∧ (word.toList.length ≤ depth → Reads (strictValue depth) word.toList v) := by
  unfold strictWords at listed
  simp only [List.mem_cons, Prod.mk.injEq, List.not_mem_nil, or_false] at listed
  have begins : Begins word.toList := by
    rcases listed with ⟨rfl, -⟩ | ⟨rfl, -⟩ | ⟨rfl, -⟩ <;> exact ⟨_, _, rfl, by decide, by decide, by decide⟩
  refine ⟨begins, fun deep => reads_deep begins deep fun depth _ => ?_⟩
  intro rest _
  rcases listed with ⟨rfl, rfl⟩ | ⟨rfl, rfl⟩ | ⟨rfl, rfl⟩ <;>
    simp [strictValue, strictWord, strictWords, List.dropPrefix?]

/-- NaN and the infinities are refused. -/
theorem fails_word {x : PyFloat} (special : x.value? = none) (depth : Nat) :
    Begins (floatText x) ∧ Fails (strictValue depth) (floatText x) := by
  have shapes : floatText x = "NaN".toList ∨ floatText x = "Infinity".toList ∨ floatText x = "-Infinity".toList := by
    cases x with
    | finite q | negZero => cases special
    | inf negative => cases negative <;> simp [floatText]
    | nan => simp [floatText]
  constructor
  · rcases shapes with same | same | same <;> rw [same] <;> exact ⟨_, _, rfl, by decide, by decide, by decide⟩
  · intro rest
    cases depth with
    | zero => rfl
    | succ depth =>
      rcases shapes with same | same | same <;> rw [same] <;>
        simp [strictValue, strictWord, strictWords, List.dropPrefix?, number, minus, Numeral.scan, Numeral.scanWhole]

/-- A member is read or refused as its value is. -/
theorem settles_member {depth : Nat} {text : List Char} {item : Json}
    (settles : Settles Standard (strictValue depth) item text) (begins : Begins text) (key : String) :
    Settles (fun pair : String × Json => Standard pair.2) (member (strictValue depth)) (key, item)
      (quoted key ++ ':' :: ' ' :: text) := by
  cases settles with
  | reads standard reads => exact .reads standard (reads_member reads begins key)
  | fails nonstandard fails =>
    refine .fails nonstandard fun rest => ?_
    have colon : skip (':' :: ' ' :: (text ++ rest)) = ':' :: ' ' :: (text ++ rest) := skip_cons rfl
    have blank : skip (' ' :: (text ++ rest)) = text ++ rest := by
      have first : skip (' ' :: (text ++ rest)) = skip (text ++ rest) := List.dropWhile_cons_of_pos rfl
      rw [first, (begins.append rest).skip]
    simp only [quoted, List.cons_append, List.append_assoc, List.nil_append, member, string_quoted,
      Option.bind_eq_bind, Option.bind_some, colon, blank, fails rest]
    rfl

/-! ### Documents -/

section Documents

variable {depth : Nat} {parts : List (List Char)}

/-- A list is written if each of its items is. -/
theorem lineItems_eq_some_iff {items : List Json} :
    lineItems items = some parts ↔ List.Forall₂ (fun item part => line item = some part) items parts := by
  induction items generalizing parts with
  | nil => cases parts <;> simp [lineItems]
  | cons item items ih =>
    rw [lineItems]
    constructor
    · intro texts
      obtain ⟨part, here, texts⟩ := Option.bind_eq_some_iff.1 texts
      obtain ⟨others, rest, same⟩ := Option.bind_eq_some_iff.1 texts
      cases same
      exact .cons here (ih.1 rest)
    · rintro (_ | ⟨here, others⟩)
      exact Option.bind_eq_some_iff.2 ⟨_, here, Option.bind_eq_some_iff.2 ⟨_, ih.2 others, rfl⟩⟩

/-- An object is written if each of its values is. -/
theorem linePairs_eq_some_iff {pairs : List (String × Json)} :
    linePairs pairs = some parts ↔
      List.Forall₂ (fun pair part => ∃ text, line pair.2 = some text ∧ part = quoted pair.1 ++ ':' :: ' ' :: text)
        pairs parts := by
  induction pairs generalizing parts with
  | nil => cases parts <;> simp [linePairs]
  | cons pair pairs ih =>
    obtain ⟨key, item⟩ := pair
    rw [linePairs]
    constructor
    · intro texts
      obtain ⟨text, here, texts⟩ := Option.bind_eq_some_iff.1 texts
      obtain ⟨others, rest, same⟩ := Option.bind_eq_some_iff.1 texts
      cases same
      exact .cons ⟨text, here, rfl⟩ (ih.1 rest)
    · rintro (_ | ⟨⟨text, here, rfl⟩, others⟩)
      exact Option.bind_eq_some_iff.2 ⟨_, here, Option.bind_eq_some_iff.2 ⟨_, ih.2 others, rfl⟩⟩

theorem settles_items {items : List Json}
    (each : ∀ item ∈ items, ∀ part, line item = some part →
      Begins part ∧ (part.length ≤ depth → Settles Standard (strictValue depth) item part))
    (texts : lineItems items = some parts) (short : ∀ part ∈ parts, part.length ≤ depth) :
    List.Forall₂ (fun item part => Settles Standard (strictValue depth) item part ∧ Begins part) items parts := by
  have both := (List.forall₂_and_left _ _).2 ⟨each, lineItems_eq_some_iff.1 texts⟩
  refine ((List.forall₂_and_left _ _).2 ⟨short, both.flip⟩).flip.imp fun item part here => ?_
  obtain ⟨fits, spec, written⟩ := here
  obtain ⟨begins, settles⟩ := spec part written
  exact ⟨settles fits, begins⟩

theorem settles_pairs {pairs : List (String × Json)}
    (each : ∀ pair ∈ pairs, ∀ part, line pair.2 = some part →
      Begins part ∧ (part.length ≤ depth → Settles Standard (strictValue depth) pair.2 part))
    (texts : linePairs pairs = some parts) (short : ∀ part ∈ parts, part.length ≤ depth) :
    List.Forall₂ (fun pair part => Settles (fun pair : String × Json => Standard pair.2)
      (member (strictValue depth)) pair part ∧ Begins part) pairs parts := by
  have both := (List.forall₂_and_left _ _).2 ⟨each, linePairs_eq_some_iff.1 texts⟩
  refine ((List.forall₂_and_left _ _).2 ⟨short, both.flip⟩).flip.imp fun pair part here => ?_
  obtain ⟨fits, spec, text, written, rfl⟩ := here
  obtain ⟨begins, settles⟩ := spec text written
  rw [List.length_append, List.length_cons, List.length_cons] at fits
  exact ⟨settles_member (settles (by omega)) begins pair.1, (begins_quoted pair.1).append _⟩

/-- Where a bracketed line fits, its parts fit one level below. -/
theorem short_of_bracketed {first last : Char}
    (fits : (first :: ([',', ' '].intercalate parts ++ [last])).length ≤ depth + 1) :
    ∀ part ∈ parts, part.length ≤ depth := by
  intro part member
  have less := length_le_intercalate [',', ' '] member
  rw [List.length_cons, List.length_append] at fits
  omega

end Documents

/-- The line of a standard value is read back, that of any other is no JSON. -/
theorem settles_line (v : Json) (doubles : v.Doubles) {text : List Char} (written : line v = some text)
    {depth : Nat} : Begins text ∧ (text.length ≤ depth → Settles Standard (strictValue depth) v text) := by
  induction v using Json.induct generalizing text depth with
  | null =>
    cases written
    have word := strict_word (show ("null", Json.null) ∈ strictWords by simp [strictWords]) depth
    exact ⟨word.1, fun deep => .reads .null (word.2 deep)⟩
  | bool b =>
    cases b <;> cases written
    · have word := strict_word (show ("false", Json.bool false) ∈ strictWords by simp [strictWords]) depth
      exact ⟨word.1, fun deep => .reads (.bool false) (word.2 deep)⟩
    · have word := strict_word (show ("true", Json.bool true) ∈ strictWords by simp [strictWords]) depth
      exact ⟨word.1, fun deep => .reads (.bool true) (word.2 deep)⟩
  | int n =>
    rw [line] at written
    split at written
    · cases written
    · rename_i short
      cases written
      have numeric := numeric_intStr n
      exact ⟨numeric.begins, fun deep => .reads (.int (by omega)) (reads_deep numeric.begins deep fun depth _ =>
        strict_numeric numeric (reads_int short) depth)⟩
  | float x =>
    cases doubles with
    | float double =>
      cases written
      cases special : x.value? with
      | none =>
        obtain ⟨begins, fails⟩ := fails_word special depth
        refine ⟨begins, fun _ => .fails (fun standard => ?_) fails⟩
        cases standard with
        | float finite =>
          rw [special] at finite
          cases finite
      | some q =>
        obtain ⟨numeric, reads⟩ := reads_double double special
        refine ⟨numeric.begins, fun deep => .reads (.float ?_) (reads_deep numeric.begins deep fun depth _ =>
          strict_numeric numeric reads depth)⟩
        rw [special]
        rfl
  | str s =>
    cases written
    refine ⟨begins_quoted s, fun deep => .reads (.str s) (reads_deep (begins_quoted s) deep fun depth _ => ?_)⟩
    intro rest stops
    simp only [quoted, List.cons_append, List.append_assoc, List.nil_append, strictValue, string_quoted,
      Option.map_some]
  | arr items ih =>
    cases doubles with
    | arr all =>
      obtain ⟨parts, texts, rfl⟩ := Option.map_eq_some_iff.1 written
      refine ⟨⟨'[', _, rfl, by decide, by decide, by decide⟩, fun deep => ?_⟩
      cases depth with
      | zero => exact absurd deep (by simp)
      | succ depth =>
        have each := settles_items (fun item member part here => ih item member (all item member) here) texts
          (short_of_bracketed deep)
        rcases body_settles (Or.inl rfl) each with ⟨good, read⟩ | ⟨nonstandard, refused⟩
        · refine .reads (.arr good) fun rest _ => ?_
          simp only [List.cons_append, List.append_assoc, List.nil_append, strictValue, read, Option.map_some]
        · refine .fails (fun standard => ?_) fun rest => ?_
          · cases standard with
            | arr good => exact nonstandard good
          · simp only [List.cons_append, List.append_assoc, List.nil_append, strictValue, refused, Option.map_none]
  | obj pairs ih =>
    cases doubles with
    | obj all =>
      obtain ⟨parts, texts, rfl⟩ := Option.map_eq_some_iff.1 written
      refine ⟨⟨'{', _, rfl, by decide, by decide, by decide⟩, fun deep => ?_⟩
      cases depth with
      | zero => exact absurd deep (by simp)
      | succ depth =>
        have each := settles_pairs (fun pair member part here => ih pair member (all pair member) here) texts
          (short_of_bracketed deep)
        rcases body_settles (Or.inr rfl) each with ⟨good, read⟩ | ⟨nonstandard, refused⟩
        · refine .reads (.obj good) fun rest _ => ?_
          simp only [List.cons_append, List.append_assoc, List.nil_append, strictValue, read, Option.map_some]
        · refine .fails (fun standard => ?_) fun rest => ?_
          · cases standard with
            | obj good => exact nonstandard good
          · simp only [List.cons_append, List.append_assoc, List.nil_append, strictValue, refused, Option.map_none]

/-- A line is read back as the value exactly if this has neither NaN nor infinities. -/
theorem loadsStrict_line {v : Json} {text : List Char} (doubles : v.Doubles) (written : line v = some text)
    (w : Json) : loadsStrict (String.ofList text) = some w ↔ Standard v ∧ v = w := by
  obtain ⟨begins, settles⟩ := @settles_line v doubles text written text.length
  unfold loadsStrict
  rw [String.toList_ofList, begins.skip]
  cases settles (Nat.le_refl _) with
  | reads standard reads =>
    have read := reads [] Numeral.stops_nil
    rw [List.append_nil] at read
    simp only [read, Option.bind_eq_bind, Option.bind_some, skip, List.dropWhile_nil, if_true, standard, true_and]
    exact Option.some_inj
  | fails nonstandard fails =>
    have refused := fails []
    rw [List.append_nil] at refused
    simp only [refused, Option.bind_eq_bind, Option.bind_none, nonstandard, false_and]
    exact ⟨fun read => (by cases read), fun impossible => impossible.elim⟩

theorem lineItems_isSome_iff {items : List Json} :
    (lineItems items).isSome ↔ ∀ item ∈ items, (line item).isSome := by
  induction items with
  | nil => exact ⟨fun _ item member => absurd member List.not_mem_nil, fun _ => rfl⟩
  | cons item items ih =>
    rw [List.forall_mem_cons, ← ih, lineItems]
    cases line item with
    | none => simp
    | some text => cases lineItems items <;> simp

theorem linePairs_isSome_iff {pairs : List (String × Json)} :
    (linePairs pairs).isSome ↔ ∀ pair ∈ pairs, (line pair.2).isSome := by
  induction pairs with
  | nil => exact ⟨fun _ pair member => absurd member List.not_mem_nil, fun _ => rfl⟩
  | cons pair pairs ih =>
    rw [List.forall_mem_cons, ← ih, linePairs]
    cases line pair.2 with
    | none => simp
    | some text => cases linePairs pairs <;> simp

/-- A standard value has a text. -/
theorem Standard.line {v : Json} (standard : Standard v) : (line v).isSome := by
  induction v using Json.induct with
  | null => rfl
  | bool b => rfl
  | int n =>
    cases standard with
    | int short =>
      rw [Json.line, if_neg (by omega)]
      rfl
  | float x => rfl
  | str s => rfl
  | arr items ih =>
    cases standard with
    | arr all =>
      rw [Json.line, Option.isSome_map, lineItems_isSome_iff]
      exact fun item member => ih item member (all item member)
  | obj pairs ih =>
    cases standard with
    | obj all =>
      rw [Json.line, Option.isSome_map, linePairs_isSome_iff]
      exact fun pair member => ih pair member (all pair member)

/-! ### Characters -/

/-- Printable characters of ASCII, none of which ends a line. -/
def Printable (cs : List Char) : Prop := ∀ c ∈ cs, ' ' ≤ c ∧ c ≤ '~'

/-- Two printable texts make one. -/
theorem Printable.append {front back : List Char} (first : Printable front) (second : Printable back) :
    Printable (front ++ back) :=
  List.forall_mem_append.2 ⟨first, second⟩

theorem Printable.cons {c : Char} {cs : List Char} (low : ' ' ≤ c) (high : c ≤ '~') (rest : Printable cs) :
    Printable (c :: cs) :=
  List.forall_mem_cons.2 ⟨⟨low, high⟩, rest⟩

theorem printable_nil : Printable [] := fun _ member => absurd member List.not_mem_nil

theorem printable_of_all {cs : List Char} (all : (cs.all fun c => decide (' ' ≤ c ∧ c ≤ '~')) = true) :
    Printable cs :=
  fun c member => of_decide_eq_true (List.all_eq_true.1 all c member)

theorem printable_textual {cs : List Char} (textual : PyFloat.Textual cs) : Printable cs := by
  intro c member
  have seen := textual c member
  simp only [PyFloat.textChar, Bool.or_eq_true, decide_eq_true_eq] at seen
  rcases seen with digit | sign
  · have bounds := PyFloat.digit_bounds digit
    constructor
    · have low : (32 : Nat) ≤ c.toNat := by omega
      exact Char.le_def.2 low
    · have high : c.toNat ≤ (126 : Nat) := by omega
      exact Char.le_def.2 high
  · have signs : Printable ['.', 'e', '+', '-', 'i', 'n', 'f', 'a'] := printable_of_all (by decide)
    exact signs c sign

theorem printable_unicodeEscape (n : Nat) : Printable (unicodeEscape n) := by
  have digits : ∀ d < 16, ' ' ≤ Nat.digitChar d ∧ Nat.digitChar d ≤ '~' := by decide
  refine .cons (by decide) (by decide) (.cons (by decide) (by decide) fun c member => ?_)
  obtain ⟨d, there, rfl⟩ := List.mem_map.1 member
  simp only [List.mem_cons, List.not_mem_nil, or_false] at there
  exact digits d (by omega)

/-- Whatever is not printable is escaped. -/
theorem printable_escapeChar (c : Char) : Printable (escapeChar c) := by
  unfold escapeChar
  split
  · rename_i letter found
    refine .cons (by decide) (by decide) (.cons ?_ ?_ printable_nil) <;>
      (unfold letter? at found; split at found <;> first | (cases found; decide) | cases found)
  · split
    · rename_i printable
      exact .cons printable.1 printable.2 printable_nil
    · split
      · exact printable_unicodeEscape _
      · exact (printable_unicodeEscape _).append (printable_unicodeEscape _)

/-- So a string is written in ASCII. -/
theorem printable_quoted (s : String) : Printable (quoted s) := by
  refine .cons (by decide) (by decide) (.append (fun c member => ?_) (.cons (by decide) (by decide) printable_nil))
  obtain ⟨d, -, there⟩ := List.mem_flatMap.1 member
  exact printable_escapeChar d c there

theorem printable_floatText (x : PyFloat) : Printable (floatText x) := by
  cases x with
  | finite q | negZero => exact printable_textual (PyFloat.textual_str _)
  | inf negative =>
    cases negative
    · exact (printable_of_all (by decide) : Printable "Infinity".toList)
    · exact (printable_of_all (by decide) : Printable "-Infinity".toList)
  | nan => exact (printable_of_all (by decide) : Printable "NaN".toList)

theorem printable_intercalate {parts : List (List Char)} (each : ∀ part ∈ parts, Printable part) :
    Printable ([',', ' '].intercalate parts) := by
  induction parts with
  | nil => exact printable_nil
  | cons part parts ih =>
    obtain ⟨here, others⟩ := List.forall_mem_cons.1 each
    cases parts with
    | nil => rwa [List.intercalate_singleton]
    | cons next parts =>
      rw [List.intercalate_cons_cons, List.append_assoc]
      exact here.append (.cons (by decide) (by decide) (.cons (by decide) (by decide) (ih others)))

/-- The text has no character outside printable ASCII, and no line break. -/
theorem printable_line (v : Json) {text : List Char} (written : line v = some text) : Printable text := by
  induction v using Json.induct generalizing text with
  | null =>
    cases written
    exact printable_of_all (by decide)
  | bool b =>
    cases b <;> cases written <;> exact printable_of_all (by decide)
  | int n =>
    rw [line] at written
    split at written
    · cases written
    · cases written
      exact printable_textual (textual_intStr n)
  | float x =>
    cases written
    exact printable_floatText x
  | str s =>
    cases written
    exact printable_quoted s
  | arr items ih =>
    obtain ⟨parts, texts, rfl⟩ := Option.map_eq_some_iff.1 written
    have inside := printable_intercalate fun part member => by
      obtain ⟨item, there, here⟩ := Checked.exists_of_mem_left (lineItems_eq_some_iff.1 texts).flip member
      exact ih item there here
    exact .cons (by decide) (by decide) (inside.append (.cons (by decide) (by decide) printable_nil))
  | obj pairs ih =>
    obtain ⟨parts, texts, rfl⟩ := Option.map_eq_some_iff.1 written
    have inside := printable_intercalate fun part member => by
      obtain ⟨pair, there, text, here, rfl⟩ := Checked.exists_of_mem_left (linePairs_eq_some_iff.1 texts).flip member
      have value := ih pair there here
      exact (printable_quoted pair.1).append (.cons (by decide) (by decide) (.cons (by decide) (by decide) value))
    exact .cons (by decide) (by decide) (inside.append (.cons (by decide) (by decide) printable_nil))

/-! ## What is written of an object -/

/-- Induction with a hypothesis for each item of a list and of a dictionary. -/
@[elab_as_elim] theorem PyObject.induct {motive : PyObject → Prop} (none : motive .none)
    (bool : ∀ b, motive (.bool b)) (int : ∀ n, motive (.int n)) (float : ∀ x, motive (.float x))
    (str : ∀ s, motive (.str s)) (list : ∀ items, (∀ item ∈ items, motive item) → motive (.list items))
    (dict : ∀ pairs : List (PyKey × PyObject), (∀ pair ∈ pairs, motive pair.2) → motive (.dict pairs))
    (circular : motive .circular) (other : ∀ text, motive (.other text)) (obj : PyObject) : motive obj := by
  refine @PyObject.rec motive (fun items => ∀ item ∈ items, motive item) (fun pairs => ∀ pair ∈ pairs, motive pair.2)
    (fun pair => motive pair.2) none bool int float str list dict circular other ?_ ?_ ?_ ?_ ?_ obj
  · exact fun item member => absurd member List.not_mem_nil
  · exact fun first others here rest => List.forall_mem_cons.2 ⟨here, rest⟩
  · exact fun pair member => absurd member List.not_mem_nil
  · exact fun first others here rest => List.forall_mem_cons.2 ⟨here, rest⟩
  · exact fun _ _ here => here

@[simp] theorem image_str (room : Nat) (s : String) : image room (.str s) = some (.str s) := by rw [image]

/-- A list is encoded if each of its items is. -/
theorem imageItems_eq_some_iff {room : Nat} {items : List PyObject} {vs : List Json} :
    imageItems room items = some vs ↔ List.Forall₂ (fun item v => image room item = some v) items vs := by
  induction items generalizing vs with
  | nil => cases vs <;> simp [imageItems]
  | cons item items ih =>
    rw [imageItems]
    constructor
    · intro built
      obtain ⟨v, here, built⟩ := Option.bind_eq_some_iff.1 built
      obtain ⟨others, rest, same⟩ := Option.bind_eq_some_iff.1 built
      cases same
      exact .cons here (ih.1 rest)
    · rintro (_ | ⟨here, others⟩)
      exact Option.bind_eq_some_iff.2 ⟨_, here, Option.bind_eq_some_iff.2 ⟨_, ih.2 others, rfl⟩⟩

/-- A dictionary is encoded if each of its keys and values is. -/
theorem imagePairs_eq_some_iff {room : Nat} {pairs : List (PyKey × PyObject)} {vs : List (String × Json)} :
    imagePairs room pairs = some vs ↔
      List.Forall₂ (fun pair v => key pair.1 = some v.1 ∧ image room pair.2 = some v.2) pairs vs := by
  induction pairs generalizing vs with
  | nil => cases vs <;> simp [imagePairs]
  | cons pair pairs ih =>
    obtain ⟨name, item⟩ := pair
    rw [imagePairs]
    constructor
    · intro built
      obtain ⟨text, named, built⟩ := Option.bind_eq_some_iff.1 built
      obtain ⟨v, here, built⟩ := Option.bind_eq_some_iff.1 built
      obtain ⟨others, rest, same⟩ := Option.bind_eq_some_iff.1 built
      cases same
      exact .cons ⟨named, here⟩ (ih.1 rest)
    · rintro (_ | ⟨⟨named, here⟩, others⟩)
      exact Option.bind_eq_some_iff.2 ⟨_, named, Option.bind_eq_some_iff.2 ⟨_, here,
        Option.bind_eq_some_iff.2 ⟨_, ih.2 others, rfl⟩⟩⟩

/-- The floats that are written are doubles. -/
theorem doubles_image {obj : PyObject} {room : Nat} {v : Json} (written : image room obj = some v) : v.Doubles := by
  induction obj using PyObject.induct generalizing room v with
  | none =>
    rw [image] at written
    cases written
    exact .null
  | bool b =>
    rw [image] at written
    cases written
    exact .bool b
  | int n =>
    rw [image] at written
    cases written
    exact .int n
  | float x =>
    rw [image] at written
    cases written
    exact .float x.double
  | str s =>
    rw [image] at written
    cases written
    exact .str s
  | list items ih =>
    cases room with
    | zero =>
      rw [image] at written
      cases written
    | succ room =>
      rw [image] at written
      obtain ⟨vs, each, rfl⟩ := Option.map_eq_some_iff.1 written
      refine .arr fun item member => ?_
      obtain ⟨obj, there, same⟩ := Checked.exists_of_mem_left (imageItems_eq_some_iff.1 each).flip member
      exact ih obj there same
  | dict pairs ih =>
    cases room with
    | zero =>
      rw [image] at written
      cases written
    | succ room =>
      rw [image] at written
      obtain ⟨vs, each, rfl⟩ := Option.map_eq_some_iff.1 written
      refine .obj fun pair member => ?_
      obtain ⟨obj, there, -, same⟩ := Checked.exists_of_mem_left (imagePairs_eq_some_iff.1 each).flip member
      exact ih obj there same
  | circular =>
    rw [image] at written
    cases written
  | other text =>
    cases room with
    | zero =>
      rw [image] at written
      cases written
    | succ room =>
      rw [image] at written
      obtain ⟨s, -, rfl⟩ := Option.map_eq_some_iff.1 written
      exact .str s

/-! ### Dictionaries with strings as keys -/

/-- The keys are kept, and every value is written. -/
abbrev Written (room : Nat) (payload : List (String × PyObject)) (pairs : List (String × Json)) : Prop :=
  List.Forall₂ (fun item pair => item.1 = pair.1 ∧ image room item.2 = some pair.2) payload pairs

section Written

variable {room : Nat} {payload : List (String × PyObject)} {pairs : List (String × Json)}

theorem image_dict_iff {w : Json} :
    image (room + 1) (.dict (payload.map fun item => (.str item.1, item.2))) = some w ↔
      ∃ pairs, Written room payload pairs ∧ w = .obj pairs := by
  rw [image, Option.map_eq_some_iff]
  constructor
  · rintro ⟨pairs, each, rfl⟩
    refine ⟨pairs, (List.forall₂_map_left_iff.1 (imagePairs_eq_some_iff.1 each)).imp fun item pair here => ?_, rfl⟩
    exact ⟨Option.some.inj here.1, here.2⟩
  · rintro ⟨pairs, written, rfl⟩
    refine ⟨pairs, imagePairs_eq_some_iff.2 (List.forall₂_map_left_iff.2 (written.imp fun item pair here => ?_)), rfl⟩
    exact ⟨congrArg some here.1, here.2⟩

/-- The line has the keys of the payload. -/
theorem Written.keys (written : Written room payload pairs) : pairs.map Prod.fst = payload.map Prod.fst := by
  induction written with
  | nil => rfl
  | cons here _ ih => rw [List.map_cons, List.map_cons, ih, here.1]

/-- A field of the line is the image of the field of the payload. -/
theorem Written.dictGet (written : Written room payload pairs) (key : String) :
    dictGet pairs key = (dictGet payload key).bind (image room) := by
  induction written with
  | nil => rfl
  | @cons item pair payload pairs here _ ih =>
    rw [dictGet_cons, dictGet_cons, ← here.1, ih]
    by_cases same : item.1 = key
    · rw [if_pos same, if_pos same, Option.bind_some, here.2]
    · rw [if_neg same, if_neg same]

theorem exists_written (each : ∀ item ∈ payload, ∃ v, image room item.2 = some v ∧ Standard v) :
    ∃ pairs, Written room payload pairs ∧ Standard (.obj pairs) := by
  induction payload with
  | nil => exact ⟨[], .nil, .obj fun pair member => absurd member List.not_mem_nil⟩
  | cons item payload ih =>
    obtain ⟨v, here, standard⟩ := each item List.mem_cons_self
    obtain ⟨pairs, others, all⟩ := ih fun other member => each other (List.mem_cons_of_mem item member)
    cases all with
    | obj all =>
      exact ⟨(item.1, v) :: pairs, .cons ⟨rfl, here⟩ others, .obj (List.forall_mem_cons.2 ⟨standard, all⟩)⟩

end Written

/-- **The line of an object.** It is JSON exactly if the object has a value that JSON has
a text for, and then it denotes this value. -/
theorem dumpsLine_read_iff {room : Nat} {obj : PyObject} {w : Json} :
    (∃ text, dumpsLine room obj = some text ∧ loadsStrict text = some w) ↔
      image room obj = some w ∧ Standard w := by
  constructor
  · rintro ⟨text, dumped, read⟩
    obtain ⟨v, written, dumped⟩ := Option.bind_eq_some_iff.1 dumped
    obtain ⟨cs, texts, same⟩ := Option.bind_eq_some_iff.1 dumped
    cases same
    obtain ⟨standard, rfl⟩ := (loadsStrict_line (doubles_image written) texts w).1 read
    exact ⟨written, standard⟩
  · rintro ⟨written, standard⟩
    obtain ⟨cs, texts⟩ := Option.isSome_iff_exists.1 standard.line
    refine ⟨String.ofList cs, ?_, (loadsStrict_line (doubles_image written) texts w).2 ⟨standard, rfl⟩⟩
    exact Option.bind_eq_some_iff.2 ⟨w, written, Option.bind_eq_some_iff.2 ⟨cs, texts, rfl⟩⟩

/-- A line is printable, whatever it says. -/
theorem printable_dumpsLine {room : Nat} {obj : PyObject} {text : String} (dumped : dumpsLine room obj = some text) :
    Printable text.toList := by
  obtain ⟨v, -, dumped⟩ := Option.bind_eq_some_iff.1 dumped
  obtain ⟨cs, texts, same⟩ := Option.bind_eq_some_iff.1 dumped
  cases same
  rw [String.toList_ofList]
  exact printable_line v texts

end Json
end Python
