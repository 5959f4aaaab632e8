import LlmTts.Lib.Python

/-!
# The correlation id of a request

`_resolve_request_id` and `_wrap_send` of `observability/request_id.py`: the id that
a client supplies, if it is safe to echo, or a fresh one, and the header that carries
it.
-/

namespace LlmTts
open Python

/-- The headers of an ASGI message. -/
abbrev Headers : Type := List (Bytes × Bytes)

/-- `value.decode("latin-1")`. -/
def latin1 (value : Bytes) : String := String.ofList (value.map fun b => Char.ofNat b.toNat)

/-- `text.encode("latin-1")` of a text that has only such characters. -/
def latin1Bytes (text : String) : Bytes := text.toList.map fun c => UInt8.ofNat c.toNat

/-- `name.lower()` of bytes. -/
def lowerBytes (name : Bytes) : Bytes := name.map fun b => if 65 ≤ b ∧ b ≤ 90 then b + 32 else b

/-- `REQUEST_ID_HEADER`, as bytes. -/
def requestIdHeader : Bytes := latin1Bytes "x-request-id"

/-- The class `[A-Za-z0-9._\-]`. -/
def safeIdChar (c : Char) : Bool :=
  ('A' ≤ c && c ≤ 'Z') || ('a' ≤ c && c ≤ 'z') || ('0' ≤ c && c ≤ '9') || c == '.' || c == '_' || c == '-'

/-- The whole of `cs` matches `[A-Za-z0-9._\-]{1,128}`. -/
def safeIdBody (cs : List Char) : Bool := 1 ≤ cs.length && cs.length ≤ 128 && cs.all safeIdChar

/-- `_SAFE_REQUEST_ID_RE.match(text)`. A trailing `$` of `re.match` also matches just
before a final newline. -/
def safeIdMatch (text : String) : Bool :=
  safeIdBody text.toList || (text.toList.getLast? == some '\n' && safeIdBody text.toList.dropLast)

/-- `uuid.uuid4().hex`: 32 lowercase hexadecimal digits. -/
structure HexId where
  text : String
  length : text.toList.length = 32
  hex : ∀ c ∈ text.toList, (('0' ≤ c && c ≤ '9') || ('a' ≤ c && c ≤ 'f')) = true

/-- One of them. -/
def someHexId : HexId := ⟨"0123456789abcdef0123456789abcdef", by decide, List.all_eq_true.1 (by decide)⟩

/-- `_resolve_request_id`. Only the first header of that name is looked at. -/
def resolveRequestId (fresh : HexId) (headers : Headers) : String :=
  match headers.find? fun header => lowerBytes header.1 = requestIdHeader with
  | none => fresh.text
  | some header =>
    let decoded := strip (latin1 header.2)
    if decoded ≠ "" ∧ safeIdMatch decoded = true then decoded else fresh.text

/-- The `send` of `_wrap_send`, on the headers of a response: the id is added unless
the response has one. -/
def wrapSend (requestId : String) (headers : Headers) : Headers :=
  if headers.any fun header => lowerBytes header.1 = requestIdHeader then headers
  else headers ++ [(requestIdHeader, latin1Bytes requestId)]

/-! ## The id is safe to echo -/

/-- A stripped text has no final newline. -/
theorem getLast?_strip (text : String) : (strip text).toList.getLast? ≠ some '\n' := by
  intro last
  rw [toList_strip] at last
  have full : (text.toList.dropWhile isSpace).rdropWhile isSpace ≠ [] := by
    intro empty
    rw [empty] at last
    cases last
  have stops := List.rdropWhile_last_not isSpace _ full
  rw [List.getLast?_eq_some_getLast full] at last
  rw [Option.some.inj last] at stops
  exact stops (by decide)

theorem safeIdMatch_strip {text : String} (safe : safeIdMatch (strip text) = true) :
    safeIdBody (strip text).toList = true := by
  simp only [safeIdMatch, Bool.or_eq_true, Bool.and_eq_true, beq_iff_eq] at safe
  rcases safe with body | newline
  · exact body
  · exact absurd newline.1 (getLast?_strip text)

/-- A fresh id is safe. -/
theorem HexId.safe (fresh : HexId) : safeIdBody fresh.text.toList = true := by
  simp only [safeIdBody, fresh.length, Bool.and_eq_true, List.all_eq_true]
  refine ⟨by decide, fun c member => ?_⟩
  have hex := fresh.hex c member
  simp only [safeIdChar, Bool.or_eq_true, Bool.and_eq_true, decide_eq_true_eq] at hex ⊢
  rcases hex with digit | letter
  · exact .inl (.inl (.inl (.inr digit)))
  · exact .inl (.inl (.inl (.inl (.inr ⟨letter.1, Char.le_trans letter.2 (by decide)⟩))))

/-- So is the id of every request. -/
theorem resolveRequestId_safe (fresh : HexId) (headers : Headers) :
    safeIdBody (resolveRequestId fresh headers).toList = true := by
  unfold resolveRequestId
  split
  · exact fresh.safe
  · rename_i header _
    dsimp only
    split
    · rename_i accepted
      exact safeIdMatch_strip accepted.2
    · exact fresh.safe

/-! ## The header of the response -/

/-- The values of the `X-Request-ID` headers. -/
def requestIds (headers : Headers) : List Bytes :=
  (headers.filter fun header => lowerBytes header.1 = requestIdHeader).map Prod.snd

theorem requestIds_append (front back : Headers) : requestIds (front ++ back) = requestIds front ++ requestIds back := by
  simp [requestIds]

/-- A response gets the id only if it has none. -/
theorem requestIds_wrapSend (requestId : String) (headers : Headers) :
    requestIds (wrapSend requestId headers) =
      if requestIds headers = [] then [latin1Bytes requestId] else requestIds headers := by
  have absent_iff : requestIds headers = [] ↔ ¬(headers.any fun header => lowerBytes header.1 = requestIdHeader) = true := by
    simp [requestIds]
  unfold wrapSend
  by_cases already : (headers.any fun header => lowerBytes header.1 = requestIdHeader) = true
  · rw [if_pos already, if_neg fun empty => absent_iff.1 empty already]
  · have empty := absent_iff.2 already
    have here : lowerBytes requestIdHeader = requestIdHeader := by decide
    rw [if_neg already, if_pos empty, requestIds_append, empty]
    simp [requestIds, here]

/-! ## Which id a request gets -/

/-- The value of the first `X-Request-ID` header, however its name is spelled. -/
def FirstRequestId (headers : Headers) (value : Bytes) : Prop :=
  ∃ front name back, headers = front ++ (name, value) :: back ∧ lowerBytes name = requestIdHeader ∧
    ∀ header ∈ front, lowerBytes header.1 ≠ requestIdHeader

/-- 1 to 128 letters, digits, dots, underscores and hyphens. -/
structure SafeId (text : String) : Prop where
  nonempty : 1 ≤ text.length
  short : text.length ≤ 128
  chars : ∀ c ∈ text.toList, safeIdChar c = true

/-- The characters and the length of a safe id, as the check computes them. -/
theorem safeId_iff {text : String} : SafeId text ↔ safeIdBody text.toList = true := by
  have length : text.toList.length = text.length := String.length_toList
  unfold safeIdBody
  simp only [length, Bool.and_eq_true, decide_eq_true_eq, List.all_eq_true]
  constructor
  · rintro ⟨nonempty, short, chars⟩
    exact ⟨⟨nonempty, short⟩, chars⟩
  · rintro ⟨⟨nonempty, short⟩, chars⟩
    exact ⟨nonempty, short, chars⟩

section Which

variable {headers : Headers} {value : Bytes}

/-- The first header of that name counts. -/
theorem firstRequestId_iff : FirstRequestId headers value ↔
    ∃ name, headers.find? (fun header => lowerBytes header.1 = requestIdHeader) = some (name, value) := by
  simp only [List.find?_eq_some_iff_append, decide_eq_true_eq, FirstRequestId, Bool.not_eq_eq_eq_not,
    Bool.not_true, decide_eq_false_iff_not]
  constructor
  · rintro ⟨front, name, back, split, here, before⟩
    exact ⟨name, here, front, back, split, before⟩
  · rintro ⟨name, here, front, back, split, before⟩
    exact ⟨front, name, back, split, here, before⟩

/-- A safe first value is taken, stripped; the strip leaves nothing that the end of the
pattern would let pass. -/
theorem resolveRequestId_first (first : FirstRequestId headers value) (fresh : HexId) :
    (SafeId (strip (latin1 value)) → resolveRequestId fresh headers = strip (latin1 value)) ∧
      (¬SafeId (strip (latin1 value)) → resolveRequestId fresh headers = fresh.text) := by
  obtain ⟨name, found⟩ := firstRequestId_iff.1 first
  unfold resolveRequestId
  rw [found]
  dsimp only
  constructor
  · intro safe
    have matched : safeIdMatch (strip (latin1 value)) = true := by
      unfold safeIdMatch
      rw [safeId_iff.1 safe, Bool.true_or]
    have full : strip (latin1 value) ≠ "" := by
      intro empty
      have nonempty := safe.nonempty
      rw [empty] at nonempty
      exact absurd nonempty (by decide)
    rw [if_pos ⟨full, matched⟩]
  · intro dangerous
    apply if_neg
    rintro ⟨-, matched⟩
    exact dangerous (safeId_iff.2 (safeIdMatch_strip matched))

/-- Without such a header the id is a fresh one. -/
theorem resolveRequestId_none (absent : ∀ value, ¬FirstRequestId headers value) (fresh : HexId) :
    resolveRequestId fresh headers = fresh.text := by
  unfold resolveRequestId
  cases found : headers.find? fun header => lowerBytes header.1 = requestIdHeader with
  | none => rfl
  | some header => exact absurd (firstRequestId_iff.2 ⟨header.1, found⟩) (absent header.2)

theorem FirstRequestId.unique {other : Bytes} (first : FirstRequestId headers value)
    (second : FirstRequestId headers other) : value = other := by
  obtain ⟨name, found⟩ := firstRequestId_iff.1 first
  obtain ⟨name', found'⟩ := firstRequestId_iff.1 second
  cases found.symm.trans found'
  rfl

end Which

/-- A second one. -/
def otherHexId : HexId := ⟨"fedcba9876543210fedcba9876543210", by decide, List.all_eq_true.1 (by decide)⟩

/-- **Inbound ids.** For every list of headers: the first `X-Request-ID`, stripped, is the
id where it is safe; a fresh id is taken exactly if there is no such header or the first
one is not safe. -/
theorem requestId_exact (headers : Headers) :
    (∀ value, FirstRequestId headers value → SafeId (strip (latin1 value)) →
      ∀ fresh, resolveRequestId fresh headers = strip (latin1 value)) ∧
    ((∀ fresh, resolveRequestId fresh headers = fresh.text) ↔
      ∀ value, FirstRequestId headers value → ¬SafeId (strip (latin1 value))) := by
  constructor
  · intro value first safe fresh
    exact (resolveRequestId_first first fresh).1 safe
  · constructor
    · intro minted value first safe
      have one := (minted someHexId).symm.trans ((resolveRequestId_first first someHexId).1 safe)
      have two := (minted otherHexId).symm.trans ((resolveRequestId_first first otherHexId).1 safe)
      exact absurd (one.trans two.symm) (by decide)
    · intro refused fresh
      by_cases present : ∃ value, FirstRequestId headers value
      · obtain ⟨value, first⟩ := present
        exact (resolveRequestId_first first fresh).2 (refused value first)
      · exact resolveRequestId_none (not_exists.1 present) fresh

/-- The second header is not looked at, nor is the white space of the first. -/
theorem requestId_stripped (fresh : HexId) :
    resolveRequestId fresh [(latin1Bytes "X-Request-Id", latin1Bytes " abc\n"),
      (latin1Bytes "x-request-id", latin1Bytes "def")] = "abc" := by
  have stripped : strip (latin1 (latin1Bytes " abc\n")) = "abc" := by decide
  have safe : SafeId (strip (latin1 (latin1Bytes " abc\n"))) := by
    rw [stripped]
    exact safeId_iff.2 (by decide)
  have first : FirstRequestId [(latin1Bytes "X-Request-Id", latin1Bytes " abc\n"),
      (latin1Bytes "x-request-id", latin1Bytes "def")] (latin1Bytes " abc\n") :=
    ⟨[], latin1Bytes "X-Request-Id", _, rfl, by decide, List.forall_mem_nil _⟩
  exact ((requestId_exact _).1 _ first safe fresh).trans stripped

end LlmTts
