import LlmTts.Lib.JsonLoads
import LlmTts.Voice.SeedMerge

/-!
# Seed files of any content

One ingestion pass alone over a seed file given by its bytes, with repositories that
work. `_parse_and_validate` turns one class of exceptions into a pass that ends with 0;
`seed_handled_iff` says for which contents nothing else is raised on the way.
-/

namespace LlmTts
open Python Effect Checked

/-- What reading a seed file of these bytes gives. `limit` is the nesting of arrays and
objects that the stack has room for. -/
def seedText (limit : Nat) (content : Bytes) : SeedText :=
  match readText content with
  | none => .unreadable
  | some text =>
    match Json.read limit text with
    | .ok value => .json value
    | .error .decode => .invalidJson
    | .error _ => .unreadable

/-! ## Entries -/

section Fields

variable (fields : List (String × Json))

/-- The four strings of an entry are as they have to be. -/
structure ValidTexts : Prop where
  path : ∃ s, bodyGet fields "ref_audio_path" .null = .str s ∧ s ≠ ""
  transcript : ∃ s, bodyGet fields "ref_text" (.str "") = .str s
  language : ∃ s, bodyGet fields "language" .null = .str s ∧ isBlank s = false
  numberLang : ∃ s, bodyGet fields "number_lang" (.str "") = .str s

def ValidTemperature : Prop :=
  ∃ x, (bodyGet fields "temperature" (.float defaultTemperature)).float? = some (some x) ∧
    PyFloat.le (.finite 0) x = true ∧ x.le (.finite 2) = true

def ValidTopP : Prop :=
  ∃ x, (bodyGet fields "top_p" (.float defaultTopP)).float? = some (some x) ∧
    PyFloat.lt (.finite 0) x = true ∧ x.le (.finite 1) = true

def ValidMaxSentences : Prop := ∃ n, (bodyGet fields "max_sentences_per_chunk" (.int 2)).int? = some n ∧ 1 ≤ n.toInt

/-- The integer is beyond the floats, so that `float` of it raises an `OverflowError`. -/
def Overflows (value : Json) : Prop := value.float? = some none

def targetDbOf : Json := bodyGet fields "target_db" (.float (.finite (-20)))

/-- The reference audio of an entry; the empty string where there is none. -/
def refAudioPath : String :=
  match bodyGet fields "ref_audio_path" .null with
  | .str s => s
  | _ => ""

/-- The reference audio is a file that can be read. -/
def ValidAudio (probe : String → Option AudioProbe) : Prop := probe (refAudioPath fields) = some ⟨true, true, true⟩

/-- The fields make an entry. -/
structure ValidFields (probe : String → Option AudioProbe) : Prop extends ValidTexts fields where
  temperature : ValidTemperature fields
  topP : ValidTopP fields
  targetDb : ∃ x, (targetDbOf fields).float? = some (some x)
  maxSentences : ValidMaxSentences fields
  audio : ValidAudio fields probe

/-- A call on the fields raises, and the checks before it pass. The three numbers are
converted in this order; the path is looked at before `target_db` is converted. -/
inductive RaisingFields (probe : String → Option AudioProbe) : Prop
  | temperature (texts : ValidTexts fields)
      (overflows : Overflows (bodyGet fields "temperature" (.float defaultTemperature)))
  | topP (texts : ValidTexts fields) (temperature : ValidTemperature fields)
      (overflows : Overflows (bodyGet fields "top_p" (.float defaultTopP)))
  | probe (texts : ValidTexts fields) (temperature : ValidTemperature fields) (topP : ValidTopP fields)
      (number : (targetDbOf fields).float?.isSome) (maxSentences : ValidMaxSentences fields)
      (raises : probe (refAudioPath fields) = none)
  | targetDb (texts : ValidTexts fields) (temperature : ValidTemperature fields) (topP : ValidTopP fields)
      (maxSentences : ValidMaxSentences fields) (audio : ValidAudio fields probe)
      (overflows : Overflows (targetDbOf fields))

end Fields

/-- A member of the voice map is a valid entry. -/
def ValidEntry (probe : String → Option AudioProbe) (item : String × Json) : Prop :=
  validateVoiceId item.1 = .ok () ∧ ∃ pairs, item.2 = .obj pairs ∧ ValidFields (dictItems pairs) probe

/-- The validation of a member raises something else than a validation error. -/
def RaisingEntry (probe : String → Option AudioProbe) (item : String × Json) : Prop :=
  validateVoiceId item.1 = .ok () ∧ ∃ pairs, item.2 = .obj pairs ∧ RaisingFields (dictItems pairs) probe

/-! ## The checks -/

section Checks

variable {value : Json} {reason voiceId : String}

/-- A text is accepted as it is. -/
theorem stringField_ok_iff {accept : String → Bool} {s : String} :
    stringField value accept reason voiceId = .ok s ↔ value = .str s ∧ accept s = true := by
  cases value with
  | str t =>
    by_cases accepted : accept t = true
    · simp only [stringField, accepted, if_true, Except.ok.injEq, Json.str.injEq]
      constructor
      · rintro rfl
        exact ⟨rfl, accepted⟩
      · rintro ⟨rfl, -⟩
        rfl
    · simp only [stringField, accepted, if_false, reduceCtorEq, Json.str.injEq, false_iff]
      rintro ⟨rfl, same⟩
      exact accepted same
  | _ => simp [stringField]

theorem stringField_quiet {accept : String → Bool} : stringField value accept reason voiceId ≠ .error .raises := by
  unfold stringField
  split
  · split <;> simp
  · simp

/-- A number is accepted as the float that it converts to. -/
theorem numberField_ok_iff {accept : PyFloat → Bool} {x : PyFloat} :
    numberField value accept reason voiceId = .ok x ↔ value.float? = some (some x) ∧ accept x = true := by
  unfold numberField
  split
  · rename_i unread
    simp [unread]
  · rename_i unread
    simp [unread]
  · rename_i y read
    rw [read]
    split
    · rename_i accepted
      constructor
      · rintro ⟨rfl⟩
        exact ⟨rfl, accepted⟩
      · rintro ⟨⟨rfl⟩, -⟩
        rfl
    · rename_i refused
      simp only [reduceCtorEq, Option.some.injEq, false_iff]
      rintro ⟨rfl, accepted⟩
      exact refused accepted

/-- An integer beyond the floats raises. -/
theorem numberField_raises_iff {accept : PyFloat → Bool} :
    numberField value accept reason voiceId = .error .raises ↔ Overflows value := by
  unfold numberField Overflows
  split
  · rename_i unread
    simp [unread]
  · rename_i unread
    simp [unread]
  · rename_i y read
    rw [read]
    split <;> simp

theorem isNumber_ok_iff : isNumber value reason voiceId = .ok () ↔ value.float?.isSome := by
  unfold isNumber
  split
  · rename_i number
    exact iff_of_true rfl number
  · rename_i different
    simp [different]

theorem isNumber_quiet : isNumber value reason voiceId ≠ .error .raises := by
  unfold isNumber
  split <;> simp

/-- An integer is accepted from 1 on, a bool among them. -/
theorem maxSentencesField_ok_iff {n : PyInt} :
    maxSentencesField value voiceId = .ok n ↔ value.int? = some n ∧ 1 ≤ n.toInt := by
  unfold maxSentencesField
  split
  · rename_i m number
    rw [number]
    split
    · rename_i positive
      constructor
      · rintro ⟨rfl⟩
        exact ⟨rfl, positive⟩
      · rintro ⟨⟨rfl⟩, -⟩
        rfl
    · rename_i small
      simp only [reduceCtorEq, Option.some.injEq, false_iff]
      rintro ⟨rfl, positive⟩
      exact small positive
  · rename_i unread
    simp [unread]

theorem maxSentencesField_quiet : maxSentencesField value voiceId ≠ .error .raises := by
  unfold maxSentencesField
  split
  · split <;> simp
  · simp

variable {probe : String → Option AudioProbe} {path : String}

/-- The sample has to be there, a file, and readable. -/
theorem probeAudio_ok_iff : probeAudio probe path voiceId = .ok () ↔ probe path = some ⟨true, true, true⟩ := by
  unfold probeAudio
  cases probe path with
  | none => simp
  | some audio =>
    obtain ⟨there, file, readable⟩ := audio
    cases there <;> cases file <;> cases readable <;> simp

/-- A sample that cannot be looked at raises. -/
theorem probeAudio_raises_iff : probeAudio probe path voiceId = .error .raises ↔ probe path = none := by
  unfold probeAudio
  cases probe path with
  | none => simp
  | some audio =>
    obtain ⟨there, file, readable⟩ := audio
    cases there <;> cases file <;> cases readable <;> simp

theorem validEntryId_ok_iff : validEntryId voiceId = .ok () ↔ validateVoiceId voiceId = .ok () := mapError_ok_iff

theorem validEntryId_quiet : validEntryId voiceId ≠ .error .raises := by
  unfold validEntryId
  cases validateVoiceId voiceId <;> simp [Except.mapError]

/-- An entry is an object; of equal keys the last counts. -/
theorem entryFields_ok_iff {fields : List (String × Json)} :
    entryFields voiceId value = .ok fields ↔ ∃ pairs, value = .obj pairs ∧ dictItems pairs = fields := by
  cases value <;> simp [entryFields]

theorem entryFields_quiet : entryFields voiceId value ≠ .error .raises := by
  cases value <;> simp [entryFields]

end Checks

/-! ## One entry -/

section Entry

variable {probe : String → Option AudioProbe} {voiceId : String} {body : Json} {fields : List (String × Json)}

/-- What the four string checks of an entry return. -/
theorem ValidTexts.checks (texts : ValidTexts fields) (voiceId : String) :
    ∃ transcript language numberLang,
      stringField (bodyGet fields "ref_audio_path" .null) (!·.isEmpty) "missing_ref_audio_path" voiceId =
        .ok (refAudioPath fields) ∧
      stringField (bodyGet fields "ref_text" (.str "")) (fun _ => true) "transcript_not_string" voiceId =
        .ok transcript ∧
      stringField (bodyGet fields "language" .null) (!isBlank ·) "missing_language" voiceId = .ok language ∧
      stringField (bodyGet fields "number_lang" (.str "")) (fun _ => true) "number_lang_not_string" voiceId =
        .ok numberLang := by
  obtain ⟨path, here, nonempty⟩ := texts.path
  obtain ⟨transcript, text⟩ := texts.transcript
  obtain ⟨language, spoken, full⟩ := texts.language
  obtain ⟨numberLang, numbers⟩ := texts.numberLang
  refine ⟨transcript, language, numberLang, stringField_ok_iff.2 ?_, stringField_ok_iff.2 ⟨text, rfl⟩,
    stringField_ok_iff.2 ⟨spoken, ?_⟩, stringField_ok_iff.2 ⟨numbers, rfl⟩⟩
  · unfold refAudioPath
    rw [here]
    refine ⟨rfl, ?_⟩
    simp [nonempty]
  · simp [full]

theorem validTexts_of_checks {path transcript language numberLang : String}
    (here : stringField (bodyGet fields "ref_audio_path" .null) (!·.isEmpty) "missing_ref_audio_path" voiceId =
      .ok path)
    (text : stringField (bodyGet fields "ref_text" (.str "")) (fun _ => true) "transcript_not_string" voiceId =
      .ok transcript)
    (spoken : stringField (bodyGet fields "language" .null) (!isBlank ·) "missing_language" voiceId = .ok language)
    (numbers : stringField (bodyGet fields "number_lang" (.str "")) (fun _ => true) "number_lang_not_string" voiceId =
      .ok numberLang) : ValidTexts fields ∧ path = refAudioPath fields := by
  obtain ⟨found, nonempty⟩ := stringField_ok_iff.1 here
  obtain ⟨spelled, full⟩ := stringField_ok_iff.1 spoken
  constructor
  · constructor
    · refine ⟨path, found, ?_⟩
      rintro rfl
      exact absurd nonempty (by decide)
    · exact ⟨transcript, (stringField_ok_iff.1 text).1⟩
    · refine ⟨language, spelled, ?_⟩
      simpa using full
    · exact ⟨numberLang, (stringField_ok_iff.1 numbers).1⟩
  · unfold refAudioPath
    rw [found]

theorem ValidTemperature.check (valid : ValidTemperature fields) (voiceId : String) :
    ∃ x, numberField (bodyGet fields "temperature" (.float defaultTemperature))
      (fun x => PyFloat.le (.finite 0) x && x.le (.finite 2)) "temperature_invalid" voiceId = .ok x := by
  obtain ⟨x, converted, range⟩ := valid
  exact ⟨x, numberField_ok_iff.2 ⟨converted, Bool.and_eq_true_iff.2 range⟩⟩

theorem ValidTopP.check (valid : ValidTopP fields) (voiceId : String) :
    ∃ x, numberField (bodyGet fields "top_p" (.float defaultTopP))
      (fun x => PyFloat.lt (.finite 0) x && x.le (.finite 1)) "top_p_invalid" voiceId = .ok x := by
  obtain ⟨x, converted, range⟩ := valid
  exact ⟨x, numberField_ok_iff.2 ⟨converted, Bool.and_eq_true_iff.2 range⟩⟩

/-- A valid entry is accepted, and an accepted one is valid. -/
theorem validateEntry_ok_iff :
    (∃ entry, validateEntry probe voiceId body = .ok entry) ↔ ValidEntry probe (voiceId, body) := by
  constructor
  · rintro ⟨entry, accepted⟩
    unfold validateEntry at accepted
    simp only [Checked.bind_ok_iff] at accepted
    obtain ⟨_, id, fields, object, path, here, transcript, text, language, spoken, numberLang, numbers, temperature,
      warm, topP, top, _, -, n, sentences, _, audio, targetDb, target, -⟩ := accepted
    obtain ⟨texts, same⟩ := validTexts_of_checks here text spoken numbers
    obtain ⟨pairs, rfl, rfl⟩ := entryFields_ok_iff.1 object
    obtain ⟨converted, range⟩ := numberField_ok_iff.1 warm
    obtain ⟨converted', range'⟩ := numberField_ok_iff.1 top
    refine ⟨validEntryId_ok_iff.1 id, pairs, rfl, texts, ?_, ?_, ⟨targetDb, (numberField_ok_iff.1 target).1⟩,
      ⟨n, maxSentencesField_ok_iff.1 sentences⟩, ?_⟩
    · exact ⟨temperature, converted, Bool.and_eq_true_iff.1 range⟩
    · exact ⟨topP, converted', Bool.and_eq_true_iff.1 range'⟩
    · unfold ValidAudio
      rw [← same]
      exact probeAudio_ok_iff.1 audio
  · rintro ⟨id, pairs, rfl, valid⟩
    obtain ⟨transcript, language, numberLang, here, text, spoken, numbers⟩ := valid.toValidTexts.checks voiceId
    obtain ⟨temperature, warm⟩ := valid.temperature.check voiceId
    obtain ⟨topP, top⟩ := valid.topP.check voiceId
    obtain ⟨targetDb, target⟩ := valid.targetDb
    obtain ⟨n, sentences⟩ := valid.maxSentences
    unfold validateEntry
    simp only [Checked.bind_ok_iff]
    exact ⟨_, (), validEntryId_ok_iff.2 id, _, entryFields_ok_iff.2 ⟨pairs, rfl, rfl⟩, _, here, _, text, _, spoken, _,
      numbers, temperature, warm, topP, top, (), isNumber_ok_iff.2 (Option.isSome_of_mem target), n,
      maxSentencesField_ok_iff.2 sentences, (), probeAudio_ok_iff.2 valid.audio, targetDb,
      numberField_ok_iff.2 ⟨target, rfl⟩, rfl⟩

/-- The validation of an entry raises where a conversion does, or the look at its path. -/
theorem validateEntry_raises_iff :
    validateEntry probe voiceId body = .error .raises ↔ RaisingEntry probe (voiceId, body) := by
  constructor
  · intro raised
    unfold validateEntry at raised
    obtain ⟨_, id, raised⟩ := (bind_error_iff.1 raised).resolve_left validEntryId_quiet
    obtain ⟨fields, object, raised⟩ := (bind_error_iff.1 raised).resolve_left entryFields_quiet
    obtain ⟨path, here, raised⟩ := (bind_error_iff.1 raised).resolve_left stringField_quiet
    obtain ⟨transcript, text, raised⟩ := (bind_error_iff.1 raised).resolve_left stringField_quiet
    obtain ⟨language, spoken, raised⟩ := (bind_error_iff.1 raised).resolve_left stringField_quiet
    obtain ⟨numberLang, numbers, raised⟩ := (bind_error_iff.1 raised).resolve_left stringField_quiet
    obtain ⟨texts, rfl⟩ := validTexts_of_checks here text spoken numbers
    obtain ⟨pairs, rfl, rfl⟩ := entryFields_ok_iff.1 object
    refine ⟨validEntryId_ok_iff.1 id, pairs, rfl, ?_⟩
    rcases bind_error_iff.1 raised with overflows | ⟨temperature, warm, raised⟩
    · exact .temperature texts (numberField_raises_iff.1 overflows)
    obtain ⟨converted, range⟩ := numberField_ok_iff.1 warm
    have valid : ValidTemperature (dictItems pairs) := ⟨temperature, converted, Bool.and_eq_true_iff.1 range⟩
    rcases bind_error_iff.1 raised with overflows | ⟨topP, top, raised⟩
    · exact .topP texts valid (numberField_raises_iff.1 overflows)
    obtain ⟨converted', range'⟩ := numberField_ok_iff.1 top
    have valid' : ValidTopP (dictItems pairs) := ⟨topP, converted', Bool.and_eq_true_iff.1 range'⟩
    obtain ⟨_, number, raised⟩ := (bind_error_iff.1 raised).resolve_left isNumber_quiet
    obtain ⟨n, sentences, raised⟩ := (bind_error_iff.1 raised).resolve_left maxSentencesField_quiet
    have counted : ValidMaxSentences (dictItems pairs) := ⟨n, maxSentencesField_ok_iff.1 sentences⟩
    rcases bind_error_iff.1 raised with looks | ⟨_, audio, raised⟩
    · exact .probe texts valid valid' (isNumber_ok_iff.1 number) counted (probeAudio_raises_iff.1 looks)
    rcases bind_error_iff.1 raised with overflows | ⟨targetDb, -, built⟩
    · exact .targetDb texts valid valid' counted (probeAudio_ok_iff.1 audio) (numberField_raises_iff.1 overflows)
    · cases built
  · rintro ⟨id, pairs, rfl, raising⟩
    have texts : ValidTexts (dictItems pairs) := by cases raising <;> assumption
    obtain ⟨transcript, language, numberLang, here, text, spoken, numbers⟩ := texts.checks voiceId
    unfold validateEntry
    apply bind_error_iff.2 (.inr ⟨(), validEntryId_ok_iff.2 id, _⟩)
    apply bind_error_iff.2 (.inr ⟨_, entryFields_ok_iff.2 ⟨pairs, rfl, rfl⟩, _⟩)
    apply bind_error_iff.2 (.inr ⟨_, here, _⟩)
    apply bind_error_iff.2 (.inr ⟨_, text, _⟩)
    apply bind_error_iff.2 (.inr ⟨_, spoken, _⟩)
    apply bind_error_iff.2 (.inr ⟨_, numbers, _⟩)
    cases raising with
    | temperature _ overflows => exact bind_error_iff.2 (.inl (numberField_raises_iff.2 overflows))
    | topP _ temperature overflows =>
      obtain ⟨x, warm⟩ := temperature.check voiceId
      apply bind_error_iff.2 (.inr ⟨x, warm, _⟩)
      exact bind_error_iff.2 (.inl (numberField_raises_iff.2 overflows))
    | probe _ temperature topP number maxSentences raises =>
      obtain ⟨x, warm⟩ := temperature.check voiceId
      obtain ⟨y, top⟩ := topP.check voiceId
      obtain ⟨n, sentences⟩ := maxSentences
      apply bind_error_iff.2 (.inr ⟨x, warm, _⟩)
      apply bind_error_iff.2 (.inr ⟨y, top, _⟩)
      apply bind_error_iff.2 (.inr ⟨(), isNumber_ok_iff.2 number, _⟩)
      apply bind_error_iff.2 (.inr ⟨n, maxSentencesField_ok_iff.2 sentences, _⟩)
      exact bind_error_iff.2 (.inl (probeAudio_raises_iff.2 raises))
    | targetDb _ temperature topP maxSentences audio overflows =>
      obtain ⟨x, warm⟩ := temperature.check voiceId
      obtain ⟨y, top⟩ := topP.check voiceId
      obtain ⟨n, sentences⟩ := maxSentences
      have number : (targetDbOf (dictItems pairs)).float?.isSome := by
        unfold Overflows at overflows
        rw [overflows]
        rfl
      apply bind_error_iff.2 (.inr ⟨x, warm, _⟩)
      apply bind_error_iff.2 (.inr ⟨y, top, _⟩)
      apply bind_error_iff.2 (.inr ⟨(), isNumber_ok_iff.2 number, _⟩)
      apply bind_error_iff.2 (.inr ⟨n, maxSentencesField_ok_iff.2 sentences, _⟩)
      apply bind_error_iff.2 (.inr ⟨(), probeAudio_ok_iff.2 audio, _⟩)
      exact bind_error_iff.2 (.inl (numberField_raises_iff.2 overflows))

/-- The path of an accepted entry is that of its member. -/
theorem validateEntry_path {entry : ParsedSeedEntry} {pairs : List (String × Json)}
    (accepted : validateEntry probe voiceId (.obj pairs) = .ok entry) :
    entry.refAudioPath = refAudioPath (dictItems pairs) := by
  unfold validateEntry at accepted
  simp only [Checked.bind_ok_iff] at accepted
  obtain ⟨_, -, fields, object, path, here, transcript, text, language, spoken, numberLang, numbers, _, -, _, -, _, -,
    _, -, _, -, _, -, built⟩ := accepted
  obtain ⟨-, same⟩ := validTexts_of_checks here text spoken numbers
  cases object
  cases built
  exact same

end Entry

theorem validateEntries_raises_iff {probe : String → Option AudioProbe} {items : List (String × Json)} :
    (items.mapM fun item => validateEntry probe item.1 item.2) = .error .raises ↔
      Reaches (ValidEntry probe) (RaisingEntry probe) items := by
  rw [mapM_error_iff]
  simp only [validateEntry_ok_iff, validateEntry_raises_iff]

/-! ## A pass -/

/-- The path of the audio of a member; the empty string where it is no object. -/
def audioPath : Json → String
  | .obj pairs => refAudioPath (dictItems pairs)
  | _ => ""

section Run

variable {pass : SeedPass} {entries : List ParsedSeedEntry} {s : Stores}

theorem ingest_invalid {reason : String} {voiceId : Option String}
    (rejected : parseAndValidate pass = .error (.invalid reason voiceId)) (plan : List (Outcome StoreError)) :
    alone (.ingest pass) plan s = (.ok (.ingested 0), s) := by
  simp only [alone, VoiceOp.body, ingestOnce, rejected]
  cases pass.text <;> rfl

theorem ingest_raises (rejected : parseAndValidate pass = .error .raises) (plan : List (Outcome StoreError)) :
    alone (.ingest pass) plan s = (.error .other, s) := by
  have there : pass.text ≠ .missing := by
    intro missing
    unfold parseAndValidate at rejected
    rw [missing] at rejected
    cases rejected
  simp only [alone, VoiceOp.body, ingestOnce, rejected]
  cases text : pass.text with
  | missing => exact absurd text there
  | unreadable => rfl
  | invalidJson => rfl
  | json value => rfl

/-- The loop returns a count unless it comes to an audio file whose read raises. `s₀` is
the state before the pass. -/
theorem runEntries_returns_iff {s₀ : Stores} (valid : ∀ entry ∈ entries, validateVoiceId entry.voiceId = .ok ())
    (distinct : (entries.map (·.voiceId)).Nodup) (created : Nat)
    (same : ∀ entry ∈ entries, s.metadata entry.voiceId = s₀.metadata entry.voiceId) :
    (∃ count t, runEntries pass entries created [] s = (.ok (.ingested count), t)) ↔
      ¬Reaches
        (fun entry => (s₀.metadata entry.voiceId).isSome ∨ ∃ data, pass.readBytes entry.refAudioPath = .data data)
        (fun entry => s₀.metadata entry.voiceId = none ∧ pass.readBytes entry.refAudioPath = .raises) entries := by
  induction entries generalizing created s with
  | nil => exact iff_of_true ⟨created, s, rfl⟩ not_reaches_nil
  | cons entry entries ih =>
    obtain ⟨first, rest⟩ := List.forall_mem_cons.1 valid
    obtain ⟨here, there⟩ := List.forall_mem_cons.1 same
    obtain ⟨fresh, distinct⟩ := List.nodup_cons.1 (List.map_cons ▸ distinct)
    rw [runEntries_step first, reaches_cons, ← here]
    by_cases present : (s.metadata entry.voiceId).isSome
    · rw [if_pos present, ih rest distinct created there]
      simp [present, Option.isSome_iff_ne_none.1 present]
    · have absent := Option.not_isSome_iff_eq_none.1 present
      rw [if_neg present]
      cases read : pass.readBytes entry.refAudioPath with
      | osError => simp [absent]
      | raises => simp [absent]
      | data data =>
        have after : ∀ e ∈ entries, (entryStored pass entry data s).metadata e.voiceId = s₀.metadata e.voiceId := by
          intro e member
          have apart : e.voiceId ≠ entry.voiceId := fun equal => fresh (List.mem_map.2 ⟨e, member, equal⟩)
          rw [metadata_entryStored, if_neg apart]
          exact there e member
        dsimp only
        rw [ih rest distinct (created + 1) after]
        simp

end Run

/-- The seed step of `lifespan`: what the pass raises ends the start of the service. -/
def lifespanSeed (pass : SeedPass) (s : Stores) : Except Exc Stores :=
  match alone (.ingest pass) [] s with
  | (.ok _, t) => .ok t
  | (.error e, _) => .error e

section Content

variable (limit : Nat) (content : Bytes) (probe : String → Option AudioProbe) (readBytes : String → ReadResult)
  (clock : String → DateTime × DateTime) (s : Stores)

/-- The pass over a seed file of these bytes. -/
def seedPass : SeedPass where
  text := seedText limit content
  probe := probe
  readBytes := readBytes
  clock := clock

/-- The members of the voice map, if the bytes are JSON with an object at its root. -/
def voiceMap : Option (List (String × Json)) :=
  match readText content with
  | none => none
  | some text =>
    match Json.read limit text with
    | .ok (.obj pairs) => some (dictItems pairs)
    | _ => none

def ValidVoiceMap : Prop := ∃ items, voiceMap limit content = some items ∧ ∀ item ∈ items, ValidEntry probe item

/-- A pass over the bytes ends with a count, does nothing where they are no valid voice
map, and lets the service start. -/
structure SeedHandled : Prop where
  returns : ∃ count t, alone (.ingest (seedPass limit content probe readBytes clock)) [] s = (.ok (.ingested count), t)
  refuses : ¬ValidVoiceMap limit content probe →
    alone (.ingest (seedPass limit content probe readBytes clock)) [] s = (.ok (.ingested 0), s)
  starts : ∃ t, lifespanSeed (seedPass limit content probe readBytes clock) s = .ok t

/-- The loop goes on after a member that has a record, or whose audio is read. -/
def Passed (item : String × Json) : Prop :=
  (s.metadata item.1).isSome ∨ ∃ data, readBytes (audioPath item.2) = .data data

/-- The audio of a member without a record raises something else than an `OSError`. -/
def RaisingAudio (item : String × Json) : Prop :=
  s.metadata item.1 = none ∧ readBytes (audioPath item.2) = .raises

/-- Nothing on the way raises what the pass does not expect. -/
structure QuietContent : Prop where
  loads : Json.LoadsQuietly limit content
  /-- The first member that is no valid entry, if there is one, has no number that
  overflows and no path that cannot be looked at. -/
  converts : ∀ items, voiceMap limit content = some items → ¬Reaches (ValidEntry probe) (RaisingEntry probe) items
  /-- In a valid voice map, the first audio file that has to be read and cannot be raises
  an `OSError`. -/
  reads : ∀ items, voiceMap limit content = some items → (∀ item ∈ items, ValidEntry probe item) →
    ¬Reaches (Passed readBytes s) (RaisingAudio readBytes s) items

variable {limit content probe readBytes clock s}

/-- The entries of a seed file are those of its top-level object. -/
theorem exists_of_voiceMap {items : List (String × Json)} (found : voiceMap limit content = some items) :
    ∃ text pairs, readText content = some text ∧ Json.read limit text = .ok (.obj pairs) ∧
      items = dictItems pairs := by
  unfold voiceMap at found
  split at found
  · cases found
  · rename_i text decoded
    split at found
    · rename_i pairs loaded
      cases found
      exact ⟨text, pairs, decoded, loaded, rfl⟩
    · cases found

/-- Each of them is validated. -/
theorem parse_voiceMap {items : List (String × Json)} (found : voiceMap limit content = some items) :
    parseAndValidate (seedPass limit content probe readBytes clock) =
      items.mapM fun item => validateEntry probe item.1 item.2 := by
  obtain ⟨text, pairs, decoded, loaded, rfl⟩ := exists_of_voiceMap found
  have seen : (seedPass limit content probe readBytes clock).text = .json (.obj pairs) := by
    simp only [seedPass, seedText, decoded, loaded]
  unfold parseAndValidate
  rw [seen]
  rfl

/-- Without a voice map the validation fails, and it raises if the bytes cannot be read. -/
theorem parse_no_voiceMap (unmapped : voiceMap limit content = none) :
    Json.LoadsQuietly limit content ∧
        (∃ reason, parseAndValidate (seedPass limit content probe readBytes clock) = .error (.invalid reason none)) ∨
      ¬Json.LoadsQuietly limit content ∧
        parseAndValidate (seedPass limit content probe readBytes clock) = .error .raises := by
  have unfolded : ∀ text, seedText limit content = text →
      parseAndValidate (seedPass limit content probe readBytes clock) =
        parseAndValidate ⟨text, probe, readBytes, clock⟩ := by
    rintro text rfl
    rfl
  cases decoded : readText content with
  | none =>
    have seen : seedText limit content = .unreadable := by simp only [seedText, decoded]
    right
    exact ⟨by simp [Json.LoadsQuietly, decoded], unfolded _ seen⟩
  | some text =>
    cases loaded : Json.read limit text with
    | error e =>
      cases e with
      | decode =>
        have seen : seedText limit content = .invalidJson := by simp only [seedText, decoded, loaded]
        left
        refine ⟨⟨text, decoded, ?_⟩, _, unfolded _ seen⟩
        rintro e' failed
        rw [loaded] at failed
        cases failed
        rfl
      | digits =>
        have seen : seedText limit content = .unreadable := by simp only [seedText, decoded, loaded]
        right
        exact ⟨by simp [Json.LoadsQuietly, decoded, loaded], unfolded _ seen⟩
      | recursion =>
        have seen : seedText limit content = .unreadable := by simp only [seedText, decoded, loaded]
        right
        exact ⟨by simp [Json.LoadsQuietly, decoded, loaded], unfolded _ seen⟩
    | ok value =>
      have seen : seedText limit content = .json value := by simp only [seedText, decoded, loaded]
      left
      refine ⟨⟨text, decoded, by simp [loaded]⟩, "root_not_object", ?_⟩
      rw [unfolded _ seen]
      cases value with
      | obj pairs =>
        simp only [voiceMap, decoded, loaded] at unmapped
        cases unmapped
      | _ => rfl

/-- A pass over a file that is refused changes nothing. -/
theorem handled_of_invalid {reason : String} {voiceId : Option String}
    (rejected : parseAndValidate (seedPass limit content probe readBytes clock) = .error (.invalid reason voiceId)) :
    SeedHandled limit content probe readBytes clock s := by
  have run : alone (.ingest (seedPass limit content probe readBytes clock)) [] s = (.ok (.ingested 0), s) :=
    ingest_invalid rejected []
  constructor
  · exact ⟨0, s, run⟩
  · exact fun _ => run
  · unfold lifespanSeed
    rw [run]
    exact ⟨s, rfl⟩

/-- A pass that raises has not handled the file. -/
theorem not_handled_of_raises
    (rejected : parseAndValidate (seedPass limit content probe readBytes clock) = .error .raises) :
    ¬SeedHandled limit content probe readBytes clock s := by
  rintro ⟨⟨count, t, run⟩, -, -⟩
  rw [ingest_raises rejected] at run
  cases run

/-- A pass over a valid voice map returns a count exactly if the loop over its entries does. -/
theorem handled_iff_of_valid {items : List (String × Json)} {entries : List ParsedSeedEntry}
    (found : voiceMap limit content = some items) (valid : ∀ item ∈ items, ValidEntry probe item)
    (parsed : parseAndValidate (seedPass limit content probe readBytes clock) = .ok entries) :
    SeedHandled limit content probe readBytes clock s ↔
      ∃ count t, runEntries (seedPass limit content probe readBytes clock) entries 0 [] s =
        (.ok (.ingested count), t) := by
  have run := ingest_alone parsed [] s
  constructor
  · rintro ⟨⟨count, t, returned⟩, -, -⟩
    exact ⟨count, t, run ▸ returned⟩
  · rintro ⟨count, t, returned⟩
    rw [← run] at returned
    constructor
    · exact ⟨count, t, returned⟩
    · exact fun invalid => absurd ⟨items, found, valid⟩ invalid
    · unfold lifespanSeed
      rw [returned]
      exact ⟨t, rfl⟩

/-- The loop over the entries comes to the audio that it would come to in the voice map. -/
theorem reaches_audio_iff {items : List (String × Json)} {entries : List ParsedSeedEntry}
    (each : List.Forall₂ (fun item entry => validateEntry probe item.1 item.2 = .ok entry) items entries) :
    Reaches (Passed readBytes s) (RaisingAudio readBytes s) items ↔
      Reaches (fun entry => (s.metadata entry.voiceId).isSome ∨ ∃ data, readBytes entry.refAudioPath = .data data)
        (fun entry => s.metadata entry.voiceId = none ∧ readBytes entry.refAudioPath = .raises) entries := by
  have alike : ∀ (item : String × Json) entry, validateEntry probe item.1 item.2 = .ok entry →
      entry.voiceId = item.1 ∧ entry.refAudioPath = audioPath item.2 := by
    rintro ⟨voiceId, body⟩ entry accepted
    obtain ⟨-, pairs, rfl, -⟩ := validateEntry_ok_iff.1 ⟨entry, accepted⟩
    exact ⟨(validateEntry_id accepted).1, validateEntry_path accepted⟩
  apply reaches_congr each
  · intro item entry accepted
    obtain ⟨id, path⟩ := alike item entry accepted
    rw [id, path]
    exact Iff.rfl
  · intro item entry accepted
    obtain ⟨id, path⟩ := alike item entry accepted
    rw [id, path]
    exact Iff.rfl

end Content

/-- **Seed files of any content.** For every byte content of the seed file, every nesting
limit and all stores, with repositories that work: a pass ends with a count, returns 0 and
writes nothing where the content is no valid voice map, and lets the service start,
exactly if nothing on the way raises but a `JSONDecodeError` and the validation errors. -/
theorem seed_handled_iff (limit : Nat) (content : Bytes) (probe : String → Option AudioProbe)
    (readBytes : String → ReadResult) (clock : String → DateTime × DateTime) (s : Stores) :
    SeedHandled limit content probe readBytes clock s ↔ QuietContent limit content probe readBytes s := by
  cases found : voiceMap limit content with
  | none =>
    rcases parse_no_voiceMap found with ⟨loads, reason, rejected⟩ | ⟨unread, rejected⟩
    · apply iff_of_true (handled_of_invalid rejected)
      exact ⟨loads, by simp [found], by simp [found]⟩
    · exact iff_of_false (not_handled_of_raises rejected) fun quiet => unread quiet.loads
  | some items =>
    obtain ⟨text, pairs, decoded, loaded, -⟩ := exists_of_voiceMap found
    have loads : Json.LoadsQuietly limit content := ⟨text, decoded, by simp [loaded]⟩
    have parsing : parseAndValidate (seedPass limit content probe readBytes clock) =
        items.mapM fun item => validateEntry probe item.1 item.2 := parse_voiceMap found
    cases parsed : parseAndValidate (seedPass limit content probe readBytes clock) with
    | error e =>
      rw [parsing] at parsed
      cases e with
      | invalid reason voiceId =>
        apply iff_of_true (handled_of_invalid (parsing.trans parsed))
        constructor
        · exact loads
        · intro others same raising
          cases found.symm.trans same
          rw [← validateEntries_raises_iff, parsed] at raising
          cases raising
        · intro others same valid
          cases found.symm.trans same
          obtain ⟨front, item, back, rfl, -, refused⟩ := mapM_error_iff.1 parsed
          obtain ⟨entry, accepted⟩ := validateEntry_ok_iff.2 (valid item (by simp))
          rw [refused] at accepted
          cases accepted
      | raises =>
        apply iff_of_false (not_handled_of_raises (parsing.trans parsed))
        intro quiet
        exact quiet.converts items found (validateEntries_raises_iff.1 parsed)
    | ok entries =>
      obtain ⟨distinct, ids⟩ := parseAndValidate_ids parsed
      have each := mapM_ok_iff.1 (parsing.symm.trans parsed)
      have valid : ∀ item ∈ items, ValidEntry probe item := by
        intro item member
        obtain ⟨entry, -, accepted⟩ := exists_of_mem_left each member
        exact validateEntry_ok_iff.1 ⟨entry, accepted⟩
      rw [handled_iff_of_valid found valid parsed, runEntries_returns_iff ids distinct 0 fun _ _ => rfl]
      have reads : ¬Reaches (Passed readBytes s) (RaisingAudio readBytes s) items ↔ _ :=
        not_congr (reaches_audio_iff each)
      constructor
      · intro quiet
        constructor
        · exact loads
        · intro others same raising
          cases found.symm.trans same
          rw [← validateEntries_raises_iff, ← parsing, parsed] at raising
          cases raising
        · intro others same _
          cases found.symm.trans same
          exact reads.2 quiet
      · intro quiet
        exact reads.1 (quiet.reads items found valid)

/-- A byte that is no UTF-8 ends the pass with an exception, and so does an entry whose
`target_db` is beyond the floats. -/
theorem stray_byte_raises :
    ¬SeedHandled 1000 [0xff] (fun _ => some ⟨true, true, true⟩) (fun _ => .data [1]) (fun _ => (⟨0, 0⟩, ⟨0, 0⟩))
        Stores.empty ∧
      RaisingEntry (fun _ => some ⟨true, true, true⟩) ("ada", .obj
        [("ref_audio_path", .str "ada.wav"), ("language", .str "en"), ("target_db", .int (10 ^ 400))]) := by
  constructor
  · apply not_handled_of_raises
    have unread : readText [0xff] = none := by decide +kernel
    unfold parseAndValidate seedPass seedText
    rw [unread]
  · apply validateEntry_raises_iff.1
    have failed : (validateEntry (fun _ => some ⟨true, true, true⟩) "ada" (.obj [("ref_audio_path", .str "ada.wav"),
        ("language", .str "en"), ("target_db", .int (10 ^ 400))])).map (fun _ => ()) = .error .raises := by
      decide +kernel
    exact map_error_iff.1 failed

end LlmTts
