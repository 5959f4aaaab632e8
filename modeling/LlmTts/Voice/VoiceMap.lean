import LlmTts.Settings
import LlmTts.Synthesis.Streaming
import LlmTts.Voice.SeedContent

/-!
# The voice map of the settings

`Settings._load_voice_map_from_file` and `_parse_voice_entry` of `config.py`. They read
the file that the seed ingestion reads, with checks of their own in another order:
`voiceMap_agrees` says that they accept whatever the seed ingestion does.
-/

namespace LlmTts
open Python Checked

/-- What the loading of the voice map raises: a `ValueError`, or what a call raises on
its own, such as the `OverflowError` of `float`. -/
inductive VoiceMapFailure where
  | valueError (message : String)
  | raises
  deriving DecidableEq, Repr

section Checks

variable (voiceName requirement : String)

/-- A check of an entry; its message says what the entry requires. -/
def requires {α : Type} : Option α → Except VoiceMapFailure α
  | some a => .ok a
  | none => .error (.valueError s!"Voice '{voiceName}' requires {requirement}")

/-- `float(value)` of a number. -/
def toFloat : Option PyFloat → Except VoiceMapFailure PyFloat
  | some x => .ok x
  | none => .error .raises

/-- A JSON string. -/
def str? : Json → Option String
  | .str s => some s
  | _ => none

/-- `isinstance(voice_data, dict)`. -/
def voiceData : Json → Except VoiceMapFailure (List (String × Json))
  | .obj pairs => .ok (dictItems pairs)
  | _ => .error (.valueError s!"Voice config for '{voiceName}' must be an object")

end Checks

/-- `_parse_voice_entry`. The types of all fields are checked before the ranges. -/
def parseVoiceEntry (voiceName : String) (body : Json) : Except VoiceMapFailure VoiceConfig := do
  let fields ← voiceData voiceName body
  let refAudioPath ← requires voiceName "string 'ref_audio_path'" (str? (bodyGet fields "ref_audio_path" .null))
  let language ← requires voiceName "non-empty 'language'"
    ((str? (bodyGet fields "language" .null)).filter (!isBlank ·))
  let refText ← requires voiceName "string 'ref_text'" (str? (bodyGet fields "ref_text" (.str "")))
  let numberLang ← requires voiceName "string 'number_lang'" (str? (bodyGet fields "number_lang" (.str "")))
  let temperatureNumber ← requires voiceName "numeric 'temperature'"
    (bodyGet fields "temperature" (.float defaultTemperature)).float?
  let topPNumber ← requires voiceName "numeric 'top_p'" (bodyGet fields "top_p" (.float defaultTopP)).float?
  let targetDbNumber ← requires voiceName "numeric 'target_db'" (targetDbOf fields).float?
  let sentences ← requires voiceName "integer 'max_sentences_per_chunk'"
    (bodyGet fields "max_sentences_per_chunk" (.int 2)).int?
  let maxSentencesPerChunk ← requires voiceName "'max_sentences_per_chunk' >= 1"
    ((some sentences).filter (1 ≤ ·.toInt))
  let temperature ← toFloat temperatureNumber
  let _ ← requires voiceName "'temperature' between 0.0 and 2.0"
    ((some temperature).filter fun x => PyFloat.le (.finite 0) x && x.le (.finite 2))
  let topP ← toFloat topPNumber
  let _ ← requires voiceName "'top_p' between 0.0 and 1.0"
    ((some topP).filter fun x => PyFloat.lt (.finite 0) x && x.le (.finite 1))
  let targetDb ← toFloat targetDbNumber
  return {
    refAudioPath := refAudioPath, refText := refText, language := language, numberLang := numberLang,
    temperature := temperature, topP := topP, targetDb := targetDb,
    maxSentencesPerChunk := maxSentencesPerChunk }

/-! ## The file -/

/-- The files that a start of the service sees. -/
structure VoiceMapFiles where
  probe : String → AudioProbe
  read : String → SeedText

/-- `TTS_VOICE_MAP_FILE`. -/
def voiceMapFile (env : Environ) : String := strip ((env "TTS_VOICE_MAP_FILE").getD "")

/-- `_resolve_voice_map_path`. -/
def resolveVoiceMapPath (env : Environ) (files : VoiceMapFiles) : Except VoiceMapFailure (Option String) :=
  let path := voiceMapFile env
  if path = "" then .ok none
  else if !(files.probe path).pathExists then .ok none
  else if !(files.probe path).isFile then .error (.valueError "TTS_VOICE_MAP_FILE must point to a regular file")
  else .ok (some path)

/-- `resolve_seed_file_path`. -/
def resolveSeedFilePath (env : Environ) (files : VoiceMapFiles) : Option String :=
  let path := voiceMapFile env
  if path = "" then none
  else if !(files.probe path).pathExists || !(files.probe path).isFile then none
  else some path

/-- The entries of a decoded voice map. -/
def parseVoiceMap : SeedText → Except VoiceMapFailure (List (String × VoiceConfig))
  | .missing => .error .raises
  | .unreadable => .error .raises
  | .invalidJson => .error (.valueError "TTS_VOICE_MAP_FILE must contain valid JSON")
  | .json (.obj pairs) =>
    (dictItems pairs).mapM fun item => (parseVoiceEntry item.1 item.2).map fun config => (item.1, config)
  | .json _ => .error (.valueError "Voice map must be a JSON object")

/-- `_load_voice_map_from_file`. -/
def loadVoiceMapFromFile (env : Environ) (files : VoiceMapFiles) :
    Except VoiceMapFailure (List (String × VoiceConfig)) := do
  match ← resolveVoiceMapPath env files with
  | none => return []
  | some path => parseVoiceMap (files.read path)

/-- The seed entry and the voice of the settings say the same. -/
structure SameVoice (entry : ParsedSeedEntry) (config : VoiceConfig) : Prop where
  refAudioPath : config.refAudioPath = entry.refAudioPath
  refText : config.refText = entry.transcript
  language : config.language = entry.language
  numberLang : config.numberLang = entry.numberLang
  temperature : config.temperature = entry.temperature
  topP : config.topP = entry.topP
  targetDb : config.targetDb = entry.targetDb
  maxSentencesPerChunk : config.maxSentencesPerChunk = entry.maxSentencesPerChunk

section Agreement

variable {voiceName requirement : String}

theorem requires_ok_iff {α : Type} {found : Option α} {a : α} :
    requires voiceName requirement found = .ok a ↔ found = some a := by
  cases found <;> simp [requires]

theorem toFloat_ok_iff {converted : Option PyFloat} {x : PyFloat} : toFloat converted = .ok x ↔ converted = some x := by
  cases converted <;> simp [toFloat]

theorem str?_eq_some_iff {value : Json} {s : String} : str? value = some s ↔ value = .str s := by
  cases value <;> simp [str?]

theorem voiceData_ok_iff {value : Json} {fields : List (String × Json)} :
    voiceData voiceName value = .ok fields ↔ ∃ pairs, value = .obj pairs ∧ dictItems pairs = fields := by
  cases value <;> simp [voiceData]

/-- An entry that the seed ingestion accepts is accepted by the settings, with the same values. -/
theorem parseVoiceEntry_of_validateEntry {probe : String → Option AudioProbe} {voiceId : String} {body : Json}
    {entry : ParsedSeedEntry} (accepted : validateEntry probe voiceId body = .ok entry) :
    ∃ config, parseVoiceEntry voiceId body = .ok config ∧ SameVoice entry config := by
  unfold validateEntry at accepted
  simp only [Checked.bind_ok_iff] at accepted
  obtain ⟨_, -, fields, object, path, here, transcript, text, language, spoken, numberLang, numbers, temperature,
    warm, topP, top, _, -, n, sentences, _, -, targetDb, target, built⟩ := accepted
  cases built
  obtain ⟨here, -⟩ := stringField_ok_iff.1 here
  obtain ⟨text, -⟩ := stringField_ok_iff.1 text
  obtain ⟨spoken, full⟩ := stringField_ok_iff.1 spoken
  obtain ⟨numbers, -⟩ := stringField_ok_iff.1 numbers
  obtain ⟨warm, inRange⟩ := numberField_ok_iff.1 warm
  obtain ⟨top, inRange'⟩ := numberField_ok_iff.1 top
  obtain ⟨target, -⟩ := numberField_ok_iff.1 target
  obtain ⟨sentences, positive⟩ := maxSentencesField_ok_iff.1 sentences
  refine ⟨⟨path, transcript, language, numberLang, temperature, topP, targetDb, n⟩, ?_, by constructor <;> rfl⟩
  unfold parseVoiceEntry
  simp only [Checked.bind_ok_iff, requires_ok_iff, toFloat_ok_iff]
  refine ⟨fields, voiceData_ok_iff.2 (entryFields_ok_iff.1 object), path, str?_eq_some_iff.2 here, language, ?_,
    transcript, str?_eq_some_iff.2 text, numberLang, str?_eq_some_iff.2 numbers, _, warm, _, top, _, target, n,
    sentences, n, ?_, temperature, rfl, temperature, ?_, topP, rfl, topP, ?_, targetDb, rfl, rfl⟩
  · exact Option.filter_eq_some_iff.2 ⟨str?_eq_some_iff.2 spoken, full⟩
  · exact Option.filter_eq_some_iff.2 ⟨rfl, decide_eq_true positive⟩
  · exact Option.filter_eq_some_iff.2 ⟨rfl, inRange⟩
  · exact Option.filter_eq_some_iff.2 ⟨rfl, inRange'⟩

/-- The settings read every voice map that validates, entry by entry. -/
theorem parseVoiceMap_of_parsed {pass : SeedPass} {entries : List ParsedSeedEntry}
    (parsed : parseAndValidate pass = .ok entries) (present : pass.text ≠ .missing) :
    ∃ configs, parseVoiceMap pass.text = .ok configs ∧
      List.Forall₂ (fun entry item => item.1 = entry.voiceId ∧ SameVoice entry item.2) entries configs := by
  unfold parseAndValidate at parsed
  split at parsed
  · rename_i missing
    exact absurd missing present
  · cases parsed
  · cases parsed
  · rename_i pairs decoded
    rw [decoded]
    apply mapM_follows (mapM_ok_iff.1 parsed)
    intro item entry accepted
    obtain ⟨config, loaded, same⟩ := parseVoiceEntry_of_validateEntry accepted
    exact ⟨(item.1, config), map_ok_iff.2 ⟨config, loaded, rfl⟩, (validateEntry_id accepted).1.symm, same⟩
  · cases parsed

/-- Both parsers look for the file at the same place. -/
theorem resolveVoiceMapPath_of_seed {env : Environ} {files : VoiceMapFiles} {path : String}
    (found : resolveSeedFilePath env files = some path) : resolveVoiceMapPath env files = .ok (some path) := by
  unfold resolveSeedFilePath at found
  unfold resolveVoiceMapPath
  dsimp only at found ⊢
  split at found
  · cases found
  · rename_i set
    split at found
    · cases found
    · rename_i regular
      cases found
      simp only [Bool.not_eq_true, Bool.or_eq_false_iff] at regular
      rw [if_neg set, regular.1, regular.2]
      rfl

end Agreement

section Again

variable {pass : SeedPass} {entries : List ParsedSeedEntry} {s t : Stores} {created count : Nat}

theorem present_after (valid : ∀ entry ∈ entries, validateVoiceId entry.voiceId = .ok ())
    (run : runEntries pass entries created [] s = (.ok (.ingested count), t)) {v : String}
    (present : (s.metadata v).isSome) : (t.metadata v).isSome := by
  have keeps : ((runEntries pass entries created [] s).2.metadata v).isSome := runEntries_keeps valid present
  rwa [run] at keeps

/-- The loop over the same entries and files, after a run that returned, has nothing to do. -/
theorem runEntries_again (valid : ∀ entry ∈ entries, validateVoiceId entry.voiceId = .ok ())
    (run : runEntries pass entries created [] s = (.ok (.ingested count), t)) :
    runEntries pass entries 0 [] t = (.ok (.ingested 0), t) := by
  induction entries generalizing created s with
  | nil => rfl
  | cons entry entries ih =>
    obtain ⟨first, rest⟩ := List.forall_mem_cons.1 valid
    rw [runEntries_step first] at run ⊢
    by_cases present : (s.metadata entry.voiceId).isSome
    · rw [if_pos present] at run
      rw [if_pos (present_after rest run present)]
      exact ih rest run
    · rw [if_neg present] at run
      cases read : pass.readBytes entry.refAudioPath with
      | osError =>
        rw [read] at run
        cases run
        rw [if_neg present]
      | raises =>
        rw [read] at run
        cases run
      | data data =>
        rw [read] at run
        have stored : ((entryStored pass entry data s).metadata entry.voiceId).isSome := by
          simp [metadata_entryStored]
        dsimp only at run
        rw [if_pos (present_after rest run stored)]
        exact ih rest run

end Again

/-- **One format, two parsers.** For every JSON value and id that the seed ingestion
accepts, the settings accept the value and read the same voice from it. For every voice
map that a pass has validated, a start of the service that reads the same text loads the
same voices; and where the pass came to its end, with repositories that work, the pass of
that start over the same files does too, and changes nothing. -/
theorem voiceMap_agrees :
    (∀ (probe : String → Option AudioProbe) (voiceId : String) (body : Json) (entry : ParsedSeedEntry),
      validateEntry probe voiceId body = .ok entry →
        ∃ config, parseVoiceEntry voiceId body = .ok config ∧ SameVoice entry config) ∧
    ∀ (env : Environ) (files : VoiceMapFiles) (path : String) (pass : SeedPass) (entries : List ParsedSeedEntry),
      resolveSeedFilePath env files = some path → files.read path = pass.text → pass.text ≠ .missing →
      parseAndValidate pass = .ok entries →
        (∃ configs, loadVoiceMapFromFile env files = .ok configs ∧
          List.Forall₂ (fun entry item => item.1 = entry.voiceId ∧ SameVoice entry item.2) entries configs) ∧
        ∀ (s t : Stores) (count : Nat), alone (.ingest pass) [] s = (.ok (.ingested count), t) →
          lifespanSeed pass t = .ok t := by
  constructor
  · intro probe voiceId body entry accepted
    exact parseVoiceEntry_of_validateEntry accepted
  · intro env files path pass entries found same present parsed
    constructor
    · obtain ⟨configs, loaded, each⟩ := parseVoiceMap_of_parsed parsed present
      refine ⟨configs, ?_, each⟩
      unfold loadVoiceMapFromFile
      rw [resolveVoiceMapPath_of_seed found]
      rw [← same] at loaded
      exact loaded
    · intro s t count run
      rw [ingest_alone parsed] at run
      have again := runEntries_again (parseAndValidate_ids parsed).2 run
      unfold lifespanSeed
      rw [ingest_alone parsed, again]

theorem plainPass_loads :
    (∃ config, parseVoiceEntry "ada" (.obj [("ref_audio_path", .str "ada.wav"), ("language", .str "en")]) =
      .ok config) ∧
    (∃ configs, loadVoiceMapFromFile (fun _ => some "voices.json")
        ⟨fun _ => ⟨true, true, true⟩, fun _ => (plainPass fun _ => .data [1]).text⟩ = .ok configs ∧
      configs.map (·.1) = ["ada", "bob"]) ∧
    ∃ t, alone (.ingest (plainPass fun _ => .data [1])) [] .empty = (.ok (.ingested 2), t) ∧
      lifespanSeed (plainPass fun _ => .data [1]) t = .ok t := by
  have ids : (parseAndValidate (plainPass fun _ => .data [1])).map (·.map (·.voiceId)) = .ok ["ada", "bob"] := by
    decide +kernel
  have id : (validateEntry (fun _ => some ⟨true, true, true⟩) "ada"
      (.obj [("ref_audio_path", .str "ada.wav"), ("language", .str "en")])).map (·.voiceId) = .ok "ada" := by
    decide +kernel
  constructor
  · obtain ⟨entry, accepted, -⟩ := map_ok_iff.1 id
    obtain ⟨config, loaded, -⟩ := voiceMap_agrees.1 _ "ada" _ entry accepted
    exact ⟨config, loaded⟩
  · obtain ⟨entries, parsed, names⟩ := map_ok_iff.1 ids
    obtain ⟨⟨configs, loaded, each⟩, restarts⟩ := voiceMap_agrees.2 (fun _ => some "voices.json")
      ⟨fun _ => ⟨true, true, true⟩, fun _ => (plainPass fun _ => .data [1]).text⟩ "voices.json"
      (plainPass fun _ => .data [1]) entries (by decide +kernel) rfl (by simp [plainPass]) parsed
    constructor
    · refine ⟨configs, loaded, ?_⟩
      rw [← names]
      clear parsed names ids id loaded restarts
      induction each with
      | nil => rfl
      | cons here _ ih => simp [here.1, ih]
    · have created : (alone (.ingest (plainPass fun _ => .data [1])) [] .empty).1 = .ok (.ingested 2) := by
        decide +kernel
      exact ⟨_, Prod.ext created rfl, restarts .empty _ 2 (Prod.ext created rfl)⟩

end LlmTts
