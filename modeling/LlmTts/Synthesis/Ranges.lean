import LlmTts.Synthesis.Handed
import LlmTts.Voice.Consent
import LlmTts.Voice.SeedFaults

/-!
# Generation parameters in range

The seed file and the presets are checked for the ranges of the generation
parameters; the schemas of the voice endpoints and of the synthesis request are not.
`ranges_kept_iff` tells for which inputs every stored record and every configuration
that a provider is handed is in range, in any interleaving and whatever calls fail.
-/

namespace LlmTts
open Python Effect Checked

/-! ## The ranges -/

/-- `0.0 <= temperature <= 2.0`. -/
def TemperatureInRange (x : PyFloat) : Prop := ∃ q : ℚ, x.value? = some q ∧ 0 ≤ q ∧ q ≤ 2

/-- `0.0 < top_p <= 1.0`. -/
def TopPInRange (x : PyFloat) : Prop := ∃ q : ℚ, x.value? = some q ∧ 0 < q ∧ q ≤ 1

def IsFinite (x : PyFloat) : Prop := ∃ q : ℚ, x.value? = some q

/-- The parameters of a record or a configuration are in range. -/
structure InRange (language : String) (temperature topP targetDb : PyFloat) (maxSentencesPerChunk : Int) : Prop where
  language : isBlank language = false
  temperature : TemperatureInRange temperature
  topP : TopPInRange topP
  targetDb : IsFinite targetDb
  maxSentencesPerChunk : 1 ≤ maxSentencesPerChunk

def VoiceRecord.InRange (record : VoiceRecord) : Prop :=
  LlmTts.InRange record.language record.temperature record.topP record.targetDb record.maxSentencesPerChunk.toInt

def VoiceFields.InRange (fields : VoiceFields) : Prop :=
  LlmTts.InRange fields.language fields.temperature fields.topP fields.targetDb fields.maxSentencesPerChunk

def VoiceConfig.InRange (voice : VoiceConfig) : Prop :=
  LlmTts.InRange voice.language voice.temperature voice.topP voice.targetDb voice.maxSentencesPerChunk.toInt

structure GenerationOptions.InRange (generation : GenerationOptions) : Prop where
  language : isBlank generation.language = false
  temperature : TemperatureInRange generation.temperature
  topP : TopPInRange generation.topP

/-- Everything that a provider is handed is in range. -/
structure SynthesisRequest.InRange (request : SynthesisRequest) : Prop where
  voice : request.voice.InRange
  generation : ∀ generation ∈ request.generation, generation.InRange

theorem numberField_ok {value : Json} {accept : PyFloat → Bool} {reason voiceId : String} {x : PyFloat}
    (read : numberField value accept reason voiceId = .ok x) : accept x = true := by
  unfold numberField at read
  split at read
  · cases read
  · cases read
  · split at read
    · rename_i accepts
      cases read
      exact accepts
    · cases read

theorem temperatureInRange_of_le {x : PyFloat} (above : PyFloat.le (.finite 0) x = true)
    (below : x.le (.finite 2) = true) : TemperatureInRange x := by
  cases x with
  | finite q => exact ⟨q, rfl, of_decide_eq_true above, of_decide_eq_true below⟩
  | negZero => exact ⟨0, rfl, of_decide_eq_true above, of_decide_eq_true below⟩
  | inf negative => cases negative with
    | true => cases above
    | false => cases below
  | nan => cases above

theorem topPInRange_of_le {x : PyFloat} (above : PyFloat.lt (.finite 0) x = true)
    (below : x.le (.finite 1) = true) : TopPInRange x := by
  cases x with
  | finite q => exact ⟨q, rfl, of_decide_eq_true above, of_decide_eq_true below⟩
  | negZero => exact ⟨0, rfl, of_decide_eq_true above, of_decide_eq_true below⟩
  | inf negative => cases negative with
    | true => cases above
    | false => cases below
  | nan => cases above

/-- An accepted seed entry is in range but for `target_db`, which may be infinite or NaN. -/
theorem validateEntry_inRange {probe : String → Option AudioProbe} {voiceId : String} {body : Json}
    {entry : ParsedSeedEntry} (accepted : validateEntry probe voiceId body = .ok entry)
    (finite : IsFinite entry.targetDb) :
    InRange entry.language entry.temperature entry.topP entry.targetDb entry.maxSentencesPerChunk.toInt := by
  unfold validateEntry at accepted
  simp only [bind_ok_iff] at accepted
  obtain ⟨_, -, _, -, _, -, _, -, language, spoken, _, -, temperature, warm, topP, top, _, -, sentences, counted,
    _, -, _, -, built⟩ := accepted
  cases built
  have warm' := numberField_ok warm
  have top' := numberField_ok top
  rw [Bool.and_eq_true] at warm' top'
  refine ⟨?_, temperatureInRange_of_le warm'.1 warm'.2, topPInRange_of_le top'.1 top'.2, finite, ?_⟩
  · unfold stringField at spoken
    split at spoken
    · split at spoken
      · rename_i full
        cases spoken
        simpa using full
      · cases spoken
    · cases spoken
  · unfold maxSentencesField at counted
    split at counted
    · split at counted
      · rename_i positive
        cases counted
        exact positive
      · cases counted
    · cases counted

theorem parseAndValidate_inRange {pass : SeedPass} {entries : List ParsedSeedEntry} {entry : ParsedSeedEntry}
    (parsed : parseAndValidate pass = .ok entries) (member : entry ∈ entries) (finite : IsFinite entry.targetDb) :
    (seedRecord pass entry).InRange := by
  unfold parseAndValidate at parsed
  split at parsed
  · cases parsed
    cases member
  · cases parsed
  · cases parsed
  · rename_i pairs _
    obtain ⟨item, -, accepted⟩ := exists_of_mem_right (mapM_ok_iff.1 parsed) member
    exact validateEntry_inRange accepted finite
  · cases parsed

/-! ## The entry paths -/

/-- A request to the voice endpoints, a seed pass, or a synthesis request with what its calls
other than of the repositories come to. -/
inductive EntryOp where
  | voice (op : VoiceOp)
  | synthesize (host : SynthesisHost) (calls : CoreCalls) (payload : SynthesizeRequest)

def EntryOp.body : EntryOp → StoreProg VoiceEnd
  | .voice op => op.body
  | .synthesize host _ payload =>
    match synthesisInput host payload with
    | .error e => .ret (.error (.http e))
    | .ok (_, voiceId) => resolveVoice voiceId

/-- Requests of every kind in progress over stores whose calls may fail. -/
abbrev EntryPool : Type := Pool FaultyStores EntryOp StoreCall StoreCall.Reply VoiceEnd

def entryStep : EntryPool → Act EntryOp → Option EntryPool :=
  Pool.step EntryOp.body fun _ => FaultyStores.exec

/-- The requests that a provider is handed in a synthesis request, once its voice is resolved. -/
def Hands : EntryOp → VoiceEnd → SynthesisRequest → Prop
  | .synthesize host calls payload, .ok (.resolved record blobBytes), request =>
    request ∈ handed host calls payload record blobBytes
  | _, _, _ => False

def Stores.InRange (s : Stores) : Prop := ∀ v record, s.metadata v = some record → record.InRange

/-- Every stored record is in range, and every request that a provider is handed. -/
structure RangesKept (p : EntryPool) : Prop where
  stored : p.store.stores.InRange
  handed : ∀ task ∈ p.tasks, ∀ ended ∈ task.prog.result?, ∀ request, Hands task.tag ended request → request.InRange

/-! ## The inputs -/

/-- What pydantic checks of `max_sentences_per_chunk`, in requests and presets. -/
def EntryOp.Validated : EntryOp → Prop
  | .voice _ => True
  | .synthesize host _ payload => (∀ n ∈ payload.maxSentencesPerChunk, 1 ≤ n) ∧
    ∀ item ∈ host.presetSnapshot.presets, ∀ n ∈ item.2.defaults.maxSentencesPerChunk, 1 ≤ n

/-- What the parsed metadata, the parsed entries and the request or its preset have to be. -/
def VoiceOp.Bounded : VoiceOp → Prop
  | .create request => ∀ payload data, createInput request = .ok (payload, data) → payload.InRange
  | .update request => ∀ payload blob, updateInput request = .ok payload → newBlob request = .ok blob → payload.InRange
  | .ingest pass => ∀ entries, parseAndValidate pass = .ok entries → ∀ entry ∈ entries,
    (∃ data, pass.readBytes entry.refAudioPath = .data data) → IsFinite entry.targetDb
  | .delete _ | .resolve _ => True

/-- The request comes to a provider with this voice, if it is the one that is asked for. -/
def Passes (host : SynthesisHost) (calls : CoreCalls) (payload : SynthesizeRequest) (record : VoiceRecord)
    (blobBytes : Bytes) : Prop :=
  ∃ prepared, preparedWith host payload record blobBytes = .ok prepared ∧ record.id = prepared.voiceId ∧
    validateVoiceId prepared.voiceId = .ok () ∧ ComesToProvider host calls payload prepared

/-- The numbers of a request, or else of its preset, are in range. -/
structure OverridesInRange (payload : SynthesizeRequest) (defaults : PresetDefaults) : Prop where
  temperature : ∀ x ∈ payload.temperature.or defaults.temperature, TemperatureInRange x
  topP : ∀ x ∈ payload.topP.or defaults.topP, TopPInRange x
  normalizeDb : ∀ x ∈ payload.normalizeDb.or defaults.normalizeDb, IsFinite x

def EntryOp.Bounded : EntryOp → Prop
  | .voice op => op.Bounded
  | .synthesize host calls payload => ∀ entry,
    host.presetSnapshot.get (payload.presetName host.settings) = some entry →
      (∃ record blobBytes, record.InRange ∧ Passes host calls payload record blobBytes) →
        OverridesInRange payload entry.defaults

/-! ## Inputs in range keep the ranges -/

/-- A record that is read has a valid id and is in range. -/
def Answers : (c : StoreCall) → c.Reply → Prop
  | .metaGet v, .ok record => validateVoiceId v = .ok () ∧ record.val.InRange
  | _, _ => True

/-- A call that stores a record in range only. -/
def WritesInRange : StoreCall → Prop
  | .metaCreate record | .metaUpdate record => record.InRange
  | _ => True

theorem writesInRange_of_makes {op : VoiceOp} (bounded : op.Bounded) (c : StoreCall) (makes : Makes op c) :
    WritesInRange c := by
  cases makes with
  | create input => exact bounded _ _ input
  | update input blob => exact bounded _ _ input blob
  | ingest parsed member read => exact parseAndValidate_inRange parsed member (bounded _ parsed _ member ⟨_, read⟩)
  | createBlob | createUndo | updateGet | updateBlob | delete | deleteProbe | deleteBlob | ingestProbe | ingestBlob
  | resolve | resolveBlob => trivial

theorem inRange_exec {s : Stores} {c : StoreCall} (inRange : s.InRange) (writes : WritesInRange c) :
    (s.exec c).2.InRange := by
  intro v record found
  rcases metadata_after found with before | ⟨given, rfl, rfl | rfl⟩
  · exact inRange v record before
  · exact writes
  · exact writes

theorem inRange_faulty {w : FaultyStores} {c : StoreCall} (inRange : w.stores.InRange) (writes : WritesInRange c) :
    (w.exec c).2.stores.InRange := by
  show (execFaulty Stores.exec raised (w.plan.headD .works) w.stores c).2.InRange
  cases w.plan.headD .works with
  | works => exact inRange_exec inRange writes
  | raises _ => exact inRange
  | raisesLate _ => exact inRange_exec inRange writes

theorem answers_exec {s : Stores} (inRange : s.InRange) (c : StoreCall) : Answers c (s.exec c).1 := by
  cases c with
  | metaGet v =>
    unfold Stores.exec
    split
    · trivial
    · rename_i valid
      unfold Stores.execValid
      dsimp only
      split
      · rename_i record found
        exact ⟨valid, inRange v record found⟩
      · trivial
  | _ => trivial

theorem answers_faulty {w : FaultyStores} (inRange : w.stores.InRange) (c : StoreCall) : Answers c (w.exec c).1 := by
  have failed : ∀ e, Answers c (raised c e) := by
    intro e
    cases c <;> trivial
  show Answers c (execFaulty Stores.exec raised (w.plan.headD .works) w.stores c).1
  cases w.plan.headD .works with
  | works => exact answers_exec inRange c
  | raises e => exact failed e
  | raisesLate e => exact failed e

/-- The configuration of a request is in range, if the record and the overrides are. -/
theorem buildVoiceConfig_inRange {record : VoiceRecord} {effective : EffectiveSynthesisConfig} (tmpPath : String)
    (inRange : record.InRange) (temperature : ∀ x ∈ effective.temperature, TemperatureInRange x)
    (topP : ∀ x ∈ effective.topP, TopPInRange x) (normalizeDb : ∀ x ∈ effective.normalizeDb, IsFinite x)
    (maxSentences : ∀ n ∈ effective.maxSentencesPerChunk, 1 ≤ n) :
    (buildVoiceConfig record tmpPath effective).InRange := by
  have getD : ∀ {α : Type} {P : α → Prop} {value : Option α} {fallback : α}, (∀ x ∈ value, P x) → P fallback →
      P (value.getD fallback) := by
    intro α P value fallback set default
    cases value with
    | none => exact default
    | some x => exact set x rfl
  constructor
  · unfold buildVoiceConfig
    dsimp only
    split
    · exact inRange.language
    · rename_i full
      rw [strip_eq_empty_iff, Bool.not_eq_true] at full
      exact isBlank_strip full
  · exact getD temperature inRange.temperature
  · exact getD topP inRange.topP
  · exact getD normalizeDb inRange.targetDb
  · show 1 ≤ ((effective.maxSentencesPerChunk.map PyInt.int).getD record.maxSentencesPerChunk).toInt
    cases set : effective.maxSentencesPerChunk with
    | none => exact inRange.maxSentencesPerChunk
    | some n => exact maxSentences n set

theorem synthesisInput_ok {host : SynthesisHost} {payload : SynthesizeRequest} {effective : EffectiveSynthesisConfig}
    {voiceId : String} (input : synthesisInput host payload = .ok (effective, voiceId)) :
    ∃ entry, host.presetSnapshot.get (payload.presetName host.settings) = some entry ∧
      effective = effectiveConfig payload (payload.presetName host.settings) entry.defaults := by
  obtain ⟨resolved, resolves, rest⟩ := bind_ok_iff.1 input
  have same : resolved = effective := by
    dsimp only at rest
    split at rest
    · cases rest
    · split at rest
      · cases rest
      · split at rest
        · cases rest
        · cases rest
          rfl
  subst same
  cases found : host.presetSnapshot.get (payload.presetName host.settings) with
  | none =>
    simp only [resolvePreset, found] at resolves
    cases resolves
  | some entry =>
    rw [resolvePreset_of_get found] at resolves
    cases resolves
    exact ⟨entry, rfl, rfl⟩

/-- The options for the model are those of the configuration. -/
theorem buildSynthesisRequest_inRange {input : SynthesisInput} (chunkText : String) (voice : input.voice.InRange) :
    (buildSynthesisRequest input chunkText).InRange := by
  refine ⟨voice, fun generation built => ?_⟩
  cases built
  exact ⟨voice.language, voice.temperature, voice.topP⟩

/-- The numbers of the effective configuration are in range with the overrides. -/
theorem effectiveConfig_inRange {payload : SynthesizeRequest} {defaults : PresetDefaults} (name : String)
    (numbers : OverridesInRange payload defaults) :
    (∀ x ∈ (effectiveConfig payload name defaults).temperature, TemperatureInRange x) ∧
      (∀ x ∈ (effectiveConfig payload name defaults).topP, TopPInRange x) ∧
      ∀ x ∈ (effectiveConfig payload name defaults).normalizeDb, IsFinite x := by
  simp only [effectiveConfig, pick_eq_or]
  exact ⟨numbers.temperature, numbers.topP, numbers.normalizeDb⟩

theorem effectiveConfig_maxSentences {payload : SynthesizeRequest} {defaults : PresetDefaults} (name : String)
    (explicit : ∀ n ∈ payload.maxSentencesPerChunk, 1 ≤ n) (preset : ∀ n ∈ defaults.maxSentencesPerChunk, 1 ≤ n) :
    ∀ n ∈ (effectiveConfig payload name defaults).maxSentencesPerChunk, 1 ≤ n := by
  simp only [effectiveConfig, pick_eq_or]
  intro n set
  rcases Option.or_eq_some_iff.1 set with chosen | ⟨-, chosen⟩
  · exact explicit n chosen
  · exact preset n chosen

theorem handed_inRange {host : SynthesisHost} {calls : CoreCalls} {payload : SynthesizeRequest}
    {effective : EffectiveSynthesisConfig} {voiceId : String} {record : VoiceRecord} {blobBytes : Bytes}
    {request : SynthesisRequest} (validated : (EntryOp.synthesize host calls payload).Validated)
    (bounded : (EntryOp.synthesize host calls payload).Bounded)
    (input : synthesisInput host payload = .ok (effective, voiceId)) (valid : validateVoiceId voiceId = .ok ())
    (named : record.id = voiceId) (inRange : record.InRange)
    (hands : request ∈ handed host calls payload record blobBytes) : request.InRange := by
  obtain ⟨prepared, before, reaches⟩ := handed_ne_nil_iff.1 (List.ne_nil_of_mem hands)
  obtain ⟨input', voice, -⟩ := preparedWith_ok_iff.1 before
  cases input.symm.trans input'
  cases voice
  unfold handed at hands
  rw [before] at hands
  obtain ⟨tmpPath, chunkText, rfl⟩ := exists_of_mem_tryRequests hands
  obtain ⟨entry, found, effective⟩ := synthesisInput_ok input
  have numbers := bounded entry found ⟨_, _, inRange, prepared, before, named, valid, reaches⟩
  obtain ⟨temperature, topP, normalizeDb⟩ := effectiveConfig_inRange (payload.presetName host.settings) numbers
  have sentences := effectiveConfig_maxSentences (payload.presetName host.settings) validated.1
    (validated.2 _ (PresetRegistry.mem_of_get found))
  rw [← effective] at temperature topP normalizeDb sentences
  exact buildSynthesisRequest_inRange chunkText
    (buildVoiceConfig_inRange tmpPath inRange temperature topP normalizeDb sentences)

/-- Every request writes in range and hands over in range, if what it reads is in range. -/
theorem body_inRange {op : EntryOp} (validated : op.Validated) (bounded : op.Bounded) :
    op.body.Meets Answers WritesInRange fun ended => ∀ request, Hands op ended request → request.InRange := by
  cases op with
  | voice op =>
    refine ((body_makes op).mono (writesInRange_of_makes bounded)).meets fun ended request hands => ?_
    cases hands
  | synthesize host calls payload =>
    have failed : ∀ (exc : Exc) (request : SynthesisRequest),
        Hands (.synthesize host calls payload) (.error exc) request → request.InRange := by
      intro exc request hands
      cases hands
    unfold EntryOp.body
    dsimp only
    split
    · exact failed _
    · rename_i effective voiceId input
      rw [resolveVoice_eq]
      refine ⟨trivial, fun reply answers => ?_⟩
      cases reply with
      | error e => exact failed _
      | ok record =>
        refine ⟨trivial, fun blob _ => ?_⟩
        cases blob with
        | error e => exact failed _
        | ok data =>
          intro request hands
          exact handed_inRange validated bounded input answers.1 record.property answers.2 hands

/-- The inputs in range keep the ranges. -/
theorem ranges_kept {s : Stores} {plan : List (Outcome StoreError)} {acts : List (Act EntryOp)} {p : EntryPool}
    (start : s.InRange) (inputs : ∀ op, .spawn op ∈ acts → op.Validated ∧ op.Bounded)
    (run : Transition.runs entryStep ⟨⟨s, plan⟩, []⟩ acts = some p) : RangesKept p := by
  have meets := Pool.meets_inv (A := Answers) (P := WritesInRange) (I := fun w => w.stores.InRange)
    (Q := fun op ended => ∀ request, Hands op ended request → request.InRange)
    (fun op spawned => body_inRange (inputs op spawned).1 (inputs op spawned).2)
    (fun _ _ c inRange => answers_faulty inRange c) (fun _ _ _ inRange writes => inRange_faulty inRange writes)
    (p := ⟨⟨s, plan⟩, []⟩) start (fun task member => absurd member List.not_mem_nil) run
  refine ⟨meets.1, fun task member ended result => ?_⟩
  have ends := meets.2 task member
  cases prog : task.prog with
  | call e k =>
    rw [prog] at result
    cases result
  | ret value =>
    rw [prog] at result ends
    cases result
    exact ends

/-! ## Inputs out of range do not -/

/-- A request that has the stores to itself runs to its end. -/
theorem runs_alone (op : EntryOp) (prog : StoreProg VoiceEnd) (s : Stores) (plan : List (Outcome StoreError)) :
    ∃ n rest, Transition.runs entryStep ⟨⟨s, plan⟩, [⟨op, prog⟩]⟩ (List.replicate n (.step 0)) =
      some ⟨⟨(runFaulty Stores.exec raised prog plan s).2, rest⟩,
        [⟨op, .ret (runFaulty Stores.exec raised prog plan s).1⟩]⟩ := by
  induction prog generalizing s plan with
  | ret ended => exact ⟨0, plan, rfl⟩
  | call c k ih =>
    obtain ⟨n, rest, run⟩ := ih (execFaulty Stores.exec raised (plan.headD .works) s c).1
      (execFaulty Stores.exec raised (plan.headD .works) s c).2 plan.tail
    exact ⟨n + 1, rest, run⟩

/-- A run of one request over stores in range, with no call failing. -/
def spawnAlone (op : EntryOp) (n : Nat) : List (Act EntryOp) := .spawn op :: List.replicate n (.step 0)

/-- If every run of the request keeps the ranges, so does its run alone. -/
theorem alone_kept {op : EntryOp} {s : Stores} (start : s.InRange)
    (kept : ∀ s plan n p, s.InRange →
      Transition.runs entryStep ⟨⟨s, plan⟩, []⟩ (spawnAlone op n) = some p → RangesKept p) :
    (runFaulty Stores.exec raised op.body [] s).2.InRange ∧
      ∀ request, Hands op (runFaulty Stores.exec raised op.body [] s).1 request → request.InRange := by
  obtain ⟨n, rest, run⟩ := runs_alone op op.body s []
  have ranges := kept s [] n _ start run
  exact ⟨ranges.stored, ranges.handed _ List.mem_cons_self _ rfl⟩

theorem plainRecord_inRange (id : String) (source : VoiceSource) : (plainRecord id source).InRange := by
  constructor
  · show isBlank "en" = false
    decide
  · exact ⟨1, rfl, by norm_num, by norm_num⟩
  · exact ⟨1, rfl, by norm_num, by norm_num⟩
  · exact ⟨-20, rfl⟩
  · show (1 : Int) ≤ 2
    omega

theorem empty_inRange : Stores.empty.InRange := by
  intro v record found
  cases found

theorem oneVoice_inRange {record : VoiceRecord} (inRange : record.InRange) (data : Bytes) :
    (Stores.oneVoice record data).InRange := by
  intro v other found
  simp only [Stores.oneVoice, Stores.setBlob_metadata, Stores.metadata_setRecord] at found
  split at found
  · cases found
    exact inRange
  · cases found

theorem create_bounded {request : CreateRequest}
    (kept : (alone (.create request) [] .empty).2.InRange) : (VoiceOp.create request).Bounded := by
  intro payload data input
  rw [create_alone request withoutEffect_nil, input] at kept
  exact kept payload.id (createdRecord payload request.now) (by simp [Stores.empty, fault])

theorem update_bounded {request : UpdateRequest}
    (kept : (alone (.update request) [] (.oneVoice (plainRecord request.voiceId .crud) [])).2.InRange) :
    (VoiceOp.update request).Bounded := by
  intro payload blob input read
  have found : (Stores.oneVoice (plainRecord request.voiceId .crud) []).metadata request.voiceId =
      some (plainRecord request.voiceId .crud) := by
    simp [Stores.oneVoice]
  rw [update_alone request withoutEffect_nil, input, found, read] at kept
  cases blob with
  | none =>
    exact kept request.voiceId (updatedRecord (plainRecord request.voiceId .crud) payload request.now)
      (by simp [fault])
  | some data =>
    exact kept request.voiceId (updatedRecord (plainRecord request.voiceId .crud) payload request.now)
      (by simp [fault])

/-- Stores with a record for each id but one. -/
def Stores.allBut (ids : List String) (v : String) : Stores where
  metadata w := if w ∈ ids ∧ w ≠ v then some (plainRecord w .seed) else none
  blobs _ := none
  keyed w record found := by
    split at found
    · cases found
      rfl
    · cases found

theorem allBut_inRange (ids : List String) (v : String) : (Stores.allBut ids v).InRange := by
  intro w record found
  simp only [Stores.allBut] at found
  split at found
  · cases found
    exact plainRecord_inRange w .seed
  · cases found

/-- A pass that finds every other entry stored stores this one. -/
theorem runEntries_stores {pass : SeedPass} {entry : ParsedSeedEntry} {data : Bytes} {entries : List ParsedSeedEntry}
    {created : Nat} {s : Stores} (valid : ∀ entry ∈ entries, validateVoiceId entry.voiceId = .ok ())
    (distinct : (entries.map (·.voiceId)).Nodup) (member : entry ∈ entries)
    (others : ∀ other ∈ entries, other.voiceId ≠ entry.voiceId → (s.metadata other.voiceId).isSome)
    (absent : s.metadata entry.voiceId = none) (read : pass.readBytes entry.refAudioPath = .data data) :
    (runEntries pass entries created [] s).2.metadata entry.voiceId = some (seedRecord pass entry).settled := by
  induction entries generalizing created with
  | nil => cases member
  | cons first entries ih =>
    obtain ⟨here, later⟩ := List.forall_mem_cons.1 valid
    obtain ⟨apart, distinct⟩ := List.nodup_cons.1 distinct
    rw [runEntries_step here]
    rcases List.mem_cons.1 member with rfl | member
    · have fresh : ∀ other ∈ entries, entry.voiceId ≠ other.voiceId := by
        intro other there same
        exact apart (List.mem_map.2 ⟨other, there, same.symm⟩)
      rw [absent, read]
      show (runEntries pass entries (created + 1) [] (entryStored pass entry data s)).2.metadata entry.voiceId = _
      rw [runEntries_frame later fresh, metadata_entryStored, if_pos rfl]
    · have other : first.voiceId ≠ entry.voiceId := by
        intro same
        exact apart (List.mem_map.2 ⟨entry, member, same.symm⟩)
      rw [if_pos (others first List.mem_cons_self other)]
      exact ih later distinct member fun other there => others other (List.mem_cons_of_mem first there)

theorem ingest_bounded {pass : SeedPass}
    (kept : ∀ ids v, (alone (.ingest pass) [] (.allBut ids v)).2.InRange) : (VoiceOp.ingest pass).Bounded := by
  rintro entries parsed entry member ⟨data, read⟩
  obtain ⟨distinct, valid⟩ := parseAndValidate_ids parsed
  have inRange := kept (entries.map (·.voiceId)) entry.voiceId
  rw [ingest_alone parsed] at inRange
  have stored : (runEntries pass entries 0 [] (.allBut (entries.map (·.voiceId)) entry.voiceId)).2.metadata
      entry.voiceId = some (seedRecord pass entry).settled := by
    apply runEntries_stores valid distinct member _ _ read
    · intro other there apart
      simp only [Stores.allBut]
      rw [if_pos ⟨List.mem_map_of_mem there, apart⟩]
      rfl
    · simp [Stores.allBut]
  exact (inRange _ _ stored).targetDb

/-- Stores with this voice alone. -/
def Stores.holding (record : VoiceRecord) (blobBytes : Bytes) : Stores where
  metadata w := if w = record.id then some record else none
  blobs w := if w = record.id then some blobBytes else none
  keyed w found same := by
    split at same
    · rename_i named
      cases same
      exact named.symm
    · cases same

theorem holding_inRange {record : VoiceRecord} (inRange : record.InRange) (blobBytes : Bytes) :
    (Stores.holding record blobBytes).InRange := by
  intro w other found
  simp only [Stores.holding] at found
  split at found
  · cases found
    exact inRange
  · cases found

/-- A voice with a valid id is resolved. -/
theorem resolveVoice_alone {record : VoiceRecord} (valid : validateVoiceId record.id = .ok ()) (blobBytes : Bytes) :
    (runFaulty Stores.exec raised (resolveVoice record.id) [] (.holding record blobBytes)).1 =
      .ok (.resolved record blobBytes) := by
  have found : (Stores.holding record blobBytes).metadata record.id = some record := if_pos rfl
  have blob : (Stores.holding record blobBytes).blobs record.id = some blobBytes := if_pos rfl
  have valid' : validateVoiceId (StoreCall.blobGet record.id).voiceId = .ok () := valid
  have works : Works [] 0 := rfl
  rw [resolveVoice_eq, call_works works, Stores.exec_metaGet_some valid found]
  unfold resolveLoaded
  dsimp only
  rw [call_works (show Works [].tail 0 from rfl), Stores.exec_valid valid']
  simp only [Stores.execValid, blob]
  rfl

theorem synthesize_bounded {host : SynthesisHost} {calls : CoreCalls} {payload : SynthesizeRequest}
    (kept : ∀ record blobBytes, record.InRange → ∀ request, Hands (.synthesize host calls payload)
      (runFaulty Stores.exec raised (EntryOp.synthesize host calls payload).body [] (.holding record blobBytes)).1
        request → request.InRange) : (EntryOp.synthesize host calls payload).Bounded := by
  rintro entry found ⟨record, blobBytes, inRange, prepared, before, named, valid, reaches⟩
  obtain ⟨input, voice, pair⟩ := preparedWith_ok_iff.1 before
  have body : (EntryOp.synthesize host calls payload).body = resolveVoice record.id := by
    simp only [EntryOp.body, input, named]
  rw [← named] at valid
  obtain ⟨request, asked⟩ := List.exists_mem_of_ne_nil _ (handed_ne_nil_iff.2 ⟨prepared, before, reaches⟩)
  have ranges := kept record blobBytes inRange
  rw [body, resolveVoice_alone valid] at ranges
  have request_inRange := ranges request asked
  unfold handed at asked
  rw [before] at asked
  obtain ⟨tmpPath, chunkText, rfl⟩ := exists_of_mem_tryRequests asked
  have voice := request_inRange.voice
  obtain ⟨other, found', effective⟩ := synthesisInput_ok input
  cases found.symm.trans found'
  simp only [buildSynthesisRequest, effective] at voice
  have used : ∀ {α : Type} {P : α → Prop} {explicit preset : Option α} {fallback : α},
      P ((pick explicit preset).getD fallback) → ∀ x ∈ explicit.or preset, P x := by
    intro α P explicit preset fallback holds x set
    rw [pick_eq_or, Option.mem_def.1 set] at holds
    exact holds
  exact ⟨used voice.temperature, used voice.topP, used voice.targetDb⟩

/-- **Ranges.** For every class of validated inputs: every record stored and every
configuration handed to a provider is in range, in every run of these inputs from stores
in range, whatever calls fail, if and only if the accepted metadata of a POST or a PUT is
in range, `target_db` of an entry that a pass can store is finite, and so are the numbers
of a synthesis request that can come to a provider, or of its preset, within their bounds. -/
theorem ranges_kept_iff {admitted : EntryOp → Prop} (validated : ∀ op, admitted op → op.Validated) :
    (∀ (s : Stores) (plan : List (Outcome StoreError)) (acts : List (Act EntryOp)) (p : EntryPool), s.InRange →
        (∀ op, .spawn op ∈ acts → admitted op) →
        Transition.runs entryStep ⟨⟨s, plan⟩, []⟩ acts = some p → RangesKept p) ↔
      ∀ op, admitted op → op.Bounded := by
  constructor
  · intro kept op admits
    have alone : ∀ s : Stores, s.InRange → (runFaulty Stores.exec raised op.body [] s).2.InRange ∧
        ∀ request, Hands op (runFaulty Stores.exec raised op.body [] s).1 request → request.InRange := by
      intro s start
      apply alone_kept start
      intro s plan n p start run
      refine kept s plan _ p start (fun other spawned => ?_) run
      rcases List.mem_cons.1 spawned with same | step
      · cases same
        exact admits
      · cases List.eq_of_mem_replicate step
    cases op with
    | synthesize host calls payload =>
      exact synthesize_bounded fun record blobBytes inRange => (alone _ (holding_inRange inRange blobBytes)).2
    | voice op => cases op with
      | create request => exact create_bounded (alone .empty empty_inRange).1
      | update request =>
        exact update_bounded (alone _ (oneVoice_inRange (plainRecord_inRange request.voiceId .crud) [])).1
      | ingest pass => exact ingest_bounded fun ids v => (alone _ (allBut_inRange ids v)).1
      | delete v => trivial
      | resolve v => trivial
  · intro bounded s plan acts p start inputs run
    exact ranges_kept start (fun op spawned => ⟨validated op (inputs op spawned), bounded op (inputs op spawned)⟩) run

/-- A request for the voice `ada`, with a temperature of its own. -/
def adaSpeaks : SynthesizeRequest :=
  { input := "hello", preset := some "reading", voice := some "ada", temperature := some (.finite 2) }

/-- The calls of a run that is answered. -/
def adaCalls : CoreCalls := { fullDisk with tempFile := fun voiceId _ => some ("/tmp/voice-" ++ voiceId ++ "-x1.wav") }

/-- A POST and a synthesis request for its voice. -/
def postThenSpeak : List (Act EntryOp) :=
  [.spawn (.voice (.create (plainCreate 1))), .step 0, .step 0, .spawn (.synthesize adaHost adaCalls adaSpeaks), .step 1,
    .step 1]

theorem postThenSpeak_inRange :
    ∃ p, Transition.runs entryStep ⟨⟨.empty, []⟩, []⟩ postThenSpeak = some p ∧
      (p.store.stores.metadata "ada").isSome ∧ p.tasks.map (·.prog.result?.isSome) = [true, true] ∧
      (handed adaHost adaCalls adaSpeaks (plainRecord "ada" .crud) [1]).length = 1 ∧ RangesKept p := by
  have run := Transition.runs_final entryStep ⟨⟨.empty, []⟩, []⟩ postThenSpeak (by decide +kernel)
  have inputs : ∀ op, .spawn op ∈ postThenSpeak →
      op = .voice (.create (plainCreate 1)) ∨ op = .synthesize adaHost adaCalls adaSpeaks := by
    simp [postThenSpeak]
  have validated : ∀ op, .spawn op ∈ postThenSpeak → op.Validated := by
    intro op spawned
    rcases inputs op spawned with rfl | rfl
    · trivial
    · refine ⟨nofun, fun item member n set => ?_⟩
      rw [List.mem_singleton.1 member] at set
      cases set
  have bounded : ∀ op, .spawn op ∈ postThenSpeak → op.Bounded := by
    intro op spawned
    rcases inputs op spawned with rfl | rfl
    · intro payload data input
      cases (createInput_consents input).1
      exact plainRecord_inRange "ada" .crud
    · intro entry found _
      cases found
      refine ⟨?_, nofun, nofun⟩
      rintro x set
      cases set
      exact ⟨2, rfl, by norm_num, by norm_num⟩
  exact ⟨_, run, by decide +kernel, by decide +kernel, by decide +kernel,
    (ranges_kept_iff validated).2 bounded _ _ _ _ empty_inRange (fun op spawned => spawned) run⟩

/-- A POST whose temperature is 5. -/
def hotCreate : CreateRequest :=
  { plainCreate 1 with
    metadata := .ok { plainFields with temperature := .finite 5, id := "eve", idMatches := by decide } }

/-- The record that it stores is out of range. -/
theorem hotCreate_stored :
    ¬∀ (s : Stores) (plan : List (Outcome StoreError)) (acts : List (Act EntryOp)) (p : EntryPool), s.InRange →
      (∀ op, .spawn op ∈ acts → op.Validated) →
      Transition.runs entryStep ⟨⟨s, plan⟩, []⟩ acts = some p → RangesKept p := by
  intro claim
  have run := Transition.runs_final entryStep ⟨⟨.empty, []⟩, []⟩ [.spawn (.voice (.create hotCreate)), .step 0]
    (by decide +kernel)
  have validated : ∀ op, .spawn op ∈ [Act.spawn (EntryOp.voice (.create hotCreate)), .step 0] → op.Validated := by
    intro op spawned
    simp only [List.mem_cons, Act.spawn.injEq, reduceCtorEq, List.not_mem_nil, or_false] at spawned
    rw [spawned]
    trivial
  have kept := claim _ _ _ _ empty_inRange validated run
  have hot := kept.stored "eve" { plainRecord "eve" .crud with temperature := .finite 5 } (by decide +kernel)
  obtain ⟨q, five, -, low⟩ := hot.temperature
  cases five
  norm_num at low

end LlmTts
