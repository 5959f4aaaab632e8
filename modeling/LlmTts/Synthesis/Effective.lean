import LlmTts.Synthesis.Core

/-!
# What `X-Preset-Effective` shows

The header is formatted from what `resolve_preset` returns; `synthesize_core` strips
and replaces some of these values afterwards. `effective_header_true_iff` tells when
every field that the header lists has the value that the pipeline used.
-/

namespace LlmTts
open Python Checked

/-! ## The pipeline -/

section Pipeline

variable (host : SynthesisHost) (calls : CoreCalls) (payload : SynthesizeRequest)

/-- The `try` block of `synthesize_core` after `_build_voice_config`. -/
def pipeline (prepared : Prepared) (voice : VoiceConfig) : Except Thrown RouteOutcome := do
  let language := if voice.numberLang = "" then voice.language else voice.numberLang
  let some normalized := calls.preprocessForTts payload.input language | .error (.fault .text)
  let some chunks := calls.splitTextSemantic normalized host.maxInputChars voice.maxSentencesPerChunk.toInt
    | .error (.fault .text)
  if chunks = [] then
    .error (.openai (invalidRequest [.text "input is required"] (some "input")))
  else
    match calls.admission with
    | .full => .error (.openai queueFull)
    | .cancelled => .error .cancelled
    | .admitted =>
      let input : SynthesisInput := ⟨prepared.modelName, voice, prepared.voiceId, "wav"⟩
      let provider := calls.synthesizeChunks prepared.strategy
      if payload.stream then
        respond host prepared none (streamSynthesisChunks calls.np provider input ⟨0, 0⟩ chunks).1.flatten
      else do
        let buffered ← (synthesizeBuffered calls.np provider calls.disconnected input chunks).mapError .ofRaised
        respond host prepared (some (buffered.chunks, buffered.durationMs)) buffered.body

/-- The value of a field that the pipeline uses, as text. -/
def usedValue (prepared : Prepared) (voice : VoiceConfig) (field : String) : Option String :=
  match field with
  | "provider" => some prepared.providerName
  | "model" => some prepared.modelName
  | "temperature" => some (PyValue.str voice.temperature)
  | "top_p" => some (PyValue.str voice.topP)
  | "max_sentences_per_chunk" => some (PyValue.str voice.maxSentencesPerChunk)
  | "normalize_db" => some (PyValue.str voice.targetDb)
  | "language" => some voice.language
  | "number_lang" => some voice.numberLang
  | "voice" => some prepared.voiceId
  | "response_format" => some "wav"
  | _ => none

end Pipeline

section Run

variable {host : SynthesisHost} {calls : CoreCalls} {payload : SynthesizeRequest} {prepared : Prepared}
  {outcome : RouteOutcome}

theorem tryBlock_ok (done : tryBlock host calls payload prepared = .ok outcome) :
    ∃ tmpPath, calls.tempFile prepared.voiceId prepared.blobBytes = some tmpPath ∧
      pipeline host calls payload prepared (buildVoiceConfig prepared.record tmpPath prepared.effective) =
        .ok outcome := by
  unfold tryBlock at done
  cases file : calls.tempFile prepared.voiceId prepared.blobBytes with
  | none =>
    rw [file] at done
    cases done
  | some tmpPath =>
    rw [file] at done
    exact ⟨tmpPath, rfl, done⟩

/-- A run that is not refused found its preset, its voice and its provider. -/
structure PreparedFrom (host : SynthesisHost) (payload : SynthesizeRequest) (defaults : PresetDefaults)
    (prepared : Prepared) : Prop where
  effective : prepared.effective = effectiveConfig payload (payload.presetName host.settings) defaults
  voice : prepared.voiceId = resolvedVoice payload prepared.effective
  voiced : prepared.voiceId ≠ ""
  provider : prepared.providerName = providerName host.selection prepared.effective
  model : prepared.modelName = modelName host.settings host.selection prepared.effective

theorem prepare_ok (before : prepare host calls payload = .ok prepared) :
    ∃ entry, host.presetSnapshot.get (payload.presetName host.settings) = some entry ∧
      PreparedFrom host payload entry.defaults prepared := by
  unfold prepare at before
  obtain ⟨effective, resolved, before⟩ := bind_ok_iff.1 before
  dsimp only at before
  split at before
  · cases before
  · rename_i voiced
    split at before
    · cases before
    · split at before
      · cases before
      · obtain ⟨⟨record, blobBytes⟩, stored, before⟩ := bind_ok_iff.1 before
        obtain ⟨⟨provider, model, strategy⟩, pair, before⟩ := bind_ok_iff.1 before
        cases before
        have resolved := mapError_ok_iff.1 resolved
        cases found : host.presetSnapshot.get (payload.presetName host.settings) with
        | none =>
          simp only [resolvePreset, found] at resolved
          cases resolved
        | some entry =>
          rw [resolvePreset_of_get found] at resolved
          cases resolved
          obtain ⟨provided, modelled, -⟩ := resolved_names (mapError_ok_iff.1 pair)
          exact ⟨entry, rfl, ⟨rfl, rfl, voiced, provided, modelled⟩⟩

theorem respond_ok {totals : Option (Int × Int)} {body : Bytes}
    (done : respond host prepared totals body = .ok outcome) :
    outcome = .responds 200 (rawHeaders (plainHeaders host prepared totals))
      (plainHeaders_plain host prepared totals) true body := by
  unfold respond at done
  split at done
  · cases done
    rfl
  · cases done

/-- A response whose headers are clean is built. -/
theorem respond_of_clean {totals : Option (Int × Int)}
    (clean : ∀ header ∈ plainHeaders host prepared totals, Clean header.2) (body : Bytes) :
    ∃ outcome, respond host prepared totals body = .ok outcome := by
  refine ⟨_, if_pos ?_⟩
  rw [List.all_eq_true]
  intro header member
  rw [List.all_eq_true]
  intro c inside
  have char := clean header member c inside
  simp only [headerChar, Bool.or_eq_true, Bool.and_eq_true, decide_eq_true_eq] at char ⊢
  omega

/-- A run that is not refused builds a response. -/
theorem pipeline_responds {voice : VoiceConfig} (done : pipeline host calls payload prepared voice = .ok outcome) :
    ∃ totals body, respond host prepared totals body = .ok outcome := by
  unfold pipeline at done
  dsimp only at done
  generalize (if voice.numberLang = "" then voice.language else voice.numberLang) = language at done
  cases normalized : calls.preprocessForTts payload.input language with
  | none =>
    rw [normalized] at done
    cases done
  | some text =>
    cases pieces : calls.splitTextSemantic text host.maxInputChars voice.maxSentencesPerChunk.toInt with
    | none =>
      simp only [normalized, pieces] at done
      cases done
    | some chunks =>
      simp only [normalized, pieces] at done
      split at done
      · cases done
      · cases admission : calls.admission with
        | full =>
          rw [admission] at done
          cases done
        | cancelled =>
          rw [admission] at done
          cases done
        | admitted =>
          simp only [admission] at done
          split at done
          · exact ⟨_, _, done⟩
          · obtain ⟨buffered, -, done⟩ := bind_ok_iff.1 done
            exact ⟨_, _, done⟩

theorem pipeline_ok {voice : VoiceConfig} (done : pipeline host calls payload prepared voice = .ok outcome) :
    ∃ totals body, outcome = .responds 200 (rawHeaders (plainHeaders host prepared totals))
      (plainHeaders_plain host prepared totals) true body := by
  obtain ⟨totals, body, built⟩ := pipeline_responds done
  exact ⟨totals, body, respond_ok built⟩

theorem synthesizeCore_ok {str : Fault → String} (run : synthesizeCore host calls payload str = .ok outcome) :
    ∃ prepared, prepare host calls payload = .ok prepared ∧ tryBlock host calls payload prepared = .ok outcome := by
  obtain ⟨prepared, before, inside⟩ := bind_ok_iff.1 run
  exact ⟨prepared, before, mapError_ok_iff.1 inside⟩

end Run

/-! ## Pieces between commas -/

/-- Each piece of a list that was joined is a piece of one of the parts. -/
theorem splitOn_intercalate_flatMap {α : Type} [BEq α] [LawfulBEq α] (a : α) {parts : List (List α)}
    (nonempty : parts ≠ []) : ([a].intercalate parts).splitOn a = parts.flatMap (List.splitOn a) := by
  induction parts with
  | nil => exact absurd rfl nonempty
  | cons part parts ih =>
    cases parts with
    | nil => simp
    | cons next parts =>
      rw [List.intercalate_cons_cons, List.append_assoc, List.singleton_append, List.splitOn_append_cons_self,
        ih (List.cons_ne_nil _ _)]
      rfl

/-- A list is taken apart at the first `a` in one way. -/
theorem first_unique {α : Type} {a : α} {front front' back back' : List α} (absent : a ∉ front)
    (absent' : a ∉ front') (same : front ++ a :: back = front' ++ a :: back') : front = front' ∧ back = back' := by
  induction front generalizing front' with
  | nil =>
    cases front' with
    | nil =>
      cases same
      exact ⟨rfl, rfl⟩
    | cons b front' =>
      cases same
      exact absurd List.mem_cons_self absent'
  | cons b front ih =>
    cases front' with
    | nil =>
      cases same
      exact absurd List.mem_cons_self absent
    | cons c front' =>
      obtain ⟨rfl, rest⟩ := List.cons.inj same
      obtain ⟨rfl, rfl⟩ := ih (fun member => absent (List.mem_cons_of_mem _ member))
        (fun member => absent' (List.mem_cons_of_mem _ member)) rest
      exact ⟨rfl, rfl⟩

/-- A piece of the header names a field that is not ignored with the value in `used`. -/
def Tells (used : String → Option String) (ignored : List String) (piece : List Char) : Prop :=
  ∀ field value : String, piece = field.toList ++ '=' :: value.toList → '=' ∉ field.toList →
    field ∉ ignored → used field = some value

section Part

variable {used : String → Option String} {ignored : List String} {key text value : String}

theorem tells_iff (named : '=' ∉ key.toList) (shown : key ∉ ignored) (uses : used key = some value) :
    Tells used ignored (key.toList ++ '=' :: text.toList) ↔ value = text := by
  constructor
  · intro tells
    have same := tells key text rfl named shown
    exact Option.some.inj (uses.symm.trans same)
  · rintro rfl field other same named' _
    obtain ⟨fields, values⟩ := first_unique named named' same
    rw [← String.toList_inj.1 fields, ← String.toList_inj.1 values]
    exact uses

/-- The pieces of one part of the header: a comma in its text makes a false one. -/
theorem pieces_tell_iff (named : '=' ∉ key.toList ∧ ',' ∉ key.toList) (shown : key ∉ ignored)
    (uses : used key = some value) (kept : ',' ∈ text.toList → ',' ∈ value.toList) :
    (∀ piece ∈ (key.toList ++ '=' :: text.toList).splitOn ',', Tells used ignored piece) ↔
      ',' ∉ text.toList ∧ value = text := by
  by_cases comma : ',' ∈ text.toList
  · refine iff_of_false (fun all => ?_) fun ⟨absent, _⟩ => absent comma
    obtain ⟨front, back, cut, absent⟩ := List.eq_append_cons_of_mem comma
    have before : ',' ∉ key.toList ++ '=' :: front := by simp [named.2, absent]
    have first : key.toList ++ '=' :: (String.ofList front).toList ∈
        (key.toList ++ '=' :: text.toList).splitOn ',' := by
      rw [cut, ← List.cons_append, ← List.append_assoc,
        List.splitOn_append_cons_self_of_not_mem before, String.toList_ofList]
      exact List.mem_cons_self
    have same := (tells_iff named.1 shown uses).1 (all _ first)
    have member := kept comma
    rw [same, String.toList_ofList] at member
    exact absent member
  · have whole : ',' ∉ key.toList ++ '=' :: text.toList := by simp [named.2, comma]
    rw [List.splitOn_eq_singleton whole, List.forall_mem_singleton, tells_iff named.1 shown uses]
    exact (and_iff_right comma).symm

end Part

/-! ## The header -/

/-- What stands between the brackets of the header. -/
def headerBody (cfg : EffectiveSynthesisConfig) : String :=
  ",".intercalate
    (((headerParts cfg).mergeSort fun a b => decide (a.1 ≤ b.1)).map fun part => part.1 ++ "=" ++ part.2)

theorem formatPresetEffectiveHeader_eq (cfg : EffectiveSynthesisConfig) :
    formatPresetEffectiveHeader cfg = cfg.presetName ++ "(" ++ headerBody cfg ++ ")" := rfl

/-- Every field that the header lists, unless it is ignored, has the value that the
pipeline uses. -/
def Truthful (prepared : Prepared) (voice : VoiceConfig) : Prop :=
  ∀ piece ∈ (headerBody prepared.effective).toList.splitOn ',',
    Tells (usedValue prepared voice) prepared.effective.ignoredKnobs piece

/-- The pieces of one part of the header have the values in `used`. -/
def PartTells (used : String → Option String) (ignored : List String) (part : String × String) : Prop :=
  ∀ piece ∈ (part.1.toList ++ '=' :: part.2.toList).splitOn ',', Tells used ignored piece

theorem truthful_iff_parts (prepared : Prepared) (voice : VoiceConfig) :
    Truthful prepared voice ↔ ∀ part ∈ headerParts prepared.effective,
      PartTells (usedValue prepared voice) prepared.effective.ignoredKnobs part := by
  have listed : (headerParts prepared.effective).mergeSort (fun a b => decide (a.1 ≤ b.1)) ≠ [] := by
    intro unset
    have format : ("response_format", prepared.effective.responseFormat.name) ∈
        (headerParts prepared.effective).mergeSort (fun a b => decide (a.1 ≤ b.1)) :=
      List.mem_mergeSort.2 (List.mem_append_right _ List.mem_cons_self)
    rw [unset] at format
    cases format
  have comma : (",").toList = [','] := by decide
  have equals : ("=").toList = ['='] := by decide
  unfold Truthful headerBody
  rw [String.toList_intercalate, comma, splitOn_intercalate_flatMap ',' (by simpa using listed)]
  simp only [List.forall_mem_flatMap, List.forall_mem_map, List.mem_mergeSort, PartTells, String.toList_append,
    equals, List.append_assoc, List.singleton_append]

/-- A field of the header, if it is set. -/
theorem headerPart_tells_iff {α : Type} [PyValue α] {used : String → Option String} {ignored : List String}
    {key : String} (named : '=' ∉ key.toList ∧ ',' ∉ key.toList) (shown : key ∉ ignored) {set : Option α}
    {value : String} (uses : used key = some value)
    (kept : ∀ v ∈ set, ',' ∈ (PyValue.str v).toList → ',' ∈ value.toList) :
    (∀ part ∈ headerPart key set, PartTells used ignored part) ↔
      ∀ v ∈ set, ',' ∉ (PyValue.str v).toList ∧ value = PyValue.str v := by
  cases set with
  | none => exact iff_of_true nofun nofun
  | some v =>
    simp only [headerPart, List.forall_mem_singleton, Option.mem_def, Option.some.injEq, forall_eq']
    exact pieces_tell_iff named shown uses (kept v rfl)

/-- A number is shown as it is used. -/
theorem number_tells {α : Type} [PyValue α] {used : String → Option String} {ignored : List String}
    {key : String} (named : '=' ∉ key.toList ∧ ',' ∉ key.toList) (shown : key ∉ ignored) {set : Option α}
    {value : String} (uses : used key = some value) (same : ∀ v ∈ set, value = PyValue.str v)
    (plain : ∀ v : α, ',' ∉ (PyValue.str v).toList) :
    ∀ part ∈ headerPart key set, PartTells used ignored part := by
  refine (headerPart_tells_iff named shown uses fun v _ comma => absurd comma (plain v)).2 ?_
  intro v member
  exact ⟨plain v, same v member⟩

theorem comma_notMem_of_textual {text : List Char} (textual : PyFloat.Textual text) : ',' ∉ text := by
  intro member
  have char := textual ',' member
  revert char
  decide

/-- A text that the pipeline uses as it is shown: it has no white space around it, or is
blank and is what takes its place. A comma would end its field. -/
def Stands (text fallback : String) : Prop :=
  ',' ∉ text.toList ∧ if isBlank text then text = fallback else strip text = text

instance (text fallback : String) : Decidable (Stands text fallback) := inferInstanceAs (Decidable (_ ∧ _))

/-- What the code puts in the place of a text. -/
def standing (text fallback : String) : String := if isBlank text then fallback else strip text

theorem standing_eq (text fallback : String) : (setText (some text)).getD fallback = standing text fallback := by
  unfold standing
  cases blank : isBlank text with
  | true => rw [setText_blank blank, if_pos rfl, Option.getD_none]
  | false => rw [setText_full blank, if_neg Bool.false_ne_true, Option.getD_some]

theorem stands_iff {text fallback : String} :
    ',' ∉ text.toList ∧ standing text fallback = text ↔ Stands text fallback := by
  unfold Stands standing
  refine and_congr_right fun _ => ?_
  split
  · exact eq_comm
  · exact Iff.rfl

theorem stands_of_trimmed {text : String} (fallback : String) (comma : ',' ∉ text.toList)
    (trimmed : strip text = text) (given : text ≠ "") : Stands text fallback := by
  refine ⟨comma, ?_⟩
  split
  · rename_i blank
    exact absurd (trimmed.symm.trans (strip_eq_empty_iff.2 blank)) given
  · exact trimmed

theorem standing_comma {text fallback : String} (comma : ',' ∈ text.toList) :
    ',' ∈ (standing text fallback).toList := by
  have full : isBlank text = false := by
    rw [Bool.eq_false_iff]
    intro blank
    have space := List.all_eq_true.1 blank ',' comma
    revert space
    decide
  unfold standing
  rw [full, if_neg Bool.false_ne_true]
  exact mem_strip (by decide) comma

theorem language_standing (record : VoiceRecord) (tmpPath : String) {effective : EffectiveSynthesisConfig}
    {text : String} (set : effective.language = some text) (given : text ≠ "") :
    (buildVoiceConfig record tmpPath effective).language = standing text record.language := by
  simp only [buildVoiceConfig, set, textOr, given, if_false, standing, strip_eq_empty_iff]

theorem language_stands_iff (record : VoiceRecord) (tmpPath : String) {effective : EffectiveSynthesisConfig}
    {text : String} (set : effective.language = some text) :
    ',' ∉ text.toList ∧ (buildVoiceConfig record tmpPath effective).language = text ↔
      Stands text record.language := by
  by_cases given : text = ""
  · subst given
    have used : (buildVoiceConfig record tmpPath effective).language =
        if strip record.language = "" then record.language else strip record.language := by
      simp only [buildVoiceConfig, set, textOr, if_true]
    have blank : isBlank "" = true := by decide
    unfold Stands
    rw [used, blank, if_pos rfl]
    refine and_congr_right fun _ => ?_
    split
    · exact eq_comm
    · rename_i full
      refine iff_of_false full fun empty => full ?_
      rw [← empty]
      decide
  · rw [language_standing record tmpPath set given]
    exact stands_iff

theorem language_comma (record : VoiceRecord) (tmpPath : String) {effective : EffectiveSynthesisConfig}
    {text : String} (set : effective.language = some text) (comma : ',' ∈ text.toList) :
    ',' ∈ (buildVoiceConfig record tmpPath effective).language.toList := by
  have given : text ≠ "" := by
    rintro rfl
    cases comma
  rw [language_standing record tmpPath set given]
  exact standing_comma comma

/-- The texts that the header shows are used as they are. -/
structure Stated (settings : Settings) (selection : ProviderSelection) (record : VoiceRecord)
    (request : SynthesizeRequest) (defaults : PresetDefaults) : Prop where
  provider : ∀ text ∈ request.provider.or defaults.provider, Stands text selection.providerName
  model : ∀ text ∈ request.model.or defaults.model, Stands text (settings.modelDefaultForProvider
    ((setText (request.provider.or defaults.provider)).getD selection.providerName))
  language : ∀ text ∈ request.language.or defaults.language, Stands text record.language
  numberLang : ∀ text ∈ request.numberLang.or defaults.numberLang, ',' ∉ text.toList
  voice : ∀ text ∈ request.voice.or defaults.voice, ',' ∉ text.toList ∧ strip text = text

section Fields

variable {settings : Settings} {host : SynthesisHost} {payload : SynthesizeRequest} {defaults : PresetDefaults}
  {prepared : Prepared}

/-- A text that stands for a name of the registry or of the settings. -/
theorem name_tells_iff {used : String → Option String} {ignored : List String} {key : String}
    (named : '=' ∉ key.toList ∧ ',' ∉ key.toList) (shown : key ∉ ignored) {set : Option String}
    {fallback : String} (uses : used key = some ((setText set).getD fallback)) :
    (∀ part ∈ headerPart key set, PartTells used ignored part) ↔ ∀ text ∈ set, Stands text fallback := by
  have kept : ∀ text ∈ set, ',' ∈ (PyValue.str text).toList → ',' ∈ ((setText set).getD fallback).toList := by
    rintro text member comma
    rw [Option.mem_def.1 member, standing_eq]
    exact standing_comma comma
  rw [headerPart_tells_iff named shown uses kept]
  refine forall₂_congr fun text member => ?_
  rw [Option.mem_def.1 member, standing_eq]
  exact stands_iff

/-- The voice of a run is the one that is named, and is not blank. -/
theorem voice_stands_iff (resolves : PreparedFrom host payload defaults prepared) {text : String}
    (set : prepared.effective.voice = some text) : prepared.voiceId = strip text := by
  have picked : pick payload.voice defaults.voice = some text := by
    rw [← set, resolves.effective]
    rfl
  have voiced := resolves.voiced
  rw [resolves.voice, resolves.effective, resolvedVoice_eq, picked] at voiced ⊢
  cases blank : isBlank text with
  | true =>
    rw [setText_blank blank] at voiced
    exact absurd rfl voiced
  | false => rw [setText_full blank, Option.getD_some]

theorem voice_tells_iff {ignored : List String} (resolves : PreparedFrom host payload defaults prepared)
    (voice : VoiceConfig) (shown : "voice" ∉ ignored) :
    (∀ part ∈ headerPart "voice" prepared.effective.voice, PartTells (usedValue prepared voice) ignored part) ↔
      ∀ text ∈ prepared.effective.voice, ',' ∉ text.toList ∧ strip text = text := by
  have used := fun text (set : text ∈ prepared.effective.voice) =>
    voice_stands_iff resolves (Option.mem_def.1 set)
  have kept : ∀ text ∈ prepared.effective.voice, ',' ∈ (PyValue.str text).toList →
      ',' ∈ prepared.voiceId.toList := by
    intro text set comma
    rw [used text set]
    exact mem_strip (by decide) comma
  have uses : usedValue prepared voice "voice" = some prepared.voiceId := rfl
  rw [headerPart_tells_iff (by decide) shown uses kept]
  refine forall₂_congr fun text set => ?_
  rw [used text set]
  rfl

theorem language_tells_iff (prepared : Prepared) {ignored : List String} (tmpPath : String) (shown : "language" ∉ ignored) :
    (∀ part ∈ headerPart "language" prepared.effective.language, PartTells
        (usedValue prepared (buildVoiceConfig prepared.record tmpPath prepared.effective)) ignored part) ↔
      ∀ text ∈ prepared.effective.language, Stands text prepared.record.language := by
  have uses : usedValue prepared (buildVoiceConfig prepared.record tmpPath prepared.effective) "language" =
      some (buildVoiceConfig prepared.record tmpPath prepared.effective).language := rfl
  rw [headerPart_tells_iff (by decide) shown uses fun text set => language_comma prepared.record tmpPath set]
  exact forall₂_congr fun text set => language_stands_iff prepared.record tmpPath set

theorem numberLang_tells_iff (prepared : Prepared) {ignored : List String} (tmpPath : String)
    (shown : "number_lang" ∉ ignored) :
    (∀ part ∈ headerPart "number_lang" prepared.effective.numberLang, PartTells
        (usedValue prepared (buildVoiceConfig prepared.record tmpPath prepared.effective)) ignored part) ↔
      ∀ text ∈ prepared.effective.numberLang, ',' ∉ text.toList := by
  have used : ∀ text ∈ prepared.effective.numberLang,
      (buildVoiceConfig prepared.record tmpPath prepared.effective).numberLang = text := by
    intro text set
    simp only [buildVoiceConfig, Option.mem_def.1 set, Option.getD_some]
  have uses : usedValue prepared (buildVoiceConfig prepared.record tmpPath prepared.effective) "number_lang" =
      some (buildVoiceConfig prepared.record tmpPath prepared.effective).numberLang := rfl
  have kept : ∀ text ∈ prepared.effective.numberLang, ',' ∈ (PyValue.str text).toList →
      ',' ∈ (buildVoiceConfig prepared.record tmpPath prepared.effective).numberLang.toList := by
    intro text set comma
    rw [used text set]
    exact comma
  rw [headerPart_tells_iff (by decide) shown uses kept]
  exact forall₂_congr fun text set => and_iff_left (used text set)

/-- The format is shown as `wav`, or ignored. -/
theorem format_tells (voice : VoiceConfig)
    (effective : prepared.effective = effectiveConfig payload (payload.presetName host.settings) defaults) :
    PartTells (usedValue prepared voice) prepared.effective.ignoredKnobs
      ("response_format", prepared.effective.responseFormat.name) := by
  by_cases wav : defaults.responseFormat.getD .wav = .wav
  · have format : prepared.effective.responseFormat.name = "wav" := by
      rw [effective]
      exact congrArg ResponseFormat.name wav
    have ignored : prepared.effective.ignoredKnobs = [] := by
      rw [effective]
      exact if_pos wav
    have uses : usedValue prepared voice "response_format" = some "wav" := rfl
    have named : '=' ∉ ("response_format").toList ∧ ',' ∉ ("response_format").toList := by decide
    rw [format, ignored]
    exact (pieces_tell_iff named List.not_mem_nil uses (fun comma => comma)).2 ⟨by decide, rfl⟩
  · have ignored : prepared.effective.ignoredKnobs = ["response_format"] := by
      rw [effective]
      exact if_neg wav
    have whole : ',' ∉ ("response_format").toList ++ '=' :: prepared.effective.responseFormat.name.toList := by
      cases prepared.effective.responseFormat <;> decide
    rw [ignored]
    intro piece member
    dsimp only at member
    rw [List.splitOn_eq_singleton whole, List.mem_singleton] at member
    subst member
    intro field value same named shown
    obtain ⟨fields, -⟩ := first_unique (by decide) named same
    rw [String.toList_inj.1 fields] at shown
    exact absurd (List.mem_singleton_self _) shown

theorem truthful_iff_stated (resolves : PreparedFrom host payload defaults prepared) (tmpPath : String) :
    Truthful prepared (buildVoiceConfig prepared.record tmpPath prepared.effective) ↔
      Stated host.settings host.selection prepared.record payload defaults := by
  have effective := resolves.effective
  have shown : ∀ key : String, key ≠ "response_format" → key ∉ prepared.effective.ignoredKnobs := by
    intro key other member
    rw [effective] at member
    unfold effectiveConfig at member
    dsimp only at member
    split at member
    · cases member
    · exact other (List.mem_singleton.1 member)
  have float : ∀ v : PyFloat, ',' ∉ (PyValue.str v).toList := fun v =>
    comma_notMem_of_textual (PyFloat.textual_str v)
  have int : ∀ v : Int, ',' ∉ (PyValue.str v).toList := fun v => comma_notMem_of_textual (textual_intStr v)
  have provider : (∀ part ∈ headerPart "provider" prepared.effective.provider, PartTells (usedValue prepared
      (buildVoiceConfig prepared.record tmpPath prepared.effective)) prepared.effective.ignoredKnobs part) ↔
      ∀ text ∈ prepared.effective.provider, Stands text host.selection.providerName := by
    refine name_tells_iff (by decide) (shown _ (by decide)) ?_
    rw [← providerName_eq, ← resolves.provider]
    rfl
  have model : (∀ part ∈ headerPart "model" prepared.effective.model, PartTells (usedValue prepared
      (buildVoiceConfig prepared.record tmpPath prepared.effective)) prepared.effective.ignoredKnobs part) ↔
      ∀ text ∈ prepared.effective.model, Stands text (host.settings.modelDefaultForProvider
        (providerName host.selection prepared.effective)) := by
    refine name_tells_iff (by decide) (shown _ (by decide)) ?_
    rw [← modelName_eq, ← resolves.model]
    rfl
  have language := language_tells_iff prepared tmpPath (shown "language" (by decide))
  have numberLang := numberLang_tells_iff prepared tmpPath (shown "number_lang" (by decide))
  have voice := voice_tells_iff resolves (buildVoiceConfig prepared.record tmpPath prepared.effective)
    (shown "voice" (by decide))
  have picked : prepared.effective.provider = payload.provider.or defaults.provider ∧
      prepared.effective.model = payload.model.or defaults.model ∧
      prepared.effective.language = payload.language.or defaults.language ∧
      prepared.effective.numberLang = payload.numberLang.or defaults.numberLang ∧
      prepared.effective.voice = payload.voice.or defaults.voice := by
    rw [effective]
    exact ⟨pick_eq_or _ _, pick_eq_or _ _, pick_eq_or _ _, pick_eq_or _ _, pick_eq_or _ _⟩
  obtain ⟨providers, models, languages, numberLangs, voices⟩ := picked
  rw [providerName_eq] at model
  rw [truthful_iff_parts]
  unfold headerParts
  simp only [List.forall_mem_append, List.forall_mem_singleton, and_assoc]
  rw [provider, model, language, numberLang, voice, providers, models, languages, numberLangs, voices]
  constructor
  · rintro ⟨provider, model, -, -, -, -, language, numberLang, voice, -⟩
    exact ⟨provider, model, language, numberLang, voice⟩
  · intro stated
    refine ⟨stated.provider, stated.model, ?_, ?_, ?_, ?_, stated.language, stated.numberLang, stated.voice,
      format_tells _ effective⟩
    · refine number_tells (by decide) (shown _ (by decide)) rfl (fun x set => ?_) float
      simp only [buildVoiceConfig, Option.mem_def.1 set, Option.getD_some]
    · refine number_tells (by decide) (shown _ (by decide)) rfl (fun x set => ?_) float
      simp only [buildVoiceConfig, Option.mem_def.1 set, Option.getD_some]
    · refine number_tells (by decide) (shown _ (by decide)) rfl (fun n set => ?_) int
      simp only [buildVoiceConfig, Option.mem_def.1 set, Option.map_some, Option.getD_some]
      rfl
    · refine number_tells (by decide) (shown _ (by decide)) rfl (fun x set => ?_) float
      simp only [buildVoiceConfig, Option.mem_def.1 set, Option.getD_some]

end Fields

/-- A run of `synthesize_core` that ends in 200, its local variables, and the
configuration that its pipeline used. -/
structure Responds (host : SynthesisHost) (calls : CoreCalls) (payload : SynthesizeRequest) (outcome : RouteOutcome)
    (prepared : Prepared) (voice : VoiceConfig) : Prop where
  prepares : prepare host calls payload = .ok prepared
  configures : ∃ tmpPath, calls.tempFile prepared.voiceId prepared.blobBytes = some tmpPath ∧
    voice = buildVoiceConfig prepared.record tmpPath prepared.effective
  runs : pipeline host calls payload prepared voice = .ok outcome
  shows : ∃ totals body, outcome = .responds 200 (rawHeaders (plainHeaders host prepared totals))
      (plainHeaders_plain host prepared totals) true body ∧
    ("X-Provider", prepared.providerName) ∈ plainHeaders host prepared totals ∧
    ("X-Model", prepared.modelName) ∈ plainHeaders host prepared totals ∧
    ("X-Preset-Effective", prepared.effective.presetName ++ "(" ++ headerBody prepared.effective ++ ")") ∈
      plainHeaders host prepared totals

theorem responds_of_run {host : SynthesisHost} {calls : CoreCalls} {payload : SynthesizeRequest}
    {str : Fault → String} {outcome : RouteOutcome} (run : synthesizeCore host calls payload str = .ok outcome) :
    ∃ prepared voice, Responds host calls payload outcome prepared voice := by
  obtain ⟨prepared, before, inside⟩ := synthesizeCore_ok run
  obtain ⟨tmpPath, file, done⟩ := tryBlock_ok inside
  obtain ⟨totals, body, rfl⟩ := pipeline_ok done
  refine ⟨prepared, _, before, ⟨tmpPath, file, rfl⟩, done, totals, body, rfl, ?_, ?_, ?_⟩
  · simp [plainHeaders, diagnosticHeaders, synthesisHeaders]
  · simp [plainHeaders, diagnosticHeaders, synthesisHeaders]
  · rw [← formatPresetEffectiveHeader_eq]
    simp [plainHeaders, diagnosticHeaders, synthesisHeaders, presetHeaders]

/-- **The effective configuration.** For every host, every outcome of the calls and
every request that ends in 200: each field that `X-Preset-Effective` lists and that is
not ignored has the value that the pipeline used if and only if the provider, the model
and the language of the request, or else of the preset, have no white space around
them, or are blank and are what takes their place, the voice has no white space around
it, and none of the texts shown has a comma. -/
theorem effective_header_true_iff {host : SynthesisHost} {calls : CoreCalls} {payload : SynthesizeRequest}
    {str : Fault → String} {outcome : RouteOutcome} (run : synthesizeCore host calls payload str = .ok outcome) :
    ∃ entry prepared voice, host.presetSnapshot.get (payload.presetName host.settings) = some entry ∧
      Responds host calls payload outcome prepared voice ∧
      (Truthful prepared voice ↔
        Stated host.settings host.selection prepared.record payload entry.defaults) := by
  obtain ⟨prepared, voice, responds⟩ := responds_of_run run
  obtain ⟨entry, found, resolves⟩ := prepare_ok responds.prepares
  obtain ⟨tmpPath, -, rfl⟩ := responds.configures
  exact ⟨entry, prepared, _, found, responds, truthful_iff_stated resolves tmpPath⟩

/-- The calls of a run that succeeds. -/
def oneChunk : CoreCalls := { fullDisk with tempFile := fun voiceId _ => some ("/tmp/voice-" ++ voiceId ++ "-x1.wav") }

theorem plainHeaders_clean {host : SynthesisHost} {prepared : Prepared} (provider : Clean prepared.providerName)
    (model : Clean prepared.modelName) (voice : Clean prepared.record.id)
    (effective : CleanConfig prepared.effective) (ignored : prepared.effective.ignoredKnobs = []) :
    ∀ header ∈ plainHeaders host prepared none, Clean header.2 := by
  have device : Clean host.deviceProfile.device.name := by cases host.deviceProfile.device <;> decide
  have dtype : Clean host.deviceProfile.dtype.name := by cases host.deviceProfile.dtype <;> decide
  have source : Clean prepared.record.source.name := by cases prepared.record.source <;> decide
  have shown := (formatPresetEffectiveHeader_clean_iff _).2 effective
  have headers : plainHeaders host prepared none =
      [("X-Provider", prepared.providerName), ("X-Model", prepared.modelName),
        ("X-Device", host.deviceProfile.device.name), ("X-Dtype", host.deviceProfile.dtype.name),
        ("X-Voice-Source", prepared.record.source.name), ("X-Voice-Id", prepared.record.id),
        ("X-Preset-Effective", formatPresetEffectiveHeader prepared.effective)] := by
    simp only [plainHeaders, diagnosticHeaders, synthesisHeaders, presetHeaders, ignored, if_true]
    rfl
  rw [headers]
  simp only [List.forall_mem_cons, List.not_mem_nil, false_implies, implies_true, and_true]
  exact ⟨provider, model, device, dtype, source, voice, shown⟩

/-- A streamed request with clean headers ends in 200. -/
theorem oneChunk_runs {payload : SynthesizeRequest} {prepared : Prepared}
    (before : prepare adaHost oneChunk payload = .ok prepared) (streams : payload.stream = true)
    (clean : ∀ header ∈ plainHeaders adaHost prepared none, Clean header.2) :
    ∃ outcome, synthesizeCore adaHost oneChunk payload (fun _ => "") = .ok outcome := by
  have inside : ∃ body, tryBlock adaHost oneChunk payload prepared = respond adaHost prepared none body := by
    simp only [tryBlock, oneChunk, fullDisk, streams]
    exact ⟨_, rfl⟩
  obtain ⟨body, inside⟩ := inside
  obtain ⟨outcome, done⟩ := respond_of_clean clean body
  refine ⟨outcome, bind_ok_iff.2 ⟨prepared, before, mapError_ok_iff.2 ?_⟩⟩
  rw [inside]
  exact done

/-- A request in Italian. -/
def italian : SynthesizeRequest :=
  { input := "ciao", preset := some "reading", voice := some "ada", stream := true, language := some "Italian" }

theorem italian_truthful :
    ∃ outcome prepared voice, Responds adaHost oneChunk italian outcome prepared voice ∧
      Truthful prepared voice := by
  have before : prepare adaHost oneChunk italian = .ok _ := rfl
  obtain ⟨outcome, run⟩ := oneChunk_runs before rfl (plainHeaders_clean (by decide +kernel) (by decide +kernel)
    (by decide +kernel) ⟨by decide, nofun, nofun, by decide, nofun, by decide⟩ rfl)
  obtain ⟨entry, prepared, voice, found, responds, truthful⟩ := effective_header_true_iff run
  cases found
  refine ⟨outcome, prepared, voice, responds, truthful.2 ⟨nofun, nofun, ?_, nofun, by decide⟩⟩
  rintro text member
  cases member
  exact stands_of_trimmed _ (by decide) (by decide) (by decide)

/-- A request with a blank language. -/
def blankLanguage : SynthesizeRequest :=
  { input := "hello", preset := some "reading", voice := some "ada", stream := true, language := some " " }

/-- The header lists a blank language, and the pipeline uses that of the record. -/
theorem blankLanguage_untruthful :
    ¬∀ (host : SynthesisHost) (calls : CoreCalls) (payload : SynthesizeRequest) (outcome : RouteOutcome)
      (prepared : Prepared) (voice : VoiceConfig), Responds host calls payload outcome prepared voice →
      Truthful prepared voice := by
  intro claim
  have before : prepare adaHost oneChunk blankLanguage = .ok _ := rfl
  obtain ⟨outcome, run⟩ := oneChunk_runs before rfl (plainHeaders_clean (by decide +kernel) (by decide +kernel)
    (by decide +kernel) ⟨by decide, nofun, nofun, by decide, nofun, by decide⟩ rfl)
  obtain ⟨prepared, voice, responds⟩ := responds_of_run run
  have truthful := claim _ _ _ _ _ _ responds
  obtain ⟨entry, found, resolves⟩ := prepare_ok responds.prepares
  obtain ⟨tmpPath, -, rfl⟩ := responds.configures
  have language := ((truthful_iff_stated resolves tmpPath).1 truthful).language " " rfl
  cases before.symm.trans responds.prepares
  exact absurd language (by decide)

end LlmTts
