import LlmTts.Providers.Generate

/-!
# What reaches the model, and what comes back

Two choices of the providers that look at the shape of something: `select_voice_args`
prefers the clone arguments where there are any, and `VllmOmniTTSProvider` takes a result
as one payload or as a sequence. `identifiesVoice_iff` and `dispatch_iff` say when each
choice fits what it is about.
-/

namespace LlmTts
open Python Effect Checked

/-! ## The voice -/

/-- The value is passed under a parameter of the model that is one of the names. -/
def PassedAs (aliases params : List String) (value : String) (args : Kwargs) : Prop :=
  ∃ param ∈ aliases, param ∈ params ∧ (param, Kwarg.str value) ∈ args

section Voice

variable (voiceName refAudioPath refText : String) (params : List String) (requireAny : Bool)

/-- `select_voice_args` that prefers cloning, as mlx-audio and vllm-omni call it, says
which voice is meant. -/
structure IdentifiesVoice : Prop where
  identified : refAudioPath ≠ "" ∧ Takes params refAudioAliases ∨ voiceName ≠ "" ∧ Takes params voiceNameAliases →
    PassedAs refAudioAliases params refAudioPath
        (selectVoiceArgs voiceName refAudioPath refText params true requireAny).primaryArgs ∨
      PassedAs voiceNameAliases params voiceName
        (selectVoiceArgs voiceName refAudioPath refText params true requireAny).primaryArgs
  supported : ∀ arg ∈ (selectVoiceArgs voiceName refAudioPath refText params true requireAny).primaryArgs,
    arg.1 ∈ params
  named : (selectVoiceArgs voiceName refAudioPath refText params true requireAny).usedNamedVoice = true ↔
    PassedAs voiceNameAliases params voiceName
      (selectVoiceArgs voiceName refAudioPath refText params true requireAny).primaryArgs

/-- The model takes the text of a sample but no sample, and has a name for the voice. -/
structure TextOnly : Prop where
  path : refAudioPath ≠ ""
  noAudio : ¬Takes params refAudioAliases
  text : Takes params refTextAliases
  name : voiceName ≠ ""
  voice : Takes params voiceNameAliases

variable {voiceName refAudioPath refText params requireAny}

theorem mem_supportedArg {candidates : List String} {value : Kwarg} {arg : String × Kwarg}
    (member : arg ∈ supportedArg candidates value params) :
    arg.1 ∈ candidates ∧ arg.1 ∈ params ∧ arg.2 = value := by
  unfold supportedArg firstSupportedName at member
  cases found : candidates.find? (· ∈ params) with
  | none => simp [found] at member
  | some name =>
    simp only [found, List.mem_singleton] at member
    subst member
    refine ⟨List.mem_of_find?_eq_some found, ?_, rfl⟩
    simpa using List.find?_some found

theorem passedAs_supportedArg {candidates : List String} {value : String} (takes : Takes params candidates) :
    PassedAs candidates params value (supportedArg candidates (.str value) params) := by
  have nonempty : supportedArg candidates (.str value) params ≠ [] := by
    rw [Ne, supportedArg_eq_nil_iff, not_not]
    exact takes
  obtain ⟨⟨name, passed⟩, rest, split⟩ := List.exists_cons_of_ne_nil nonempty
  have member : (name, passed) ∈ supportedArg candidates (.str value) params := by
    rw [split]
    exact List.mem_cons_self
  obtain ⟨listed, taken, rfl⟩ := mem_supportedArg member
  exact ⟨name, listed, taken, member⟩

theorem PassedAs.mono {aliases : List String} {value : String} {args more : Kwargs}
    (passed : PassedAs aliases params value args) (sub : ∀ arg ∈ args, arg ∈ more) :
    PassedAs aliases params value more := by
  obtain ⟨name, listed, taken, member⟩ := passed
  exact ⟨name, listed, taken, sub _ member⟩

theorem mem_cloneArgs {arg : String × Kwarg} (member : arg ∈ buildCloneVoiceArgs refAudioPath refText params) :
    arg.1 ∈ params ∧
      (arg.1 ∈ refAudioAliases ∧ arg.2 = .str refAudioPath ∨ arg.1 ∈ refTextAliases ∧ arg.2 = .str refText) := by
  unfold buildCloneVoiceArgs at member
  split at member
  · cases member
  · rcases List.mem_append.1 member with audio | text
    · obtain ⟨listed, taken, value⟩ := mem_supportedArg audio
      exact ⟨taken, .inl ⟨listed, value⟩⟩
    · obtain ⟨listed, taken, value⟩ := mem_supportedArg text
      exact ⟨taken, .inr ⟨listed, value⟩⟩

/-- No clone argument has a name for a voice. -/
theorem not_named_of_clone {value : String} :
    ¬PassedAs voiceNameAliases params value (buildCloneVoiceArgs refAudioPath refText params) := by
  rintro ⟨name, listed, -, member⟩
  have apart : ∀ name ∈ voiceNameAliases, name ∉ refAudioAliases ∧ name ∉ refTextAliases := by decide
  rcases (mem_cloneArgs member).2 with ⟨audio, -⟩ | ⟨text, -⟩
  · exact (apart name listed).1 audio
  · exact (apart name listed).2 text

theorem select_clone (nonempty : buildCloneVoiceArgs refAudioPath refText params ≠ []) :
    selectVoiceArgs voiceName refAudioPath refText params true requireAny =
      ⟨buildCloneVoiceArgs refAudioPath refText params, buildCloneVoiceArgs refAudioPath refText params,
        buildCloneVoiceArgs refAudioPath refText params = buildNamedVoiceArgs voiceName params⟩ := by
  unfold selectVoiceArgs
  simp [nonempty]

theorem select_named (empty : buildCloneVoiceArgs refAudioPath refText params = []) :
    selectVoiceArgs voiceName refAudioPath refText params true requireAny =
      ⟨buildNamedVoiceArgs voiceName params, [], buildNamedVoiceArgs voiceName params ≠ []⟩ := by
  unfold selectVoiceArgs
  by_cases spoken : buildNamedVoiceArgs voiceName params = []
  · simp [empty, spoken]
  · simp [empty, spoken]

theorem passedAs_named (nonempty : buildNamedVoiceArgs voiceName params ≠ []) :
    PassedAs voiceNameAliases params voiceName (buildNamedVoiceArgs voiceName params) := by
  have voiced := not_or.1 (mt namedArgs_eq_nil_iff.2 nonempty)
  unfold buildNamedVoiceArgs
  rw [if_neg voiced.1]
  exact passedAs_supportedArg (not_not.1 voiced.2)

theorem passedAs_clone (path : refAudioPath ≠ "") (audio : Takes params refAudioAliases) :
    PassedAs refAudioAliases params refAudioPath (buildCloneVoiceArgs refAudioPath refText params) := by
  unfold buildCloneVoiceArgs
  rw [if_neg path]
  apply (passedAs_supportedArg audio).mono
  intro arg member
  exact List.mem_append_left _ member

/-- Only a clone with the audio passes the audio. -/
theorem takes_of_clone {value : String}
    (passed : PassedAs refAudioAliases params value (buildCloneVoiceArgs refAudioPath refText params)) :
    Takes params refAudioAliases := by
  obtain ⟨name, listed, taken, -⟩ := passed
  exact ⟨name, listed, taken⟩

/-- The selection is told by whether there are clone arguments. -/
theorem select_cases :
    buildCloneVoiceArgs refAudioPath refText params = [] ∧
        selectVoiceArgs voiceName refAudioPath refText params true requireAny =
          ⟨buildNamedVoiceArgs voiceName params, [], buildNamedVoiceArgs voiceName params ≠ []⟩ ∨
      buildCloneVoiceArgs refAudioPath refText params ≠ [] ∧
        selectVoiceArgs voiceName refAudioPath refText params true requireAny =
          ⟨buildCloneVoiceArgs refAudioPath refText params, buildCloneVoiceArgs refAudioPath refText params,
            buildCloneVoiceArgs refAudioPath refText params = buildNamedVoiceArgs voiceName params⟩ := by
  by_cases cloned : buildCloneVoiceArgs refAudioPath refText params = []
  · exact .inl ⟨cloned, select_named cloned⟩
  · exact .inr ⟨cloned, select_clone cloned⟩

/-- Whatever is selected, the model takes it. -/
theorem select_supported {arg : String × Kwarg}
    (member : arg ∈ (selectVoiceArgs voiceName refAudioPath refText params true requireAny).primaryArgs) :
    arg.1 ∈ params := by
  rcases @select_cases voiceName refAudioPath refText params requireAny with ⟨-, chosen⟩ | ⟨-, chosen⟩
  · rw [chosen] at member
    unfold buildNamedVoiceArgs at member
    split at member
    · cases member
    · exact (mem_supportedArg member).2.1
  · rw [chosen] at member
    exact (mem_cloneArgs member).1

theorem select_usedNamedVoice_iff :
    (selectVoiceArgs voiceName refAudioPath refText params true requireAny).usedNamedVoice = true ↔
      PassedAs voiceNameAliases params voiceName
        (selectVoiceArgs voiceName refAudioPath refText params true requireAny).primaryArgs := by
  rcases @select_cases voiceName refAudioPath refText params requireAny with ⟨-, chosen⟩ | ⟨cloned, chosen⟩
  · rw [chosen]
    constructor
    · intro used
      exact passedAs_named (of_decide_eq_true used)
    · rintro ⟨name, -, -, member⟩
      exact decide_eq_true (List.ne_nil_of_mem member)
  · rw [chosen]
    constructor
    · intro used
      have same := of_decide_eq_true used
      rw [same] at cloned ⊢
      exact passedAs_named cloned
    · intro named
      exact absurd named not_named_of_clone

/-- Where the audio or the name could be passed, one of them is, unless the text takes
their place. -/
theorem select_identified_iff :
    (refAudioPath ≠ "" ∧ Takes params refAudioAliases ∨ voiceName ≠ "" ∧ Takes params voiceNameAliases →
      PassedAs refAudioAliases params refAudioPath
          (selectVoiceArgs voiceName refAudioPath refText params true requireAny).primaryArgs ∨
        PassedAs voiceNameAliases params voiceName
          (selectVoiceArgs voiceName refAudioPath refText params true requireAny).primaryArgs) ↔
      ¬TextOnly voiceName refAudioPath params := by
  rcases @select_cases voiceName refAudioPath refText params requireAny with ⟨cloned, chosen⟩ | ⟨cloned, chosen⟩
  · -- the name is all there is to pass
    rw [chosen]
    apply iff_of_true
    · rintro (⟨path, audio⟩ | ⟨name, voice⟩)
      · rcases cloneArgs_eq_nil_iff.1 cloned with pathless | ⟨noAudio, -⟩
        · exact absurd pathless path
        · exact absurd audio noAudio
      · right
        apply passedAs_named
        rw [Ne, namedArgs_eq_nil_iff]
        rintro (nameless | voiceless)
        · exact name nameless
        · exact voiceless voice
    · intro only
      rcases cloneArgs_eq_nil_iff.1 cloned with pathless | ⟨-, textless⟩
      · exact only.path pathless
      · exact textless only.text
  · rw [chosen]
    constructor
    · intro identifies only
      rcases identifies (.inr ⟨only.name, only.voice⟩) with audio | name
      · exact only.noAudio (takes_of_clone audio)
      · exact not_named_of_clone name
    · intro other possible
      have path : refAudioPath ≠ "" := fun pathless => cloned (cloneArgs_eq_nil_iff.2 (.inl pathless))
      left
      by_cases audio : Takes params refAudioAliases
      · exact passedAs_clone path audio
      · -- without the audio, a clone is made of its text alone
        have text : Takes params refTextAliases := by
          by_contra textless
          exact cloned (cloneArgs_eq_nil_iff.2 (.inr ⟨audio, textless⟩))
        rcases possible with ⟨-, takes⟩ | ⟨name, voice⟩
        · exact absurd takes audio
        · exact absurd ⟨path, audio, text, name, voice⟩ other

end Voice

/-- **The requested voice.** For every set of parameters, voice name, audio path and text:
the arguments of a selection that prefers cloning identify the voice, unless the model
takes the text of a sample but no sample, and would take the voice by its name. -/
theorem identifiesVoice_iff (voiceName refAudioPath refText : String) (params : List String) (requireAny : Bool) :
    IdentifiesVoice voiceName refAudioPath refText params requireAny ↔ ¬TextOnly voiceName refAudioPath params := by
  constructor
  · intro identifies
    exact select_identified_iff.1 identifies.identified
  · intro other
    constructor
    · exact select_identified_iff.2 other
    · intro arg member
      exact select_supported member
    · exact select_usedNamedVoice_iff

/-- A model with a name for the voice and for the text of the sample, and none for the
sample: the text alone is passed. -/
theorem textAlone_passed :
    ¬IdentifiesVoice "gold" "gold.wav" "hello" ["text", "voice", "ref_text"] true ∧
      (selectVoiceArgs "gold" "gold.wav" "hello" ["text", "voice", "ref_text"] true true).primaryArgs =
        [("ref_text", .str "hello")] := by
  constructor
  · rw [identifiesVoice_iff, not_not]
    constructor <;> decide
  · decide

/-! ## The payloads -/

/-- The end of the loop of `VllmOmniTTSProvider.synthesize_chunks`: what one chunk appends. -/
def appended (results : ModelResults) : Except Raised (List Bytes) :=
  if results.value.isSingle then do return [← resultToWavBytes results.value]
  else results.iteration.mapM resultToWavBytes

/-- A list that the model returns: it has neither `wav_bytes` nor `audio`. -/
def listResults (values : List ModelValue) : ModelResults := ⟨.object none .absent, ⟨values, .ok ()⟩⟩

/-- An object without an attribute `audio`, which is accepted for its `wav_bytes` only. -/
def ModelValue.WithoutAudio (value : ModelValue) : Prop := ∃ wavBytes, value = .object wavBytes .absent

section Payloads

variable (request : SynthesisRequest) (params : List String) (chunk : String)

/-- The call of `generate` for a chunk, with the two fallbacks for a voice that the model refuses. -/
def vllmOmniResults : ModelProg Raised ModelResults := do
  let selection := selectVoiceArgs request.voiceName request.voice.refAudioPath request.voice.refText params true false
  let call (voiceArgs : Kwargs) : ModelCall :=
    ⟨.vllmOmni, request.modelName, ("text", .str chunk) :: voiceArgs ++ generationArgs request params⟩
  match ← generateCall (call selection.primaryArgs) with
  | .ok results => return results
  | .error (.assertion message) =>
    if selection.usedNamedVoice ∧ selection.cloneFallbackArgs ≠ [] then
      generateOrRaise (call selection.cloneFallbackArgs)
    else if selection.usedNamedVoice then generateOrRaise (call [])
    else throw (.http (invalidRequest [.text message] (some "voice")))
  | .error (.other raised) => throw raised

variable {request params chunk} {value : ModelValue} {values : List ModelValue} {wav : Bytes} {wavs : List Bytes}

theorem appended_single (single : value.isSingle = true) (iteration : Iteration) :
    appended ⟨value, iteration⟩ = (resultToWavBytes value).map fun wav => [wav] := by
  unfold appended
  rw [if_pos single]
  cases resultToWavBytes value <;> rfl

theorem not_single_iff : value.isSingle = false ↔ value.WithoutAudio := by
  unfold ModelValue.WithoutAudio
  cases value with
  | bytes content => simp [ModelValue.isSingle]
  | dict wavBytes encoded => simp [ModelValue.isSingle]
  | object wavBytes audio => cases audio <;> simp [ModelValue.isSingle]

/-- An accepted value is one result for the loop, whatever there is to iterate over, if
it has an attribute `audio` or is no object. -/
theorem appended_value_iff (accepted : resultToWavBytes value = .ok wav) :
    (∀ iteration, appended ⟨value, iteration⟩ = .ok [wav]) ↔ ¬value.WithoutAudio := by
  constructor
  · intro one without
    have passed := one ⟨[], .ok ()⟩
    unfold appended at passed
    rw [if_neg (by simp [not_single_iff.2 without])] at passed
    cases passed
  · intro other iteration
    have single : value.isSingle = true := by
      rw [← Bool.not_eq_false]
      exact mt not_single_iff.1 other
    rw [appended_single single, accepted]
    rfl

theorem appended_list (accepted : values.mapM resultToWavBytes = .ok wavs) :
    appended (listResults values) = .ok wavs := by
  show (values.mapM resultToWavBytes >>= fun wavs => Except.ok wavs) = _
  rw [accepted]
  rfl

variable {getModel : ProviderKind → String → Except Raised TtsModel} {model : TtsModel}

/-- A request appends, chunk by chunk, what the results of the model's call come to. -/
theorem vllmOmni_answered (loads : getModel .vllmOmni request.modelName = .ok model) (callable : model.callable = true)
    (reply : (call : ModelCall) → Generated call) :
    (ProviderKind.vllmOmni.synthesizeChunks getModel request).run.answered reply =
      (request.chunks.mapM fun chunk =>
        (vllmOmniResults request (ProviderKind.vllmOmni.signatureParams model) chunk).run.answered reply >>=
          appended).map List.flatten := by
  have found (otherwise : Raised) : lookupGenerate model otherwise = pure () := if_pos callable
  simp only [ProviderKind.synthesizeChunks, vllmOmniChunks, loads, Prog.mk_ok_bind, found]
  rw [Prog.answered_run_bind, Prog.answered_mapM]
  have flattened : ∀ outputs : Except Raised (List (List Bytes)),
      (outputs >>= fun wavs => (pure wavs.flatten : ModelProg Raised (List Bytes)).run.answered reply) =
        outputs.map List.flatten := by
    intro outputs
    cases outputs <;> rfl
  rw [flattened]
  congr 2
  funext chunk
  have ending : ∀ results : ModelResults,
      (if results.value.isSingle = true then do
        let wav ← ExceptT.mk (pure (resultToWavBytes results.value))
        return [wav]
      else ExceptT.mk (pure (results.iteration.mapM resultToWavBytes)) :
        ModelProg Raised (List Bytes)).run.answered reply = appended results := by
    intro results
    unfold appended
    split
    · cases resultToWavBytes results.value <;> rfl
    · rfl
  have asked : ∀ call, (generateCall call).run.answered reply = .ok (reply call) := fun _ => rfl
  unfold vllmOmniResults
  simp only [Prog.answered_run_bind, asked]
  show Prog.answered reply _ = Prog.answered reply _ >>= _
  generalize reply _ = first
  rcases first with (message | raised) | results
  · dsimp only
    split
    · rw [Prog.answered_run_bind]
      simp only [ending]
    · split
      · rw [Prog.answered_run_bind]
        simp only [ending]
      · rfl
  · rfl
  · exact ending results

end Payloads

/-- **Payload dispatch.** A request appends, chunk by chunk, what `appended` makes of the
results. For every value that the decoder accepts, this is exactly its WAV bytes, whatever
iterating over the value would give, unless the value is an object without an attribute
`audio`. For every list of accepted values it is the WAV bytes of each, in order. -/
theorem dispatch_iff (getModel : ProviderKind → String → Except Raised TtsModel) (request : SynthesisRequest)
    (reply : (call : ModelCall) → Generated call) :
    (∀ model, getModel .vllmOmni request.modelName = .ok model → model.callable = true →
      (ProviderKind.vllmOmni.synthesizeChunks getModel request).run.answered reply =
        (request.chunks.mapM fun chunk =>
          (vllmOmniResults request (ProviderKind.vllmOmni.signatureParams model) chunk).run.answered reply >>=
            appended).map List.flatten) ∧
    (∀ (value : ModelValue) (wav : Bytes), resultToWavBytes value = .ok wav →
      ((∀ iteration, appended ⟨value, iteration⟩ = .ok [wav]) ↔ ¬value.WithoutAudio)) ∧
    ∀ (values : List ModelValue) (wavs : List Bytes), values.mapM resultToWavBytes = .ok wavs →
      appended (listResults values) = .ok wavs := by
  refine ⟨?_, ?_, ?_⟩
  · intro model loads callable
    exact vllmOmni_answered loads callable reply
  · intro value wav accepted
    exact appended_value_iff accepted
  · intro values wavs accepted
    exact appended_list accepted

/-- A request for one chunk. -/
def hiRequest : SynthesisRequest :=
  ⟨"omni", ["hi"], ⟨"", "", "en", "", .finite 1, .finite 1, .finite (-20), .int 2⟩, "ada", "wav", none⟩

/-- A dictionary is one result, and so is each element of a list. -/
theorem dict_appended :
    (∀ iteration, appended ⟨.dict (some [1]) none, iteration⟩ = .ok [[1]]) ∧
      appended (listResults [.bytes [1], .object (some [2]) .absent]) = .ok [[1], [2]] ∧
      (ProviderKind.vllmOmni.synthesizeChunks (fun _ _ => .ok ⟨none, true⟩) hiRequest).run.answered
        (fun _ => .ok ⟨.dict (some [1]) none, ⟨[], .ok ()⟩⟩) = .ok [[1]] := by
  obtain ⟨request, value, list⟩ := dispatch_iff (fun _ _ => .ok ⟨none, true⟩) hiRequest
    fun _ => .ok ⟨.dict (some [1]) none, ⟨[], .ok ()⟩⟩
  refine ⟨?_, list _ _ rfl, ?_⟩
  · apply (value _ _ rfl).2
    rintro ⟨wavBytes, object⟩
    cases object
  · rw [request ⟨none, true⟩ rfl rfl]
    rfl

/-- An object with `wav_bytes` and without `audio` is decoded alone; as the result of the
model it is iterated over, which raises. -/
theorem bareWavBytes_iterated :
    resultToWavBytes (.object (some [1]) .absent) = .ok [1] ∧
      (ProviderKind.vllmOmni.synthesizeChunks (fun _ _ => .ok ⟨none, true⟩) hiRequest).run.answered
        (fun _ => .ok ⟨.object (some [1]) .absent, ⟨[], .error (.provider "object is not iterable")⟩⟩) =
          .error (.provider "object is not iterable") ∧
      ¬∀ iteration, appended ⟨.object (some [1]) .absent, iteration⟩ = .ok [[1]] := by
  refine ⟨rfl, rfl, ?_⟩
  intro one
  cases one ⟨[], .ok ()⟩

end LlmTts
