import LlmTts.Voice.Faults

/-!
# An aborted seed pass

One ingestion pass alone, under any outcome of its repository calls. The pass
writes entry by entry; `pass_unchanged_iff` says exactly when a pass that stops
early has changed nothing.
-/

namespace LlmTts
open Python Effect

/-- The entries all have a record. -/
def AllPresent (s : Stores) (entries : List ParsedSeedEntry) : Prop :=
  ∀ entry ∈ entries, (s.metadata entry.voiceId).isSome

/-- Every entry without a record gets one: each entry up to the last such one is
looked up, read, written and created without a failure. `s` is the state before
the pass. -/
def Completes (pass : SeedPass) (s : Stores) : List ParsedSeedEntry → List (Outcome StoreError) → Prop
  | [], _ => True
  | entry :: entries, plan =>
    if (s.metadata entry.voiceId).isSome then
      (Works plan 0 ∧ Completes pass s entries plan.tail) ∨ (¬Works plan 0 ∧ AllPresent s entries)
    else
      Works plan 0 ∧ (∃ data, pass.readBytes entry.refAudioPath = .data data) ∧ Works plan 1 ∧
        ((Works plan 2 ∧ Completes pass s entries plan.tail.tail.tail) ∨
          ((∃ e, plan.getD 2 .works = .raisesLate e) ∧ AllPresent s entries))

/-- The first entry without a record is reached, and one of its writes takes
effect: the blob write with bytes that are not the stored ones, or the `create`. -/
def Writes (pass : SeedPass) (s : Stores) : List ParsedSeedEntry → List (Outcome StoreError) → Prop
  | [], _ => False
  | entry :: entries, plan =>
    Works plan 0 ∧
      if (s.metadata entry.voiceId).isSome then Writes pass s entries plan.tail
      else ∃ data, pass.readBytes entry.refAudioPath = .data data ∧ (∀ e, plan.getD 1 .works ≠ .raises e) ∧
        (s.blobs entry.voiceId ≠ some data ∨ (Works plan 1 ∧ ∀ e, plan.getD 2 .works ≠ .raises e))

/-! ## One entry -/

/-- The stores after an entry was written. -/
def entryStored (pass : SeedPass) (entry : ParsedSeedEntry) (data : Bytes) (s : Stores) : Stores :=
  (s.setBlob entry.voiceId (some data)).setRecord (seedRecord pass entry)

/-- The loop of a pass, run alone. -/
def runEntries (pass : SeedPass) (entries : List ParsedSeedEntry) (created : Nat)
    (plan : List (Outcome StoreError)) (s : Stores) : VoiceEnd × Stores :=
  runFaulty Stores.exec raised (ingestEntries pass entries created) plan s

/-- One round of the loop. -/
theorem runEntries_cons {pass : SeedPass} {entry : ParsedSeedEntry} {entries : List ParsedSeedEntry}
    (valid : validateVoiceId entry.voiceId = .ok ()) (created : Nat) (plan : List (Outcome StoreError))
    (s : Stores) :
    runEntries pass (entry :: entries) created plan s =
      match fault plan 0 with
      | some e => (.error (.store e), s)
      | none =>
        if (s.metadata entry.voiceId).isSome then runEntries pass entries created plan.tail s
        else match pass.readBytes entry.refAudioPath with
          | .osError => (.ok (.ingested created), s)
          | .raises => (.error .other, s)
          | .data data =>
            match plan.getD 1 .works, plan.getD 2 .works with
            | .raises e, _ => (.error (.store e), s)
            | .raisesLate e, _ | .works, .raises e =>
              (.error (.store e), s.setBlob entry.voiceId (some data))
            | .works, .raisesLate e => (.error (.store e), entryStored pass entry data s)
            | .works, .works =>
              runEntries pass entries (created + 1) plan.tail.tail.tail
                (entryStored pass entry data s) := by
  unfold runEntries
  rw [ingestEntries_cons]
  have second : plan.getD 1 .works = plan.tail.headD .works := by rcases plan with _ | ⟨_, _ | _⟩ <;> rfl
  have third : plan.getD 2 .works = plan.tail.tail.headD .works := by
    rcases plan with _ | ⟨_, _ | ⟨_, _ | _⟩⟩ <;> rfl
  rw [second, third]
  cases first : fault plan 0 with
  | none =>
    rw [call_works first, Stores.exec_metaExists valid]
    cases found : s.metadata entry.voiceId with
    | some record => rfl
    | none =>
      simp only [Option.isSome_none, Bool.false_eq_true, if_false, ingestProbed]
      cases pass.readBytes entry.refAudioPath with
      | osError => rfl
      | raises => rfl
      | data data =>
        have valid' : validateVoiceId (seedRecord pass entry).id = .ok () := valid
        have absent : ((s.setBlob entry.voiceId (some data)).metadata
            (seedRecord pass entry).id).isSome = false := by
          rw [Stores.setBlob_metadata]
          exact found ▸ rfl
        cases put : plan.tail.headD .works with
        | raises e => rw [runFaulty_raises put]; rfl
        | raisesLate e => rw [runFaulty_raisesLate put, Stores.exec_blobPut valid]; rfl
        | works =>
          rw [runFaulty_works put, Stores.exec_blobPut valid]
          simp only [ingestStored]
          cases create : plan.tail.tail.headD .works with
          | raises e => rw [runFaulty_raises create]; rfl
          | raisesLate e =>
            rw [runFaulty_raisesLate create, Stores.exec_metaCreate valid', absent]
            rfl
          | works =>
            rw [runFaulty_works create, Stores.exec_metaCreate valid', absent]
            rfl
  | some e =>
    rw [call_reads (by rw [Stores.exec_metaExists valid]) first]
    rfl

/-- One round of the loop, with repositories that work. -/
theorem runEntries_step {pass : SeedPass} {entry : ParsedSeedEntry} {entries : List ParsedSeedEntry}
    (valid : validateVoiceId entry.voiceId = .ok ()) (created : Nat) (s : Stores) :
    runEntries pass (entry :: entries) created [] s =
      if (s.metadata entry.voiceId).isSome then runEntries pass entries created [] s
      else match pass.readBytes entry.refAudioPath with
        | .osError => (.ok (.ingested created), s)
        | .raises => (.error .other, s)
        | .data data => runEntries pass entries (created + 1) [] (entryStored pass entry data s) := by
  have works : fault [] 0 = none := rfl
  rw [runEntries_cons valid, works]
  cases pass.readBytes entry.refAudioPath with
  | osError => rfl
  | raises => rfl
  | data data => rfl

@[simp] theorem metadata_entryStored (pass : SeedPass) (entry : ParsedSeedEntry) (data : Bytes)
    (s : Stores) (v : String) :
    (entryStored pass entry data s).metadata v =
      if v = entry.voiceId then some (seedRecord pass entry).settled else s.metadata v := by
  simp only [entryStored, Stores.metadata_setRecord, Stores.setBlob_metadata]
  rfl

/-! ## The loop -/

section Loop

variable {pass : SeedPass} {entries : List ParsedSeedEntry} {plan : List (Outcome StoreError)} {s : Stores}
  {created : Nat}

/-- A pass removes no record. -/
theorem runEntries_keeps (valid : ∀ entry ∈ entries, validateVoiceId entry.voiceId = .ok ())
    {v : String} (present : (s.metadata v).isSome) :
    ((runEntries pass entries created plan s).2.metadata v).isSome := by
  induction entries generalizing plan s created with
  | nil => exact present
  | cons entry entries ih =>
    obtain ⟨first, rest⟩ := List.forall_mem_cons.1 valid
    rw [runEntries_cons first]
    have stored : ∀ data, ((entryStored pass entry data s).metadata v).isSome := by
      intro data
      rw [metadata_entryStored]
      split
      · rfl
      · exact present
    split
    · exact present
    · split
      · exact ih rest present
      · split
        · exact present
        · exact present
        · split
          · exact present
          · exact present
          · exact present
          · exact stored _
          · exact ih rest (stored _)

/-- A pass creates records for its entries only. -/
theorem runEntries_frame (valid : ∀ entry ∈ entries, validateVoiceId entry.voiceId = .ok ())
    {v : String} (other : ∀ entry ∈ entries, v ≠ entry.voiceId) :
    (runEntries pass entries created plan s).2.metadata v = s.metadata v := by
  induction entries generalizing plan s created with
  | nil => rfl
  | cons entry entries ih =>
    obtain ⟨first, rest⟩ := List.forall_mem_cons.1 valid
    obtain ⟨apart, others⟩ := List.forall_mem_cons.1 other
    rw [runEntries_cons first]
    have stored : ∀ data, (entryStored pass entry data s).metadata v = s.metadata v := by
      intro data
      rw [metadata_entryStored, if_neg apart]
    split
    · rfl
    · split
      · exact ih rest others
      · split
        · rfl
        · rfl
        · split
          · rfl
          · rfl
          · rfl
          · exact stored _
          · rw [ih rest others, stored]

theorem ne_of_record {s t : Stores} {v : String} (absent : s.metadata v = none)
    (present : (t.metadata v).isSome) : t ≠ s := by
  rintro rfl
  rw [absent] at present
  cases present

/-- The loop changes the stores exactly when one of its writes takes effect. -/
theorem runEntries_changed_iff (valid : ∀ entry ∈ entries, validateVoiceId entry.voiceId = .ok ()) :
    (runEntries pass entries created plan s).2 ≠ s ↔ Writes pass s entries plan := by
  induction entries generalizing plan created with
  | nil => simp [runEntries, runFaulty, Writes]
  | cons entry entries ih =>
    obtain ⟨first, rest⟩ := List.forall_mem_cons.1 valid
    rw [runEntries_cons first, Writes, Works]
    cases look : fault plan 0 with
    | some e => simp
    | none =>
      by_cases present : (s.metadata entry.voiceId).isSome
      · simp only [present, if_true, true_and]
        exact ih rest
      · have absent := Option.not_isSome_iff_eq_none.1 present
        have stored : ∀ data, ((entryStored pass entry data s).metadata entry.voiceId).isSome := by
          intro data
          rw [metadata_entryStored, if_pos rfl]
          rfl
        simp only [absent, Option.isSome_none, Bool.false_eq_true, if_false, true_and]
        cases pass.readBytes entry.refAudioPath with
        | osError => simp
        | raises => simp
        | data data =>
          rw [works_iff]
          cases put : plan.getD 1 .works with
          | raises e => simp
          | raisesLate e => simp [setBlob_eq_self_iff]
          | works =>
            cases create : plan.getD 2 .works with
            | raises e => simp [setBlob_eq_self_iff]
            | raisesLate e => simpa using ne_of_record absent (stored data)
            | works => simpa using ne_of_record absent (runEntries_keeps rest (stored data))

theorem allPresent_congr {s₀ : Stores}
    (same : ∀ entry ∈ entries, s.metadata entry.voiceId = s₀.metadata entry.voiceId) :
    AllPresent s entries ↔ AllPresent s₀ entries :=
  forall₂_congr fun entry member => by rw [same entry member]

theorem allPresent_cons {entry : ParsedSeedEntry} :
    AllPresent s (entry :: entries) ↔ (s.metadata entry.voiceId).isSome ∧ AllPresent s entries :=
  List.forall_mem_cons

/-- The loop gets every entry into the store exactly when it completes. `s₀` is
the state before the pass; the loop may have created earlier entries since. -/
theorem runEntries_completes_iff {s₀ : Stores}
    (valid : ∀ entry ∈ entries, validateVoiceId entry.voiceId = .ok ())
    (distinct : (entries.map (·.voiceId)).Nodup)
    (same : ∀ entry ∈ entries, s.metadata entry.voiceId = s₀.metadata entry.voiceId) :
    AllPresent (runEntries pass entries created plan s).2 entries ↔
      Completes pass s₀ entries plan := by
  induction entries generalizing plan s created with
  | nil => simp [AllPresent, Completes]
  | cons entry entries ih =>
    obtain ⟨first, rest⟩ := List.forall_mem_cons.1 valid
    obtain ⟨here, there⟩ := List.forall_mem_cons.1 same
    obtain ⟨fresh, distinct⟩ := List.nodup_cons.1 (List.map_cons ▸ distinct)
    have apart : ∀ e ∈ entries, e.voiceId ≠ entry.voiceId := fun e member equal =>
      fresh (List.mem_map.2 ⟨e, member, equal⟩)
    rw [runEntries_cons first, Completes, ← here]
    cases look : fault plan 0 with
    | some e =>
      have fails : ¬Works plan 0 := by simp [Works, look]
      dsimp only
      rw [allPresent_cons, allPresent_congr there]
      split
      · rename_i present
        simp [present, fails]
      · rename_i absent
        simp [absent, fails]
    | none =>
      have looks : Works plan 0 := look
      by_cases present : (s.metadata entry.voiceId).isSome
      · rw [if_pos present, if_pos present, allPresent_cons, ih rest distinct there]
        simp only [runEntries_keeps rest present, looks, not_true_eq_false, false_and, or_false]
      · have missing : ∀ t : Stores, t.metadata = s.metadata → ¬AllPresent t (entry :: entries) := by
          intro t equal all
          rw [allPresent_cons, equal] at all
          exact present all.1
        have after : ∀ data, ∀ e ∈ entries,
            (entryStored pass entry data s).metadata e.voiceId = s₀.metadata e.voiceId := by
          intro data e member
          rw [metadata_entryStored, if_neg (apart e member)]
          exact there e member
        have stored : ∀ data, ((entryStored pass entry data s).metadata entry.voiceId).isSome := by
          intro data
          rw [metadata_entryStored, if_pos rfl]
          rfl
        rw [if_neg present, if_neg present]
        simp only [looks, true_and]
        cases audio : pass.readBytes entry.refAudioPath with
        | osError => simp [missing s rfl]
        | raises => simp [missing s rfl]
        | data data =>
          rw [works_iff, works_iff]
          cases put : plan.getD 1 .works with
          | raises e => simp [missing s rfl]
          | raisesLate e => simp [missing (s.setBlob entry.voiceId (some data)) rfl]
          | works =>
            cases create : plan.getD 2 .works with
            | raises e => simp [missing (s.setBlob entry.voiceId (some data)) rfl]
            | raisesLate e =>
              dsimp only
              rw [allPresent_cons, allPresent_congr (after data), and_iff_right (stored data)]
              simp
            | works =>
              dsimp only
              rw [allPresent_cons, ih rest distinct (after data)]
              simp [runEntries_keeps rest (stored data)]

end Loop

/-! ## A pass -/

/-- Every entry of the seed file that had no record before the pass has one after it. -/
def IngestedAll (pass : SeedPass) (plan : List (Outcome StoreError)) (s : Stores) : Prop :=
  ∃ entries, parseAndValidate pass = .ok entries ∧ ∀ entry ∈ entries,
    s.metadata entry.voiceId = none →
      ((alone (.ingest pass) plan s).2.metadata entry.voiceId).isSome

theorem ingest_alone {pass : SeedPass} {entries : List ParsedSeedEntry}
    (parsed : parseAndValidate pass = .ok entries) (plan : List (Outcome StoreError)) (s : Stores) :
    alone (.ingest pass) plan s = runEntries pass entries 0 plan s := by
  simp only [alone, VoiceOp.body, ingestOnce, parsed]
  cases text : pass.text with
  | missing =>
    simp only [parseAndValidate, text] at parsed
    cases parsed
    rfl
  | unreadable => rfl
  | invalidJson => rfl
  | json value => rfl

theorem ingest_rejected {pass : SeedPass} {e : SeedFailure}
    (rejected : parseAndValidate pass = .error e) (plan : List (Outcome StoreError)) (s : Stores) :
    (alone (.ingest pass) plan s).2 = s := by
  simp only [alone, VoiceOp.body, ingestOnce, rejected]
  cases e <;> cases pass.text <;> rfl

/-- **Atomicity.** A pass that stops before every missing entry is ingested leaves
the stores as they were, exactly when it stops before one of its writes takes effect. -/
theorem pass_unchanged_iff (pass : SeedPass) (plan : List (Outcome StoreError)) (s : Stores) :
    (¬IngestedAll pass plan s → (alone (.ingest pass) plan s).2 = s) ↔
      ∀ entries, parseAndValidate pass = .ok entries →
        Completes pass s entries plan ∨ ¬Writes pass s entries plan := by
  cases parsed : parseAndValidate pass with
  | error e => simp [ingest_rejected parsed]
  | ok entries =>
    obtain ⟨distinct, valid⟩ := parseAndValidate_ids parsed
    have all : IngestedAll pass plan s ↔ Completes pass s entries plan := by
      have completes : AllPresent (runEntries pass entries 0 plan s).2 entries ↔ Completes pass s entries plan :=
        runEntries_completes_iff valid distinct fun _ _ => rfl
      rw [← completes]
      simp only [IngestedAll, parsed, Except.ok.injEq, exists_eq_left', ingest_alone parsed]
      refine forall₂_congr fun entry member => ⟨fun ingested => ?_, fun present _ => present⟩
      cases found : s.metadata entry.voiceId with
      | none => exact ingested found
      | some record => exact runEntries_keeps valid (by rw [found]; rfl)
    have changed : (runEntries pass entries 0 plan s).2 ≠ s ↔ Writes pass s entries plan :=
      runEntries_changed_iff valid
    simp only [Except.ok.injEq, forall_eq', ← changed, all, ingest_alone parsed, not_not]
    exact or_iff_not_imp_left.symm

/-- The audio file of the second voice disappears after it was validated. -/
def vanishingPass : SeedPass :=
  plainPass fun path => if path = "ada.wav" then .data [1] else .osError

/-- A pass that finds the second audio file gone keeps the first voice. -/
theorem aborted_pass_keeps_first :
    ¬∀ (pass : SeedPass) (plan : List (Outcome StoreError)) (s : Stores),
      ¬IngestedAll pass plan s → (alone (.ingest pass) plan s).2 = s := by
  intro claim
  have stays : ((alone (.ingest vanishingPass) [] Stores.empty).2.metadata "ada").isSome := by
    decide +kernel
  have missing : ((alone (.ingest vanishingPass) [] Stores.empty).2.metadata "bob").isSome = false := by
    decide +kernel
  have ids : (parseAndValidate vanishingPass).map (·.map (·.voiceId)) = .ok ["ada", "bob"] := by
    decide +kernel
  have unchanged := claim vanishingPass [] Stores.empty (by
    rintro ⟨entries, parsed, ingested⟩
    rw [parsed] at ids
    have names : entries.map (·.voiceId) = ["ada", "bob"] := Except.ok.inj ids
    have second : "bob" ∈ entries.map (·.voiceId) := by
      rw [names]
      exact List.mem_cons_of_mem _ List.mem_cons_self
    obtain ⟨entry, member, same⟩ := List.mem_map.1 second
    have present := ingested entry member rfl
    rw [same, missing] at present
    cases present)
  rw [unchanged] at stays
  cases stays

end LlmTts
