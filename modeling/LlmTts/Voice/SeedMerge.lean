import LlmTts.Voice.SeedFaults

/-!
# A pass that succeeds

One ingestion pass alone, with repositories that work and audio files that can be
read: the stores after it are those before it with the missing voices merged in, and
a second pass over the same file finds nothing to do.
-/

namespace LlmTts
open Python Effect

/-- The ids of entries that have no record. -/
def missingIds (s : Stores) (entries : List ParsedSeedEntry) : List String :=
  (entries.map (·.voiceId)).filter fun v => (s.metadata v).isNone

/-- A left-biased merge of the entries into the stores `s`: `t` has the voice of an
entry only where `s` had no record, and is like `s` elsewhere. -/
structure LeftMerge (pass : SeedPass) (entries : List ParsedSeedEntry) (s t : Stores) : Prop where
  records : ∀ entry ∈ entries, s.metadata entry.voiceId = none →
    t.metadata entry.voiceId = some (seedRecord pass entry).settled
  audio : ∀ entry ∈ entries, s.metadata entry.voiceId = none →
    ∃ data, pass.readBytes entry.refAudioPath = .data data ∧ t.blobs entry.voiceId = some data
  others : ∀ v, v ∉ missingIds s entries → t.metadata v = s.metadata v ∧ t.blobs v = s.blobs v

section Loop

variable {pass : SeedPass} {entry : ParsedSeedEntry} {entries : List ParsedSeedEntry} {s t : Stores} {data : Bytes}

theorem mem_missingIds_iff {v : String} :
    v ∈ missingIds s entries ↔ (∃ entry ∈ entries, entry.voiceId = v) ∧ s.metadata v = none := by
  unfold missingIds
  rw [List.mem_filter, List.mem_map, Option.isNone_iff_eq_none]

theorem missingIds_present (present : (s.metadata entry.voiceId).isSome) :
    missingIds s (entry :: entries) = missingIds s entries := by
  apply List.filter_cons_of_neg
  rw [Option.isNone_iff_eq_none]
  exact Option.isSome_iff_ne_none.1 present

theorem missingIds_absent (absent : s.metadata entry.voiceId = none) :
    missingIds s (entry :: entries) = entry.voiceId :: missingIds s entries := by
  apply List.filter_cons_of_pos
  rw [absent]
  rfl

/-- What was stored for one entry leaves the ids of the others as they were. -/
theorem missingIds_stored (apart : ∀ e ∈ entries, e.voiceId ≠ entry.voiceId) :
    missingIds (entryStored pass entry data s) entries = missingIds s entries := by
  apply List.filter_congr
  intro v member
  obtain ⟨e, there, rfl⟩ := List.mem_map.1 member
  rw [metadata_entryStored, if_neg (apart e there)]

theorem blobs_entryStored (pass : SeedPass) (entry : ParsedSeedEntry) (data : Bytes) (s : Stores) (v : String) :
    (entryStored pass entry data s).blobs v = if v = entry.voiceId then some data else s.blobs v := by
  show Function.update s.blobs entry.voiceId (some data) v = _
  rw [Function.update_apply]

theorem LeftMerge.nil : LeftMerge pass [] s s := by
  constructor
  · intro entry member
    cases member
  · intro entry member
    cases member
  · intro v _
    exact ⟨rfl, rfl⟩

/-- An entry that has a record is passed over. -/
theorem LeftMerge.skip (merge : LeftMerge pass entries s t) (present : (s.metadata entry.voiceId).isSome) :
    LeftMerge pass (entry :: entries) s t := by
  have missing : s.metadata entry.voiceId ≠ none := Option.isSome_iff_ne_none.1 present
  constructor
  · intro e member absent
    rcases List.mem_cons.1 member with rfl | there
    · exact absurd absent missing
    · exact merge.records e there absent
  · intro e member absent
    rcases List.mem_cons.1 member with rfl | there
    · exact absurd absent missing
    · exact merge.audio e there absent
  · intro v other
    rw [missingIds_present present] at other
    exact merge.others v other

/-- The voice of an entry without a record is stored before those of the others. -/
theorem LeftMerge.store (merge : LeftMerge pass entries (entryStored pass entry data s) t)
    (apart : ∀ e ∈ entries, e.voiceId ≠ entry.voiceId) (absent : s.metadata entry.voiceId = none)
    (read : pass.readBytes entry.refAudioPath = .data data) : LeftMerge pass (entry :: entries) s t := by
  have own : entry.voiceId ∉ missingIds (entryStored pass entry data s) entries := by
    rw [mem_missingIds_iff]
    rintro ⟨⟨e, there, same⟩, _⟩
    exact apart e there same
  obtain ⟨record, blob⟩ := merge.others entry.voiceId own
  rw [metadata_entryStored, if_pos rfl] at record
  rw [blobs_entryStored, if_pos rfl] at blob
  have before : ∀ e ∈ entries, s.metadata e.voiceId = none →
      (entryStored pass entry data s).metadata e.voiceId = none := by
    intro e there fresh
    rw [metadata_entryStored, if_neg (apart e there), fresh]
  constructor
  · intro e member fresh
    rcases List.mem_cons.1 member with rfl | there
    · exact record
    · exact merge.records e there (before e there fresh)
  · intro e member fresh
    rcases List.mem_cons.1 member with rfl | there
    · exact ⟨data, read, blob⟩
    · exact merge.audio e there (before e there fresh)
  · intro v other
    rw [missingIds_absent absent, List.mem_cons, not_or] at other
    obtain ⟨metadata, blobs⟩ := merge.others v (by rw [missingIds_stored apart]; exact other.2)
    rw [metadata_entryStored, if_neg other.1] at metadata
    rw [blobs_entryStored, if_neg other.1] at blobs
    exact ⟨metadata, blobs⟩

/-- After a merge every entry has a record. -/
theorem LeftMerge.allPresent (merge : LeftMerge pass entries s t) : AllPresent t entries := by
  intro entry member
  cases found : s.metadata entry.voiceId with
  | none =>
    rw [merge.records entry member found]
    rfl
  | some record =>
    have kept : entry.voiceId ∉ missingIds s entries := by
      rw [mem_missingIds_iff, found]
      rintro ⟨_, fresh⟩
      cases fresh
    rw [(merge.others _ kept).1, found]
    rfl

/-- The loop merges its entries and counts those that were missing. -/
theorem runEntries_merges (valid : ∀ entry ∈ entries, validateVoiceId entry.voiceId = .ok ())
    (distinct : (entries.map (·.voiceId)).Nodup)
    (readable : ∀ entry ∈ entries, ∃ data, pass.readBytes entry.refAudioPath = .data data) (created : Nat)
    (s : Stores) : ∃ t, runEntries pass entries created [] s =
      (.ok (.ingested (created + (missingIds s entries).length)), t) ∧ LeftMerge pass entries s t := by
  induction entries generalizing created s with
  | nil => exact ⟨s, rfl, LeftMerge.nil⟩
  | cons entry entries ih =>
    obtain ⟨first, rest⟩ := List.forall_mem_cons.1 valid
    obtain ⟨⟨data, read⟩, reads⟩ := List.forall_mem_cons.1 readable
    obtain ⟨fresh, distinct⟩ := List.nodup_cons.1 (List.map_cons ▸ distinct)
    have apart : ∀ e ∈ entries, e.voiceId ≠ entry.voiceId := by
      intro e member same
      exact fresh (List.mem_map.2 ⟨e, member, same⟩)
    rw [runEntries_step first]
    by_cases present : (s.metadata entry.voiceId).isSome
    · obtain ⟨t, run, merge⟩ := ih rest distinct reads created s
      rw [if_pos present, missingIds_present present]
      exact ⟨t, run, merge.skip present⟩
    · have absent := Option.not_isSome_iff_eq_none.1 present
      obtain ⟨t, run, merge⟩ := ih rest distinct reads (created + 1) (entryStored pass entry data s)
      have counted : created + 1 + (missingIds s entries).length =
          created + (missingIds s (entry :: entries)).length := by
        rw [missingIds_absent absent, List.length_cons]
        omega
      rw [missingIds_stored apart, counted] at run
      rw [if_neg present, read]
      exact ⟨t, run, merge.store apart absent read⟩

/-- A loop over entries that all have a record changes nothing. -/
theorem runEntries_present (valid : ∀ entry ∈ entries, validateVoiceId entry.voiceId = .ok ())
    (present : AllPresent s entries) (created : Nat) :
    runEntries pass entries created [] s = (.ok (.ingested created), s) := by
  induction entries with
  | nil => rfl
  | cons entry entries ih =>
    obtain ⟨first, rest⟩ := List.forall_mem_cons.1 valid
    obtain ⟨here, there⟩ := allPresent_cons.1 present
    rw [runEntries_step first, if_pos here]
    exact ih rest there

end Loop

/-- Validation reads the text of the seed file and the audio paths only. -/
theorem parseAndValidate_congr {pass again : SeedPass} (text : again.text = pass.text)
    (probe : again.probe = pass.probe) : parseAndValidate again = parseAndValidate pass := by
  unfold parseAndValidate
  rw [text, probe]

/-- **Seed merge.** For every seed file that validates and whose audio files are
readable, and for all stores: a pass alone returns the number of entry ids without a
record; each of them gets the seed record of its entry and the bytes of its audio file,
and every other record and blob stays. A second pass over the same file, at any time,
returns 0 and changes nothing. -/
theorem seed_merge (pass : SeedPass) {entries : List ParsedSeedEntry} (parsed : parseAndValidate pass = .ok entries)
    (readable : ∀ entry ∈ entries, ∃ data, pass.readBytes entry.refAudioPath = .data data) (s : Stores) :
    ∃ t, alone (.ingest pass) [] s = (.ok (.ingested (missingIds s entries).length), t) ∧
      LeftMerge pass entries s t ∧
      ∀ again : SeedPass, again.text = pass.text → again.probe = pass.probe →
        alone (.ingest again) [] t = (.ok (.ingested 0), t) := by
  obtain ⟨distinct, valid⟩ := parseAndValidate_ids parsed
  obtain ⟨t, run, merge⟩ := runEntries_merges valid distinct readable 0 s
  refine ⟨t, ?_, merge, ?_⟩
  · rw [ingest_alone parsed, run, Nat.zero_add]
  · intro again text probe
    rw [ingest_alone ((parseAndValidate_congr text probe).trans parsed)]
    exact runEntries_present valid merge.allPresent 0

theorem plainPass_merges :
    ∃ t, alone (.ingest (plainPass fun _ => .data [1])) [] Stores.empty = (.ok (.ingested 2), t) ∧
      alone (.ingest (plainPass fun _ => .data [1])) [] t = (.ok (.ingested 0), t) := by
  have ids : (parseAndValidate (plainPass fun _ => .data [1])).map (·.map (·.voiceId)) = .ok ["ada", "bob"] := by
    decide +kernel
  cases parsed : parseAndValidate (plainPass fun _ => .data [1]) with
  | error e =>
    rw [parsed] at ids
    cases ids
  | ok entries =>
    rw [parsed] at ids
    have names : entries.map (·.voiceId) = ["ada", "bob"] := Except.ok.inj ids
    have missing : missingIds Stores.empty entries = ["ada", "bob"] := by
      unfold missingIds
      rw [names]
      rfl
    obtain ⟨t, run, -, again⟩ := seed_merge _ parsed (fun _ _ => ⟨[1], rfl⟩) Stores.empty
    rw [missing] at run
    exact ⟨t, run, again _ rfl rfl⟩

end LlmTts
