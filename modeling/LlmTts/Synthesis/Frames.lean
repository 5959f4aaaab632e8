import LlmTts.Synthesis.Audio

/-!
# The frames of WAV files

What `normalize_wav_rms` and `_concat_wav_bytes` do with payloads that are whole WAV
files: no frame is lost or made up, and joining in two steps is joining in one.
-/

namespace LlmTts
open Python Checked

/-- A payload with what `wave` reads of it: the data has the frames that the header
counts. -/
structure WavFile where
  bytes : Bytes
  reader : Wave.Reader
  opened : Wave.openRead bytes = .ok reader
  whole : reader.readFrames.length = reader.frameCount * reader.params.frameSize

namespace WavFile

def params (file : WavFile) : Wave.Params := file.reader.params

def frames (file : WavFile) : Bytes := file.reader.readFrames

/-- The number of frames. -/
def count (file : WavFile) : Nat := file.reader.frameCount

def ofBytes? (bytes : Bytes) : Option WavFile :=
  match opened : Wave.openRead bytes with
  | .error _ => none
  | .ok reader =>
    if whole : reader.readFrames.length = reader.frameCount * reader.params.frameSize then
      some ⟨bytes, reader, opened, whole⟩
    else none

variable (file : WavFile)

theorem pcm : file.params.Pcm := (Wave.openRead_pcm file.opened).1

theorem length_frames : file.frames.length = file.count * file.params.frameSize := file.whole

theorem fits : 36 + file.frames.length < 2 ^ 32 := (Wave.openRead_pcm file.opened).2

theorem nonempty : file.bytes ≠ [] := by
  intro empty
  have opened := file.opened
  rw [empty] at opened
  cases opened

/-- What is written of whole frames is a WAV file with these frames. -/
theorem exists_of_write {p : Wave.Params} {parts : List Bytes} {out : Bytes} {count : Nat} (pcm : p.Pcm)
    (whole : parts.flatten.length = count * p.frameSize) (written : Wave.write p parts = .ok out) :
    ∃ file : WavFile, file.bytes = out ∧ file.params = p ∧ file.frames = parts.flatten ∧ file.count = count := by
  obtain ⟨reader, opened, params, counted, read⟩ := Wave.openRead_write written
  have same : reader.params = p := params.trans pcm.stored
  have all : parts.flatten.length / p.frameSize = count := by rw [whole, Nat.mul_div_cancel _ pcm.frameSize]
  have frames : reader.readFrames = parts.flatten := by rw [read, all, ← whole, List.take_length]
  exact ⟨⟨out, reader, opened, by rw [frames, counted, same, all, whole]⟩, rfl, same, frames, counted.trans all⟩

/-- The frames of several files with the same parameters. -/
theorem length_flatten {files : List WavFile} {p : Wave.Params} (same : ∀ file ∈ files, file.params = p) :
    (files.map frames).flatten.length = (files.map count).sum * p.frameSize := by
  induction files with
  | nil => simp
  | cons file files ih =>
    have here := file.length_frames
    rw [same file List.mem_cons_self] at here
    simp [ih fun other member => same other (List.mem_cons_of_mem file member), here, Nat.add_mul]

end WavFile

/-! ## Joining -/

theorem readParts_files {p : Wave.Params} {files : List WavFile} :
    readParts (some p) (files.map (·.bytes)) =
      if ∀ file ∈ files, file.params = p then .ok (some p, files.map (·.frames))
      else .error (.http incompatibleChunks) := by
  induction files with
  | nil => simp [readParts]
  | cons file files ih =>
    have opened : raiseWave (Wave.openRead file.bytes) = .ok file.reader := raiseWave_ok.2 file.opened
    rw [List.map_cons, readParts, opened]
    by_cases same : p = file.params
    · have here : (some p).all (· = file.reader.params) = true := by simpa [WavFile.params] using same
      simp only [bind, Except.bind, here, if_true, Option.getD_some, ih, List.forall_mem_cons, ← same, true_and]
      split_ifs <;> rfl
    · have here : (some p).all (· = file.reader.params) = false := by simpa [WavFile.params] using same
      have differ : ¬∀ other ∈ file :: files, other.params = p := fun all =>
        same (all file List.mem_cons_self).symm
      simp only [bind, Except.bind, here, if_neg differ]
      rfl

/-- `_concat_wav_bytes` of at least two files. -/
theorem concat_files {first second : WavFile} {files : List WavFile} :
    concatWavBytes ((first :: second :: files).map (·.bytes)) =
      if ∀ file ∈ first :: second :: files, file.params = first.params then
        raiseWave (Wave.write first.params ((first :: second :: files).map (·.frames)))
      else .error (.http incompatibleChunks) := by
  have opened : raiseWave (Wave.openRead first.bytes) = .ok first.reader := raiseWave_ok.2 first.opened
  have rest := @readParts_files first.params (second :: files)
  change readParts (some first.reader.params) _ = _ at rest
  have parts : readParts none ((first :: second :: files).map (·.bytes)) =
      if ∀ file ∈ first :: second :: files, file.params = first.params then
        .ok (some first.params, (first :: second :: files).map (·.frames))
      else .error (.http incompatibleChunks) := by
    rw [List.map_cons, readParts, opened]
    simp only [bind, Except.bind, Option.all_none, if_true, Option.getD_none, rest,
      List.forall_mem_cons (a := first), true_and]
    split_ifs <;> rfl
  rw [List.map_cons, List.map_cons] at parts ⊢
  unfold concatWavBytes
  simp only [parts]
  split_ifs <;> rfl

/-- What `_concat_wav_bytes` makes of WAV files. -/
inductive Joined (files : List WavFile) : Except Raised Bytes → Prop where
  | empty (empty : files = []) : Joined files (.ok [])
  /-- The frames of all the parts, in order. -/
  | joined (merged : WavFile) (nonempty : files ≠ []) (same : ∀ file ∈ files, file.params = merged.params)
      (frames : merged.frames = (files.map (·.frames)).flatten) : Joined files (.ok merged.bytes)
  | differ {one other : WavFile} (member : one ∈ files) (member' : other ∈ files)
      (differ : one.params ≠ other.params) : Joined files (.error (.http incompatibleChunks))
  /-- `wave` reads samples of more than four bytes and does not write them. -/
  | wide {p : Wave.Params} (same : ∀ file ∈ files, file.params = p) (several : 1 < files.length)
      (wide : 4 < p.sampleWidth) : Joined files (.error (.wave (.error "sample width not specified")))
  /-- The frames do not fit in one file. -/
  | large {p : Wave.Params} (same : ∀ file ∈ files, file.params = p) (several : 1 < files.length)
      (large : 2 ^ 32 ≤ 36 + (files.map (·.frames)).flatten.length) : Joined files (.error (.wave .pack))

section Joining

variable {files : List WavFile}

theorem joined_concat (header : ∀ file ∈ files, file.params.HeaderFits) :
    Joined files (concatWavBytes (files.map (·.bytes))) := by
  match files, header with
  | [], _ => exact .empty rfl
  | [file], _ =>
    refine .joined file (List.cons_ne_nil file []) (fun other member => ?_) (by simp)
    rw [List.mem_singleton.1 member]
  | first :: second :: files, header =>
    have several : 1 < (first :: second :: files).length := by simp
    rw [concat_files]
    by_cases same : ∀ file ∈ first :: second :: files, file.params = first.params
    · have fits := header first List.mem_cons_self
      have whole := WavFile.length_flatten same
      rw [if_pos same, first.pcm.write_eq fits.rate]
      by_cases wide : 4 < first.params.sampleWidth
      · rw [if_pos wide]
        exact .wide same several wide
      · rw [if_neg wide]
        by_cases room : 36 + ((first :: second :: files).map (·.frames)).flatten.length < 2 ^ 32
        · have packs := first.pcm.packs fits room
          have written : Wave.write first.params ((first :: second :: files).map (·.frames)) = _ :=
            first.pcm.write_eq fits.rate _
          rw [if_neg wide, if_pos packs] at written
          obtain ⟨merged, bytes, params, frames, -⟩ := WavFile.exists_of_write first.pcm whole written
          rw [if_pos packs, ← bytes]
          exact .joined merged (List.cons_ne_nil _ _) (fun file member => (same file member).trans params.symm) frames
        · rw [if_neg fun packs => room packs.2.2.2.2]
          exact .large same several (by omega)
    · rw [if_neg same]
      push Not at same
      obtain ⟨other, member, differ⟩ := same
      exact .differ member List.mem_cons_self differ

/-- Several files are joined when they have the same parameters and can be written. -/
theorem concat_several_ok_iff (several : 1 < files.length) {out : Bytes} :
    concatWavBytes (files.map (·.bytes)) = .ok out ↔
      ∃ p, (∀ file ∈ files, file.params = p) ∧ Wave.write p (files.map (·.frames)) = .ok out := by
  match files, several with
  | first :: second :: files, _ =>
    rw [concat_files]
    constructor
    · intro joined
      split at joined
      · rename_i same
        exact ⟨first.params, same, raiseWave_ok.1 joined⟩
      · cases joined
    · rintro ⟨p, same, written⟩
      cases same first List.mem_cons_self
      rw [if_pos same]
      exact raiseWave_ok.2 written

theorem concat_pair_ok_iff {one other : WavFile} {out : Bytes} :
    concatWavBytes [one.bytes, other.bytes] = .ok out ↔
      one.params = other.params ∧ Wave.write one.params [one.frames, other.frames] = .ok out := by
  have pair := @concat_several_ok_iff [one, other] (Nat.lt_succ_self 1) out
  refine pair.trans ?_
  constructor
  · rintro ⟨p, same, written⟩
    have first := same one List.mem_cons_self
    have second := same other (List.mem_cons_of_mem one List.mem_cons_self)
    rw [first]
    exact ⟨second.symm, written⟩
  · rintro ⟨params, written⟩
    refine ⟨one.params, fun file member => ?_, written⟩
    rcases List.mem_cons.1 member with rfl | member
    · rfl
    · rw [List.mem_singleton.1 member, params]

/-- Files with the same parameters are joined when there is room. -/
theorem concat_of_same {p : Wave.Params} (nonempty : files ≠ []) (header : p.HeaderFits)
    (same : ∀ file ∈ files, file.params = p) (narrow : p.sampleWidth ≤ 4)
    (room : 36 + (files.map (·.frames)).flatten.length < 2 ^ 32) :
    ∃ merged : WavFile, concatWavBytes (files.map (·.bytes)) = .ok merged.bytes ∧ merged.params = p ∧
      merged.frames = (files.map (·.frames)).flatten := by
  have joined := joined_concat fun file member => by rw [same file member]; exact header
  generalize concatWavBytes (files.map (·.bytes)) = result at joined ⊢
  obtain ⟨first, member⟩ := List.exists_mem_of_ne_nil files nonempty
  cases joined with
  | empty empty => exact absurd empty nonempty
  | joined merged _ same' frames =>
    exact ⟨merged, rfl, (same' first member).symm.trans (same first member), frames⟩
  | differ member member' differ => exact absurd ((same _ member).trans (same _ member').symm) differ
  | wide same' _ wide =>
    rw [← same' first member, same first member] at wide
    omega
  | large _ _ large => omega

end Joining

/-! ## Joining in two steps -/

/-- A prefix and a suffix are joined, and then the two payloads. -/
def concatTwice (before after : List Bytes) : Except Raised Bytes := do
  let front ← concatWavBytes before
  let back ← concatWavBytes after
  concatWavBytes [front, back]

section Twice

variable {before after : List WavFile}

/-- Joining in two steps gives the payload of joining in one. -/
theorem concatTwice_ok_iff (before_nonempty : before ≠ []) (after_nonempty : after ≠ [])
    (header : ∀ file ∈ before ++ after, file.params.HeaderFits) {out : Bytes} :
    concatTwice (before.map (·.bytes)) (after.map (·.bytes)) = .ok out ↔
      concatWavBytes ((before ++ after).map (·.bytes)) = .ok out := by
  obtain ⟨first, member⟩ := List.exists_mem_of_ne_nil before before_nonempty
  obtain ⟨last, member'⟩ := List.exists_mem_of_ne_nil after after_nonempty
  have several : 1 < (before ++ after).length := by
    have positive := List.length_pos_of_mem member
    have more := List.length_pos_of_mem member'
    rw [List.length_append]
    omega
  have front := joined_concat fun file here => header file (List.mem_append_left after here)
  have back := joined_concat fun file here => header file (List.mem_append_right before here)
  rw [concat_several_ok_iff several, List.map_append]
  constructor
  · intro joined
    obtain ⟨one, made, rest⟩ := bind_ok_iff.1 joined
    obtain ⟨other, made', both⟩ := bind_ok_iff.1 rest
    rw [made] at front
    rw [made'] at back
    cases front with
    | empty empty => exact absurd empty before_nonempty
    | joined merged _ same frames =>
      cases back with
      | empty empty => exact absurd empty after_nonempty
      | joined merged' _ same' frames' =>
        obtain ⟨params, written⟩ := concat_pair_ok_iff.1 both
        rw [Wave.write_flatten, frames, frames'] at written
        refine ⟨merged.params, fun file here => ?_, ?_⟩
        · rcases List.mem_append.1 here with here | here
          · exact same file here
          · exact (same' file here).trans params.symm
        · rw [Wave.write_flatten, List.flatten_append]
          simpa using written
  · rintro ⟨p, same, written⟩
    have fits : p.HeaderFits := by
      rw [← same first (List.mem_append_left after member)]
      exact header first (List.mem_append_left after member)
    obtain ⟨-, -, narrow, -, packs, -⟩ := Wave.write_ok written
    have room := packs.2.2.2.2
    rw [List.flatten_append, List.length_append] at room
    obtain ⟨one, made, params, frames⟩ := concat_of_same before_nonempty fits
      (fun file here => same file (List.mem_append_left after here)) narrow (by omega)
    obtain ⟨other, made', params', frames'⟩ := concat_of_same after_nonempty fits
      (fun file here => same file (List.mem_append_right before here)) narrow (by omega)
    refine bind_ok_iff.2 ⟨one.bytes, made, bind_ok_iff.2 ⟨other.bytes, made', ?_⟩⟩
    refine concat_pair_ok_iff.2 ⟨params.trans params'.symm, ?_⟩
    rw [Wave.write_flatten, List.flatten_append] at written
    rw [Wave.write_flatten, params, frames, frames']
    simpa using written

end Twice

/-! ## Normalising -/

section Normalising

variable {np : Rescale} {targetDb : PyFloat}

/-- The gain of the file is computable. -/
def GainComputable (np : Rescale) (targetDb : PyFloat) (file : WavFile) : Prop :=
  hasDtype file.params.sampleWidth → np.rescale file.params.sampleWidth targetDb file.frames ≠ .overflow

/-- `normalize_wav_rms` keeps the parameters and the number of frames. -/
theorem normalize_file {file : WavFile} (header : file.params.HeaderFits)
    (computable : GainComputable np targetDb file) :
    ∃ out : WavFile, normalizeWavRms np file.bytes targetDb = .ok out.bytes ∧
      out.params = file.params ∧ out.count = file.count := by
  have opened : raiseWave (Wave.openRead file.bytes) = .ok file.reader := raiseWave_ok.2 file.opened
  have width : (file.frames.length % file.params.sampleWidth) = 0 := by
    rw [file.length_frames, Wave.Params.frameSize, ← Nat.mul_assoc]
    exact Nat.mul_mod_left _ _
  have kept : ∃ out : WavFile, (Except.ok file.bytes : Except Raised Bytes) = .ok out.bytes ∧
      out.params = file.params ∧ out.count = file.count := ⟨file, rfl, rfl, rfl⟩
  rw [normalizeWavRms, if_neg file.nonempty, opened]
  simp only [bind, Except.bind]
  change ∃ out : WavFile, (if !hasDtype file.params.sampleWidth then _
    else if file.frames.length % file.params.sampleWidth ≠ 0 then _
    else if file.frames = [] then _ else _) = _ ∧ _
  split
  · exact kept
  · rename_i dtype
    have dtype : hasDtype file.params.sampleWidth = true := by simpa using dtype
    rw [if_neg (not_not.2 width)]
    split
    · exact kept
    · have gain := computable dtype
      split
      · exact kept
      · exact absurd ‹_› gain
      · rename_i out scaled
        have length := np.length_eq scaled
        have narrow : ¬4 < file.params.sampleWidth := by
          simp only [hasDtype, Bool.or_eq_true, beq_iff_eq] at dtype
          omega
        have flat : [out].flatten = out := by simp
        have packs : file.params.Packs [out].flatten.length := by
          rw [flat, length]
          exact file.pcm.packs header file.fits
        have written := file.pcm.write_eq header.rate [out]
        rw [if_neg narrow, if_pos packs] at written
        obtain ⟨result, bytes, params, -, count⟩ := WavFile.exists_of_write file.pcm
          (by rw [flat, length]; exact file.length_frames) written
        refine ⟨result, ?_, params, count⟩
        rw [bytes]
        exact raiseWave_ok.2 written

theorem normalize_files {files : List WavFile} (header : ∀ file ∈ files, file.params.HeaderFits)
    (computable : ∀ file ∈ files, GainComputable np targetDb file) :
    ∃ outs : List WavFile,
      (files.map (·.bytes)).mapM (normalizeWavRms np · targetDb) = .ok (outs.map (·.bytes)) ∧
      List.Forall₂ (fun file out => out.params = file.params ∧ out.count = file.count) files outs := by
  induction files with
  | nil => exact ⟨[], rfl, .nil⟩
  | cons file files ih =>
    obtain ⟨out, first, kept⟩ := normalize_file (header file List.mem_cons_self) (computable file List.mem_cons_self)
    obtain ⟨outs, rest, others⟩ := ih (fun other member => header other (List.mem_cons_of_mem file member))
      (fun other member => computable other (List.mem_cons_of_mem file member))
    refine ⟨out :: outs, ?_, .cons kept others⟩
    simp only [List.map_cons, List.mapM_cons, first, rest]
    rfl

/-- **Frames are conserved.** Normalising keeps the parameters and the number of frames
of every file. Joining what comes out gives all the frames in order, unless the parts
differ or `wave` cannot write the result; and it makes no difference whether a prefix
and a suffix are joined first. -/
theorem frames_conserved {files : List WavFile} (header : ∀ file ∈ files, file.params.HeaderFits)
    (computable : ∀ file ∈ files, GainComputable np targetDb file) :
    ∃ outs : List WavFile,
      (files.map (·.bytes)).mapM (normalizeWavRms np · targetDb) = .ok (outs.map (·.bytes)) ∧
      List.Forall₂ (fun file out => out.params = file.params ∧ out.count = file.count) files outs ∧
      Joined outs (concatWavBytes (outs.map (·.bytes))) ∧
      ∀ before after : List WavFile, before ≠ [] → after ≠ [] → before ++ after = outs → ∀ out,
        concatTwice (before.map (·.bytes)) (after.map (·.bytes)) = .ok out ↔
          concatWavBytes (outs.map (·.bytes)) = .ok out := by
  obtain ⟨outs, normalized, kept⟩ := normalize_files header computable
  have header' : ∀ out ∈ outs, out.params.HeaderFits := by
    intro out member
    obtain ⟨file, there, same⟩ := exists_of_mem_left kept.flip member
    rw [same.1]
    exact header file there
  refine ⟨outs, normalized, kept, joined_concat header', ?_⟩
  rintro before after before_nonempty after_nonempty rfl out
  exact concatTwice_ok_iff before_nonempty after_nonempty header'

end Normalising

/-- A file with one frame of silence, for any width. -/
def oneFrame (sampleWidth : Nat) : Bytes :=
  Wave.header ⟨1, sampleWidth, 8000, "NONE", "not compressed"⟩ sampleWidth ++ List.replicate sampleWidth 0

def shortFile : WavFile := (WavFile.ofBytes? (oneFrame 2)).get (by decide +kernel)

def wideFile : WavFile := (WavFile.ofBytes? (oneFrame 8)).get (by decide +kernel)

theorem wideFile_fits : wideFile.params.HeaderFits := by
  constructor <;> decide +kernel

theorem frames_conserved_twice : ∃ outs : List WavFile,
    [shortFile.bytes, shortFile.bytes].mapM (normalizeWavRms silence · (.finite (-20))) = .ok (outs.map (·.bytes)) ∧
    Joined outs (concatWavBytes (outs.map (·.bytes))) := by
  have header : shortFile.params.HeaderFits := by
    constructor <;> decide +kernel
  have headers : ∀ file ∈ [shortFile, shortFile], file.params.HeaderFits := by simpa using header
  obtain ⟨outs, normalized, -, joined, -⟩ := @frames_conserved silence (.finite (-20)) _ headers
    fun file _ _ gain => by cases gain
  exact ⟨outs, normalized, joined⟩

/-- Two files with samples of eight bytes are not joined, though they have the same
parameters; and an empty prefix is no payload that can be joined. -/
theorem wide_refused :
    (¬∀ (np : Rescale) (targetDb : PyFloat) (files outs : List WavFile),
      (∀ file ∈ files, file.params.HeaderFits ∧ GainComputable np targetDb file) →
      (files.map (·.bytes)).mapM (normalizeWavRms np · targetDb) = .ok (outs.map (·.bytes)) →
      (∃ merged : WavFile, concatWavBytes (outs.map (·.bytes)) = .ok merged.bytes) ∨
        ∃ one ∈ outs, ∃ other ∈ outs, one.params ≠ other.params) ∧
    ¬∀ before after : List WavFile, ∀ out, concatWavBytes ((before ++ after).map (·.bytes)) = .ok out →
      ∃ twice, concatTwice (before.map (·.bytes)) (after.map (·.bytes)) = .ok twice := by
  constructor
  · intro claim
    have each : ∀ file ∈ [wideFile, wideFile], file = wideFile := by simp
    rcases claim silence (.finite 0) [wideFile, wideFile] [wideFile, wideFile]
      (fun file member => ⟨each file member ▸ wideFile_fits, fun _ gain => by cases gain⟩)
      (by decide +kernel) with ⟨merged, joined⟩ | ⟨one, member, other, member', differ⟩
    · have refused : concatWavBytes [wideFile.bytes, wideFile.bytes] =
          .error (.wave (.error "sample width not specified")) := by decide +kernel
      cases refused.symm.trans joined
    · exact differ (by rw [each one member, each other member'])
  · intro claim
    obtain ⟨twice, joined⟩ := claim [] [wideFile] _ rfl
    have refused : concatTwice [] [wideFile.bytes] = .error (.wave .eof) := by decide +kernel
    cases refused.symm.trans joined

end LlmTts
