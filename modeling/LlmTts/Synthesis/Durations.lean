import LlmTts.Lib.Rounding
import LlmTts.Synthesis.Frames
import LlmTts.Synthesis.Streaming

/-!
# The total duration of a response

A stream adds up the rounded durations of its chunks, a buffered response rounds the
duration of the whole. `totals_agree_iff` says when the totals are the same.
-/

namespace LlmTts
open Python Checked

/-- The thousandfold frame counts: divided by the frame rate, they are milliseconds. -/
def milliFrames (files : List WavFile) : List Int := files.map fun file => 1000 * (file.count : Int)

theorem wavDurationMs_file {file : WavFile} (rate : 0 < file.params.frameRate) :
    wavDurationMs file.bytes =
      .ok (roundHalfEven (((1000 * (file.count : Int) : Int) : ℚ) / ((file.params.frameRate : Int) : ℚ))) := by
  have quotient : (file.count : ℚ) / file.params.frameRate * 1000 =
      ((1000 * (file.count : Int) : Int) : ℚ) / ((file.params.frameRate : Int) : ℚ) := by
    push_cast
    ring
  rw [← quotient, wavDurationMs, if_neg file.nonempty, file.opened]
  dsimp only
  rw [if_neg (by change file.params.frameRate ≠ 0; omega)]
  rfl

/-! ## The stream -/

section Stream

variable {np : Rescale} {synthesizeChunks : Provider} {input : SynthesisInput}

/-- A stream that completes has added up the durations of what it yielded. -/
theorem duration_of_completed {chunks : List String} {totals totals' : Totals} {yielded : List Bytes}
    (completed : streamSynthesisChunks np synthesizeChunks input totals chunks = (yielded, totals', .ok ())) :
    ∃ durations : List Int, List.Forall₂ (fun wav ms => wavDurationMs wav = .ok ms) yielded durations ∧
      totals'.durationMs = totals.durationMs + durations.sum := by
  induction chunks generalizing totals yielded with
  | nil =>
    cases completed
    exact ⟨[], .nil, by simp⟩
  | cons chunkText chunks ih =>
    rw [streamSynthesisChunks] at completed
    split at completed
    · cases completed
    · rename_i wav first
      split at completed
      · cases completed
      · rename_i ms duration
        generalize rest : streamSynthesisChunks np synthesizeChunks input
          ⟨totals.chunks + 1, totals.durationMs + ms⟩ chunks = result at completed
        obtain ⟨others, last, outcome⟩ := result
        cases completed
        obtain ⟨durations, each, total⟩ := ih rest
        refine ⟨ms :: durations, .cons duration each, ?_⟩
        rw [total, List.sum_cons]
        dsimp only
        omega

theorem durations_of_files {p : Wave.Params} {files : List WavFile} {durations : List Int}
    (same : ∀ file ∈ files, file.params = p) (rate : 0 < p.frameRate)
    (each : List.Forall₂ (fun wav ms => wavDurationMs wav = .ok ms) (files.map (·.bytes)) durations) :
    durations = (milliFrames files).map fun m : Int => roundHalfEven (m / ((p.frameRate : Int) : ℚ)) := by
  induction files generalizing durations with
  | nil =>
    cases each
    rfl
  | cons file files ih =>
    obtain ⟨ms, rest, first, others, rfl⟩ := List.forall₂_cons_left_iff.1 each
    have here := same file List.mem_cons_self
    rw [wavDurationMs_file (by rw [here]; exact rate), here] at first
    cases first
    rw [ih (fun other member => same other (List.mem_cons_of_mem file member)) others]
    rfl

end Stream

/-! ## The buffered response -/

/-- The files are written as one: there is one only, or `wave` can write its
samples and its size. -/
def WritesAsOne (p : Wave.Params) (files : List WavFile) : Prop :=
  files.length = 1 ∨ p.sampleWidth ≤ 4 ∧ p.Packs ((files.map (·.count)).sum * p.frameSize)

theorem sum_milliFrames (files : List WavFile) :
    (milliFrames files).sum = 1000 * (((files.map WavFile.count).sum : Nat) : Int) := by
  induction files with
  | nil => rfl
  | cons file files ih =>
    rw [milliFrames, List.map_cons, List.sum_cons, ← milliFrames, ih, List.map_cons, List.sum_cons]
    push_cast
    omega

/-- The duration of the joined files. -/
theorem duration_concat_iff {p : Wave.Params} {files : List WavFile} (nonempty : files ≠ [])
    (same : ∀ file ∈ files, file.params = p) (rate : 0 < p.frameRate) {ms : Int} :
    (concatWavBytes (files.map (·.bytes)) >>= wavDurationMs) = .ok ms ↔
      WritesAsOne p files ∧ roundHalfEven ((milliFrames files).sum / ((p.frameRate : Int) : ℚ)) = ms := by
  match files, nonempty, same with
  | [file], _, same =>
    have here := same file List.mem_cons_self
    have single : (concatWavBytes ([file].map (·.bytes)) >>= wavDurationMs) = wavDurationMs file.bytes := rfl
    rw [single, wavDurationMs_file (by rw [here]; exact rate), here, sum_milliFrames]
    simp [WritesAsOne]
  | first :: second :: files, _, same =>
    have several : 1 < (first :: second :: files).length := by simp
    have here := same first List.mem_cons_self
    have pcm : p.Pcm := here ▸ first.pcm
    have whole := WavFile.length_flatten same
    have written_iff := pcm.write_eq rate ((first :: second :: files).map (·.frames))
    rw [bind_ok_iff, sum_milliFrames]
    constructor
    · rintro ⟨out, joined, duration⟩
      obtain ⟨q, same', written⟩ := (concat_several_ok_iff several).1 joined
      cases (same' first List.mem_cons_self).symm.trans here
      obtain ⟨merged, rfl, params, -, count⟩ := WavFile.exists_of_write pcm whole written
      obtain ⟨-, -, narrow, -, packs, -⟩ := Wave.write_ok written
      rw [wavDurationMs_file (by rw [params]; exact rate), params, count] at duration
      refine ⟨.inr ⟨narrow, whole ▸ packs⟩, ?_⟩
      cases duration
      rfl
    · rintro ⟨one | ⟨narrow, packs⟩, rounded⟩
      · omega
      · rw [← whole] at packs
        rw [if_neg (by omega), if_pos packs] at written_iff
        obtain ⟨merged, bytes, params, -, count⟩ := WavFile.exists_of_write pcm whole written_iff
        refine ⟨merged.bytes, (concat_several_ok_iff several).2 ⟨p, same, bytes ▸ written_iff⟩, ?_⟩
        rw [wavDurationMs_file (by rw [params]; exact rate), params, count, ← rounded]

/-! ## The two totals -/

/-- The rests that rounding leaves of the durations make up less than half a millisecond,
or half a millisecond that is rounded back to the sum. -/
def RestsVanish (unit : Int) (ms : List Int) : Prop :=
  2 * |(ms.map (restHalfEven unit)).sum| < unit ∨
    2 * |(ms.map (restHalfEven unit)).sum| = unit ∧
      (ms.sum - (ms.map (restHalfEven unit)).sum) / unit % 2 = 0

instance (unit : Int) (ms : List Int) : Decidable (RestsVanish unit ms) :=
  inferInstanceAs (Decidable (_ ∨ _))

section Totals

variable {np : Rescale} {synthesizeChunks : Provider} {input : SynthesisInput}

/-- **Total durations.** What a stream has added up over its chunks is the duration of
the chunks as one file if and only if they can be written as one and the rests of
their durations vanish. -/
theorem totals_agree_iff {chunks : List String} {files : List WavFile} {p : Wave.Params} {totals : Totals}
    (nonempty : files ≠ []) (same : ∀ file ∈ files, file.params = p) (rate : 0 < p.frameRate)
    (completed : streamSynthesisChunks np synthesizeChunks input ⟨0, 0⟩ chunks =
      (files.map (·.bytes), totals, .ok ())) :
    (concatWavBytes (files.map (·.bytes)) >>= wavDurationMs) = .ok totals.durationMs ↔
      WritesAsOne p files ∧ RestsVanish p.frameRate (milliFrames files) := by
  obtain ⟨durations, each, total⟩ := duration_of_completed completed
  have rate' : (0 : Int) < p.frameRate := by exact_mod_cast rate
  rw [durations_of_files same rate each, zero_add] at total
  rw [duration_concat_iff nonempty same rate, total, sum_roundHalfEven_eq_iff rate']
  rfl

end Totals

/-- 8 frames are a millisecond. -/
def silentFrames (count : Nat) : Bytes :=
  Wave.header ⟨1, 2, 8000, "NONE", "not compressed"⟩ (2 * count) ++ List.replicate (2 * count) 0

def halfMillisecond : WavFile := (WavFile.ofBytes? (silentFrames 4)).get (by decide +kernel)

def millisecond : WavFile := (WavFile.ofBytes? (silentFrames 8)).get (by decide +kernel)

theorem milliseconds_add : (concatWavBytes [millisecond.bytes, millisecond.bytes] >>= wavDurationMs) = .ok 2 := by
  have completed : streamSynthesisChunks silence (fun _ => .ok [millisecond.bytes]) adaInput ⟨0, 0⟩ ["one", "two"] =
      ([millisecond.bytes, millisecond.bytes], ⟨2, 2⟩, .ok ()) := by decide +kernel
  have same : ∀ file ∈ [millisecond, millisecond], file.params = millisecond.params := by simp
  have agree := @totals_agree_iff silence (fun _ => .ok [millisecond.bytes]) adaInput ["one", "two"]
    [millisecond, millisecond] millisecond.params ⟨2, 2⟩ (List.cons_ne_nil _ _) same (by decide +kernel) completed
  exact agree.2 ⟨.inr ⟨by decide +kernel, by decide +kernel⟩, by decide +kernel⟩

/-- Two chunks of half a millisecond: the stream adds up nothing, and the buffered
response has a millisecond. -/
theorem half_milliseconds_lost :
    ¬∀ (np : Rescale) (synthesizeChunks : Provider) (input : SynthesisInput) (chunks : List String)
      (files : List WavFile) (p : Wave.Params) (totals : Totals), files ≠ [] →
      (∀ file ∈ files, file.params = p) → 0 < p.frameRate →
      streamSynthesisChunks np synthesizeChunks input ⟨0, 0⟩ chunks = (files.map (·.bytes), totals, .ok ()) →
      (concatWavBytes (files.map (·.bytes)) >>= wavDurationMs) = .ok totals.durationMs := by
  intro claim
  have completed : streamSynthesisChunks silence (fun _ => .ok [halfMillisecond.bytes]) adaInput ⟨0, 0⟩
      ["one", "two"] = ([halfMillisecond.bytes, halfMillisecond.bytes], ⟨2, 0⟩, .ok ()) := by decide +kernel
  have buffered : (concatWavBytes [halfMillisecond.bytes, halfMillisecond.bytes] >>= wavDurationMs) = .ok 1 := by
    decide +kernel
  have lost := claim silence (fun _ => .ok [halfMillisecond.bytes]) adaInput ["one", "two"]
    [halfMillisecond, halfMillisecond] halfMillisecond.params ⟨2, 0⟩ (List.cons_ne_nil _ _) (by simp)
    (by decide +kernel) completed
  cases buffered.symm.trans lost

end LlmTts
