import LlmTts.Errors
import LlmTts.Lib.Checked
import LlmTts.Lib.Wave
import Mathlib.Data.Rat.Floor

/-!
# Post-processing of WAV payloads

`normalize_wav_rms`, `_concat_wav_bytes` and `_wav_duration_ms`. The arithmetic
that numpy does on the samples of a payload is a parameter.
-/

namespace LlmTts
open Python Checked

/-- What the synthesis engine raises. -/
inductive Raised where
  /-- `OpenAIHTTPException` -/
  | http (exc : OpenAIHTTPException)
  | wave (failure : Wave.Failure)
  /-- `ValueError` of `np.frombuffer`: the bytes end inside a sample. -/
  | buffer
  /-- `OverflowError` of `10 ** (target_db / 20.0)`. -/
  | overflow
  /-- `IndexError` -/
  | index
  /-- `asyncio.CancelledError` -/
  | cancelled
  /-- Whatever else a provider raises. -/
  | provider (message : String)
  deriving DecidableEq, Repr

/-- `wave` raises inside the engine. -/
def raiseWave {α : Type} (result : Except Wave.Failure α) : Except Raised α := result.mapError .wave

/-- What becomes of the samples: they are too quiet, the gain overflows, or they
are scaled. -/
inductive Rescaled where
  | silent
  | overflow
  | scaled (frames : Bytes)

/-- The computation of `normalize_wav_rms` on the samples of a width, to a target
level. Elementwise operations keep the number of samples. -/
structure Rescale where
  rescale : (sampleWidth : Nat) → (targetDb : PyFloat) → (frames : Bytes) → Rescaled
  length_eq : ∀ {sampleWidth targetDb frames out}, rescale sampleWidth targetDb frames = .scaled out →
    out.length = frames.length

def silence : Rescale := ⟨fun _ _ _ => .silent, nofun⟩

/-- `_SAMPLE_WIDTH_DTYPES`: widths numpy has a sample type for. -/
def hasDtype (sampleWidth : Nat) : Bool := sampleWidth == 2 || sampleWidth == 4

/-- `normalize_wav_rms`. -/
def normalizeWavRms (np : Rescale) (wav : Bytes) (targetDb : PyFloat) : Except Raised Bytes :=
  if wav = [] then .ok wav
  else do
    let reader ← raiseWave (Wave.openRead wav)
    let sampleWidth := reader.params.sampleWidth
    let frames := reader.readFrames
    if !hasDtype sampleWidth then .ok wav
    else if frames.length % sampleWidth ≠ 0 then .error .buffer
    else if frames = [] then .ok wav
    else
      match np.rescale sampleWidth targetDb frames with
      | .silent => .ok wav
      | .overflow => .error .overflow
      | .scaled out => raiseWave (Wave.write reader.params [out])

/-- The error of `_concat_wav_bytes`. -/
def incompatibleChunks : OpenAIHTTPException :=
  internalError [.text "Speech generation failed: incompatible WAV chunks"]

/-- The loop of `_concat_wav_bytes`: the parameters of the first part, and the
frames of every part. -/
def readParts : Option Wave.Params → List Bytes → Except Raised (Option Wave.Params × List Bytes)
  | params, [] => .ok (params, [])
  | params, part :: parts => do
    let reader ← raiseWave (Wave.openRead part)
    if params.all (· = reader.params) then
      let (params, frames) ← readParts (some (params.getD reader.params)) parts
      return (params, reader.readFrames :: frames)
    else .error (.http incompatibleChunks)

/-- `_concat_wav_bytes`. -/
def concatWavBytes : List Bytes → Except Raised Bytes
  | [] => .ok []
  | [part] => .ok part
  | parts => do
    match ← readParts none parts with
    | (none, _) => .ok []
    | (some params, frames) => raiseWave (Wave.write params frames)

/-- `_wav_duration_ms`; the quotient is exact. -/
def wavDurationMs (wav : Bytes) : Except Raised Int :=
  if wav = [] then .ok 0
  else
    match Wave.openRead wav with
    | .ok reader =>
      if reader.params.frameRate = 0 then .ok 0
      else .ok (roundHalfEven (reader.frameCount / reader.params.frameRate * 1000))
    | .error (.error _) => .ok 0
    | .error failure => .error (.wave failure)

/-- The audio frames of a payload; an empty payload has none. -/
def framesOf (wav : Bytes) : Option Bytes :=
  if wav = [] then some []
  else (Wave.openRead wav).toOption.map (·.readFrames)

/-! ## Payloads that are WAV files -/

/-- A WAV file whose data does not end inside a frame. -/
def IsWav (wav : Bytes) : Prop :=
  ∃ reader, Wave.openRead wav = .ok reader ∧ reader.readFrames.length % reader.params.frameSize = 0

theorem IsWav.nonempty {wav : Bytes} (valid : IsWav wav) : wav ≠ [] := by
  rintro rfl
  obtain ⟨reader, opened, -⟩ := valid
  cases opened

theorem IsWav.frames {wav : Bytes} {reader : Wave.Reader} (valid : IsWav wav)
    (opened : Wave.openRead wav = .ok reader) : framesOf wav = some reader.readFrames := by
  rw [framesOf, if_neg valid.nonempty, opened]
  rfl

/-- What is written is a WAV file, with all the frames when the last one is whole. -/
theorem isWav_write {p : Wave.Params} {parts : List Bytes} {out : Bytes}
    (written : Wave.write p parts = .ok out) : IsWav out := by
  obtain ⟨reader, opened, params, -, frames⟩ := Wave.openRead_write written
  refine ⟨reader, opened, ?_⟩
  have size : reader.params.frameSize = p.frameSize := by rw [params]; rfl
  rw [frames, size, List.length_take, Nat.min_eq_left (Nat.div_mul_le_self _ _), Nat.mul_mod_left]

theorem raiseWave_ok {α : Type} {x : Except Wave.Failure α} {a : α} : raiseWave x = .ok a ↔ x = .ok a := by
  cases x <;> simp [raiseWave, Except.mapError]

/-- A normalised WAV file is a WAV file. -/
theorem isWav_normalize {np : Rescale} {wav out : Bytes} {targetDb : PyFloat} (valid : IsWav wav)
    (normalized : normalizeWavRms np wav targetDb = .ok out) : IsWav out := by
  rw [normalizeWavRms, if_neg valid.nonempty] at normalized
  obtain ⟨reader, -, normalized⟩ := bind_ok_iff.1 normalized
  dsimp only at normalized
  split at normalized
  · cases normalized
    exact valid
  · split at normalized
    · cases normalized
    · split at normalized
      · cases normalized
        exact valid
      · split at normalized
        · cases normalized
          exact valid
        · cases normalized
        · exact isWav_write (raiseWave_ok.1 normalized)

/-- The duration of a WAV file is computed. -/
theorem wavDurationMs_isWav {wav : Bytes} (valid : IsWav wav) : ∃ ms, wavDurationMs wav = .ok ms := by
  have nonempty := valid.nonempty
  obtain ⟨reader, opened, -⟩ := valid
  rw [wavDurationMs, if_neg nonempty, opened]
  dsimp only
  split
  · exact ⟨0, rfl⟩
  · exact ⟨_, rfl⟩

theorem readParts_some {p : Wave.Params} {parts : List Bytes} {params : Option Wave.Params}
    {frames : List Bytes} (read : readParts (some p) parts = .ok (params, frames)) :
    params = some p ∧ List.Forall₂ (fun part fr => ∃ reader, Wave.openRead part = .ok reader ∧
      reader.params = p ∧ reader.readFrames = fr) parts frames := by
  induction parts generalizing frames with
  | nil =>
    cases read
    exact ⟨rfl, .nil⟩
  | cons part parts ih =>
    obtain ⟨reader, opened, compared⟩ := bind_ok_iff.1 read
    split at compared
    · rename_i same
      have same : p = reader.params := by simpa using same
      obtain ⟨⟨params, rest⟩, looped, done⟩ := bind_ok_iff.1 compared
      cases done
      obtain ⟨kept, others⟩ := ih looped
      exact ⟨kept, .cons ⟨reader, raiseWave_ok.1 opened, same.symm, rfl⟩ others⟩
    · cases compared

/-- The loop of `_concat_wav_bytes` on at least one part: all have the same parameters. -/
theorem readParts_cons {part : Bytes} {parts : List Bytes} {params : Option Wave.Params}
    {frames : List Bytes} (read : readParts none (part :: parts) = .ok (params, frames)) :
    ∃ p, params = some p ∧ List.Forall₂ (fun part fr => ∃ reader, Wave.openRead part = .ok reader ∧
      reader.params = p ∧ reader.readFrames = fr) (part :: parts) frames := by
  obtain ⟨reader, opened, compared⟩ := bind_ok_iff.1 read
  obtain ⟨⟨params, rest⟩, looped, done⟩ := bind_ok_iff.1 compared
  cases done
  obtain ⟨kept, others⟩ := readParts_some looped
  exact ⟨reader.params, kept, .cons ⟨reader, raiseWave_ok.1 opened, rfl, rfl⟩ others⟩

/-- Whole frames stay whole when they are put together. -/
theorem flatten_whole {size : Nat} {frames : List Bytes} (whole : ∀ fr ∈ frames, fr.length % size = 0) :
    frames.flatten.length % size = 0 := by
  induction frames with
  | nil => exact Nat.zero_mod size
  | cons fr frames ih =>
    have here := whole fr List.mem_cons_self
    have rest := ih fun other member => whole other (List.mem_cons_of_mem fr member)
    rw [List.flatten_cons, List.length_append, Nat.add_mod, here, rest]
    exact Nat.zero_mod size

theorem framesOf_write {p : Wave.Params} {frames : List Bytes} {out : Bytes}
    (written : Wave.write p frames = .ok out) (whole : ∀ fr ∈ frames, fr.length % p.frameSize = 0) :
    framesOf out = some frames.flatten := by
  obtain ⟨reader, opened, -, -, read⟩ := Wave.openRead_write written
  have multiple := Nat.div_mul_cancel (Nat.dvd_of_mod_eq_zero (flatten_whole whole))
  rw [(isWav_write written).frames opened, read, multiple, List.take_length]

/-- `_concat_wav_bytes` keeps every frame of every part, in order. -/
theorem framesOf_concat {parts : List Bytes} {out : Bytes} (valid : ∀ part ∈ parts, IsWav part)
    (concat : concatWavBytes parts = .ok out) :
    ∃ frames, List.Forall₂ (fun part fr => framesOf part = some fr) parts frames ∧
      framesOf out = some frames.flatten := by
  match parts, valid, concat with
  | [], _, concat =>
    cases concat
    exact ⟨[], .nil, rfl⟩
  | [part], valid, concat =>
    have single := valid part List.mem_cons_self
    cases concat
    obtain ⟨reader, opened, -⟩ := id single
    have frames := single.frames opened
    exact ⟨[reader.readFrames], .cons frames .nil, by rw [frames]; simp⟩
  | part :: next :: parts, valid, concat =>
    obtain ⟨⟨params, frames⟩, read, written⟩ := bind_ok_iff.1 concat
    obtain ⟨p, rfl, readers⟩ := readParts_cons read
    have each := ((List.forall₂_and_left _ _).2 ⟨valid, readers⟩).imp
      (S := fun part fr => framesOf part = some fr ∧ fr.length % p.frameSize = 0) (by
        rintro part fr ⟨wav, reader, opened, rfl, rfl⟩
        obtain ⟨again, same, whole⟩ := id wav
        cases same.symm.trans opened
        exact ⟨wav.frames opened, whole⟩)
    have whole := ((List.forall₂_and_left _ _).1 (each.flip.imp fun fr part here => ⟨here.2, here.1⟩)).1
    exact ⟨frames, each.imp fun _ _ here => here.1, framesOf_write (raiseWave_ok.1 written) whole⟩

end LlmTts
