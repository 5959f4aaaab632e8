import LlmTts.Lib.Python

/-!
# WAV files

`wave.open` for reading and for writing: RIFF chunks, the `fmt ` chunk of PCM
data, and the header a writer leaves when it has written all its frames. Reading
follows the cursor of the RIFF chunk, with its padding and its bounds; every
way in which a file is rejected is an error of its own.
-/

namespace Wave
open Python

/-! ## Little-endian fields -/

/-- The `width` low bytes of `value`. -/
def leBytes : (width value : Nat) → Bytes
  | 0, _ => []
  | width + 1, value => UInt8.ofNat (value % 256) :: leBytes width (value / 256)

def readLE : Bytes → Nat
  | [] => 0
  | b :: bytes => b.toNat + 256 * readLE bytes

/-- A number takes the bytes of its width. -/
@[simp] theorem length_leBytes (width value : Nat) : (leBytes width value).length = width := by
  induction width generalizing value with
  | zero => rfl
  | succ width ih => rw [leBytes, List.length_cons, ih]

/-- A number that fits is read back. -/
theorem readLE_leBytes {width value : Nat} (fits : value < 256 ^ width) :
    readLE (leBytes width value) = value := by
  induction width generalizing value with
  | zero =>
    rw [pow_zero, Nat.lt_one_iff] at fits
    rw [fits]
    rfl
  | succ width ih =>
    have rest : value / 256 < 256 ^ width := by
      rw [Nat.div_lt_iff_lt_mul (by decide), ← pow_succ]
      exact fits
    have low : (UInt8.ofNat (value % 256)).toNat = value % 256 :=
      UInt8.toNat_ofNat_of_lt (Nat.mod_lt value (by decide))
    rw [leBytes, readLE, ih rest, low]
    exact Nat.mod_add_div value 256

/-! ## Reading -/

/-- What `wave` raises. -/
inductive Failure where
  /-- `wave.Error` -/
  | error (message : String)
  /-- `EOFError` -/
  | eof
  /-- `RuntimeError` of a seek out of a chunk. -/
  | seek
  /-- `struct.error` of a field that does not fit. -/
  | pack
  deriving DecidableEq, Repr

/-- The RIFF chunk: the bytes after its header, its declared size, and how far it
has been read. -/
structure Riff where
  content : Bytes
  size : Nat
  sizeRead : Nat
  deriving DecidableEq, Repr

/-- `chunk.read(n)` of the RIFF chunk; a pad byte follows an odd chunk. -/
def Riff.read (f : Riff) (n : Nat) : Bytes × Riff :=
  if f.size ≤ f.sizeRead then ([], f)
  else
    let data := (f.content.drop f.sizeRead).take (min n (f.size - f.sizeRead))
    let sizeRead := f.sizeRead + data.length
    let pad := if sizeRead = f.size ∧ f.size % 2 = 1 then (f.content.drop sizeRead).take 1 else []
    (data, { f with sizeRead := sizeRead + pad.length })

/-- A chunk inside the RIFF chunk. -/
structure Chunk where
  name : Bytes
  size : Nat
  sizeRead : Nat
  deriving DecidableEq, Repr

/-- The header of the next chunk, or `none` for `EOFError`. -/
def Riff.chunk (f : Riff) : Option (Chunk × Riff) :=
  let (name, f) := f.read 4
  if name.length < 4 then none
  else
    let (size, f) := f.read 4
    if size.length < 4 then none else some (⟨name, readLE size, 0⟩, f)

/-- `chunk.read(n)`. -/
def Chunk.read (c : Chunk) (f : Riff) (n : Nat) : Bytes × Chunk × Riff :=
  if c.size ≤ c.sizeRead then ([], c, f)
  else
    let (data, f) := f.read (min n (c.size - c.sizeRead))
    let sizeRead := c.sizeRead + data.length
    if sizeRead = c.size ∧ c.size % 2 = 1 then
      let (pad, f) := f.read 1
      (data, { c with sizeRead := sizeRead + pad.length }, f)
    else (data, { c with sizeRead := sizeRead }, f)

/-- `chunk.skip()`: a seek over the rest of the chunk and its pad byte. -/
def Chunk.skip (c : Chunk) (f : Riff) : Except Failure Riff :=
  let sizeRead := f.sizeRead + (c.size + c.size % 2 - c.sizeRead)
  if f.size < sizeRead then .error .seek else .ok { f with sizeRead := sizeRead }

/-- The parameters of the samples. -/
structure Params where
  channels : Nat
  sampleWidth : Nat
  frameRate : Nat
  compType : String
  compName : String
  deriving DecidableEq, Repr

def Params.frameSize (p : Params) : Nat := p.channels * p.sampleWidth

/-- `_read_fmt_chunk`. -/
def readFmt (c : Chunk) (f : Riff) : Except Failure (Params × Chunk × Riff) :=
  let (head, c, f) := c.read f 14
  if head.length < 14 then .error .eof
  else
    let tag := readLE (head.take 2)
    let channels := readLE ((head.drop 2).take 2)
    let frameRate := readLE ((head.drop 4).take 4)
    if tag ≠ 1 then .error (.error s!"unknown format: {tag}")
    else
      let (bits, c, f) := c.read f 2
      if bits.length < 2 then .error .eof
      else
        let sampleWidth := (readLE bits + 7) / 8
        if sampleWidth = 0 then .error (.error "bad sample width")
        else if channels = 0 then .error (.error "bad # of channels")
        else .ok (⟨channels, sampleWidth, frameRate, "NONE", "not compressed"⟩, c, f)

/-- `Wave_read`: the parameters, and the data chunk with its frames unread. -/
structure Reader where
  params : Params
  frameCount : Nat
  chunk : Chunk
  file : Riff
  deriving DecidableEq, Repr

def riffId : Bytes := [0x52, 0x49, 0x46, 0x46]
def waveId : Bytes := [0x57, 0x41, 0x56, 0x45]
def fmtId : Bytes := [0x66, 0x6D, 0x74, 0x20]
def dataId : Bytes := [0x64, 0x61, 0x74, 0x61]

/-- The chunk loop of `initfp`. Every chunk takes its header out of the bytes left,
so that their number is fuel enough. -/
def readChunks : (fuel : Nat) → Riff → Option Params → Except Failure Reader
  | 0, _, _ => .error (.error "fmt chunk and/or data chunk missing")
  | fuel + 1, f, params? =>
    match f.chunk with
    | none => .error (.error "fmt chunk and/or data chunk missing")
    | some (c, f) =>
      if c.name = fmtId then do
        let (params, c, f) ← readFmt c f
        readChunks fuel (← c.skip f) (some params)
      else if c.name = dataId then
        match params? with
        | none => .error (.error "data chunk before fmt chunk")
        | some params => .ok ⟨params, c.size / params.frameSize, c, f⟩
      else do readChunks fuel (← c.skip f) params?

/-- `wave.open(file, "rb")`. -/
def openRead (bytes : Bytes) : Except Failure Reader :=
  if bytes.length < 8 then .error .eof
  else if bytes.take 4 ≠ riffId then .error (.error "file does not start with RIFF id")
  else
    let (form, f) := (Riff.mk (bytes.drop 8) (readLE ((bytes.drop 4).take 4)) 0).read 4
    if form ≠ waveId then .error (.error "not a WAVE file")
    else readChunks (bytes.length + 1) f none

/-- `reader.readframes(reader.getnframes())`. -/
def Reader.readFrames (r : Reader) : Bytes :=
  if r.frameCount = 0 then [] else (r.chunk.read r.file (r.frameCount * r.params.frameSize)).1

/-- A read moves the cursor over what it returns. -/
theorem Riff.read_grows (f : Riff) (n : Nat) :
    (f.read n).2.content = f.content ∧ f.sizeRead + (f.read n).1.length ≤ (f.read n).2.sizeRead := by
  unfold Riff.read
  split
  · exact ⟨rfl, Nat.le_refl _⟩
  · exact ⟨rfl, Nat.le_add_right _ _⟩

/-- A chunk is read forward. -/
theorem Chunk.read_grows (c : Chunk) (f : Riff) (n : Nat) :
    (c.read f n).2.2.content = f.content ∧ f.sizeRead ≤ (c.read f n).2.2.sizeRead := by
  unfold Chunk.read
  split
  · exact ⟨rfl, Nat.le_refl _⟩
  · obtain ⟨content, grows⟩ := f.read_grows (min n (c.size - c.sizeRead))
    obtain ⟨content', grows'⟩ := (f.read (min n (c.size - c.sizeRead))).2.read_grows 1
    dsimp only
    split
    · exact ⟨content'.trans content, by dsimp only; omega⟩
    · exact ⟨content, by dsimp only; omega⟩

/-- So is the list of chunks. -/
theorem Riff.chunk_grows {f f' : Riff} {c : Chunk} (next : f.chunk = some (c, f')) :
    f'.content = f.content ∧ f.sizeRead < f'.sizeRead ∧ f.sizeRead < f.content.length := by
  have first := f.read_grows 4
  have second := (f.read 4).2.read_grows 4
  have bytes : (f.read 4).1.length ≤ f.content.length - f.sizeRead := by
    unfold Riff.read
    split
    · exact Nat.zero_le _
    · dsimp only
      rw [List.length_take, List.length_drop]
      omega
  unfold Riff.chunk at next
  dsimp only at next
  split at next
  · cases next
  · split at next
    · cases next
    · cases next
      exact ⟨second.1.trans first.1, by omega, by omega⟩

/-- So is the format. -/
theorem readFmt_grows {c c' : Chunk} {f f' : Riff} {p : Params} (read : readFmt c f = .ok (p, c', f')) :
    f'.content = f.content ∧ f.sizeRead ≤ f'.sizeRead := by
  have first := c.read_grows f 14
  have second := (c.read f 14).2.1.read_grows (c.read f 14).2.2 2
  unfold readFmt at read
  dsimp only at read
  split at read
  · cases read
  · split at read
    · cases read
    · split at read
      · cases read
      · split at read
        · cases read
        · split at read
          · cases read
          · cases read
            exact ⟨second.1.trans first.1, first.2.trans second.2⟩

/-- So is what is skipped. -/
theorem Chunk.skip_grows {c : Chunk} {f f' : Riff} (skip : c.skip f = .ok f') :
    f'.content = f.content ∧ f.sizeRead ≤ f'.sizeRead := by
  unfold Chunk.skip at skip
  dsimp only at skip
  split at skip
  · cases skip
  · cases skip
    exact ⟨rfl, Nat.le_add_right _ _⟩

/-- More fuel than bytes changes nothing. -/
theorem readChunks_enough {fuel : Nat} {f : Riff} {params? : Option Params}
    (enough : f.content.length < f.sizeRead + fuel) :
    readChunks (fuel + 1) f params? = readChunks fuel f params? := by
  induction fuel generalizing f params? with
  | zero =>
    have ended : f.chunk = none := by
      cases next : f.chunk with
      | none => rfl
      | some found =>
        have := (Riff.chunk_grows next).2.2
        omega
    simp only [readChunks, ended]
  | succ fuel ih =>
    have again : ∀ {f' : Riff} {params? : Option Params}, f'.content = f.content → f.sizeRead < f'.sizeRead →
        readChunks (fuel + 1) f' params? = readChunks fuel f' params? := fun content grows =>
      ih (by rw [content]; omega)
    rw [readChunks, readChunks]
    cases next : f.chunk with
    | none => rfl
    | some found =>
      obtain ⟨c, f₁⟩ := found
      obtain ⟨content₁, grows₁, -⟩ := Riff.chunk_grows next
      dsimp only
      split
      · cases params : readFmt c f₁ with
        | error failure => rfl
        | ok found =>
          obtain ⟨p, c', f₂⟩ := found
          obtain ⟨content₂, grows₂⟩ := readFmt_grows params
          simp only [bind, Except.bind]
          cases skip : c'.skip f₂ with
          | error failure => rfl
          | ok f₃ =>
            obtain ⟨content₃, grows₃⟩ := Chunk.skip_grows skip
            exact again (content₃.trans (content₂.trans content₁)) (by omega)
      · split
        · rfl
        · simp only [bind, Except.bind]
          cases skip : c.skip f₁ with
          | error failure => rfl
          | ok f₂ =>
            obtain ⟨content₂, grows₂⟩ := Chunk.skip_grows skip
            exact again (content₂.trans content₁) (by omega)

/-! ## Writing -/

/-- The header of a file with `length` bytes of frames. -/
def header (p : Params) (length : Nat) : Bytes :=
  riffId ++ leBytes 4 (36 + length) ++ waveId ++ fmtId ++ leBytes 4 16 ++ leBytes 2 1 ++
    leBytes 2 p.channels ++ leBytes 4 p.frameRate ++
    leBytes 4 (p.channels * p.frameRate * p.sampleWidth) ++ leBytes 2 p.frameSize ++
    leBytes 2 (p.sampleWidth * 8) ++ dataId ++ leBytes 4 length

/-- The fields of the header that can be too large for their width. -/
def Params.Packs (p : Params) (length : Nat) : Prop :=
  p.channels < 2 ^ 16 ∧ p.frameRate < 2 ^ 32 ∧ p.channels * p.frameRate * p.sampleWidth < 2 ^ 32 ∧
    p.frameSize < 2 ^ 16 ∧ 36 + length < 2 ^ 32

instance (p : Params) (length : Nat) : Decidable (p.Packs length) :=
  inferInstanceAs (Decidable (_ ∧ _))

/-- `with wave.open(file, "wb")`, the setters, and `writeframes` of each part. Where a setter
raises, `close` raises in its place, as the parameter is not set. -/
def write (p : Params) (parts : List Bytes) : Except Failure Bytes :=
  if p.channels < 1 then .error (.error "# channels not specified")
  else if p.sampleWidth < 1 ∨ 4 < p.sampleWidth then .error (.error "sample width not specified")
  else if p.frameRate = 0 then .error (.error "sampling rate not specified")
  else if p.compType ≠ "NONE" then
    -- all that `close` needs is set: it writes the header of a file without frames
    if p.Packs 0 then .error (.error "unsupported compression type") else .error .pack
  else if p.Packs parts.flatten.length then .ok (header p parts.flatten.length ++ parts.flatten)
  else .error .pack

/-! ## A file that was written is read back -/

/-- What `wave` writes it has checked before. -/
theorem write_ok {p : Params} {parts : List Bytes} {out : Bytes} (written : write p parts = .ok out) :
    0 < p.channels ∧ 0 < p.sampleWidth ∧ p.sampleWidth ≤ 4 ∧ 0 < p.frameRate ∧
      p.Packs parts.flatten.length ∧ out = header p parts.flatten.length ++ parts.flatten := by
  unfold write at written
  split at written
  · cases written
  · split at written
    · cases written
    · split at written
      · cases written
      · split at written
        · split at written <;> cases written
        · split at written
          · rename_i packs
            cases written
            exact ⟨by omega, by omega, by omega, by omega, packs, rfl⟩
          · cases written

/-- Only the bytes of the parts matter. -/
theorem write_flatten (p : Params) (parts : List Bytes) : write p parts = write p [parts.flatten] := by
  simp [write]

/-- The bytes of the RIFF chunk that are left are `rest`. -/
structure Riff.Left (f : Riff) (rest : Bytes) : Prop where
  content : f.content.drop f.sizeRead = rest
  size : f.size = f.sizeRead + rest.length

namespace Riff.Left

variable {f : Riff} {data rest : Bytes}

/-- The bytes that are left are read in order. -/
theorem take (left : f.Left rest) {n : Nat} (positive : 0 < n) (inside : n ≤ rest.length) :
    (f.read n).1 = rest.take n := by
  have size := left.size
  unfold Riff.read
  rw [if_neg (by omega)]
  dsimp only
  rw [left.content, Nat.min_eq_left (by omega)]

/-- A read that does not end the chunk, or ends it on an even size. -/
theorem read (left : f.Left (data ++ rest)) {n : Nat} (length : data.length = n) (positive : 0 < n)
    (even : rest ≠ [] ∨ f.size % 2 = 0) :
    ∃ f' : Riff, f.read n = (data, f') ∧ f'.Left rest ∧ f'.size = f.size := by
  have size := left.size
  rw [List.length_append, length] at size
  have less : min n (f.size - f.sizeRead) = n := Nat.min_eq_left (by omega)
  have taken : (data ++ rest).take n = data := by rw [← length, List.take_left]
  have out : ¬(f.sizeRead + n = f.size ∧ f.size % 2 = 1) := by
    rintro ⟨ends, odd⟩
    rcases even with more | even
    · have := List.length_pos_iff.2 more
      omega
    · omega
  refine ⟨{ f with sizeRead := f.sizeRead + n }, ?_, ⟨?_, ?_⟩, rfl⟩
  · unfold Riff.read
    rw [if_neg (by omega)]
    simp only [left.content, less, taken, length, if_neg out, List.length_nil, Nat.add_zero]
  · rw [← List.drop_drop, left.content, ← length, List.drop_left]
  · dsimp only
    omega

theorem chunk {name : Bytes} {size : Nat} (left : f.Left (name ++ (leBytes 4 size ++ rest)))
    (length : name.length = 4) (fits : size < 2 ^ 32) (even : rest ≠ [] ∨ f.size % 2 = 0) :
    ∃ f' : Riff, f.chunk = some (⟨name, size, 0⟩, f') ∧ f'.Left rest ∧ f'.size = f.size := by
  obtain ⟨f₁, first, left, same⟩ := left.read length (by decide) (.inl (by simp [leBytes]))
  obtain ⟨f₂, second, left, same'⟩ := left.read (length_leBytes 4 size) (by decide) (same ▸ even)
  have value : readLE (leBytes 4 size) = size := readLE_leBytes fits
  refine ⟨f₂, ?_, left, same'.trans same⟩
  simp only [Riff.chunk, first, second, length, length_leBytes, Nat.lt_irrefl, if_false, value]

theorem readFmt {p : Params}
    (left : f.Left (leBytes 2 1 ++ leBytes 2 p.channels ++ leBytes 4 p.frameRate ++
      leBytes 4 (p.channels * p.frameRate * p.sampleWidth) ++ leBytes 2 p.frameSize ++
      (leBytes 2 (p.sampleWidth * 8) ++ rest)))
    (more : rest ≠ []) (channels : 0 < p.channels) (width : 0 < p.sampleWidth) (narrow : p.sampleWidth ≤ 4)
    {length : Nat} (packs : p.Packs length) :
    ∃ (c : Chunk) (f' : Riff), Wave.readFmt ⟨fmtId, 16, 0⟩ f =
        .ok (⟨p.channels, p.sampleWidth, p.frameRate, "NONE", "not compressed"⟩, c, f') ∧
      c.skip f' = .ok f' ∧ f'.Left rest ∧ f'.size = f.size := by
  obtain ⟨head, whole⟩ : ∃ head, head = leBytes 2 1 ++ leBytes 2 p.channels ++ leBytes 4 p.frameRate ++
      leBytes 4 (p.channels * p.frameRate * p.sampleWidth) ++ leBytes 2 p.frameSize := ⟨_, rfl⟩
  rw [← whole] at left
  have length : head.length = 14 := by simp [whole]
  have tagAt : head.take 2 = leBytes 2 1 := by simp [whole]
  have channelsAt : (head.drop 2).take 2 = leBytes 2 p.channels := by simp [whole]
  have rateAt : (head.drop 4).take 4 = leBytes 4 p.frameRate := by
    simp [whole, List.take_append, List.drop_append]
  obtain ⟨f₁, first, left, same⟩ := left.read length (by decide) (.inl (by simp [leBytes]))
  obtain ⟨f₂, second, left, same'⟩ := left.read (length_leBytes 2 (p.sampleWidth * 8)) (by decide) (.inl more)
  have tag : readLE (leBytes 2 1) = 1 := rfl
  have channels' : readLE (leBytes 2 p.channels) = p.channels := readLE_leBytes packs.1
  have rate : readLE (leBytes 4 p.frameRate) = p.frameRate := readLE_leBytes packs.2.1
  have bits : readLE (leBytes 2 (p.sampleWidth * 8)) = p.sampleWidth * 8 :=
    readLE_leBytes (show p.sampleWidth * 8 < 256 ^ 2 by omega)
  have bytes : (p.sampleWidth * 8 + 7) / 8 = p.sampleWidth := by omega
  have room := left.size
  refine ⟨⟨fmtId, 16, 16⟩, f₂, ?_, ?_, left, same'.trans same⟩
  · have reads : Wave.readFmt ⟨fmtId, 16, 0⟩ f = if p.sampleWidth = 0 then .error (.error "bad sample width")
        else if p.channels = 0 then .error (.error "bad # of channels")
        else .ok (⟨p.channels, p.sampleWidth, p.frameRate, "NONE", "not compressed"⟩, ⟨fmtId, 16, 16⟩, f₂) := by
      simp [Wave.readFmt, Chunk.read, first, second, length, tagAt, channelsAt, rateAt, tag, channels', rate,
        bits, bytes]
    rw [reads, if_neg (by omega), if_neg (by omega)]
  · simp [Chunk.skip]
    omega

end Riff.Left

theorem Chunk.read_fst {c : Chunk} {f : Riff} {n : Nat} (unread : c.sizeRead = 0) (positive : 0 < n)
    (inside : n ≤ c.size) : (c.read f n).1 = (f.read n).1 := by
  unfold Chunk.read
  rw [if_neg (by omega), unread, Nat.sub_zero, Nat.min_eq_left inside]
  dsimp only
  split <;> rfl

/-- What `getparams` of a reader says about a file written with `p`. -/
def Params.stored (p : Params) : Params := ⟨p.channels, p.sampleWidth, p.frameRate, "NONE", "not compressed"⟩

/-- The chunk loop on the body that a writer leaves. -/
theorem readChunks_body {p : Params} {frames : Bytes} {f : Riff}
    (left : f.Left (fmtId ++ (leBytes 4 16 ++ (leBytes 2 1 ++ leBytes 2 p.channels ++ leBytes 4 p.frameRate ++
      leBytes 4 (p.channels * p.frameRate * p.sampleWidth) ++ leBytes 2 p.frameSize ++
      (leBytes 2 (p.sampleWidth * 8) ++ (dataId ++ (leBytes 4 frames.length ++ frames)))))))
    (size : f.size = 36 + frames.length) (channels : 0 < p.channels) (width : 0 < p.sampleWidth)
    (narrow : p.sampleWidth ≤ 4) (packs : p.Packs frames.length) (fuel : Nat) :
    ∃ f', readChunks (fuel + 2) f none =
        .ok ⟨p.stored, frames.length / p.frameSize, ⟨dataId, frames.length, 0⟩, f'⟩ ∧ f'.Left frames := by
  have total := packs.2.2.2.2
  obtain ⟨f₁, fmt, left, size₁⟩ := left.chunk rfl (by decide) (.inl (by simp [leBytes]))
  obtain ⟨c, f₂, params, skip, left, size₂⟩ := left.readFmt (by simp [dataId]) channels width narrow packs
  have even : frames ≠ [] ∨ f₂.size % 2 = 0 := by
    rw [size₂, size₁, size]
    by_cases empty : frames = []
    · exact .inr (by rw [empty]; rfl)
    · exact .inl empty
  obtain ⟨f₃, data, left, -⟩ := left.chunk rfl (by omega) even
  have other : dataId ≠ fmtId := by decide
  refine ⟨f₃, ?_, left⟩
  simp only [readChunks, fmt, if_true, params, bind, Except.bind, skip, data, other, if_false]
  rfl

/-- The reader of a file that was written has its parameters, and the frames that
are whole. -/
theorem openRead_write {p : Params} {parts : List Bytes} {out : Bytes} (written : write p parts = .ok out) :
    ∃ r, openRead out = .ok r ∧ r.params = p.stored ∧
      r.frameCount = parts.flatten.length / p.frameSize ∧
      r.readFrames = parts.flatten.take (parts.flatten.length / p.frameSize * p.frameSize) := by
  obtain ⟨channels, width, narrow, rate, packs, rfl⟩ := write_ok written
  generalize parts.flatten = frames at packs
  have total : 36 + frames.length < 2 ^ 32 := packs.2.2.2.2
  obtain ⟨body, whole⟩ : ∃ body, body = waveId ++ (fmtId ++ (leBytes 4 16 ++ (leBytes 2 1 ++
      leBytes 2 p.channels ++ leBytes 4 p.frameRate ++ leBytes 4 (p.channels * p.frameRate * p.sampleWidth) ++
      leBytes 2 p.frameSize ++ (leBytes 2 (p.sampleWidth * 8) ++ (dataId ++ (leBytes 4 frames.length ++ frames)))))) :=
    ⟨_, rfl⟩
  have file : header p frames.length ++ frames = riffId ++ (leBytes 4 (36 + frames.length) ++ body) := by
    simp only [header, whole, List.append_assoc]
  have length : body.length = 36 + frames.length := by
    simp [whole, waveId, fmtId, dataId]
    omega
  have size : readLE (leBytes 4 (36 + frames.length)) = 36 + frames.length := readLE_leBytes total
  obtain ⟨f, riff⟩ : ∃ f : Riff, f = ⟨body, 36 + frames.length, 0⟩ := ⟨_, rfl⟩
  have left : f.Left body := by
    rw [riff]
    exact ⟨rfl, by simp [length]⟩
  rw [whole] at left
  obtain ⟨f₁, form, left, size₁⟩ := left.read (n := 4) rfl (by decide) (.inl (by simp [fmtId]))
  rw [riff] at size₁ form
  obtain ⟨f₂, chunks, left⟩ := readChunks_body left size₁ channels width narrow packs
    (43 + frames.length)
  have opened : openRead (header p frames.length ++ frames) =
      .ok ⟨p.stored, frames.length / p.frameSize, ⟨dataId, frames.length, 0⟩, f₂⟩ := by
    have enough : (header p frames.length ++ frames).length + 1 = 43 + frames.length + 2 := by
      rw [file]
      simp [length, riffId]
      omega
    have long : ¬(header p frames.length ++ frames).length < 8 := by omega
    have name : (header p frames.length ++ frames).take 4 = riffId := by
      rw [file]
      rfl
    have declared : ((header p frames.length ++ frames).drop 4).take 4 = leBytes 4 (36 + frames.length) := by
      rw [file]
      rfl
    have rest : (header p frames.length ++ frames).drop 8 = body := by
      rw [file]
      rfl
    rw [openRead, if_neg long, if_neg (not_not.2 name), declared, rest, size, enough]
    simp only [form, chunks, ne_eq, not_true_eq_false, if_false]
  refine ⟨_, opened, rfl, rfl, ?_⟩
  by_cases zero : frames.length / p.frameSize = 0
  · simp only [Reader.readFrames, zero, if_true, Nat.zero_mul, List.take_zero]
  · have positive : 0 < frames.length / p.frameSize * p.frameSize :=
      Nat.mul_pos (Nat.pos_of_ne_zero zero) (Nat.mul_pos channels width)
    have inside : frames.length / p.frameSize * p.frameSize ≤ frames.length := Nat.div_mul_le_self _ _
    rw [← left.take positive inside]
    simp only [Reader.readFrames, zero, if_false]
    exact Chunk.read_fst rfl positive inside

/-! ## What a reader has read -/

/-- The cursor has moved by `n` bytes at least. -/
structure Riff.Past (f f' : Riff) (n : Nat) : Prop where
  size : f'.size = f.size
  sizeRead : f.sizeRead + n ≤ f'.sizeRead

/-- Two reads after one another. -/
theorem Riff.Past.trans {f f' f'' : Riff} {n n' : Nat} (first : f.Past f' n) (second : f'.Past f'' n') :
    f.Past f'' (n + n') where
  size := second.size.trans first.size
  sizeRead := by
    have before := first.sizeRead
    have after := second.sizeRead
    omega

theorem Riff.past_read (f : Riff) (n : Nat) : f.Past (f.read n).2 (f.read n).1.length := by
  refine ⟨?_, (f.read_grows n).2⟩
  unfold Riff.read
  split <;> rfl

theorem Chunk.past_read (c : Chunk) (f : Riff) (n : Nat) : f.Past (c.read f n).2.2 (c.read f n).1.length := by
  unfold Chunk.read
  split
  · exact ⟨rfl, Nat.le_refl _⟩
  · have data := f.past_read (min n (c.size - c.sizeRead))
    have pad := (f.read (min n (c.size - c.sizeRead))).2.past_read 1
    dsimp only
    split
    · exact ⟨pad.size.trans data.size, by have := (data.trans pad).sizeRead; dsimp only; omega⟩
    · exact data

theorem Riff.past_chunk {f f' : Riff} {c : Chunk} (next : f.chunk = some (c, f')) : f.Past f' 8 := by
  have first := f.past_read 4
  have second := (f.read 4).2.past_read 4
  unfold Riff.chunk at next
  dsimp only at next
  split at next
  · cases next
  · split at next
    · cases next
    · cases next
      exact ⟨second.size.trans first.size, by have := (first.trans second).sizeRead; omega⟩

theorem Chunk.past_skip {c : Chunk} {f f' : Riff} (skip : c.skip f = .ok f') : f.Past f' 0 := by
  refine ⟨?_, (Chunk.skip_grows skip).2⟩
  unfold Chunk.skip at skip
  dsimp only at skip
  split at skip
  · cases skip
  · cases skip
    rfl

/-- A number is below the bound of its width. -/
theorem readLE_lt (bytes : Bytes) : readLE bytes < 256 ^ bytes.length := by
  induction bytes with
  | nil => decide
  | cons b bytes ih =>
    have low := b.toNat_lt
    rw [readLE, List.length_cons, pow_succ]
    omega

theorem readLE_take_lt (bytes : Bytes) (width : Nat) : readLE (bytes.take width) < 256 ^ width :=
  (readLE_lt _).trans_le (Nat.pow_le_pow_right (by decide) (List.length_take_le width bytes))

/-- Parameters of PCM data, as they are read. -/
structure Params.Pcm (p : Params) : Prop where
  channels : 0 < p.channels
  sampleWidth : 0 < p.sampleWidth
  channelsFit : p.channels < 2 ^ 16
  rateFit : p.frameRate < 2 ^ 32
  stored : p.stored = p

/-- The rate is not zero, and the header has room for the byte rate and the size of a
frame. -/
structure Params.HeaderFits (p : Params) : Prop where
  rate : 0 < p.frameRate
  byteRate : p.channels * p.frameRate * p.sampleWidth < 2 ^ 32
  blockAlign : p.frameSize < 2 ^ 16

theorem Params.Pcm.packs {p : Params} {length : Nat} (pcm : p.Pcm) (header : p.HeaderFits)
    (room : 36 + length < 2 ^ 32) : p.Packs length :=
  ⟨pcm.channelsFit, pcm.rateFit, header.byteRate, header.blockAlign, room⟩

theorem Params.Pcm.frameSize {p : Params} (pcm : p.Pcm) : 0 < p.frameSize :=
  Nat.mul_pos pcm.channels pcm.sampleWidth

/-- When PCM data is written. -/
theorem Params.Pcm.write_eq {p : Params} (pcm : p.Pcm) (rate : 0 < p.frameRate) (parts : List Bytes) :
    write p parts =
      if 4 < p.sampleWidth then .error (.error "sample width not specified")
      else if p.Packs parts.flatten.length then
        .ok (header p parts.flatten.length ++ parts.flatten)
      else .error .pack := by
  have channels := pcm.channels
  have width := pcm.sampleWidth
  have type : p.compType = "NONE" := by rw [← pcm.stored]; rfl
  unfold write
  rw [if_neg (by omega), if_neg (by omega : p.frameRate ≠ 0), if_neg (not_not.2 type)]
  by_cases wide : 4 < p.sampleWidth
  · rw [if_pos (by omega), if_pos wide]
  · rw [if_neg (by omega), if_neg wide]

/-- A format that is read has PCM parameters. -/
theorem readFmt_pcm {c c' : Chunk} {f f' : Riff} {p : Params} (read : readFmt c f = .ok (p, c', f')) :
    p.Pcm ∧ f.Past f' 16 := by
  rcases first : c.read f 14 with ⟨head, c₁, f₁⟩
  rcases second : c₁.read f₁ 2 with ⟨bits, c₂, f₂⟩
  have body := c.past_read f 14
  have rest := c₁.past_read f₁ 2
  rw [first] at body
  rw [second] at rest
  have moved := (body.trans rest).sizeRead
  dsimp only at moved
  simp only [readFmt, first, second] at read
  split at read
  · cases read
  · split at read
    · cases read
    · split at read
      · cases read
      · split at read
        · cases read
        · split at read
          · cases read
          · cases read
            exact ⟨⟨by dsimp only; omega, by dsimp only; omega, readLE_take_lt _ 2, readLE_take_lt _ 4, rfl⟩,
              (body.trans rest).size, by omega⟩

/-- The chunk loop: the parameters come from a chunk of 24 bytes, and the data chunk
has a header after it. -/
theorem readChunks_pcm {fuel : Nat} {f : Riff} {params? : Option Params} {r : Reader} {n : Nat}
    (start : n ≤ f.sizeRead) (known : ∀ p, params? = some p → p.Pcm ∧ n + 24 ≤ f.sizeRead)
    (read : readChunks fuel f params? = .ok r) :
    r.params.Pcm ∧ r.file.size = f.size ∧ n + 32 ≤ r.file.sizeRead := by
  induction fuel generalizing f params? with
  | zero => cases read
  | succ fuel ih =>
    rw [readChunks] at read
    cases next : f.chunk with
    | none =>
      rw [next] at read
      cases read
    | some found =>
      obtain ⟨c, f₁⟩ := found
      have header := Riff.past_chunk next
      have moved := header.sizeRead
      rw [next] at read
      dsimp only at read
      split at read
      · cases fmt : readFmt c f₁ with
        | error failure =>
          rw [fmt] at read
          cases read
        | ok found =>
          obtain ⟨p, c', f₂⟩ := found
          obtain ⟨pcm, body⟩ := readFmt_pcm fmt
          simp only [fmt, bind, Except.bind] at read
          cases skip : c'.skip f₂ with
          | error failure =>
            rw [skip] at read
            cases read
          | ok f₃ =>
            rw [skip] at read
            have skipped := (header.trans body).trans (Chunk.past_skip skip)
            have far := skipped.sizeRead
            obtain ⟨good, size, ends⟩ := ih (by omega)
              (fun q same => by cases same; exact ⟨pcm, by omega⟩) read
            exact ⟨good, size.trans skipped.size, ends⟩
      · split at read
        · cases params? with
          | none => cases read
          | some p =>
            obtain ⟨pcm, far⟩ := known p rfl
            cases read
            exact ⟨pcm, header.size, by dsimp only; omega⟩
        · simp only [bind, Except.bind] at read
          cases skip : c.skip f₁ with
          | error failure =>
            rw [skip] at read
            cases read
          | ok f₂ =>
            rw [skip] at read
            have skipped := header.trans (Chunk.past_skip skip)
            have far := skipped.sizeRead
            obtain ⟨good, size, ends⟩ := ih (by omega)
              (fun q same => ⟨(known q same).1, by have := (known q same).2; omega⟩) read
            exact ⟨good, size.trans skipped.size, ends⟩

/-- A reader has PCM parameters, and its frames fit in a file of their own. -/
theorem openRead_pcm {bytes : Bytes} {r : Reader} (opened : openRead bytes = .ok r) :
    r.params.Pcm ∧ 36 + r.readFrames.length < 2 ^ 32 := by
  unfold openRead at opened
  split at opened
  · cases opened
  · split at opened
    · cases opened
    · dsimp only at opened
      split at opened
      · cases opened
      · rename_i form
        obtain ⟨riff, same⟩ : ∃ riff : Riff,
          riff = ⟨bytes.drop 8, readLE ((bytes.drop 4).take 4), 0⟩ := ⟨_, rfl⟩
        rw [← same] at opened form
        have bound : riff.size < 2 ^ 32 := by
          rw [same]
          exact readLE_take_lt _ 4
        have named := riff.past_read 4
        rw [not_not.1 form] at named
        have moved := named.sizeRead
        obtain ⟨pcm, size, far⟩ := readChunks_pcm (n := 4)
          (by change riff.sizeRead + 4 ≤ _ at moved; omega) (fun p finished => by cases finished) opened
        refine ⟨pcm, ?_⟩
        have room : r.readFrames.length ≤ r.file.size - r.file.sizeRead := by
          unfold Reader.readFrames Chunk.read
          split
          · exact Nat.zero_le _
          · split
            · exact Nat.zero_le _
            · have inside : ∀ n, (r.file.read n).1.length ≤ r.file.size - r.file.sizeRead := by
                intro n
                unfold Riff.read
                split
                · exact Nat.zero_le _
                · simp only [List.length_take]
                  omega
              dsimp only
              split <;> exact inside _
        rw [size, named.size] at room
        omega

end Wave
