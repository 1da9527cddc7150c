import TofNet.DisplayView
import TofNet.InputStream
import TofNet.Recorder

/-!
# Playing a recording

`playbackThread` gives a frame for each request: it makes a frame of two
planes, reads their contents from the file, and goes on by one frame. What it
computes with are `int`s. Where their arithmetic overflows, where a size is
negative and where it is divided by zero, nothing is said of what happens, and
the functions here return `none`.

Two things keep the recording from being played as it is. The details of a
frame are appended to those of the frames before it; and the thread stops going
on two frames from the end of the file, reads the last frame but one from there
on, and so never comes to the end. `step_reads` is what one step does, and
`not_playsBack` what follows from it. The slider takes the header of the file
for a part of its first frame.

A recording is played in a run of rounds, and a run repeats one round. So what
is shown first is what a round does at a place in the file (`AtFrame.step`), and
the induction on the rounds then only has to say where the reader stands
(`AtFrame.play`). The two deviations come in at different places: that the end
is not found is a matter of where the reader stops, and that a frame has too
many planes is a matter of what it takes along.
-/

/-! ## Integers

The operations that the source does with `int`s are done with integers here, and
a result that is no `int` is none at all. The sizes come from a file, and may be
anything. -/

/-- A value as an `int`. -/
def toInt (z : ℤ) : ℤ := z.bmod (2 ^ 32)

/-- The result of an operation on `int`s, where there is one. -/
def checkedInt (z : ℤ) : Option ℤ := if -2 ^ 31 ≤ z ∧ z < 2 ^ 31 then some z else none

/-- A result that is there is the number itself, and in range. -/
theorem checkedInt_eq_some {z y : ℤ} (h : checkedInt z = some y) :
    y = z ∧ -2 ^ 31 ≤ z ∧ z < 2 ^ 31 := by
  unfold checkedInt at h
  split at h
  · next hz => exact ⟨(Option.some.inj h).symm, hz⟩
  · cases h

/-- A length as an `int` is no larger. -/
theorem toInt_le (n : ℕ) : toInt n ≤ n := by
  rw [toInt, Int.bmod_def]
  push_cast
  split <;> omega

/-! ## The file

A recorded frame has its geometry in its type, so that both of its planes have
the size that the header of the file says. The file is that header, of 12 bytes,
and then all the frames. -/

/-- `static_cast<int>(sizeof(uint16_t) * width * height)`. -/
def planeSize (height width : UInt32) : ℤ := toInt (2 * height.toNat * width.toNat)

/-- A frame that is recorded, of that geometry. -/
structure RecordedFrame (height width : UInt32) where
  /-- The bytes of the one plane, … -/
  ir : Bytes
  /-- … and of the other. -/
  depth : Bytes
  /-- The first has two bytes for each pixel, … -/
  ir_length : ir.length = 2 * height.toNat * width.toNat
  /-- … and so has the second. -/
  depth_length : depth.length = 2 * height.toNat * width.toNat

variable {height width : UInt32}

/-- What `recordThread` writes of a frame. -/
def RecordedFrame.encode (f : RecordedFrame height width) : Bytes :=
  f.ir.take (planeSize height width).toNat ++ f.depth.take (planeSize height width).toNat

/-- The file of a recording of those frames; a negative number of bytes cannot
be written. -/
def recordedFile (frames : List (RecordedFrame height width)) : Option Bytes :=
  if 0 ≤ planeSize height width then
    some (Recording.file RecordedFrame.encode
      { height, width, fps := UInt32.ofNat frames.length, delivered := frames, written := frames })
  else none

/-! ## Playback

The round follows `playbackThread`. What it does at the end of the file and what
it does in front of it are two branches, and the position it seeks is computed
from the one before. -/

/-- **The recorder, while it plays a file**; `dataDetails` is what
`m_frameDetails` has of them. -/
structure Playback where
  /-- The file. -/
  stream : InputStream UInt8
  /-- `m_currentPBPos`. -/
  currentPBPos : ℤ := 12
  /-- The size of the file, as an `int`. -/
  fileSize : ℤ
  /-- The number of frames, as it is computed from the size. -/
  numberOfFrames : ℤ
  /-- The height in the header of the file, … -/
  height : UInt32
  /-- … and the width. -/
  width : UInt32
  /-- The planes that a frame is given. -/
  dataDetails : List FrameDataDetails := []
  /-- The user has paused the playing. -/
  isPaused : Bool := false
  /-- The end was found. -/
  eofReached : Bool := false

/-- A frame that is played, with all of its planes. -/
structure PlayedFrame where
  dataDetails : List FrameDataDetails
  ir : Bytes
  depth : Bytes
  deriving DecidableEq

/-- The number of planes in so many bytes, which are divided by their size. -/
def planesIn (bytes sizeOfFrame : ℤ) : Option ℤ :=
  if sizeOfFrame = 0 then none else checkedInt (bytes.tdiv sizeOfFrame)

/-- **`startPlaybackRaw`**. What a file lacks of its header is zero. -/
def startPlaybackRaw (file : Bytes) : Option Playback := do
  let header := file.take 12 ++ List.replicate 12 0
  let height := get32 0 header
  let width := get32 4 header
  let fileSize := toInt file.length
  let bytes ← checkedInt (fileSize - 12)
  let numberOfFrames ← planesIn bytes (planeSize height width)
  let complete := decide (12 ≤ file.length)
  some {
    stream := { file, pos := min 12 file.length, eof := !complete, fail := !complete }
    fileSize, numberOfFrames, height, width }

/-- Memory that was allocated, with what is read at its front. -/
def filled (fill : ℕ → UInt8) (size : ℕ) (front : Bytes) : Bytes :=
  front ++ (List.range (size - front.length)).map (fun i => fill (front.length + i))

/-- The planes that a step appends. -/
def newPlanes (height width : UInt32) : List FrameDataDetails :=
  [{ type := ascii "depth", width, height }, { type := ascii "ir", width, height }]

namespace Playback

/-- The elements of two bytes that `setDetails` allocates, an `unsigned int`. -/
def allocated (details : List FrameDataDetails) : ℕ :=
  (details.map (fun d => d.height.toNat * d.width.toNat)).sum % 2 ^ 32

/-- So many bytes of either plane are in the allocation; the first is in front
of it, and the second behind that. -/
def fits (s : Playback) (details : List FrameDataDetails) (size : ℕ) : Bool :=
  2 * (s.height.toNat * s.width.toNat % 2 ^ 32) + size ≤ 2 * allocated details
    && size ≤ 2 * allocated details

/-- Playback goes on behind the frame it reads. -/
def goesOn (s : Playback) : Option Bool :=
  if s.isPaused then some false
  else do
    let tail ← checkedInt (planeSize s.height s.width * 4)
    let limit ← checkedInt (s.fileSize - tail)
    some (s.currentPBPos < limit)

/-- The position behind the frame that is read, if playback goes on. -/
def nextPosition (s : Playback) (advance : Bool) : Option ℤ :=
  if advance then checkedInt (s.currentPBPos + planeSize s.height s.width * 2)
  else some s.currentPBPos

/-- **A round of `playbackThread`**, for a request; `fill` is what memory holds
that nothing was written to. -/
def step (fill : ℕ → UInt8) (s : Playback) : Option (PlayedFrame × Playback) :=
  let details := s.dataDetails ++ newPlanes s.height s.width
  let plane := 2 * s.height.toNat * s.width.toNat
  let size := planeSize s.height s.width
  if s.stream.eof then
    if s.fits details plane then
      some ({ dataDetails := details, ir := List.replicate plane 0, depth := filled fill plane [] },
        { s with dataDetails := details, eofReached := true })
    else none
  else if size < 0 then none
  else if s.fits details size.toNat = false then none
  else do
    let advance ← s.goesOn
    let currentPBPos ← s.nextPosition advance
    let (ir, stream) := (s.stream.seek s.currentPBPos).read size.toNat
    let (depth, stream) := stream.read size.toNat
    some ({ dataDetails := details, ir := filled fill plane ir, depth := filled fill plane depth },
      { s with stream, currentPBPos, dataDetails := details })

/-- So many rounds. -/
def play (fill : ℕ → UInt8) : ℕ → Playback → Option (List PlayedFrame × Playback)
  | 0, s => some ([], s)
  | n + 1, s => do
    let (frame, s) ← s.step fill
    let (frames, s) ← play fill n s
    some (frame :: frames, s)

/-- **The slider of the GUI**, moved to a frame. -/
def slideTo (k : ℕ) (s : Playback) : Option Playback := do
  let pixels ← checkedInt (toInt s.height.toNat * toInt s.width.toNat)
  some { s with currentPBPos := toInt (k * pixels * 4) }

end Playback

/-- The frame that is played has exactly one plane of each kind, and their
contents are those of the recorded frame. -/
def RecordedFrame.PlayedAs (f : RecordedFrame height width) (p : PlayedFrame) : Prop :=
  p.dataDetails.Perm (newPlanes height width) ∧ p.ir = f.ir ∧ p.depth = f.depth

/-- **A recording is played as it is**: every frame once and in order, until the
end of the file is found, and the slider finds each of its frames. A frame may
come with its two planes in either order. -/
structure PlaysBack (fill : ℕ → UInt8) (frames : List (RecordedFrame height width)) : Prop where
  /-- Played from its start, it gives each frame once, and its end is
  found. -/
  plays : ∃ file s played s', recordedFile frames = some file ∧ startPlaybackRaw file = some s
    ∧ s.play fill frames.length = some (played, s')
    ∧ List.Forall₂ RecordedFrame.PlayedAs frames played
    ∧ ∃ n rest s'', s'.play fill n = some (rest, s'') ∧ s''.eofReached = true
  /-- The slider finds every frame. -/
  seeks : ∃ file s, recordedFile frames = some file ∧ startPlaybackRaw file = some s
    ∧ ∀ k f, frames[k]? = some f → ∃ s' p s'', s.slideTo k = some s'
      ∧ s'.step fill = some (p, s'') ∧ f.PlayedAs p

/-! ## What a step reads

The place of the reader is a number of frames behind the header. A round moves
it by one frame or leaves it where it is, and which of the two is a comparison
with the end of the file. -/

namespace Playback

variable {fill : ℕ → UInt8} {s s' : Playback} {p : PlayedFrame}

/-- **The reader stands in front of frame `j`** of a file of so many frames,
with planes of that size. -/
structure AtFrame (file : Bytes) (size count j : ℕ) (s : Playback) : Prop where
  /-- Nothing has failed. -/
  good : s.stream.good = true
  /-- It is that file. -/
  contents : s.stream.file = file
  /-- A plane has that size, … -/
  plane : planeSize s.height s.width = size
  /-- … which is not 0. -/
  positive : 0 < size
  /-- The file has a header and so many frames. -/
  length : file.length = 12 + 2 * count * size
  /-- Its size was taken as an `int`. -/
  fileSize : s.fileSize = toInt file.length
  /-- The position is that of frame `j`, … -/
  position : s.currentPBPos = (12 + 2 * j * size : ℕ)
  /-- … which there is. -/
  below : j < count
  /-- The playing is not paused. -/
  running : s.isPaused = false
  /-- The end was not found. -/
  playing : s.eofReached = false

variable {file : Bytes} {size count j : ℕ}

/-- What is in a file of frames at a plane of one of them is there. -/
theorem AtFrame.inFile (hs : s.AtFrame file size count j) :
    12 + 2 * j * size + 2 * size ≤ file.length := by
  have hle : 2 * (j + 1) * size ≤ 2 * count * size :=
    Nat.mul_le_mul_right size (Nat.mul_le_mul_left 2 hs.below)
  rw [hs.length]
  nlinarith

/-- **Playback goes on only with two more frames behind the one it reads.** -/
theorem AtFrame.goesOn (hs : s.AtFrame file size count j) (h : s.goesOn = some true) :
    j + 2 < count := by
  unfold Playback.goesOn at h
  rw [if_neg (by simp [hs.running])] at h
  obtain ⟨tail, htail, h⟩ := Option.bind_eq_some_iff.mp h
  obtain ⟨limit, hlimit, h⟩ := Option.bind_eq_some_iff.mp h
  have htail' := (checkedInt_eq_some htail).1
  have hlimit' := (checkedInt_eq_some hlimit).1
  have hbefore : s.currentPBPos < s.fileSize - planeSize s.height s.width * 4 := by
    rw [← htail', ← hlimit']
    simpa using h
  have hsize := toInt_le file.length
  rw [hs.position, hs.fileSize, hs.plane] at hbefore
  have hmul : 2 * (j + 2) * size < 2 * count * size := by
    have hlength := hs.length
    zify at hlength ⊢
    push_cast at hbefore
    nlinarith
  have := Nat.lt_of_mul_lt_mul_right hmul
  omega

/-- **A step reads the frame that the reader stands in front of**, and goes on
only if two more are behind it. -/
theorem AtFrame.step (hs : s.AtFrame file size count j) (h : s.step fill = some (p, s')) :
    p = { dataDetails := s.dataDetails ++ newPlanes s.height s.width
          ir := filled fill (2 * s.height.toNat * s.width.toNat)
            ((file.drop (12 + 2 * j * size)).take size)
          depth := filled fill (2 * s.height.toNat * s.width.toNat)
            ((file.drop (12 + 2 * j * size + size)).take size) }
      ∧ s'.dataDetails = p.dataDetails
      ∧ (s'.AtFrame file size count j ∨ j + 2 < count ∧ s'.AtFrame file size count (j + 1)) := by
  have hin := hs.inFile
  have hgood := hs.good
  have hplane : (planeSize s.height s.width).toNat = size := by rw [hs.plane, Int.toNat_natCast]
  obtain ⟨heof, hfail⟩ : s.stream.eof = false ∧ s.stream.fail = false := by
    simpa [InputStream.good] using hgood
  unfold Playback.step at h
  dsimp only at h
  rw [heof, if_neg Bool.noConfusion, if_neg (by rw [hs.plane]; omega)] at h
  split at h
  · cases h
  · obtain ⟨advance, hadvance, h⟩ := Option.bind_eq_some_iff.mp h
    obtain ⟨pos, hpos, h⟩ := Option.bind_eq_some_iff.mp h
    -- the two reads
    obtain ⟨hseek, hseekGood⟩ := InputStream.seek_good (s := s.stream) hgood
      (p := s.currentPBPos) (by rw [hs.position]; omega)
    rw [hs.position, Int.toNat_natCast] at hseek
    rw [hs.position, hseek] at hseekGood
    obtain ⟨hir, hirGood⟩ := InputStream.read_good (n := size) hseekGood
      (by rw [hs.contents]; dsimp only; omega)
    rw [hir] at hirGood
    obtain ⟨hdepth, hdepthGood⟩ := InputStream.read_good (n := size) hirGood
      (by rw [hs.contents]; dsimp only; omega)
    rw [hdepth] at hdepthGood
    rw [hplane, hs.position, hseek, hir, hdepth, hs.contents] at h
    obtain ⟨hp, hs'⟩ := Prod.mk.inj (Option.some.inj h)
    refine ⟨hp.symm, by rw [← hp, ← hs'], ?_⟩
    have hat : ∀ i < count, pos = (12 + 2 * i * size : ℕ) → s'.AtFrame file size count i := by
      intro i hi hpos
      rw [← hs']
      exact {
        good := hdepthGood
        contents := rfl
        plane := hs.plane
        positive := hs.positive
        length := hs.length
        fileSize := hs.fileSize
        position := hpos
        below := hi
        running := hs.running
        playing := hs.playing }
    cases advance with
    | false =>
      exact .inl (hat j hs.below ((Option.some.inj hpos).symm.trans hs.position))
    | true =>
      have hmore := hs.goesOn hadvance
      refine .inr ⟨hmore, hat (j + 1) (by omega) ?_⟩
      rw [(checkedInt_eq_some hpos).1, hs.position, hs.plane]
      push_cast
      ring

/-- **Playback never comes to the end of the file**, nor to its last frame if
there is another. -/
theorem AtFrame.play (hs : s.AtFrame file size count j) (n : ℕ) {played : List PlayedFrame}
    (h : s.play fill n = some (played, s')) :
    ∃ i, s'.AtFrame file size count i ∧ (j + 1 < count → i + 1 < count) := by
  induction n generalizing s j played with
  | zero =>
    cases h
    exact ⟨j, hs, id⟩
  | succ n ih =>
    obtain ⟨⟨p, t⟩, hstep, h⟩ := Option.bind_eq_some_iff.mp h
    obtain ⟨⟨rest, t'⟩, hrest, h⟩ := Option.bind_eq_some_iff.mp h
    cases h
    rcases (hs.step hstep).2.2 with ht | ⟨hmore, ht⟩
    · exact ih ht hrest
    · obtain ⟨i, hi, hlast⟩ := ih ht hrest
      exact ⟨i, hi, fun _ => hlast (by omega)⟩

end Playback

/-! ## A recording is not played as it is

A file that was recorded puts the reader in front of its first frame, and from
there on the run lemma applies. The end is not found, however many rounds are
made, and this is enough. -/

/-- The length of what is written of a frame. -/
theorem RecordedFrame.length_encode (f : RecordedFrame height width) {size : ℕ}
    (hsize : planeSize height width = size) : f.encode.length = 2 * size := by
  have hle : size ≤ 2 * height.toNat * width.toNat := by
    have := toInt_le (2 * height.toNat * width.toNat)
    rw [planeSize] at hsize
    zify
    push_cast at this
    linarith
  rw [encode, hsize, Int.toNat_natCast, List.length_append, List.length_take, List.length_take,
    f.ir_length, f.depth_length]
  omega

/-- The length of the file. -/
theorem length_recordedFile {frames : List (RecordedFrame height width)} {file : Bytes} {size : ℕ}
    (h : recordedFile frames = some file) (hsize : planeSize height width = size) :
    file.length = 12 + 2 * frames.length * size := by
  unfold recordedFile at h
  split at h
  · cases h
    have hsum : (frames.flatMap RecordedFrame.encode).length = 2 * frames.length * size := by
      clear * - hsize
      induction frames with
      | nil => simp
      | cons f frames ih =>
        rw [List.flatMap_cons, List.length_append, ih, f.length_encode hsize, List.length_cons]
        ring
    rw [Recording.file, List.length_append, hsum]
    simp [rawHeader]
  · cases h

/-- What is read of the header. -/
theorem header_recordedFile {frames : List (RecordedFrame height width)} {file : Bytes}
    (h : recordedFile frames = some file) :
    12 ≤ file.length ∧ ∀ rest, get32 0 (file.take 12 ++ rest) = height
      ∧ get32 4 (file.take 12 ++ rest) = width := by
  unfold recordedFile at h
  split at h
  · cases h
    have hlength : (rawHeader height width (UInt32.ofNat frames.length)).length = 12 := by
      simp [rawHeader]
    refine ⟨by rw [Recording.file, List.length_append, hlength]; omega, fun rest => ?_⟩
    rw [Recording.file, List.take_left' hlength]
    simp [rawHeader, List.append_assoc]
  · cases h

/-- **Where playback starts**: in front of the first frame. -/
theorem atFrame_of_start {frames : List (RecordedFrame height width)} {file : Bytes} {s : Playback}
    (hne : frames ≠ []) (hfile : recordedFile frames = some file)
    (hstart : startPlaybackRaw file = some s) :
    ∃ size, s.AtFrame file size frames.length 0 ∧ s.height = height ∧ s.width = width
      ∧ s.dataDetails = [] := by
  obtain ⟨hlength, hheader⟩ := header_recordedFile hfile
  obtain ⟨hheight, hwidth⟩ := hheader (List.replicate 12 0)
  have hnonneg : 0 ≤ planeSize height width := by
    by_contra hneg
    rw [recordedFile, if_neg hneg] at hfile
    cases hfile
  obtain ⟨size, hsize⟩ := Int.eq_ofNat_of_zero_le hnonneg
  unfold startPlaybackRaw at hstart
  dsimp only at hstart
  rw [hheight, hwidth] at hstart
  obtain ⟨bytes, -, hstart⟩ := Option.bind_eq_some_iff.mp hstart
  obtain ⟨number, hnumber, hstart⟩ := Option.bind_eq_some_iff.mp hstart
  have hne0 : planeSize height width ≠ 0 := by
    intro hzero
    rw [planesIn, if_pos hzero] at hnumber
    cases hnumber
  cases hstart
  refine ⟨size, ?_, rfl, rfl, rfl⟩
  exact {
    good := by simp [InputStream.good, hlength]
    contents := rfl
    plane := hsize
    positive := Nat.pos_of_ne_zero (fun h => hne0 (by rw [hsize, h]; rfl))
    length := length_recordedFile hfile hsize
    fileSize := by dsimp only
    position := by simp
    below := List.length_pos_iff.mpr hne
    running := rfl
    playing := rfl }

/-- **No recording is played as it is**, since the end of its file is never
found.

The recording is any list of frames of one geometry, of any contents, and `fill`
is what the bytes of a new frame are before they are read. Each round is shown
to read a whole frame at a place of the file that is never its end; so the
stream never has its end flag set, and `eofReached` stays false however often a
frame is asked for. -/
theorem not_playsBack (fill : ℕ → UInt8) (frames : List (RecordedFrame height width))
    (hne : frames ≠ []) : ¬ PlaysBack fill frames := by
  rintro ⟨⟨file, s, played, s', hfile, hstart, hplay, -, n, rest, s'', hrest, heof⟩, -⟩
  obtain ⟨size, hat, -⟩ := atFrame_of_start hne hfile hstart
  obtain ⟨i, hat', -⟩ := hat.play _ hplay
  obtain ⟨i', hat'', -⟩ := hat'.play _ hrest
  rw [hat''.playing] at heof
  cases heof

/-- A frame of one pixel. -/
def onePixel (ir depth : UInt8) : RecordedFrame 1 1 where
  ir := [ir, 0]
  depth := [depth, 0]
  ir_length := rfl
  depth_length := rfl

/-- A recording of one frame, of one pixel, is not either. -/
theorem not_playsBack_one_frame : ¬ PlaysBack (fun _ => 0) [onePixel 1 2] :=
  not_playsBack (fun _ => 0) [onePixel 1 2] (by simp)

/-- **The second of two frames** comes with four planes. -/
theorem not_playsBack_two_frames :
    ¬ ∀ frames : List (RecordedFrame 1 1), frames ≠ [] → PlaysBack (fun _ => 0) frames := by
  intro h
  obtain ⟨file, s, played, s', hfile, hstart, hplay, hplayed, -⟩ :=
    (h [onePixel 1 2, onePixel 3 4] (by simp)).plays
  have hexec : (((recordedFile [onePixel 1 2, onePixel 3 4]).bind startPlaybackRaw).bind
      (Playback.play (fun _ => 0) 2)).map (fun r => r.1.map (fun p => p.dataDetails.length))
        = some [2, 4] := by decide +kernel
  rw [hfile, Option.bind_some, hstart, Option.bind_some,
    show Playback.play (fun _ => 0) 2 s = some (played, s') from hplay] at hexec
  have hlengths : played.map (fun p => p.dataDetails.length) = [2, 4] := Option.some.inj hexec
  cases hplayed with
  | cons _ hrest =>
    cases hrest with
    | cons hsecond _ =>
      have hperm := hsecond.1.length_eq
      simp only [List.map_cons, List.cons.injEq] at hlengths
      rw [hlengths.2.1] at hperm
      cases hperm

-- the slider, moved to the second of two frames, stands 12 bytes in front of it
example : (((recordedFile [onePixel 1 2, onePixel 3 4]).bind startPlaybackRaw).bind
    (Playback.slideTo 1)).map (fun s => s.currentPBPos) = some 4 := by decide +kernel
