import TofNet.OutputStream
import TofNet.RawFrame
import TofNet.TofiCache

/-!
# Saving frames

The viewer saves the frames it handles in a **session directory**: a
`camera.json` with the frame type, mode and geometry, a file for each plane of
each frame, and a row of `frames.csv` for each frame, which names the files.
A session is opened by the first frame to be saved and closed by the GUI
(`closeProcessedFrameSaveSession`).

The file system may fail at every point. `SaveFaults` says what it answers to
one frame, and what happens is noted in a log of `SaveEvent`s, in its order. A
file is written through a stream and tested before the stream is closed: what
is then still in the stream's buffer can be lost without a word
(`FileWrite.failedAtClose`).

The rows go through one stream that stays open from row to row (`SaveState.csv`),
and nothing tests it at all. It is flushed behind each row. A flush that fails
spoils the stream for the rows that follow, but not the row it was for: that is
in the buffer still, wholly or in part, and reaches the disk when the stream is
closed, if there is room by then. So the bytes of the file are kept one by one,
each with the line it is of (`CsvByte`): a row is in the file when its last byte
is, and may be there in part before.
-/

/-! ## What is saved

Of a frame there is what the rows, the files and `camera.json` take from it.
Whether it is saved depends on the configuration, with defaults that are put in
twice: when it is configured, and once more with each frame. -/

/-- **`ADINetworkToFStream::Config`** with the fields about saving. -/
structure SaveConfig extends ViewerConfig where
  /-- Frames are saved. -/
  saveProcessedFrames : Bool := false
  /-- The planes that are. -/
  saveProcessedPlanes : List Bytes := [ascii "depth", ascii "ir"]
  /-- One frame in so many. -/
  saveProcessedStride : UInt32 := 1
  /-- At most so many, or any number. -/
  saveProcessedMaxFrames : UInt32 := 0
  deriving DecidableEq

/-- The defaults that `configure` puts in, and that saving puts in again. -/
def SaveConfig.withDefaults (c : SaveConfig) : SaveConfig :=
  { c with
    saveProcessedStride := if c.saveProcessedStride = 0 then 1 else c.saveProcessedStride
    saveProcessedPlanes :=
      if c.saveProcessedPlanes = [] then [ascii "depth", ascii "ir"] else c.saveProcessedPlanes }

/-- The planes of a frame. -/
inductive Plane
  | raw
  | depth
  | ir
  | xyz
  deriving DecidableEq

namespace Plane

/-- Its name, in the configuration and of its directory. -/
def name : Plane → Bytes
  | raw => ascii "raw"
  | depth => ascii "depth"
  | ir => ascii "ir"
  | xyz => ascii "xyz"

/-- The extension of its files. -/
def extension : Plane → Bytes
  | raw => ascii "raw"
  | depth => ascii "pgm"
  | ir => ascii "pgm"
  | xyz => ascii "bin"

end Plane

/-- `std::tolower`. -/
def toLower (c : UInt8) : UInt8 := if 65 ≤ c && c ≤ 90 then c + 32 else c

/-- `savePlaneEnabled`. -/
def savePlaneEnabled (config : SaveConfig) (p : Plane) : Bool :=
  config.saveProcessedPlanes.any (fun configured => (trim configured).map toLower = p.name)

/-- `saveAnyTofiPlaneEnabled`. -/
def saveAnyTofiPlaneEnabled (config : SaveConfig) : Bool :=
  savePlaneEnabled config .depth || savePlaneEnabled config .ir || savePlaneEnabled config .xyz

/-- `frameFileName`. -/
def frameFileName (index : ℕ) (extension : Bytes) : Bytes :=
  List.replicate (8 - (decimal index).length) 48 ++ decimal index ++ ascii "." ++ extension

/-- A number is written in digits. -/
theorem isDigit_of_mem_decimal {n : ℕ} {c : UInt8} (h : c ∈ decimal n) : 48 ≤ c ∧ c ≤ 57 := by
  obtain ⟨d, hd, rfl⟩ := List.mem_map.mp h
  have hdigit : d.isDigit = true := by
    refine Nat.isDigit_of_mem_toDigits (b := 10) (n := n) (by decide) (by decide) ?_
    rw [← Nat.toList_repr]
    exact hd
  have hbounds : 48 ≤ d.toNat ∧ d.toNat ≤ 57 := by
    simpa [Char.isDigit, UInt32.le_iff_toNat_le] using hdigit
  rw [UInt8.le_iff_toNat_le, UInt8.le_iff_toNat_le, UInt8.toNat_ofNat']
  exact ⟨by rw [Nat.mod_eq_of_lt (by omega)]; exact hbounds.1,
    by rw [Nat.mod_eq_of_lt (by omega)]; exact hbounds.2⟩

/-- The path of a plane's file in the session directory. -/
def planePath (p : Plane) (index : ℕ) : Bytes :=
  p.name ++ ascii "/" ++ frameFileName index p.extension

/-- The text of `writePgm16`. -/
def pgm16 (width height : UInt32) (data : List UInt16) : Bytes :=
  ascii "P5\n" ++ decimal width.toNat ++ ascii " " ++ decimal height.toNat ++ ascii "\n65535\n"
    ++ (data.take (width.toNat * height.toNat)).flatMap
      (fun value : UInt16 => [(value >>> 8).toUInt8, value.toUInt8])

/-- What `writeBinaryWords` writes. -/
def binaryWords (count : ℕ) (data : List UInt16) : Bytes := (data.take count).flatMap le16

/-- **The arguments of `saveProcessedFrameSnapshotIfEnabled`**; the dimensions
are those of the frame details. `capture` is no argument: it says of which
capture of the sender's the frame is, which the viewer does not know. -/
structure Snapshot where
  capture : ℕ := 0
  header : DataFramePayloadHeader
  compressedBytes : ℕ
  rawBytes : Option Bytes := none
  width : UInt32
  height : UInt32
  depthData : Option (List UInt16) := none
  irData : Option (List UInt16) := none
  xyzData : Option (List UInt16) := none

namespace Snapshot

/-- What the file of a plane is to hold. -/
def planeData (x : Snapshot) : Plane → Option Bytes
  | .raw => x.rawBytes
  | .depth => x.depthData.map (pgm16 x.width x.height)
  | .ir => x.irData.map (pgm16 x.width x.height)
  | .xyz => x.xyzData.map (binaryWords (x.width.toNat * x.height.toNat * 3))

/-- The planes that are configured and there, in the order they are
written. -/
def writable (x : Snapshot) (config : SaveConfig) : List (Plane × Bytes) :=
  [Plane.raw, .depth, .ir, .xyz].filterMap (fun p =>
    if savePlaneEnabled config p then (x.planeData p).map (fun data => (p, data)) else none)

/-- The frame is one of those to be saved. -/
def wanted (x : Snapshot) (config : SaveConfig) : Bool :=
  config.saveProcessedFrames
    && !(0 < x.header.frameId && (x.header.frameId - 1) % config.saveProcessedStride.toUInt64 ≠ 0)
    && x.width ≠ 0 && x.height ≠ 0
    && !(x.writable config).isEmpty

end Snapshot

/-- **The format of a frame**, and its capture, which is written nowhere. -/
structure FrameFormat where
  capture : ℕ
  frameType : Bytes
  mode : UInt16
  width : UInt32
  height : UInt32
  deriving DecidableEq

/-- **A row of `frames.csv`**, without the clock of the viewer and the ratio
of valid depths. -/
structure SaveRow extends FrameFormat where
  saveIndex : ℕ
  frameId : UInt64
  timestampNs : UInt64
  rawWidth : UInt32
  rawHeight : UInt32
  rawBytes : UInt32
  compressedBytes : ℕ
  /-- The planes and their files. -/
  files : List (Plane × Bytes)
  deriving DecidableEq

/-- **`camera.json`**, as far as it is about frames. -/
structure CameraJson extends FrameFormat where
  planes : List Bytes
  deriving DecidableEq

/-- The format that is recorded for a frame. -/
def Snapshot.format (x : Snapshot) (config : SaveConfig) : FrameFormat where
  capture := x.capture
  frameType := makeFrameType x.header config.toViewerConfig
  mode := makeMode x.header config.toViewerConfig
  width := x.width
  height := x.height

/-- The row of a frame. -/
def Snapshot.row (x : Snapshot) (config : SaveConfig) (index : ℕ) : SaveRow where
  toFrameFormat := x.format config
  saveIndex := index
  frameId := x.header.frameId
  timestampNs := x.header.timestampNs
  rawWidth := x.header.rawWidth
  rawHeight := x.header.rawHeight
  rawBytes := x.header.rawBytes
  compressedBytes := x.compressedBytes
  files := (x.writable config).map (fun plane => (plane.1, planePath plane.1 index))

/-- `csvEscape`. -/
def csvEscape (value : Bytes) : Bytes :=
  ascii "\"" ++ value.flatMap (fun c => if c = 34 then ascii "\"\"" else [c]) ++ ascii "\""

/-- A ratio with `std::fixed` and `std::setprecision(6)`, in millionths. -/
def fixed6 (millionths : ℕ) : Bytes :=
  let fraction := decimal (millionths % 1000000)
  decimal (millionths / 1000000) ++ ascii "." ++ List.replicate (6 - fraction.length) 48 ++ fraction

namespace Snapshot

/-- `rawFile`, `depthFile`, `irFile` and `xyzFile`: empty where the plane is not
saved. -/
def planeFile (x : Snapshot) (config : SaveConfig) (index : ℕ) (p : Plane) : Bytes :=
  if savePlaneEnabled config p = true ∧ (x.planeData p).isSome = true then planePath p index else []

/-- **A row of `frames.csv`.** -/
def csvRow (x : Snapshot) (config : SaveConfig) (saveIndex : ℕ) (systemTimeNs : UInt64)
    (validRatio : ℕ) : Bytes :=
  List.intercalate (ascii ",") [
    decimal saveIndex,
    decimal x.header.frameId.toNat,
    decimal x.header.timestampNs.toNat,
    decimal systemTimeNs.toNat,
    decimal (makeMode x.header config.toViewerConfig).toNat,
    csvEscape (makeFrameType x.header config.toViewerConfig),
    decimal x.width.toNat,
    decimal x.height.toNat,
    decimal x.header.rawWidth.toNat,
    decimal x.header.rawHeight.toNat,
    decimal x.header.rawBytes.toNat,
    decimal x.compressedBytes,
    csvEscape (x.planeFile config saveIndex .raw),
    csvEscape (x.planeFile config saveIndex .depth),
    csvEscape (x.planeFile config saveIndex .ir),
    csvEscape (x.planeFile config saveIndex .xyz),
    fixed6 validRatio] ++ ascii "\n"

end Snapshot

/-- What `writeProcessedCameraJsonLocked` writes for it. -/
def Snapshot.cameraJson (x : Snapshot) (config : SaveConfig) : CameraJson where
  toFrameFormat := x.format config
  planes := config.saveProcessedPlanes.map trim

/-! ## The file of the rows

The stream is one of bytes, and each of them knows the line it is of. So a row
that is in the file in part can be told from one that is whole, and one that is
there from one that was given. -/

/-- **A line of `frames.csv`**: its text, and the row it is, if it is not the
line of the names. -/
structure CsvLine where
  /-- The row that it is. -/
  row : Option SaveRow
  /-- Its bytes, … -/
  text : Bytes
  /-- … of which there are some. -/
  ne : text ≠ []
  deriving DecidableEq

/-- **A byte of the file**, by its line and its place in it. -/
structure CsvByte where
  line : CsvLine
  pos : ℕ
  deriving DecidableEq

/-- The row that is complete with the byte. -/
def CsvByte.row? (b : CsvByte) : Option SaveRow :=
  if b.pos + 1 = b.line.text.length then b.line.row else none

/-- The rows of a file, or of a part of it. -/
def csvRows (file : List CsvByte) : List SaveRow := file.filterMap CsvByte.row?

/-- The names of the columns. -/
def csvNames : Bytes :=
  ascii "save_index,source_frame_id,source_timestamp_ns,viewer_time_ns,"
    ++ ascii "mode,frame_type,width,height,raw_width,raw_height,raw_bytes,"
    ++ ascii "compressed_bytes,raw_file,depth_file,ir_file,xyz_file,"
    ++ ascii "valid_depth_ratio\n"

namespace CsvLine

/-- The bytes of a line. -/
def bytes (l : CsvLine) : List CsvByte := (List.range l.text.length).map (CsvByte.mk l)

/-- The first line. -/
def names : CsvLine where
  row := none
  text := csvNames
  ne := by decide +kernel

/-- The line of a frame. -/
def ofSnapshot (x : Snapshot) (config : SaveConfig) (saveIndex : ℕ) (systemTimeNs : UInt64)
    (validRatio : ℕ) : CsvLine where
  row := some (x.row config saveIndex)
  text := x.csvRow config saveIndex systemTimeNs validRatio
  ne := List.append_ne_nil_of_right_ne_nil _ (by decide +kernel)

end CsvLine

/-! ## The file system

An answer is given for each call of one frame beforehand. As the calls stop at
the first failure that is seen, some of the answers are never asked for. -/

/-- What becomes of a file that is written through a stream. -/
inductive FileWrite
  | notOpened
  /-- The stream is bad when it is tested. -/
  | failed
  /-- The stream is good when it is tested, and what is left in its buffer is
  lost when it is closed. -/
  | failedAtClose
  | written
  deriving DecidableEq

/-- What the test behind the writing finds. -/
def FileWrite.tested : FileWrite → Bool
  | notOpened => false
  | failed => false
  | failedAtClose => true
  | written => true

/-- **The file system's answers to one frame**, with what its row takes from
elsewhere. -/
structure SaveFaults where
  /-- The directories and `frames.csv` can be made. -/
  creates : Bool := true
  cameraJson : FileWrite := .written
  plane : Plane → FileWrite := fun _ => .written
  /-- The row is put into `frames.csv`, which is flushed. -/
  row : PrintAnswer := {}
  /-- The closing of `frames.csv` behind an exception moves so many bytes. -/
  closing : ℕ := 0
  /-- The clock. -/
  systemTimeNs : UInt64 := 0
  /-- `depthValidRatio`, which is a floating-point number, in millionths. -/
  validRatio : ℕ := 0

/-- **What happens in session directories**, which are numbered. -/
inductive SaveEvent
  | notCreated
  | cameraJson (dir : Option ℕ) (json : CameraJson) (write : FileWrite)
  | planeFile (dir : Option ℕ) (path : Bytes) (data : Bytes) (write : FileWrite)
  /-- A row is put into the stream. -/
  | row (dir : Option ℕ) (row : SaveRow) (answer : PrintAnswer)
  /-- A row reaches the disk when the stream is closed behind an exception. -/
  | lateRow (row : SaveRow)
  deriving DecidableEq

/-! ## The session

The functions are those of the source, in its order: the session is opened if
there is none, the planes are written, and the row is put into the stream. An
exception goes to the one handler, which ends the session. -/

/-- **What the viewer keeps of the session**, `dirs` being the number of
directories made, as a new one gets a name that does not exist. -/
structure SaveState where
  /-- A session is open. -/
  active : Bool := false
  /-- An error has ended the saving, up to the next closing. -/
  disabledAfterError : Bool := false
  /-- The rows that were given. -/
  savedFrameCount : ℕ := 0
  /-- The directory of the session, by its number. -/
  sessionDir : Option ℕ := none
  /-- `m_saveFramesCsv`, whose disk is the file of the last session. -/
  csv : OutputStream CsvByte := {}
  /-- How many directories were made. -/
  dirs : ℕ := 0
  /-- What was done to the file system. -/
  log : List SaveEvent := []

namespace SaveState

/-- `closeProcessedFrameSaveSession`, the closing of `frames.csv` moving so many
bytes. -/
def close (moved : ℕ) (s : SaveState) : SaveState :=
  { s with
    csv := s.csv.close moved
    active := false
    disabledAfterError := false
    savedFrameCount := 0
    sessionDir := none }

/-- `ensureProcessedSaveSessionLocked`: what it leaves, and whether it
returned. -/
def ensureSession (config : SaveConfig) (x : Snapshot) (a : SaveFaults) (s : SaveState) :
    SaveState × Bool :=
  if s.active then (s, true)
  else if a.creates = false then ({ s with log := s.log ++ [.notCreated] }, false)
  else
    ({ s with
        active := true
        savedFrameCount := 0
        sessionDir := some s.dirs
        csv := ({} : OutputStream CsvByte).put CsvLine.names.bytes
        dirs := s.dirs + 1
        log := s.log ++ [.cameraJson (some s.dirs) (x.cameraJson config) a.cameraJson] },
      a.cameraJson.tested)

/-- The planes, up to one that throws. -/
def writePlanes (dir : Option ℕ) (index : ℕ) (a : SaveFaults) :
    List (Plane × Bytes) → List SaveEvent × Bool
  | [] => ([], true)
  | (p, data) :: planes =>
    let event : SaveEvent := .planeFile dir (planePath p index) data (a.plane p)
    if (a.plane p).tested then
      let rest := writePlanes dir index a planes
      (event :: rest.1, rest.2)
    else ([event], false)

/-- A frame in an open session: its planes, and its row. A bad stream takes no
row, and the frame counts as saved all the same. -/
def writeFrame (config : SaveConfig) (x : Snapshot) (a : SaveFaults) (s : SaveState) :
    SaveState × Bool :=
  let planes := writePlanes s.sessionDir s.savedFrameCount a (x.writable config)
  if planes.2 = false then ({ s with log := s.log ++ planes.1 }, false)
  else
    let line := CsvLine.ofSnapshot x config s.savedFrameCount a.systemTimeNs a.validRatio
    ({ s with
        savedFrameCount := s.savedFrameCount + 1
        csv := s.csv.print line.bytes a.row
        log := s.log ++ planes.1
          ++ (if s.csv.good then [.row s.sessionDir (x.row config s.savedFrameCount) a.row]
            else []) },
      true)

/-- No frame is saved, as there was an error or there are enough. -/
def full (config : SaveConfig) (s : SaveState) : Bool :=
  s.disabledAfterError || (config.saveProcessedMaxFrames ≠ 0
    && config.saveProcessedMaxFrames.toNat ≤ s.savedFrameCount)

/-- There is room as long as no error has ended the saving, and the limit, if there
is one, is not reached. -/
theorem full_eq_false_iff {config : SaveConfig} {s : SaveState} :
    s.full config = false ↔ s.disabledAfterError = false
      ∧ (config.saveProcessedMaxFrames ≠ 0 →
        s.savedFrameCount < config.saveProcessedMaxFrames.toNat) := by
  unfold full
  rw [Bool.or_eq_false_iff, Bool.and_eq_false_imp, decide_eq_true_iff, decide_eq_false_iff_not,
    not_le]

/-- What `saveProcessedFrameSnapshotIfEnabled` does under `m_saveMutex`, and
whether nothing was thrown. -/
def saveLocked (config : SaveConfig) (x : Snapshot) (a : SaveFaults) (s : SaveState) :
    SaveState × Bool :=
  if s.full config then (s, true)
  else
    let opened := s.ensureSession config x a
    if opened.2 = false then opened else opened.1.writeFrame config x a

/-- Its handler, which has released the mutex; the closing of `frames.csv` moves
so many bytes. -/
def saveFailed (moved : ℕ) (s : SaveState) : SaveState :=
  { s with
    disabledAfterError := true
    active := false
    csv := s.csv.close moved
    log := s.log ++ (csvRows (s.csv.held.take moved)).map .lateRow }

/-- **`saveProcessedFrameSnapshotIfEnabled`.** -/
def saveSnapshot (config : SaveConfig) (x : Snapshot) (a : SaveFaults) (s : SaveState) :
    SaveState :=
  if x.wanted config.withDefaults then
    let saved := s.saveLocked config.withDefaults x a
    if saved.2 then saved.1 else saved.1.saveFailed a.closing
  else s

end SaveState

/-! ## The three ways to a snapshot

A frame is saved with what TOFI has computed, or with its raw bytes only, where
TOFI is not asked or has failed. On the latter two ways there is a call for the
fallback frame as well, which is told that TOFI has failed and saves nothing. -/

/-- What `computeTofiFrame` has computed. -/
structure TofiOutput where
  width : UInt32
  height : UInt32
  depth : Option (List UInt16)
  ir : Option (List UInt16)
  xyz : Option (List UInt16)

/-- A frame as `handleDataFrame` has decoded it, with what `computeTofiFrame`
makes of it, or does not, and with its capture. -/
structure DecodedFrame where
  capture : ℕ := 0
  header : DataFramePayloadHeader
  compressedBytes : ℕ
  rawBytes : Bytes
  compute : Option TofiOutput

namespace DecodedFrame

/-- The frame with its raw bytes only. -/
def rawSnapshot (f : DecodedFrame) : Snapshot where
  capture := f.capture
  header := f.header
  compressedBytes := f.compressedBytes
  rawBytes := some f.rawBytes
  width := f.header.rawWidth
  height := f.header.rawHeight

/-- The frame with what was computed. -/
def tofiSnapshot (f : DecodedFrame) (out : TofiOutput) : Snapshot where
  capture := f.capture
  header := f.header
  compressedBytes := f.compressedBytes
  rawBytes := some f.rawBytes
  width := out.width
  height := out.height
  depthData := out.depth
  irData := out.ir
  xyzData := out.xyz

/-- `buildFallbackFrame`: the raw words, shown as depth and active
brightness. -/
def fallbackFrame (f : DecodedFrame) : Option Snapshot :=
  let pixels := f.header.rawWidth.toNat * f.header.rawHeight.toNat
  if f.rawBytes.length % 2 ≠ 0 ∨ f.header.rawWidth = 0 ∨ f.header.rawHeight = 0
      ∨ f.rawBytes.length < pixels * 2 then none
  else
    let words := (List.range pixels).map (fun i => get16 (2 * i) f.rawBytes)
    some { f.rawSnapshot with depthData := some words, irData := some words }

/-- The snapshot that is saved. -/
def snapshot (f : DecodedFrame) (config : SaveConfig) : Snapshot :=
  if saveAnyTofiPlaneEnabled config then
    match f.compute with
    | some out => f.tofiSnapshot out
    | none => f.rawSnapshot
  else f.rawSnapshot

end DecodedFrame

namespace SaveState

/-- `saveProcessedFrameIfEnabled`, whose own tests are among those that
`saveProcessedFrameSnapshotIfEnabled` makes again. -/
def saveIfEnabled (config : SaveConfig) (frame : Option Snapshot) (tofiSuccess : Bool)
    (a : SaveFaults) (s : SaveState) : SaveState :=
  match tofiSuccess, frame with
  | true, some x => s.saveSnapshot config x a
  | _, _ => s

/-- **The end of `handleDataFrame`.** A frame that TOFI computes is saved in
`computeTofiFrame`. -/
def saveDataFrame (config : SaveConfig) (f : DecodedFrame) (a : SaveFaults) (s : SaveState) :
    SaveState :=
  if saveAnyTofiPlaneEnabled config then
    match f.compute with
    | some out => s.saveSnapshot config (f.tofiSnapshot out) a
    | none => (s.saveSnapshot config f.rawSnapshot a).saveIfEnabled config f.fallbackFrame false a
  else (s.saveSnapshot config f.rawSnapshot a).saveIfEnabled config f.fallbackFrame false a

/-- **Whatever the way, a frame is saved once.** -/
theorem saveDataFrame_eq (config : SaveConfig) (f : DecodedFrame) (a : SaveFaults)
    (s : SaveState) : s.saveDataFrame config f a = s.saveSnapshot config (f.snapshot config) a := by
  unfold saveDataFrame DecodedFrame.snapshot
  split
  · cases f.compute <;> rfl
  · rfl

end SaveState
