import TofNet.DirectConfig
import TofNet.ModeInfo
import TofNet.VideoQueue

/-!
# The sensor

`Adsd3500Sensor` as the collector's direct path uses it: `open`, `setControl`,
`setFrameType`, `start` and `stop`, over a video device and its sub-device.
What the sensor remembers (`VideoDev`, `m_controls`, `frameType`) and what the
hardware and its driver have been told (`Device`) are kept apart, because a
call that fails half way leaves the two in disagreement.

Every call takes an `Answers`, which says which of its system calls fail. The
source allows for several video devices; the ADSD3500 has one, and so does
this model.

The calls are long sequences of system calls, each of which may fail, and what
is left behind depends on where. For what follows it is enough to know of each
call what it leaves when it succeeds, and what may be left otherwise: the first
as an equation, the second as a state that differs in a few fields.
-/

/-! ## What may fail

A system call is named by its place in the source, with the number of the buffer
where it is made for each of them. So one call of the collector is answered by a
function. -/

/-- The system calls, by where the source makes them. -/
inductive Ioctl
  | openDevice
  | openSubdevice
  | firstOpen
  | setControl (c : Control)
  | setMode
  | freeBuffers
  | setFormat
  | requestBuffers
  | allocate
  | queryBuffer (i : ℕ)
  | mapBuffer (i : ℕ)
  | queueBuffer (i : ℕ)
  | streamOn
  | streamOff
  /-- The `STREAMOFF` of `setFrameType`, where an earlier one has failed. -/
  | streamOffAgain
  /-- Opening the INI file of a frame type. -/
  | openIni
  deriving DecidableEq, Repr

/-- **How the system answers one call of the collector**: which system calls
fail, and how many buffers `REQBUFS` grants – at least one. -/
structure Answers where
  /-- The system calls that fail. -/
  fails : Ioctl → Bool
  /-- The buffers that `REQBUFS` grants. -/
  grant : ℕ := 3

/-- The number of buffers granted. -/
def Answers.buffers (a : Answers) : ℕ := a.grant + 1

/-- How the driver answers the calls that fetch a frame: `select`, and then
`DQBUF`, some of whose errors the source goes on after. -/
inductive Dequeued
  | waitFails
  | hardError
  /-- `EAGAIN` or `EIO`. -/
  | softError
  /-- A buffer with the bytes it has been filled with. -/
  | filled (index : ℕ) (data : Bytes)
  deriving DecidableEq, Repr

/-! ## The state

The device outlives the file that is open on it: a control that was set stays
set when the files are closed and opened again. What is lost is the queue of
buffers. -/

/-- `aditof::DepthSensorFrameType`. -/
structure FrameType where
  type : Bytes
  width : ℕ := 0
  height : ℕ := 0
  deriving DecidableEq

/-- The format of the video node, none at first. -/
inductive PixelFormat
  | unset
  | sbggr8
  | sbggr12
  | srggb8
  deriving DecidableEq, Repr

/-- `VideoDev`. A file that is not open has the descriptor -1. -/
structure VideoDev where
  /-- The device is open. -/
  fd : Bool := false
  /-- The sub-device is open. -/
  sfd : Bool := false
  /-- The buffers that are mapped. -/
  nVideoBuffers : ℕ := 0
  /-- The stream has been turned on. -/
  started : Bool := false
  deriving DecidableEq, Repr

/-- **What the device has been told**: the buffer queue of its open file, and
the mode, the format and the controls, which outlive it. -/
structure Device where
  /-- The buffers, and which of them are queued. -/
  queue : VideoQueue := {}
  /-- The mode, once one was set. -/
  mode : Option UInt8 := none
  /-- The pixel format, with the width and the height. -/
  format : PixelFormat × ℕ × ℕ := (.unset, 0, 0)
  /-- The controls that were set. -/
  control : Control → Option ℕ := fun _ => none

/-- **The sensor.** `controls` is `m_controls`, with "0" where nothing was
set, and `frameType` is `m_implData->frameType.type`. -/
structure Sensor where
  dev : VideoDev := {}
  frameType : Bytes := []
  /-- The controls as the program remembers them. -/
  controls : Control → ℕ := fun _ => 0
  imagerType : ImagerType
  /-- The device was not opened before. -/
  firstRun : Bool := true
  /-- What the device has been told. -/
  device : Device := {}

namespace Sensor

/-- The device's queue replaced. -/
def setQueue (s : Sensor) (q : VideoQueue) : Sensor :=
  { s with device := { s.device with queue := q } }

/-! ## Opening and controls

The first `open` of a sensor does more than the others, and may fail for more. -/

/-- `close` of the two files, which frees the buffers. -/
def close (s : Sensor) : Sensor := s.setQueue {}

/-- `Adsd3500Sensor::open`. It starts from a new `VideoDev`; the first time
it also checks the chip and queries it. -/
def openFiles (a : Answers) (s : Sensor) : Sensor × Status :=
  let s : Sensor := { s with dev := {} }
  if a.fails .openDevice = true then (s, .genericError)
  else
    let s : Sensor := { s with dev := { s.dev with fd := true } }
    if a.fails .openSubdevice = true then (s, .genericError)
    else
      let s : Sensor := { s with dev := { s.dev with sfd := true } }
      if s.firstRun = true ∧ a.fails .firstOpen = true then (s, .genericError)
      else ({ s with firstRun := false }, .ok)

/-- `Adsd3500Sensor::setControl` of one of the mode's controls. The value is
remembered whether or not the device takes it, and the collector ignores the
status. -/
def setControl (a : Answers) (s : Sensor) (c : Control) (value : ℕ) : Sensor :=
  let s : Sensor := { s with controls := Function.update s.controls c value }
  if s.dev.sfd = true ∧ a.fails (.setControl c) = false then
    { s with device :=
        { s.device with control := Function.update s.device.control c (some value) } }
  else s

/-- `setControl` of several controls in turn. -/
def setControls (a : Answers) (s : Sensor) (controls : List (Control × ℕ)) : Sensor :=
  controls.foldl (fun s c => s.setControl a c.1 c.2) s

/-! ## The frame type

`setFrameType` always closes and opens the files, so that the buffers are those
of the new type, and then sets the mode, the format and the buffers. A failure
anywhere leaves what was done before it. -/

/-- `setMode`, through `ModeInfo::convertCameraMode`. -/
def setMode (a : Answers) (table : ModeTable) (mode : Bytes) (s : Sensor) : Sensor × Status :=
  match table.convertCameraMode mode with
  | none => (s, .invalidArgument)
  | some modeIndex =>
    if s.dev.sfd = true ∧ a.fails .setMode = false then
      ({ s with device := { s.device with mode := some modeIndex } }, .ok)
    else (s, .genericError)

/-- The pixel format of a frame type, or `none` where it is unhandled. -/
def pixelFormat (s : Sensor) (type : Bytes) : Option PixelFormat :=
  match s.imagerType with
  | .adsd3100 =>
    if type ∈ [ascii "lr-qnative", ascii "sr-qnative", ascii "lr-mixed", ascii "sr-mixed",
        ascii "qmp"] then some .sbggr8
    else if type ∈ [ascii "lr-native", ascii "sr-native", ascii "mp"] then
      if s.controls .abBits = 6 then some .sbggr8 else some .sbggr12
    else if type = ascii "pcm-native" then some .sbggr12
    else none
  | .adsd3030 =>
    if type ∈ [ascii "sr-native", ascii "lr-native", ascii "sr-qnative", ascii "lr-qnative",
        ascii "vga", ascii "sr-mixed", ascii "lr-mixed"] then some .srggb8
    else if type = ascii "pcm-native" then some .sbggr12
    else none
  | .unknown => some .unset

/-- The size the format is given; 16 bits of active brightness have sizes of
their own. -/
def formatSize (s : Sensor) (type : FrameType) : ℕ × ℕ :=
  if s.imagerType = .adsd3100 ∧ s.controls .abBits = 6 then
    if type.type = ascii "lr-native" ∨ type.type = ascii "mp" then (2048, 3328)
    else if type.type = ascii "sr-native" then (2048, 2560)
    else (type.width, type.height)
  else (type.width, type.height)

/-- The number of buffers that are queried and mapped before one fails. -/
def mapped (a : Answers) (count : ℕ) : ℕ :=
  ((List.range count).takeWhile (fun i =>
    !a.fails (.queryBuffer i) && !a.fails (.mapBuffer i))).length

/-- The end of `setFrameType`: the format and the buffers. The `VideoDev` is
new, so that there is nothing to unmap. -/
def setBuffers (a : Answers) (type : FrameType) (s : Sensor) : Sensor × Status :=
  if type.type ≠ s.frameType ∧ a.fails .freeBuffers = true then (s, .genericError)
  else if type.type = s.frameType ∧ s.dev.nVideoBuffers ≠ 0 then (s, .ok)
  else
    match s.pixelFormat type.type with
    | none => (s, .genericError)
    | some pixelFormat =>
      if a.fails .setFormat = true then (s, .genericError)
      else
        let s := { s with
          device := { s.device with format := (pixelFormat, s.formatSize type) } }
        if a.fails .requestBuffers = true then (s, .genericError)
        else
          match s.device.queue.reqbufs a.buffers with
          | none => (s, .genericError)
          | some queue =>
            let s := s.setQueue queue
            if a.fails .allocate = true then (s, .genericError)
            else
              let s := { s with dev := { s.dev with nVideoBuffers := mapped a a.buffers } }
              if mapped a a.buffers < a.buffers then (s, .genericError)
              else ({ s with frameType := type.type }, .ok)

/-! ## Streaming

To start is to queue all the buffers and to turn the stream on. Between, a frame
is had by taking a buffer from the driver and giving it back. -/

/-- `Adsd3500Sensor::start`. -/
def start (a : Answers) (s : Sensor) : Sensor × Status :=
  if s.dev.started = true then (s, .busy)
  else
    let fails := fun i => !s.dev.fd || a.fails (.queueBuffer i)
    let r := s.device.queue.qbufs fails (List.range s.dev.nVideoBuffers)
    let s := s.setQueue r.1
    if r.2 = false then (s, .genericError)
    else
      match if s.dev.fd = true ∧ a.fails .streamOn = false then s.device.queue.streamOn
          else none with
      | none => (s, .genericError)
      | some queue =>
        ({ s.setQueue queue with dev := { s.dev with started := true } }, .ok)

/-- `Adsd3500Sensor::stop`, given whether its `STREAMOFF` fails. -/
def stop (fails : Bool) (s : Sensor) : Sensor × Status :=
  if s.dev.started = false then (s, .busy)
  else if fails = true then (s, .genericError)
  else
    ({ s.setQueue s.device.queue.streamOff with dev := { s.dev with started := false } }, .ok)

/-- `waitForBuffer`, `dequeueInternalBuffer` and `getInternalBuffer`: the
index of a buffer and its data. After a soft error the buffer record is as it
was cleared. -/
def dequeueInternalBuffer (d : Dequeued) (s : Sensor) : Sensor × Option (ℕ × Bytes) :=
  match d with
  | .waitFails | .hardError => (s, none)
  | .softError => (s, if 0 < s.dev.nVideoBuffers then some (0, []) else none)
  | .filled index data =>
    match s.device.queue.dqbuf index with
    | none => (s, none)
    | some queue =>
      (s.setQueue queue, if index < s.dev.nVideoBuffers then some (index, data) else none)

/-- `enqueueInternalBuffer`. -/
def enqueueInternalBuffer (fails : Bool) (index : ℕ) (s : Sensor) : Option Sensor :=
  if fails = true then none else (s.device.queue.qbuf index).map s.setQueue

/-- `Adsd3500Sensor::setFrameType`. -/
def setFrameType (a : Answers) (table : ModeTable) (type : FrameType) (s : Sensor) :
    Sensor × Status :=
  let s := if s.dev.started = true then (s.stop (a.fails .streamOffAgain)).1 else s
  match s.close.openFiles a with
  | (s, .ok) =>
    match s.setMode a table type.type with
    | (s, .ok) => s.setBuffers a type
    | r => r
  | r => r

/-! ## What the calls change

One lemma for each call says everything it does to the sensor. -/

variable {a : Answers} {table : ModeTable} {type : FrameType} {s s' : Sensor}

/-- A device that can be started: it is open, it has buffers, and all of them
are mapped. -/
def Ready (s : Sensor) : Prop :=
  s.dev.fd = true ∧ 0 < s.device.queue.count ∧ s.device.queue.count ≤ s.dev.nVideoBuffers

/-- The sensor with its stream in another state, which is all that streaming
changes. -/
def withStream (s : Sensor) (started : Bool) (queued : List ℕ) (streaming : Bool) : Sensor :=
  { s with
    dev := { s.dev with started := started }
    device := { s.device with
      queue := { s.device.queue with queued := queued, streaming := streaming } } }

/-- The sensor with its files opened anew and a frame type set. -/
def typed (s : Sensor) (buffers : ℕ) (type : FrameType) (mode : UInt8) (format : PixelFormat) :
    Sensor :=
  { s with
    dev := { fd := true, sfd := true, nVideoBuffers := buffers }
    frameType := type.type
    firstRun := false
    device := { s.device with
      queue := { count := buffers }, mode := some mode, format := (format, s.formatSize type) } }

/-- Files that were opened belong to a new `VideoDev`. -/
theorem openFiles_ok (h : s.openFiles a = (s', .ok)) :
    s' = { s with dev := { fd := true, sfd := true }, firstRun := false } := by
  unfold openFiles at h
  dsimp only at h
  split at h
  · cases h
  split at h
  · cases h
  split at h
  · cases h
  · exact (Prod.mk.inj h).1.symm

/-- However opening the files ends, only they are new. -/
theorem openFiles_frame (a : Answers) (s : Sensor) :
    ∃ fd sfd firstRun,
      (s.openFiles a).1 = { s with dev := { fd := fd, sfd := sfd }, firstRun := firstRun } := by
  unfold openFiles
  dsimp only
  split
  · exact ⟨_, _, _, rfl⟩
  split
  · exact ⟨_, _, _, rfl⟩
  split
  · exact ⟨_, _, _, rfl⟩
  · exact ⟨_, _, _, rfl⟩

/-- A mode that was set is the one of the mode table. -/
theorem setMode_ok {mode : Bytes} (h : s.setMode a table mode = (s', .ok)) :
    ∃ m, table.convertCameraMode mode = some m
      ∧ s' = { s with device := { s.device with mode := some m } } := by
  unfold setMode at h
  split at h
  · cases h
  · next m hm =>
    split at h
    · exact ⟨m, hm, (Prod.mk.inj h).1.symm⟩
    · cases h

/-- Nothing but the mode has changed, however setting it ends. -/
theorem setMode_frame (a : Answers) (table : ModeTable) (mode : Bytes) (s : Sensor) :
    ∃ m, (s.setMode a table mode).1 = { s with device := { s.device with mode := m } } := by
  unfold setMode
  split
  · exact ⟨_, rfl⟩
  split
  · exact ⟨_, rfl⟩
  · exact ⟨_, rfl⟩

/-- Buffers that were set up are all mapped, and have the format of the frame
type. -/
theorem setBuffers_ok (hdev : s.dev.nVideoBuffers = 0) (h : s.setBuffers a type = (s', .ok)) :
    ∃ format, s.pixelFormat type.type = some format
      ∧ s' = { s with
          dev := { s.dev with nVideoBuffers := a.buffers }
          frameType := type.type
          device := { s.device with
            queue := { count := a.buffers }, format := (format, s.formatSize type) } } := by
  unfold setBuffers at h
  split at h
  · cases h
  rw [if_neg (fun hc => hc.2 hdev)] at h
  split at h
  · cases h
  next format hformat =>
    split at h
    · cases h
    dsimp only at h
    split at h
    · cases h
    split at h
    · cases h
    next queue hqueue =>
      split at h
      · cases h
      split at h
      · cases h
      · next hmapped =>
        have hall : mapped a a.buffers = a.buffers := by
          refine Nat.le_antisymm ?_ (Nat.not_lt.mp hmapped)
          exact (List.takeWhile_prefix _).length_le.trans List.length_range.le
        refine ⟨format, hformat, ?_⟩
        rw [← (Prod.mk.inj h).1, hall, VideoQueue.reqbufs_eq_some hqueue]
        rfl

/-- **Buffers that could not be set up**: there are none, or some of them are
not mapped. -/
theorem setBuffers_not_ok {status : Status} (hdev : s.dev.nVideoBuffers = 0)
    (hqueue : s.device.queue = {}) (h : s.setBuffers a type = (s', status))
    (hstatus : status ≠ .ok) :
    ∃ n count format, (count = 0 ∨ n < count)
      ∧ s' = { s with
          dev := { s.dev with nVideoBuffers := n }
          device := { s.device with queue := { count := count }, format := format } } := by
  have hsame : ∀ format, { s with device := { s.device with format := format } } = { s with
      dev := { s.dev with nVideoBuffers := 0 }
      device := { s.device with queue := { count := 0 }, format := format } } := by
    intro format
    obtain ⟨⟨_, _, _, _⟩, _, _, _, _, ⟨_, _, _, _⟩⟩ := s
    cases hdev
    cases hqueue
    rfl
  unfold setBuffers at h
  split at h
  · cases h
    exact ⟨0, 0, _, .inl rfl, hsame s.device.format⟩
  rw [if_neg (fun hc => hc.2 hdev)] at h
  split at h
  · cases h
    exact ⟨0, 0, _, .inl rfl, hsame s.device.format⟩
  split at h
  · cases h
    exact ⟨0, 0, _, .inl rfl, hsame s.device.format⟩
  dsimp only at h
  split at h
  · cases h
    exact ⟨0, 0, _, .inl rfl, hsame _⟩
  split at h
  · next hnone => rw [hqueue] at hnone; cases hnone
  next queue hq =>
    cases VideoQueue.reqbufs_eq_some hq
    split at h
    · cases h
      exact ⟨0, a.buffers, _, .inr (Nat.succ_pos _), by rw [← hdev]; rfl⟩
    split at h
    · next hlt =>
      cases h
      exact ⟨mapped a a.buffers, a.buffers, _, .inr hlt, rfl⟩
    · cases h
      exact absurd rfl hstatus

/-- Stopping first makes no difference to a frame type: the files are closed
and the `VideoDev` is new. -/
theorem setFrameType_eq (a : Answers) (table : ModeTable) (type : FrameType) (s : Sensor) :
    s.setFrameType a table type =
      match s.close.openFiles a with
      | (s, .ok) =>
        match s.setMode a table type.type with
        | (s, .ok) => s.setBuffers a type
        | r => r
      | r => r := by
  have hopen : (if s.dev.started = true then (s.stop (a.fails .streamOffAgain)).1
      else s).close.openFiles a = s.close.openFiles a := by
    split
    · unfold stop
      split
      · rfl
      split
      · rfl
      · rfl
    · rfl
  rw [setFrameType, hopen]

/-- **A frame type that was set**: everything about the device is of that
type. -/
theorem setFrameType_ok (h : s.setFrameType a table type = (s', .ok)) :
    ∃ mode format, table.convertCameraMode type.type = some mode
      ∧ s.pixelFormat type.type = some format ∧ s' = s.typed a.buffers type mode format := by
  rw [setFrameType_eq] at h
  split at h
  · next s₁ hopen =>
    cases openFiles_ok hopen
    split at h
    · next s₂ hmode =>
      obtain ⟨mode, hname, rfl⟩ := setMode_ok hmode
      obtain ⟨format, hformat, rfl⟩ := setBuffers_ok rfl h
      exact ⟨mode, format, hname, hformat, rfl⟩
    · next hne => exact absurd h (hne s')
  · next hne => exact absurd h (hne s')

/-- **A frame type that could not be set** leaves a device without buffers,
or with some that are not mapped, whatever has become of its mode. -/
theorem setFrameType_not_ok {status : Status} (h : s.setFrameType a table type = (s', status))
    (hstatus : status ≠ .ok) :
    ∃ dev firstRun count mode format, dev.started = false
      ∧ (count = 0 ∨ dev.nVideoBuffers < count)
      ∧ s' = { s with
          dev := dev
          firstRun := firstRun
          device := { s.device with
            queue := { count := count }, mode := mode, format := format } } := by
  rw [setFrameType_eq] at h
  split at h
  · next s₁ hopen =>
    cases openFiles_ok hopen
    split at h
    · next s₂ hmode =>
      obtain ⟨mode, -, rfl⟩ := setMode_ok hmode
      obtain ⟨n, count, format, hn, rfl⟩ := setBuffers_not_ok rfl rfl h hstatus
      exact ⟨⟨true, true, n, false⟩, false, count, some mode, format, rfl, hn, rfl⟩
    · obtain ⟨m, hm⟩ := setMode_frame a table type.type
        { s.close with dev := { fd := true, sfd := true }, firstRun := false }
      rw [h] at hm
      exact ⟨⟨true, true, 0, false⟩, false, 0, m, s.device.format, rfl, .inl rfl, hm⟩
  · obtain ⟨fd, sfd, firstRun, hfiles⟩ := openFiles_frame a s.close
    rw [h] at hfiles
    exact ⟨⟨fd, sfd, 0, false⟩, firstRun, 0, s.device.mode, s.device.format, rfl, .inl rfl, hfiles⟩

/-- **A frame type that can be set**: the mode table and the sensor know it,
and none of the system calls fails. -/
structure Accepts (a : Answers) (table : ModeTable) (type : FrameType) (s : Sensor) : Prop where
  /-- The device can be opened, … -/
  openDevice : a.fails .openDevice = false
  /-- … and so can the sub-device. -/
  openSubdevice : a.fails .openSubdevice = false
  /-- The first time, the one more call that there is then succeeds too. -/
  firstOpen : s.firstRun = true → a.fails .firstOpen = false
  /-- The mode table has the frame type. -/
  names : (table.convertCameraMode type.type).isSome = true
  /-- The mode can be set. -/
  setMode : a.fails .setMode = false
  /-- Where the frame type changes, the old buffers can be given up. -/
  freeBuffers : type.type ≠ s.frameType → a.fails .freeBuffers = false
  /-- The imager has a format for the frame type. -/
  pixelFormat : (s.pixelFormat type.type).isSome = true
  /-- The format can be set. -/
  setFormat : a.fails .setFormat = false
  /-- Buffers can be had, … -/
  requestBuffers : a.fails .requestBuffers = false
  /-- … there is memory for the list of them, … -/
  allocate : a.fails .allocate = false
  /-- … and each can be looked up and mapped. -/
  buffers : ∀ i < a.buffers, a.fails (.queryBuffer i) = false ∧ a.fails (.mapBuffer i) = false

/-- Whether there is a pixel format depends on the imager. -/
theorem pixelFormat_isSome_congr (himager : s'.imagerType = s.imagerType) (type : Bytes) :
    (s'.pixelFormat type).isSome = (s.pixelFormat type).isSome := by
  unfold pixelFormat
  rw [himager]
  cases s.imagerType with
  | adsd3100 => simp only [apply_ite Option.isSome, Option.isSome_some, ite_self]
  | adsd3030 => rfl
  | unknown => rfl

/-- The stream and the controls have no part in whether a frame type can be
set. -/
theorem Accepts.congr (hs : s.Accepts a table type) (himager : s'.imagerType = s.imagerType)
    (hfirst : s'.firstRun = s.firstRun) (htype : s'.frameType = s.frameType) :
    s'.Accepts a table type :=
  { hs with
    firstOpen := fun h => hs.firstOpen (hfirst ▸ h)
    freeBuffers := fun h => hs.freeBuffers (htype ▸ h)
    pixelFormat := (pixelFormat_isSome_congr himager _).trans hs.pixelFormat }

/-- All buffers are mapped where no call fails for one of them. -/
theorem mapped_lt_iff (a : Answers) (count : ℕ) :
    mapped a count < count ↔
      ¬ ∀ i < count, a.fails (.queryBuffer i) = false ∧ a.fails (.mapBuffer i) = false := by
  have hle := (List.takeWhile_prefix (l := List.range count)
    (fun i => !a.fails (.queryBuffer i) && !a.fails (.mapBuffer i)))
  have hlen : mapped a count ≤ count := hle.length_le.trans List.length_range.le
  have hall : mapped a count = count ↔
      ∀ i < count, a.fails (.queryBuffer i) = false ∧ a.fails (.mapBuffer i) = false := by
    constructor
    · intro heq
      have hwhole := hle.eq_of_length (heq.trans List.length_range.symm)
      intro i hi
      have hi' := List.takeWhile_eq_self_iff.mp hwhole i (List.mem_range.mpr hi)
      simpa using hi'
    · intro h
      unfold mapped
      rw [List.takeWhile_eq_self_iff.mpr ?_, List.length_range]
      intro i hi
      simpa using h i (List.mem_range.mp hi)
  rw [← hall]
  exact ⟨fun h => h.ne, fun h => Nat.lt_of_le_of_ne hlen h⟩

/-- A check that ends a call with an error. -/
theorem ite_ok_iff {p : Prop} [Decidable p] {r r' : Sensor × Status} (hr : r.2 ≠ .ok) :
    (if p then r else r').2 = .ok ↔ ¬ p ∧ r'.2 = .ok := by
  split
  · next hp => exact ⟨fun h => absurd h hr, fun h => absurd hp h.1⟩
  · next hp => exact ⟨fun h => ⟨hp, h⟩, And.right⟩

/-- When the files are opened. -/
theorem openFiles_status :
    (s.openFiles a).2 = .ok ↔ a.fails .openDevice = false ∧ a.fails .openSubdevice = false
      ∧ (s.firstRun = true → a.fails .firstOpen = false) := by
  unfold openFiles
  dsimp only
  rw [ite_ok_iff Status.noConfusion, ite_ok_iff Status.noConfusion,
    ite_ok_iff Status.noConfusion]
  simp

/-- When the mode is set. -/
theorem setMode_status {mode : Bytes} :
    (s.setMode a table mode).2 = .ok ↔ (table.convertCameraMode mode).isSome = true
      ∧ s.dev.sfd = true ∧ a.fails .setMode = false := by
  unfold setMode
  cases table.convertCameraMode mode with
  | none => simp
  | some m =>
    dsimp only
    split
    · next h => simp [h]
    · next h => simpa using h

/-- When the buffers are set up. -/
theorem setBuffers_status (hdev : s.dev.nVideoBuffers = 0) (hqueue : s.device.queue = {}) :
    (s.setBuffers a type).2 = .ok ↔
      (type.type ≠ s.frameType → a.fails .freeBuffers = false)
        ∧ (s.pixelFormat type.type).isSome = true ∧ a.fails .setFormat = false
        ∧ a.fails .requestBuffers = false ∧ a.fails .allocate = false
        ∧ ∀ i < a.buffers,
          a.fails (.queryBuffer i) = false ∧ a.fails (.mapBuffer i) = false := by
  have hreq : s.device.queue.reqbufs a.buffers = some { count := a.buffers } := by
    rw [hqueue]
    rfl
  unfold setBuffers
  rw [ite_ok_iff Status.noConfusion, if_neg (fun hc => hc.2 hdev)]
  refine and_congr (by simp) ?_
  cases s.pixelFormat type.type with
  | none => simp
  | some format =>
    dsimp only
    rw [ite_ok_iff Status.noConfusion, ite_ok_iff Status.noConfusion, hreq]
    dsimp only
    rw [ite_ok_iff Status.noConfusion, ite_ok_iff Status.noConfusion, mapped_lt_iff, not_not]
    simp

/-- **Exactly these frame types are set.** -/
theorem setFrameType_status :
    (s.setFrameType a table type).2 = .ok ↔ s.Accepts a table type := by
  rw [setFrameType_eq]
  split
  · next s₁ hopen =>
    have hfiles := openFiles_status.mp (congrArg Prod.snd hopen)
    cases openFiles_ok hopen
    split
    · next s₂ hmode =>
      have hset := setMode_status.mp (congrArg Prod.snd hmode)
      obtain ⟨mode, -, rfl⟩ := setMode_ok hmode
      rw [setBuffers_status rfl rfl]
      constructor
      · rintro ⟨hfree, hformat, hset', hreq, halloc, hbufs⟩
        exact ⟨hfiles.1, hfiles.2.1, hfiles.2.2, hset.1, hset.2.2, hfree, hformat, hset', hreq,
          halloc, hbufs⟩
      · intro h
        exact ⟨h.freeBuffers, h.pixelFormat, h.setFormat, h.requestBuffers, h.allocate,
          h.buffers⟩
    · next hne =>
      refine ⟨fun h => (hne _ (Prod.ext rfl h)).elim, fun h => ?_⟩
      exact (hne _ (Prod.ext rfl (setMode_status.mpr ⟨h.names, rfl, h.setMode⟩))).elim
  · next hne =>
    refine ⟨fun h => (hne _ (Prod.ext rfl h)).elim, fun h => ?_⟩
    exact (hne _ (Prod.ext rfl
      (openFiles_status.mpr ⟨h.openDevice, h.openSubdevice, h.firstOpen⟩))).elim

/-- Nothing but the controls changes when they are set. -/
theorem setControls_frame (a : Answers) (s : Sensor) (controls : List (Control × ℕ)) :
    ∃ values control, s.setControls a controls
      = { s with controls := values, device := { s.device with control := control } } := by
  induction controls generalizing s with
  | nil => exact ⟨s.controls, s.device.control, rfl⟩
  | cons c controls ih =>
    have hone : ∃ values control, s.setControl a c.1 c.2
        = { s with controls := values, device := { s.device with control := control } } := by
      unfold setControl
      dsimp only
      split
      · exact ⟨_, _, rfl⟩
      · exact ⟨_, s.device.control, rfl⟩
    obtain ⟨values, control, hone⟩ := hone
    obtain ⟨values', control', hrest⟩ := ih (s.setControl a c.1 c.2)
    refine ⟨values', control', ?_⟩
    show (s.setControl a c.1 c.2).setControls a controls = _
    rw [hrest, hone]

/-- A control that the device takes has the value, and the others keep
theirs. -/
theorem setControl_control (a : Answers) (s : Sensor) (c : Control) (value : ℕ) :
    (s.setControl a c value).device.control =
      if s.dev.sfd = true ∧ a.fails (.setControl c) = false then
        Function.update s.device.control c (some value)
      else s.device.control := by
  unfold setControl
  dsimp only
  split
  · rfl
  · rfl

/-- **A control that the device takes** has the last value that was set, if
there was one. -/
theorem setControls_control (a : Answers) (s : Sensor) (controls : List (Control × ℕ))
    (c : Control) :
    (s.setControls a controls).device.control c =
      if s.dev.sfd = true ∧ a.fails (.setControl c) = false then
        (controlValue controls c).or (s.device.control c)
      else s.device.control c := by
  induction controls using List.reverseRecOn with
  | nil => unfold setControls; split <;> rfl
  | append_singleton controls last ih =>
    obtain ⟨values, control, hframe⟩ := setControls_frame a s controls
    have hsfd : (s.setControls a controls).dev.sfd = s.dev.sfd := by rw [hframe]
    have hstep : s.setControls a (controls ++ [last])
        = (s.setControls a controls).setControl a last.1 last.2 := List.foldl_concat ..
    rw [hstep, setControl_control, hsfd, controlValue, assignAll_append]
    by_cases hc : c = last.1
    · subst hc
      rw [Function.update_self]
      split
      · exact Function.update_self ..
      · next htaken => rw [ih, if_neg htaken]
    · rw [Function.update_of_ne hc, ← controlValue, ← ih]
      split
      · exact Function.update_of_ne hc ..
      · rfl

/-! ## Starting and stopping

Streaming changes the stream and nothing else, whichever way it ends; so there
is one form for what it leaves (`withStream`), and each lemma says with which
values. -/

/-- **A stream that was started**: the device had buffers, and no call
failed. -/
theorem start_ok (h : s.start a = (s', .ok)) :
    s.dev.started = false ∧ s.dev.fd = true ∧ 0 < s.device.queue.count
      ∧ (∀ i < s.dev.nVideoBuffers, a.fails (.queueBuffer i) = false)
      ∧ a.fails .streamOn = false ∧ ∃ queued, s' = s.withStream true queued true := by
  have hq := VideoQueue.qbufs_frame (fun i => !s.dev.fd || a.fails (.queueBuffer i))
    s.device.queue (List.range s.dev.nVideoBuffers)
  unfold start at h
  split at h
  · cases h
  next hstarted =>
    dsimp only at h
    split at h
    · cases h
    next hqueued =>
      have hall := VideoQueue.qbufs_true (Bool.not_eq_false _ ▸ hqueued)
      split at h
      · cases h
      next queue hon =>
        split at hon
        · next hpos =>
          obtain ⟨hcount, rfl⟩ := VideoQueue.streamOn_eq_some hon
          rw [hq] at hcount h
          refine ⟨Bool.not_eq_true _ ▸ hstarted, hpos.1, hcount, fun i hi => ?_, hpos.2, ?_⟩
          · exact (Bool.or_eq_false_iff.mp (hall i (List.mem_range.mpr hi))).2
          · exact ⟨_, (Prod.mk.inj h).1.symm⟩
        · cases hon

/-- A stream that was not started may have been given buffers. -/
theorem start_not_ok {status : Status} (h : s.start a = (s', status)) (hstatus : status ≠ .ok) :
    ∃ queued, s' = s.withStream s.dev.started queued s.device.queue.streaming := by
  have hq := VideoQueue.qbufs_frame (fun i => !s.dev.fd || a.fails (.queueBuffer i))
    s.device.queue (List.range s.dev.nVideoBuffers)
  unfold start at h
  dsimp only at h
  rw [hq] at h
  split at h
  · cases h
    exact ⟨s.device.queue.queued, rfl⟩
  split at h
  · cases h
    exact ⟨_, rfl⟩
  split at h
  · cases h
    exact ⟨_, rfl⟩
  · cases h
    exact absurd rfl hstatus

/-- **A device whose buffers are all free can be started.** -/
theorem start_of_free (hstarted : s.dev.started = false) (hfd : s.dev.fd = true)
    (hcount : 0 < s.device.queue.count) (hmapped : s.dev.nVideoBuffers = s.device.queue.count)
    (hfree : s.device.queue.queued = [])
    (hqueue : ∀ i < s.dev.nVideoBuffers, a.fails (.queueBuffer i) = false)
    (hon : a.fails .streamOn = false) :
    s.start a = (s.withStream true (List.range s.dev.nVideoBuffers).reverse true, .ok) := by
  have hq : s.device.queue.qbufs (fun i => !s.dev.fd || a.fails (.queueBuffer i))
      (List.range s.dev.nVideoBuffers)
      = ({ s.device.queue with
          queued := (List.range s.dev.nVideoBuffers).reverse ++ s.device.queue.queued }, true) := by
    refine VideoQueue.qbufs_ok List.nodup_range (fun i hi => ?_) (fun i hi => ⟨?_, ?_⟩)
    · rw [hfd, hqueue i (List.mem_range.mp hi)]
      rfl
    · exact hmapped ▸ List.mem_range.mp hi
    · rw [hfree]
      exact List.not_mem_nil
  rw [hfree, List.append_nil] at hq
  unfold start
  rw [if_neg (by simp [hstarted])]
  dsimp only
  rw [hq, if_neg Bool.noConfusion]
  unfold setQueue
  dsimp only
  rw [if_pos ⟨hfd, hon⟩]
  unfold VideoQueue.streamOn
  dsimp only
  rw [if_pos hcount]
  rfl

/-- A start whose first buffer cannot be queued changes nothing. -/
theorem start_of_first_fails (hstarted : s.dev.started = false) (hpos : 0 < s.dev.nVideoBuffers)
    (hfirst : a.fails (.queueBuffer 0) = true) : s.start a = (s, .genericError) := by
  obtain ⟨n, hn⟩ := Nat.exists_eq_succ_of_ne_zero hpos.ne'
  unfold start
  rw [if_neg (by simp [hstarted]), hn, List.range_succ_eq_map]
  dsimp only
  rw [VideoQueue.qbufs_of_first (by rw [hfirst, Bool.or_true])]
  rfl

/-- Stopping changes the stream only. -/
theorem stop_frame (fails : Bool) (s : Sensor) :
    ∃ started queued streaming, (s.stop fails).1 = s.withStream started queued streaming := by
  unfold stop
  split
  · exact ⟨s.dev.started, s.device.queue.queued, s.device.queue.streaming, rfl⟩
  split
  · exact ⟨s.dev.started, s.device.queue.queued, s.device.queue.streaming, rfl⟩
  · exact ⟨false, [], false, rfl⟩

/-- Fetching a buffer, and giving it back, changes which are queued. -/
theorem dequeueInternalBuffer_frame (d : Dequeued) (s : Sensor) :
    ∃ queued, (s.dequeueInternalBuffer d).1
      = s.withStream s.dev.started queued s.device.queue.streaming := by
  have hsame : s = s.withStream s.dev.started s.device.queue.queued s.device.queue.streaming := rfl
  cases d with
  | waitFails => exact ⟨_, hsame⟩
  | hardError => exact ⟨_, hsame⟩
  | softError => exact ⟨_, hsame⟩
  | filled index data =>
    unfold dequeueInternalBuffer
    dsimp only
    split
    · exact ⟨_, hsame⟩
    · next queue hq =>
      cases VideoQueue.dqbuf_eq_some hq
      exact ⟨_, rfl⟩

/-- Giving a buffer back changes which are queued. -/
theorem enqueueInternalBuffer_frame {fails : Bool} {index : ℕ}
    (h : s.enqueueInternalBuffer fails index = some s') :
    ∃ queued, s' = s.withStream s.dev.started queued s.device.queue.streaming := by
  unfold enqueueInternalBuffer at h
  split at h
  · cases h
  · obtain ⟨queue, hq, rfl⟩ := Option.map_eq_some_iff.mp h
    cases VideoQueue.qbuf_eq_some hq
    exact ⟨_, rfl⟩

/-- A stream that is on is turned off where the call does not fail. -/
theorem stop_of_started (hstarted : s.dev.started = true) :
    s.stop false = (s.withStream false [] false, .ok) := by
  unfold stop
  rw [if_neg (by simp [hstarted]), if_neg Bool.noConfusion]
  rfl

end Sensor
