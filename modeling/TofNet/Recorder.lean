import TofNet.Protocol
import TofNet.Transition

/-!
# Recording

`ADIToFRecorder` records in a thread of its own. The GUI starts and stops it,
and the thread that captures frames puts them in a queue, from which the
record thread writes them until it has written as many as were asked for, or
is told to stop.

The queue, the counter of frames and the flags live as long as the recorder,
across all of its recordings. `startRecordingRaw` touches neither the queue
nor the counter, `stopRecording` neither, and the record thread resets the
counter only where it finds a frame more than it was to write, which stays in
the queue.

What a recording finds need not hurt it. A frame that is left over does no harm
as long as it is not taken from the queue, and a counter that goes on from the
last recording none as long as the frames of both do not reach the number that
was asked for. To speak of that, the model notes how many frames at the front
of the queue are left over (`ADIToFRecorder.stale`) and where the counter was
when a recording started (`Recording.counter`); the code knows neither.
`recordings_of_run` says when a recording is one of its own.

The record thread takes a step for each of the tests and calls of its loop, as
the flag it reads and the queue it looks at may change between any two of them.
The GUI and the capture thread take steps as well, so that a run is any order of
the three.
-/

/-! ## The recorder

The record thread ends in three ways: it has written as many frames as were
asked for, or it finds that it is to stop, or the file was never opened. Only
the first resets the counter, and none of them empties the queue. -/

/-- The header of a recording. -/
def rawHeader (height width fps : UInt32) : Bytes := le32 height ++ le32 width ++ le32 fps

/-- `framesToRecord`, an `int`, as the `size_t` it is compared as. -/
def framesToRecord (fps : UInt32) : ℕ := ((fps.toNat : ℤ).bmod (2 ^ 32) % 2 ^ 64).toNat

/-- A number below 2^31 is what was asked for. -/
theorem framesToRecord_eq {fps : UInt32} (h : fps.toNat < 2 ^ 31) :
    framesToRecord fps = fps.toNat := by
  unfold framesToRecord
  rw [Int.bmod_eq_of_le (by omega) (by omega)]
  omega

/-- Where the record thread is in its loop. -/
inductive RecordThread (φ : Type)
  /-- `while (!m_recordTreadStop)`. -/
  | test
  | openTest
  | emptyTest
  | limitTest
  | dequeue
  | write (frame : φ)
  | ended

/-- Where the GUI is in `stopRecording`. -/
inductive RecorderGui
  | idle
  | join
  | close
  deriving DecidableEq

/-- **A recording**: what was asked for, where the counter of frames was, the
frames that were delivered while it lasted, and the frames in its file, behind
the header. -/
structure Recording (φ : Type) where
  /-- The height that was asked for, … -/
  height : UInt32
  /-- … the width, … -/
  width : UInt32
  /-- … and the number of frames. -/
  fps : UInt32
  /-- Where the counter was at the start. -/
  counter : ℕ := 0
  /-- The frames delivered while it lasted. -/
  delivered : List φ := []
  /-- The frames in its file. -/
  written : List φ := []

/-- The file, where a frame is written as those bytes. -/
def Recording.file {φ : Type} (encode : φ → Bytes) (r : Recording φ) : Bytes :=
  rawHeader r.height r.width r.fps ++ r.written.flatMap encode

/-- **The recorder and the threads about it.** `thread` is that of
`m_recordThread`, while it is joinable, `recording` the recording whose file
is open, and `capture` a frame that `captureFrames` is about to deliver, having
found recording enabled. `recordings` are those that were closed, and `stale`
is how many frames of the queue are from before the last start. -/
structure ADIToFRecorder (φ : Type) where
  /-- `m_recordQueue`. -/
  recordQueue : List φ := []
  /-- How many of its frames are from before the last start. -/
  stale : ℕ := 0
  /-- `m_frameCtr`. -/
  frameCtr : ℕ := 0
  /-- The number of frames that the thread compares the counter with. -/
  limit : ℕ := 0
  /-- `m_recordTreadStop`. -/
  recordTreadStop : Bool := true
  /-- `m_finishRecording`. -/
  finishRecording : Bool := true
  /-- Where the record thread is. -/
  thread : Option (RecordThread φ) := none
  /-- The recording whose file is open. -/
  recording : Option (Recording φ) := none
  /-- Where the GUI is in a call. -/
  gui : RecorderGui := .idle
  /-- Frames are to be delivered. -/
  isRecording : Bool := false
  /-- A frame that is about to be. -/
  capture : Option φ := none
  /-- The recordings that were closed. -/
  recordings : List (Recording φ) := []

/-- What happens. -/
inductive RecorderStep (φ : Type)
  /-- `startRecordingRaw`; the file may not open. -/
  | start (height width fps : UInt32) (opens : Bool)
  /-- `stopRecording`, the next step of which is `gui`. -/
  | stop
  | gui
  /-- `captureFrames` has a frame, and tests `isRecordingEnabled`. -/
  | offer (frame : φ)
  /-- `recordNewFrame`. -/
  | deliver
  /-- The record thread's next step. -/
  | record

namespace ADIToFRecorder

variable {φ : Type}

/-- **`recordThread`**, the next step of a thread at `p`. -/
def recordAt (s : ADIToFRecorder φ) : RecordThread φ → Option (ADIToFRecorder φ)
  | .test => some { s with thread := some (if s.recordTreadStop then .ended else .openTest) }
  | .openTest => some { s with thread := some (if s.recording.isSome then .emptyTest else .ended) }
  | .emptyTest =>
    some { s with thread := some (if s.recordQueue.isEmpty then .test else .limitTest) }
  | .limitTest =>
    some (if s.limit ≤ s.frameCtr then
        { s with frameCtr := 0, finishRecording := true, thread := some .ended }
      else { s with thread := some .dequeue })
  | .dequeue =>
    match s.recordQueue with
    | [] => none
    | frame :: queue =>
      some { s with
        recordQueue := queue
        stale := s.stale - 1
        thread := some (.write frame) }
  | .write frame =>
    some { s with
      recording := s.recording.map (fun r => { r with written := r.written ++ [frame] })
      frameCtr := s.frameCtr + 1
      thread := some .test }
  | .ended => none

/-- **One step.** The GUI starts no recording while it has one. -/
def step : Machine (ADIToFRecorder φ) (RecorderStep φ)
  | s, .start height width fps opens =>
    if s.gui = .idle ∧ s.isRecording = false then
      some { s with
        recording := if opens then some { height, width, fps, counter := s.frameCtr } else none
        stale := s.recordQueue.length
        limit := framesToRecord fps
        finishRecording := false
        recordTreadStop := false
        thread := some .test
        isRecording := true }
    else none
  | s, .stop =>
    if s.gui = .idle ∧ s.isRecording = true then
      some { s with recordTreadStop := true, gui := .join }
    else none
  | s, .gui =>
    match s.gui, s.thread with
    | .join, some .ended | .join, none => some { s with thread := none, gui := .close }
    | .close, _ =>
      some { s with
        recording := none
        recordings := s.recordings ++ s.recording.toList
        isRecording := false
        gui := .idle }
    | _, _ => none
  | s, .offer frame =>
    if s.capture.isNone then
      some (if s.recordTreadStop then s else { s with capture := some frame })
    else none
  | s, .deliver =>
    match s.capture with
    | some frame =>
      some { s with
        recordQueue := s.recordQueue ++ [frame]
        recording := s.recording.map (fun r => { r with delivered := r.delivered ++ [frame] })
        capture := none }
    | none => none
  | s, .record => s.thread.bind s.recordAt

end ADIToFRecorder
