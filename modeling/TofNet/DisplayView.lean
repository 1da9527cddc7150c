import TofNet.Protocol
import TofNet.Transition
import Mathlib.Data.Fintype.Pi
import Mathlib.Data.Finset.Filter

/-!
# The viewer's image workers

The GUI shows a frame with the help of three threads, one for each kind of
plane. It takes the frame, decides under `m_frameCapturedMutex` which of the
workers it needs, wakes them, and waits under `m_imshowMutex` until as many
have arrived at `m_waitKeyBarrier` as it has counted.

The threads move in turn here, one access at a time where others can come
between. Only the kinds of the planes decide whom the GUI counts, while a
worker also looks at the size of its plane, and that through the fields
`frameHeight` and `frameWidth`, which the three of them share.

The three workers run one program, with different planes and a few differences
in what they initialise, and so `displayImage` is one function of the worker.
The names of the source are kept for its three cases.
-/

/-! ## Frames

Of a frame only its details matter, and whether there is data of a type. A frame
may have details with a width or a height of 0, and data all the same; nothing
in the SDK excludes it. -/

/-- **`aditof::FrameDataDetails`**, without the sizes of its elements. -/
structure FrameDataDetails where
  /-- The name of the plane. -/
  type : Bytes
  /-- Its width, … -/
  width : UInt32
  /-- … and its height. -/
  height : UInt32
  deriving DecidableEq

/-- **`aditof::Frame`**, with what its details say. -/
structure DisplayedFrame where
  width : UInt32
  height : UInt32
  dataDetails : List FrameDataDetails
  deriving DecidableEq

namespace DisplayedFrame

/-- `frameHasContent`. -/
def hasContent (f : DisplayedFrame) (type : Bytes) : Bool :=
  f.dataDetails.any (fun d => d.type = type)

/-- `FrameImpl::getDataDetails`, which leaves the details alone if there are
none of the type. -/
def getDataDetails (f : DisplayedFrame) (type : Bytes) (details : FrameDataDetails) :
    FrameDataDetails :=
  (f.dataDetails.find? (fun d => d.type = type)).getD details

end DisplayedFrame

/-! ## The threads

A thread is at a place in its program where it is about to do something that
others can see: lock, unlock, read or write a shared field, wait, or notify.
What lies between two such places is done in one step. The histories by which
the property is stated are written in these steps and read in none. -/

/-- The image workers, `m_irImageWorker`, `m_depthImageWorker` and
`m_pointCloudImageWorker`. -/
inductive ImageWorker
  | ir
  | depth
  | pointCloud
  deriving DecidableEq

instance : Fintype ImageWorker where
  elems := {.ir, .depth, .pointCloud}
  complete w := by cases w <;> decide

/-- The type of the planes a worker shows. -/
def ImageWorker.content : ImageWorker → Bytes
  | ir => ascii "ir"
  | depth => ascii "depth"
  | pointCloud => ascii "xyz"

/-- The threads that meet at the barrier. -/
inductive DisplayThread
  | gui
  | worker (w : ImageWorker)
  deriving DecidableEq

/-- Where the GUI is in `synchronizeDepthIRVideo` or
`synchronizePointCloudVideo`. -/
inductive DisplayGui
  | idle
  /-- About to lock `m_frameCapturedMutex`. -/
  | lock (available : ImageWorker → Bool)
  | publish (available : ImageWorker → Bool)
  | unlock
  /-- About to notify `m_frameCapturedCv`. -/
  | notify
  /-- About to lock `m_imshowMutex`, first or in waking up. -/
  | barrier
  | test
  /-- Waiting for `m_barrierCv`. -/
  | blocked
  deriving DecidableEq

/-- Where a worker is in its loop. -/
inductive DisplayPhase
  | top
  /-- About to lock `m_frameCapturedMutex`, first or in waking up. -/
  | lock
  | test
  /-- Waiting for `m_frameCapturedCv`. -/
  | blocked
  | take
  | getData
  | getDetails
  | setHeight (details : FrameDataDetails)
  | setWidth (details : FrameDataDetails)
  | testHeight
  | testWidth
  | testData
  | process
  /-- About to lock `m_imshowMutex`. -/
  | barrier
  | arrive
  /-- About to notify `m_barrierCv`. -/
  | notify
  | ended
  deriving DecidableEq

/-- **A worker**, with the fields of the view that are for it alone. A pointer
into a frame's data is the frame it points into; the history says by `reading`
which of the frames taken that was. -/
structure DisplayWorker where
  /-- Where the worker is. -/
  phase : DisplayPhase := .top
  /-- It has been given a frame. -/
  frameAvailable : Bool := false
  /-- The frame whose planes it reads. -/
  videoData : Option DisplayedFrame := none
  /-- The number of that frame. -/
  reading : ℕ := 0
  deriving DecidableEq

/-- **The view and its threads.** The history counts the frames the GUI has
taken, and notes for which of them a worker was counted, which it has
processed, and for which it has arrived at the barrier. -/
structure ADIView where
  /-- The planes that the user wants to see. -/
  display : ImageWorker → Bool := fun _ => false
  /-- `m_capturedFrame`. -/
  capturedFrame : Option DisplayedFrame := none
  /-- The height that the workers share, … -/
  frameHeight : Int32 := 0
  /-- … and the width. -/
  frameWidth : Int32 := 0
  /-- The number of those that have arrived. -/
  waitKeyBarrier : ℕ := 0
  /-- The number of those that were counted. -/
  numOfThreads : ℕ := 2
  /-- The workers are to end. -/
  stopWorkersFlag : Bool := false
  /-- Who holds the mutex of the frame. -/
  frameCapturedMutex : Option DisplayThread := none
  /-- Who holds the mutex of the barrier. -/
  imshowMutex : Option DisplayThread := none
  /-- Where the GUI is. -/
  gui : DisplayGui := .idle
  /-- Where each worker is. -/
  workers : ImageWorker → DisplayWorker := fun _ => {}
  /-- How many frames the GUI has taken. -/
  frames : ℕ := 0
  /-- The frames that a worker was counted for. -/
  counted : List (ImageWorker × ℕ) := []
  /-- The frames that a worker has processed. -/
  processed : List (ImageWorker × ℕ) := []
  /-- The frames that a worker has arrived for. -/
  arrived : List (ImageWorker × ℕ) := []

/-- What happens: the GUI shows the frame that `getFrame` returns, with the
windows that are open, or a thread moves on, or wakes up without a reason. -/
inductive DisplayStep
  | synchronizeDepthIRVideo (display : ImageWorker → Bool) (f : DisplayedFrame)
  | synchronizePointCloudVideo (display : ImageWorker → Bool) (f : DisplayedFrame)
  | gui
  | worker (w : ImageWorker)
  | wake (t : DisplayThread)

namespace ADIView

/-- One worker changes. -/
def set (s : ADIView) (w : ImageWorker) (x : DisplayWorker) : ADIView :=
  { s with workers := Function.update s.workers w x }

/-! ## The GUI

Which workers are counted is decided by the windows that are open and by the
kinds of planes in the frame; sizes are not looked at. -/

/-- The workers that have a window and a plane. -/
def available (display : ImageWorker → Bool) (f : DisplayedFrame) (w : ImageWorker) : Bool :=
  display w && f.hasContent w.content

/-- The same in the view of the point cloud, which has no IR window. -/
def availablePointCloud (display : ImageWorker → Bool) (f : DisplayedFrame) (w : ImageWorker) :
    Bool :=
  w ≠ .ir && available display f w

/-- `ADIMainWindow::synchronizeDepthIRVideo`, up to the lock. -/
def synchronizeDepthIRVideo (s : ADIView) (f : DisplayedFrame) : ADIView :=
  { s with
    capturedFrame := some f
    display := available s.display f
    gui := .lock (available s.display f)
    frames := s.frames + 1 }

/-- `ADIMainWindow::synchronizePointCloudVideo`, up to the lock. -/
def synchronizePointCloudVideo (s : ADIView) (f : DisplayedFrame) : ADIView :=
  { s with
    capturedFrame := some f
    display := fun w => if w = .ir then s.display w else available s.display f w
    gui := .lock (availablePointCloud s.display f)
    frames := s.frames + 1 }

/-- The workers the GUI counts. -/
def countThreads (available : ImageWorker → Bool) : ℕ :=
  (available .ir).toNat + (available .depth).toNat + (available .pointCloud).toNat

/-- What the GUI writes for a worker under `m_frameCapturedMutex`. -/
def publishFor (available : Bool) (w : ImageWorker) (x : DisplayWorker) : DisplayWorker :=
  { x with
    frameAvailable := available
    videoData := if w = .pointCloud ∧ available = false then none else x.videoData }

/-- What the GUI writes under `m_frameCapturedMutex`. -/
def publish (s : ADIView) (available : ImageWorker → Bool) (f : DisplayedFrame) : ADIView :=
  { s with
    workers := fun w => publishFor (available w) w (s.workers w)
    numOfThreads := countThreads available
    frameHeight := f.height.toInt32
    frameWidth := f.width.toInt32
    gui := .unlock
    counted := s.counted ++
      ([.ir, .depth, .pointCloud].filter available).map (fun w => (w, s.frames)) }

/-- A waiting worker is woken. -/
def wakeWorker (x : DisplayWorker) : DisplayWorker :=
  { x with phase := if x.phase = .blocked then .lock else x.phase }

/-- `m_frameCapturedCv.notify_all`. -/
def notifyAll (s : ADIView) : ADIView :=
  { s with workers := fun w => wakeWorker (s.workers w) }

/-- `m_barrierCv.notify_one`, for which the GUI alone waits. -/
def notifyOne (s : ADIView) : ADIView :=
  { s with gui := if s.gui = .blocked then .barrier else s.gui }

/-- The GUI's next step; both routines go on alike. -/
def guiStep (s : ADIView) : Option ADIView :=
  match s.gui with
  | .idle => none
  | .lock available =>
    if s.frameCapturedMutex = none then
      some { s with frameCapturedMutex := some .gui, gui := .publish available }
    else none
  | .publish available => s.capturedFrame.map (fun f => s.publish available f)
  | .unlock =>
    some { s with
      frameCapturedMutex := none
      gui := if s.numOfThreads = 0 then .idle else .notify }
  | .notify => some { s.notifyAll with gui := .barrier }
  | .barrier =>
    if s.imshowMutex = none then some { s with imshowMutex := some .gui, gui := .test } else none
  | .test =>
    if s.waitKeyBarrier = s.numOfThreads then
      some { s with waitKeyBarrier := 0, imshowMutex := none, gui := .idle }
    else some { s with imshowMutex := none, gui := .blocked }
  | .blocked => none

/-! ## The workers

A worker waits for its flag, takes the frame, looks at the details of its plane,
and puts the sizes into `frameHeight` and `frameWidth`. If one of these is not
positive, or if there is no data, it goes round its loop and does not come to
the barrier. -/

/-- The details a worker starts from: those of the depth worker are not
initialised. -/
def localDetails (garbage : FrameDataDetails) : ImageWorker → FrameDataDetails
  | .depth => garbage
  | _ => { type := [], width := 0, height := 0 }

/-- A worker's next step. -/
def displayImage (garbage : FrameDataDetails) (w : ImageWorker) (s : ADIView) : Option ADIView :=
  let x := s.workers w
  match x.phase with
  | .top => some (s.set w { x with phase := if s.stopWorkersFlag then .ended else .lock })
  | .lock =>
    if s.frameCapturedMutex = none then
      some { s.set w { x with phase := .test } with frameCapturedMutex := some (.worker w) }
    else none
  | .test =>
    if x.frameAvailable || s.stopWorkersFlag then some (s.set w { x with phase := .take })
    else some { s.set w { x with phase := .blocked } with frameCapturedMutex := none }
  | .blocked => none
  | .take =>
    if s.stopWorkersFlag then
      some { s.set w { x with phase := .ended } with frameCapturedMutex := none }
    else
      -- without a frame the worker goes round its loop, and unlocks in doing so
      some { s.set w { x with
          phase := if s.capturedFrame = none then .top else .getData
          frameAvailable := false } with
        frameCapturedMutex := none }
  | .getData =>
    s.capturedFrame.map (fun f => s.set w { x with
      phase := .getDetails
      videoData := if f.hasContent w.content then some f else x.videoData
      reading := s.frames })
  | .getDetails =>
    s.capturedFrame.map (fun f => s.set w { x with
      phase := .setHeight (f.getDataDetails w.content (localDetails garbage w)) })
  | .setHeight d =>
    some { s.set w { x with phase := .setWidth d } with frameHeight := d.height.toInt32 }
  | .setWidth d =>
    some { s.set w { x with phase := .testHeight } with frameWidth := d.width.toInt32 }
  -- the ways round the loop that pass the barrier by
  | .testHeight =>
    some (s.set w { x with phase := if s.frameHeight ≤ 0 then .top else .testWidth })
  | .testWidth =>
    some (s.set w { x with phase := if s.frameWidth ≤ 0 then .top else .testData })
  | .testData =>
    some (s.set w { x with phase := if x.videoData = none then .top else .process })
  | .process =>
    some { s.set w { x with phase := .barrier } with
      processed := s.processed ++ [(w, x.reading)] }
  | .barrier =>
    if s.imshowMutex = none then
      some { s.set w { x with phase := .arrive } with imshowMutex := some (.worker w) }
    else none
  | .arrive =>
    some { s.set w { x with
        phase := if s.waitKeyBarrier + 1 = s.numOfThreads then .notify else .top } with
      waitKeyBarrier := s.waitKeyBarrier + 1
      imshowMutex := none
      arrived := s.arrived ++ [(w, x.reading)] }
  | .notify => some (s.notifyOne.set w { x with phase := .top })
  | .ended => none

/-- `ADIView::_displayIrImage`. -/
def displayIrImage (s : ADIView) : Option ADIView :=
  displayImage { type := [], width := 0, height := 0 } .ir s

/-- `ADIView::_displayDepthImage`. -/
def displayDepthImage (garbage : FrameDataDetails) (s : ADIView) : Option ADIView :=
  displayImage garbage .depth s

/-- `ADIView::_displayPointCloudImage`. -/
def displayPointCloudImage (s : ADIView) : Option ADIView :=
  displayImage { type := [], width := 0, height := 0 } .pointCloud s

/-- A thread that waits for a condition wakes up. -/
def wake (s : ADIView) : DisplayThread → Option ADIView
  | .gui => if s.gui = .blocked then some { s with gui := .barrier } else none
  | .worker w =>
    if (s.workers w).phase = .blocked then some (s.set w (wakeWorker (s.workers w))) else none

/-- **One step.** -/
def step (garbage : FrameDataDetails) : Machine ADIView DisplayStep
  | s, .synchronizeDepthIRVideo display f =>
    if s.gui = .idle then some ({ s with display := display }.synchronizeDepthIRVideo f) else none
  | s, .synchronizePointCloudVideo display f =>
    if s.gui = .idle then some ({ s with display := display }.synchronizePointCloudVideo f)
    else none
  | s, .gui => s.guiStep
  | s, .worker .ir => s.displayIrImage
  | s, .worker .depth => s.displayDepthImage garbage
  | s, .worker .pointCloud => s.displayPointCloudImage
  | s, .wake t => s.wake t

end ADIView
