import TofNet.CaptureState
import TofNet.Listener
import TofNet.WaitGraph

/-!
# The two programs, over channels that fill

The viewer and the collector once more, with all that their threads wait for:
mutexes, each other, and the two directions of the connection, each of which
holds so many messages. A send waits for room, and `recv_message` for a
message.

The collector is that of `Session`, with the mutex of its camera. Of the viewer
there are the statements that lock, send or join, and those that change the
sockets and the flags its loops test; the worker is in such a block of
statements, or between two of them. A connection that the collector has closed
is *stale* until the worker has closed it too. A worker that waits for a
connection waits for none of this.

`Programs.waiting` says for each thread whether it waits, and who could end
it. It is not the case that there is never a deadlock; `Orderly` is the
condition on a step that keeps it out.

The model is larger than what a deadlock would need, since it is the one in
which the programs run: the messages are there, the sockets close, threads end
and begin. What waiting means is then not part of the model but a reading of it.
A thread waits if its next step is one it cannot take, and the reading names
those who could change that. That the two fit is a theorem (`step_of_waiting`):
a thread that is said to wait takes no step by which it would go on.
-/

/-! ## The statements of the viewer

The viewer's functions are sequences of statements, and of each there is kept
what can make a thread wait, or what decides how long another one does. A
function that only computes is gone, and one that locks a mutex is a scope. -/

/-- The mutexes of the viewer. -/
inductive ViewerMutex
  | socket
  | config
  | save
  | tofi
  deriving DecidableEq

/-- **A statement of the viewer.** -/
inductive ViewerAct
  /-- A `std::lock_guard`, and the end of its scope. -/
  | lock (m : ViewerMutex)
  | unlock (m : ViewerMutex)
  /-- `m_clientSocket.send_message`, behind the test of the socket. It ends the
  scope of its lock. -/
  | send (m : Message)
  /-- `m_clientSocket = std::move(accepted)`. -/
  | adopt
  | closeClient
  /-- `m_listenSocket.close()` and `m_clientSocket.close()`. -/
  | closeSockets
  | setStopFlag (stop : Bool)
  | setRunning (running : Bool)
  /-- `start()`: its test, and `m_workerThread = std::thread(...)`. -/
  | startTest
  | spawn
  | join
  deriving DecidableEq

namespace ViewerAct

/-- A scope with a lock. -/
def scope (m : ViewerMutex) (body : List ViewerAct) : List ViewerAct :=
  [.lock m] ++ body ++ [.unlock m]

/-- `closeProcessedFrameSaveSession`, which locks and never waits within. -/
def closeProcessedFrameSaveSession : List ViewerAct := scope .save []

/-- `configure`, and `setFrameType`. -/
def configure : List ViewerAct := scope .config [] ++ closeProcessedFrameSaveSession

/-- `sendStartCaptureCommand`, up to the send. -/
def sendStartCaptureCommand (m : Message) : List ViewerAct :=
  scope .config [] ++ [.lock .socket, .send m]

/-- `sendStopCaptureCommand`, likewise. -/
def sendStopCaptureCommand : List ViewerAct := [.lock .socket, .send stopMessage]

/-- `stop()`. -/
def stop : List ViewerAct :=
  [.setStopFlag true] ++ sendStopCaptureCommand ++ scope .socket [.closeSockets] ++ [.join]
    ++ closeProcessedFrameSaveSession ++ [.setRunning false]

/-! ### The handlers of the worker

What a handler does depends on data that this module does not have: whether a
frame is saved, whether TOFI fails. Each way through a handler is a list of
statements, and any of them may be taken. -/

/-- How far a saving goes: it is off, the session is open or not wanted, or
the session is opened, with its `camera.json`. -/
inductive SavePath
  | off
  | locked
  | opens
  deriving DecidableEq

/-- `saveProcessedFrameSnapshotIfEnabled`. -/
def saveSnapshot : SavePath → List ViewerAct
  | .off => scope .config []
  | .locked => scope .config [] ++ scope .save []
  | .opens => scope .config [] ++ scope .save (scope .tofi [])

/-- How far `computeTofiFrame` gets. -/
inductive ComputeStage
  | unaligned
  | ensureFails
  | computeFails
  | returns
  deriving DecidableEq

/-- `ensureTofi`, by which the library is set up. -/
def ensureTofi : List ViewerAct := scope .config [] ++ scope .tofi []

/-- `computeTofiFrame`, as far as it gets. -/
def computeTofiFrame (save : SavePath) : ComputeStage → List ViewerAct
  | .unaligned => []
  | .ensureFails => scope .config [] ++ ensureTofi
  | .computeFails => scope .config [] ++ ensureTofi ++ scope .tofi []
  | .returns => scope .config [] ++ ensureTofi ++ scope .tofi [] ++ saveSnapshot save

/-- `buildFallbackFrame`, which may drop the frame ahead of the lock. -/
def buildFallbackFrame (dropped : Bool) : List ViewerAct :=
  if dropped then [] else scope .config []

/-- What becomes of a frame. -/
inductive FramePath
  | skipped
  | computed (stage : ComputeStage) (save : SavePath) (dropped : Bool)
  | raw (save : SavePath) (dropped : Bool)
  deriving DecidableEq

/-- `handleDataFrame`. -/
def handleDataFrame : FramePath → List ViewerAct
  | .skipped => scope .config []
  | .computed stage save dropped =>
    scope .config [] ++ computeTofiFrame save stage
      ++ (if stage = .returns then [] else buildFallbackFrame dropped ++ saveSnapshot save)
  | .raw save dropped => scope .config [] ++ saveSnapshot save ++ buildFallbackFrame dropped

/-- `handleCcbFile` and `handleCfgFile`. -/
def handleModuleFile : List ViewerAct := scope .config [] ++ scope .config [] ++ scope .tofi []

def handleDealiasData : List ViewerAct := scope .tofi []

/-- What the worker does with a message. -/
def handle (type : MessageType) (path : FramePath) : List ViewerAct :=
  if type = .dataFrame then handleDataFrame path
  else if type = .ccbFile ∨ type = .cfgFile then handleModuleFile
  else if type = .dealiasData then handleDealiasData
  else []

end ViewerAct

/-- What the GUI calls. -/
inductive ViewerCall
  | start
  | stop
  | configure
  | startRemoteCapture (frameType : Bytes) (mode : UInt16) (requestedFps : UInt32)
  | stopRemoteCapture
  deriving DecidableEq

def ViewerCall.acts : ViewerCall → List ViewerAct
  | .start => [.startTest]
  | .stop => ViewerAct.stop
  | .configure => ViewerAct.configure
  | .startRemoteCapture frameType mode requestedFps =>
    ViewerAct.sendStartCaptureCommand (startMessage frameType mode requestedFps)
  | .stopRemoteCapture => ViewerAct.sendStopCaptureCommand

/-! ## The worker

`workerLoop` is cut at the tests and calls where it can leave one of its loops.
What is between two of them is a block. -/

/-- A block of `workerLoop`. -/
inductive WorkerBlock
  | entry
  /-- Behind `accept_one`. -/
  | publish
  | handle
  /-- Behind the loop over the messages, in the handler of the outer loop, and
  behind that. -/
  | leave
  | caught
  | exit
  deriving DecidableEq

/-- Where the worker is: in a block, or at a test or a call between them. -/
inductive ViewerWorker
  | run (block : WorkerBlock) (todo : List ViewerAct)
  /-- `while (!m_stopFlag.load())`. -/
  | test
  | listen
  | innerTest
  | accept
  /-- `while (!m_stopFlag.load() && m_clientSocket.valid())`. -/
  | loopTest
  | poll
  | recv
  | ended
  deriving DecidableEq

/-- The statements of a block; those of a handler depend on the message. -/
def WorkerBlock.acts : WorkerBlock → List ViewerAct
  | .entry => ViewerAct.scope .config [] ++ [.setRunning true]
  | .publish => ViewerAct.scope .socket [.adopt]
  | .handle => []
  | .leave => ViewerAct.scope .socket [.closeClient]
  | .caught => ViewerAct.scope .socket [.closeSockets]
  | .exit => ViewerAct.scope .socket [.closeSockets] ++ [.setRunning false]

/-- Where a block ends. -/
def WorkerBlock.done : WorkerBlock → ViewerWorker
  | .entry | .caught => .test
  | .publish | .handle => .loopTest
  | .leave => .innerTest
  | .exit => .ended

/-- The beginning of a block. -/
def WorkerBlock.enter (block : WorkerBlock) : ViewerWorker := .run block block.acts

/-- The rest of a block, or what comes after it. -/
def ViewerWorker.resume (block : WorkerBlock) : List ViewerAct → ViewerWorker
  | [] => block.done
  | act :: todo => .run block (act :: todo)

/-- Where the worker is behind a message. -/
def ViewerWorker.afterMessage (m : Message) (path : ViewerAct.FramePath) : ViewerWorker :=
  if m.type = .shutdown then WorkerBlock.leave.enter
  else .resume .handle (ViewerAct.handle m.type path)

/-! ## The state

The connection is seen from both sides. It may be closed on either one first,
and the messages that are on their way then belong to a connection that the
other side still has. -/

/-- What the session is given, and how many messages each direction of the
connection holds. Each has room for one: a message is sent as a whole here, once
there is room for it. -/
structure ChannelArgs extends SessionArgs where
  commandRoom : ℕ
  viewerRoom : ℕ
  commandRoom_pos : 0 < commandRoom
  viewerRoom_pos : 0 < viewerRoom

/-- `m_clientSocket`: closed, the connection to the collector, or one that has
been closed there, with the messages that are left. -/
inductive ClientSocket
  | closed
  | current
  | stale (left : List Message)
  deriving DecidableEq

/-- The collector's connection: none, one that the worker has not accepted yet
or that it has, or one that the viewer has closed. -/
inductive CollectorLink
  | none
  | pending
  | accepted
  | broken
  deriving DecidableEq

/-- The viewer has not closed the connection. -/
def CollectorLink.up : CollectorLink → Bool
  | .pending | .accepted => true
  | .none | .broken => false

/-- **The two programs.** -/
structure Programs extends Collector where
  /-- Who holds `mu_` of the camera. -/
  camera : Option Owner := none
  /-- What the GUI's call has still to do. -/
  gui : List ViewerAct := []
  /-- The thread of `m_workerThread`, while that is joinable. -/
  worker : Option ViewerWorker := none
  /-- `m_stopFlag`. -/
  stopFlag : Bool := false
  /-- `m_running`. -/
  running : Bool := false
  /-- Who holds the mutexes of the viewer. -/
  holder : ViewerMutex → Option ListenerThread := fun _ => none
  /-- The viewer's process has ended. -/
  terminated : Bool := false
  /-- There is a socket to connect to. -/
  listening : Bool := false
  /-- The viewer's end of the connection. -/
  client : ClientSocket := .closed
  /-- The collector's end. -/
  link : CollectorLink := .none
  /-- What is left of a connection that was closed before it was accepted. -/
  stray : List Message := []
  /-- The messages on their way to the collector. -/
  commands : List Message := []
  /-- The messages on their way to the viewer. -/
  toViewer : List Message := []

namespace Programs

/-- Neither program has begun. -/
def initial : Programs := { main := .ended }

/-! ## The steps of the viewer

`viewerAct` does one statement, for either thread. That the worker waits on a
mutex is that its statement has no result. -/

/-- `m_clientSocket.close()`. -/
def closeClient (s : Programs) : Programs :=
  { s with
    client := .closed
    link := if s.client = .current then .broken else s.link }

/-- `m_listenSocket.close()`, which resets a connection not yet accepted. -/
def closeListening (s : Programs) : Programs :=
  { s with
    listening := false
    link := if s.link = .pending then .broken else s.link }

/-- The connection accepted becomes that of the client. -/
def adopt (s : Programs) : Programs :=
  if s.link = .pending then { s.closeClient with client := .current, link := .accepted }
  else { s.closeClient with client := .stale s.stray, stray := [] }

/-- **A statement** that either thread of the viewer may do. -/
def viewerAct (s : Programs) (t : ListenerThread) : ViewerAct → Option Programs
  | .lock m =>
    if s.holder m = none then some { s with holder := Function.update s.holder m (some t) }
    else none
  | .unlock m => some { s with holder := Function.update s.holder m none }
  | .adopt => some s.adopt
  | .closeClient => some s.closeClient
  | .closeSockets => some s.closeListening.closeClient
  | .setStopFlag stop => some { s with stopFlag := stop }
  | .setRunning running => some { s with running := running }
  | .send _ | .startTest | .spawn | .join => none

/-- The viewer is terminated: a `std::thread` has been assigned over a joinable
one. Its sockets are closed with it. -/
def terminate (s : Programs) : Programs :=
  { s.closeListening.closeClient with
    terminated := true, gui := [], worker := none, holder := fun _ => none }

/-- The channel to the collector has room. -/
def commandFits (args : ChannelArgs) (s : Programs) : Bool := s.commands.length < args.commandRoom

/-- The GUI's next statement; `ok` is whether a send goes through. A command
that is sent has the session of the saved frames closed behind it. -/
def guiStep (args : ChannelArgs) (s : Programs) (ok : Bool) : Option Programs :=
  match s.gui with
  | [] => none
  | .send m :: rest =>
    match ok, s.client with
    | false, _ | _, .closed => some { s with gui := .unlock .socket :: rest }
    | true, .current =>
      if s.commandFits args then
        some { s with
          commands := s.commands ++ [m]
          gui := .unlock .socket :: (ViewerAct.closeProcessedFrameSaveSession ++ rest) }
      else none
    | true, .stale _ => some { s with
        gui := .unlock .socket :: (ViewerAct.closeProcessedFrameSaveSession ++ rest) }
  | .startTest :: rest =>
    some { s with gui := if s.running then rest else [.setStopFlag false, .spawn] ++ rest }
  | .spawn :: rest =>
    if s.worker = none then some { s with worker := some WorkerBlock.entry.enter, gui := rest }
    else some s.terminate
  | .join :: rest =>
    if s.worker = none ∨ s.worker = some .ended then some { s with worker := none, gui := rest }
    else none
  | act :: rest => (s.viewerAct .gui act).map (fun s' => { s' with gui := rest })

/-- How a step of the worker comes out: as it is meant to, failing, leaving
the connection, woken by its timer, or with a message. -/
inductive WorkerAnswer
  | goes
  | fails
  | leaves
  | wakes
  | handles (path : ViewerAct.FramePath)
  deriving DecidableEq

/-- The worker goes to a place. -/
def goTo (s : Programs) (p : ViewerWorker) : Programs := { s with worker := some p }

/-- A handler throws, and leaves the scopes of its locks. -/
def workerThrow (s : Programs) : Programs :=
  { s.goTo WorkerBlock.caught.enter with
    holder := fun m => if s.holder m = some .worker then none else s.holder m }

/-- The worker takes a message from its socket. -/
def takeMessage (s : Programs) (path : ViewerAct.FramePath) : Option Programs :=
  match s.client, s.toViewer with
  | .current, m :: ms => some { s.goTo (.afterMessage m path) with toViewer := ms }
  | .stale (m :: ms), _ => some { s.goTo (.afterMessage m path) with client := .stale ms }
  | _, _ => none

/-- There is something to be read. -/
def readable (s : Programs) : Bool :=
  match s.client with
  | .closed => false
  | .current => s.toViewer ≠ []
  | .stale _ => true

/-- **`workerLoop`**, the next step of a worker at `p`. -/
def workerAt (s : Programs) (p : ViewerWorker) (a : WorkerAnswer) : Option Programs :=
  match p, a with
  | .run block (act :: todo), .goes =>
    (s.viewerAct .worker act).map (fun s' => s'.goTo (.resume block todo))
  | .run .handle _, .fails => some s.workerThrow
  | .test, .goes => some (s.goTo (if s.stopFlag then WorkerBlock.exit.enter else .listen))
  | .listen, .goes => some { s.closeListening.goTo .innerTest with listening := true }
  | .listen, .fails => some (s.closeListening.goTo WorkerBlock.caught.enter)
  | .innerTest, .goes => some (s.goTo (if s.stopFlag then .test else .accept))
  | .accept, .goes => some (s.goTo WorkerBlock.publish.enter)
  | .accept, .fails => some (s.goTo WorkerBlock.caught.enter)
  | .loopTest, .goes => some (s.goTo
      (if s.stopFlag = true ∨ s.client = .closed then WorkerBlock.leave.enter else .poll))
  | .poll, .goes => if s.readable then some (s.goTo .recv) else none
  | .poll, .wakes => some (s.goTo .loopTest)
  | .poll, .leaves => some (s.goTo WorkerBlock.leave.enter)
  | .poll, .fails => some (s.goTo WorkerBlock.caught.enter)
  | .recv, .handles path => s.takeMessage path
  | .recv, .fails => some (s.goTo WorkerBlock.leave.enter)
  | _, _ => none

end Programs

/-! ## The steps of the collector

Its threads are those of `Session`. What is added is the mutex of the camera,
which a call holds from its beginning to its end, and the room in the channel. -/

/-- A call of the camera, which locks `mu_`. -/
def Act.usesCamera : Act → Bool
  | .camStop | .exportCcb | .exportDealias _ _ | .setRequestedFps _ | .switchMode _
  | .camStart => true
  | .lock | .unlock | .send _ | .markSent _ | .setRun _ | .join | .spawn => false

namespace Programs

/-- The channel to the viewer has room, as long as the viewer holds the
connection. -/
def frameFits (args : ChannelArgs) (s : Programs) : Bool :=
  !s.link.up || s.toViewer.length < args.viewerRoom

/-- An act of the collector can be done: a send has room, and a call of the
camera has its mutex. -/
def ready (args : ChannelArgs) (s : Programs) (act : Act) : Bool :=
  match act with
  | .send _ => s.frameFits args
  | act => !act.usesCamera || s.camera = some .main

/-- What a sent message leaves in the channel. -/
def sentTo (s : Programs) (act : Act) : List Message :=
  if s.link.up then s.toViewer ++ act.sends else s.toViewer

/-- The main thread: it takes a command or does its next act. -/
def mainStep (args : ChannelArgs) (s : Programs) (r : CallResult) : Option Programs :=
  match s.main with
  | .recv =>
    match s.commands with
    | [] => none
    | m :: ms => some { s with commands := ms, main := .dispatch m s.sent }
  | .run block (act :: todo) =>
    if s.ready args act then
      (s.toCollector.act block todo r act).map (fun c => { s with
        toCollector := c
        camera := if act.usesCamera then none else s.camera
        toViewer := s.sentTo act })
    else none
  | _ => none

/-- `recv_message` or a send throws. -/
def mainThrow (s : Programs) (what : Bytes) : Option Programs :=
  match s.main with
  | .recv => some { s with main := .run .stopping stopThread }
  | .run block (.send _ :: _) => some { s with toCollector := s.toCollector.throw block what }
  | _ => none

/-- The capture thread is at a call of the camera: `get_frame`, or `stop` at
the frame limit. -/
def turnUsesCamera (args : ChannelArgs) (s : Programs) : Bool :=
  match s.thread with
  | .head frameId => s.run && !(args.maxFrames ≠ 0 && args.maxFrames.toUInt64 ≤ frameId)
  | .limit _ => true
  | _ => false

/-- The capture thread: it does its next act, or takes its next turn. A call
of the camera is gone through with, even if the flag has been cleared
since. -/
def captureStep (args : ChannelArgs) (s : Programs) (r : FrameResult) : Option Programs :=
  match s.thread.acts with
  | some [] => none
  | some (act :: todo) =>
    if s.ready args act then
      (s.toCollector.captureAct (act :: todo)).map (fun c => { s with
        toCollector := c
        toViewer := s.sentTo act })
    else none
  | none =>
    if s.camera = some .capture then
      (Collector.captureTurn args.toSessionArgs { s.toCollector with run := true } r).map (fun c =>
        { s with thread := c.thread, camera := none })
    else if s.turnUsesCamera args then none
    else (s.toCollector.captureTurn args.toSessionArgs r).map (fun c => { s with toCollector := c })

/-- A send of the capture thread throws. -/
def captureThrow (s : Programs) (what : Bytes) : Option Programs :=
  match s.thread.acts with
  | some (.send _ :: _) => some { s with toCollector := s.toCollector.captureThrow what }
  | _ => none

/-- A thread of the collector takes the mutex of the camera. -/
def takeCamera (args : ChannelArgs) (s : Programs) (o : Owner) : Option Programs :=
  if s.camera = none then
    match o with
    | .main =>
      match s.main with
      | .run _ (act :: _) => if act.usesCamera then some { s with camera := some .main } else none
      | _ => none
    | .capture => if s.turnUsesCamera args then some { s with camera := some .capture } else none
  else none

/-- The session has ended, and its socket is closed. -/
def hangUp (s : Programs) : Option Programs :=
  if s.main = .ended ∧ s.link ≠ .none then
    some { s with
      link := .none
      client := if s.client = .current then .stale s.toViewer else s.client
      stray := if s.link = .pending then s.toViewer else s.stray }
  else none

/-- `connect_to`, with which a new session begins. -/
def connect (args : ChannelArgs) (s : Programs) : Option Programs :=
  if s.main = .ended ∧ s.link = .none ∧ s.listening = true then
    some { s with
      toCollector := { main := .start args.apiVersion }
      camera := none
      link := .pending
      commands := []
      toViewer := [] }
  else none

/-! ## The system

The order of the steps is not restricted, and a step is taken whenever it can
be. -/

/-- **A step** is one of a thread, or a call of the user. -/
inductive Step
  | call (c : ViewerCall)
  | gui (ok : Bool)
  | worker (a : WorkerAnswer)
  | takeCamera (o : Owner)
  | main (r : CallResult)
  | mainThrows (what : Bytes)
  | capture (r : FrameResult)
  | captureThrows (what : Bytes)
  | hangUp
  | connect

/-- **The two programs**, in any order of their threads' steps. -/
def step (args : ChannelArgs) : Machine Programs Step
  | s, .call c => if s.terminated = false ∧ s.gui = [] then some { s with gui := c.acts } else none
  | s, .gui ok => s.guiStep args ok
  | s, .worker a => s.worker.bind (fun p => s.workerAt p a)
  | s, .takeCamera o => s.takeCamera args o
  | s, .main r => s.mainStep args r
  | s, .mainThrows what => s.mainThrow what
  | s, .capture r => s.captureStep args r
  | s, .captureThrows what => s.captureThrow what
  | s, .hangUp => s.hangUp
  | s, .connect => s.connect args

/-! ## Waiting

For each thread there is the list of those that could let it go on, or none if
it does not wait. A thread may wait for one of several, as a receiver does for
any sender; so a deadlock is a set of threads each of which waits for threads of
the set alone. -/

end Programs

/-- A thread of the two programs. -/
inductive ProgramThread
  | gui
  | worker
  | main
  | capture
  deriving DecidableEq

/-- The threads of the viewer among those of both programs. -/
def ListenerThread.program : ListenerThread → ProgramThread
  | .gui => .gui
  | .worker => .worker

/-- The threads of the collector among those of both programs. -/
def Owner.program : Owner → ProgramThread
  | .main => .main
  | .capture => .capture

namespace Programs

/-- A thread of the viewer that is to lock a mutex waits for its holder. -/
def waitingLock (s : Programs) (m : ViewerMutex) : Option (List ProgramThread) :=
  (s.holder m).map (fun t => [t.program])

/-- The GUI waits for a mutex, for room for a command, or for the worker to
end. -/
def guiWaiting (args : ChannelArgs) (s : Programs) : Option (List ProgramThread) :=
  match s.gui with
  | .lock m :: _ => s.waitingLock m
  | .send _ :: _ =>
    if s.client = .current ∧ s.commandFits args = false then some [.main] else none
  | .join :: _ => if s.worker = none ∨ s.worker = some .ended then none else some [.worker]
  | _ => none

/-- The worker waits for a mutex or for a message; the GUI could close the
socket. -/
def workerWaiting (s : Programs) : Option (List ProgramThread) :=
  match s.worker with
  | some (.run _ (.lock m :: _)) => s.waitingLock m
  | some .recv =>
    if s.client = .current ∧ s.toViewer = [] then some [.main, .capture, .gui] else none
  | _ => none

/-- The main thread waits for a command, for the lock, for room, for the
capture thread to end, or for the camera. Of the viewer's threads each could
close the connection. -/
def mainWaiting (args : ChannelArgs) (s : Programs) : Option (List ProgramThread) :=
  match s.main with
  | .recv => if s.link.up = true ∧ s.commands = [] then some [.gui, .worker] else none
  | .run _ (.lock :: _) => s.sendMu.map (fun o => [o.program])
  | .run _ (.send _ :: _) => if s.frameFits args then none else some [.worker, .gui]
  | .run _ (.join :: _) =>
    if s.thread = .none ∨ s.thread = .finished then none else some [.capture]
  | .run _ (act :: _) =>
    if act.usesCamera = true ∧ s.camera = some .capture then some [.capture] else none
  | _ => none

/-- The capture thread waits for the lock, for room, or for the camera. -/
def captureWaiting (args : ChannelArgs) (s : Programs) : Option (List ProgramThread) :=
  match s.thread.acts with
  | some (.lock :: _) => s.sendMu.map (fun o => [o.program])
  | some (.send _ :: _) => if s.frameFits args then none else some [.worker, .gui]
  | some _ => none
  | none => if s.turnUsesCamera args = true ∧ s.camera = some .main then some [.main] else none

/-- **Who waits for whom.** -/
def waiting (args : ChannelArgs) (s : Programs) : WaitGraph ProgramThread
  | .gui => s.guiWaiting args
  | .worker => s.workerWaiting
  | .main => s.mainWaiting args
  | .capture => s.captureWaiting args

/-! ## The condition

The dangerous order is one in which the worker has turned away from its messages
and is at the mutex of the socket, which the GUI holds while it waits for room
to send. The collector may then be waiting for room as well, and nobody makes
room for anyone. The condition keeps the two apart, in either order. -/

/-- A command of the GUI waits for room. -/
def commandWaits (args : ChannelArgs) (s : Programs) : Bool :=
  match s.gui with
  | .send _ :: _ => s.client = .current && !s.commandFits args
  | _ => false

/-- The worker is to lock `m_socketMutex`. -/
def workerAway (s : Programs) : Bool :=
  match s.worker with
  | some (.run _ (.lock m :: _)) => m = .socket
  | _ => false

/-- A step takes the worker out of its loop over the messages: the flag is set
or the socket closed, the stream is silent or gone, a message is malformed or
is the last one, or its handler throws. -/
def turnsAway (s : Programs) (a : WorkerAnswer) : Bool :=
  match s.worker, a with
  | some .loopTest, .goes => s.stopFlag || s.client = .closed
  | some .poll, .leaves | some .poll, .fails => true
  | some .recv, .handles _ => s.toViewer.head?.any (fun m => m.type = .shutdown)
  | some .recv, .fails => true
  | some (.run .handle _), .fails => true
  | _, _ => false

/-- The GUI is to lock `m_socketMutex` for a command. -/
def atCommand (s : Programs) : Bool :=
  match s.gui with
  | .lock .socket :: .send _ :: _ => true
  | _ => false

/-- **An orderly step.** The worker does not turn away from the collector's
messages while a command waits for room, and a command that takes the mutex
when the worker has turned away finds room. -/
def Orderly (args : ChannelArgs) (s : Programs) : Step → Prop
  | .worker a => s.turnsAway a = true → s.commandWaits args = false
  | .gui _ => s.atCommand = true → s.workerAway = true → s.client = .current →
      s.commandFits args = true
  | _ => True

instance (args : ChannelArgs) (s : Programs) (a : Step) : Decidable (Orderly args s a) :=
  match a with
  | .worker _ => inferInstanceAs (Decidable (_ → _))
  | .gui _ => inferInstanceAs (Decidable (_ → _ → _ → _))
  | .call _ | .takeCamera _ | .main _ | .mainThrows _ | .capture _ | .captureThrows _ | .hangUp
  | .connect => isTrue trivial

/-! ## A thread that waits

For each thread, the place that `waiting` reads is that of its next step, and
the guard of the step is what `waiting` tests. -/

/-- The step of a thread by which it would go on. -/
def Step.goesOn : Step → Option ProgramThread
  | .gui ok => if ok then some .gui else none
  | .worker .goes | .worker (.handles _) => some .worker
  | .main _ => some .main
  | .capture _ => some .capture
  | .takeCamera o => some o.program
  | _ => none

section Waiting

variable {args : ChannelArgs} {s : Programs} {us : List ProgramThread}

/-- A mutex that is held is not locked. -/
theorem viewerAct_of_waitingLock {t : ListenerThread} {m : ViewerMutex}
    (h : s.waitingLock m = some us) : s.viewerAct t (.lock m) = none := by
  obtain ⟨t', ht', -⟩ := Option.map_eq_some_iff.mp h
  rw [viewerAct, ht', if_neg (Option.some_ne_none _)]

/-- The GUI, at a mutex, a send or a join. -/
theorem guiStep_of_waiting (h : s.guiWaiting args = some us) : s.guiStep args true = none := by
  unfold guiWaiting at h
  split at h
  · next m rest hgui =>
    unfold guiStep
    rw [hgui]
    dsimp only
    rw [viewerAct_of_waitingLock h]
    rfl
  · next m rest hgui =>
    split at h
    · next hfull =>
      unfold guiStep
      rw [hgui, hfull.1]
      dsimp only
      rw [hfull.2]
      rfl
    · cases h
  · next rest hgui =>
    split at h
    · cases h
    · next hworker =>
      unfold guiStep
      rw [hgui]
      dsimp only
      rw [if_neg hworker]
  · cases h

/-- The worker, at a mutex or in `recv_message`. -/
theorem workerAt_of_waiting {p : ViewerWorker} {a : WorkerAnswer} (hp : s.worker = some p)
    (h : s.workerWaiting = some us) (ha : Step.goesOn (.worker a) = some .worker) :
    s.workerAt p a = none := by
  unfold workerWaiting at h
  rw [hp] at h
  split at h
  · next block m todo hlock =>
    cases hlock
    cases a with
    | goes =>
      show (s.viewerAct .worker (.lock m)).map _ = none
      rw [viewerAct_of_waitingLock h]
      rfl
    | handles path => cases block <;> rfl
    | fails | leaves | wakes => cases ha
  · next hrecv =>
    cases hrecv
    split at h
    · next hempty =>
      cases a with
      | goes => rfl
      | handles path =>
        show s.takeMessage path = none
        unfold takeMessage
        rw [hempty.1, hempty.2]
      | fails | leaves | wakes => cases ha
    · cases h
  · cases h

/-- The main thread of the collector, at any of its waits. -/
theorem mainStep_of_waiting (h : s.mainWaiting args = some us) (r : CallResult) :
    s.mainStep args r = none := by
  unfold mainWaiting at h
  unfold mainStep
  split at h
  · next hmain =>
    split at h
    · next hempty => rw [hmain, hempty.2]
    · cases h
  · next block todo hmain =>
    obtain ⟨o, ho, -⟩ := Option.map_eq_some_iff.mp h
    have hact : s.toCollector.act block todo r .lock = none := by
      rw [Collector.act, ho, if_neg (Option.some_ne_none _)]
    rw [hmain]
    dsimp only
    rw [hact]
    exact ite_self _
  · next block m todo hmain =>
    split at h
    · cases h
    · next hfull =>
      rw [hmain]
      exact if_neg hfull
  · next block todo hmain =>
    split at h
    · cases h
    · next hthread =>
      have hact : s.toCollector.act block todo r .join = none := by
        rw [Collector.act, if_neg hthread]
      rw [hmain]
      dsimp only
      rw [hact]
      exact ite_self _
  · next block act todo _ _ _ hmain =>
    split at h
    · next hcamera =>
      rw [hmain]
      refine if_neg (fun hready => ?_)
      unfold ready at hready
      split at hready
      · cases hcamera.1
      · rw [hcamera.1, hcamera.2] at hready
        exact absurd hready (by decide)
    · cases h
  · cases h

/-- The capture thread, at any of its waits. -/
theorem captureStep_of_waiting (h : s.captureWaiting args = some us) (r : FrameResult) :
    s.captureStep args r = none := by
  unfold captureWaiting at h
  unfold captureStep
  split at h
  · next todo hacts =>
    obtain ⟨o, ho, -⟩ := Option.map_eq_some_iff.mp h
    have hact : s.toCollector.captureAct (.lock :: todo) = none := by
      rw [Collector.captureAct, ho, if_neg (Option.some_ne_none _)]
    rw [hacts]
    dsimp only
    rw [hact]
    exact ite_self _
  · next m todo hacts =>
    split at h
    · cases h
    · next hfull =>
      rw [hacts]
      exact if_neg hfull
  · cases h
  · next hacts =>
    split at h
    · next hcamera =>
      rw [hacts]
      dsimp only
      rw [hcamera.2, if_neg (fun hown => nomatch hown), if_pos hcamera.1]
    · cases h

/-- A thread at a call of the camera does not wait while that is free. -/
theorem mainWaiting_of_free {block : Block} {act : Act} {todo : List Act}
    (hmain : s.main = .run block (act :: todo)) (hcamera : act.usesCamera = true)
    (hfree : s.camera ≠ some .capture) : s.mainWaiting args = none := by
  unfold mainWaiting
  rw [hmain]
  cases act with
  | lock | unlock | send | markSent | setRun | join | spawn => cases hcamera
  | camStop | exportCcb | exportDealias | setRequestedFps | switchMode | camStart =>
    exact if_neg (fun h => hfree h.2)

/-- The mutex of the camera is not taken while it is held. -/
theorem takeCamera_of_waiting {o : Owner} (h : s.waiting args o.program = some us) :
    s.takeCamera args o = none := by
  unfold takeCamera
  split
  · next hfree =>
    cases o with
    | main =>
      dsimp only
      split
      · next block act todo hmain =>
        refine if_neg (fun hcamera => ?_)
        change s.mainWaiting args = some us at h
        rw [mainWaiting_of_free hmain hcamera (fun hown => nomatch hfree.symm.trans hown)] at h
        cases h
      · rfl
    | capture =>
      refine if_neg (fun hcamera => ?_)
      change s.captureWaiting args = some us at h
      unfold captureWaiting at h
      rw [hcamera, hfree] at h
      unfold turnUsesCamera at hcamera
      split at hcamera
      · next hthread => rw [hthread] at h; cases h
      · next hthread => rw [hthread] at h; cases h
      · cases hcamera
  · rfl

/-- **A thread that waits does not go on.** -/
theorem step_of_waiting {t : ProgramThread} {a : Step} (h : s.waiting args t = some us)
    (ha : a.goesOn = some t) : step args s a = none := by
  cases a with
  | gui ok =>
    cases ok with
    | true =>
      cases ha
      exact guiStep_of_waiting h
    | false => cases ha
  | worker a =>
    show s.worker.bind _ = none
    cases hp : s.worker with
    | none => rfl
    | some p =>
      have ht : t = .worker := by cases a <;> cases ha <;> rfl
      subst ht
      exact workerAt_of_waiting hp h ha
  | takeCamera o =>
    cases ha
    exact takeCamera_of_waiting h
  | main r =>
    cases ha
    exact mainStep_of_waiting h r
  | capture r =>
    cases ha
    exact captureStep_of_waiting h r
  | call | mainThrows | captureThrows | hangUp | connect => cases ha

end Waiting

end Programs
