import TofNet.Transition
import Mathlib.Logic.Function.Basic

/-!
# The life of the viewer's listener

`ADINetworkToFStream` listens in a thread of its own, which the GUI starts and
stops. What the two share are the flags `m_running` and `m_stopFlag`, the two
sockets, and `m_socketMutex`. The mutex does not cover all of the worker's
accesses: it closes and makes its listening socket without it, and reads the
file descriptors that it accepts and receives on without it too.

The threads move in turn, one access to what they share at a time. The kernel
knows a socket by the number it was made with; `close()` shuts it down, closes
the descriptor, and forgets it, in three steps. A call on a closed descriptor
fails at once, and one that waits on a socket is woken when that is shut down.

A number of a socket is not used again while somebody may still have it, so that
a descriptor which a thread has read is either the socket that it was, or
closed. What the kernel does with a thread that waits is part of the answers: it
is woken by a shutdown, by a peer or by a timer, or it goes on waiting, which is
no step.
-/

/-! ## Sockets

`close` has stages, because between them the other thread may make a call: it
may find the descriptor open and the socket shut down, or the descriptor closed,
or reset. -/

/-- What the kernel has of a socket. -/
inductive SocketState
  | fresh
  | listening
  | connected
  | shut
  deriving DecidableEq

/-- **The kernel's sockets**, by number; `made` is the next. -/
structure SocketTable where
  /-- How many sockets were made. -/
  made : ℕ := 0
  /-- What each is used for. -/
  state : ℕ → SocketState := fun _ => .fresh
  /-- Which were closed. -/
  closed : ℕ → Bool := fun _ => false

namespace SocketTable

/-- A new socket. -/
def make (t : SocketTable) (state : SocketState) : SocketTable :=
  { t with made := t.made + 1, state := Function.update t.state t.made state }

/-- `listen`. -/
def listen (t : SocketTable) (o : ℕ) : SocketTable :=
  { t with state := Function.update t.state o .listening }

/-- `shutdown`, which does nothing to a socket that neither listens nor is
connected. -/
def shutdown (t : SocketTable) (o : ℕ) : SocketTable :=
  if t.state o = .fresh then t else { t with state := Function.update t.state o .shut }

/-- `close` of a descriptor. -/
def close (t : SocketTable) (o : ℕ) : SocketTable :=
  { t with closed := Function.update t.closed o true }

/-- A descriptor that calls can be made on. -/
def valid (t : SocketTable) (fd : Option ℕ) : Bool := fd.any (fun o => !t.closed o)

/-- `Socket::close()` in one step, where nobody else can come between. -/
def closeAll (t : SocketTable) : Option ℕ → SocketTable
  | some o => (t.shutdown o).close o
  | none => t

end SocketTable

/-- Where a thread is in `Socket::close()`. -/
inductive CloseStage
  | test
  | shutdown
  | close
  | reset
  deriving DecidableEq

/-- What follows a stage; a socket that is not open is not closed. -/
def CloseStage.next (fd : Option ℕ) : CloseStage → Option CloseStage
  | .test => if fd = none then none else some .shutdown
  | .shutdown => some .close
  | .close => some .reset
  | .reset => none

/-! ## The threads

Where the worker is says what it is about to do, with what it has read so far.
So a descriptor that was read before somebody closed it is in the place where
the thread is, and not in the member any more. -/

/-- The threads that meet in `m_socketMutex`. -/
inductive ListenerThread
  | gui
  | worker
  deriving DecidableEq

/-- Where the worker is in `workerLoop`. -/
inductive ListenerWorker
  | copyConfig
  | setRunning
  /-- `while (!m_stopFlag.load())`. -/
  | test
  /-- `m_listenSocket.close()`, and the same again in `bind_listen`. -/
  | close (again : Bool) (stage : CloseStage)
  | socket
  | setsockopt
  | bind
  | listen
  /-- The same test of the loop inside. -/
  | innerTest
  /-- `accept_one`: before the descriptor is read, in the call, and waiting. -/
  | accept
  | acceptCall (fd : Option ℕ)
  | acceptBlocked (o : ℕ)
  | lockPublish (o : ℕ)
  | publish (o : ℕ)
  /-- `!m_stopFlag.load() && m_clientSocket.valid()`. -/
  | loopTest
  | validTest
  | poll
  /-- `recv_message`, likewise. -/
  | recv
  | recvCall (fd : Option ℕ)
  | recvBlocked (o : ℕ)
  | handle
  | lockLeave
  | leave
  /-- The handler of the loop, which may sleep. -/
  | caught
  | lockCaught
  | closeCaught
  | lockExit
  | closeExit
  | clearRunning
  | ended
  deriving DecidableEq

/-- Where the worker goes from a stage of closing its listening socket: to the
next, or to `bind_listen`, which closes it again. -/
def ListenerWorker.afterClose (again : Bool) : Option CloseStage → ListenerWorker
  | some stage => .close again stage
  | none => if again then .socket else .close true .test

/-- Where the GUI is in `stop()`. -/
inductive StopPhase
  | setFlag
  /-- `sendStopCaptureCommand`. -/
  | lockSend
  | send
  | lockClose
  | closeListen (stage : CloseStage)
  | closeClient (stage : CloseStage)
  | join
  | clear
  deriving DecidableEq

/-- Where the GUI is; `stop()` is also called by `configureNetworkOnly`. -/
inductive ListenerGui
  | idle
  /-- `start()`. -/
  | startTest
  | startFlag
  | startThread
  | stop (configuring : Bool) (p : StopPhase)
  /-- `configureNetworkOnly`, at `isRunning()` and at `configure`. -/
  | configureTest
  | configure
  /-- `sendStartCaptureCommand` and `sendStopCaptureCommand`. -/
  | lockCommand
  | command
  deriving DecidableEq

/-- **The listener and the threads about it.** `worker` is the thread of
`m_workerThread`, while that is joinable. The history: `loops` are the worker
loops there are, `started` that the last of `start()` and `stop()` to be
called was a start, which has returned, and `tornDown` that
`configureNetworkOnly` has stopped a listener then. -/
structure ADINetworkToFStream where
  /-- `m_running`. -/
  running : Bool := false
  /-- `m_stopFlag`. -/
  stopFlag : Bool := false
  /-- `m_networkOnly`, which `configureNetworkOnly` sets. -/
  networkOnly : Bool := false
  /-- The sockets of the kernel. -/
  sockets : SocketTable := {}
  /-- `m_listenSocket`, by its number. -/
  listenSocket : Option ℕ := none
  /-- `m_clientSocket`, by its number. -/
  clientSocket : Option ℕ := none
  /-- Who holds `m_socketMutex`. -/
  socketMutex : Option ListenerThread := none
  /-- Where the worker is. -/
  worker : Option ListenerWorker := none
  /-- Where the GUI is in a call. -/
  gui : ListenerGui := .idle
  /-- A thread was assigned over a joinable one. -/
  terminated : Bool := false
  /-- The worker loops there are. -/
  loops : ℕ := 0
  /-- The last call was a start, which has returned. -/
  started : Bool := false
  /-- A listener that was started has been stopped by
  `configureNetworkOnly`. -/
  tornDown : Bool := false

/-- What the GUI calls. -/
inductive ListenerCall
  | start
  | stop
  | configureNetworkOnly
  | connectNetwork
  | startRemoteCapture
  | stopRemoteCapture
  deriving DecidableEq

/-- How a step of a thread comes out: as it is meant to, or failing; a thread
that waits is woken by a shutdown, or by a peer – with a connection, or with
the end of a message or a part of it – or by a timer. A worker may also leave
the connection, for a peer that is silent, gone or has said so. -/
inductive ListenerAnswer
  | goes
  | fails
  | leaves
  | wakes
  | connects
  | receives (complete : Bool)
  deriving DecidableEq

/-- What happens. -/
inductive ListenerStep
  | call (c : ListenerCall)
  | gui (a : ListenerAnswer)
  | worker (a : ListenerAnswer)
  deriving DecidableEq

namespace ADINetworkToFStream

/-- A step of `m_listenSocket.close()`, which reads the descriptor anew. -/
def closeListenStep (s : ADINetworkToFStream) : CloseStage → ADINetworkToFStream
  | .test => s
  | .shutdown => { s with sockets := s.listenSocket.elim s.sockets s.sockets.shutdown }
  | .close => { s with sockets := s.listenSocket.elim s.sockets s.sockets.close }
  | .reset => { s with listenSocket := none }

/-- A step of `m_clientSocket.close()`. -/
def closeClientStep (s : ADINetworkToFStream) : CloseStage → ADINetworkToFStream
  | .test => s
  | .shutdown => { s with sockets := s.clientSocket.elim s.sockets s.sockets.shutdown }
  | .close => { s with sockets := s.clientSocket.elim s.sockets s.sockets.close }
  | .reset => { s with clientSocket := none }

/-! ## The worker

The loop makes a listening socket, waits in `accept`, publishes what it has
accepted, and then receives until the connection ends. It looks at `m_stopFlag`
at several points in between; which of them matters is the subject of
`ListenerStop`. -/

/-- The worker goes to a place. -/
def goTo (s : ADINetworkToFStream) (p : ListenerWorker) : ADINetworkToFStream :=
  { s with worker := some p }

/-- The worker takes the mutex, if it is free. -/
def lockWorker (s : ADINetworkToFStream) (p : ListenerWorker) : Option ADINetworkToFStream :=
  if s.socketMutex = none then some { s.goTo p with socketMutex := some .worker } else none

/-- The worker closes both sockets, and releases the mutex. -/
def closeBoth (s : ADINetworkToFStream) : ADINetworkToFStream :=
  { s with
    sockets := (s.sockets.closeAll s.clientSocket).closeAll s.listenSocket
    clientSocket := none
    listenSocket := none
    socketMutex := none }

/-- The worker is at the call `p` makes on `fd`, and waits if that is a socket
of the kind it can wait on. -/
def waitOn (s : ADINetworkToFStream) (fd : Option ℕ) (state : SocketState)
    (p : ℕ → ListenerWorker) : Option ADINetworkToFStream :=
  match fd with
  | some o =>
    if s.sockets.closed o = false ∧ s.sockets.state o = state then some (s.goTo (p o)) else none
  | none => none

/-- **`workerLoop`**, the next step of a worker at `p`. -/
def workerAt (s : ADINetworkToFStream) (p : ListenerWorker) (a : ListenerAnswer) :
    Option ADINetworkToFStream :=
  match p, a with
  | .copyConfig, .goes => some (s.goTo .setRunning)
  | .setRunning, .goes => some { s.goTo .test with running := true }
  | .test, .goes => some (s.goTo (if s.stopFlag then .lockExit else .close false .test))
  | .close again stage, .goes =>
    some ((s.closeListenStep stage).goTo (.afterClose again (stage.next s.listenSocket)))
  | .socket, .goes =>
    some { s.goTo .setsockopt with
      sockets := s.sockets.make .fresh
      listenSocket := some s.sockets.made }
  | .socket, .fails => some { s.goTo .caught with listenSocket := none }
  | .setsockopt, .goes =>
    if s.sockets.valid s.listenSocket then some (s.goTo .bind) else none
  | .bind, .goes => if s.sockets.valid s.listenSocket then some (s.goTo .listen) else none
  | .listen, .goes =>
    if s.sockets.valid s.listenSocket then
      some { s.goTo .innerTest with sockets := s.listenSocket.elim s.sockets s.sockets.listen }
    else none
  | .setsockopt, .fails | .bind, .fails | .listen, .fails => some (s.goTo .caught)
  | .innerTest, .goes => some (s.goTo (if s.stopFlag then .test else .accept))
  | .accept, .goes => some (s.goTo (.acceptCall s.listenSocket))
  | .acceptCall fd, .goes => s.waitOn fd .listening .acceptBlocked
  | .acceptCall _, .fails => some (s.goTo .caught)
  | .acceptBlocked o, .connects =>
    if s.sockets.state o = .listening then
      some { s.goTo (.lockPublish s.sockets.made) with sockets := s.sockets.make .connected }
    else none
  | .acceptBlocked o, .wakes =>
    if s.sockets.state o = .listening then none else some (s.goTo .caught)
  | .acceptBlocked _, .fails => some (s.goTo .caught)
  | .lockPublish o, .goes => s.lockWorker (.publish o)
  | .publish o, .goes =>
    some { s.goTo .loopTest with
      sockets := s.sockets.closeAll s.clientSocket
      clientSocket := some o
      socketMutex := none }
  | .loopTest, .goes => some (s.goTo (if s.stopFlag then .lockLeave else .validTest))
  | .validTest, .goes => some (s.goTo (if s.clientSocket = none then .lockLeave else .poll))
  | .poll, .goes => some (s.goTo .recv)
  | .poll, .wakes => some (s.goTo .loopTest)
  | .poll, .leaves => some (s.goTo .lockLeave)
  | .poll, .fails => some (s.goTo .caught)
  | .recv, .goes => some (s.goTo (.recvCall s.clientSocket))
  | .recvCall fd, .goes => s.waitOn fd .connected .recvBlocked
  | .recvCall _, .fails => some (s.goTo .lockLeave)
  | .recvBlocked _, .receives complete => some (s.goTo (if complete then .handle else .recv))
  | .recvBlocked o, .wakes =>
    if s.sockets.state o = .connected then none else some (s.goTo .lockLeave)
  | .recvBlocked _, .fails => some (s.goTo .lockLeave)
  | .handle, .goes => some (s.goTo .loopTest)
  | .handle, .fails => some (s.goTo .caught)
  | .handle, .leaves => some (s.goTo .lockLeave)
  | .lockLeave, .goes => s.lockWorker .leave
  | .leave, .goes =>
    some { s.goTo .innerTest with
      sockets := s.sockets.closeAll s.clientSocket
      clientSocket := none
      socketMutex := none }
  | .caught, .goes => some (s.goTo .lockCaught)
  | .lockCaught, .goes => s.lockWorker .closeCaught
  | .closeCaught, .goes => some (s.closeBoth.goTo .test)
  | .lockExit, .goes => s.lockWorker .closeExit
  | .closeExit, .goes => some (s.closeBoth.goTo .clearRunning)
  | .clearRunning, .goes => some { s.goTo .ended with running := false, loops := s.loops - 1 }
  | _, _ => none

/-- The worker's next step. -/
def workerStep (s : ADINetworkToFStream) (a : ListenerAnswer) : Option ADINetworkToFStream :=
  s.worker.bind (fun p => s.workerAt p a)

/-! ## The GUI

`stop` sets the flag, closes both sockets under the mutex, releases it, and
joins. It is one function with two callers; where it returns to is part of the
place. -/

/-- The GUI takes the mutex, if it is free. -/
def lockGui (s : ADINetworkToFStream) (p : ListenerGui) : Option ADINetworkToFStream :=
  if s.socketMutex = none then some { s with socketMutex := some .gui, gui := p } else none

/-- **`start()`**, behind its test. -/
def startThread (s : ADINetworkToFStream) : ADINetworkToFStream :=
  if s.worker = none then
    { s with worker := some .copyConfig, loops := s.loops + 1, started := true, gui := .idle }
  else
    -- the new thread is there, and assigned over a joinable one
    { s with terminated := true, loops := s.loops + 1 }

/-- **`stop()`**, at a place in it. -/
def stopStep (s : ADINetworkToFStream) (configuring : Bool) (p : StopPhase) :
    ListenerAnswer → Option ADINetworkToFStream
  | .goes =>
    match p with
    | .setFlag =>
      some { s with stopFlag := true, started := false, gui := .stop configuring .lockSend }
    | .lockSend => s.lockGui (.stop configuring .send)
    | .send => some { s with socketMutex := none, gui := .stop configuring .lockClose }
    | .lockClose => s.lockGui (.stop configuring (.closeListen .test))
    | .closeListen stage =>
      some { s.closeListenStep stage with
        gui := .stop configuring (match stage.next s.listenSocket with
          | some stage' => .closeListen stage'
          | none => .closeClient .test) }
    | .closeClient stage =>
      some (match stage.next s.clientSocket with
        | some stage' =>
          { s.closeClientStep stage with gui := .stop configuring (.closeClient stage') }
        | none =>
          { s.closeClientStep stage with socketMutex := none, gui := .stop configuring .join })
    | .join =>
      if s.worker = none ∨ s.worker = some .ended then
        some { s with worker := none, gui := .stop configuring .clear }
      else none
    | .clear => some { s with running := false, gui := if configuring then .configure else .idle }
  | .fails =>
    match p with
    | .send => some { s with socketMutex := none, gui := .stop configuring .lockClose }
    | _ => none
  | _ => none

/-- The GUI's next step. -/
def guiStep (s : ADINetworkToFStream) (a : ListenerAnswer) : Option ADINetworkToFStream :=
  match s.gui, a with
  | .startTest, .goes =>
    some (if s.running then { s with started := true, gui := .idle }
      else { s with gui := .startFlag })
  | .startFlag, .goes => some { s with stopFlag := false, gui := .startThread }
  | .startThread, .goes => some s.startThread
  | .stop configuring p, a => s.stopStep configuring p a
  | .configureTest, .goes =>
    some (if s.running then { s with gui := .configure }
      else { s with tornDown := s.tornDown || s.started, gui := .stop true .setFlag })
  | .configure, .goes => some { s with networkOnly := true, gui := .idle }
  | .lockCommand, .goes => s.lockGui .command
  | .command, .goes | .command, .fails => some { s with socketMutex := none, gui := .idle }
  | _, _ => none

/-- The GUI calls a function. -/
def call (s : ADINetworkToFStream) : ListenerCall → ListenerGui
  | .start => .startTest
  | .stop => .stop false .setFlag
  | .configureNetworkOnly => if s.networkOnly then .configureTest else .configure
  | .connectNetwork => if s.networkOnly then .startTest else .idle
  | .startRemoteCapture | .stopRemoteCapture => .lockCommand

/-- **One step.** A process that was terminated takes none. -/
def step : Machine ADINetworkToFStream ListenerStep
  | s, .call c =>
    if s.terminated = false ∧ s.gui = .idle then some { s with gui := s.call c } else none
  | s, .gui a => if s.terminated then none else s.guiStep a
  | s, .worker a => if s.terminated then none else s.workerStep a

end ADINetworkToFStream
