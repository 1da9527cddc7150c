import TofNet.Protocol

/-!
# The collector's session

`session()` of `tof_net_collect`: what Machine A does on one connection. This
module is the control flow alone. Its statements are `Act`s, listed in the
order of the source; a `Block` is a stretch of statements in which a throw
has one destination; and a thread's program counter is the block it is in
with the acts it has still to do. What a send leaves on the connection – a message in
a channel, or bytes in a stream – is left to the modules that run the session
(`CaptureState`, `Wire`), which share everything else.

The capture thread has a counter of its own (`Thread`), with the same acts
for its sends.

A script is a list, so that what is still to be done in a block is an end of it,
and a throw is the loss of that end. Two things that C++ does silently are
explicit here. The scope of a lock that a block holds is left with the throw.
And a `std::thread` that is assigned over a joinable one ends the process
(`Main.terminated`); whether that can happen is shown in `SessionControl`, and
not assumed.
-/

/-! ## Messages

The messages of the session, built with the layouts of `Protocol`. Of a status
the viewer looks at the code only, and `status?` is the test that it makes. -/

/-- A number as `operator<<` writes it. -/
def decimal (n : ℕ) : Bytes := ascii (toString n)

/-- The Status message of `send_status`. -/
def statusMessage (code : StatusCode) (text : Bytes) (frameId : UInt64 := 0) : Message where
  type := .status
  payload := ({ code := code.code, frameId := frameId,
                text := copyCstr 128 text : StatusPayload }).encode

/-- The status in a message, if there is one; this is the test the viewer's
worker makes. -/
def Message.status? (m : Message) : Option StatusPayload :=
  if m.type = .status ∧ statusPayloadSize ≤ m.payload.length then
    some (StatusPayload.decode m.payload)
  else
    none

/-- The message is a Status with the code `Stopped`. -/
def Message.isStopped (m : Message) : Bool :=
  match m.status? with
  | some st => st.code = StatusCode.stopped.code
  | none => false

@[simp] theorem status?_statusMessage (code : StatusCode) (text : Bytes) (frameId : UInt64) :
    (statusMessage code text frameId).status?
      = some { code := code.code, frameId := frameId, text := copyCstr 128 text } := by
  have h := StatusPayload.decode_encode_append
    { code := code.code, frameId := frameId, text := copyCstr 128 text } []
  rw [List.append_nil] at h
  have hlen := le_of_eq (StatusPayload.length_encode
    { code := code.code, frameId := frameId, text := copyCstr 128 text }).symm
  rw [Message.status?, statusMessage, if_pos ⟨rfl, hlen⟩, h]

@[simp] theorem isStopped_statusMessage (code : StatusCode) (text : Bytes) (frameId : UInt64) :
    (statusMessage code text frameId).isStopped = decide (code = .stopped) := by
  cases code
  rw [Message.isStopped, status?_statusMessage]
  exact decide_eq_decide.mpr (by simp [StatusCode.stopped])

/-- The Hello message; the second name is `aditof::getApiVersion()`. -/
def helloMessage (apiVersion : Bytes) : Message where
  type := .hello
  payload := ({ appName := copyCstr kNameLen (ascii "tof_net_collect"),
                sdkVersion := copyCstr kNameLen apiVersion : HelloPayload }).encode

/-- `CameraRawSource::ModuleCcb`. -/
structure ModuleCcb where
  path : Bytes
  data : Bytes
  deriving DecidableEq

def ccbMessage (ccb : ModuleCcb) : Message where
  type := .ccbFile
  payload := ({ ccbBytes := UInt32.ofNat ccb.data.length,
                filename := copyCstr kNameLen ccb.path : CcbFilePayloadHeader }).encode ++ ccb.data

/-- `CameraRawSource::DealiasEntry`. -/
structure DealiasEntry where
  frameType : Bytes
  data : Bytes
  deriving DecidableEq

def dealiasMessage (entry : DealiasEntry) : Message where
  type := .dealiasData
  payload := ({ frameType := copyCstr kNameLen entry.frameType,
                dataBytes := UInt32.ofNat entry.data.length : DealiasDataPayload }).encode
    ++ entry.data

/-- The StartCapture message the viewer sends. -/
def startMessage (frameType : Bytes) (mode : UInt16) (requestedFps : UInt32) : Message where
  type := .startCapture
  payload := ({ frameType := copyCstr kNameLen frameType, mode := mode,
                requestedFps := requestedFps : StartCapturePayload }).encode

/-- The StopCapture message the viewer sends: four bytes of reason, zero. -/
def stopMessage : Message := ⟨.stopCapture, le32 0⟩

/-! ## Statements

The scripts are in the order of the source. A call of the camera is an act that
may return or throw, and an export gives acts back: what it has exported is sent
by the main thread then, in front of the rest of its block. -/

/-- **A statement of the session's main thread.** -/
inductive Act
  /-- `std::lock_guard<std::mutex> lock(send_mu)`, and the end of its scope. -/
  | lock
  | unlock
  /-- `sock.send_message`. -/
  | send (m : Message)
  /-- `sent_dealias_modes.insert`. -/
  | markSent (frameType : Bytes)
  /-- `capture_thread_run = run`. -/
  | setRun (run : Bool)
  /-- `cam.stop()`. -/
  | camStop
  /-- `if (capture_thread.joinable()) capture_thread.join()`. -/
  | join
  /-- `capture_thread = std::thread(...)`. -/
  | spawn
  /-- The calls of the camera that may throw. -/
  | exportCcb
  | exportDealias (frameTypes : List Bytes) (locked : Bool)
  | setRequestedFps (fps : UInt32)
  | switchMode (frameType : Bytes)
  | camStart
  deriving DecidableEq

/-- How a call of the camera ends: it returns – with what it exports – or it
throws, where `what` is the text of the exception. -/
inductive CallResult
  | ok
  | ccb (ccb : ModuleCcb)
  | entries (entries : List DealiasEntry)
  | throws (what : Bytes)
  deriving DecidableEq

/-- A Status sent under the lock. -/
def lockedStatus (code : StatusCode) (text : Bytes) : List Act :=
  [.lock, .send (statusMessage code text), .unlock]

/-- The body of `send_dealias_entries`. -/
def sendDealiasEntries (entries : List DealiasEntry) : List Act :=
  entries.flatMap (fun entry =>
    if entry.frameType = [] ∨ entry.data = [] then []
    else
      [.send (dealiasMessage entry),
        .send (statusMessage .ok (ascii "sent dealias data for " ++ entry.frameType
          ++ ascii " (" ++ decimal entry.data.length ++ ascii " bytes)")),
        .markSent entry.frameType])

/-- What follows `export_module_ccb` in its `try`. -/
def sendCcb (ccb : ModuleCcb) : List Act :=
  [.send (ccbMessage ccb),
    .send (statusMessage .ok (ascii "sent current module CCB to Machine B: "
      ++ decimal ccb.data.length ++ ascii " bytes from " ++ ccb.path))]

/-- `stop_thread`. -/
def stopThread : List Act := [.setRun false, .camStop, .join]

/-- The `try` of StartCapture, for a requested frame type and rate and the
frame types whose dealias data has been sent. -/
def startCapture (requestedFt : Bytes) (requestedFps : UInt32) (sent : List Bytes) : List Act :=
  lockedStatus .waitingForCommand (ascii "StartCapture received; preparing camera")
    ++ stopThread
    ++ (if requestedFps ≠ 0 then
          lockedStatus .waitingForCommand (ascii "setting requested FPS before start")
            ++ [.setRequestedFps requestedFps]
        else [])
    ++ (if requestedFt ≠ [] ∧ requestedFt ∉ sent then
          lockedStatus .waitingForCommand (ascii "sending dealias data for requested mode")
            ++ [.exportDealias [requestedFt] true]
        else [])
    ++ (if requestedFt ≠ [] then
          lockedStatus .waitingForCommand (ascii "switching frame type before start")
            ++ [.switchMode requestedFt]
        else [])
    ++ lockedStatus .waitingForCommand (ascii "calling camera start")
    ++ [.camStart]

/-- What follows that `try`. -/
def captureStarted : List Act :=
  [.setRun true]
    ++ lockedStatus .capturing (ascii "capture started; raw only; depth compute off")
    ++ [.spawn]

/-- The `try` in its `catch`. -/
def startFailed (what : Bytes) : List Act :=
  lockedStatus .error (ascii "StartCapture failed: " ++ what)

/-- StopCapture. Its Status is sent without the lock. -/
def stopCapture : List Act :=
  stopThread ++ [.send (statusMessage .stopped (ascii "capture stopped"))]

/-! ## Control flow

A block is left at its end or by a throw, and both lead to another block, to
`recv_message`, or out of the session. The blocks are those of the `try`
statements, with their handlers as blocks of their own. -/

/-- **The blocks of the session**, by where a throw goes. -/
inductive Block
  /-- Connecting: the Hello, and the two exports with their `catch`es. -/
  | hello
  | ccb
  | ccbFailed
  | dealias
  | dealiasFailed
  | ready
  /-- The `try` of StartCapture, and the `try` in its `catch`. -/
  | guarded
  | failed
  /-- The loop outside them: what follows either `try`, and StopCapture. -/
  | started
  | cleanup
  | stop
  /-- The end of the session. -/
  | stopping
  deriving DecidableEq

/-- **The main thread**: waiting in `recv_message`, inside a block with the
acts it has still to do, out of `session()`, or ended with the process by a
`std::thread` assigned over a joinable one. -/
inductive Main
  | recv
  | run (block : Block) (todo : List Act)
  | ended
  | terminated
  deriving DecidableEq

/-- Where a block ends. -/
def Block.done : Block → Main
  | .hello => .run .ccb [.exportCcb]
  | .ccb => .run .dealias [.exportDealias [] false]
  | .ccbFailed => .run .dealias [.exportDealias [] false]
  | .dealias | .dealiasFailed => .run .ready [.send (statusMessage .waitingForCommand (ascii
      "Machine A connected; CCB + startup dealias data sent; waiting for start command"))]
  | .ready => .recv
  | .guarded => .run .started captureStarted
  | .failed => .run .cleanup stopThread
  | .started | .cleanup | .stop => .recv
  | .stopping => .ended

/-- Where a throw inside a block goes. -/
def Block.thrown (what : Bytes) : Block → Main
  | .hello => .ended
  | .ccb => .run .ccbFailed [.send (statusMessage .error
      (ascii "failed to export/send current module CCB: " ++ what))]
  | .ccbFailed => .ended
  | .dealias => .run .dealiasFailed [.send (statusMessage .error
      (ascii "failed to export/send dealias data: " ++ what))]
  | .dealiasFailed => .ended
  | .ready => .ended
  | .guarded => .run .failed (startFailed what)
  | .failed => .run .cleanup stopThread
  | .started | .cleanup | .stop => .run .stopping stopThread
  | .stopping => .ended

/-- The rest of a block, or what comes after it. -/
def Main.resume (block : Block) : List Act → Main
  | [] => block.done
  | act :: todo => .run block (act :: todo)

/-- The start of the session. -/
def Main.start (apiVersion : Bytes) : Main := .run .hello [.send (helloMessage apiVersion)]

/-- What the main thread does with a message it has received. -/
def Main.dispatch (m : Message) (sent : List Bytes) : Main :=
  if m.type = .startCapture then
    let sc := StartCapturePayload.decode m.payload
    if startCapturePayloadSize ≤ m.payload.length then
      .run .guarded (startCapture (cstrToString sc.frameType) sc.requestedFps sent)
    else .run .guarded (startCapture [] 0 sent)
  else if m.type = .stopCapture then .run .stop stopCapture
  else if m.type = .shutdown then .run .stopping (stopThread ++ stopThread)
  else .recv

/-! ## The capture thread

Between its sends the thread is at the head of its loop or behind it; in a send
it has a script, of the lock, the send and the unlock. Its `frame_id` is kept as
long as the thread uses it. -/

/-- **The capture thread**, with its `frame_id` where it is still used. -/
inductive Thread
  /-- Not joinable. -/
  | none
  /-- At the loop's condition. -/
  | head (frameId : UInt64)
  /-- In the loop's `try`, sending a DataFrame. -/
  | frame (frameId : UInt64) (todo : List Act)
  /-- In the `try` of its `catch`, sending an Error status. -/
  | error (frameId : UInt64) (todo : List Act)
  /-- Out of the loop at the frame limit, before `cam.stop()`. -/
  | limit (frameId : UInt64)
  /-- Sending the Stopped status. -/
  | report (todo : List Act)
  /-- Returned and not joined yet. -/
  | finished
  deriving DecidableEq

/-- The thread is in its capture loop. -/
def Thread.inLoop : Thread → Bool
  | .head _ | .frame _ _ | .error _ _ => true
  | _ => false

/-- The acts of the thread's three sends. -/
def threadSend (m : Message) : List Act := [.lock, .send m, .unlock]

/-- The Stopped status at the end of the thread. -/
def stoppedReport (frameLimitReached : Bool) (frameId : UInt64) : List Act :=
  threadSend (statusMessage .stopped
    (if frameLimitReached then ascii "capture frame limit reached; camera stopped"
      else ascii "capture thread stopped") frameId)

/-- What the thread has still to do of a send. -/
def Thread.acts : Thread → Option (List Act)
  | .frame _ todo | .error _ todo | .report todo => some todo
  | _ => Option.none

/-- The rest of a send, or what comes after it. -/
def Thread.resume : Thread → List Act → Thread
  | .frame frameId _, [] | .error frameId _, [] => .head frameId
  | .frame frameId _, act :: todo => .frame frameId (act :: todo)
  | .error frameId _, act :: todo => .error frameId (act :: todo)
  | .report _, [] => .finished
  | .report _, act :: todo => .report (act :: todo)
  | thread, _ => thread

/-- How a frame comes out: the payload of its DataFrame, or the text of the
exception from `get_frame` or `zstd_compress`. -/
inductive FrameResult
  | frame (payload : Bytes)
  | failed (what : Bytes)
  deriving DecidableEq

/-! ## The state of the session

What the two threads share is the flag `run`, `send_mu`, and the thread object
itself. The functions below are partial: an act that has to wait for a mutex or
for a join has no result, and so there is no step. -/

/-- A thread that may hold `send_mu`. -/
inductive Owner
  | main
  | capture
  deriving DecidableEq

/-- **The state of the session**: the two threads and what they share. -/
structure Collector where
  main : Main
  thread : Thread := .none
  /-- `capture_thread_run`. -/
  run : Bool := false
  sendMu : Option Owner := none
  /-- `sent_dealias_modes`. -/
  sent : List Bytes := []
  deriving DecidableEq

/-- What the session is given: the version of the SDK and the frame limit. -/
structure SessionArgs where
  apiVersion : Bytes
  maxFrames : UInt32

namespace Collector

/-- The main thread is thrown out of a block; the scope of a lock it holds is
left with it. -/
def throw (c : Collector) (block : Block) (what : Bytes) : Collector :=
  { c with
    main := block.thrown what
    sendMu := if c.sendMu = some .main then none else c.sendMu }

/-- The capture thread is thrown out of a send: a DataFrame that cannot be
sent is reported with an Error status, and a status that cannot be sent is
given up. -/
def captureThrow (c : Collector) (what : Bytes) : Collector :=
  { c with
    thread := match c.thread with
      | .frame frameId _ => .error frameId (threadSend (statusMessage .error what frameId))
      | .error frameId _ => .head frameId
      | .report _ => .finished
      | thread => thread
    sendMu := if c.sendMu = some .capture then none else c.sendMu }

/-- **One act of the main thread**, with `todo` behind it in its block. A send
is done here; what it leaves on the connection is not this module's. -/
def act (c : Collector) (block : Block) (todo : List Act) (r : CallResult) :
    Act → Option Collector
  | .lock =>
    if c.sendMu = none then some { c with sendMu := some .main, main := .resume block todo }
    else none
  | .unlock => some { c with sendMu := none, main := .resume block todo }
  | .send _ => some { c with main := .resume block todo }
  | .markSent frameType => some { c with sent := frameType :: c.sent, main := .resume block todo }
  | .setRun run => some { c with run := run, main := .resume block todo }
  | .camStop => some { c with main := .resume block todo }
  | .join =>
    if c.thread = .none ∨ c.thread = .finished then
      some { c with thread := .none, main := .resume block todo }
    else none
  | .spawn =>
    if c.thread = .none then some { c with thread := .head 0, main := .resume block todo }
    else some { c with main := .terminated }
  | .exportCcb =>
    match r with
    | .ccb ccb => some { c with main := .resume block (sendCcb ccb ++ todo) }
    | .throws what => some (c.throw block what)
    | _ => none
  | .exportDealias _ locked =>
    match r with
    | .entries entries => some { c with
        main := .resume block ((if locked then [.lock] ++ sendDealiasEntries entries ++ [.unlock]
          else sendDealiasEntries entries) ++ todo) }
    | .throws what => some (c.throw block what)
    | _ => none
  | .setRequestedFps _ | .switchMode _ | .camStart =>
    match r with
    | .ok => some { c with main := .resume block todo }
    | .throws what => some (c.throw block what)
    | _ => none

/-- **One act of the capture thread**, which only locks, sends and unlocks. -/
def captureAct (c : Collector) : List Act → Option Collector
  | .lock :: todo =>
    if c.sendMu = none then
      some { c with sendMu := some .capture, thread := c.thread.resume todo }
    else none
  | .send _ :: todo => some { c with thread := c.thread.resume todo }
  | .unlock :: todo => some { c with sendMu := none, thread := c.thread.resume todo }
  | _ => none

/-- **The capture thread between its sends.** At the head of the loop it
leaves when the flag is clear or the frame limit is reached, and else gets a
frame; behind the loop it stops the camera and reports. -/
def captureTurn (args : SessionArgs) (c : Collector) (r : FrameResult) : Option Collector :=
  match c.thread with
  | .head frameId =>
    if c.run = false then some { c with thread := .report (stoppedReport false frameId) }
    else if args.maxFrames ≠ 0 ∧ args.maxFrames.toUInt64 ≤ frameId then
      some { c with thread := .limit frameId, run := false }
    else
      match r with
      | .frame payload => some { c with
          thread := .frame (frameId + 1) (threadSend ⟨.dataFrame, payload⟩) }
      | .failed what => some { c with
          thread := .error frameId (threadSend (statusMessage .error what frameId)) }
  | .limit frameId => some { c with thread := .report (stoppedReport true frameId) }
  | _ => none

end Collector
