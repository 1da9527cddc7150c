import TofNet.SessionControl
import TofNet.Transition

/-!
# Agreement on the capture state

The viewer keeps one flag, `m_remoteCapturing`, about a capture that runs in
another process. This module puts the two programs together – the GUI thread
and the worker of the viewer, the main thread and the capture thread of the
collector, a channel of messages each way – and asks when the flag is right
once everything has come to rest.

It is not always right. The flag is written by two threads, after the send on
the one side and on every Stopped status on the other, and a Stopped does not
say which capture it is about. `Orderly` is the condition on a step that
keeps the three mishaps out: a StartCapture that fails with nothing more to
come, a Stopped of an earlier capture taken for one of the current, and a
Stopped overtaken by the write it should have followed.
-/

/-! ## The state

The collector is that of `Session`; a connection is two lists of messages. What
the viewer has of a message that its worker has taken and not yet handled is one
field, and where the GUI is in a call of `sendStartCaptureCommand` is another.
`lastStart` tells what the flag is to be compared with, as the commands that
were sent are gone when they have been received. -/

/-- The GUI thread: outside a command, or between the send of one and the
write of the flag behind it. -/
inductive Gui
  | idle
  | startSent
  | stopSent
  deriving DecidableEq

/-- **The two programs.** `lastStart` is a history variable – whether the last
command sent is a StartCapture – which no step reads. -/
structure System extends Collector where
  /-- Where the GUI thread is in a call. -/
  gui : Gui := .idle
  /-- `m_remoteCapturing`, the flag. -/
  remoteCapturing : Bool := false
  /-- The message the worker has received and not handled yet. -/
  worker : Option Message := none
  /-- The messages in flight, to the collector and to the viewer. -/
  commands : List Message := []
  /-- The messages on their way to the viewer. -/
  toViewer : List Message := []
  /-- The last command sent is a StartCapture. -/
  lastStart : Bool := false
  deriving DecidableEq

/-- Nothing has been sent on the new connection. -/
def System.initial (args : SessionArgs) : System := { main := .start args.apiVersion }

/-! ## The steps

Each step is one that no other thread can come between, as far as the flag and
the messages are concerned. In particular the send of a command and the write of
the flag behind it are two steps, with the worker free to handle anything in
between. -/

/-- A command of the GUI. -/
inductive Command
  | start (frameType : Bytes) (mode : UInt16) (requestedFps : UInt32)
  | stop
  deriving DecidableEq

def Command.message : Command → Message
  | start frameType mode requestedFps => startMessage frameType mode requestedFps
  | stop => stopMessage

def Command.isStart : Command → Bool
  | start _ _ _ => true
  | stop => false

/-- **A step** is one of a thread; it carries what the camera answers. -/
inductive Step
  /-- `sendStartCaptureCommand` or `sendStopCaptureCommand`, up to the send. -/
  | command (c : Command)
  /-- The write of the flag behind the send. -/
  | writeFlag
  | workerRecv
  | workerHandle
  | main (r : CallResult)
  | capture (r : FrameResult)

/-- The GUI sends a command. -/
def System.sendCommand (s : System) (c : Command) : Option System :=
  match s.gui with
  | .idle => some { s with
      gui := if c.isStart then .startSent else .stopSent
      commands := s.commands ++ [c.message]
      lastStart := c.isStart }
  | _ => none

/-- The GUI writes the flag and returns. -/
def System.writeFlag (s : System) : Option System :=
  match s.gui with
  | .idle => none
  | .startSent => some { s with gui := .idle, remoteCapturing := true }
  | .stopSent => some { s with gui := .idle, remoteCapturing := false }

/-- The worker takes a message from the socket. -/
def System.workerRecv (s : System) : Option System :=
  match s.worker, s.toViewer with
  | none, m :: ms => some { s with worker := some m, toViewer := ms }
  | _, _ => none

/-- The worker handles it: a Stopped status clears the flag. -/
def System.workerHandle (s : System) : Option System :=
  match s.worker with
  | none => none
  | some m => some { s with
      worker := none
      remoteCapturing := if m.isStopped then false else s.remoteCapturing }

/-- What an act leaves in the channel. -/
def Act.sends : Act → List Message
  | .send m => [m]
  | _ => []

/-- The main thread: it takes a command or does its next act. -/
def System.mainStep (s : System) (r : CallResult) : Option System :=
  match s.main with
  | .recv =>
    match s.commands with
    | [] => none
    | m :: ms => some { s with commands := ms, main := .dispatch m s.sent }
  | .run block (act :: todo) =>
    (s.toCollector.act block todo r act).map (fun c =>
      { s with toCollector := c, toViewer := s.toViewer ++ act.sends })
  | _ => none

/-- The capture thread: it does its next act, or takes its next turn. -/
def System.captureStep (args : SessionArgs) (s : System) (r : FrameResult) : Option System :=
  match s.thread.acts with
  | some acts =>
    (s.toCollector.captureAct acts).map (fun c =>
      { s with toCollector := c, toViewer := s.toViewer ++ (acts.head?.elim [] Act.sends) })
  | none => (s.toCollector.captureTurn args r).map (fun c => { s with toCollector := c })

/-- **The system**, in any order of its threads' steps. -/
def System.step (args : SessionArgs) : Machine System Step
  | s, .command c => s.sendCommand c
  | s, .writeFlag => s.writeFlag
  | s, .workerRecv => s.workerRecv
  | s, .workerHandle => s.workerHandle
  | s, .main r => s.mainStep r
  | s, .capture r => s.captureStep args r

/-! ## Rest

Nothing is said of the flag while messages are under way. At rest there is a
fact that it can be compared with: the capture thread is in its loop or it is
not. -/

/-- The current capture is running. -/
def System.Running (s : System) : Prop := s.thread.inLoop = true ∧ s.run = true

/-- **At rest**: no message is in flight, the last command is finished, the
capture thread has reported any ending, and the GUI's call has returned. -/
structure System.AtRest (s : System) : Prop where
  /-- The GUI is in no call. -/
  gui : s.gui = .idle
  /-- The viewer's worker has no message in hand. -/
  worker : s.worker = none
  /-- No command is on its way, … -/
  commands : s.commands = []
  /-- … and no message the other way. -/
  toViewer : s.toViewer = []
  /-- The collector waits for a command. -/
  main : s.main = .recv
  /-- The capture thread is gone, has come to its end, or is in its loop. -/
  thread : s.thread = .none ∨ s.thread = .finished ∨ s.Running

/-- The flag is true exactly if the capture is running. -/
def System.Agrees (s : System) : Prop := s.remoteCapturing = true ↔ s.Running

/-! ## The condition

Each of the three parts excludes one mishap, and is a condition on the state
before a step, so that it can be read off a run as it goes. The mishaps have in
common that the flag is written on the word of a Stopped status, or of its
absence, and that a Stopped status does not say what it is about. So the
condition counts those that are still to come (`due`): as long as there is
another one, the flag will be written again. -/

/-- The main thread is on its way from a StartCapture that failed. -/
def Main.failing : Main → Bool
  | .run .failed _ | .run .cleanup _ => true
  | _ => false

/-- The main thread is in the `try` of a StartCapture. -/
def Main.inGuarded : Main → Bool
  | .run .guarded _ => true
  | _ => false

/-- An act that sends a Stopped status. -/
def Act.sendsStopped : Act → Bool
  | .send m => m.isStopped
  | _ => false

/-- The thread has still to report its ending. -/
def Thread.willReport : Thread → Bool
  | .head _ | .frame _ _ | .error _ _ | .limit _ => true
  | .report todo => todo.any Act.sendsStopped
  | .none | .finished => false

/-- **The Stopped statuses still to be handled**: those in flight, and the one
the capture thread owes. -/
def System.due (s : System) : ℕ :=
  (s.worker.toList ++ s.toViewer).countP Message.isStopped
    + if s.thread.willReport then 1 else 0

/-- **Nothing will be running**: every command has been received, and the last
of them is finished with no capture in its loop, or is a StartCapture that
has failed. -/
def System.Over (s : System) : Prop :=
  s.commands = [] ∧ ((s.main = .recv ∧ s.thread.inLoop = false) ∨ s.main.failing = true)

instance (s : System) : Decidable s.Over := by
  unfold System.Over
  infer_instance

/-- **An orderly step.** Three mishaps are left out. But for these the order of
the threads is free, and so are the failures and the ends of the captures.

A StartCapture fails only while another command or a Stopped status is still to
come, as the viewer has put its flag up and would wait for a capture that does
not exist. Between the send of a StartCapture and the write of the flag, a
Stopped is not handled that is the last one to come, for the write would undo
what the handler did. And behind that write none is handled before the capture
is over: it would be about an earlier one. -/
def System.Orderly (s : System) : Step → Prop
  | .main (.throws _) => s.main.inGuarded = true → s.commands ≠ [] ∨ 0 < s.due
  | .workerHandle => s.worker.any Message.isStopped = true →
      (s.gui = .startSent → ¬ (s.Over ∧ s.due = 1)) ∧
        (s.gui = .idle → s.lastStart = true → s.Over)
  | _ => True

instance (s : System) (st : Step) : Decidable (s.Orderly st) := by
  unfold System.Orderly
  split <;> infer_instance

/-! ## What a step does

The two threads of the collector are taken together as far as possible: neither
touches the viewer, and the channel to it only grows (`SameViewer`). What each
does besides is a structure with the facts that the invariant needs, and a lemma
that every step has them. The capture thread never comes back into its loop; it
leaves it once, and then owes a report. -/

variable {args : SessionArgs} {s s' : System} {block : Block} {todo : List Act} {act : Act}

/-- The parts of the state that neither thread of the collector touches, and
the channel it only adds to. -/
structure System.SameViewer (s s' : System) : Prop where
  gui : s'.gui = s.gui
  remoteCapturing : s'.remoteCapturing = s.remoteCapturing
  worker : s'.worker = s.worker
  lastStart : s'.lastStart = s.lastStart
  toViewer : s.toViewer <+: s'.toViewer

/-- A longer channel and the same worker have no fewer Stopped in them. -/
theorem System.SameViewer.countP_le (h : s.SameViewer s') :
    (s.worker.toList ++ s.toViewer).countP Message.isStopped
      ≤ (s'.worker.toList ++ s'.toViewer).countP Message.isStopped := by
  rw [h.worker, List.countP_append, List.countP_append]
  exact Nat.add_le_add_left (h.toViewer.sublist.countP_le) _

/-- A step of the collector leaves the viewer as it is. -/
theorem sameViewer_of_collector (s : System) (c : Collector) (ms : List Message) :
    s.SameViewer { s with toCollector := c, toViewer := s.toViewer ++ ms } :=
  ⟨rfl, rfl, rfl, rfl, List.prefix_append _ _⟩

/-- A thread that still has to report owes as much after the step. -/
theorem due_le_of_willReport (hv : s.SameViewer s') (h : s'.thread.willReport = true) :
    s.due ≤ s'.due := by
  unfold System.due
  rw [if_pos h]
  have hle := hv.countP_le
  split <;> omega

/-- The report of the ending is a Stopped. -/
theorem willReport_stoppedReport (frameLimitReached : Bool) (frameId : UInt64) :
    (Thread.report (stoppedReport frameLimitReached frameId)).willReport = true := by
  simp [Thread.willReport, stoppedReport, threadSend, Act.sendsStopped]

/-- **What a step of the capture thread does**: it never re-enters its loop,
and it leaves it only to report. -/
structure Captured (s s' : System) : Prop where
  /-- The viewer is left alone. -/
  viewer : s.SameViewer s'
  /-- So are the commands that are on their way, … -/
  commands : s'.commands = s.commands
  /-- … and the main thread. -/
  main : s'.main = s.main
  /-- A Stopped that was due is still due, and there may be one more. -/
  due : s.due ≤ s'.due
  /-- There is a capture thread. -/
  live : s.thread ≠ .none
  /-- It does not go back into its loop. -/
  outside : s.thread.inLoop = false → s'.thread.inLoop = false
  /-- Where it leaves its loop it has a report to make. -/
  leaving : s.thread.inLoop = true → s'.thread.inLoop = true ∨ s'.thread.willReport = true

/-- In its loop the thread goes on in it, and will report. -/
theorem resume_inLoop {thread : Thread} {acts : List Act} (h : thread.inLoop = true)
    (hacts : thread.acts = some acts) (rest : List Act) :
    (thread.resume rest).inLoop = true ∧ (thread.resume rest).willReport = true := by
  cases thread with
  | frame | error => cases rest <;> exact ⟨rfl, rfl⟩
  | head => cases hacts
  | _ => cases h

/-- Behind its loop it owes what it still has to send. -/
theorem resume_report {thread : Thread} {acts : List Act} (h : thread.inLoop = false)
    (hacts : thread.acts = some acts) (rest : List Act) :
    (thread.resume rest).inLoop = false ∧
      thread.willReport = acts.any Act.sendsStopped ∧
      (thread.resume rest).willReport = rest.any Act.sendsStopped := by
  cases thread with
  | report todo =>
    cases hacts
    cases rest <;> exact ⟨rfl, rfl, rfl⟩
  | frame | error => cases h
  | _ => cases hacts

/-- The Stopped in what an act sends. -/
theorem countP_sends (act : Act) :
    act.sends.countP Message.isStopped = if act.sendsStopped then 1 else 0 := by
  cases act with
  | send m => exact List.countP_singleton
  | _ => rfl

theorem captureStep_of_acts {c : Collector} {acts : List Act} (hacts : s.thread.acts = some acts)
    (h : s.toCollector.captureAct acts = some c) :
    Captured s { s with
      toCollector := c, toViewer := s.toViewer ++ (acts.head?.elim [] Act.sends) } := by
  obtain ⟨act, rest, rfl, ht, hm⟩ := thread_of_captureAct h
  have hv := sameViewer_of_collector s c act.sends
  have hlive : s.thread ≠ .none := by
    intro hnone
    rw [hnone] at hacts
    cases hacts
  cases hin : s.thread.inLoop with
  | true =>
    obtain ⟨hin', hrep⟩ := resume_inLoop hin hacts rest
    rw [← ht] at hin' hrep
    exact ⟨hv, rfl, hm, due_le_of_willReport hv hrep, hlive, fun h => absurd (h ▸ hin) nofun,
      fun _ => .inl hin'⟩
  | false =>
    obtain ⟨hout, hany, hany'⟩ := resume_report hin hacts rest
    refine ⟨hv, rfl, hm, ?_, hlive, fun _ => by rw [← hout]; exact congrArg _ ht,
      fun h => absurd (h ▸ hin) nofun⟩
    -- a Stopped that leaves the thread is in the channel
    have hcount := countP_sends act
    unfold System.due
    show _ ≤ (s.worker.toList ++ (s.toViewer ++ act.sends)).countP Message.isStopped
      + (if c.thread.willReport = true then 1 else 0)
    rw [ht, hany, hany', ← List.append_assoc, @List.countP_append _ _ _ act.sends, hcount,
      List.any_cons]
    cases act.sendsStopped <;> cases rest.any Act.sendsStopped <;> simp

theorem captureStep_of_turn {c : Collector} {r : FrameResult}
    (h : s.toCollector.captureTurn args r = some c) : Captured s { s with toCollector := c } := by
  have hv : s.SameViewer { s with toCollector := c } :=
    ⟨rfl, rfl, rfl, rfl, List.prefix_refl _⟩
  have hturn : c.main = s.main ∧ c.thread.willReport = true ∧ s.thread ≠ .none ∧
      (s.thread.inLoop = false → c.thread.inLoop = false) := by
    unfold Collector.captureTurn at h
    split at h
    · next frameId hthread =>
      rw [hthread]
      split at h
      · cases h
        exact ⟨rfl, willReport_stoppedReport false frameId, nofun, nofun⟩
      · split at h
        · cases h
          exact ⟨rfl, rfl, nofun, nofun⟩
        · split at h <;> cases h <;> exact ⟨rfl, rfl, nofun, nofun⟩
    · next frameId hthread =>
      rw [hthread]
      cases h
      exact ⟨rfl, willReport_stoppedReport true frameId, nofun, fun _ => rfl⟩
    · cases h
  obtain ⟨hm, hrep, hlive, hout⟩ := hturn
  exact ⟨hv, rfl, hm, due_le_of_willReport hv hrep, hlive, hout, fun _ => .inr hrep⟩

theorem captureStep_cases {r : FrameResult} (h : s.captureStep args r = some s') :
    Captured s s' := by
  unfold System.captureStep at h
  split at h
  · next acts hacts =>
    obtain ⟨c, hc, rfl⟩ := Option.map_eq_some_iff.mp h
    exact captureStep_of_acts hacts hc
  · obtain ⟨c, hc, rfl⟩ := Option.map_eq_some_iff.mp h
    exact captureStep_of_turn hc

/-- **What an act of the main thread does**: control moves as the session
says, the commands stay, and the viewer at most finds another message. -/
structure MainActed (s s' : System) (block : Block) (todo : List Act) (act : Act)
    (r : CallResult) : Prop where
  viewer : s.SameViewer s'
  commands : s'.commands = s.commands
  moves : Moves (fun a => a.isCall && r.isThrow) block act todo s.thread s'.main s'.thread

theorem mainAct_cases {c : Collector} {r : CallResult}
    (h : s.toCollector.act block todo r act = some c) :
    MainActed s { s with toCollector := c, toViewer := s.toViewer ++ act.sends } block todo act r :=
  ⟨sameViewer_of_collector s c _, rfl, moves_of_act h⟩

/-! ## The invariant

What the flag is worth is told from the last command that was sent, however many
are still on their way. Behind a StopCapture it is false. Behind a StartCapture
it is false only when nothing will be running, and true only as long as
something will be, or a Stopped status is still to come. At rest nothing is to
come, and so the flag says whether the capture is running.

To keep that, one has to know where the collector is while commands are on their
way, and which of them it is serving; this is the larger part of the invariant,
and of the proof that an act of the main thread keeps it. -/

/-- The main thread is not at work on a command of the other kind: a
StartCapture if `start`, and a StopCapture if not. -/
def Main.serves (start : Bool) : Main → Bool
  | .run block _ =>
    match block with
    | .guarded | .failed | .started | .cleanup => start
    | .stopping => true
    | _ => !start
  | _ => true

theorem serves_of_moves {start : Bool} {throws : Act → Bool} {thread thread' : Thread}
    {main' : Main} (hM : Moves throws block act todo thread main' thread')
    (h : (Main.run block (act :: todo)).serves start = true) : main'.serves start = true := by
  rcases hM.main with ⟨more, rfl, _⟩ | ⟨what, _, rfl⟩ | ⟨_, _, rfl⟩
  · cases more ++ todo with
    | nil => cases block <;> first | rfl | exact h
    | cons _ _ => exact h
  · cases block <;> first | rfl | exact h
  · rfl

/-- **The invariant of orderly runs.** The first part says where the collector
is, the second what is on its way to it and who is serving it, and the third
what the flag is worth. -/
structure System.Inv (s : System) : Prop where
  /-- The main thread is in a block of the source, at an act of it. -/
  wellFormed : s.main.WellFormed
  /-- A capture thread that has not been joined has a join ahead of it. -/
  home : Home s.main s.thread
  /-- The process has not been ended by an assignment over a joinable thread. -/
  alive : s.main ≠ .terminated
  /-- Nothing but commands is on its way to the collector. -/
  commands : ∀ m ∈ s.commands, ∃ c : Command, m = c.message
  /-- The last of them is of the kind of the last command sent. -/
  last : ∀ c : Command, s.commands.getLast? = some c.message → c.isStart = s.lastStart
  /-- When all have been received, the main thread is at work on the last, or
  done with it. -/
  serving : s.commands = [] → s.main.serves s.lastStart = true
  /-- When it is done with a StopCapture, no capture thread is in its loop. -/
  resting : s.commands = [] → s.lastStart = false → s.main = .recv → s.thread.inLoop = false
  /-- Between the send of a StartCapture and the write of the flag, that is
  the last command sent. -/
  sentStart : s.gui = .startSent → s.lastStart = true
  /-- The same of a StopCapture. -/
  sentStop : s.gui = .stopSent → s.lastStart = false
  /-- Behind a StopCapture the flag is false. -/
  stopped : s.gui = .idle → s.lastStart = false → s.remoteCapturing = false
  /-- Behind a StartCapture it is false only when all is over. -/
  cleared : s.gui = .idle → s.lastStart = true → s.remoteCapturing = false → s.Over
  /-- It is true only while a Stopped is to come or all is not over. -/
  set : s.gui = .idle → s.lastStart = true → s.remoteCapturing = true → ¬ (s.Over ∧ s.due = 0)
  /-- So it may be set once a StartCapture is sent. -/
  pending : s.gui = .startSent → ¬ (s.Over ∧ s.due = 0)

/-- Distinct commands have distinct types. -/
theorem message_type (c : Command) :
    c.message.type = if c.isStart then MessageType.startCapture else MessageType.stopCapture := by
  cases c <;> rfl

theorem isStart_of_message {c c' : Command} (h : c.message = c'.message) :
    c.isStart = c'.isStart := by
  have htype := congrArg Message.type h
  rw [message_type, message_type] at htype
  revert htype
  cases c.isStart <;> cases c'.isStart <;> decide

/-- A command, once received, is being served. -/
theorem dispatch_command (c : Command) (sent : List Bytes) :
    ∃ todo, Main.dispatch c.message sent
      = .run (if c.isStart then Block.guarded else Block.stop) todo := by
  cases c with
  | start frameType mode requestedFps =>
    unfold Main.dispatch
    rw [if_pos (show (Command.start frameType mode requestedFps).message.type = .startCapture
      from rfl)]
    simp only
    split
    · exact ⟨_, rfl⟩
    · exact ⟨_, rfl⟩
  | stop => exact ⟨_, rfl⟩

/-- **What a step of the main thread does.** The last parts say when it makes
all over: it does so by a throw of a StartCapture, or else a capture thread
is in its loop, or the last command is a StopCapture. -/
structure MainStepped (s s' : System) (r : CallResult) : Prop where
  /-- The viewer is left alone. -/
  viewer : s.SameViewer s'
  /-- The main thread is in a block of the source, at an act of it. -/
  wellFormed : s'.main.WellFormed
  /-- A capture thread that has not been joined has a join ahead of it. -/
  home : Home s'.main s'.thread
  /-- The process goes on. -/
  alive : s'.main ≠ .terminated
  /-- A command may have been taken from the front of those on their way. -/
  received : s'.commands <:+ s.commands
  /-- When all have been received, the main thread is at work on the last, or
  done with it. -/
  serving : s'.commands = [] → s'.main.serves s.lastStart = true
  /-- When it is done with a StopCapture, no capture thread is in its loop. -/
  resting : s'.commands = [] → s.lastStart = false → s'.main = .recv →
    s'.thread.inLoop = false
  /-- A Stopped that was due is still due. -/
  due : s.due ≤ s'.due
  /-- What was over is over. -/
  stays : s.Over → s'.Over
  /-- What becomes over does so in one of three ways. -/
  becomes : s'.Over → s.Over ∨ s.lastStart = false ∨
    (r.isThrow = true ∧ ∃ todo, s.main = .run .guarded todo ∧ s.commands = [])

theorem due_le_of_mainActed {r : CallResult} (hA : MainActed s s' block todo act r) :
    s.due ≤ s'.due := by
  have hcount := hA.viewer.countP_le
  rcases hA.moves.thread with ⟨_, hthread, ht⟩ | ⟨_, _, _, ht⟩ | ⟨_, _, ht⟩
  · have hrep : s.thread.willReport = false := by
      rcases hthread with h | h <;> rw [h] <;> rfl
    unfold System.due
    rw [hrep, ht]
    exact Nat.add_le_add_right hcount _
  · refine due_le_of_willReport hA.viewer ?_
    rw [ht]
    rfl
  · unfold System.due
    rw [ht]
    exact Nat.add_le_add_right hcount _

/-- Back at the channel behind a command that is no StartCapture, the capture
thread has been joined. -/
theorem thread_of_recv {r : CallResult} (hA : MainActed s s' block todo act r)
    (h : block.Follows (act :: todo)) (hhome : Home (.run block (act :: todo)) s.thread)
    (hserves : (Main.run block (act :: todo)).serves false = true) (hrecv : s'.main = .recv) :
    s'.thread = .none := by
  rcases hA.moves.thread with ⟨_, _, ht⟩ | ⟨rfl, _⟩ | ⟨hjoin, hterm, ht⟩
  · exact ht
  · obtain ⟨rfl, rfl⟩ := spawn_cases h
    cases hserves
  · rw [ht]
    by_contra hne
    have hahead := hhome hne
    have hb : block ≠ .failed := by
      rintro rfl
      cases hserves
    have hj : Act.join ∈ act :: todo := by
      cases block <;> first | exact absurd rfl hb | exact of_decide_eq_true hahead
    have hmem := (List.mem_cons.mp hj).resolve_left (fun he => hjoin he.symm)
    rcases hA.moves.main with ⟨more, hm, _⟩ | ⟨what, _, hm⟩ | ⟨_, _, hm⟩
    · rw [hm] at hrecv
      cases hmt : more ++ todo with
      | nil =>
        rw [(List.append_eq_nil_iff.mp hmt).2] at hmem
        exact absurd hmem List.not_mem_nil
      | cons _ _ =>
        rw [hmt] at hrecv
        cases hrecv
    · rw [hm] at hrecv
      cases block <;> cases hrecv
    · rw [hm] at hrecv
      cases hrecv

/-- A failed start stays a failed start until its thread is joined. -/
theorem over_of_mainActed {r : CallResult} (hA : MainActed s s' block todo act r)
    (hmain : s.main = .run block (act :: todo)) (h : block.Follows (act :: todo))
    (hover : s.Over) : s'.Over := by
  obtain ⟨hnil, hrest⟩ := hover
  refine ⟨by rw [hA.commands, hnil], ?_⟩
  rw [hmain] at hrest
  rcases hrest with ⟨hrecv, _⟩ | hfail
  · cases hrecv
  have hblock : act.isCall = false ∧ act ≠ .spawn := by
    cases block with
    | failed => exact ⟨(failed_cases h).1, (failed_cases h).2.1⟩
    | cleanup => exact ⟨(cleanup_cases h).1, (cleanup_cases h).2.1⟩
    | _ => cases hfail
  rcases hA.moves.main with ⟨more, hm, hmore, _⟩ | ⟨what, hthrow, _⟩ | ⟨hspawn, _⟩
  · rw [hmore hblock.1, List.nil_append] at hm
    cases todo with
    | cons _ _ =>
      right
      rw [hm]
      cases block <;> first | rfl | cases hfail
    | nil =>
      cases block with
      | failed =>
        right
        rw [hm]
        rfl
      | cleanup =>
        refine Or.inl ⟨hm, ?_⟩
        rcases hA.moves.thread with ⟨_, _, ht⟩ | ⟨hs, _⟩ | ⟨hj, _⟩
        · rw [ht]
          rfl
        · exact absurd hs hblock.2
        · exact absurd ((cleanup_cases h).2.2 rfl) hj
      | _ => cases hfail
  · exact absurd hthrow (by rw [hblock.1]; exact nofun)
  · exact absurd hspawn hblock.2

/-- The main thread is where all may be over. -/
def Main.atEnd : Main → Bool
  | .recv => true
  | main => main.failing

theorem atEnd_of_over (h : s.Over) : s.main.atEnd = true := by
  obtain ⟨_, ⟨hrecv, _⟩ | hfail⟩ := h
  · rw [hrecv]
    rfl
  · cases hm : s.main with
    | run block todo => rwa [hm] at hfail
    | _ => rw [hm] at hfail; cases hfail

/-- All becomes over in a step of the main thread only by a throw of a
StartCapture, unless the last command is a StopCapture. -/
theorem over_cases_of_mainActed {r : CallResult} (hA : MainActed s s' block todo act r)
    (hmain : s.main = .run block (act :: todo)) (h : block.Follows (act :: todo))
    (hserves : s.commands = [] → (Main.run block (act :: todo)).serves s.lastStart = true)
    (hover : s'.Over) :
    s.Over ∨ s.lastStart = false ∨ (r.isThrow = true ∧ block = .guarded) := by
  have hend := atEnd_of_over hover
  obtain ⟨hnil, hrest⟩ := hover
  rw [hA.commands] at hnil
  by_cases hfail : s.main.failing = true
  · exact Or.inl ⟨hnil, .inr hfail⟩
  have hserve := hserves hnil
  rw [hmain] at hfail
  cases hlast : s.lastStart with
  | false => exact Or.inr (.inl rfl)
  | true =>
    rw [hlast] at hserve
    cases block with
    | guarded =>
      -- a start that is guarded comes to its end by a throw alone
      rcases hA.moves.main with ⟨more, hm, _⟩ | ⟨what, hthrow, _⟩ | ⟨_, _, hm⟩
      · rw [hm] at hend
        cases hmt : more ++ todo <;> rw [hmt] at hend <;> cases hend
      · exact Or.inr (.inr ⟨(Bool.and_eq_true_iff.mp hthrow).2, rfl⟩)
      · rw [hm] at hend
        cases hend
    | started =>
      obtain ⟨hsafe, _, hspawn⟩ := started_cases h
      rcases hA.moves.main with ⟨more, hm, hmore, _⟩ | ⟨_, hthrow, _⟩ | ⟨_, _, hm⟩
      · rw [hmore hsafe, List.nil_append] at hm
        cases todo with
        | cons _ _ =>
          rw [hm] at hend
          cases hend
        | nil =>
          -- the last act is the spawn, and the thread is in its loop
          rcases hA.moves.thread with ⟨hj, _⟩ | ⟨_, _, _, ht⟩ | ⟨_, hterm, _⟩
          · rw [hspawn.mp rfl] at hj
            cases hj
          · rw [hm, ht] at hrest
            rcases hrest with ⟨_, hout⟩ | hf
            · cases hout
            · cases hf
          · rw [(hterm (hspawn.mp rfl)).2] at hm
            cases hm
      · exact absurd hthrow (by rw [hsafe]; exact nofun)
      · rw [hm] at hend
        cases hend
    | stopping =>
      rcases hA.moves.main with ⟨more, hm, _⟩ | ⟨what, _, hm⟩ | ⟨_, _, hm⟩
      · rw [hm] at hend
        cases hmt : more ++ todo <;> rw [hmt] at hend <;> cases hend
      · rw [hm] at hend
        cases hend
      · rw [hm] at hend
        cases hend
    | failed | cleanup => exact absurd rfl hfail
    | _ => cases hserve

theorem mainStep_cases {r : CallResult} (hs : s.Inv) (h : s.mainStep r = some s') :
    MainStepped s s' r := by
  unfold System.mainStep at h
  split at h
  · next hrecv =>
    -- a command is taken from the channel
    split at h
    · cases h
    · next m ms hchan =>
      cases h
      obtain ⟨c, rfl⟩ := hs.commands m (by rw [hchan]; exact List.mem_cons_self)
      obtain ⟨todo, hdisp⟩ := dispatch_command c s.sent
      have hbegins : ∀ l : List Act, Main.dispatch c.message s.sent ≠ .recv ∧
          (Main.dispatch c.message s.sent).atEnd = false := by
        rw [hdisp]
        cases c.isStart <;> exact fun _ => ⟨nofun, rfl⟩
      exact {
        viewer := ⟨rfl, rfl, rfl, rfl, List.prefix_refl _⟩
        wellFormed := wellFormed_dispatch _ _
        home := by
          intro _
          exact joinsAhead_dispatch c.message s.sent
        alive := by
          show Main.dispatch c.message s.sent ≠ .terminated
          rw [hdisp]
          exact nofun
        received := by
          rw [hchan]
          exact List.suffix_cons _ _
        serving := by
          intro hnil
          have hms : ms = [] := hnil
          -- the last command in the channel is the last one sent
          have hc := hs.last c (by rw [hchan, hms]; rfl)
          show (Main.dispatch c.message s.sent).serves s.lastStart = true
          rw [hdisp, hc]
          cases s.lastStart <;> rfl
        resting := fun _ _ h => absurd h (hbegins todo).1
        due := le_refl _
        stays := by
          rintro ⟨hnil, _⟩
          rw [hchan] at hnil
          cases hnil
        becomes := by
          intro hover
          exact absurd (atEnd_of_over hover) (by rw [(hbegins todo).2]; exact nofun) }
  · next block act todo hmain =>
    obtain ⟨c, hc, rfl⟩ := Option.map_eq_some_iff.mp h
    -- an act of a block is done
    have hA := mainAct_cases hc
    have hfollows := hs.wellFormed block (act :: todo) hmain
    have hhome : Home (.run block (act :: todo)) s.thread := by
      rw [← hmain]
      exact hs.home
    have hserves : s.commands = [] →
        (Main.run block (act :: todo)).serves s.lastStart = true := by
      rw [← hmain]
      exact hs.serving
    exact {
      viewer := hA.viewer
      wellFormed := wellFormed_of_moves hA.moves hfollows
      home := home_of_moves hA.moves (by simp [stopThread, Act.isCall]) hfollows hhome
      alive := not_terminated_of_moves hA.moves hfollows hhome
      received := by rw [hA.commands]
      serving := by
        intro hnil
        rw [hA.commands] at hnil
        exact serves_of_moves hA.moves (hserves hnil)
      resting := by
        intro hnil hlast hrecv
        rw [hA.commands] at hnil
        have hserve := hserves hnil
        rw [hlast] at hserve
        rw [thread_of_recv hA hfollows hhome hserve hrecv]
        rfl
      due := due_le_of_mainActed hA
      stays := over_of_mainActed hA hmain hfollows
      becomes := by
        intro hover
        have hnil : s.commands = [] := by exact hover.1
        rcases over_cases_of_mainActed hA hmain hfollows hserves hover with
          hov | hlast | ⟨hthrow, rfl⟩
        · exact Or.inl hov
        · exact Or.inr (.inl hlast)
        · exact Or.inr (.inr ⟨hthrow, _, hmain, hnil⟩) }
  · cases h

/-! ## Runs

A case for each step, and then the run. In the two runs at the end the exports
of the collector are empty, which makes the startup short. -/

theorem inv_initial (args : SessionArgs) : (System.initial args).Inv where
  wellFormed := wellFormed_start _
  home := fun h => absurd rfl h
  alive := nofun
  commands := nofun
  last := nofun
  serving := fun _ => rfl
  resting := fun _ _ _ => rfl
  sentStart := nofun
  sentStop := nofun
  stopped := fun _ _ => rfl
  cleared := nofun
  set := nofun
  pending := nofun

theorem inv_command {c : Command} (hs : s.Inv) (h : s.sendCommand c = some s') : s'.Inv := by
  unfold System.sendCommand at h
  split at h
  · cases h
    have hnil : s.commands ++ [c.message] ≠ [] := List.append_ne_nil_of_right_ne_nil _ nofun
    have hgui : ∀ g : Gui, (if c.isStart = true then Gui.startSent else Gui.stopSent) = g →
        g ≠ .idle ∧ (g = .startSent ↔ c.isStart = true) := by
      rintro g rfl
      cases c <;> exact ⟨nofun, by simp [Command.isStart]⟩
    exact {
      wellFormed := hs.wellFormed
      home := hs.home
      alive := hs.alive
      commands := by
        intro m hm
        rcases List.mem_append.mp hm with hm | hm
        · exact hs.commands m hm
        · exact ⟨c, List.mem_singleton.mp hm⟩
      last := by
        intro c' hc'
        have hlast : (s.commands ++ [c.message]).getLast? = some c'.message := hc'
        rw [List.getLast?_append] at hlast
        exact isStart_of_message (Option.some.inj hlast).symm
      serving := fun h => absurd h hnil
      resting := fun h => absurd h hnil
      sentStart := fun h => ((hgui _ h).2.mp rfl)
      sentStop := by
        intro h
        show c.isStart = false
        cases hc : c.isStart with
        | false => rfl
        | true => exact absurd ((hgui _ h).2.mpr hc) nofun
      stopped := fun h => absurd rfl (hgui _ h).1
      cleared := fun h => absurd rfl (hgui _ h).1
      set := fun h => absurd rfl (hgui _ h).1
      pending := fun _ hover => absurd hover.1.1 hnil }
  · cases h

theorem inv_writeFlag (hs : s.Inv) (h : s.writeFlag = some s') : s'.Inv := by
  unfold System.writeFlag at h
  split at h
  · cases h
  · next hgui =>
    cases h
    exact { hs with
      sentStart := nofun
      sentStop := nofun
      stopped := fun _ hlast => absurd hlast (by rw [hs.sentStart hgui]; exact nofun)
      cleared := nofun
      set := fun _ _ _ => hs.pending hgui
      pending := nofun }
  · next hgui =>
    cases h
    exact { hs with
      sentStart := nofun
      sentStop := nofun
      stopped := fun _ _ => rfl
      cleared := fun _ hlast => absurd hlast (by rw [hs.sentStop hgui]; exact nofun)
      set := nofun
      pending := nofun }

theorem inv_workerRecv (hs : s.Inv) (h : s.workerRecv = some s') : s'.Inv := by
  unfold System.workerRecv at h
  split at h
  · next m ms hworker hchan =>
    cases h
    have hdue : System.due { s with worker := some m, toViewer := ms } = s.due := by
      unfold System.due
      rw [hworker, hchan]
      rfl
    exact { hs with
      set := fun hgui hlast hflag hover => hs.set hgui hlast hflag ⟨hover.1, hdue ▸ hover.2⟩
      pending := fun hgui hover => hs.pending hgui ⟨hover.1, hdue ▸ hover.2⟩ }
  · cases h

/-- Handling a message takes it off those to come. -/
theorem due_workerHandle {m : Message} (flag : Bool) (h : s.worker = some m) :
    s.due = System.due { s with worker := none, remoteCapturing := flag }
      + if m.isStopped then 1 else 0 := by
  unfold System.due
  rw [h]
  show List.countP Message.isStopped (m :: s.toViewer) + _ = _
  rw [List.countP_cons]
  show _ + (if s.thread.willReport = true then 1 else 0)
    = (List.countP Message.isStopped s.toViewer
      + (if s.thread.willReport = true then 1 else 0)) + _
  omega

theorem inv_workerHandle (hs : s.Inv) (hok : s.Orderly .workerHandle)
    (h : s.workerHandle = some s') : s'.Inv := by
  unfold System.workerHandle at h
  split at h
  · cases h
  · next m hworker =>
    cases h
    have hdue := due_workerHandle (if m.isStopped = true then false else s.remoteCapturing)
      hworker
    cases hm : m.isStopped with
    | false =>
      -- the message says nothing about the capture
      rw [hm] at hdue
      exact { hs with
        set := fun hgui hlast hflag hover => hs.set hgui hlast hflag ⟨hover.1, hdue.trans hover.2⟩
        pending := fun hgui hover => hs.pending hgui ⟨hover.1, hdue.trans hover.2⟩ }
    | true =>
      obtain ⟨hstart, hidle⟩ := hok (by rw [hworker]; exact hm)
      rw [hm] at hdue
      exact { hs with
        stopped := fun _ _ => rfl
        cleared := fun hgui hlast _ => hidle hgui hlast
        set := nofun
        pending := by
          intro hgui hover
          have hone := hdue.trans (congrArg (· + 1) hover.2)
          exact hstart hgui ⟨hover.1, hone⟩ }

theorem inv_main {r : CallResult} (hs : s.Inv) (hok : s.Orderly (.main r))
    (h : s.mainStep r = some s') : s'.Inv := by
  have hst := mainStep_cases hs h
  obtain ⟨pre, hpre⟩ := hst.received
  -- a step that makes all over leaves a Stopped to come
  have hover : s.lastStart = true → s'.Over ∧ s'.due = 0 → s.Over ∧ s.due = 0 := by
    rintro hlast ⟨hov, hz⟩
    have hdue : s.due = 0 := Nat.le_zero.mp (hz ▸ hst.due)
    rcases hst.becomes hov with h' | h' | ⟨hthrow, todo, hmain, hnil⟩
    · exact ⟨h', hdue⟩
    · exact absurd hlast (by rw [h']; exact nofun)
    · obtain ⟨what, rfl⟩ : ∃ what, r = .throws what := by
        cases r <;> first | exact ⟨_, rfl⟩ | cases hthrow
      rcases hok (by rw [hmain]; rfl) with hne | hpos
      · exact absurd hnil hne
      · omega
  exact {
    wellFormed := hst.wellFormed
    home := hst.home
    alive := hst.alive
    commands := fun m hm => hs.commands m (by rw [← hpre]; exact List.mem_append_right _ hm)
    last := by
      intro c hc
      rw [hst.viewer.lastStart]
      refine hs.last c ?_
      rw [← hpre, List.getLast?_append, hc]
      rfl
    serving := by
      rw [hst.viewer.lastStart]
      exact hst.serving
    resting := by
      rw [hst.viewer.lastStart]
      exact hst.resting
    sentStart := by
      rw [hst.viewer.gui, hst.viewer.lastStart]
      exact hs.sentStart
    sentStop := by
      rw [hst.viewer.gui, hst.viewer.lastStart]
      exact hs.sentStop
    stopped := by
      rw [hst.viewer.gui, hst.viewer.lastStart, hst.viewer.remoteCapturing]
      exact hs.stopped
    cleared := by
      rw [hst.viewer.gui, hst.viewer.lastStart, hst.viewer.remoteCapturing]
      exact fun hgui hlast hflag => hst.stays (hs.cleared hgui hlast hflag)
    set := by
      rw [hst.viewer.gui, hst.viewer.lastStart, hst.viewer.remoteCapturing]
      exact fun hgui hlast hflag hov => hs.set hgui hlast hflag (hover hlast hov)
    pending := by
      rw [hst.viewer.gui]
      exact fun hgui hov => hs.pending hgui (hover (hs.sentStart hgui) hov) }

theorem inv_capture {r : FrameResult} (hs : s.Inv) (h : s.captureStep args r = some s') :
    s'.Inv := by
  have hst := captureStep_cases h
  have hover : s'.Over ∧ s'.due = 0 → s.Over ∧ s.due = 0 := by
    rintro ⟨⟨hnil, hrest⟩, hz⟩
    have hdue : s.due = 0 := Nat.le_zero.mp (hz ▸ hst.due)
    rw [hst.commands] at hnil
    rw [hst.main] at hrest
    refine ⟨⟨hnil, ?_⟩, hdue⟩
    rcases hrest with ⟨hrecv, hout⟩ | hfail
    · refine Or.inl ⟨hrecv, ?_⟩
      cases hin : s.thread.inLoop with
      | false => rfl
      | true =>
        rcases hst.leaving hin with hin' | hrep
        · exact absurd hin' (by rw [hout]; exact nofun)
        · -- a thread that leaves its loop has a Stopped to send
          unfold System.due at hz
          rw [if_pos hrep] at hz
          omega
    · exact Or.inr hfail
  have hstays : s.Over → s'.Over := by
    rintro ⟨hnil, hrest⟩
    refine ⟨by rw [hst.commands, hnil], ?_⟩
    rw [hst.main]
    rcases hrest with ⟨hrecv, hout⟩ | hfail
    · exact Or.inl ⟨hrecv, hst.outside hout⟩
    · exact Or.inr hfail
  exact {
    wellFormed := by rw [hst.main]; exact hs.wellFormed
    home := by
      rw [hst.main]
      exact fun _ => hs.home hst.live
    alive := by rw [hst.main]; exact hs.alive
    commands := by rw [hst.commands]; exact hs.commands
    last := by rw [hst.commands, hst.viewer.lastStart]; exact hs.last
    serving := by
      rw [hst.commands, hst.viewer.lastStart, hst.main]
      exact hs.serving
    resting := by
      rw [hst.commands, hst.viewer.lastStart, hst.main]
      exact fun hnil hlast hrecv => hst.outside (hs.resting hnil hlast hrecv)
    sentStart := by
      rw [hst.viewer.gui, hst.viewer.lastStart]
      exact hs.sentStart
    sentStop := by
      rw [hst.viewer.gui, hst.viewer.lastStart]
      exact hs.sentStop
    stopped := by
      rw [hst.viewer.gui, hst.viewer.lastStart, hst.viewer.remoteCapturing]
      exact hs.stopped
    cleared := by
      rw [hst.viewer.gui, hst.viewer.lastStart, hst.viewer.remoteCapturing]
      exact fun hgui hlast hflag => hstays (hs.cleared hgui hlast hflag)
    set := by
      rw [hst.viewer.gui, hst.viewer.lastStart, hst.viewer.remoteCapturing]
      exact fun hgui hlast hflag hov => hs.set hgui hlast hflag (hover hov)
    pending := by
      rw [hst.viewer.gui]
      exact fun hgui hov => hs.pending hgui (hover hov) }

/-- **An orderly step keeps the invariant.** -/
theorem inv_step (st : Step) (hs : s.Inv) (hok : s.Orderly st)
    (h : System.step args s st = some s') : s'.Inv := by
  cases st with
  | command c => exact inv_command hs h
  | writeFlag => exact inv_writeFlag hs h
  | workerRecv => exact inv_workerRecv hs h
  | workerHandle => exact inv_workerHandle hs hok h
  | main r => exact inv_main hs hok h
  | capture r => exact inv_capture hs h

/-- **At rest the invariant is agreement.** -/
theorem agrees_of_inv (hs : s.Inv) (hrest : s.AtRest) : s.Agrees := by
  have hflight : (s.worker.toList ++ s.toViewer).countP Message.isStopped = 0 := by
    rw [hrest.worker, hrest.toViewer]
    rfl
  -- a capture that is not running has been joined or has reported
  have hquiet : ¬ s.Running → s.thread = .none ∨ s.thread = .finished := by
    intro hrun
    rcases hrest.thread with h | h | h
    · exact Or.inl h
    · exact Or.inr h
    · exact absurd h hrun
  have hover : ¬ s.Running → s.Over ∧ s.due = 0 := by
    intro hrun
    rcases hquiet hrun with h | h
    · refine ⟨⟨hrest.commands, .inl ⟨hrest.main, by rw [h]; rfl⟩⟩, ?_⟩
      unfold System.due
      rw [hflight, h]
      rfl
    · refine ⟨⟨hrest.commands, .inl ⟨hrest.main, by rw [h]; rfl⟩⟩, ?_⟩
      unfold System.due
      rw [hflight, h]
      rfl
  constructor
  · intro hflag
    by_contra hrun
    cases hlast : s.lastStart with
    | false => exact absurd hflag (by rw [hs.stopped hrest.gui hlast]; exact nofun)
    | true => exact hs.set hrest.gui hlast hflag (hover hrun)
  · intro hrun
    cases hflag : s.remoteCapturing with
    | true => rfl
    | false =>
      cases hlast : s.lastStart with
      | true =>
        have hov := hs.cleared hrest.gui hlast hflag
        rcases hov.2 with ⟨_, hout⟩ | hfail
        · exact absurd hrun.1 (by rw [hout]; exact nofun)
        · rw [hrest.main] at hfail
          cases hfail
      | false =>
        have hout := hs.resting hrest.commands hlast hrest.main
        exact absurd hrun.1 (by rw [hout]; exact nofun)

/-- **Agreement on the capture state.** In a run of orderly steps, whatever the
order of the threads, the commands, the failures and the ends of the captures,
the flag is true at rest exactly if the capture is running.

Every step keeps the invariant `System.Inv`, which says what the flag is worth
behind the last command that was sent, however much is still on its way. At rest
nothing is on its way, and what the invariant then says of the flag is the
equivalence. -/
theorem agrees_of_orderly_run {steps : List Step}
    (hrun : Machine.Run (System.step args) System.Orderly (System.initial args) steps s)
    (hrest : s.AtRest) : s.Agrees :=
  agrees_of_inv (hrun.invariant (fun _ st _ hs hok h => inv_step st hs hok h)
    (inv_initial args)) hrest

/-- The steps of the main thread and of the worker, so many times. -/
def mains (n : ℕ) : List Step := List.replicate n (.main .ok)

def workers : ℕ → List Step
  | 0 => []
  | n + 1 => .workerRecv :: .workerHandle :: workers n

/-- Connecting to a collector that has no calibration to export. -/
def connecting : List Step :=
  mains 1 ++ [.main (.throws (ascii "no CCB"))] ++ mains 1 ++ [.main (.entries [])] ++ mains 1

/-- A StartCapture, up to the start of the camera. -/
def starting : List Step :=
  connecting ++ [.command (.start [] 0 0), .writeFlag] ++ mains 10

def quietArgs : SessionArgs := ⟨ascii "7.0.0", 0⟩

/-- The capture is running and all messages are handled. -/
def running : System :=
  { main := .recv, thread := .head 0, run := true, remoteCapturing := true, lastStart := true }

/-- A capture that is started, and in whose loop the collector stays: every step
of the run is orderly, the state it ends in is at rest, and both sides hold that
it is running. -/
theorem agrees_of_orderly_run_running : running.AtRest ∧ running.Agrees := by
  have hrest : running.AtRest :=
    ⟨rfl, rfl, rfl, rfl, rfl, .inr (.inr ⟨rfl, rfl⟩)⟩
  have hexec : Machine.execOk (System.step quietArgs) System.Orderly (System.initial quietArgs)
      (starting ++ mains 6 ++ workers 6) = some running := by decide +kernel
  exact ⟨hrest, agrees_of_orderly_run (Machine.run_of_execOk hexec) hrest⟩

/-- **A StartCapture that fails leaves the flag up.** The collector answers
with an Error status and nothing else, and the viewer waits for a capture
that does not exist. -/
theorem disagrees_after_failed_start :
    ∃ (steps : List Step) (s : System),
      Machine.Run (System.step quietArgs) Machine.always (System.initial quietArgs) steps s ∧
        s.AtRest ∧ ¬ s.Agrees := by
  refine ⟨starting ++ [.main (.throws (ascii "camera/sensor start failed"))] ++ mains 6
    ++ workers 6, { main := .recv, remoteCapturing := true, lastStart := true },
    Machine.run_iff_exec.mpr (by decide +kernel), ⟨rfl, rfl, rfl, rfl, rfl, .inl rfl⟩, ?_⟩
  intro hagree
  exact absurd (hagree.mp rfl).1 nofun
