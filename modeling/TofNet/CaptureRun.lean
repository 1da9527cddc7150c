import TofNet.RawFrame
import TofNet.SessionControl
import TofNet.Transition

/-!
# Captures, one after the other

The session once more, with what its threads do to the camera and on the
connection written down in the order it happens, and with every failure
allowed: of a call, of a receive, of a send, and the signal that ends the
process.

Three things are read off the record. Captures do not overlap: nothing a
capture thread does comes behind the announcement of a later capture. Within
one capture the frames are counted from 1, up to the frame limit, and the
Stopped status at its end has the last count. And a session that has entered
its command loop leaves with the camera stopped and no thread behind it.

The count is a 64-bit one: that it increases is so for the first 2^64 frames
of a capture, which is all of them under a frame limit.

The record is a list, to which a step adds what it sends. An entry has the
number of the capture it belongs to, which the program does not know: captures
are counted as their threads are launched. Everything that is to be shown is
about the places at which entries stand in this list, and the invariant (`Inv`)
says what the list is for where the two threads are.

There are two ways in which the list grows. The main thread adds what its
scripts send, and none of that belongs to a capture, except the announcement at
the end of a start. The capture thread adds a DataFrame or an Error status with
each turn, and a Stopped status at its end. `Inv.mainStep` and `Inv.of_capture`
are about the one and the other, whatever it is that is added, and `inv_step`
has a case for each step.
-/

/-! ## The record

An entry of the capture thread has the number of its capture, and one of the
main thread how many captures there have been. So it can be said of a list of
entries alone that captures do not overlap: behind the announcement of a capture
there is no entry of an earlier one. -/

/-- **What is recorded**: the messages sent by the main thread, with the number
of captures launched before; and the messages and the stop of the camera of a
capture thread, with the number of its capture. A message is recorded when
its send is called. -/
inductive Entry
  | main (captures : ℕ) (m : Message)
  | capture (number : ℕ) (m : Message)
  | stops (number : ℕ)
  deriving DecidableEq

namespace Entry

/-- The announcement of a capture: a Capturing status. -/
def announces : Entry → Option ℕ
  | .main captures m =>
    match m.status? with
    | some st => if st.code = StatusCode.capturing.code then some captures else none
    | none => none
  | .capture _ _ | .stops _ => none

/-- The capture whose thread the entry is of. -/
def number : Entry → Option ℕ
  | .main _ _ => none
  | .capture number _ | .stops number => some number

/-- The frame id of a DataFrame of the capture. -/
def frameOf (n : ℕ) : Entry → Option UInt64
  | .capture number m =>
    if number = n ∧ m.type = .dataFrame then
      some (DataFramePayloadHeader.decode m.payload).frameId
    else none
  | .main _ _ | .stops _ => none

/-- The frame id of a Stopped status of the capture's thread. -/
def stoppedOf (n : ℕ) : Entry → Option UInt64
  | .capture number m =>
    match m.status? with
    | some st => if number = n ∧ st.code = StatusCode.stopped.code then some st.frameId else none
    | none => none
  | .main _ _ | .stops _ => none

end Entry

/-! ## The session

The state is that of `Session` with the camera's flag, the signal, and the
record. A step may fail in each way in which the code may: a call of the camera
throws or returns what it likes, a send throws, a receive throws, and the signal
may come at any time. -/

/-- **The session, the camera and the record.** `capturing` is the camera's
`capturing_`; `entered` says whether the command loop has been reached. -/
structure CaptureRun extends Collector where
  /-- `capturing_` of the camera. -/
  capturing : Bool
  /-- `g_run`. -/
  gRun : Bool := true
  /-- The command loop has been reached. -/
  entered : Bool := false
  /-- The number of captures that were launched. -/
  captures : ℕ := 0
  /-- What has been sent, with the capture it belongs to. -/
  trace : List Entry := []

/-- How a frame comes out: what `get_frame` and `zstd_compress` return, or the
text of an exception. -/
inductive FrameOutcome
  | frame (f : RawFrame) (timestampNs : UInt64) (compressed : Bytes)
  | failed (what : Bytes)

/-- A step of one of the two threads, or the signal. -/
inductive CaptureRun.Step
  | interrupt
  | recv (m : Message)
  | recvThrows
  /-- The condition of the loop is false. -/
  | leave
  /-- An act of the main thread; `left` is what a call that throws leaves of
  the capture. -/
  | main (r : CallResult) (left : Bool)
  | mainThrows (what : Bytes)
  | capture (a : FrameOutcome)
  | captureThrows (what : Bytes)
  | captureLeaves

/-- The camera behind an act: `start` sets the flag when it returns, and
`stop` clears it, as do the other calls, if anything. -/
def Act.leaves (r : CallResult) (left capturing : Bool) : Act → Bool
  | .camStop => false
  | .camStart => if r = .ok then true else left
  | .switchMode _ => capturing && left
  | _ => capturing

/-- What an act sends. -/
def Act.message? : Act → Option Message
  | .send m => some m
  | _ => none

namespace CaptureRun

/-- A new session. What the camera is doing is what the last one has left. -/
def initial (args : SessionArgs) (capturing : Bool) : CaptureRun :=
  { main := .start args.apiVersion, capturing := capturing }

/-- The payload of the next DataFrame. -/
def frameResult (frameId : UInt64) : FrameOutcome → FrameResult
  | .frame f timestampNs compressed =>
    .frame ((dataFrameHeader (frameId + 1) timestampNs f compressed).encode ++ compressed)
  | .failed what => .failed what

/-- The main thread is at the head of its loop, or in `recv_message`. -/
def command (s : CaptureRun) (main : Main) : Option CaptureRun :=
  match s.main with
  | .recv => some { s with main := main }
  | _ => none

/-- An act of the main thread. -/
def mainAct (s : CaptureRun) (r : CallResult) (left : Bool) : Option CaptureRun :=
  match s.main with
  | .run block (act :: todo) =>
    (s.toCollector.act block todo r act).map (fun c => { s with
      toCollector := c
      capturing := act.leaves r left s.capturing
      entered := s.entered || decide (c.main = .recv)
      captures := if act = .spawn then s.captures + 1 else s.captures
      trace := s.trace ++ act.message?.toList.map (Entry.main s.captures) })
  | _ => none

/-- A send of the main thread fails. -/
def mainThrow (s : CaptureRun) (what : Bytes) : Option CaptureRun :=
  match s.main with
  | .run block (.send m :: _) => some { s with
      toCollector := s.toCollector.throw block what
      trace := s.trace ++ [.main s.captures m] }
  | _ => none

/-- The capture thread: an act of its send, or its next turn. `get_frame`
throws while the camera does not capture; at the frame limit the thread stops
the camera. -/
def captureStep (args : SessionArgs) (s : CaptureRun) (a : FrameOutcome) : Option CaptureRun :=
  match s.thread.acts with
  | some acts => (s.toCollector.captureAct acts).map (fun c => { s with
      toCollector := c
      trace := s.trace ++ (acts.head?.bind Act.message?).toList.map (Entry.capture s.captures) })
  | none =>
    match s.thread with
    | .head frameId =>
      let a := if s.capturing = true then a else .failed (ascii "not capturing")
      (s.toCollector.captureTurn args (frameResult frameId a)).map (fun c =>
        { s with toCollector := c })
    | .limit _ => (s.toCollector.captureTurn args (.failed [])).map (fun c => { s with
        toCollector := c
        capturing := false
        trace := s.trace ++ [.stops s.captures] })
    | _ => none

/-- A send of the capture thread fails. -/
def captureFail (s : CaptureRun) (what : Bytes) : Option CaptureRun :=
  match s.thread.acts with
  | some (.send m :: _) => some { s with
      toCollector := s.toCollector.captureThrow what
      trace := s.trace ++ [.capture s.captures m] }
  | _ => none

/-- The signal has come, and the capture thread leaves its loop. -/
def captureLeave (s : CaptureRun) : Option CaptureRun :=
  match s.thread with
  | .head frameId =>
    if s.gRun = false then some { s with thread := .report (stoppedReport false frameId) }
    else none
  | _ => none

/-- **The session**, in any order of its threads' steps. -/
def step (args : SessionArgs) : Machine CaptureRun Step
  | s, .interrupt => some { s with gRun := false }
  | s, .recv m => s.command (.dispatch m s.sent)
  | s, .recvThrows => s.command (.run .stopping stopThread)
  | s, .leave => if s.gRun = false then s.command (.run .stopping stopThread) else none
  | s, .main r left => s.mainAct r left
  | s, .mainThrows what => s.mainThrow what
  | s, .capture a => s.captureStep args a
  | s, .captureThrows what => s.captureFail what
  | s, .captureLeaves => s.captureLeave

/-! ## What holds of the record

Most parts of the discipline are about the record. Two are about the program: a
thread is never launched over one that has not been joined, which would end the
process; and a session that has ended, behind its command loop, has stopped the
camera and has no capture thread. -/

/-- The frame ids of a capture's DataFrames, in the order they were sent. -/
def frames (s : CaptureRun) (n : ℕ) : List UInt64 := s.trace.filterMap (Entry.frameOf n)

/-- The frame ids of its Stopped statuses. -/
def reports (s : CaptureRun) (n : ℕ) : List UInt64 := s.trace.filterMap (Entry.stoppedOf n)

/-- **The discipline of the captures.** -/
structure Disciplined (args : SessionArgs) (s : CaptureRun) : Prop where
  /-- No thread is launched over one that has not been joined. -/
  joined : s.main ≠ .terminated
  /-- What a capture's thread does comes before the announcement of the next
  capture. -/
  ordered : s.trace.Pairwise (fun e e' => ∀ n k, e.announces = some n → e'.number = some k → n < k)
  /-- The first frame of a capture has the number 1. -/
  starts : ∀ n id, (s.frames n).head? = some id → id = 1
  /-- The numbers increase, as long as a counter of 64 bits can count them. -/
  increases : ∀ n, (s.frames n).length < 2 ^ 64 → (s.frames n).Pairwise (· < ·)
  /-- No capture has more frames than the limit, if there is one. -/
  limit : args.maxFrames ≠ 0 → ∀ n, (s.frames n).length ≤ args.maxFrames.toNat
  /-- A report of the end has a number that no frame of its capture exceeds. -/
  reported : ∀ n, (s.frames n).length < 2 ^ 64 → ∀ id ∈ s.reports n, ∀ f ∈ s.frames n, f ≤ id
  /-- The session has ended, after its command loop. -/
  exits : s.main = .ended → s.entered = true → s.capturing = false ∧ s.thread = .none

/-! ## The invariant

`Counts` says of a capture thread, by where it is, how many frames it has sent
and whether it has reported. It is stated for a number of frames and not for the
thread's own counter, as that is one of 64 bits; the two are compared in
`Counts`, and only there. -/

/-- A send of the capture thread that has still to be made. -/
def Sending (m : Message) (todo : List Act) : Prop :=
  todo = threadSend m ∨ todo = [.send m, .unlock]

/-- The first `k` frame ids. -/
def countUp (k : ℕ) : List UInt64 := (List.range k).map (fun i => UInt64.ofNat (i + 1))

/-- **The thread counts its frames**: `k` of them have been sent, and `reports`
are the Stopped statuses that have. -/
def Counts (args : SessionArgs) (k : ℕ) (reports : List UInt64) : Thread → Prop
  | .none | .finished => True
  | .head frameId | .limit frameId => frameId = UInt64.ofNat k ∧ reports = []
  | .frame frameId todo => reports = [] ∧
      ((todo = [.unlock] ∧ frameId = UInt64.ofNat k)
        ∨ ∃ payload, Sending ⟨.dataFrame, payload⟩ todo
          ∧ (DataFramePayloadHeader.decode payload).frameId = UInt64.ofNat (k + 1)
          ∧ frameId = UInt64.ofNat (k + 1) ∧ (args.maxFrames ≠ 0 → k < args.maxFrames.toNat))
  | .error frameId todo => reports = [] ∧ frameId = UInt64.ofNat k
      ∧ (todo = [.unlock] ∨ ∃ what, Sending (statusMessage .error what frameId) todo)
  | .report todo => todo = [.unlock]
      ∨ (reports = [] ∧ ∃ text, Sending (statusMessage .stopped text (UInt64.ofNat k)) todo)

/-- The act announces a capture. -/
def announces : Act → Prop
  | .send m => ∃ st, m.status? = some st ∧ st.code = StatusCode.capturing.code
  | _ => False

/-- **What every step keeps.** -/
structure Inv (args : SessionArgs) (s : CaptureRun) : Prop where
  /-- The main thread is in a block of the source, at an act of it. -/
  wellFormed : s.main.WellFormed
  /-- A capture thread that has not been joined has a join ahead of it. -/
  home : Home s.main s.thread
  /-- No thread was launched over one that is joinable. -/
  alive : s.main ≠ .terminated
  /-- A capture is announced in one block only. -/
  announcing : ∀ block todo, s.main = .run block todo → block ≠ .started →
    ∀ act ∈ todo, ¬ announces act
  /-- In the blocks of the startup the command loop has not been reached. -/
  startup : ∀ block todo, s.main = .run block todo → block.startsUp = true → s.entered = false
  /-- Behind the stop of the camera it does not capture. -/
  stopping : ∀ todo, s.main = .run .stopping todo → Act.camStop ∉ todo → s.capturing = false
  /-- A session that has ended has stopped its camera. -/
  ended : s.main = .ended → s.entered = true → s.capturing = false
  /-- No entry belongs to a capture that was not launched yet. -/
  numbers : ∀ e ∈ s.trace, ∀ k, e.number = some k → k ≤ s.captures
  /-- An announcement has the number of captures that had been launched by
  then, and where there is a thread, another has been launched since. -/
  announced : ∀ e ∈ s.trace, ∀ n, e.announces = some n →
    n ≤ s.captures ∧ (s.thread ≠ .none → n < s.captures)
  ordered : s.trace.Pairwise (fun e e' => ∀ n k, e.announces = some n → e'.number = some k → n < k)
  /-- The frames of a capture are numbered 1, 2, 3, and so on. -/
  frames : ∀ n, s.frames n = countUp (s.frames n).length
  limit : args.maxFrames ≠ 0 → ∀ n, (s.frames n).length ≤ args.maxFrames.toNat
  /-- A report has the number of the last frame. -/
  reports : ∀ n, ∀ id ∈ s.reports n, id = UInt64.ofNat (s.frames n).length
  /-- The counter in the thread's hands is that of the capture under way. -/
  counts : Counts args (s.frames s.captures).length (s.reports s.captures) s.thread

/-! ## The announcements

A Capturing status is sent in one place of the source. That no other act sends
one is shown by going through the scripts, and it is needed to know that an
announcement on the record is that of the capture which has just been launched. -/

/-- A status with another code announces nothing. -/
theorem not_announces_status {code : StatusCode} (hcode : code ≠ .capturing) (text : Bytes)
    (frameId : UInt64) : ¬ announces (.send (statusMessage code text frameId)) := by
  rintro ⟨st, hst, hcapturing⟩
  rw [status?_statusMessage] at hst
  cases hst
  exact hcode (congrArg StatusCode.mk hcapturing)

/-- Nor does another message. -/
theorem not_announces_of_type {m : Message} (h : m.type ≠ .status) : ¬ announces (.send m) := by
  rintro ⟨st, hst, -⟩
  rw [Message.status?, if_neg (fun hm => h hm.1)] at hst
  cases hst

/-- So a status in a scope of its own announces nothing, unless it says
Capturing. -/
theorem not_announces_lockedStatus {code : StatusCode} (hcode : code ≠ .capturing) (text : Bytes) :
    ∀ act ∈ lockedStatus code text, ¬ announces act := by
  intro act hact
  simp only [lockedStatus, List.mem_cons, List.not_mem_nil, or_false] at hact
  rcases hact with rfl | rfl | rfl
  · exact id
  · exact not_announces_status hcode text 0
  · exact id

/-- What stops a thread sends nothing. -/
theorem not_announces_stopThread : ∀ act ∈ stopThread, ¬ announces act := by
  intro act hact
  simp only [stopThread, List.mem_cons, List.not_mem_nil, or_false] at hact
  rcases hact with rfl | rfl | rfl <;> exact id

/-- The script of a StartCapture has status messages in it, but not that one: it
comes in the block behind it. -/
theorem not_announces_startCapture (ft : Bytes) (fps : UInt32) (sent : List Bytes) :
    ∀ act ∈ startCapture ft fps sent, ¬ announces act := by
  have hwait : ∀ text, ∀ act ∈ lockedStatus .waitingForCommand text, ¬ announces act :=
    fun text => not_announces_lockedStatus (by decide) text
  have hcall : ∀ {l : List Act} {call : Act}, (∀ act ∈ l, ¬ announces act) → ¬ announces call →
      ∀ act ∈ l ++ [call], ¬ announces act := by
    intro l call hl hc act hact
    rcases List.mem_append.mp hact with hact | hact
    · exact hl act hact
    · cases List.mem_singleton.mp hact
      exact hc
  have hif : ∀ {p : Prop} [Decidable p] {l : List Act}, (∀ act ∈ l, ¬ announces act) →
      ∀ act ∈ (if p then l else []), ¬ announces act := by
    intro p _ l hl
    split
    · exact hl
    · exact fun act hact => absurd hact List.not_mem_nil
  unfold startCapture
  simp only [List.forall_mem_append]
  refine ⟨⟨⟨⟨⟨⟨hwait _, not_announces_stopThread⟩, hif (hcall (hwait _) id)⟩,
    hif (hcall (hwait _) id)⟩, hif (hcall (hwait _) id)⟩, hwait _⟩, ?_⟩
  exact fun act hact => by cases List.mem_singleton.mp hact; exact id

/-- A command is served without an announcement, until it has started. -/
theorem not_announces_dispatch (m : Message) (sent : List Bytes) {block : Block} {todo : List Act}
    (h : Main.dispatch m sent = .run block todo) : ∀ act ∈ todo, ¬ announces act := by
  have hstop := not_announces_stopThread
  unfold Main.dispatch at h
  split at h
  · dsimp only at h
    split at h
    · cases h
      exact not_announces_startCapture _ _ _
    · cases h
      exact not_announces_startCapture _ _ _
  · split at h
    · cases h
      refine List.forall_mem_append.mpr ⟨hstop, fun act hact => ?_⟩
      cases List.mem_singleton.mp hact
      exact not_announces_status (by decide) _ _
    · split at h
      · cases h
        exact List.forall_mem_append.mpr ⟨hstop, hstop⟩
      · cases h

/-- The script behind a block announces a capture only if it is `started`. -/
theorem not_announces_done {block block' : Block} {todo : List Act}
    (h : block.done = .run block' todo) (hne : block' ≠ .started) :
    ∀ act ∈ todo, ¬ announces act := by
  cases block with
  | guarded => cases h; exact absurd rfl hne
  | failed => cases h; exact not_announces_stopThread
  | dealias | dealiasFailed =>
    cases h
    exact fun act hact => by
      cases List.mem_singleton.mp hact
      exact not_announces_status (by decide) _ _
  | hello | ccb | ccbFailed =>
    cases h
    exact fun act hact => by cases List.mem_singleton.mp hact; exact id
  | _ => cases h

/-- No handler announces one. -/
theorem not_announces_thrown {block block' : Block} {what : Bytes} {todo : List Act}
    (h : block.thrown what = .run block' todo) : ∀ act ∈ todo, ¬ announces act := by
  cases block with
  | guarded => cases h; exact not_announces_lockedStatus (by decide) _
  | failed | started | cleanup | stop => cases h; exact not_announces_stopThread
  | ccb | dealias =>
    cases h
    exact fun act hact => by
      cases List.mem_singleton.mp hact
      exact not_announces_status (by decide) _ _
  | _ => cases h

/-- An export of the calibration gives other messages to send, … -/
theorem not_announces_sendCcb (ccb : ModuleCcb) : ∀ act ∈ sendCcb ccb, ¬ announces act := by
  intro act hact
  simp only [sendCcb, List.mem_cons, List.not_mem_nil, or_false] at hact
  rcases hact with rfl | rfl
  · exact not_announces_of_type (by decide : MessageType.ccbFile ≠ .status)
  · exact not_announces_status (by decide) _ _

/-- … and so does one of dealias data. -/
theorem not_announces_sendDealiasEntries (entries : List DealiasEntry) :
    ∀ act ∈ sendDealiasEntries entries, ¬ announces act := by
  intro act hact
  obtain ⟨entry, -, hentry⟩ := List.mem_flatMap.mp hact
  split at hentry
  · exact absurd hentry List.not_mem_nil
  · simp only [List.mem_cons, List.not_mem_nil, or_false] at hentry
    rcases hentry with rfl | rfl | rfl
    · exact not_announces_of_type (by decide : MessageType.dealiasData ≠ .status)
    · exact not_announces_status (by decide) _ _
    · exact id

/-- **What an export gives to send announces nothing.** -/
theorem main_of_act {c c' : Collector} {block : Block} {act : Act} {todo : List Act}
    {r : CallResult} (h : c.act block todo r act = some c') :
    (∃ more, c'.main = .resume block (more ++ todo) ∧ ∀ a ∈ more, ¬ announces a)
      ∨ (∃ what, act.isCall = true ∧ c'.main = block.thrown what) ∨ c'.main = .terminated := by
  have hnil : ∀ a ∈ ([] : List Act), ¬ announces a := fun a ha => absurd ha List.not_mem_nil
  cases act with
  | lock =>
    simp only [Collector.act] at h
    split at h
    · cases h
      exact .inl ⟨[], rfl, hnil⟩
    · cases h
  | unlock | send _ | markSent _ | setRun _ | camStop =>
    cases h
    exact .inl ⟨[], rfl, hnil⟩
  | join =>
    simp only [Collector.act] at h
    split at h
    · cases h
      exact .inl ⟨[], rfl, hnil⟩
    · cases h
  | spawn =>
    simp only [Collector.act] at h
    split at h
    · cases h
      exact .inl ⟨[], rfl, hnil⟩
    · cases h
      exact .inr (.inr rfl)
  | exportCcb =>
    simp only [Collector.act] at h
    split at h
    · next ccb =>
      cases h
      exact .inl ⟨sendCcb ccb, rfl, not_announces_sendCcb ccb⟩
    · next what =>
      cases h
      exact .inr (.inl ⟨what, rfl, rfl⟩)
    · cases h
  | exportDealias frameTypes locked =>
    simp only [Collector.act] at h
    split at h
    · next entries =>
      cases h
      refine .inl ⟨_, rfl, ?_⟩
      have hentries := not_announces_sendDealiasEntries entries
      split
      · refine List.forall_mem_append.mpr ⟨List.forall_mem_append.mpr ⟨?_, hentries⟩, ?_⟩
        · exact fun a ha => by cases List.mem_singleton.mp ha; exact id
        · exact fun a ha => by cases List.mem_singleton.mp ha; exact id
      · exact hentries
    · next what =>
      cases h
      exact .inr (.inl ⟨what, rfl, rfl⟩)
    · cases h
  | setRequestedFps _ | switchMode _ | camStart =>
    simp only [Collector.act] at h
    split at h
    · cases h
      exact .inl ⟨[], rfl, hnil⟩
    · next what =>
      cases h
      exact .inr (.inl ⟨what, rfl, rfl⟩)
    · cases h

/-! ## The main thread

What an act does to the control of the main thread is known from
`SessionControl` (`Moves`), and with it where the thread can be. The startup is
entered from nowhere else, the last script is entered as a whole, and nothing is
added to it; so one who finds the session ended knows that the script was gone
through, up to its end or to the throw that ended it. -/

section MainThread

variable {args : SessionArgs} {s : CaptureRun} {c : Collector} {block : Block} {act : Act}
  {todo : List Act} {throws : Act → Bool}

/-- Where a move of the main thread can lead. -/
theorem main_cases (hM : Moves throws block act todo s.thread c.main c.thread)
    (halive : c.main ≠ .terminated) :
    (∃ more, c.main = .resume block (more ++ todo) ∧ (act.isCall = false → more = []))
      ∨ ∃ what, throws act = true ∧ c.main = block.thrown what := by
  rcases hM.main with ⟨more, heq, hcall, -⟩ | ⟨what, hthrow, heq⟩ | ⟨-, -, heq⟩
  · exact .inl ⟨more, heq, hcall⟩
  · exact .inr ⟨what, hthrow, heq⟩
  · exact absurd heq halive

/-- The startup is entered from nowhere else. -/
theorem startsUp_of_run {main' : Main} {block' : Block} {todo' : List Act}
    (hm : (∃ rest, main' = .resume block rest) ∨ ∃ what, main' = block.thrown what)
    (hrun : main' = .run block' todo') (hstarts : block'.startsUp = true) :
    block.startsUp = true := by
  rcases hm with ⟨rest, rfl⟩ | ⟨what, rfl⟩
  · cases rest with
    | nil => cases block <;> cases hrun <;> first | rfl | cases hstarts
    | cons act rest =>
      cases hrun
      exact hstarts
  · cases block <;> cases hrun <;> first | rfl | cases hstarts

/-- The end of the session is entered with its whole script, or gone on in. So a
session that is in it has the stop of the camera ahead, or behind it. -/
theorem stopping_of_run {main' : Main} {todo' : List Act}
    (hm : (∃ rest, main' = .resume block rest) ∨ ∃ what, main' = block.thrown what)
    (hrun : main' = .run .stopping todo') :
    todo' = stopThread ∨ (block = .stopping ∧ main' = .resume .stopping todo') := by
  rcases hm with ⟨rest, rfl⟩ | ⟨what, rfl⟩
  · cases rest with
    | nil => cases block <;> cases hrun
    | cons act rest =>
      cases hrun
      exact .inr ⟨rfl, rfl⟩
  · cases block <;> cases hrun <;> exact .inl rfl

/-- The session ends behind its last script, or is thrown out of the
startup. -/
theorem ended_of_run {main' : Main}
    (hm : (∃ rest, main' = .resume block rest) ∨ ∃ what, main' = block.thrown what)
    (hended : main' = .ended) :
    block.startsUp = true ∨ block = .stopping := by
  rcases hm with ⟨rest, rfl⟩ | ⟨what, rfl⟩
  · cases rest with
    | nil => cases block <;> first | exact .inr rfl | cases hended
    | cons act rest => cases hended
  · cases block <;> first | exact .inr rfl | exact .inl rfl | cases hended

/-- The last script is not thrown out of, and nothing is added to it. -/
theorem resume_of_stopping (hM : Moves throws .stopping act todo s.thread c.main c.thread)
    (hfollows : Block.stopping.Follows (act :: todo)) (halive : c.main ≠ .terminated)
    (hstop : ∀ a ∈ stopThread, throws a = false) : c.main = .resume .stopping todo := by
  rcases main_cases hM halive with ⟨more, heq, hmore⟩ | ⟨what, hthrow, -⟩
  · rw [hmore (stopping_cases hfollows).1] at heq
    exact heq
  · have hin : act ∈ stopThread := by
      rcases List.mem_append.mp (mem_of_suffix hfollows) with h | h <;> exact h
    exact Bool.noConfusion ((hstop act hin).symm.trans hthrow)

/-- Behind an act of the last script the camera is stopped, unless its stop is
still to come. None of the acts there starts it again. -/
theorem capturing_of_stopping (hs : s.Inv args) (hmain : s.main = .run .stopping (act :: todo))
    (r : CallResult) (left : Bool) (hrest : Act.camStop ∉ todo) :
    act.leaves r left s.capturing = false := by
  have hmem : act ∈ stopThread := by
    rcases List.mem_append.mp (mem_of_suffix (hs.wellFormed _ _ hmain)) with h | h <;> exact h
  by_cases hcam : act = .camStop
  · rw [hcam]
    rfl
  have hstopped : s.capturing = false := hs.stopping _ hmain (fun h => by
    rcases List.mem_cons.mp h with h | h
    · exact hcam h.symm
    · exact hrest h)
  simp only [stopThread, List.mem_cons, List.not_mem_nil, or_false] at hmem
  rcases hmem with rfl | rfl | rfl
  · exact hstopped
  · exact absurd rfl hcam
  · exact hstopped

/-! ### The record behind an act

The main thread's entries are neither frames nor reports, so that for every
capture these are what they were. Only the announcement matters, and it is
behind all that the captures before it have left, since these have been joined.
-/

/-- What the main thread sends is of no capture: it adds no frame to any, … -/
theorem frames_main (n k : ℕ) (ms : List Message) (trace : List Entry) :
    (trace ++ ms.map (Entry.main k)).filterMap (Entry.frameOf n)
      = trace.filterMap (Entry.frameOf n) := by
  rw [List.filterMap_append, List.filterMap_map]
  have hnil : ms.filterMap (Entry.frameOf n ∘ Entry.main k) = [] :=
    List.filterMap_eq_nil_iff.mpr (fun _ _ => rfl)
  rw [hnil, List.append_nil]

/-- … and no report. -/
theorem reports_main (n k : ℕ) (ms : List Message) (trace : List Entry) :
    (trace ++ ms.map (Entry.main k)).filterMap (Entry.stoppedOf n)
      = trace.filterMap (Entry.stoppedOf n) := by
  rw [List.filterMap_append, List.filterMap_map]
  have hnil : ms.filterMap (Entry.stoppedOf n ∘ Entry.main k) = [] :=
    List.filterMap_eq_nil_iff.mpr (fun _ _ => rfl)
  rw [hnil, List.append_nil]

/-- A capture that has not been launched has sent no frame, as no entry has its
number, … -/
theorem Inv.frames_eq_nil (hs : s.Inv args) {n : ℕ} (hn : s.captures < n) : s.frames n = [] := by
  refine List.filterMap_eq_nil_iff.mpr (fun e he => ?_)
  cases e with
  | capture number m =>
    have hle := hs.numbers _ he number rfl
    exact if_neg (fun h => by omega)
  | main _ _ | stops _ => rfl

/-- … and has not reported. -/
theorem Inv.reports_eq_nil (hs : s.Inv args) {n : ℕ} (hn : s.captures < n) : s.reports n = [] := by
  refine List.filterMap_eq_nil_iff.mpr (fun e he => ?_)
  cases e with
  | capture number m =>
    have hle := hs.numbers _ he number rfl
    dsimp only [Entry.stoppedOf]
    split
    · exact if_neg (fun h => by omega)
    · rfl
  | main _ _ | stops _ => rfl

/-- An entry of the main thread that announces is what it says. -/
theorem announces_of_entry {k n : ℕ} {m : Message} (h : (Entry.main k m).announces = some n) :
    n = k ∧ announces (.send m) := by
  dsimp only [Entry.announces] at h
  split at h
  · next st hst =>
    split at h
    · next hcode => exact ⟨(Option.some.inj h).symm, st, hst, hcode⟩
    · cases h
  · cases h

/-- **A step of the main thread keeps the invariant.** What it adds to the
record is an entry of its own, so the frames and the reports stay. If it is an
announcement, the block is `started`, in which no thread is there any more, and
the captures of that moment are all over; the launch at the end of the block
makes one capture more, which has no entries yet. The clauses about the end of
the session come from `stopping_of_run` and `capturing_of_stopping`. -/
theorem Inv.mainStep (hs : s.Inv args) (hmain : s.main = .run block (act :: todo))
    (hM : Moves throws block act todo s.thread c.main c.thread)
    (hstop : ∀ a ∈ stopThread, throws a = false)
    (hann : ∀ block' todo', c.main = .run block' todo' → block' ≠ .started →
      ∀ a ∈ todo', ¬ announces a)
    (r : CallResult) (left : Bool) :
    Inv args { s with
      toCollector := c
      capturing := act.leaves r left s.capturing
      entered := s.entered || decide (c.main = .recv)
      captures := if act = .spawn then s.captures + 1 else s.captures
      trace := s.trace ++ act.message?.toList.map (Entry.main s.captures) } := by
  have hfollows := hs.wellFormed block (act :: todo) hmain
  have hhome : Home (.run block (act :: todo)) s.thread := by
    rw [← hmain]
    exact hs.home
  have halive := not_terminated_of_moves hM hfollows hhome
  have hm : (∃ rest, c.main = .resume block rest) ∨ ∃ what, c.main = block.thrown what := by
    rcases main_cases hM halive with ⟨more, heq, -⟩ | ⟨what, -, heq⟩
    · exact .inl ⟨_, heq⟩
    · exact .inr ⟨what, heq⟩
  have hcaptures : s.captures ≤ if act = .spawn then s.captures + 1 else s.captures := by
    split
    · exact Nat.le_succ _
    · exact Nat.le_refl _
  have hmem : ∀ e ∈ s.trace ++ act.message?.toList.map (Entry.main s.captures),
      e ∈ s.trace ∨ ∃ m, act = .send m ∧ e = .main s.captures m := by
    intro e he
    rcases List.mem_append.mp he with he | he
    · exact .inl he
    · obtain ⟨m, hmsg, rfl⟩ := List.mem_map.mp he
      cases act with
      | send m' =>
        cases List.mem_singleton.mp hmsg
        exact .inr ⟨m, rfl, rfl⟩
      | _ => exact absurd hmsg List.not_mem_nil
  -- an announcement is sent while there is no thread
  have hannounce : ∀ m, act = .send m → announces (.send m) → s.thread = .none := by
    intro m hact hannounces
    by_contra hne
    have hstarted : block = .started := by
      by_contra hb
      exact hs.announcing block _ hmain hb act List.mem_cons_self (hact ▸ hannounces)
    subst hstarted
    exact (started_cases hfollows).2.1 (of_decide_eq_true (hhome hne))
  refine {
    wellFormed := wellFormed_of_moves hM hfollows
    home := home_of_moves hM hstop hfollows hhome
    alive := halive
    announcing := hann
    startup := ?startup
    stopping := ?stopping
    ended := ?ended
    numbers := ?numbers
    announced := ?announced
    ordered := ?ordered
    frames := ?frames
    limit := ?limit
    reports := ?reports
    counts := ?counts }
  case startup =>
    intro block' todo' hrun hstarts
    have hold := hs.startup block _ hmain (startsUp_of_run hm hrun hstarts)
    have hrecv : decide (c.main = .recv) = false :=
      decide_eq_false (by rw [hrun]; exact Main.noConfusion)
    show (s.entered || decide (c.main = .recv)) = false
    rw [hold, hrecv]
    rfl
  case stopping =>
    intro todo' hrun hnot
    rcases stopping_of_run hm hrun with rfl | ⟨rfl, -⟩
    · exact absurd (by simp [stopThread]) hnot
    · refine capturing_of_stopping hs hmain r left ?_
      have hrun' : Main.resume .stopping todo = .run .stopping todo' :=
        (resume_of_stopping hM hfollows halive hstop).symm.trans hrun
      cases todo with
      | nil => cases hrun'
      | cons a rest => cases hrun'; exact hnot
  case ended =>
    intro hended hentered
    have hrecv : decide (c.main = .recv) = false :=
      decide_eq_false (by rw [hended]; exact Main.noConfusion)
    have hentered' : s.entered = true := by
      have h : (s.entered || decide (c.main = .recv)) = true := hentered
      rwa [hrecv, Bool.or_false] at h
    rcases ended_of_run hm hended with hstarts | rfl
    · exact Bool.noConfusion ((hs.startup block _ hmain hstarts).symm.trans hentered')
    · refine capturing_of_stopping hs hmain r left ?_
      have hended' : Main.resume .stopping todo = .ended :=
        (resume_of_stopping hM hfollows halive hstop).symm.trans hended
      cases todo with
      | nil => exact List.not_mem_nil
      | cons a rest => cases hended'
  case numbers =>
    intro e he k hk
    rcases hmem e he with he | ⟨m, -, rfl⟩
    · exact (hs.numbers e he k hk).trans hcaptures
    · cases hk
  case announced =>
    intro e he n hn
    rcases hmem e he with he | ⟨m, hact, rfl⟩
    · -- a spawn begins a new capture, and what was announced is of older ones
      obtain ⟨hle, hlt⟩ := hs.announced e he n hn
      refine ⟨hle.trans hcaptures, fun hthread => ?_⟩
      rcases hM.thread with ⟨-, -, hnone⟩ | ⟨hspawn, -, -, -⟩ | ⟨-, -, hsame⟩
      · exact absurd hnone hthread
      · show n < if act = .spawn then s.captures + 1 else s.captures
        rw [if_pos hspawn]
        exact Nat.lt_succ_of_le hle
      · exact (hlt (hsame ▸ hthread)).trans_le hcaptures
    · obtain ⟨rfl, hannounces⟩ := announces_of_entry hn
      refine ⟨hcaptures, fun hthread => ?_⟩
      have hnone := hannounce m hact hannounces
      rcases hM.thread with ⟨hjoin, -⟩ | ⟨hspawn, -⟩ | ⟨-, -, hsame⟩
      · rw [hact] at hjoin
        cases hjoin
      · rw [hact] at hspawn
        cases hspawn
      · exact absurd (hsame.trans hnone) hthread
  case ordered =>
    refine List.pairwise_append.mpr ⟨hs.ordered, ?_, ?_⟩
    · rw [List.pairwise_map]
      exact List.pairwise_of_forall (fun m m' n k _ hk => by cases hk)
    · intro e he e' he' n k hn hk
      obtain ⟨m, -, rfl⟩ := List.mem_map.mp he'
      cases hk
  case frames =>
    intro n
    show List.filterMap _ _ = countUp (List.filterMap _ _).length
    rw [frames_main]
    exact hs.frames n
  case limit =>
    intro hmax n
    show (List.filterMap _ _).length ≤ _
    rw [frames_main]
    exact hs.limit hmax n
  case reports =>
    intro n id hid
    show id = UInt64.ofNat (List.filterMap _ _).length
    have hid' : id ∈ List.filterMap (Entry.stoppedOf n) _ := hid
    rw [reports_main] at hid'
    rw [frames_main]
    exact hs.reports n id hid'
  case counts =>
    show Counts args (List.filterMap _ _).length (List.filterMap _ _) c.thread
    rw [frames_main, reports_main]
    rcases hM.thread with ⟨-, -, hnone⟩ | ⟨hspawn, -, -, hhead⟩ | ⟨-, hspawn, hsame⟩
    · rw [hnone]
      trivial
    · have hnew : s.captures < s.captures + 1 := Nat.lt_succ_self _
      rw [hhead, if_pos hspawn]
      exact ⟨congrArg (UInt64.ofNat ∘ List.length) (hs.frames_eq_nil hnew).symm,
        hs.reports_eq_nil hnew⟩
    · rw [hsame, if_neg (fun h => halive (hspawn h).2)]
      exact hs.counts

end MainThread

/-! ## The capture thread

A step of the thread adds an entry or none. If none, the count stays; if it adds
a DataFrame, the count goes on by one; and if it adds its report, that has the
count. A send of the thread takes three acts – the lock, the send, and the
unlock – of which only the second is on the record. -/

section CaptureThread

variable {args : SessionArgs} {s : CaptureRun} {c : Collector}

/-- One frame more. -/
theorem countUp_succ (k : ℕ) : countUp (k + 1) = countUp k ++ [UInt64.ofNat (k + 1)] := by
  rw [countUp, List.range_succ, List.map_append]
  rfl

/-- **A step of the capture thread keeps the invariant** if it records at most
one entry, of its own capture, and counts on. There is a thread, so every
announcement on the record is of an earlier capture (`announced`), and what is
added comes behind announcements of those only. The other captures keep their
frames and reports, and those of the own capture go on as `Counts` says. -/
theorem Inv.of_capture (hs : s.Inv args) (capturing : Bool) (es : List Entry)
    (hmain : c.main = s.main) (hthread : s.thread ≠ .none)
    (hcapturing : capturing = true → s.capturing = true)
    (hnumber : ∀ e ∈ es, e.number = some s.captures)
    (hframes : es.filterMap (Entry.frameOf s.captures) = []
      ∨ (es.filterMap (Entry.frameOf s.captures)
          = [UInt64.ofNat ((s.frames s.captures).length + 1)]
        ∧ s.reports s.captures = []
        ∧ (args.maxFrames ≠ 0 → (s.frames s.captures).length < args.maxFrames.toNat)))
    (hreports : ∀ id ∈ es.filterMap (Entry.stoppedOf s.captures),
      id = UInt64.ofNat ((s.frames s.captures).length
        + (es.filterMap (Entry.frameOf s.captures)).length))
    (hcounts : Counts args ((s.frames s.captures).length
        + (es.filterMap (Entry.frameOf s.captures)).length)
      (s.reports s.captures ++ es.filterMap (Entry.stoppedOf s.captures)) c.thread) :
    Inv args { s with toCollector := c, capturing := capturing, trace := s.trace ++ es } := by
  have hother : ∀ n, n ≠ s.captures → es.filterMap (Entry.frameOf n) = []
      ∧ es.filterMap (Entry.stoppedOf n) = [] := by
    intro n hn
    refine ⟨List.filterMap_eq_nil_iff.mpr fun e he => ?_,
      List.filterMap_eq_nil_iff.mpr fun e he => ?_⟩
    · cases e with
      | capture number m =>
        have hnum : number = s.captures := Option.some.inj (hnumber _ he)
        exact if_neg (fun h => hn (h.1.symm.trans hnum))
      | main _ _ | stops _ => rfl
    · cases e with
      | capture number m =>
        have hnum : number = s.captures := Option.some.inj (hnumber _ he)
        dsimp only [Entry.stoppedOf]
        split
        · exact if_neg (fun h => hn (h.1.symm.trans hnum))
        · rfl
      | main _ _ | stops _ => rfl
  have hfalse : s.capturing = false → capturing = false := by
    cases capturing with
    | false => exact fun _ => rfl
    | true => exact fun h => Bool.noConfusion (h.symm.trans (hcapturing rfl))
  have hannounces : ∀ e ∈ es, e.announces = none := by
    intro e he
    cases e with
    | main k m => cases hnumber _ he
    | capture _ _ | stops _ => rfl
  have happend : ∀ n, (s.trace ++ es).filterMap (Entry.frameOf n)
      = s.frames n ++ es.filterMap (Entry.frameOf n) := fun n => List.filterMap_append ..
  have happend' : ∀ n, (s.trace ++ es).filterMap (Entry.stoppedOf n)
      = s.reports n ++ es.filterMap (Entry.stoppedOf n) := fun n => List.filterMap_append ..
  refine {
    wellFormed := fun block todo hrun => hs.wellFormed block todo (hmain ▸ hrun)
    home := fun _ => by rw [hmain]; exact hs.home hthread
    alive := fun h => hs.alive (hmain ▸ h)
    announcing := fun block todo hrun => hs.announcing block todo (hmain ▸ hrun)
    startup := fun block todo hrun => hs.startup block todo (hmain ▸ hrun)
    stopping := fun todo hrun hnot => hfalse (hs.stopping todo (hmain ▸ hrun) hnot)
    ended := fun h hentered => hfalse (hs.ended (hmain ▸ h) hentered)
    numbers := ?numbers
    announced := ?announced
    ordered := ?ordered
    frames := ?frames
    limit := ?limit
    reports := ?reports
    counts := ?counts }
  case numbers =>
    intro e he k hk
    rcases List.mem_append.mp he with he | he
    · exact hs.numbers e he k hk
    · exact (Option.some.inj (hk.symm.trans (hnumber e he))).le
  case announced =>
    intro e he n hn
    rcases List.mem_append.mp he with he | he
    · obtain ⟨hle, hlt⟩ := hs.announced e he n hn
      exact ⟨hle, fun _ => hlt hthread⟩
    · cases (hannounces e he).symm.trans hn
  case ordered =>
    refine List.pairwise_append.mpr ⟨hs.ordered, ?_, ?_⟩
    · exact List.pairwise_of_forall_mem_list (fun e he e' _ n k hn _ => by
        cases (hannounces e he).symm.trans hn)
    · intro e he e' he' n k hn hk
      -- what the thread records is of the capture under way, announced before it began
      cases hk.symm.trans (hnumber e' he')
      exact (hs.announced e he n hn).2 hthread
  case frames =>
    intro n
    show List.filterMap _ _ = countUp (List.filterMap _ _).length
    rw [happend]
    by_cases hn : n = s.captures
    · subst hn
      rcases hframes with hnil | ⟨hone, -, -⟩
      · rw [hnil, List.append_nil]
        exact hs.frames _
      · rw [hone, List.length_append, List.length_singleton, countUp_succ, ← hs.frames]
    · rw [(hother n hn).1, List.append_nil]
      exact hs.frames n
  case limit =>
    intro hmax n
    show (List.filterMap _ _).length ≤ _
    rw [happend]
    by_cases hn : n = s.captures
    · subst hn
      rcases hframes with hnil | ⟨hone, -, hlt⟩
      · rw [hnil, List.append_nil]
        exact hs.limit hmax _
      · rw [hone, List.length_append, List.length_singleton]
        exact hlt hmax
    · rw [(hother n hn).1, List.append_nil]
      exact hs.limit hmax n
  case reports =>
    intro n id hid
    have hid' : id ∈ List.filterMap (Entry.stoppedOf n) (s.trace ++ es) := hid
    show id = UInt64.ofNat (List.filterMap _ _).length
    rw [happend'] at hid'
    rw [happend, List.length_append]
    by_cases hn : n = s.captures
    · subst hn
      rcases List.mem_append.mp hid' with hold | hnew
      · rcases hframes with hnil | ⟨-, hreports, -⟩
        · rw [hnil]
          exact hs.reports _ id hold
        · rw [hreports] at hold
          exact absurd hold List.not_mem_nil
      · exact hreports id hnew
    · rw [(hother n hn).2, List.append_nil] at hid'
      rw [(hother n hn).1]
      exact hs.reports n id hid'
  case counts =>
    show Counts args (List.filterMap _ _).length (List.filterMap _ _) c.thread
    rw [happend, happend', List.length_append]
    exact hcounts

/-- A step of the capture thread that records nothing. -/
theorem Inv.of_capture_silent (hs : s.Inv args) (hmain : c.main = s.main)
    (hthread : s.thread ≠ .none)
    (hcounts : Counts args (s.frames s.captures).length (s.reports s.captures) c.thread) :
    Inv args { s with toCollector := c } := by
  have h := hs.of_capture s.capturing [] hmain hthread id
    (fun e he => absurd he List.not_mem_nil) (.inl rfl) (fun id hid => absurd hid List.not_mem_nil)
    (by rw [List.filterMap_nil, List.filterMap_nil, List.append_nil]; exact hcounts)
  rwa [List.append_nil] at h

/-- A DataFrame is a frame of its capture, and not a report. -/
theorem frameOf_dataFrame (n : ℕ) (payload : Bytes) :
    (Entry.capture n ⟨.dataFrame, payload⟩).frameOf n
        = some (DataFramePayloadHeader.decode payload).frameId
      ∧ (Entry.capture n ⟨.dataFrame, payload⟩).stoppedOf n = none := by
  have hne : MessageType.dataFrame ≠ .status := by decide
  refine ⟨if_pos ⟨rfl, rfl⟩, ?_⟩
  dsimp only [Entry.stoppedOf]
  rw [Message.status?, if_neg (fun h => hne h.1)]

/-- A status is not a frame; it is a report if it says Stopped. -/
theorem stoppedOf_status (n : ℕ) (code : StatusCode) (text : Bytes) (frameId : UInt64) :
    (Entry.capture n (statusMessage code text frameId)).frameOf n = none
      ∧ (Entry.capture n (statusMessage code text frameId)).stoppedOf n
        = if code = .stopped then some frameId else none := by
  have hne : MessageType.status ≠ .dataFrame := by decide
  refine ⟨if_neg (fun h => hne h.2), ?_⟩
  dsimp only [Entry.stoppedOf]
  rw [status?_statusMessage]
  by_cases hcode : code = .stopped
  · rw [if_pos hcode, hcode]
    exact if_pos ⟨rfl, rfl⟩
  · rw [if_neg hcode]
    exact if_neg (fun h => hcode (congrArg StatusCode.mk h.2))

/-- **What a thread sends counts on**: a DataFrame is the next one, a Stopped
has the last count, and either way the thread then counts what it has sent. This
is so for a send that returns and for one that throws, as a message is on the
record in either case. -/
theorem Inv.of_send (hs : s.Inv args) {m : Message} {rest : List Act}
    (hacts : s.thread.acts = some (.send m :: rest)) (hmain : c.main = s.main)
    (hresume : c.thread = s.thread.resume rest ∨ ∃ what,
      c.thread = (s.toCollector.captureThrow what).thread) :
    Inv args { s with toCollector := c, trace := s.trace ++ [.capture s.captures m] } := by
  have hlive : s.thread ≠ .none := by
    intro hnone
    rw [hnone] at hacts
    cases hacts
  have hcounts := hs.counts
  have hnumber : ∀ e ∈ [Entry.capture s.captures m], e.number = some s.captures := by
    intro e he
    cases List.mem_singleton.mp he
    rfl
  -- what the thread is about to send, and that the rest of it is the unlock
  have hpending : ∀ {m' : Message} {todo : List Act}, todo = .send m :: rest → Sending m' todo →
      m' = m ∧ rest = [.unlock] := by
    intro m' todo htodo hsending
    rcases hsending with rfl | rfl
    · cases htodo
    · cases htodo
      exact ⟨rfl, rfl⟩
  have hfail : ∀ {todo : List Act}, todo = .send m :: rest → todo ≠ [.unlock] := by
    rintro todo rfl h
    cases h
  cases hthread : s.thread with
  | frame frameId todo =>
    rw [hthread] at hacts hcounts hresume
    obtain ⟨hreports, hsent | ⟨payload, hsending, hid, hframeId, hmax⟩⟩ := hcounts
    · exact absurd hsent.1 (hfail (Option.some.inj hacts))
    obtain ⟨rfl, rfl⟩ := hpending (Option.some.inj hacts) hsending
    obtain ⟨hframe, hstopped⟩ := frameOf_dataFrame s.captures payload
    refine hs.of_capture s.capturing _ hmain hlive id hnumber ?_ ?_ ?_
    · exact .inr ⟨by rw [List.filterMap_cons_some hframe, hid]; rfl, hreports, hmax⟩
    · intro id hid
      rw [List.filterMap_cons_none hstopped] at hid
      exact absurd hid List.not_mem_nil
    · rw [List.filterMap_cons_some hframe, List.filterMap_cons_none hstopped, hreports]
      rcases hresume with hresume | ⟨what, hresume⟩
      · rw [hresume]
        exact ⟨rfl, .inl ⟨rfl, hframeId⟩⟩
      · rw [hresume, Collector.captureThrow, hthread]
        exact ⟨rfl, hframeId, .inr ⟨what, .inl rfl⟩⟩
  | error frameId todo =>
    rw [hthread] at hacts hcounts hresume
    obtain ⟨hreports, hframeId, hsent | ⟨what, hsending⟩⟩ := hcounts
    · exact absurd hsent (hfail (Option.some.inj hacts))
    obtain ⟨rfl, rfl⟩ := hpending (Option.some.inj hacts) hsending
    obtain ⟨hframe, hstopped⟩ := stoppedOf_status s.captures .error what frameId
    rw [if_neg (by decide)] at hstopped
    refine hs.of_capture s.capturing _ hmain hlive id hnumber ?_ ?_ ?_
    · exact .inl (by rw [List.filterMap_cons_none hframe]; rfl)
    · intro id hid
      rw [List.filterMap_cons_none hstopped] at hid
      exact absurd hid List.not_mem_nil
    · rw [List.filterMap_cons_none hframe, List.filterMap_cons_none hstopped, hreports]
      rcases hresume with hresume | ⟨what', hresume⟩
      · rw [hresume]
        exact ⟨rfl, hframeId, .inl rfl⟩
      · rw [hresume, Collector.captureThrow, hthread]
        exact ⟨hframeId, rfl⟩
  | report todo =>
    rw [hthread] at hacts hcounts hresume
    rcases hcounts with hsent | ⟨hreports, text, hsending⟩
    · exact absurd hsent (hfail (Option.some.inj hacts))
    obtain ⟨rfl, rfl⟩ := hpending (Option.some.inj hacts) hsending
    obtain ⟨hframe, hstopped⟩ := stoppedOf_status s.captures .stopped text
      (UInt64.ofNat (s.frames s.captures).length)
    rw [if_pos rfl] at hstopped
    refine hs.of_capture s.capturing _ hmain hlive id hnumber ?_ ?_ ?_
    · exact .inl (by rw [List.filterMap_cons_none hframe]; rfl)
    · intro id hid
      rw [List.filterMap_cons_some hstopped] at hid
      rw [List.filterMap_cons_none hframe]
      exact List.mem_singleton.mp hid
    · rcases hresume with hresume | ⟨what', hresume⟩
      · rw [hresume]
        exact .inl rfl
      · rw [hresume, Collector.captureThrow, hthread]
        trivial
  | none | head _ | limit _ | finished =>
    rw [hthread] at hacts
    cases hacts

end CaptureThread

/-! ## Every step

All that is left is to see which step of the machine is which. A step of the
main thread is an act, a throw, or the way in and out of `recv_message`; one of
the capture thread is an act, a throw, or a turn of its loop. -/

section Steps

variable {args : SessionArgs} {s s' : CaptureRun}

/-- **A new session meets the invariant**, whatever the camera is doing. -/
theorem inv_initial (args : SessionArgs) (capturing : Bool) :
    (initial args capturing).Inv args where
  wellFormed := wellFormed_start _
  home := fun h => absurd rfl h
  alive := nofun
  announcing := by
    intro block todo hrun _ act hact
    cases hrun
    cases List.mem_singleton.mp hact
    exact not_announces_of_type (by decide : MessageType.hello ≠ .status)
  startup := fun _ _ _ _ => rfl
  stopping := nofun
  ended := nofun
  numbers := fun e he => absurd he List.not_mem_nil
  announced := fun e he => absurd he List.not_mem_nil
  ordered := List.Pairwise.nil
  frames := fun _ => rfl
  limit := fun _ _ => Nat.zero_le _
  reports := fun _ id hid => absurd hid List.not_mem_nil
  counts := trivial

/-- A command, or the end of the loop. Where the main thread comes to has a join
ahead of it, and no announcement; and nothing is added to the record. -/
theorem inv_command (hs : s.Inv args) {main : Main} (hwf : main.WellFormed)
    (hahead : main.joinsAhead = true) (halive : main ≠ .terminated) (hended : main ≠ .ended)
    (hann : ∀ block todo, main = .run block todo → ∀ act ∈ todo, ¬ announces act)
    (hstarts : ∀ block todo, main = .run block todo → block.startsUp = false)
    (hstopping : ∀ todo, main = .run .stopping todo → Act.camStop ∈ todo)
    (h : s.command main = some s') : s'.Inv args := by
  unfold command at h
  split at h
  · cases h
    exact { hs with
      wellFormed := hwf
      home := fun _ => hahead
      alive := halive
      announcing := fun block todo hrun _ => hann block todo hrun
      startup := fun block todo hrun hup =>
        Bool.noConfusion ((hstarts block todo hrun).symm.trans hup)
      stopping := fun todo hrun hnot => absurd (hstopping todo hrun) hnot
      ended := fun he => absurd he hended }
  · cases h

/-- The loop is left for the last script, which is whole. -/
theorem inv_leave (hs : s.Inv args) (h : s.command (.run .stopping stopThread) = some s') :
    s'.Inv args := by
  have hwf : (Main.run .stopping stopThread).WellFormed := wellFormed_run (List.suffix_append _ _)
  refine inv_command hs hwf rfl nofun nofun ?_ ?_ ?_ h
  · intro block todo hrun
    cases hrun
    exact not_announces_stopThread
  · intro block todo hrun
    cases hrun
    rfl
  · intro todo hrun
    cases hrun
    exact List.mem_cons_of_mem _ List.mem_cons_self

/-- A command leads to its script, or back into the loop. -/
theorem inv_recv (hs : s.Inv args) {m : Message} (h : s.command (.dispatch m s.sent) = some s') :
    s'.Inv args := by
  refine inv_command hs (wellFormed_dispatch m s.sent) (joinsAhead_dispatch m s.sent)
    (dispatch_ne_terminated m s.sent) ?_ (fun block todo => not_announces_dispatch m s.sent) ?_ ?_ h
  · intro hended
    have hahead := joinsAhead_dispatch m s.sent
    rw [hended] at hahead
    cases hahead
  · intro block todo hrun
    unfold Main.dispatch at hrun
    split at hrun
    · dsimp only at hrun
      split at hrun <;> cases hrun <;> rfl
    · split at hrun
      · cases hrun
        rfl
      · split at hrun <;> cases hrun
        rfl
  · intro todo hrun
    unfold Main.dispatch at hrun
    split at hrun
    · dsimp only at hrun
      split at hrun <;> cases hrun
    · split at hrun
      · cases hrun
      · split at hrun <;> cases hrun
        simp [stopThread]

/-- An act of the main thread is a move, by `moves_of_act`; only a call throws,
and there is none in what stops a thread. -/
theorem inv_mainAct (hs : s.Inv args) {r : CallResult} {left : Bool}
    (h : s.mainAct r left = some s') : s'.Inv args := by
  unfold mainAct at h
  split at h
  · next block act todo hmain =>
    obtain ⟨c, hc, rfl⟩ := Option.map_eq_some_iff.mp h
    refine hs.mainStep hmain (moves_of_act hc) (by simp [stopThread, Act.isCall]) ?_ r left
    intro block' todo' hrun hne a ha
    rcases main_of_act hc with ⟨more, hm, hmore⟩ | ⟨what, -, hm⟩ | hm
    · rw [hm] at hrun
      cases hrest : more ++ todo with
      | nil =>
        rw [hrest] at hrun
        exact not_announces_done hrun hne a ha
      | cons act' rest =>
        rw [hrest] at hrun
        cases hrun
        rcases List.mem_append.mp (hrest ▸ ha) with ha | ha
        · exact hmore a ha
        · exact hs.announcing _ _ hmain hne a (List.mem_cons_of_mem _ ha)
    · rw [hm] at hrun
      exact not_announces_thrown hrun a ha
    · rw [hm] at hrun
      cases hrun
  · cases h

/-- A send that throws is a move as well, with the message on the record. -/
theorem inv_mainThrow (hs : s.Inv args) {what : Bytes} (h : s.mainThrow what = some s') :
    s'.Inv args := by
  unfold mainThrow at h
  split at h
  · next block m todo hmain =>
    cases h
    have hM : Moves (fun a => decide (a = .send m)) block (.send m) todo s.thread
        (s.toCollector.throw block what).main (s.toCollector.throw block what).thread :=
      moves_of_throw (c := s.toCollector) (decide_eq_true rfl) ⟨nofun, nofun⟩
    have hstep := hs.mainStep (c := s.toCollector.throw block what) hmain hM
      (by simp [stopThread]) (fun _ _ hrun _ => not_announces_thrown hrun) .ok false
    have hrecv : (s.entered || decide ((s.toCollector.throw block what).main = .recv))
        = s.entered := by
      have hne : decide ((s.toCollector.throw block what).main = .recv) = false :=
        decide_eq_false (by cases block <;> exact Main.noConfusion)
      rw [hne, Bool.or_false]
    rw [hrecv, if_neg Act.noConfusion] at hstep
    exact hstep
  · cases h

/-! ### The acts of a send

The count is told from the place of the thread, and a send has three places. The
lock and the unlock go from one to the next with the same count; the send itself
is `Inv.of_send`. -/

/-- **The count stays**: before the lock nothing of the send has been done. The
message of the send is still to come, with the number that it was given when it
was made. -/
theorem Counts.lock {k : ℕ} {reports : List UInt64} {thread : Thread} {rest : List Act}
    (h : Counts args k reports thread) (hacts : thread.acts = some (.lock :: rest)) :
    Counts args k reports (thread.resume rest) := by
  have hbegun : ∀ {m : Message} {todo : List Act}, todo = .lock :: rest → Sending m todo →
      rest = [.send m, .unlock] := by
    rintro m todo rfl (h | h) <;> cases h
    rfl
  cases thread with
  | frame frameId todo =>
    have hfirst := Option.some.inj hacts
    obtain ⟨hreports, ⟨hsent, -⟩ | ⟨payload, hsending, hrest⟩⟩ := h
    · rw [hfirst] at hsent
      cases hsent
    · rw [hbegun hfirst hsending]
      exact ⟨hreports, .inr ⟨payload, .inr rfl, hrest⟩⟩
  | error frameId todo =>
    have hfirst := Option.some.inj hacts
    obtain ⟨hreports, hid, hsent | ⟨what, hsending⟩⟩ := h
    · rw [hfirst] at hsent
      cases hsent
    · rw [hbegun hfirst hsending]
      exact ⟨hreports, hid, .inr ⟨what, .inr rfl⟩⟩
  | report todo =>
    have hfirst := Option.some.inj hacts
    rcases h with hsent | ⟨hreports, text, hsending⟩
    · rw [hfirst] at hsent
      cases hsent
    · rw [hbegun hfirst hsending]
      exact .inr ⟨hreports, text, .inr rfl⟩
  | none | head _ | limit _ | finished => cases hacts

/-- The unlock is the last act of a send. -/
theorem Counts.unlock {k : ℕ} {reports : List UInt64} {thread : Thread} {rest : List Act}
    (h : Counts args k reports thread) (hacts : thread.acts = some (.unlock :: rest)) :
    Counts args k reports (thread.resume rest) := by
  have hdone : ∀ {m : Message} {todo : List Act}, todo = .unlock :: rest → ¬ Sending m todo := by
    rintro m todo rfl (h | h) <;> cases h
  cases thread with
  | frame frameId todo =>
    have hlast := Option.some.inj hacts
    obtain ⟨hreports, ⟨hsent, hid⟩ | ⟨payload, hsending, -⟩⟩ := h
    · rw [hlast] at hsent
      cases hsent
      exact ⟨hid, hreports⟩
    · exact absurd hsending (hdone hlast)
  | error frameId todo =>
    have hlast := Option.some.inj hacts
    obtain ⟨hreports, hid, hsent | ⟨what, hsending⟩⟩ := h
    · rw [hlast] at hsent
      cases hsent
      exact ⟨hid, hreports⟩
    · exact absurd hsending (hdone hlast)
  | report todo =>
    have hlast := Option.some.inj hacts
    rcases h with hsent | ⟨-, text, hsending⟩
    · rw [hlast] at hsent
      cases hsent
      trivial
    · exact absurd hsending (hdone hlast)
  | none | head _ | limit _ | finished => cases hacts

/-- **A turn of the loop** begins the send of the next frame, or ends the loop.
It ends at the limit, for an exception, and where `run_` has been cleared. The
next frame has the counter's value and one, which is compared with the limit
before. -/
theorem inv_captureHead (hs : s.Inv args) {c : Collector} {a : FrameOutcome} {frameId : UInt64}
    (hthread : s.thread = .head frameId)
    (hc : s.toCollector.captureTurn args
      (frameResult frameId (if s.capturing = true then a else .failed (ascii "not capturing")))
      = some c) :
    Inv args { s with toCollector := c } := by
  have hlive : s.thread ≠ .none := by rw [hthread]; exact nofun
  have hcounts := hs.counts
  rw [hthread] at hcounts
  obtain ⟨hid, hreports⟩ := hcounts
  unfold Collector.captureTurn at hc
  rw [hthread] at hc
  dsimp only at hc
  split at hc
  · cases hc
    exact hs.of_capture_silent rfl hlive (.inr ⟨hreports, _, .inl (by rw [hid]; rfl)⟩)
  split at hc
  · cases hc
    exact hs.of_capture_silent rfl hlive ⟨hid, hreports⟩
  next hbelow =>
    -- the frame id has not wrapped around, since the limit has 32 bits
    have hmax : args.maxFrames ≠ 0 → (s.frames s.captures).length < args.maxFrames.toNat := by
      intro hmax
      have hle := hs.limit hmax s.captures
      have hlt : ¬ args.maxFrames.toUInt64 ≤ frameId := fun h => hbelow ⟨hmax, h⟩
      rw [UInt64.le_iff_toNat_le, UInt32.toNat_toUInt64, hid, UInt64.toNat_ofNat',
        Nat.mod_eq_of_lt] at hlt
      · exact Nat.not_le.mp hlt
      · exact hle.trans_lt (args.maxFrames.toNat_lt.trans (by decide))
    have hnext : frameId + 1 = UInt64.ofNat ((s.frames s.captures).length + 1) := by
      rw [hid, UInt64.ofNat_add]
      rfl
    split at hc
    · next payload hpayload =>
      cases hc
      refine hs.of_capture_silent rfl hlive
        ⟨hreports, .inr ⟨payload, .inl rfl, ?_, hnext, hmax⟩⟩
      cases hcapturing : s.capturing with
      | false =>
        rw [hcapturing] at hpayload
        cases hpayload
      | true =>
        rw [hcapturing, if_pos rfl] at hpayload
        cases a with
        | failed what => cases hpayload
        | frame f timestampNs compressed =>
          cases hpayload
          rw [DataFramePayloadHeader.decode_encode_append]
          exact hnext
    · cases hc
      exact hs.of_capture_silent rfl hlive ⟨hreports, hid, .inr ⟨_, .inl rfl⟩⟩

/-- At the limit the camera is stopped, and a report begun. -/
theorem inv_captureLimit (hs : s.Inv args) {c : Collector} {frameId : UInt64}
    (hthread : s.thread = .limit frameId)
    (hc : s.toCollector.captureTurn args (.failed []) = some c) :
    Inv args { s with
      toCollector := c, capturing := false, trace := s.trace ++ [.stops s.captures] } := by
  have hlive : s.thread ≠ .none := by rw [hthread]; exact nofun
  have hcounts := hs.counts
  rw [hthread] at hcounts
  obtain ⟨hid, hreports⟩ := hcounts
  unfold Collector.captureTurn at hc
  rw [hthread] at hc
  cases hc
  refine hs.of_capture false [.stops s.captures] rfl hlive Bool.noConfusion ?_ (.inl rfl) ?_ ?_
  · intro e he
    cases List.mem_singleton.mp he
    rfl
  · exact fun id hid => absurd hid List.not_mem_nil
  · exact .inr ⟨by rw [hreports]; rfl, _, .inl (by rw [hid]; rfl)⟩

/-- A step of the capture thread, in its send or between two of them. -/
theorem inv_captureStep (hs : s.Inv args) {a : FrameOutcome}
    (h : s.captureStep args a = some s') : s'.Inv args := by
  unfold captureStep at h
  split at h
  · next acts hacts =>
    obtain ⟨c, hc, rfl⟩ := Option.map_eq_some_iff.mp h
    obtain ⟨act, rest, rfl, hthread, hmain⟩ := thread_of_captureAct hc
    have hlive : s.thread ≠ .none := by
      intro hnone
      rw [hnone] at hacts
      cases hacts
    cases act with
    | send m => exact hs.of_send hacts hmain (.inl hthread)
    | lock =>
      show Inv args { s with toCollector := c, trace := s.trace ++ [] }
      rw [List.append_nil]
      exact hs.of_capture_silent hmain hlive (hthread ▸ hs.counts.lock hacts)
    | unlock =>
      show Inv args { s with toCollector := c, trace := s.trace ++ [] }
      rw [List.append_nil]
      exact hs.of_capture_silent hmain hlive (hthread ▸ hs.counts.unlock hacts)
    | _ => cases hc
  · split at h
    · next frameId hthread =>
      obtain ⟨c, hc, rfl⟩ := Option.map_eq_some_iff.mp h
      exact inv_captureHead hs hthread hc
    · next frameId hthread =>
      obtain ⟨c, hc, rfl⟩ := Option.map_eq_some_iff.mp h
      exact inv_captureLimit hs hthread hc
    · cases h

/-- A send that fails. The thread's own report of it is then a status with the
same count. -/
theorem inv_captureFail (hs : s.Inv args) {what : Bytes} (h : s.captureFail what = some s') :
    s'.Inv args := by
  unfold captureFail at h
  split at h
  · next m rest hacts =>
    cases h
    exact hs.of_send hacts rfl (.inr ⟨what, rfl⟩)
  · cases h

/-- The signal ends the loop with a report. -/
theorem inv_captureLeave (hs : s.Inv args) (h : s.captureLeave = some s') : s'.Inv args := by
  unfold captureLeave at h
  split at h
  · next frameId hthread =>
    split at h
    · cases h
      have hcounts := hs.counts
      rw [hthread] at hcounts
      obtain ⟨hid, hreports⟩ := hcounts
      exact hs.of_capture_silent (c := { s.toCollector with
        thread := .report (stoppedReport false frameId) }) rfl (by rw [hthread]; exact nofun)
        (.inr ⟨hreports, _, .inl (by rw [hid]; rfl)⟩)
    · cases h
  · cases h

/-- **Every step keeps the invariant.** -/
theorem inv_step (st : Step) (hs : s.Inv args) (h : step args s st = some s') : s'.Inv args := by
  cases st with
  | interrupt =>
    cases h
    exact { hs with }
  | recv m => exact inv_recv hs h
  | recvThrows => exact inv_leave hs h
  | leave =>
    change (if s.gRun = false then s.command (.run .stopping stopThread) else none) = some s' at h
    split at h
    · exact inv_leave hs h
    · cases h
  | main r left => exact inv_mainAct hs h
  | mainThrows what => exact inv_mainThrow hs h
  | capture a => exact inv_captureStep hs h
  | captureThrows what => exact inv_captureFail hs h
  | captureLeaves => exact inv_captureLeave hs h

end Steps

/-! ## The discipline

Where the count is less than 2^64, the ids that were sent are increasing, as a
64-bit counter is ordered like what it counts (`ofNat_lt_ofNat`). The other
parts of the discipline are parts of the invariant. -/

/-- What is in a count has a place in it. -/
theorem mem_countUp {k : ℕ} {id : UInt64} (h : id ∈ countUp k) :
    ∃ i < k, id = UInt64.ofNat (i + 1) := by
  obtain ⟨i, hi, rfl⟩ := List.mem_map.mp h
  exact ⟨i, List.mem_range.mp hi, rfl⟩

/-- A 64-bit counter is ordered as what it counts, up to 2^64. -/
theorem ofNat_lt_ofNat {i j : ℕ} (hij : i < j) (hj : j < 2 ^ 64) :
    UInt64.ofNat i < UInt64.ofNat j := by
  rw [UInt64.lt_iff_toNat_lt, UInt64.toNat_ofNat', UInt64.toNat_ofNat', Nat.mod_eq_of_lt hj,
    Nat.mod_eq_of_lt (hij.trans hj)]
  exact hij

/-- So the ids of fewer than 2^64 frames increase. -/
theorem countUp_increases {k : ℕ} (hk : k < 2 ^ 64) : (countUp k).Pairwise (· < ·) := by
  refine List.pairwise_map.mpr (List.pairwise_lt_range.imp_of_mem ?_)
  intro i j _ hj hij
  exact ofNat_lt_ofNat (Nat.succ_lt_succ hij) (by have := List.mem_range.mp hj; omega)

/-- **The invariant gives the discipline.** That the frames increase and are not
above a report is read off `frames` and `reports`, which say exactly what the
ids are. -/
theorem disciplined_of_inv {args : SessionArgs} {s : CaptureRun} (hs : s.Inv args) :
    s.Disciplined args where
  joined := hs.alive
  ordered := hs.ordered
  starts := by
    intro n id hid
    rw [hs.frames n] at hid
    cases hk : (s.frames n).length with
    | zero =>
      rw [hk] at hid
      cases hid
    | succ k =>
      rw [hk, countUp, List.range_succ_eq_map] at hid
      exact (Option.some.inj hid).symm
  increases := by
    intro n hn
    rw [hs.frames n]
    exact countUp_increases hn
  limit := hs.limit
  reported := by
    intro n hn id hid f hf
    rw [hs.frames n] at hf
    obtain ⟨i, hi, rfl⟩ := mem_countUp hf
    rw [hs.reports n id hid]
    rcases Nat.eq_or_lt_of_le hi with heq | hlt
    · rw [← heq]
      exact UInt64.le_refl _
    · exact UInt64.le_of_lt (ofNat_lt_ofNat hlt hn)
  exits := by
    intro hended hentered
    refine ⟨hs.ended hended hentered, ?_⟩
    by_contra hthread
    have hahead := hs.home hthread
    rw [hended] at hahead
    cases hahead

/-- **In every run of a session its captures are disciplined.**

The run has the failures of all calls, sends and receives in it. The number of a
frame is a counter of 64 bits that a capture starts anew, and so that the frames
of a capture increase is stated of a capture of fewer than `2^64` frames; with a
limit that is not zero there are never more. That no thread is launched over one
that can still be joined holds without any condition: each way that leads to a
launch has a join on it. -/
theorem disciplined_of_run {args : SessionArgs} {capturing : Bool} {steps : List Step}
    {s : CaptureRun}
    (hrun : Machine.Run (step args) Machine.always (initial args capturing) steps s) :
    s.Disciplined args :=
  disciplined_of_inv (hrun.invariant (fun _ st _ hs _ h => inv_step st hs h)
    (inv_initial args capturing))

/-- The frame limit of one frame, and no exports. -/
def oneFrameArgs : SessionArgs := { apiVersion := [], maxFrames := 1 }

/-- The steps of a session that starts up, receives a StartCapture and launches
the capture thread. -/
def startSteps : List Step :=
  [.main .ok true, .main (.throws []) true, .main .ok true, .main (.entries []) true,
    .main .ok true, .recv (startMessage [] 0 0)] ++ List.replicate 15 (.main .ok true)

/-- The steps of one frame. -/
def frameSteps : List Step := List.replicate 4 (.capture (.frame {} 0 []))

/-- A capture of one frame, which reaches its limit, reports the frame, and is
joined. -/
theorem disciplined_of_run_oneFrame :
    ∃ s, Machine.Run (step oneFrameArgs) Machine.always (initial oneFrameArgs false)
        (startSteps ++ frameSteps ++ List.replicate 5 (.capture (.failed []))) s
      ∧ s.frames 1 = [1] ∧ s.reports 1 = [1] ∧ s.Disciplined oneFrameArgs := by
  have hexec : (Machine.exec (step oneFrameArgs) (initial oneFrameArgs false)
      (startSteps ++ frameSteps ++ List.replicate 5 (.capture (.failed [])))).map
        (fun s => (s.frames 1, s.reports 1)) = some ([1], [1]) := by decide +kernel
  obtain ⟨s, hs, hrecord⟩ := Option.map_eq_some_iff.mp hexec
  have hrun := Machine.run_iff_exec.mpr hs
  obtain ⟨hframes, hreports⟩ := Prod.mk.inj hrecord
  exact ⟨s, hrun, hframes, hreports, disciplined_of_run hrun⟩

/-! ## The counter wraps

Without a frame limit the thread counts on, for 2^64 frames and one more. There
is a step for each of them, so the run cannot be written down; it is made by
induction on the number of frames. -/

/-- A capture thread that takes frame after frame. -/
structure Looping (s : CaptureRun) (n k : ℕ) : Prop where
  /-- The thread is at the head of its loop, with `k` frames behind it. -/
  thread : s.thread = .head (UInt64.ofNat k)
  /-- Nothing has told it to end, … -/
  run : s.run = true
  /-- … the camera captures, … -/
  capturing : s.capturing = true
  /-- … and the mutex is free. -/
  sendMu : s.sendMu = none
  /-- It belongs to the capture `n`, … -/
  captures : s.captures = n
  /-- … of which as many frames have been sent. -/
  frames : (s.frames n).length = k

/-- Without a limit one more frame can always be taken, in four steps: the turn,
the lock, the send and the unlock. -/
theorem Looping.frame {args : SessionArgs} (hargs : args.maxFrames = 0) {s : CaptureRun} {n k : ℕ}
    (hs : s.Looping n k) :
    ∃ s', Machine.Run (step args) Machine.always s frameSteps s' ∧ s'.Looping n (k + 1) := by
  obtain ⟨⟨main, thread, run, sendMu, sent⟩, capturing, gRun, entered, captures, trace⟩ := s
  obtain ⟨rfl, rfl, rfl, rfl, rfl, hframes⟩ := hs
  let payload := (dataFrameHeader (UInt64.ofNat k + 1) 0 {} []).encode ++ []
  refine ⟨⟨⟨main, .head (UInt64.ofNat k + 1), true, none, sent⟩, true, gRun, entered, captures,
    trace ++ [.capture captures ⟨.dataFrame, payload⟩]⟩, Machine.run_iff_exec.mpr ?_, ?_⟩
  · have hturn : (step args) ⟨⟨main, .head (UInt64.ofNat k), true, none, sent⟩, true, gRun, entered,
        captures, trace⟩ (.capture (.frame {} 0 []))
        = some ⟨⟨main, .frame (UInt64.ofNat k + 1) (threadSend ⟨.dataFrame, payload⟩), true, none,
          sent⟩, true, gRun, entered, captures, trace⟩ := by
      show Option.map _ (Collector.captureTurn args _ _) = _
      unfold Collector.captureTurn
      dsimp only
      rw [if_neg Bool.noConfusion, if_neg (fun h => h.1 hargs)]
      rfl
    show Machine.exec (step args) _ (.capture (.frame {} 0 []) :: List.replicate 3 _) = _
    rw [Machine.exec_cons, hturn]
    show some (CaptureRun.mk _ _ _ _ _ (((trace ++ []) ++ _) ++ [])) = _
    rw [List.append_nil, List.append_nil]
    rfl
  · refine ⟨?_, rfl, rfl, rfl, rfl, ?_⟩
    · show Thread.head (UInt64.ofNat k + 1) = .head (UInt64.ofNat (k + 1))
      rw [UInt64.ofNat_add]
      rfl
    · have hone : [Entry.capture captures ⟨.dataFrame, payload⟩].filterMap
          (Entry.frameOf captures) = [(DataFramePayloadHeader.decode payload).frameId] :=
        List.filterMap_cons_some (frameOf_dataFrame captures payload).1
      show (List.filterMap (Entry.frameOf captures) (trace ++ _)).length = k + 1
      rw [List.filterMap_append, List.length_append, hone]
      exact congrArg (· + 1) hframes

/-- No frame limit. -/
def unlimitedArgs : SessionArgs := { apiVersion := [], maxFrames := 0 }

/-- **A capture without a limit does not count up for ever.** Behind 2^64
frames the counter is back at 0. -/
theorem not_increasing_unlimited :
    ∃ steps s, Machine.Run (step unlimitedArgs) Machine.always
        (initial unlimitedArgs false) steps s
      ∧ (s.frames 1).length = 2 ^ 64 ∧ ¬ (s.frames 1).Pairwise (· < ·) := by
  have hexec : (Machine.exec (step unlimitedArgs) (initial unlimitedArgs false) startSteps).map
      (fun s => decide (s.thread = .head 0 ∧ s.run = true ∧ s.capturing = true ∧ s.sendMu = none
        ∧ s.captures = 1 ∧ s.frames 1 = [])) = some true := by decide +kernel
  obtain ⟨s₀, hs₀, hstate⟩ := Option.map_eq_some_iff.mp hexec
  obtain ⟨hthread, hrun, hcapturing, hsendMu, hcaptures, hframes⟩ := of_decide_eq_true hstate
  have hstart : s₀.Looping 1 0 :=
    ⟨hthread, hrun, hcapturing, hsendMu, hcaptures, congrArg List.length hframes⟩
  have hmany : ∀ k, ∃ steps s, Machine.Run (step unlimitedArgs)
      Machine.always (initial unlimitedArgs false) steps s
        ∧ s.Looping 1 k := by
    intro k
    induction k with
    | zero => exact ⟨_, s₀, Machine.run_iff_exec.mpr hs₀, hstart⟩
    | succ k ih =>
      obtain ⟨steps, s, hrun, hs⟩ := ih
      obtain ⟨s', hrun', hs'⟩ : ∃ s', Machine.Run (step unlimitedArgs) Machine.always s
        frameSteps s' ∧ s'.Looping 1 (k + 1) := hs.frame rfl
      exact ⟨_, s', hrun.append hrun', hs'⟩
  obtain ⟨steps, s, hrun, hs⟩ := hmany (2 ^ 64)
  refine ⟨steps, s, hrun, hs.frames, fun hpairwise => ?_⟩
  have hinv := hrun.invariant (fun _ st _ hs _ h => inv_step st hs h) (inv_initial _ false)
  rw [hinv.frames 1, hs.frames, countUp, List.pairwise_map] at hpairwise
  have hlast : (List.range (2 ^ 64)).Pairwise (fun i j =>
      UInt64.ofNat (i + 1) < UInt64.ofNat (j + 1)) := hpairwise
  have hlt := List.pairwise_iff_getElem.mp hlast 0 (2 ^ 64 - 1)
    (by rw [List.length_range]; decide) (by rw [List.length_range]; decide) (by decide)
  rw [List.getElem_range, List.getElem_range] at hlt
  exact absurd hlt (by decide)

end CaptureRun
