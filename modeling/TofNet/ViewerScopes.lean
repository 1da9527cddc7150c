import TofNet.Programs

/-!
# The scopes of the viewer

A thread of the viewer holds one mutex at a time, but for the worker's
`m_tofiMutex` within `m_saveMutex`. The GUI sends in a scope of
`m_socketMutex`, and waits for the worker outside of all scopes. The worker
locks `m_socketMutex` at the beginning of a block, and between the blocks it
holds nothing.

`ViewerInv` adds to this where the connection is attended to, and that **the
worker does not come to `m_socketMutex` while a command waits for room**. It is
here that a step has to be orderly: the step that takes the worker away from
the messages, and the one with which the GUI begins to send.

What a thread may do next depends on the mutexes it holds, and what it holds is
not in its statements but in the state. So `nested` reads a list of statements
with the mutexes that are held in front of it, and says that every lock in it is
allowed, every unlock is of the mutex taken last, and a thread holds nothing
where it waits for another one. A statement takes `nested` of the whole to
`nested` of the rest, and this is the whole argument for the scopes.

The connection is the other half. The worker is at one place of its loops at a
time, and whether it is attending to the connection is told from that place
(`ViewerWorker.attached`). The last clause of `ViewerInv` is the one that the
deadlock would break, and the only one that needs the condition on the steps.
-/

/-! ## The scopes of the viewer

The GUI locks one mutex at a time, and never that of TOFI. A send comes right
behind its lock, and is the end of its scope; so it is known of every send which
mutex is held. -/

/-- Which mutex a thread of the viewer may lock, with those it holds: one at a
time, but for the worker's inside the saving of a frame. The GUI never comes to
the mutex of TOFI; the settings it changes are under that of the saving. -/
def mayLock : ListenerThread → List ViewerMutex → ViewerMutex → Bool
  | .gui, held, m => held = [] && m ≠ .tofi
  | .worker, held, m => held = [] || (held = [.save] && m = .tofi)

/-- The next statement is a send. This is the only statement at which a thread
of the viewer can wait for the collector. -/
def sendsNext : List ViewerAct → Bool
  | .send _ :: _ => true
  | _ => false

/-- **The scopes of a thread's statements**, with the mutexes it holds. The GUI
sends behind its lock of `m_socketMutex`, and waits for the worker with no
mutex. No statement but that lock has a send behind it (`sendsNext`), so that in
front of a send nothing else can be forgotten. -/
def nested (t : ListenerThread) : List ViewerMutex → List ViewerAct → Bool
  | held, [] => held = []
  | held, .lock m :: rest => mayLock t held m && nested t (m :: held) rest
  | held, .unlock m :: rest => held.head? = some m && (!sendsNext rest && nested t held.tail rest)
  | held, .send _ :: rest => t = .gui && (held = [.socket] && (!sendsNext rest && nested t [] rest))
  | held, .startTest :: rest | held, .spawn :: rest | held, .join :: rest =>
    t = .gui && (held = [] && (!sendsNext rest && nested t [] rest))
  | held, .adopt :: rest => t = .worker && (!sendsNext rest && nested t held rest)
  | held, .closeClient :: rest | held, .closeSockets :: rest | held, .setStopFlag _ :: rest
  | held, .setRunning _ :: rest => !sendsNext rest && nested t held rest

/-- **A thread holds what its statements release.** -/
structure Holds (holder : ViewerMutex → Option ListenerThread) (t : ListenerThread)
    (held : List ViewerMutex) (todo : List ViewerAct) : Prop where
  /-- These are the mutexes that the thread holds, … -/
  holds : ∀ m, holder m = some t ↔ m ∈ held
  /-- … each once. -/
  nodup : held.Nodup
  /-- Its statements release them, the last taken first. -/
  nested : nested t held todo = true

section Scopes

variable {holder : ViewerMutex → Option ListenerThread} {s s' : Programs} {t t' : ListenerThread}
  {held held' : List ViewerMutex} {act : ViewerAct} {rest todo : List ViewerAct} {m : ViewerMutex}

/-! ### One statement

What a statement does to the mutexes, and what `nested` says of the statements
behind it. Two facts come out of this for every statement: the thread that does
it holds what the rest releases, and what the other thread holds is as it was.
-/

/-- A mutex that may be locked is not held already. -/
theorem nodup_of_mayLock (h : mayLock t held m = true) : (m :: held).Nodup := by
  cases t with
  | gui =>
    rw [of_decide_eq_true (Bool.and_eq_true_iff.mp h).1]
    exact List.nodup_singleton m
  | worker =>
    rcases Bool.or_eq_true_iff.mp h with hnone | hsave
    · rw [of_decide_eq_true hnone]
      exact List.nodup_singleton m
    · obtain ⟨hheld, htofi⟩ := Bool.and_eq_true_iff.mp hsave
      rw [of_decide_eq_true hheld, of_decide_eq_true htofi]
      decide

namespace Holds

/-- A mutex is locked, and added to those that are held. -/
theorem lock (h : Holds holder t held (.lock m :: rest)) :
    Holds (Function.update holder m (some t)) t (m :: held) rest := by
  obtain ⟨hmay, hrest⟩ := Bool.and_eq_true_iff.mp h.nested
  refine ⟨fun m' => ?_, nodup_of_mayLock hmay, hrest⟩
  by_cases hm : m' = m
  · subst hm
    rw [Function.update_self]
    exact iff_of_true rfl List.mem_cons_self
  · rw [Function.update_of_ne hm, List.mem_cons, or_iff_right hm]
    exact h.holds m'

/-- The mutex that was taken last is released. -/
theorem unlock (h : Holds holder t held (.unlock m :: rest)) :
    Holds (Function.update holder m none) t held.tail rest := by
  obtain ⟨hhead, hbehind⟩ := Bool.and_eq_true_iff.mp h.nested
  obtain ⟨tail, rfl⟩ := List.head?_eq_some_iff.mp (of_decide_eq_true hhead)
  obtain ⟨hnot, hnodup⟩ := List.nodup_cons.mp h.nodup
  refine ⟨fun m' => ?_, hnodup, (Bool.and_eq_true_iff.mp hbehind).2⟩
  by_cases hm : m' = m
  · subst hm
    rw [Function.update_self]
    exact iff_of_false (fun h => nomatch h) hnot
  · rw [Function.update_of_ne hm, h.holds m', List.mem_cons, or_iff_right hm]
    rfl

/-- A mutex that is released was held. -/
theorem mem_of_unlock (h : Holds holder t held (.unlock m :: rest)) : m ∈ held :=
  List.mem_of_mem_head? (of_decide_eq_true (Bool.and_eq_true_iff.mp h.nested).1)

/-- A mutex that a thread takes was nobody's, and one that it releases was its
own. In either case it is not one that the other thread holds, and what that one
holds stays as it is. -/
theorem other {t₀ : Option ListenerThread} (h : Holds holder t' held todo)
    (hm : holder m ≠ some t') (ht : t₀ ≠ some t') :
    Holds (Function.update holder m t₀) t' held todo := by
  refine ⟨fun m' => ?_, h.nodup, h.nested⟩
  by_cases hm' : m' = m
  · subst hm'
    rw [Function.update_self, ← h.holds m']
    exact iff_of_false ht hm
  · rw [Function.update_of_ne hm']
    exact h.holds m'

end Holds

/-- A new connection changes no mutex. -/
theorem holder_adopt (s : Programs) : s.adopt.holder = s.holder := by
  unfold Programs.adopt
  split <;> rfl

/-- **A statement is done**, and the thread holds what is behind it: a lock adds
the mutex in front, an unlock takes the front one away, and the others leave
both lists alone. The statements that the GUI alone does are no case of this, as
`viewerAct` refuses them. -/
theorem Holds.viewerAct (h : Holds s.holder t held (act :: rest))
    (hact : s.viewerAct t act = some s') : ∃ held', Holds s'.holder t held' rest := by
  cases act with
  | lock m =>
    simp only [Programs.viewerAct] at hact
    split at hact
    · cases hact
      exact ⟨_, h.lock⟩
    · cases hact
  | unlock m =>
    cases hact
    exact ⟨_, h.unlock⟩
  | adopt =>
    cases hact
    rw [holder_adopt]
    exact ⟨held, h.holds, h.nodup,
      (Bool.and_eq_true_iff.mp (Bool.and_eq_true_iff.mp h.nested).2).2⟩
  | closeClient | closeSockets | setStopFlag | setRunning =>
    cases hact
    exact ⟨held, h.holds, h.nodup, (Bool.and_eq_true_iff.mp h.nested).2⟩
  | send | startTest | spawn | join => cases hact

/-- Behind a send its scope ends, with the session of the saved frames or
without it. Both ways are given, as it depends on the result of the send which
of them the GUI takes. -/
theorem Holds.send {message : Message} (h : Holds holder t held (.send message :: rest)) :
    (∃ held', Holds holder t held' (.unlock .socket :: rest)) ∧
      ∃ held', Holds holder t held'
        (.unlock .socket :: (ViewerAct.closeProcessedFrameSaveSession ++ rest)) := by
  obtain ⟨hgui, hbehind⟩ := Bool.and_eq_true_iff.mp h.nested
  obtain ⟨hheld, hrest⟩ := Bool.and_eq_true_iff.mp hbehind
  have hgui : t = .gui := of_decide_eq_true hgui
  have hheld : held = [.socket] := of_decide_eq_true hheld
  subst hgui hheld
  exact ⟨⟨_, h.holds, h.nodup, hrest⟩, ⟨_, h.holds, h.nodup, hrest⟩⟩

/-- The other thread's mutexes are left to it. -/
theorem Holds.viewerAct_other (h : Holds s.holder t held (act :: rest))
    (hact : s.viewerAct t act = some s') (ht : t' ≠ t) (h' : Holds s.holder t' held' todo) :
    Holds s'.holder t' held' todo := by
  have hne : some t ≠ some t' := fun heq => ht (Option.some.inj heq).symm
  cases act with
  | lock m =>
    simp only [Programs.viewerAct] at hact
    split at hact
    · next hfree =>
      cases hact
      exact h'.other (fun hm => Option.some_ne_none _ (hm.symm.trans hfree)) hne
    · cases hact
  | unlock m =>
    cases hact
    exact h'.other (fun hm => hne (((h.holds m).mpr h.mem_of_unlock).symm.trans hm))
      (Option.some_ne_none _).symm
  | adopt =>
    cases hact
    rw [holder_adopt]
    exact h'
  | closeClient | closeSockets | setStopFlag | setRunning =>
    cases hact
    exact h'
  | send | startTest | spawn | join => cases hact

end Scopes

/-! ## The invariant of the viewer

Each clause is about one of the questions that a step raises: which mutexes are
held, where the worker is in its block, whether somebody attends to the
connection, whether there is a message where one is taken, and whether a command
is waiting. -/

/-- What the worker has still to do in its block. -/
def ViewerWorker.todo : ViewerWorker → List ViewerAct
  | .run _ todo => todo
  | _ => []

/-- What the worker has still to do in its block, if there is a worker. -/
def Programs.workerTodo (s : Programs) : List ViewerAct := s.worker.elim [] ViewerWorker.todo

/-- The worker is in a block at the end of its statements. What a handler does
depends on the message and on the way of the frame, so for this block there is
some message and some way of which the statements are the end. -/
def WorkerBlock.Follows : WorkerBlock → List ViewerAct → Prop
  | .handle, todo => ∃ type path, todo <:+ ViewerAct.handle type path
  | block, todo => todo <:+ block.acts

/-- The worker has accepted a connection, and not closed it. Between the blocks
this is told by the place. Within a block it is told by what is still to do: it
has the connection until it closes the socket, or from the time on when it has
made it the current one. -/
def ViewerWorker.attached : ViewerWorker → Bool
  | .loopTest | .poll | .recv | .run .handle _ => true
  | .run .leave todo => .closeClient ∈ todo
  | .run .caught todo => .closeSockets ∈ todo
  | .run .publish todo => .adopt ∉ todo
  | _ => false

/-- The locks of the handlers. A handler works on a message that it already has,
and none of its statements touches the socket. -/
def locksOther : ViewerAct → Bool
  | .lock m | .unlock m => m ≠ .socket
  | _ => false

/-- **The viewer's part of the invariant.** -/
structure ViewerInv (args : ChannelArgs) (s : Programs) : Prop where
  /-- The GUI releases what it holds. -/
  guiScopes : ∃ held, Holds s.holder .gui held s.gui
  /-- So does the worker. -/
  workerScopes : ∃ held, Holds s.holder .worker held s.workerTodo
  /-- The worker is in a block of the source, at a statement of it. -/
  follows : ∀ block todo, s.worker = some (.run block todo) → block.Follows todo
  /-- A connection that is open has been accepted, and the worker is at it. -/
  attached : s.client = .current → s.link = .accepted ∧ ∃ p, s.worker = some p ∧ p.attached = true
  /-- A worker that receives has a message to take. -/
  message : s.worker = some .recv → s.client = .current → s.toViewer ≠ []
  /-- A worker that has turned away has left no command waiting for room. -/
  served : s.commandWaits args = true → s.workerAway = false

section Viewer

variable {args : ChannelArgs} {s s' : Programs}

/-! ### What the clauses look at

A clause that speaks of the worker's place, of its statements or of a waiting
command is kept by a step that changes none of them. These lemmas say which
fields matter, and that the handlers, whose statements depend on the message,
are nested whatever the message is. -/

/-- What is left of a block is what is still to do; at its end the worker is
between two blocks, or has ended. -/
theorem todo_resume_worker (block : WorkerBlock) (todo : List ViewerAct) :
    (ViewerWorker.resume block todo).todo = todo := by
  cases todo with
  | nil => cases block <;> rfl
  | cons act todo => rfl

/-- The handlers lock the mutexes other than that of the socket. -/
theorem handle_locks (type : MessageType) (path : ViewerAct.FramePath) :
    ∀ a ∈ ViewerAct.handle type path, locksOther a = true := by
  have hpath : (ViewerAct.handleDataFrame path).all locksOther = true := by
    cases path with
    | skipped => rfl
    | computed stage save dropped => cases stage <;> cases save <;> cases dropped <;> rfl
    | raw save dropped => cases save <;> cases dropped <;> rfl
  refine List.all_eq_true.mp ?_
  unfold ViewerAct.handle
  split
  · exact hpath
  · split
    · rfl
    · split <;> rfl

/-- They are nested, whichever way a frame goes. There are finitely many ways,
and for each of them this is a computation. -/
theorem nested_handle (type : MessageType) (path : ViewerAct.FramePath) :
    nested .worker [] (ViewerAct.handle type path) = true := by
  have hpath : nested .worker [] (ViewerAct.handleDataFrame path) = true := by
    cases path with
    | skipped => rfl
    | computed stage save dropped => cases stage <;> cases save <;> cases dropped <;> rfl
    | raw save dropped => cases save <;> cases dropped <;> rfl
  unfold ViewerAct.handle
  split
  · exact hpath
  · split
    · rfl
    · split <;> rfl

/-- A command waits at a send on the current connection, without room. A send on
a connection that has been closed does not wait, since it fails. -/
theorem commandWaits_iff : s.commandWaits args = true ↔
    sendsNext s.gui = true ∧ s.client = .current ∧ s.commandFits args = false := by
  unfold Programs.commandWaits
  split
  · next m rest hgui =>
    rw [hgui, Bool.and_eq_true_iff, decide_eq_true_iff, Bool.not_eq_true']
    exact (and_iff_right rfl).symm
  · next hne =>
    refine iff_of_false Bool.false_ne_true (fun h => ?_)
    obtain ⟨hsend, -⟩ := h
    unfold sendsNext at hsend
    split at hsend
    · next m rest hgui => exact hne m rest hgui
    · cases hsend

/-- It depends on the worker. -/
theorem workerAway_congr (h : s'.worker = s.worker) : s'.workerAway = s.workerAway := by
  unfold Programs.workerAway
  rw [h]

/-- So does what it has still to do. -/
theorem workerTodo_congr (h : s'.worker = s.worker) : s'.workerTodo = s.workerTodo := by
  unfold Programs.workerTodo
  rw [h]

/-! ### The steps beside the viewer

The collector's steps change the channels and not the viewer's threads. A
message more, or a command less, does no harm to any clause. -/

/-- The viewer's threads are where they were, and as long as the worker keeps
the connection, no message is taken from it and no command added. -/
structure Beside (s s' : Programs) : Prop where
  gui : s'.gui = s.gui
  worker : s'.worker = s.worker
  holder : s'.holder = s.holder
  client : s'.client = .current → s.client = .current ∧ s'.link = s.link
    ∧ (s.toViewer ≠ [] → s'.toViewer ≠ []) ∧ s'.commands.length ≤ s.commands.length

/-- **Such a step keeps the invariant.** The scopes and the block are those of
before. If the connection is still there, it was there before, with a message
where one was; and a command that waits now has waited before, as there is at
least as much room. -/
theorem viewerInv_of_beside (h : ViewerInv args s) (hb : Beside s s') : ViewerInv args s' := by
  constructor
  case guiScopes =>
    rw [hb.gui, hb.holder]
    exact h.guiScopes
  case workerScopes =>
    rw [hb.holder, workerTodo_congr hb.worker]
    exact h.workerScopes
  case follows =>
    rw [hb.worker]
    exact h.follows
  case attached =>
    intro hclient
    obtain ⟨hcurrent, hlink, -⟩ := hb.client hclient
    rw [hlink, hb.worker]
    exact h.attached hcurrent
  case message =>
    intro hrecv hclient
    obtain ⟨hcurrent, -, hmessage, -⟩ := hb.client hclient
    exact hmessage (h.message (hb.worker.symm.trans hrecv) hcurrent)
  case served =>
    intro hwaits
    obtain ⟨hsend, hclient, hfull⟩ := commandWaits_iff.mp hwaits
    obtain ⟨hcurrent, -, -, hle⟩ := hb.client hclient
    rw [workerAway_congr hb.worker]
    have hfull' := of_decide_eq_false hfull
    refine h.served (commandWaits_iff.mpr ⟨?_, hcurrent, decide_eq_false fun hlt => ?_⟩)
    · rw [← hb.gui]
      exact hsend
    · exact hfull' (lt_of_le_of_lt hle hlt)

/-- A sent message is added to the others. -/
theorem sentTo_ne_nil {act : Act} (h : s.toViewer ≠ []) : s.sentTo act ≠ [] := by
  unfold Programs.sentTo
  split
  · exact List.append_ne_nil_of_left_ne_nil h _
  · exact h

/-- The main thread of the collector takes a command, or does an act. Taking a
command makes room, and a send adds a message. -/
theorem beside_mainStep {r : CallResult} (h : s.mainStep args r = some s') : Beside s s' := by
  unfold Programs.mainStep at h
  split at h
  · split at h
    · cases h
    · next m ms hcommands =>
      cases h
      refine ⟨rfl, rfl, rfl, fun hclient => ⟨hclient, rfl, id, ?_⟩⟩
      rw [hcommands]
      exact Nat.le_succ _
  · split at h
    · obtain ⟨c, -, rfl⟩ := Option.map_eq_some_iff.mp h
      exact ⟨rfl, rfl, rfl, fun hclient => ⟨hclient, rfl, sentTo_ne_nil, le_rfl⟩⟩
    · cases h
  · cases h

/-- Its call throws. -/
theorem beside_mainThrow {what : Bytes} (h : s.mainThrow what = some s') : Beside s s' := by
  unfold Programs.mainThrow at h
  split at h <;> cases h <;> exact ⟨rfl, rfl, rfl, fun hclient => ⟨hclient, rfl, id, le_rfl⟩⟩

/-- The capture thread does an act, or takes a turn. -/
theorem beside_captureStep {r : FrameResult} (h : s.captureStep args r = some s') :
    Beside s s' := by
  unfold Programs.captureStep at h
  split at h
  · cases h
  · split at h
    · obtain ⟨c, -, rfl⟩ := Option.map_eq_some_iff.mp h
      exact ⟨rfl, rfl, rfl, fun hclient => ⟨hclient, rfl, sentTo_ne_nil, le_rfl⟩⟩
    · cases h
  · split at h
    · obtain ⟨c, -, rfl⟩ := Option.map_eq_some_iff.mp h
      exact ⟨rfl, rfl, rfl, fun hclient => ⟨hclient, rfl, id, le_rfl⟩⟩
    · split at h
      · cases h
      · obtain ⟨c, -, rfl⟩ := Option.map_eq_some_iff.mp h
        exact ⟨rfl, rfl, rfl, fun hclient => ⟨hclient, rfl, id, le_rfl⟩⟩

/-- Its send throws. -/
theorem beside_captureThrow {what : Bytes} (h : s.captureThrow what = some s') : Beside s s' := by
  unfold Programs.captureThrow at h
  split at h
  · cases h
    exact ⟨rfl, rfl, rfl, fun hclient => ⟨hclient, rfl, id, le_rfl⟩⟩
  · cases h

/-- A thread of the collector takes the camera. -/
theorem beside_takeCamera {o : Owner} (h : s.takeCamera args o = some s') : Beside s s' := by
  unfold Programs.takeCamera at h
  split at h
  · cases o with
    | main =>
      dsimp only at h
      split at h
      · split at h
        · cases h
          exact ⟨rfl, rfl, rfl, fun hclient => ⟨hclient, rfl, id, le_rfl⟩⟩
        · cases h
      · cases h
    | capture =>
      dsimp only at h
      split at h
      · cases h
        exact ⟨rfl, rfl, rfl, fun hclient => ⟨hclient, rfl, id, le_rfl⟩⟩
      · cases h
  · cases h

/-- A connection that has been closed is not the current one. So all the clauses
about the connection are about nothing. -/
theorem beside_hangUp (h : s.hangUp = some s') : Beside s s' := by
  unfold Programs.hangUp at h
  split at h
  · cases h
    refine ⟨rfl, rfl, rfl, fun hclient => ?_⟩
    change (if s.client = .current then ClientSocket.stale s.toViewer else s.client) = .current
      at hclient
    split at hclient
    · cases hclient
    · next hne => exact absurd hclient hne
  · cases h

/-- Nor is there one when a new connection comes. -/
theorem beside_connect (hinv : ViewerInv args s) (h : s.connect args = some s') : Beside s s' := by
  unfold Programs.connect at h
  split at h
  · next hnone =>
    cases h
    refine ⟨rfl, rfl, rfl, fun hclient => ?_⟩
    have hlink := (hinv.attached hclient).1
    rw [hnone.2.1] at hlink
    cases hlink
  · cases h

/-! ### The statements of the GUI

For the GUI the clauses are gone through for each kind of statement. The one
that matters is the lock ahead of a send: behind it a command may wait, and the
worker must not be away then. -/

variable {t : ListenerThread} {act : ViewerAct} {rest : List ViewerAct}

/-- A statement leaves the rest of the programs as it is. -/
theorem viewerAct_frame (hact : s.viewerAct t act = some s') :
    s'.gui = s.gui ∧ s'.worker = s.worker ∧ s'.commands = s.commands
      ∧ s'.toViewer = s.toViewer ∧ s'.toCollector = s.toCollector ∧ s'.camera = s.camera := by
  cases act with
  | lock m =>
    simp only [Programs.viewerAct] at hact
    split at hact
    · cases hact
      exact ⟨rfl, rfl, rfl, rfl, rfl, rfl⟩
    · cases hact
  | adopt =>
    cases hact
    unfold Programs.adopt
    split <;> exact ⟨rfl, rfl, rfl, rfl, rfl, rfl⟩
  | unlock | closeClient | closeSockets | setStopFlag | setRunning =>
    cases hact
    exact ⟨rfl, rfl, rfl, rfl, rfl, rfl⟩
  | send | startTest | spawn | join => cases hact

/-- Only `adopt` makes a connection the current one. -/
theorem viewerAct_client (hact : s.viewerAct t act = some s') (hadopt : act ≠ .adopt)
    (hclient : s'.client = .current) :
    s.client = .current ∧ s'.link = s.link ∧ act ≠ .closeClient ∧ act ≠ .closeSockets := by
  cases act with
  | lock m =>
    simp only [Programs.viewerAct] at hact
    split at hact
    · cases hact
      exact ⟨hclient, rfl, by simp, by simp⟩
    · cases hact
  | adopt => exact absurd rfl hadopt
  | closeClient | closeSockets =>
    cases hact
    cases hclient
  | unlock | setStopFlag | setRunning =>
    cases hact
    exact ⟨hclient, rfl, by simp, by simp⟩
  | send | startTest | spawn | join => cases hact

/-- Only a lock of `m_socketMutex` leads to a send. It is for this that `nested`
forbids a send behind every other statement. -/
theorem lock_of_sendsNext {held : List ViewerMutex} (h : nested t held (act :: rest) = true)
    (hsend : sendsNext rest = true) : act = .lock .socket := by
  cases act with
  | lock m =>
    obtain ⟨-, hrest⟩ := Bool.and_eq_true_iff.mp h
    unfold sendsNext at hsend
    split at hsend
    · obtain ⟨-, hrest'⟩ := Bool.and_eq_true_iff.mp hrest
      have hheld := of_decide_eq_true (Bool.and_eq_true_iff.mp hrest').1
      rw [(List.cons.inj hheld).1]
    · cases hsend
  | unlock | adopt | closeClient | closeSockets | setStopFlag | setRunning | send | startTest
  | spawn | join =>
    simp only [nested, hsend, Bool.not_true, Bool.false_and, Bool.and_false] at h
    cases h

/-- Without a current connection, all there is to the invariant are the scopes
and the blocks. -/
theorem viewerInv_of_detached (hgui : ∃ held, Holds s.holder .gui held s.gui)
    (hworker : ∃ held, Holds s.holder .worker held s.workerTodo)
    (hfollows : ∀ block todo, s.worker = some (.run block todo) → block.Follows todo)
    (hclient : s.client ≠ .current) : ViewerInv args s where
  guiScopes := hgui
  workerScopes := hworker
  follows := hfollows
  attached := fun h => absurd h hclient
  message := fun _ h => absurd h hclient
  served := fun h => absurd (commandWaits_iff.mp h).2.1 hclient

/-- **The GUI goes on**, and does not send next. Then no command is waiting, and
the other clauses do not look at the GUI. -/
theorem viewerInv_gui {gui' : List ViewerAct} (h : ViewerInv args s)
    (hgui : ∃ held, Holds s.holder .gui held gui') (hsend : sendsNext gui' = false)
    (commands' : List Message) :
    ViewerInv args { s with gui := gui', commands := commands' } where
  guiScopes := hgui
  workerScopes := h.workerScopes
  follows := h.follows
  attached := h.attached
  message := h.message
  served := fun hwaits => absurd ((commandWaits_iff.mp hwaits).1.symm.trans hsend) nofun

/-- A statement that the worker might do as well. Five clauses go through by the
frame of the statement. For the last one, a command that waits behind the step
is one that the GUI has just taken the mutex for; the worker may be away at that
moment, but then an orderly step finds room for the command, and it does not
wait. -/
theorem viewerInv_guiAct {ok : Bool} (h : ViewerInv args s) (hgui : s.gui = act :: rest)
    (hok : Programs.Orderly args s (.gui ok)) (hact : s.viewerAct .gui act = some s') :
    ViewerInv args { s' with gui := rest } := by
  obtain ⟨held, hheld⟩ := h.guiScopes
  rw [hgui] at hheld
  obtain ⟨-, hworker, hcommands, hmessages, -, -⟩ := viewerAct_frame hact
  have hadopt : act ≠ .adopt := by
    rintro rfl
    exact absurd hheld.nested nofun
  constructor
  case guiScopes =>
    show ∃ held', Holds s'.holder .gui held' rest
    exact hheld.viewerAct hact
  case workerScopes =>
    obtain ⟨heldW, hW⟩ := h.workerScopes
    refine ⟨heldW, ?_⟩
    show Holds s'.holder .worker heldW s'.workerTodo
    rw [workerTodo_congr hworker]
    exact hheld.viewerAct_other hact nofun hW
  case follows =>
    show ∀ block todo, s'.worker = some (.run block todo) → block.Follows todo
    rw [hworker]
    exact h.follows
  case attached =>
    intro hclient
    obtain ⟨hcurrent, hlink, -⟩ := viewerAct_client hact hadopt hclient
    show s'.link = .accepted ∧ ∃ p, s'.worker = some p ∧ p.attached = true
    rw [hlink, hworker]
    exact h.attached hcurrent
  case message =>
    intro hrecv hclient
    obtain ⟨hcurrent, -⟩ := viewerAct_client hact hadopt hclient
    show s'.toViewer ≠ []
    rw [hmessages]
    exact h.message (hworker.symm.trans hrecv) hcurrent
  case served =>
    intro hwaits
    obtain ⟨hsend, hclient, hfull⟩ := commandWaits_iff.mp hwaits
    obtain ⟨hcurrent, -⟩ := viewerAct_client hact hadopt hclient
    show s'.workerAway = false
    rw [workerAway_congr hworker, ← Bool.not_eq_true]
    intro haway
    -- the GUI has taken the mutex for a command, and an orderly step finds room
    have hat : s.atCommand = true := by
      have hlock := lock_of_sendsNext hheld.nested hsend
      unfold Programs.atCommand
      change sendsNext rest = true at hsend
      unfold sendsNext at hsend
      split at hsend
      · rw [hgui, hlock]
      · cases hsend
    have hfits := hok hat haway hcurrent
    change decide (s'.commands.length < args.commandRoom) = false at hfull
    rw [hcommands] at hfull
    exact absurd (hfits.symm.trans hfull) nofun

/-- The statements that only the GUI does, beside the send, are outside of all
scopes, and no send is behind them. -/
theorem nested_of_gui {held : List ViewerMutex}
    (hact : act = .startTest ∨ act = .spawn ∨ act = .join)
    (h : nested t held (act :: rest) = true) :
    held = [] ∧ sendsNext rest = false ∧ nested .gui [] rest = true := by
  have hall : (t = .gui && (held = [] && (!sendsNext rest && nested t [] rest))) = true := by
    rcases hact with rfl | rfl | rfl <;> exact h
  obtain ⟨hgui, hbehind⟩ := Bool.and_eq_true_iff.mp hall
  obtain ⟨hheld, hrest⟩ := Bool.and_eq_true_iff.mp hbehind
  obtain ⟨hsend, hnested⟩ := Bool.and_eq_true_iff.mp hrest
  rw [of_decide_eq_true hgui] at hnested
  exact ⟨of_decide_eq_true hheld, (Bool.not_eq_true' _).mp hsend, hnested⟩

/-- A worker with nothing to do holds no mutex. -/
theorem holds_of_ended (h : ViewerInv args s) (htodo : s.workerTodo = []) (todo : List ViewerAct)
    (hnested : nested .worker [] todo = true) : Holds s.holder .worker [] todo := by
  obtain ⟨held, hheld⟩ := h.workerScopes
  rw [htodo] at hheld
  have hnone : held = [] := of_decide_eq_true hheld.nested
  subst hnone
  exact ⟨hheld.holds, hheld.nodup, hnested⟩

/-- **The worker is started or joined.** It is not there before, or at its end,
and so it is not at a connection; and the one that is started has not accepted
one yet. -/
theorem viewerInv_worker {worker' : Option ViewerWorker} (h : ViewerInv args s)
    (hnone : s.worker = none ∨ s.worker = some .ended)
    (hworker : worker' = none ∨ worker' = some WorkerBlock.entry.enter)
    (hgui : ∃ held, Holds s.holder .gui held rest) :
    ViewerInv args { s with worker := worker', gui := rest } := by
  have htodo : s.workerTodo = [] := by
    unfold Programs.workerTodo
    rcases hnone with hnone | hended
    · rw [hnone]
      rfl
    · rw [hended]
      rfl
  refine viewerInv_of_detached hgui ?_ ?_ ?_
  · rcases hworker with rfl | rfl
    · exact ⟨_, holds_of_ended h htodo [] rfl⟩
    · exact ⟨_, holds_of_ended h htodo WorkerBlock.entry.acts rfl⟩
  · intro block todo hrun
    rcases hworker with rfl | rfl
    · cases hrun
    · cases hrun
      exact List.suffix_refl _
  · intro hclient
    obtain ⟨-, p, hp, hattached⟩ := h.attached hclient
    rcases hnone with hnone | hended
    · rw [hnone] at hp
      cases hp
    · rw [hended] at hp
      cases hp
      cases hattached

/-- **A step of the GUI keeps the invariant.** A send ends its scope with any
result, a start or a join is `viewerInv_worker`, and the other statements are
those that the two threads have in common. -/
theorem viewerInv_guiStep {ok : Bool} (h : ViewerInv args s)
    (hok : Programs.Orderly args s (.gui ok)) (hstep : s.guiStep args ok = some s') :
    ViewerInv args s' := by
  obtain ⟨held, hheld⟩ := h.guiScopes
  unfold Programs.guiStep at hstep
  split at hstep
  · cases hstep
  · next m rest hgui =>
    rw [hgui] at hheld
    obtain ⟨hkept, hclosed⟩ := hheld.send
    split at hstep
    · cases hstep
      exact viewerInv_gui h hkept rfl _
    · cases hstep
      exact viewerInv_gui h hkept rfl _
    · split at hstep
      · cases hstep
        exact viewerInv_gui h hclosed rfl _
      · cases hstep
    · cases hstep
      exact viewerInv_gui h hclosed rfl _
  · next rest hgui =>
    rw [hgui] at hheld
    obtain ⟨rfl, hsend, hrest⟩ := nested_of_gui (.inl rfl) hheld.nested
    cases hstep
    refine viewerInv_gui h ⟨[], hheld.holds, hheld.nodup, ?_⟩ ?_ _
    · split
      · exact hrest
      · show (!sendsNext rest && nested .gui [] rest) = true
        rw [hsend, hrest]
        rfl
    · split
      · exact hsend
      · rfl
  · next rest hgui =>
    rw [hgui] at hheld
    obtain ⟨rfl, hsend, hrest⟩ := nested_of_gui (.inr (.inl rfl)) hheld.nested
    split at hstep
    · next hnone =>
      cases hstep
      exact viewerInv_worker h (.inl hnone) (.inr rfl) ⟨[], hheld.holds, hheld.nodup, hrest⟩
    · cases hstep
      have hfree : ∀ t, Holds (fun _ => none) t [] [] := fun t =>
        ⟨fun m => iff_of_false nofun List.not_mem_nil, List.nodup_nil, rfl⟩
      -- the viewer is terminated, and nobody holds anything
      exact viewerInv_of_detached ⟨[], hfree .gui⟩ ⟨[], hfree .worker⟩ nofun nofun
  · next rest hgui =>
    rw [hgui] at hheld
    obtain ⟨rfl, hsend, hrest⟩ := nested_of_gui (.inr (.inr rfl)) hheld.nested
    split at hstep
    · next hended =>
      cases hstep
      exact viewerInv_worker h hended (.inl rfl) ⟨[], hheld.holds, hheld.nodup, hrest⟩
    · cases hstep
  · next act rest _ _ _ _ hgui =>
    obtain ⟨s₁, hact, rfl⟩ := Option.map_eq_some_iff.mp hstep
    exact viewerInv_guiAct h hgui hok hact

/-! ### The steps of the worker

The worker is in a block, where its next statement is like one of the GUI's, or
between two blocks, where it goes from one place to another. In either case it
has to be shown that the connection is attended to behind the step if it was
before, or is closed. -/

variable {p p' : ViewerWorker} {block : WorkerBlock} {todo : List ViewerAct}

/-- Behind the first of its statements, a block has no lock of `m_socketMutex`.
So the worker waits for that mutex only at the beginning of a block, where it
holds nothing. -/
theorem ne_socket_of_follows {m : ViewerMutex} (h : block.Follows (act :: .lock m :: rest)) :
    m ≠ .socket := by
  cases block with
  | handle =>
    obtain ⟨type, path, hsuffix⟩ := h
    have hmem : .lock m ∈ ViewerAct.handle type path :=
      hsuffix.subset (List.mem_cons_of_mem act List.mem_cons_self)
    exact of_decide_eq_true (handle_locks type path _ hmem)
  | entry | publish | leave | caught | exit =>
    simp [WorkerBlock.Follows, WorkerBlock.acts, ViewerAct.scope, List.suffix_cons_iff] at h

/-- The connection that a block leaves open is attended to behind it: the block
comes to the loop over the messages, or has not closed the socket yet. -/
theorem attached_of_act
    (hattached : (ViewerWorker.run block (act :: todo)).attached = true)
    (hclient : act ≠ .closeClient) (hsockets : act ≠ .closeSockets) :
    (ViewerWorker.resume block todo).attached = true := by
  cases block with
  | handle => cases todo <;> rfl
  | entry | exit => cases hattached
  | publish =>
    have hnot : ViewerAct.adopt ∉ act :: todo := of_decide_eq_true hattached
    cases todo with
    | nil => rfl
    | cons next todo => exact decide_eq_true (fun hmem => hnot (List.mem_cons_of_mem _ hmem))
  | leave =>
    have hmem : ViewerAct.closeClient ∈ act :: todo := of_decide_eq_true hattached
    rcases List.mem_cons.mp hmem with heq | hmem'
    · exact absurd heq.symm hclient
    · cases todo with
      | nil => cases hmem'
      | cons next todo => exact decide_eq_true hmem'
  | caught =>
    have hmem : ViewerAct.closeSockets ∈ act :: todo := of_decide_eq_true hattached
    rcases List.mem_cons.mp hmem with heq | hmem'
    · exact absurd heq.symm hsockets
    · cases todo with
      | nil => cases hmem'
      | cons next todo => exact decide_eq_true hmem'

/-- The connection that is made the current one is attended to likewise. -/
theorem attached_of_adopt (h : block.Follows (.adopt :: todo)) :
    (ViewerWorker.resume block todo).attached = true := by
  cases block with
  | handle =>
    obtain ⟨type, path, hsuffix⟩ := h
    exact absurd (handle_locks type path _ (hsuffix.subset List.mem_cons_self)) nofun
  | publish =>
    have htodo : todo = [.unlock .socket] := by
      simpa [WorkerBlock.Follows, WorkerBlock.acts, ViewerAct.scope, List.suffix_cons_iff] using h
    rw [htodo]
    rfl
  | entry | leave | caught | exit =>
    simp [WorkerBlock.Follows, WorkerBlock.acts, ViewerAct.scope, List.suffix_cons_iff] at h

/-- One statement on, the worker is still in the block. -/
theorem follows_of_cons (h : block.Follows (act :: todo)) : block.Follows todo := by
  have hsuffix := List.suffix_cons act todo
  cases block with
  | handle =>
    obtain ⟨type, path, hall⟩ := h
    exact ⟨type, path, hsuffix.trans hall⟩
  | entry | publish | leave | caught | exit => exact hsuffix.trans h

/-- **A statement of the worker keeps the invariant.** It is the connection that
takes work here. A statement that does not close it leaves it with a worker that
is attached still (`attached_of_act`), and the one that adopts it makes it the
current one with the worker at it (`attached_of_adopt`). The commands do not
change, and behind a statement of its block the worker is not away. -/
theorem viewerInv_workerAct (h : ViewerInv args s)
    (hp : s.worker = some (.run block (act :: todo)))
    (hact : s.viewerAct .worker act = some s') :
    ViewerInv args (s'.goTo (.resume block todo)) := by
  have hfollows := h.follows block (act :: todo) hp
  obtain ⟨held, hheld⟩ := h.workerScopes
  have htodo : s.workerTodo = act :: todo := by
    unfold Programs.workerTodo
    rw [hp]
    rfl
  rw [htodo] at hheld
  obtain ⟨hgui, -, hcommands, hmessages, -, -⟩ := viewerAct_frame hact
  constructor
  case guiScopes =>
    obtain ⟨heldG, hG⟩ := h.guiScopes
    refine ⟨heldG, ?_⟩
    show Holds s'.holder .gui heldG s'.gui
    rw [hgui]
    exact hheld.viewerAct_other hact nofun hG
  case workerScopes =>
    show ∃ held', Holds s'.holder .worker held' (ViewerWorker.resume block todo).todo
    rw [todo_resume_worker]
    exact hheld.viewerAct hact
  case follows =>
    intro block' todo' hrun
    cases todo with
    | nil => cases block <;> cases hrun
    | cons next todo =>
      cases hrun
      exact follows_of_cons hfollows
  case attached =>
    intro hclient
    -- the connection is made the current one, or it was
    by_cases hadopt : act = .adopt
    · subst hadopt
      refine ⟨?_, _, rfl, attached_of_adopt hfollows⟩
      cases hact
      show s.adopt.link = .accepted
      change s.adopt.client = .current at hclient
      unfold Programs.adopt at hclient ⊢
      split
      · rfl
      · next hlink =>
        rw [if_neg hlink] at hclient
        cases hclient
    · obtain ⟨hcurrent, hlink, hne, hne'⟩ := viewerAct_client hact hadopt hclient
      obtain ⟨haccepted, p, hp', hattached⟩ := h.attached hcurrent
      rw [hp] at hp'
      cases hp'
      exact ⟨hlink.trans haccepted, _, rfl, attached_of_act hattached hne hne'⟩
  case message =>
    intro hrecv
    cases todo with
    | nil => cases block <;> cases hrecv
    | cons next todo => cases hrecv
  case served =>
    intro _
    unfold Programs.workerAway Programs.goTo
    split
    · next block' m rest hrun =>
      cases todo with
      | nil => cases block <;> cases hrun
      | cons next todo =>
        cases hrun
        exact decide_eq_false (ne_socket_of_follows hfollows)
    · rfl

/-! ### Between the blocks

Here the worker tests, waits or calls, and goes to another place. `GoesTo` is
what the clauses need of such a step, and it is the list that each place of the
source has to give: where the worker goes, that it may go there with no mutex
held, and what has become of the connection. -/

/-- A command waits only while the worker attends to a connection. -/
theorem not_commandWaits (h : ViewerInv args s) (hp : s.worker = some p)
    (hdetached : p.attached = false) : s.commandWaits args = false := by
  rw [← Bool.not_eq_true]
  intro hwaits
  obtain ⟨-, p', hp', hattached⟩ := h.attached (commandWaits_iff.mp hwaits).2.1
  rw [hp] at hp'
  cases hp'
  exact absurd (hattached.symm.trans hdetached) nofun

/-- The worker goes from a place between the blocks to `p'`. What the clauses
need of such a step is listed here, so that each of the tests and calls of the
source has to give this list only. -/
structure GoesTo (args : ChannelArgs) (s : Programs) (p p' : ViewerWorker) (s' : Programs) :
    Prop where
  gui : s'.gui = s.gui
  holder : s'.holder = s.holder
  worker : s'.worker = some p'
  client : s'.client = .current → s.client = .current ∧ s'.link = s.link
  scopes : nested .worker [] p'.todo = true
  follows : ∀ block todo, p' = .run block todo → block.Follows todo
  attached : s'.client = .current → p.attached = true → p'.attached = true
  message : p' = .recv → s'.client = .current → s'.toViewer ≠ []
  away : s'.workerAway = true → s.commandWaits args = false
  commands : s'.commands = s.commands

/-- **Such a step keeps the invariant.** Between the blocks the worker holds
nothing, so for its scopes only the statements of `p'` matter. A command that
waits behind the step has waited in front of it, and the worker has not turned
away from it by the field `away`. -/
theorem viewerInv_of_goesTo (h : ViewerInv args s) (hp : s.worker = some p) (hend : p.todo = [])
    (hgo : GoesTo args s p p' s') : ViewerInv args s' := by
  have htodo : s.workerTodo = [] := by
    unfold Programs.workerTodo
    rw [hp]
    exact hend
  have htodo' : s'.workerTodo = p'.todo := by
    unfold Programs.workerTodo
    rw [hgo.worker]
    rfl
  constructor
  case guiScopes =>
    rw [hgo.gui, hgo.holder]
    exact h.guiScopes
  case workerScopes =>
    rw [hgo.holder, htodo']
    exact ⟨[], holds_of_ended h htodo _ hgo.scopes⟩
  case follows =>
    intro block todo hrun
    rw [hgo.worker] at hrun
    exact hgo.follows block todo (Option.some.inj hrun)
  case attached =>
    intro hclient
    obtain ⟨hcurrent, hlink⟩ := hgo.client hclient
    obtain ⟨haccepted, p₀, hp₀, hattached⟩ := h.attached hcurrent
    rw [hp] at hp₀
    cases hp₀
    exact ⟨hlink.trans haccepted, p', hgo.worker, hgo.attached hclient hattached⟩
  case message =>
    intro hrecv hclient
    rw [hgo.worker] at hrecv
    exact hgo.message (Option.some.inj hrecv) hclient
  case served =>
    intro hwaits
    rw [← Bool.not_eq_true]
    intro haway
    obtain ⟨hsend, hclient, hfull⟩ := commandWaits_iff.mp hwaits
    -- a command that waits has waited before the step
    have hwaits' : s.commandWaits args = true := by
      refine commandWaits_iff.mpr ⟨?_, (hgo.client hclient).1, ?_⟩
      · rw [← hgo.gui]
        exact hsend
      · change decide (s'.commands.length < args.commandRoom) = false at hfull
        rwa [hgo.commands] at hfull
    exact absurd (hwaits'.symm.trans (hgo.away haway)) nofun

/-- **The worker enters a block** that is not a handler's. -/
theorem goesTo_enter (block : WorkerBlock) (hblock : block ≠ .handle)
    (hend : s'.worker = some block.enter) (hgui : s'.gui = s.gui) (hholder : s'.holder = s.holder)
    (hcommands : s'.commands = s.commands)
    (hclient : s'.client = .current → s.client = .current ∧ s'.link = s.link)
    (hattached : s'.client = .current → p.attached = true → block.enter.attached = true)
    (haway : s.commandWaits args = false) : GoesTo args s p block.enter s' where
  gui := hgui
  holder := hholder
  worker := hend
  client := hclient
  scopes := by cases block <;> rfl
  follows := by
    intro block' todo hrun
    cases hrun
    cases block with
    | handle => exact absurd rfl hblock
    | entry | publish | leave | caught | exit => exact List.suffix_refl _
  attached := hattached
  message := nofun
  away := fun _ => haway
  commands := hcommands

/-- The worker enters the block, and the invariant is kept. -/
theorem viewerInv_enter (h : ViewerInv args s) (hp : s.worker = some p) (hend : p.todo = [])
    (block : WorkerBlock) (hblock : block ≠ .handle)
    (hattached : p.attached = true → block.enter.attached = true)
    (haway : s.commandWaits args = false) : ViewerInv args (s.goTo block.enter) :=
  viewerInv_of_goesTo h hp hend (goesTo_enter block hblock rfl rfl rfl rfl
    (fun hclient => ⟨hclient, rfl⟩) (fun _ => hattached) haway)

/-- **The worker goes to a place between the blocks.** -/
theorem viewerInv_goTo (h : ViewerInv args s) (hp : s.worker = some p) (hend : p.todo = [])
    (hplace : ∀ block todo, p' ≠ .run block todo)
    (hattached : p.attached = true → p'.attached = true)
    (hmessage : p' = .recv → s.client = .current → s.toViewer ≠ []) :
    ViewerInv args (s.goTo p') := by
  refine viewerInv_of_goesTo h hp hend
    ⟨rfl, rfl, rfl, fun hclient => ⟨hclient, rfl⟩, ?_, ?_, fun _ => hattached, hmessage, ?_, rfl⟩
  · cases p' with
    | run block todo => exact absurd rfl (hplace block todo)
    | test | listen | innerTest | accept | loopTest | poll | recv | ended => rfl
  · exact fun block todo hrun => absurd hrun (hplace block todo)
  · intro haway
    unfold Programs.workerAway Programs.goTo at haway
    split at haway
    · next block m todo hrun => exact absurd (Option.some.inj hrun) (hplace _ _)
    · cases haway

/-- A worker without a connection closes the listening socket, and may open
another one. -/
theorem viewerInv_closeListening (h : ViewerInv args s) (hp : s.worker = some p)
    (hdetached : p.attached = false) (listening' : Bool) :
    ViewerInv args { s.closeListening with listening := listening' } := by
  refine viewerInv_of_beside h ⟨rfl, rfl, rfl, fun hclient => ?_⟩
  obtain ⟨-, p', hp', hattached⟩ := h.attached hclient
  rw [hp] at hp'
  cases hp'
  exact absurd (hattached.symm.trans hdetached) nofun

/-- The worker comes to the handler of a message. If this begins with a mutex at
all, it is another one than that of the socket, so that the worker is not away
there. -/
theorem goesTo_handle {type : MessageType} {path : ViewerAct.FramePath}
    (hend : s'.worker = some (.resume .handle (ViewerAct.handle type path)))
    (hgui : s'.gui = s.gui) (hholder : s'.holder = s.holder)
    (hcommands : s'.commands = s.commands)
    (hclient : s'.client = .current → s.client = .current ∧ s'.link = s.link) :
    GoesTo args s p (.resume .handle (ViewerAct.handle type path)) s' where
  gui := hgui
  holder := hholder
  worker := hend
  client := hclient
  scopes := by
    rw [todo_resume_worker]
    exact nested_handle type path
  follows := by
    intro block todo hrun
    cases hacts : ViewerAct.handle type path with
    | nil =>
      rw [hacts] at hrun
      cases hrun
    | cons act rest =>
      rw [hacts] at hrun
      cases hrun
      exact ⟨type, path, hacts ▸ List.suffix_refl _⟩
  attached := fun _ _ => by cases ViewerAct.handle type path <;> rfl
  message := by
    intro hrecv
    cases hacts : ViewerAct.handle type path <;> rw [hacts] at hrecv <;> cases hrecv
  away := by
    intro haway
    have hlocks := handle_locks type path
    unfold Programs.workerAway at haway
    rw [hend] at haway
    cases hacts : ViewerAct.handle type path with
    | nil =>
      rw [hacts] at haway
      cases haway
    | cons act rest =>
      rw [hacts] at haway hlocks
      -- a handler begins with another mutex
      have hhead := hlocks act List.mem_cons_self
      cases act with
      | lock m => exact absurd (of_decide_eq_true haway) (of_decide_eq_true hhead)
      | unlock | send | adopt | closeClient | closeSockets | setStopFlag | setRunning | startTest
      | spawn | join => cases haway
  commands := hcommands

/-- **The worker takes a message.** -/
theorem viewerInv_takeMessage {path : ViewerAct.FramePath} (h : ViewerInv args s)
    (hp : s.worker = some .recv) (hok : Programs.Orderly args s (.worker (.handles path)))
    (htake : s.takeMessage path = some s') : ViewerInv args s' := by
  have hlast : ∀ m : Message, m.type = .shutdown →
      some (ViewerWorker.afterMessage m path) = some WorkerBlock.leave.enter :=
    fun m hm => congrArg some (if_pos hm)
  have hmore : ∀ m : Message, m.type ≠ .shutdown → some (ViewerWorker.afterMessage m path)
      = some (.resume .handle (ViewerAct.handle m.type path)) :=
    fun m hm => congrArg some (if_neg hm)
  unfold Programs.takeMessage at htake
  split at htake
  · next m ms hcurrent hmessages =>
    cases htake
    by_cases hm : m.type = .shutdown
    · refine viewerInv_of_goesTo h hp rfl (goesTo_enter .leave nofun (hlast m hm) rfl rfl rfl
        (fun hclient => ⟨hclient, rfl⟩) (fun _ _ => rfl) (hok ?_))
      unfold Programs.turnsAway
      rw [hp, hmessages]
      exact decide_eq_true hm
    · exact viewerInv_of_goesTo h hp rfl
        (goesTo_handle (hmore m hm) rfl rfl rfl (fun hclient => ⟨hclient, rfl⟩))
  · next messages m ms hstale =>
    cases htake
    by_cases hm : m.type = .shutdown
    · refine viewerInv_of_goesTo h hp rfl
        (goesTo_enter .leave nofun (hlast m hm) rfl rfl rfl nofun nofun ?_)
      -- a command does not wait for a connection that the collector has closed
      rw [← Bool.not_eq_true]
      intro hwaits
      have hclient := (commandWaits_iff.mp hwaits).2.1
      rw [hstale] at hclient
      cases hclient
    · exact viewerInv_of_goesTo h hp rfl (goesTo_handle (hmore m hm) rfl rfl rfl nofun)
  · cases htake

/-- **A handler throws.** The scopes are lock guards, so that the worker
releases what it holds on its way to the `catch`, and comes to a block that
closes the connection. It turns away from the messages with this, and an orderly
step does it only while no command waits for room. -/
theorem viewerInv_workerThrow (h : ViewerInv args s)
    (haway : s.commandWaits args = false) : ViewerInv args s.workerThrow := by
  have hne : ∀ m, s.workerThrow.holder m ≠ some .worker := by
    intro m
    show (if s.holder m = some .worker then none else s.holder m) ≠ some .worker
    split
    · exact nofun
    · assumption
  constructor
  case guiScopes =>
    obtain ⟨held, hheld⟩ := h.guiScopes
    refine ⟨held, fun m => ?_, hheld.nodup, hheld.nested⟩
    -- what the GUI holds is left to it
    show (if s.holder m = some .worker then none else s.holder m) = some .gui ↔ _
    rw [← hheld.holds m]
    split
    · next hworker =>
      rw [hworker]
      exact iff_of_false nofun nofun
    · rfl
  case workerScopes =>
    exact ⟨[], fun m => iff_of_false (hne m) List.not_mem_nil, List.nodup_nil, rfl⟩
  case follows =>
    intro block todo' hrun
    cases hrun
    exact List.suffix_refl _
  case attached =>
    intro hclient
    exact ⟨(h.attached hclient).1, _, rfl, rfl⟩
  case message =>
    intro hrecv
    cases hrecv
  case served =>
    intro hwaits
    exact absurd (Eq.trans hwaits.symm haway) nofun

/-- **A step of the worker keeps the invariant.** There is a case for each place
between the blocks: the worker enters a block (`viewerInv_enter`), goes to
another place (`viewerInv_goTo`), or takes a message. In the loop over the
messages it may turn away from them, and there the condition is used; outside of
it no command waits, as there is no connection. -/
theorem viewerInv_workerAt {a : Programs.WorkerAnswer} (h : ViewerInv args s)
    (hp : s.worker = some p) (hok : Programs.Orderly args s (.worker a))
    (hstep : s.workerAt p a = some s') : ViewerInv args s' := by
  unfold Programs.workerAt at hstep
  split at hstep
  · obtain ⟨s₁, hact, rfl⟩ := Option.map_eq_some_iff.mp hstep
    exact viewerInv_workerAct h hp hact
  · cases hstep
    refine viewerInv_workerThrow h (hok ?_)
    unfold Programs.turnsAway
    rw [hp]
  -- the tests and calls outside of the loop over the messages
  · cases hstep
    split
    · exact viewerInv_enter h hp rfl .exit nofun nofun (not_commandWaits h hp rfl)
    · exact viewerInv_goTo h hp rfl nofun nofun nofun
  · cases hstep
    exact viewerInv_goTo (viewerInv_closeListening h hp rfl true) hp rfl nofun nofun nofun
  · cases hstep
    have hclosed := viewerInv_closeListening h hp rfl false
    exact viewerInv_enter hclosed hp rfl .caught nofun nofun (not_commandWaits hclosed hp rfl)
  · cases hstep
    split
    · exact viewerInv_goTo h hp rfl nofun nofun nofun
    · exact viewerInv_goTo h hp rfl nofun nofun nofun
  · cases hstep
    exact viewerInv_enter h hp rfl .publish nofun nofun (not_commandWaits h hp rfl)
  · cases hstep
    exact viewerInv_enter h hp rfl .caught nofun nofun (not_commandWaits h hp rfl)
  -- those of the loop, which turn away from the messages or do not
  · cases hstep
    split
    · next hleave =>
      refine viewerInv_enter h hp rfl .leave nofun (fun _ => rfl) (hok ?_)
      unfold Programs.turnsAway
      rw [hp]
      exact Bool.or_eq_true_iff.mpr (hleave.imp_right decide_eq_true)
    · exact viewerInv_goTo h hp rfl nofun (fun _ => rfl) nofun
  · split at hstep
    · next hreadable =>
      cases hstep
      refine viewerInv_goTo h hp rfl nofun (fun _ => rfl) (fun _ hclient => ?_)
      unfold Programs.readable at hreadable
      rw [hclient] at hreadable
      exact of_decide_eq_true hreadable
    · cases hstep
  · cases hstep
    exact viewerInv_goTo h hp rfl nofun (fun _ => rfl) nofun
  · cases hstep
    refine viewerInv_enter h hp rfl .leave nofun (fun _ => rfl) (hok ?_)
    unfold Programs.turnsAway
    rw [hp]
  · cases hstep
    refine viewerInv_enter h hp rfl .caught nofun (fun _ => rfl) (hok ?_)
    unfold Programs.turnsAway
    rw [hp]
  · exact viewerInv_takeMessage h hp hok hstep
  · cases hstep
    refine viewerInv_enter h hp rfl .leave nofun (fun _ => rfl) (hok ?_)
    unfold Programs.turnsAway
    rw [hp]
  · cases hstep

end Viewer
