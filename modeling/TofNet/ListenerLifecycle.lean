import TofNet.Listener

/-!
# One worker at a time

`start()` returns early while `m_running` is set, and `configureNetworkOnly`
leaves a listener alone that is running. It is the worker who sets that flag,
once it runs: until then the thread is there and the flag is clear. A second
`start()` then assigns over a joinable thread, which ends the process, and
`configureNetworkOnly` stops a listener that was just started.

`lifecycle_of_run` shows that this is all there is to it: the lifecycle is as
it should be in every run in which the two never find a thread whose worker
has not set the flag yet.

For the lifecycle the sockets do not matter. What the GUI sees of the worker is
whether it has set `m_running`, whether it has seen `m_stopFlag`, and whether it
has ended; `WorkerMoves` says of a step of the worker what it may change of
these, and every place of `workerLoop` is gone through once, to show it.
-/

variable {s s' : ADINetworkToFStream} {p : ListenerWorker} {a : ListenerAnswer}

/-- The worker has seen `m_stopFlag`, and is on its way out. It does not look at
the flag again, so that clearing it does not call the worker back. -/
def ListenerWorker.exiting : ListenerWorker → Bool
  | lockExit | closeExit | clearRunning | ended => true
  | _ => false

/-- `stop()` has set `m_stopFlag`, and not returned. In this time, and only in
it, the flag is set while there is a worker. -/
def ListenerGui.stopping : ListenerGui → Bool
  | stop _ .setFlag => false
  | stop _ _ => true
  | _ => false

namespace ADINetworkToFStream

/-- **The lifecycle is as it should be.** The number of loops counts the workers
that have been made and have not ended; `started` and `tornDown` are histories,
of a start without a stop behind it, and of a listener that
`configureNetworkOnly` has stopped. -/
structure Lifecycle (s : ADINetworkToFStream) : Prop where
  /-- No thread was assigned over a joinable one. -/
  alive : s.terminated = false
  /-- There is one worker loop at a time. -/
  single : s.loops ≤ 1
  /-- A start that has returned leaves a worker that goes on. -/
  serving : s.started = true →
    s.stopFlag = false ∧ ∃ p, s.worker = some p ∧ p.exiting = false
  /-- `configureNetworkOnly` has never stopped a listener that was started. -/
  kept : s.tornDown = false

/-- **Where `m_running` is read, a thread there is has set it.**

The flag is set by the worker, at the start of `workerLoop`, and not by
`start()`, which makes the thread. In between there is a thread and the flag
says that there is none. The two tests that can come in between are those of
`start()` and of `configureNetworkOnly`. -/
def Entered (s : ADINetworkToFStream) : ListenerStep → Prop
  | .gui _ => s.gui = .startTest ∨ s.gui = .configureTest → s.worker ≠ none → s.running = true
  | _ => True

instance (s : ADINetworkToFStream) (a : ListenerStep) : Decidable (Entered s a) :=
  match a with
  | .gui _ => inferInstanceAs (Decidable (_ → _ → _))
  | .call _ | .worker _ => isTrue trivial

/-! ## What a step of the worker does

The worker sets `m_running` at its beginning and clears it at its end. In
between it only reads `m_stopFlag`, and once it has seen it set it never goes
back to waiting. -/

/-- A step of the worker, as the GUI sees it. -/
structure WorkerMoves (s : ADINetworkToFStream) (p : ListenerWorker) (s' : ADINetworkToFStream)
    (p' : ListenerWorker) : Prop where
  /-- The worker is at its new place. -/
  worker : s'.worker = some p'
  /-- `m_stopFlag` is as it was. -/
  stopFlag : s'.stopFlag = s.stopFlag
  /-- So is the GUI. -/
  gui : s'.gui = s.gui
  /-- So is the history, … -/
  started : s'.started = s.started
  /-- … with each of its fields. -/
  tornDown : s'.tornDown = s.tornDown
  /-- The process goes on. -/
  terminated : s'.terminated = s.terminated
  /-- It comes to its end only because of the flag. -/
  exiting : p'.exiting = true → p.exiting = true ∨ s.stopFlag = true
  /-- It sets `m_running`, or leaves it, or clears it at its end. -/
  runs : (s'.running = s.running ∨ s'.running = true) ∧ s'.loops = s.loops ∧ p' ≠ .ended ∨
    s'.running = false ∧ s'.loops = s.loops - 1 ∧ p' = .ended

/-! ### The ways to go on

`workerLoop` has some thirty places, and most of them go on in one of four ways:
with the mutex, into a call that waits, by a test, or straight ahead. There is a
lemma for each of these. So the case of a place names its way, and what is left
for the place itself is the reason why the worker is not on its way out. -/

/-- The worker goes on to a place that is not its end, and may set `m_running`
on its way. What becomes of the sockets and of their mutex does not matter. -/
theorem workerMoves_goTo (s : ADINetworkToFStream) {p' : ListenerWorker}
    (hexit : p'.exiting = true → p.exiting = true ∨ s.stopFlag = true) (hended : p' ≠ .ended)
    {r : Bool} (hr : r = s.running ∨ r = true) {t : SocketTable} {l c : Option ℕ}
    {m : Option ListenerThread} :
    WorkerMoves s p { s.goTo p' with
      running := r, sockets := t, listenSocket := l, clientSocket := c, socketMutex := m } p' where
  worker := rfl
  stopFlag := rfl
  gui := rfl
  started := rfl
  tornDown := rfl
  terminated := rfl
  exiting := hexit
  runs := .inl ⟨hr, rfl, hended⟩

/-- The worker gets the mutex only if it is free. -/
theorem lockWorker_eq_some {q : ListenerWorker} (h : s.lockWorker q = some s') :
    s.socketMutex = none ∧ s' = { s.goTo q with socketMutex := some .worker } := by
  unfold lockWorker at h
  split at h
  · next hfree => exact ⟨hfree, (Option.some.inj h).symm⟩
  · cases h

/-- A call waits on a socket that is open and in the right state, and on no
other. -/
theorem waitOn_eq_some {fd : Option ℕ} {state : SocketState} {q : ℕ → ListenerWorker}
    (h : s.waitOn fd state q = some s') :
    ∃ o, fd = some o ∧ s.sockets.closed o = false ∧ s.sockets.state o = state
      ∧ s' = s.goTo (q o) := by
  unfold waitOn at h
  split at h
  · next o =>
    split at h
    · next hopen => exact ⟨o, rfl, hopen.1, hopen.2, (Option.some.inj h).symm⟩
    · cases h
  · cases h

/-- Taking the mutex is a move. -/
theorem workerMoves_of_lockWorker {q : ListenerWorker} (h : s.lockWorker q = some s')
    (hexit : q.exiting = true → p.exiting = true ∨ s.stopFlag = true) (hended : q ≠ .ended) :
    ∃ p', WorkerMoves s p s' p' := by
  obtain ⟨-, rfl⟩ := lockWorker_eq_some h
  exact ⟨q, workerMoves_goTo s hexit hended (.inl rfl)⟩

/-- So is beginning to wait, and a worker that waits is not on its way out. -/
theorem workerMoves_of_waitOn {fd : Option ℕ} {state : SocketState} {q : ℕ → ListenerWorker}
    (h : s.waitOn fd state q = some s') (hq : ∀ o, (q o).exiting = false) :
    ∃ p', WorkerMoves s p s' p' := by
  obtain ⟨o, -, -, -, rfl⟩ := waitOn_eq_some h
  refine ⟨q o, workerMoves_goTo s (fun h => absurd (h.symm.trans (hq o)) Bool.noConfusion)
    (fun h => ?_) (.inl rfl)⟩
  have := hq o
  rw [h] at this
  cases this

/-- Nor is one that has closed a socket in order to make another. -/
theorem exiting_afterClose (again : Bool) (stage : Option CloseStage) :
    (ListenerWorker.afterClose again stage).exiting = false := by
  cases stage with
  | some stage => rfl
  | none => cases again <;> rfl

/-- Closing changes the sockets and a member. The lifecycle has nothing to do
with either. -/
theorem closeListenStep_eq (s : ADINetworkToFStream) (stage : CloseStage) :
    ∃ t l, s.closeListenStep stage = { s with sockets := t, listenSocket := l } := by
  cases stage with
  | test => exact ⟨s.sockets, s.listenSocket, rfl⟩
  | shutdown => exact ⟨_, s.listenSocket, rfl⟩
  | close => exact ⟨_, s.listenSocket, rfl⟩
  | reset => exact ⟨s.sockets, none, rfl⟩

/-- The worker goes on or not, by a test; if it is the test of the flag, it may
be on its way out behind it. -/
theorem workerMoves_ite (s : ADINetworkToFStream) {c : Prop} [Decidable c] {q q' : ListenerWorker}
    (hq : q.exiting = true → p.exiting = true ∨ s.stopFlag = true) (hended : q ≠ .ended)
    (hq' : q'.exiting = false) (hended' : q' ≠ .ended) :
    WorkerMoves s p (s.goTo (if c then q else q')) (if c then q else q') := by
  split
  · exact workerMoves_goTo s hq hended (.inl rfl)
  · exact workerMoves_goTo s (fun h => absurd (h.symm.trans hq') Bool.noConfusion) hended'
      (.inl rfl)

/-- **The worker's steps, as the GUI sees them.** One case for each place of
`workerLoop`. Only its first step sets `m_running`, only its last one clears it,
and only behind a test of the flag it is on its way out. -/
theorem workerMoves_of_workerAt (h : s.workerAt p a = some s') : ∃ p', WorkerMoves s p s' p' := by
  -- a step to one place, outside the way out
  have hgoes : ∀ {q : ListenerWorker} {t : SocketTable} {l c : Option ℕ}
      {m : Option ListenerThread}, q.exiting = false → q ≠ .ended →
      ∃ p', WorkerMoves s p { s.goTo q with
        sockets := t, listenSocket := l, clientSocket := c, socketMutex := m } p' :=
    fun hexit hended => ⟨_, workerMoves_goTo s
      (fun h => absurd (h.symm.trans hexit) Bool.noConfusion) hended (.inl rfl)⟩
  unfold workerAt at h
  split at h
  -- up to the inner loop
  case h_1 => cases h; exact hgoes rfl ListenerWorker.noConfusion
  case h_2 =>
    cases h
    exact ⟨_, workerMoves_goTo s Bool.noConfusion ListenerWorker.noConfusion (.inr rfl)⟩
  case h_3 =>
    cases h
    refine ⟨if s.stopFlag = true then .lockExit else .close false .test, ?_⟩
    split
    · next hflag =>
      exact workerMoves_goTo s (fun _ => .inr hflag) ListenerWorker.noConfusion (.inl rfl)
    · exact workerMoves_goTo s Bool.noConfusion ListenerWorker.noConfusion (.inl rfl)
  case h_4 again stage =>
    cases h
    obtain ⟨t, l, hclose⟩ := closeListenStep_eq s stage
    have hexit := exiting_afterClose again (stage.next s.listenSocket)
    rw [hclose]
    refine hgoes hexit (fun he => ?_)
    rw [he] at hexit
    cases hexit
  case h_5 => cases h; exact hgoes rfl ListenerWorker.noConfusion
  case h_6 => cases h; exact hgoes rfl ListenerWorker.noConfusion
  case h_7 =>
    split at h <;> cases h
    exact hgoes rfl ListenerWorker.noConfusion
  case h_8 =>
    split at h <;> cases h
    exact hgoes rfl ListenerWorker.noConfusion
  case h_9 =>
    split at h <;> cases h
    exact hgoes rfl ListenerWorker.noConfusion
  case h_10 => cases h; exact hgoes rfl ListenerWorker.noConfusion
  case h_11 => cases h; exact hgoes rfl ListenerWorker.noConfusion
  case h_12 => cases h; exact hgoes rfl ListenerWorker.noConfusion
  -- the wait for a connection
  case h_13 =>
    cases h
    exact ⟨_, workerMoves_ite s Bool.noConfusion ListenerWorker.noConfusion rfl
      ListenerWorker.noConfusion⟩
  case h_14 => cases h; exact hgoes rfl ListenerWorker.noConfusion
  case h_15 => exact workerMoves_of_waitOn h (fun _ => rfl)
  case h_16 => cases h; exact hgoes rfl ListenerWorker.noConfusion
  case h_17 =>
    split at h <;> cases h
    exact hgoes rfl ListenerWorker.noConfusion
  case h_18 =>
    split at h <;> cases h
    exact hgoes rfl ListenerWorker.noConfusion
  case h_19 => cases h; exact hgoes rfl ListenerWorker.noConfusion
  case h_20 => exact workerMoves_of_lockWorker h Bool.noConfusion ListenerWorker.noConfusion
  case h_21 => cases h; exact hgoes rfl ListenerWorker.noConfusion
  -- the loop over the messages
  case h_22 =>
    cases h
    exact ⟨_, workerMoves_ite s Bool.noConfusion ListenerWorker.noConfusion rfl
      ListenerWorker.noConfusion⟩
  case h_23 =>
    cases h
    exact ⟨_, workerMoves_ite s Bool.noConfusion ListenerWorker.noConfusion rfl
      ListenerWorker.noConfusion⟩
  case h_24 => cases h; exact hgoes rfl ListenerWorker.noConfusion
  case h_25 => cases h; exact hgoes rfl ListenerWorker.noConfusion
  case h_26 => cases h; exact hgoes rfl ListenerWorker.noConfusion
  case h_27 => cases h; exact hgoes rfl ListenerWorker.noConfusion
  case h_28 => cases h; exact hgoes rfl ListenerWorker.noConfusion
  case h_29 => exact workerMoves_of_waitOn h (fun _ => rfl)
  case h_30 => cases h; exact hgoes rfl ListenerWorker.noConfusion
  case h_31 =>
    cases h
    exact ⟨_, workerMoves_ite s Bool.noConfusion ListenerWorker.noConfusion rfl
      ListenerWorker.noConfusion⟩
  case h_32 =>
    split at h <;> cases h
    exact hgoes rfl ListenerWorker.noConfusion
  case h_33 => cases h; exact hgoes rfl ListenerWorker.noConfusion
  case h_34 => cases h; exact hgoes rfl ListenerWorker.noConfusion
  case h_35 => cases h; exact hgoes rfl ListenerWorker.noConfusion
  case h_36 => cases h; exact hgoes rfl ListenerWorker.noConfusion
  -- the ways out
  case h_37 => exact workerMoves_of_lockWorker h Bool.noConfusion ListenerWorker.noConfusion
  case h_38 => cases h; exact hgoes rfl ListenerWorker.noConfusion
  case h_39 => cases h; exact hgoes rfl ListenerWorker.noConfusion
  case h_40 => exact workerMoves_of_lockWorker h Bool.noConfusion ListenerWorker.noConfusion
  case h_41 => cases h; exact hgoes rfl ListenerWorker.noConfusion
  case h_42 =>
    exact workerMoves_of_lockWorker h (fun _ => .inl rfl) ListenerWorker.noConfusion
  case h_43 =>
    cases h
    exact ⟨_, workerMoves_goTo s (fun _ => .inl rfl) ListenerWorker.noConfusion (.inl rfl)⟩
  case h_44 =>
    cases h
    exact ⟨.ended, {
      worker := rfl, stopFlag := rfl, gui := rfl, started := rfl, tornDown := rfl
      terminated := rfl
      exiting := fun _ => .inl rfl
      runs := .inr ⟨rfl, rfl, rfl⟩ }⟩
  case h_45 => cases h

/-! ## The invariant

A thread that is there is the worker of the last start, unless the GUI is in
`stop`. If `m_running` is clear and there is a thread, the worker has not run
yet or is about to end; this is the window that the condition closes for the two
calls that read the flag. -/

/-- A thread that is there, and has not ended. A thread that has ended is still
to be joined. -/
def live (s : ADINetworkToFStream) : Prop := ∃ p, s.worker = some p ∧ p ≠ .ended

/-- **What holds of the lifecycle in every state.** -/
structure Inv (s : ADINetworkToFStream) : Prop where
  /-- No thread was assigned over a joinable one. -/
  alive : s.terminated = false
  /-- No listener was torn down. -/
  kept : s.tornDown = false
  /-- `m_running` is set only while there is a worker. -/
  running : s.running = true → s.live
  /-- The worker is the one loop there is. -/
  loops : s.live ∧ s.loops = 1 ∨ ¬ s.live ∧ s.loops = 0
  /-- The flag is set, while there is a worker, only by a `stop()` under
  way. -/
  stopping : s.worker ≠ none → s.stopFlag = true → s.gui.stopping = true
  /-- A worker that is about to end has seen the flag. -/
  exiting : ∀ p, s.worker = some p → p.exiting = true → s.stopFlag = true
  /-- A start behind its test has found no thread. -/
  starting : s.gui = .startFlag ∨ s.gui = .startThread → s.worker = none
  /-- It has cleared the flag before it makes one. -/
  fresh : s.gui = .startThread → s.stopFlag = false
  /-- A `stop()` behind its join has none. -/
  joined : ∀ c, s.gui = .stop c .clear → s.worker = none
  /-- A start that has returned has left a worker that nobody is stopping. -/
  started : s.started = true → s.worker ≠ none ∧ s.gui.stopping = false

/-- At the start there is no thread, and no flag is set. -/
theorem inv_initial : Inv {} where
  alive := rfl
  kept := rfl
  running := Bool.noConfusion
  loops := .inr ⟨fun ⟨_, h, _⟩ => absurd h.symm (Option.some_ne_none _), rfl⟩
  stopping h := absurd rfl h
  exiting _ h := absurd h.symm (Option.some_ne_none _)
  starting _ := rfl
  fresh _ := rfl
  joined _ _ := rfl
  started := Bool.noConfusion

/-- The worker's step. A worker that clears `m_running` ends with it, so that
the flag is set only while there is a worker; and it is on its way out only
because of the flag. -/
theorem Inv.workerStep (hs : s.Inv) (h : s.workerStep a = some s') : s'.Inv := by
  obtain ⟨p, hp, hat⟩ := Option.bind_eq_some_iff.mp h
  obtain ⟨p', hmoves⟩ := workerMoves_of_workerAt hat
  have hended : p ≠ .ended := by
    rintro rfl
    cases a <;> cases hat
  have hlive : s.live := ⟨p, hp, hended⟩
  have hone : s.loops = 1 := by
    rcases hs.loops with ⟨-, h⟩ | ⟨h, -⟩
    · exact h
    · exact absurd hlive h
  have hthread : s.worker ≠ none := by rw [hp]; exact Option.some_ne_none p
  constructor
  case alive =>
    rw [hmoves.terminated]
    exact hs.alive
  case kept =>
    rw [hmoves.tornDown]
    exact hs.kept
  case running =>
    intro hrun
    rcases hmoves.runs with ⟨-, -, hne⟩ | ⟨hstop, -, -⟩
    · exact ⟨p', hmoves.worker, hne⟩
    · rw [hstop] at hrun
      cases hrun
  case loops =>
    rcases hmoves.runs with ⟨-, hloops, hne⟩ | ⟨-, hloops, hend⟩
    · exact .inl ⟨⟨p', hmoves.worker, hne⟩, hloops.trans hone⟩
    · refine .inr ⟨fun ⟨q, hq, hne⟩ => ?_, by rw [hloops, hone]⟩
      rw [hmoves.worker, hend] at hq
      exact hne (Option.some.inj hq).symm
  case stopping =>
    rw [hmoves.stopFlag, hmoves.gui]
    exact fun _ => hs.stopping hthread
  case exiting =>
    intro q hq hexit
    rw [hmoves.worker] at hq
    cases hq
    rw [hmoves.stopFlag]
    exact (hmoves.exiting hexit).elim (hs.exiting p hp) id
  case starting =>
    rw [hmoves.gui]
    exact fun hgui => absurd (hs.starting hgui) hthread
  case fresh =>
    rw [hmoves.gui, hmoves.stopFlag]
    exact hs.fresh
  case joined =>
    rw [hmoves.gui]
    exact fun c hgui => absurd (hs.joined c hgui) hthread
  case started =>
    rw [hmoves.started, hmoves.gui, hmoves.worker]
    exact fun hst => ⟨Option.some_ne_none p', (hs.started hst).2⟩

/-! ### The steps of the GUI

Most steps of the GUI change where it is, and the sockets. `moveGui` lists what
has to be known of the place it comes to: that it does not leave `stop()` with a
worker there, and that it is not about to make a thread where there is one.
`moveStop` and `moveIdle` are this for a step within `stop()` and for a return.
-/

/-- The GUI moves, and touches the sockets and their mutex at most. Where it
leaves `stop()` there is no worker left; and it comes to make a thread only
where there is none. -/
theorem Inv.moveGui (hs : s.Inv) {g : ListenerGui} {n : Bool} {t : SocketTable}
    {l c : Option ℕ} {m : Option ListenerThread}
    (hstop : s.gui.stopping = true → g.stopping = true ∨ s.worker = none)
    (hstarting : g = .startFlag → s.worker = none) (hthread : g ≠ .startThread)
    (hjoined : ∀ c, g = .stop c .clear → s.worker = none)
    (hstarted : s.started = true → g.stopping = false) :
    Inv { s with
      gui := g, networkOnly := n, sockets := t, listenSocket := l, clientSocket := c
      socketMutex := m } where
  alive := hs.alive
  kept := hs.kept
  running := hs.running
  loops := hs.loops
  stopping hthread hflag := (hstop (hs.stopping hthread hflag)).elim id (fun h => absurd h hthread)
  exiting := hs.exiting
  starting h := h.elim hstarting (fun h => absurd h hthread)
  fresh h := absurd h hthread
  joined := hjoined
  started hst := ⟨(hs.started hst).1, hstarted hst⟩

/-- While it stops, the listener is not one that was started: `started` is taken
back when `stop()` sets the flag. -/
theorem Inv.started_of_stopping (hs : s.Inv) (h : s.gui.stopping = true) : s.started = false :=
  Bool.eq_false_iff.mpr (fun hst => absurd (h.symm.trans (hs.started hst).2) Bool.noConfusion)

/-- The GUI goes on in `stop()`, up to the join. -/
theorem Inv.moveStop (hs : s.Inv) {g : ListenerGui} {t : SocketTable} {l c : Option ℕ}
    {m : Option ListenerThread} (hgui : s.gui.stopping = true) (hg : g.stopping = true)
    (hne : ∀ c, g ≠ .stop c .clear) :
    Inv { s with
      gui := g, sockets := t, listenSocket := l, clientSocket := c, socketMutex := m } := by
  refine hs.moveGui (n := s.networkOnly) (fun _ => .inl hg) (fun h => ?_) (fun h => ?_)
    (fun c h => absurd h (hne c)) (fun hst => ?_)
  · rw [h] at hg
    cases hg
  · rw [h] at hg
    cases hg
  · rw [hs.started_of_stopping hgui] at hst
    cases hst

/-- The GUI returns from a call that does not stop the listener. -/
theorem Inv.moveIdle (hs : s.Inv) (hgui : s.gui.stopping = false) {n : Bool}
    {m : Option ListenerThread} :
    Inv { s with gui := .idle, networkOnly := n, socketMutex := m } :=
  hs.moveGui (t := s.sockets) (l := s.listenSocket) (c := s.clientSocket)
    (fun h => absurd (h.symm.trans hgui) Bool.noConfusion) ListenerGui.noConfusion
    ListenerGui.noConfusion (fun _ => ListenerGui.noConfusion) (fun _ => rfl)

/-- The GUI, too, gets the mutex only if it is free. -/
theorem lockGui_eq_some {g : ListenerGui} (h : s.lockGui g = some s') :
    s.socketMutex = none ∧ s' = { s with socketMutex := some .gui, gui := g } := by
  unfold lockGui at h
  split at h
  · next hfree => exact ⟨hfree, (Option.some.inj h).symm⟩
  · cases h

/-- The same of the client's socket. -/
theorem closeClientStep_eq (s : ADINetworkToFStream) (stage : CloseStage) :
    ∃ t l, s.closeClientStep stage = { s with sockets := t, clientSocket := l } := by
  cases stage with
  | test => exact ⟨s.sockets, s.clientSocket, rfl⟩
  | shutdown => exact ⟨_, s.clientSocket, rfl⟩
  | close => exact ⟨_, s.clientSocket, rfl⟩
  | reset => exact ⟨s.sockets, none, rfl⟩

/-- A step of `stop()`. Setting the flag makes `stopping` true; the join takes
away the thread, which has ended; and behind it `m_running` is cleared, with no
worker there to have set it. -/
theorem Inv.stopStep (hs : s.Inv) {c : Bool} {q : StopPhase} (hgui : s.gui = .stop c q)
    (h : s.stopStep c q a = some s') : s'.Inv := by
  have hstopping : q ≠ .setFlag → s.gui.stopping = true := by
    rw [hgui]
    cases q <;> first | (intro _; rfl) | (intro h; exact absurd rfl h)
  unfold ADINetworkToFStream.stopStep at h
  cases a with
  | goes =>
    dsimp only at h
    cases q with
    | setFlag =>
      cases h
      exact { hs with
        stopping := fun _ _ => rfl
        exiting := fun _ _ _ => rfl
        starting := fun h => by rcases h with h | h <;> cases h
        fresh := fun h => by cases h
        joined := fun c h => by cases h
        started := Bool.noConfusion }
    | lockSend =>
      obtain ⟨-, rfl⟩ := lockGui_eq_some h
      exact hs.moveStop (hstopping StopPhase.noConfusion) rfl (fun c h => by cases h)
    | send =>
      cases h
      exact hs.moveStop (hstopping StopPhase.noConfusion) rfl (fun c h => by cases h)
    | lockClose =>
      obtain ⟨-, rfl⟩ := lockGui_eq_some h
      exact hs.moveStop (hstopping StopPhase.noConfusion) rfl (fun c h => by cases h)
    | closeListen stage =>
      cases h
      obtain ⟨t, l, hclose⟩ := closeListenStep_eq s stage
      rw [hclose]
      refine hs.moveStop (hstopping StopPhase.noConfusion) ?_ (fun c h => ?_)
      · cases stage.next s.listenSocket <;> rfl
      · cases hn : stage.next s.listenSocket <;> rw [hn] at h <;> cases h
    | closeClient stage =>
      obtain ⟨t, l, hclose⟩ := closeClientStep_eq s stage
      cases hn : stage.next s.clientSocket with
      | some stage' =>
        simp only [hn, hclose] at h
        cases h
        exact hs.moveStop (hstopping StopPhase.noConfusion) rfl (fun c h => by cases h)
      | none =>
        simp only [hn, hclose] at h
        cases h
        exact hs.moveStop (hstopping StopPhase.noConfusion) rfl (fun c h => by cases h)
    | join =>
      dsimp only at h
      split at h
      · next hdone =>
        cases h
        have hdead : ¬ s.live := by
          rintro ⟨p, hp, hne⟩
          rcases hdone with h | h <;> rw [h] at hp <;> cases hp
          exact hne rfl
        have hzero : s.loops = 0 := by
          rcases hs.loops with ⟨h, -⟩ | ⟨-, h⟩
          · exact absurd h hdead
          · exact h
        exact { hs with
          running := fun h => absurd (hs.running h) hdead
          loops := .inr ⟨fun ⟨_, h, _⟩ => absurd h.symm (Option.some_ne_none _), hzero⟩
          stopping := fun h => absurd rfl h
          exiting := fun _ h => absurd h.symm (Option.some_ne_none _)
          starting := fun _ => rfl
          fresh := fun h => by cases h
          joined := fun _ _ => rfl
          started := fun h =>
            absurd ((hs.started_of_stopping (hstopping StopPhase.noConfusion)).symm.trans h)
              Bool.noConfusion }
      · cases h
    | clear =>
      cases h
      have hnone := hs.joined c hgui
      exact { hs with
        running := Bool.noConfusion
        stopping := fun h => absurd hnone h
        starting := fun _ => hnone
        fresh := fun h => by cases c <;> cases h
        joined := fun _ _ => hnone
        started := fun h => absurd hnone (hs.started h).1 }
  | fails =>
    cases q with
    | send =>
      cases h
      exact hs.moveStop (hstopping StopPhase.noConfusion) rfl (fun c h => by cases h)
    | _ => cases h
  | _ => cases h

/-- **The GUI's step keeps the invariant**, where `m_running` tells the truth.
The two tests are where it matters. A start that finds the flag clear finds no
thread, so it clears `m_stopFlag` and makes the only one; and
`configureNetworkOnly` that finds it clear has no listener to stop. -/
theorem Inv.guiStep (hs : s.Inv) (hok : Entered s (.gui a)) (h : s.guiStep a = some s') :
    s'.Inv := by
  unfold ADINetworkToFStream.guiStep at h
  split at h
  · next hgui =>
    cases h
    by_cases hrun : s.running = true
    · rw [if_pos hrun]
      obtain ⟨p, hp, -⟩ := hs.running hrun
      exact { hs with
        stopping := fun hthread hflag => by
          have := hs.stopping hthread hflag
          rw [hgui] at this
          cases this
        starting := fun h => by rcases h with h | h <;> cases h
        fresh := fun h => by cases h
        joined := fun c h => by cases h
        started := fun _ => ⟨by rw [hp]; exact Option.some_ne_none p, rfl⟩ }
    · rw [if_neg hrun]
      have hnone : s.worker = none := by
        by_contra hthread
        exact hrun (hok (.inl hgui) hthread)
      exact hs.moveGui (n := s.networkOnly) (t := s.sockets) (l := s.listenSocket)
        (c := s.clientSocket) (m := s.socketMutex) (fun _ => .inr hnone) (fun _ => hnone)
        ListenerGui.noConfusion (fun c h => by cases h) (fun _ => rfl)
  · next hgui =>
    cases h
    have hnone := hs.starting (.inl hgui)
    exact { hs with
      stopping := fun h => absurd hnone h
      exiting := fun p h => by rw [hnone] at h; cases h
      starting := fun _ => hnone
      fresh := fun _ => rfl
      joined := fun c h => by cases h
      started := fun h => absurd hnone (hs.started h).1 }
  · next hgui =>
    cases h
    have hnone := hs.starting (.inr hgui)
    have hfresh := hs.fresh hgui
    have hdead : ¬ s.live := fun ⟨p, hp, _⟩ => by rw [hnone] at hp; cases hp
    have hzero : s.loops = 0 := by
      rcases hs.loops with ⟨h, -⟩ | ⟨-, h⟩
      · exact absurd h hdead
      · exact h
    unfold startThread
    rw [if_pos hnone]
    exact { hs with
      running := fun _ => ⟨.copyConfig, rfl, ListenerWorker.noConfusion⟩
      loops := .inl ⟨⟨.copyConfig, rfl, ListenerWorker.noConfusion⟩, by rw [hzero]⟩
      stopping := fun _ h => absurd (hfresh.symm.trans h) Bool.noConfusion
      exiting := fun p h hexit => by cases h; cases hexit
      starting := fun h => by rcases h with h | h <;> cases h
      fresh := fun h => by cases h
      joined := fun c h => by cases h
      started := fun _ => ⟨Option.some_ne_none _, rfl⟩ }
  · next c q hgui => exact hs.stopStep hgui h
  · next hgui =>
    cases h
    by_cases hrun : s.running = true
    · rw [if_pos hrun]
      exact hs.moveGui (n := s.networkOnly) (t := s.sockets) (l := s.listenSocket)
        (c := s.clientSocket) (m := s.socketMutex)
        (fun h => by rw [hgui] at h; cases h) ListenerGui.noConfusion ListenerGui.noConfusion
        (fun c h => by cases h) (fun _ => rfl)
    · rw [if_neg hrun]
      have hnone : s.worker = none := by
        by_contra hthread
        exact hrun (hok (.inr hgui) hthread)
      have hnot : s.started = false :=
        Bool.eq_false_iff.mpr (fun h => (hs.started h).1 hnone)
      have htorn : (s.tornDown || s.started) = s.tornDown := by rw [hnot, Bool.or_false]
      rw [htorn]
      exact hs.moveGui (g := .stop true .setFlag) (n := s.networkOnly) (t := s.sockets)
        (l := s.listenSocket) (c := s.clientSocket) (m := s.socketMutex) (fun _ => .inr hnone)
        (fun _ => hnone) ListenerGui.noConfusion (fun c h => by cases h) (fun _ => rfl)
  · next hgui =>
    cases h
    exact hs.moveIdle (by rw [hgui]; rfl)
  · next hgui =>
    obtain ⟨-, rfl⟩ := lockGui_eq_some h
    exact hs.moveGui (n := s.networkOnly) (t := s.sockets) (l := s.listenSocket)
      (c := s.clientSocket) (fun h => by rw [hgui] at h; cases h) ListenerGui.noConfusion
      ListenerGui.noConfusion (fun c h => by cases h) (fun _ => rfl)
  · next hgui =>
    cases h
    exact hs.moveIdle (by rw [hgui]; rfl)
  · next hgui =>
    cases h
    exact hs.moveIdle (by rw [hgui]; rfl)
  · cases h

/-! ### Every run

Both threads have a lemma now. What is left is the beginning of a call, behind
which the GUI has done nothing yet; so nothing has to be known of the state. -/

/-- Where a call begins: it stops nothing yet, and makes no thread. -/
theorem call_begins (s : ADINetworkToFStream) (c : ListenerCall) :
    (s.call c).stopping = false ∧ s.call c ≠ .startFlag ∧ s.call c ≠ .startThread
      ∧ ∀ b, s.call c ≠ .stop b .clear := by
  unfold call
  cases c <;> cases s.networkOnly <;>
    exact ⟨rfl, ListenerGui.noConfusion, ListenerGui.noConfusion, fun b h => by cases h⟩

/-- **Every step keeps the invariant**, where `m_running` tells the truth. -/
theorem Inv.step (hs : s.Inv) {a : ListenerStep} (hok : Entered s a) (h : step s a = some s') :
    s'.Inv := by
  cases a with
  | call c =>
    simp only [ADINetworkToFStream.step] at h
    split at h
    · next hidle =>
      cases h
      obtain ⟨hstop, hflag, hthread, hclear⟩ := s.call_begins c
      exact hs.moveGui (n := s.networkOnly) (t := s.sockets) (l := s.listenSocket)
        (c := s.clientSocket) (m := s.socketMutex) (fun h => by rw [hidle.2] at h; cases h)
        (fun h => absurd h hflag) hthread (fun b h => absurd h (hclear b)) (fun _ => hstop)
    · cases h
  | gui a =>
    simp only [ADINetworkToFStream.step, hs.alive] at h
    exact hs.guiStep hok h
  | worker a =>
    simp only [ADINetworkToFStream.step, hs.alive] at h
    exact hs.workerStep h

/-- The lifecycle of a state the invariant holds of. A start that has returned
has left a worker that nobody is stopping, so the flag is clear; and a worker
that has not seen it goes on. -/
theorem Inv.lifecycle (hs : s.Inv) : s.Lifecycle where
  alive := hs.alive
  single := by
    rcases hs.loops with ⟨-, h⟩ | ⟨-, h⟩ <;> omega
  serving hstarted := by
    obtain ⟨hthread, hgui⟩ := hs.started hstarted
    obtain ⟨p, hp⟩ := Option.ne_none_iff_exists'.mp hthread
    have hflag : s.stopFlag = false :=
      Bool.eq_false_iff.mpr (fun h => absurd ((hs.stopping hthread h).symm.trans hgui)
        Bool.noConfusion)
    exact ⟨hflag, p, hp, Bool.eq_false_iff.mpr (fun h =>
      absurd (hflag.symm.trans (hs.exiting p hp h)) Bool.noConfusion)⟩
  kept := hs.kept

/-- **The life of a listener.** Where `start()` and `configureNetworkOnly`
find `m_running` set whenever there is a thread, no thread is assigned over
one that is joinable, there is one worker loop at a time, a start that has
returned leaves a worker that finds `m_stopFlag` clear until the next `stop()`,
and `configureNetworkOnly` leaves a listener alone that was started. -/
theorem lifecycle_of_run {as : List ListenerStep} (h : Machine.Run step Entered {} as s) :
    s.Lifecycle :=
  (h.invariant (fun _ _ _ hs hok hst => Inv.step hs hok hst) inv_initial).lifecycle

/-- A start, whose worker has set its flag when the next call comes; another
start, which finds the flag set and returns; and a `configureNetworkOnly`, which
leaves the listener alone. -/
theorem lifecycle_of_run_started :
    ∃ as s, Machine.Run step Entered {} as s ∧ s.started = true ∧ s.Lifecycle := by
  have hexec : (Machine.execOk step Entered {}
      [.call .configureNetworkOnly, .gui .goes, .call .start, .gui .goes, .gui .goes, .gui .goes,
        .worker .goes, .worker .goes, .call .connectNetwork, .gui .goes,
        .call .configureNetworkOnly, .gui .goes, .gui .goes]).map (fun s => s.started)
      = some true := by decide
  obtain ⟨s, hs, hstarted⟩ := Option.map_eq_some_iff.mp hexec
  exact ⟨_, s, Machine.run_of_execOk hs, hstarted, lifecycle_of_run (Machine.run_of_execOk hs)⟩

/-- **Two starts, one close behind the other**: the second finds `m_running`
clear, and assigns its thread over the first. -/
theorem not_lifecycle_two_starts :
    ¬ ∀ (as : List ListenerStep) (s : ADINetworkToFStream),
      Machine.Run step Machine.always {} as s → s.Lifecycle := by
  intro h
  have hexec : (Machine.exec step {}
      [.call .start, .gui .goes, .gui .goes, .gui .goes,
        .call .start, .gui .goes, .gui .goes, .gui .goes]).map (fun s => s.terminated)
      = some true := by decide
  obtain ⟨s, hs, hterminated⟩ := Option.map_eq_some_iff.mp hexec
  have halive := (h _ s (Machine.run_iff_exec.mpr hs)).alive
  rw [hterminated] at halive
  cases halive

-- a `configureNetworkOnly` close behind a start tears the listener down
example : (Machine.exec step {}
    [.call .configureNetworkOnly, .gui .goes, .call .start, .gui .goes, .gui .goes, .gui .goes,
      .call .configureNetworkOnly, .gui .goes, .gui .goes]).map
      (fun s => (s.tornDown, s.stopFlag)) = some (true, true) := by decide

end ADINetworkToFStream
