import TofNet.ListenerLifecycle

/-!
# `stop()` is never stranded

`stop()` waits for the worker, which may be anywhere in its loop: about to make
a socket, in `accept`, between `accept` and publishing what it accepted, in
`poll`, in `recv`. It closes both sockets before it waits; what it closes are
the sockets of that moment, and the worker makes others.

What saves it is an order. The worker tests `m_stopFlag` between making a
socket and waiting on it, and `stop()` sets the flag before it closes anything:
a socket that comes too late to be closed is one that is never waited on. So
where `stop()` waits in `join`, no call of the worker finds its socket live,
and a rank on the places of `workerLoop` falls with every step – which is how
`joins_of_run` has the join return, without a peer's help.

What is shown is not that a step will be taken, but that one can be taken which
needs nobody else, and that there can be only so many of them; a scheduler that
lets the worker run at all then lets it end. There is no condition: the guard in
`joins_of_run` is that of the machine.
-/

/-! ## What the worker waits for

There are two calls that only a peer can end, `accept` and the receives, and
each is made on a socket that has been read from a member before. `rank` counts
the steps from a place to the end of the loop, on the longest way, where the
flag is set. -/

/-- The calls of the worker that wait for a peer. -/
inductive ListenerWait
  | accept
  | recv
  deriving DecidableEq

namespace ListenerWait

/-- The state of a socket in which the call waits. In any other state the call
returns at once, with an error or with the end of the stream. -/
def live : ListenerWait → SocketState
  | accept => .listening
  | recv => .connected

/-- No call waits on a socket that was shut down, … -/
theorem live_ne_shut (w : ListenerWait) : w.live ≠ .shut := by
  cases w <;> exact SocketState.noConfusion

/-- … nor on one that is not set up yet. -/
theorem live_ne_fresh (w : ListenerWait) : w.live ≠ .fresh := by
  cases w <;> exact SocketState.noConfusion

end ListenerWait

namespace ListenerWorker

/-- Between the test of `m_stopFlag` and the end of the wait. The test itself is
not in this stretch, so a worker comes into it only with the flag clear. -/
def within : ListenerWait → ListenerWorker → Bool
  | .accept, accept | .accept, acceptCall _ | .accept, acceptBlocked _ => true
  | .recv, validTest | .recv, poll | .recv, recv | .recv, recvCall _ | .recv, recvBlocked _
  | .recv, handle => true
  | _, _ => false

/-- The socket that is waited on, or is about to be. The worker has read it from
the member, and a later change of the member does not reach it. -/
def on : ListenerWait → ListenerWorker → Option ℕ
  | .accept, acceptCall fd | .recv, recvCall fd => fd
  | .accept, acceptBlocked o | .recv, recvBlocked o => some o
  | _, _ => none

/-- Where the worker holds `m_socketMutex`. -/
def holds : ListenerWorker → Bool
  | publish _ | leave | closeCaught | closeExit => true
  | _ => false

/-- The stages that are left of closing a socket. -/
def stages : CloseStage → ℕ
  | .test => 3
  | .shutdown => 2
  | .close => 1
  | .reset => 0

/-- **How far the worker is from its end**, once `m_stopFlag` is set: the number
of steps on the longest way. With the flag set both loops are left at their next
test, so no place comes twice. -/
def rank : ListenerWorker → ℕ
  | copyConfig => 6
  | setRunning => 5
  | close false stage => 17 + stages stage
  | close true stage => 13 + stages stage
  | socket => 12
  | setsockopt => 11
  | bind => 10
  | listen => 9
  | acceptCall _ => 14
  | acceptBlocked _ => 13
  | lockPublish _ => 12
  | publish _ => 11
  | accept => 15
  | validTest => 15
  | poll => 14
  | recvBlocked _ => 13
  | recv => 12
  | recvCall _ => 11
  | handle => 11
  | loopTest => 10
  | lockLeave => 9
  | leave => 8
  | caught => 7
  | lockCaught => 6
  | innerTest => 5
  | closeCaught => 5
  | test => 4
  | lockExit => 3
  | closeExit => 2
  | clearRunning => 1
  | ended => 0

/-- A socket is read only within that stretch. -/
theorem within_of_on {w : ListenerWait} {p : ListenerWorker} {o : ℕ} (h : p.on w = some o) :
    p.within w = true := by
  cases w <;> cases p <;> first | rfl | cases h

end ListenerWorker

namespace StopPhase

/-- `stop()` holds `m_socketMutex`. -/
def holds : StopPhase → Bool
  | send | closeListen _ | closeClient _ => true
  | _ => false

/-- `stop()` has shut down the socket that the call is made on, or has found
none in the member. It closes the listening socket first, and the client's
then. -/
def past : ListenerWait → StopPhase → Bool
  | .accept, closeListen .close | .accept, closeListen .reset | .accept, closeClient _
  | .accept, join => true
  | .recv, closeClient .close | .recv, closeClient .reset | .recv, join => true
  | _, _ => false

end StopPhase

namespace ListenerGui

/-- The GUI holds `m_socketMutex`. -/
def holds : ListenerGui → Bool
  | stop _ p => p.holds
  | command => true
  | _ => false

/-- `stop()` is past the shutdown of a socket. -/
def past (w : ListenerWait) : ListenerGui → Bool
  | stop _ p => p.past w
  | _ => false

end ListenerGui

namespace SocketTable

variable {t : SocketTable} {o o' : ℕ} {w : ListenerWait}

/-- What is live after a shutdown was so before, and is another socket. A
shutdown only takes away. -/
theorem live_of_shutdown (h : (t.shutdown o).state o' = w.live) : t.state o' = w.live ∧ o' ≠ o := by
  unfold shutdown at h
  split at h
  · next hfresh =>
    refine ⟨h, ?_⟩
    rintro rfl
    exact w.live_ne_fresh (h.symm.trans hfresh)
  · have hupdate : Function.update t.state o .shut o' = w.live := h
    by_cases ho : o' = o
    · rw [ho, Function.update_self] at hupdate
      exact absurd hupdate.symm w.live_ne_shut
    · rw [Function.update_of_ne ho] at hupdate
      exact ⟨hupdate, ho⟩

end SocketTable

namespace ADINetworkToFStream

variable {s s' : ADINetworkToFStream} {p p' : ListenerWorker} {a : ListenerAnswer}

/-- The member that the call reads its socket from. -/
def slot (s : ADINetworkToFStream) : ListenerWait → Option ℕ
  | .accept => s.listenSocket
  | .recv => s.clientSocket

/-- The worker is in a call that only a peer ends. -/
def waitsForPeer (s : ADINetworkToFStream) : Prop :=
  (∃ o, s.worker = some (.acceptBlocked o) ∧ s.sockets.state o = .listening) ∨
    ∃ o, s.worker = some (.recvBlocked o) ∧ s.sockets.state o = .connected

/-! ## What a step of the worker reaches

A step is looked at for one thing: whether it may lead to where the worker is
about to wait or waiting (`within`), and then with which socket. Into that
stretch there is one way only, through a test of `m_stopFlag`, and the socket
was made before the test. -/

/-- **A step of the worker, as the sockets see it.** The fields are what the
invariant needs of a step, and `rank` is what the join needs; so the places of
`workerLoop` are gone through once, in `workerReaches_of_workerAt`, and never
again. -/
structure WorkerReaches (s : ADINetworkToFStream) (p : ListenerWorker) (s' : ADINetworkToFStream)
    (p' : ListenerWorker) : Prop where
  /-- The worker is at its new place. -/
  worker : s'.worker = some p'
  /-- The flag is as it was. -/
  stopFlag : s'.stopFlag = s.stopFlag
  /-- So is the GUI. -/
  gui : s'.gui = s.gui
  /-- The process goes on. -/
  terminated : s'.terminated = s.terminated
  /-- The mutex was the worker's to take or to give back. -/
  guiMutex : s'.socketMutex = some .gui → s.socketMutex = some .gui
  /-- It has the mutex behind the step only if it takes it or had it. -/
  workerMutex : s'.socketMutex = some .worker →
    p'.holds = true ∨ s.socketMutex = some .worker ∧ p.holds = false
  /-- From the test of `m_stopFlag` to the wait, the sockets stay. -/
  slot : ∀ w, p'.within w = true → s'.slot w = s.slot w ∧ s'.sockets = s.sockets
  /-- It comes to a wait only past a test of the flag. -/
  within : ∀ w, p'.within w = true → p.within w = true ∨ s.stopFlag = false
  /-- It waits on the socket that is the member's, or was waiting on it
  before. -/
  on : ∀ w o, p'.on w = some o → p.on w = some o ∨ s.slot w = some o
  /-- Where the flag is set, and it is not given anything, it gets nearer to
  its end. -/
  rank : s.stopFlag = true →
    (∀ o, p = .recvCall (some o) → s.sockets.state o ≠ .connected) → p'.rank < p.rank

/-! ### The ways to go on

As in `ListenerLifecycle` there are few of them, and here it is the sockets that
matter. Away from the stretch in front of a wait a step may do what it likes to
them. A step into the stretch is a test of the flag, and one within it keeps its
socket. -/

/-- The worker goes on, and leaves the sockets and their mutex. If it is to wait
behind the step, it was to wait before it. -/
theorem workerReaches_goTo (s : ADINetworkToFStream) (hholds : p.holds = false)
    (hwithin : ∀ w, p'.within w = true → p.within w = true)
    (hon : ∀ w o, p'.on w = some o → p.on w = some o)
    (hrank : p'.rank < p.rank) :
    WorkerReaches s p (s.goTo p') p' where
  worker := rfl
  stopFlag := rfl
  gui := rfl
  terminated := rfl
  guiMutex := id
  workerMutex h := .inr ⟨h, hholds⟩
  slot w _ := by cases w <;> exact ⟨rfl, rfl⟩
  within w h := .inl (hwithin w h)
  on w o h := .inl (hon w o h)
  rank _ _ := hrank

/-- The worker goes on to where it does not wait, whatever becomes of the
sockets. -/
theorem workerReaches_outside (s : ADINetworkToFStream) {t : SocketTable} {l c : Option ℕ}
    {m : Option ListenerThread} {r : Bool} {n : ℕ}
    (hm : m = none ∨ m = s.socketMutex ∧ p.holds = false)
    (hwithin : ∀ w, p'.within w = false) (hrank : p'.rank < p.rank) :
    WorkerReaches s p { s.goTo p' with
      sockets := t, listenSocket := l, clientSocket := c, socketMutex := m
      running := r, loops := n } p' where
  worker := rfl
  stopFlag := rfl
  gui := rfl
  terminated := rfl
  guiMutex h := by
    rcases hm with rfl | ⟨rfl, -⟩
    · cases h
    · exact h
  workerMutex h := by
    rcases hm with rfl | ⟨rfl, hholds⟩
    · cases h
    · exact .inr ⟨h, hholds⟩
  slot w h := absurd (h.symm.trans (hwithin w)) Bool.noConfusion
  within w h := absurd (h.symm.trans (hwithin w)) Bool.noConfusion
  on w o h := absurd ((ListenerWorker.within_of_on h).symm.trans (hwithin w)) Bool.noConfusion
  rank _ _ := hrank

/-- The worker takes the mutex, which it does in order to change the members,
and not on its way to a wait. -/
theorem workerReaches_of_lockWorker (h : s.lockWorker p' = some s') (hholds : p'.holds = true)
    (hwithin : ∀ w, p'.within w = false) (hrank : p'.rank < p.rank) :
    WorkerReaches s p s' p' := by
  obtain ⟨hfree, rfl⟩ := lockWorker_eq_some h
  exact {
    worker := rfl, stopFlag := rfl, gui := rfl, terminated := rfl
    guiMutex := fun h => by cases h
    workerMutex := fun _ => .inl hholds
    slot := fun w h => absurd (h.symm.trans (hwithin w)) Bool.noConfusion
    within := fun w h => absurd (h.symm.trans (hwithin w)) Bool.noConfusion
    on := fun w o h =>
      absurd ((ListenerWorker.within_of_on h).symm.trans (hwithin w)) Bool.noConfusion
    rank := fun _ _ => hrank }

/-- Behind the closing of a socket the worker makes a new one, or is on its way
to the next test. -/
theorem within_afterClose (again : Bool) (stage : Option CloseStage) (w : ListenerWait) :
    (ListenerWorker.afterClose again stage).within w = false := by
  cases stage with
  | some stage => cases w <;> rfl
  | none => cases again <;> cases w <;> rfl

/-- Each stage of a closing is a step further. -/
theorem rank_afterClose (again : Bool) (stage : CloseStage) (fd : Option ℕ) :
    (ListenerWorker.afterClose again (stage.next fd)).rank
      < (ListenerWorker.close again stage).rank := by
  cases again <;> cases stage <;> cases fd <;>
    simp [CloseStage.next, ListenerWorker.afterClose, ListenerWorker.rank, ListenerWorker.stages]

/-- The worker waits in a call on a socket it finds live. Between the reading of
the member and the call it keeps the number of the socket, so what it waits on
is what it has read. -/
theorem workerReaches_of_waitOn {w : ListenerWait} {fd : Option ℕ} {q : ℕ → ListenerWorker}
    (h : s.waitOn fd w.live q = some s') (hholds : p.holds = false) (hin : p.within w = true)
    (hon : p.on w = fd) (hqin : ∀ o v, (q o).within v = true → v = w)
    (hqon : ∀ o v o', (q o).on v = some o' → v = w ∧ o' = o)
    (hrank : ∀ o, s.sockets.state o = w.live → fd = some o →
      (∀ o, p = .recvCall (some o) → s.sockets.state o ≠ .connected) → (q o).rank < p.rank) :
    ∃ p', WorkerReaches s p s' p' := by
  obtain ⟨o, rfl, -, hlive, rfl⟩ := waitOn_eq_some h
  exact ⟨q o, {
    worker := rfl, stopFlag := rfl, gui := rfl, terminated := rfl
    guiMutex := id
    workerMutex := fun h => .inr ⟨h, hholds⟩
    slot := fun v _ => by cases v <;> exact ⟨rfl, rfl⟩
    within := fun v hv => by rw [hqin o v hv]; exact .inl hin
    on := fun v o' hv => by
      obtain ⟨rfl, rfl⟩ := hqon o v o' hv
      exact .inl hon
    rank := fun _ hrecv => hrank o hlive rfl hrecv }⟩

/-- The worker goes on by a test of `m_stopFlag`, behind which it may wait. This
is the one way into the stretch, and `WorkerReaches.within` says so: it is taken
only with the flag clear. -/
theorem workerReaches_ite_stopFlag (s : ADINetworkToFStream) {q q' : ListenerWorker}
    (hholds : p.holds = false) (hq : ∀ w, q.within w = false) (hrank : q.rank < p.rank)
    (hq' : ∀ w, q'.on w = none) :
    ∃ p', WorkerReaches s p (s.goTo (if s.stopFlag = true then q else q')) p' := by
  by_cases hflag : s.stopFlag = true
  · rw [if_pos hflag]
    exact ⟨q, workerReaches_outside s (.inr ⟨rfl, hholds⟩) hq hrank⟩
  · rw [if_neg hflag]
    exact ⟨q', {
      worker := rfl, stopFlag := rfl, gui := rfl, terminated := rfl
      guiMutex := id
      workerMutex := fun h => .inr ⟨h, hholds⟩
      slot := fun w _ => by cases w <;> exact ⟨rfl, rfl⟩
      within := fun _ _ => .inr (Bool.eq_false_iff.mpr hflag)
      on := fun w o h => by rw [hq' w] at h; cases h
      rank := fun h => absurd h hflag }⟩

/-- The worker reads the socket it is to wait on. -/
theorem workerReaches_call (s : ADINetworkToFStream) (w : ListenerWait) (hholds : p.holds = false)
    (hin : p.within w = true) (hqin : ∀ v, p'.within v = true → v = w)
    (hqon : ∀ v o, p'.on v = some o → s.slot v = some o) (hrank : p'.rank < p.rank) :
    WorkerReaches s p (s.goTo p') p' where
  worker := rfl
  stopFlag := rfl
  gui := rfl
  terminated := rfl
  guiMutex := id
  workerMutex h := .inr ⟨h, hholds⟩
  slot v _ := by cases v <;> exact ⟨rfl, rfl⟩
  within v hv := by
    rw [hqin v hv]
    exact .inl hin
  on v o hv := .inr (hqon v o hv)
  rank _ _ := hrank

/-- The worker is not about to wait, nor waiting, where it is so for neither of
the calls. -/
theorem within_eq_false (haccept : p.within .accept = false) (hrecv : p.within .recv = false)
    (w : ListenerWait) : p.within w = false := by
  cases w with
  | accept => exact haccept
  | recv => exact hrecv

/-- **The worker's steps, as the sockets see them.** One case for each place of
`workerLoop`, by the lemmas above. -/
theorem workerReaches_of_workerAt (h : s.workerAt p a = some s') :
    ∃ p', WorkerReaches s p s' p' := by
  -- a step without the mutex to where the worker does not wait, and one that ends its scope
  have hgoes : ∀ {q : ListenerWorker} {t : SocketTable} {l c : Option ℕ} {r : Bool} {n : ℕ},
      p.holds = false → (q.within .accept = false ∧ q.within .recv = false) → q.rank < p.rank →
      ∃ p', WorkerReaches s p { s.goTo q with
        sockets := t, listenSocket := l, clientSocket := c, running := r, loops := n } p' :=
    fun hholds hq hrank =>
      ⟨_, workerReaches_outside s (.inr ⟨rfl, hholds⟩) (within_eq_false hq.1 hq.2) hrank⟩
  have hends : ∀ {q : ListenerWorker} {t : SocketTable} {l c : Option ℕ},
      (q.within .accept = false ∧ q.within .recv = false) → q.rank < p.rank →
      ∃ p', WorkerReaches s p { s.goTo q with
        sockets := t, listenSocket := l, clientSocket := c, socketMutex := none } p' :=
    fun hq hrank => ⟨_, workerReaches_outside s (.inl rfl) (within_eq_false hq.1 hq.2) hrank⟩
  have hlocks : ∀ {q : ListenerWorker}, s.lockWorker q = some s' → q.holds = true →
      (q.within .accept = false ∧ q.within .recv = false) → q.rank < p.rank →
      ∃ p', WorkerReaches s p s' p' :=
    fun h hholds hq hrank =>
      ⟨_, workerReaches_of_lockWorker h hholds (within_eq_false hq.1 hq.2) hrank⟩
  unfold workerAt at h
  split at h
  -- up to the inner loop
  case h_1 => cases h; exact hgoes rfl ⟨rfl, rfl⟩ (by decide)
  case h_2 => cases h; exact hgoes rfl ⟨rfl, rfl⟩ (by decide)
  case h_3 =>
    cases h
    exact workerReaches_ite_stopFlag s rfl (within_eq_false rfl rfl) (by decide)
      (fun w => by cases w <;> rfl)
  case h_4 again stage =>
    cases h
    obtain ⟨t, l, hclose⟩ := closeListenStep_eq s stage
    rw [hclose]
    refine ⟨_, workerReaches_outside s (.inr ⟨rfl, rfl⟩) (fun w => ?_) ?_⟩
    · exact within_afterClose again _ w
    · exact rank_afterClose again stage s.listenSocket
  case h_5 => cases h; exact hgoes rfl ⟨rfl, rfl⟩ (by decide)
  case h_6 => cases h; exact hgoes rfl ⟨rfl, rfl⟩ (by decide)
  case h_7 =>
    split at h <;> cases h
    exact hgoes rfl ⟨rfl, rfl⟩ (by decide)
  case h_8 =>
    split at h <;> cases h
    exact hgoes rfl ⟨rfl, rfl⟩ (by decide)
  case h_9 =>
    split at h <;> cases h
    exact hgoes rfl ⟨rfl, rfl⟩ (by decide)
  case h_10 => cases h; exact hgoes rfl ⟨rfl, rfl⟩ (by decide)
  case h_11 => cases h; exact hgoes rfl ⟨rfl, rfl⟩ (by decide)
  case h_12 => cases h; exact hgoes rfl ⟨rfl, rfl⟩ (by decide)
  -- the wait for a connection
  case h_13 =>
    cases h
    exact workerReaches_ite_stopFlag s rfl (within_eq_false rfl rfl) (by decide)
      (fun w => by cases w <;> rfl)
  case h_14 =>
    cases h
    refine ⟨_, workerReaches_call s .accept rfl rfl (fun v hv => ?_) (fun v o hv => ?_) ?_⟩
    · cases v <;> first | rfl | cases hv
    · cases v <;> first | exact hv | cases hv
    · simp [ListenerWorker.rank]
  case h_15 =>
    refine workerReaches_of_waitOn (w := .accept) h rfl rfl rfl (fun o v hv => ?_)
      (fun o v o' hv => ?_) (fun o _ _ _ => ?_)
    · cases v <;> first | rfl | cases hv
    · cases v <;> first | exact ⟨rfl, (Option.some.inj hv).symm⟩ | cases hv
    · simp [ListenerWorker.rank]
  case h_16 => cases h; exact hgoes rfl ⟨rfl, rfl⟩ (by simp [ListenerWorker.rank])
  case h_17 =>
    split at h <;> cases h
    exact hgoes rfl ⟨rfl, rfl⟩ (by simp [ListenerWorker.rank])
  case h_18 =>
    split at h <;> cases h
    exact hgoes rfl ⟨rfl, rfl⟩ (by simp [ListenerWorker.rank])
  case h_19 => cases h; exact hgoes rfl ⟨rfl, rfl⟩ (by simp [ListenerWorker.rank])
  case h_20 => exact hlocks h rfl ⟨rfl, rfl⟩ (by simp [ListenerWorker.rank])
  case h_21 => cases h; exact hends ⟨rfl, rfl⟩ (by simp [ListenerWorker.rank])
  -- the loop over the messages
  case h_22 =>
    cases h
    exact workerReaches_ite_stopFlag s rfl (within_eq_false rfl rfl) (by decide)
      (fun w => by cases w <;> rfl)
  case h_23 =>
    cases h
    split
    · exact hgoes rfl ⟨rfl, rfl⟩ (by decide)
    · refine ⟨_, workerReaches_goTo s rfl (fun w hw => ?_) (fun w o ho => ?_) (by decide)⟩
      · cases w <;> first | rfl | cases hw
      · cases w <;> cases ho
  case h_24 =>
    cases h
    refine ⟨_, workerReaches_goTo s rfl (fun w hw => ?_) (fun w o ho => ?_) (by decide)⟩
    · cases w <;> first | rfl | cases hw
    · cases w <;> cases ho
  case h_25 => cases h; exact hgoes rfl ⟨rfl, rfl⟩ (by decide)
  case h_26 => cases h; exact hgoes rfl ⟨rfl, rfl⟩ (by decide)
  case h_27 => cases h; exact hgoes rfl ⟨rfl, rfl⟩ (by decide)
  case h_28 =>
    cases h
    refine ⟨_, workerReaches_call s .recv rfl rfl (fun v hv => ?_) (fun v o hv => ?_) ?_⟩
    · cases v <;> first | rfl | cases hv
    · cases v <;> first | exact hv | cases hv
    · simp [ListenerWorker.rank]
  case h_29 =>
    refine workerReaches_of_waitOn (w := .recv) h rfl rfl rfl (fun o v hv => ?_)
      (fun o v o' hv => ?_) (fun o hlive hfd hrecv => ?_)
    · cases v <;> first | rfl | cases hv
    · cases v <;> first | exact ⟨rfl, (Option.some.inj hv).symm⟩ | cases hv
    · rw [hfd] at hrecv
      exact absurd hlive (hrecv o rfl)
  case h_30 => cases h; exact hgoes rfl ⟨rfl, rfl⟩ (by simp [ListenerWorker.rank])
  case h_31 o complete =>
    cases h
    cases complete with
    | true =>
      refine ⟨_, workerReaches_goTo s rfl (fun w hw => ?_) (fun w o ho => ?_) ?_⟩
      · cases w <;> first | rfl | cases hw
      · cases w <;> cases ho
      · simp [ListenerWorker.rank]
    | false =>
      refine ⟨_, workerReaches_goTo s rfl (fun w hw => ?_) (fun w o ho => ?_) ?_⟩
      · cases w <;> first | rfl | cases hw
      · cases w <;> cases ho
      · simp [ListenerWorker.rank]
  case h_32 =>
    split at h <;> cases h
    exact hgoes rfl ⟨rfl, rfl⟩ (by simp [ListenerWorker.rank])
  case h_33 => cases h; exact hgoes rfl ⟨rfl, rfl⟩ (by simp [ListenerWorker.rank])
  case h_34 => cases h; exact hgoes rfl ⟨rfl, rfl⟩ (by decide)
  case h_35 => cases h; exact hgoes rfl ⟨rfl, rfl⟩ (by decide)
  case h_36 => cases h; exact hgoes rfl ⟨rfl, rfl⟩ (by decide)
  -- the ways out
  case h_37 => exact hlocks h rfl ⟨rfl, rfl⟩ (by decide)
  case h_38 => cases h; exact hends ⟨rfl, rfl⟩ (by decide)
  case h_39 => cases h; exact hgoes rfl ⟨rfl, rfl⟩ (by decide)
  case h_40 => exact hlocks h rfl ⟨rfl, rfl⟩ (by decide)
  case h_41 => cases h; exact hends ⟨rfl, rfl⟩ (by decide)
  case h_42 => exact hlocks h rfl ⟨rfl, rfl⟩ (by decide)
  case h_43 => cases h; exact hends ⟨rfl, rfl⟩ (by decide)
  case h_44 => cases h; exact hgoes rfl ⟨rfl, rfl⟩ (by decide)
  case h_45 => cases h

/-! ## The invariant

Two facts about the worker's sockets, beside those about the flag and the mutex.
A socket that the worker has read, in order to wait on it, is still the
member's, or is not live any longer (`held`). And a member whose socket `stop`
has shut down has no live socket while the worker may wait (`shut`): it could
only have got one from the worker, who would have to come through the test of
the flag first. -/

/-- **What holds, in every state, of a listener that may be stopped.** -/
structure Stoppable (s : ADINetworkToFStream) : Prop where
  /-- `stop()` sets the flag first. -/
  flag : ∀ c q, s.gui = .stop c q → q ≠ .setFlag → s.stopFlag = true
  /-- A process that was terminated is not in `stop()`. -/
  alive : s.terminated = true → s.gui = .startThread
  /-- The GUI holds the mutex only where the source says so. -/
  guiMutex : s.socketMutex = some .gui → s.gui.holds = true
  /-- The same of the worker. -/
  workerMutex : s.socketMutex = some .worker → ∃ p, s.worker = some p ∧ p.holds = true
  /-- The socket that is waited on is the member's, or was shut down. -/
  held : ∀ w p o, s.worker = some p → p.on w = some o →
    s.slot w = some o ∨ s.sockets.state o ≠ w.live
  /-- What `stop()` has shut down is not live, while the worker may wait. -/
  shut : ∀ w p o, s.worker = some p → p.within w = true → s.gui.past w = true →
    s.slot w = some o → s.sockets.state o ≠ w.live

/-- At the start there is neither a worker nor a socket. -/
theorem stoppable_initial : Stoppable {} where
  flag _ _ h := by cases h
  alive := Bool.noConfusion
  guiMutex h := by cases h
  workerMutex h := by cases h
  held _ _ _ h := by cases h
  shut _ _ _ h := by cases h

/-- `stop()` is past a shutdown only with `m_stopFlag` set, as it sets the flag
first. So while it is there, the worker does not come into the stretch any
more. -/
theorem Stoppable.flag_of_past (hs : s.Stoppable) {w : ListenerWait}
    (h : s.gui.past w = true) : s.stopFlag = true := by
  cases hgui : s.gui with
  | stop c q =>
    refine hs.flag c q hgui ?_
    rintro rfl
    rw [hgui] at h
    cases w <;> cases h
  | _ =>
    rw [hgui] at h
    cases h

/-- **The worker's step.** For `held` the step leaves the socket as it is, or
has just read it from the member. For `shut` the worker was within the stretch
before, since the flag is set; and within it the sockets and the members
stay. -/
theorem Stoppable.workerStep (hs : s.Stoppable) (h : s.workerStep a = some s') :
    s'.Stoppable := by
  obtain ⟨p, hp, hat⟩ := Option.bind_eq_some_iff.mp h
  obtain ⟨p', hreach⟩ := workerReaches_of_workerAt hat
  constructor
  · rw [hreach.gui, hreach.stopFlag]
    exact hs.flag
  · rw [hreach.terminated, hreach.gui]
    exact hs.alive
  · rw [hreach.gui]
    exact fun hm => hs.guiMutex (hreach.guiMutex hm)
  · intro hm
    refine ⟨p', hreach.worker, ?_⟩
    rcases hreach.workerMutex hm with hholds | ⟨hold, hnot⟩
    · exact hholds
    · -- the mutex was the worker's, so the worker was where it holds it
      obtain ⟨q, hq, hholds⟩ := hs.workerMutex hold
      rw [hp] at hq
      cases hq
      rw [hnot] at hholds
      cases hholds
  · intro w q o hq hon
    rw [hreach.worker] at hq
    cases hq
    obtain ⟨hslot, hsockets⟩ := hreach.slot w (ListenerWorker.within_of_on hon)
    rw [hslot, hsockets]
    rcases hreach.on w o hon with hold | hread
    · exact hs.held w p o hp hold
    · exact .inl hread
  · intro w q o hq hin hpast hslot
    rw [hreach.worker] at hq
    cases hq
    rw [hreach.gui] at hpast
    obtain ⟨hsame, hsockets⟩ := hreach.slot w hin
    rw [hsame] at hslot
    rw [hsockets]
    rcases hreach.within w hin with hold | hflag
    · exact hs.shut w p o hp hold hpast hslot
    · -- the worker has just found the flag clear, which `stop()` sets first
      rw [hs.flag_of_past hpast] at hflag
      cases hflag

/-! ## The steps of the GUI

`stop` closes the two members one after the other, by the same code, so the
lemmas are about a member that is closed and used for both. With the shutdown of
a socket the GUI is past it, and this is the step at which the invariant has
something to say. -/

/-- The GUI moves, and leaves the sockets alone. If it comes to be past a
shutdown with this, there was no socket to shut down. -/
theorem Stoppable.moveGui (hs : s.Stoppable) {g : ListenerGui} {m : Option ListenerThread}
    {f n r u d : Bool} (hlive : s.terminated = false)
    (hflag : ∀ c q, g = .stop c q → q ≠ .setFlag → f = true)
    (hgui : m = some .gui → g.holds = true)
    (hworker : m = some .worker → s.socketMutex = some .worker)
    (hpast : ∀ w, g.past w = true → s.gui.past w = true ∨ s.slot w = none) :
    Stoppable { s with
      gui := g, socketMutex := m, stopFlag := f, networkOnly := n, running := r, started := u
      tornDown := d } where
  flag := hflag
  alive h := absurd (hlive.symm.trans h) Bool.noConfusion
  guiMutex := hgui
  workerMutex h := hs.workerMutex (hworker h)
  held w := by
    have := hs.held w
    cases w <;> exact this
  shut w p o hp hin hg hslot := by
    have hsame : s.slot w = some o := by cases w <;> exact hslot
    rcases hpast w hg with hold | hnone
    · exact hs.shut w p o hp hin hold hsame
    · rw [hsame] at hnone
      cases hnone

/-! ### A member that is closed

The source closes the listening socket and the client's with the same four
statements: it tests whether there is a socket, shuts it down, closes it, and
resets the member. So this is done here to a member that is given, and what is
shown of it is shown once. -/

/-- `m_listenSocket` or `m_clientSocket` is set. -/
def setSlot (s : ADINetworkToFStream) (w : ListenerWait) (fd : Option ℕ) : ADINetworkToFStream :=
  match w with
  | .accept => { s with listenSocket := fd }
  | .recv => { s with clientSocket := fd }

/-- A step of closing the socket of a call. -/
def closeStep (s : ADINetworkToFStream) (w : ListenerWait) : CloseStage → ADINetworkToFStream
  | .test => s
  | .shutdown => { s with sockets := (s.slot w).elim s.sockets s.sockets.shutdown }
  | .close => { s with sockets := (s.slot w).elim s.sockets s.sockets.close }
  | .reset => s.setSlot w none

/-- The source has the closing of a socket twice, with different members; both
are `closeStep`. -/
theorem closeListenStep_eq_closeStep (s : ADINetworkToFStream) (stage : CloseStage) :
    s.closeListenStep stage = s.closeStep .accept stage := by
  cases stage <;> rfl

/-- The same of the client's socket. -/
theorem closeClientStep_eq_closeStep (s : ADINetworkToFStream) (stage : CloseStage) :
    s.closeClientStep stage = s.closeStep .recv stage := by
  cases stage <;> rfl

/-- A step of closing leaves all but the sockets. -/
theorem closeStep_frame (s : ADINetworkToFStream) (w : ListenerWait) (stage : CloseStage) :
    (s.closeStep w stage).worker = s.worker ∧ (s.closeStep w stage).terminated = s.terminated ∧
      (s.closeStep w stage).stopFlag = s.stopFlag ∧
      (s.closeStep w stage).socketMutex = s.socketMutex := by
  cases stage <;> cases w <;> exact ⟨rfl, rfl, rfl, rfl⟩

/-- Closing gives no member a socket. -/
theorem slot_of_closeStep {w v : ListenerWait} {stage : CloseStage} {o : ℕ}
    (h : (s.closeStep w stage).slot v = some o) : s.slot v = some o := by
  cases stage <;> cases w <;> cases v <;> first | exact h | cases h

/-- What is lost from a member by closing its socket: at the last stage the
member is reset, and the number of the socket with it. -/
theorem slot_closeStep {w v : ListenerWait} {stage : CloseStage} {o : ℕ}
    (h : s.slot v = some o) :
    (s.closeStep w stage).slot v = some o ∨ stage = .reset ∧ v = w := by
  cases stage <;> cases w <;> cases v <;> first | exact .inl h | exact .inr ⟨rfl, rfl⟩

/-- What is live behind a step of closing was so before, and is not the socket
that was shut down. -/
theorem live_of_closeStep {w v : ListenerWait} {stage : CloseStage} {o : ℕ}
    (h : (s.closeStep w stage).sockets.state o = v.live) :
    s.sockets.state o = v.live ∧ (stage = .shutdown → s.slot w ≠ some o) := by
  cases stage with
  | test => exact ⟨h, CloseStage.noConfusion⟩
  | shutdown =>
    cases hslot : s.slot w with
    | none =>
      simp only [ADINetworkToFStream.closeStep, hslot, Option.elim_none] at h
      exact ⟨h, fun _ hsome => by cases hsome⟩
    | some o' =>
      simp only [ADINetworkToFStream.closeStep, hslot, Option.elim_some] at h
      obtain ⟨hold, hne⟩ := SocketTable.live_of_shutdown h
      exact ⟨hold, fun _ hsome => hne (Option.some.inj hsome).symm⟩
  | close =>
    refine ⟨?_, CloseStage.noConfusion⟩
    cases hslot : s.slot w <;>
      simp only [ADINetworkToFStream.closeStep, hslot, Option.elim_none, Option.elim_some] at h <;>
      exact h
  | reset => exact ⟨by cases w <;> exact h, CloseStage.noConfusion⟩

/-- **`stop()` closes the socket of a call**: with the shutdown it is past one,
and what it resets is a socket that it has shut down. Behind the reset the
member says nothing of the socket any more; but the worker that waits on it
keeps a socket which is not live, so `held` goes on in its second case. -/
theorem Stoppable.closeStep (hs : s.Stoppable) {w : ListenerWait} {stage : CloseStage} {c : Bool}
    {q : StopPhase} {m : Option ListenerThread} (hlive : s.terminated = false)
    (hflag : s.stopFlag = true) (hm : m = none ∨ m = s.socketMutex ∧ q.holds = true)
    (hreset : stage = .reset → s.gui.past w = true)
    (hpast : ∀ v, q.past v = true →
      s.gui.past v = true ∨ (v = w ∧ stage = .shutdown) ∨ s.slot v = none) :
    Stoppable { s.closeStep w stage with gui := .stop c q, socketMutex := m } := by
  obtain ⟨hthread, halive, hsame, -⟩ := s.closeStep_frame w stage
  constructor
  · exact fun _ _ _ _ => hsame.trans hflag
  · intro h
    exact absurd (hlive.symm.trans (halive.symm.trans h)) Bool.noConfusion
  · intro h
    rcases hm with rfl | ⟨-, hholds⟩
    · cases h
    · exact hholds
  · intro h
    rcases hm with rfl | ⟨rfl, -⟩
    · cases h
    · obtain ⟨p, hp, hholds⟩ := hs.workerMutex h
      exact ⟨p, hthread.trans hp, hholds⟩
  · intro v p o hp hon
    replace hp := hthread.symm.trans hp
    -- a socket that is live after the step was live before, and was the member's
    rw [or_iff_not_imp_right]
    intro hlive
    rw [not_not] at hlive
    obtain ⟨hold, -⟩ := live_of_closeStep hlive
    have hslot := (hs.held v p o hp hon).resolve_right (fun h => h hold)
    have hmem : (s.closeStep w stage).slot v = some o ∨ stage = .reset ∧ v = w :=
      slot_closeStep hslot
    rcases hmem with hkept | ⟨rfl, rfl⟩
    · cases v <;> exact hkept
    · -- the socket is forgotten, and was shut down before
      exact absurd hold
        (hs.shut v p o hp (ListenerWorker.within_of_on hon) (hreset rfl) hslot)
  · intro v p o hp hin hgpast hslot hlive
    replace hp := hthread.symm.trans hp
    have hmem : (s.closeStep w stage).slot v = some o := by cases v <;> exact hslot
    have hslot := slot_of_closeStep hmem
    obtain ⟨hold, hshut⟩ := live_of_closeStep hlive
    rcases hpast v hgpast with hbefore | ⟨rfl, rfl⟩ | hnone
    · exact hs.shut v p o hp hin hbefore hslot hold
    · exact hshut rfl hslot
    · rw [hslot] at hnone
      cases hnone

/-- A step of `stop()`. It sets the flag, sends its farewell, closes the two
sockets under the mutex and joins, and each of these is one of the lemmas
above. -/
theorem Stoppable.stopStep (hs : s.Stoppable) {c : Bool} {q : StopPhase}
    (hlive : s.terminated = false) (hgui : s.gui = .stop c q)
    (h : s.stopStep c q a = some s') : s'.Stoppable := by
  have hflag : q ≠ .setFlag → s.stopFlag = true := hs.flag c q hgui
  -- between its phases `stop()` is past no shutdown that it was not past before
  have hmove : ∀ {q' : StopPhase} {m : Option ListenerThread} {r : Bool},
      s.stopFlag = true → (m = some .gui → q'.holds = true) →
      (m = some .worker → s.socketMutex = some .worker) → (∀ w, q'.past w = false) →
      Stoppable { s with gui := .stop c q', socketMutex := m, running := r } :=
    fun hset hg hw hpast => hs.moveGui (f := s.stopFlag) (n := s.networkOnly)
      (u := s.started) (d := s.tornDown) hlive (fun _ _ _ _ => hset) hg hw
      (fun w hp => absurd (hp.symm.trans (hpast w)) Bool.noConfusion)
  unfold ADINetworkToFStream.stopStep at h
  cases a with
  | goes =>
    dsimp only at h
    cases q with
    | setFlag =>
      cases h
      exact hs.moveGui (m := s.socketMutex) (n := s.networkOnly) (r := s.running)
        (d := s.tornDown) hlive (fun _ _ _ _ => rfl)
        (fun hm => by have := hs.guiMutex hm; rw [hgui] at this; cases this) id
        (fun w hp => by cases w <;> cases hp)
    | lockSend =>
      obtain ⟨-, rfl⟩ := lockGui_eq_some h
      exact hmove (r := s.running) (hflag StopPhase.noConfusion) (fun _ => rfl)
        (fun h => by cases h)
        (fun w => by cases w <;> rfl)
    | send =>
      cases h
      exact hmove (r := s.running) (hflag StopPhase.noConfusion) (fun h => by cases h)
        (fun h => by cases h) (fun w => by cases w <;> rfl)
    | lockClose =>
      obtain ⟨-, rfl⟩ := lockGui_eq_some h
      exact hmove (r := s.running) (hflag StopPhase.noConfusion) (fun _ => rfl)
        (fun h => by cases h)
        (fun w => by cases w <;> rfl)
    | closeListen stage =>
      cases h
      rw [closeListenStep_eq_closeStep]
      have hmutex := (s.closeStep_frame .accept stage).2.2.2
      refine hs.closeStep hlive (hflag StopPhase.noConfusion) (.inr ⟨hmutex, ?_⟩) (fun hr => ?_)
        (fun v hv => ?_)
      · cases stage.next s.listenSocket <;> rfl
      · rw [hgui, hr]
        rfl
      · cases v with
        | accept =>
          cases stage with
          | test =>
            cases hsome : s.listenSocket with
            | none => exact .inr (.inr hsome)
            | some o =>
              rw [hsome] at hv
              cases hv
          | shutdown => exact .inr (.inl ⟨rfl, rfl⟩)
          | close => rw [hgui]; exact .inl rfl
          | reset => rw [hgui]; exact .inl rfl
        | recv => cases hn : stage.next s.listenSocket <;> rw [hn] at hv <;> cases hv
    | closeClient stage =>
      have hmutex := (s.closeStep_frame .recv stage).2.2.2
      simp only [closeClientStep_eq_closeStep] at h
      cases hn : stage.next s.clientSocket with
      | some stage' =>
        simp only [hn] at h
        cases h
        refine hs.closeStep hlive (hflag StopPhase.noConfusion) (.inr ⟨hmutex, rfl⟩)
          (fun hr => ?_) (fun v hv => ?_)
        · rw [hgui, hr]
          rfl
        · rw [hgui]
          cases v with
          | accept => exact .inl rfl
          | recv =>
            cases stage with
            | test =>
              cases hsome : s.clientSocket <;> rw [hsome] at hn <;> cases hn
              cases hv
            | shutdown => exact .inr (.inl ⟨rfl, rfl⟩)
            | close => exact .inl rfl
            | reset => cases hn
      | none =>
        simp only [hn] at h
        cases h
        refine hs.closeStep hlive (hflag StopPhase.noConfusion) (.inl rfl) (fun hr => ?_)
          (fun v hv => ?_)
        · rw [hgui, hr]
          rfl
        · rw [hgui]
          cases v with
          | accept => exact .inl rfl
          | recv =>
            cases stage with
            | test =>
              cases hsome : s.clientSocket with
              | none => exact .inr (.inr hsome)
              | some o =>
                rw [hsome] at hn
                cases hn
            | reset => exact .inl rfl
            | shutdown => cases hn
            | close => cases hn
    | join =>
      dsimp only at h
      split at h
      · next hended =>
        cases h
        exact {
          flag := fun _ _ _ _ => hflag StopPhase.noConfusion
          alive := fun h => absurd (hlive.symm.trans h) Bool.noConfusion
          guiMutex := fun h => by
            have := hs.guiMutex h
            rw [hgui] at this
            cases this
          workerMutex := fun h => by
            -- a worker that has ended does not hold the mutex
            obtain ⟨p, hp, hholds⟩ := hs.workerMutex h
            rw [hp] at hended
            rcases hended with hended | hended <;> cases hended
            cases hholds
          held := fun _ _ _ h => by cases h
          shut := fun _ _ _ h => by cases h }
      · cases h
    | clear =>
      cases h
      refine hs.moveGui (m := s.socketMutex) (f := s.stopFlag) (n := s.networkOnly)
        (u := s.started) (d := s.tornDown) hlive (fun c' q' h => ?_) (fun hm => ?_) id
        (fun w hp => ?_)
      · cases c <;> cases h
      · have := hs.guiMutex hm
        rw [hgui] at this
        cases this
      · cases c <;> cases hp
  | fails =>
    cases q with
    | send =>
      cases h
      exact hmove (r := s.running) (hflag StopPhase.noConfusion) (fun h => by cases h)
        (fun h => by cases h) (fun w => by cases w <;> rfl)
    | _ => cases h
  | _ => cases h

/-- The GUI is where no socket is closed. -/
theorem past_eq_false {g : ListenerGui} (h : ∀ c q, g = .stop c q → q = .setFlag)
    (w : ListenerWait) : g.past w = false := by
  cases hg : g with
  | stop c q =>
    rw [h c q hg]
    cases w <;> rfl
  | _ => rfl

/-- The GUI moves outside `stop()`, or to its beginning. It is past no shutdown
there, so `shut` has nothing to say. -/
theorem Stoppable.moveCall (hs : s.Stoppable) {g : ListenerGui} {m : Option ListenerThread}
    {f n u d : Bool} (hlive : s.terminated = false)
    (hg : ∀ c q, g = .stop c q → q = .setFlag) (hgui : m = some .gui → g.holds = true)
    (hworker : m = some .worker → s.socketMutex = some .worker) :
    Stoppable { s with
      gui := g, socketMutex := m, stopFlag := f, networkOnly := n, started := u, tornDown := d } :=
  hs.moveGui (r := s.running) hlive (fun c q h hne => absurd (hg c q h) hne) hgui hworker
    (fun w h => absurd (h.symm.trans (past_eq_false hg w)) Bool.noConfusion)

/-- A GUI that does not hold the mutex, by its place. -/
theorem Stoppable.not_guiMutex (hs : s.Stoppable) (hg : s.gui.holds = false) {P : Prop} :
    s.socketMutex = some .gui → P :=
  fun h => absurd ((hs.guiMutex h).symm.trans hg) Bool.noConfusion

/-- **The GUI's step.** The calls other than `stop()` read flags and make
threads; a command holds the mutex while it sends. -/
theorem Stoppable.guiStep (hs : s.Stoppable) (hlive : s.terminated = false)
    (h : s.guiStep a = some s') : s'.Stoppable := by
  unfold ADINetworkToFStream.guiStep at h
  split at h
  · next hgui =>
    have hfree : s.gui.holds = false := by rw [hgui]; rfl
    cases h
    split
    · exact hs.moveCall (f := s.stopFlag) (n := s.networkOnly) (d := s.tornDown) hlive
        (fun _ _ h => by cases h) (hs.not_guiMutex hfree) id
    · exact hs.moveCall (f := s.stopFlag) (n := s.networkOnly) (u := s.started)
        (d := s.tornDown) hlive (fun _ _ h => by cases h) (hs.not_guiMutex hfree) id
  · next hgui =>
    have hfree : s.gui.holds = false := by rw [hgui]; rfl
    cases h
    exact hs.moveCall (n := s.networkOnly) (u := s.started) (d := s.tornDown) hlive
      (fun _ _ h => by cases h) (hs.not_guiMutex hfree) id
  · next hgui =>
    have hfree : s.gui.holds = false := by rw [hgui]; rfl
    cases h
    unfold startThread
    split
    · next hnone =>
      exact {
        flag := fun _ _ h => by cases h
        alive := fun h => absurd (hlive.symm.trans h) Bool.noConfusion
        guiMutex := hs.not_guiMutex hfree
        workerMutex := fun h => by
          obtain ⟨p, hp, -⟩ := hs.workerMutex h
          rw [hnone] at hp
          cases hp
        held := fun w p o h hon => by
          cases h
          cases w <;> cases hon
        shut := fun w p o h hin => by
          cases h
          cases w <;> cases hin }
    · exact { hs with
        alive := fun _ => hgui
        held := fun w => by have := hs.held w; cases w <;> exact this
        shut := fun w => by have := hs.shut w; cases w <;> exact this }
  · next c q hgui => exact hs.stopStep hlive hgui h
  · next hgui =>
    have hfree : s.gui.holds = false := by rw [hgui]; rfl
    cases h
    split
    · exact hs.moveCall (f := s.stopFlag) (n := s.networkOnly) (u := s.started)
        (d := s.tornDown) hlive (fun _ _ h => by cases h) (hs.not_guiMutex hfree) id
    · exact hs.moveCall (f := s.stopFlag) (n := s.networkOnly) (u := s.started) hlive
        (fun _ _ h => by cases h; rfl) (hs.not_guiMutex hfree) id
  · next hgui =>
    have hfree : s.gui.holds = false := by rw [hgui]; rfl
    cases h
    exact hs.moveCall (f := s.stopFlag) (u := s.started) (d := s.tornDown) hlive
      (fun _ _ h => by cases h) (hs.not_guiMutex hfree) id
  · next hgui =>
    obtain ⟨-, rfl⟩ := lockGui_eq_some h
    exact hs.moveCall (f := s.stopFlag) (n := s.networkOnly) (u := s.started)
      (d := s.tornDown) hlive (fun _ _ h => by cases h) (fun _ => rfl) (fun h => by cases h)
  · next hgui =>
    cases h
    exact hs.moveCall (f := s.stopFlag) (n := s.networkOnly) (u := s.started)
      (d := s.tornDown) hlive (fun _ _ h => by cases h) (fun h => by cases h)
      (fun h => by cases h)
  · next hgui =>
    cases h
    exact hs.moveCall (f := s.stopFlag) (n := s.networkOnly) (u := s.started)
      (d := s.tornDown) hlive (fun _ _ h => by cases h) (fun h => by cases h)
      (fun h => by cases h)
  · cases h

/-- A call begins outside `stop()`, or at its beginning, and holds no mutex. -/
theorem call_setFlag (s : ADINetworkToFStream) (c : ListenerCall) :
    (∀ b q, s.call c = .stop b q → q = .setFlag) ∧ (s.call c).holds = false := by
  unfold call
  cases c <;> cases s.networkOnly <;>
    exact ⟨fun b q h => by cases h <;> rfl, rfl⟩

/-- **Every step keeps the invariant.** -/
theorem Stoppable.step (hs : s.Stoppable) {a : ListenerStep} (h : step s a = some s') :
    s'.Stoppable := by
  cases a with
  | call c =>
    simp only [ADINetworkToFStream.step] at h
    split at h
    · next hidle =>
      cases h
      have hfree : s.gui.holds = false := by rw [hidle.2]; rfl
      exact hs.moveCall (f := s.stopFlag) (n := s.networkOnly) (u := s.started)
        (d := s.tornDown) hidle.1 (s.call_setFlag c).1 (hs.not_guiMutex hfree) id
    · cases h
  | gui a =>
    simp only [ADINetworkToFStream.step] at h
    split at h
    · cases h
    · next hlive => exact hs.guiStep (Bool.eq_false_iff.mpr hlive) h
  | worker a =>
    simp only [ADINetworkToFStream.step] at h
    split at h
    · cases h
    · exact hs.workerStep h

/-- So it holds in every state of every run, whatever calls are made in which
order. -/
theorem stoppable_of_run {as : List ListenerStep}
    (h : Machine.Run ADINetworkToFStream.step Machine.always {} as s) : s.Stoppable :=
  h.invariant (fun _ _ _ hs _ hst => Stoppable.step hs hst) stoppable_initial

/-! ## Joining the worker

While the GUI waits in `join` nobody else is there. The worker can go on at
every place: where it waits, its socket is shut down, and it is woken; where it
needs the mutex, that is free. Each such step lowers the rank, so there are at
most as many as the rank is. -/

/-- `stop()` waits in `join`. -/
def joining (s : ADINetworkToFStream) : Prop := ∃ c, s.gui = .stop c .join

/-- **What the worker can do without a peer**: it goes on where that needs no
data, a shutdown or a timer wakes it, or it fails in a call that cannot go on. -/
def alone (s : ADINetworkToFStream) : ListenerAnswer → Prop
  | .goes => s.worker ≠ some .poll
  | .wakes => True
  | .fails => s.workerStep .goes = none
  | _ => False

/-- **`stop()` returns.** Nothing of this asks the peer for anything: neither
the wait that `free` excludes, nor the steps of `moves`, nor those that
`returns` counts. -/
structure Joins (s : ADINetworkToFStream) : Prop where
  /-- The worker waits for no peer. -/
  free : ¬ s.waitsForPeer
  /-- The join returns, or the worker can go on by itself. -/
  moves : (step s (.gui .goes)).isSome = true ∨
    ∃ a s', step s (.worker a) = some s' ∧ s.alone a
  /-- It goes on for a bounded number of steps, whatever its peer does. -/
  returns : ∀ as s', Machine.Run step (fun t _ => t.joining) s as s' → as.length ≤ 21

/-! ### While `stop()` joins

The GUI waits, so that a step is one of the worker's, or the return. What a peer
does is in the answers that the worker's calls get, and on a socket that is shut
down there are few of these left. -/

/-- Where `stop()` waits, the socket of a call is not live. It is the member's,
and `stop()` is past the shutdown of that, or it was not live before. -/
theorem Stoppable.not_live (hs : s.Stoppable) (hjoin : s.joining) (hp : s.worker = some p)
    {w : ListenerWait} {o : ℕ} (hon : p.on w = some o) : s.sockets.state o ≠ w.live := by
  obtain ⟨c, hgui⟩ := hjoin
  have hpast : s.gui.past w = true := by
    rw [hgui]
    cases w <;> rfl
  rcases hs.held w p o hp hon with hslot | hnot
  · exact hs.shut w p o hp (ListenerWorker.within_of_on hon) hpast hslot
  · exact hnot

/-- So the worker waits for no peer. -/
theorem Stoppable.free (hs : s.Stoppable) (hjoin : s.joining) : ¬ s.waitsForPeer := by
  rintro (⟨o, hp, hlive⟩ | ⟨o, hp, hlive⟩)
  · exact hs.not_live hjoin hp (w := .accept) rfl hlive
  · exact hs.not_live hjoin hp (w := .recv) rfl hlive

/-- The process goes on, as it is in `stop()`. -/
theorem Stoppable.alive_of_joining (hs : s.Stoppable) (hjoin : s.joining) :
    s.terminated = false := by
  obtain ⟨c, hgui⟩ := hjoin
  refine Bool.eq_false_iff.mpr (fun h => ?_)
  have := hs.alive h
  rw [hgui] at this
  cases this

/-- The mutex is free where neither thread is at a place that holds it. Where
the GUI joins, it does not hold the mutex, so the worker gets it. -/
theorem Stoppable.mutex_eq_none (hs : s.Stoppable) (hgui : s.gui.holds = false)
    (hp : s.worker = some p) (hholds : p.holds = false) : s.socketMutex = none := by
  cases hm : s.socketMutex with
  | none => rfl
  | some t =>
    cases t with
    | gui => exact hs.not_guiMutex hgui hm
    | worker =>
      obtain ⟨q, hq, hq'⟩ := hs.workerMutex hm
      rw [hp] at hq
      cases hq
      rw [hholds] at hq'
      cases hq'

/-- **Where `stop()` waits, a worker that has not ended can go on by itself.** -/
theorem Stoppable.exists_alone (hs : s.Stoppable) (hjoin : s.joining) (hp : s.worker = some p)
    (hne : p ≠ .ended) : ∃ a s', s.workerStep a = some s' ∧ s.alone a := by
  have hstep : ∀ a, s.workerStep a = s.workerAt p a := fun a => by
    unfold ADINetworkToFStream.workerStep
    rw [hp]
    rfl
  have hfree : p.holds = false → s.socketMutex = none := hs.mutex_eq_none (by
    obtain ⟨c, hgui⟩ := hjoin
    rw [hgui]
    rfl) hp
  -- a step that the worker takes in any case
  have hgoes : ∀ s', s.workerAt p .goes = some s' → p ≠ .poll →
      ∃ a s', s.workerStep a = some s' ∧ s.alone a :=
    fun s' h hpoll => ⟨.goes, s', (hstep _).trans h, fun h =>
      hpoll (Option.some.inj (hp.symm.trans h))⟩
  -- a step that it takes, or a call that fails
  have hcall : ∀ s', s.workerAt p .fails = some s' → p ≠ .poll →
      ∃ a s', s.workerStep a = some s' ∧ s.alone a := fun s' h hpoll => by
    cases hg : s.workerAt p .goes with
    | some t => exact hgoes t hg hpoll
    | none => exact ⟨.fails, s', (hstep _).trans h, (hstep _).trans hg⟩
  cases p with
  | ended => exact absurd rfl hne
  | poll => exact ⟨.wakes, _, (hstep _).trans rfl, trivial⟩
  | acceptBlocked o =>
    exact ⟨.wakes, _, (hstep _).trans (if_neg (hs.not_live hjoin hp (w := .accept) rfl)),
      trivial⟩
  | recvBlocked o =>
    exact ⟨.wakes, _, (hstep _).trans (if_neg (hs.not_live hjoin hp (w := .recv) rfl)), trivial⟩
  | setsockopt | bind | listen | acceptCall fd | recvCall fd =>
    exact hcall _ rfl ListenerWorker.noConfusion
  | lockPublish o | lockLeave | lockCaught | lockExit =>
    exact hgoes _ (if_pos (hfree rfl)) ListenerWorker.noConfusion
  | _ => exact hgoes _ rfl ListenerWorker.noConfusion

/-- **The rank of a join**, which is not over while the worker has not ended.
The one step more is the return of the join. -/
def joinRank (s : ADINetworkToFStream) : ℕ :=
  match s.gui with
  | .stop _ .join => s.worker.elim 0 ListenerWorker.rank + 1
  | _ => 0

/-- **A step of a join lowers its rank.** It is a step of the worker, with the
flag set and no data to be received, or the return. No other step is possible:
the GUI is in the join, and begins no other call. -/
theorem Stoppable.joinRank_lt (hs : s.Stoppable) (hjoin : s.joining) {a : ListenerStep}
    (h : ADINetworkToFStream.step s a = some s') : s'.joinRank < s.joinRank := by
  have hlive := hs.alive_of_joining hjoin
  have hrecv : ∀ {p o}, s.worker = some p → p.on .recv = some o →
      s.sockets.state o ≠ .connected := fun hp hon => hs.not_live hjoin hp hon
  obtain ⟨c, hgui⟩ := hjoin
  have hrank : s.joinRank = s.worker.elim 0 ListenerWorker.rank + 1 := by
    unfold joinRank
    rw [hgui]
  rw [hrank]
  cases a with
  | call c =>
    simp only [ADINetworkToFStream.step, hgui] at h
    exact absurd h (by simp)
  | gui a =>
    -- the join returns
    have hstop : s.stopStep c .join a = some s' := by
      simpa [ADINetworkToFStream.step, ADINetworkToFStream.guiStep, hlive, hgui] using h
    unfold ADINetworkToFStream.stopStep at hstop
    cases a with
    | goes =>
      dsimp only at hstop
      split at hstop
      · cases hstop
        exact Nat.succ_pos _
      · cases hstop
    | _ => cases hstop
  | worker a =>
    simp only [ADINetworkToFStream.step, hlive] at h
    obtain ⟨p, hp, hat⟩ := Option.bind_eq_some_iff.mp h
    obtain ⟨p', hreach⟩ := workerReaches_of_workerAt hat
    have hlower : p'.rank < p.rank := by
      refine hreach.rank (hs.flag c .join hgui StopPhase.noConfusion) ?_
      rintro o rfl
      exact hrecv hp rfl
    have hrank' : s'.joinRank = p'.rank + 1 := by
      unfold joinRank
      rw [hreach.gui, hgui, hreach.worker]
      rfl
    rw [hrank', hp]
    exact Nat.succ_lt_succ hlower

/-- The longest way is 20 steps, from the first stage of a closing. -/
theorem rank_le (p : ListenerWorker) : p.rank ≤ 20 := by
  cases p with
  | close again stage => cases again <;> cases stage <;> decide
  | _ => simp [ListenerWorker.rank]

/-- With the return, 21. -/
theorem joinRank_le (s : ADINetworkToFStream) : s.joinRank ≤ 21 := by
  unfold joinRank
  split
  · cases s.worker with
    | none => exact Nat.succ_le_succ (Nat.zero_le _)
    | some p => exact Nat.succ_le_succ (rank_le p)
  · exact Nat.zero_le _

/-- **No stop is stranded**: in every run, where `stop()` waits for the worker,
that waits for no peer, can always go on by itself until it has ended, and ends
within a bounded number of steps.

The first part is the one with an argument: a worker that is in `accept` or in a
receive while `stop()` is in `join` is there on a socket that is no longer live,
as it was closed by `stop()` or was never waited on. The second says that
nothing else holds it up, and the third follows from the rank, which the longest
way to the end of the loop gives. -/
theorem joins_of_run {as : List ListenerStep} (h : Machine.Run step Machine.always {} as s)
    (hjoin : s.joining) : s.Joins where
  free := (stoppable_of_run h).free hjoin
  moves := by
    have hs := stoppable_of_run h
    have hlive := hs.alive_of_joining hjoin
    obtain ⟨c, hgui⟩ := id hjoin
    cases hp : s.worker with
    | none =>
      refine .inl ?_
      simp [ADINetworkToFStream.step, ADINetworkToFStream.guiStep,
        ADINetworkToFStream.stopStep, hlive, hgui, hp]
    | some p =>
      by_cases hended : p = .ended
      · refine .inl ?_
        simp [ADINetworkToFStream.step, ADINetworkToFStream.guiStep,
          ADINetworkToFStream.stopStep, hlive, hgui, hp, hended]
      · obtain ⟨a, s', hstep, halone⟩ := hs.exists_alone hjoin hp hended
        refine .inr ⟨a, s', ?_, halone⟩
        simp only [ADINetworkToFStream.step, hlive]
        exact hstep
  returns as' s' hrun := by
    have hbound : as'.length + s'.joinRank ≤ s.joinRank :=
      hrun.length_add_le (fun _ _ _ ht hok hst => ⟨ht.step hst, ht.joinRank_lt hok hst⟩)
        (stoppable_of_run h)
    have hmax := s.joinRank_le
    omega

/-- `stop()` comes while the worker is in `accept`: it sets the flag, closes the
socket, and waits for a worker whose call has been cut short. -/
theorem joins_of_run_accept :
    ∃ as s, Machine.Run step Machine.always {} as s ∧ s.joining ∧ s.Joins := by
  have hexec : (Machine.exec step {}
      ([.call .start, .gui .goes, .gui .goes, .gui .goes] ++
        List.replicate 12 (.worker .goes) ++ [.call .stop] ++ List.replicate 9 (.gui .goes))).map
        (fun s => (s.gui, s.worker))
      = some (.stop false .join, some (.acceptBlocked 0)) := by decide
  obtain ⟨s, hs, hmap⟩ := Option.map_eq_some_iff.mp hexec
  have hrun := Machine.run_iff_exec.mpr hs
  have hjoin : s.joining := ⟨false, (Prod.mk.inj hmap).1⟩
  exact ⟨_, s, hrun, hjoin, joins_of_run hrun hjoin⟩

end ADINetworkToFStream
