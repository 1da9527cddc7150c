import TofNet.CollectorScopes
import TofNet.ViewerScopes

/-!
# When the two programs stand still

The one deadlock there is goes around both machines. The GUI holds
`m_socketMutex` in the send of a command, which waits for room; the worker has
left its loop over the messages and waits for that mutex; and the collector
does not take the command, because a send of its own waits for room, or because
it waits for the thread that makes one.

Everything else that the threads wait for ends. The capture thread, the lock of
the sends and the camera lead to a send to the viewer; a send to the viewer
leads to the worker, which does not wait unless the GUI holds a mutex, and then
the GUI does not wait either. `not_deadlocked_of_run` puts this together, for
runs whose steps are `Orderly`.

The proof looks for a thread that does not wait. It follows who waits for whom,
beginning with the thread at hand: a thread is free if one of those is free that
it waits for (`WaitGraph.Free`), so that for each thread it is enough to name
one. The order in which they are shown to be free is that of the code: first the
worker, for whom nobody but the GUI stands in the way; then the collector's
threads, who wait for the worker in the end; and last the GUI, who waits for the
main thread to take a command. Where the worker and the GUI would wait for each
other, the condition has been broken by an earlier step, and the invariant says
so.
-/

/-! ## The invariant of the programs

Both halves are those of the programs alone (`CollectorInv`, `ViewerInv`), and a
step of one program leaves the half of the other as it is. So each kind of step
has one lemma here. -/

namespace Programs

/-- **The invariant**, of the two halves. Where the threads of one program wait
for those of the other, it is by the channels, and what there is to know of
these is in the viewer's half. -/
structure Inv (args : ChannelArgs) (s : Programs) : Prop where
  /-- What holds of the collector. -/
  collector : CollectorInv s.toCollector s.camera
  /-- What holds of the viewer, and of the channels. -/
  viewer : ViewerInv args s

section Runs

variable {args : ChannelArgs} {s s' : Programs}

/-- The main thread takes a command, or does its next act. A call of the camera
waits for the camera's mutex, and gives it back. -/
theorem collectorInv_of_mainStep {r : CallResult} (h : CollectorInv s.toCollector s.camera)
    (hstep : s.mainStep args r = some s') : CollectorInv s'.toCollector s'.camera := by
  unfold mainStep at hstep
  split at hstep
  · next hmain =>
    split at hstep
    · cases hstep
    · next m ms hcommands =>
      cases hstep
      exact collectorInv_recv h hmain (wellFormed_dispatch m s.sent) (joinsAhead_dispatch m s.sent)
        (scopesClosed_dispatch m s.sent)
  · next block act todo hmain =>
    split at hstep
    · obtain ⟨c, hact, rfl⟩ := Option.map_eq_some_iff.mp hstep
      exact collectorInv_act h hmain hact
    · cases hstep
  · cases hstep

/-- The main thread's call throws. -/
theorem collectorInv_of_mainThrow {what : Bytes} (h : CollectorInv s.toCollector s.camera)
    (hstep : s.mainThrow what = some s') : CollectorInv s'.toCollector s'.camera := by
  unfold mainThrow at hstep
  split at hstep
  · next hmain =>
    cases hstep
    exact collectorInv_recv h hmain (wellFormed_run (List.suffix_append _ _)) rfl rfl
  · next block m todo hmain =>
    cases hstep
    exact collectorInv_throw h hmain what
  · cases hstep

/-- The capture thread does its next act, or takes its next turn. -/
theorem collectorInv_of_captureStep {r : FrameResult} (h : CollectorInv s.toCollector s.camera)
    (hstep : s.captureStep args r = some s') : CollectorInv s'.toCollector s'.camera := by
  unfold captureStep at hstep
  split at hstep
  · cases hstep
  · next act todo hacts =>
    split at hstep
    · obtain ⟨c, hact, rfl⟩ := Option.map_eq_some_iff.mp hstep
      exact collectorInv_captureAct h hacts hact
    · cases hstep
  · split at hstep
    · obtain ⟨c, hturn, rfl⟩ := Option.map_eq_some_iff.mp hstep
      obtain ⟨hmain, hlock, -⟩ := scopes_of_captureTurn hturn
      exact collectorInv_captureTurn h hturn rfl rfl rfl hmain.symm rfl hlock.symm (.inl rfl)
    · next hcamera =>
      split at hstep
      · cases hstep
      · obtain ⟨c, hturn, rfl⟩ := Option.map_eq_some_iff.mp hstep
        exact collectorInv_captureTurn h hturn rfl rfl rfl rfl rfl rfl (.inr ⟨rfl, hcamera⟩)

/-- A send of the capture thread throws. -/
theorem collectorInv_of_captureThrow {what : Bytes} (h : CollectorInv s.toCollector s.camera)
    (hstep : s.captureThrow what = some s') : CollectorInv s'.toCollector s'.camera := by
  unfold captureThrow at hstep
  split at hstep
  · next m todo hacts =>
    cases hstep
    exact collectorInv_captureThrow h hacts what
  · cases hstep

/-- A thread of the collector at a call of the camera takes its mutex. -/
theorem collectorInv_of_takeCamera {o : Owner} (h : CollectorInv s.toCollector s.camera)
    (hstep : s.takeCamera args o = some s') : CollectorInv s'.toCollector s'.camera := by
  unfold takeCamera at hstep
  split at hstep
  · cases o with
    | main =>
      dsimp only at hstep
      split at hstep
      · next block act todo hmain =>
        split at hstep
        · next huses =>
          cases hstep
          exact ⟨h.wellFormed, h.home, h.alive, h.mainScopes, h.captureScopes,
            fun _ => ⟨block, act, todo, hmain, huses⟩, nofun⟩
        · cases hstep
      · cases hstep
    | capture =>
      dsimp only at hstep
      split at hstep
      · next huses =>
        cases hstep
        refine ⟨h.wellFormed, h.home, h.alive, h.mainScopes, h.captureScopes, nofun, fun _ => ?_⟩
        unfold turnUsesCamera at huses
        split at huses
        · next frameId hthread => exact .inl ⟨frameId, hthread⟩
        · next frameId hthread => exact .inr ⟨frameId, hthread⟩
        · cases huses
      · cases hstep
  · cases hstep

/-- The steps of the viewer leave the collector's threads alone. -/
theorem collector_of_guiStep {ok : Bool} (hstep : s.guiStep args ok = some s') :
    s'.toCollector = s.toCollector ∧ s'.camera = s.camera := by
  unfold guiStep at hstep
  split at hstep
  · cases hstep
  · split at hstep
    · cases hstep
      exact ⟨rfl, rfl⟩
    · cases hstep
      exact ⟨rfl, rfl⟩
    · split at hstep <;> cases hstep
      exact ⟨rfl, rfl⟩
    · cases hstep
      exact ⟨rfl, rfl⟩
  · cases hstep
    exact ⟨rfl, rfl⟩
  · split at hstep <;> cases hstep <;> exact ⟨rfl, rfl⟩
  · split at hstep <;> cases hstep
    exact ⟨rfl, rfl⟩
  · obtain ⟨s₁, hact, rfl⟩ := Option.map_eq_some_iff.mp hstep
    obtain ⟨-, -, -, -, hcollector, hcamera⟩ := viewerAct_frame hact
    exact ⟨hcollector, hcamera⟩

/-- So do those of the worker. -/
theorem collector_of_workerAt {p : ViewerWorker} {a : WorkerAnswer}
    (hstep : s.workerAt p a = some s') :
    s'.toCollector = s.toCollector ∧ s'.camera = s.camera := by
  unfold workerAt at hstep
  split at hstep
  · obtain ⟨s₁, hact, rfl⟩ := Option.map_eq_some_iff.mp hstep
    obtain ⟨-, -, -, -, hcollector, hcamera⟩ := viewerAct_frame hact
    exact ⟨hcollector, hcamera⟩
  case h_10 =>
    split at hstep <;> cases hstep
    exact ⟨rfl, rfl⟩
  case h_14 =>
    unfold takeMessage at hstep
    split at hstep <;> cases hstep <;> exact ⟨rfl, rfl⟩
  all_goals cases hstep
  all_goals exact ⟨rfl, rfl⟩

/-- What the GUI calls begins outside of the scopes, and not with a send. -/
theorem nested_call (call : ViewerCall) :
    nested .gui [] call.acts = true ∧ sendsNext call.acts = false := by
  cases call <;> exact ⟨rfl, rfl⟩

/-- Neither program has begun, and nothing is locked. -/
theorem inv_initial (args : ChannelArgs) : Inv args initial where
  collector :=
    { wellFormed := nofun
      home := fun h => absurd rfl h
      alive := nofun
      mainScopes := rfl
      captureScopes := rfl
      mainCamera := nofun
      captureCamera := nofun }
  viewer := by
    have hfree : ∀ t, Holds initial.holder t [] [] := fun t =>
      ⟨fun m => iff_of_false nofun List.not_mem_nil, List.nodup_nil, rfl⟩
    exact viewerInv_of_detached ⟨[], hfree .gui⟩ ⟨[], hfree .worker⟩ nofun nofun

/-- **An orderly step keeps the invariant.** A step of the collector is beside
the viewer (`viewerInv_of_beside`), and one of the viewer leaves the collector
as it is; so of the two halves only one is to be shown for each step. -/
theorem inv_step (h : Inv args s) {a : Step} (hok : Orderly args s a)
    (hstep : step args s a = some s') : Inv args s' := by
  obtain ⟨hcollector, hviewer⟩ := h
  cases a with
  | call call =>
    simp only [step] at hstep
    split at hstep
    · next hidle =>
      cases hstep
      obtain ⟨hnested, hsend⟩ := nested_call call
      obtain ⟨held, hheld⟩ := hviewer.guiScopes
      rw [hidle.2] at hheld
      have hnone : held = [] := of_decide_eq_true hheld.nested
      subst hnone
      exact ⟨hcollector, viewerInv_gui hviewer ⟨[], hheld.holds, hheld.nodup, hnested⟩ hsend _⟩
    · cases hstep
  | gui ok =>
    obtain ⟨hsame, hcamera⟩ := collector_of_guiStep hstep
    exact ⟨hsame ▸ hcamera ▸ hcollector, viewerInv_guiStep hviewer hok hstep⟩
  | worker a =>
    obtain ⟨p, hp, hat⟩ := Option.bind_eq_some_iff.mp hstep
    obtain ⟨hsame, hcamera⟩ := collector_of_workerAt hat
    exact ⟨hsame ▸ hcamera ▸ hcollector, viewerInv_workerAt hviewer hp hok hat⟩
  | takeCamera o =>
    exact ⟨collectorInv_of_takeCamera hcollector hstep,
      viewerInv_of_beside hviewer (beside_takeCamera hstep)⟩
  | main r =>
    exact ⟨collectorInv_of_mainStep hcollector hstep,
      viewerInv_of_beside hviewer (beside_mainStep hstep)⟩
  | mainThrows what =>
    exact ⟨collectorInv_of_mainThrow hcollector hstep,
      viewerInv_of_beside hviewer (beside_mainThrow hstep)⟩
  | capture r =>
    exact ⟨collectorInv_of_captureStep hcollector hstep,
      viewerInv_of_beside hviewer (beside_captureStep hstep)⟩
  | captureThrows what =>
    exact ⟨collectorInv_of_captureThrow hcollector hstep,
      viewerInv_of_beside hviewer (beside_captureThrow hstep)⟩
  | hangUp =>
    refine ⟨?_, viewerInv_of_beside hviewer (beside_hangUp hstep)⟩
    change s.hangUp = some s' at hstep
    unfold hangUp at hstep
    split at hstep <;> cases hstep
    exact hcollector
  | connect =>
    refine ⟨?_, viewerInv_of_beside hviewer (beside_connect hviewer hstep)⟩
    change s.connect args = some s' at hstep
    unfold connect at hstep
    split at hstep <;> cases hstep
    exact collectorInv_start args.apiVersion

/-! ### Every thread will go on

For each thread there are as many cases as it has reasons to wait. A mutex leads
to its holder, who is another thread and does not wait with it, but for one
case. -/

/-- A thread does not wait for itself: what it is to lock it does not hold, by
its scopes. -/
theorem holder_ne_self {t : ListenerThread} {held : List ViewerMutex} {m : ViewerMutex}
    {rest : List ViewerAct} (h : Holds s.holder t held (.lock m :: rest)) :
    s.holder m ≠ some t := by
  intro hown
  have hnodup := nodup_of_mayLock (Bool.and_eq_true_iff.mp h.nested).1
  exact (List.nodup_cons.mp hnodup).1 ((h.holds m).mp hown)

/-- **The GUI does not wait with a mutex**, but for a command to be sent. Where
it holds a mutex, its next statement is not another lock, a join or a start,
since all of these are outside of the scopes. -/
theorem guiWaiting_of_holder (h : ViewerInv args s) {m : ViewerMutex}
    (hown : s.holder m = some .gui) (hcommand : m = .socket → s.commandWaits args = false) :
    s.guiWaiting args = none := by
  obtain ⟨held, hheld⟩ := h.guiScopes
  have hmem := (hheld.holds m).mp hown
  unfold guiWaiting
  split
  · next m' rest hgui =>
    rw [hgui] at hheld
    have hmay := (Bool.and_eq_true_iff.mp hheld.nested).1
    rw [of_decide_eq_true (Bool.and_eq_true_iff.mp hmay).1] at hmem
    cases hmem
  · next message rest hgui =>
    rw [hgui] at hheld
    have hbehind := (Bool.and_eq_true_iff.mp hheld.nested).2
    rw [of_decide_eq_true (Bool.and_eq_true_iff.mp hbehind).1] at hmem
    refine if_neg (fun hfull => ?_)
    have hwaits : s.commandWaits args = true :=
      commandWaits_iff.mpr ⟨by rw [hgui]; rfl, hfull.1, hfull.2⟩
    exact absurd (hwaits.symm.trans (hcommand (List.mem_singleton.mp hmem))) nofun
  · next rest hgui =>
    rw [hgui] at hheld
    rw [(nested_of_gui (.inr (.inr rfl)) hheld.nested).1] at hmem
    cases hmem
  · rfl

/-- **The worker will go on.** It waits for a mutex or for nothing. The holder
of the mutex is the GUI, which does not wait with it; or it would wait for room
for a command while the worker has turned away, which is what the invariant
excludes (`served`). -/
theorem free_worker (h : Inv args s) : (s.waiting args).Free .worker := by
  cases hwait : s.waiting args .worker with
  | none => exact .of_none hwait
  | some us =>
    have hfor : s.workerWaiting = some us := hwait
    unfold workerWaiting at hfor
    split at hfor
    · next block m todo hp =>
      obtain ⟨t, ht, rfl⟩ := Option.map_eq_some_iff.mp hfor
      cases t with
      | worker =>
        obtain ⟨held, hheld⟩ := h.viewer.workerScopes
        have htodo : s.workerTodo = .lock m :: todo := by
          unfold workerTodo
          rw [hp]
          rfl
        rw [htodo] at hheld
        -- the worker does not wait for itself
        exact absurd ht (holder_ne_self hheld)
      | gui =>
        -- the GUI holds the mutex, and does not wait with it
        refine .of_mem hwait List.mem_cons_self (.of_none ?_)
        refine guiWaiting_of_holder h.viewer ht (fun hm => ?_)
        have haway : s.workerAway = true := by
          unfold workerAway
          rw [hp]
          exact decide_eq_true hm
        rw [← Bool.not_eq_true]
        exact fun hwaits => absurd (haway.symm.trans (h.viewer.served hwaits)) nofun
    · next hp =>
      split at hfor
      · next hempty => exact absurd hempty.2 (h.viewer.message hp hempty.1)
      · cases hfor
    · cases hfor

/-- Within its scopes a thread of the collector waits for the viewer alone: it
sends there and does nothing else. -/
theorem mainWaiting_of_sendMu (h : CollectorInv s.toCollector s.camera)
    (hown : s.sendMu = some .main) :
    s.mainWaiting args = none ∨ s.mainWaiting args = some [.worker, .gui] := by
  have hscopes := h.mainScopes
  rw [decide_eq_true hown] at hscopes
  unfold mainWaiting
  split
  · next hmain =>
    rw [hmain] at hscopes
    cases hscopes
  · next hmain =>
    rw [hmain] at hscopes
    cases hscopes
  · exact ite_eq_or_eq _ _ _
  · next hmain =>
    rw [hmain] at hscopes
    cases hscopes
  · next block act todo _ _ _ hmain =>
    rw [hmain] at hscopes
    refine .inl (if_neg (fun hcamera => ?_))
    cases act with
    | lock | unlock | send | markSent | setRun | join | spawn => cases hcamera.1
    | camStop | exportCcb | exportDealias | setRequestedFps | switchMode | camStart =>
      cases hscopes
  · exact .inl rfl

/-- Who waits for the viewer will go on. -/
theorem free_of_waits_worker (h : Inv args s) {t : ProgramThread}
    (hwait : s.waiting args t = none ∨ s.waiting args t = some [.worker, .gui]) :
    (s.waiting args).Free t := by
  rcases hwait with hnone | hworker
  · exact .of_none hnone
  · exact .of_mem hworker List.mem_cons_self (free_worker h)

/-- **The capture thread will go on.** It waits for `send_mu`, whose holder is
in a send; for the camera, whose holder is in a call of it and does not wait; or
for room, and then for the worker. -/
theorem free_capture (h : Inv args s) : (s.waiting args).Free .capture := by
  cases hwait : s.waiting args .capture with
  | none => exact .of_none hwait
  | some us =>
    have hfor : s.captureWaiting args = some us := hwait
    unfold captureWaiting at hfor
    split at hfor
    · next todo hacts =>
      obtain ⟨o, ho, rfl⟩ := Option.map_eq_some_iff.mp hfor
      cases o with
      | main =>
        exact .of_mem hwait List.mem_cons_self
          (free_of_waits_worker h (mainWaiting_of_sendMu h.collector ho))
      | capture =>
        have hscopes := h.collector.captureScopes
        rw [decide_eq_true ho, Thread.todo, hacts] at hscopes
        cases hscopes
    · split at hfor
      · cases hfor
      · cases hfor
        exact .of_mem hwait List.mem_cons_self (free_worker h)
    · cases hfor
    · split at hfor
      · next hcamera =>
        cases hfor
        -- the main thread is at a call of the camera, which it goes through with
        obtain ⟨block, act, todo, hmain, huses⟩ := h.collector.mainCamera hcamera.2
        refine .of_mem hwait List.mem_cons_self (.of_none ?_)
        refine mainWaiting_of_free hmain huses (fun hown => ?_)
        rw [hcamera.2] at hown
        cases hown
      · cases hfor

/-- **The GUI will go on**, if the main thread takes the command it sends. What
else it waits for is the worker: for a mutex, or for its end. -/
theorem free_gui (h : Inv args s)
    (hmain : s.commandWaits args = true → (s.waiting args).Free .main) :
    (s.waiting args).Free .gui := by
  cases hwait : s.waiting args .gui with
  | none => exact .of_none hwait
  | some us =>
    have hfor : s.guiWaiting args = some us := hwait
    unfold guiWaiting at hfor
    split at hfor
    · next m rest hgui =>
      obtain ⟨t, ht, rfl⟩ := Option.map_eq_some_iff.mp hfor
      cases t with
      | worker => exact .of_mem hwait List.mem_cons_self (free_worker h)
      | gui =>
        obtain ⟨held, hheld⟩ := h.viewer.guiScopes
        rw [hgui] at hheld
        exact absurd ht (holder_ne_self hheld)
    · next message rest hgui =>
      split at hfor
      · next hfull =>
        cases hfor
        refine .of_mem hwait List.mem_cons_self (hmain (commandWaits_iff.mpr ⟨?_, hfull⟩))
        rw [hgui]
        rfl
      · cases hfor
    · split at hfor
      · cases hfor
      · cases hfor
        exact .of_mem hwait List.mem_cons_self (free_worker h)
    · cases hfor

/-- **The main thread will go on.** It waits for a mutex of the other thread's,
for room, or in the join for the capture thread; and in its loop it does not
wait if there is a command. -/
theorem free_main (h : Inv args s) : (s.waiting args).Free .main := by
  cases hwait : s.waiting args .main with
  | none => exact .of_none hwait
  | some us =>
    have hfor : s.mainWaiting args = some us := hwait
    unfold mainWaiting at hfor
    split at hfor
    · split at hfor
      · next hempty =>
        cases hfor
        refine .of_mem hwait List.mem_cons_self (free_gui h (fun hwaits => ?_))
        -- a channel with no command in it has room for one
        have hfull := (commandWaits_iff.mp hwaits).2.2
        unfold commandFits at hfull
        rw [hempty.2] at hfull
        exact absurd args.commandRoom_pos (of_decide_eq_false hfull)
      · cases hfor
    · next todo hmain =>
      obtain ⟨o, ho, rfl⟩ := Option.map_eq_some_iff.mp hfor
      cases o with
      | main =>
        -- the main thread does not lock twice
        have hscopes := h.collector.mainScopes
        rw [decide_eq_true ho, hmain] at hscopes
        cases hscopes
      | capture => exact .of_mem hwait List.mem_cons_self (free_capture h)
    · split at hfor
      · cases hfor
      · cases hfor
        exact .of_mem hwait List.mem_cons_self (free_worker h)
    · split at hfor
      · cases hfor
      · cases hfor
        exact .of_mem hwait List.mem_cons_self (free_capture h)
    · split at hfor
      · cases hfor
        exact .of_mem hwait List.mem_cons_self (free_capture h)
      · cases hfor
    · cases hfor

/-- Every thread will go on. The GUI comes last, as it needs the main thread. -/
theorem free_of_inv (h : Inv args s) (t : ProgramThread) : (s.waiting args).Free t := by
  cases t with
  | gui => exact free_gui h (fun _ => free_main h)
  | worker => exact free_worker h
  | main => exact free_main h
  | capture => exact free_capture h

/-- **No threads wait for one another**, at any point of a run whose steps are
orderly.

The threads of both programs are in one graph, where a thread that waits points
to those that could end its waiting. A deadlock is a set of threads in which
each waits for members of the set alone, and so there is none if every thread is
free: it does not wait, or one that it waits for is free. -/
theorem not_deadlocked_of_run (args : ChannelArgs) {as : List Step}
    (hrun : Machine.Run (step args) (Orderly args) initial as s) :
    ¬ ∃ S, (s.waiting args).Deadlocked S := by
  have hinv : Inv args s :=
    hrun.invariant (fun _ _ _ h hok hstep => inv_step h hok hstep) (inv_initial args)
  rw [WaitGraph.exists_deadlocked_iff]
  exact fun ⟨t, hblocked⟩ => hblocked (free_of_inv hinv t)

end Runs

/-- Channels of `n + 1` messages each, and no limit for the frames. -/
def sampleArgs (n : ℕ) : ChannelArgs where
  apiVersion := []
  maxFrames := 0
  commandRoom := n + 1
  viewerRoom := n + 1
  commandRoom_pos := n.succ_pos
  viewerRoom_pos := n.succ_pos

/-- The viewer is started, and the worker has accepted the collector's
connection. -/
def connecting : List Step :=
  [.call .start] ++ List.replicate 3 (.gui true) ++ List.replicate 6 (.worker .goes)
    ++ [.connect] ++ List.replicate 4 (.worker .goes)

/-- The user starts a capture, and stops the viewer: the two commands are in the
channel, the worker has ended, and the GUI's call has returned. -/
theorem not_deadlocked_stopped :
    ∃ as s, Machine.Run (step (sampleArgs 1)) (Orderly (sampleArgs 1)) initial as s
      ∧ s.commands.length = 2 ∧ s.gui = [] ∧ s.worker = none
      ∧ ¬ ∃ S, (s.waiting (sampleArgs 1)).Deadlocked S := by
  have hexec : (Machine.execOk (step (sampleArgs 1)) (Orderly (sampleArgs 1)) initial
      (connecting ++ [.main .ok, .call (.startRemoteCapture [] 0 0)]
        ++ List.replicate 7 (.gui true) ++ [.call .stop] ++ List.replicate 9 (.gui true)
        ++ List.replicate 10 (.worker .goes) ++ List.replicate 4 (.gui true))).map
      (fun s => (s.commands.length, s.gui, s.worker)) = some (2, [], none) := by decide +kernel
  obtain ⟨s, hs, hend⟩ := Option.map_eq_some_iff.mp hexec
  obtain ⟨hcommands, hrest⟩ := Prod.mk.inj hend
  obtain ⟨hgui, hworker⟩ := Prod.mk.inj hrest
  have hrun := Machine.run_of_execOk hs
  exact ⟨_, s, hrun, hcommands, hgui, hworker, not_deadlocked_of_run (sampleArgs 1) hrun⟩

/-- **The viewer is stopped behind a command that is not taken**, while a
message is sent to it: the three threads wait for one another. The GUI holds
`m_socketMutex` and waits for room, the worker waits for `m_socketMutex`, and
the main thread waits for the worker to take its message. -/
theorem deadlocked_stopping :
    ∃ as s, Machine.Run (step (sampleArgs 0)) Machine.always initial as s
      ∧ (s.waiting (sampleArgs 0)).Deadlocked {.gui, .worker, .main} := by
  have hexec : (Machine.exec (step (sampleArgs 0)) initial
      (connecting ++ [.main .ok, .takeCamera .main, .main (.throws []),
          .call (.startRemoteCapture [] 0 0)]
        ++ List.replicate 7 (.gui true) ++ [.call .stop] ++ List.replicate 2 (.gui true)
        ++ [.worker .goes])).map (fun s => [ProgramThread.gui, .worker, .main].map
          (s.waiting (sampleArgs 0)))
      = some [some [.main], some [.gui], some [.worker, .gui]] := by decide +kernel
  obtain ⟨s, hs, hwaits⟩ := Option.map_eq_some_iff.mp hexec
  obtain ⟨hgui, hrest⟩ := List.cons.inj hwaits
  obtain ⟨hworker, hrest⟩ := List.cons.inj hrest
  obtain ⟨hmain, -⟩ := List.cons.inj hrest
  refine ⟨_, s, Machine.run_iff_exec.mpr hs, ⟨.gui, .inl rfl⟩, ?_⟩
  rintro t (rfl | rfl | rfl)
  · exact ⟨_, hgui, by simp⟩
  · exact ⟨_, hworker, by simp⟩
  · exact ⟨_, hmain, by simp⟩

end Programs
