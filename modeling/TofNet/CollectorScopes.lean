import TofNet.Programs

/-!
# The scopes of the collector

While a thread of the collector holds the mutex of the sends, it sends and does
nothing else: it does not join, it does not call the camera, and it does not
lock the mutex a second time. Every block of the main thread and every turn of
the capture thread begins and ends outside of such a scope, and a throw leaves
it. The mutex of the camera is held by a thread at a call of the camera.

`CollectorInv` states this together with what is known about the main thread
and its joins, and every step of the two threads keeps it.

For the question which thread may stand still on which mutex, only little of
what a thread does matters: where its scopes begin and end, and what it does
within them. The scope of the lock has sends in it and nothing else, so a thread
that has the lock waits for the connection at most.

The facts that the session's invariant has about joins come in again, for a new
reason. A thread that joins waits for the other one, and must not hold what that
waits for; `CollectorInv` says so by saying where the main thread can be when it
has either mutex.
-/

/-! ## The scopes of the collector

For a script it is a matter of going through it (`scopesClosed`), as it is for
the lock discipline in `SessionControl`. What an act does to the control is
again `Moves`, so that the cases are few: the thread goes on in its script, with
acts of an export in front, or begins another block outside of all scopes. -/

/-- **Within the scope of the lock a thread only sends.** It does not take the
lock a second time there, and gives it back in the end. What it may send, and
whether it may send outside of a scope, is not asked here. -/
def scopesClosed : Bool → List Act → Bool
  | held, [] => !held
  | held, .lock :: rest => !held && scopesClosed true rest
  | held, .unlock :: rest => held && scopesClosed false rest
  | held, .send _ :: rest | held, .markSent _ :: rest => scopesClosed held rest
  | held, .setRun _ :: rest | held, .camStop :: rest | held, .join :: rest | held, .spawn :: rest
  | held, .exportCcb :: rest | held, .exportDealias _ _ :: rest
  | held, .setRequestedFps _ :: rest | held, .switchMode _ :: rest | held, .camStart :: rest =>
    !held && scopesClosed held rest

/-- A thread's lock says as little of the other thread as a free mutex does. -/
theorem other_iff_of_lock {owner other : Owner} (hne : owner ≠ other) :
    some owner = some other ↔ none = some other :=
  iff_of_false (fun h => hne (Option.some.inj h)) (Option.some_ne_none other).symm

/-- Sends in front change nothing in this, within a scope or outside. -/
theorem scopesClosed_append {held : Bool} {more rest : List Act}
    (hmore : ∀ a ∈ more, (∃ m, a = .send m) ∨ ∃ ft, a = .markSent ft) :
    scopesClosed held (more ++ rest) = scopesClosed held rest := by
  induction more with
  | nil => rfl
  | cons act more ih =>
    have htail := ih (fun a ha => hmore a (List.mem_cons_of_mem act ha))
    rcases hmore act List.mem_cons_self with ⟨m, rfl⟩ | ⟨ft, rfl⟩
    · exact htail
    · exact htail

/-- Every block begins outside of the scopes, … -/
theorem scopesClosed_done (block : Block) : scopesClosed false block.done.todo = true := by
  cases block <;> rfl

/-- … also the handlers, and … -/
theorem scopesClosed_thrown (what : Bytes) (block : Block) :
    scopesClosed false (block.thrown what).todo = true := by
  cases block <;> rfl

/-- … the script of each command. -/
theorem scopesClosed_dispatch (m : Message) (sent : List Bytes) :
    scopesClosed false (Main.dispatch m sent).todo = true := by
  have hstart : ∀ ft fps, scopesClosed false (startCapture ft fps sent) = true := by
    intro ft fps
    unfold startCapture
    split <;> split <;> split <;> rfl
  unfold Main.dispatch
  split
  · dsimp only
    split
    · exact hstart _ _
    · exact hstart _ _
  · split
    · rfl
    · split <;> rfl

/-- So a thread that goes on with what is left of a script goes on with closed
scopes, also at the end of a block. -/
theorem scopesClosed_resume {held : Bool} {block : Block} {rest : List Act}
    (h : scopesClosed held rest = true) :
    scopesClosed held (Main.resume block rest).todo = true := by
  cases rest with
  | nil =>
    cases held with
    | true => cases h
    | false => exact scopesClosed_done block
  | cons act rest => exact h

/-- **The collector's part of the invariant.** The first three clauses are those
of `SessionControl`, and two are about the scopes of `send_mu`. The last two say
where a thread can be that holds the camera: at a call of it, where it is not in
a scope, waits for no other thread and sends nothing. -/
structure CollectorInv (c : Collector) (camera : Option Owner) : Prop where
  /-- The main thread is in a block of the source, at an act of it. -/
  wellFormed : c.main.WellFormed
  /-- A capture thread that has not been joined has a join ahead of it. -/
  home : Home c.main c.thread
  /-- The process goes on. -/
  alive : c.main ≠ .terminated
  /-- The main thread gives `send_mu` back. -/
  mainScopes : scopesClosed (c.sendMu = some .main) c.main.todo = true
  /-- So does the capture thread. -/
  captureScopes : scopesClosed (c.sendMu = some .capture) c.thread.todo = true
  /-- The main thread holds the camera's mutex only in a call of the
  camera. -/
  mainCamera : camera = some .main →
    ∃ block act todo, c.main = .run block (act :: todo) ∧ act.usesCamera = true
  /-- The capture thread holds it only where it takes a frame or stops the
  camera. -/
  captureCamera : camera = some .capture →
    (∃ frameId, c.thread = .head frameId) ∨ ∃ frameId, c.thread = .limit frameId

section Collector

variable {c c' : Collector} {camera : Option Owner} {block : Block} {act : Act} {todo : List Act}
  {r : CallResult}

/-- The main thread goes on, with the lock as it is. Taking or giving back the
lock does not change whether the capture thread has it. -/
structure KeepsScopes (c c' : Collector) : Prop where
  /-- The main thread still gives `send_mu` back. -/
  main : scopesClosed (c'.sendMu = some .main) c'.main.todo = true
  /-- The capture thread has it exactly if it had it. -/
  capture : c'.sendMu = some .capture ↔ c.sendMu = some .capture

/-- A throw leaves the scope it is in, and the handler begins outside of all. -/
theorem keepsScopes_throw (what : Bytes) : KeepsScopes c (c.throw block what) := by
  have hfree : (c.throw block what).sendMu ≠ some .main := by
    show (if c.sendMu = some .main then none else c.sendMu) ≠ some .main
    split
    · exact nofun
    · assumption
  constructor
  · rw [decide_eq_false hfree]
    exact scopesClosed_thrown what block
  · show (if c.sendMu = some .main then none else c.sendMu) = some .capture ↔ _
    split
    · next hmain =>
      rw [hmain]
      exact (other_iff_of_lock (by decide)).symm
    · rfl

/-- **Every act of the main thread keeps the scopes.** What is left of its
script has closed scopes for the new owner of the lock: a lock or an unlock
changes both together, and the other acts change neither. An export adds sends,
and a throw is `keepsScopes_throw`. -/
theorem keepsScopes_act (h : scopesClosed (c.sendMu = some .main) (act :: todo) = true)
    (hact : c.act block todo r act = some c') : KeepsScopes c c' := by
  cases act with
  | lock =>
    simp only [Collector.act] at hact
    split at hact
    · next hfree =>
      cases hact
      refine ⟨scopesClosed_resume (Bool.and_eq_true_iff.mp h).2, ?_⟩
      rw [hfree]
      exact other_iff_of_lock (by decide)
    · cases hact
  | unlock =>
    cases hact
    obtain ⟨hheld, hrest⟩ := Bool.and_eq_true_iff.mp h
    refine ⟨scopesClosed_resume hrest, ?_⟩
    rw [of_decide_eq_true hheld]
    exact (other_iff_of_lock (by decide)).symm
  | send | markSent =>
    cases hact
    exact ⟨scopesClosed_resume h, Iff.rfl⟩
  | setRun | camStop =>
    cases hact
    exact ⟨scopesClosed_resume (Bool.and_eq_true_iff.mp h).2, Iff.rfl⟩
  | join =>
    simp only [Collector.act] at hact
    split at hact
    · cases hact
      exact ⟨scopesClosed_resume (Bool.and_eq_true_iff.mp h).2, Iff.rfl⟩
    · cases hact
  | spawn =>
    simp only [Collector.act] at hact
    split at hact
    · cases hact
      exact ⟨scopesClosed_resume (Bool.and_eq_true_iff.mp h).2, Iff.rfl⟩
    · cases hact
      refine ⟨?_, Iff.rfl⟩
      exact (Bool.and_eq_true_iff.mp h).1
  | exportCcb =>
    simp only [Collector.act] at hact
    obtain ⟨-, hrest⟩ := Bool.and_eq_true_iff.mp h
    split at hact
    · next ccb =>
      cases hact
      -- what an export adds are sends, within a scope or outside of one
      have hgo : scopesClosed (c.sendMu = some .main) (sendCcb ccb ++ todo) = true := by
        rw [scopesClosed_append (sendCcb_sends ccb)]
        exact hrest
      exact ⟨scopesClosed_resume hgo, Iff.rfl⟩
    · cases hact
      exact keepsScopes_throw _
    · cases hact
  | exportDealias frameTypes locked =>
    simp only [Collector.act] at hact
    obtain ⟨hfree, hrest⟩ := Bool.and_eq_true_iff.mp h
    split at hact
    · next entries =>
      cases hact
      have hentries := sendDealiasEntries_sends entries
      have hgo : scopesClosed (c.sendMu = some .main)
          ((if locked then [.lock] ++ sendDealiasEntries entries ++ [.unlock]
            else sendDealiasEntries entries) ++ todo) = true := by
        -- the entries are sent in a scope of their own, which closes behind them
        generalize decide (c.sendMu = some .main) = held at hfree hrest
        cases held with
        | true => cases hfree
        | false =>
          cases locked with
          | true =>
            show scopesClosed true ((sendDealiasEntries entries ++ [.unlock]) ++ todo) = true
            rw [List.append_assoc, scopesClosed_append hentries]
            exact hrest
          | false =>
            show scopesClosed false (sendDealiasEntries entries ++ todo) = true
            rw [scopesClosed_append hentries]
            exact hrest
      exact ⟨scopesClosed_resume hgo, Iff.rfl⟩
    · cases hact
      exact keepsScopes_throw _
    · cases hact
  | setRequestedFps | switchMode | camStart =>
    simp only [Collector.act] at hact
    split at hact
    · cases hact
      exact ⟨scopesClosed_resume (Bool.and_eq_true_iff.mp h).2, Iff.rfl⟩
    · cases hact
      exact keepsScopes_throw _
    · cases hact

/-- A thread that the main thread does not join has the same to do. One that it
joins has ended, and a new one is at the head of its loop; both have nothing to
send. -/
theorem thread_todo_of_moves {throws : Act → Bool} {main' : Main} {thread' : Thread}
    (hM : Moves throws block act todo c.thread main' thread') : thread'.todo = c.thread.todo := by
  rcases hM.thread with ⟨-, hthread, hnone⟩ | ⟨-, hthread, -, hhead⟩ | ⟨-, -, hsame⟩
  · rw [hnone]
    rcases hthread with hthread | hthread
    · rw [hthread]
    · rw [hthread]
      rfl
  · rw [hhead, hthread]
    rfl
  · rw [hsame]

/-- Nor does it join or replace one that is at a call of the camera, as that one
has not ended. -/
theorem thread_of_moves_camera {throws : Act → Bool} {main' : Main} {thread' : Thread}
    (hM : Moves throws block act todo c.thread main' thread')
    (hthread : (∃ frameId, c.thread = .head frameId) ∨ ∃ frameId, c.thread = .limit frameId) :
    thread' = c.thread := by
  rcases hM.thread with ⟨-, hjoined, -⟩ | ⟨-, hnone, -, -⟩ | ⟨-, -, hsame⟩
  · obtain ⟨frameId, hat⟩ | ⟨frameId, hat⟩ := hthread <;> rw [hat] at hjoined <;>
      exact hjoined.elim (fun h => nomatch h) (fun h => nomatch h)
  · obtain ⟨frameId, hat⟩ | ⟨frameId, hat⟩ := hthread <;> rw [hat] at hnone <;> cases hnone
  · exact hsame

/-- Away from the calls of the camera, the main thread does not have it. -/
theorem camera_ne_main (h : CollectorInv c camera)
    (hmain : ∀ block act todo, c.main = .run block (act :: todo) → act.usesCamera = false) :
    camera ≠ some .main := by
  intro hown
  obtain ⟨block, act, todo, hrun, huses⟩ := h.mainCamera hown
  exact absurd (huses.symm.trans (hmain block act todo hrun)) Bool.noConfusion

/-- **A move of the main thread keeps the invariant.** The clauses about control
come from `SessionControl`, those about the scopes from `KeepsScopes`. As to the
camera, the main thread gives it back with its call, and a call of the capture
thread is not disturbed by the move. -/
theorem collectorInv_of_moves {throws : Act → Bool} {camera' : Option Owner}
    (h : CollectorInv c camera) (hmain : c.main = .run block (act :: todo))
    (hM : Moves throws block act todo c.thread c'.main c'.thread)
    (hstop : ∀ a ∈ stopThread, throws a = false) (hkeep : KeepsScopes c c')
    (hcamera : camera' = none ∨ camera' = camera ∧ camera ≠ some .main) :
    CollectorInv c' camera' := by
  have hfollows := h.wellFormed block (act :: todo) hmain
  have hhome : Home (.run block (act :: todo)) c.thread := by
    rw [← hmain]
    exact h.home
  constructor
  case wellFormed =>
    exact wellFormed_of_moves hM hfollows
  case home =>
    exact home_of_moves hM hstop hfollows hhome
  case alive =>
    exact not_terminated_of_moves hM hfollows hhome
  case mainScopes =>
    exact hkeep.main
  case captureScopes =>
    rw [thread_todo_of_moves hM, decide_eq_decide.mpr hkeep.capture]
    exact h.captureScopes
  case mainCamera =>
    intro hown
    rcases hcamera with hnone | ⟨hsame, hne⟩
    · rw [hnone] at hown
      cases hown
    · exact absurd (hsame.symm.trans hown) hne
  case captureCamera =>
    intro hown
    rcases hcamera with hnone | ⟨hsame, -⟩
    · rw [hnone] at hown
      cases hown
    · have hthread := h.captureCamera (hsame.symm.trans hown)
      rw [thread_of_moves_camera hM hthread]
      exact hthread

/-- An act of the main thread. If it is a call of the camera, the main thread
gives the camera back with it. -/
theorem collectorInv_act (h : CollectorInv c camera) (hmain : c.main = .run block (act :: todo))
    (hact : c.act block todo r act = some c') :
    CollectorInv c' (if act.usesCamera then none else camera) := by
  have hscopes : scopesClosed (c.sendMu = some .main) (act :: todo) = true := by
    have hall := h.mainScopes
    rwa [hmain] at hall
  refine collectorInv_of_moves h hmain (moves_of_act hact) (by simp [stopThread, Act.isCall])
    (keepsScopes_act hscopes hact) ?_
  cases huses : act.usesCamera with
  | true => exact Or.inl rfl
  | false =>
    -- an act that is no call of the camera is done without its mutex
    refine Or.inr ⟨rfl, camera_ne_main h (fun block' act' todo' hrun => ?_)⟩
    rw [hmain] at hrun
    cases hrun
    exact huses

/-- A send of the main thread throws. It is not a call of the camera, so this is
as it was. -/
theorem collectorInv_throw {m : Message} (h : CollectorInv c camera)
    (hmain : c.main = .run block (.send m :: todo)) (what : Bytes) :
    CollectorInv (c.throw block what) camera := by
  have hM : Moves (fun a => decide (a = .send m)) block (.send m) todo c.thread
      (c.throw block what).main (c.throw block what).thread :=
    moves_of_throw (decide_eq_true rfl) ⟨Act.noConfusion, Act.noConfusion⟩
  refine collectorInv_of_moves h hmain hM (by simp [stopThread]) (keepsScopes_throw what)
    (Or.inr ⟨rfl, camera_ne_main h (fun block' act' todo' hrun => ?_)⟩)
  rw [hmain] at hrun
  cases hrun
  rfl

/-- **The main thread leaves `recv_message`**, for a command or by a throw. In
the loop it holds nothing, and what it comes to has a join ahead of it. -/
theorem collectorInv_recv {main' : Main} (h : CollectorInv c camera) (hmain : c.main = .recv)
    (hwf : main'.WellFormed) (hahead : main'.joinsAhead = true)
    (hscopes : scopesClosed false main'.todo = true) :
    CollectorInv { c with main := main' } camera := by
  have hfree : decide (c.sendMu = some .main) = false := by
    have hall := h.mainScopes
    rw [hmain] at hall
    exact (Bool.not_eq_true' _).mp hall
  constructor
  case wellFormed =>
    exact hwf
  case home =>
    exact fun _ => hahead
  case alive =>
    intro hterm
    change main' = .terminated at hterm
    rw [hterm] at hahead
    cases hahead
  case mainScopes =>
    show scopesClosed (decide (c.sendMu = some .main)) main'.todo = true
    rw [hfree]
    exact hscopes
  case captureScopes =>
    exact h.captureScopes
  case mainCamera =>
    intro hown
    refine absurd hown (camera_ne_main h (fun block' act' todo' hrun => ?_))
    rw [hmain] at hrun
    cases hrun
  case captureCamera =>
    exact h.captureCamera

/-! ### The capture thread

Its sends are scopes that contain one send each. In between it calls the camera,
with the mutex of the camera for as long as the call lasts, and has no lock
then. -/

/-- **A step of the capture thread keeps the invariant**, if it keeps its part
of it. Who has the lock may change, but not whether the main thread has it. -/
theorem collectorInv_of_capture {camera' : Option Owner} (h : CollectorInv c camera)
    (hmain : c'.main = c.main) (hthread : c.thread ≠ .none)
    (hlock : c'.sendMu = some .main ↔ c.sendMu = some .main)
    (hscopes : scopesClosed (c'.sendMu = some .capture) c'.thread.todo = true)
    (hcamera : camera' = none ∨ camera' = camera ∧ camera ≠ some .capture) :
    CollectorInv c' camera' := by
  constructor
  case wellFormed =>
    rw [hmain]
    exact h.wellFormed
  case home =>
    rw [hmain]
    exact fun _ => h.home hthread
  case alive =>
    rw [hmain]
    exact h.alive
  case mainScopes =>
    rw [hmain, decide_eq_decide.mpr hlock]
    exact h.mainScopes
  case captureScopes =>
    exact hscopes
  case mainCamera =>
    intro hown
    rcases hcamera with hnone | ⟨hsame, -⟩
    · rw [hnone] at hown
      cases hown
    · rw [hmain]
      exact h.mainCamera (hsame.symm.trans hown)
  case captureCamera =>
    intro hown
    rcases hcamera with hnone | ⟨hsame, hne⟩
    · rw [hnone] at hown
      cases hown
    · exact absurd (hsame.symm.trans hown) hne

/-- In the middle of a send, the capture thread does not have the camera: it has
it only at the head of its loop and at the limit, where it has nothing to
send. -/
theorem camera_ne_capture (h : CollectorInv c camera) {acts : List Act}
    (hacts : c.thread.acts = some acts) : camera ≠ some .capture := by
  intro hown
  obtain ⟨frameId, hat⟩ | ⟨frameId, hat⟩ := h.captureCamera hown <;> rw [hat] at hacts <;>
    cases hacts

/-- An act of a send takes the lock, sends, or gives the lock back. -/
theorem collectorInv_captureAct (h : CollectorInv c camera) {acts : List Act}
    (hacts : c.thread.acts = some acts) (hact : c.captureAct acts = some c') :
    CollectorInv c' camera := by
  have hscopes : scopesClosed (c.sendMu = some .capture) acts = true := by
    have hall := h.captureScopes
    rwa [Thread.todo, hacts] at hall
  have hcamera : camera = none ∨ camera = camera ∧ camera ≠ some .capture :=
    Or.inr ⟨rfl, camera_ne_capture h hacts⟩
  obtain ⟨act, rest, rfl, hthread', hmain⟩ := thread_of_captureAct hact
  obtain ⟨htodo, -, hnone⟩ := todo_resume hacts rest
  have htodo' : c'.thread.todo = rest := by rw [hthread', htodo]
  unfold Collector.captureAct at hact
  split at hact
  · next heq =>
    cases heq
    split at hact
    · next hfree =>
      cases hact
      refine collectorInv_of_capture h hmain hnone ?_ ?_ hcamera
      · rw [hfree]
        exact other_iff_of_lock (by decide)
      · rw [htodo']
        exact (Bool.and_eq_true_iff.mp hscopes).2
    · cases hact
  · next heq =>
    cases heq
    cases hact
    refine collectorInv_of_capture h hmain hnone Iff.rfl ?_ hcamera
    rw [htodo']
    exact hscopes
  · next heq =>
    cases heq
    cases hact
    obtain ⟨hheld, hrest⟩ := Bool.and_eq_true_iff.mp hscopes
    refine collectorInv_of_capture h hmain hnone ?_ ?_ hcamera
    · rw [of_decide_eq_true hheld]
      exact (other_iff_of_lock (by decide)).symm
    · rw [htodo']
      exact hrest
  · cases hact

/-- A send of the capture thread throws. It leaves the scope of that send, and
the status that it sends then has a scope of its own. -/
theorem collectorInv_captureThrow (h : CollectorInv c camera) {acts : List Act}
    (hacts : c.thread.acts = some acts) (what : Bytes) :
    CollectorInv (c.captureThrow what) camera := by
  -- the lock is left with its scope
  have hfree : (c.captureThrow what).sendMu ≠ some .capture := by
    show (if c.sendMu = some .capture then none else c.sendMu) ≠ some .capture
    split
    · exact nofun
    · assumption
  have hlock : (c.captureThrow what).sendMu = some .main ↔ c.sendMu = some .main := by
    show (if c.sendMu = some .capture then none else c.sendMu) = some .main ↔ _
    split
    · next hcapture =>
      rw [hcapture]
      exact (other_iff_of_lock (by decide)).symm
    · rfl
  have hnone : c.thread ≠ .none := by
    intro hthread
    rw [hthread] at hacts
    cases hacts
  refine collectorInv_of_capture h rfl hnone hlock ?_ (Or.inr ⟨rfl, camera_ne_capture h hacts⟩)
  rw [decide_eq_false hfree]
  unfold Collector.captureThrow
  cases hthread : c.thread with
  | frame | error | report => rfl
  | none | head | limit | finished =>
    rw [hthread] at hacts
    cases hacts

/-- A turn begins and ends outside of the scopes. It makes the script of the
next send, which begins with its lock. -/
theorem scopes_of_captureTurn {args : SessionArgs} {r : FrameResult}
    (hturn : c.captureTurn args r = some c') :
    c'.main = c.main ∧ c'.sendMu = c.sendMu ∧ c.thread.acts = none ∧ c.thread ≠ .none
      ∧ scopesClosed false c'.thread.todo = true := by
  unfold Collector.captureTurn at hturn
  split at hturn
  · next frameId hthread =>
    rw [hthread]
    split at hturn
    · cases hturn
      exact ⟨rfl, rfl, rfl, nofun, rfl⟩
    · split at hturn
      · cases hturn
        exact ⟨rfl, rfl, rfl, nofun, rfl⟩
      · split at hturn <;> cases hturn <;> exact ⟨rfl, rfl, rfl, nofun, rfl⟩
  · next frameId hthread =>
    rw [hthread]
    cases hturn
    exact ⟨rfl, rfl, rfl, nofun, rfl⟩
  · cases hturn

/-- **A turn of the capture thread keeps the invariant**, with the call of the
camera or without one. -/
theorem collectorInv_captureTurn {c₀ c₁ : Collector} {camera' : Option Owner} {args : SessionArgs}
    {r : FrameResult} (h : CollectorInv c camera) (hturn : c₀.captureTurn args r = some c₁)
    (hmain₀ : c₀.main = c.main) (hthread₀ : c₀.thread = c.thread) (hlock₀ : c₀.sendMu = c.sendMu)
    (hmain : c'.main = c₁.main) (hthread : c'.thread = c₁.thread) (hlock : c'.sendMu = c₁.sendMu)
    (hcamera : camera' = none ∨ camera' = camera ∧ camera ≠ some .capture) :
    CollectorInv c' camera' := by
  obtain ⟨hmain₁, hlock₁, hacts, hnone, hscopes⟩ := scopes_of_captureTurn hturn
  have hsame : c'.sendMu = c.sendMu := hlock.trans (hlock₁.trans hlock₀)
  rw [hthread₀] at hacts hnone
  have hfree : decide (c.sendMu = some .capture) = false := by
    have hall := h.captureScopes
    rw [Thread.todo, hacts] at hall
    exact (Bool.not_eq_true' _).mp hall
  refine collectorInv_of_capture h (hmain.trans (hmain₁.trans hmain₀)) hnone ?_ ?_ hcamera
  · rw [hsame]
  · rw [hsame, hfree, hthread]
    exact hscopes

/-- A new session. -/
theorem collectorInv_start (apiVersion : Bytes) :
    CollectorInv { main := .start apiVersion } none where
  wellFormed := wellFormed_start apiVersion
  home := fun h => absurd rfl h
  alive := nofun
  mainScopes := rfl
  captureScopes := rfl
  mainCamera := nofun
  captureCamera := nofun

end Collector
