import TofNet.Mailbox
import TofNet.Transition

/-!
# The latest frame

`SafeQueue` between the viewer's worker, which calls `enqueue_latest`, and its
GUI thread, which calls `dequeue_for` from `getFrame`, and `erase`. The mutex
is taken and released step by step, and a thread that waits for the condition
variable may be woken by a notification, by the timeout, or for no reason.

A frame is a pointer that may be null. The model numbers the frames in the
order in which the worker hands them over, and keeps the history of the queue
as that of a box for the latest: each event is recorded where it happens with
the mutex held.

What is to be shown is about the order of frames, and the queue is one of at
most one element, which is thrown away when another comes. So the history is
that of a `Mailbox`: what was put in, what was taken out, and what was cleared.
That a frame is taken out at most once and in order is a property of any
mailbox; what is to be shown here is that the queue is one.
-/

/-- A frame with its number. -/
abbrev Arrival (φ : Type) := ℕ × Option φ

/-- The worker, in `enqueue_latest`. -/
inductive WorkerEnqueue (φ : Type)
  | idle
  | locking (x : Arrival φ)
  /-- In the loop that empties the queue. -/
  | popping (x : Arrival φ)
  | unlocking
  | notifying
  deriving DecidableEq, Repr

/-- The GUI thread, in `getFrame` or in `erase`. -/
inductive GuiDequeue (φ : Type)
  | idle
  | locking
  /-- The predicate of `wait_for` is evaluated, after a timeout or not. -/
  | testing (timedOut : Bool)
  | sleeping
  | relocking (timedOut : Bool)
  | unlocking (r : Option (Arrival φ))
  /-- `dequeue_for` has returned. -/
  | returned (r : Option (Arrival φ))
  | eraseLocking
  | erasing
  | eraseUnlocking
  deriving DecidableEq, Repr

inductive QueueUser
  | worker
  | gui
  deriving DecidableEq, Repr

/-- **The queue, its users, and `m_lastFrame`**, which is null at first; an
empty frame that `getFrame` has made is `some none`. The ghosts are the frames
handed over, the history of the queue, and the frames that `getFrame` has
returned. -/
structure LatestFrame (φ : Type) where
  /-- The queue. -/
  queue : List (Arrival φ) := []
  /-- Who holds its mutex. -/
  mutex : Option QueueUser := none
  /-- Where the worker is in `enqueue`. -/
  worker : WorkerEnqueue φ := .idle
  /-- Where the GUI thread is in its call. -/
  gui : GuiDequeue φ := .idle
  /-- `m_lastFrame`. -/
  lastFrame : Option (Option (ℕ × φ)) := none
  /-- The frames that were handed over. -/
  arrivals : List (Option φ) := []
  /-- What was put into the queue and taken from it, the last first. -/
  history : List (Mail (Arrival φ)) := []
  /-- What `getFrame` has returned. -/
  shown : List (Option (ℕ × φ)) := []
  deriving DecidableEq, Repr

/-- Who moves: the worker is handed a frame, or goes on; the GUI thread calls
`getFrame` or `erase`, or goes on, and the last two wake it where it sleeps. -/
inductive LatestStep (φ : Type)
  | arrive (frame : Option φ)
  | worker
  | getFrame
  | erase
  | gui
  | wake
  | timeout

namespace LatestFrame

variable {φ : Type}

/-- `notify_one`: the GUI thread is the only one that ever waits. -/
def notify (s : LatestFrame φ) : LatestFrame φ :=
  match s.gui with
  | .sleeping => { s with gui := .relocking false }
  | _ => s

/-- **`enqueue_latest`.** -/
def workerStep (s : LatestFrame φ) : Option (LatestFrame φ) :=
  match s.worker with
  | .idle => none
  | .locking x =>
    if s.mutex = none then some { s with mutex := some .worker, worker := .popping x } else none
  | .popping x =>
    match s.queue with
    | _ :: rest => some { s with queue := rest }
    | [] => some { s with queue := [x], history := .put x :: s.history, worker := .unlocking }
  | .unlocking => some { s with mutex := none, worker := .notifying }
  | .notifying => some { s.notify with worker := .idle }

/-- The end of `getFrame`, with what `dequeue_for` returned. -/
def showFrame (s : LatestFrame φ) (r : Option (Arrival φ)) : LatestFrame φ :=
  let frame :=
    match r with
    | some (n, some frame) => some (n, frame)
    | _ => s.lastFrame.getD none
  { s with lastFrame := some frame, shown := s.shown ++ [frame], gui := .idle }

/-- **`dequeue_for`, `getFrame` and `erase`.** -/
def guiStep (s : LatestFrame φ) : Option (LatestFrame φ) :=
  match s.gui with
  | .idle | .sleeping => none
  | .locking =>
    if s.mutex = none then some { s with mutex := some .gui, gui := .testing false } else none
  | .testing timedOut =>
    match s.queue with
    | x :: rest =>
      some { s with
        queue := rest
        history := .took (some x) :: s.history
        gui := .unlocking (some x) }
    | [] =>
      if timedOut then some { s with history := .took none :: s.history, gui := .unlocking none }
      else some { s with mutex := none, gui := .sleeping }
  | .relocking timedOut =>
    if s.mutex = none then some { s with mutex := some .gui, gui := .testing timedOut } else none
  | .unlocking r => some { s with mutex := none, gui := .returned r }
  | .returned r => some (s.showFrame r)
  | .eraseLocking =>
    if s.mutex = none then some { s with mutex := some .gui, gui := .erasing } else none
  | .erasing =>
    match s.queue with
    | _ :: rest => some { s with queue := rest }
    | [] => some { s with history := .clear :: s.history, gui := .eraseUnlocking }
  | .eraseUnlocking => some { s with mutex := none, gui := .idle }

/-- **A step.** -/
def step (s : LatestFrame φ) : LatestStep φ → Option (LatestFrame φ)
  | .arrive frame =>
    match s.worker with
    | .idle => some
        { s with
          arrivals := s.arrivals ++ [frame]
          worker := .locking (s.arrivals.length, frame) }
    | _ => none
  | .worker => s.workerStep
  | .getFrame =>
    match s.gui with
    | .idle => some { s with gui := .locking }
    | _ => none
  | .erase =>
    match s.gui with
    | .idle => some { s with gui := .eraseLocking }
    | _ => none
  | .gui => s.guiStep
  | .wake =>
    match s.gui with
    | .sleeping => some { s with gui := .relocking false }
    | _ => none
  | .timeout =>
    match s.gui with
    | .sleeping => some { s with gui := .relocking true }
    | _ => none

/-! ## What is to hold

`InOrder` compares three lists: the frames that arrived, those that were
dequeued, and those that `getFrame` has returned. The last one can have a frame
more than once, since a call that times out returns the last frame again; and it
can begin with the empty frame, which is none that arrived. -/

/-- One frame shown before another has not arrived after it, and the empty
frame comes before all that arrived. -/
def NotLater : Option (ℕ × φ) → Option (ℕ × φ) → Prop
  | none, _ => True
  | some _, none => False
  | some x, some y => x.1 ≤ y.1

/-- **Frames are shown in the order of their arrival.** The frames enqueued are
those that arrived, in order; the frames dequeued are a subsequence of them,
each at most once; the queue holds one frame at most; an enqueued frame that is
neither superseded nor erased is what the next `dequeue_for` returns, and every
call is told what is pending; and what `getFrame` has returned are frames that
were dequeued, in order. -/
structure InOrder (s : LatestFrame φ) : Prop where
  /-- What was enqueued has arrived, … -/
  enqueued : ∀ x ∈ Mail.puts s.history, s.arrivals[x.1]? = some x.2
  /-- … in this order. -/
  arrived : (Mail.puts s.history).Pairwise (·.1 < ·.1)
  /-- What was dequeued is a subsequence of it, … -/
  subsequence : (Mail.takes s.history).Sublist (Mail.puts s.history)
  /-- … without repetition. -/
  once : (Mail.takes s.history).Nodup
  /-- The queue holds at most one frame. -/
  single : s.queue.length ≤ 1
  /-- The frame put last is the one that is taken next. -/
  next : ∀ later r x earlier, s.history = later ++ .took r :: .put x :: earlier → r = some x
  /-- Every call is told what is pending. -/
  told : Mail.Consistent s.history
  /-- What `getFrame` returns was dequeued. -/
  dequeued : ∀ x, some x ∈ s.shown → (x.1, some x.2) ∈ Mail.takes s.history
  /-- It returns no frame behind a later one. -/
  shown : s.shown.Pairwise NotLater

/-! ## The invariant

`enqueue_latest` and `erase` empty the queue under the mutex, one element at a
time, and while they do so the queue is not what the history says (`torn`).
Outside of these the two agree. Which thread has the mutex is read off where the
two are, so that the facts about the mutex are not part of what each step has to
keep. -/

/-- The worker has the mutex. -/
def workerHolds : WorkerEnqueue φ → Bool
  | .popping _ | .unlocking => true
  | _ => false

/-- The GUI thread has the mutex. -/
def guiHolds : GuiDequeue φ → Bool
  | .testing _ | .unlocking _ | .erasing | .eraseUnlocking => true
  | _ => false

/-- The mutex is with who has it. -/
structure Locked (mutex : Option QueueUser) (w : WorkerEnqueue φ) (g : GuiDequeue φ) : Prop where
  worker : workerHolds w = true ↔ mutex = some .worker
  gui : guiHolds g = true ↔ mutex = some .gui

/-- The queue is being emptied. -/
def torn : WorkerEnqueue φ → GuiDequeue φ → Bool
  | .popping _, _ | _, .erasing => true
  | _, _ => false

/-- The frame the worker has in hand. -/
def carries : WorkerEnqueue φ → Option (Arrival φ)
  | .locking x | .popping x => some x
  | _ => none

/-- The frame the GUI thread has taken, and not shown yet. -/
def returns : GuiDequeue φ → Option (Arrival φ)
  | .unlocking r | .returned r => r
  | _ => none

/-- **What holds in every state.** -/
structure Inv (s : LatestFrame φ) : Prop where
  /-- The mutex is with the thread that says so. -/
  locked : Locked s.mutex s.worker s.gui
  /-- Every call is told what is pending. -/
  consistent : Mail.Consistent s.history
  /-- The queue is what is pending, but in the middle of a change. -/
  queue : torn s.worker s.gui = false → s.queue = (Mail.pending s.history).toList
  /-- It holds at most one frame. -/
  single : s.queue.length ≤ 1
  /-- Frames are put in the order of their arrival. -/
  arrived : (Mail.puts s.history).Pairwise (·.1 < ·.1)
  /-- They have arrived. -/
  enqueued : ∀ x ∈ Mail.puts s.history, s.arrivals[x.1]? = some x.2
  /-- A frame that the worker carries is later than all that were put. -/
  carried : ∀ x, carries s.worker = some x →
    s.arrivals[x.1]? = some x.2 ∧ ∀ y ∈ Mail.puts s.history, y.1 < x.1
  /-- A frame that the GUI thread carries is later than all that were
  shown. -/
  taken : ∀ x, returns s.gui = some x →
    x ∈ Mail.takes s.history ∧ ∀ y, some y ∈ s.shown → y.1 < x.1
  /-- `m_lastFrame` is a frame that was taken. -/
  last : ∀ y, s.lastFrame = some (some y) → (y.1, some y.2) ∈ Mail.takes s.history
  /-- So are the frames that were shown. -/
  dequeued : ∀ y, some y ∈ s.shown → (y.1, some y.2) ∈ Mail.takes s.history
  /-- They were shown in order. -/
  shown : s.shown.Pairwise NotLater
  /-- `m_lastFrame` is not earlier than any of them. -/
  lastShown : ∀ y ∈ s.shown, NotLater y (s.lastFrame.getD none)

variable {s s' : LatestFrame φ} {w : WorkerEnqueue φ} {g : GuiDequeue φ}
  {mutex : Option QueueUser} {x : Arrival φ}

theorem inv_initial : Inv ({} : LatestFrame φ) where
  locked := ⟨by simp [workerHolds], by simp [guiHolds]⟩
  consistent := trivial
  queue _ := rfl
  single := Nat.zero_le 1
  arrived := List.Pairwise.nil
  enqueued _ h := absurd h List.not_mem_nil
  carried _ h := absurd h.symm (Option.some_ne_none _)
  taken _ h := absurd h.symm (Option.some_ne_none _)
  last _ h := absurd h.symm (Option.some_ne_none _)
  dequeued _ h := absurd h List.not_mem_nil
  shown := List.Pairwise.nil
  lastShown _ h := absurd h List.not_mem_nil

/-- The threads move, with the mutex perhaps, and touch nothing else. -/
theorem Inv.move (hs : s.Inv) (hlocked : Locked mutex w g)
    (htorn : torn w g = false → torn s.worker s.gui = false)
    (hcarries : ∀ x, carries w = some x → carries s.worker = some x)
    (hreturns : ∀ x, returns g = some x → returns s.gui = some x) :
    Inv { s with mutex, worker := w, gui := g } where
  locked := hlocked
  consistent := hs.consistent
  queue h := hs.queue (htorn h)
  single := hs.single
  arrived := hs.arrived
  enqueued := hs.enqueued
  carried x hx := hs.carried x (hcarries x hx)
  taken x hx := hs.taken x (hreturns x hx)
  last := hs.last
  dequeued := hs.dequeued
  shown := hs.shown
  lastShown := hs.lastShown

/-! ### While one of them has the mutex

The worker has it to empty the queue and to put its frame in, and the GUI's
thread to test the queue, to take the frame out, or to empty it. There is a
lemma for each of these. Where one of the two has the mutex, the other is at a
place without it, so that whether the queue is torn is told from the one. -/

/-- A GUI thread without the mutex does not empty the queue. -/
theorem torn_eq (hg : guiHolds g = false) : torn w g = torn w .idle := by
  cases g with
  | erasing => cases hg
  | _ => cases w <;> rfl

/-- While one thread has the mutex, the other has not. -/
theorem Inv.worker_free (hs : s.Inv) (hg : guiHolds s.gui = true) :
    workerHolds s.worker = false := by
  have hmutex := hs.locked.gui.mp hg
  refine Bool.eq_false_iff.mpr fun hw => ?_
  have hworker := hs.locked.worker.mp hw
  rw [hmutex] at hworker
  cases hworker

theorem Inv.gui_free (hs : s.Inv) (hw : workerHolds s.worker = true) : guiHolds s.gui = false := by
  refine Bool.eq_false_iff.mpr fun hg => ?_
  rw [hs.worker_free hg] at hw
  cases hw

/-- One frame less, while the queue is being emptied. -/
theorem Inv.pop (hs : s.Inv) (htorn : torn s.worker s.gui = true) {rest : List (Arrival φ)}
    (hqueue : s.queue = x :: rest) : Inv { s with queue := rest } where
  locked := hs.locked
  consistent := hs.consistent
  queue h := absurd (htorn.symm.trans h) Bool.noConfusion
  single := by
    have hsingle := hs.single
    rw [hqueue, List.length_cons] at hsingle
    exact Nat.le_of_succ_le hsingle
  arrived := hs.arrived
  enqueued := hs.enqueued
  carried := hs.carried
  taken := hs.taken
  last := hs.last
  dequeued := hs.dequeued
  shown := hs.shown
  lastShown := hs.lastShown

/-- **The worker's frame goes into the empty queue.** -/
theorem Inv.put (hs : s.Inv) (hw : s.worker = .popping x) :
    Inv { s with queue := [x], history := .put x :: s.history, worker := .unlocking } := by
  obtain ⟨harrival, hbefore⟩ := hs.carried x (by rw [hw]; rfl)
  have hlocked := hs.locked
  rw [hw] at hlocked
  refine ⟨⟨hlocked.worker, hlocked.gui⟩, hs.consistent, fun _ => rfl, Nat.le_refl 1, ?_, ?_,
    fun y hy => absurd hy.symm (Option.some_ne_none _), hs.taken, hs.last, hs.dequeued, hs.shown,
    hs.lastShown⟩
  · show (Mail.puts s.history ++ [x]).Pairwise (·.1 < ·.1)
    rw [List.pairwise_append]
    refine ⟨hs.arrived, List.pairwise_singleton _ _, fun y hy z hz => ?_⟩
    rw [List.mem_singleton.mp hz]
    exact hbefore y hy
  · intro y hy
    rcases List.mem_append.mp hy with hold | hnew
    · exact hs.enqueued y hold
    · rw [List.mem_singleton.mp hnew]
      exact harrival

/-- **The queue has been erased.** -/
theorem Inv.clear (hs : s.Inv) (hg : s.gui = .erasing) (hqueue : s.queue = []) :
    Inv { s with history := .clear :: s.history, gui := .eraseUnlocking } where
  locked := by
    have hlocked := hs.locked
    rw [hg] at hlocked
    exact ⟨hlocked.worker, hlocked.gui⟩
  consistent := hs.consistent
  queue _ := hqueue
  single := hs.single
  arrived := hs.arrived
  enqueued := hs.enqueued
  carried := hs.carried
  taken _ h := absurd h.symm (Option.some_ne_none _)
  last := hs.last
  dequeued := hs.dequeued
  shown := hs.shown
  lastShown := hs.lastShown

/-- With the predicate being evaluated the queue is what is pending. -/
theorem Inv.queue_of_testing (hs : s.Inv) {timedOut : Bool} (hg : s.gui = .testing timedOut) :
    s.queue = (Mail.pending s.history).toList := by
  refine hs.queue ?_
  have hfree := hs.worker_free (by rw [hg]; rfl)
  rw [hg]
  cases hw : s.worker with
  | popping x =>
    rw [hw] at hfree
    cases hfree
  | _ => rfl

/-- **What is pending is taken**, and it is newer than all that was shown. -/
theorem Inv.take (hs : s.Inv) {timedOut : Bool} (hg : s.gui = .testing timedOut)
    {rest : List (Arrival φ)} (hqueue : s.queue = x :: rest) :
    Inv { s with
      queue := rest
      history := .took (some x) :: s.history
      gui := .unlocking (some x) } := by
  have hpending := hs.queue_of_testing hg
  rw [hqueue] at hpending
  have hx : Mail.pending s.history = some x ∧ rest = [] := by
    cases h : Mail.pending s.history with
    | none =>
      rw [h] at hpending
      cases hpending
    | some y =>
      rw [h] at hpending
      cases hpending
      exact ⟨rfl, rfl⟩
  obtain ⟨hx, rfl⟩ := hx
  have hlocked := hs.locked
  rw [hg] at hlocked
  refine ⟨⟨hlocked.worker, hlocked.gui⟩, ⟨hx.symm, hs.consistent⟩, fun _ => rfl, Nat.zero_le 1,
    hs.arrived, hs.enqueued, hs.carried, ?_, ?_, ?_, hs.shown, hs.lastShown⟩
  · intro y hy
    cases hy
    refine ⟨List.mem_append_right _ List.mem_cons_self, fun z hz => ?_⟩
    exact hs.consistent.before_pending hs.arrived hx _ (hs.dequeued z hz)
  · exact fun y hy => List.mem_append_left _ (hs.last y hy)
  · exact fun y hy => List.mem_append_left _ (hs.dequeued y hy)

/-- Nothing is pending, and the call has timed out. -/
theorem Inv.miss (hs : s.Inv) {timedOut : Bool} (hg : s.gui = .testing timedOut)
    (hqueue : s.queue = []) :
    Inv { s with history := .took none :: s.history, gui := .unlocking none } := by
  have hnone : Mail.pending s.history = none := by
    rw [← Option.toList_eq_nil_iff, ← hs.queue_of_testing hg, hqueue]
  have hlocked := hs.locked
  rw [hg] at hlocked
  exact ⟨⟨hlocked.worker, hlocked.gui⟩, ⟨hnone.symm, hs.consistent⟩, fun _ => hqueue, hs.single,
    hs.arrived, hs.enqueued, hs.carried, fun y hy => absurd hy.symm (Option.some_ne_none _),
    hs.last, hs.dequeued, hs.shown, hs.lastShown⟩

/-! ### What a call returns

The frames that `getFrame` has returned are compared with those that were taken
out. A call that has taken a frame adds it to both; one that timed out adds the
last frame once more. In either case no earlier frame comes behind a later one.
-/

theorem NotLater.refl (y : Option (ℕ × φ)) : NotLater y y := by
  cases y with
  | none => trivial
  | some y => exact Nat.le_refl y.1

/-- A frame is shown that nothing shown before is later than. -/
theorem Inv.append_shown (hs : s.Inv) (hg : guiHolds s.gui = false) {frame : Option (ℕ × φ)}
    (htaken : ∀ y, frame = some y → (y.1, some y.2) ∈ Mail.takes s.history)
    (hlater : ∀ y ∈ s.shown, NotLater y frame) :
    Inv { s with lastFrame := some frame, shown := s.shown ++ [frame], gui := .idle } where
  locked := by
    refine ⟨hs.locked.worker, ⟨fun h => Bool.noConfusion h, fun h => ?_⟩⟩
    rw [hs.locked.gui.mpr h] at hg
    cases hg
  consistent := hs.consistent
  queue h := by
    refine hs.queue ?_
    rw [torn_eq hg]
    exact h
  single := hs.single
  arrived := hs.arrived
  enqueued := hs.enqueued
  carried := hs.carried
  taken _ h := absurd h.symm (Option.some_ne_none _)
  last y hy := htaken y (Option.some.inj hy)
  dequeued y hy := by
    rcases List.mem_append.mp hy with hold | hnew
    · exact hs.dequeued y hold
    · exact htaken y (List.mem_singleton.mp hnew).symm
  shown := by
    rw [List.pairwise_append]
    refine ⟨hs.shown, List.pairwise_singleton _ _, fun y hy z hz => ?_⟩
    rw [List.mem_singleton.mp hz]
    exact hlater y hy
  lastShown y hy := by
    rcases List.mem_append.mp hy with hold | hnew
    · exact hlater y hold
    · rw [List.mem_singleton.mp hnew]
      exact NotLater.refl frame

/-- **`getFrame` returns**: the frame that was dequeued, or the last one
again. -/
theorem Inv.showFrame (hs : s.Inv) {r : Option (Arrival φ)} (hg : s.gui = .returned r) :
    (s.showFrame r).Inv := by
  have hfree : guiHolds s.gui = false := by rw [hg]; rfl
  have hagain : Inv { s with
      lastFrame := some (s.lastFrame.getD none)
      shown := s.shown ++ [s.lastFrame.getD none]
      gui := .idle } := by
    refine hs.append_shown hfree (fun y hy => hs.last y ?_) hs.lastShown
    cases hlast : s.lastFrame with
    | none =>
      rw [hlast] at hy
      cases hy
    | some frame =>
      rw [hlast] at hy
      exact congrArg some hy
  match r with
  | none => exact hagain
  | some (n, none) => exact hagain
  | some (n, some frame) =>
    obtain ⟨hmem, hnewer⟩ := hs.taken (n, some frame) (by rw [hg]; rfl)
    refine hs.append_shown hfree ?_ ?_
    · intro y hy
      cases hy
      exact hmem
    · intro y hy
      cases y with
      | none => trivial
      | some y => exact Nat.le_of_lt (hnewer y hy)

/-! ## Steps and runs

A thread that goes on with the mutex where it was keeps the invariant if what it
does to the queue is one of four things: nothing, a frame less, the frame put
in, or the frame taken out. The steps are sorted into these. -/

/-- The three places the mutex may be. -/
theorem Locked.of_free (hw : workerHolds w = false) (hg : guiHolds g = false) :
    Locked none w g := ⟨by simp [hw], by simp [hg]⟩

theorem Locked.of_worker (hw : workerHolds w = true) (hg : guiHolds g = false) :
    Locked (some .worker) w g := ⟨by simp [hw], by simp [hg]⟩

theorem Locked.of_gui (hw : workerHolds w = false) (hg : guiHolds g = true) :
    Locked (some .gui) w g := ⟨by simp [hw], by simp [hg]⟩

theorem Inv.free (hs : s.Inv) (h : s.mutex = none) :
    workerHolds s.worker = false ∧ guiHolds s.gui = false := by
  have hlocked := hs.locked
  rw [h] at hlocked
  exact ⟨by simpa using hlocked.worker, by simpa using hlocked.gui⟩

/-- A thread goes on, with the mutex where it was. -/
theorem Locked.go (h : Locked mutex w g) {w' : WorkerEnqueue φ} {g' : GuiDequeue φ}
    (hw : workerHolds w' = workerHolds w) (hg : guiHolds g' = guiHolds g) : Locked mutex w' g' :=
  ⟨by rw [hw]; exact h.worker, by rw [hg]; exact h.gui⟩

/-- The queue is whole unless one of them is emptying it. -/
theorem torn_eq_false (hw : workerHolds w = false ∨ w = .unlocking) (hg : g ≠ .erasing) :
    torn w g = false := by
  cases w with
  | popping x => simp [workerHolds] at hw
  | _ => cases g <;> first | rfl | exact absurd rfl hg

theorem Inv.workerStep (hs : s.Inv) (h : s.workerStep = some s') : s'.Inv := by
  unfold LatestFrame.workerStep at h
  split at h
  · cases h
  · next x hw =>
    split at h
    · next hmutex =>
      cases h
      exact hs.move (.of_worker rfl (hs.free hmutex).2) (fun h => Bool.noConfusion h)
        (fun y hy => by rw [hw]; exact hy) (fun y hy => hy)
    · cases h
  · next x hw =>
    split at h
    · next hqueue =>
      cases h
      exact hs.pop (by rw [hw]; rfl) hqueue
    · cases h
      exact hs.put hw
  · next hw =>
    cases h
    have hfree := hs.gui_free (by rw [hw]; rfl)
    have hwhole : s.gui ≠ .erasing := fun hg => by
      rw [hg] at hfree
      cases hfree
    exact hs.move (.of_free rfl hfree) (fun _ => torn_eq_false (.inr hw) hwhole)
      (fun y hy => absurd hy.symm (Option.some_ne_none _)) (fun y hy => hy)
  · next hw =>
    cases h
    unfold notify
    split
    · next hg =>
      exact hs.move (hs.locked.go (by rw [hw]; rfl) (by rw [hg]; rfl))
        (fun _ => by rw [hw, hg]; rfl)
        (fun y hy => absurd hy.symm (Option.some_ne_none _))
        (fun y hy => absurd hy.symm (Option.some_ne_none _))
    · refine hs.move (hs.locked.go (by rw [hw]; rfl) rfl) (fun h => ?_)
        (fun y hy => absurd hy.symm (Option.some_ne_none _)) (fun y hy => hy)
      have hidle : torn .notifying s.gui = torn .idle s.gui := by cases s.gui <;> rfl
      rw [hw, hidle]
      exact h

theorem Inv.guiStep (hs : s.Inv) (h : s.guiStep = some s') : s'.Inv := by
  unfold LatestFrame.guiStep at h
  split at h
  · cases h
  · cases h
  · next hg =>
    split at h
    · next hmutex =>
      cases h
      have hfree := (hs.free hmutex).1
      exact hs.move (.of_gui hfree rfl) (fun _ => torn_eq_false (.inl hfree) (by rw [hg]; simp))
        (fun y hy => hy) (fun y hy => absurd hy.symm (Option.some_ne_none _))
    · cases h
  · next timedOut hg =>
    have hfree := hs.worker_free (by rw [hg]; rfl)
    split at h
    · next hqueue =>
      cases h
      -- a frame has come, before the time is out
      exact hs.take hg hqueue
    · next hqueue =>
      split at h
      · cases h
        exact hs.miss hg hqueue
      · cases h
        exact hs.move (.of_free hfree rfl)
          (fun _ => torn_eq_false (.inl hfree) (by rw [hg]; simp))
          (fun y hy => hy) (fun y hy => absurd hy.symm (Option.some_ne_none _))
  · next timedOut hg =>
    split at h
    · next hmutex =>
      cases h
      have hfree := (hs.free hmutex).1
      exact hs.move (.of_gui hfree rfl) (fun _ => torn_eq_false (.inl hfree) (by rw [hg]; simp))
        (fun y hy => hy) (fun y hy => absurd hy.symm (Option.some_ne_none _))
    · cases h
  · next r hg =>
    cases h
    have hfree := hs.worker_free (by rw [hg]; rfl)
    exact hs.move (.of_free hfree rfl)
      (fun _ => torn_eq_false (.inl hfree) (by rw [hg]; simp))
      (fun y hy => hy) (fun y hy => by rw [hg]; exact hy)
  · next r hg =>
    cases h
    exact hs.showFrame hg
  · next hg =>
    split at h
    · next hmutex =>
      cases h
      have hfree := (hs.free hmutex).1
      exact hs.move (.of_gui hfree rfl) (fun _ => torn_eq_false (.inl hfree) (by rw [hg]; simp))
        (fun y hy => hy) (fun y hy => absurd hy.symm (Option.some_ne_none _))
    · cases h
  · next hg =>
    split at h
    · next hqueue =>
      cases h
      -- `flushQueue` takes one frame at a time
      refine hs.pop ?_ hqueue
      rw [hg]
      cases s.worker <;> rfl
    · next hqueue =>
      cases h
      exact hs.clear hg hqueue
  · next hg =>
    cases h
    have hfree := hs.worker_free (by rw [hg]; rfl)
    exact hs.move (.of_free hfree rfl)
      (fun _ => torn_eq_false (.inl hfree) (by rw [hg]; simp))
      (fun y hy => hy) (fun y hy => absurd hy.symm (Option.some_ne_none _))

/-- The worker is handed a frame, newer than all before. -/
theorem Inv.arrive (hs : s.Inv) (hw : s.worker = .idle) (frame : Option φ) :
    Inv { s with
      arrivals := s.arrivals ++ [frame]
      worker := .locking (s.arrivals.length, frame) } where
  locked := hs.locked.go (by rw [hw]; rfl) rfl
  consistent := hs.consistent
  queue h := by
    refine hs.queue ?_
    have hidle : torn (.locking (s.arrivals.length, frame)) s.gui = torn .idle s.gui := by
      cases s.gui <;> rfl
    rw [hw, ← hidle]
    exact h
  single := hs.single
  arrived := hs.arrived
  enqueued x hx := by
    have hold := hs.enqueued x hx
    obtain ⟨hlt, -⟩ := List.getElem?_eq_some_iff.mp hold
    show (s.arrivals ++ [frame])[x.1]? = some x.2
    rw [List.getElem?_append_left hlt]
    exact hold
  carried x hx := by
    cases hx
    refine ⟨?_, fun y hy => ?_⟩
    · show (s.arrivals ++ [frame])[s.arrivals.length]? = some frame
      rw [List.getElem?_append_right (Nat.le_refl _), Nat.sub_self]
      rfl
    · exact (List.getElem?_eq_some_iff.mp (hs.enqueued y hy)).1
  taken := hs.taken
  last := hs.last
  dequeued := hs.dequeued
  shown := hs.shown
  lastShown := hs.lastShown

/-- The GUI thread goes from one place without the mutex to another. -/
theorem Inv.guiGo (hs : s.Inv) (hg : guiHolds s.gui = false) (hg' : guiHolds g = false)
    (hr : returns g = none) : Inv { s with gui := g } := by
  refine hs.move (hs.locked.go rfl (hg'.trans hg.symm)) (fun h => ?_) (fun y hy => hy)
    (fun y hy => by rw [hr] at hy; cases hy)
  rw [torn_eq hg, ← torn_eq hg']
  exact h

theorem Inv.step {a : LatestStep φ} (hs : s.Inv) (h : s.step a = some s') : s'.Inv := by
  cases a with
  | arrive frame =>
    simp only [LatestFrame.step] at h
    split at h
    · next hw =>
      cases h
      exact hs.arrive hw frame
    · cases h
  | worker => exact hs.workerStep h
  | getFrame =>
    simp only [LatestFrame.step] at h
    split at h
    · next hg =>
      cases h
      exact hs.guiGo (by rw [hg]; rfl) rfl rfl
    · cases h
  | erase =>
    simp only [LatestFrame.step] at h
    split at h
    · next hg =>
      cases h
      exact hs.guiGo (by rw [hg]; rfl) rfl rfl
    · cases h
  | gui => exact hs.guiStep h
  | wake =>
    simp only [LatestFrame.step] at h
    split at h
    · next hg =>
      cases h
      exact hs.guiGo (by rw [hg]; rfl) rfl rfl
    · cases h
  | timeout =>
    simp only [LatestFrame.step] at h
    split at h
    · next hg =>
      cases h
      exact hs.guiGo (by rw [hg]; rfl) rfl rfl
    · cases h

theorem Inv.inOrder (hs : s.Inv) : s.InOrder where
  enqueued := hs.enqueued
  arrived := hs.arrived
  subsequence := hs.consistent.sublist
  once := by
    refine (hs.arrived.sublist hs.consistent.sublist).imp fun hlt heq => ?_
    rw [heq] at hlt
    exact Nat.lt_irrefl _ hlt
  single := hs.single
  next later r x earlier h := by
    have hconsistent := hs.consistent
    rw [h] at hconsistent
    exact hconsistent.took_put
  told := hs.consistent
  dequeued := hs.dequeued
  shown := hs.shown

/-- **The viewer shows frames in the order of their arrival**, however the
worker and the GUI thread interleave.

There is no condition: the mutex, the wait with its time-out, its wake-ups and
the notification are steps of their own, and so are the calls that erase a
frame. A history variable records what was put and taken, and the properties are
those of a mailbox which holds one letter. -/
theorem inOrder_of_run {steps : List (LatestStep φ)}
    (h : Machine.Run step Machine.always {} steps s) : s.InOrder :=
  (Machine.Run.invariant (fun _ _ _ hs _ hst => Inv.step hs hst) h inv_initial).inOrder

/-- The second frame supersedes the first while the GUI thread sleeps. -/
theorem inOrder_of_run_two_frames :
    ∃ s : LatestFrame ℕ, Machine.Run step Machine.always {}
        [.getFrame, .gui, .gui, .arrive (some 7), .worker, .worker, .worker, .worker,
          .arrive (some 8), .worker, .worker, .worker, .worker, .worker, .gui, .gui, .gui, .gui] s ∧
      s.shown = [some (1, 8)] ∧ s.InOrder :=
  have h : Machine.exec step ({} : LatestFrame ℕ)
      [.getFrame, .gui, .gui, .arrive (some 7), .worker, .worker, .worker, .worker,
        .arrive (some 8), .worker, .worker, .worker, .worker, .worker, .gui, .gui, .gui, .gui]
      = some
        { lastFrame := some (some (1, 8))
          arrivals := [some 7, some 8]
          history := [.took (some (1, some 8)), .put (1, some 8), .put (0, some 7)]
          shown := [some (1, 8)] } := by decide
  have hrun := Machine.run_iff_exec.mpr h
  ⟨_, hrun, rfl, inOrder_of_run hrun⟩

end LatestFrame
