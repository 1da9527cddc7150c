import TofNet.DisplayView
import Mathlib.Data.Fintype.Card

/-!
# The barrier of the display

A worker that the GUI has counted *owes* an arrival: it is flagged, or has
taken the frame and not yet arrived. While the GUI is in a synchronise call,
the arrivals made and the arrivals owed add up to the number counted
(`Inv.balance`), so that the barrier opens with the last of them.

The balance is lost where a worker drops the frame on the way. It does so if
its plane has no pixels, and the GUI counts it nevertheless: what is counted
is the plane's kind alone. `barrier_of_run` shows that the barrier works for
frames whose counted planes have pixels, and `not_barrier_no_pixels` shows the
GUI waiting for good.

The rest of the invariant says where the threads are. A worker that owes has
been counted for the frame which the GUI shows now (`WorkerInv.counted`), has
not yet processed it if it has still to (`unseen`), and reads the planes of that
frame and of no earlier one (`current`). A mutex is held by a thread only at
certain places, and from each of these the thread can go on without waiting; so
nobody stands still for a mutex for ever.

What a worker tests are fields that the three share, so that its test may be of
a size which another worker has written. Since every counted plane has pixels,
all sizes that may be there are positive (`Sized`), and it does not matter whose
they are.
-/

variable {s s' : ADIView} {w v : ImageWorker} {garbage : FrameDataDetails}

/-! ## What the barrier is to do

The first two parts are about waiting: if the GUI waits, there is a worker which
has still to make what it waits for, or to notify it. `moves` adds that while
the GUI is in a call some thread can take a step. The others are about the
frames: a worker processes a frame once, and only if it was counted for it; when
the call returns, all who were counted have processed it; nobody reads the
planes any more, and the counter is back at 0 for the next call. -/

namespace DisplayGui

/-- From the publishing of a frame to the return. -/
def synchronizing : DisplayGui → Bool
  | idle | lock _ | publish _ => false
  | _ => true

/-- From the call to the publishing. -/
def entering : DisplayGui → Bool
  | lock _ | publish _ => true
  | _ => false

/-- A call publishes first and waits then. -/
theorem entering_of_synchronizing {p : DisplayGui} (h : p.synchronizing = true) :
    p.entering = false := by
  cases p <;> first | rfl | cases h

end DisplayGui

namespace DisplayPhase

/-- The frame is taken, and its planes may still be read. -/
def reads : DisplayPhase → Bool
  | getData | getDetails | setHeight _ | setWidth _ | testHeight | testWidth | testData | process =>
    true
  | _ => false

/-- The frame is taken, and the arrival at the barrier is to come. -/
def arrives : DisplayPhase → Bool
  | barrier | arrive => true
  | p => p.reads

end DisplayPhase

namespace DisplayWorker

/-- An arrival is to come: of a worker that is flagged, or that has taken the
frame and not yet arrived. -/
def owes (x : DisplayWorker) : Bool := x.frameAvailable || x.phase.arrives

/-- A frame is to be processed: by a worker that is flagged, or that still reads
the planes. Between its loop over the pixels and its arrival a worker owes, and
has processed. -/
def unprocessed (x : DisplayWorker) : Bool := x.frameAvailable || x.phase.reads

end DisplayWorker

/-- A worker that reads the planes will arrive: no way out of its loops leads
past the barrier. -/
theorem DisplayPhase.arrives_of_reads {p : DisplayPhase} (h : p.reads = true) :
    p.arrives = true := by
  cases p <;> first | rfl | cases h

/-- Nor does it read when it need not arrive any more. -/
theorem DisplayPhase.reads_of_arrives {p : DisplayPhase} (h : p.arrives = false) :
    p.reads = false := by
  cases p <;> first | rfl | cases h

/-- A worker arrives behind processing. -/
theorem DisplayWorker.owes_of_unprocessed {x : DisplayWorker} (h : x.unprocessed = true) :
    x.owes = true := by
  rcases Bool.or_eq_true_iff.mp h with ha | hr
  · exact Bool.or_eq_true_iff.mpr (.inl ha)
  · exact Bool.or_eq_true_iff.mpr (.inr (DisplayPhase.arrives_of_reads hr))

namespace ADIView

/-- A worker still has an increment of `m_waitKeyBarrier` to make: it owes one,
and is not asleep. That it owes is not enough, as a flagged worker might never
be woken. -/
def ToMake (s : ADIView) (w : ImageWorker) : Prop :=
  (s.workers w).owes = true ∧ (s.workers w).phase ≠ .blocked

/-- A thread can take its next step. -/
def Moves (garbage : FrameDataDetails) (s : ADIView) : DisplayThread → Prop
  | .gui => s.guiStep.isSome = true
  | .worker w => (displayImage garbage w s).isSome = true

/-- **The barrier works.** `pending`, `released` and `moves` are about the
waiting, the three parts behind them and `arrivedCounted` about whom a frame is
shown for, and `reset` and `unread` about what the next call finds. -/
structure Barrier (garbage : FrameDataDetails) (s : ADIView) : Prop where
  /-- The GUI waits for an increment that is to come, … -/
  pending : s.gui = .blocked → s.waitKeyBarrier ≠ s.numOfThreads → ∃ w, s.ToMake w
  /-- … or for the notification of the last. -/
  released : s.gui = .blocked → s.waitKeyBarrier = s.numOfThreads →
    ∃ w, (s.workers w).phase = .notify
  /-- While the GUI is in a call, some thread can take a step. -/
  moves : s.gui ≠ .idle → ∃ t, s.Moves garbage t
  /-- No frame is processed twice by one worker. -/
  processedOnce : s.processed.Nodup
  /-- A frame is processed only by those counted for it, … -/
  processedCounted : ∀ p ∈ s.processed, p ∈ s.counted
  /-- … and by all of these, when the call returns. -/
  countedProcessed : s.gui = .idle → ∀ p ∈ s.counted, p ∈ s.processed
  /-- Only those arrive who were counted. -/
  arrivedCounted : ∀ p ∈ s.arrived, p ∈ s.counted
  /-- The counter is back at 0 when the call returns. -/
  reset : s.gui = .idle → s.waitKeyBarrier = 0
  /-- Nobody reads the planes then. -/
  unread : s.gui = .idle → ∀ w, (s.workers w).phase.reads = false

end ADIView

/-- The plane of a worker has pixels, by the tests of the worker. It takes the
first entry of its type, and compares the sizes as signed numbers. -/
def DisplayedFrame.HasPixels (f : DisplayedFrame) (w : ImageWorker) : Prop :=
  ∃ d, f.dataDetails.find? (fun d => d.type = w.content) = some d
    ∧ 0 < d.height.toInt32 ∧ 0 < d.width.toInt32

instance (f : DisplayedFrame) (w : ImageWorker) : Decidable (f.HasPixels w) :=
  decidable_of_iff ((f.dataDetails.find? (fun d => d.type = w.content)).any
      (fun d => 0 < d.height.toInt32 ∧ 0 < d.width.toInt32) = true) (by
    rw [Option.any_eq_true]
    exact exists_congr (fun d => and_congr_right (fun _ => decide_eq_true_iff)))

/-- **Every plane that is counted has pixels.** This is about the arguments of
the two synchronise calls, and of the steps of the threads it asks nothing. -/
def DisplayStep.HasPixels : DisplayStep → Prop
  | synchronizeDepthIRVideo display f =>
    ∀ w, ADIView.available display f w = true → f.HasPixels w
  | synchronizePointCloudVideo display f =>
    ∀ w, ADIView.availablePointCloud display f w = true → f.HasPixels w
  | _ => True

namespace ADIView

/-- Every counted plane has pixels. -/
def HasPixels (_ : ADIView) (a : DisplayStep) : Prop := a.HasPixels

instance (s : ADIView) (a : DisplayStep) : Decidable (HasPixels s a) :=
  match a with
  | .synchronizeDepthIRVideo display f =>
    inferInstanceAs (Decidable (∀ w, available display f w = true → f.HasPixels w))
  | .synchronizePointCloudVideo display f =>
    inferInstanceAs (Decidable (∀ w, availablePointCloud display f w = true → f.HasPixels w))
  | .gui | .worker _ | .wake _ => isTrue trivial

/-! ## The invariant

The invariant is one structure for the view, with one for each worker in it. It
has no part that mentions what has happened before the last frame, other than
through the histories; so a call of the GUI begins from a state that is like a
new one. -/

/-- The arrivals to come. -/
def owing (s : ADIView) : ℕ := (Finset.univ.filter (fun w => (s.workers w).owes = true)).card

/-- The workers whose planes are to be shown: before the frame is published
those that the GUI will flag, and from then on those that owe. -/
def due (s : ADIView) (w : ImageWorker) : Bool :=
  match s.gui with
  | .lock available | .publish available => available w
  | _ => (s.workers w).owes

/-- The sizes a worker has read, and those it will test, are positive. What it
has written into the shared fields may have been overwritten by the time of the
test; but every value that comes there is one that some worker has read, and so
it is positive as well. -/
def Sized (s : ADIView) (x : DisplayWorker) : Prop :=
  match x.phase with
  | .getDetails | .testData => x.videoData ≠ none
  | .setHeight d => x.videoData ≠ none ∧ 0 < d.height.toInt32 ∧ 0 < d.width.toInt32
  | .setWidth d => x.videoData ≠ none ∧ 0 < s.frameHeight ∧ 0 < d.width.toInt32
  | .testHeight | .testWidth => x.videoData ≠ none ∧ 0 < s.frameHeight ∧ 0 < s.frameWidth
  | _ => True

/-- A size stays positive, as long as those in the shared fields do. -/
theorem Sized.mono {x : DisplayWorker} (h : s.Sized x)
    (hheight : 0 < s.frameHeight → 0 < s'.frameHeight)
    (hwidth : 0 < s.frameWidth → 0 < s'.frameWidth) : s'.Sized x := by
  cases hp : x.phase with
  | setWidth d =>
    simp only [Sized, hp] at h ⊢
    exact ⟨h.1, hheight h.2.1, h.2.2⟩
  | testHeight | testWidth =>
    simp only [Sized, hp] at h ⊢
    exact ⟨h.1, hheight h.2.1, hwidth h.2.2⟩
  | _ =>
    simp only [Sized, hp] at h ⊢
    try exact h

/-- A worker that has taken no frame has read no size. -/
theorem Sized.of_arrives {x : DisplayWorker} (h : x.phase.arrives = false) : s.Sized x := by
  unfold Sized
  cases hp : x.phase <;> first | trivial | (rw [hp] at h; cases h)

/-- What holds of one worker. -/
structure WorkerInv (s : ADIView) (w : ImageWorker) (x : DisplayWorker) : Prop where
  /-- The worker has not ended. -/
  live : x.phase ≠ .ended
  /-- A worker that has been given a frame does not owe an arrival for
  another. -/
  apart : x.frameAvailable = true → x.phase.arrives = false
  /-- It is about to take a frame only if it was given one. -/
  taken : x.phase = .take → x.frameAvailable = true
  /-- It owes an arrival only in a call. -/
  called : x.owes = true → s.gui.synchronizing = true
  /-- If it sleeps on a frame, the GUI is about to notify it. -/
  awake : x.frameAvailable = true → x.phase = .blocked → s.gui = .unlock ∨ s.gui = .notify
  /-- It was counted for what it owes. -/
  counted : x.owes = true → (w, s.frames) ∈ s.counted
  /-- What it has still to process it has not processed yet. -/
  unseen : x.unprocessed = true → (w, s.frames) ∉ s.processed
  /-- It reads the planes of the frame that the GUI shows. -/
  current : x.phase.arrives = true → x.phase ≠ .getData → x.reading = s.frames
  /-- Its size is positive, whoever has written it. -/
  sized : s.Sized x
  /-- It holds the mutex of the frame at two places only. -/
  frameHeld : s.frameCapturedMutex = some (.worker w) → x.phase = .test ∨ x.phase = .take
  /-- It holds the mutex of the barrier where it arrives. -/
  imshowHeld : s.imshowMutex = some (.worker w) → x.phase = .arrive

/-- **What holds of the view in every state.** -/
structure Inv (s : ADIView) : Prop where
  /-- No worker is to end. -/
  running : s.stopWorkersFlag = false
  /-- Each worker is as it should be. -/
  worker : ∀ w, s.WorkerInv w (s.workers w)
  /-- In a call, arrivals made and arrivals owed are those counted. -/
  balance : s.gui.synchronizing = true → s.waitKeyBarrier + s.owing = s.numOfThreads
  /-- Between calls, the counter is 0. -/
  reset : s.gui.synchronizing = false → s.waitKeyBarrier = 0
  /-- When all have arrived, somebody will notify the GUI. -/
  released : s.gui = .blocked → s.waitKeyBarrier = s.numOfThreads →
    ∃ w, (s.workers w).phase = .notify
  /-- The frame shown has pixels in each plane that is counted. -/
  shown : s.gui ≠ .idle → ∃ f, s.capturedFrame = some f ∧ ∀ w, s.due w = true → f.HasPixels w
  /-- Nobody was counted for a frame to come. -/
  bounded : ∀ p ∈ s.counted, p.2 ≤ s.frames ∧ (s.gui.entering = true → p.2 < s.frames)
  /-- No frame is processed twice by one worker. -/
  once : s.processed.Nodup
  /-- A frame is processed only by those counted for it. -/
  known : ∀ p ∈ s.processed, p ∈ s.counted
  /-- Only those arrive who were counted. -/
  arrivals : ∀ p ∈ s.arrived, p ∈ s.counted
  /-- What was counted for is processed, or about to be. -/
  done : ∀ p ∈ s.counted,
    p ∈ s.processed ∨ p.2 = s.frames ∧ (s.workers p.1).unprocessed = true
  /-- The GUI holds the mutex of the frame at two places only. -/
  frameHeld : s.frameCapturedMutex = some .gui → (∃ a, s.gui = .publish a) ∨ s.gui = .unlock
  /-- It holds the mutex of the barrier where it tests. -/
  imshowHeld : s.imshowMutex = some .gui → s.gui = .test

/-- Nobody owes anything at the start, and the counter is at 0. -/
theorem inv_initial : Inv {} where
  running := rfl
  worker _ := {
    live := DisplayPhase.noConfusion
    apart := Bool.noConfusion
    taken := DisplayPhase.noConfusion
    called := Bool.noConfusion
    awake := Bool.noConfusion
    counted := Bool.noConfusion
    unseen := Bool.noConfusion
    current := Bool.noConfusion
    sized := trivial
    frameHeld := fun h => absurd h.symm (Option.some_ne_none _)
    imshowHeld := fun h => absurd h.symm (Option.some_ne_none _) }
  balance := Bool.noConfusion
  reset _ := rfl
  released := DisplayGui.noConfusion
  shown h := absurd rfl h
  bounded _ h := absurd h List.not_mem_nil
  once := List.nodup_nil
  known _ h := absurd h List.not_mem_nil
  arrivals _ h := absurd h List.not_mem_nil
  done _ h := absurd h List.not_mem_nil
  frameHeld h := absurd h.symm (Option.some_ne_none _)
  imshowHeld h := absurd h.symm (Option.some_ne_none _)

/-! ## One worker changes

A step of a worker changes its own record, a mutex or a shared field, and at one
place the counter. So there is a lemma for a worker that changes its record and
nothing that the others rely on (`Inv.set_worker`), and two cases of it, for a
worker on its way with a frame and for one between two frames. What is left are
the arrival and the notification. -/

@[simp] theorem set_workers_self (s : ADIView) (w : ImageWorker) (x : DisplayWorker) :
    (s.set w x).workers w = x := Function.update_self ..

/-- The other workers keep their records. -/
theorem set_workers_of_ne (s : ADIView) (x : DisplayWorker) (h : v ≠ w) :
    (s.set w x).workers v = s.workers v := Function.update_of_ne h ..

/-! ### Who owes

The balance counts the workers that owe, so a step matters to it by what it does
to one of them. Two kinds of steps are enough: those that leave a worker owing,
or not owing, as it was, and the arrival, with which the number falls by one as
the counter rises by one. -/

/-- The number of arrivals to come depends on who owes one, and on nothing else
of the view. -/
theorem owing_congr (h : ∀ w, (s'.workers w).owes = (s.workers w).owes) : s'.owing = s.owing :=
  congrArg Finset.card (Finset.filter_congr (fun w _ => by rw [h w]))

/-- So does who is due, with the place of the GUI. -/
theorem due_congr {t : ADIView} (hgui : t.gui = s.gui)
    (h : ∀ w, (t.workers w).owes = (s.workers w).owes) : t.due = s.due := by
  funext v
  unfold due
  rw [hgui]
  cases s.gui <;> first | rfl | exact h v

/-- Behind the publishing it is those who owe that are due. -/
theorem due_of_synchronizing (h : s.gui.synchronizing = true) (w : ImageWorker) :
    s.due w = (s.workers w).owes := by
  unfold due
  split
  · next he => rw [he] at h; cases h
  · next he => rw [he] at h; cases h
  · rfl

/-- A worker that owes as before changes nothing in who owes. -/
theorem owes_set {x : DisplayWorker} (h : x.owes = (s.workers w).owes) (v : ImageWorker) :
    ((s.set w x).workers v).owes = (s.workers v).owes := by
  by_cases hv : v = w
  · subst hv
    rw [set_workers_self, h]
  · rw [set_workers_of_ne s x hv]

/-- Nor in how many. -/
theorem owing_set {x : DisplayWorker} (h : x.owes = (s.workers w).owes) :
    (s.set w x).owing = s.owing :=
  owing_congr (owes_set h)

/-- **An arrival is one less to come.** Together with the increment of the
counter this keeps the balance, and it is the only place where the two numbers
change behind the publishing. -/
theorem owing_arrive {x : DisplayWorker} (hw : (s.workers w).owes = true)
    (hx : x.owes = false) : (s.set w x).owing + 1 = s.owing := by
  have hmem : w ∈ Finset.univ.filter (fun v => (s.workers v).owes = true) :=
    Finset.mem_filter.mpr ⟨Finset.mem_univ w, hw⟩
  have herase : Finset.univ.filter (fun v => ((s.set w x).workers v).owes = true)
      = (Finset.univ.filter (fun v => (s.workers v).owes = true)).erase w := by
    ext v
    by_cases hv : v = w
    · subst hv
      simp [hx]
    · simp [set_workers_of_ne s x hv, hv]
  unfold owing
  rw [herase]
  exact Finset.card_erase_add_one hmem

namespace WorkerInv

variable {x : DisplayWorker}

/-- A worker between two frames. It owes what its flag says and nothing more, so
its place is of no account to the others, but for the mutexes. -/
theorem rest (h : s.WorkerInv w x) {p : DisplayPhase} {m i : Option DisplayThread}
    (hlive : p ≠ .ended) (htake : p = .take → x.frameAvailable = true)
    (hblocked : p = .blocked → x.frameAvailable = false) (hx : x.phase.arrives = false)
    (hp : p.arrives = false) (hframe : m = some (.worker w) → p = .test ∨ p = .take)
    (himshow : i ≠ some (.worker w)) :
    WorkerInv { s with frameCapturedMutex := m, imshowMutex := i } w { x with phase := p } where
  live := hlive
  apart := fun _ => hp
  taken := htake
  called := fun ho => h.called (by rw [← ho, DisplayWorker.owes, DisplayWorker.owes, hx, hp])
  awake := fun ha hb => by rw [hblocked hb] at ha; cases ha
  counted := fun ho => h.counted (by rw [← ho, DisplayWorker.owes, DisplayWorker.owes, hx, hp])
  unseen := fun hu => h.unseen (by
    rw [← hu, DisplayWorker.unprocessed, DisplayWorker.unprocessed,
      DisplayPhase.reads_of_arrives hx, DisplayPhase.reads_of_arrives hp])
  current := fun ha _ => by rw [hp] at ha; cases ha
  sized := Sized.of_arrives hp
  frameHeld := hframe
  imshowHeld := fun hi => absurd hi himshow

/-- A worker on its way with a frame. Its flag is not set; it goes on owing,
reads the planes of the frame that is shown, and at each place the sizes it will
use are positive. -/
theorem go (h : s.WorkerInv w x) (ho : x.owes = true) {y : DisplayWorker} {a b : Int32}
    {m i : Option DisplayThread} {q : List (ImageWorker × ℕ)} (hflag : y.frameAvailable = false)
    (hp : y.phase.arrives = true)
    (hunseen : y.phase.reads = true → (w, s.frames) ∉ q)
    (hcurrent : y.phase ≠ .getData → y.reading = s.frames)
    (hsized : Sized { s with frameHeight := a, frameWidth := b } y)
    (hm : m ≠ some (.worker w)) (hi : i = some (.worker w) → y.phase = .arrive) :
    WorkerInv { s with
      frameHeight := a, frameWidth := b, frameCapturedMutex := m, imshowMutex := i
      processed := q } w y where
  live := fun he => by rw [he] at hp; cases hp
  apart := fun ha => by rw [hflag] at ha; cases ha
  taken := fun he => by rw [he] at hp; cases hp
  called := fun _ => h.called ho
  awake := fun ha => by rw [hflag] at ha; cases ha
  counted := fun _ => h.counted ho
  unseen := fun hu => hunseen (by rwa [DisplayWorker.unprocessed, hflag] at hu)
  current := fun _ hne => hcurrent hne
  sized := hsized
  frameHeld := fun hh => absurd hh hm
  imshowHeld := hi

/-- A flag is set for the next frame only. -/
theorem unflagged (h : s.WorkerInv w x) (harrives : x.phase.arrives = true) :
    x.frameAvailable = false :=
  Bool.eq_false_of_not_eq_true (fun ha => by rw [h.apart ha] at harrives; cases harrives)

/-- The mutexes are held by others. -/
theorem frameFree (h : s.WorkerInv w x) (harrives : x.phase.arrives = true) :
    s.frameCapturedMutex ≠ some (.worker w) :=
  fun hm => by rcases h.frameHeld hm with he | he <;> rw [he] at harrives <;> cases harrives

/-- The mutex of the barrier is another thread's, but where the worker
arrives. -/
theorem imshowFree (h : s.WorkerInv w x) (harrive : x.phase ≠ .arrive) :
    s.imshowMutex ≠ some (.worker w) :=
  fun hm => harrive (h.imshowHeld hm)

end WorkerInv

/-- **A worker that neither arrives nor notifies.** Who owes stays as it is, so
the balance does; the sizes in the shared fields stay positive; a mutex is taken
from nobody else; and at most one frame is processed, which was to be processed.
This is all that the rest of the invariant needs to know of the step. -/
theorem Inv.set_worker (hs : s.Inv) {x : DisplayWorker} {a b : Int32}
    {m i : Option DisplayThread} {q : List (ImageWorker × ℕ)}
    (hx : WorkerInv { s with
      frameHeight := a, frameWidth := b, frameCapturedMutex := m, imshowMutex := i
      processed := q } w x)
    (howes : x.owes = (s.workers w).owes)
    (hheight : 0 < s.frameHeight → 0 < a) (hwidth : 0 < s.frameWidth → 0 < b)
    (hm : ∀ t, m = some t → t = .worker w ∨ s.frameCapturedMutex = some t)
    (hi : ∀ t, i = some t → t = .worker w ∨ s.imshowMutex = some t)
    (hpr : q = s.processed ∧ x.unprocessed = (s.workers w).unprocessed
      ∨ q = s.processed ++ [(w, s.frames)] ∧ (s.workers w).unprocessed = true)
    (hnotify : s.gui = .blocked → (s.workers w).phase ≠ .notify) :
    Inv { s.set w x with
      frameHeight := a, frameWidth := b, frameCapturedMutex := m, imshowMutex := i
      processed := q } where
  running := hs.running
  worker v := by
    by_cases hv : v = w
    · subst hv
      show WorkerInv _ v ((s.set v x).workers v)
      rw [set_workers_self]
      exact { hx with }
    · show WorkerInv _ v ((s.set w x).workers v)
      rw [set_workers_of_ne s x hv]
      have h := hs.worker v
      have hne : DisplayThread.worker v ≠ .worker w := fun heq => hv (DisplayThread.worker.inj heq)
      exact {
        live := h.live, apart := h.apart, taken := h.taken, called := h.called, awake := h.awake
        counted := h.counted, current := h.current
        unseen := fun hu hmem => by
          rcases hpr with ⟨rfl, -⟩ | ⟨rfl, -⟩
          · exact h.unseen hu hmem
          · rcases List.mem_append.mp hmem with hmem | hmem
            · exact h.unseen hu hmem
            · exact hv (Prod.mk.inj (List.mem_singleton.mp hmem)).1
        sized := h.sized.mono hheight hwidth
        frameHeld := fun hh => h.frameHeld ((hm _ hh).resolve_left hne)
        imshowHeld := fun hh => h.imshowHeld ((hi _ hh).resolve_left hne) }
  balance hsync := by
    show s.waitKeyBarrier + (s.set w x).owing = s.numOfThreads
    rw [owing_set howes]
    exact hs.balance hsync
  reset := hs.reset
  released hgui heq := by
    obtain ⟨v, hv⟩ := hs.released hgui heq
    refine ⟨v, ?_⟩
    show ((s.set w x).workers v).phase = _
    -- the worker that is to notify the GUI is another one
    have hne : v ≠ w := fun heq => hnotify hgui (by rw [← heq, hv])
    rw [set_workers_of_ne s x hne, hv]
  shown hgui := by
    obtain ⟨f, hf, hpixels⟩ := hs.shown hgui
    refine ⟨f, hf, fun v hv => hpixels v ?_⟩
    have hdue := due_congr (s := s) (t := { s.set w x with processed := q }) rfl (owes_set howes)
    exact (congrFun hdue v).symm.trans hv
  bounded := hs.bounded
  once := by
    rcases hpr with ⟨rfl, -⟩ | ⟨rfl, hu⟩
    · exact hs.once
    · exact List.nodup_append.mpr ⟨hs.once, List.nodup_singleton _, fun p hp q hq => by
        cases List.mem_singleton.mp hq
        exact fun heq => (hs.worker w).unseen hu (heq ▸ hp)⟩
  known p hp := by
    rcases hpr with ⟨rfl, -⟩ | ⟨rfl, hu⟩
    · exact hs.known p hp
    · rcases List.mem_append.mp hp with hp | hp
      · exact hs.known p hp
      · rw [List.mem_singleton.mp hp]
        exact (hs.worker w).counted (DisplayWorker.owes_of_unprocessed hu)
  arrivals := hs.arrivals
  done p hp := by
    -- the worker's own frame is read still, or has been recorded by this step
    rcases hs.done p hp with hold | ⟨hframe, hu⟩
    · rcases hpr with ⟨rfl, -⟩ | ⟨rfl, -⟩
      · exact .inl hold
      · exact .inl (List.mem_append_left _ hold)
    · by_cases hv : p.1 = w
      · subst hv
        rcases hpr with ⟨rfl, hsame⟩ | ⟨rfl, -⟩
        · refine .inr ⟨hframe, ?_⟩
          show ((s.set p.1 x).workers p.1).unprocessed = true
          rw [set_workers_self, hsame, hu]
        · exact .inl (List.mem_append_right _ (List.mem_singleton.mpr (Prod.ext rfl hframe)))
      · refine .inr ⟨hframe, ?_⟩
        show ((s.set w x).workers p.1).unprocessed = true
        rw [set_workers_of_ne s x hv, hu]
  frameHeld hh := hs.frameHeld ((hm _ hh).resolve_left DisplayThread.noConfusion)
  imshowHeld hh := hs.imshowHeld ((hi _ hh).resolve_left DisplayThread.noConfusion)

/-- A worker on its way with a frame, in the view. These are the steps from one
place of its loops to the next, which take no mutex and process nothing. -/
theorem Inv.move_worker (hs : s.Inv) {p : DisplayPhase} {a b : Int32}
    (hx : (s.workers w).phase.arrives = true) (hp : p.arrives = true)
    (hreads : p.reads = (s.workers w).phase.reads) (hdata : (s.workers w).phase ≠ .getData)
    (harrive : (s.workers w).phase ≠ .arrive)
    (hsized : Sized { s with frameHeight := a, frameWidth := b }
      { s.workers w with phase := p })
    (hheight : 0 < s.frameHeight → 0 < a) (hwidth : 0 < s.frameWidth → 0 < b) :
    Inv { s.set w { s.workers w with phase := p } with frameHeight := a, frameWidth := b } := by
  have hw := hs.worker w
  have ho : (s.workers w).owes = true := Bool.or_eq_true_iff.mpr (.inr hx)
  refine hs.set_worker (m := s.frameCapturedMutex) (i := s.imshowMutex) (q := s.processed)
    (hw.go ho (hw.unflagged hx) hp (fun hr => hw.unseen ?_) (fun _ => hw.current hx hdata) hsized
      (hw.frameFree hx) (fun hi => absurd hi (hw.imshowFree harrive)))
    ?_ hheight hwidth (fun _ ht => .inr ht) (fun _ ht => .inr ht) (.inl ⟨rfl, ?_⟩)
    (fun _ he => by rw [he] at hx; cases hx)
  · exact Bool.or_eq_true_iff.mpr (.inr (hreads ▸ hr))
  · rw [ho]
    exact Bool.or_eq_true_iff.mpr (.inr hp)
  · rw [DisplayWorker.unprocessed, DisplayWorker.unprocessed, hreads]

/-- A worker between two frames, in the view: it waits for a flag, or takes the
frame. -/
theorem Inv.rest_worker (hs : s.Inv) {p : DisplayPhase} {m : Option DisplayThread}
    (hlive : p ≠ .ended) (htake : p = .take → (s.workers w).frameAvailable = true)
    (hblocked : p = .blocked → (s.workers w).frameAvailable = false)
    (hx : (s.workers w).phase.arrives = false) (hp : p.arrives = false)
    (hframe : m = some (.worker w) → p = .test ∨ p = .take)
    (hm : ∀ t, m = some t → t = .worker w ∨ s.frameCapturedMutex = some t)
    (hnotify : s.gui = .blocked → (s.workers w).phase ≠ .notify) :
    Inv { s.set w { s.workers w with phase := p } with frameCapturedMutex := m } := by
  have hw := hs.worker w
  have himshow := hw.imshowFree (fun h => by rw [h] at hx; cases hx)
  refine hs.set_worker (i := s.imshowMutex) (a := s.frameHeight) (b := s.frameWidth)
    (hw.rest hlive htake hblocked hx hp hframe himshow) ?_ id id hm (fun _ ht => .inr ht)
    (.inl ⟨rfl, ?_⟩) hnotify
  · rw [DisplayWorker.owes, DisplayWorker.owes, hx, hp]
  · rw [DisplayWorker.unprocessed, DisplayWorker.unprocessed, DisplayPhase.reads_of_arrives hx,
      DisplayPhase.reads_of_arrives hp]

/-- Without a frame there is nothing to be shown; so there is one, and the plane
of a worker that owes has pixels in it. -/
theorem Inv.hasPixels (hs : s.Inv) (howes : (s.workers w).owes = true) :
    ∃ f, s.capturedFrame = some f ∧ f.HasPixels w := by
  have hsync := (hs.worker w).called howes
  obtain ⟨f, hf, hpixels⟩ := hs.shown (fun h => by rw [h] at hsync; cases hsync)
  exact ⟨f, hf, hpixels w ((due_of_synchronizing hsync w).trans howes)⟩

/-! ### The places of a worker

The places are sorted by what happens at them. Up to the arrival a worker takes
a mutex, reads a plane, or tests a size; at the arrival the counter changes; and
behind the last arrival the GUI is notified. -/

/-- **A worker's step keeps the invariant**, up to its arrival: the sizes it
tests are positive, so that it does not pass the barrier by. -/
theorem Inv.displayImage_of_moving (hs : s.Inv) (harrive : (s.workers w).phase ≠ .arrive)
    (hnotify : (s.workers w).phase ≠ .notify) (h : displayImage garbage w s = some s') :
    s'.Inv := by
  have hw := hs.worker w
  have hblocked : s.gui = .blocked → (s.workers w).phase ≠ .notify := fun _ => hnotify
  have hsized := hw.sized
  have himshow := hw.imshowFree harrive
  have howes : (s.workers w).phase.arrives = true → (s.workers w).owes = true :=
    fun h => Bool.or_eq_true_iff.mpr (.inr h)
  unfold displayImage at h
  dsimp only at h
  cases hp : (s.workers w).phase with
  | top =>
    simp only [hp, hs.running, Bool.false_eq_true, if_false, Option.some.injEq] at h
    subst h
    exact hs.rest_worker (m := s.frameCapturedMutex) DisplayPhase.noConfusion
      DisplayPhase.noConfusion DisplayPhase.noConfusion (by rw [hp]; rfl) rfl
      (fun hm => by rcases hw.frameHeld hm with he | he <;> rw [hp] at he <;> cases he)
      (fun _ ht => .inr ht) hblocked
  | lock =>
    simp only [hp] at h
    split at h
    · cases h
      exact hs.rest_worker DisplayPhase.noConfusion DisplayPhase.noConfusion
        DisplayPhase.noConfusion (by rw [hp]; rfl) rfl (fun _ => .inl rfl)
        (fun t ht => .inl (Option.some.inj ht).symm) hblocked
    · cases h
  | test =>
    simp only [hp, hs.running, Bool.or_false] at h
    split at h
    · next ha =>
      cases h
      exact hs.rest_worker (m := s.frameCapturedMutex) DisplayPhase.noConfusion (fun _ => ha)
        DisplayPhase.noConfusion (by rw [hp]; rfl) rfl (fun _ => .inr rfl) (fun _ ht => .inr ht)
        hblocked
    · next ha =>
      cases h
      exact hs.rest_worker DisplayPhase.noConfusion DisplayPhase.noConfusion
        (fun _ => Bool.eq_false_of_not_eq_true ha) (by rw [hp]; rfl) rfl
        (fun hm => absurd hm.symm (Option.some_ne_none _))
        (fun t ht => absurd ht.symm (Option.some_ne_none t)) hblocked
  | take =>
    have ha := hw.taken hp
    have ho : (s.workers w).owes = true := Bool.or_eq_true_iff.mpr (.inl ha)
    have hu : (s.workers w).unprocessed = true := Bool.or_eq_true_iff.mpr (.inl ha)
    obtain ⟨f, hf, -⟩ := hs.hasPixels ho
    simp only [hp, hs.running, hf, Bool.false_eq_true, if_false, reduceCtorEq,
      Option.some.injEq] at h
    subst h
    exact hs.set_worker (a := s.frameHeight) (b := s.frameWidth) (i := s.imshowMutex)
      (q := s.processed)
      (hw.go ho rfl rfl (fun _ => hw.unseen hu) (fun hne => absurd rfl hne) trivial
        (Option.some_ne_none _).symm (fun hi => absurd hi himshow))
      ho.symm id id (fun t ht => absurd ht.symm (Option.some_ne_none t)) (fun _ ht => .inr ht)
      (.inl ⟨rfl, hu.symm⟩) hblocked
  | getData =>
    have hx : (s.workers w).phase.arrives = true := by rw [hp]; rfl
    have hu : (s.workers w).unprocessed = true :=
      Bool.or_eq_true_iff.mpr (.inr (by rw [hp]; rfl))
    -- the frame stays while the worker owes its arrival
    obtain ⟨f, hf, d, hd, -⟩ := hs.hasPixels (howes hx)
    have hcontent : f.hasContent w.content = true :=
      List.any_eq_true.mpr ⟨d, List.mem_of_find?_eq_some hd, (List.find?_some hd :)⟩
    simp only [hp, hf, Option.map_some, hcontent, if_true, Option.some.injEq] at h
    subst h
    refine hs.set_worker (a := s.frameHeight) (b := s.frameWidth) (i := s.imshowMutex)
      (m := s.frameCapturedMutex) (q := s.processed)
      (hw.go (howes hx) (hw.unflagged hx) rfl (fun _ => hw.unseen hu) (fun _ => rfl)
        (Option.some_ne_none f) (hw.frameFree hx) (fun hi => absurd hi himshow))
      ?_ id id (fun _ ht => .inr ht) (fun _ ht => .inr ht) (.inl ⟨rfl, ?_⟩) hblocked
    · rw [howes hx]
      exact Bool.or_true _
    · rw [hu]
      exact Bool.or_true _
  | getDetails =>
    obtain ⟨f, hf, d, hd, hheight, hwidth⟩ := hs.hasPixels (howes (by rw [hp]; rfl))
    have hdetails : f.getDataDetails w.content (localDetails garbage w) = d := by
      rw [DisplayedFrame.getDataDetails, hd]
      rfl
    simp only [hp, hf, Option.map_some, hdetails, Option.some.injEq] at h
    subst h
    simp only [Sized, hp] at hsized
    exact hs.move_worker (a := s.frameHeight) (b := s.frameWidth) (by rw [hp]; rfl) rfl
      (by rw [hp]; rfl) (by rw [hp]; decide) harrive ⟨hsized, hheight, hwidth⟩ id id
  | setHeight d =>
    simp only [hp, Option.some.injEq] at h
    subst h
    simp only [Sized, hp] at hsized
    exact hs.move_worker (b := s.frameWidth) (by rw [hp]; rfl) rfl (by rw [hp]; rfl)
      (by rw [hp]; exact DisplayPhase.noConfusion) harrive hsized (fun _ => hsized.2.1) id
  | setWidth d =>
    simp only [hp, Option.some.injEq] at h
    subst h
    simp only [Sized, hp] at hsized
    exact hs.move_worker (a := s.frameHeight) (by rw [hp]; rfl) rfl (by rw [hp]; rfl)
      (by rw [hp]; exact DisplayPhase.noConfusion) harrive hsized id (fun _ => hsized.2.2)
  | testHeight =>
    simp only [Sized, hp] at hsized
    -- the tests that would return early find positive sizes
    have hpos : ¬ s.frameHeight ≤ 0 := Int32.not_le.mpr hsized.2.1
    simp only [hp, if_neg hpos, Option.some.injEq] at h
    subst h
    exact hs.move_worker (a := s.frameHeight) (b := s.frameWidth) (by rw [hp]; rfl) rfl
      (by rw [hp]; rfl) (by rw [hp]; decide) harrive hsized id id
  | testWidth =>
    simp only [Sized, hp] at hsized
    have hpos : ¬ s.frameWidth ≤ 0 := Int32.not_le.mpr hsized.2.2
    simp only [hp, if_neg hpos, Option.some.injEq] at h
    subst h
    exact hs.move_worker (a := s.frameHeight) (b := s.frameWidth) (by rw [hp]; rfl) rfl
      (by rw [hp]; rfl) (by rw [hp]; decide) harrive hsized.1 id id
  | testData =>
    simp only [Sized, hp] at hsized
    simp only [hp, if_neg hsized, Option.some.injEq] at h
    subst h
    exact hs.move_worker (a := s.frameHeight) (b := s.frameWidth) (by rw [hp]; rfl) rfl
      (by rw [hp]; rfl) (by rw [hp]; decide) harrive trivial id id
  | process =>
    have hx : (s.workers w).phase.arrives = true := by rw [hp]; rfl
    have hu : (s.workers w).unprocessed = true :=
      Bool.or_eq_true_iff.mpr (.inr (by rw [hp]; rfl))
    -- the frame that is recorded is the one the GUI has counted
    have hreading := hw.current hx (by rw [hp]; decide)
    simp only [hp, Option.some.injEq] at h
    subst h
    refine hs.set_worker (a := s.frameHeight) (b := s.frameWidth) (i := s.imshowMutex)
      (m := s.frameCapturedMutex)
      (hw.go (howes hx) (hw.unflagged hx) rfl Bool.noConfusion (fun _ => hreading) trivial
        (hw.frameFree hx) (fun hi => absurd hi himshow))
      ?_ id id (fun _ ht => .inr ht) (fun _ ht => .inr ht)
      (.inr ⟨congrArg (fun k => s.processed ++ [(w, k)]) hreading, hu⟩) hblocked
    rw [howes hx]
    exact Bool.or_true _
  | barrier =>
    have hx : (s.workers w).phase.arrives = true := by rw [hp]; rfl
    simp only [hp] at h
    split at h
    · cases h
      refine hs.set_worker (a := s.frameHeight) (b := s.frameWidth)
        (m := s.frameCapturedMutex) (q := s.processed)
        (hw.go (howes hx) (hw.unflagged hx) rfl Bool.noConfusion
          (fun _ => hw.current hx (by rw [hp]; decide)) trivial (hw.frameFree hx) (fun _ => rfl))
        ?_ id id (fun _ ht => .inr ht) (fun t ht => .inl (Option.some.inj ht).symm)
        (.inl ⟨rfl, ?_⟩) hblocked
      · rw [howes hx]
        exact Bool.or_true _
      · rw [DisplayWorker.unprocessed, DisplayWorker.unprocessed, hp]
        rfl
    · cases h
  | arrive => exact absurd hp harrive
  | notify => exact absurd hp hnotify
  | blocked | ended => simp only [hp, reduceCtorEq] at h

/-- **The arrival**: one less is owed, and one more made. If it is the last that
is owed, the worker goes on to notify the GUI. -/
theorem Inv.displayImage_of_arrive (hs : s.Inv) (hp : (s.workers w).phase = .arrive)
    (h : displayImage garbage w s = some s') : s'.Inv := by
  have hw := hs.worker w
  have hx : (s.workers w).phase.arrives = true := by rw [hp]; rfl
  have ho : (s.workers w).owes = true := Bool.or_eq_true_iff.mpr (.inr hx)
  have ha := hw.unflagged hx
  have hsync := hw.called ho
  have hreading := hw.current hx (by rw [hp]; decide)
  unfold displayImage at h
  simp only [hp, Option.some.injEq] at h
  subst h
  let y : DisplayWorker := { s.workers w with
    phase := if s.waitKeyBarrier + 1 = s.numOfThreads then .notify else .top }
  have hy : y.phase = .notify ∨ y.phase = .top := by
    show (if _ then _ else _) = _ ∨ (if _ then _ else _) = _
    split
    · exact .inl rfl
    · exact .inr rfl
  have hnot : y.owes = false := by
    show (s.workers w).frameAvailable.or y.phase.arrives = false
    rcases hy with he | he <;> rw [ha, he] <;> rfl
  exact {
    running := hs.running
    worker v := by
      by_cases hv : v = w
      · subst hv
        show WorkerInv _ v ((s.set v y).workers v)
        rw [set_workers_self]
        exact {
          live := fun he => by rcases hy with h | h <;> rw [h] at he <;> cases he
          apart := fun hf => absurd (hf.symm.trans ha) Bool.noConfusion
          taken := fun he => by rcases hy with h | h <;> rw [h] at he <;> cases he
          called := fun hf => absurd (hf.symm.trans hnot) Bool.noConfusion
          awake := fun hf => absurd (hf.symm.trans ha) Bool.noConfusion
          counted := fun hf => absurd (hf.symm.trans hnot) Bool.noConfusion
          unseen := fun hu =>
            absurd ((DisplayWorker.owes_of_unprocessed hu).symm.trans hnot) Bool.noConfusion
          current := fun harr => by rcases hy with h | h <;> rw [h] at harr <;> cases harr
          sized := by rcases hy with h | h <;> unfold Sized <;> rw [h] <;> trivial
          frameHeld := fun hh => absurd hh (hw.frameFree hx)
          imshowHeld := fun hh => absurd hh.symm (Option.some_ne_none _) }
      · show WorkerInv _ v ((s.set w y).workers v)
        rw [set_workers_of_ne s y hv]
        exact { hs.worker v with imshowHeld := fun hh => absurd hh.symm (Option.some_ne_none _) }
    balance _ := by
      show s.waitKeyBarrier + 1 + (s.set w y).owing = s.numOfThreads
      -- what the barrier gains is what the workers owe no more
      have := owing_arrive ho hnot
      have := hs.balance hsync
      omega
    reset hsync' := by rw [show s.gui.synchronizing = false from hsync'] at hsync; cases hsync
    released hgui heq := ⟨w, by
      show ((s.set w y).workers w).phase = _
      rw [set_workers_self]
      exact if_pos heq⟩
    shown hgui := by
      obtain ⟨f, hf, hpixels⟩ := hs.shown hgui
      refine ⟨f, hf, fun v hv => hpixels v ?_⟩
      rw [due_of_synchronizing hsync v]
      have howes := (due_of_synchronizing (by exact hsync) v).symm.trans hv
      by_cases hv' : v = w
      · subst hv'
        exact ho
      · exact (congrArg DisplayWorker.owes (set_workers_of_ne s y hv')).symm.trans howes
    bounded := hs.bounded
    once := hs.once
    known := hs.known
    arrivals p hmem := by
      rcases List.mem_append.mp hmem with hmem | hmem
      · exact hs.arrivals p hmem
      · rw [List.mem_singleton.mp hmem, hreading]
        exact hw.counted ho
    done p hmem := by
      rcases hs.done p hmem with hold | ⟨hframe, hu⟩
      · exact .inl hold
      · refine .inr ⟨hframe, ?_⟩
        -- the arriving worker has read its frame
        have hne : p.1 ≠ w := fun he => by
          rw [he, DisplayWorker.unprocessed, ha, hp] at hu
          cases hu
        show ((s.set w y).workers p.1).unprocessed = true
        rw [set_workers_of_ne s y hne, hu]
    frameHeld := hs.frameHeld
    imshowHeld := fun hh => absurd hh.symm (Option.some_ne_none _) }

/-- The GUI wakes up, if it waits, and tests the counter again. -/
theorem Inv.notifyOne (hs : s.Inv) : s.notifyOne.Inv := by
  by_cases hgui : s.gui = .blocked
  · have hnew : s.notifyOne.gui = .barrier := if_pos hgui
    have hsync : s.gui.synchronizing = true := by rw [hgui]; rfl
    exact {
      running := hs.running
      worker v := by
        exact { hs.worker v with
          called := fun _ => by rw [hnew]; rfl
          awake := fun ha hb => by
            rcases (hs.worker v).awake ha hb with h | h <;> rw [hgui] at h <;> cases h
          sized := (hs.worker v).sized }
      balance _ := hs.balance hsync
      reset h := by rw [hnew] at h; cases h
      released h := by rw [hnew] at h; cases h
      shown _ := by
        obtain ⟨f, hf, hpixels⟩ := hs.shown (by rw [hgui]; exact DisplayGui.noConfusion)
        refine ⟨f, hf, fun v hv => hpixels v ?_⟩
        rw [due_of_synchronizing hsync]
        exact (due_of_synchronizing (s := s.notifyOne) (by rw [hnew]; rfl) v).symm.trans hv
      bounded p hp := ⟨(hs.bounded p hp).1, fun h => by rw [hnew] at h; cases h⟩
      once := hs.once
      known := hs.known
      arrivals := hs.arrivals
      done := hs.done
      frameHeld h := by
        rcases hs.frameHeld h with ⟨a, h⟩ | h <;> rw [hgui] at h <;> cases h
      imshowHeld h := by have := hs.imshowHeld h; rw [hgui] at this; cases this }
  · have hsame : s.notifyOne = s := by
      show { s with gui := if s.gui = .blocked then .barrier else s.gui } = s
      rw [if_neg hgui]
    rwa [hsame]

/-- The notification of the last arrival. -/
theorem Inv.displayImage_of_notify (hs : s.Inv) (hp : (s.workers w).phase = .notify)
    (h : displayImage garbage w s = some s') : s'.Inv := by
  unfold displayImage at h
  simp only [hp, Option.some.injEq] at h
  subst h
  refine hs.notifyOne.rest_worker (m := s.frameCapturedMutex) DisplayPhase.noConfusion
    DisplayPhase.noConfusion DisplayPhase.noConfusion ?_ rfl ?_ (fun _ ht => .inr ht) ?_
  · show (s.workers w).phase.arrives = false
    rw [hp]
    rfl
  · intro hm
    rcases (hs.worker w).frameHeld hm with he | he <;> rw [hp] at he <;> cases he
  · intro hgui
    have hne : s.notifyOne.gui ≠ .blocked := by
      show (if _ then _ else _) ≠ _
      split
      · exact DisplayGui.noConfusion
      · next h => exact h
    exact absurd hgui hne

/-- **A worker's step keeps the invariant.** The arrival and the notification
have their own lemmas, and all other places are in
`Inv.displayImage_of_moving`. -/
theorem Inv.displayImage (hs : s.Inv) (h : displayImage garbage w s = some s') : s'.Inv := by
  by_cases harrive : (s.workers w).phase = .arrive
  · exact hs.displayImage_of_arrive harrive h
  · by_cases hnotify : (s.workers w).phase = .notify
    · exact hs.displayImage_of_notify hnotify h
    · exact hs.displayImage_of_moving harrive hnotify h

/-! ## The GUI moves on

The GUI publishes a frame under the mutex of the frames: it sets the flags of
the workers that it counts, and the number of them is what it waits for. From
there to its return it only goes on, or waits, and it returns when as many have
arrived.

Outside a call nobody owes, and so a call begins with nobody who does. At its
end the numbers agree, and by the balance nobody owes again. Between the two the
histories are those of one frame. -/

/-- Nothing is owed outside a synchronise call. So a call begins with workers
that are at rest, or on their way back to their wait. -/
theorem Inv.owes_of_idle (hs : s.Inv) (hsync : s.gui.synchronizing = false) (w : ImageWorker) :
    (s.workers w).owes = false :=
  Bool.eq_false_of_not_eq_true (fun ho => by
    rw [(hs.worker w).called ho] at hsync
    cases hsync)

/-- When as many have arrived as were counted, nothing is owed: by the balance
the number of those who owe is 0. -/
theorem Inv.owes_of_eq (hs : s.Inv) (hsync : s.gui.synchronizing = true)
    (heq : s.waitKeyBarrier = s.numOfThreads) (w : ImageWorker) :
    (s.workers w).owes = false := by
  have hnone : s.owing = 0 := by
    have := hs.balance hsync
    omega
  refine Bool.eq_false_of_not_eq_true (fun ho => ?_)
  have hmem : w ∈ Finset.univ.filter (fun v => (s.workers v).owes = true) :=
    Finset.mem_filter.mpr ⟨Finset.mem_univ w, ho⟩
  rw [Finset.card_eq_zero.mp hnone] at hmem
  exact absurd hmem (Finset.notMem_empty w)

/-- **The GUI returns**, when nothing is owed. All that was counted for has then
been processed, as it is processed or still owed. -/
theorem Inv.return (hs : s.Inv)
    (howes : ∀ w, (s.workers w).owes = false) {k : ℕ} (hk : k = 0) {m i : Option DisplayThread}
    (hm : ∀ t, m = some t → t ≠ .gui ∧ s.frameCapturedMutex = some t)
    (hi : ∀ t, i = some t → t ≠ .gui ∧ s.imshowMutex = some t) :
    Inv { s with
      waitKeyBarrier := k, frameCapturedMutex := m, imshowMutex := i, gui := .idle } where
  running := hs.running
  worker w := { hs.worker w with
    called := fun ho => absurd (ho.symm.trans (howes w)) Bool.noConfusion
    awake := fun ha => absurd ((Bool.or_eq_true_iff.mpr (.inl ha)).symm.trans (howes w))
      Bool.noConfusion
    sized := (hs.worker w).sized.mono id id
    frameHeld := fun h => (hs.worker w).frameHeld (hm _ h).2
    imshowHeld := fun h => (hs.worker w).imshowHeld (hi _ h).2 }
  balance := Bool.noConfusion
  reset _ := hk
  released := DisplayGui.noConfusion
  shown h := absurd rfl h
  bounded p hp := ⟨(hs.bounded p hp).1, Bool.noConfusion⟩
  once := hs.once
  known := hs.known
  arrivals := hs.arrivals
  done := hs.done
  frameHeld h := absurd rfl (hm _ h).1
  imshowHeld h := absurd rfl (hi _ h).1

/-- **The GUI goes on in a synchronise call.** The flags have been set for good,
and the counter is the workers' affair. A worker may sleep on its flag only as
long as the notification is still to come, and the GUI goes to sleep only if the
counter is not there yet. -/
theorem Inv.moveGui (hs : s.Inv) (hsync : s.gui.synchronizing = true) {p : DisplayGui}
    (hp : p.synchronizing = true) {m i : Option DisplayThread}
    (hawake : p = .notify ∨ ∀ w, (s.workers w).frameAvailable = true →
      (s.workers w).phase ≠ .blocked)
    (hblocked : p = .blocked → s.waitKeyBarrier ≠ s.numOfThreads)
    (hm : ∀ t, m = some t → t ≠ .gui ∧ s.frameCapturedMutex = some t)
    (hi : ∀ t, i = some t → (t = .gui → p = .test) ∧ (t ≠ .gui → s.imshowMutex = some t)) :
    Inv { s with frameCapturedMutex := m, imshowMutex := i, gui := p } where
  running := hs.running
  worker w := { hs.worker w with
    called := fun _ => hp
    awake := fun ha hb => hawake.elim .inr (fun h => absurd hb (h w ha))
    sized := (hs.worker w).sized.mono id id
    frameHeld := fun h => (hs.worker w).frameHeld (hm _ h).2
    imshowHeld := fun h => (hs.worker w).imshowHeld ((hi _ h).2 DisplayThread.noConfusion) }
  balance _ := hs.balance hsync
  reset h := by rw [show p.synchronizing = false from h] at hp; cases hp
  released h heq := absurd heq (hblocked h)
  shown _ := by
    obtain ⟨f, hf, hpixels⟩ := hs.shown (fun h => by rw [h] at hsync; cases hsync)
    refine ⟨f, hf, fun v hv => hpixels v ?_⟩
    rw [due_of_synchronizing hsync]
    exact (due_of_synchronizing (s := { s with gui := p }) hp v).symm.trans hv
  bounded q hq := ⟨(hs.bounded q hq).1, fun h =>
    absurd (h.symm.trans (DisplayGui.entering_of_synchronizing hp)) Bool.noConfusion⟩
  once := hs.once
  known := hs.known
  arrivals := hs.arrivals
  done := hs.done
  frameHeld h := absurd rfl (hm _ h).1
  imshowHeld h := (hi _ h).1 rfl

/-- Waking a worker makes it owe no more and no less. -/
theorem owes_wakeWorker (x : DisplayWorker) : (wakeWorker x).owes = x.owes := by
  unfold wakeWorker
  split
  · next h =>
    rw [DisplayWorker.owes, DisplayWorker.owes, h]
    rfl
  · rfl

/-- A woken worker is not asleep. -/
theorem phase_wakeWorker (x : DisplayWorker) : (wakeWorker x).phase ≠ .blocked := by
  unfold wakeWorker
  dsimp only
  split
  · exact DisplayPhase.noConfusion
  · next h => exact h

/-- The workers are woken. From here on no flagged worker is asleep, which is
what `ToMake` asks for. -/
theorem Inv.notifyAll (hs : s.Inv) : s.notifyAll.Inv where
  running := hs.running
  worker w := by
    show WorkerInv _ w (wakeWorker (s.workers w))
    have hw := hs.worker w
    -- only a blocked worker moves, and it owes as much as before
    by_cases hb : (s.workers w).phase = .blocked
    · have hframe : s.frameCapturedMutex ≠ some (.worker w) := fun hm => by
        rcases hw.frameHeld hm with he | he <;> rw [hb] at he <;> cases he
      have hlock : wakeWorker (s.workers w) = { s.workers w with phase := .lock } := by
        rw [wakeWorker, if_pos hb]
      rw [hlock]
      exact { hw.rest (m := s.frameCapturedMutex) (i := s.imshowMutex) DisplayPhase.noConfusion
        DisplayPhase.noConfusion DisplayPhase.noConfusion (by rw [hb]; rfl) rfl
        (fun hm => absurd hm hframe) (hw.imshowFree (by rw [hb]; decide)) with }
    · have hsame : wakeWorker (s.workers w) = s.workers w := by rw [wakeWorker, if_neg hb]
      rw [hsame]
      exact { hw with sized := hw.sized.mono id id }
  balance hsync := by
    rw [owing_congr (s := s) (fun w => owes_wakeWorker (s.workers w))]
    exact hs.balance hsync
  reset := hs.reset
  released hgui heq := by
    obtain ⟨w, hw⟩ := hs.released hgui heq
    refine ⟨w, ?_⟩
    show (wakeWorker (s.workers w)).phase = _
    rw [wakeWorker, if_neg (by rw [hw]; decide), hw]
  shown hgui := by
    obtain ⟨f, hf, hpixels⟩ := hs.shown hgui
    refine ⟨f, hf, fun w hw => hpixels w ?_⟩
    have hdue := due_congr (s := s) (t := s.notifyAll) rfl
      (fun v => owes_wakeWorker (s.workers v))
    rwa [hdue] at hw
  bounded := hs.bounded
  once := hs.once
  known := hs.known
  arrivals := hs.arrivals
  done p hp := by
    rcases hs.done p hp with h | ⟨hframe, hu⟩
    · exact .inl h
    · refine .inr ⟨hframe, ?_⟩
      show (wakeWorker (s.workers p.1)).unprocessed = true
      by_cases hb : (s.workers p.1).phase = .blocked
      · rw [DisplayWorker.unprocessed, hb] at hu
        rw [DisplayWorker.unprocessed, wakeWorker, if_pos hb]
        exact hu
      · rwa [wakeWorker, if_neg hb]
  frameHeld := hs.frameHeld
  imshowHeld := hs.imshowHeld

/-- The code's count is that of the workers flagged. -/
theorem countThreads_eq (a : ImageWorker → Bool) :
    countThreads a = (Finset.univ.filter (fun w => a w = true)).card := by
  rw [Finset.card_filter]
  show _ = ∑ w ∈ {ImageWorker.ir, .depth, .pointCloud}, if a w = true then 1 else 0
  rw [Finset.sum_insert (by decide), Finset.sum_insert (by decide), Finset.sum_singleton,
    ← Nat.add_assoc]
  simp only [countThreads, Bool.toNat, Bool.cond_eq_ite]

/-- **The frame is published**: what is counted is owed. Nobody has owed
anything before (`Inv.owes_of_idle`), so behind this step it is exactly the
flagged workers that owe, and `countThreads` is their number. The number of the
frame is new, which makes all that is about the histories true of it. -/
theorem Inv.publish (hs : s.Inv) {a : ImageWorker → Bool} {f : DisplayedFrame}
    (hgui : s.gui = .publish a) : (s.publish a f).Inv := by
  have hsync : s.gui.synchronizing = false := by rw [hgui]; rfl
  have hentering : s.gui.entering = true := by rw [hgui]; rfl
  have hidle : ∀ w, (s.workers w).phase.arrives = false := fun w =>
    (Bool.or_eq_false_iff.mp (hs.owes_of_idle hsync w)).2
  have howes : ∀ w, ((s.publish a f).workers w).owes = a w := fun w => by
    show (a w || (s.workers w).phase.arrives) = a w
    rw [hidle w, Bool.or_false]
  have hflag : ∀ w, a w = true → (w, s.frames) ∈ (s.publish a f).counted := fun w ha =>
    List.mem_append_right _ (List.mem_map.mpr ⟨w, List.mem_filter.mpr ⟨by cases w <;> decide, ha⟩,
      rfl⟩)
  have hcounted : ∀ p ∈ (s.publish a f).counted,
      p ∈ s.counted ∨ p.2 = s.frames ∧ a p.1 = true := fun p hp => by
    rcases List.mem_append.mp hp with hp | hp
    · exact .inl hp
    · obtain ⟨w, hw, rfl⟩ := List.mem_map.mp hp
      exact .inr ⟨rfl, (List.mem_filter.mp hw).2⟩
  exact {
    running := hs.running
    worker w := by
      have hw := hs.worker w
      show WorkerInv _ w (publishFor (a w) w (s.workers w))
      exact {
        live := hw.live
        apart := fun _ => hidle w
        taken := fun ht => absurd ((Bool.or_eq_true_iff.mpr (.inl (hw.taken ht))).symm.trans
          (hs.owes_of_idle hsync w)) Bool.noConfusion
        called := fun _ => rfl
        awake := fun _ _ => .inl rfl
        counted := fun ho => hflag w ((howes w).symm.trans ho)
        unseen := fun _ hseen =>
          -- no frame of this number has been counted before
          absurd ((hs.bounded _ (hs.known _ hseen)).2 hentering) (lt_irrefl s.frames)
        current := fun harr => absurd (harr.symm.trans (hidle w)) Bool.noConfusion
        sized := Sized.of_arrives (hidle w)
        frameHeld := hw.frameHeld
        imshowHeld := hw.imshowHeld }
    balance _ := by
      show s.waitKeyBarrier + (s.publish a f).owing = countThreads a
      -- the barrier is at zero, so the workers owe as many as are counted
      rw [hs.reset hsync, Nat.zero_add, countThreads_eq]
      exact congrArg Finset.card (Finset.filter_congr (fun w _ => by rw [howes w]))
    reset := Bool.noConfusion
    released := DisplayGui.noConfusion
    shown _ := by
      obtain ⟨f', hf', hpixels⟩ := hs.shown (by rw [hgui]; exact DisplayGui.noConfusion)
      refine ⟨f', hf', fun w hw => hpixels w ?_⟩
      have ha : a w = true := (howes w).symm.trans hw
      unfold due
      rw [hgui]
      exact ha
    bounded p hp := by
      refine ⟨?_, Bool.noConfusion⟩
      rcases hcounted p hp with h | h
      · exact (hs.bounded p h).1
      · exact h.1.le
    once := hs.once
    known p hp := List.mem_append_left _ (hs.known p hp)
    arrivals p hp := List.mem_append_left _ (hs.arrivals p hp)
    done p hp := by
      rcases hcounted p hp with h | ⟨hframe, ha⟩
      · rcases hs.done p h with hold | ⟨hframe, -⟩
        · exact .inl hold
        · exact absurd hframe ((hs.bounded p h).2 hentering).ne
      · refine .inr ⟨hframe, ?_⟩
        show (a p.1 || (s.workers p.1).phase.reads) = true
        rw [ha]
        rfl
    frameHeld _ := .inr rfl
    imshowHeld h := by have := hs.imshowHeld h; rw [hgui] at this; cases this }

/-- The GUI has the lock, and is to publish. -/
theorem Inv.lockGui (hs : s.Inv) {a : ImageWorker → Bool} (hgui : s.gui = .lock a) :
    Inv { s with frameCapturedMutex := some .gui, gui := .publish a } where
  running := hs.running
  worker w := { hs.worker w with
    called := fun ho => by
      have := (hs.worker w).called ho
      rw [hgui] at this
      cases this
    awake := fun ha hb => by
      rcases (hs.worker w).awake ha hb with h | h <;> rw [hgui] at h <;> cases h
    sized := (hs.worker w).sized.mono id id
    frameHeld := fun h => DisplayThread.noConfusion (Option.some.inj h) }
  balance := Bool.noConfusion
  reset _ := hs.reset (by rw [hgui]; rfl)
  released := DisplayGui.noConfusion
  shown _ := by
    obtain ⟨f, hf, hpixels⟩ := hs.shown (by rw [hgui]; exact DisplayGui.noConfusion)
    refine ⟨f, hf, fun w hw => hpixels w ?_⟩
    unfold due
    rw [hgui]
    exact hw
  bounded p hp := by
    have := hs.bounded p hp
    exact ⟨this.1, fun _ => this.2 (by rw [hgui]; rfl)⟩
  once := hs.once
  known := hs.known
  arrivals := hs.arrivals
  done := hs.done
  frameHeld _ := .inl ⟨a, rfl⟩
  imshowHeld h := by have := hs.imshowHeld h; rw [hgui] at this; cases this

/-- **The GUI's step keeps the invariant.** Up to the publishing it only takes
the mutex; behind it the step is a move within the call, or the return. -/
theorem Inv.guiStep (hs : s.Inv) (h : s.guiStep = some s') : s'.Inv := by
  have hframe : ∀ t, (∀ a, s.gui ≠ .publish a) → s.gui ≠ .unlock →
      s.frameCapturedMutex = some t → t ≠ .gui ∧ s.frameCapturedMutex = some t := by
    intro t hpublish hunlock ht
    refine ⟨?_, ht⟩
    rintro rfl
    rcases hs.frameHeld ht with ⟨a, ha⟩ | ha
    · exact hpublish a ha
    · exact hunlock ha
  have himshow : ∀ t, s.gui ≠ .test → s.imshowMutex = some t →
      t ≠ .gui ∧ s.imshowMutex = some t := by
    intro t htest ht
    refine ⟨?_, ht⟩
    rintro rfl
    exact htest (hs.imshowHeld ht)
  have hawake : s.gui ≠ .unlock → s.gui ≠ .notify → ∀ w, (s.workers w).frameAvailable = true →
      (s.workers w).phase ≠ .blocked := fun hunlock hnotify w ha hb =>
    ((hs.worker w).awake ha hb).elim hunlock hnotify
  unfold ADIView.guiStep at h
  cases hgui : s.gui with
  | idle | blocked => simp only [hgui, reduceCtorEq] at h
  | lock a =>
    simp only [hgui] at h
    split at h
    · cases h
      exact hs.lockGui hgui
    · cases h
  | publish a =>
    simp only [hgui] at h
    obtain ⟨f, -, rfl⟩ := Option.map_eq_some_iff.mp h
    exact hs.publish hgui
  | unlock =>
    simp only [hgui, Option.some.injEq] at h
    subst h
    have hsync : s.gui.synchronizing = true := by rw [hgui]; rfl
    have hbalance := hs.balance hsync
    have hi := fun t => himshow t (by rw [hgui]; exact DisplayGui.noConfusion)
    by_cases hnone : s.numOfThreads = 0
    · rw [if_pos hnone]
      -- with nothing to wait for the GUI returns at once
      exact hs.return (hs.owes_of_eq hsync (by omega)) (by omega)
        (fun t ht => absurd ht.symm (Option.some_ne_none t)) hi
    · rw [if_neg hnone]
      exact hs.moveGui (i := s.imshowMutex) hsync rfl (.inl rfl) DisplayGui.noConfusion
        (fun t ht => absurd ht.symm (Option.some_ne_none t))
        (fun t ht => ⟨fun he => absurd he (hi t ht).1, fun _ => ht⟩)
  | notify =>
    simp only [hgui, Option.some.injEq] at h
    subst h
    have hsync : s.gui.synchronizing = true := by rw [hgui]; rfl
    have hi := fun t => himshow t (by rw [hgui]; exact DisplayGui.noConfusion)
    exact hs.notifyAll.moveGui (m := s.frameCapturedMutex) (i := s.imshowMutex) hsync rfl
      (.inr (fun w _ => phase_wakeWorker (s.workers w))) DisplayGui.noConfusion
      (fun t => hframe t (fun a => by rw [hgui]; exact DisplayGui.noConfusion)
        (by rw [hgui]; exact DisplayGui.noConfusion))
      (fun t ht => ⟨fun he => absurd he (hi t ht).1, fun _ => ht⟩)
  | barrier =>
    simp only [hgui] at h
    split at h
    · cases h
      exact hs.moveGui (m := s.frameCapturedMutex) (by rw [hgui]; rfl) rfl
        (.inr (hawake (by rw [hgui]; decide) (by rw [hgui]; decide))) DisplayGui.noConfusion
        (fun t => hframe t (fun a => by rw [hgui]; exact DisplayGui.noConfusion)
          (by rw [hgui]; exact DisplayGui.noConfusion))
        (fun t ht => ⟨fun _ => rfl, fun hne => absurd (Option.some.inj ht).symm hne⟩)
    · cases h
  | test =>
    have hsync : s.gui.synchronizing = true := by rw [hgui]; rfl
    have hm := fun t => hframe t (fun a => by rw [hgui]; exact DisplayGui.noConfusion)
      (by rw [hgui]; exact DisplayGui.noConfusion)
    simp only [hgui] at h
    split at h
    · next heq =>
      cases h
      exact hs.return (m := s.frameCapturedMutex) (hs.owes_of_eq hsync heq) rfl hm
        (fun t ht => absurd ht.symm (Option.some_ne_none t))
    · next hne =>
      cases h
      exact hs.moveGui (m := s.frameCapturedMutex) hsync rfl
        (.inr (hawake (by rw [hgui]; decide) (by rw [hgui]; decide))) (fun _ => hne) hm
        (fun t ht => absurd ht.symm (Option.some_ne_none t))

/-! ## Every run

All threads have a lemma now; what is left are the steps of the environment, a
new call and a thread that wakes up without a reason. Such a thread tests its
condition again, and that is all. -/

/-- A synchronise call begins. It is here that the condition on the frame comes
into the invariant, as its clause `shown`. -/
theorem Inv.begin (hs : s.Inv) (hgui : s.gui = .idle) {display a : ImageWorker → Bool}
    {f : DisplayedFrame} (hpixels : ∀ w, a w = true → f.HasPixels w) :
    Inv { s with
      capturedFrame := some f, display := display, gui := .lock a, frames := s.frames + 1 } where
  running := hs.running
  worker w := by
    have hw := hs.worker w
    have howes := hs.owes_of_idle (by rw [hgui]; rfl) w
    have hnone : (s.workers w).frameAvailable = false ∧ (s.workers w).phase.arrives = false :=
      Bool.or_eq_false_iff.mp howes
    exact { hw with
      called := fun ho => absurd (ho.symm.trans howes) Bool.noConfusion
      awake := fun ha => absurd (ha.symm.trans hnone.1) Bool.noConfusion
      counted := fun ho => absurd (ho.symm.trans howes) Bool.noConfusion
      unseen := fun hu =>
        absurd ((DisplayWorker.owes_of_unprocessed hu).symm.trans howes) Bool.noConfusion
      current := fun harr => absurd (harr.symm.trans hnone.2) Bool.noConfusion
      sized := Sized.of_arrives hnone.2 }
  balance := Bool.noConfusion
  reset _ := hs.reset (by rw [hgui]; rfl)
  released := DisplayGui.noConfusion
  shown _ := ⟨f, rfl, hpixels⟩
  bounded p hp :=
    ⟨(hs.bounded p hp).1.trans (Nat.le_succ _), fun _ => Nat.lt_succ_of_le (hs.bounded p hp).1⟩
  once := hs.once
  known := hs.known
  arrivals := hs.arrivals
  done p hp := by
    rcases hs.done p hp with h | ⟨-, hu⟩
    · exact .inl h
    · have howes := hs.owes_of_idle (by rw [hgui]; rfl) p.1
      exact absurd ((DisplayWorker.owes_of_unprocessed hu).symm.trans howes) Bool.noConfusion
  frameHeld h := by
    rcases hs.frameHeld h with ⟨b, hb⟩ | hb <;> rw [hgui] at hb <;> cases hb
  imshowHeld h := by have := hs.imshowHeld h; rw [hgui] at this; cases this

/-- A thread wakes up without a reason. -/
theorem Inv.wake (hs : s.Inv) {t : DisplayThread} (h : s.wake t = some s') : s'.Inv := by
  cases t with
  | gui =>
    unfold ADIView.wake at h
    dsimp only at h
    split at h
    · next hgui =>
      cases h
      have hone : s.notifyOne = { s with gui := .barrier } := by
        rw [ADIView.notifyOne, if_pos hgui]
      exact hone ▸ hs.notifyOne
    · cases h
  | worker w =>
    unfold ADIView.wake at h
    dsimp only at h
    split at h
    · next hb =>
      cases h
      have hlock : wakeWorker (s.workers w) = { s.workers w with phase := .lock } := by
        rw [wakeWorker, if_pos hb]
      rw [hlock]
      refine hs.rest_worker (m := s.frameCapturedMutex) DisplayPhase.noConfusion
        DisplayPhase.noConfusion DisplayPhase.noConfusion (by rw [hb]; rfl) rfl (fun hm => ?_)
        (fun _ ht => .inr ht) (fun _ hn => by rw [hb] at hn; cases hn)
      rcases (hs.worker w).frameHeld hm with he | he <;> rw [hb] at he <;> cases he
    · cases h

/-- The three workers run one program; only the details of the depth worker
are not initialised. -/
theorem step_worker (garbage : FrameDataDetails) (s : ADIView) (w : ImageWorker) :
    ∃ g, step garbage s (.worker w) = displayImage g w s := by
  cases w with
  | ir => exact ⟨_, rfl⟩
  | depth => exact ⟨_, rfl⟩
  | pointCloud => exact ⟨_, rfl⟩

/-- **A step keeps the invariant**, if the planes it counts have pixels. -/
theorem Inv.step (hs : s.Inv) {a : DisplayStep} (hpixels : s.HasPixels a)
    (h : step garbage s a = some s') : s'.Inv := by
  cases a with
  | synchronizeDepthIRVideo display f =>
    simp only [ADIView.step] at h
    split at h
    · next hgui =>
      cases h
      exact hs.begin hgui hpixels
    · cases h
  | synchronizePointCloudVideo display f =>
    simp only [ADIView.step] at h
    split at h
    · next hgui =>
      cases h
      exact hs.begin hgui hpixels
    · cases h
  | gui => exact hs.guiStep h
  | worker w =>
    obtain ⟨g, hg⟩ := step_worker garbage s w
    exact hs.displayImage (hg ▸ h)
  | wake t => exact hs.wake h

/-! ## Nobody is stuck

From the invariant to the property. If the GUI waits for an increment, the
counter is not at the number counted, so by the balance somebody owes. A worker
that owes is awake, and either it can go on or it waits for a mutex, whose
holder can. -/

/-- Who holds a mutex can go on: from none of the places where one holds the
mutex of the frame it waits for anything. -/
theorem Inv.moves_frameHolder (hs : s.Inv) (garbage : FrameDataDetails) {t : DisplayThread}
    (ht : s.frameCapturedMutex = some t) : s.Moves garbage t := by
  cases t with
  | gui =>
    rcases hs.frameHeld ht with ⟨a, hgui⟩ | hgui
    · obtain ⟨f, hf, -⟩ := hs.shown (by rw [hgui]; exact DisplayGui.noConfusion)
      simp only [Moves, ADIView.guiStep, hgui, hf, Option.map_some, Option.isSome_some]
    · simp only [Moves, ADIView.guiStep, hgui, Option.isSome_some]
  | worker w =>
    rcases (hs.worker w).frameHeld ht with hp | hp
    · simp only [Moves, ADIView.displayImage, hp]
      split <;> rfl
    · simp only [Moves, ADIView.displayImage, hp]
      split <;> rfl

/-- The same for the mutex of the barrier. -/
theorem Inv.moves_imshowHolder (hs : s.Inv) (garbage : FrameDataDetails) {t : DisplayThread}
    (ht : s.imshowMutex = some t) : s.Moves garbage t := by
  cases t with
  | gui =>
    simp only [Moves, ADIView.guiStep, hs.imshowHeld ht]
    split <;> rfl
  | worker w =>
    simp only [Moves, ADIView.displayImage, (hs.worker w).imshowHeld ht, Option.isSome_some]

/-- A worker that owes and is awake can go on, or waits for one that can. There
are two places at which it may wait, one for each mutex. -/
theorem Inv.moves_of_toMake (hs : s.Inv) (garbage : FrameDataDetails) (hw : s.ToMake w) :
    ∃ t, s.Moves garbage t := by
  obtain ⟨f, hf, -⟩ := hs.hasPixels hw.1
  cases hp : (s.workers w).phase with
  | lock =>
    cases hm : s.frameCapturedMutex with
    | none =>
      refine ⟨.worker w, ?_⟩
      simp only [Moves, ADIView.displayImage, hp, hm, if_true, Option.isSome_some]
    | some t => exact ⟨t, hs.moves_frameHolder garbage hm⟩
  | barrier =>
    cases hm : s.imshowMutex with
    | none =>
      refine ⟨.worker w, ?_⟩
      simp only [Moves, ADIView.displayImage, hp, hm, if_true, Option.isSome_some]
    | some t => exact ⟨t, hs.moves_imshowHolder garbage hm⟩
  | blocked => exact absurd hp hw.2
  | ended => exact absurd hp (hs.worker w).live
  | test | take =>
    refine ⟨.worker w, ?_⟩
    simp only [Moves, ADIView.displayImage, hp]
    split <;> rfl
  | getData | getDetails =>
    refine ⟨.worker w, ?_⟩
    simp only [Moves, ADIView.displayImage, hp, hf, Option.map_some, Option.isSome_some]
  | _ =>
    refine ⟨.worker w, ?_⟩
    simp only [Moves, ADIView.displayImage, hp, Option.isSome_some]

/-- **What the GUI waits for is to come.** As the counter is not at the number
counted, the balance leaves somebody who owes; and the GUI is past its
notification, so that this one is awake. -/
theorem Inv.exists_toMake (hs : s.Inv) (hgui : s.gui = .blocked)
    (hne : s.waitKeyBarrier ≠ s.numOfThreads) : ∃ w, s.ToMake w := by
  have hbalance := hs.balance (by rw [hgui]; rfl)
  have hpos : 0 < s.owing := by omega
  obtain ⟨w, hw⟩ := Finset.card_pos.mp hpos
  have ho := (Finset.mem_filter.mp hw).2
  refine ⟨w, ho, fun hb => ?_⟩
  rw [DisplayWorker.owes, hb] at ho
  have ha : (s.workers w).frameAvailable = true := (Bool.or_false _).symm.trans ho
  rcases (hs.worker w).awake ha hb with h | h <;> rw [hgui] at h <;> cases h

/-- **The invariant is the barrier.** The parts about the frames are clauses of
it; those about the waiting come from the lemmas above. -/
theorem Inv.barrier (hs : s.Inv) (garbage : FrameDataDetails) : s.Barrier garbage where
  pending := hs.exists_toMake
  released := hs.released
  moves hidle := by
    cases hgui : s.gui with
    | idle => exact absurd hgui hidle
    | lock a =>
      -- a mutex that is taken is held by a worker, which can go on
      cases hm : s.frameCapturedMutex with
      | none =>
        refine ⟨.gui, ?_⟩
        simp only [Moves, ADIView.guiStep, hgui, hm, if_true, Option.isSome_some]
      | some t => exact ⟨t, hs.moves_frameHolder garbage hm⟩
    | publish a =>
      obtain ⟨f, hf, -⟩ := hs.shown hidle
      refine ⟨.gui, ?_⟩
      simp only [Moves, ADIView.guiStep, hgui, hf, Option.map_some, Option.isSome_some]
    | unlock | notify =>
      refine ⟨.gui, ?_⟩
      simp only [Moves, ADIView.guiStep, hgui, Option.isSome_some]
    | barrier =>
      cases hm : s.imshowMutex with
      | none =>
        refine ⟨.gui, ?_⟩
        simp only [Moves, ADIView.guiStep, hgui, hm, if_true, Option.isSome_some]
      | some t => exact ⟨t, hs.moves_imshowHolder garbage hm⟩
    | test =>
      refine ⟨.gui, ?_⟩
      simp only [Moves, ADIView.guiStep, hgui]
      split <;> rfl
    | blocked =>
      -- all have arrived, and one is to notify; or one has still to arrive
      by_cases heq : s.waitKeyBarrier = s.numOfThreads
      · obtain ⟨w, hw⟩ := hs.released hgui heq
        refine ⟨.worker w, ?_⟩
        simp only [Moves, ADIView.displayImage, hw, Option.isSome_some]
      · obtain ⟨w, hw⟩ := hs.exists_toMake hgui heq
        exact hs.moves_of_toMake garbage hw
  processedOnce := hs.once
  processedCounted := hs.known
  countedProcessed hgui p hp := by
    rcases hs.done p hp with h | ⟨-, hu⟩
    · exact h
    · have howes := hs.owes_of_idle (by rw [hgui]; rfl) p.1
      exact absurd ((DisplayWorker.owes_of_unprocessed hu).symm.trans howes) Bool.noConfusion
  arrivedCounted := hs.arrivals
  reset hgui := hs.reset (by rw [hgui]; rfl)
  unread hgui w := by
    have howes := hs.owes_of_idle (by rw [hgui]; rfl) w
    exact DisplayPhase.reads_of_arrives (Bool.or_eq_false_iff.mp howes).2

/-- **The barrier works in every run of frames whose counted planes have
pixels.**

The GUI counts the planes of a frame that are to be shown, hands the frame to
three workers, and waits until the number of increments is that number. A worker
increments the counter behind its loop over the pixels. So the counts can differ
only where a worker takes a frame and returns early, and it does so for a plane
that has no pixels. Everything else is left to the two mutexes and to wake-ups
that may come without a notification. -/
theorem barrier_of_run {steps : List DisplayStep}
    (hrun : Machine.Run (ADIView.step garbage) HasPixels {} steps s) : s.Barrier garbage :=
  (hrun.invariant (I := Inv) (fun _ _ _ hs hpixels hstep => hs.step hpixels hstep)
    inv_initial).barrier garbage

/-- A frame with an IR plane. -/
def irFrame (width height : UInt32) : DisplayedFrame where
  width := width
  height := height
  dataDetails := [{ type := ascii "ir", width := width, height := height }]

/-- The windows are open. -/
def windows : ImageWorker → Bool := fun _ => true

/-- The IR worker runs first, and the GUI then waits. -/
def irSteps (width height : UInt32) (moves : ℕ) : List DisplayStep :=
  [.synchronizeDepthIRVideo windows (irFrame width height), .gui, .gui, .gui, .gui]
    ++ List.replicate moves (.worker .ir) ++ [.gui, .gui]

/-- A frame of one pixel is shown. -/
theorem barrier_of_run_one_pixel :
    ∃ s, Machine.Run (ADIView.step { type := [], width := 0, height := 0 }) HasPixels {}
        (irSteps 1 1 15) s
      ∧ s.gui = .idle ∧ s.Barrier { type := [], width := 0, height := 0 } := by
  have hexec : (Machine.execOk (ADIView.step { type := [], width := 0, height := 0 }) HasPixels {}
      (irSteps 1 1 15)).map (fun s => s.gui) = some .idle := by decide +kernel
  obtain ⟨s, hs, hgui⟩ := Option.map_eq_some_iff.mp hexec
  exact ⟨s, Machine.run_of_execOk hs, hgui, barrier_of_run (Machine.run_of_execOk hs)⟩

/-- **The GUI waits for good**: the IR worker is counted for a plane without
pixels, and passes the barrier by. -/
theorem not_barrier_no_pixels :
    ¬ ∀ (garbage : FrameDataDetails) (steps : List DisplayStep) (s : ADIView),
      Machine.Run (ADIView.step garbage) Machine.always {} steps s → s.Barrier garbage := by
  intro h
  have hexec : (Machine.exec (ADIView.step { type := [], width := 0, height := 0 }) {}
      (irSteps 0 0 12)).map (fun s => (s.gui, s.waitKeyBarrier, s.numOfThreads,
        [ImageWorker.ir, .depth, .pointCloud].map (fun w => (s.workers w).owes)))
      = some (.blocked, 0, 1, [false, false, false]) := by decide +kernel
  obtain ⟨s, hs, hvalues⟩ := Option.map_eq_some_iff.mp hexec
  obtain ⟨hgui, hbarrier, hthreads, howes⟩ :
      s.gui = .blocked ∧ s.waitKeyBarrier = 0 ∧ s.numOfThreads = 1
        ∧ [ImageWorker.ir, .depth, .pointCloud].map (fun w => (s.workers w).owes)
          = [false, false, false] := by
    simpa only [Prod.mk.injEq] using hvalues
  obtain ⟨w, hw, -⟩ := (h _ _ s (Machine.run_iff_exec.mpr hs)).pending hgui
    (by rw [hbarrier, hthreads]; decide)
  have hnone : ∀ b ∈ [ImageWorker.ir, .depth, .pointCloud].map (fun w => (s.workers w).owes),
      b = false := by
    rw [howes]
    decide
  have := hnone _ (List.mem_map.mpr ⟨w, by cases w <;> decide, rfl⟩)
  rw [hw] at this
  cases this

end ADIView
