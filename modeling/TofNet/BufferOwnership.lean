import TofNet.Camera
import TofNet.Transition

/-!
# Who owns a streaming buffer

`get_frame_direct_v4l_locked` one answer of the driver at a time: `select`,
`DQBUF`, the copy out of the mapped buffer, `QBUF`, and the `QBUF` of its
exception handler. `Camera.getFrameDirect` is the same call at once
(`leads_getFrameDirect`); in between one sees who owns each buffer.

A buffer that is given to the driver and taken back has one owner at every
moment, and the call gives back what it took. The exception is a `DQBUF` that
fails with `EAGAIN` or `EIO`: `dequeueInternalBufferPrivate` logs the error
and reports success, with the record as it was cleared. The call goes on with
buffer 0, which it never had, and its handler queues it
(`queues_of_softError`).

The history of who has a buffer is kept in ghost fields, beside the queues of
the driver, and the invariant says that the two agree: the driver's buffers and
those that the program has taken and not given back are all buffers, each once.
A call may end with a buffer that it could not give back, because `QBUF` was
refused; such a buffer stays the program's for ever, and `lost` has it.
-/

/-- Where a call stands; between calls, the data of the frame that the last
one returned, or `none` where it threw. -/
inductive CapturePhase
  | idle (frame : Option Bytes)
  | waiting
  | dequeuing
  | got (index : ℕ) (data : Bytes)
  | queueing (index : ℕ) (data : Bytes)
  /-- In the handler. -/
  | requeueing (index : ℕ)
  deriving DecidableEq, Repr

/-- **What happens next.** -/
inductive CaptureAnswer
  | call
  | waited (ok : Bool)
  | dequeued (index : ℕ) (data : Bytes)
  /-- A `DQBUF` that fails, with `EAGAIN` or `EIO` if `soft`. -/
  | dequeueFailed (soft : Bool)
  /-- Whether the buffer's address is null, and whether there is memory for
  the copy. -/
  | copied (null allocated : Bool)
  | queued
  | queueFailed
  deriving DecidableEq, Repr

/-- **A device that streams**, and the program that fetches its frames. The
last four fields are the ghost state: the buffers that the program has taken
and not given back, the one that the current call has taken and not given
back, all that `DQBUF` has ever returned, and those that a call has kept
because its last `QBUF` failed. -/
structure DirectCapture where
  /-- What the driver has. -/
  queue : VideoQueue
  /-- The buffers that are mapped. -/
  nVideoBuffers : ℕ
  /-- Where the call is. -/
  phase : CapturePhase := .idle none
  /-- The buffers that the program has. -/
  held : List ℕ := []
  /-- The one that the call has taken. -/
  taken : Option ℕ := none
  /-- All that were ever taken. -/
  dequeued : List ℕ := []
  /-- Those that could not be given back. -/
  lost : List ℕ := []
  deriving DecidableEq, Repr

namespace DirectCapture

/-- `n` buffers have been queued, and the stream is on. -/
def initial (n : ℕ) : DirectCapture where
  queue := { count := n, queued := (List.range n).reverse, streaming := true }
  nVideoBuffers := n

/-- A successful `DQBUF`, and the check of the index behind it. -/
def dqbuf (s : DirectCapture) (index : ℕ) (data : Bytes) : Option DirectCapture :=
  (s.queue.dqbuf index).map fun queue =>
    { s with
      queue
      held := index :: s.held
      taken := some index
      dequeued := index :: s.dequeued
      phase := if index < s.nVideoBuffers then .got index data else .idle none }

/-- A successful `QBUF`, after which the call ends. -/
def qbuf (s : DirectCapture) (index : ℕ) (frame : Option Bytes) : Option DirectCapture :=
  (s.queue.qbuf index).map fun queue =>
    { s with queue, held := s.held.erase index, taken := none, phase := .idle frame }

/-- **A step of `get_frame_direct_v4l_locked`.** -/
def step (s : DirectCapture) (a : CaptureAnswer) : Option DirectCapture :=
  match s.phase, a with
  | .idle _, .call => some { s with phase := .waiting, taken := none }
  | .waiting, .waited ok => some { s with phase := if ok then .dequeuing else .idle none }
  | .dequeuing, .dequeued index data => s.dqbuf index data
  | .dequeuing, .dequeueFailed soft =>
    some { s with phase := if soft ∧ 0 < s.nVideoBuffers then .got 0 [] else .idle none }
  | .got index data, .copied null allocated =>
    some { s with phase :=
      if null ∨ data = [] ∨ allocated = false then .requeueing index
      else .queueing index data }
  | .queueing index data, .queued => s.qbuf index (some data)
  | .queueing index _, .queueFailed => some { s with phase := .requeueing index }
  | .requeueing index, .queued => s.qbuf index none
  | .requeueing index, .queueFailed =>
    some { s with phase := .idle none, lost := index :: s.lost }
  | _, _ => none

/-! ## What is to hold

Ownership is a property of a state. That `QBUF` is issued only for the buffer in
hand is part of it, as `queues` reads off the phase which buffer the next call
of the driver will be about. -/

/-- The buffer for which `QBUF` is about to be issued. -/
def queues (s : DirectCapture) : Option ℕ :=
  match s.phase with
  | .queueing index _ | .requeueing index => some index
  | _ => none

/-- No call is under way. -/
def isIdle (s : DirectCapture) : Bool :=
  match s.phase with
  | .idle _ => true
  | _ => false

/-- **The ownership of the buffers**: each is the driver's or the program's
and not both, `QBUF` is issued for the buffer that the call has taken, and a
program that is in no call has only the buffers that `QBUF` refused. -/
structure Owned (s : DirectCapture) : Prop where
  /-- A buffer is the driver's or the program's, and not both. -/
  exclusive : ∀ i < s.queue.count,
    (i ∈ s.queue.queued ∧ i ∉ s.held) ∨ (i ∉ s.queue.queued ∧ i ∈ s.held)
  /-- Nobody has a buffer twice. -/
  once : (s.queue.queued ++ s.held).Nodup
  /-- The call queues only the buffer that it has taken. -/
  own : ∀ i, s.queues = some i → s.taken = some i ∧ i ∈ s.dequeued
  /-- Between calls the program has what could not be given back, and no
  more. -/
  released : s.isIdle = true → s.held = s.lost

/-- The driver does not fail a `DQBUF` with `EAGAIN` or `EIO`. These two are no
errors to `get_direct_frame`: it goes on as if a buffer had been taken, with the
index 0 that the structure was cleared to. Where the device has no buffers at
all this does no harm. -/
def Answered (s : DirectCapture) : CaptureAnswer → Prop
  | .dequeueFailed soft => soft = true → s.nVideoBuffers = 0
  | _ => True

instance (s : DirectCapture) (a : CaptureAnswer) : Decidable (Answered s a) := by
  unfold Answered
  split <;> infer_instance

/-! ## The invariant

In every phase at most one buffer is in hand, and which one is read off the
phase too (`inHand`). So a step is one of four kinds: it moves on with the
buffer that it has, takes one, gives it back, or loses it. There is one lemma
for each kind, and `Inv.step` only says which of them a step is. -/

variable {s s' : DirectCapture} {a : CaptureAnswer} {i n : ℕ} {data : Bytes} {frame : Option Bytes}

/-- The buffer that the call has in hand. -/
def inHand : CapturePhase → Option ℕ
  | .got index _ | .queueing index _ | .requeueing index => some index
  | .idle _ | .waiting | .dequeuing => none

/-- **What holds in every state**: the driver's buffers and the program's are
all of them together, and besides those that were refused the program has the
one in hand. -/
structure Inv (s : DirectCapture) : Prop where
  /-- All buffers are mapped. -/
  size : s.nVideoBuffers = s.queue.count
  /-- The driver's and the program's are all of them. -/
  owners : (s.queue.queued ++ s.held).Perm (List.range s.queue.count)
  /-- The program has the one in hand, and those that were refused. -/
  held : s.held = (inHand s.phase).toList ++ s.lost
  /-- The one in hand was taken by the call. -/
  own : ∀ i, inHand s.phase = some i → s.taken = some i ∧ i ∈ s.dequeued

theorem inv_initial (n : ℕ) : (initial n).Inv where
  size := rfl
  owners := by
    show ((List.range n).reverse ++ []).Perm (List.range n)
    rw [List.append_nil]
    exact List.reverse_perm _
  held := rfl
  own _ h := absurd h.symm (Option.some_ne_none _)

theorem dqbuf_eq_some (h : s.dqbuf i data = some s') :
    i ∈ s.queue.queued ∧ s' =
      { s with
        queue := { s.queue with queued := s.queue.queued.erase i }
        held := i :: s.held
        taken := some i
        dequeued := i :: s.dequeued
        phase := if i < s.nVideoBuffers then .got i data else .idle none } := by
  obtain ⟨queue, hqueue, hs'⟩ := Option.map_eq_some_iff.mp h
  have hmem : i ∈ s.queue.queued := by
    by_contra hnot
    rw [VideoQueue.dqbuf, if_neg (fun h => hnot h.2)] at hqueue
    cases hqueue
  rw [VideoQueue.dqbuf_eq_some hqueue] at hs'
  exact ⟨hmem, hs'.symm⟩

theorem qbuf_eq_some (h : s.qbuf i frame = some s') :
    s' = { s with
        queue := { s.queue with queued := i :: s.queue.queued }
        held := s.held.erase i
        taken := none
        phase := .idle frame } := by
  obtain ⟨queue, hqueue, hs'⟩ := Option.map_eq_some_iff.mp h
  rw [VideoQueue.qbuf_eq_some hqueue] at hs'
  exact hs'.symm

/-- The call moves on with the buffer it has, if it has one. -/
theorem Inv.goTo (hs : s.Inv) {p : CapturePhase} (hp : inHand p = inHand s.phase) :
    Inv { s with phase := p } where
  size := hs.size
  owners := hs.owners
  held := by rw [hp]; exact hs.held
  own i hi := hs.own i (hp ▸ hi)

/-- Without a buffer in hand it does not matter what the call has taken. -/
theorem Inv.start (hs : s.Inv) (hp : inHand s.phase = none) :
    Inv { s with phase := .waiting, taken := none } where
  size := hs.size
  owners := hs.owners
  held := by
    show s.held = [] ++ s.lost
    have hheld := hs.held
    rwa [hp] at hheld
  own _ h := absurd h.symm (Option.some_ne_none _)

/-- **`DQBUF` hands a buffer over.** -/
theorem Inv.dqbuf (hs : s.Inv) (hp : s.phase = .dequeuing) (h : s.dqbuf i data = some s') :
    s'.Inv := by
  obtain ⟨hmem, rfl⟩ := dqbuf_eq_some h
  have hlt : i < s.nVideoBuffers := by
    rw [hs.size]
    exact List.mem_range.mp (hs.owners.subset (List.mem_append_left _ hmem))
  have hheld : s.held = s.lost := by
    have hheld := hs.held
    rwa [hp] at hheld
  rw [if_pos hlt]
  refine ⟨hs.size, ?_, ?_, ?_⟩
  · show (s.queue.queued.erase i ++ i :: s.held).Perm (List.range s.queue.count)
    have hcons : (i :: s.queue.queued.erase i).Perm s.queue.queued :=
      (List.perm_cons_erase hmem).symm
    exact (List.perm_middle.trans (hcons.append_right s.held)).trans hs.owners
  · show i :: s.held = i :: s.lost
    rw [hheld]
  · intro j hj
    cases hj
    exact ⟨rfl, List.mem_cons_self⟩

/-- **`QBUF` hands the buffer back.** -/
theorem Inv.qbuf (hs : s.Inv) (hp : inHand s.phase = some i) (h : s.qbuf i frame = some s') :
    s'.Inv := by
  have hheld : s.held = i :: s.lost := by
    have hheld := hs.held
    rwa [hp] at hheld
  have howners := hs.owners
  rw [qbuf_eq_some h]
  refine ⟨hs.size, ?_, ?_, fun j hj => absurd hj.symm (Option.some_ne_none _)⟩
  · show (i :: s.queue.queued ++ s.held.erase i).Perm (List.range s.queue.count)
    rw [hheld] at howners
    rw [hheld, List.erase_cons_head]
    exact List.perm_middle.symm.trans howners
  · show s.held.erase i = s.lost
    rw [hheld, List.erase_cons_head]

/-- The handler's `QBUF` fails: the program keeps the buffer. -/
theorem Inv.lose (hs : s.Inv) (hp : inHand s.phase = some i) :
    Inv { s with phase := .idle none, lost := i :: s.lost } where
  size := hs.size
  owners := hs.owners
  held := by
    show s.held = i :: s.lost
    have hheld := hs.held
    rwa [hp] at hheld
  own _ h := absurd h.symm (Option.some_ne_none _)

/-- **Every step keeps the invariant**, unless `DQBUF` fails softly. -/
theorem Inv.step (hs : s.Inv) (hok : Answered s a) (h : s.step a = some s') : s'.Inv := by
  unfold DirectCapture.step at h
  split at h
  · next hp =>
    cases h
    exact hs.start (by rw [hp]; rfl)
  · next ok hp =>
    cases h
    exact hs.goTo (by rw [hp]; cases ok <;> rfl)
  · next hp => exact hs.dqbuf hp h
  · next soft hp =>
    cases h
    -- a soft failure goes on only where there are buffers, which is excluded
    have hfail : ¬ (soft = true ∧ 0 < s.nVideoBuffers) := fun ⟨hsoft, hpos⟩ =>
      Nat.lt_irrefl 0 (hok hsoft ▸ hpos)
    rw [if_neg hfail]
    exact hs.goTo (by rw [hp]; rfl)
  · next index data null allocated hp =>
    cases h
    refine hs.goTo ?_
    rw [hp]
    split <;> rfl
  · next hp => exact hs.qbuf (by rw [hp]; rfl) h
  · next hp =>
    cases h
    exact hs.goTo (by rw [hp]; rfl)
  · next hp => exact hs.qbuf (by rw [hp]; rfl) h
  · next hp =>
    cases h
    exact hs.lose (by rw [hp]; rfl)
  · cases h

/-- The invariant is ownership. -/
theorem Inv.owned (hs : s.Inv) : s.Owned where
  exclusive i hi := by
    have hmem : i ∈ s.queue.queued ++ s.held := hs.owners.symm.subset (List.mem_range.mpr hi)
    have hdisjoint : s.queue.queued.Disjoint s.held :=
      List.disjoint_of_nodup_append (hs.owners.nodup_iff.mpr List.nodup_range)
    rcases List.mem_append.mp hmem with hqueued | hheld
    · exact .inl ⟨hqueued, hdisjoint hqueued⟩
    · exact .inr ⟨fun hqueued => hdisjoint hqueued hheld, hheld⟩
  once := hs.owners.nodup_iff.mpr List.nodup_range
  own i hi := by
    refine hs.own i ?_
    unfold queues at hi
    split at hi
    · next hp => rw [hp]; exact hi
    · next hp => rw [hp]; exact hi
    · cases hi
  released hidle := by
    have hheld := hs.held
    unfold isIdle at hidle
    split at hidle
    · next hp => rwa [hp] at hheld
    · cases hidle

/-- **Each buffer has one owner in every state of every run** in which `DQBUF`
does not fail softly.

The state is in the middle of a call as well as between two of them, and any
other system call may fail: a wait that times out, a copy that does not get its
memory, and a `QBUF` that is refused, which loses a buffer to the program for
good. The buffers that it has lost so are counted with those it holds. -/
theorem owned_of_run {answers : List CaptureAnswer}
    (h : Machine.Run step Answered (initial n) answers s) : s.Owned :=
  (Machine.Run.invariant (fun _ _ _ hs hok hst => Inv.step hs hok hst) h (inv_initial n)).owned

/-- A frame is captured of a device with two buffers: the second is filled,
taken, copied and given back, and the call returns its contents. -/
theorem owned_of_run_one_frame :
    ∃ s, Machine.Run step Answered (initial 2)
        [.call, .waited true, .dequeued 1 [7], .copied false true, .queued] s ∧
      s.phase = .idle (some [7]) ∧ s.Owned :=
  have h : Machine.execOk step Answered (initial 2)
      [.call, .waited true, .dequeued 1 [7], .copied false true, .queued]
        = some { initial 2 with
            queue := { count := 2, queued := [1, 0], streaming := true }
            phase := .idle (some [7])
            dequeued := [1] } := by decide
  ⟨_, Machine.run_of_execOk h, rfl, owned_of_run (Machine.run_of_execOk h)⟩

/-! ## A `DQBUF` that fails softly

The buffer that is given back is known from the record which `DQBUF` has filled
in. Where it has filled in nothing the index is 0, and it is taken for that of a
buffer. If buffer 0 is with the driver at that time, it has two owners until
`QBUF` is called, and is queued twice then. -/

/-- After a soft failure the handler queues buffer 0, which the call has not
taken. -/
theorem queues_of_softError (hp : s.phase = .dequeuing) (hpos : 0 < s.nVideoBuffers)
    (null allocated : Bool) :
    Machine.exec step s [.dequeueFailed true, .copied null allocated]
      = some { s with phase := .requeueing 0 } := by
  have hfailed : s.step (.dequeueFailed true) = some { s with phase := .got 0 [] } := by
    unfold step
    rw [hp]
    show some { s with phase := if true ∧ 0 < s.nVideoBuffers then .got 0 [] else .idle none } = _
    rw [if_pos ⟨rfl, hpos⟩]
  rw [Machine.exec_cons, hfailed, Option.bind_some]
  simp [step]

/-- **A soft error is taken for a frame.** The device has one buffer, which is
queued. The call goes on with buffer 0 that it has not taken; the copy fails,
and the handler is about to queue what the driver already has. -/
theorem not_owned_softError :
    ¬ ∀ (n : ℕ) (answers : List CaptureAnswer) (s : DirectCapture),
      Machine.Run step Machine.always (initial n) answers s → s.Owned := by
  intro h
  have hrun : Machine.exec step (initial 1)
      [.call, .waited true, .dequeueFailed true, .copied false true]
        = some { initial 1 with phase := .requeueing 0 } := by decide
  exact absurd ((h 1 _ _ (Machine.run_iff_exec.mpr hrun)).own 0 rfl).1 (by decide)

/-! ## The call at once

The rest of the development has `getFrameDirect` as one function of the driver's
answers. That the two models are of the same code is a theorem: whatever the
function does, there are answers with which the steps above end where it does.
One goes through the function from its end to its beginning, so that each lemma
can use what has been shown of what comes behind it. -/

/-- The device of a sensor, and the program in a phase. -/
structure Stands (s : DirectCapture) (sensor : Sensor) (phase : CapturePhase) : Prop where
  /-- The driver's queue is the sensor's. -/
  queue : s.queue = sensor.device.queue
  /-- The buffers are the sensor's. -/
  size : s.nVideoBuffers = sensor.dev.nVideoBuffers
  /-- The program is in that phase. -/
  phase : s.phase = phase

/-- Some answers lead to a state. -/
def Leads (s s' : DirectCapture) : Prop := ∃ answers, Machine.Run step Machine.always s answers s'

variable {sensor sensor' : Sensor} {s'' : DirectCapture} {fails : Bool}

theorem Leads.single (h : s.step a = some s') : s.Leads s' :=
  ⟨[a], Machine.Run.cons trivial h (Machine.Run.nil _)⟩

theorem Leads.trans (h : s.Leads s') (h' : s'.Leads s'') : s.Leads s'' := by
  obtain ⟨answers, hrun⟩ := h
  obtain ⟨answers', hrun'⟩ := h'
  exact ⟨answers ++ answers', hrun.append hrun'⟩

/-- A `QBUF` that succeeds. -/
theorem Stands.qbuf {p : CapturePhase} (h : s.Stands sensor p)
    (hqueue : sensor.enqueueInternalBuffer fails i = some sensor') (frame : Option Bytes) :
    ∃ s', s.qbuf i frame = some s' ∧ s'.Stands sensor' (.idle frame) := by
  unfold Sensor.enqueueInternalBuffer at hqueue
  split at hqueue
  · cases hqueue
  obtain ⟨queue, hq, rfl⟩ := Option.map_eq_some_iff.mp hqueue
  have hs : s.qbuf i frame = some
      { s with queue, held := s.held.erase i, taken := none, phase := .idle frame } := by
    rw [DirectCapture.qbuf, h.queue, hq]
    rfl
  exact ⟨_, hs, rfl, h.size, rfl⟩

/-- The handler. -/
theorem Stands.handler (h : s.Stands sensor (.requeueing i)) (fails : Bool) :
    ∃ s', s.Leads s' ∧
      s'.Stands ((sensor.enqueueInternalBuffer fails i).getD sensor) (.idle none) := by
  cases hqueue : sensor.enqueueInternalBuffer fails i with
  | none =>
    have hstep : s.step .queueFailed
        = some { s with phase := .idle none, lost := i :: s.lost } := by simp [step, h.phase]
    exact ⟨_, .single hstep, h.queue, h.size, rfl⟩
  | some sensor' =>
    obtain ⟨s', hs', hstands⟩ := h.qbuf hqueue none
    have hstep : s.step .queued = some s' := by simp [step, h.phase, hs']
    exact ⟨s', .single hstep, hstands⟩

/-- The copy, which a buffer without data ends in the handler. -/
theorem Stands.copy (h : s.Stands sensor (.got i data)) :
    ∃ s', s.Leads s' ∧
      s'.Stands sensor (if data = [] then .requeueing i else .queueing i data) := by
  have hstep : s.step (.copied false true)
      = some { s with phase := if data = [] then .requeueing i else .queueing i data } := by
    simp [step, h.phase]
  exact ⟨_, .single hstep, h.queue, h.size, rfl⟩

/-- The first `QBUF` fails. -/
theorem Stands.refused (h : s.Stands sensor (.queueing i data)) :
    ∃ s', s.Leads s' ∧ s'.Stands sensor (.requeueing i) := by
  have hstep : s.step .queueFailed = some { s with phase := .requeueing i } := by
    simp [step, h.phase]
  exact ⟨_, .single hstep, h.queue, h.size, rfl⟩

/-- `select` succeeds. -/
theorem Stands.wait (h : s.Stands sensor (.idle frame)) :
    ∃ s', s.Leads s' ∧ s'.Stands sensor .dequeuing := by
  have hcall : s.step .call = some { s with phase := .waiting, taken := none } := by
    simp [step, h.phase]
  have hwaited : ({ s with phase := .waiting, taken := none } : DirectCapture).step (.waited true)
      = some { s with phase := .dequeuing, taken := none } := rfl
  exact ⟨_, (Leads.single hcall).trans (.single hwaited), h.queue, h.size, rfl⟩

/-- The call ends without a buffer. -/
theorem Stands.fail (h : s.Stands sensor .dequeuing) :
    ∃ s', s.Leads s' ∧ s'.Stands sensor (.idle none) := by
  have hstep : s.step (.dequeueFailed false) = some { s with phase := .idle none } := by
    simp [step, h.phase]
  exact ⟨_, .single hstep, h.queue, h.size, rfl⟩

/-- Where the call stands with what `dequeueInternalBuffer` returned. -/
def afterDequeue : Option (ℕ × Bytes) → CapturePhase
  | some (index, data) => .got index data
  | none => .idle none

/-- The fetch. -/
theorem Stands.dequeue (h : s.Stands sensor .dequeuing) (d : Dequeued) :
    ∃ s', s.Leads s' ∧ s'.Stands (sensor.dequeueInternalBuffer d).1
      (afterDequeue (sensor.dequeueInternalBuffer d).2) := by
  cases d with
  | waitFails => exact h.fail
  | hardError => exact h.fail
  | softError =>
    have hstep : s.step (.dequeueFailed true)
        = some { s with phase := if 0 < s.nVideoBuffers then .got 0 [] else .idle none } := by
      simp [step, h.phase]
    refine ⟨_, .single hstep, h.queue, h.size, ?_⟩
    show (if 0 < s.nVideoBuffers then CapturePhase.got 0 [] else .idle none)
      = afterDequeue (if 0 < sensor.dev.nVideoBuffers then some (0, []) else none)
    rw [h.size]
    split <;> rfl
  | filled index data =>
    cases hqueue : sensor.device.queue.dqbuf index with
    | none =>
      have hnone : sensor.dequeueInternalBuffer (.filled index data) = (sensor, none) := by
        simp [Sensor.dequeueInternalBuffer, hqueue]
      rw [hnone]
      exact h.fail
    | some queue =>
      have hstep : s.step (.dequeued index data) = some
          { s with
            queue
            held := index :: s.held
            taken := some index
            dequeued := index :: s.dequeued
            phase := if index < s.nVideoBuffers then .got index data else .idle none } := by
        simp [step, h.phase, DirectCapture.dqbuf, h.queue, hqueue]
      have hsome : sensor.dequeueInternalBuffer (.filled index data)
          = (sensor.setQueue queue,
              if index < sensor.dev.nVideoBuffers then some (index, data) else none) := by
        simp [Sensor.dequeueInternalBuffer, hqueue]
      rw [hsome]
      refine ⟨_, .single hstep, rfl, h.size, ?_⟩
      show (if index < s.nVideoBuffers then CapturePhase.got index data else .idle none) = _
      rw [h.size]
      split <;> rfl

/-- **The call at once goes through these steps**: from a device and a program
between calls they lead to the device that `getFrameDirect` leaves behind, and
to the frame it returns. -/
theorem leads_getFrameDirect (c : Camera) (d : FrameAnswers) (h : s.Stands c.sensor (.idle frame)) :
    ∃ s', s.Leads s' ∧ s'.Stands (c.getFrameDirect d).1.sensor
      (.idle ((c.getFrameDirect d).2.map RawFrame.data)) := by
  obtain ⟨s₁, hwait, hdequeuing⟩ := h.wait
  obtain ⟨s₂, hdequeue, hstands⟩ := hdequeuing.dequeue d.dequeued
  have hlead := hwait.trans hdequeue
  unfold Camera.getFrameDirect
  cases hfetch : c.sensor.dequeueInternalBuffer d.dequeued with
  | mk sensor fetched =>
    rw [hfetch] at hstands
    cases fetched with
    | none => exact ⟨s₂, hlead, hstands⟩
    | some buffer =>
      obtain ⟨index, data⟩ := buffer
      obtain ⟨s₃, hcopy, hcopied⟩ := Stands.copy hstands
      have hlead := hlead.trans hcopy
      by_cases hdata : data = []
      · rw [if_pos hdata] at hcopied
        obtain ⟨s₄, hhandler, hidle⟩ := hcopied.handler d.requeueAgainFails
        simp only [if_pos hdata]
        exact ⟨s₄, hlead.trans hhandler, hidle⟩
      · rw [if_neg hdata] at hcopied
        simp only [if_neg hdata]
        cases hqueue : sensor.enqueueInternalBuffer d.requeueFails index with
        | none =>
          obtain ⟨s₄, hrefused, hrequeueing⟩ := hcopied.refused
          obtain ⟨s₅, hhandler, hidle⟩ := hrequeueing.handler d.requeueAgainFails
          exact ⟨s₅, (hlead.trans hrefused).trans hhandler, hidle⟩
        | some sensor' =>
          obtain ⟨s₄, hs₄, hidle⟩ := hcopied.qbuf hqueue (some data)
          have hstep : s₃.step .queued = some s₄ := by simp [step, hcopied.phase, hs₄]
          exact ⟨s₄, hlead.trans (.single hstep), hidle⟩

end DirectCapture
