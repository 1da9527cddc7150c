import TofNet.ModeLabel

/-!
# Starting again after a failure

`capturing_` is the camera's idea of whether the device streams, and
`VideoDev::started` the sensor's. This module asks when the two agree, and
when a start succeeds as soon as the driver stops failing, if `QBUF`,
`STREAMON` and `STREAMOFF` may fail at any time.

Both hold as long as a failure leaves the device either streaming with the
camera capturing, or stopped with every buffer free. `STREAMOFF` frees the
buffers, and so does setting a frame type, which opens the files anew; nothing
else does. Three things break it. A `STREAMOFF` that fails leaves the stream
on while the camera forgets about it, and every later start finds the device
busy. A start that fails once it has queued a buffer leaves that buffer
queued, and the next start cannot queue it. And a switch to a frame type that
the sensor turns down leaves a device without buffers.

`StreamInvariant` has two parts: that the two flags agree, and that the buffers
are free while nothing streams. The second is there for the sake of the next
start, which queues all buffers and fails where one of them is queued already.
The guard is read off from the calls that would break either part; each of its
clauses is one of the three things above.
-/

namespace Camera

/-! ## The invariant

It does not speak of the mode or the frame type, which have no part in starting. -/

/-- **What every call keeps**: an open device with all its buffers mapped,
which streams exactly while the camera captures, and whose buffers are free
while it does not. -/
structure StreamInvariant (c : Camera) : Prop where
  /-- The device is open. -/
  fd : c.sensor.dev.fd = true
  /-- It has buffers, … -/
  count : 0 < c.sensor.device.queue.count
  /-- … all of which are mapped. -/
  mapped : c.sensor.dev.nVideoBuffers = c.sensor.device.queue.count
  /-- The camera's flag is that of the device. -/
  capturing : c.capturing = c.sensor.dev.started
  /-- A device that does not stream has no buffer in its queue. -/
  free : c.sensor.dev.started = false → c.sensor.device.queue.queued = []

/-- **The guard.** A stream that is on can be turned off; a start fails with
its first buffer or not at all; and a switch that gets as far as the sensor
sets its frame type. -/
def StreamGuard (files : Files) (c : Camera) : CameraCall → Prop
  | .switchMode a frameType => frameType ≠ c.modeName →
      (c.Settable a files frameType ∧
        ∀ type ∈ c.types, type.type = frameType → c.sensor.Accepts a c.table type)
      ∨ (¬ c.Settable a files frameType ∧ (c.capturing = true → a.fails .streamOff = false))
  | .start a _ => (c.capturing = true → a.fails .streamOff = false)
      ∧ (a.fails (.queueBuffer 0) = true
        ∨ (∀ i < c.sensor.dev.nVideoBuffers, a.fails (.queueBuffer i) = false)
          ∧ a.fails .streamOn = false)
  | .stop fails => c.capturing = true → fails = false
  | .getFrame _ => True

variable {a : Answers} {files : Files} {c : Camera}

/-- **A stream that can be turned off is**, and its buffers are free. -/
theorem StreamInvariant.stop_eq (hc : c.StreamInvariant) {fails : Bool}
    (hfails : c.capturing = true → fails = false) :
    ∃ streaming, c.stop fails
      = { c with sensor := c.sensor.withStream false [] streaming, capturing := false } := by
  unfold Camera.stop
  split
  · next hcapturing =>
    rw [hfails hcapturing, Sensor.stop_of_started (hc.capturing ▸ hcapturing)]
    exact ⟨false, rfl⟩
  · next hnot =>
    have hstarted : c.sensor.dev.started = false :=
      Bool.not_eq_true _ ▸ fun h => hnot (hc.capturing.trans h)
    refine ⟨c.sensor.device.queue.streaming, ?_⟩
    rw [← hc.free hstarted, ← hstarted]
    rfl

/-- **A device with all its buffers free can be started.** -/
theorem StreamInvariant.start_stopped (hc : c.StreamInvariant) (streaming : Bool)
    (hqueue : ∀ i < c.sensor.dev.nVideoBuffers, a.fails (.queueBuffer i) = false)
    (hon : a.fails .streamOn = false) :
    (c.sensor.withStream false [] streaming).start a
      = (c.sensor.withStream true (List.range c.sensor.dev.nVideoBuffers).reverse true, .ok) :=
  Sensor.start_of_free rfl hc.fd hc.count hc.mapped rfl hqueue hon

/-! ## The calls

For each call: what it leaves, and that this satisfies the invariant. A call
that changes the stream only has two of its fields to look at. -/

/-- Fetching a frame queues its buffer again, or does not, while the device
streams. -/
theorem StreamInvariant.getFrame (hc : c.StreamInvariant) (d : FrameAnswers) :
    (c.getFrame d).1.StreamInvariant := by
  by_cases hcapturing : c.capturing = false
  · rw [Camera.getFrame, if_pos hcapturing]
    exact hc
  · obtain ⟨queued, heq⟩ := c.getFrame_frame d
    rw [heq]
    exact { hc with free := fun h => absurd (hc.capturing.trans h) hcapturing }

/-- So does the warm-up. -/
theorem StreamInvariant.warmup (hc : c.StreamInvariant) (hcapturing : c.capturing = true)
    (frames : List FrameAnswers) : (warmup frames c).1.StreamInvariant := by
  obtain ⟨queued, heq⟩ := warmup_frame frames c
  rw [heq]
  exact { hc with
    free := fun h => Bool.noConfusion (hcapturing.symm.trans (hc.capturing.trans h)) }

/-- A stop that does not fail frees the buffers. -/
theorem StreamInvariant.stop (hc : c.StreamInvariant) {fails : Bool}
    (hfails : c.capturing = true → fails = false) : (c.stop fails).StreamInvariant := by
  obtain ⟨streaming, heq⟩ := hc.stop_eq hfails
  rw [heq]
  exact { hc with capturing := rfl, free := fun _ => rfl }

/-- A start fails with its first buffer, and then no buffer is queued, or it
streams. -/
theorem StreamInvariant.start (hc : c.StreamInvariant) (frames : List FrameAnswers)
    (hguard : c.StreamGuard files (.start a frames)) : (c.start a frames).1.StreamInvariant := by
  obtain ⟨streaming, hstop⟩ := hc.stop_eq hguard.1
  unfold Camera.start
  rw [hstop]
  dsimp only
  rcases hguard.2 with hfirst | ⟨hqueue, hon⟩
  · rw [Sensor.start_of_first_fails rfl (hc.mapped.symm ▸ hc.count) hfirst]
    exact { hc with capturing := rfl, free := fun _ => rfl }
  · rw [hc.start_stopped streaming hqueue hon]
    refine StreamInvariant.warmup ?_ rfl frames
    exact { hc with capturing := rfl, free := Bool.noConfusion }

/-- A frame type that has been set leaves a stopped device. -/
theorem StreamInvariant.of_typed {s : Sensor} {buffers : ℕ} {type : FrameType} {mode : UInt8}
    {format : PixelFormat} (hpos : 0 < buffers)
    (hsensor : c.sensor = s.typed buffers type mode format) (hcapturing : c.capturing = false) :
    c.StreamInvariant := by
  constructor
  · rw [hsensor]
    rfl
  · rw [hsensor]
    exact hpos
  · rw [hsensor]
    rfl
  · rw [hsensor]
    exact hcapturing
  · rw [hsensor]
    exact fun _ => rfl

/-- A switch that gets as far as the sensor leaves a new device. -/
theorem StreamInvariant.switchMode (hc : c.StreamInvariant) (frameType : Bytes)
    (hguard : c.StreamGuard files (.switchMode a frameType)) :
    (c.switchMode a files frameType).1.StreamInvariant := by
  rcases c.switchMode_cases a files frameType with ⟨-, heq⟩ | ⟨hne, hnot, heq⟩ |
    ⟨hne, hset, type, controls, s, status, hmem, hname, hcontrols, hs, heq⟩
  · rw [heq]
    exact hc
  · rw [heq]
    exact hc.stop ((hguard hne).resolve_left (fun h => hnot h.1)).2
  · have haccepts := ((hguard hne).resolve_right (fun h => h.1 hset)).2 type hmem hname
    have hstatus := Sensor.setFrameType_status.mpr
      ((accepts_iff_switching (a.fails .streamOff) controls).mpr haccepts)
    rw [hs] at hstatus
    obtain rfl : status = .ok := hstatus
    obtain ⟨mode, format, -, -, htyped⟩ := Sensor.setFrameType_ok hs
    rw [heq, if_pos rfl]
    exact StreamInvariant.of_typed (Nat.succ_pos _) htyped rfl

/-- **Every call keeps the invariant.** -/
theorem StreamInvariant.after (hc : c.StreamInvariant) (call : CameraCall)
    (hguard : c.StreamGuard files call) : (c.after files call).StreamInvariant := by
  cases call with
  | switchMode a frameType => exact hc.switchMode frameType hguard
  | start a frames => exact hc.start frames hguard
  | stop fails => exact hc.stop hguard
  | getFrame d => exact hc.getFrame d

/-- A camera that was initialised has just set its frame type. -/
theorem StreamInvariant.of_initialize {i : CameraSetup}
    (h : initializeDirectSensorIfAvailable i = some c) : c.StreamInvariant := by
  obtain ⟨sensor, type, controls, -, -, -, -, -, -, -, hcapturing, -, -, -, hs⟩ :=
    initializeDirectSensor_eq_some h
  obtain ⟨mode, format, -, -, htyped⟩ := Sensor.setFrameType_ok hs
  exact StreamInvariant.of_typed (Nat.succ_pos _) htyped hcapturing

/-! ## A start that nothing stands in the way of

A start also fetches frames to warm up, and fails if one of these cannot be had;
so that the driver has stopped failing is about these as well. -/

/-- Answers of a driver that has stopped failing: no call fails, and every
frame of the warm-up is a buffer of the device that has been filled. -/
structure Recovered (c : Camera) (a : Answers) (frames : List FrameAnswers) : Prop where
  /-- The stream can be turned off, … -/
  streamOff : a.fails .streamOff = false
  /-- … buffers can be queued, … -/
  queueBuffer : ∀ i, a.fails (.queueBuffer i) = false
  /-- … and the stream can be turned on. -/
  streamOn : a.fails .streamOn = false
  /-- A frame comes in a buffer of the device, is not empty, and its buffer
  can be queued again. -/
  frames : ∀ d ∈ frames, d.requeueFails = false
    ∧ ∃ i data, d.dequeued = .filled i data ∧ i < c.sensor.dev.nVideoBuffers ∧ data ≠ []

/-- **A frame of a device that has all its buffers** is fetched, and the
buffer given back. -/
theorem getFrame_filled {c : Camera} {d : FrameAnswers} {i : ℕ} {data : Bytes}
    (hcapturing : c.capturing = true) (hstreaming : c.sensor.device.queue.streaming = true)
    (hmapped : c.sensor.dev.nVideoBuffers = c.sensor.device.queue.count)
    (hall : c.sensor.device.queue.queued.Perm (List.range c.sensor.dev.nVideoBuffers))
    (hd : d.dequeued = .filled i data) (hrequeue : d.requeueFails = false)
    (hi : i < c.sensor.dev.nVideoBuffers) (hdata : data ≠ []) :
    ∃ queued, queued.Perm (List.range c.sensor.dev.nVideoBuffers)
      ∧ c.getFrame d = ({ c with
        sensor := c.sensor.withStream c.sensor.dev.started queued true },
          some (c.rawFrame data)) := by
  have hmem : i ∈ c.sensor.device.queue.queued := hall.mem_iff.mpr (List.mem_range.mpr hi)
  have hnodup := hall.nodup_iff.mpr List.nodup_range
  have hdq : c.sensor.device.queue.dqbuf i = some { c.sensor.device.queue with
      queued := c.sensor.device.queue.queued.erase i } := if_pos ⟨hstreaming, hmem⟩
  have hq : VideoQueue.qbuf { c.sensor.device.queue with
      queued := c.sensor.device.queue.queued.erase i } i = some { c.sensor.device.queue with
        queued := i :: c.sensor.device.queue.queued.erase i } :=
    if_pos ⟨hmapped ▸ hi, fun h => (hnodup.mem_erase_iff.mp h).1 rfl⟩
  refine ⟨_, (List.perm_cons_erase hmem).symm.trans hall, ?_⟩
  unfold getFrame getFrameDirect Sensor.dequeueInternalBuffer Sensor.enqueueInternalBuffer
  rw [if_neg (by rw [hcapturing]; exact Bool.noConfusion), hd]
  dsimp only
  rw [hdq]
  dsimp only
  rw [if_pos hi]
  dsimp only
  rw [if_neg hdata, hrequeue, if_neg Bool.noConfusion]
  unfold Sensor.setQueue
  dsimp only
  rw [hq, ← hstreaming]
  rfl

/-- So is every frame of a warm-up. -/
theorem warmup_filled {c : Camera} {frames : List FrameAnswers} (hcapturing : c.capturing = true)
    (hstreaming : c.sensor.device.queue.streaming = true)
    (hmapped : c.sensor.dev.nVideoBuffers = c.sensor.device.queue.count)
    (hall : c.sensor.device.queue.queued.Perm (List.range c.sensor.dev.nVideoBuffers))
    (hframes : ∀ d ∈ frames, d.requeueFails = false
      ∧ ∃ i data, d.dequeued = .filled i data ∧ i < c.sensor.dev.nVideoBuffers ∧ data ≠ []) :
    (warmup frames c).2 = true := by
  induction frames generalizing c with
  | nil => rfl
  | cons d frames ih =>
    obtain ⟨hrequeue, i, data, hd, hi, hdata⟩ := hframes d List.mem_cons_self
    obtain ⟨queued, hperm, heq⟩ :=
      getFrame_filled hcapturing hstreaming hmapped hall hd hrequeue hi hdata
    unfold warmup
    rw [heq]
    exact ih hcapturing rfl hmapped hperm (fun d hd => hframes d (List.mem_cons_of_mem _ hd))

/-- **The next start succeeds** once the driver has stopped failing. -/
theorem StreamInvariant.start_recovered (hc : c.StreamInvariant) {frames : List FrameAnswers}
    (h : c.Recovered a frames) : (c.start a frames).2 = true := by
  obtain ⟨streaming, hstop⟩ := hc.stop_eq (fun _ => h.streamOff)
  unfold Camera.start
  rw [hstop]
  dsimp only
  rw [hc.start_stopped streaming (fun i _ => h.queueBuffer i) h.streamOn]
  exact warmup_filled rfl rfl hc.mapped (List.reverse_perm _) h.frames

/-! ## Runs

The invariant is kept by every call that meets the guard, and in any state with
the invariant the next start succeeds once nothing fails. -/

/-- One call of the camera. -/
def callStep (files : Files) : Machine Camera CameraCall := fun c call => some (c.after files call)

/-- **In every run whose calls all meet the guard**, the camera captures exactly
while the device streams, and the next start succeeds once the driver has
stopped failing.

Captures and streams are two flags of two objects, and both are written around a
call of the driver that may fail: what the guard asks for is that no failure
falls between them. The second half follows from the first: a start of a camera
that does not capture finds a device that does not stream, with all of its
buffers out of the queue. -/
theorem restarts_of_run {i : CameraSetup} {c c' : Camera} {calls : List CameraCall}
    (hinit : initializeDirectSensorIfAvailable i = some c)
    (hrun : Machine.Run (callStep i.files) (StreamGuard i.files) c calls c') :
    c'.capturing = c'.sensor.dev.started
      ∧ ∀ a frames, c'.Recovered a frames → (c'.start a frames).2 = true := by
  have hinv := hrun.invariant (I := StreamInvariant) (fun c call c' hc hguard hstep => by
    cases Option.some.inj hstep
    exact hc.after call hguard) (StreamInvariant.of_initialize hinit)
  exact ⟨hinv.capturing, fun a frames h => hinv.start_recovered h⟩

open CameraHistory in
/-- The camera starts, stops and starts again: behind the stop the device does
not stream, and the second start succeeds. -/
theorem restarts_of_run_qnative :
    ∃ c c', initializeDirectSensorIfAvailable qnative = some c
      ∧ Machine.Run (callStep qnative.files) (StreamGuard qnative.files) c
        [.start faultless [oneFrame], .stop false] c'
      ∧ c'.sensor.dev.started = false ∧ (c'.start faultless [oneFrame]).2 = true := by
  let c := (initializeDirectSensorIfAvailable qnative).get (by decide +kernel)
  have hc : initializeDirectSensorIfAvailable qnative = some c := (Option.some_get _).symm
  have hstart : StreamGuard qnative.files c (.start faultless [oneFrame]) :=
    ⟨fun _ => rfl, .inr ⟨fun _ _ => rfl, rfl⟩⟩
  have hstop : StreamGuard qnative.files
      (c.after qnative.files (.start faultless [oneFrame])) (.stop false) := fun _ => rfl
  have hrun : Machine.Run (callStep qnative.files) (StreamGuard qnative.files) c
      [.start faultless [oneFrame], .stop false]
      ((c.after qnative.files (.start faultless [oneFrame])).after qnative.files (.stop false)) :=
    Machine.Run.cons hstart rfl (Machine.Run.cons hstop rfl (Machine.Run.nil _))
  refine ⟨c, _, hc, hrun, by decide +kernel, (restarts_of_run hc hrun).2 _ _ ⟨rfl, fun _ => rfl,
    rfl, fun d hd => ?_⟩⟩
  cases List.mem_singleton.mp hd
  exact ⟨rfl, 0, [7], rfl, by decide +kernel, by decide⟩

open CameraHistory in
/-- **A failed stop cannot be made up for.** `STREAMOFF` fails once; the
camera no longer captures, the device streams on, and the next start fails
although nothing fails any more. -/
theorem not_restarts_of_streamOff :
    ∃ c c', initializeDirectSensorIfAvailable qnative = some c
      ∧ Machine.Run (callStep qnative.files) Machine.always c
        [.start faultless [], .stop true] c'
      ∧ c'.capturing = false ∧ c'.sensor.dev.started = true
      ∧ c'.Recovered faultless [] ∧ (c'.start faultless []).2 = false := by
  let c := (initializeDirectSensorIfAvailable qnative).get (by decide +kernel)
  exact ⟨c, _, (Option.some_get _).symm, Machine.run_iff_exec.mpr rfl, by decide +kernel,
    by decide +kernel, ⟨rfl, fun _ => rfl, rfl, fun d hd => absurd hd List.not_mem_nil⟩,
    by decide +kernel⟩

end Camera
