import TofNet.Camera
import TofNet.Transition

/-!
# The mode on the label

Every frame carries a mode and a frame type, which are what the camera
believes (`args_.mode`, `mode_name_`). This module asks when that is the mode
the device is in, whatever system calls fail.

`switchMode` changes its two labels only when all of `setFrameType` has
succeeded, and returns early for the name it already has. What a failure has
done to the device is then forgotten, and what keeps the camera from
streaming the wrong mode under the old label is that a half-set device cannot
be started: its files have been opened anew, and it has no buffers. This fails
in one place. Once `REQBUFS` has succeeded the device has buffers, so that a
failure in mapping them leaves a device that starts, in the new mode. And the
controls of the INI file, whose failures are ignored, are not set at all where
an earlier `open` has left the sub-device closed. `agrees_of_run` shows that
nothing else can go wrong.
-/

namespace Camera

/-! ## Labels and what they are about

The device has no name for its mode; it has a format, buffers, and values of
controls. `Labelled` says what these have to be for a frame type, with the table
that is in use. The controls are part of it, since with other widths the same
frame would be unpacked differently. -/

/-- **The camera's labels are right**: the device is in the mode they name,
its buffers are for that frame type, and the controls of its INI file are in
force. -/
structure Labelled (files : Files) (c : Camera) : Prop where
  /-- The mode table has the name. -/
  names : c.table.Names c.modeName
  /-- The number is that of the name. -/
  mode : c.mode = (c.table.getModeInfo c.modeName).mode.toUInt16
  /-- The device is in that mode. -/
  device : c.sensor.device.mode = some (c.table.getModeInfo c.modeName).mode
  /-- Its buffers are made for it. -/
  frameType : c.sensor.frameType = c.modeName
  /-- What its INI file sets is in force. -/
  controls : ∀ controls, iniControls files c.iniByMode c.modeName = some controls →
    ∀ k v, controlValue controls k = some v → c.sensor.device.control k = some v

/-- The controls get through to the device, or have the values already. -/
def TakesControls (a : Answers) (controls : List (Control × ℕ)) (c : Camera) : Prop :=
  ∀ k v, controlValue controls k = some v →
    (c.sensor.dev.sfd = true ∧ a.fails (.setControl k) = false)
      ∨ c.sensor.device.control k = some v

/-- **The guard.** A switch that sets its frame type has to get the controls
of the INI file through as well; and a start must not succeed on a device
some of whose buffers are not mapped. -/
def LabelGuard (files : Files) (c : Camera) : CameraCall → Prop
  | .switchMode a frameType => frameType ≠ c.modeName → c.Settable a files frameType →
      ∀ type ∈ c.types, type.type = frameType → c.sensor.Accepts a c.table type →
        ∀ controls, iniControls files c.iniByMode frameType = some controls →
          c.TakesControls a controls
  | .start a _ => c.sensor.device.queue.count ≤ c.sensor.dev.nVideoBuffers
      ∨ (∃ i < c.sensor.dev.nVideoBuffers, a.fails (.queueBuffer i) = true)
      ∨ a.fails .streamOn = true
  | .stop _ => True
  | .getFrame _ => True

/-! ## The invariant

What a failed switch leaves behind may be anything, as long as it cannot be
started. So the invariant says that the labels are right *if* the device can be
started, and that the device of a camera that captures can. A switch that
succeeds makes the first part true anew, and one that fails makes its hypothesis
false. -/

/-- **What every call keeps**: the labels belong together, they are right as
soon as the device can be started, and it is while the camera captures. -/
structure LabelInvariant (files : Files) (c : Camera) : Prop where
  /-- The mode table has the name. -/
  names : c.table.Names c.modeName
  /-- The number is that of the name. -/
  mode : c.mode = (c.table.getModeInfo c.modeName).mode.toUInt16
  /-- A device that can be started is as the name says. -/
  ready : c.sensor.Ready → c.Labelled files
  /-- A camera that captures has such a device. -/
  capturing : c.capturing = true → c.sensor.Ready

variable {a : Answers} {files : Files} {c : Camera}

/-- The labels do not depend on the stream. -/
theorem LabelInvariant.withStream (hc : c.LabelInvariant files) (started : Bool)
    (queued : List ℕ) (streaming capturing : Bool) (hcapturing : capturing = true →
      c.sensor.Ready) :
    LabelInvariant files { c with
      sensor := c.sensor.withStream started queued streaming, capturing := capturing } where
  names := hc.names
  mode := hc.mode
  ready := fun hready => { hc.ready hready with }
  capturing := hcapturing

theorem LabelInvariant.stop (hc : c.LabelInvariant files) (fails : Bool) :
    (c.stop fails).LabelInvariant files := by
  obtain ⟨started, queued, streaming, heq⟩ := c.stop_frame fails
  rw [heq]
  exact hc.withStream started queued streaming false Bool.noConfusion

theorem LabelInvariant.getFrame (hc : c.LabelInvariant files) (d : FrameAnswers) :
    (c.getFrame d).1.LabelInvariant files := by
  obtain ⟨queued, heq⟩ := c.getFrame_frame d
  rw [heq]
  exact hc.withStream _ _ _ _ hc.capturing

/-- **A start that the guard admits captures the mode on the label.** -/
theorem LabelInvariant.start (hc : c.LabelInvariant files) (frames : List FrameAnswers)
    (hguard : c.LabelGuard files (.start a frames)) :
    (c.start a frames).1.LabelInvariant files := by
  obtain ⟨started, queued, streaming, hstop⟩ := c.stop_frame (a.fails .streamOff)
  have hsensor : (c.stop (a.fails .streamOff)).sensor
      = c.sensor.withStream started queued streaming := by rw [hstop]
  rcases c.start_cases a frames with ⟨queued', hstart, heq⟩ | ⟨s, status, hstatus, hstart, heq⟩
  · obtain ⟨-, hfd, hcount, hqueue, hon, -⟩ := Sensor.start_ok hstart
    rw [hsensor] at hfd hcount hqueue heq
    have hready : c.sensor.Ready := by
      refine ⟨hfd, hcount, hguard.resolve_right ?_⟩
      rintro (⟨i, hi, hfails⟩ | hfails)
      · exact Bool.noConfusion ((hqueue i hi).symm.trans hfails)
      · exact Bool.noConfusion (hon.symm.trans hfails)
    obtain ⟨queued'', hwarm⟩ := warmup_frame frames { c with
      sensor := c.sensor.withStream true queued' true, capturing := true }
    rw [heq]
    show (warmup frames { c with
      sensor := c.sensor.withStream true queued' true, capturing := true }).1.LabelInvariant files
    rw [hwarm]
    exact hc.withStream true queued'' true true (fun _ => hready)
  · obtain ⟨queued', rfl⟩ := Sensor.start_not_ok hstart hstatus
    rw [heq, hsensor]
    exact hc.withStream started queued' streaming false Bool.noConfusion

/-- Controls that get through are in force. -/
theorem control_of_takesControls {controls : List (Control × ℕ)}
    (h : c.TakesControls a controls) {k : Control} {v : ℕ} (hv : controlValue controls k = some v) :
    (c.sensor.setControls a controls).device.control k = some v := by
  rw [Sensor.setControls_control]
  split
  · rw [hv]
    rfl
  · next hnot => exact (h k v hv).resolve_left hnot

/-- **A switch that succeeds labels what it has set, and one that fails
leaves a device that cannot be started.** -/
theorem LabelInvariant.switchMode (hc : c.LabelInvariant files) (frameType : Bytes)
    (hguard : c.LabelGuard files (.switchMode a frameType)) :
    (c.switchMode a files frameType).1.LabelInvariant files := by
  rcases c.switchMode_cases a files frameType with ⟨-, heq⟩ | ⟨-, -, heq⟩ |
    ⟨hne, hset, type, controls, s, status, hmem, hname, hcontrols, hs, heq⟩
  · rw [heq]
    exact hc
  · rw [heq]
    exact hc.stop _
  obtain ⟨started, queued, streaming, hstop⟩ := c.stop_frame (a.fails .streamOff)
  rw [heq]
  split
  · next hok =>
    rw [hok] at hs
    obtain ⟨mode, format, hmode, -, rfl⟩ := Sensor.setFrameType_ok hs
    have haccepts : c.sensor.Accepts a c.table type :=
      (accepts_iff_switching _ controls).mp (Sensor.setFrameType_status.mp (congrArg Prod.snd hs))
    obtain ⟨hnames, hid⟩ := ModeTable.convertCameraMode_eq_some (hname ▸ hmode)
    refine { names := hnames, mode := rfl, capturing := Bool.noConfusion, ready := fun _ => ?_ }
    refine { names := hnames, mode := rfl, device := ?_, frameType := hname, controls := ?_ }
    · exact congrArg some hid.symm
    · intro controls' hcontrols' k v hv
      cases hcontrols.symm.trans hcontrols'
      have htakes := hguard hne hset type hmem hname haccepts controls hcontrols
      refine control_of_takesControls (c := c.stop (a.fails .streamOff)) ?_ hv
      rw [hstop]
      exact htakes
  · next hnot =>
    obtain ⟨dev, firstRun, count, mode, format, hstarted, hcount, rfl⟩ :=
      Sensor.setFrameType_not_ok hs hnot
    refine { names := hc.names, mode := hc.mode, capturing := Bool.noConfusion, ready := ?_ }
    rintro ⟨-, hpos, hmapped⟩
    rcases hcount with rfl | hlt
    · exact absurd hpos (Nat.lt_irrefl 0)
    · exact absurd hmapped (Nat.not_le.mpr hlt)

/-- **Every call keeps the invariant.** -/
theorem LabelInvariant.after (hc : c.LabelInvariant files) (call : CameraCall)
    (hguard : c.LabelGuard files call) : (c.after files call).LabelInvariant files := by
  cases call with
  | switchMode a frameType => exact hc.switchMode frameType hguard
  | start a frames => exact hc.start frames hguard
  | stop fails => exact hc.stop fails
  | getFrame d => exact hc.getFrame d

/-! ## Where runs begin

`initialize` sets a frame type as `switchMode` does, with the name that it finds
for the mode of the arguments. That the name has that mode again is a property
of the tables. -/

/-- **The name chosen for a mode has that mode**, if it is a frame type of
the sensor. -/
theorem mode_modeNameFromId {types : List FrameType} {table : ModeTable} (htable : table.Chosen)
    {mode : UInt16} (hne : modeNameFromId types table mode ≠ [])
    {type : FrameType} (hmem : type ∈ types) (hname : type.type = modeNameFromId types table mode) :
    (table.getModeInfo (modeNameFromId types table mode)).mode.toUInt16 = mode := by
  unfold modeNameFromId at hne hname ⊢
  split at hname
  · next type' hfind => exact of_decide_eq_true (List.find?_some hfind :)
  · next hnone =>
    -- the name comes from the table: no frame type of that name was passed over
    cases hinfo : table.data.find? (fun info => info.mode.toNat = mode.toNat) with
    | none =>
      rw [hnone, ModeTable.getModeInfoOfId, hinfo] at hne
      exact absurd rfl hne
    | some info =>
      have hid : info.mode.toNat = mode.toNat := of_decide_eq_true (List.find?_some hinfo :)
      have hof : table.getModeInfoOfId mode.toNat = info := by
        rw [ModeTable.getModeInfoOfId, hinfo]
        rfl
      have hsame := htable.getModeInfo_of_mem (List.mem_of_find?_eq_some hinfo)
      rw [hof] at hname
      have hpassed := List.find?_eq_none.mp hnone type hmem
      rw [hname, hsame] at hpassed
      exact absurd (decide_eq_true (UInt16.toNat_inj.mp (by
        rw [UInt8.toNat_toUInt16, hid]))) hpassed

/-- The controls get through while the camera is initialised, where the
sub-device is open and no control has been set before. -/
def TakesInitialControls (i : CameraSetup) (c : Camera) : Prop :=
  ∀ controls, iniControls i.files c.iniByMode c.modeName = some controls →
    ∀ k v, controlValue controls k = some v → i.answers.fails (.setControl k) = false

/-- **A camera that was initialised has the right labels.** -/
theorem LabelInvariant.of_initialize {i : CameraSetup}
    (h : initializeDirectSensorIfAvailable i = some c) (hcontrols : TakesInitialControls i c) :
    c.LabelInvariant i.files := by
  obtain ⟨sensor, type, controls, hsfd, -, htable, hmodeName, hne, hmode, -, hcapturing, hmem,
    hname, hini, hs⟩ := initializeDirectSensor_eq_some h
  obtain ⟨mode, format, hconvert, -, hset⟩ := Sensor.setFrameType_ok hs
  obtain ⟨hnames, hid⟩ := ModeTable.convertCameraMode_eq_some (hname ▸ hconvert)
  have hlabel : c.mode = (c.table.getModeInfo c.modeName).mode.toUInt16 := by
    rw [hmode]
    rw [hmodeName] at hne hname ⊢
    exact (mode_modeNameFromId htable hne hmem hname).symm
  refine { names := hnames, mode := hlabel, ready := fun _ => ?_, capturing := fun hc => ?_ }
  · refine { names := hnames, mode := hlabel, device := ?_, frameType := ?_, controls := ?_ }
    · rw [hset, hid]
      rfl
    · rw [hset]
      exact hname
    · intro controls' hini' k v hv
      cases hini.symm.trans hini'
      rw [hset]
      show (sensor.setControls i.answers controls).device.control k = some v
      rw [Sensor.setControls_control, if_pos ⟨hsfd, hcontrols controls hini k v hv⟩, hv]
      rfl
  · exact Bool.noConfusion (hcapturing.symm.trans hc)

end Camera

/-! ## Runs

The history has every frame with the mode its device was in, so that a label can
be compared with it at any later time. -/

/-- A frame that `get_frame` has returned, and the mode its device was in. -/
structure Shot where
  /-- The frame, with its labels. -/
  frame : RawFrame
  /-- The mode that the device was in. -/
  mode : Option UInt8

/-- The camera, and every frame it has returned. -/
structure CameraHistory where
  /-- The camera as it is now. -/
  camera : Camera
  /-- The frames it has returned, each with the mode of that time. -/
  shots : List Shot := []

namespace CameraHistory

/-- One call. -/
def step (files : Files) : Machine CameraHistory CameraCall := fun h call =>
  some {
    camera := h.camera.after files call
    shots := match call with
      | .getFrame d => match (h.camera.getFrame d).2 with
        | some frame => h.shots ++ [⟨frame, h.camera.sensor.device.mode⟩]
        | none => h.shots
      | .switchMode _ _ | .start _ _ | .stop _ => h.shots }

/-- The guard of a call, in a history. -/
def Guard (files : Files) (h : CameraHistory) (call : CameraCall) : Prop :=
  h.camera.LabelGuard files call

/-- **The labels agree with the device**: those of the camera while it
captures, and those of every frame with the mode it was captured in. -/
structure Agrees (files : Files) (h : CameraHistory) : Prop where
  /-- While the camera captures, its labels are right. -/
  camera : h.camera.capturing = true → h.camera.Labelled files
  /-- A frame's name and number are those of the mode it was captured in. -/
  shots : ∀ shot ∈ h.shots,
    shot.mode = some (h.camera.table.getModeInfo shot.frame.frameType).mode
      ∧ h.camera.table.Names shot.frame.frameType
      ∧ shot.frame.mode = (h.camera.table.getModeInfo shot.frame.frameType).mode.toUInt16

/-- No call changes the mode table. -/
theorem table_after (files : Files) (c : Camera) (call : CameraCall) :
    (c.after files call).table = c.table := by
  cases call with
  | switchMode a frameType =>
    unfold Camera.after
    dsimp only
    rcases c.switchMode_cases a files frameType with ⟨-, heq⟩ | ⟨-, -, heq⟩ |
      ⟨-, -, type, controls, s, status, -, -, -, -, heq⟩
    · rw [heq]
    · rw [heq]
      rfl
    · rw [heq]
      split
      · rfl
      · rfl
  | start a frames =>
    unfold Camera.after
    dsimp only
    rcases c.start_cases a frames with ⟨queued, -, heq⟩ | ⟨s, status, -, -, heq⟩
    · rw [heq]
      obtain ⟨queued', hwarm⟩ := Camera.warmup_frame frames { c with
        sensor := (c.stop (a.fails .streamOff)).sensor.withStream true queued true
        capturing := true }
      rw [hwarm]
    · rw [heq]
  | stop fails => rfl
  | getFrame d =>
    unfold Camera.after
    dsimp only
    obtain ⟨queued, heq⟩ := c.getFrame_frame d
    rw [heq]

/-- **In every run whose calls all meet the guard, every label is right.**

The label is the camera's name of its mode, which it puts in the header of a
frame; what it is compared with is the mode that the device was streaming in
when the buffer was filled. Both are kept with each frame of the history, so
that a later switch cannot repair an earlier label. The run starts behind a
successful initialisation whose controls got through. -/
theorem agrees_of_run {i : CameraSetup} {c : Camera} {h : CameraHistory}
    {calls : List CameraCall} (hinit : Camera.initializeDirectSensorIfAvailable i = some c)
    (hcontrols : Camera.TakesInitialControls i c)
    (hrun : Machine.Run (step i.files) (Guard i.files) { camera := c } calls h) :
    h.Agrees i.files := by
  have hinv := Machine.Run.invariant
    (I := fun h => h.camera.LabelInvariant i.files ∧ h.Agrees i.files) ?_ hrun ?_
  · exact hinv.2
  · rintro h call h' ⟨hc, hagrees⟩ hguard hstep
    cases Option.some.inj hstep
    have hafter := hc.after call hguard
    refine ⟨hafter, fun hcapturing => hafter.ready (hafter.capturing hcapturing), ?_⟩
    dsimp only
    rw [table_after]
    cases call with
    | switchMode a frameType => exact hagrees.shots
    | start a frames => exact hagrees.shots
    | stop fails => exact hagrees.shots
    | getFrame d =>
      cases hframe : (h.camera.getFrame d).2 with
      | none => dsimp only; rw [hframe]; exact hagrees.shots
      | some frame =>
        dsimp only
        rw [hframe]
        intro shot hshot
        rcases List.mem_append.mp hshot with hshot | hshot
        · exact hagrees.shots shot hshot
        · cases List.mem_singleton.mp hshot
          obtain ⟨hcapturing, hmode, hname⟩ := Camera.getFrame_some hframe
          have hlabels := hc.ready (hc.capturing hcapturing)
          dsimp only
          rw [hname, hmode]
          exact ⟨hlabels.device, hlabels.names, hlabels.mode⟩
  · refine ⟨Camera.LabelInvariant.of_initialize hinit hcontrols, fun hcapturing => ?_, ?_⟩
    · obtain ⟨-, -, -, -, -, -, -, -, -, -, hnot, -⟩ := Camera.initializeDirectSensor_eq_some hinit
      exact Bool.noConfusion (hnot.symm.trans hcapturing)
    · exact fun shot hshot => absurd hshot List.not_mem_nil

/-- A collector whose INI file for short range gives 16 bits to the active
brightness, started in long range (mode 3). -/
def qnative : CameraSetup where
  config := { initializationConfig := ascii "config.json" }
  mode := 3
  files := fun path =>
    if path = ascii "config.json" then
      some (ascii "\x7b\x22DEPTH_INI\x22: \x22ini/depth_sr-qnative.ini\x22\x7d")
    else if path = ascii "ini/depth_sr-qnative.ini" then some (ascii "bitsInAB=16")
    else none
  probe := { control := some .adsd3100, imagerType := .adsd3100, dealiasParams := some [] }
  types := [⟨ascii "sr-qnative", 2560, 512⟩, ⟨ascii "lr-qnative", 2560, 512⟩]
  opening := { fails := fun _ => false }
  answers := { fails := fun _ => false }

/-- No system call fails. -/
def faultless : Answers := { fails := fun _ => false }

/-- A frame in the first buffer. -/
def oneFrame : FrameAnswers := { dequeued := .filled 0 [7] }

/-- What the labels of a history are, and the modes they are for. -/
def labels (h : CameraHistory) : List (UInt16 × Bytes × Option UInt8) :=
  h.shots.map (fun shot => (shot.frame.mode, shot.frame.frameType, shot.mode))

/-- The camera switches to short range, starts and captures a frame: the frame's
header says mode 2, its label is `sr-qnative`, and the device was in mode 2. -/
theorem agrees_of_run_qnative :
    ∃ (c : Camera) (h : CameraHistory),
      Camera.initializeDirectSensorIfAvailable qnative = some c ∧ h.Agrees qnative.files
        ∧ h.labels = [(2, ascii "sr-qnative", some 2)] := by
  let c := (Camera.initializeDirectSensorIfAvailable qnative).get (by decide +kernel)
  have hc : Camera.initializeDirectSensorIfAvailable qnative = some c := (Option.some_get _).symm
  have hinitial : Camera.TakesInitialControls qnative c := fun _ _ _ _ _ => rfl
  have hsfd : c.sensor.dev.sfd = true := by decide +kernel
  have hswitch : Guard qnative.files { camera := c } (.switchMode faultless (ascii "sr-qnative")) :=
    fun _ _ _ _ _ _ _ _ _ _ _ => .inl ⟨hsfd, rfl⟩
  have hstart : Guard qnative.files
      { camera := c.after qnative.files (.switchMode faultless (ascii "sr-qnative")) }
      (.start faultless []) := .inl (by decide +kernel)
  have hframe : ∀ h, Guard qnative.files h (.getFrame oneFrame) := fun _ => trivial
  exact ⟨c, _, hc, agrees_of_run hc hinitial (Machine.Run.cons hswitch rfl
    (Machine.Run.cons hstart rfl (Machine.Run.cons (hframe _) rfl (Machine.Run.nil _)))),
    by decide +kernel⟩

/-- **The label and the device can differ.** The second buffer of a switch to
short range cannot be mapped, and the camera is started again: it streams
short range (mode 2) with the label of long range (mode 3). -/
theorem not_agrees_of_mapBuffer :
    ∃ (c : Camera) (h : CameraHistory),
      Camera.initializeDirectSensorIfAvailable qnative = some c
        ∧ Machine.Run (step qnative.files) Machine.always { camera := c }
          [.switchMode { fails := fun call => call = .mapBuffer 1 } (ascii "sr-qnative"),
            .start faultless [], .getFrame oneFrame] h
        ∧ h.labels = [(3, ascii "lr-qnative", some 2)] ∧ ¬ h.Agrees qnative.files := by
  let c := (Camera.initializeDirectSensorIfAvailable qnative).get (by decide +kernel)
  have hlabels : (Machine.exec (step qnative.files) { camera := c }
      [.switchMode { fails := fun call => call = .mapBuffer 1 } (ascii "sr-qnative"),
        .start faultless [], .getFrame oneFrame]).map (fun h => (h.labels, h.camera.capturing,
          decide (h.camera.sensor.device.mode
            = some (h.camera.table.getModeInfo h.camera.modeName).mode)))
      = some ([(3, ascii "lr-qnative", some 2)], true, false) := by decide +kernel
  obtain ⟨h, hrun, hh⟩ := Option.map_eq_some_iff.mp hlabels
  obtain ⟨hlabels, hrest⟩ := Prod.mk.inj hh
  obtain ⟨hcapturing, hmode⟩ := Prod.mk.inj hrest
  refine ⟨c, h, (Option.some_get _).symm, Machine.run_iff_exec.mpr hrun, hlabels, fun hagrees => ?_⟩
  exact of_decide_eq_false hmode (hagrees.camera hcapturing).device

end CameraHistory
