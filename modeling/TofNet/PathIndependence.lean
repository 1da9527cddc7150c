import TofNet.ItofCamera
import TofNet.ModeLabel
import TofNet.Overrides

/-!
# The controls of a mode

Which controls a mode is streamed with should follow from its INI file. In
the source it does not: `apply_direct_ini_controls` sets the controls whose
keys the file has and returns at once for a mode without a file, and
`CameraItof::setFrameType` does the same with its map, which a file that
cannot be opened leaves as it was. The viewer, which decodes the frames, takes
the bit widths from the file of the frame's own mode.

A switch therefore overrides what is in force (`Overrides`), and two histories
that end with the same mode leave the same controls exactly if no other mode
leaks: every mode that can be switched to gives a control that the last mode's
file leaves out no value, or the one the control had at the start.

Both programs are shown to be machines of this kind, in three steps. What a
switch leaves in force is computed from the controls it sets
(`Synced.setFrameType`, `configureSensorFrameType_frame`); an invariant says of
every camera that was reached that it is one to which this applies
(`SwitchInvariant`); and then the step is an override (`applies_switchStep`).
The theorem of the library is applied to either of them.

The condition is one on the INI files, since these are the tables. It is to be
read as a list of the files that make a mode's controls depend on what came
before: every file that gives a key which the mode's own file does not give, and
not the value it had at the start.
-/

/-- A frame type that is listed is found by its name. -/
theorem exists_find?_type {types : List FrameType} {frameType : Bytes}
    (hlisted : ∃ type ∈ types, type.type = frameType) :
    ∃ type, types.find? (fun type => type.type = frameType) = some type
      ∧ type.type = frameType := by
  obtain ⟨type, hmem, hname⟩ := hlisted
  have hsome : (types.find? (fun type => type.type = frameType)).isSome = true :=
    List.find?_isSome.mpr ⟨type, hmem, decide_eq_true hname⟩
  obtain ⟨found, hfound⟩ := Option.isSome_iff_exists.mp hsome
  exact ⟨found, hfound, of_decide_eq_true (List.find?_some hfound :)⟩

/-! ## The sensor

The device and the sensor remember the controls apart, and the format follows
from those of the device. While both are the same (`Synced`), what is in force
is one table of values, and the format a function of it and of the frame type. -/

namespace Sensor

/-- **What is in force**: the controls the sensor remembers, those of the
device, and the format. -/
def inForce (s : Sensor) : (Control → ℕ) × (Control → Option ℕ) × (PixelFormat × ℕ × ℕ) :=
  (s.controls, s.device.control, s.device.format)

/-- The format a frame type has with the controls of `v` in force. -/
def formatFor (imager : ImagerType) (type : FrameType) (v : Control → Option ℕ) :
    PixelFormat × ℕ × ℕ :=
  let s : Sensor := { imagerType := imager, controls := fun k => (v k).getD 0 }
  ((s.pixelFormat type.type).getD .unset, s.formatSize type)

/-- What is in force with the controls of `v`. -/
def inForceFor (imager : ImagerType) (type : FrameType) (v : Control → Option ℕ) :
    (Control → ℕ) × (Control → Option ℕ) × (PixelFormat × ℕ × ℕ) :=
  (fun k => (v k).getD 0, v, formatFor imager type v)

/-- What is in force determines the controls, so that equal settings are equal
controls. -/
theorem inForceFor_injective (imager : ImagerType) (type : FrameType) :
    Function.Injective (inForceFor imager type) := fun _ _ h =>
  congrArg (fun t => t.2.1) h

/-- An open sensor that remembers the controls its device has. A control that
the device refuses is remembered all the same, and then this is lost; the
condition on the calls (`ControlsTaken`) is there for that. -/
structure Synced (s : Sensor) : Prop where
  /-- The sub-device is open. -/
  opened : s.dev.sfd = true
  /-- What the sensor remembers of a control is what the device has. -/
  remembered : s.controls = fun k => (s.device.control k).getD 0

variable {a : Answers} {s s' : Sensor} {table : ModeTable} {type : FrameType}

/-- What was set is remembered, whether or not the device took it. -/
theorem setControls_controls (a : Answers) (s : Sensor) (controls : List (Control × ℕ))
    (c : Control) :
    (s.setControls a controls).controls c = (controlValue controls c).getD (s.controls c) := by
  induction controls using List.reverseRecOn with
  | nil => rfl
  | append_singleton controls last ih =>
    have hstep : (s.setControls a (controls ++ [last])).controls
        = Function.update (s.setControls a controls).controls last.1 last.2 := by
      show ((controls ++ [last]).foldl (fun s c => s.setControl a c.1 c.2) s).controls = _
      rw [List.foldl_concat, setControl]
      dsimp only
      split
      · rfl
      · rfl
    rw [hstep, controlValue, assignAll_append]
    by_cases hc : c = last.1
    · rw [hc, Function.update_self, Function.update_self]
      rfl
    · rw [Function.update_of_ne hc, Function.update_of_ne hc]
      exact ih

/-- **Controls that are set and taken** override those in force, and a frame
type set behind them has their format. So what is in force behind a switch
depends on the controls before it only through those which the switch does not
set. -/
theorem Synced.setFrameType (hs : s.Synced) {controls : List (Control × ℕ)}
    (hfails : ∀ k, controlValue controls k ≠ none → a.fails (.setControl k) = false)
    (h : (s.setControls a controls).setFrameType a table type = (s', .ok)) :
    s'.Synced ∧ s'.imagerType = s.imagerType
      ∧ s'.device.control = override (controlValue controls) s.device.control
      ∧ s'.inForce = inForceFor s.imagerType type s'.device.control := by
  obtain ⟨mode, format, -, hformat, rfl⟩ := setFrameType_ok h
  obtain ⟨values, control, hframe⟩ := s.setControls_frame a controls
  have hcontrol : (s.setControls a controls).device.control
      = override (controlValue controls) s.device.control := by
    funext k
    rw [setControls_control]
    by_cases hk : controlValue controls k = none
    · rw [override_of_none hk, hk]
      exact ite_self _
    · rw [if_pos ⟨hs.opened, hfails k hk⟩]
      rfl
  have hremembered : (s.setControls a controls).controls
      = fun k => ((s.setControls a controls).device.control k).getD 0 := by
    funext k
    rw [setControls_controls, hcontrol, hs.remembered]
    show _ = ((controlValue controls k).or (s.device.control k)).getD 0
    cases controlValue controls k with
    | none => rfl
    | some v => rfl
  have himager : (s.setControls a controls).imagerType = s.imagerType := by rw [hframe]
  refine ⟨⟨rfl, hremembered⟩, himager, hcontrol, ?_⟩
  show ((s.setControls a controls).controls, (s.setControls a controls).device.control,
    (format, (s.setControls a controls).formatSize type)) = _
  have hpixels : (({ imagerType := s.imagerType
                     controls := (s.setControls a controls).controls } : Sensor).pixelFormat
      type.type) = some format := by
    rw [← hformat, ← himager]
    rfl
  show _ = ((fun k => ((s.setControls a controls).device.control k).getD 0),
    (s.setControls a controls).device.control, formatFor s.imagerType type
      (s.setControls a controls).device.control)
  rw [formatFor, ← hremembered, hpixels, ← himager]
  rfl

/-- Nothing in force depends on the stream. -/
theorem Synced.withStream (hs : s.Synced) (started : Bool) (queued : List ℕ) (streaming : Bool) :
    (s.withStream started queued streaming).Synced := ⟨hs.opened, hs.remembered⟩

end Sensor

/-! ## The collector

A switch may fail at any of its calls, and a failed one leaves something in
between. Path independence is asked of the runs in which the switches succeed:
the last one has to, for there to be a mode at its end, and one that fails
earlier is no history of modes. Between two switches anything may happen that is
not one. -/

namespace Camera

variable {a : Answers} {files : Files} {frameType : Bytes} {c c₀ c' : Camera}

/-- The controls the INI file of a frame type gives. -/
def iniValues (files : Files) (c : Camera) (frameType : Bytes) : Control → Option ℕ :=
  match iniControls files c.iniByMode frameType with
  | some controls => controlValue controls
  | none => fun _ => none

/-- A frame type that can be switched to: it is listed, its INI file can be
opened, and the mode table and the sensor know it. None of this changes during a
run. -/
structure Switchable (files : Files) (c : Camera) (frameType : Bytes) : Prop where
  listed : ∃ type ∈ c.types, type.type = frameType
  opens : ∀ path, c.iniByMode frameType = some path → files path ≠ none
  names : (c.table.convertCameraMode frameType).isSome = true
  pixelFormat : (c.sensor.pixelFormat frameType).isSome = true

/-- The calls of the camera, of which a switch has to succeed. -/
def switchStep (files : Files) : Machine Camera CameraCall := fun c call =>
  match call with
  | .switchMode a frameType =>
    match c.switchMode a files frameType with
    | (c, some true) => some c
    | _ => none
  | .start _ _ | .stop _ | .getFrame _ => some (c.after files call)

/-- The device takes the controls that are set. -/
def ControlsTaken (_ : Camera) : CameraCall → Prop
  | .switchMode a _ => ∀ k, a.fails (.setControl k) = false
  | .start _ _ | .stop _ | .getFrame _ => True

/-- The table of controls that a call applies. -/
def update (files : Files) (c : Camera) : CameraCall → Control → Option ℕ
  | .switchMode _ frameType => c.iniValues files frameType
  | .start _ _ | .stop _ | .getFrame _ => fun _ => none

/-- A switch to a frame type. -/
def SwitchesTo (frameType : Bytes) (call : CameraCall) : Prop :=
  ∃ a, call = .switchMode a frameType

/-- **Mode switching is path independent for a frame type**: after any two
sequences of calls that end with a switch to it, and whose switches all
succeed, the same is in force. -/
def PathIndependent (files : Files) (c : Camera) (frameType : Bytes) : Prop :=
  Machine.PathIndependent (switchStep files) ControlsTaken c (SwitchesTo frameType)
    (fun c => c.sensor.inForce)

/-- **No other mode leaks into a frame type**: a control that its INI file
leaves out is given no value by another mode's, or the one it has.

A switch sets the controls that the new mode's INI file names and leaves all
others as they are, so a value that another mode's file has set stays in force.
The condition is on the files alone, and on the values that the controls start
with. -/
def NoLeak (files : Files) (c : Camera) (frameType : Bytes) : Prop :=
  c.Switchable files frameType → ∀ k, c.iniValues files frameType k = none →
    ∀ mode, c.Switchable files mode →
      c.iniValues files mode k = none ∨ c.iniValues files mode k = c.sensor.device.control k

/-- **What every call keeps**, of a camera that was initialised as `c₀`. -/
structure SwitchInvariant (files : Files) (c₀ c : Camera) : Prop where
  types : c.types = c₀.types
  table : c.table = c₀.table
  iniByMode : c.iniByMode = c₀.iniByMode
  imager : c.sensor.imagerType = c₀.sensor.imagerType
  synced : c.sensor.Synced
  switchable : c₀.Switchable files c.modeName
  current : override (c₀.iniValues files c.modeName) c.sensor.device.control
    = c.sensor.device.control
  inForce : ∀ type, c₀.types.find? (fun type => type.type = c.modeName) = some type →
    c.sensor.inForce
      = Sensor.inForceFor c₀.sensor.imagerType type c.sensor.device.control

/-! ### What a call does

Starting and stopping the stream change nothing that a mode puts in force. So a
history is known by its successful switches, and each of these leaves behind
what the sensor was asked for: the type, the values in the INI file where it has
some, and the values before where it has none. -/

/-- A call that is no switch changes the stream only. -/
theorem after_stream (files : Files) (c : Camera) (call : CameraCall)
    (hcall : ∀ a frameType, call ≠ .switchMode a frameType) :
    ∃ started queued streaming capturing, c.after files call = { c with
      sensor := c.sensor.withStream started queued streaming, capturing := capturing } := by
  cases call with
  | switchMode a frameType => exact absurd rfl (hcall a frameType)
  | start a frames =>
    obtain ⟨started, queued, streaming, hstop⟩ := c.stop_frame (a.fails .streamOff)
    rcases c.start_cases a frames with ⟨queued', -, heq⟩ | ⟨s, status, hstatus, hs, heq⟩
    · obtain ⟨queued'', hwarm⟩ := warmup_frame frames { c with
        sensor := (c.stop (a.fails .streamOff)).sensor.withStream true queued' true
        capturing := true }
      refine ⟨true, queued'', true, true, ?_⟩
      show (c.start a frames).1 = _
      rw [heq, hwarm, hstop]
      rfl
    · obtain ⟨queued', rfl⟩ := Sensor.start_not_ok hs hstatus
      refine ⟨started, queued', streaming, false, ?_⟩
      show (c.start a frames).1 = _
      rw [heq, hstop]
      rfl
  | stop fails =>
    obtain ⟨started, queued, streaming, hstop⟩ := c.stop_frame fails
    exact ⟨started, queued, streaming, false, hstop⟩
  | getFrame d =>
    obtain ⟨queued, hframe⟩ := c.getFrame_frame d
    exact ⟨_, queued, _, c.capturing, hframe⟩

/-- A frame type that was set. -/
theorem setDirectFrameType_ok
    (h : c.setDirectFrameType a files frameType = (c', some .ok)) :
    ∃ type controls s, c.types.find? (fun type => type.type = frameType) = some type
      ∧ (∀ path, c.iniByMode frameType = some path → files path ≠ none)
      ∧ iniControls files c.iniByMode frameType = some controls
      ∧ (c.sensor.setControls a controls).setFrameType a c.table type = (s, .ok)
      ∧ c' = { c with sensor := s } := by
  unfold setDirectFrameType at h
  split at h
  · cases h
  next type htype =>
    split at h
    · cases h
    next s₁ hs₁ =>
      obtain ⟨hopens, controls, hcontrols, rfl⟩ := applyDirectIniControls_eq_some_iff.mp hs₁
      obtain ⟨rfl, hstatus⟩ := Prod.mk.inj h
      exact ⟨type, controls, _, htype, fun path hpath => (hopens path hpath).2, hcontrols,
        Prod.ext rfl (Option.some.inj hstatus), rfl⟩

/-- **A switch that succeeded**: to the mode there was already, which does
nothing, or to another one, with all its steps. The controls are set on the
sensor as it is when the stream has been stopped. -/
theorem switchMode_eq_true (h : c.switchMode a files frameType = (c', some true)) :
    (frameType = c.modeName ∧ c' = c)
    ∨ ∃ type controls s, c.types.find? (fun type => type.type = frameType) = some type
      ∧ (∀ path, c.iniByMode frameType = some path → files path ≠ none)
      ∧ iniControls files c.iniByMode frameType = some controls
      ∧ ((c.stop (a.fails .streamOff)).sensor.setControls a controls).setFrameType a c.table type
        = (s, .ok)
      ∧ c' = { c with
        sensor := s, capturing := false, modeName := frameType
        mode := (c.table.getModeInfo frameType).mode.toUInt16 } := by
  unfold switchMode at h
  split at h
  · next heq =>
    cases h
    exact .inl ⟨heq, rfl⟩
  · split at h
    · next c₁ hset =>
      cases h
      obtain ⟨type, controls, s, htype, hopens, hcontrols, hs, rfl⟩ := setDirectFrameType_ok hset
      exact .inr ⟨type, controls, s, htype, hopens, hcontrols, hs, rfl⟩
    · cases h
    · cases h

/-- What a frame type that has just been set makes of the invariant. This is for
the end of a switch, and for the end of the initialisation, which sets a frame
type in the same way. -/
theorem SwitchInvariant.of_set {type : FrameType} {controls : List (Control × ℕ)} {s s' : Sensor}
    (htypes : c.types = c₀.types) (htable : c.table = c₀.table)
    (hini : c.iniByMode = c₀.iniByMode) (himager : s.imagerType = c₀.sensor.imagerType)
    (hs : s.Synced)
    (hfails : ∀ k, controlValue controls k ≠ none → a.fails (.setControl k) = false)
    (htype : c₀.types.find? (fun type => type.type = frameType) = some type)
    (hopens : ∀ path, c₀.iniByMode frameType = some path → files path ≠ none)
    (hcontrols : iniControls files c₀.iniByMode frameType = some controls)
    (hset : (s.setControls a controls).setFrameType a c₀.table type = (s', .ok))
    (hsensor : c.sensor = s') (hname : c.modeName = frameType) :
    SwitchInvariant files c₀ c
      ∧ c.sensor.device.control = override (c₀.iniValues files frameType) s.device.control := by
  have hvalues : c₀.iniValues files frameType = controlValue controls := by
    rw [iniValues, hcontrols]
  obtain ⟨hsynced, himager', hcontrol, hforce⟩ := hs.setFrameType hfails hset
  have hnamed : type.type = frameType := of_decide_eq_true (List.find?_some htype :)
  have haccepts := Sensor.setFrameType_status.mp (congrArg Prod.snd hset)
  subst hsensor hname
  rw [← hvalues] at hcontrol
  refine ⟨{ types := htypes, table := htable, iniByMode := hini, imager := himager'.trans himager
            synced := hsynced, switchable := ?_, current := ?_, inForce := ?_ }, hcontrol⟩
  · refine ⟨⟨type, List.mem_of_find?_eq_some htype, hnamed⟩, hopens, hnamed ▸ haccepts.names, ?_⟩
    obtain ⟨values, control, hframe⟩ := s.setControls_frame a controls
    have hpixels := haccepts.pixelFormat
    rw [hnamed] at hpixels
    rw [← hpixels]
    refine Sensor.pixelFormat_isSome_congr ?_ _
    rw [hframe]
    exact himager.symm
  · rw [hcontrol]
    exact override_override _ _
  · intro type' htype'
    cases htype.symm.trans htype'
    rw [hforce, himager]

/-- **Every successful switch and every other call keeps the invariant**, and
applies the table of its frame type. A switch to the mode there is applies it,
too: by `current`, the values of its file are in force already. With this the
collector is a machine of the kind that the library's theorem is about. -/
theorem applies_switchStep (files : Files) (c₀ : Camera) :
    Machine.Applies (switchStep files) ControlsTaken (SwitchInvariant files c₀)
      (fun w => (∀ k, w k = none)
        ∨ ∃ mode, c₀.Switchable files mode ∧ w = c₀.iniValues files mode)
      (c₀.update files) (fun c => c.sensor.device.control) := by
  intro c call c' hc htaken hstep
  by_cases hcall : ∃ a frameType, call = .switchMode a frameType
  · obtain ⟨a, frameType, rfl⟩ := hcall
    unfold switchStep at hstep
    dsimp only at hstep
    split at hstep
    · next c₁ hswitch =>
      cases hstep
      rcases switchMode_eq_true hswitch with ⟨rfl, rfl⟩ |
        ⟨type, controls, s, htype, hopens, hcontrols, hset, rfl⟩
      · exact ⟨hc, .inr ⟨_, hc.switchable, rfl⟩, hc.current.symm⟩
      · obtain ⟨started, queued, streaming, hstop⟩ := c.stop_frame (a.fails .streamOff)
        rw [hstop] at hset
        rw [hc.types] at htype
        rw [hc.iniByMode] at hopens hcontrols
        rw [hc.table] at hset
        obtain ⟨hinv, hvalue⟩ := SwitchInvariant.of_set
          (c := { c with
            sensor := s, capturing := false, modeName := frameType
            mode := (c.table.getModeInfo frameType).mode.toUInt16 })
          (s := c.sensor.withStream started queued streaming)
          hc.types hc.table hc.iniByMode hc.imager (hc.synced.withStream _ _ _)
          (fun k _ => htaken k) htype hopens
          hcontrols hset rfl rfl
        exact ⟨hinv, .inr ⟨frameType, hinv.switchable, rfl⟩, hvalue⟩
    · cases hstep
  · have hother : ∀ a frameType, call ≠ .switchMode a frameType := fun a frameType h =>
      hcall ⟨a, frameType, h⟩
    obtain ⟨started, queued, streaming, capturing, hafter⟩ := c.after_stream files call hother
    have hsome : switchStep files c call = some (c.after files call) := by
      cases call with
      | switchMode a frameType => exact absurd rfl (hother a frameType)
      | start a frames => rfl
      | stop fails => rfl
      | getFrame d => rfl
    have hnone : c₀.update files call = fun _ => none := by
      cases call with
      | switchMode a frameType => exact absurd rfl (hother a frameType)
      | start a frames => rfl
      | stop fails => rfl
      | getFrame d => rfl
    cases Option.some.inj (hsome.symm.trans hstep)
    rw [hafter, hnone]
    refine ⟨?_, .inl (fun _ => rfl), rfl⟩
    exact { types := hc.types, table := hc.table, iniByMode := hc.iniByMode, imager := hc.imager
            synced := hc.synced.withStream _ _ _, switchable := hc.switchable
            current := hc.current, inForce := hc.inForce }

/-- **A frame type that can be switched to is**, where no system call fails. A
leak can therefore be turned into a run. -/
theorem SwitchInvariant.switches (hc : SwitchInvariant files c₀ c)
    (hmode : c₀.Switchable files frameType) :
    ∃ c', switchStep files c (.switchMode CameraHistory.faultless frameType) = some c' := by
  obtain ⟨started, queued, streaming, hstop⟩ := c.stop_frame false
  obtain ⟨type, htype, hnamed⟩ := exists_find?_type hmode.listed
  obtain ⟨controls, hcontrols⟩ : ∃ controls, iniControls files c₀.iniByMode frameType
      = some controls := by
    unfold iniControls
    cases hpath : c₀.iniByMode frameType with
    | none => exact ⟨[], rfl⟩
    | some path =>
      obtain ⟨text, htext⟩ := Option.ne_none_iff_exists'.mp (hmode.opens path hpath)
      exact ⟨_, by dsimp only; rw [htext]; rfl⟩
  have happly : (c.stop false).applyDirectIniControls CameraHistory.faultless files frameType
      = some ((c.stop false).sensor.setControls CameraHistory.faultless controls) := by
    refine applyDirectIniControls_eq_some_iff.mpr ⟨fun path hpath => ⟨rfl, ?_⟩, controls, ?_, rfl⟩
    · rw [hstop, show ({ c with sensor := _, capturing := false } : Camera).iniByMode
        = c₀.iniByMode from hc.iniByMode] at hpath
      exact hmode.opens path hpath
    · rw [hstop]
      show iniControls files c.iniByMode frameType = some controls
      rw [hc.iniByMode, hcontrols]
  have haccepts : ((c.stop false).sensor.setControls CameraHistory.faultless controls).Accepts
      CameraHistory.faultless c.table type := by
    rw [accepts_iff_switching]
    exact {
      openDevice := rfl, openSubdevice := rfl, firstOpen := fun _ => rfl
      names := by rw [hnamed, hc.table]; exact hmode.names
      setMode := rfl, freeBuffers := fun _ => rfl
      pixelFormat := by
        rw [hnamed, Sensor.pixelFormat_isSome_congr hc.imager]
        exact hmode.pixelFormat
      setFormat := rfl, requestBuffers := rfl, allocate := rfl
      buffers := fun _ _ => ⟨rfl, rfl⟩ }
  have hset := Sensor.setFrameType_status.mpr haccepts
  unfold switchStep switchMode
  dsimp only
  by_cases heq : frameType = c.modeName
  · rw [if_pos heq]
    exact ⟨c, rfl⟩
  · rw [if_neg heq]
    rw [show CameraHistory.faultless.fails Ioctl.streamOff = false from rfl, setDirectFrameType,
      show (c.stop false).types = c₀.types by rw [hstop]; exact hc.types, htype]
    dsimp only
    rw [happly]
    dsimp only
    rw [show (c.stop false).table = c.table by rw [hstop], hset]
    exact ⟨_, rfl⟩

/-- A successful switch ends in its frame type. -/
theorem modeName_of_switchStep (h : switchStep files c (.switchMode a frameType) = some c') :
    c'.modeName = frameType := by
  unfold switchStep at h
  dsimp only at h
  split at h
  · next c₁ hswitch =>
    cases h
    rcases switchMode_eq_true hswitch with ⟨rfl, rfl⟩ | ⟨_, _, _, _, _, _, _, rfl⟩
    · rfl
    · rfl
  · cases h

/-! ### Where a history begins

Initialising a camera ends with putting a frame type in force. So where its
controls were taken, the invariant holds of a camera that was initialised, and
with it of every state that is reached from there. -/

/-- Initialising a camera ends with setting its frame type. -/
theorem setDirectFrameType_of_initialize {i : CameraSetup}
    (h : initializeDirectSensorIfAvailable i = some c) :
    ∃ c₁ : Camera, c₁.sensor.Synced ∧ c₁.modeName = c.modeName
      ∧ c₁.setDirectFrameType i.answers i.files c₁.modeName = (c, some .ok) := by
  unfold initializeDirectSensorIfAvailable at h
  split at h
  · next sensor hopen =>
    cases Sensor.openFiles_ok hopen
    split at h
    · next table config _ _ =>
      dsimp only at h
      split at h
      · cases h
      · split at h
        · next c' hset =>
          cases h
          obtain ⟨type, controls, s, -, -, -, -, rfl⟩ := setDirectFrameType_ok hset
          exact ⟨{
            types := i.types, table := table, iniByMode := config.iniByMode
            sensor := {
              dev := { fd := true, sfd := true }, imagerType := i.probe.imagerType
              firstRun := false }
            modeName := modeNameFromId i.types table i.mode, mode := i.mode },
            ⟨rfl, rfl⟩, rfl, hset⟩
        · cases h
    · cases h
  · cases h

/-- A camera that was initialised, and whose controls were taken. -/
theorem SwitchInvariant.of_initialize {i : CameraSetup}
    (h : initializeDirectSensorIfAvailable i = some c) (hcontrols : TakesInitialControls i c) :
    SwitchInvariant i.files c c := by
  obtain ⟨c₁, hsynced, hname, hset⟩ := setDirectFrameType_of_initialize h
  obtain ⟨type, controls, s, htype, hopens, hini, hs, rfl⟩ := setDirectFrameType_ok hset
  have htaken : ∀ k, controlValue controls k ≠ none → i.answers.fails (.setControl k) = false := by
    intro k hk
    obtain ⟨v, hv⟩ := Option.ne_none_iff_exists'.mp hk
    exact hcontrols controls hini k v hv
  obtain ⟨-, himager, -, -⟩ := hsynced.setFrameType htaken hs
  have hchosen : SwitchInvariant i.files { c₁ with sensor := s } _ ∧ _ :=
    SwitchInvariant.of_set rfl rfl rfl himager.symm hsynced htaken htype hopens hini hs rfl rfl
  exact hchosen.1

/-- **Switching is path independent for a frame type exactly if no other mode
leaks into it.** The library has the argument (`Applies`); what it asks for are
`applies_switchStep`, that each mode can be switched to, and that what is in
force is an injective function of the controls. -/
theorem SwitchInvariant.pathIndependent_iff (hc : SwitchInvariant files c c) (frameType : Bytes) :
    c.PathIndependent files frameType ↔ c.NoLeak files frameType := by
  by_cases hft : c.Switchable files frameType
  · obtain ⟨type, htype, -⟩ := exists_find?_type hft.listed
    have htaken : ∀ (c : Camera) (mode : Bytes),
        c.ControlsTaken (.switchMode CameraHistory.faultless mode) := fun _ _ _ => rfl
    have hlaw := Machine.pathIndependent_iff (applies_switchStep files c) hc
      (Sensor.inForceFor_injective c.sensor.imagerType type)
      (u := c.iniValues files frameType) (L := SwitchesTo frameType)
      (g := fun c => c.sensor.inForce) ?_ ?_ ?_ ?_
    · constructor
      · intro h _ k hk mode hmode
        exact hlaw.mp h k hk _ (.inr ⟨mode, hmode, rfl⟩)
      · intro h
        refine hlaw.mpr (fun k hk w hw => ?_)
        rcases hw with hw | ⟨mode, hmode, rfl⟩
        · exact .inl (hw k)
        · exact h hft k hk mode hmode
    · rintro call ⟨a, rfl⟩
      rfl
    · rintro c₁ call c₂ hc₁ htaken₁ ⟨a, rfl⟩ hstep
      have hinv := (applies_switchStep files c _ _ _ hc₁ htaken₁ hstep).1
      refine hinv.inForce type ?_
      rw [modeName_of_switchStep hstep]
      exact htype
    · obtain ⟨c', hswitch⟩ := hc.switches hft
      exact ⟨_, c', ⟨_, rfl⟩, Machine.Run.cons (htaken c frameType) hswitch (Machine.Run.nil _)⟩
    · rintro w (hw | ⟨mode, hmode, rfl⟩)
      · exact .inl hw
      · obtain ⟨c', hswitch⟩ := hc.switches hmode
        have hinv := (applies_switchStep files c _ _ _ hc (htaken c mode) hswitch).1
        obtain ⟨c'', hswitch'⟩ := hinv.switches hft
        exact .inr ⟨_, _, c'', rfl, ⟨_, rfl⟩, Machine.Run.cons (htaken c mode) hswitch
          (Machine.Run.cons (htaken c' frameType) hswitch' (Machine.Run.nil _))⟩
  · -- no run ends with a switch to it
    refine ⟨fun _ h => absurd h hft, ?_⟩
    rintro - as bs a b c₁ c₂ ⟨a, rfl⟩ - hrun -
    obtain ⟨c', hrun', htaken, hstep⟩ := hrun.of_snoc
    have hinv := ((applies_switchStep files c).run hc hrun').1
    have hinv' := (applies_switchStep files c _ _ _ hinv htaken hstep).1
    exact absurd (modeName_of_switchStep hstep ▸ hinv'.switchable) hft

end Camera

/-! ## The SDK's camera

Here a file that can be opened is read into a map, and the controls are set from
the map. A file that cannot be opened leaves the map of the last one, and the
controls of that are set once more. So the map is part of what a call leaves
behind, and the invariant is about it too. -/

namespace ItofCamera

variable {a : ItofAnswers} {files : Files} {frameType : Bytes} {c c₀ c' : ItofCamera}

/-- The controls a map sets. -/
def mapControls (kv : Bytes → Option Bytes) : List (Control × ℕ) :=
  controlsBeforeAb kv ++ controlsFromAb kv

/-- The text of a frame type's INI file, if it can be opened. -/
def iniText (files : Files) (c : ItofCamera) (frameType : Bytes) : Option Bytes :=
  if c.iniDepthOf frameType = [] then none else files (c.iniDepthOf frameType)

/-- The controls the INI file of a frame type gives. -/
def iniValues (files : Files) (c : ItofCamera) (frameType : Bytes) : Control → Option ℕ :=
  match c.iniText files frameType with
  | some text => controlValue (mapControls (iniPairs text))
  | none => fun _ => none

/-- The map once a frame type's file has been read, or could not be. -/
def keyValPairsAfter (files : Files) (c : ItofCamera) (frameType : Bytes) :
    Bytes → Option Bytes :=
  match c.iniText files frameType with
  | some text => iniPairs text
  | none => c.iniKeyValPairs

/-- The numbers of a map can be read. Where they cannot, `stoi` throws, and the
call fails on its way. -/
def Parses (kv : Bytes → Option Bytes) : Prop :=
  (∀ param ∈ iniParams kv, param.2 ≠ none)
    ∧ ∀ value, kv (ascii "bitsInAB") = some value → stoi value ≠ none

/-- A frame type that can be set: it is listed, the numbers of its INI file
can be read, and the mode table and the sensor know it. -/
structure Switchable (files : Files) (c : ItofCamera) (frameType : Bytes) : Prop where
  listed : ∃ type ∈ c.types, type.type = frameType
  parses : ∀ text, c.iniText files frameType = some text → Parses (iniPairs text)
  names : (c.table.convertCameraMode frameType).isSome = true
  pixelFormat : (c.sensor.pixelFormat frameType).isSome = true

/-- A `setFrameType` that succeeds. -/
def switchStep (files : Files) : Machine ItofCamera (ItofAnswers × Bytes) := fun c call =>
  match c.setFrameType call.1 files call.2 with
  | (c, some .ok) => some c
  | _ => none

/-- The device takes the controls that are set, and a file that is there can
be opened. -/
def ControlsTaken (_ : ItofCamera) (call : ItofAnswers × Bytes) : Prop :=
  (∀ k, call.1.sensor.fails (.setControl k) = false) ∧ call.1.sensor.fails .openIni = false

/-- **`setFrameType` is path independent for a frame type**: after any two
sequences of successful calls that end with it, the same is in force. -/
def PathIndependent (files : Files) (c : ItofCamera) (frameType : Bytes) : Prop :=
  Machine.PathIndependent (switchStep files) ControlsTaken c (fun call => call.2 = frameType)
    (fun c => c.sensor.inForce)

/-- **No other mode leaks into a frame type**, as for the collector. A mode
whose file cannot be opened gives no values, although the source sets the
controls of the last map for it; these are in force already. -/
def NoLeak (files : Files) (c : ItofCamera) (frameType : Bytes) : Prop :=
  c.Switchable files frameType → ∀ k, c.iniValues files frameType k = none →
    ∀ mode, c.Switchable files mode →
      c.iniValues files mode k = none ∨ c.iniValues files mode k = c.sensor.device.control k

/-- A camera that has not set a frame type yet. -/
structure Fresh (c : ItofCamera) : Prop where
  /-- The sensor and its device agree. -/
  synced : c.sensor.Synced
  /-- No INI file has been read. -/
  empty : c.iniKeyValPairs = fun _ => none

/-! ### What the parts of `setFrameType` do

`setFrameType` is long, and most of it does not change anything in force. So
each part gets a lemma that says what it may change and when it goes to its end,
and no part is unfolded again. -/

/-- An empty map has no numbers that could not be read. -/
theorem parses_empty : Parses (fun _ => none) :=
  ⟨fun _ h => absurd h List.not_mem_nil, fun _ h => absurd h (Option.some_ne_none _).symm⟩

/-- With several INI files the one of the frame type is chosen. -/
theorem iniDepthOf_of_several (c : ItofCamera) (h : 1 < c.iniDepthMap.length) (mode : Bytes) :
    c.iniDepthOf mode
      = ((c.iniDepthMap.find? (fun entry => entry.1 = mode)).map Prod.snd).getD [] := by
  rw [iniDepthOf, if_pos h]
  cases c.iniDepthMap.find? (fun entry => entry.1 = mode) with
  | none => rfl
  | some entry => rfl

/-- With one it is that. -/
theorem iniDepthOf_of_single (c : ItofCamera) (h : ¬ 1 < c.iniDepthMap.length) (mode : Bytes) :
    c.iniDepthOf mode = c.iniDepth := by
  rw [iniDepthOf, if_neg h]

/-- Choosing the file changes no other choice. It may put an entry without a
file into the map, as `operator[]` does, and such an entry chooses what no entry
would have. -/
theorem chooseIniDepth_frame (frameType : Bytes) (c : ItofCamera) :
    ∃ map, c.chooseIniDepth frameType
        = { c with iniDepth := c.iniDepthOf frameType, iniDepthMap := map }
      ∧ ∀ c' : ItofCamera, c'.iniDepth = c.iniDepthOf frameType → c'.iniDepthMap = map →
        ∀ mode, c'.iniDepthOf mode = c.iniDepthOf mode := by
  by_cases hlen : 1 < c.iniDepthMap.length
  · rw [chooseIniDepth, if_pos hlen]
    cases hfind : c.iniDepthMap.find? (fun entry => entry.1 = frameType) with
    | some entry =>
      refine ⟨c.iniDepthMap, rfl, fun c' _ hmap mode => ?_⟩
      rw [c.iniDepthOf_of_several hlen, c'.iniDepthOf_of_several (hmap ▸ hlen), hmap]
    | none =>
      refine ⟨c.iniDepthMap ++ [(frameType, [])], rfl, fun c' _ hmap mode => ?_⟩
      have hlen' : 1 < c'.iniDepthMap.length := by
        rw [hmap, List.length_append]
        exact Nat.lt_add_right _ hlen
      rw [c.iniDepthOf_of_several hlen, c'.iniDepthOf_of_several hlen', hmap, List.find?_append]
      cases c.iniDepthMap.find? (fun entry => entry.1 = mode) with
      | some entry => rfl
      | none =>
        rw [Option.none_or, List.find?_singleton]
        split
        · rfl
        · rfl
  · rw [chooseIniDepth, if_neg hlen]
    refine ⟨c.iniDepthMap, ?_, fun c' hdepth hmap mode => ?_⟩
    · rw [c.iniDepthOf_of_single hlen]
    · rw [c'.iniDepthOf_of_single (hmap ▸ hlen), hdepth, c.iniDepthOf_of_single hlen,
        c.iniDepthOf_of_single hlen]

/-- Writing parameters changes registers, and goes to the end where all of
them are numbers. -/
theorem writeParams_frame (a : ItofAnswers) (params : List (UInt16 × Option UInt16))
    (c : ItofCamera) :
    (∃ registers, (writeParams a params c).1 = { c with registers := registers })
      ∧ ((writeParams a params c).2 = true ↔ ∀ param ∈ params, param.2 ≠ none) := by
  induction params generalizing c with
  | nil => exact ⟨⟨c.registers, rfl⟩, fun _ _ h => absurd h List.not_mem_nil, fun _ => rfl⟩
  | cons param params ih =>
    obtain ⟨cmd, value⟩ := param
    cases value with
    | none =>
      refine ⟨⟨c.registers, rfl⟩, fun h => Bool.noConfusion h, fun h => ?_⟩
      exact absurd rfl (h _ List.mem_cons_self)
    | some value =>
      obtain ⟨⟨registers, hframe⟩, hall⟩ := ih (if a.writeFails cmd = true then c
        else { c with registers := Function.update c.registers cmd (some value) })
      refine ⟨⟨registers, ?_⟩, ?_⟩
      · rw [writeParams, hframe]
        split
        · rfl
        · rfl
      · rw [writeParams, hall, List.forall_mem_cons]
        exact ⟨fun h => ⟨Option.some_ne_none _, h⟩, fun h => h.2⟩

/-- **Configuring the sensor sets the controls of the map**, or throws. It notes
the widths for the camera as well, and nothing else in it matters here. -/
theorem configureSensorFrameType_frame (a : ItofAnswers) (c : ItofCamera) :
    ((c.configureSensorFrameType a).2 = true ↔
        ∀ value, c.iniKeyValPairs (ascii "bitsInAB") = some value → stoi value ≠ none)
      ∧ ((c.configureSensorFrameType a).2 = true → ∃ abEnabled abBitsPerPixel xyzEnabled,
        (c.configureSensorFrameType a).1 = { c with
          sensor := c.sensor.setControls a.sensor (mapControls c.iniKeyValPairs)
          abEnabled := abEnabled, abBitsPerPixel := abBitsPerPixel
          xyzEnabled := xyzEnabled }) := by
  have hall : (c.sensor.setControls a.sensor (controlsBeforeAb c.iniKeyValPairs)).setControls
      a.sensor (controlsFromAb c.iniKeyValPairs)
      = c.sensor.setControls a.sensor (mapControls c.iniKeyValPairs) :=
    (List.foldl_append ..).symm
  unfold configureSensorFrameType noteAb
  dsimp only
  cases hab : c.iniKeyValPairs (ascii "bitsInAB") with
  | none =>
    dsimp only
    rw [hall]
    exact ⟨⟨fun _ _ h => absurd h (Option.some_ne_none _).symm, fun _ => rfl⟩,
      fun _ => ⟨_, _, _, rfl⟩⟩
  | some value =>
    dsimp only
    cases hvalue : stoi value with
    | none =>
      refine ⟨⟨fun h => Bool.noConfusion h, fun h => ?_⟩, fun h => Bool.noConfusion h⟩
      exact absurd hvalue (h value rfl)
    | some n =>
      dsimp only [Option.map]
      rw [hall]
      refine ⟨⟨fun _ value' h => ?_, fun _ => rfl⟩, fun _ => ⟨_, _, _, rfl⟩⟩
      cases h
      rw [hvalue]
      exact Option.some_ne_none n

/-- **All of `setFrameType` ahead of the sensor's**, where files that are there
can be opened: it goes to its end exactly if the map's numbers can be read, and
has then set the map's controls. This is the one lemma about the long front of
the function; what is behind it is the sensor's. -/
theorem configure_frame (hopen : a.sensor.fails .openIni = false) (frameType : Bytes)
    (c : ItofCamera) :
    ((c.configure a files frameType).2 = true ↔ Parses (c.keyValPairsAfter files frameType))
      ∧ ((c.configure a files frameType).2 = true →
        ((c.configure a files frameType).1.sensor = c.sensor.setControls a.sensor
            (mapControls (c.keyValPairsAfter files frameType))
          ∧ (c.configure a files frameType).1.iniKeyValPairs = c.keyValPairsAfter files frameType
          ∧ (c.configure a files frameType).1.types = c.types
          ∧ (c.configure a files frameType).1.table = c.table
          ∧ ∀ mode, (c.configure a files frameType).1.iniDepthOf mode = c.iniDepthOf mode)) := by
  obtain ⟨map, hchoose, hdepth⟩ := c.chooseIniDepth_frame frameType
  have hread : getKeyValuePairsFromIni a files { c.chooseIniDepth frameType with
        pcmFrame := frameType = ascii "pcm-native" }
      = { c with
        iniDepth := c.iniDepthOf frameType, iniDepthMap := map
        pcmFrame := frameType = ascii "pcm-native"
        iniKeyValPairs := c.keyValPairsAfter files frameType } := by
    rw [hchoose, getKeyValuePairsFromIni, keyValPairsAfter, iniText, hopen]
    dsimp only
    by_cases hnil : c.iniDepthOf frameType = []
    · rw [if_pos (.inl hnil), if_pos hnil]
    · rw [if_neg (by simp [hnil]), if_neg hnil]
      cases files (c.iniDepthOf frameType) with
      | none => rfl
      | some text => rfl
  unfold configure
  dsimp only
  rw [hread]
  generalize hc₁ : ({ c with
    iniDepth := c.iniDepthOf frameType, iniDepthMap := map
    pcmFrame := frameType = ascii "pcm-native"
    iniKeyValPairs := c.keyValPairsAfter files frameType } : ItofCamera) = c₁
  have hkv : c₁.iniKeyValPairs = c.keyValPairsAfter files frameType := by rw [← hc₁]
  obtain ⟨⟨registers, hparams⟩, hnumbers⟩ := writeParams_frame a (iniParams c₁.iniKeyValPairs) c₁
  rw [hkv] at hnumbers
  -- a number that cannot be read throws, in either of the two calls
  rcases hwrite : c₁.setAdsd3500WithIniParams a with ⟨c₂, returned⟩
  unfold setAdsd3500WithIniParams at hwrite
  rw [hkv] at hwrite hparams
  rw [hwrite] at hparams hnumbers
  cases returned with
  | false =>
    refine ⟨⟨fun h => Bool.noConfusion h, fun h => ?_⟩, fun h => Bool.noConfusion h⟩
    exact absurd (hnumbers.mpr h.1) Bool.noConfusion
  | true =>
    dsimp only at hparams ⊢
    obtain ⟨hreturns, hframe⟩ := c₂.configureSensorFrameType_frame a
    have hkv₂ : c₂.iniKeyValPairs = c.keyValPairsAfter files frameType := by
      rw [hparams, ← hc₁]
    rw [hkv₂] at hreturns hframe
    rcases hset : c₂.configureSensorFrameType a with ⟨c₃, returned⟩
    rw [hset] at hreturns hframe
    cases returned with
    | false =>
      refine ⟨⟨fun h => Bool.noConfusion h, fun h => ?_⟩, fun h => Bool.noConfusion h⟩
      exact absurd (hreturns.mpr h.2) Bool.noConfusion
    | true =>
      refine ⟨⟨fun _ => ⟨hnumbers.mp rfl, hreturns.mp rfl⟩, fun _ => rfl⟩, fun _ => ?_⟩
      obtain ⟨abEnabled, abBitsPerPixel, xyzEnabled, hc₃⟩ := hframe rfl
      dsimp only at hc₃ ⊢
      rw [hc₃, hparams, ← hc₁]
      exact ⟨rfl, rfl, rfl, rfl, hdepth _ rfl rfl⟩

/-! ### Its runs

A run is a list of frame types that were set, each successfully. To set the
controls of a map that was set before changes nothing, so that a mode without a
file is a table that gives nothing here as well. -/

/-- **What every successful call keeps**, of a camera that began as `c₀`. -/
structure SwitchInvariant (files : Files) (c₀ c : ItofCamera) : Prop where
  types : c.types = c₀.types
  table : c.table = c₀.table
  iniDepthOf : ∀ mode, c.iniDepthOf mode = c₀.iniDepthOf mode
  imager : c.sensor.imagerType = c₀.sensor.imagerType
  synced : c.sensor.Synced
  parses : Parses c.iniKeyValPairs
  current : override (controlValue (mapControls c.iniKeyValPairs)) c.sensor.device.control
    = c.sensor.device.control

/-- A camera that has not set a frame type has an empty map, which gives
nothing. -/
theorem Fresh.switchInvariant (hc : c.Fresh) : SwitchInvariant files c c where
  types := rfl
  table := rfl
  iniDepthOf := fun _ => rfl
  imager := rfl
  synced := hc.synced
  parses := by
    rw [hc.empty]
    exact parses_empty
  current := by
    rw [hc.empty]
    exact override_none (fun _ => rfl)

/-- A `setFrameType` that succeeded. -/
theorem setFrameType_ok (h : c.setFrameType a files frameType = (c', some .ok)) :
    ∃ type s, c.types.find? (fun type => type.type = frameType) = some type
      ∧ (c.configure a files frameType).2 = true
      ∧ (c.configure a files frameType).1.sensor.setFrameType a.sensor
        (c.configure a files frameType).1.table type = (s, .ok)
      ∧ c'.sensor = s
      ∧ c'.types = (c.configure a files frameType).1.types
      ∧ c'.table = (c.configure a files frameType).1.table
      ∧ c'.iniKeyValPairs = (c.configure a files frameType).1.iniKeyValPairs
      ∧ c'.iniDepth = (c.configure a files frameType).1.iniDepth
      ∧ c'.iniDepthMap = (c.configure a files frameType).1.iniDepthMap := by
  unfold setFrameType at h
  split at h
  · cases h
  next type htype =>
    split at h
    · cases h
    next c₁ hconf =>
      rw [hconf]
      dsimp only at h ⊢
      split at h
      · next s hs =>
        cases (Prod.mk.inj h).1
        exact ⟨type, s, htype, rfl, hs, rfl, rfl, rfl, rfl, rfl, rfl⟩
      · next s status hne hs =>
        cases Option.some.inj (Prod.mk.inj h).2
        exact (hne rfl).elim

/-- Which file is chosen depends on two members. -/
theorem iniDepthOf_congr (hdepth : c'.iniDepth = c.iniDepth)
    (hmap : c'.iniDepthMap = c.iniDepthMap) (mode : Bytes) :
    c'.iniDepthOf mode = c.iniDepthOf mode := by
  rw [ItofCamera.iniDepthOf, ItofCamera.iniDepthOf, hdepth, hmap]

/-- What the map gives once a frame type's file was read, over what it gave
before, is what the file gives. If the file was read, the map is the file's; if
not, the map is that of the last one, whose values are in force (`current`). -/
theorem SwitchInvariant.override_after (hc : SwitchInvariant files c₀ c) :
    override (controlValue (mapControls (c.keyValPairsAfter files frameType)))
        c.sensor.device.control
      = override (c₀.iniValues files frameType) c.sensor.device.control := by
  have htext : c.iniText files frameType = c₀.iniText files frameType := by
    rw [iniText, iniText, hc.iniDepthOf]
  rw [keyValPairsAfter, iniValues, htext]
  cases c₀.iniText files frameType with
  | some text => rfl
  | none => exact hc.current.trans (override_none (fun _ => rfl)).symm

/-- **Every successful call keeps the invariant**, and applies the table of its
frame type, with its format. It succeeds only for a frame type that can be set,
so the run knows that it is one. -/
theorem SwitchInvariant.set (hc : SwitchInvariant files c₀ c)
    (htaken : c.ControlsTaken (a, frameType))
    (h : c.setFrameType a files frameType = (c', some .ok)) :
    SwitchInvariant files c₀ c' ∧ c₀.Switchable files frameType
      ∧ c'.sensor.device.control
        = override (c₀.iniValues files frameType) c.sensor.device.control
      ∧ ∃ type, c₀.types.find? (fun type => type.type = frameType) = some type
        ∧ c'.sensor.inForce
          = Sensor.inForceFor c₀.sensor.imagerType type c'.sensor.device.control := by
  obtain ⟨type, s, htype, hconf, hset, rfl, htypes, htable, hkv, hdepth, hmap⟩ := setFrameType_ok h
  obtain ⟨hparses, hframe⟩ := c.configure_frame htaken.2 frameType
  obtain ⟨hsensor, hkv₁, htypes₁, htable₁, hdepth₁⟩ := hframe hconf
  rw [hsensor, htable₁] at hset
  obtain ⟨hsynced, himager, hcontrol, hforce⟩ := hc.synced.setFrameType (fun k _ => htaken.1 k) hset
  have hnamed : type.type = frameType := of_decide_eq_true (List.find?_some htype :)
  have haccepts := Sensor.setFrameType_status.mp (congrArg Prod.snd hset)
  have hvalues := hcontrol.trans hc.override_after
  refine ⟨?_, ?_, hvalues, type, hc.types ▸ htype, hforce.trans (by rw [hc.imager])⟩
  · exact {
      types := (htypes.trans htypes₁).trans hc.types
      table := (htable.trans htable₁).trans hc.table
      iniDepthOf := fun mode => (iniDepthOf_congr hdepth hmap mode).trans
        ((hdepth₁ mode).trans (hc.iniDepthOf mode))
      imager := himager.trans hc.imager
      synced := hsynced
      parses := by
        rw [hkv, hkv₁]
        exact hparses.mp hconf
      current := by
        rw [hkv, hkv₁, hcontrol]
        exact override_override _ _ }
  · refine ⟨⟨type, hc.types ▸ List.mem_of_find?_eq_some htype, hnamed⟩, fun text htext => ?_,
      ?_, ?_⟩
    · have hread : c.keyValPairsAfter files frameType = iniPairs text := by
        rw [keyValPairsAfter, iniText, hc.iniDepthOf, ← iniText, htext]
      rw [← hread]
      exact hparses.mp hconf
    · rw [← hc.table, ← hnamed]
      exact haccepts.names
    · obtain ⟨values, control, hcontrols⟩ := c.sensor.setControls_frame a.sensor
        (mapControls (c.keyValPairsAfter files frameType))
      have hpixels := haccepts.pixelFormat
      rw [hnamed] at hpixels
      rw [← hpixels]
      refine Sensor.pixelFormat_isSome_congr ?_ _
      rw [hcontrols]
      exact hc.imager.symm

/-- So the SDK's camera is a machine of the same kind. -/
theorem applies_switchStep (files : Files) (c₀ : ItofCamera) :
    Machine.Applies (switchStep files) ControlsTaken (SwitchInvariant files c₀)
      (fun w => ∃ mode, c₀.Switchable files mode ∧ w = c₀.iniValues files mode)
      (fun call => c₀.iniValues files call.2) (fun c => c.sensor.device.control) := by
  intro c call c' hc htaken hstep
  unfold switchStep at hstep
  split at hstep
  · next c₁ hset =>
    cases hstep
    obtain ⟨hinv, hswitchable, hvalue, -⟩ := hc.set htaken hset
    exact ⟨hinv, ⟨call.2, hswitchable, rfl⟩, hvalue⟩
  · cases hstep

/-- No call of `setFrameType` fails in the system. -/
def faultless : ItofAnswers := { sensor := CameraHistory.faultless }

/-- **A frame type that can be set is**, where no system call fails. -/
theorem SwitchInvariant.switches (hc : SwitchInvariant files c₀ c)
    (hmode : c₀.Switchable files frameType) :
    ∃ c', switchStep files c (faultless, frameType) = some c' := by
  obtain ⟨type, htype, hnamed⟩ := exists_find?_type hmode.listed
  have hparses : Parses (c.keyValPairsAfter files frameType) := by
    unfold keyValPairsAfter
    split
    · next text htext =>
      rw [iniText, hc.iniDepthOf, ← iniText] at htext
      exact hmode.parses text htext
    · exact hc.parses
  obtain ⟨hreturns, hframe⟩ := c.configure_frame (a := faultless) rfl frameType
  have hconf := hreturns.mpr hparses
  obtain ⟨hsensor, -, htypes, htable, -⟩ := hframe hconf
  obtain ⟨values, control, hcontrols⟩ := c.sensor.setControls_frame faultless.sensor
    (mapControls (c.keyValPairsAfter files frameType))
  have haccepts : (c.configure faultless files frameType).1.sensor.Accepts faultless.sensor
      (c.configure faultless files frameType).1.table type := {
    openDevice := rfl, openSubdevice := rfl, firstOpen := fun _ => rfl
    names := by rw [hnamed, htable, hc.table]; exact hmode.names
    setMode := rfl, freeBuffers := fun _ => rfl
    pixelFormat := by
      rw [hnamed, ← hmode.pixelFormat]
      refine Sensor.pixelFormat_isSome_congr ?_ _
      rw [hsensor, hcontrols]
      exact hc.imager
    setFormat := rfl, requestBuffers := rfl, allocate := rfl
    buffers := fun _ _ => ⟨rfl, rfl⟩ }
  have hset := Sensor.setFrameType_status.mpr haccepts
  unfold switchStep setFrameType
  dsimp only
  rw [hc.types, htype]
  dsimp only
  rcases hconfigure : c.configure faultless files frameType with ⟨c₁, returned⟩
  rw [hconfigure] at hconf hset
  cases hconf
  dsimp only at hset ⊢
  rcases hs : c₁.sensor.setFrameType faultless.sensor c₁.table type with ⟨s, status⟩
  rw [hs] at hset
  cases hset
  dsimp only
  have hcompute : ∀ p, ¬ (p ∧ faultless.computeFails = true) := fun _ h => Bool.noConfusion h.2
  rw [if_neg (hcompute _)]
  exact ⟨_, rfl⟩

/-- **`setFrameType` is path independent for a frame type exactly if no other
mode leaks into it**, by the library's theorem once more. -/
theorem Fresh.pathIndependent_iff (hfresh : c.Fresh) (files : Files) (frameType : Bytes) :
    c.PathIndependent files frameType ↔ c.NoLeak files frameType := by
  have hc : SwitchInvariant files c c := hfresh.switchInvariant
  have htaken : ∀ (c : ItofCamera) (mode : Bytes), c.ControlsTaken (faultless, mode) :=
    fun _ _ => ⟨fun _ => rfl, rfl⟩
  by_cases hft : c.Switchable files frameType
  · obtain ⟨type, htype, -⟩ := exists_find?_type hft.listed
    have hlaw := Machine.pathIndependent_iff (applies_switchStep files c) hc
      (Sensor.inForceFor_injective c.sensor.imagerType type)
      (u := c.iniValues files frameType) (L := fun call => call.2 = frameType)
      (g := fun c => c.sensor.inForce) ?_ ?_ ?_ ?_
    · constructor
      · intro h _ k hk mode hmode
        exact hlaw.mp h k hk _ ⟨mode, hmode, rfl⟩
      · intro h
        refine hlaw.mpr (fun k hk w hw => ?_)
        obtain ⟨mode, hmode, rfl⟩ := hw
        exact h hft k hk mode hmode
    · intro call hcall
      show c.iniValues files call.2 = _
      rw [hcall]
    · rintro c₁ call c₂ hc₁ htaken₁ rfl hstep
      unfold switchStep at hstep
      split at hstep
      · next c₃ hset =>
        cases hstep
        obtain ⟨-, -, -, type', htype', hforce⟩ := hc₁.set htaken₁ hset
        cases htype.symm.trans htype'
        exact hforce
      · cases hstep
    · obtain ⟨c', hswitch⟩ := hc.switches hft
      exact ⟨_, c', rfl, Machine.Run.cons (htaken c frameType) hswitch (Machine.Run.nil _)⟩
    · rintro w ⟨mode, hmode, rfl⟩
      obtain ⟨c', hswitch⟩ := hc.switches hmode
      have hinv := (applies_switchStep files c _ _ _ hc (htaken c mode) hswitch).1
      obtain ⟨c'', hswitch'⟩ := hinv.switches hft
      exact .inr ⟨(faultless, mode), (faultless, frameType), c'', rfl, rfl,
        Machine.Run.cons (htaken c mode) hswitch
          (Machine.Run.cons (htaken c' frameType) hswitch' (Machine.Run.nil _))⟩
  · -- no run ends with it
    refine ⟨fun _ h => absurd h hft, ?_⟩
    rintro - as bs ⟨a, frameType⟩ b c₁ c₂ rfl - hrun -
    obtain ⟨c', hrun', htaken', hstep⟩ := hrun.of_snoc
    have hinv := ((applies_switchStep files c).run hc hrun').1
    unfold switchStep at hstep
    split at hstep
    · next c₃ hset => exact absurd (hinv.set htaken' hset).2.1 hft
    · cases hstep

end ItofCamera

/-! ## Both programs

The two conditions are alike, and so are the definitions of what is in force;
they differ in what a mode without a file does. The collector sets nothing, and
the SDK's camera sets what its map has, which are the controls of a mode before. -/

/-- **Mode switching is path independent exactly where no other mode leaks**, in
the collector and in the SDK's camera.

The two are different programs, but in both of them a switch overrides some
controls, and so the argument is one about overrides
(`Machine.PathIndependent`): a run of them is forgotten behind the last exactly
where that names every key that any of them may change. A leak is turned into
two runs that end differently, one straight to the frame type and one by way of
the mode that leaks. -/
theorem pathIndependent_iff_noLeak {i : CameraSetup} {c : Camera}
    (hinit : Camera.initializeDirectSensorIfAvailable i = some c)
    (hcontrols : Camera.TakesInitialControls i c) {d : ItofCamera} (hd : d.Fresh) (files : Files)
    (frameType : Bytes) :
    (c.PathIndependent i.files frameType ↔ c.NoLeak i.files frameType)
      ∧ (d.PathIndependent files frameType ↔ d.NoLeak files frameType) :=
  ⟨(Camera.SwitchInvariant.of_initialize hinit hcontrols).pathIndependent_iff frameType,
    hd.pathIndependent_iff files frameType⟩

/-- A collector started in long range (mode 1), whose INI file for short range
gives 16 bits to the active brightness and whose long range has no file. -/
def CameraSetup.native : CameraSetup where
  config := { initializationConfig := ascii "config.json" }
  mode := 1
  files := fun path =>
    if path = ascii "config.json" then
      some (ascii "\x7b\x22DEPTH_INI\x22: \x22ini/depth_sr-native.ini\x22\x7d")
    else if path = ascii "ini/depth_sr-native.ini" then some (ascii "bitsInAB=16")
    else none
  probe := { control := some .adsd3100, imagerType := .adsd3100, dealiasParams := some [] }
  types := [⟨ascii "sr-native", 1024, 4096⟩, ⟨ascii "lr-native", 1024, 4096⟩]
  opening := CameraHistory.faultless
  answers := CameraHistory.faultless

/-- The SDK's camera in the same place, with an entry for long range too,
whose file is missing. -/
def ItofCamera.native : ItofCamera where
  types := CameraSetup.native.types
  table := (configureDirectSensorModeTable CameraSetup.native.probe {}).1
  iniDepthMap := [(ascii "sr-native", ascii "ini/depth_sr-native.ini"),
    (ascii "lr-native", ascii "ini/depth_lr-native.ini")]
  sensor := { dev := { fd := true, sfd := true }, imagerType := .adsd3100 }

/-- Nothing leaks into the short range of `native`, whose file gives the only
control that is ever set. -/
theorem pathIndependent_iff_noLeak_native :
    ∃ c : Camera, Camera.initializeDirectSensorIfAvailable .native = some c
      ∧ c.PathIndependent CameraSetup.native.files (ascii "sr-native")
      ∧ ItofCamera.native.PathIndependent CameraSetup.native.files (ascii "sr-native") := by
  let c := (Camera.initializeDirectSensorIfAvailable .native).get (by decide +kernel)
  have hc : Camera.initializeDirectSensorIfAvailable .native = some c := (Option.some_get _).symm
  have hlr : c.iniByMode (ascii "lr-native") = none := by decide +kernel
  have htext : ItofCamera.native.iniText CameraSetup.native.files (ascii "lr-native") = none := by
    decide +kernel
  have htypes : c.types = CameraSetup.native.types := rfl
  have hlisted : ∀ mode, (∃ type ∈ CameraSetup.native.types, type.type = mode) →
      mode = ascii "sr-native" ∨ mode = ascii "lr-native" := by
    rintro mode ⟨type, hmem, rfl⟩
    rcases List.mem_pair.mp hmem with rfl | rfl
    · exact .inl rfl
    · exact .inr rfl
  obtain ⟨hcollector, hsdk⟩ := pathIndependent_iff_noLeak hc (fun _ _ _ _ _ => rfl)
    (d := .native) ⟨⟨rfl, rfl⟩, rfl⟩ CameraSetup.native.files (ascii "sr-native")
  refine ⟨c, hc, hcollector.mpr ?_, hsdk.mpr ?_⟩
  · intro _ k hk mode hmode
    rcases hlisted mode (htypes ▸ hmode.listed) with rfl | rfl
    · exact .inl hk
    · refine .inl ?_
      rw [Camera.iniValues, iniControls, hlr]
      rfl
  · intro _ k hk mode hmode
    rcases hlisted mode hmode.listed with rfl | rfl
    · exact .inl hk
    · refine .inl ?_
      rw [ItofCamera.iniValues, htext]

/-- **A mode without an INI file is streamed as the mode before it.** Long
range, with the controls it started with, is 12 bit data of 1024 × 4096; when
short range has been used in between it is 8 bit data of 2048 × 3328. -/
theorem not_pathIndependent_native :
    ∃ c : Camera, Camera.initializeDirectSensorIfAvailable .native = some c
      ∧ ¬ c.PathIndependent CameraSetup.native.files (ascii "lr-native") := by
  let c := (Camera.initializeDirectSensorIfAvailable .native).get (by decide +kernel)
  have hc : Camera.initializeDirectSensorIfAvailable .native = some c := (Option.some_get _).symm
  let toLr : CameraCall := .switchMode CameraHistory.faultless (ascii "lr-native")
  let toSr : CameraCall := .switchMode CameraHistory.faultless (ascii "sr-native")
  have hdirect : (Machine.exec (Camera.switchStep CameraSetup.native.files) c [toLr]).map
      (fun c => c.sensor.device.format) = some (.sbggr12, 1024, 4096) := by decide +kernel
  have hdetour : (Machine.exec (Camera.switchStep CameraSetup.native.files) c [toSr, toLr]).map
      (fun c => c.sensor.device.format) = some (.sbggr8, 2048, 3328) := by decide +kernel
  obtain ⟨c₁, hrun₁, hformat₁⟩ := Option.map_eq_some_iff.mp hdirect
  obtain ⟨c₂, hrun₂, hformat₂⟩ := Option.map_eq_some_iff.mp hdetour
  have htaken : ∀ call ∈ [toSr, toLr], ∀ c, Camera.ControlsTaken c call := by
    intro call hcall c
    rcases List.mem_pair.mp hcall with rfl | rfl
    · exact fun _ => rfl
    · exact fun _ => rfl
  refine ⟨c, hc, fun hpath => ?_⟩
  have hsame := hpath [] [toSr] toLr toLr c₁ c₂ ⟨_, rfl⟩ ⟨_, rfl⟩
    ((Machine.run_iff_exec.mpr hrun₁).of_labels
      (fun a ha => htaken a (List.mem_cons_of_mem _ ha)))
    ((Machine.run_iff_exec.mpr hrun₂).of_labels htaken)
  have hformats : c₁.sensor.device.format = c₂.sensor.device.format :=
    congrArg (fun t => t.2.2) hsame
  rw [hformat₁, hformat₂] at hformats
  exact absurd hformats (by decide)
