import TofNet.RawFrame
import TofNet.Sensor

/-!
# The collector's camera

`CameraRawSource` on its direct path, where it drives the sensor itself:
`initialize`, `switchMode`, `start`, `stop` and `get_frame`. Each is a
function of the camera and of how the system answers, and each holds the
mutex from its beginning to its end, so that a run of the camera is a list of
calls.

The first half is the source; the second has one lemma for each call, which
says all that it can do.

A call may throw, and a throw leaves the camera where the call had got to. So
each call is a function that returns the camera in any case, with what the call
returned or with nothing; what comes behind a throw in the source does not
happen here either. The system's answers are arguments, one for each call of the
driver, and nothing is assumed of them: the lemmas below say what the camera can
be afterwards, whatever was answered.
-/

/-- **The camera.** The first three fields are set by `initialize` and stay:
`available_sensor_frame_types_`, the mode table and `ini_by_mode`. The others
are `sensor_`, `mode_name_`, `args_.mode` and `capturing_`. -/
structure Camera where
  types : List FrameType
  table : ModeTable
  iniByMode : Bytes → Option Bytes
  sensor : Sensor
  modeName : Bytes
  mode : UInt16
  capturing : Bool := false

/-- How the driver answers one `get_frame_direct_v4l_locked`: the second
`QBUF` is the one of its exception handler. -/
structure FrameAnswers where
  /-- What `DQBUF` gives. -/
  dequeued : Dequeued
  /-- The first `QBUF` fails. -/
  requeueFails : Bool := false
  /-- The second one does. -/
  requeueAgainFails : Bool := false
  deriving DecidableEq, Repr

namespace Camera

/-! ## Frames -/

/-- The raw frame made of a buffer's data. -/
def rawFrame (c : Camera) (data : Bytes) : RawFrame :=
  let modeInfo := c.table.getModeInfoOfId c.mode.toNat
  { width := modeInfo.width.toUInt32
    height := modeInfo.height.toUInt32
    bytes := UInt32.ofNat data.length
    mode := c.mode
    frameType := c.modeName
    data := data }

/-- `get_frame_direct_v4l_locked`, which throws where there is no frame. -/
def getFrameDirect (d : FrameAnswers) (c : Camera) : Camera × Option RawFrame :=
  match c.sensor.dequeueInternalBuffer d.dequeued with
  | (s, none) => ({ c with sensor := s }, none)
  | (s, some (index, data)) =>
    match if data = [] then none else s.enqueueInternalBuffer d.requeueFails index with
    | some s => ({ c with sensor := s }, some (c.rawFrame data))
    | none =>
      -- what was thrown is caught, and thrown again
      ({ c with sensor := (s.enqueueInternalBuffer d.requeueAgainFails index).getD s }, none)

/-- `get_frame_locked`, and `get_frame`. -/
def getFrame (d : FrameAnswers) (c : Camera) : Camera × Option RawFrame :=
  if c.capturing = false then (c, none) else c.getFrameDirect d

/-! ## Starting and stopping -/

/-- `stop_locked`, and `stop`, given whether a `STREAMOFF` fails. The status
is ignored. -/
def stop (fails : Bool) (c : Camera) : Camera :=
  { c with
    sensor := if c.capturing = true then (c.sensor.stop fails).1 else c.sensor
    capturing := false }

/-- The warm-up: its frames are dropped, and a failing one throws. -/
def warmup : List FrameAnswers → Camera → Camera × Bool
  | [], c => (c, true)
  | d :: ds, c =>
    match c.getFrame d with
    | (c, some _) => warmup ds c
    | (c, none) => (c, false)

/-- `start`, with the answers to the frames of the warm-up. It returns
whether it returned or threw. -/
def start (a : Answers) (frames : List FrameAnswers) (c : Camera) : Camera × Bool :=
  let c := c.stop (a.fails .streamOff)
  match c.sensor.start a with
  | (s, .ok) => warmup frames { c with sensor := s, capturing := true }
  | (s, _) => ({ c with sensor := s }, false)

/-! ## Modes

Switching the mode is the longest of the calls. It looks the mode up, stops the
stream, programs the controls from the INI file, and sets the frame type; each
of these may be where it ends. The fields that label the frames are written
last, so that they change only where the sensor has taken the frame type. -/

/-- `apply_direct_ini_controls`, or `none` where it throws. -/
def applyDirectIniControls (a : Answers) (files : Files) (frameType : Bytes) (c : Camera) :
    Option Sensor :=
  if (c.iniByMode frameType).isSome = true ∧ a.fails .openIni = true then none
  else (iniControls files c.iniByMode frameType).map (c.sensor.setControls a)

/-- `set_direct_frame_type`, or no status where it throws. -/
def setDirectFrameType (a : Answers) (files : Files) (frameType : Bytes) (c : Camera) :
    Camera × Option Status :=
  match c.types.find? (fun type => type.type = frameType) with
  | none => (c, some .invalidArgument)
  | some type =>
    match c.applyDirectIniControls a files frameType with
    | none => (c, none)
    | some s =>
      let r := s.setFrameType a c.table type
      ({ c with sensor := r.1 }, some r.2)

/-- `switchMode`: what it returns, or `none` where it throws. -/
def switchMode (a : Answers) (files : Files) (frameType : Bytes) (c : Camera) :
    Camera × Option Bool :=
  if frameType = c.modeName then (c, some true)
  else
    match (c.stop (a.fails .streamOff)).setDirectFrameType a files frameType with
    | (c, some .ok) =>
      ({ c with
        modeName := frameType
        mode := (c.table.getModeInfo frameType).mode.toUInt16 }, some true)
    | (c, some _) => (c, some false)
    | (c, none) => (c, none)

/-- `mode_name_from_id`. -/
def modeNameFromId (types : List FrameType) (table : ModeTable) (modeId : UInt16) : Bytes :=
  match types.find? (fun type => (table.getModeInfo type.type).mode.toUInt16 = modeId) with
  | some type => type.type
  | none => (table.getModeInfoOfId modeId.toNat).modeName

end Camera

/-- What `initialize` is given: the arguments, the files, the singleton
`ModeInfo` as `queryAdsd3500` has left it, what the sensor answers about
itself, and how the two openings and the frame type are answered. -/
structure CameraSetup where
  /-- The arguments that choose the files. -/
  config : ConfigArgs
  /-- The mode that is asked for, as a number. -/
  mode : UInt16
  /-- The files there are. -/
  files : Files
  /-- The mode table as it was left. -/
  table : ModeTable := {}
  /-- What the sensor answers about its imager and its firmware. -/
  probe : TableProbe
  /-- The frame types that the sensor lists. -/
  types : List FrameType
  /-- How the first opening of the device is answered, … -/
  opening : Answers
  /-- … and how the second is, with the frame type. -/
  answers : Answers

/-- **`initialize_direct_sensor_if_available`**, from where the sensor has
been found, or `none` where it throws. -/
def Camera.initializeDirectSensorIfAvailable (i : CameraSetup) : Option Camera :=
  match Sensor.openFiles i.opening { imagerType := i.probe.imagerType } with
  | (sensor, .ok) =>
    match configureDirectSensorModeTable i.probe i.table, loadDirectConfig i.config i.files with
    | (table, true), some config =>
      let modeName := Camera.modeNameFromId i.types table i.mode
      if i.types = [] ∨ modeName = [] then none
      else
        match Camera.setDirectFrameType i.answers i.files modeName
            { types := i.types, table := table, iniByMode := config.iniByMode, sensor := sensor,
              modeName := modeName, mode := i.mode } with
        | (c, some .ok) => some c
        | _ => none
    | _, _ => none
  | _ => none

/-! ## Runs

A run is a list of calls, as the mutex makes of them; the threads that make the
calls are not to be seen here. What holds of a camera after every run is shown
in `StartStop` and `ModeLabel`, and each time from the lemmas at the end of this
module alone. -/

/-- A call of the camera, with its answers. -/
inductive CameraCall
  | switchMode (a : Answers) (frameType : Bytes)
  | start (a : Answers) (frames : List FrameAnswers)
  | stop (fails : Bool)
  | getFrame (d : FrameAnswers)

/-- The camera after a call. -/
def Camera.after (files : Files) (c : Camera) : CameraCall → Camera
  | .switchMode a frameType => (c.switchMode a files frameType).1
  | .start a frames => (c.start a frames).1
  | .stop fails => c.stop fails
  | .getFrame d => (c.getFrame d).1

/-! ## What the calls change

For each call: which fields it may change, and to what. The lemmas are
disjunctions, with a case for each way in which a call can end, and the cases
are those of the source. Behind them none of the definitions has to be unfolded
again. -/

namespace Camera

variable {a : Answers} {files : Files} {frameType : Bytes} {c c' : Camera}

/-- A frame changes which buffers are queued. -/
theorem getFrame_frame (d : FrameAnswers) (c : Camera) :
    ∃ queued, (c.getFrame d).1 = { c with
      sensor := c.sensor.withStream c.sensor.dev.started queued
        c.sensor.device.queue.streaming } := by
  unfold getFrame
  split
  · exact ⟨c.sensor.device.queue.queued, rfl⟩
  obtain ⟨queued, hs⟩ := c.sensor.dequeueInternalBuffer_frame d.dequeued
  unfold getFrameDirect
  split
  · next s hd =>
    rw [hd] at hs
    cases hs
    exact ⟨queued, rfl⟩
  next s index data hd =>
    rw [hd] at hs
    cases hs
    split
    · next s' hs' =>
      split at hs'
      · cases hs'
      · obtain ⟨queued', rfl⟩ := Sensor.enqueueInternalBuffer_frame hs'
        exact ⟨queued', rfl⟩
    · cases hagain : Sensor.enqueueInternalBuffer d.requeueAgainFails index _ with
      | none => exact ⟨queued, rfl⟩
      | some s' =>
        obtain ⟨queued', rfl⟩ := Sensor.enqueueInternalBuffer_frame hagain
        exact ⟨queued', rfl⟩

/-- **A frame has the labels of the camera**, and there is one only while the
camera captures. -/
theorem getFrame_some {d : FrameAnswers} {f : RawFrame} (h : (c.getFrame d).2 = some f) :
    c.capturing = true ∧ f.mode = c.mode ∧ f.frameType = c.modeName := by
  unfold getFrame at h
  split at h
  · cases h
  next hcapturing =>
    refine ⟨Bool.not_eq_false _ ▸ hcapturing, ?_⟩
    unfold getFrameDirect at h
    split at h
    · cases h
    split at h
    · cases h
      exact ⟨rfl, rfl⟩
    · cases h

/-- Nor does the warm-up change more. -/
theorem warmup_frame (ds : List FrameAnswers) (c : Camera) :
    ∃ queued, (warmup ds c).1 = { c with
      sensor := c.sensor.withStream c.sensor.dev.started queued
        c.sensor.device.queue.streaming } := by
  induction ds generalizing c with
  | nil => exact ⟨c.sensor.device.queue.queued, rfl⟩
  | cons d ds ih =>
    obtain ⟨queued, hframe⟩ := c.getFrame_frame d
    unfold warmup
    split
    · next c' f hf =>
      obtain ⟨queued', hrest⟩ := ih c'
      rw [hf] at hframe
      cases hframe
      exact ⟨queued', hrest⟩
    · next c' hf =>
      rw [hf] at hframe
      exact ⟨queued, hframe⟩

/-- Stopping changes the stream and ends the capture. -/
theorem stop_frame (fails : Bool) (c : Camera) :
    ∃ started queued streaming, c.stop fails = { c with
      sensor := c.sensor.withStream started queued streaming, capturing := false } := by
  unfold stop
  split
  · obtain ⟨started, queued, streaming, hs⟩ := c.sensor.stop_frame fails
    exact ⟨started, queued, streaming, by rw [hs]⟩
  · exact ⟨c.sensor.dev.started, c.sensor.device.queue.queued,
      c.sensor.device.queue.streaming, rfl⟩

/-- A frame type that the camera goes on to set: it is listed, and its INI
file, if there is one, can be opened. -/
def Settable (a : Answers) (files : Files) (frameType : Bytes) (c : Camera) : Prop :=
  (∃ type ∈ c.types, type.type = frameType)
    ∧ ∀ path, c.iniByMode frameType = some path → a.fails .openIni = false ∧ files path ≠ none

theorem applyDirectIniControls_eq_some_iff {s : Sensor} :
    c.applyDirectIniControls a files frameType = some s ↔
      (∀ path, c.iniByMode frameType = some path → a.fails .openIni = false ∧ files path ≠ none)
        ∧ ∃ controls, iniControls files c.iniByMode frameType = some controls
          ∧ c.sensor.setControls a controls = s := by
  unfold applyDirectIniControls iniControls
  cases hpath : c.iniByMode frameType with
  | none => simp
  | some path => cases hfile : files path <;> cases hopen : a.fails .openIni <;> simp [hfile]

/-- **All that setting a frame type can do**: nothing, or it sets the
controls and calls the sensor, with whatever status. -/
theorem setDirectFrameType_cases (a : Answers) (files : Files) (frameType : Bytes) (c : Camera) :
    (¬ c.Settable a files frameType ∧ ∃ status, status ≠ some .ok
        ∧ c.setDirectFrameType a files frameType = (c, status))
    ∨ (c.Settable a files frameType ∧ ∃ type controls s status, type ∈ c.types
        ∧ type.type = frameType ∧ iniControls files c.iniByMode frameType = some controls
        ∧ (c.sensor.setControls a controls).setFrameType a c.table type = (s, status)
        ∧ c.setDirectFrameType a files frameType = ({ c with sensor := s }, some status)) := by
  unfold setDirectFrameType
  split
  · next hnone =>
    refine .inl ⟨?_, _, by simp, rfl⟩
    rintro ⟨⟨type, hmem, htype⟩, -⟩
    exact List.find?_eq_none.mp hnone type hmem (decide_eq_true htype)
  next type htype =>
    have hmem := List.mem_of_find?_eq_some htype
    have hname : type.type = frameType := of_decide_eq_true (List.find?_some htype :)
    split
    · next hnone =>
      refine .inl ⟨?_, none, by simp, rfl⟩
      rintro ⟨-, hopens⟩
      have hsome : (iniControls files c.iniByMode frameType).isSome = true := by
        unfold iniControls
        cases hpath : c.iniByMode frameType with
        | none => rfl
        | some path => simpa [Option.isSome_iff_ne_none] using (hopens path hpath).2
      obtain ⟨controls, hcontrols⟩ := Option.isSome_iff_exists.mp hsome
      have hs := applyDirectIniControls_eq_some_iff.mpr ⟨hopens, controls, hcontrols, rfl⟩
      exact Option.some_ne_none _ (hs.symm.trans hnone)
    · next s hs =>
      obtain ⟨hopens, controls, hcontrols, rfl⟩ := applyDirectIniControls_eq_some_iff.mp hs
      exact .inr ⟨⟨⟨type, hmem, hname⟩, hopens⟩, type, controls, _, _, hmem, hname, hcontrols,
        rfl, rfl⟩

/-- Whether the sensor accepts a frame type does not change between the call
of `switchMode` and its call of the sensor. -/
theorem accepts_iff_switching {table : ModeTable} {type : FrameType} (fails : Bool)
    (controls : List (Control × ℕ)) :
    ((c.stop fails).sensor.setControls a controls).Accepts a table type
      ↔ c.sensor.Accepts a table type := by
  obtain ⟨started, queued, streaming, hstop⟩ := c.stop_frame fails
  obtain ⟨values, control, hframe⟩ := (c.stop fails).sensor.setControls_frame a controls
  rw [hframe, hstop]
  exact ⟨fun h => h.congr rfl rfl rfl, fun h => h.congr rfl rfl rfl⟩

/-- **All that switching the mode can do.** It returns early; or it stops,
and the frame type is not set; or it stops and has it set, and the labels
follow only where that succeeds. -/
theorem switchMode_cases (a : Answers) (files : Files) (frameType : Bytes) (c : Camera) :
    (frameType = c.modeName ∧ (c.switchMode a files frameType).1 = c)
    ∨ (frameType ≠ c.modeName ∧ ¬ c.Settable a files frameType
        ∧ (c.switchMode a files frameType).1 = c.stop (a.fails .streamOff))
    ∨ (frameType ≠ c.modeName ∧ c.Settable a files frameType ∧ ∃ type controls s status,
        type ∈ c.types ∧ type.type = frameType
        ∧ iniControls files c.iniByMode frameType = some controls
        ∧ ((c.stop (a.fails .streamOff)).sensor.setControls a controls).setFrameType a c.table type
          = (s, status)
        ∧ (c.switchMode a files frameType).1 =
          if status = .ok then
            { c with
              sensor := s, capturing := false, modeName := frameType
              mode := (c.table.getModeInfo frameType).mode.toUInt16 }
          else { c with sensor := s, capturing := false }) := by
  unfold switchMode
  split
  · next heq => exact .inl ⟨heq, rfl⟩
  next hne =>
    refine .inr ?_
    rcases (c.stop (a.fails .streamOff)).setDirectFrameType_cases a files frameType with
      ⟨hnot, status, hstatus, heq⟩ | ⟨hset, type, controls, s, status, hmem, hname, hcontrols,
        hs, heq⟩
    · refine .inl ⟨hne, hnot, ?_⟩
      rw [heq]
      rcases status with _ | _ | _ | _ | _ | _ | _
      · rfl
      · exact absurd rfl hstatus
      all_goals rfl
    · refine .inr ⟨hne, hset, type, controls, s, status, hmem, hname, hcontrols, hs, ?_⟩
      rw [heq]
      cases status <;> rfl

/-- **All that starting can do.** -/
theorem start_cases (a : Answers) (frames : List FrameAnswers) (c : Camera) :
    (∃ queued, (c.stop (a.fails .streamOff)).sensor.start a
          = ((c.stop (a.fails .streamOff)).sensor.withStream true queued true, .ok)
        ∧ c.start a frames = warmup frames { c with
          sensor := (c.stop (a.fails .streamOff)).sensor.withStream true queued true
          capturing := true })
    ∨ ∃ s status, status ≠ .ok ∧ (c.stop (a.fails .streamOff)).sensor.start a = (s, status)
        ∧ c.start a frames = ({ c with sensor := s, capturing := false }, false) := by
  unfold start
  dsimp only
  split
  · next s hs =>
    obtain ⟨-, -, -, -, -, queued, rfl⟩ := Sensor.start_ok hs
    exact .inl ⟨queued, hs, rfl⟩
  · next s status hne hs => exact .inr ⟨s, status, hne, hs, rfl⟩

/-- **A camera that was initialised** has set its frame type. -/
theorem initializeDirectSensor_eq_some {i : CameraSetup}
    (h : initializeDirectSensorIfAvailable i = some c) :
    ∃ (sensor : Sensor) (type : FrameType) (controls : List (Control × ℕ)),
      sensor.dev.sfd = true ∧ (∀ k, sensor.device.control k = none)
      ∧ c.table.Chosen ∧ c.modeName = modeNameFromId i.types c.table i.mode ∧ c.modeName ≠ []
      ∧ c.mode = i.mode ∧ c.types = i.types ∧ c.capturing = false
      ∧ type ∈ i.types ∧ type.type = c.modeName
      ∧ iniControls i.files c.iniByMode c.modeName = some controls
      ∧ (sensor.setControls i.answers controls).setFrameType i.answers c.table type
        = (c.sensor, .ok) := by
  unfold initializeDirectSensorIfAvailable at h
  split at h
  · next sensor hopen =>
    cases Sensor.openFiles_ok hopen
    split at h
    · next table config htable hconfig =>
      have hchosen := chosen_configure i.probe i.table
      rw [htable] at hchosen
      dsimp only at h
      split at h
      · cases h
      next hvalid =>
        split at h
        · next c' hset =>
          cases h
          rcases setDirectFrameType_cases i.answers i.files
              (modeNameFromId i.types table i.mode) _ with
            ⟨-, status, hstatus, heq⟩ | ⟨-, type, controls, s, status, hmem, hname, hcontrols,
              hs, heq⟩
          · rw [hset] at heq
            exact absurd (Prod.mk.inj heq).2.symm hstatus
          · rw [hset] at heq
            obtain ⟨rfl, hstatus⟩ := Prod.mk.inj heq
            cases hstatus
            exact ⟨_, type, controls, rfl, fun _ => rfl, hchosen, rfl,
              fun hnil => hvalid (.inr hnil), rfl, rfl, rfl, hmem, hname, hcontrols, hs⟩
        · cases h
    · cases h
  · cases h

end Camera
