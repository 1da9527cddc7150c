import TofNet.Sensor
import TofNet.Transition

/-!
# The controls of the sensor

`Adsd3500Sensor::setControl` for every control and every value, as text. It
stores the value before it looks at it, and each control goes on to change
something else: the version of the CCB and the frame types, the frame rate, or
a control of the driver. `setFrameType` reads what is stored.

A call that is refused should leave no trace. `atomic_iff` says in which runs
none does.

A trace is a difference between two values of `SensorSettings`, in what a
control sets or in the format that `setFrameType` would ask for. What a refused
call leaves is known exactly (`stored`), and it is no trace if it was there
before. This is the form of the condition: of a call, that it is not refused or
stores nothing new; of a run, that it has no other calls.
-/

open Machine

/-- `CCBVersion`. -/
inductive CcbVersion
  | unknown
  | version0
  | version1
  deriving DecidableEq, Repr

/-! ## The frame types

The tables of the source, two for either imager. -/

/-- The frame types of an ADSD3030 with an old CCB. -/
def availableFrameTypesAdsd3030Old : List FrameType := [⟨ascii "vga", 2560, 640⟩]

/-- The frame types of an ADSD3100. -/
def availableFrameTypes : List FrameType := [
  ⟨ascii "sr-native", 1024, 4096⟩,
  ⟨ascii "lr-native", 1024, 4096⟩,
  ⟨ascii "sr-qnative", 2560, 512⟩,
  ⟨ascii "lr-qnative", 2560, 512⟩,
  ⟨ascii "pcm-native", 1024, 1024⟩,
  ⟨ascii "sr-mixed", 2560, 512⟩,
  ⟨ascii "lr-mixed", 2560, 512⟩]

/-- The frame types of an ADSD3030. -/
def availableFrameTypesAdsd3030 : List FrameType := [
  ⟨ascii "sr-native", 2560, 640⟩,
  ⟨ascii "lr-native", 2560, 640⟩,
  ⟨ascii "sr-qnative", 1280, 320⟩,
  ⟨ascii "lr-qnative", 1280, 320⟩,
  ⟨ascii "pcm-native", 512, 640⟩,
  ⟨ascii "sr-mixed", 1280, 320⟩,
  ⟨ascii "lr-mixed", 1280, 320⟩]

/-- The frame types of an ADSD3100 with an old CCB. -/
def availableFrameTypesOld : List FrameType := [
  ⟨ascii "qmp", 2560, 512⟩,
  ⟨ascii "mp", 1024, 4096⟩]

/-! ## The state

The tables of `ModeInfo` are part of it, since they are a singleton that a
control changes too. -/

/-- **What the sensor has stored** of its controls, with the tables of
`ModeInfo`, which is a singleton. -/
structure SensorSettings where
  /-- `m_controls`. -/
  controls : Bytes → Option Bytes
  /-- The frame rate. -/
  sensorFps : UInt32
  /-- The version of the CCB. -/
  ccbVersion : CcbVersion := .unknown
  /-- The imager. -/
  imagerType : ImagerType := .unknown
  /-- `m_availableFrameTypes`. -/
  mAvailableFrameTypes : List FrameType := []
  /-- The table of modes. -/
  modeInfo : ModeTable := {}

/-- Which requests the driver takes. -/
structure ControlDriver where
  /-- The host command of `adsd3500_write_cmd`, with its data. -/
  writeCmd : UInt16 → UInt16 → Bool
  /-- `VIDIOC_S_CTRL` of a control's id, with the value. -/
  setCtrl : UInt32 → Int → Bool

/-- `m_implData->controlsCommands`, with 0 for a control that has none. -/
def controlsCommands (control : Bytes) : UInt32 :=
  if control = ascii "abAveraging" then 0x9819e5
  else if control = ascii "depthEnable" then 0x9819e6
  else if control = ascii "phaseDepthBits" then 0x9819e2
  else if control = ascii "abBits" then 0x9819e3
  else if control = ascii "confidenceBits" then 0x9819e4
  else 0

/-- `adsd3500_write_cmd`. -/
def adsd3500WriteCmd (driver : ControlDriver) (cmd data : UInt16) : Status :=
  if driver.writeCmd cmd data = true then .ok else .genericError

namespace SensorSettings

/-- The constructor. It leaves the frame rate as it finds the memory. -/
def constructed (sensorFps : UInt32) : SensorSettings where
  controls control :=
    if control ∈ [ascii "abAveraging", ascii "depthEnable", ascii "phaseDepthBits",
        ascii "abBits", ascii "confidenceBits", ascii "modeInfoVersion", ascii "fps"] then
      some (ascii "0")
    else if control = ascii "imagerType" then some []
    else none
  sensorFps := sensorFps

/-- `ModeInfo::setImagerTypeAndModeVersion` of the singleton. -/
def setImagerTypeAndModeVersion (type version : Int) (s : SensorSettings) :
    SensorSettings × Status :=
  ({ s with modeInfo := (s.modeInfo.setImagerTypeAndModeVersion type version).1 },
    (s.modeInfo.setImagerTypeAndModeVersion type version).2)

/-- The `modeInfoVersion` branch. What `ModeInfo` answers is ignored. -/
def setModeInfoVersion (n : Int) (s : SensorSettings) : SensorSettings × Status :=
  let types : Option (CcbVersion × Option (List FrameType)) :=
    if n = 0 then
      some (.version0, match s.imagerType with
        | .adsd3100 => some availableFrameTypesOld
        | .adsd3030 => some availableFrameTypesAdsd3030Old
        | .unknown => none)
    else if n = 2 then
      some (.version1, match s.imagerType with
        | .adsd3100 => some availableFrameTypes
        | .adsd3030 => some availableFrameTypesAdsd3030
        | .unknown => none)
    else none
  match types with
  | some (ccbVersion, none) => ({ s with ccbVersion := ccbVersion }, .genericError)
  | some (ccbVersion, some types) =>
    let s := { s with ccbVersion := ccbVersion, mAvailableFrameTypes := types }
    ((s.setImagerTypeAndModeVersion s.imagerType.code n).1, .ok)
  | none => ((s.setImagerTypeAndModeVersion s.imagerType.code n).1, .ok)

/-- The `fps` branch. How the driver takes the rate itself is overwritten by
how the host command ends. -/
def setFps (driver : ControlDriver) (fps : Int) (s : SensorSettings) : SensorSettings × Status :=
  let s := { s with sensorFps := UInt32.ofInt fps }
  match adsd3500WriteCmd driver 0x22 (UInt16.ofInt fps) with
  | .ok => (s, .ok)
  | _ => (s, .genericError)

/-- **`Adsd3500Sensor::setControl`.** There is no status where `std::stoi`
throws. -/
def setControl (driver : ControlDriver) (control value : Bytes) (s : SensorSettings) :
    SensorSettings × Option Status :=
  if s.controls control = none then (s, some .invalidArgument)
  else
    let s := { s with controls := Function.update s.controls control (some value) }
    if control = ascii "modeInfoVersion" then
      match stoi value with
      | none => (s, none)
      | some n => ((s.setModeInfoVersion n).1, some (s.setModeInfoVersion n).2)
    else if control = ascii "fps" then
      match stoi value with
      | none => (s, none)
      | some fps => ((s.setFps driver fps).1, some (s.setFps driver fps).2)
    else if control = ascii "imagerType" then (s, some .unavailable)
    else
      match stoi value with
      | none => (s, none)
      | some n =>
        (s, some (if driver.setCtrl (controlsCommands control) n = true then .ok
          else .genericError))

/-- `queryAdsd3500` of `open`, given the answer to the command 0x0032, or none
where the firmware does not know it, and whether the build is for the
ADSD3030. -/
def queryAdsd3500 (driver : ControlDriver) (readValue : Option UInt16) (adsd3030 : Bool)
    (s : SensorSettings) : SensorSettings :=
  let s :=
    if s.imagerType = .unknown ∨ s.ccbVersion = .unknown then
      match readValue with
      | none => s
      | some readValue =>
        { s with
          ccbVersion :=
            if readValue &&& 0x00FF = 1 then .version0
            else if readValue &&& 0x00FF = 2 then .version1
            else s.ccbVersion
          imagerType :=
            if readValue >>> 8 = 1 then .adsd3100
            else if readValue >>> 8 = 2 then .adsd3030
            else s.imagerType }
    else s
  let s :=
    if s.imagerType = .unknown then
      { s with imagerType := if adsd3030 = true then .adsd3030 else .adsd3100 }
    else s
  match s.ccbVersion with
  | .unknown => s
  | .version0 => (s.setControl driver (ascii "modeInfoVersion") (ascii "0")).1
  | .version1 => (s.setControl driver (ascii "modeInfoVersion") (ascii "2")).1

/-- The sensor as `setFrameType` sees it: of the controls, it only looks
whether `abBits` is "6". -/
def sensor (s : SensorSettings) : Sensor where
  imagerType := s.imagerType
  controls c :=
    if c = .abBits ∧ s.controls (ascii "abBits") = some (ascii "6") then 6 else 0

/-- The format that `setFrameType` asks the driver for. -/
def format (s : SensorSettings) (type : FrameType) : Option PixelFormat × ℕ × ℕ :=
  (s.sensor.pixelFormat type.type, s.sensor.formatSize type)

end SensorSettings

/-! ## Calls

The sensor is asked to set a control, and to query its device. `ModeInfo` can be
set by others. -/

/-- A call that sets something. -/
inductive SettingsCall
  /-- `open`, which queries the ADSD3500. -/
  | query (readValue : Option UInt16) (adsd3030 : Bool)
  | setControl (control value : Bytes)
  /-- A call of `ModeInfo`, by whoever makes it. -/
  | setImagerTypeAndModeVersion (type version : Int)
  deriving DecidableEq

/-- The settings after a call, which the driver answers. -/
def SensorSettings.call (s : SensorSettings) (a : ControlDriver × SettingsCall) :
    SensorSettings :=
  match a.2 with
  | .query readValue adsd3030 => s.queryAdsd3500 a.1 readValue adsd3030
  | .setControl control value => (s.setControl a.1 control value).1
  | .setImagerTypeAndModeVersion type version => (s.setImagerTypeAndModeVersion type version).1

/-- The status of a call, if it returns; `open` ignores how it ends. -/
def SensorSettings.statusOf (s : SensorSettings) (a : ControlDriver × SettingsCall) :
    Option Status :=
  match a.2 with
  | .query _ _ => some .ok
  | .setControl control value => (s.setControl a.1 control value).2
  | .setImagerTypeAndModeVersion type version =>
    some (s.setImagerTypeAndModeVersion type version).2

/-- **The sensor's settings.** Every call can be made in every state. -/
def settingsStep : Machine SensorSettings (ControlDriver × SettingsCall) :=
  fun s a => some (s.call a)

/-- Nothing that a control sets differs, nor does a format. -/
structure SameSettings (s s' : SensorSettings) : Prop where
  /-- The texts are the same, … -/
  controls : s'.controls = s.controls
  /-- … the frame rate, … -/
  sensorFps : s'.sensorFps = s.sensorFps
  /-- … the version of the CCB, … -/
  ccbVersion : s'.ccbVersion = s.ccbVersion
  /-- … and the frame types. -/
  availableFrameTypes : s'.mAvailableFrameTypes = s.mAvailableFrameTypes
  /-- A frame type would be given the same format. -/
  format : ∀ type, s'.format type = s.format type

/-- **A call that returns an error leaves everything as it was.** -/
def Atomic (s : SensorSettings) (a : ControlDriver × SettingsCall) : Prop :=
  match a.2 with
  | .query _ _ => True
  | .setControl control value =>
    ∀ status, (s.setControl a.1 control value).2 = some status → status ≠ .ok →
      SameSettings s (s.setControl a.1 control value).1
  | .setImagerTypeAndModeVersion type version =>
    (s.setImagerTypeAndModeVersion type version).2 ≠ .ok →
      (s.setImagerTypeAndModeVersion type version).1 = s

/-! ## When a call is atomic

A value is stored ahead of every test. What is refused is said in terms of the
control, the value and the driver, and not of how the call ends. -/

/-- **A control that the sensor has is refused**: it is read only, the imager is
not known, or a request is not taken. -/
def SensorSettings.Refuses (s : SensorSettings) (driver : ControlDriver) (control value : Bytes) :
    Prop :=
  if control = ascii "modeInfoVersion" then
    (stoi value = some 0 ∨ stoi value = some 2) ∧ s.imagerType = .unknown
  else if control = ascii "fps" then
    ∃ n, stoi value = some n ∧ driver.writeCmd 0x22 (UInt16.ofInt n) = false
  else if control = ascii "imagerType" then True
  else ∃ n, stoi value = some n ∧ driver.setCtrl (controlsCommands control) n = false

/-- What the call stores before is there already. -/
def SensorSettings.Holds (s : SensorSettings) (control value : Bytes) : Prop :=
  s.controls control = some value
    ∧ (control = ascii "modeInfoVersion" → stoi value = some 0 → s.ccbVersion = .version0)
    ∧ (control = ascii "modeInfoVersion" → stoi value = some 2 → s.ccbVersion = .version1)
    ∧ (control = ascii "fps" → ∀ n, stoi value = some n → s.sensorFps = UInt32.ofInt n)

/-- **The call is not refused, or what it stores is there already.** The imager
that `ModeInfo` stores before it looks at the version is such a thing, too. -/
def Traceless (s : SensorSettings) (a : ControlDriver × SettingsCall) : Prop :=
  match a.2 with
  | .query _ _ => True
  | .setControl control value =>
    s.controls control = none ∨ ¬ s.Refuses a.1 control value ∨ s.Holds control value
  | .setImagerTypeAndModeVersion type version =>
    (type = 1 ∨ type = 2) → (0 ≤ version ∧ version ≤ 3) ∨ s.modeInfo.imagerType = type

namespace SensorSettings

variable {driver : ControlDriver} {control value : Bytes} {s : SensorSettings} {n : Int}

/-- What a call stores before it can be refused. -/
def stored (control value : Bytes) (s : SensorSettings) : SensorSettings :=
  { s with
    controls := Function.update s.controls control (some value)
    ccbVersion :=
      if control = ascii "modeInfoVersion" then
        if stoi value = some 0 then .version0
        else if stoi value = some 2 then .version1
        else s.ccbVersion
      else s.ccbVersion
    sensorFps :=
      if control = ascii "fps" then ((stoi value).map UInt32.ofInt).getD s.sensorFps
      else s.sensorFps }

/-! ### One lemma for each branch

For each of the controls with a branch of their own: how it ends, and what it
leaves. -/

/-- With an imager that is not known the version of the CCB is set, and the call
refused. -/
theorem setModeInfoVersion_refused (hn : n = 0 ∨ n = 2) (himager : s.imagerType = .unknown) :
    s.setModeInfoVersion n
      = ({ s with ccbVersion := if n = 0 then .version0 else .version1 }, .genericError) := by
  unfold setModeInfoVersion
  rw [himager]
  obtain rfl | rfl := hn
  · rfl
  · rfl

/-- With one that is known it is not refused, whatever the version. -/
theorem setModeInfoVersion_ok (h : (n = 0 ∨ n = 2) → s.imagerType ≠ .unknown) :
    (s.setModeInfoVersion n).2 = .ok := by
  unfold setModeInfoVersion
  by_cases hzero : n = 0
  · rw [if_pos hzero]
    cases himager : s.imagerType with
    | unknown => exact absurd himager (h (.inl hzero))
    | adsd3100 => rfl
    | adsd3030 => rfl
  · rw [if_neg hzero]
    by_cases htwo : n = 2
    · rw [if_pos htwo]
      cases himager : s.imagerType with
      | unknown => exact absurd himager (h (.inr htwo))
      | adsd3100 => rfl
      | adsd3030 => rfl
    · rw [if_neg htwo]

/-- However the host command ends, the rate is stored. -/
theorem setFps_eq (driver : ControlDriver) (fps : Int) (s : SensorSettings) :
    s.setFps driver fps = ({ s with sensorFps := UInt32.ofInt fps },
      if driver.writeCmd 0x22 (UInt16.ofInt fps) = true then .ok else .genericError) := by
  unfold setFps adsd3500WriteCmd
  cases driver.writeCmd 0x22 (UInt16.ofInt fps) with
  | false => rfl
  | true => rfl

/-- A call that is refused has stored all the same. -/
theorem setControl_of_refuses (hcontrol : s.controls control ≠ none)
    (h : s.Refuses driver control value) :
    ∃ status, status ≠ .ok
      ∧ s.setControl driver control value = (s.stored control value, some status) := by
  unfold Refuses at h
  unfold setControl stored
  rw [if_neg hcontrol]
  dsimp only
  split at h
  · next hversion =>
    -- the control of the mode information, then `fps`, then the others
    have hfps : control ≠ ascii "fps" := by rw [hversion]; decide
    obtain ⟨hn, himager⟩ := h
    refine ⟨.genericError, nofun, ?_⟩
    rw [if_pos hversion, if_pos hversion, if_neg hfps]
    have hrefused := fun n hn => setModeInfoVersion_refused (n := n)
      (s := { s with controls := Function.update s.controls control (some value) }) hn himager
    obtain hn | hn := hn
    · rw [hn]
      dsimp only
      rw [hrefused 0 (.inl rfl)]
      rfl
    · rw [hn]
      dsimp only
      rw [hrefused 2 (.inr rfl)]
      rfl
  · next hversion =>
    rw [if_neg hversion, if_neg hversion]
    split at h
    · next hfps =>
      obtain ⟨n, hn, hcmd⟩ := h
      refine ⟨.genericError, nofun, ?_⟩
      rw [if_pos hfps, if_pos hfps, hn]
      dsimp only
      rw [setFps_eq, hcmd]
      rfl
    · next hfps =>
      rw [if_neg hfps, if_neg hfps]
      split at h
      · next himager =>
        rw [if_pos himager]
        exact ⟨.unavailable, nofun, rfl⟩
      · next himager =>
        obtain ⟨n, hn, hctrl⟩ := h
        rw [if_neg himager, hn]
        dsimp only
        rw [hctrl]
        exact ⟨.genericError, nofun, rfl⟩

/-- A call that is not refused returns no error. -/
theorem setControl_of_not_refuses (hcontrol : s.controls control ≠ none)
    (h : ¬ s.Refuses driver control value) {status : Status}
    (hstatus : (s.setControl driver control value).2 = some status) : status = .ok := by
  unfold Refuses at h
  unfold setControl at hstatus
  rw [if_neg hcontrol] at hstatus
  dsimp only at hstatus
  split at hstatus
  · next hversion =>
    rw [if_pos hversion] at h
    split at hstatus
    · cases hstatus
    · next n hn =>
      rw [← Option.some.inj hstatus]
      refine setModeInfoVersion_ok (fun htwo himager => h ⟨?_, himager⟩)
      exact htwo.imp (fun hzero => by rw [hn, hzero]) (fun htwo => by rw [hn, htwo])
  · next hversion =>
    rw [if_neg hversion] at h
    split at hstatus
    · next hfps =>
      rw [if_pos hfps] at h
      split at hstatus
      · cases hstatus
      · next n hn =>
        rw [setFps_eq] at hstatus
        rw [← Option.some.inj hstatus]
        exact if_pos (Bool.not_eq_false _ ▸ fun hcmd => h ⟨n, hn, hcmd⟩)
    · next hfps =>
      rw [if_neg hfps] at h
      split at hstatus
      · next himager => exact absurd (if_pos himager ▸ trivial) h
      · next himager =>
        rw [if_neg himager] at h
        split at hstatus
        · cases hstatus
        · next n hn =>
          rw [← Option.some.inj hstatus]
          exact if_pos (Bool.not_eq_false _ ▸ fun hctrl => h ⟨n, hn, hctrl⟩)

/-! ### What is stored

The difference that a refused call makes is that of the fields of `stored`. -/

/-- To store a value changes nothing exactly if it is there already. -/
theorem update_eq_self_iff {f : Bytes → Option Bytes} {a : Bytes} {b : Option Bytes} :
    Function.update f a b = f ↔ f a = b := by
  constructor
  · intro h
    rw [← h, Function.update_self]
  · intro h
    rw [← h, Function.update_eq_self]

/-- What is there already is not changed by storing it. -/
theorem stored_of_holds (h : s.Holds control value) : s.stored control value = s := by
  obtain ⟨hvalue, hzero, htwo, hrate⟩ := h
  have hcontrols : (s.stored control value).controls = s.controls :=
    update_eq_self_iff.mpr hvalue
  have hccb : (s.stored control value).ccbVersion = s.ccbVersion := by
    unfold stored
    dsimp only
    split
    · next hversion =>
      split
      · next h => exact (hzero hversion h).symm
      · split
        · next h => exact (htwo hversion h).symm
        · rfl
    · rfl
  have hfps : (s.stored control value).sensorFps = s.sensorFps := by
    unfold stored
    dsimp only
    split
    · next hfps =>
      cases hn : stoi value with
      | none => rfl
      | some n => exact (hrate hfps n hn).symm
    · rfl
  calc s.stored control value
      = { s with
          controls := (s.stored control value).controls
          sensorFps := (s.stored control value).sensorFps
          ccbVersion := (s.stored control value).ccbVersion } := rfl
    _ = s := by rw [hcontrols, hccb, hfps]

/-- **Nothing differs exactly where what is stored is there already.** -/
theorem sameSettings_stored_iff :
    SameSettings s (s.stored control value) ↔ s.Holds control value := by
  constructor
  · intro h
    refine ⟨update_eq_self_iff.mp h.controls, fun hversion hzero => ?_,
      fun hversion htwo => ?_, fun hfps n hn => ?_⟩
    · have hccb := h.ccbVersion
      unfold stored at hccb
      dsimp only at hccb
      rw [if_pos hversion, if_pos hzero] at hccb
      exact hccb.symm
    · have hccb := h.ccbVersion
      unfold stored at hccb
      dsimp only at hccb
      rw [if_pos hversion, if_neg (by rw [htwo]; decide), if_pos htwo] at hccb
      exact hccb.symm
    · have hrate := h.sensorFps
      unfold stored at hrate
      dsimp only at hrate
      rw [if_pos hfps, hn] at hrate
      exact hrate.symm
  · intro h
    rw [stored_of_holds h]
    exact ⟨rfl, rfl, rfl, rfl, fun _ => rfl⟩

/-- `ModeInfo` leaves a trace of the imager where it refuses the version. -/
theorem setImagerTypeAndModeVersion_atomic_iff {type version : Int} :
    ((s.setImagerTypeAndModeVersion type version).2 ≠ .ok →
        (s.setImagerTypeAndModeVersion type version).1 = s)
      ↔ ((type = 1 ∨ type = 2) →
        (0 ≤ version ∧ version ≤ 3) ∨ s.modeInfo.imagerType = type) := by
  unfold setImagerTypeAndModeVersion ModeTable.setImagerTypeAndModeVersion
  by_cases htype : type = 1 ∨ type = 2
  · rw [if_pos htype]
    by_cases hversion : 0 ≤ version ∧ version ≤ 3
    · rw [if_pos hversion]
      exact iff_of_true (absurd rfl) (fun _ => .inl hversion)
    · rw [if_neg hversion]
      constructor
      · intro h _
        exact .inr (congrArg (fun s => s.modeInfo.imagerType) (h nofun)).symm
      · intro h _
        have himager := (h htype).resolve_left hversion
        rw [← himager]
  · rw [if_neg htype]
    exact iff_of_true (fun _ => rfl) (fun h => absurd h htype)

end SensorSettings

/-! ## Runs

A refused call without a trace could as well not have been made, and this is
what the theorem says of all of them at once. -/

/-- **Which calls are atomic**, in any state. -/
theorem atomic_iff_traceless (s : SensorSettings) (a : ControlDriver × SettingsCall) :
    Atomic s a ↔ Traceless s a := by
  obtain ⟨driver, call⟩ := a
  cases call with
  | query readValue adsd3030 => exact Iff.rfl
  | setImagerTypeAndModeVersion type version =>
    exact SensorSettings.setImagerTypeAndModeVersion_atomic_iff
  | setControl control value =>
    show (∀ status, _ = _ → _ → SameSettings s _) ↔ (_ ∨ _ ∨ _)
    by_cases hcontrol : s.controls control = none
    · have hnone : s.setControl driver control value = (s, some .invalidArgument) :=
        if_pos hcontrol
      rw [hnone]
      exact iff_of_true (fun _ _ _ => ⟨rfl, rfl, rfl, rfl, fun _ => rfl⟩) (.inl hcontrol)
    · by_cases hrefuses : s.Refuses driver control value
      · obtain ⟨status, hne, heq⟩ := SensorSettings.setControl_of_refuses hcontrol hrefuses
        rw [heq]
        constructor
        · intro h
          exact .inr (.inr (SensorSettings.sameSettings_stored_iff.mp (h status rfl hne)))
        · intro h _ _ _
          exact SensorSettings.sameSettings_stored_iff.mpr
            ((h.resolve_left hcontrol).resolve_left (not_not.mpr hrefuses))
      · refine iff_of_true (fun status hstatus hne => absurd ?_ hne) (.inr (.inl hrefuses))
        exact SensorSettings.setControl_of_not_refuses hcontrol hrefuses hstatus

/-- The calls of a run that return no error. -/
def accepted : SensorSettings → List (ControlDriver × SettingsCall) →
    List (ControlDriver × SettingsCall)
  | _, [] => []
  | s, a :: as =>
    if s.statusOf a = some .ok ∨ s.statusOf a = none then a :: accepted (s.call a) as
    else accepted (s.call a) as

/-- A call of which an error leaves no trace leaves the state as it is. -/
theorem call_eq_of_traceless {s : SensorSettings} {a : ControlDriver × SettingsCall}
    (h : Traceless s a) (herror : ¬ (s.statusOf a = some .ok ∨ s.statusOf a = none)) :
    s.call a = s := by
  obtain ⟨driver, call⟩ := a
  cases call with
  | query readValue adsd3030 => exact absurd (.inl rfl) herror
  | setImagerTypeAndModeVersion type version =>
    exact SensorSettings.setImagerTypeAndModeVersion_atomic_iff.mpr h
      (fun hok => herror (.inl (congrArg some hok)))
  | setControl control value =>
    show (s.setControl driver control value).1 = s
    by_cases hcontrol : s.controls control = none
    · exact congrArg Prod.fst (show s.setControl driver control value
        = (s, some .invalidArgument) from if_pos hcontrol)
    · by_cases hrefuses : s.Refuses driver control value
      · obtain ⟨status, -, heq⟩ := SensorSettings.setControl_of_refuses hcontrol hrefuses
        rw [heq]
        exact SensorSettings.stored_of_holds
          ((h.resolve_left hcontrol).resolve_left (not_not.mpr hrefuses))
      · refine absurd ?_ herror
        cases hstatus : (s.setControl driver control value).2 with
        | none => exact .inr hstatus
        | some status =>
          have hok := SensorSettings.setControl_of_not_refuses hcontrol hrefuses hstatus
          exact .inl (hstatus.trans (congrArg some hok))

/-- **The calls that are refused can be left out** of a run in which none leaves
a trace. -/
theorem run_accepted {s s' : SensorSettings} {calls : List (ControlDriver × SettingsCall)}
    (h : Run settingsStep Traceless s calls s') :
    Run settingsStep always s (accepted s calls) s' := by
  induction h with
  | nil s => exact Run.nil s
  | @cons s t u a as htraceless hstep hrun ih =>
    have ht : s.call a = t := Option.some.inj hstep
    rw [accepted]
    split
    · rw [ht]
      exact Run.cons trivial hstep ih
    · next herror =>
      rw [ht]
      rw [call_eq_of_traceless htraceless herror] at ht
      rw [ht]
      exact ih

/-- **Every call of a run is atomic exactly where none of those that are refused
would have stored anything new.**

A step's condition is on the state before it and on the call: that it is not
refused, or that what it would store is there. So the equivalence for one call
(`atomic_iff`) is one for runs, step by step, and no invariant is needed. -/
theorem run_atomic_iff (s s' : SensorSettings) (calls : List (ControlDriver × SettingsCall)) :
    Run settingsStep Atomic s calls s' ↔ Run settingsStep Traceless s calls s' :=
  ⟨Run.mono fun s a => (atomic_iff_traceless s a).mp,
    Run.mono fun s a => (atomic_iff_traceless s a).mpr⟩

/-- **A refused control decides the format**: the driver does not take 16 bits
of active brightness, and the next `lr-native` is set up for them. -/
theorem not_atomic_abBits :
    ¬ ∀ (fps : UInt32) (calls : List (ControlDriver × SettingsCall)) (s' : SensorSettings),
      Run settingsStep always (SensorSettings.constructed fps) calls s' →
        Run settingsStep Atomic (SensorSettings.constructed fps) calls s' := by
  intro h
  let driver : ControlDriver := ⟨fun _ _ => true, fun _ _ => false⟩
  let opened : SensorSettings :=
    (SensorSettings.constructed 30).queryAdsd3500 driver (some 0x0102) false
  have hrun : Run settingsStep always (SensorSettings.constructed 30)
      [(driver, .query (some 0x0102) false)] opened :=
    Run.cons trivial rfl (Run.nil _)
  have hset := h 30 _ _ (hrun.snoc (a := (driver, .setControl (ascii "abBits") (ascii "6")))
    trivial rfl)
  obtain ⟨s, hbefore, hatomic, -⟩ := hset.of_snoc
  have hs : s = opened := by
    cases hbefore with
    | cons _ hstep hrest =>
      cases hrest
      exact (Option.some.inj hstep).symm
  rw [hs] at hatomic
  have hformat := (hatomic .genericError (by decide +kernel) nofun).format
    ⟨ascii "lr-native", 1024, 4096⟩
  exact absurd hformat (by decide +kernel)
