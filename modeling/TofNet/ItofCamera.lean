import TofNet.Camera

/-!
# The camera of the SDK

`CameraItof::setFrameType`, the other program that drives the sensor, and what
it calls to configure it: `getKeyValuePairsFromIni`,
`setAdsd3500WithIniParams` and `configureSensorFrameType`. It keeps the
contents of the last INI file it could read in `m_iniKeyValPairs`.

The camera is connected to the sensor of its own board, whose commands go to
`Adsd3500Sensor`. Reading an INI file differs from the collector's: lines are
not trimmed, the first value of a key counts, and a file that cannot be opened
leaves the map as it was.

The camera has a memory of its own in which an INI file leaves something: the
map of the last file that could be read, and what was noted of the active
brightness. A frame type whose file cannot be opened is set with the map of
another one. Whether that shows is the question of `PathIndependence`.
-/

/-- **`CameraItof`**, as far as `setFrameType` reads and writes it.
`registers` are the parameters of the ISP, by command. -/
structure ItofCamera where
  /-- The frame types that are available. -/
  types : List FrameType
  /-- The modes, with their names. -/
  table : ModeTable
  /-- `m_ini_depth_map`, the INI files by mode. -/
  iniDepthMap : List (Bytes × Bytes) := []
  /-- `m_ini_depth`, the INI file that is in use. -/
  iniDepth : Bytes := []
  /-- The pairs that were read last. -/
  iniKeyValPairs : Bytes → Option Bytes := fun _ => none
  sensor : Sensor
  /-- What was written to the ISP. -/
  registers : UInt16 → Option UInt16 := fun _ => none
  abEnabled : Bool := false
  abBitsPerPixel : UInt8 := 0
  xyzEnabled : Bool := false
  xyzSetViaControl : Bool := false
  adsd3500Enabled : Bool := true
  isOffline : Bool := false
  enableDepthCompute : Bool := true
  pcmFrame : Bool := false
  /-- The name of the mode that was set. -/
  mode : Bytes := []
  /-- The frame type that was set. -/
  frameType : FrameType := ⟨[], 0, 0⟩
  /-- The captures of a frame. -/
  totalCaptures : UInt8 := 0

/-- **How one `setFrameType` is answered**: the sensor's system calls, the
commands to the ISP, and `initComputeLibrary`. -/
structure ItofAnswers where
  /-- The system calls of the sensor. -/
  sensor : Answers
  /-- The commands that fail. -/
  writeFails : UInt16 → Bool := fun _ => false
  /-- The library cannot be initialised. -/
  computeFails : Bool := false

namespace ItofCamera

/-! ## The INI file

A line gives a key a value if there is an equals sign with something behind it.
The map keeps the first value of a key, as `emplace` does. -/

/-- What a line of an INI file adds to the map. -/
def iniPair (line : Bytes) : Option (Bytes × Bytes) :=
  if 61 ∉ line then none
  else
    let value := (line.dropWhile (· ≠ 61)).drop 1
    if value = [] then none else some (line.takeWhile (· ≠ 61), value)

/-- The map a file is read into: `emplace` keeps the first value. -/
def iniPairs (text : Bytes) : Bytes → Option Bytes := fun key =>
  ((((getlines 10 text).filterMap iniPair).find? (fun pair => pair.1 = key)).map Prod.snd)

/-- `getKeyValuePairsFromIni`, whose status is ignored. No file has the empty
name. -/
def getKeyValuePairsFromIni (a : ItofAnswers) (files : Files) (c : ItofCamera) : ItofCamera :=
  if c.iniDepth = [] ∨ a.sensor.fails .openIni = true then c
  else
    match files c.iniDepth with
    | none => c
    | some text => { c with iniKeyValPairs := iniPairs text }

/-- The INI file of a frame type: where there are several, the name is
looked up, and a missing one is empty. -/
def iniDepthOf (c : ItofCamera) (frameType : Bytes) : Bytes :=
  if 1 < c.iniDepthMap.length then
    match c.iniDepthMap.find? (fun entry => entry.1 = frameType) with
    | some entry => entry.2
    | none => []
  else c.iniDepth

/-- `m_ini_depth = m_ini_depth_map[frameType]`, which adds a missing name. -/
def chooseIniDepth (frameType : Bytes) (c : ItofCamera) : ItofCamera :=
  if 1 < c.iniDepthMap.length then
    { c with
      iniDepth := c.iniDepthOf frameType
      iniDepthMap := match c.iniDepthMap.find? (fun entry => entry.1 = frameType) with
        | some _ => c.iniDepthMap
        | none => c.iniDepthMap ++ [(frameType, [])] }
  else c

/-! ## The parameters of the ISP

They are sent as commands, in a fixed order, as long as the values are numbers.
A value that is none ends `setAdsd3500WithIniParams` with an exception, behind
the commands that came before it. -/

/-- The command of a parameter and its value, if the key is there, or no value
where `stoi` throws. -/
def intParam (kv : Bytes → Option Bytes) (key : Bytes) (cmd : UInt16) :
    List (UInt16 × Option UInt16) :=
  match kv key with
  | some value => [(cmd, (stoi value).map (fun n => UInt16.ofNat (n % 65536).toNat))]
  | none => []

/-- The commands of `setAdsd3500WithIniParams`, in their order. -/
def iniParams (kv : Bytes → Option Bytes) : List (UInt16 × Option UInt16) :=
  intParam kv (ascii "abThreshMin") 0x10
    ++ intParam kv (ascii "confThresh") 0x11
    ++ intParam kv (ascii "radialThreshMin") 0x27
    ++ intParam kv (ascii "radialThreshMax") 0x29
    ++ intParam kv (ascii "jblfWindowSize") 0x14
    ++ match kv (ascii "jblfApplyFlag") with
      | some value => [(0x13, some (if value = ascii "0" then 0 else 1))]
      | none => []

/-- The commands up to the first that throws, and whether none does. -/
def writeParams (a : ItofAnswers) : List (UInt16 × Option UInt16) → ItofCamera →
    ItofCamera × Bool
  | [], c => (c, true)
  | (_, none) :: _, c => (c, false)
  | (cmd, some value) :: rest, c =>
    writeParams a rest (if a.writeFails cmd = true then c
      else { c with registers := Function.update c.registers cmd (some value) })

/-- `setAdsd3500WithIniParams`. -/
def setAdsd3500WithIniParams (a : ItofAnswers) (c : ItofCamera) : ItofCamera × Bool :=
  writeParams a (iniParams c.iniKeyValPairs) c

/-! ## The controls of the sensor

The three widths and the enable bit go to the sensor as controls. In between the
camera notes how many bits the active brightness has, and `stoi` may throw
there, so that the controls that come behind are not set. -/

def phaseBits (value : Bytes) : ℕ :=
  if value = ascii "16" then 6
  else if value = ascii "14" then 5
  else if value = ascii "12" then 4
  else if value = ascii "10" then 3
  else 2

def confBits (value : Bytes) : ℕ :=
  if value = ascii "8" then 2 else if value = ascii "4" then 1 else 0

def abBits (value : Bytes) : ℕ :=
  if value = ascii "16" then 6
  else if value = ascii "14" then 5
  else if value = ascii "12" then 4
  else if value = ascii "10" then 3
  else if value = ascii "8" then 2
  else 0

/-- The control a key sets. -/
def keyControl (kv : Bytes → Option Bytes) (key : Bytes) (control : Control)
    (bits : Bytes → ℕ) : List (Control × ℕ) :=
  match kv key with
  | some value => [(control, bits value)]
  | none => []

/-- The controls set ahead of the active brightness. -/
def controlsBeforeAb (kv : Bytes → Option Bytes) : List (Control × ℕ) :=
  keyControl kv (ascii "bitsInPhaseOrDepth") .phaseDepthBits phaseBits
    ++ keyControl kv (ascii "bitsInConf") .confidenceBits confBits

/-- Those set from the active brightness on. -/
def controlsFromAb (kv : Bytes → Option Bytes) : List (Control × ℕ) :=
  keyControl kv (ascii "bitsInAB") .abBits abBits
    ++ match kv (ascii "partialDepthEnable") with
      | some value =>
        let en := if value = ascii "0" then 1 else 0
        [(.depthEnable, en), (.abAveraging, en)]
      | none => []

/-- What the camera notes about the active brightness, or `none` where `stoi`
throws. -/
def noteAb (c : ItofCamera) : Option ItofCamera :=
  match c.iniKeyValPairs (ascii "bitsInAB") with
  | none => some c
  | some value => (stoi value).map (fun n =>
      { c with
        abEnabled := abBits value ≠ 0
        abBitsPerPixel := UInt8.ofNat (n % 256).toNat })

/-- `configureSensorFrameType`, and whether it returned or threw. -/
def configureSensorFrameType (a : ItofAnswers) (c : ItofCamera) : ItofCamera × Bool :=
  let kv := c.iniKeyValPairs
  let c : ItofCamera := { c with sensor := c.sensor.setControls a.sensor (controlsBeforeAb kv) }
  match c.noteAb with
  | none => ({ c with abEnabled := true }, false)
  | some c =>
    ({ c with
      sensor := c.sensor.setControls a.sensor (controlsFromAb kv)
      xyzEnabled := if c.xyzSetViaControl = true then c.xyzEnabled
        else match kv (ascii "xyzEnable") with
          | some value => value ≠ ascii "0"
          | none => c.xyzEnabled }, true)

/-! ## The frame type

The frame type is looked up, the sensor is configured from the INI file, and
only then is the frame type set. All that can be answered is in `ItofAnswers`. -/

/-- Whether the depth is computed here. -/
def computes (c : ItofCamera) : Prop :=
  c.enableDepthCompute = true ∧ c.pcmFrame = false
    ∧ (1 < c.totalCaptures ∨ c.adsd3500Enabled = true ∨ c.isOffline = true)

instance (c : ItofCamera) : Decidable c.computes := by
  unfold computes
  infer_instance

/-- The part of `setFrameType` up to the sensor's. -/
def configure (a : ItofAnswers) (files : Files) (frameType : Bytes) (c : ItofCamera) :
    ItofCamera × Bool :=
  let c := c.chooseIniDepth frameType
  let c := getKeyValuePairsFromIni a files { c with pcmFrame := frameType = ascii "pcm-native" }
  match c.setAdsd3500WithIniParams a with
  | (c, false) => (c, false)
  | (c, true) =>
    match c.configureSensorFrameType a with
    | (c, false) => (c, false)
    | (c, true) => ({ c with mode := frameType }, true)

/-- `CameraItof::setFrameType`, or no status where it throws. -/
def setFrameType (a : ItofAnswers) (files : Files) (frameType : Bytes) (c : ItofCamera) :
    ItofCamera × Option Status :=
  match c.types.find? (fun type => type.type = frameType) with
  | none => (c, some .invalidArgument)
  | some type =>
    match c.configure a files frameType with
    | (c, false) => (c, none)
    | (c, true) =>
      match c.sensor.setFrameType a.sensor c.table type with
      | (s, .ok) =>
        let info := c.table.getModeInfo frameType
        let c : ItofCamera := { c with
          sensor := s
          frameType := ⟨type.type, info.width.toNat, info.height.toNat⟩
          totalCaptures := if c.adsd3500Enabled = true then 1 else info.subframes }
        (c, some (if c.computes ∧ a.computeFails = true then .genericError else .ok))
      | (s, status) => ({ c with sensor := s }, some status)

end ItofCamera
