import TofNet.BitFields
import TofNet.Transition

/-!
# The kernel's driver of the sensor

The driver gives the sensor to the video subsystem as a device of its own. It
answers which frame sizes there are and takes one of them (`adsd3500_set_format`),
keeps the controls that say how many bits a pixel has, and starts and stops the
stream (`adsd3500_s_stream`). The controls reach the imager in one word, which is
written when the device is woken up (`adsd3500_power_on`), and only then.

All of it runs under one mutex, `lock`, but for the controls, which have the
mutex of their handler. Between the calls the kernel's power management may
suspend the device, if nothing uses it.

What the kernel answers (a transfer on the bus that fails, a control that is not
set) is part of the labels of the machine. What the kernel does by itself is not
in this repository, and is a parameter with what is documented of it: the search
for the nearest frame size (`NearestSize`), the check of a value for a control
(`ControlCore`), and the counting of those who use the device (`RuntimePm`).

A call of the driver is one step here, also `adsd3500_s_stream`, during which a
control may be set; `SensorWake` has the steps of that. And `imager` is what the
driver itself has written last. The control V4L2_CID_ADSD3500_CHIP_CONFIG, which
passes on the commands of the SDK as they are, is in `ControlPackets`.
-/

namespace Adsd3500

/-! ## The modes

A mode is a frame size with its code; there are nine of them. What is enumerated
and what is taken are two searches in one table: the one by the code and a
number, the other by the nearest size. -/

/-- The code of a format with 8 bits for a pixel. -/
def MEDIA_BUS_FMT_SBGGR8_1X8 : UInt32 := 0x3001

/-- The code of a format with 12 bits for a pixel. -/
def MEDIA_BUS_FMT_SBGGR12_1X12 : UInt32 := 0x3008

/-- `struct adsd3500_mode_info`. -/
structure ModeInfo where
  width : ℕ
  height : ℕ
  pixelRate : ℕ := 488000000
  code : UInt32
  linkFreqIdx : ℕ
  deriving DecidableEq

/-- `adsd3500_mode_info_data`. -/
def modeInfoData : List ModeInfo := [
  { width := 512, height := 512, code := MEDIA_BUS_FMT_SBGGR12_1X12, linkFreqIdx := 0 },
  { width := 1024, height := 512, code := MEDIA_BUS_FMT_SBGGR8_1X8, linkFreqIdx := 1 },
  { width := 1280, height := 512, code := MEDIA_BUS_FMT_SBGGR8_1X8, linkFreqIdx := 2 },
  { width := 1536, height := 512, code := MEDIA_BUS_FMT_SBGGR8_1X8, linkFreqIdx := 3 },
  { width := 1792, height := 512, code := MEDIA_BUS_FMT_SBGGR8_1X8, linkFreqIdx := 4 },
  { width := 2048, height := 512, code := MEDIA_BUS_FMT_SBGGR8_1X8, linkFreqIdx := 5 },
  { width := 2304, height := 512, code := MEDIA_BUS_FMT_SBGGR8_1X8, linkFreqIdx := 6 },
  { width := 2560, height := 512, code := MEDIA_BUS_FMT_SBGGR8_1X8, linkFreqIdx := 7 },
  { width := 3072, height := 1024, code := MEDIA_BUS_FMT_SBGGR12_1X12, linkFreqIdx := 8 }]

/-- `adsd3500_enum_mbus_code`. -/
def enumMbusCode (pad index : ℕ) : Option UInt32 :=
  if pad ≠ 0 then none
  else match index with
    | 0 => some MEDIA_BUS_FMT_SBGGR8_1X8
    | 1 => some MEDIA_BUS_FMT_SBGGR12_1X12
    | _ => none

/-- The loop of `adsd3500_enum_frame_size`, from a mode on: the one it breaks
off at, where `j` is the number of modes of the code so far. -/
def enumFrameSizeLoop (code : UInt32) (index : ℕ) : List ModeInfo → ℕ → Option ModeInfo
  | [], _ => none
  | mode :: modes, j =>
    let j := if mode.code = code then j + 1 else j
    if index < j then some mode else enumFrameSizeLoop code index modes j

/-- `adsd3500_enum_frame_size`. -/
def enumFrameSize (code : UInt32) (index : ℕ) : Option (ℕ × ℕ) :=
  if modeInfoData.length ≤ index then none
  else (enumFrameSizeLoop code index modeInfoData 0).map fun mode => (mode.width, mode.height)

/-- How far a mode is from a frame size. -/
def ModeInfo.distance (width height : ℕ) (mode : ModeInfo) : ℕ :=
  ((mode.width : ℤ) - width).natAbs + ((mode.height : ℤ) - height).natAbs

/-- **`v4l2_find_nearest_size`** on the modes, which computes with `int`. -/
structure NearestSize where
  /-- The mode that is found. -/
  find : ℕ → ℕ → ModeInfo
  /-- It is one of the modes, … -/
  mem : ∀ width height, find width height ∈ modeInfoData
  /-- … and none is nearer, where nothing overflows. -/
  least : ∀ width height, width < 2 ^ 30 → height < 2 ^ 30 → ∀ mode ∈ modeInfoData,
    (find width height).distance width height ≤ mode.distance width height

/-- `struct v4l2_mbus_framefmt`. -/
structure Format where
  width : ℕ
  height : ℕ
  code : UInt32
  deriving DecidableEq

/-- The format of a mode: its size and its code. -/
def ModeInfo.format (mode : ModeInfo) : Format := ⟨mode.width, mode.height, mode.code⟩

/-! ## The controls

The SDK sets the bits of a pixel by controls, and each of these keeps a value
that the kernel has let through. Three of them the driver copies into
`current_config` when they are set, the others it reads from the controls when
it needs them. -/

/-- The types of the controls. -/
inductive CtrlType
  | integer
  | boolean
  | integerMenu

/-- `struct v4l2_ctrl_config`. -/
structure CtrlConfig where
  /-- What kind of control it is. -/
  type : CtrlType
  /-- The value to begin with. -/
  default : ℕ
  /-- The least value, … -/
  min : ℕ := 0
  /-- … and the greatest. -/
  max : ℕ
  /-- The items that the menu leaves out. -/
  menuSkipMask : ℕ := 0

/-- The controls of the driver that the imager's mode is made of. -/
inductive Ctrl
  | operatingMode
  | depthBits
  | abBits
  | confidenceBits
  | abAvg
  | depthEn
  deriving DecidableEq

/-- V4L2_CID_USER_ADSD_BASE, which is the id of the operating mode. -/
def V4L2_CID_USER_ADSD_BASE : UInt32 := 0x9819e0

/-- V4L2_CID_ADSD3500_OPERATING_MODE and the others. -/
def Ctrl.id : Ctrl → UInt32
  | .operatingMode => V4L2_CID_USER_ADSD_BASE + 0
  | .depthBits => V4L2_CID_USER_ADSD_BASE + 2
  | .abBits => V4L2_CID_USER_ADSD_BASE + 3
  | .confidenceBits => V4L2_CID_USER_ADSD_BASE + 4
  | .abAvg => V4L2_CID_USER_ADSD_BASE + 5
  | .depthEn => V4L2_CID_USER_ADSD_BASE + 6

/-- `nr_bits_qmenu`. -/
def nrBitsQmenu : List ℕ := [0, 4, 8, 10, 12, 14, 16]

/-- `adsd3500_ctrl_operating_mode` and the others. -/
def Ctrl.config : Ctrl → CtrlConfig
  | .operatingMode => { type := .integer, default := 0, max := 10 }
  | .depthBits => { type := .integerMenu, default := 2, min := 2, max := 6, menuSkipMask := 0x03 }
  | .abBits => { type := .integerMenu, default := 0, max := 6, menuSkipMask := 0x02 }
  | .confidenceBits => { type := .integerMenu, default := 0, max := 2 }
  | .abAvg => { type := .boolean, default := 1, max := 1 }
  | .depthEn => { type := .boolean, default := 1, max := 1 }

/-- **The kernel's check of a value for a control**: what is taken for a number is
in its range, a switch is on or off, and an item of a menu is taken as it is, if
it is there. -/
structure ControlCore where
  /-- The value that is set, if it is taken. -/
  validate : CtrlConfig → ℤ → Option ℕ
  /-- A number is brought into its range. -/
  integer : ∀ config value n, config.type = .integer → validate config value = some n →
    config.min ≤ n ∧ n ≤ config.max
  /-- A switch is on or off. -/
  boolean : ∀ config value, config.type = .boolean →
    validate config value = some (if value = 0 then 0 else 1)
  /-- An item of a menu is taken as it is, or not at all. -/
  integerMenu : ∀ config value n, config.type = .integerMenu →
    (validate config value = some n ↔ value = n ∧ config.min ≤ n ∧ n ≤ config.max
      ∧ config.menuSkipMask.testBit n = false)

/-- **The values of the controls**: `current_config`, and those that are read
from the controls themselves. -/
structure Controls where
  /-- The mode of the imager. -/
  operatingMode : ℕ := 0
  /-- The widths of the depth, … -/
  nrDepthBits : ℕ := 4
  /-- … of the active brightness, … -/
  nrAbBits : ℕ := 0
  /-- … and of the confidence, by their items. -/
  nrConfidenceBits : ℕ := 0
  /-- The active brightness is averaged. -/
  abAvg : ℕ := 1
  /-- The depth is computed. -/
  depthEn : ℕ := 1
  deriving DecidableEq

/-- `adsd3500_s_ctrl`. -/
def Controls.sCtrl (controls : Controls) (value : ℕ) : Ctrl → Controls
  | .operatingMode => { controls with operatingMode := value }
  | .depthBits => { controls with nrDepthBits := value }
  | .abBits => { controls with nrAbBits := value }
  | .confidenceBits => { controls with nrConfidenceBits := value }
  | .abAvg => { controls with abAvg := value }
  | .depthEn => { controls with depthEn := value }

/-- A control is set, or the value is refused. -/
def Controls.set (core : ControlCore) (controls : Controls) (ctrl : Ctrl) (value : ℤ) :
    Controls × Bool :=
  match core.validate ctrl.config value with
  | some value => (controls.sCtrl value ctrl, true)
  | none => (controls, false)

/-! ## The mode of the imager

All controls are put into two words of 16 bits: a command that tells the
operating mode, and a value with a field for each of the others. The masks are
those of the header, as a place and a width, and the fields are put together as
`FIELD_PREP` does it. -/

/-- What `adsd3500_parse_dt` finds. -/
structure DeviceTree where
  nrMipiLanes : ℕ
  useVc : Bool

/-- The masks of `adsd3500_regs.h`. -/
def SET_IMAGER_MODE_MSK : BitField := ⟨0, 8⟩

def SET_IMAGER_MODE_DEPTH_EN_MSK : BitField := ⟨0, 1⟩

def SET_IMAGER_MODE_VC_EN_MSK : BitField := ⟨1, 1⟩

def SET_IMAGER_MODE_AB_EN_MSK : BitField := ⟨2, 1⟩

def SET_IMAGER_MODE_AB_AVG_EN_MSK : BitField := ⟨3, 1⟩

def SET_IMAGER_MODE_DEPTH_BITS_MSK : BitField := ⟨4, 3⟩

def SET_IMAGER_MODE_AB_BITS_MSK : BitField := ⟨7, 3⟩

def SET_IMAGER_MODE_CONF_BITS_MSK : BitField := ⟨10, 2⟩

def SET_IMAGER_MODE_MIPI_LANES_NR_MSK : BitField := ⟨12, 2⟩

/-- The imager's number for an item of the menu. -/
def bitsCode (item : ℕ) : ℕ := if item ≠ 0 then 6 - item else 0

/-- What `adsd3500_power_on` puts into `write_val`. -/
def modeFields (dt : DeviceTree) (controls : Controls) : List (BitField × BitVec 32) := [
  (SET_IMAGER_MODE_DEPTH_EN_MSK, BitVec.ofNat 32 controls.depthEn),
  (SET_IMAGER_MODE_DEPTH_BITS_MSK, BitVec.ofNat 32 (bitsCode controls.nrDepthBits)),
  (SET_IMAGER_MODE_AB_EN_MSK, BitVec.ofNat 32 (if controls.nrAbBits ≠ 0 then 1 else 0)),
  (SET_IMAGER_MODE_AB_BITS_MSK, BitVec.ofNat 32 (bitsCode controls.nrAbBits)),
  (SET_IMAGER_MODE_CONF_BITS_MSK, BitVec.ofNat 32 controls.nrConfidenceBits),
  (SET_IMAGER_MODE_VC_EN_MSK, BitVec.ofNat 32 (!dt.useVc).toNat),
  (SET_IMAGER_MODE_AB_AVG_EN_MSK, BitVec.ofNat 32 controls.abAvg),
  (SET_IMAGER_MODE_MIPI_LANES_NR_MSK, BitVec.ofNat 32 dt.nrMipiLanes)]

/-- `write_cmd` and `write_val`, of which 16 bits each are written. -/
def modeWords (dt : DeviceTree) (controls : Controls) : BitVec 16 × BitVec 16 :=
  ((0xDA00#32 ||| SET_IMAGER_MODE_MSK.prep (BitVec.ofNat 32 controls.operatingMode)).setWidth 16,
    (BitField.pack 0#32 (modeFields dt controls)).setWidth 16)

/-- `STREAM_ON_CMD` and its value. -/
def STREAM_ON : BitVec 16 × BitVec 16 := (0x00AD, 0x00C5)

/-- `STREAM_OFF_CMD` and its value. -/
def STREAM_OFF : BitVec 16 × BitVec 16 := (0x000C, 0x0002)

/-! ## The driver

`fmt` is the format that the driver reports, and `current_mode` the one it uses.
Both are set where a format is taken, but not by the same calls.

`adsd3500_s_stream` is told whether to start or to stop, and does nothing if
that is what there is. To start, it asks for the device to be resumed, which
runs `adsd3500_power_on` if it was suspended; if this fails, or if the command
for the stream is not written, it gives back what it has counted. -/

/-- What was last written to the imager: its mode, and a command for the stream. -/
structure Imager where
  /-- The command and the word of the mode. -/
  mode : Option (BitVec 16 × BitVec 16) := none
  /-- The command for the stream. -/
  stream : Option (BitVec 16 × BitVec 16) := none

/-- The format and the crop rectangle that a file handle tries. -/
structure Pad where
  tryFmt : Format
  tryCrop : ℕ × ℕ

/-- What the kernel keeps of a device: how many use it, and whether it is
suspended. -/
structure Power where
  usageCount : ℕ := 0
  suspended : Bool := true

/-- What comes of `pm_runtime_get_sync`: whether it calls the driver, and whether
it returns without an error. -/
structure GetSync where
  /-- What the kernel keeps behind it. -/
  power : Power
  /-- The driver was called. -/
  calls : Bool
  /-- It has not failed. -/
  returns : Bool

/-- **The kernel's power management.** It is told whether the device can be
resumed, and what the driver returns if it is called for that. A caller of
`pm_runtime_get_sync` is counted as a user even if it fails; and behind
`pm_runtime_put` the device is suspended later, if at all. -/
structure RuntimePm where
  /-- `pm_runtime_get_sync`. -/
  getSync : Power → Bool → Bool → GetSync
  /-- `pm_runtime_put`. -/
  put : Power → Power
  /-- `pm_runtime_put_noidle`. -/
  putNoidle : Power → Power
  /-- A caller is counted, even if the call fails. -/
  usageCount_getSync : ∀ p resumes powered,
    (getSync p resumes powered).power.usageCount = p.usageCount + 1
  /-- The device is resumed if it can be and the driver succeeds. -/
  suspended_getSync : ∀ p resumes powered,
    (getSync p resumes powered).power.suspended = (p.suspended && !(resumes && powered))
  /-- The driver is called only for a device that is suspended. -/
  calls_getSync : ∀ p resumes powered,
    (getSync p resumes powered).calls = (resumes && p.suspended)
  /-- The call succeeds for a device that is awake, or becomes so. -/
  returns_getSync : ∀ p resumes powered,
    (getSync p resumes powered).returns = (resumes && (!p.suspended || powered))
  /-- A user is gone. -/
  usageCount_put : ∀ p, (put p).usageCount = p.usageCount - 1
  /-- The device is suspended later, if at all. -/
  suspended_put : ∀ p, (put p).suspended = p.suspended
  /-- A user is gone. -/
  usageCount_putNoidle : ∀ p, (putNoidle p).usageCount = p.usageCount - 1
  /-- Nothing else happens. -/
  suspended_putNoidle : ∀ p, (putNoidle p).suspended = p.suspended

/-- **What the driver has from the kernel.** -/
structure Kernel extends NearestSize, ControlCore, RuntimePm

/-- `struct adsd3500`, the pads of the file handles, what the kernel keeps of the
device, and the imager. -/
structure State extends Power where
  /-- The mutex is held. -/
  lock : Bool := false
  /-- `fmt`, which a try writes too. -/
  fmt : Format
  /-- The crop rectangle. -/
  crop : ℕ × ℕ
  /-- `current_mode`. -/
  currentMode : ModeInfo
  /-- The control for the pixel rate, … -/
  pixelRate : ℕ
  /-- … and that for the frequency. -/
  linkFreq : ℕ
  /-- What each file handle tries. -/
  pads : ℕ → Pad
  /-- The values of the controls. -/
  controls : Controls := {}
  /-- The stream is on. -/
  streaming : Bool := false
  /-- What was written to the imager. -/
  imager : Imager := {}

/-- V4L2_SUBDEV_FORMAT_TRY, V4L2_SUBDEV_FORMAT_ACTIVE, or neither. -/
inductive Which
  | trial
  | active
  | other
  deriving DecidableEq

/-- `adsd3500_get_format`, which does not take the mutex. -/
def State.getFormat (s : State) (which : Which) (handle : ℕ) : Option Format :=
  match which with
  | .trial => some (s.pads handle).tryFmt
  | .active => some s.fmt
  | .other => none

/-- `adsd3500_get_selection`. -/
def State.getSelection (s : State) (cropTarget : Bool) (which : Which) (handle : ℕ) :
    Option (ℕ × ℕ) :=
  if cropTarget = false then none
  else match which with
    | .trial => some (s.pads handle).tryCrop
    | .active => some s.crop
    | .other => none

/-- The arguments of `adsd3500_set_format`, and whether the two controls that it
sets are set. -/
structure FormatCall where
  /-- It is a try, or not. -/
  which : Which
  /-- The pad. -/
  pad : ℕ := 0
  /-- The file handle. -/
  handle : ℕ
  /-- The width that is asked for, … -/
  width : ℕ
  /-- … and the height. -/
  height : ℕ
  /-- The pixel rate can be set. -/
  rateSet : Bool := true
  /-- The frequency can be set. -/
  freqSet : Bool := true

/-- `adsd3500_set_format`, with the mutex taken. Where it fails, it is not given
back. -/
def State.setFormat (nearest : NearestSize) (s : State) (c : FormatCall) :
    State × Option Format :=
  let s := { s with lock := true }
  let mode := nearest.find c.width c.height
  if c.pad ≠ 0 then (s, none)
  else match c.which with
    | .other => (s, none)
    | .trial =>
      ({ s with
        pads := Function.update s.pads c.handle ⟨mode.format, (mode.width, mode.height)⟩
        fmt := mode.format, lock := false }, some mode.format)
    | .active =>
      let s := { s with crop := (mode.width, mode.height) }
      if c.rateSet = false then (s, none)
      else
        let s := { s with pixelRate := mode.pixelRate }
        if c.freqSet = false then (s, none)
        else ({ s with
          linkFreq := mode.linkFreqIdx, currentMode := mode, fmt := mode.format, lock := false },
          some mode.format)

/-- What `adsd3500_entity_init_cfg` asks for. -/
def initCfg (which : Which) (handle : ℕ) : FormatCall :=
  { which, handle, width := 512, height := 512 }

/-- What the kernel answers in `adsd3500_s_stream`: whether power management
resumes the device, whether the mode is written then, and whether the command for
the stream is. -/
structure StreamAnswers where
  /-- The device can be resumed. -/
  resumes : Bool := true
  /-- The mode is written. -/
  powered : Bool := true
  /-- The command for the stream is written. -/
  written : Bool := true

section Driver

variable (kernel : Kernel) (dt : DeviceTree)

/-- `adsd3500_power_on`, where the mode is written, or not. -/
def State.powerOn (s : State) (powered : Bool) : State :=
  if powered = true then
    { s with imager := { s.imager with mode := some (modeWords dt s.controls) } }
  else s

/-- `pm_runtime_get_sync`, which may call `adsd3500_power_on`. -/
def State.getSync (s : State) (a : StreamAnswers) : State × Bool :=
  let r := kernel.getSync s.toPower a.resumes a.powered
  let s := if r.calls = true then s.powerOn dt a.powered else s
  ({ s with toPower := r.power }, r.returns)

/-- `pm_runtime_put`. -/
def State.put (s : State) : State := { s with toPower := kernel.put s.toPower }

/-- `pm_runtime_put_noidle`. -/
def State.putNoidle (s : State) : State := { s with toPower := kernel.putNoidle s.toPower }

/-- `adsd3500_start_streaming` and `adsd3500_stop_streaming`. -/
def State.command (s : State) (a : StreamAnswers) (words : BitVec 16 × BitVec 16) : State :=
  if a.written = true then { s with imager := { s.imager with stream := some words } } else s

/-- `adsd3500_s_stream`, with the mutex taken and given back. -/
def State.sStream (s : State) (enable : Bool) (a : StreamAnswers) : State × Bool :=
  if s.streaming = enable then (s, true)
  else if enable = true then
    match s.getSync kernel dt a with
    | (s, false) => (s.putNoidle kernel, false)
    | (s, true) =>
      if a.written = true then ({ s.command a STREAM_ON with streaming := true }, true)
      else (s.put kernel, false)
  else ({ (s.command a STREAM_OFF).put kernel with streaming := false }, true)

/-- What is asked of the driver. A file handle is opened by
`adsd3500_entity_init_cfg`. -/
inductive Call
  | openHandle (handle : ℕ)
  | setFormat (c : FormatCall)
  | sStream (enable : Bool) (a : StreamAnswers)
  | setCtrl (ctrl : Ctrl) (value : ℤ)
  | suspend

/-- The calls that take `lock`. -/
def Call.locks : Call → Bool
  | .openHandle _ | .setFormat _ | .sStream .. => true
  | .setCtrl .. | .suspend => false

/-- **The driver**: a call that takes the mutex returns if it is free. -/
def step : Machine State Call := fun s call =>
  if call.locks = true ∧ s.lock = true then none
  else match call with
    | .openHandle handle => some (s.setFormat kernel.toNearestSize (initCfg .trial handle)).1
    | .setFormat c => some (s.setFormat kernel.toNearestSize c).1
    | .sStream enable a => some (s.sStream kernel dt enable a).1
    | .setCtrl ctrl value =>
      some { s with controls := (s.controls.set kernel.toControlCore ctrl value).1 }
    | .suspend =>
      if s.usageCount = 0 ∧ s.suspended = false then some { s with suspended := true } else none

/-- The driver as `adsd3500_probe` leaves it. -/
def State.probed (pads : ℕ → Pad) : State :=
  let mode := kernel.find 512 512
  { fmt := mode.format, crop := (mode.width, mode.height), currentMode := mode
    pixelRate := mode.pixelRate, linkFreq := mode.linkFreqIdx, pads }

end Driver

end Adsd3500
