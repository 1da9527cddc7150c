import TofNet.Protocol
import TofNet.Text

/-!
# The collector's configuration

What `tof_net_collect` takes from its initialisation JSON and from the INI
files that it lists in `DEPTH_INI`: `load_direct_config` names an INI file for
each frame type, and `apply_direct_ini_controls` turns the file's bit widths
into the controls of the sensor.
-/

/-- The files of a machine, by path; a path without contents cannot be
opened. -/
abbrev Files := Bytes → Option Bytes

/-! ## The initialisation JSON

There is no JSON parser in it: a key is looked for as a text, and the string
behind the next colon is its value. `DEPTH_INI` is one string with the entries
separated by semicolons, and an entry is for the frame type in its name. Where
two entries are for the same frame type, the later one counts. -/

/-- `split`. -/
def split (s : Bytes) (delimiter : UInt8) : List Bytes :=
  ((getlines delimiter s).map trim).filter (· ≠ [])

/-- `json_string_value`: the string behind the first colon behind the key. -/
def jsonStringValue (json key : Bytes) : Bytes :=
  let value := (afterFirst ([34] ++ key ++ [34]) json).bind (fun rest =>
    (afterFirst [58] rest).bind (afterFirst [34]))
  match value with
  | some rest => if 34 ∈ rest then rest.takeWhile (· ≠ 34) else []
  | none => []

def isAbsolutePath (path : Bytes) : Bool := path.head? = some 47

/-- The arguments of the collector that `load_direct_config` reads. -/
structure ConfigArgs where
  initializationConfig : Bytes
  fps : UInt32 := 0

/-- `CameraRawSource::DirectConfig`. -/
structure DirectConfig where
  fps : Int := 0
  fsyncMode : Int := -1
  iniByMode : Bytes → Option Bytes := fun _ => none

/-- The path of a `DEPTH_INI` entry: relative to the JSON's directory, unless
it can be opened as it is. -/
def resolveEntry (files : Files) (initializationConfig entry : Bytes) : Bytes :=
  if isAbsolutePath entry = false ∧ files entry = none then
    joinPath (dirnameOf initializationConfig) entry
  else entry

/-- The frame type an INI file is for: the part of its name behind the last
underscore, without the extension. -/
def iniFrameType (path : Bytes) : Option Bytes :=
  let base := baseName path
  let base := match cutLast (· = 46) base with
    | some (stem, _) => stem
    | none => base
  (cutLast (· = 95) base).map Prod.snd

/-- The assignments to `ini_by_mode`, in their order. -/
def iniAssigns (files : Files) (initializationConfig depthIni : Bytes) : List (Bytes × Bytes) :=
  (split depthIni 59).filterMap (fun entry =>
    let resolved := resolveEntry files initializationConfig entry
    (iniFrameType resolved).map (fun ft => (ft, resolved)))

/-- `CameraRawSource::load_direct_config`, or `none` where it throws. -/
def loadDirectConfig (args : ConfigArgs) (files : Files) : Option DirectConfig :=
  (files args.initializationConfig).bind (fun json =>
    let fpsText := jsonStringValue json (ascii "FPS")
    let fsyncText := jsonStringValue json (ascii "FSYNC_MODE")
    (if fpsText = [] then some 0 else stoi fpsText).bind (fun fps =>
    (if fsyncText = [] then some (-1) else stoi fsyncText).map (fun fsyncMode =>
      { fps := if args.fps ≠ 0 then args.fps.toInt32.toInt else fps
        fsyncMode := fsyncMode
        iniByMode := assignAll (iniAssigns files args.initializationConfig
          (jsonStringValue json (ascii "DEPTH_INI"))) })))

/-! ## The INI file

A line that assigns is one with an equals sign that is no comment, trimmed on
both sides; of two assignments to a key the later counts. The widths go through
a table with a code for each, in which some widths do not occur. -/

/-- The assignment in one line of an INI file. -/
def iniAssign (line : Bytes) : Option (Bytes × Bytes) :=
  let line := trim line
  if line = [] ∨ line.head? = some 35 ∨ line.head? = some 59 ∨ 61 ∉ line then none
  else some (trim (line.takeWhile (· ≠ 61)), trim ((line.dropWhile (· ≠ 61)).drop 1))

/-- `parse_ini_key_values`, of a file that can be opened. -/
def parseIniKeyValues (text : Bytes) : Bytes → Option Bytes :=
  assignAll ((getlines 10 text).filterMap iniAssign)

/-- The sensor's controls that depend on the mode. -/
inductive Control
  | phaseDepthBits
  | confidenceBits
  | abBits
  | depthEnable
  | abAveraging
  deriving DecidableEq, Repr

/-- The code of a bit width. -/
def mapBits (value : Bytes) : ℕ :=
  if value = ascii "16" then 6
  else if value = ascii "14" then 5
  else if value = ascii "12" then 4
  else if value = ascii "10" then 3
  else if value = ascii "8" then 2
  else if value = ascii "4" then 1
  else 0

/-- `set_from_bits`. -/
def setFromBits (kv : Bytes → Option Bytes) (key : Bytes) (control : Control) :
    List (Control × ℕ) :=
  match kv key with
  | some value => [(control, mapBits value)]
  | none => []

/-- The `setControl` calls of `apply_direct_ini_controls` for the contents of
an INI file, in their order. -/
def directIniControls (kv : Bytes → Option Bytes) : List (Control × ℕ) :=
  setFromBits kv (ascii "bitsInPhaseOrDepth") .phaseDepthBits
    ++ setFromBits kv (ascii "bitsInConf") .confidenceBits
    ++ setFromBits kv (ascii "bitsInAB") .abBits
    ++ match kv (ascii "partialDepthEnable") with
      | some value =>
        let enabled := if value = ascii "0" then 1 else 0
        [(.depthEnable, enabled), (.abAveraging, enabled)]
      | none => []

/-- **The controls `apply_direct_ini_controls` sets for a frame type**: none
for a frame type without an INI file, and `none` where the file cannot be
opened and it throws. -/
def iniControls (files : Files) (iniByMode : Bytes → Option Bytes) (frameType : Bytes) :
    Option (List (Control × ℕ)) :=
  match iniByMode frameType with
  | none => some []
  | some path => (files path).map (fun text => directIniControls (parseIniKeyValues text))

/-- The value a list of `setControl` calls leaves a control with. -/
def controlValue (controls : List (Control × ℕ)) : Control → Option ℕ := assignAll controls
