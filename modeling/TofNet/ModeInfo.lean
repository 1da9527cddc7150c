import TofNet.Protocol

/-!
# The mode tables

`mode_info.cpp`: the tables that name the depth camera's modes, one for each
imager and version, and the singleton that holds the one in use. The
collector looks every mode up here. The viewer has a table of its own
(`Dealias`).

A table is a list of entries, and a lookup finds the first entry with a name, or
makes up one of zeros. Since 0 is a mode, an answer does not show whether the
name was found.
-/

/-- `aditof::Status`. -/
inductive Status
  | ok
  | busy
  | unreachable
  | invalidArgument
  | unavailable
  | genericError
  deriving DecidableEq, Repr

/-- `ModeInfo::modeInfo`. -/
structure ModeInfo where
  mode : UInt8 := 0
  width : UInt16 := 0
  height : UInt16 := 0
  subframes : UInt8 := 0
  embedWidth : UInt16 := 0
  embedHeight : UInt16 := 0
  passiveIr : UInt8 := 0
  modeName : Bytes := []
  deriving DecidableEq

/-! ## The tables -/

def gOldModes : List ModeInfo := [
  ⟨1, 320, 288, 9, 2162, 288, 0, ascii "lt_bin"⟩,
  ⟨3, 1024, 1024, 1, 12289, 64, 1, ascii "pcmmp"⟩,
  ⟨7, 512, 512, 10, 2195, 896, 1, ascii "qmp"⟩,
  ⟨10, 1024, 1024, 9, 12289, 576, 0, ascii "mp"⟩]

def gOldModesAdsd3030 : List ModeInfo := [
  ⟨5, 512, 640, 1, 1670, 1472, 1, ascii "vga"⟩]

def gNewModesAdsd3100 : List ModeInfo := [
  ⟨0, 1024, 1024, 6, 49156, 96, 0, ascii "sr-native"⟩,
  ⟨1, 1024, 1024, 9, 49156, 144, 0, ascii "lr-native"⟩,
  ⟨2, 512, 512, 6, 12292, 96, 0, ascii "sr-qnative"⟩,
  ⟨3, 512, 512, 9, 18438, 96, 0, ascii "lr-qnative"⟩,
  ⟨4, 1024, 1024, 1, 49156, 16, 1, ascii "pcmmp"⟩]

def gNewModesAdsd3500 : List ModeInfo := [
  ⟨0, 1024, 1024, 2, 49156, 96, 0, ascii "sr-native"⟩,
  ⟨1, 1024, 1024, 3, 49156, 144, 0, ascii "lr-native"⟩,
  ⟨2, 512, 512, 1, 12292, 96, 0, ascii "sr-qnative"⟩,
  ⟨3, 512, 512, 1, 18438, 96, 0, ascii "lr-qnative"⟩,
  ⟨4, 1024, 1024, 1, 18438, 96, 1, ascii "pcm-native"⟩]

def gNewModesAdsd3030 : List ModeInfo := [
  ⟨0, 512, 640, 1, 1670, 1472, 1, ascii "sr-native"⟩,
  ⟨1, 512, 640, 1, 1670, 1472, 1, ascii "lr-native"⟩,
  ⟨2, 256, 320, 1, 1670, 1472, 1, ascii "sr-qnative"⟩,
  ⟨3, 256, 320, 1, 1670, 1472, 1, ascii "lr-qnative"⟩,
  ⟨4, 512, 640, 1, 18438, 96, 1, ascii "pcm-native"⟩]

def gNewMixedModesAdsd3500 : List ModeInfo := [
  ⟨0, 1024, 1024, 2, 49156, 96, 0, ascii "sr-native"⟩,
  ⟨1, 1024, 1024, 3, 49156, 144, 0, ascii "lr-native"⟩,
  ⟨2, 512, 512, 1, 12292, 96, 0, ascii "sr-qnative"⟩,
  ⟨3, 512, 512, 1, 18438, 96, 0, ascii "lr-qnative"⟩,
  ⟨4, 1024, 1024, 1, 18438, 96, 1, ascii "pcm-native"⟩,
  ⟨6, 512, 512, 1, 12292, 96, 0, ascii "sr-mixed"⟩,
  ⟨5, 512, 512, 1, 18438, 96, 0, ascii "lr-mixed"⟩]

def gNewMixedModesAdsd3030 : List ModeInfo := [
  ⟨0, 512, 640, 1, 1670, 1472, 1, ascii "sr-native"⟩,
  ⟨1, 512, 640, 1, 1670, 1472, 1, ascii "lr-native"⟩,
  ⟨2, 256, 320, 1, 1670, 1472, 1, ascii "sr-qnative"⟩,
  ⟨3, 256, 320, 1, 1670, 1472, 1, ascii "lr-qnative"⟩,
  ⟨4, 512, 640, 1, 18438, 96, 1, ascii "pcm-native"⟩,
  ⟨6, 256, 320, 1, 1670, 1472, 0, ascii "sr-mixed"⟩,
  ⟨5, 256, 320, 1, 1670, 1472, 0, ascii "lr-mixed"⟩]

/-! ## The singleton

The table in use is chosen by an imager and a version, and stays what it was
where one of the two is unknown. The imager is stored all the same. -/

/-- The static members of `ModeInfo`: `g_imagerType`, `g_modeVersion` and
`g_modeInfoData`, with the values they are initialised with. -/
structure ModeTable where
  imagerType : Int := 1
  modeVersion : Int := 2
  data : List ModeInfo := gNewModesAdsd3500
  deriving DecidableEq

namespace ModeTable

/-- `ModeInfo::getModeInfo` of a name: the first entry with it, or a zeroed
one. -/
def getModeInfo (t : ModeTable) (name : Bytes) : ModeInfo :=
  (t.data.find? (fun info => info.modeName = name)).getD {}

/-- `ModeInfo::getModeInfo` of a mode id. -/
def getModeInfoOfId (t : ModeTable) (mode : ℕ) : ModeInfo :=
  (t.data.find? (fun info => info.mode.toNat = mode)).getD {}

/-- `ModeInfo::convertCameraMode`. -/
def convertCameraMode (t : ModeTable) (name : Bytes) : Option UInt8 :=
  (t.data.find? (fun info => info.modeName = name)).map ModeInfo.mode

/-- The name is in the table. -/
def Names (t : ModeTable) (name : Bytes) : Prop := ∃ info ∈ t.data, info.modeName = name

instance (t : ModeTable) (name : Bytes) : Decidable (t.Names name) :=
  inferInstanceAs (Decidable (∃ info ∈ t.data, info.modeName = name))

/-- The table `setImagerTypeAndModeVersion` assigns, for an imager it knows. -/
def tableOf (type version : Int) : List ModeInfo :=
  if type = 1 then
    if version = 3 then gNewMixedModesAdsd3500
    else if version = 2 then gNewModesAdsd3500
    else if version = 1 then gNewModesAdsd3100
    else gOldModes
  else
    if version = 3 then gNewMixedModesAdsd3030
    else if version = 2 then gNewModesAdsd3030
    else gOldModesAdsd3030

/-- `ModeInfo::setImagerTypeAndModeVersion`. The imager is stored before the
version is looked at. -/
def setImagerTypeAndModeVersion (t : ModeTable) (type version : Int) : ModeTable × Status :=
  if type = 1 ∨ type = 2 then
    if 0 ≤ version ∧ version ≤ 3 then (⟨type, version, tableOf type version⟩, .ok)
    else ({ t with imagerType := type }, .invalidArgument)
  else (t, .invalidArgument)

/-- A name that is not in the table is given the mode of a zeroed entry. -/
theorem getModeInfo_of_not_names {t : ModeTable} {name : Bytes} (h : ¬ t.Names name) :
    t.getModeInfo name = {} := by
  have hnone : t.data.find? (fun info => info.modeName = name) = none := by
    rw [List.find?_eq_none]
    intro info hinfo hname
    exact h ⟨info, hinfo, of_decide_eq_true hname⟩
  rw [getModeInfo, hnone]
  rfl

end ModeTable

/-! ## Choosing a table

The collector chooses the table by what the sensor says of mode 5, which is a
mixed mode in one version and none in the other. Whatever is answered, it ends
up with one of four tables, all of them with distinct names, so that a name
found has one mode only. -/

/-- `aditof::ImagerType`. -/
inductive ImagerType
  | unknown
  | adsd3100
  | adsd3030
  deriving DecidableEq, Repr

/-- `(int)imagerType`. -/
def ImagerType.code : ImagerType → Int
  | .unknown => 0
  | .adsd3100 => 1
  | .adsd3030 => 2

/-- The `modeInfoVersion` branch of `Adsd3500Sensor::setControl`, which also
sets the table and ignores how that ends. -/
def setModeInfoVersion (imagerType : ImagerType) (n : Int) (t : ModeTable) : ModeTable × Status :=
  if (n = 0 ∨ n = 2) ∧ imagerType = .unknown then (t, .genericError)
  else ((t.setImagerTypeAndModeVersion imagerType.code n).1, .ok)

/-- What the sensor answers while the collector chooses a table: its
`imagerType` control, the dealias parameters of mode 5, and whether the
`modeInfoVersion` control can be set. -/
structure TableProbe where
  /-- `getControl("imagerType")`, which may fail. -/
  control : Option ImagerType
  /-- The imager the sensor has found. -/
  imagerType : ImagerType
  /-- `adsd3500_read_payload_cmd(0x02)` of mode 5, which may fail. -/
  dealiasParams : Option Bytes

/-- The version the dealias parameters of mode 5 speak for: its rows and
columns are those of a mixed mode. -/
def probedVersion : Option Bytes → Int
  | none => 3
  | some params =>
    if get32 0 params = 512 ∧ get32 4 params = 512
      ∨ get32 0 params = 320 ∧ get32 4 params = 256 then 3 else 2

/-- `CameraRawSource::configure_direct_sensor_mode_table`. It returns the
table it leaves, and whether it returned or threw. -/
def configureDirectSensorModeTable (p : TableProbe) (t : ModeTable) : ModeTable × Bool :=
  let imager : Int :=
    match p.control with
    | none | some .unknown => 1
    | some type => type.code
  let modeVersion := probedVersion p.dealiasParams
  let t := (t.setImagerTypeAndModeVersion imager modeVersion).1
  let r := setModeInfoVersion p.imagerType modeVersion t
  (r.1, r.2 = .ok)

/-- The tables the collector can be left with. -/
def ModeTable.Chosen (t : ModeTable) : Prop :=
  t.data ∈ [gNewModesAdsd3500, gNewMixedModesAdsd3500, gNewModesAdsd3030, gNewMixedModesAdsd3030]

/-- Setting a known version of a known imager leaves one of these tables. -/
theorem ModeTable.chosen_set (t : ModeTable) {type version : Int} (htype : type = 1 ∨ type = 2)
    (hv : version = 2 ∨ version = 3) : (t.setImagerTypeAndModeVersion type version).1.Chosen := by
  unfold setImagerTypeAndModeVersion
  rw [if_pos htype, if_pos (by omega)]
  show tableOf type version ∈ _
  rcases htype with rfl | rfl <;> rcases hv with rfl | rfl <;> simp [tableOf]

/-- **The collector uses a table of version 2 or 3**, whichever was there
before. -/
theorem chosen_configure (p : TableProbe) (t : ModeTable) :
    (configureDirectSensorModeTable p t).1.Chosen := by
  have hv : probedVersion p.dealiasParams = 2 ∨ probedVersion p.dealiasParams = 3 := by
    unfold probedVersion
    split
    · exact .inr rfl
    · split
      · exact .inr rfl
      · exact .inl rfl
  unfold configureDirectSensorModeTable setModeInfoVersion
  dsimp only
  have hset : ∀ imager : Int, imager = 1 ∨ imager = 2 →
      (t.setImagerTypeAndModeVersion imager (probedVersion p.dealiasParams)).1.Chosen :=
    fun imager himager => t.chosen_set himager hv
  have hfirst := hset (match p.control with
    | none | some .unknown => 1
    | some type => type.code) (by
      rcases p.control with _ | _ | _ | _
      · exact .inl rfl
      · exact .inl rfl
      · exact .inl rfl
      · exact .inr rfl)
  split
  · exact hfirst
  · cases himager : p.imagerType with
    | unknown => exact hfirst
    | adsd3100 => exact ModeTable.chosen_set _ (.inl rfl) hv
    | adsd3030 => exact ModeTable.chosen_set _ (.inr rfl) hv

/-- The names of such a table are distinct. -/
theorem ModeTable.Chosen.nodup {t : ModeTable} (ht : t.Chosen) :
    (t.data.map ModeInfo.modeName).Nodup := by
  unfold ModeTable.Chosen at ht
  simp only [List.mem_cons, List.not_mem_nil, or_false] at ht
  rcases ht with h | h | h | h
  · rw [h]; decide
  · rw [h]; decide
  · rw [h]; decide
  · rw [h]; decide

/-- **What the id of a name is**, in a table with distinct names. -/
theorem ModeTable.Chosen.getModeInfo_of_mem {t : ModeTable} (ht : t.Chosen) {info : ModeInfo}
    (hinfo : info ∈ t.data) : t.getModeInfo info.modeName = info := by
  have hfind : t.data.find? (fun i => i.modeName = info.modeName) = some info := by
    cases hf : t.data.find? (fun i => i.modeName = info.modeName) with
    | none => exact absurd rfl (of_decide_eq_false (Bool.not_eq_true _ ▸
        List.find?_eq_none.mp hf info hinfo))
    | some i =>
      have hname : i.modeName = info.modeName := of_decide_eq_true (List.find?_some hf :)
      exact congrArg some
        (List.inj_on_of_nodup_map ht.nodup (List.mem_of_find?_eq_some hf) hinfo hname)
  rw [getModeInfo, hfind]
  rfl

/-- A mode that can be converted is the one the name has in the table. -/
theorem ModeTable.convertCameraMode_eq_some {t : ModeTable} {name : Bytes} {mode : UInt8}
    (h : t.convertCameraMode name = some mode) :
    t.Names name ∧ (t.getModeInfo name).mode = mode := by
  obtain ⟨info, hfind, rfl⟩ := Option.map_eq_some_iff.mp h
  refine ⟨⟨info, List.mem_of_find?_eq_some hfind, of_decide_eq_true (List.find?_some hfind :)⟩, ?_⟩
  rw [getModeInfo, hfind]
  rfl
