import TofNet.TofiLibrary
import TofNet.Transition

/-!
# The TOFI cache

The viewer makes a TOFI configuration and context when it needs them, and
keeps them for the frames that follow (`ensureTofi`, `ensureTofiIsp`). What
they were made of is noted beside them, as the key, and a frame with the same
key uses them again; the handlers of CCB, CFG and dealias messages release
them.

There are two ways to make them, chosen by `isAdsd3500`, and one key for both.
That is where the cache can be wrong: the way is no part of the key, the ISP's
way leaves the CFG path empty in it and does not compare it, and takes the
mode from the frame type. `coherent_of_run` shows that a hit is otherwise as
good as a rebuild, in every run.

The GUI changes the configuration at any time, also while a frame is being
handled: the worker copies the configuration first and reads `isAdsd3500`
again later, so that a frame takes two steps.

That a hit is as good as a rebuild means that what is kept is what a rebuild
would make. So the invariant says of what is kept that its own key makes it, by
the way it was made, of the files and slots there are now (`Valid`). A handler
that replaces a file or a slot releases what is kept; a failed one leaves a
temporary file behind, which is where the guard has its second clause. And a hit
has the key of what is kept, in all that the way depends on
(`freshTofi_of_hits`), so that the two make the same if the ways are the same.
That they are is the first clause.
-/

/-! ## The configuration

The frame type of a frame comes from its header, or from the configuration where
that has none, and the mode from both as well. -/

/-- `ADINetworkToFStream::Config`, as far as TOFI depends on it. -/
structure ViewerConfig where
  /-- The CCB in use. -/
  ccbFile : Bytes := []
  /-- The CFG file in use. -/
  cfgFile : Bytes := []
  /-- Where a received CCB is saved. -/
  receivedCcbFile : Bytes := ascii "./config/received_machine_a_module.ccb"
  /-- Where a received CFG file is saved. -/
  receivedCfgFile : Bytes := ascii "./config/received_machine_a_module.cfg"
  /-- The INI file in use. -/
  iniFile : Bytes := []
  /-- The frame type, for frames that name none. -/
  frameType : Bytes := ascii "lr-mixed"
  /-- The mode, for frames that have none. -/
  mode : UInt16 := 0
  /-- TOFI is initialised on the ISP's way. -/
  isAdsd3500 : Bool := false
  deriving DecidableEq

/-- `sanitizeFrameType`, in the build without passive IR. -/
def sanitizeFrameType (frameType : Bytes) : Bytes :=
  let frameType := trim frameType
  if frameType = [] then ascii "lr-mixed"
  else if frameType = ascii "pcm" ∨ frameType = ascii "pcm-native" then ascii "lr-mixed"
  else frameType

/-- `setFrameType`. -/
def ViewerConfig.setFrameType (frameType : Bytes) (c : ViewerConfig) : ViewerConfig :=
  { c with
    frameType := sanitizeFrameType frameType
    mode := (convertModeName (sanitizeFrameType frameType)).toUInt16 }

/-- `makeFrameType`. -/
def makeFrameType (header : DataFramePayloadHeader) (config : ViewerConfig) : Bytes :=
  let frameType := cstrToString header.frameType
  let frameType := if frameType = [] then config.frameType else frameType
  if frameType = [] then ascii "network-raw" else frameType

/-- `makeMode`. -/
def makeMode (header : DataFramePayloadHeader) (config : ViewerConfig) : UInt16 :=
  if header.mode ≠ 0 then header.mode else config.mode

/-- The arguments `computeTofiFrame` calls `ensureTofi` with. -/
structure TofiRequest where
  mode : UInt16
  frameType : Bytes
  iniFile : Bytes
  ccbFile : Bytes
  cfgFile : Bytes
  deriving DecidableEq

/-- What `computeTofiFrame` makes of a frame's header and the configuration. -/
def tofiRequest (files : Files) (config : ViewerConfig) (header : DataFramePayloadHeader) :
    TofiRequest :=
  let frameType := makeFrameType header config
  { mode := makeMode header config
    frameType := frameType
    iniFile := if config.iniFile = [] ∨ contains frameType config.iniFile = false then
        resolveIniFile files [] frameType
      else config.iniFile
    ccbFile := config.ccbFile
    cfgFile := config.cfgFile }

/-! ## What is kept

Either way is a sequence of checks and calls, each of which may leave with a
text, and with what is kept then. The texts are the source's. The library's
calls are a parameter (`TofiLibrary`), and so is whether they fail. -/

/-- **The key**: `m_tofiMode` and the four names beside it. -/
structure TofiKey where
  mode : UInt16 := 0
  frameType : Bytes := []
  iniFile : Bytes := []
  ccbFile : Bytes := []
  cfgFile : Bytes := []
  deriving DecidableEq

/-- A context: the library's, and what the ISP's way adds to it – the
dimensions, and output buffers for so many pixels. -/
structure TofiContext (γ : Type) where
  /-- The library's context. -/
  object : γ
  /-- The rows and the columns. -/
  geometry : Option (UInt32 × UInt32) := none
  /-- The pixels that an output buffer holds. -/
  planePixels : Option ℕ := none
  deriving DecidableEq

/-- **`m_tofiConfig`, `m_tofiContext` and their key.** The default is what
`releaseTofi` leaves. -/
structure Tofi (κ γ : Type) where
  /-- The library's configuration. -/
  config : Option κ := none
  /-- Its context. -/
  context : Option (TofiContext γ) := none
  /-- What they were made from. -/
  key : TofiKey := {}
  deriving DecidableEq

section

variable {κ χ γ : Type} (lib : TofiLibrary κ χ γ) (files : Files) (slots : DealiasSlots)

/-- `readWholeFile` and the test behind it. What fails here leaves nothing
kept. -/
def readTofiFile (what path : Bytes) : Except (Tofi κ γ × Bytes) Bytes :=
  match files path with
  | none => .error ({}, ascii "Cannot open file: " ++ path)
  | some [] => .error ({}, ascii "TOFI " ++ what ++ ascii " file is empty: " ++ path)
  | some data => .ok data

/-- A check that throws while nothing is kept. -/
def tofiCheck (failed : Prop) [Decidable failed] (text : Bytes) :
    Except (Tofi κ γ × Bytes) Unit :=
  if failed then .error ({}, text) else .ok ()

/-- The end of both ways: the checks on the configuration, and
`InitTofiCompute`. `failed` and `invalid` are the texts of the two checks. -/
def initCompute (result : Option κ × UInt32) (failed invalid : Bytes) :
    Except (Tofi κ γ × Bytes) (κ × γ) :=
  match result with
  | (none, _) => .error ({}, failed)
  | (some config, status) =>
    if status ≠ 0 then .error ({ config := some config }, failed)
    else
      match lib.calConfig config with
      | none => .error ({ config := some config }, invalid)
      | some cal =>
        match lib.initTofiCompute cal with
        | (some object, 0) => .ok (config, object)
        | (object, status) =>
          .error ({ config := some config, context := object.map (fun object => { object }) },
            ascii "InitTofiCompute failed with status " ++ decimal status.toNat)

/-- Neither way does without an INI file. -/
def noIniText : Bytes :=
  ascii "No TOFI INI file configured. Set DEPTH_INI in tof-viewer_config.json or copy "
    ++ ascii "RawToDepthAdsd3500_<mode>.ini into ./config"

/-- The CCB of the generic way, which may have none. -/
def readOptionalCcb (path : Bytes) : Except (Tofi κ γ × Bytes) (Option Bytes) :=
  if path = [] then .ok none else (readTofiFile files (ascii "CCB") path).map some

/-- `InitTofiConfig_isp`, whose `stoi` may throw. -/
def configureIsp (ini : Bytes) (mode : UInt8) : Except (Tofi κ γ × Bytes) (Option κ × UInt32) :=
  match lib.initTofiConfigIsp ini mode slots with
  | none => .error ({}, ascii "stoi")
  | some result => .ok result

/-- **The generic way**, with the INI file resolved. A CFG file that cannot be
read counts as missing. -/
def initTofi (key : TofiKey) : Except (Tofi κ γ × Bytes) (Tofi κ γ) := do
  tofiCheck (key.iniFile = []) noIniText
  let ini ← readTofiFile files (ascii "INI") key.iniFile
  let ccb ← readOptionalCcb files key.ccbFile
  let cfg := if key.cfgFile = [] then none else (files key.cfgFile).filter (· ≠ [])
  let result := lib.initTofiConfig ccb cfg ini key.mode
  let (config, object) ← initCompute lib result
    (ascii "InitTofiConfig failed with status " ++ decimal result.2.toNat)
    (ascii "InitTofiConfig returned an invalid TOFI calibration config")
  .ok { config := some config, context := some { object }, key := key }

/-- **The ISP's way.** The CFG path of the key stays empty. -/
def initTofiIsp (key : TofiKey) : Except (Tofi κ γ × Bytes) (Tofi κ γ) := do
  let mode := convertModeName key.frameType
  let rows := dealiasRows (slots.get mode)
  let cols := dealiasCols (slots.get mode)
  tofiCheck (key.iniFile = []) noIniText
  let ini ← readTofiFile files (ascii "INI") key.iniFile
  tofiCheck (key.ccbFile = []) (ascii "ADSD3500 ISP TOFI path requires a CCB file (received from "
    ++ ascii "Machine A). No CCB file configured.")
  let _ ← readTofiFile files (ascii "CCB") key.ccbFile
  tofiCheck (rows = 0 ∨ cols = 0) (ascii "No dealias data received from Machine A for mode "
    ++ decimal mode.toNat ++ ascii " (" ++ key.frameType
    ++ ascii "). Is tof_net_collect running an up-to-date build?")
  let result ← configureIsp lib slots ini mode
  let (config, object) ← initCompute lib result
    (ascii "InitTofiConfig_isp failed with status " ++ decimal result.2.toNat
      ++ ascii " (mode=" ++ decimal mode.toNat ++ ascii ", frame_type=" ++ key.frameType
      ++ ascii ")")
    (ascii "InitTofiConfig_isp returned an invalid TOFI calibration config")
  let planePixels := rows.toNat * cols.toNat
  if lib.allocates planePixels = true then
    .ok {
      config := some config
      context := some { object, geometry := some (rows, cols), planePixels := some planePixels }
      key := { key with mode := mode.toUInt16, cfgFile := [] } }
  else
    .error ({ config := some config, context := some { object, geometry := some (rows, cols) } },
      ascii "std::bad_alloc")

/-- A fresh initialisation, by the way that `isp` chooses. -/
def freshTofi (isp : Bool) (key : TofiKey) : Except (Tofi κ γ × Bytes) (Tofi κ γ) :=
  if isp = true then initTofiIsp lib files slots key else initTofi lib files key

/-- What a request is compared with the key as: the INI file is resolved, and
on the ISP's way the mode is converted. -/
def requestKey (isp : Bool) (r : TofiRequest) : TofiKey where
  mode := if isp = true then (convertModeName r.frameType).toUInt16 else r.mode
  frameType := r.frameType
  iniFile := resolveIniFile files r.iniFile r.frameType
  ccbFile := r.ccbFile
  cfgFile := r.cfgFile

/-- The cache check; the ISP's does not compare the CFG path. -/
def Tofi.hits (isp : Bool) (key : TofiKey) (t : Tofi κ γ) : Bool :=
  t.context.isSome && t.config.isSome && t.key.mode = key.mode && t.key.frameType = key.frameType
    && t.key.iniFile = key.iniFile && t.key.ccbFile = key.ccbFile
    && (isp || t.key.cfgFile = key.cfgFile)

/-- **`ensureTofi`**, which hands over to `ensureTofiIsp` if `isAdsd3500`. -/
def ensureTofi (isp : Bool) (r : TofiRequest) (t : Tofi κ γ) :
    Except (Tofi κ γ × Bytes) (Tofi κ γ) :=
  if t.hits isp (requestKey files isp r) = true then .ok t
  else freshTofi lib files slots isp (requestKey files isp r)

/-! ## What a fresh initialisation depends on

On its key and on three files, and for the ISP's way on the slots. A success
keeps the key that it was asked for, as it is noted; a failure keeps none. -/

variable {lib files slots} {files' : Files} {isp : Bool} {key key' : TofiKey} {t t' : Tofi κ γ}

/-- A sequence that succeeds is one whose parts succeed. -/
theorem bind_eq_ok {ε α β : Type} {x : Except ε α} {f : α → Except ε β} {b : β} :
    (x >>= f) = .ok b ↔ ∃ a, x = .ok a ∧ f a = .ok b := by
  constructor
  · intro h
    cases x with
    | error e => cases h
    | ok a => exact ⟨a, rfl, h⟩
  · rintro ⟨a, rfl, h⟩
    exact h

theorem tofiCheck_eq_ok_iff {failed : Prop} [Decidable failed] {text : Bytes} {u : Unit} :
    (tofiCheck failed text : Except (Tofi κ γ × Bytes) Unit) = .ok u ↔ ¬ failed := by
  unfold tofiCheck
  by_cases h : failed
  · rw [if_pos h]
    exact iff_of_false (fun heq => nomatch heq) (not_not.mpr h)
  · rw [if_neg h]
    exact ⟨fun _ => h, fun _ => rfl⟩

theorem readTofiFile_eq_ok_iff {what path data : Bytes} :
    (readTofiFile files what path : Except (Tofi κ γ × Bytes) Bytes) = .ok data ↔
      files path = some data ∧ data ≠ [] := by
  unfold readTofiFile
  split
  · next hnone =>
    rw [hnone]
    exact iff_of_false (fun heq => nomatch heq) (fun h => Option.some_ne_none _ h.1.symm)
  · next hempty =>
    rw [hempty]
    exact iff_of_false (fun heq => nomatch heq) (fun h => h.2 (Option.some.inj h.1).symm)
  · next data' hne hdata =>
    rw [hdata]
    constructor
    · intro heq
      cases heq
      exact ⟨rfl, hne⟩
    · rintro ⟨heq, -⟩
      cases heq
      rfl

/-- The way that made the context. -/
def Tofi.builtByIsp (t : Tofi κ γ) : Bool :=
  match t.context with
  | some context => context.geometry.isSome
  | none => false

/-- The key that is noted: on the ISP's way, with the mode of the frame type
and without a CFG path. -/
def TofiKey.noted (isp : Bool) (key : TofiKey) : TofiKey :=
  if isp = true then
    { key with mode := (convertModeName key.frameType).toUInt16, cfgFile := [] }
  else key

/-- **What a successful initialisation keeps.** -/
theorem freshTofi_ok (h : freshTofi lib files slots isp key = .ok t) :
    t.context.isSome = true ∧ t.config.isSome = true ∧ t.builtByIsp = isp
      ∧ t.key = key.noted isp := by
  cases isp with
  | false =>
    obtain ⟨_, -, h⟩ := bind_eq_ok.mp h
    obtain ⟨_, -, h⟩ := bind_eq_ok.mp h
    obtain ⟨_, -, h⟩ := bind_eq_ok.mp h
    obtain ⟨_, -, h⟩ := bind_eq_ok.mp h
    cases h
    exact ⟨rfl, rfl, rfl, rfl⟩
  | true =>
    obtain ⟨_, -, h⟩ := bind_eq_ok.mp h
    obtain ⟨_, -, h⟩ := bind_eq_ok.mp h
    obtain ⟨_, -, h⟩ := bind_eq_ok.mp h
    obtain ⟨_, -, h⟩ := bind_eq_ok.mp h
    obtain ⟨_, -, h⟩ := bind_eq_ok.mp h
    obtain ⟨_, -, h⟩ := bind_eq_ok.mp h
    obtain ⟨_, -, h⟩ := bind_eq_ok.mp h
    dsimp only at h
    split at h
    · cases h
      exact ⟨rfl, rfl, rfl, rfl⟩
    · cases h

/-- What keeps an empty key where it fails. -/
def Keyless {α : Type} (x : Except (Tofi κ γ × Bytes) α) : Prop :=
  ∀ t text, x = .error (t, text) → t.key = {}

/-- One part behind another. -/
theorem Keyless.bind {α β : Type} {x : Except (Tofi κ γ × Bytes) α}
    {f : α → Except (Tofi κ γ × Bytes) β} (hx : Keyless x) (hf : ∀ a, Keyless (f a)) :
    Keyless (x >>= f) := by
  intro t text h
  cases x with
  | error e =>
    cases h
    exact hx t text rfl
  | ok a => exact hf a t text h

/-- Nothing has failed. -/
theorem keyless_ok {α : Type} (a : α) : Keyless (.ok a : Except (Tofi κ γ × Bytes) α) :=
  fun _ _ h => nomatch h

/-- A failure that keeps an empty key. -/
theorem keyless_error {α : Type} {t : Tofi κ γ} (text : Bytes) (ht : t.key = {}) :
    Keyless (.error (t, text) : Except (Tofi κ γ × Bytes) α) := by
  intro t' text' h
  cases h
  exact ht

/-- A check. -/
theorem keyless_tofiCheck (failed : Prop) [Decidable failed] (text : Bytes) :
    Keyless (tofiCheck failed text : Except (Tofi κ γ × Bytes) Unit) := by
  unfold tofiCheck
  split
  · exact keyless_error _ rfl
  · exact keyless_ok _

/-- Reading a file. -/
theorem keyless_readTofiFile (files : Files) (what path : Bytes) :
    Keyless (readTofiFile files what path : Except (Tofi κ γ × Bytes) Bytes) := by
  unfold readTofiFile
  split
  · exact keyless_error _ rfl
  · exact keyless_error _ rfl
  · exact keyless_ok _

/-- The end of both ways. -/
theorem keyless_initCompute (result : Option κ × UInt32) (failed invalid : Bytes) :
    Keyless (initCompute lib result failed invalid) := by
  unfold initCompute
  split
  · exact keyless_error _ rfl
  · split
    · exact keyless_error _ rfl
    · split
      · exact keyless_error _ rfl
      · split
        · exact keyless_ok _
        · exact keyless_error _ rfl

/-- What a failed initialisation keeps has an empty key. -/
theorem keyless_freshTofi (lib : TofiLibrary κ χ γ) (files : Files) (slots : DealiasSlots)
    (isp : Bool) (key : TofiKey) : Keyless (freshTofi lib files slots isp key) := by
  cases isp with
  | false =>
    refine (keyless_tofiCheck _ _).bind fun _ => (keyless_readTofiFile _ _ _).bind fun _ =>
      Keyless.bind ?_ fun _ => (keyless_initCompute _ _ _).bind fun _ => keyless_ok _
    unfold readOptionalCcb
    split
    · exact keyless_ok _
    · intro t text h
      cases hread : (readTofiFile files (ascii "CCB") key.ccbFile :
          Except (Tofi κ γ × Bytes) Bytes) with
      | error e =>
        rw [hread] at h
        cases h
        exact keyless_readTofiFile _ _ _ _ _ hread
      | ok data =>
        rw [hread] at h
        cases h
  | true =>
    refine (keyless_tofiCheck _ _).bind fun _ => (keyless_readTofiFile _ _ _).bind fun _ =>
      (keyless_tofiCheck _ _).bind fun _ => (keyless_readTofiFile _ _ _).bind fun _ =>
      (keyless_tofiCheck _ _).bind fun _ => Keyless.bind ?_ fun _ =>
      (keyless_initCompute _ _ _).bind fun _ => ?_
    · unfold configureIsp
      split
      · exact keyless_error _ rfl
      · exact keyless_ok _
    · dsimp only
      split
      · exact keyless_ok _
      · exact keyless_error _ rfl

/-- **A hit has the key of a fresh initialisation**, if it was made the same
way. -/
theorem freshTofi_of_hits (h : freshTofi lib files slots isp key = .ok t)
    (hhits : t.hits isp key' = true) : freshTofi lib files slots isp key' = .ok t := by
  obtain ⟨-, -, -, hkey⟩ := freshTofi_ok h
  rw [Tofi.hits, hkey] at hhits
  simp only [Bool.and_eq_true, decide_eq_true_eq, Bool.or_eq_true] at hhits
  obtain ⟨⟨⟨⟨⟨-, hmode⟩, hft⟩, hini⟩, hccb⟩, hcfg⟩ := hhits
  obtain ⟨mode, frameType, iniFile, ccbFile, cfgFile⟩ := key
  obtain ⟨mode', frameType', iniFile', ccbFile', cfgFile'⟩ := key'
  cases isp with
  | false =>
    cases hmode
    cases hft
    cases hini
    cases hccb
    cases hcfg.resolve_left Bool.noConfusion
    exact h
  | true =>
    cases hft
    cases hini
    cases hccb
    exact h

/-- It depends on the files that the key names. -/
theorem freshTofi_congr (hini : files' key.iniFile = files key.iniFile)
    (hccb : files' key.ccbFile = files key.ccbFile)
    (hcfg : files' key.cfgFile = files key.cfgFile) :
    freshTofi lib files' slots isp key = freshTofi lib files slots isp key := by
  unfold freshTofi initTofi initTofiIsp readOptionalCcb readTofiFile
  rw [hini, hccb, hcfg]

end

/-! ## The viewer

A frame takes two steps, and between them the GUI may configure the viewer; a
message is handled in one. What the worker is about to do is noted as the
request that is pending. -/

/-- **How saving a received file goes.** It is written to a temporary file,
which then takes the place of the file itself; what is written may be less
than what was received. -/
inductive SaveAnswer
  | notCreated
  | notWritten (data : Bytes)
  | notRenamed (data : Bytes)
  | saved (data : Bytes)
  deriving DecidableEq

/-- The files afterwards, and the text of the exception, if there is one. -/
def saveReceived (what savePath : Bytes) (answer : SaveAnswer) (files : Files) :
    Files × Option Bytes :=
  let tmpPath := savePath ++ ascii ".tmp"
  match answer with
  | .notCreated =>
    (files, some (ascii "Cannot create received " ++ what ++ ascii " file: " ++ tmpPath))
  | .notWritten data => (Function.update files tmpPath (some data),
      some (ascii "Failed while writing received " ++ what ++ ascii " file: " ++ tmpPath))
  | .notRenamed data => (Function.update files tmpPath (some data),
      some (ascii "rename failed for received " ++ what ++ ascii " file"))
  | .saved data =>
    (Function.update (Function.update files tmpPath none) savePath (some data), none)

/-- **The viewer**: the configuration, the disk, the dealias slots, what is
kept, and the arguments of a `computeTofiFrame` that has not called
`ensureTofi` yet. -/
structure ViewerTofi (κ γ : Type) where
  config : ViewerConfig
  /-- The disk. -/
  files : Files
  /-- The dealias data that was received, by mode. -/
  slots : DealiasSlots := fun _ => none
  /-- What is kept. -/
  tofi : Tofi κ γ := {}
  /-- What a frame asks for that has not called `ensureTofi` yet. -/
  pending : Option TofiRequest := none

/-- What happens to the viewer. The GUI configures it at any time; the other
steps are the worker's. -/
inductive TofiStep
  | configure (config : ViewerConfig)
  | setFrameType (frameType : Bytes)
  | ccbFile (m : Message) (answer : SaveAnswer)
  | cfgFile (m : Message) (answer : SaveAnswer)
  | dealiasData (m : Message)
  /-- `computeTofiFrame`, up to its call of `ensureTofi`. -/
  | dataFrame (header : DataFramePayloadHeader)
  | ensure

namespace ViewerTofi

variable {κ χ γ : Type}

/-- The checks on a CcbFile or CfgFile message; their headers have one
layout. -/
def moduleFileError (name what : Bytes) (m : Message) : Option Bytes :=
  let bytes := (CcbFilePayloadHeader.decode m.payload).ccbBytes
  if m.payload.length < ccbFileHeaderSize then
    some (ascii "Malformed " ++ name ++ ascii " message: header missing")
  else if bytes = 0 then some (ascii "Received empty module " ++ what ++ ascii " from Machine A")
  else if m.payload.length - ccbFileHeaderSize < bytes.toNat then
    some (ascii "Malformed " ++ name ++ ascii " message: payload truncated")
  else none

/-- What `handleCcbFile` and `handleCfgFile` have in common: the received file
is saved, its path goes into the configuration, and TOFI is released. -/
def handleModuleFile (name what savePath : Bytes) (setPath : ViewerConfig → ViewerConfig)
    (m : Message) (answer : SaveAnswer) (s : ViewerTofi κ γ) : ViewerTofi κ γ × Option Bytes :=
  match moduleFileError name what m with
  | some text => (s, some text)
  | none =>
    match saveReceived what savePath answer s.files with
    | (files, some text) => ({ s with files := files }, some text)
    | (files, none) => ({ s with files := files, config := setPath s.config, tofi := {} }, none)

/-- Where a received CCB is saved. -/
def ccbSavePath (config : ViewerConfig) : Bytes :=
  if config.receivedCcbFile = [] then ascii "./config/received_machine_a_module.ccb"
  else config.receivedCcbFile

/-- Where a received CFG is saved. -/
def cfgSavePath (config : ViewerConfig) : Bytes :=
  if config.receivedCfgFile = [] then ascii "./config/received_machine_a_module.cfg"
  else config.receivedCfgFile

/-- `handleCcbFile`. -/
def handleCcbFile (m : Message) (answer : SaveAnswer) (s : ViewerTofi κ γ) :
    ViewerTofi κ γ × Option Bytes :=
  s.handleModuleFile (ascii "CcbFile") (ascii "CCB") (ccbSavePath s.config)
    (fun config => { config with ccbFile := ccbSavePath s.config }) m answer

/-- `handleCfgFile`. -/
def handleCfgFile (m : Message) (answer : SaveAnswer) (s : ViewerTofi κ γ) :
    ViewerTofi κ γ × Option Bytes :=
  s.handleModuleFile (ascii "CfgFile") (ascii "CFG") (cfgSavePath s.config)
    (fun config => { config with cfgFile := cfgSavePath s.config }) m answer

/-- `ensureTofi`, on what the viewer has. -/
def ensure (lib : TofiLibrary κ χ γ) (r : TofiRequest) (s : ViewerTofi κ γ) :
    Except (Tofi κ γ × Bytes) (Tofi κ γ) :=
  ensureTofi lib s.files s.slots s.config.isAdsd3500 r s.tofi

/-- **One step.** While a frame is being handled the worker does nothing
else. -/
def step (lib : TofiLibrary κ χ γ) : Machine (ViewerTofi κ γ) TofiStep := fun s a =>
  match a, s.pending with
  | .configure config, _ => some { s with config := config.setFrameType config.frameType }
  | .setFrameType frameType, _ => some { s with config := s.config.setFrameType frameType }
  | .ccbFile m answer, none => some (s.handleCcbFile m answer).1
  | .cfgFile m answer, none => some (s.handleCfgFile m answer).1
  | .dealiasData m, none =>
    match handleDealiasData m s.slots with
    | .error _ => some s
    | .ok slots => some { s with slots := slots, tofi := {} }
  | .dataFrame header, none => some { s with pending := some (tofiRequest s.files s.config header) }
  | .ensure, some r =>
    match s.ensure lib r with
    | .ok t => some { s with tofi := t, pending := none }
    | .error (t, _) => some { s with tofi := t, pending := none }
  | _, _ => none

/-- A file that the key does not name. -/
def Unnamed (path : Bytes) (t : Tofi κ γ) : Prop :=
  t.key.iniFile ≠ path ∧ t.key.ccbFile ≠ path ∧ t.key.cfgFile ≠ path

/-- **The guard.** A frame whose key is noted finds what was made in the way
that it asks for; and where a received file cannot be saved, its temporary file
is none of those that are in use.

The first half is a condition on the state before a frame, as the key has the
paths and the geometry but not which of the two ways was taken to make the
context. The second is about the one write of a handler that may fail
halfway. -/
def ok (s : ViewerTofi κ γ) : TofiStep → Prop
  | .ensure => ∀ r, s.pending = some r →
      s.tofi.hits s.config.isAdsd3500 (requestKey s.files s.config.isAdsd3500 r) = true →
        s.tofi.builtByIsp = s.config.isAdsd3500
  | .ccbFile _ answer => (∀ data, answer ≠ .saved data) →
      Unnamed (ccbSavePath s.config ++ ascii ".tmp") s.tofi
  | .cfgFile _ answer => (∀ data, answer ≠ .saved data) →
      Unnamed (cfgSavePath s.config ++ ascii ".tmp") s.tofi
  | .configure _ | .setFrameType _ | .dealiasData _ | .dataFrame _ => True

/-- **The cache is coherent in a step**: where `ensureTofi` returns true, what
it leaves is what it would have made, had it released everything first. -/
def Coherent (lib : TofiLibrary κ χ γ) (s : ViewerTofi κ γ) (a : TofiStep) : Prop :=
  a = .ensure → ∀ r t, s.pending = some r → s.ensure lib r = .ok t →
    ∃ t', ensureTofi lib s.files s.slots s.config.isAdsd3500 r {} = .ok t'
      ∧ t.config = t'.config ∧ t.context = t'.context

/-- **What is kept is what its key makes** of the files and slots there are. -/
structure Valid (lib : TofiLibrary κ χ γ) (s : ViewerTofi κ γ) : Prop where
  /-- Where there is something, its key makes it once more, in the way it was
  made. -/
  fresh : s.tofi.context.isSome = true → s.tofi.config.isSome = true → s.tofi.key.frameType ≠ [] →
    freshTofi lib s.files s.slots s.tofi.builtByIsp s.tofi.key = .ok s.tofi
  /-- A frame that asks has a frame type. -/
  pending : ∀ r, s.pending = some r → r.frameType ≠ []

variable {lib : TofiLibrary κ χ γ} {s s' : ViewerTofi κ γ}

/-- A frame type is never empty, so that the key of a hit is that of an
initialisation. -/
theorem makeFrameType_ne_nil (header : DataFramePayloadHeader) (config : ViewerConfig) :
    makeFrameType header config ≠ [] := by
  unfold makeFrameType
  dsimp only
  by_cases h : (if cstrToString header.frameType = [] then config.frameType
      else cstrToString header.frameType) = []
  · rw [if_pos h]
    exact (by decide +kernel : ascii "network-raw" ≠ [])
  · rw [if_neg h]
    exact h

/-- Nothing that was released is found again. -/
theorem Valid.released (hs : s.Valid lib) (config : ViewerConfig) (files : Files)
    (slots : DealiasSlots) :
    Valid lib { s with config := config, files := files, slots := slots, tofi := {} } where
  fresh := fun h => Bool.noConfusion h
  pending := hs.pending

/-- A received file is saved and TOFI released, or the file that was not saved
is none of those in use. -/
theorem Valid.handleModuleFile (hs : s.Valid lib) {name what savePath : Bytes}
    {setPath : ViewerConfig → ViewerConfig} {m : Message} {answer : SaveAnswer}
    (hok : (∀ data, answer ≠ .saved data) → Unnamed (savePath ++ ascii ".tmp") s.tofi) :
    (s.handleModuleFile name what savePath setPath m answer).1.Valid lib := by
  unfold ViewerTofi.handleModuleFile
  split
  · exact hs
  · cases answer with
    | notCreated => exact hs
    | saved data => exact hs.released _ _ _
    | notWritten data =>
      obtain ⟨hini, hccb, hcfg⟩ := hok (fun _ => SaveAnswer.noConfusion)
      refine ⟨fun hcontext hconfig hft => ?_, hs.pending⟩
      refine Eq.trans ?_ (hs.fresh hcontext hconfig hft)
      exact freshTofi_congr (Function.update_of_ne hini _ _) (Function.update_of_ne hccb _ _)
        (Function.update_of_ne hcfg _ _)
    | notRenamed data =>
      obtain ⟨hini, hccb, hcfg⟩ := hok (fun _ => SaveAnswer.noConfusion)
      refine ⟨fun hcontext hconfig hft => ?_, hs.pending⟩
      refine Eq.trans ?_ (hs.fresh hcontext hconfig hft)
      exact freshTofi_congr (Function.update_of_ne hini _ _) (Function.update_of_ne hccb _ _)
        (Function.update_of_ne hcfg _ _)

/-- What a fresh initialisation has made, its own key finds. -/
theorem valid_of_fresh {isp : Bool} {key : TofiKey} {t : Tofi κ γ}
    (h : freshTofi lib s.files s.slots isp key = .ok t) :
    freshTofi lib s.files s.slots t.builtByIsp t.key = .ok t := by
  obtain ⟨hcontext, hconfig, hisp, -⟩ := freshTofi_ok h
  rw [hisp]
  refine freshTofi_of_hits h ?_
  simp [Tofi.hits, hcontext, hconfig]

/-- A step that is no `ensureTofi` is coherent. -/
theorem coherent_of_ne {a : TofiStep} (h : a ≠ .ensure) : Coherent lib s a :=
  fun ha => absurd ha h

/-- **A hit that the guard admits is as good as a rebuild.** -/
theorem Valid.coherent (hs : s.Valid lib) (hok : s.ok .ensure) : Coherent lib s .ensure := by
  intro _ r t hr h
  unfold ensure ensureTofi at h
  split at h
  · next hhits =>
    cases h
    have hisp := hok r hr hhits
    obtain ⟨⟨⟨⟨⟨⟨hcontext, hconfig⟩, -⟩, hft⟩, -⟩, -⟩, -⟩ := by
      simpa only [Tofi.hits, Bool.and_eq_true] using hhits
    have hne : s.tofi.key.frameType ≠ [] := by
      rw [of_decide_eq_true hft]
      exact hs.pending r hr
    have hfresh := hs.fresh hcontext hconfig hne
    rw [hisp] at hfresh
    exact ⟨s.tofi, freshTofi_of_hits hfresh hhits, rfl, rfl⟩
  · exact ⟨t, h, rfl, rfl⟩

/-- **Every step that the guard admits keeps the cache valid, and is
coherent.** -/
theorem Valid.step (hs : s.Valid lib) {a : TofiStep} (hok : s.ok a) (h : step lib s a = some s') :
    s'.Valid lib ∧ Coherent lib s a := by
  unfold ViewerTofi.step at h
  split at h
  · cases h
    exact ⟨⟨hs.fresh, hs.pending⟩, coherent_of_ne (by simp)⟩
  · cases h
    exact ⟨⟨hs.fresh, hs.pending⟩, coherent_of_ne (by simp)⟩
  · cases h
    exact ⟨hs.handleModuleFile hok, coherent_of_ne (by simp)⟩
  · cases h
    exact ⟨hs.handleModuleFile hok, coherent_of_ne (by simp)⟩
  · split at h
    · cases h
      exact ⟨hs, coherent_of_ne (by simp)⟩
    · cases h
      exact ⟨hs.released _ _ _, coherent_of_ne (by simp)⟩
  · cases h
    refine ⟨⟨hs.fresh, ?_⟩, coherent_of_ne (by simp)⟩
    intro r hr
    cases hr
    exact makeFrameType_ne_nil _ _
  · next r hr =>
    refine ⟨?_, hs.coherent hok⟩
    split at h
    · next t ht =>
      cases h
      refine ⟨?_, fun _ h => nomatch h⟩
      unfold ensure ensureTofi at ht
      split at ht
      · cases ht
        exact hs.fresh
      · exact fun _ _ _ => valid_of_fresh ht
    · next t text ht =>
      cases h
      refine ⟨fun _ _ hft => ?_, fun _ h => nomatch h⟩
      unfold ensure ensureTofi at ht
      split at ht
      · cases ht
      · refine absurd ?_ hft
        have hkey : t.key = {} := keyless_freshTofi _ _ _ _ _ _ _ ht
        exact congrArg TofiKey.frameType hkey
  · cases h

/-- **In every run whose steps all meet the guard, the cache is coherent in
every step.**

What a hit keeps is compared with what the same call would have made from
nothing, so the theorem is about the files as they are now and not as they were
when the context was built. The invariant says the same of what is kept
(`Valid`); a hit that the guard lets through is then as good as a rebuild,
because the two have one key and one way. -/
theorem coherent_of_run {config : ViewerConfig} {files : Files} {as : List TofiStep}
    (hrun : Machine.Run (step lib) ok { config := config, files := files } as s) :
    Machine.Run (step lib) (Coherent lib) { config := config, files := files } as s := by
  refine hrun.guard (I := Valid lib) (fun s a s' hs hok h => hs.step hok h) ?_
  exact ⟨fun h => Bool.noConfusion h, fun _ h => nomatch h⟩

/-! ### Two runs

In the first run the second frame hits. In the second one the device is changed
in between, and the hit is one that should not be. -/

/-- The open library, where nothing fails to be allocated. -/
def openLibrary : TofiLibrary OpenSource.Config OpenSource.Cal OpenSource.Context :=
  OpenSource.library (fun _ => true) (fun _ => true)

/-- A configuration for the ADSD3500, or not. -/
def sampleConfig (isAdsd3500 : Bool) : ViewerConfig where
  ccbFile := ascii "module.ccb"
  iniFile := ascii "lr-qnative.ini"
  frameType := ascii "lr-qnative"
  isAdsd3500 := isAdsd3500

/-- An INI and a CCB file. -/
def sampleFiles : Files := fun path =>
  if path = ascii "lr-qnative.ini" then
    some (ascii "bitsInPhaseOrDepth=12\nbitsInConf=4\nbitsInAB=16\n")
  else if path = ascii "module.ccb" then some [1]
  else none

/-- Dealias data of 2 rows and 2 columns. -/
def sampleDealias : Message := dealiasMessage
  ⟨ascii "lr-qnative", le32 2 ++ le32 2 ++ List.replicate 80 0⟩

/-- The header of a frame in `lr-qnative`, which is mode 3. -/
def sampleHeader : DataFramePayloadHeader where
  mode := 3
  frameType := copyCstr kNameLen (ascii "lr-qnative")

/-- Where the samples begin. -/
def sampleViewer : ViewerTofi OpenSource.Config OpenSource.Context where
  config := sampleConfig true
  files := sampleFiles

/-- Whether a message was saved. -/
instance (answer : SaveAnswer) : Decidable (∀ data, answer ≠ .saved data) :=
  match answer with
  | .notCreated => isTrue (fun _ => SaveAnswer.noConfusion)
  | .notWritten _ => isTrue (fun _ => SaveAnswer.noConfusion)
  | .notRenamed _ => isTrue (fun _ => SaveAnswer.noConfusion)
  | .saved data => isFalse (fun h => h data rfl)

instance (path : Bytes) (t : Tofi κ γ) : Decidable (Unnamed path t) :=
  inferInstanceAs (Decidable (t.key.iniFile ≠ path ∧ t.key.ccbFile ≠ path ∧ t.key.cfgFile ≠ path))

instance (s : ViewerTofi κ γ) (a : TofiStep) : Decidable (s.ok a) :=
  match a with
  | .ensure =>
    match hr : s.pending with
    | none => isTrue (fun r h => nomatch hr.symm.trans h)
    | some r => decidable_of_iff
        (s.tofi.hits s.config.isAdsd3500 (requestKey s.files s.config.isAdsd3500 r) = true →
          s.tofi.builtByIsp = s.config.isAdsd3500)
        ⟨fun h r' hr' => by cases hr.symm.trans hr'; exact h, fun h => h r hr⟩
  | .ccbFile _ answer => inferInstanceAs (Decidable ((∀ data, answer ≠ .saved data) →
      Unnamed (ccbSavePath s.config ++ ascii ".tmp") s.tofi))
  | .cfgFile _ answer => inferInstanceAs (Decidable ((∀ data, answer ≠ .saved data) →
      Unnamed (cfgSavePath s.config ++ ascii ".tmp") s.tofi))
  | .configure _ | .setFrameType _ | .dealiasData _ | .dataFrame _ => isTrue trivial

/-- The second of two frames of one geometry finds what the first has made, and
keeps it. -/
theorem coherent_of_run_hit :
    ∃ s, Machine.Run (step openLibrary) (Coherent openLibrary) sampleViewer
        [.dealiasData sampleDealias, .dataFrame sampleHeader, .ensure, .dataFrame sampleHeader,
          .ensure] s
      ∧ s.tofi.context.isSome = true := by
  have hexec : (Machine.execOk (step openLibrary) ok sampleViewer
      [.dealiasData sampleDealias, .dataFrame sampleHeader, .ensure, .dataFrame sampleHeader,
        .ensure]).map (fun s => s.tofi.context.isSome) = some true := by decide +kernel
  obtain ⟨s, hs, hcontext⟩ := Option.map_eq_some_iff.mp hexec
  exact ⟨s, coherent_of_run (Machine.run_of_execOk hs), hcontext⟩

/-- **What the ISP's way has made is taken for the generic one's.** The viewer
is configured for another device while a context is kept: the next frame has
the same key, `ensureTofi` returns true, and a fresh initialisation would have
failed. -/
theorem not_coherent_of_configure :
    ∃ s, Machine.Run (step openLibrary) Machine.always sampleViewer
        [.dealiasData sampleDealias, .dataFrame sampleHeader, .ensure,
          .configure (sampleConfig false), .dataFrame sampleHeader] s
      ∧ ¬ Coherent openLibrary s .ensure := by
  have hexec : (Machine.exec (step openLibrary) sampleViewer
      [.dealiasData sampleDealias, .dataFrame sampleHeader, .ensure,
        .configure (sampleConfig false), .dataFrame sampleHeader]).map
      (fun s => s.pending.map (fun r => ((s.ensure openLibrary r).toOption.isSome,
        (ensureTofi openLibrary s.files s.slots s.config.isAdsd3500 r {}).toOption.isSome)))
      = some (some (true, false)) := by decide +kernel
  obtain ⟨s, hs, hlook⟩ := Option.map_eq_some_iff.mp hexec
  obtain ⟨r, hr, hpair⟩ := Option.map_eq_some_iff.mp hlook
  obtain ⟨hkept, hfresh⟩ := Prod.mk.inj hpair
  refine ⟨s, Machine.run_iff_exec.mpr hs, fun hcoherent => ?_⟩
  cases ht : s.ensure openLibrary r with
  | error e =>
    rw [ht] at hkept
    cases hkept
  | ok t =>
    obtain ⟨t', ht', -⟩ := hcoherent rfl r t hr ht
    rw [ht'] at hfresh
    cases hfresh

end ViewerTofi
