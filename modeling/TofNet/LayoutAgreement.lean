import TofNet.ComputeBounds

/-!
# One layout for two machines

What the collector programs into the sensor has to be what the viewer unpacks
with. The two agree on nothing at run time: each takes an entry of `DEPTH_INI`
and reads its text, and a difference between them shows in no message and no
error, but shifts the bits of every pixel.

`layout_agrees_iff` says exactly when they agree. Where the collector does not
stream the frame type, or the viewer cannot initialise for it, there is nothing
to agree on; so these cases have to be named first. `Streams` is about the
listed types and the collector's file, and `Initialises` about everything that
`ensureTofiIsp` tests, down to the memory. In all other cases the lists and the
text have to match.
-/

/-! ## The two machines

The files are the same on both machines; this is what the deployment promises,
and what makes the question one about the reading of them. Everything else that
a machine needs to come to the point where it lays out pixels is its own. -/

/-- **What the two machines share**: the `DEPTH_INI` list and the contents of
the files, with the path of the collector's JSON, which its relative entries
are resolved against; and what each of them has of its own. -/
structure IniWorld where
  /-- The contents of the files. -/
  files : Files
  /-- The list. -/
  depthIni : Bytes
  /-- The path of the collector's JSON. -/
  initializationConfig : Bytes
  /-- The frame types that the collector's sensor lists. -/
  types : List Bytes
  /-- The sensor takes the frame type, and starts. -/
  starts : Bytes → Bool
  /-- The viewer's `Config`, and the mode id of the frame's header. -/
  isAdsd3500 : Bool
  /-- The CCB that it has received. -/
  ccbFile : Bytes
  /-- The CFG file that it has received. -/
  cfgFile : Bytes
  /-- The mode id of the header. -/
  mode : UInt16
  /-- The dealias data that the viewer has received. -/
  slots : DealiasSlots
  /-- What the open library and the viewer have memory for. -/
  generates : Bytes → Bool
  /-- There is memory for so many pixels. -/
  allocates : ℕ → Bool

namespace IniWorld

/-- `ini_by_mode`. -/
def iniByMode (w : IniWorld) : Bytes → Option Bytes :=
  assignAll (iniAssigns w.files w.initializationConfig w.depthIni)

/-- The controls the collector programs for a frame type that it streams.
`set_direct_frame_type` looks the type up first, and sets the sensor last. -/
def collectorControls (w : IniWorld) (ft : Bytes) : Option (List (Control × ℕ)) :=
  if ft ∈ w.types then (iniControls w.files w.iniByMode ft).filter (fun _ => w.starts ft) else none

/-- What `computeTofiFrame` asks for, for a DataFrame of `ft` in a viewer that
was configured for the mode `gui`. -/
def viewerRequest (w : IniWorld) (gui ft : Bytes) : TofiRequest :=
  let configIni := selectNetworkIniForMode w.files w.depthIni gui
  { mode := w.mode
    frameType := ft
    iniFile := if configIni = [] ∨ contains ft configIni = false then
        resolveIniFile w.files [] ft
      else configIni
    ccbFile := w.ccbFile
    cfgFile := w.cfgFile }

/-- The key it asks with, which has the INI file resolved again. -/
def viewerKey (w : IniWorld) (gui ft : Bytes) : TofiKey :=
  requestKey w.files w.isAdsd3500 (w.viewerRequest gui ft)

/-- The INI file of the DataFrame. -/
def viewerIni (w : IniWorld) (gui ft : Bytes) : Bytes := (w.viewerKey gui ft).iniFile

/-- **The viewer initialises**, with the open library. -/
def viewerTofi (w : IniWorld) (gui ft : Bytes) :
    Except (Tofi OpenSource.Config OpenSource.Context × Bytes)
      (Tofi OpenSource.Config OpenSource.Context) :=
  freshTofi (OpenSource.library w.generates w.allocates) w.files w.slots w.isAdsd3500
    (w.viewerKey gui ft)

/-- The widths the viewer unpacks with, or `none` where it cannot initialise. -/
def viewerWidths (w : IniWorld) (gui ft : Bytes) : Option PixelWidths :=
  match w.viewerTofi gui ft with
  | .ok t => t.context.map (fun context => context.object.widths)
  | .error _ => none

end IniWorld

/-- **Both machines lay the pixels out the same way**: if the collector
streams `ft` and the viewer initialises for a DataFrame of it, both used the
entry whose name ends in `_ft.ini`, and the viewer's widths are the
programmed ones. -/
def IniWorld.LayoutAgrees (w : IniWorld) (gui ft : Bytes) : Prop :=
  ∀ controls widths, w.collectorControls ft = some controls →
    w.viewerWidths gui ft = some widths →
    ∃ path, w.iniByMode ft = some path ∧ w.viewerIni gui ft = path ∧ EndsIn ft path ∧
      programmedWidths controls = some widths

/-! ## When there is something to agree on

The two conditions are not those of the source, where they are spread over many
functions; that they come to the same is shown by the two equivalences,
`streams_iff` here and `initialises_iff` below. -/

namespace IniWorld

/-- **The collector streams a frame type** that the sensor lists and takes, if
the INI file it has for it can be opened. Without a file for it, it streams with
the widths the sensor has. The conditions are those of `set_direct_frame_type`
in the order of its tests, and a frame type that fails one of them never comes
in the header of a frame. -/
structure Streams (w : IniWorld) (ft : Bytes) : Prop where
  /-- `find_sensor_frame_type` knows it. -/
  listed : ft ∈ w.types
  /-- The sensor takes it. -/
  starts : w.starts ft = true
  /-- Its INI file is there, if it has one. -/
  opens : ∀ path, w.iniByMode ft = some path → w.files path ≠ none

/-- **The viewer initialises** on the ISP's way, if its INI file has an integer
for each of the three keys, a CCB file and dealias data for the mode of the
frame type have been received, and there is memory for the tables and the
planes. -/
structure Initialises (w : IniWorld) (gui ft : Bytes) : Prop where
  /-- The viewer takes the ISP's way. -/
  isp : w.isAdsd3500 = true
  /-- It finds an INI file for the frame type. -/
  ini : w.viewerIni gui ft ≠ []
  /-- The file is there, and has the three keys. -/
  text : ∃ text, w.files (w.viewerIni gui ft) = some text ∧ text ≠ []
    ∧ (initTofiConfigIsp text).isSome = true
  /-- A CCB has been received, and is not empty. -/
  ccb : w.ccbFile ≠ [] ∧ ∃ ccb, w.files w.ccbFile = some ccb ∧ ccb ≠ []
  /-- The slot of the frame type has two dimensions that are not 0. -/
  dealias : dealiasRows (w.slots.get (convertModeName ft)) ≠ 0
    ∧ dealiasCols (w.slots.get (convertModeName ft)) ≠ 0
  /-- The tables can be made of it. -/
  generates : w.generates (w.slots.get (convertModeName ft)) = true
  /-- There is memory for its pixels. -/
  allocates : w.allocates ((dealiasRows (w.slots.get (convertModeName ft))).toNat
    * (dealiasCols (w.slots.get (convertModeName ft))).toNat) = true

variable {w : IniWorld} {gui ft : Bytes}

/-- The controls of a frame type that is streamed. -/
theorem collectorControls_eq_some_iff {controls : List (Control × ℕ)} :
    w.collectorControls ft = some controls ↔
      ft ∈ w.types ∧ w.starts ft = true ∧ iniControls w.files w.iniByMode ft = some controls := by
  unfold collectorControls
  by_cases hlisted : ft ∈ w.types
  · rw [if_pos hlisted, Option.filter_eq_some_iff]
    exact ⟨fun h => ⟨hlisted, h.2, h.1⟩, fun h => ⟨h.2.2, h.2.1⟩⟩
  · rw [if_neg hlisted]
    exact ⟨fun h => absurd h nofun, fun h => absurd h.1 hlisted⟩

theorem streams_iff : w.Streams ft ↔ ∃ controls, w.collectorControls ft = some controls := by
  simp only [collectorControls_eq_some_iff]
  constructor
  · intro h
    cases hini : w.iniByMode ft with
    | none => exact ⟨[], h.listed, h.starts, by rw [iniControls, hini]⟩
    | some path =>
      obtain ⟨text, htext⟩ := Option.ne_none_iff_exists'.mp (h.opens path hini)
      refine ⟨directIniControls (parseIniKeyValues text), h.listed, h.starts, ?_⟩
      rw [iniControls, hini]
      dsimp only
      rw [htext, Option.map_some]
  · rintro ⟨controls, hlisted, hstarts, hcontrols⟩
    refine ⟨hlisted, hstarts, fun path hini hnone => ?_⟩
    rw [iniControls, hini] at hcontrols
    dsimp only at hcontrols
    rw [hnone] at hcontrols
    cases hcontrols

end IniWorld

/-! ## What a fresh initialisation needs

`initTofiIsp` is a sequence of tests, each of which throws. It returns exactly
if none of them does, and if the library has memory. With the open library
nothing else can go wrong, as its way of making a calibration has no failure but
that of the tables. -/

section

variable {generates : Bytes → Bool} {allocates : ℕ → Bool} {files : Files} {slots : DealiasSlots}
  {key : TofiKey}

/-- The generic way never ends well: the open library makes no calibration. -/
theorem initTofi_ne_ok (t : Tofi OpenSource.Config OpenSource.Context) :
    initTofi (OpenSource.library generates allocates) files key ≠ .ok t := by
  intro h
  obtain ⟨_, -, h⟩ := bind_eq_ok.mp h
  obtain ⟨_, -, h⟩ := bind_eq_ok.mp h
  obtain ⟨_, -, h⟩ := bind_eq_ok.mp h
  obtain ⟨_, hmade, -⟩ := bind_eq_ok.mp h
  cases hmade

/-- **What the ISP's way needs**, with the open library. -/
theorem initTofiIsp_eq_ok_iff {mode : UInt8} (hmode : convertModeName key.frameType = mode) :
    (∃ t, initTofiIsp (OpenSource.library generates allocates) files slots key = .ok t) ↔
      key.iniFile ≠ []
        ∧ (∃ text, files key.iniFile = some text ∧ text ≠ []
          ∧ (initTofiConfigIsp text).isSome = true)
        ∧ (key.ccbFile ≠ [] ∧ ∃ ccb, files key.ccbFile = some ccb ∧ ccb ≠ [])
        ∧ (dealiasRows (slots.get mode) ≠ 0 ∧ dealiasCols (slots.get mode) ≠ 0)
        ∧ generates (slots.get mode) = true
        ∧ allocates ((dealiasRows (slots.get mode)).toNat * (dealiasCols (slots.get mode)).toNat)
          = true := by
  subst hmode
  constructor
  · rintro ⟨t, h⟩
    obtain ⟨_, hini, h⟩ := bind_eq_ok.mp h
    obtain ⟨text, htext, h⟩ := bind_eq_ok.mp h
    obtain ⟨_, hccb, h⟩ := bind_eq_ok.mp h
    obtain ⟨ccb, hccbText, h⟩ := bind_eq_ok.mp h
    obtain ⟨_, hdealias, h⟩ := bind_eq_ok.mp h
    obtain ⟨result, hresult, h⟩ := bind_eq_ok.mp h
    obtain ⟨made, hmade, hmemory⟩ := bind_eq_ok.mp h
    clear h
    rw [tofiCheck_eq_ok_iff] at hini hccb hdealias
    rw [readTofiFile_eq_ok_iff] at htext hccbText
    obtain ⟨bits, hbits, rfl⟩ := OpenSource.configureIsp_eq_ok_iff.mp hresult
    obtain ⟨hgenerates, rfl⟩ := OpenSource.initCompute_eq_ok_iff.mp hmade
    refine ⟨hini, ⟨text, htext.1, htext.2, by rw [hbits]; rfl⟩, ⟨hccb, ccb, hccbText⟩,
      not_or.mp hdealias, hgenerates, ?_⟩
    dsimp only at hmemory
    split at hmemory
    · next hallocates => exact hallocates
    · cases hmemory
  · rintro ⟨hini, ⟨text, htext, hne, hbits⟩, ⟨hccb, ccb, hccbText⟩, hdealias, hgenerates,
      hallocates⟩
    obtain ⟨bits, hbits⟩ := Option.isSome_iff_exists.mp hbits
    exact ⟨_, bind_eq_ok.mpr ⟨(), tofiCheck_eq_ok_iff.mpr hini,
      bind_eq_ok.mpr ⟨text, readTofiFile_eq_ok_iff.mpr ⟨htext, hne⟩,
      bind_eq_ok.mpr ⟨(), tofiCheck_eq_ok_iff.mpr hccb,
      bind_eq_ok.mpr ⟨ccb, readTofiFile_eq_ok_iff.mpr hccbText,
      bind_eq_ok.mpr ⟨(), tofiCheck_eq_ok_iff.mpr (not_or.mpr hdealias),
      bind_eq_ok.mpr ⟨_, OpenSource.configureIsp_eq_ok_iff.mpr ⟨bits, hbits, rfl⟩,
      bind_eq_ok.mpr ⟨_, OpenSource.initCompute_eq_ok_iff.mpr ⟨hgenerates, rfl⟩,
      if_pos hallocates⟩⟩⟩⟩⟩⟩⟩⟩

end

/-! ## The viewer's side

The INI file that the viewer uses is found by what was configured, and may be
none of the list. The widths are then those of its text. -/

namespace IniWorld

variable {w : IniWorld} {gui ft : Bytes}

/-- The INI file that is used, by what was configured. -/
theorem viewerIni_eq (w : IniWorld) (gui ft : Bytes) : w.viewerIni gui ft
    = dataFrameIni w.files (selectNetworkIniForMode w.files w.depthIni gui) ft :=
  rfl

/-- **The viewer initialises exactly if nothing it tests is missing.** -/
theorem initialises_iff : w.Initialises gui ft ↔ ∃ t, w.viewerTofi gui ft = .ok t := by
  unfold viewerTofi freshTofi
  cases hisp : w.isAdsd3500 with
  | false =>
    rw [if_neg Bool.false_ne_true]
    exact iff_of_false (fun h => Bool.false_ne_true (hisp.symm.trans h.isp))
      (fun ⟨t, ht⟩ => initTofi_ne_ok t ht)
  | true =>
    rw [if_pos rfl, initTofiIsp_eq_ok_iff rfl]
    constructor
    · exact fun h => ⟨h.ini, h.text, h.ccb, h.dealias, h.generates, h.allocates⟩
    · rintro ⟨hini, htext, hccb, hdealias, hgenerates, hallocates⟩
      exact ⟨hisp, hini, htext, hccb, hdealias, hgenerates, hallocates⟩

/-- Its widths are those of the text, then. -/
theorem viewerWidths_eq_some_iff {widths : PixelWidths} : w.viewerWidths gui ft = some widths ↔
    w.Initialises gui ft ∧ ∃ text bits, w.files (w.viewerIni gui ft) = some text
      ∧ initTofiConfigIsp text = some bits ∧ unpackBits bits = widths := by
  unfold viewerWidths
  have hmade : ∀ t, w.viewerTofi gui ft = .ok t → ∃ text bits context,
      w.files (w.viewerIni gui ft) = some text ∧ initTofiConfigIsp text = some bits
        ∧ t.context = some context ∧ context.object.widths = unpackBits bits := by
    intro t ht
    have hisp := (initialises_iff.mpr ⟨t, ht⟩).isp
    unfold viewerTofi at ht
    rw [hisp] at ht
    obtain ⟨text, bits, context, htext, hbits, hcontext, -, -, hwidths⟩ :=
      ViewerTofi.made_of_fresh ht
    exact ⟨text, bits, context, htext, hbits, hcontext, hwidths⟩
  cases hinit : w.viewerTofi gui ft with
  | error e =>
    refine iff_of_false nofun (fun h => ?_)
    obtain ⟨t, ht⟩ := initialises_iff.mp h.1
    rw [hinit] at ht
    cases ht
  | ok t =>
    obtain ⟨text, bits, context, htext, hbits, hcontext, hwidths⟩ := hmade t hinit
    dsimp only
    rw [hcontext, Option.map_some, hwidths]
    constructor
    · intro h
      exact ⟨initialises_iff.mpr ⟨t, hinit⟩, text, bits, htext, hbits, Option.some.inj h⟩
    · rintro ⟨-, text', bits', htext', hbits', rfl⟩
      cases htext.symm.trans htext'
      cases hbits.symm.trans hbits'
      rfl

theorem initialises_iff_widths :
    w.Initialises gui ft ↔ ∃ widths, w.viewerWidths gui ft = some widths := by
  constructor
  · intro h
    obtain ⟨text, htext, -, hbits⟩ := h.text
    obtain ⟨bits, hbits⟩ := Option.isSome_iff_exists.mp hbits
    exact ⟨unpackBits bits, viewerWidths_eq_some_iff.mpr ⟨h, text, bits, htext, hbits, rfl⟩⟩
  · rintro ⟨widths, hwidths⟩
    exact (viewerWidths_eq_some_iff.mp hwidths).1

end IniWorld

/-! ## When the two agree

In one direction the text is the same and is read alike. In the other, if the
layouts agree, the file that the viewer uses is the one that the collector uses,
as the property says so; what is left is when that can be, by the ways in which
the viewer finds a file. -/

/-- **The list condition and the text condition**: the last entry for `ft` is
named `_ft.ini`, it is what the viewer was configured with – or that has no
`ft` in its path, and the entry is the default file – and its text is read
alike. -/
def IniWorld.Matches (w : IniWorld) (gui ft : Bytes) : Prop :=
  ∃ path, (∃ pre post, iniAssigns w.files w.initializationConfig w.depthIni
      = pre ++ (ft, path) :: post ∧ ∀ a ∈ post, a.1 ≠ ft) ∧
    EndsIn ft path ∧
    (Configured w.files (splitSemicolonList w.depthIni) gui path ∨
      ∃ p, Configured w.files (splitSemicolonList w.depthIni) gui p ∧
        contains ft p = false ∧ defaultIni w.files ft = path) ∧
    ∀ text, w.files path = some text → SameText text

/-- **Whether the viewer uses an entry**, by what it was configured with. -/
theorem viewerIni_eq_iff {w : IniWorld} {gui ft path : Bytes} (h : EndsIn ft path) :
    w.viewerIni gui ft = path ↔
      (Configured w.files (splitSemicolonList w.depthIni) gui path ∨
        ∃ p, Configured w.files (splitSemicolonList w.depthIni) gui p ∧
          contains ft p = false ∧ defaultIni w.files ft = path) := by
  obtain ⟨hft, hne⟩ := contains_of_endsIn h
  simp only [IniWorld.viewerIni_eq, dataFrameIni_eq, ← configured_iff, exists_eq_left']
  constructor
  · intro heq
    split at heq
    · next hor =>
      refine hor.elim (fun hnil => ?_) (fun hno => .inr ⟨hno, heq⟩)
      -- an empty configured path contains no frame type, unless that is empty too
      by_cases hempty : ft = []
      · subst hempty
        exact absurd heq.symm (by simpa [defaultIni, defaultIniCandidates] using hne)
      · exact .inr ⟨by rw [hnil]; simp [contains, hempty], heq⟩
    · exact .inl heq
  · rintro (heq | ⟨hno, heq⟩)
    · rw [heq, if_neg]
      simp [hft, hne]
    · rw [if_pos (.inr hno), heq]

/-- **When the two machines lay pixels out alike**: if the collector does not
stream the frame type, if the viewer cannot initialise for it, or if the list
and the text match.

Either machine goes through the same list of INI files, but in a way of its own.
The collector takes the last entry whose name it can split a mode from, and the
default file behind the list; the viewer takes an entry that has the mode
anywhere in its path. The condition `Matches` says when these meet in one file,
and that the two parsers read it alike. That it is necessary is shown from the
widths: the two machines agree only if both have used the entry whose name ends
in the mode. -/
theorem IniWorld.layout_agrees_iff (w : IniWorld) (gui ft : Bytes) :
    w.LayoutAgrees gui ft ↔
      ¬ w.Streams ft ∨ ¬ w.Initialises gui ft ∨ w.Matches gui ft := by
  constructor
  · intro hagree
    by_cases hstreams : w.Streams ft
    · by_cases hinit : w.Initialises gui ft
      · obtain ⟨controls, hcontrols⟩ := IniWorld.streams_iff.mp hstreams
        obtain ⟨widths, hwidths⟩ := IniWorld.initialises_iff_widths.mp hinit
        obtain ⟨path, hini, hviewer, hends, hprog⟩ := hagree controls widths hcontrols hwidths
        refine .inr (.inr ⟨path, assignAll_eq_some_iff.mp hini, hends,
          (viewerIni_eq_iff hends).mp hviewer, fun text htext => ?_⟩)
        obtain ⟨-, text', bits, htext', hbits, rfl⟩ := IniWorld.viewerWidths_eq_some_iff.mp hwidths
        rw [hviewer, htext] at htext'
        cases htext'
        obtain ⟨-, -, hcontrols⟩ := IniWorld.collectorControls_eq_some_iff.mp hcontrols
        rw [iniControls, hini] at hcontrols
        dsimp only at hcontrols
        rw [htext] at hcontrols
        cases hcontrols
        exact (programmedWidths_eq_iff hbits).mp hprog
      · exact .inr (.inl hinit)
    · exact .inl hstreams
  · rintro (hnot | hnot | ⟨path, hlast, hends, hconf, htext⟩) controls widths hcontrols hwidths
    · exact absurd (IniWorld.streams_iff.mpr ⟨controls, hcontrols⟩) hnot
    · exact absurd (IniWorld.initialises_iff_widths.mpr ⟨widths, hwidths⟩) hnot
    · have hini : w.iniByMode ft = some path := assignAll_eq_some_iff.mpr hlast
      have hviewer := (viewerIni_eq_iff hends).mpr hconf
      refine ⟨path, hini, hviewer, hends, ?_⟩
      obtain ⟨-, text, bits, hfile, hbits, rfl⟩ := IniWorld.viewerWidths_eq_some_iff.mp hwidths
      rw [hviewer] at hfile
      obtain ⟨-, -, hcontrols⟩ := IniWorld.collectorControls_eq_some_iff.mp hcontrols
      rw [iniControls, hini] at hcontrols
      dsimp only at hcontrols
      rw [hfile] at hcontrols
      cases hcontrols
      exact (programmedWidths_eq_iff hbits).mpr (htext text hfile)

/-! ## A list that is read in two ways -/

/-- Two entries in a directory that is named after the second one's mode. -/
def crossedWorld : IniWorld where
  files path :=
    if path = ascii "/cal/lr-native/RawToDepthAdsd3500_sr-native.ini" then
      some (ascii "bitsInPhaseOrDepth=16\nbitsInConf=8\nbitsInAB=16\n")
    else if path = ascii "/cal/lr-native/RawToDepthAdsd3500_lr-native.ini" then
      some (ascii "bitsInPhaseOrDepth=12\nbitsInConf=4\nbitsInAB=8\n")
    else if path = ascii "module.ccb" then some [0]
    else none
  depthIni := ascii ("/cal/lr-native/RawToDepthAdsd3500_sr-native.ini;"
    ++ "/cal/lr-native/RawToDepthAdsd3500_lr-native.ini")
  initializationConfig := ascii "config.json"
  types := [ascii "sr-native", ascii "lr-native"]
  starts _ := true
  isAdsd3500 := true
  ccbFile := ascii "module.ccb"
  cfgFile := []
  mode := 1
  slots _ := some (le32 1 ++ le32 1)
  generates _ := true
  allocates _ := true

/-- **The layouts differ.** The list has the file of `sr-native` in front of
that of `lr-native`, both in a directory named `lr-native`: the viewer takes the
first of them, which has the mode in its path, and unpacks 12 bit pixels as 16
bit ones. -/
theorem IniWorld.crossed_layout :
    ¬ crossedWorld.LayoutAgrees (ascii "lr-native") (ascii "lr-native") := by
  intro h
  have hcontrols : crossedWorld.collectorControls (ascii "lr-native")
      = some [(.phaseDepthBits, 4), (.confidenceBits, 1), (.abBits, 2)] := by
    decide +kernel
  have hwidths : crossedWorld.viewerWidths (ascii "lr-native") (ascii "lr-native")
      = some { depth := 16, conf := 8, ab := 16 } := by
    decide +kernel
  obtain ⟨_, _, _, _, hprog⟩ := h _ _ hcontrols hwidths
  exact absurd hprog (by decide +kernel)
