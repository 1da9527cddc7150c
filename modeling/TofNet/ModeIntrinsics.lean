import TofNet.Dealias
import TofNet.PathIndependence

/-!
# The intrinsics of the selected mode

`CameraItof::initialize` asks the ADSD3500 for the intrinsics and the dealias
parameters of every available frame type, puts both into
`m_xyz_dealias_data[mode]`, and copies the intrinsics into the camera's
details, where each frame type overwrites those of the one before it.
`setFrameType` does not touch them again, so that the details describe the
frame type that happened to be listed last.

`reported_iff_selectsLast` says for which runs of `setFrameType` this goes
unnoticed.

The camera reads all modes before the first frame type is set, so there is
nothing that changes later but the selection. The question is whether the mode
that is selected is, by chance, one whose intrinsics are those that were read
last; and since the payloads may differ from round to round, the condition is
about what was read and not about modes.
-/

/-! ## Reading the modes

The loop overwrites: a slot with each round for its mode, the details with each
round. So what a slot holds in the end was read by the last round for its mode,
and this is by induction over the rounds from the end (`slots_of_readModes`). -/

/-- **What the ADSD3500 answers** to the commands `0x01` and `0x02`, in a
round of the loop and for a mode. -/
structure ModePayloads where
  /-- The first command. -/
  intrinsics : ℕ → UInt8 → Option {bs : Bytes // bs.length = cameraIntrinsicsSize}
  /-- The second. -/
  dealias : ℕ → UInt8 →
    Option {bs : Bytes // bs.length = tofiXYZDealiasDataSize - cameraIntrinsicsSize}

/-- `m_xyz_dealias_data`, and the intrinsics of `m_details`. -/
structure ModeData where
  /-- What was read, by mode. -/
  slots : DealiasSlots := fun _ => none
  /-- What the details have. -/
  intrinsics : Bytes := []

/-- `camera_intrinsics` of a slot. -/
def cameraIntrinsics (slot : Bytes) : Bytes :=
  slice (tofiXYZDealiasDataSize - cameraIntrinsicsSize) cameraIntrinsicsSize slot

namespace ModePayloads

variable (p : ModePayloads)

/-- A round of the loop, its number and its mode; a command that fails ends
`initialize`. -/
def readMode (d : ModeData) (round : ℕ × UInt8) : Option ModeData := do
  let intrinsics ← p.intrinsics round.1 round.2
  let dealias ← p.dealias round.1 round.2
  some {
    slots := Function.update d.slots round.2 (some (dealias.1 ++ intrinsics.1))
    intrinsics := intrinsics.1 }

/-- The intrinsics that a round reads, and none without a round. -/
def intrinsicsOf (round : Option (ℕ × UInt8)) : Option Bytes :=
  round.bind (fun r => (p.intrinsics r.1 r.2).map Subtype.val)

/-- The data that a round reads: the dealias parameters and the intrinsics. -/
def dataOf (round : ℕ × UInt8) : Option Bytes := do
  let intrinsics ← p.intrinsics round.1 round.2
  let dealias ← p.dealias round.1 round.2
  some (dealias.1 ++ intrinsics.1)

end ModePayloads

/-- The last round for a mode. -/
def lastRound (rounds : List (ℕ × UInt8)) (mode : UInt8) : Option (ℕ × UInt8) :=
  (rounds.filter (fun r => r.2 = mode)).getLast?

theorem lastRound_concat (rounds : List (ℕ × UInt8)) (r : ℕ × UInt8) (mode : UInt8) :
    lastRound (rounds ++ [r]) mode = if r.2 = mode then some r else lastRound rounds mode := by
  unfold lastRound
  rw [List.filter_append]
  by_cases hmode : r.2 = mode
  · rw [if_pos hmode, show [r].filter (fun r => r.2 = mode) = [r] by simp [hmode],
      List.getLast?_concat]
  · rw [if_neg hmode, show [r].filter (fun r => r.2 = mode) = [] by simp [hmode],
      List.append_nil]

/-- **What a slot holds in the end** is what the last round for its mode read. -/
theorem slots_of_readModes {p : ModePayloads} {rounds : List (ℕ × UInt8)} {d d' : ModeData}
    (h : rounds.foldlM p.readMode d = some d') (mode : UInt8) :
    match lastRound rounds mode with
    | some r => p.dataOf r = d'.slots mode ∧ (d'.slots mode).isSome = true
    | none => d'.slots mode = d.slots mode := by
  induction rounds using List.reverseRecOn generalizing d' with
  | nil => rw [← Option.some.inj h]; rfl
  | append_singleton rounds r ih =>
    rw [List.foldlM_append] at h
    obtain ⟨d₁, hd₁, hlast⟩ := Option.bind_eq_some_iff.mp h
    obtain ⟨d₂, hread, hnil⟩ := Option.bind_eq_some_iff.mp hlast
    obtain rfl := Option.some.inj hnil
    obtain ⟨intrinsics, hintrinsics, hread⟩ := Option.bind_eq_some_iff.mp hread
    obtain ⟨dealias, hdealias, hread⟩ := Option.bind_eq_some_iff.mp hread
    obtain rfl := Option.some.inj hread
    have hold := ih hd₁
    rw [lastRound_concat]
    by_cases hmode : r.2 = mode
    · subst hmode
      rw [if_pos rfl]
      simp only [ModePayloads.dataOf, hintrinsics, hdealias, Function.update_self]
      exact ⟨rfl, rfl⟩
    · rw [if_neg hmode]
      simp only [Function.update_of_ne (Ne.symm hmode)]
      exact hold

/-- **The intrinsics of the details** are those of the last round. -/
theorem intrinsics_of_readModes {p : ModePayloads} {rounds : List (ℕ × UInt8)} {d d' : ModeData}
    (h : rounds.foldlM p.readMode d = some d') :
    rounds = [] ∨ p.intrinsicsOf rounds.getLast? = some d'.intrinsics := by
  induction rounds using List.reverseRecOn with
  | nil => exact Or.inl rfl
  | append_singleton rounds r _ =>
    rw [List.foldlM_append] at h
    obtain ⟨d₁, -, hlast⟩ := Option.bind_eq_some_iff.mp h
    obtain ⟨d₂, hread, hnil⟩ := Option.bind_eq_some_iff.mp hlast
    obtain rfl := Option.some.inj hnil
    obtain ⟨intrinsics, hintrinsics, hread⟩ := Option.bind_eq_some_iff.mp hread
    obtain ⟨dealias, -, hread⟩ := Option.bind_eq_some_iff.mp hread
    obtain rfl := Option.some.inj hread
    right
    rw [List.getLast?_concat, ModePayloads.intrinsicsOf, Option.bind_some, hintrinsics]
    rfl

/-- The intrinsics can be read back from the data of a round. -/
theorem cameraIntrinsics_of_dataOf {p : ModePayloads} {r : ℕ × UInt8} {slot : Bytes}
    (h : p.dataOf r = some slot) : p.intrinsicsOf (some r) = some (cameraIntrinsics slot) := by
  obtain ⟨⟨intrinsics, hlen⟩, hintrinsics, h⟩ := Option.bind_eq_some_iff.mp h
  obtain ⟨⟨dealias, hlen'⟩, -, h⟩ := Option.bind_eq_some_iff.mp h
  obtain rfl := Option.some.inj h
  rw [ModePayloads.intrinsicsOf, Option.bind_some, hintrinsics, cameraIntrinsics,
    slice_skip hlen'.le, hlen', Nat.sub_self]
  have hfront := slice_front hlen []
  rw [List.append_nil] at hfront
  rw [hfront]
  rfl

/-- The index into `m_xyz_dealias_data`, which has `MAX_N_MODES + 1` slots, is
in its bounds for every table of modes. -/
theorem mode_le_maxNModes (type version : Int) (name : Bytes) :
    (ModeTable.getModeInfo ⟨type, version, ModeTable.tableOf type version⟩ name).mode ≤ 10 := by
  have htables : ∀ info ∈ ModeTable.tableOf type version, info.mode ≤ 10 := by
    unfold ModeTable.tableOf
    split
    · split
      · decide
      · split
        · decide
        · split <;> decide
    · split
      · decide
      · split <;> decide
  unfold ModeTable.getModeInfo
  cases hfind : (ModeTable.tableOf type version).find? (fun info => info.modeName = name) with
  | none => decide
  | some info => exact htables info (List.mem_of_find?_eq_some hfind)

/-! ## The camera

A calibrated camera is one with the data of its modes. A call of `setFrameType`
may fail in each way that the model of `ItofCamera` has, and the property asks
something of the details only where it has succeeded. -/

namespace ItofCamera

/-- The mode of a frame type. -/
def modeOf (c : ItofCamera) (frameType : Bytes) : UInt8 := (c.table.getModeInfo frameType).mode

/-- The rounds of the loop over the available frame types. -/
def rounds (c : ItofCamera) : List (ℕ × UInt8) :=
  c.types.zipIdx.map (fun entry => (entry.2, c.modeOf entry.1.type))

/-- The camera with the data of its modes. -/
structure Calibrated where
  /-- The camera. -/
  camera : ItofCamera
  /-- The data of its modes. -/
  data : ModeData := {}

/-- A call of `setFrameType`. -/
structure Selection where
  /-- How the call is answered. -/
  answers : ItofAnswers
  /-- The files there are. -/
  files : Files
  /-- The frame type that is asked for. -/
  frameType : Bytes

namespace Calibrated

/-- `initialize`, as far as it reads the modes. -/
def initializeModes (p : ModePayloads) (c : Calibrated) : Option Calibrated :=
  (c.camera.rounds.foldlM p.readMode c.data).map (fun data => { c with data := data })

/-- `setFrameType`. -/
def setFrameType (call : Selection) (c : Calibrated) : Calibrated × Option Status :=
  let r := c.camera.setFrameType call.answers call.files call.frameType
  ({ c with camera := r.1 }, r.2)

/-- Any call, whether it succeeds or not. -/
def selectStep : Machine Calibrated Selection := fun c call => some (c.setFrameType call).1

/-- **The reported intrinsics are right after a call**: every slot of an
available frame type holds what was read with its mode, and if the call
succeeded, the details have the intrinsics of the slot of the frame type. -/
structure Reported (p : ModePayloads) (c : Calibrated) (call : Selection) : Prop where
  /-- Each slot holds what was read last for its mode. -/
  slots : ∀ type ∈ (c.setFrameType call).1.camera.types,
    ∃ r, lastRound c.camera.rounds (c.camera.modeOf type.type) = some r
      ∧ (c.setFrameType call).1.data.slots (c.camera.modeOf type.type) = p.dataOf r
  /-- Behind a success the details have what the slot of the mode has. -/
  selected : (c.setFrameType call).2 = some .ok →
    ∃ slot, (c.setFrameType call).1.data.slots (c.camera.modeOf call.frameType) = some slot
      ∧ (c.setFrameType call).1.data.intrinsics = cameraIntrinsics slot

/-- **The condition on a call**: where it succeeds, the last reading of its
mode gave the intrinsics of the last reading of all. -/
def SelectsLast (p : ModePayloads) (c : Calibrated) (call : Selection) : Prop :=
  (c.setFrameType call).2 = some .ok →
    p.intrinsicsOf (lastRound c.camera.rounds (c.camera.modeOf call.frameType))
      = p.intrinsicsOf c.camera.rounds.getLast?

end Calibrated

/-! ### What setFrameType leaves alone

That the list of the frame types and the table of the modes stay is shown
through all that `setFrameType` calls, function by function. -/

/-- `setFrameType` keeps the list of frame types and the mode table. -/
structure SameModes (c c' : ItofCamera) : Prop where
  types : c'.types = c.types
  table : c'.table = c.table

variable {a : ItofAnswers} {files : Files} {frameType : Bytes} {c : ItofCamera}

theorem SameModes.trans {c c' c'' : ItofCamera} (h : SameModes c c') (h' : SameModes c' c'') :
    SameModes c c'' :=
  ⟨h'.types.trans h.types, h'.table.trans h.table⟩

theorem SameModes.rounds {c c' : ItofCamera} (h : SameModes c c') : c'.rounds = c.rounds := by
  unfold ItofCamera.rounds modeOf
  rw [h.types, h.table]

theorem SameModes.modeOf {c c' : ItofCamera} (h : SameModes c c') : c'.modeOf = c.modeOf := by
  unfold ItofCamera.modeOf
  rw [h.table]

theorem sameModes_getKeyValuePairsFromIni (a : ItofAnswers) (files : Files) (c : ItofCamera) :
    SameModes c (getKeyValuePairsFromIni a files c) := by
  unfold getKeyValuePairsFromIni
  split
  · exact ⟨rfl, rfl⟩
  · split <;> exact ⟨rfl, rfl⟩

theorem sameModes_configureSensorFrameType (a : ItofAnswers) (c : ItofCamera) :
    SameModes c (c.configureSensorFrameType a).1 := by
  unfold configureSensorFrameType noteAb
  dsimp only
  cases c.iniKeyValPairs (ascii "bitsInAB") with
  | none => exact ⟨rfl, rfl⟩
  | some value =>
    dsimp only
    cases stoi value <;> exact ⟨rfl, rfl⟩

theorem sameModes_configure (a : ItofAnswers) (files : Files) (frameType : Bytes)
    (c : ItofCamera) : SameModes c (c.configure a files frameType).1 := by
  obtain ⟨map, hchoose, -⟩ := c.chooseIniDepth_frame frameType
  unfold configure
  dsimp only
  generalize hc₁ : getKeyValuePairsFromIni a files { c.chooseIniDepth frameType with
    pcmFrame := frameType = ascii "pcm-native" } = c₁
  have hfirst : SameModes c c₁ := by
    rw [← hc₁]
    refine SameModes.trans ?_ (sameModes_getKeyValuePairsFromIni a files _)
    rw [hchoose]
    exact ⟨rfl, rfl⟩
  obtain ⟨⟨registers, hregisters⟩, -⟩ := writeParams_frame a (iniParams c₁.iniKeyValPairs) c₁
  have hsecond : SameModes c₁ (c₁.setAdsd3500WithIniParams a).1 := by
    unfold setAdsd3500WithIniParams
    rw [hregisters]
    exact ⟨rfl, rfl⟩
  rcases hparams : c₁.setAdsd3500WithIniParams a with ⟨c₂, returned⟩
  rw [hparams] at hsecond
  cases returned with
  | false => exact hfirst.trans hsecond
  | true =>
    have hthird := sameModes_configureSensorFrameType a c₂
    dsimp only
    rcases hsensor : c₂.configureSensorFrameType a with ⟨c₃, returned⟩
    rw [hsensor] at hthird
    cases returned with
    | false => exact (hfirst.trans hsecond).trans hthird
    | true => exact ((hfirst.trans hsecond).trans hthird).trans ⟨rfl, rfl⟩

theorem sameModes_setFrameType (a : ItofAnswers) (files : Files) (frameType : Bytes)
    (c : ItofCamera) : SameModes c (c.setFrameType a files frameType).1 := by
  have hconf := sameModes_configure a files frameType c
  unfold setFrameType
  split
  · exact ⟨rfl, rfl⟩
  next type _ =>
    rcases hc₁ : c.configure a files frameType with ⟨c₁, returned⟩
    rw [hc₁] at hconf
    cases returned with
    | false => exact hconf
    | true =>
      dsimp only
      rcases c₁.sensor.setFrameType a.sensor c₁.table type with ⟨s, status⟩
      cases status <;> exact hconf.trans ⟨rfl, rfl⟩

/-- A frame type that was set is one of the available ones. -/
theorem mem_types_of_setFrameType (h : (c.setFrameType a files frameType).2 = some .ok) :
    ∃ type ∈ c.types, type.type = frameType := by
  cases hfind : c.types.find? (fun type => type.type = frameType) with
  | none =>
    unfold setFrameType at h
    rw [hfind] at h
    cases h
  | some type =>
    exact ⟨type, List.mem_of_find?_eq_some hfind, of_decide_eq_true (List.find?_some hfind :)⟩

/-- An available frame type has a round. -/
theorem exists_lastRound {type : FrameType} (h : type ∈ c.types) :
    ∃ r, lastRound c.rounds (c.modeOf type.type) = some r := by
  obtain ⟨i, hi⟩ := List.mem_iff_getElem?.mp h
  have hround : (i, c.modeOf type.type) ∈ c.rounds :=
    List.mem_map.mpr ⟨(type, i), List.mk_mem_zipIdx_iff_getElem?.mpr hi, rfl⟩
  refine Option.ne_none_iff_exists'.mp (fun hnone => ?_)
  have hfilter := List.getLast?_eq_none_iff.mp hnone
  have hmem : (i, c.modeOf type.type) ∈ c.rounds.filter (fun r => r.2 = c.modeOf type.type) :=
    List.mem_filter.mpr ⟨hround, decide_eq_true rfl⟩
  rw [hfilter] at hmem
  exact List.not_mem_nil hmem

/-! ### The runs

The data never changes, and neither does the list, so the property of a call
depends on the call alone, and the equivalence for a run is that of its calls. -/

namespace Calibrated

variable {p : ModePayloads} {c₀ c c' : Calibrated} {call : Selection}

/-- The data is what the loop has read. -/
def ReadFrom (p : ModePayloads) (c : Calibrated) : Prop :=
  ∃ d, c.camera.rounds.foldlM p.readMode d = some c.data

theorem readFrom_of_initialize (h : c₀.initializeModes p = some c) : c.ReadFrom p := by
  obtain ⟨data, hdata, rfl⟩ := Option.map_eq_some_iff.mp h
  exact ⟨c₀.data, hdata⟩

/-- No call of `setFrameType` changes it. -/
theorem ReadFrom.step (hc : c.ReadFrom p) (hstep : selectStep c call = some c') :
    c'.ReadFrom p := by
  obtain ⟨d, hd⟩ := hc
  obtain rfl := Option.some.inj hstep
  refine ⟨d, ?_⟩
  have hsame : (c.setFrameType call).1.camera.rounds = c.camera.rounds :=
    (sameModes_setFrameType call.answers call.files call.frameType c.camera).rounds
  rw [hsame]
  exact hd

/-- The slot of an available frame type holds what its last round read. -/
theorem ReadFrom.slots (hc : c.ReadFrom p) {type : FrameType} (h : type ∈ c.camera.types) :
    ∃ r slot, lastRound c.camera.rounds (c.camera.modeOf type.type) = some r
      ∧ p.dataOf r = some slot ∧ c.data.slots (c.camera.modeOf type.type) = some slot := by
  obtain ⟨d, hd⟩ := hc
  obtain ⟨r, hr⟩ := exists_lastRound h
  have hslot := slots_of_readModes hd (c.camera.modeOf type.type)
  rw [hr] at hslot
  obtain ⟨slot, hsome⟩ := Option.isSome_iff_exists.mp hslot.2
  exact ⟨r, slot, hr, hslot.1.trans hsome, hsome⟩

/-- **The intrinsics are right after a call exactly if it selects the last
ones.** -/
theorem ReadFrom.reported_iff (hc : c.ReadFrom p) (call : Selection) :
    c.Reported p call ↔ c.SelectsLast p call := by
  have hsame := sameModes_setFrameType call.answers call.files call.frameType c.camera
  -- what a call that succeeds has to compare
  have hselected : (c.setFrameType call).2 = some .ok →
      ((∃ slot, c.data.slots (c.camera.modeOf call.frameType) = some slot
          ∧ c.data.intrinsics = cameraIntrinsics slot)
        ↔ p.intrinsicsOf (lastRound c.camera.rounds (c.camera.modeOf call.frameType))
          = p.intrinsicsOf c.camera.rounds.getLast?) := by
    intro hok
    obtain ⟨type, htype, hname⟩ := mem_types_of_setFrameType hok
    obtain ⟨r, slot, hr, hread, hslot⟩ := hc.slots htype
    rw [hname] at hr hslot
    obtain ⟨d, hd⟩ := hc
    have hlast := (intrinsics_of_readModes hd).resolve_left
      (fun hnil => by rw [hnil] at hr; exact Option.some_ne_none r hr.symm)
    rw [hr, cameraIntrinsics_of_dataOf hread, hlast, hslot]
    constructor
    · rintro ⟨slot', hslot', heq⟩
      rw [Option.some.inj hslot', heq]
    · intro heq
      exact ⟨slot, rfl, (Option.some.inj heq).symm⟩
  constructor
  · intro h hok
    exact (hselected hok).mp (h.selected hok)
  · intro h
    refine ⟨fun type htype => ?_, fun hok => (hselected hok).mpr (h hok)⟩
    obtain ⟨r, slot, hr, hread, hslot⟩ := hc.slots (hsame.types ▸ htype : type ∈ c.camera.types)
    exact ⟨r, hr, hslot.trans hread.symm⟩

/-- **The reported intrinsics are those of the selected mode**, after every call
of a run, exactly if every call that succeeds selects a mode with the intrinsics
that were read last.

The payloads are what the ADSD3500 answers while the camera is initialised,
round by round; behind that no call reads any. So the slots and the details of
every state of a run are those of the first, and the equivalence is shown call
by call. -/
theorem reported_iff_selectsLast (hinit : c₀.initializeModes p = some c)
    (calls : List Selection) (c' : Calibrated) :
    Machine.Run selectStep (Reported p) c calls c'
      ↔ Machine.Run selectStep (SelectsLast p) c calls c' := by
  have hc := readFrom_of_initialize hinit
  constructor
  · intro h
    exact h.guard (fun s call s' hs hok hstep => ⟨hs.step hstep, (hs.reported_iff call).mp hok⟩) hc
  · intro h
    exact h.guard (fun s call s' hs hok hstep => ⟨hs.step hstep, (hs.reported_iff call).mpr hok⟩) hc

/-- Every mode with its own number for intrinsics. -/
def numberedPayloads : ModePayloads where
  intrinsics _ mode := some ⟨List.replicate _ mode, List.length_replicate⟩
  dealias _ mode := some ⟨List.replicate _ mode, List.length_replicate⟩

/-- A camera with short range (mode 0) and long range (mode 1), in that
order, and a call that selects one of them. -/
def native : Calibrated := { camera := ItofCamera.native }

def select (frameType : Bytes) : Selection := ⟨faultless, CameraSetup.native.files, frameType⟩

/-- Long range is listed last, and so the details of a camera that selects it
are right. -/
theorem reported_native :
    ∃ c c', native.initializeModes numberedPayloads = some c
      ∧ Machine.Run selectStep (Reported numberedPayloads) c [select (ascii "lr-native")] c' := by
  have hinit : native.initializeModes numberedPayloads
      = some ((native.initializeModes numberedPayloads).get rfl) := rfl
  refine ⟨_, _, hinit, (reported_iff_selectsLast hinit _ _).mpr
    (Machine.Run.cons (fun _ => ?_) rfl (Machine.Run.nil _))⟩
  decide +kernel

/-- **Short range is reported with the intrinsics of long range.** -/
theorem not_reported_native :
    ∃ c c', native.initializeModes numberedPayloads = some c
      ∧ Machine.Run selectStep Machine.always c [select (ascii "sr-native")] c'
      ∧ ¬ Machine.Run selectStep (Reported numberedPayloads) c [select (ascii "sr-native")] c' := by
  refine ⟨_, _, rfl, Machine.Run.cons trivial rfl (Machine.Run.nil _), fun h => ?_⟩
  cases h with
  | cons hok _ _ =>
    obtain ⟨slot, hslot, hintrinsics⟩ := hok.selected (by decide +kernel)
    obtain rfl : List.replicate 88 0 = slot := Option.some.inj hslot
    exact absurd hintrinsics (by decide +kernel)

end Calibrated

end ItofCamera
