import TofNet.SaveSession

/-!
# The mode of a frame

A DataFrame has the name of its frame type and the mode id, and the viewer
records both. `makeMode` takes a mode of 0 for one that is not there, and puts
the GUI's in its place; but 0 is the mode of `sr-native`. The frame type beside
it is the header's all the same, and so is the mode that the ISP's way of TOFI
is initialised with, which is converted from the name.

`modeAgrees_iff` says for which headers and configurations all places have the
one mode.
-/

/-- The slot of which `writeProcessedCameraJsonLocked` takes the intrinsics;
none where it does without or takes those of the TOFI configuration. -/
def intrinsicsSlot (slots : DealiasSlots) (mode : UInt16) : Option UInt8 :=
  if mode < 11 ∧ 0 < (dealiasRows (slots.get mode.toUInt8)).toInt32.toInt
      ∧ 0 < (dealiasCols (slots.get mode.toUInt8)).toInt32.toInt then some mode.toUInt8
  else none

/-- A library that makes the mode it is called with its configuration. -/
def modeLibrary : TofiLibrary UInt16 Unit Unit where
  initTofiConfig _ _ _ mode := (some mode, 0)
  initTofiConfigIsp _ mode _ := some (some mode.toUInt16, 0)
  calConfig _ := some ()
  initTofiCompute _ := (some (), 0)
  allocates _ := true

/-- **The header has a frame type of the table, with its mode.** -/
def DataFramePayloadHeader.OfTable (header : DataFramePayloadHeader) : Prop :=
  (header.mode, cstrToString header.frameType)
    ∈ kAdsd3500ModeTable.map fun entry => (entry.1.toUInt16, entry.2)

instance (header : DataFramePayloadHeader) : Decidable header.OfTable :=
  inferInstanceAs (Decidable (_ ∈ _))

/-- **The mode is that of the frame type beside it**, wherever the viewer uses
it: in a call of the TOFI library by either way, in the row of the frame, and in
`camera.json`, of which the intrinsics are those of a slot. -/
structure ModeAgrees (config : SaveConfig) (header : DataFramePayloadHeader) : Prop where
  /-- TOFI is initialised with it, either way. -/
  tofi : ∀ files slots isp t, freshTofi modeLibrary files slots isp
      (requestKey files isp (tofiRequest files config.toViewerConfig header)) = .ok t →
    t.config = some header.mode ∧ t.key.frameType = cstrToString header.frameType
  /-- The row of the frame has it, … -/
  row : ∀ (x : Snapshot) (index : ℕ), x.header = header →
    (x.row config index).mode = header.mode
      ∧ (x.row config index).frameType = cstrToString header.frameType
  /-- … and so has `camera.json`, … -/
  cameraJson : ∀ x : Snapshot, x.header = header →
    (x.cameraJson config).mode = header.mode
      ∧ (x.cameraJson config).frameType = cstrToString header.frameType
  /-- … with the intrinsics of its slot. -/
  intrinsics : ∀ (x : Snapshot) (slots : DealiasSlots) (slot : UInt8), x.header = header →
    intrinsicsSlot slots (x.cameraJson config).mode = some slot → slot.toUInt16 = header.mode

variable {header : DataFramePayloadHeader} {config : SaveConfig}

/-! ## Names of the table

Where the header is one of the table's, the conversion of the name gives the
mode of the header. So what TOFI is initialised with on the ISP's way is right
in any case. -/

/-- The entries of the table are converted to their modes. -/
theorem convertModeName_of_mem :
    ∀ entry ∈ kAdsd3500ModeTable, convertModeName entry.2 = entry.1 ∧ entry.2 ≠ [] := by
  decide +kernel

theorem DataFramePayloadHeader.OfTable.frameType (h : header.OfTable) :
    (convertModeName (cstrToString header.frameType)).toUInt16 = header.mode
      ∧ cstrToString header.frameType ≠ [] := by
  obtain ⟨entry, hentry, heq⟩ := List.mem_map.mp h
  obtain ⟨hmode, hname⟩ := Prod.mk.inj heq
  obtain ⟨hconvert, hne⟩ := convertModeName_of_mem entry hentry
  rw [← hname, ← hmode, hconvert]
  exact ⟨rfl, hne⟩

/-- A name that is there is the one that is recorded. -/
theorem makeFrameType_of_ne (h : cstrToString header.frameType ≠ []) (c : ViewerConfig) :
    makeFrameType header c = cstrToString header.frameType := by
  unfold makeFrameType
  dsimp only
  rw [if_neg h, if_neg h]

/-! ## Where the mode comes from

On the generic way, in the row and in `camera.json`, the mode is what `makeMode`
returns. It is the header's unless that is 0. So there is one mode for which it
can go wrong, and it does go wrong for that one as soon as the GUI shows
another. -/

/-- The mode that a library is called with. -/
theorem config_of_freshTofi {files : Files} {slots : DealiasSlots} {isp : Bool} {key : TofiKey}
    {t : Tofi UInt16 Unit} (h : freshTofi modeLibrary files slots isp key = .ok t) :
    t.config = some (if isp = true then (convertModeName key.frameType).toUInt16 else key.mode)
      ∧ t.key.frameType = key.frameType := by
  have hkey := (freshTofi_ok h).2.2.2
  cases isp with
  | false =>
    refine ⟨?_, by rw [hkey]; rfl⟩
    obtain ⟨_, -, h⟩ := bind_eq_ok.mp h
    obtain ⟨_, -, h⟩ := bind_eq_ok.mp h
    obtain ⟨_, -, h⟩ := bind_eq_ok.mp h
    obtain ⟨made, hmade, h⟩ := bind_eq_ok.mp h
    cases h
    cases hmade
    rfl
  | true =>
    refine ⟨?_, by rw [hkey]; rfl⟩
    obtain ⟨_, -, h⟩ := bind_eq_ok.mp h
    obtain ⟨_, -, h⟩ := bind_eq_ok.mp h
    obtain ⟨_, -, h⟩ := bind_eq_ok.mp h
    obtain ⟨_, -, h⟩ := bind_eq_ok.mp h
    obtain ⟨_, -, h⟩ := bind_eq_ok.mp h
    obtain ⟨result, hresult, h⟩ := bind_eq_ok.mp h
    obtain ⟨made, hmade, h⟩ := bind_eq_ok.mp h
    cases hresult
    cases hmade
    cases h
    rfl

theorem makeMode_eq_iff (c : ViewerConfig) :
    makeMode header c = header.mode ↔ header.mode ≠ 0 ∨ c.mode = 0 := by
  rw [makeMode]
  by_cases hzero : header.mode = 0
  · rw [if_neg (not_not.mpr hzero), hzero]
    simp
  · rw [if_pos hzero]
    simp [hzero]

/-- **All places have the mode of the frame type** unless that mode is 0 and the
GUI's is another, and then they do not.

The header is one whose mode is that of its frame type in the table of modes.
The condition names the one value of the header's mode that the viewer takes for
none, and the one value of the GUI's which it does no harm to put in its
place. -/
theorem modeAgrees_iff (h : header.OfTable) :
    ModeAgrees config header ↔ header.mode ≠ 0 ∨ config.mode = 0 := by
  obtain ⟨hconvert, hne⟩ := h.frameType
  have hname := makeFrameType_of_ne hne config.toViewerConfig
  refine Iff.trans ?_ (makeMode_eq_iff config.toViewerConfig)
  constructor
  · intro hagrees
    exact (hagrees.row { header := header, compressedBytes := 0, width := 0, height := 0 } 0 rfl).1
  · intro hmode
    refine {
      tofi := fun files slots isp t ht => ?_
      row := fun x index hx => by subst hx; exact ⟨hmode, hname⟩
      cameraJson := fun x hx => by subst hx; exact ⟨hmode, hname⟩
      intrinsics := fun x slots slot hx hslot => ?_ }
    · obtain ⟨hconfig, hkey⟩ := config_of_freshTofi ht
      refine ⟨hconfig.trans (congrArg some ?_), hkey.trans hname⟩
      cases isp with
      | false => exact hmode
      | true =>
        show (convertModeName (makeFrameType header config.toViewerConfig)).toUInt16 = _
        rw [hname, hconvert]
    · subst hx
      have hjson : (x.cameraJson config).mode = x.header.mode := hmode
      rw [hjson, intrinsicsSlot] at hslot
      split at hslot
      · next hlt =>
        rw [← Option.some.inj hslot]
        have hsmall : x.header.mode.toNat < 11 := UInt16.lt_iff_toNat_lt.mp hlt.1
        rw [← UInt16.toNat_inj, UInt8.toNat_toUInt16, UInt16.toNat_toUInt8]
        exact Nat.mod_eq_of_lt (by omega)
      · cases hslot

/-- `lr-qnative` with its mode. -/
def lrQnativeHeader : DataFramePayloadHeader where
  mode := 3
  frameType := copyCstr kNameLen (ascii "lr-qnative")

/-- A frame of `lr-qnative` is recorded as one, whatever the GUI shows. -/
theorem modeAgrees_lrQnative : lrQnativeHeader.OfTable ∧ ModeAgrees {} lrQnativeHeader :=
  have h : lrQnativeHeader.OfTable := by decide +kernel
  ⟨h, (modeAgrees_iff h).mpr (.inl (by decide))⟩

/-- `sr-native` with its mode. -/
def srNativeHeader : DataFramePayloadHeader where
  mode := 0
  frameType := copyCstr kNameLen (ascii "sr-native")

/-- **A frame of `sr-native` is recorded with the mode of `lr-mixed`**, if that
is what the GUI shows. -/
theorem not_modeAgrees_srNative :
    ¬ ∀ (config : SaveConfig) (header : DataFramePayloadHeader),
      header.OfTable → ModeAgrees config header := by
  intro h
  have hagrees := h { mode := 5 } srNativeHeader (by decide +kernel)
  let x : Snapshot := { header := srNativeHeader, compressedBytes := 0, width := 1, height := 1 }
  have hrow := (hagrees.row x 0 rfl).1
  exact absurd hrow (by decide)
