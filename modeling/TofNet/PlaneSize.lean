import TofNet.FrameStorage
import TofNet.TofiCache

/-!
# The sizes of planes

Both machines compute the bytes of a plane as a product of 32-bit numbers, with
64 bits, and compare it with what 32 bits hold. Four such factors have up to
128 bits, and the two of a DataFrame, with two bytes for each element, up to
65; the product wraps, and a huge plane may pass for a small one.

The viewer shows a frame for which TOFI has failed as it is, in the size that
its header gives. `planeSizes_iff` says for which sizes the checks are exact.

All three statements are of one shape: a computed number is compared with a
bound, and the comparison is right unless the exact number is beyond 64 bits and
what is left of it passes. So `planeBytes` and `exactBytes` are two functions of
the same factors, and each condition is about these two.
-/

/-! ## The checks

The viewer and the collector compute the same product, from left to right with
64 bits, and compare it with the same bound; the collector refuses a product of
0 as well. A product that wraps on its way is the exact product modulo `2^64`,
wherever it wraps. -/

/-- The product of the four factors, computed with 64 bits. -/
def planeBytes (width height subelementSize subelementsPerElement : UInt32) : UInt64 :=
  width.toUInt64 * height.toUInt64 * subelementSize.toUInt64 * subelementsPerElement.toUInt64

/-- The product itself. -/
def exactBytes (width height subelementSize subelementsPerElement : UInt32) : ℕ :=
  width.toNat * height.toNat * subelementSize.toNat * subelementsPerElement.toNat

/-- **`validatePlaneSize`**. -/
def validatePlaneSize (width height subelementSize subelementsPerElement : UInt32) :
    Except String Unit :=
  if 0xFFFFFFFF < planeBytes width height subelementSize subelementsPerElement then
    .error "Computed frame plane is too large"
  else .ok ()

/-- **`checked_raw_byte_count`**, of the sizes in a plane's details. -/
def checkedRawByteCount (width height subelementSize subelementsPerElement : UInt32) :
    Except String UInt32 :=
  let bytes := planeBytes width height subelementSize subelementsPerElement
  if bytes = 0 ∨ 0xFFFFFFFF < bytes then .error "raw frame plane size is invalid or too large"
  else .ok bytes.toUInt32

/-! ## The frame that is shown as it is

`buildFallbackFrame` sets the details of a frame, which makes its block, and
fills two planes of it by `memcpy`. Both copies have the length that was
computed from the header, and nothing but the checks of the sizes keeps them
inside of the vector and of the block. -/

/-- `addPlane`. -/
def addPlane (planes : List FrameDataDetails) (type : Bytes)
    (width height subelementSize subelementsPerElement : UInt32) :
    Except String (List FrameDataDetails) :=
  match validatePlaneSize width height subelementSize subelementsPerElement with
  | .error what => .error what
  | .ok () => .ok (planes ++ [⟨type, width, height⟩])

/-- `memcpy` of the first `n` bytes of a vector to an address; none where it
goes outside of the vector or of the block. -/
def copyBytes (bytes : Bytes) (n : ℕ) (p : FramePointer) (memory : FrameMemory) :
    Option FrameMemory := do
  let target ← memory[p.block]?
  if n ≤ bytes.length ∧ 2 * p.offset + n ≤ target.length then
    some (memory.set p.block (target.take (2 * p.offset) ++ ((bytes.take n).map some
      ++ target.drop (2 * p.offset + n))))
  else none

/-- A plane is filled, if the frame has it. -/
def fillPlane (f : FrameImpl) (type bytes : Bytes) (n : ℕ) (memory : FrameMemory) :
    Option FrameMemory :=
  match f.getData type with
  | some p => copyBytes bytes n p memory
  | none => some memory

/-- How `buildFallbackFrame` ends. -/
inductive FallbackFrame
  | dropped
  | threw (what : String)
  | built (f : FrameImpl) (memory : FrameMemory)
  deriving DecidableEq

/-- The details of the frame. -/
def fallbackDetails (frameType : Bytes) (planes : List FrameDataDetails) : FrameDetails where
  type := frameType
  cameraMode := frameType
  dataDetails := planes

/-- The planes of the frame. -/
def fallbackPlanes (width height : UInt32) : Except String (List FrameDataDetails) :=
  match addPlane [] (ascii "depth") width height 2 1 with
  | .error what => .error what
  | .ok planes => addPlane planes (ascii "ir") width height 2 1

/-- The frame with both its planes. -/
def filledFrame (details : FrameDetails) (rawBytes : Bytes) (n : ℕ) (memory : FrameMemory) :
    Option FallbackFrame := do
  let (f, memory) ← (FrameImpl.construct 128 0).setDetails details memory
  let memory ← fillPlane f (ascii "depth") rawBytes n memory
  let memory ← fillPlane f (ascii "ir") rawBytes n memory
  some (.built f memory)

/-- **`buildFallbackFrame`**; none where it runs into something undefined. -/
def buildFallbackFrame (config : ViewerConfig) (header : DataFramePayloadHeader)
    (rawBytes : Bytes) (memory : FrameMemory) : Option FallbackFrame :=
  if rawBytes.length % 2 ≠ 0 ∨ header.rawWidth = 0 ∨ header.rawHeight = 0 then some .dropped
  else
    let expectedBytes : UInt64 := header.rawWidth.toUInt64 * header.rawHeight.toUInt64 * 2
    if rawBytes.length < expectedBytes.toNat then some .dropped
    else match fallbackPlanes header.rawWidth header.rawHeight with
      | .error what => some (.threw what)
      | .ok planes =>
        filledFrame (fallbackDetails (makeFrameType header config) planes) rawBytes
          expectedBytes.toNat memory

/-! ## What the checks are for

The purpose is said without products of 64 bits: a size is accepted exactly if
it is one that can be had, and a frame that is built is a copy of what came. -/

/-- The bytes of a header's plane. -/
def DataFramePayloadHeader.planeBytes (header : DataFramePayloadHeader) : ℕ :=
  header.rawWidth.toNat * header.rawHeight.toNat * 2

/-- `n` bytes at an address. -/
def bytesAt (memory : FrameMemory) (p : FramePointer) (n : ℕ) : List (Option UInt8) :=
  (((memory[p.block]?).getD []).drop (2 * p.offset)).take n

/-- **A frame that is built has the size of its header**: the vector holds the
bytes of a plane, 32 bits hold their number, and each plane is a copy of those
bytes. -/
structure FallbackExact (config : ViewerConfig) (header : DataFramePayloadHeader)
    (rawBytes : Bytes) (memory : FrameMemory) : Prop where
  /-- Nothing undefined happens. -/
  defined : (buildFallbackFrame config header rawBytes memory).isSome
  /-- A frame that is built has a plane of bytes to be built of. -/
  fits : ∀ f memory', buildFallbackFrame config header rawBytes memory = some (.built f memory') →
    header.planeBytes ≤ rawBytes.length ∧ header.planeBytes ≤ 2 ^ 32 - 1
  /-- Its planes are copies of these. -/
  copies : ∀ f memory', buildFallbackFrame config header rawBytes memory = some (.built f memory') →
    ∀ type ∈ [ascii "depth", ascii "ir"], ∃ p, f.getData type = some p
      ∧ bytesAt memory' p header.planeBytes = (rawBytes.take header.planeBytes).map some

/-- **The size of a plane is checked exactly.** -/
def ValidatedExactly (width height subelementSize subelementsPerElement : UInt32) : Prop :=
  validatePlaneSize width height subelementSize subelementsPerElement = .ok ()
    ↔ exactBytes width height subelementSize subelementsPerElement ≤ 2 ^ 32 - 1

/-- **The size of a raw plane is computed exactly.** -/
def CountedExactly (width height subelementSize subelementsPerElement : UInt32) : Prop :=
  ∀ n, checkedRawByteCount width height subelementSize subelementsPerElement = .ok n
    ↔ exactBytes width height subelementSize subelementsPerElement = n.toNat ∧ 1 ≤ n.toNat

/-! ## Products of 32-bit numbers

Two factors of 32 bits have a product of 64 bits at most, and each further
factor may wrap. What is computed is the product modulo `2^64`. -/

variable {w h a b : UInt32}

/-- The number that is computed, as a remainder. -/
theorem toNat_planeBytes (w h a b : UInt32) :
    (planeBytes w h a b).toNat = exactBytes w h a b % 2 ^ 64 := by
  simp only [planeBytes, exactBytes, UInt64.toNat_mul, UInt32.toNat_toUInt64]
  rw [Nat.mod_mul_mod, Nat.mul_assoc, Nat.mod_mul_mod, ← Nat.mul_assoc]

/-- What `validatePlaneSize` accepts: the product that it computes fits into 32
bits. -/
theorem validatePlaneSize_eq (w h a b : UInt32) :
    validatePlaneSize w h a b = if exactBytes w h a b % 2 ^ 64 ≤ 2 ^ 32 - 1 then .ok ()
      else .error "Computed frame plane is too large" := by
  have hmax : (0xFFFFFFFF : UInt64).toNat = 2 ^ 32 - 1 := rfl
  have hiff : 0xFFFFFFFF < planeBytes w h a b ↔ ¬ exactBytes w h a b % 2 ^ 64 ≤ 2 ^ 32 - 1 := by
    rw [UInt64.lt_iff_toNat_lt, hmax, toNat_planeBytes, Nat.not_le]
  rw [validatePlaneSize]
  by_cases hok : exactBytes w h a b % 2 ^ 64 ≤ 2 ^ 32 - 1
  · rw [if_pos hok, if_neg (fun hlt => hiff.mp hlt hok)]
  · rw [if_neg hok, if_pos (hiff.mpr hok)]

/-- **Where a plane's size is checked exactly.** -/
theorem validatedExactly_iff :
    ValidatedExactly w h a b
      ↔ exactBytes w h a b < 2 ^ 64 ∨ 2 ^ 32 - 1 < exactBytes w h a b % 2 ^ 64 := by
  rw [ValidatedExactly, validatePlaneSize_eq]
  split
  · simp only [true_iff]
    omega
  · simp only [reduceCtorEq, false_iff]
    omega

/-- What `checked_raw_byte_count` returns. -/
theorem checkedRawByteCount_eq_ok_iff {n : UInt32} :
    checkedRawByteCount w h a b = .ok n
      ↔ exactBytes w h a b % 2 ^ 64 = n.toNat ∧ 1 ≤ n.toNat := by
  have hmax : (0xFFFFFFFF : UInt64).toNat = 2 ^ 32 - 1 := rfl
  have hn := n.toNat_lt
  have hbytes := toNat_planeBytes w h a b
  simp only [checkedRawByteCount]
  rw [← hbytes]
  generalize planeBytes w h a b = bytes
  split
  · next hbad =>
    refine ⟨fun h => (nomatch h), fun ⟨heq, hpos⟩ => ?_⟩
    rcases hbad with rfl | hlarge
    · rw [← heq] at hpos
      exact absurd hpos (by decide)
    · rw [UInt64.lt_iff_toNat_lt, hmax] at hlarge
      omega
  · next hgood =>
    obtain ⟨hzero, hle⟩ := not_or.mp hgood
    rw [UInt64.lt_iff_toNat_lt, hmax] at hle
    have hpos : bytes.toNat ≠ 0 := fun h => hzero (UInt64.toNat_inj.mp h)
    have hsmall : bytes.toUInt32.toNat = bytes.toNat := by
      rw [UInt64.toNat_toUInt32]
      omega
    constructor
    · intro h
      cases h
      rw [hsmall]
      omega
    · rintro ⟨heq, -⟩
      exact congrArg Except.ok (UInt32.toNat_inj.mp (hsmall.trans heq))

/-- **Where a raw plane's size is computed exactly.** -/
theorem countedExactly_iff :
    CountedExactly w h a b ↔ exactBytes w h a b < 2 ^ 64
      ∨ exactBytes w h a b % 2 ^ 64 = 0 ∨ 2 ^ 32 - 1 < exactBytes w h a b % 2 ^ 64 := by
  simp only [CountedExactly, checkedRawByteCount_eq_ok_iff]
  constructor
  · intro hexact
    by_contra hnot
    have hlt : exactBytes w h a b % 2 ^ 64 < 2 ^ 32 := by omega
    have hn := hexact (UInt32.ofNat (exactBytes w h a b % 2 ^ 64))
    rw [UInt32.toNat_ofNat_of_lt' hlt] at hn
    omega
  · intro hcases n
    have hn := n.toNat_lt
    omega

/-! ## The frame that is built

Where the check has passed, the block has the size that the details give, and
both planes lie in it. The frame is computed once and for all
(`filledFrame_eq`), so that what is said about it does not have to go through
its construction again. -/

section Built

variable {type rawBytes : Bytes} {memory : FrameMemory} {k : ℕ}

/-- The planes of the frame, in one block that holds both. -/
def fallbackLocations (block k : ℕ) : List (Bytes × FramePointer) :=
  [(ascii "frameData", ⟨block, 0⟩), (ascii "depth", ⟨block, 0⟩), (ascii "ir", ⟨block, k⟩)]

/-- The frame with its planes. -/
def fallbackImpl (details : FrameDetails) (block k : ℕ) : FrameImpl where
  details := details
  implData := some { dataLocations := fallbackLocations block k, allData := some block }
  embedHdrLength := some 128
  totalCaptures := some 0
  detailed := true

theorem emplace_fallback (p q r : FramePointer) :
    [(ascii "frameData", p), (ascii "depth", q), (ascii "ir", r)].foldl emplace []
      = [(ascii "frameData", p), (ascii "depth", q), (ascii "ir", r)] := by
  have hdepth : (ascii "depth" == ascii "frameData") = false := by decide +kernel
  have hir : (ascii "ir" == ascii "frameData") = false := by decide +kernel
  have hir' : (ascii "ir" == ascii "depth") = false := by decide +kernel
  simp [emplace, List.lookup_cons, hdepth, hir, hir']

theorem getData_fallbackImpl (details : FrameDetails) (block k : ℕ) :
    (fallbackImpl details block k).getData (ascii "depth") = some ⟨block, 0⟩
      ∧ (fallbackImpl details block k).getData (ascii "ir") = some ⟨block, k⟩ := by
  have hdepth : (ascii "depth" == ascii "frameData") = false := by decide +kernel
  have hir : (ascii "ir" == ascii "frameData") = false := by decide +kernel
  have hir' : (ascii "ir" == ascii "depth") = false := by decide +kernel
  constructor
  · simp [FrameImpl.getData, fallbackImpl, fallbackLocations, List.lookup_cons, hdepth]
  · simp [FrameImpl.getData, fallbackImpl, fallbackLocations, List.lookup_cons, hir, hir']

/-- The elements of a plane, modulo what 32 bits hold. -/
theorem toNat_getSubframeSize_plane (htype : type = ascii "depth" ∨ type = ascii "ir") :
    (FrameImpl.getSubframeSize 128 0 ⟨type, w, h⟩).toUInt32.toNat
      = w.toNat * h.toNat % 2 ^ 32 := by
  have hheader : type ≠ ascii "header" := by
    rcases htype with rfl | rfl <;> decide +kernel
  have hxyz : type ≠ ascii "xyz" := by
    rcases htype with rfl | rfl <;> decide +kernel
  rw [FrameImpl.getSubframeSize, if_neg hheader, if_neg hxyz, UInt64.toNat_toUInt32,
    UInt64.toNat_mul, UInt32.toNat_toUInt64, UInt32.toNat_toUInt64, Nat.mul_comm h.toNat]
  exact Nat.mod_mod_of_dvd _ (by decide)

/-- The details are set on a new frame. -/
theorem setDetails_fallback (frameType : Bytes) (hk : w.toNat * h.toNat % 2 ^ 32 = k)
    (hlt : k < 2 ^ 31) :
    let details := fallbackDetails frameType [⟨ascii "depth", w, h⟩, ⟨ascii "ir", w, h⟩]
    (FrameImpl.construct 128 0).setDetails details memory
      = some (fallbackImpl details memory.length k, memory ++ [List.replicate (4 * k) none]) := by
  intro details
  have hne : details ≠ (FrameImpl.construct 128 0).details := by
    intro heq
    exact absurd (congrArg FrameDetails.dataDetails heq) (List.cons_ne_nil _ _)
  have hdepth : (FrameImpl.getSubframeSize 128 0 ⟨ascii "depth", w, h⟩).toUInt32
      = UInt32.ofNat k := by
    rw [← UInt32.toNat_inj, toNat_getSubframeSize_plane (.inl rfl), hk,
      UInt32.toNat_ofNat_of_lt' (by show k < 2 ^ 32; omega)]
  have hir : (FrameImpl.getSubframeSize 128 0 ⟨ascii "ir", w, h⟩).toUInt32 = UInt32.ofNat k := by
    rw [← UInt32.toNat_inj, toNat_getSubframeSize_plane (.inr rfl), hk,
      UInt32.toNat_ofNat_of_lt' (by show k < 2 ^ 32; omega)]
  have htotal : (FrameImpl.totalSize (FrameImpl.getSubframeSize 128 0) details.dataDetails).toNat
      = 2 * k := by
    show (0 + (FrameImpl.getSubframeSize 128 0 ⟨ascii "depth", w, h⟩).toUInt32
      + (FrameImpl.getSubframeSize 128 0 ⟨ascii "ir", w, h⟩).toUInt32).toNat = 2 * k
    rw [hdepth, hir, UInt32.zero_add, UInt32.toNat_add,
      UInt32.toNat_ofNat_of_lt' (by show k < 2 ^ 32; omega)]
    omega
  have hentries : FrameImpl.entries (FrameImpl.getSubframeSize 128 0) memory.length
      details.dataDetails = fallbackLocations memory.length k := by
    show ([(ascii "frameData", ⟨memory.length, 0⟩), (ascii "depth", ⟨memory.length, 0⟩),
      (ascii "ir", ⟨memory.length, (0 + (FrameImpl.getSubframeSize 128 0
        ⟨ascii "depth", w, h⟩).toUInt32).toNat⟩)] : List (Bytes × FramePointer)) = _
    rw [hdepth, UInt32.zero_add, UInt32.toNat_ofNat_of_lt' (by show k < 2 ^ 32; omega)]
    rfl
  have halloc : FrameImpl.allocFrameData details memory (FrameImpl.construct 128 0)
      = some ({ fallbackImpl details memory.length k with details := {}, detailed := false },
        memory ++ [List.replicate (4 * k) none]) := by
    show some (_, memory ++ [List.replicate (2 * (FrameImpl.totalSize
      (FrameImpl.getSubframeSize 128 0) details.dataDetails).toNat) none]) = _
    rw [htotal, hentries, fallbackLocations, emplace_fallback, ← Nat.mul_assoc]
    rfl
  rw [FrameImpl.setDetails, if_neg hne, halloc]
  rfl

/-- The last block is overwritten behind a front of it. -/
theorem copyBytes_last {front back : List (Option UInt8)} {n offset : ℕ}
    (hn : n ≤ rawBytes.length) (hfront : front.length = 2 * offset) (hback : n ≤ back.length) :
    copyBytes rawBytes n ⟨memory.length, offset⟩ (memory ++ [front ++ back])
      = some (memory ++ [front ++ ((rawBytes.take n).map some ++ back.drop n)]) := by
  have hblock : (memory ++ [front ++ back])[memory.length]? = some (front ++ back) := by
    rw [List.getElem?_append_right le_rfl, Nat.sub_self]
    rfl
  have hroom : n ≤ rawBytes.length ∧ 2 * offset + n ≤ (front ++ back).length := by
    refine ⟨hn, ?_⟩
    rw [List.length_append, hfront]
    omega
  rw [copyBytes, hblock]
  simp only [Option.bind_eq_bind, Option.bind_some]
  rw [if_pos hroom, List.take_left' hfront, ← List.drop_drop, List.drop_left' hfront,
    List.set_append_right _ _ le_rfl, Nat.sub_self]
  rfl

/-- The block of a frame with both its planes. -/
def fallbackBlock (rawBytes : Bytes) (k : ℕ) : List (Option UInt8) :=
  (rawBytes.take (2 * k)).map some ++ (rawBytes.take (2 * k)).map some

/-- **Both planes are copies of the same bytes**, and the copies are inside of
the frame's block. -/
theorem filledFrame_eq (frameType : Bytes) (hk : w.toNat * h.toNat % 2 ^ 32 = k)
    (hlt : k < 2 ^ 31) (hraw : 2 * k ≤ rawBytes.length) :
    let details := fallbackDetails frameType [⟨ascii "depth", w, h⟩, ⟨ascii "ir", w, h⟩]
    filledFrame details rawBytes (2 * k) memory
      = some (.built (fallbackImpl details memory.length k)
          (memory ++ [fallbackBlock rawBytes k])) := by
  intro details
  obtain ⟨hdepth, hir⟩ := getData_fallbackImpl details memory.length k
  have hlength : ((rawBytes.take (2 * k)).map some).length = 2 * k := by
    rw [List.length_map, List.length_take, Nat.min_eq_left hraw]
  have hfirst : fillPlane (fallbackImpl details memory.length k) (ascii "depth") rawBytes (2 * k)
      (memory ++ [List.replicate (4 * k) none])
        = some (memory ++ [(rawBytes.take (2 * k)).map some ++ List.replicate (2 * k) none]) := by
    have hroom : 2 * k ≤ (List.replicate (4 * k) (none : Option UInt8)).length := by
      rw [List.length_replicate]
      omega
    have hcopy : copyBytes rawBytes (2 * k) ⟨memory.length, 0⟩
        (memory ++ [[] ++ List.replicate (4 * k) none]) = _ := copyBytes_last hraw rfl hroom
    rw [fillPlane, hdepth]
    refine hcopy.trans ?_
    rw [List.drop_replicate, List.nil_append, show 4 * k - 2 * k = 2 * k from by omega]
  have hsecond : fillPlane (fallbackImpl details memory.length k) (ascii "ir") rawBytes (2 * k)
      (memory ++ [(rawBytes.take (2 * k)).map some ++ List.replicate (2 * k) none])
        = some (memory ++ [fallbackBlock rawBytes k]) := by
    rw [fillPlane, hir]
    refine (copyBytes_last hraw hlength (by rw [List.length_replicate])).trans ?_
    rw [List.drop_replicate, Nat.sub_self, List.replicate_zero, List.append_nil]
    rfl
  rw [filledFrame, setDetails_fallback frameType hk hlt]
  simp only [Option.bind_eq_bind, Option.bind_some]
  rw [hfirst, Option.bind_some, hsecond, Option.bind_some]

end Built

/-! ## Where the checks are exact

The cases of `buildFallbackFrame` follow the checks in their order. The frame
that is built is the one of the section before, and the rest is the comparison
of the two products. -/

variable {config : ViewerConfig} {header : DataFramePayloadHeader} {rawBytes : Bytes}
  {memory : FrameMemory}

theorem fallbackPlanes_eq (w h : UInt32) :
    fallbackPlanes w h = if exactBytes w h 2 1 % 2 ^ 64 ≤ 2 ^ 32 - 1 then
        .ok [⟨ascii "depth", w, h⟩, ⟨ascii "ir", w, h⟩]
      else .error "Computed frame plane is too large" := by
  by_cases hok : exactBytes w h 2 1 % 2 ^ 64 ≤ 2 ^ 32 - 1
  · rw [fallbackPlanes, addPlane, validatePlaneSize_eq, if_pos hok, if_pos hok]
    dsimp only
    rw [addPlane, validatePlaneSize_eq, if_pos hok]
    rfl
  · rw [fallbackPlanes, addPlane, validatePlaneSize_eq, if_neg hok, if_neg hok]

/-- **How `buildFallbackFrame` ends**, by the product that it computes. -/
theorem buildFallbackFrame_eq (config : ViewerConfig) (header : DataFramePayloadHeader)
    (rawBytes : Bytes) (memory : FrameMemory) :
    buildFallbackFrame config header rawBytes memory
      = if rawBytes.length % 2 ≠ 0 ∨ header.rawWidth = 0 ∨ header.rawHeight = 0
          ∨ rawBytes.length < header.planeBytes % 2 ^ 64 then some .dropped
        else if 2 ^ 32 - 1 < header.planeBytes % 2 ^ 64 then
          some (.threw "Computed frame plane is too large")
        else
          let k := header.planeBytes % 2 ^ 64 / 2
          some (.built (fallbackImpl (fallbackDetails (makeFrameType header config)
              [⟨ascii "depth", header.rawWidth, header.rawHeight⟩,
                ⟨ascii "ir", header.rawWidth, header.rawHeight⟩]) memory.length k)
            (memory ++ [fallbackBlock rawBytes k])) := by
  have hexpected : (header.rawWidth.toUInt64 * header.rawHeight.toUInt64 * 2).toNat
      = header.planeBytes % 2 ^ 64 := by
    simp only [UInt64.toNat_mul, UInt32.toNat_toUInt64]
    rw [Nat.mod_mul_mod]
    rfl
  have hexact : exactBytes header.rawWidth header.rawHeight 2 1 = header.planeBytes :=
    Nat.mul_one _
  rw [buildFallbackFrame]
  dsimp only
  rw [hexpected, fallbackPlanes_eq, hexact]
  by_cases hsize : rawBytes.length % 2 ≠ 0 ∨ header.rawWidth = 0 ∨ header.rawHeight = 0
  · rw [if_pos hsize, if_pos (by tauto)]
  by_cases hshort : rawBytes.length < header.planeBytes % 2 ^ 64
  · rw [if_neg hsize, if_pos hshort, if_pos (by tauto)]
  have hkept : ¬ (rawBytes.length % 2 ≠ 0 ∨ header.rawWidth = 0 ∨ header.rawHeight = 0
      ∨ rawBytes.length < header.planeBytes % 2 ^ 64) := by tauto
  rw [if_neg hsize, if_neg hshort, if_neg hkept]
  by_cases hlarge : 2 ^ 32 - 1 < header.planeBytes % 2 ^ 64
  · rw [if_pos hlarge, if_neg (Nat.not_le.mpr hlarge)]
  rw [if_neg hlarge, if_pos (Nat.not_lt.mp hlarge)]
  dsimp only
  -- the product is even, and half of it is that of the width and the height
  generalize hk : header.planeBytes % 2 ^ 64 / 2 = k
  have htwice : header.planeBytes % 2 ^ 64 = 2 * k := by
    rw [DataFramePayloadHeader.planeBytes] at hk ⊢
    omega
  have hpixels : header.rawWidth.toNat * header.rawHeight.toNat % 2 ^ 32 = k := by
    rw [DataFramePayloadHeader.planeBytes] at htwice
    omega
  rw [htwice]
  exact filledFrame_eq _ hpixels (by omega) (by omega)

/-- A frame that is built is one of these. -/
theorem built_cases {f : FrameImpl} {memory' : FrameMemory}
    (h : buildFallbackFrame config header rawBytes memory = some (.built f memory')) :
    (rawBytes.length % 2 = 0 ∧ header.planeBytes % 2 ^ 64 ≤ rawBytes.length
        ∧ header.planeBytes % 2 ^ 64 ≤ 2 ^ 32 - 1)
      ∧ ∃ details, f = fallbackImpl details memory.length (header.planeBytes % 2 ^ 64 / 2)
        ∧ memory' = memory ++ [fallbackBlock rawBytes (header.planeBytes % 2 ^ 64 / 2)] := by
  rw [buildFallbackFrame_eq] at h
  split at h
  · cases h
  · next hsize =>
    split at h
    · cases h
    · next hlarge =>
      cases h
      exact ⟨by omega, _, rfl, rfl⟩

/-- **The check of the bytes is exact** where the product does not wrap to a
number that passes. -/
theorem fallbackExact_iff :
    FallbackExact config header rawBytes memory
      ↔ header.planeBytes < 2 ^ 64 ∨ rawBytes.length % 2 = 1
        ∨ rawBytes.length < header.planeBytes % 2 ^ 64
        ∨ 2 ^ 32 - 1 < header.planeBytes % 2 ^ 64 := by
  constructor
  · intro hexact
    by_contra hnot
    push Not at hnot
    obtain ⟨hwrap, heven, hroom, hsmall⟩ := hnot
    -- the frame is built, with a size that it does not have
    have hbuilt := buildFallbackFrame_eq config header rawBytes memory
    have hzero : ¬ (rawBytes.length % 2 ≠ 0 ∨ header.rawWidth = 0 ∨ header.rawHeight = 0
        ∨ rawBytes.length < header.planeBytes % 2 ^ 64) := by
      rintro (hodd | hw | hh | hshort)
      · omega
      · rw [DataFramePayloadHeader.planeBytes, hw] at hwrap
        simp at hwrap
      · rw [DataFramePayloadHeader.planeBytes, hh] at hwrap
        simp at hwrap
      · omega
    rw [if_neg hzero, if_neg (Nat.not_lt.mpr hsmall)] at hbuilt
    have hfits := (hexact.fits _ _ hbuilt).2
    omega
  · intro hcond
    have hsame : ∀ f memory',
        buildFallbackFrame config header rawBytes memory = some (.built f memory') →
          header.planeBytes % 2 ^ 64 = header.planeBytes := by
      intro f memory' hbuilt
      obtain ⟨⟨heven, hroom, hsmall⟩, -⟩ := built_cases hbuilt
      exact Nat.mod_eq_of_lt (by omega)
    refine ⟨?_, fun f memory' hbuilt => ?_, fun f memory' hbuilt type htype => ?_⟩
    · rw [buildFallbackFrame_eq]
      split
      · rfl
      · split
        · rfl
        · rfl
    · obtain ⟨⟨-, hroom, hsmall⟩, -⟩ := built_cases hbuilt
      rw [hsame f memory' hbuilt] at hroom hsmall
      exact ⟨hroom, hsmall⟩
    · obtain ⟨⟨-, hroom, -⟩, details, rfl, rfl⟩ := built_cases hbuilt
      rw [hsame _ _ hbuilt] at hroom ⊢
      have htwice : 2 * (header.planeBytes / 2) = header.planeBytes := by
        rw [DataFramePayloadHeader.planeBytes]
        omega
      have hblock : (memory ++ [fallbackBlock rawBytes (header.planeBytes / 2)])[memory.length]?
          = some ((rawBytes.take header.planeBytes).map some
            ++ (rawBytes.take header.planeBytes).map some) := by
        rw [List.getElem?_append_right le_rfl, Nat.sub_self, fallbackBlock, htwice]
        rfl
      have hlength : ((rawBytes.take header.planeBytes).map some).length = header.planeBytes := by
        rw [List.length_map, List.length_take, Nat.min_eq_left hroom]
      obtain ⟨hdepth, hir⟩ := getData_fallbackImpl details memory.length (header.planeBytes / 2)
      rcases List.mem_cons.mp htype with rfl | htype
      · refine ⟨_, hdepth, ?_⟩
        rw [bytesAt, hblock, Option.getD_some, Nat.mul_zero, List.drop_zero,
          List.take_left' hlength]
      · rw [List.mem_singleton] at htype
        subst htype
        refine ⟨_, hir, ?_⟩
        rw [bytesAt, hblock, Option.getD_some, htwice, List.drop_left' hlength,
          List.take_of_length_le hlength.le]

/-- **The sizes of planes are computed exactly** where no product wraps to a
number that passes, and only there.

The first two of the three are of the viewer: its fallback, which shows a frame
in the size that the header gives, and its validation of a plane. The third is
the collector's count of the bytes of a raw plane. In each a product that has
wrapped is harmless if what is left of it is refused by the test that follows,
and the three tests refuse different numbers. -/
theorem planeSizes_iff (config : ViewerConfig) (header : DataFramePayloadHeader)
    (rawBytes : Bytes) (memory : FrameMemory) (w h a b : UInt32) :
    (FallbackExact config header rawBytes memory
      ↔ header.planeBytes < 2 ^ 64 ∨ rawBytes.length % 2 = 1
        ∨ rawBytes.length < header.planeBytes % 2 ^ 64
        ∨ 2 ^ 32 - 1 < header.planeBytes % 2 ^ 64)
    ∧ (ValidatedExactly w h a b
      ↔ exactBytes w h a b < 2 ^ 64 ∨ 2 ^ 32 - 1 < exactBytes w h a b % 2 ^ 64)
    ∧ (CountedExactly w h a b
      ↔ exactBytes w h a b < 2 ^ 64
        ∨ exactBytes w h a b % 2 ^ 64 = 0 ∨ 2 ^ 32 - 1 < exactBytes w h a b % 2 ^ 64) :=
  ⟨fallbackExact_iff, validatedExactly_iff, countedExactly_iff⟩

/-! ## A frame of four bytes -/

/-- A header with a width and a height of more than 2^31. -/
def wrappingHeader : DataFramePayloadHeader where
  frameId := 1
  rawWidth := 2147549185
  rawHeight := 4294836226
  rawBytes := 4

/-- **Four bytes are shown as a frame of 2^63 elements and two.** Twice as many
bytes is `2^64 + 4`, and the 4 that are left of it are the bytes there are. -/
theorem not_fallbackExact_four_bytes :
    ¬ ∀ config memory, FallbackExact config wrappingHeader [0, 0, 0, 0] memory := by
  intro h
  have hwrap : wrappingHeader.planeBytes = 2 ^ 64 + 4 := by decide +kernel
  rcases fallbackExact_iff.mp (h {} []) with hcond | hcond | hcond | hcond
  · rw [hwrap] at hcond
    omega
  · exact absurd hcond (by decide)
  · rw [hwrap] at hcond
    exact absurd hcond (by decide)
  · rw [hwrap] at hcond
    omega
