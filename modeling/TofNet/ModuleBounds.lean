import TofNet.ModuleImage

/-!
# How far `readModuleData` reads

The sizes that `readModuleData` computes with come from the EEPROM. Every chunk
that it reads is in a buffer of `chunkSizeBytes` bytes, and the payload is what
is in front of the last four. A chunk of less has no payload, and a payload
that an `int` does not hold has a negative size; and the strings in a CCB and
in a CFG file end where a zero is, which may be behind the buffer.

`Bounded` is what a chunk needs, and the reads stay inside of the buffers
exactly where every chunk that is come to has it.

An access outside of a buffer is a read without a result, and so the statement
is about which functions have one. For each function there is an equivalence,
with the accesses that it makes on its way; these depend on what it has read
before, so that the condition on a chunk has implications in it (`Bounded`).
-/

namespace ModuleMemory

/-- One of the two checksums of a chunk is right. -/
def CrcOk (buffer : Bytes) (payload : ℕ) : Prop :=
  crcFast (buffer.take payload) true = get32 payload buffer
    ∨ crcFast (buffer.take payload) false = get32 payload buffer

/-- **What a chunk needs**: a payload, of which an `int` holds the size; and
where its checksum is right, for a CCB that has its header block, an end of the
serial number, and for a CFG file that is not too short, an end of the
signature and the whole header if it is the right one. -/
structure Bounded (h : ChunkHeader) (buffer : Bytes) : Prop where
  /-- There is a payload, and an `int` holds its size. -/
  size : 4 ≤ h.chunkSizeBytes.toNat ∧ h.chunkSizeBytes.toNat < 2 ^ 31 + 4
  /-- A CCB that is looked into has an end of its serial number. -/
  ccb : CrcOk buffer (h.chunkSizeBytes.toNat - 4) → h.chunktype = chunkTypeCcb →
    256 < h.chunkSizeBytes.toNat - 4 → (0 : UInt8) ∈ buffer.drop serialNumberOffset
  /-- A CFG file that is looked into has an end of its signature, and its
  header. -/
  cfg : CrcOk buffer (h.chunkSizeBytes.toNat - 4) →
    h.chunktype = chunkTypeCfg ∨ h.chunktype = chunkTypeImagerFactoryHeader →
    16 ≤ h.chunkSizeBytes.toNat - 4 →
      (0 : UInt8) ∈ buffer
        ∧ (buffer.takeWhile (· ≠ 0) = ascii "CFG" → 24 ≤ h.chunkSizeBytes.toNat)

variable {env : ModuleEnv} {s : ModuleMemory} {h : ChunkHeader} {buffer : Bytes}

/-! ## The accesses of each function

The two functions that take a chunk apart read its header and then a string in
it. A string has a result if there is a zero in what is left of the buffer. -/

theorem touch_isSome_iff {fields : List (ℕ × ℕ)} :
    (touch buffer fields).isSome ↔ ∀ f ∈ fields, f.1 + f.2 ≤ buffer.length := by
  rw [touch]
  split <;> simp_all

theorem cString_isSome_iff {off : ℕ} :
    (cString buffer off).isSome ↔ (0 : UInt8) ∈ buffer.drop off := by
  rw [cString]
  split <;> simp_all

theorem touch_eq_some {fields : List (ℕ × ℕ)} (h : ∀ f ∈ fields, f.1 + f.2 ≤ buffer.length) :
    touch buffer fields = some () := if_pos h

/-- What `writeTempCCB` needs. -/
theorem writeTempCcb_isSome_iff {length : ℕ} (hlength : length ≤ buffer.length) :
    (writeTempCcb env buffer length s).isSome
      ↔ (256 < length → (0 : UInt8) ∈ buffer.drop serialNumberOffset) := by
  rw [writeTempCcb]
  split
  · simp_all
  · have hall : touch buffer [(0, length)] = some () := touch_eq_some (by simpa using hlength)
    by_cases hheader : length ≤ calFileHeaderSize
    · have hshort : ¬ 256 < length := by
        simp only [calFileHeaderSize] at hheader
        omega
      simp [ccbReadHeader, hheader, hshort]
    · have hfields : touch buffer [(0, 2), (0 + 2, 2)] = some () := by
        refine touch_eq_some fun f hf => ?_
        have hbound : ∀ f ∈ [(0, 2), (0 + 2, 2)], f.1 + f.2 ≤ 4 := by decide
        have hf' := hbound f hf
        simp only [calFileHeaderSize] at hheader
        omega
      by_cases hblock : length ≤ calFileHeaderSize + calHeaderBlockSize
      · have hshort : ¬ 256 < length := by
          simp only [calFileHeaderSize, calHeaderBlockSize] at hblock
          omega
        simp [ccbReadHeader, ccbReadHeaderBlock, hheader, hblock, hfields, hshort]
      · have hlong : 256 < length := by
          simp only [calFileHeaderSize, calHeaderBlockSize] at hblock
          omega
        have hblockFields : touch buffer [(calFileHeaderSize + 16, 2), (calFileHeaderSize + 18, 1),
            (calFileHeaderSize + 19, 1), (calFileHeaderSize + 26, 2)] = some () := by
          refine touch_eq_some fun f hf => ?_
          have hbound : ∀ f ∈ [(calFileHeaderSize + 16, 2), (calFileHeaderSize + 18, 1),
            (calFileHeaderSize + 19, 1), (calFileHeaderSize + 26, 2)], f.1 + f.2 ≤ 256 := by decide
          have hf' := hbound f hf
          omega
        simp only [ccbReadHeader, if_neg hheader, ccbReadHeaderBlock, if_neg hblock, hfields,
          hblockFields, hall, bind, Option.bind_some, hlong, forall_const, ← cString_isSome_iff]
        cases cString buffer serialNumberOffset <;> simp

/-- What `writeTempCFG` needs. -/
theorem writeTempCfg_isSome_iff {length : ℕ} (hlength : length ≤ buffer.length) :
    (writeTempCfg env buffer length s).isSome
      ↔ (16 ≤ length → (0 : UInt8) ∈ buffer
        ∧ (buffer.takeWhile (· ≠ 0) = ascii "CFG" → 24 ≤ buffer.length)) := by
  rw [writeTempCfg]
  split
  · rename_i hshort
    have hnot : ¬ 16 ≤ length := Nat.not_le.mpr hshort
    simp [hnot]
  · rename_i hlong
    have hall : touch buffer [(0, length)] = some () := touch_eq_some (by simpa using hlength)
    have hsixteen : 16 ≤ length := Nat.le_of_not_lt hlong
    have hheader : (touch buffer [(4, 2), (16, 2), (18, 2), (20, 2), (22, 2)]).isSome
        ↔ 24 ≤ buffer.length := by
      have hbound : ∀ f ∈ [(4, 2), (16, 2), (18, 2), (20, 2), (22, 2)], f.1 + f.2 ≤ 24 := by decide
      exact touch_isSome_iff.trans
        ⟨fun h => h (22, 2) (by simp), fun h f hf => (hbound f hf).trans h⟩
    rw [forall_prop_of_true hsixteen, ← hheader]
    by_cases hzero : (0 : UInt8) ∈ buffer
    · have hsignature : cString buffer 0 = some (buffer.takeWhile (· ≠ 0)) := by
        rw [cString, List.drop_zero, if_pos hzero]
      generalize buffer.takeWhile (· ≠ 0) = signature at hsignature ⊢
      by_cases hcfg : signature = ascii "CFG"
      · simp only [hsignature, hcfg, bind, Option.bind_some, ne_eq, not_true_eq_false, if_false,
          hall, hzero, true_and, forall_const]
        cases touch buffer [(4, 2), (16, 2), (18, 2), (20, 2), (22, 2)] <;> simp
      · simp [hsignature, hcfg, hzero]
    · have hnone : cString buffer 0 = none := by
        rw [cString, List.drop_zero, if_neg hzero]
      simp [hnone, hzero]

/-! ## A chunk

Whether the data of a chunk is looked at depends on its checksum, and that is
computed over a payload of a size that an `int` must hold and that must not be
negative. -/

/-- Where the size of the payload is what it is meant to be. -/
theorem payloadSize_nonneg_iff (n : UInt32) :
    0 ≤ payloadSize n ↔ 4 ≤ n.toNat ∧ n.toNat < 2 ^ 31 + 4 := by
  have hlt := n.toNat_lt
  rw [payloadSize, Int.bmod_def]
  omega

theorem payloadSize_eq {n : UInt32} (h : 4 ≤ n.toNat ∧ n.toNat < 2 ^ 31 + 4) :
    payloadSize n = (n.toNat - 4 : ℕ) := by
  rw [payloadSize, Int.bmod_def]
  omega

theorem processNvmFirmware_isSome_iff {type : UInt8} {payload : ℕ}
    (hpayload : payload ≤ buffer.length) :
    (processNvmFirmware env type buffer payload s).isSome
      ↔ (type = chunkTypeCcb → 256 < payload → (0 : UInt8) ∈ buffer.drop serialNumberOffset)
        ∧ (type = chunkTypeCfg ∨ type = chunkTypeImagerFactoryHeader → 16 ≤ payload →
          (0 : UInt8) ∈ buffer
            ∧ (buffer.takeWhile (· ≠ 0) = ascii "CFG" → 24 ≤ buffer.length)) := by
  rw [processNvmFirmware]
  split
  · rename_i hccb
    have hnot : ¬ (type = chunkTypeCfg ∨ type = chunkTypeImagerFactoryHeader) := by
      rw [hccb]
      decide
    rw [Option.isSome_map, writeTempCcb_isSome_iff hpayload]
    exact ⟨fun h => ⟨fun _ => h, fun hcfg => absurd hcfg hnot⟩, fun h => h.1 hccb⟩
  · rename_i hccb
    split
    · rename_i hcfg
      rw [Option.isSome_map, writeTempCfg_isSome_iff hpayload]
      exact ⟨fun h => ⟨fun h' => absurd h' hccb, fun _ => h⟩, fun h => h.2 hcfg⟩
    · rename_i hcfg
      exact ⟨fun _ => ⟨fun h' => absurd h' hccb, fun h' => absurd h' hcfg⟩, fun _ => rfl⟩

/-- **A chunk is gone through inside of its buffer** where it has what it
needs, and only there. -/
theorem processChunk_isSome_iff (hlength : buffer.length = h.chunkSizeBytes.toNat) :
    (processChunk env h buffer s).isSome ↔ Bounded h buffer := by
  by_cases hsize : 4 ≤ h.chunkSizeBytes.toNat ∧ h.chunkSizeBytes.toNat < 2 ^ 31 + 4
  · have hpayload := payloadSize_eq hsize
    set payload : ℕ := h.chunkSizeBytes.toNat - 4 with hpayloadNat
    have hroom : payload + 4 = buffer.length := by omega
    have hcrc : blockCrc buffer (payloadSize h.chunkSizeBytes) = some (get32 payload buffer) := by
      rw [hpayload, blockCrc, if_pos ⟨by omega, by omega⟩, Int.toNat_natCast]
    have hsome : (processChunk env h buffer s).isSome
        ↔ (CrcOk buffer payload →
          (processNvmFirmware env h.chunktype buffer payload s).isSome) := by
      rw [processChunk, hcrc, hpayload, Int.toNat_natCast]
      by_cases hok : CrcOk buffer payload
      · have hok' : crcFast (buffer.take payload) true = get32 payload buffer
            ∨ crcFast (buffer.take payload) false = get32 payload buffer := hok
        simp only [bind, Option.bind_some, hok', if_true, hok, forall_const]
        cases processNvmFirmware env h.chunktype buffer payload s <;> simp
      · have hok' : ¬ (crcFast (buffer.take payload) true = get32 payload buffer
            ∨ crcFast (buffer.take payload) false = get32 payload buffer) := hok
        simp [hok', hok]
    rw [hsome, processNvmFirmware_isSome_iff (by omega)]
    constructor
    · intro hall
      exact ⟨hsize, fun hok => (hall hok).1, fun hok htype hlong =>
        hlength ▸ (hall hok).2 htype hlong⟩
    · intro hbounded hok
      exact ⟨hbounded.ccb hok, fun htype hlong => hlength ▸ hbounded.cfg hok htype hlong⟩
  · have hnegative : ¬ 0 ≤ payloadSize h.chunkSizeBytes :=
      fun hpos => hsize ((payloadSize_nonneg_iff _).mp hpos)
    have hnone : blockCrc buffer (payloadSize h.chunkSizeBytes) = none :=
      if_neg fun hok => hnegative hok.1
    rw [processChunk, hnone]
    exact ⟨fun hsome => absurd hsome (by simp), fun hbounded => absurd hbounded.size hsize⟩

/-! ## The walk

A chunk is come to if some number of rounds leads to it. The buffer is as long
as the header says, whatever the header says; so the walk stays inside exactly
if every chunk that it comes to has what it needs. -/

/-- The buffer of a chunk is as long as its header says. -/
theorem length_of_readChunk {address : UInt32} {s' : ModuleMemory}
    (hread : readChunk env address s = .chunk h buffer s') :
    buffer.length = h.chunkSizeBytes.toNat := by
  have hdata : ∀ {h₀ : ChunkHeader} {s₀ : ModuleMemory},
      readChunkData env address h₀ s₀ = .chunk h buffer s' →
        buffer.length = h.chunkSizeBytes.toNat := by
    intro h₀ s₀ hchunk
    rw [readChunkData] at hchunk
    split at hchunk
    · cases hchunk
    · split at hchunk
      · cases hchunk
      · split at hchunk
        · cases hchunk
        · rw [eepromRead] at hchunk
          split at hchunk
          · rename_i bs s₁ heq
            obtain ⟨hslice, -⟩ := Prod.mk.inj heq
            cases hchunk
            split at hslice
            · cases hslice
            · rename_i hroom
              obtain rfl := Option.some.inj hslice
              have hin : ¬ env.eeprom.length < _ := fun hlt => hroom (Or.inr hlt)
              rw [slice, List.length_take, List.length_drop]
              omega
          · cases hchunk
  rw [readChunk] at hread
  split at hread
  · cases hread
  · exact hdata hread

/-- **`readModuleData` comes to a chunk**: it is the one that the next round
reads, after some rounds. -/
def Reads (env : ModuleEnv) (s : ModuleMemory) (h : ChunkHeader) (buffer : Bytes) : Prop :=
  ∃ h₀ s₀, startWalk env s = (some h₀, s₀) ∧
    ∃ n h₁ s₁, walk env n (.walking h₀ s₀) = some (.walking h₁ s₁)
      ∧ s₁.isBadChunk = false ∧ h₁.nextChunkAddress ≠ 0
      ∧ ∃ s₂, readChunk env h₁.nextChunkAddress s₁ = .chunk h buffer s₂

/-- **The accesses stay inside of the buffers**, whatever the number of
rounds. -/
def StaysInside (env : ModuleEnv) (s : ModuleMemory) : Prop :=
  ∀ h₀ s₀, startWalk env s = (some h₀, s₀) → ∀ n, (walk env n (.walking h₀ s₀)).isSome

/-- A round goes outside where the chunk that it reads does not have what it
needs. -/
theorem walkStep_isSome_iff {h₁ : ChunkHeader} {s₁ : ModuleMemory} :
    (walkStep env (.walking h₁ s₁)).isSome
      ↔ (s₁.isBadChunk = false → h₁.nextChunkAddress ≠ 0 →
        ∀ h buffer s₂, readChunk env h₁.nextChunkAddress s₁ = .chunk h buffer s₂ →
          Bounded h buffer) := by
  rw [walkStep]
  split
  · rename_i htest
    refine ⟨fun _ hgood hnext => absurd htest ?_, fun _ => rfl⟩
    rw [hgood]
    simpa using hnext
  · rename_i htest
    have hgood : s₁.isBadChunk = false := by
      cases hbad : s₁.isBadChunk with
      | false => rfl
      | true => exact absurd (Or.inl hbad) htest
    have hnext : h₁.nextChunkAddress ≠ 0 := fun hzero => htest (Or.inr hzero)
    rw [forall_prop_of_true hgood, forall_prop_of_true hnext, chunkRound]
    cases hread : readChunk env h₁.nextChunkAddress s₁ with
    | chunk h buffer s₂ =>
      rw [Option.isSome_map, processChunk_isSome_iff (length_of_readChunk hread)]
      refine ⟨fun hbounded h' buffer' s' heq => ?_, fun hall => hall h buffer s₂ rfl⟩
      cases heq
      exact hbounded
    | skipped h s₂ => exact ⟨fun _ _ _ _ heq => (by cases heq), fun _ => rfl⟩
    | left s₂ => exact ⟨fun _ _ _ _ heq => (by cases heq), fun _ => rfl⟩

/-- **`readModuleData` stays inside of its buffers** where every chunk that it
comes to has what it needs, and only there.

Which chunks it comes to depends on the EEPROM, on what fails, and on the chunks
before, and `Reads` says of a header and a buffer that the walk gets to them. Of
a chunk that is not read nothing is asked. For the other direction a chunk that
lacks something is followed to the access that has no result. -/
theorem staysInside_iff (env : ModuleEnv) (s : ModuleMemory) :
    StaysInside env s ↔ ∀ h buffer, Reads env s h buffer → Bounded h buffer := by
  constructor
  · rintro hinside h buffer ⟨h₀, s₀, hstart, n, h₁, s₁, hwalk, hgood, hnext, s₂, hread⟩
    have hround : (walkStep env (.walking h₁ s₁)).isSome := by
      have hsome := hinside h₀ s₀ hstart (n + 1)
      rw [walk_add, hwalk, Option.bind_some, walk] at hsome
      cases hstep : walkStep env (.walking h₁ s₁) with
      | none =>
        rw [hstep] at hsome
        cases hsome
      | some w => rfl
    exact walkStep_isSome_iff.mp hround hgood hnext h buffer s₂ hread
  · intro hbounded h₀ s₀ hstart n
    induction n with
    | zero => rfl
    | succ n ih =>
      obtain ⟨w, hw⟩ := Option.isSome_iff_exists.mp ih
      have hstep : (walkStep env w).isSome := by
        cases w with
        | left s₁ => rfl
        | walking h₁ s₁ =>
          exact walkStep_isSome_iff.mpr fun hgood hnext h buffer s₂ hread =>
            hbounded h buffer ⟨h₀, s₀, hstart, n, h₁, s₁, hw, hgood, hnext, s₂, hread⟩
      obtain ⟨w', hw'⟩ := Option.isSome_iff_exists.mp hstep
      rw [walk_add, hw, Option.bind_some, walk, hw']
      rfl

/-! ## A chunk of one byte -/

/-- A chunk that has a valid header, and one byte. -/
def oneByteHeader : ChunkHeader :=
  let header : ChunkHeader :=
    { chunkid := 0xAD, chunktype := 0x50, major := 1, minor := 0, headerSizeBytes := 20,
      chunkSizeBytes := 1, nextChunkAddress := 0 }
  { header with chunkHeaderCrc := crcFast header.front true }

/-- An EEPROM with that chunk. -/
def oneByteEnv : ModuleEnv :=
  { goodEnv with eeprom := fileHeader.encode ++ (oneByteHeader.encode ++ [0]) }

/-- **The checksum of a chunk of one byte is looked for in front of it.** -/
theorem not_staysInside_one_byte :
    ¬ ∀ (env : ModuleEnv) (files : Files), StaysInside env { files := files } := by
  intro h
  have hinside := h oneByteEnv fun _ => none
  have hstart : (startWalk oneByteEnv { files := fun _ => none }).1 = some fileHeader := by
    decide +kernel
  have hround : (walk oneByteEnv 1 (.walking fileHeader
      (startWalk oneByteEnv { files := fun _ => none }).2)).isSome = false := by
    decide +kernel
  have hpair : startWalk oneByteEnv { files := fun _ => none }
      = (some fileHeader, (startWalk oneByteEnv { files := fun _ => none }).2) := by
    rw [← hstart]
  have hsome := hinside fileHeader _ hpair 1
  rw [hround] at hsome
  cases hsome

end ModuleMemory
