import TofNet.ChunkChain

/-!
# What a round of `readModuleData` does

A round reads a chunk and may take a blob out of it, the CCB or the CFG file,
which it writes into a temporary file. What it reads and which file it makes
depend on the EEPROM, the answers and the files there are, not on the other
members of the object: `walkStep_onto` has the loop of one object in step with
that of another. `walkStep_cases` says what a round changes, and
`files_of_writeBlob` what becomes of the files.
-/

namespace ModuleMemory

/-! ## The two files of a module

The CCB and the CFG file are treated alike by the program, with a flag and a
name for each. So there is one definition with the blob as a parameter, and
`filename`, `badBlob` and `assign` are the members by blob. -/

/-- A blob of a module, of which there is a file: the calibration or the
configuration. -/
inductive Blob where
  | ccb
  | cfg
  deriving DecidableEq

instance : Fintype Blob where
  elems := {.ccb, .cfg}
  complete b := by cases b <;> decide

/-- `ccbFilename` and `cfgFilename`. -/
def filename (s : ModuleMemory) : Blob → Bytes
  | .ccb => s.ccbFilename
  | .cfg => s.cfgFilename

/-- `_badCCB` and `_badCFG`. -/
def badBlob (s : ModuleMemory) : Blob → Bool
  | .ccb => s.badCcb
  | .cfg => s.badCfg

/-- Which of them a chunk has. -/
def blobOf (chunkType : UInt8) : Option Blob :=
  if chunkType = chunkTypeCcb then some .ccb
  else if chunkType = chunkTypeCfg ∨ chunkType = chunkTypeImagerFactoryHeader then some .cfg
  else none

/-- The tag in the name of its file. -/
def Blob.tag : Blob → Bytes
  | .ccb => ascii "ccb"
  | .cfg => ascii "cfg"

/-- `writeTempCCB` and `writeTempCFG`. -/
def writeBlob (env : ModuleEnv) : Blob → Bytes → ℕ → ModuleMemory → Option (Bytes × ModuleMemory)
  | .ccb => writeTempCcb env
  | .cfg => writeTempCfg env

/-- The first `length` bytes of a buffer are written into a file. -/
def IsBlob : Blob → Bytes → ℕ → Prop
  | .ccb, _, length => calFileHeaderSize + calHeaderBlockSize < length
  | .cfg, buffer, length => ccbDataSize ≤ length ∧ cString buffer 0 = some (ascii "CFG")

instance (b : Blob) (buffer : Bytes) (length : ℕ) : Decidable (IsBlob b buffer length) :=
  match b with
  | .ccb => inferInstanceAs (Decidable (_ < _))
  | .cfg => inferInstanceAs (Decidable (_ ∧ _))

/-- A file's name is noted, and that the blob is bad if there is none. -/
def assign (b : Blob) (name : Bytes) (s : ModuleMemory) : ModuleMemory :=
  match b with
  | .ccb => { s with ccbFilename := name, badCcb := s.badCcb || name.isEmpty }
  | .cfg => { s with cfgFilename := name, badCfg := s.badCfg || name.isEmpty }

/-- The object as it is made, before its first call. -/
def fresh (s : ModuleMemory) : ModuleMemory := { files := s.files, requests := s.requests }

/-! ## What a round takes

A round takes a blob if the chunk has one and its checksum is right. Whether it
takes one, and which bytes, is known in front of the round. -/

/-- What a round takes out of the EEPROM to write it into a file. -/
structure Taken where
  /-- Which of the two it is. -/
  blob : Blob
  /-- The chunk. -/
  buffer : Bytes
  /-- How much of it is written. -/
  length : ℕ
  /-- The object, before the file is made. -/
  state : ModuleMemory

/-- The blob in the chunk that the next round reads, if its checksum is right. -/
def taken (env : ModuleEnv) (h : ChunkHeader) (s : ModuleMemory) : Option Taken :=
  if s.isBadChunk = true ∨ h.nextChunkAddress = 0 then none
  else match readChunk env h.nextChunkAddress s with
    | .chunk h buffer s =>
      let length := (payloadSize h.chunkSizeBytes).toNat
      if CrcOk buffer length then (blobOf h.chunktype).map fun b => ⟨b, buffer, length, s⟩
      else none
    | _ => none

/-- The name of the file that it is written into; empty if there is none. -/
def Taken.name (env : ModuleEnv) (t : Taken) : Bytes :=
  (writeBlob env t.blob t.buffer t.length t.state).elim [] Prod.fst

/-- The names that a call has given, the last in front. -/
def noted (env : ModuleEnv) (given : Blob → List Bytes) (h : ChunkHeader) (s : ModuleMemory) :
    Blob → List Bytes :=
  match taken env h s with
  | some t => Function.update given t.blob (t.name env :: given t.blob)
  | none => given

/-- A temporary file that is made is opened. -/
def Opens (env : ModuleEnv) (prefixText : Bytes) (s : ModuleMemory) : Prop :=
  (getTempFilename env prefixText s).1 = [] ∨ env.opens (s.requests + 1) = true

instance (env : ModuleEnv) (prefixText : Bytes) (s : ModuleMemory) :
    Decidable (Opens env prefixText s) :=
  inferInstanceAs (Decidable (_ ∨ _))

/-! ## What a round does

Writing a blob makes a file or it does not; in either case the name is noted,
empty if there is none, and then the blob is bad. -/

variable {env : ModuleEnv} {start s s' m : ModuleMemory} {h h' : ChunkHeader} {buffer : Bytes}
  {given : Blob → List Bytes}

@[simp] theorem files_assign (b : Blob) (name : Bytes) : (s.assign b name).files = s.files := by
  cases b <;> rfl

@[simp] theorem requests_assign (b : Blob) (name : Bytes) :
    (s.assign b name).requests = s.requests := by
  cases b <;> rfl

@[simp] theorem jsonFilename_assign (b : Blob) (name : Bytes) :
    (s.assign b name).jsonFilename = s.jsonFilename := by
  cases b <;> rfl

/-- Noting a name changes the member of the blob, and no other. -/
theorem filename_assign (b c : Blob) (name : Bytes) :
    (s.assign b name).filename c = if c = b then name else s.filename c := by
  cases b <;> cases c <;> rfl

/-- A blob without a name is bad from then on, and a name does not make good
what was bad before. -/
theorem badBlob_assign (b c : Blob) (name : Bytes) :
    (s.assign b name).badBlob c
      = if c = b then s.badBlob c || name.isEmpty else s.badBlob c := by
  cases b <;> cases c <;> rfl

/-- **A blob is written, and its name noted.** What the two branches of the
source have in common is said here once for both, so that no proof below opens
them again. -/
theorem processNvmFirmware_of_blobOf {type : UInt8} {b : Blob} (hb : blobOf type = some b)
    (length : ℕ) : processNvmFirmware env type buffer length s
      = (writeBlob env b buffer length s).map fun r => (true, r.2.assign b r.1) := by
  unfold blobOf at hb
  rw [processNvmFirmware]
  split at hb
  · next hccb =>
    cases hb
    rw [if_pos hccb]
    rfl
  · next hccb =>
    split at hb
    · next hcfg =>
      cases hb
      rw [if_neg hccb, if_pos hcfg]
      rfl
    · cases hb

/-- Of any other chunk nothing is taken; whether it is known is whether its type
is one of those to be ignored. -/
theorem processNvmFirmware_of_none {type : UInt8} (hb : blobOf type = none) (length : ℕ) :
    processNvmFirmware env type buffer length s
      = some (decide (type ∈ ignoredChunkTypes), s) := by
  unfold blobOf at hb
  rw [processNvmFirmware]
  split at hb
  · cases hb
  · next hccb =>
    split at hb
    · cases hb
    · next hcfg => rw [if_neg hccb, if_neg hcfg]

/-! ### The members that no request depends on

Two objects that have made as many requests, with the same files, are answered
alike. So the loop of the one is that of the other, with the members of the one
in place of those of the other (`onto`); this is shown function by function, up
to the round. -/

/-- One object's members, in another one's place. -/
def onto (m s : ModuleMemory) : ModuleMemory :=
  { m with files := s.files, requests := s.requests, isBadChunk := s.isBadChunk }

/-- The chunk that is read, for the other object. -/
def ChunkRead.onto (m : ModuleMemory) : ChunkRead → ChunkRead
  | .chunk h buffer s => .chunk h buffer (ModuleMemory.onto m s)
  | .skipped h s => .skipped h (ModuleMemory.onto m s)
  | .left s => .left (ModuleMemory.onto m s)

/-- The loop, for the other object. -/
def ChunkWalk.onto (m : ModuleMemory) : ChunkWalk → ChunkWalk
  | .walking h s => .walking h (ModuleMemory.onto m s)
  | .left s => .left (ModuleMemory.onto m s)

/-- A read asks the EEPROM, and looks at no member. -/
theorem eepromRead_onto (address size : ℕ) :
    eepromRead env address size (onto m s)
      = ((eepromRead env address size s).1, onto m (eepromRead env address size s).2) :=
  rfl

/-- Neither does that of a header. -/
theorem readChunkHeader_onto (address : UInt32) :
    readChunkHeader env address (onto m s)
      = ((readChunkHeader env address s).1, onto m (readChunkHeader env address s).2) := by
  rw [readChunkHeader, readChunkHeader, eepromRead_onto]
  generalize eepromRead env address.toNat chunkHeaderSize s = r
  obtain ⟨_ | bs, s₁⟩ := r
  · rfl
  · rfl

/-- The data of a chunk is allocated and read as the header and the number of
requests say. -/
theorem readChunkData_onto (address : UInt32) :
    readChunkData env address h (onto m s) = (readChunkData env address h s).onto m := by
  have hrequests : (onto m s).requests = s.requests := rfl
  have hasked : (onto m s).asked = onto m s.asked := rfl
  rw [readChunkData, readChunkData, hrequests, hasked, eepromRead_onto]
  split_ifs
  · rfl
  · rfl
  · rfl
  · generalize eepromRead env (address + h.headerSizeBytes).toNat h.chunkSizeBytes.toNat
      s.asked = r
    obtain ⟨_ | bs, s₁⟩ := r
    · rfl
    · rfl

/-- So the two objects read the same chunk, or stop at the same place. -/
theorem readChunk_onto (address : UInt32) :
    readChunk env address (onto m s) = (readChunk env address s).onto m := by
  rw [readChunk, readChunk, readChunkHeader_onto]
  generalize readChunkHeader env address s = r
  obtain ⟨_ | h₁, s₁⟩ := r
  · rfl
  · exact readChunkData_onto address

/-- The name of a temporary file is made of the answers and the files there
are. -/
theorem getTempFilename_onto (prefixText : Bytes) :
    getTempFilename env prefixText (onto m s)
      = ((getTempFilename env prefixText s).1, onto m (getTempFilename env prefixText s).2) := by
  have hfiles : (onto m s).files = s.files := rfl
  have hrequests : (onto m s).requests = s.requests := rfl
  rw [getTempFilename, getTempFilename, hfiles, hrequests]
  split_ifs
  · rfl
  · rfl

/-- What comes into it, of the name, the contents and the answers. -/
theorem writeFile_onto (name content : Bytes) :
    writeFile env name content (onto m s)
      = ((writeFile env name content s).1, onto m (writeFile env name content s).2) := by
  have hrequests : (onto m s).requests = s.requests := rfl
  rw [writeFile, writeFile, hrequests]
  split_ifs
  · rfl
  · rfl

/-- Both together: the two objects have the same files afterwards. -/
theorem writeToTempFile_onto (data fileTag : Bytes) :
    writeToTempFile env data fileTag (onto m s)
      = ((writeToTempFile env data fileTag s).1,
          onto m (writeToTempFile env data fileTag s).2) := by
  rw [writeToTempFile, writeToTempFile, getTempFilename_onto]
  exact writeFile_onto _ _

/-- The serial number, where a blob has one. -/
def noteSerial (serialNumber : Option Bytes) (s : ModuleMemory) : ModuleMemory :=
  { s with serialNumber := serialNumber.getD s.serialNumber }

/-- **What is written of a buffer**, into a file; whether the accesses to the
buffer stay inside, and the serial number, depend on the buffer only. So there
is one answer `o` for all objects: none if an access is outside, and else the
serial number that is read, if any. -/
theorem writeTempCcb_eq (env : ModuleEnv) (buffer : Bytes) (length : ℕ) :
    ∃ o : Option (Option Bytes), ∀ s, writeTempCcb env buffer length s = o.map fun serialNumber =>
      if IsBlob .ccb buffer length then
        writeToTempFile env (buffer.take length) (ascii "ccb") (noteSerial serialNumber s)
      else ([], s) := by
  by_cases hblock : length ≤ calFileHeaderSize + calHeaderBlockSize
  · have hnot : ¬ IsBlob .ccb buffer length := Nat.not_lt.mpr hblock
    simp only [if_neg hnot]
    -- there is no blob, and the header at most is read
    by_cases hzero : length = 0
    · exact ⟨some none, fun s => if_pos hzero⟩
    · by_cases hheader : length ≤ calFileHeaderSize
      · refine ⟨some none, fun s => ?_⟩
        rw [writeTempCcb, if_neg hzero, ccbReadHeader, if_pos hheader]
        rfl
      · refine ⟨(touch buffer [(0, 2), (0 + 2, 2)]).map fun _ => none, fun s => ?_⟩
        rw [writeTempCcb, if_neg hzero, ccbReadHeader, if_neg hheader, ccbReadHeaderBlock,
          if_pos hblock]
        dsimp only
        cases touch buffer [(0, 2), (0 + 2, 2)]
        · rfl
        · rfl
  · have hblob : IsBlob .ccb buffer length := Nat.not_le.mp hblock
    have hzero : length ≠ 0 := fun h => hblock (h ▸ Nat.zero_le _)
    have hheader : ¬ length ≤ calFileHeaderSize := fun h => hblock (h.trans (Nat.le_add_right _ _))
    simp only [if_pos hblob]
    -- the accesses, in the order in which they are made
    refine ⟨(touch buffer [(0, 2), (0 + 2, 2)]).bind fun _ =>
      (touch buffer [(calFileHeaderSize + 16, 2), (calFileHeaderSize + 18, 1),
        (calFileHeaderSize + 19, 1), (calFileHeaderSize + 26, 2)]).bind fun _ =>
      (cString buffer serialNumberOffset).bind fun serialNumber =>
      (touch buffer [(0, length)]).map fun _ => some serialNumber, fun s => ?_⟩
    rw [writeTempCcb, if_neg hzero, ccbReadHeader, if_neg hheader, ccbReadHeaderBlock,
      if_neg hblock]
    dsimp only
    cases touch buffer [(0, 2), (0 + 2, 2)]
    · rfl
    cases touch buffer [(calFileHeaderSize + 16, 2), (calFileHeaderSize + 18, 1),
      (calFileHeaderSize + 19, 1), (calFileHeaderSize + 26, 2)]
    · rfl
    cases cString buffer serialNumberOffset
    · rfl
    cases touch buffer [(0, length)]
    · rfl
    · rfl

/-- The same for the configuration, which has no serial number; here the
signature decides whether the buffer is one. -/
theorem writeTempCfg_eq (env : ModuleEnv) (buffer : Bytes) (length : ℕ) :
    ∃ o : Option (Option Bytes), ∀ s, writeTempCfg env buffer length s = o.map fun serialNumber =>
      if IsBlob .cfg buffer length then
        writeToTempFile env (buffer.take length) (ascii "cfg") (noteSerial serialNumber s)
      else ([], s) := by
  by_cases hshort : length < ccbDataSize
  · have hnot : ¬ IsBlob .cfg buffer length := fun h => Nat.not_lt.mpr h.1 hshort
    simp only [if_neg hnot]
    exact ⟨some none, fun s => if_pos hshort⟩
  · cases hsignature : cString buffer 0 with
    | none =>
      refine ⟨none, fun s => ?_⟩
      rw [writeTempCfg, if_neg hshort, hsignature]
      rfl
    | some signature =>
      by_cases hcfg : signature = ascii "CFG"
      · have hblob : IsBlob .cfg buffer length :=
          ⟨Nat.not_lt.mp hshort, hsignature.trans (congrArg some hcfg)⟩
        simp only [if_pos hblob]
        refine ⟨(touch buffer [(4, 2), (16, 2), (18, 2), (20, 2), (22, 2)]).bind fun _ =>
          (touch buffer [(0, length)]).map fun _ => none, fun s => ?_⟩
        rw [writeTempCfg, if_neg hshort, hsignature, Option.bind_eq_bind, Option.bind_some,
          if_neg (not_not_intro hcfg)]
        cases touch buffer [(4, 2), (16, 2), (18, 2), (20, 2), (22, 2)]
        · rfl
        cases touch buffer [(0, length)]
        · rfl
        · rfl
      · have hnot : ¬ IsBlob .cfg buffer length := fun h =>
          hcfg (Option.some.inj (hsignature.symm.trans h.2))
        simp only [if_neg hnot]
        refine ⟨some none, fun s => ?_⟩
        rw [writeTempCfg, if_neg hshort, hsignature, Option.bind_eq_bind, Option.bind_some,
          if_pos hcfg]
        rfl

/-- The same for either blob. This is all that the rest of the module uses of
the two writers. -/
theorem writeBlob_eq (env : ModuleEnv) (b : Blob) (buffer : Bytes) (length : ℕ) :
    ∃ o : Option (Option Bytes), ∀ s, writeBlob env b buffer length s = o.map fun serialNumber =>
      if IsBlob b buffer length then
        writeToTempFile env (buffer.take length) b.tag (noteSerial serialNumber s)
      else ([], s) := by
  cases b with
  | ccb => exact writeTempCcb_eq env buffer length
  | cfg => exact writeTempCfg_eq env buffer length

/-- For the other object the same file is made of the same bytes; the serial
number goes into its own member, which is why there is another `m'` behind
it. -/
theorem writeBlob_onto (env : ModuleEnv) (m s : ModuleMemory) (b : Blob) (buffer : Bytes)
    (length : ℕ) :
    ∃ m', writeBlob env b buffer length (onto m s)
      = (writeBlob env b buffer length s).map fun r => (r.1, onto m' r.2) := by
  obtain ⟨o, ho⟩ := writeBlob_eq env b buffer length
  rw [ho, ho]
  cases o with
  | none => exact ⟨m, rfl⟩
  | some serialNumber =>
    by_cases hblob : IsBlob b buffer length
    · refine ⟨noteSerial serialNumber m, ?_⟩
      rw [Option.map_some, Option.map_some, if_pos hblob, if_pos hblob, Option.map_some]
      exact congrArg some (writeToTempFile_onto (m := noteSerial serialNumber m)
        (s := noteSerial serialNumber s) (buffer.take length) b.tag)
    · refine ⟨m, ?_⟩
      rw [Option.map_some, Option.map_some, if_neg hblob, if_neg hblob, Option.map_some]

/-- With the name noted, too. -/
theorem processNvmFirmware_onto (env : ModuleEnv) (m s : ModuleMemory) (type : UInt8)
    (buffer : Bytes) (length : ℕ) :
    ∃ m', processNvmFirmware env type buffer length (onto m s)
      = (processNvmFirmware env type buffer length s).map fun r => (r.1, onto m' r.2) := by
  cases hb : blobOf type with
  | none =>
    refine ⟨m, ?_⟩
    rw [processNvmFirmware_of_none hb, processNvmFirmware_of_none hb]
    rfl
  | some b =>
    obtain ⟨m', hm'⟩ := writeBlob_onto env m s b buffer length
    rw [processNvmFirmware_of_blobOf hb, processNvmFirmware_of_blobOf hb, hm']
    cases writeBlob env b buffer length s with
    | none => exact ⟨m, rfl⟩
    | some r =>
      refine ⟨m'.assign b r.1, ?_⟩
      cases b
      · rfl
      · rfl

/-- The checksum is taken of the chunk alone, so both objects take the blob out
of it or neither does. -/
theorem processChunk_onto (env : ModuleEnv) (m s : ModuleMemory) (h : ChunkHeader)
    (buffer : Bytes) :
    ∃ m', processChunk env h buffer (onto m s) = (processChunk env h buffer s).map (onto m') := by
  rw [processChunk, processChunk]
  dsimp only
  cases blockCrc buffer (payloadSize h.chunkSizeBytes) with
  | none => exact ⟨m, rfl⟩
  | some crc =>
    rw [Option.bind_eq_bind, Option.bind_some, Option.bind_some]
    split_ifs
    · obtain ⟨m', hm'⟩ := processNvmFirmware_onto env m s h.chunktype buffer
        (payloadSize h.chunkSizeBytes).toNat
      refine ⟨m', ?_⟩
      rw [hm']
      cases processNvmFirmware env h.chunktype buffer (payloadSize h.chunkSizeBytes).toNat s with
      | none => rfl
      | some r => rfl
    · exact ⟨m, rfl⟩

/-- **The loop goes on as that of the other object.** The test in front of a
round looks at `isBadChunk`, which `onto` has taken over, and the round at
nothing but what the lemmas above are about. So what a second call of
`readModuleData` reads does not depend on what a first one has left in the
object. -/
theorem walkStep_onto (env : ModuleEnv) (m : ModuleMemory) (w : ChunkWalk) :
    ∃ m', walkStep env (w.onto m) = (walkStep env w).map (ChunkWalk.onto m') := by
  cases w with
  | left s => exact ⟨m, rfl⟩
  | walking h s =>
    have hbad : (onto m s).isBadChunk = s.isBadChunk := rfl
    rw [ChunkWalk.onto, walkStep, walkStep, hbad]
    split_ifs
    · exact ⟨m, rfl⟩
    · rw [chunkRound, chunkRound, readChunk_onto]
      cases readChunk env h.nextChunkAddress s with
      | left s₁ => exact ⟨m, rfl⟩
      | skipped h₁ s₁ => exact ⟨m, rfl⟩
      | chunk h₁ buffer s₁ =>
        obtain ⟨m', hm'⟩ := processChunk_onto env m s₁ h₁ buffer
        refine ⟨m', ?_⟩
        rw [ChunkRead.onto]
        dsimp only
        rw [hm', Option.map_map, Option.map_map]
        rfl

/-- What a round takes is read in the same way, so it is the same for both. -/
theorem taken_onto (m : ModuleMemory) :
    taken env h (onto m s)
      = (taken env h s).map fun t => { t with state := onto m t.state } := by
  have hbad : (onto m s).isBadChunk = s.isBadChunk := rfl
  rw [taken, taken, hbad]
  split_ifs
  · rfl
  · rw [readChunk_onto]
    cases readChunk env h.nextChunkAddress s with
    | left s₁ => rfl
    | skipped h₁ s₁ => rfl
    | chunk h₁ buffer s₁ =>
      rw [ChunkRead.onto]
      dsimp only
      split_ifs
      · rw [Option.map_map]
        rfl
      · rfl

/-- And so are the names that are noted. -/
theorem noted_onto (m : ModuleMemory) : noted env given h (onto m s) = noted env given h s := by
  rw [noted, noted, taken_onto]
  cases taken env h s with
  | none => rfl
  | some t =>
    have hname : ({ t with state := onto m t.state } : Taken).name env = t.name env := by
      obtain ⟨m', hm'⟩ := writeBlob_onto env m t.state t.blob t.buffer t.length
      rw [Taken.name, hm', Taken.name]
      cases writeBlob env t.blob t.buffer t.length t.state with
      | none => rfl
      | some r => rfl
    rw [Option.map_some]
    dsimp only
    rw [hname]

/-! ### What it changes

All that a round does to an object is in two cases, so that an invariant of the
loop has two cases to be shown for. -/

/-- The object at a place of the loop. -/
def ChunkWalk.object : ChunkWalk → ModuleMemory
  | .walking _ s => s
  | .left s => s

/-- The object behind the reading of a chunk. -/
def ChunkRead.object : ChunkRead → ModuleMemory
  | .chunk _ _ s => s
  | .skipped _ s => s
  | .left s => s

/-- Reading a header counts a request, and changes nothing else. -/
theorem readChunkHeader_frame (env : ModuleEnv) (address : UInt32) (s : ModuleMemory) :
    (readChunkHeader env address s).2 = s.asked := by
  rw [readChunkHeader, eepromRead]
  split <;> next heq => exact (Prod.mk.inj heq).2.symm

/-- Reading changes the number of requests, and may find a bad chunk. -/
theorem readChunk_object (env : ModuleEnv) (address : UInt32) (s : ModuleMemory) :
    ∃ bad requests, (readChunk env address s).object
      = { s with isBadChunk := bad, requests := requests } := by
  have hheader := readChunkHeader_frame env address s
  rw [readChunk]
  generalize readChunkHeader env address s = r at hheader
  obtain ⟨_ | h, s₁⟩ := r
  · exact ⟨true, s.requests + 1, congrArg bad hheader⟩
  · dsimp only at hheader ⊢
    rw [readChunkData, hheader, eepromRead]
    split_ifs
    · exact ⟨_, _, rfl⟩
    · exact ⟨_, _, rfl⟩
    · exact ⟨_, _, rfl⟩
    · exact ⟨_, _, rfl⟩
    · exact ⟨_, _, rfl⟩

/-- **A round** takes nothing, and then changes no more than that; or it takes a
blob, and gives the name of its file. The second case says where the blob is
written from and into which object, so that what is shown of `writeBlob` can be
used for it as it is. -/
theorem walkStep_cases {w : ChunkWalk} (hstep : walkStep env (.walking h s) = some w) :
    (taken env h s = none
        ∧ ∃ bad requests, w.object = { s with isBadChunk := bad, requests := requests })
      ∨ ∃ t s₂ bad, taken env h s = some t
        ∧ (∃ requests, t.state = { s with requests := requests })
        ∧ writeBlob env t.blob t.buffer t.length t.state = some (t.name env, s₂)
        ∧ w.object = { s₂.assign t.blob (t.name env) with isBadChunk := bad } := by
  rw [walkStep] at hstep
  rw [taken]
  split_ifs at hstep ⊢ with htest
  · cases hstep
    exact .inl ⟨rfl, s.isBadChunk, s.requests, rfl⟩
  · obtain ⟨bad, requests, hobject⟩ := readChunk_object env h.nextChunkAddress s
    rw [chunkRound] at hstep
    cases hread : readChunk env h.nextChunkAddress s with
    | left s₁ =>
      rw [hread] at hstep hobject
      cases hstep
      exact .inl ⟨rfl, bad, requests, hobject⟩
    | skipped h₁ s₁ =>
      rw [hread] at hstep hobject
      cases hstep
      exact .inl ⟨rfl, bad, requests, hobject⟩
    | chunk h₁ buffer s₁ =>
      obtain ⟨requests, rfl⟩ := readChunk_frame hread
      rw [hread] at hstep
      obtain ⟨s₂, hprocess, rfl⟩ := Option.map_eq_some_iff.mp hstep
      obtain ⟨crc, r, hcrc, hr, rfl⟩ := processChunk_cases hprocess
      -- the chunk has been read, and its checksum taken
      have hcrcOk : CrcOk buffer (payloadSize h₁.chunkSizeBytes).toNat
          ↔ crcFast (buffer.take (payloadSize h₁.chunkSizeBytes).toNat) true = crc
            ∨ crcFast (buffer.take (payloadSize h₁.chunkSizeBytes).toNat) false = crc := by
        rw [blockCrc] at hcrc
        split at hcrc
        · rw [← Option.some.inj hcrc]
          exact Iff.rfl
        · cases hcrc
      simp only [hcrcOk]
      split_ifs at hr ⊢
      · cases hb : blobOf h₁.chunktype with
        | none =>
          rw [processNvmFirmware_of_none hb] at hr
          cases hr
          exact .inl ⟨rfl, _, requests, rfl⟩
        | some b =>
          rw [processNvmFirmware_of_blobOf hb] at hr
          obtain ⟨written, hwritten, rfl⟩ := Option.map_eq_some_iff.mp hr
          let t : Taken :=
            ⟨b, buffer, (payloadSize h₁.chunkSizeBytes).toNat, { s with requests := requests }⟩
          have hname : t.name env = written.1 := by
            rw [Taken.name, hwritten]
            rfl
          refine .inr ⟨t, written.2, (written.2.isBadChunk || !true)
            && h₁.chunktype ≠ chunkTypeFirmwareFactoryHeader
            && h₁.chunktype ≠ chunkTypeFirmwareUpgradeHeader, rfl, ⟨requests, rfl⟩, ?_, ?_⟩
          · rw [hname]
            exact hwritten
          · rw [hname]
            cases b
            · rfl
            · rfl
      · cases hr
        exact .inl ⟨rfl, _, requests, rfl⟩

/-! ### New files

A temporary file has a name that no file has. What becomes of the files when a
blob is written is therefore that there is one more, or that nothing has
changed. -/

/-- Where there is no name, as `mkstemp` has failed or gives one of a file there
is, nothing is made. -/
theorem getTempFilename_of_nil {prefixText : Bytes}
    (hnil : (getTempFilename env prefixText s).1 = []) :
    getTempFilename env prefixText s = ([], s.asked) := by
  rw [getTempFilename] at hnil ⊢
  split_ifs at hnil ⊢ with htest
  · rfl
  · exact absurd (.inl hnil) htest

/-- Where there is one, no file had it, and now there is an empty file of that
name. -/
theorem getTempFilename_of_ne {prefixText : Bytes}
    (hne : (getTempFilename env prefixText s).1 ≠ []) :
    s.files (getTempFilename env prefixText s).1 = none
      ∧ (getTempFilename env prefixText s).2
        = s.asked.setFile (getTempFilename env prefixText s).1 (some []) := by
  rw [getTempFilename] at hne ⊢
  split_ifs at hne ⊢ with htest
  · exact absurd rfl hne
  · rw [not_or, Option.not_isSome_iff_eq_none] at htest
    exact ⟨htest.2, rfl⟩

/-- No file is made. -/
theorem newFile_of_nil {prefixText : Bytes} (hnil : (getTempFilename env prefixText s).1 = [])
    (content : Bytes) :
    writeFile env (getTempFilename env prefixText s).1 content (getTempFilename env prefixText s).2
      = ([], s.asked.asked) := by
  rw [getTempFilename_of_nil hnil, writeFile, if_pos (.inl rfl)]

/-- **A file is made and written**, under a name that there was no file of. -/
theorem newFile_of_ne {prefixText : Bytes} (hne : (getTempFilename env prefixText s).1 ≠ [])
    (hopens : env.opens (s.requests + 1) = true) (content : Bytes) :
    writeFile env (getTempFilename env prefixText s).1 content (getTempFilename env prefixText s).2
      = ((getTempFilename env prefixText s).1,
          s.asked.asked.setFile (getTempFilename env prefixText s).1
            (some (content.take (content.length - env.loses (s.requests + 1))))) := by
  obtain ⟨-, hstate⟩ := getTempFilename_of_ne hne
  rw [hstate]
  generalize (getTempFilename env prefixText s).1 = name at hne
  have htest : ¬ (name = [] ∨ env.opens (s.requests + 1) = false) := by
    rw [hopens]
    simpa using hne
  rw [writeFile]
  refine (if_neg htest).trans ?_
  simp only [setFile, asked, Function.update_idem]

/-- **What becomes of the files when a blob is written**: there is one more, of
the name that is given, or none. The condition is that the new file can be
opened, if it is made: the source writes through a stream of its own behind
`mkstemp`, and if this one cannot be opened, an empty file is left of which
nothing is noted. -/
theorem files_of_writeBlob {b : Blob} {length : ℕ} {name : Bytes} {s₂ : ModuleMemory}
    (hopens : IsBlob b buffer length → Opens env (ascii "adi_tof_" ++ b.tag) s)
    (hwrite : writeBlob env b buffer length s = some (name, s₂)) :
    (name = [] ∧ s₂.files = s.files)
      ∨ (name ≠ [] ∧ s.files name = none
        ∧ ∃ content, s₂.files = Function.update s.files name (some content)) := by
  obtain ⟨o, ho⟩ := writeBlob_eq env b buffer length
  rw [ho] at hwrite
  obtain ⟨serialNumber, -, hresult⟩ := Option.map_eq_some_iff.mp hwrite
  by_cases hblob : IsBlob b buffer length
  · rw [if_pos hblob, writeToTempFile] at hresult
    have htemp : (getTempFilename env (ascii "adi_tof_" ++ b.tag) (noteSerial serialNumber s)).1
        = (getTempFilename env (ascii "adi_tof_" ++ b.tag) s).1 := by
      have honto : noteSerial serialNumber s = onto (noteSerial serialNumber s) s := rfl
      rw [honto, getTempFilename_onto]
    by_cases hnil : (getTempFilename env (ascii "adi_tof_" ++ b.tag) s).1 = []
    · refine .inl ?_
      dsimp only at hresult
      rw [newFile_of_nil (htemp.trans hnil)] at hresult
      cases hresult
      exact ⟨rfl, rfl⟩
    · refine .inr ?_
      have hne := htemp.symm ▸ hnil
      dsimp only at hresult
      rw [newFile_of_ne hne ((hopens hblob).resolve_left hnil)] at hresult
      cases hresult
      exact ⟨hne, (getTempFilename_of_ne hne).1, _, rfl⟩
  · rw [if_neg hblob] at hresult
    cases hresult
    exact .inl ⟨rfl, rfl⟩

end ModuleMemory
