import TofNet.DirectConfig
import TofNet.JsonText

/-!
# The memory of a camera module

A module keeps its calibration in an EEPROM, as a list of chunks: a header
with the address of the next, the data, and a checksum of either.
`ModuleMemory` writes such an image from a CCB and a CFG file, and reads any
into temporary files, with a JSON file that names them.

`readModuleData` goes through the list in a loop, a round of which is
`chunkRound`. It computes with the sizes that it finds, and where an access
goes outside of the buffer of the chunk nothing can be said of what happens;
the round has no result then. The reads of the EEPROM, the allocations, and
what becomes of a temporary file are answered by the outside, request by
request.
-/

/-! ## The checksum

The table is made as one makes it, of the polynomial; that it is the table of
the source is shown in `CrcDivision`. -/

/-- An entry of `crcTable`. -/
def crcTable (i : UInt8) : UInt32 :=
  (fun r : UInt32 => if r &&& 0x80000000 = 0 then r <<< 1 else (r <<< 1) ^^^ 0x04C11DB7)^[8]
    (i.toUInt32 <<< 24)

/-- `reflect`, of the eight bits of a byte. -/
def reflect (data : UInt8) : UInt8 :=
  (List.range 8).foldl
    (fun r i =>
      if (data >>> UInt8.ofNat i) &&& 1 = 0 then r else r ||| (1 <<< UInt8.ofNat (7 - i))) 0

/-- A byte of the message. -/
def crcStep (isMirrored : Bool) (remainder : UInt32) (byte : UInt8) : UInt32 :=
  crcTable ((if isMirrored then reflect byte else byte) ^^^ (remainder >>> 24).toUInt8)
    ^^^ (remainder <<< 8)

/-- **`crcFast`**. -/
def crcFast (message : Bytes) (isMirrored : Bool) : UInt32 :=
  message.foldl (crcStep isMirrored) 0xFFFFFFFF ^^^ 0xFFFFFFFF

/-! ## Chunks

A header has 20 bytes, of which the last four are its checksum. It has the
address of the next chunk, the number of bytes of data, and a type. -/

/-- **`TOF_ChunkHeader_t`**. -/
structure ChunkHeader where
  chunkid : UInt8 := 0
  chunktype : UInt8 := 0
  major : UInt8 := 0
  minor : UInt8 := 0
  headerSizeBytes : UInt32 := 0
  chunkSizeBytes : UInt32 := 0
  nextChunkAddress : UInt32 := 0
  chunkHeaderCrc : UInt32 := 0
  deriving DecidableEq

/-- `sizeof(TOF_ChunkHeader_t)`. -/
def chunkHeaderSize : ℕ := 20

namespace ChunkHeader

/-- `TOF_ChunkVersion_t`. -/
def revision (h : ChunkHeader) : Bytes := [h.chunkid, h.chunktype, h.major, h.minor]

/-- The header without its checksum. -/
def front (h : ChunkHeader) : Bytes :=
  h.revision ++
    (le32 h.headerSizeBytes ++ (le32 h.chunkSizeBytes ++ le32 h.nextChunkAddress))

/-- The header in memory. -/
def encode (h : ChunkHeader) : Bytes := h.front ++ le32 h.chunkHeaderCrc

/-- The header that memory is. -/
def decode (bs : Bytes) : ChunkHeader where
  chunkid := bs.getD 0 0
  chunktype := bs.getD 1 0
  major := bs.getD 2 0
  minor := bs.getD 3 0
  headerSizeBytes := get32 4 bs
  chunkSizeBytes := get32 8 bs
  nextChunkAddress := get32 12 bs
  chunkHeaderCrc := get32 16 bs

@[simp] theorem length_revision (h : ChunkHeader) : h.revision.length = 4 := rfl

@[simp] theorem length_front (h : ChunkHeader) : h.front.length = 16 := by simp [front]

@[simp] theorem length_encode (h : ChunkHeader) : h.encode.length = chunkHeaderSize := by
  simp [encode]
  rfl

/-- **A header is read back**, whatever is behind it. -/
@[simp] theorem decode_encode_append (h : ChunkHeader) (post : Bytes) :
    decode (h.encode ++ post) = h := by
  have hrevision : ∀ i < 4, (h.encode ++ post).getD i 0 = h.revision.getD i 0 := by
    intro i hi
    rw [encode, front, List.append_assoc, List.append_assoc, List.getD_eq_getElem?_getD,
      List.getElem?_append_left hi, ← List.getD_eq_getElem?_getD]
  rw [decode, hrevision 0 (by omega), hrevision 1 (by omega), hrevision 2 (by omega),
    hrevision 3 (by omega)]
  have hfields : ∀ off, 4 ≤ off → get32 off (h.encode ++ post)
      = get32 (off - 4) (le32 h.headerSizeBytes ++ (le32 h.chunkSizeBytes ++
          (le32 h.nextChunkAddress ++ (le32 h.chunkHeaderCrc ++ post)))) := by
    intro off hoff
    rw [encode, front]
    simp only [List.append_assoc]
    exact get32_skip hoff
  rw [hfields 4 (by omega), hfields 8 (by omega), hfields 12 (by omega), hfields 16 (by omega)]
  simp
  rfl

/-- Its checksum covers the rest of it. -/
theorem take_encode_append (h : ChunkHeader) (post : Bytes) :
    (h.encode ++ post).take 16 = h.front := by
  rw [encode, List.append_assoc, List.take_left' h.length_front]

end ChunkHeader

/-- **`verifyChunkHeader`**, of a header in memory. -/
def verifyChunkHeader (bs : Bytes) : Bool :=
  let h := ChunkHeader.decode bs
  h.major = 1 && h.minor = 0 && h.headerSizeBytes = 20
    && (crcFast (bs.take 16) true = h.chunkHeaderCrc
      || crcFast (bs.take 16) false = h.chunkHeaderCrc)

/-- `CHUNK_TYPE_CCB`. -/
def chunkTypeCcb : UInt8 := 1

/-- `CHUNK_TYPE_CFG`. -/
def chunkTypeCfg : UInt8 := 2

/-- `CHUNK_TYPE_FILE_HEADER`. -/
def chunkTypeFileHeader : UInt8 := 0x3D

/-- `CHUNK_TYPE_INIT_FIRMWARE_HEADER`. -/
def chunkTypeInitFirmwareHeader : UInt8 := 0x52

/-- `CHUNK_TYPE_ADSD3500_FIRMWARE_FACTORY_HEADER`. -/
def chunkTypeFirmwareFactoryHeader : UInt8 := 0x53

/-- `CHUNK_TYPE_ADSD3500_FIRMWARE_CURRENT_HEADER`. -/
def chunkTypeFirmwareCurrentHeader : UInt8 := 0x54

/-- `CHUNK_TYPE_ADSD3500_FIRMWARE_UPGRADE_HEADER`. -/
def chunkTypeFirmwareUpgradeHeader : UInt8 := 0x55

/-- `CHUNK_TYPE_IMAGER_FIRMWARE_FACTORY_HEADER`. -/
def chunkTypeImagerFactoryHeader : UInt8 := 0x56

/-- The types `processNVMFirmware` knows and does nothing for. -/
def ignoredChunkTypes : List UInt8 :=
  [0x50, 0x51, chunkTypeInitFirmwareHeader, chunkTypeFirmwareFactoryHeader,
    chunkTypeFirmwareCurrentHeader, chunkTypeFirmwareUpgradeHeader, 0x57, 0x58, chunkTypeFileHeader]

/-! ## The outside

All that is not decided by the program is answered by `ModuleEnv`, by the number
of the request; so two requests for the same thing may be answered differently. -/

/-- **What the EEPROM and the operating system answer**, to each request in
turn: whether a read of the EEPROM fails, and an allocation of so many bytes
succeeds; the name of a temporary file, empty where there is none; whether a
file is opened, how many of the bytes written are lost, and whether it is
removed. -/
structure ModuleEnv where
  /-- What is in the EEPROM. -/
  eeprom : Bytes
  /-- A read of it fails. -/
  readFails : ℕ → Bool
  /-- There is memory for so many bytes. -/
  allocates : ℕ → ℕ → Bool
  /-- The name for a temporary file. -/
  tempFilename : ℕ → Bytes → Bytes
  /-- The file can be opened. -/
  opens : ℕ → Bool
  /-- How many bytes of a write are lost. -/
  loses : ℕ → ℕ
  /-- The file can be removed. -/
  removes : ℕ → Bool

/-- **A `ModuleMemory`**, the files there are, and the number of requests made
so far. -/
structure ModuleMemory where
  /-- The temporary file of the CCB, … -/
  ccbFilename : Bytes := []
  /-- … that of the CFG file, … -/
  cfgFilename : Bytes := []
  /-- … and the one with the names of both. -/
  jsonFilename : Bytes := []
  /-- The CFG file was bad. -/
  badCfg : Bool := false
  /-- The CCB was bad. -/
  badCcb : Bool := false
  /-- Some chunk was bad. -/
  isBadChunk : Bool := false
  /-- The serial number of the module. -/
  serialNumber : Bytes := []
  /-- The files there are. -/
  files : Files
  /-- The number of requests made so far. -/
  requests : ℕ := 0

/-- `TOF_ModuleFiles_t`. -/
structure ModuleFiles where
  jsonFile : Bytes := []
  ccbFile : Bytes := []
  cfgFile : Bytes := []
  deriving DecidableEq

namespace ModuleMemory

variable (env : ModuleEnv)

/-- A request was made. -/
def asked (s : ModuleMemory) : ModuleMemory := { s with requests := s.requests + 1 }

/-- A file's content, or that there is none. -/
def setFile (name : Bytes) (content : Option Bytes) (s : ModuleMemory) : ModuleMemory :=
  { s with files := Function.update s.files name content }

/-- `m_eeprom->read`. -/
def eepromRead (address size : ℕ) (s : ModuleMemory) : Option Bytes × ModuleMemory :=
  (if env.readFails s.requests ∨ env.eeprom.length < address + size then none
    else some (slice address size env.eeprom), s.asked)

/-! ## Accesses to a buffer

The buffer of a chunk is a list, and a field outside of it cannot be read. A
string ends at a zero, and without one in the buffer it has no end. -/

/-- Fields of a structure in a buffer, offset and size of each, are read. -/
def touch (buffer : Bytes) (fields : List (ℕ × ℕ)) : Option Unit :=
  if ∀ f ∈ fields, f.1 + f.2 ≤ buffer.length then some () else none

/-- The string that begins at an offset, up to the first zero. -/
def cString (buffer : Bytes) (off : ℕ) : Option Bytes :=
  if (0 : UInt8) ∈ buffer.drop off then some ((buffer.drop off).takeWhile (· ≠ 0)) else none

/-! ## Temporary files

A file is made by a request for its name, then opened and written by another
one. Whether it was written whole is not looked at by the program. -/

/-- `getTempFilename`: the file is new, and empty. -/
def getTempFilename (prefixText : Bytes) (s : ModuleMemory) : Bytes × ModuleMemory :=
  let name := env.tempFilename s.requests prefixText
  if name = [] ∨ (s.files name).isSome then ([], s.asked)
  else (name, s.asked.setFile name (some []))

/-- The file is opened for writing, which empties it, written and closed;
the name is returned, or none where it cannot be opened. -/
def writeFile (name content : Bytes) (s : ModuleMemory) : Bytes × ModuleMemory :=
  if name = [] ∨ env.opens s.requests = false then ([], s.asked)
  else (name, s.asked.setFile name
    (some (content.take (content.length - env.loses s.requests))))

/-- `std::remove`. -/
def remove (name : Bytes) (s : ModuleMemory) : ModuleMemory :=
  if env.removes s.requests then s.asked.setFile name none else s.asked

/-- **`writeToTempFile`**. -/
def writeToTempFile (data fileTag : Bytes) (s : ModuleMemory) : Bytes × ModuleMemory :=
  let (name, s) := getTempFilename env (ascii "adi_tof_" ++ fileTag) s
  writeFile env name data s

/-- The rounds of `escapePathBackslash`, from an index on; `string::find` finds
nothing behind the end. -/
def escapeFrom : ℕ → ℕ → Bytes → Bytes
  | 0, _, path => path
  | n + 1, start, path =>
    match (path.drop start).findIdx? (· = 92) with
    | none => path
    | some i => escapeFrom n (start + i + 4) (path.insertIdx (start + i) 92)

/-- **`escapePathBackslash`**. Each round that inserts a character begins four
behind the last, so there are no more rounds than characters. -/
def escapePathBackslash (path : Bytes) : Bytes := escapeFrom path.length 0 path

/-- A line of the JSON file. -/
def jsonEntry (key name : Bytes) : Bytes :=
  [34] ++ key ++ ascii "\": \"" ++ escapePathBackslash name ++ [34]

/-- The text of the JSON file. -/
def jsonText (ccbFilename cfgFilename : Bytes) : Bytes :=
  ascii "\x7b\n" ++
    (if ccbFilename ≠ [] ∧ cfgFilename ≠ [] then
      jsonEntry (ascii "sensorFirmware") cfgFilename ++ ascii ",\n" ++
        jsonEntry (ascii "CCB_Calibration") ccbFilename ++ ascii "\n\x7d\n"
    else if ccbFilename ≠ [] then
      jsonEntry (ascii "CCB_Calibration") ccbFilename ++ ascii "\n\x7d\n"
    else if cfgFilename ≠ [] then
      jsonEntry (ascii "sensorFirmware") cfgFilename ++ ascii "\n\x7d\n"
    else [])

/-- **`writeTempJSON`**. -/
def writeTempJson (s : ModuleMemory) : Bytes × ModuleMemory :=
  let content := jsonText s.ccbFilename s.cfgFilename
  let (name, s) := getTempFilename env (ascii "adi_tof_cfgjson") s
  writeFile env name content s

/-! ## The CCB and the CFG file

Both functions look at the beginning of what they write, and the serial number
is noted on the way. -/

/-- `sizeof(CAL_FILE_HEADER_V1)`. -/
def calFileHeaderSize : ℕ := 16

/-- `sizeof(CAL_HEADER_BLOCK_V3)`. -/
def calHeaderBlockSize : ℕ := 240

/-- Where the serial number is in a CCB file. -/
def serialNumberOffset : ℕ := 176

/-- `ccb_read_header`: where the header is, of a file of so many bytes. -/
def ccbReadHeader (size : ℕ) : Option ℕ := if size ≤ calFileHeaderSize then none else some 0

/-- `ccb_read_header_block`. -/
def ccbReadHeaderBlock (size : ℕ) : Option ℕ :=
  if size ≤ calFileHeaderSize + calHeaderBlockSize then none else some calFileHeaderSize

/-- **`writeTempCCB`**, of the first `length` bytes of a buffer. -/
def writeTempCcb (buffer : Bytes) (length : ℕ) (s : ModuleMemory) :
    Option (Bytes × ModuleMemory) :=
  if length = 0 then some ([], s)
  else match ccbReadHeader length with
    | none => some ([], s)
    | some p => do
      touch buffer [(p, 2), (p + 2, 2)]
      match ccbReadHeaderBlock length with
      | none => some ([], s)
      | some q =>
        touch buffer [(q + 16, 2), (q + 18, 1), (q + 19, 1), (q + 26, 2)]
        let serialNumber ← cString buffer serialNumberOffset
        touch buffer [(0, length)]
        some (writeToTempFile env (buffer.take length) (ascii "ccb")
          { s with serialNumber := serialNumber })

/-- `sizeof(ccb_data_t)`. -/
def ccbDataSize : ℕ := 16

/-- **`writeTempCFG`**, of the first `length` bytes of a buffer. -/
def writeTempCfg (buffer : Bytes) (length : ℕ) (s : ModuleMemory) :
    Option (Bytes × ModuleMemory) :=
  if length < ccbDataSize then some ([], s)
  else do
    let fileSignature ← cString buffer 0
    if fileSignature ≠ ascii "CFG" then some ([], s)
    else
      touch buffer [(4, 2), (16, 2), (18, 2), (20, 2), (22, 2)]
      touch buffer [(0, length)]
      some (writeToTempFile env (buffer.take length) (ascii "cfg") s)

/-! ## A chunk

The data of a chunk is checked by a checksum of the payload, and what is done
with it depends on the type. Some types are known and nothing is done for them. -/

/-- **`processNVMFirmware`**; whether the chunk is of a type it knows. -/
def processNvmFirmware (chunkType : UInt8) (buffer : Bytes) (payloadSize : ℕ)
    (s : ModuleMemory) : Option (Bool × ModuleMemory) :=
  if chunkType = chunkTypeCcb then
    (writeTempCcb env buffer payloadSize s).map fun r =>
      (true, { r.2 with ccbFilename := r.1, badCcb := r.2.badCcb || r.1.isEmpty })
  else if chunkType = chunkTypeCfg ∨ chunkType = chunkTypeImagerFactoryHeader then
    (writeTempCfg env buffer payloadSize s).map fun r =>
      (true, { r.2 with cfgFilename := r.1, badCfg := r.2.badCfg || r.1.isEmpty })
  else some (decide (chunkType ∈ ignoredChunkTypes), s)

/-- `chunkSizeBytes - sizeof(uint32_t)` as an `int`. -/
def payloadSize (chunkSizeBytes : UInt32) : ℤ := ((chunkSizeBytes.toNat : ℤ) - 4).bmod (2 ^ 32)

/-- The checksum behind the payload. -/
def blockCrc (buffer : Bytes) (payload : ℤ) : Option UInt32 :=
  if 0 ≤ payload ∧ payload + 4 ≤ buffer.length then some (get32 payload.toNat buffer) else none

/-- The data of a chunk were read. A bad chunk of the types for upgrades of the
firmware is passed over. -/
def processChunk (h : ChunkHeader) (buffer : Bytes) (s : ModuleMemory) : Option ModuleMemory := do
  let payload := payloadSize h.chunkSizeBytes
  let crc ← blockCrc buffer payload
  let message := buffer.take payload.toNat
  let r ← if crcFast message true = crc ∨ crcFast message false = crc then
      processNvmFirmware env h.chunktype buffer payload.toNat s
    else some (false, s)
  some { r.2 with isBadChunk := (r.2.isBadChunk || !r.1)
    && h.chunktype ≠ chunkTypeFirmwareFactoryHeader
    && h.chunktype ≠ chunkTypeFirmwareUpgradeHeader }

/-- **`readChunkHeader`**. -/
def readChunkHeader (address : UInt32) (s : ModuleMemory) : Option ChunkHeader × ModuleMemory :=
  match eepromRead env address.toNat chunkHeaderSize s with
  | (some bs, s) => (if verifyChunkHeader bs then some (ChunkHeader.decode bs) else none, s)
  | (none, s) => (none, s)

/-! ## The loop

The header that was read last says where the next chunk is; 0 is the end. A
round reads the header at that address, then the data, and then does what is to
be done with it. -/

/-- Where the loop is: in front of a round, with the header read last, or
left. -/
inductive ChunkWalk where
  | walking (h : ChunkHeader) (s : ModuleMemory)
  | left (s : ModuleMemory)

/-- A chunk with its data is in memory, or the round ends without. -/
inductive ChunkRead where
  | chunk (h : ChunkHeader) (buffer : Bytes) (s : ModuleMemory)
  | skipped (h : ChunkHeader) (s : ModuleMemory)
  | left (s : ModuleMemory)

/-- The bad chunk is noted. -/
def bad (s : ModuleMemory) : ModuleMemory := { s with isBadChunk := true }

/-- The header of the chunk at an address was read; and then the chunk. -/
def readChunkData (address : UInt32) (h : ChunkHeader) (s : ModuleMemory) : ChunkRead :=
  if h.headerSizeBytes ≠ 20 ∨ h.chunkSizeBytes = 0 then .left s.bad
  else if env.allocates s.requests h.chunkSizeBytes.toNat = false then .left s.asked
  else if h.chunktype = chunkTypeFirmwareCurrentHeader
      ∨ h.chunktype = chunkTypeInitFirmwareHeader then .skipped h s.asked
  else match eepromRead env (address + h.headerSizeBytes).toNat h.chunkSizeBytes.toNat s.asked with
    | (some buffer, s) => .chunk h buffer s
    | (none, s) => .skipped h s.bad

/-- The chunk at an address. -/
def readChunk (address : UInt32) (s : ModuleMemory) : ChunkRead :=
  match readChunkHeader env address s with
  | (none, s) => .left s.bad
  | (some h, s) => readChunkData env address h s

/-- **A round of the loop.** -/
def chunkRound (h : ChunkHeader) (s : ModuleMemory) : Option ChunkWalk :=
  match readChunk env h.nextChunkAddress s with
  | .chunk h buffer s => (processChunk env h buffer s).map (.walking h)
  | .skipped h s => some (.walking h s)
  | .left s => some (.left s)

/-- The loop's test and the round behind it. -/
def walkStep : ChunkWalk → Option ChunkWalk
  | .walking h s =>
    if s.isBadChunk = true ∨ h.nextChunkAddress = 0 then some (.left s) else chunkRound env h s
  | .left s => some (.left s)

/-- `n` rounds. -/
def walk : ℕ → ChunkWalk → Option ChunkWalk
  | 0, w => some w
  | n + 1, w => (walkStep env w).bind (walk n)

/-! ## `readModuleData`

The loop has no bound in the source. Here it has one, and `ChunkChain` says when
there is a number of rounds that is enough. -/

/-- What is in front of the loop: the header at address 0; none where it is not
a file header. -/
def startWalk (s : ModuleMemory) : Option ChunkHeader × ModuleMemory :=
  match readChunkHeader env 0 s with
  | (some h, s) =>
    (if h.chunktype = chunkTypeFileHeader ∧ h.nextChunkAddress ≠ 0 then some h else none, s)
  | (none, s) => (none, s)

/-- What is behind the loop: the files, where the result is `OK`. -/
def finishWalk (s : ModuleMemory) : Option ModuleFiles × ModuleMemory :=
  let s := if s.badCcb = false ∨ s.badCfg = false then
      let (name, s) := writeTempJson env s
      { s with jsonFilename := name }
    else s
  let ok (s : ModuleMemory) : Option ModuleFiles × ModuleMemory :=
    (some { jsonFile := s.jsonFilename, ccbFile := s.ccbFilename, cfgFile := s.cfgFilename }, s)
  if s.isBadChunk = true ∨ s.jsonFilename = [] then
    if s.badCcb = true ∧ s.badCfg = true then
      (none, remove env s.cfgFilename (remove env s.ccbFilename s))
    else if s.badCfg = true then ok (remove env s.cfgFilename s)
    else if s.badCcb = true then ok (remove env s.ccbFilename s)
    else (none, remove env s.cfgFilename (remove env s.ccbFilename s))
  else ok s

/-- **`readModuleData`**, with at most `n` rounds; none where an access goes
outside of a chunk, or where the loop goes on after these rounds. -/
def readModuleData (n : ℕ) (s : ModuleMemory) : Option (Option ModuleFiles × ModuleMemory) :=
  match startWalk env s with
  | (none, s) => some (none, s)
  | (some h, s) =>
    match walk env n (.walking h s) with
    | some (.left s) => some (finishWalk env s)
    | _ => none

end ModuleMemory
