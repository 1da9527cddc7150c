import TofNet.ModuleJson

/-!
# What a module's memory is given, it gives back

`createModuleImage` writes a CCB and a CFG file into the EEPROM, and
`readModuleData` makes files of them again. Both files come back byte by byte,
and the JSON file names the two, where the CFG file is one that `writeTempCFG`
takes: it has to be as long as the structure that it is measured with, which is
that of a CCB.

The proof has an image in its middle. `moduleImage` is the list of bytes that
ought to be written: a header, the chunk of the CCB, and the chunk of the CFG
file, if there is one. On the one side the copies that `createModuleImage` makes
into its buffer add up to that list; on the other the loop of `readModuleData`,
over these bytes, comes to the two chunks and to the end. Sizes and addresses
are 32-bit numbers in the source, and that none of them wraps is what `Fits`
says, of the files and of the capacity.
-/

namespace ModuleMemory

/-! ## The image

A header is copied in front of its chunk and the address of the next one is the
sum of what was copied before. A copy that would go beyond the buffer has no
result. -/

/-- **`initChunckHeader`**. The checksum of the header is over the fields in
front of it, and the number of bytes of a chunk counts the checksum behind its
data, unless there are none. -/
def initChunkHeader (type : UInt8) (address dataSize : UInt32) (isLastChunk : Bool) :
    ChunkHeader :=
  let chunkSizeBytes := if dataSize = 0 then 0 else dataSize + 4
  let header : ChunkHeader :=
    { chunkid := 0xAD, chunktype := type, major := 1, minor := 0, headerSizeBytes := 20,
      chunkSizeBytes := chunkSizeBytes,
      nextChunkAddress := if isLastChunk then 0 else address + 20 + chunkSizeBytes }
  { header with chunkHeaderCrc := crcFast header.front true }

/-- `memcpy` into a buffer. -/
def memcpy (buffer : Bytes) (off : ℕ) (src : Bytes) : Option Bytes :=
  if off + src.length ≤ buffer.length then
    some (buffer.take off ++ (src ++ buffer.drop (off + src.length)))
  else none

/-- Copies one behind the other, from `nextAddress` on. The address is a 32-bit
number, as in the source, so it may wrap. -/
def memcpyAll : UInt32 → List Bytes → Bytes → Option Bytes
  | _, [], buffer => some buffer
  | nextAddress, src :: srcs, buffer =>
    (memcpy buffer nextAddress.toNat src).bind
      (memcpyAll (nextAddress + UInt32.ofNat src.length) srcs)

/-- `crcFast` of data of which the size is an `int`: of a file with more bytes
than an `int` holds it is the checksum of fewer, or of none. -/
def crcOf (data : Bytes) : UInt32 :=
  crcFast (data.take ((data.length : ℤ).bmod (2 ^ 32)).toNat) true

/-- The header of a chunk, where there are data for it; else it is zero. -/
def chunkHeaderFor (type : UInt8) (address : UInt32) (data : Option Bytes) (isLastChunk : Bool) :
    ChunkHeader :=
  let size := UInt32.ofNat (data.getD []).length
  if size = 0 then {} else initChunkHeader type address size isLastChunk

/-- What is copied for a chunk. -/
def chunkPieces (header : ChunkHeader) : Option Bytes → List Bytes
  | some data => [header.encode.take header.headerSizeBytes.toNat, data,
      le32 (if header.headerSizeBytes = 0 then 0 else crcOf data)]
  | none => []

/-- **`createModuleImage`**, for an EEPROM of some capacity: the image, or none
where there is an error; and no result at all where a copy would go beyond the
buffer, which holds anything when it is allocated. -/
def createModuleImage (capacity : ℕ) (allocates : ℕ → Bool) (fill : ℕ → UInt8)
    (ccb cfg : Option Bytes) : Option (Option Bytes) :=
  if (ccb = none ∧ cfg = none)
      ∨ (UInt32.ofNat (ccb.getD []).length = 0 ∧ UInt32.ofNat (cfg.getD []).length = 0) then
    some none
  else
    let memoryHeader := initChunkHeader chunkTypeFileHeader 0 0 false
    let ccbHeader := chunkHeaderFor chunkTypeCcb memoryHeader.nextChunkAddress ccb cfg.isNone
    let nextAddress := if ccbHeader.headerSizeBytes = 0 then memoryHeader.nextChunkAddress
      else ccbHeader.nextChunkAddress
    let cfgHeader := chunkHeaderFor chunkTypeCfg nextAddress cfg true
    let imageSize := memoryHeader.headerSizeBytes
      + (ccbHeader.headerSizeBytes + ccbHeader.chunkSizeBytes)
      + (cfgHeader.headerSizeBytes + cfgHeader.chunkSizeBytes)
    if capacity < imageSize.toNat then some none
    else if allocates imageSize.toNat = false then some none
    else
      ((memcpy ((List.range imageSize.toNat).map fill) 0
          (memoryHeader.encode.take memoryHeader.headerSizeBytes.toNat)).bind
        (memcpyAll memoryHeader.nextChunkAddress
          (chunkPieces ccbHeader ccb ++ chunkPieces cfgHeader cfg))).map some

/-! ## What the image is

Pieces that are copied one behind the other, up to the end of a buffer, are the
content of that buffer, whatever was in it before (`memcpyAll_behind`). So all
that is left is to compute lengths.

The sizes are in 32 bits, and a size of 0 stands for no file. `Fits` is what a
file needs in order that the size in its header is its length, that the next
chunk begins where the header says, and that the checksum is taken over all of
it; the lemmas behind it are these, each for one place of the code. -/

/-- A copy right behind what is there already makes the front longer by what is
copied. -/
theorem memcpy_behind {buffer front : Bytes} (src : Bytes)
    (hfront : buffer.take front.length = front)
    (hroom : front.length + src.length ≤ buffer.length) :
    ∃ b, memcpy buffer front.length src = some b ∧ b.length = buffer.length
      ∧ b.take (front ++ src).length = front ++ src := by
  refine ⟨front ++ (src ++ buffer.drop (front.length + src.length)), ?_, ?_, ?_⟩
  · rw [memcpy, if_pos hroom, hfront]
  · simp only [List.length_append, List.length_drop]
    omega
  · rw [← List.append_assoc, List.take_left']
    rfl

/-- **Pieces that fill a buffer are its content.** What the buffer was allocated
with does not show through: each copy begins where the one before it has ended,
and the last one ends with the buffer. The bound on the size is what keeps the
address from wrapping. -/
theorem memcpyAll_behind (pieces : List Bytes) {buffer : Bytes} (front : Bytes)
    (hfront : buffer.take front.length = front)
    (hfill : front.length + pieces.flatten.length = buffer.length)
    (hsize : buffer.length < 2 ^ 32) :
    memcpyAll (UInt32.ofNat front.length) pieces buffer = some (front ++ pieces.flatten) := by
  induction pieces generalizing buffer front with
  | nil =>
    have hlength : front.length = buffer.length := hfill
    rw [memcpyAll, List.flatten_nil, List.append_nil, ← hfront, hlength, List.take_length]
  | cons src srcs ih =>
    rw [List.flatten_cons, List.length_append] at hfill
    obtain ⟨b, hcopy, hlength, htake⟩ := memcpy_behind src hfront (by omega)
    have hnext : UInt32.ofNat front.length + UInt32.ofNat src.length
        = UInt32.ofNat (front ++ src).length := by
      rw [List.length_append, UInt32.ofNat_add]
    rw [memcpyAll, UInt32.toNat_ofNat_of_lt' (by show front.length < 2 ^ 32; omega), hcopy,
      Option.bind_some, hnext, ih _ htake (by rw [List.length_append]; omega) (by omega),
      List.flatten_cons, List.append_assoc]

/-- A file whose size is an `int` has the checksum of all its bytes. -/
theorem crcOf_eq {data : Bytes} (h : data.length < 2 ^ 31) : crcOf data = crcFast data true := by
  have hsize : ((data.length : ℤ).bmod (2 ^ 32)).toNat = data.length := by
    rw [Int.bmod_eq_of_le (by omega) (by omega)]
    omega
  rw [crcOf, hsize, List.take_length]

/-- A header that `initChunckHeader` makes is a valid one: its checksum has been
computed over the bytes that are compared with it. -/
theorem verifyChunkHeader_initChunkHeader (type : UInt8) (address dataSize : UInt32)
    (isLastChunk : Bool) (post : Bytes) :
    verifyChunkHeader ((initChunkHeader type address dataSize isLastChunk).encode ++ post)
      = true := by
  have hcrc : crcFast (initChunkHeader type address dataSize isLastChunk).front true
      = (initChunkHeader type address dataSize isLastChunk).chunkHeaderCrc := rfl
  simp only [verifyChunkHeader, ChunkHeader.decode_encode_append, ChunkHeader.take_encode_append,
    hcrc, decide_true, Bool.true_or, Bool.and_true]
  rfl

/-- The header of the image. -/
def fileHeader : ChunkHeader := initChunkHeader chunkTypeFileHeader 0 0 false

/-- The header of the CCB's chunk. -/
def ccbHeader (ccb : Bytes) (isLastChunk : Bool) : ChunkHeader :=
  initChunkHeader chunkTypeCcb 20 (UInt32.ofNat ccb.length) isLastChunk

/-- The header of the CFG's chunk, behind a CCB. -/
def cfgHeader (ccb cfg : Bytes) : ChunkHeader :=
  initChunkHeader chunkTypeCfg (ccbHeader ccb false).nextChunkAddress (UInt32.ofNat cfg.length) true

/-- A chunk in memory. -/
def chunkBytes (header : ChunkHeader) (data : Bytes) : Bytes :=
  header.encode ++ (data ++ le32 (crcFast data true))

/-- The chunk of a CFG file, if there is one. -/
def cfgChunk (ccb : Bytes) : Option Bytes → Bytes
  | none => []
  | some cfg => chunkBytes (cfgHeader ccb cfg) cfg

/-- **The image of a CCB, and of a CFG file if there is one.** -/
def moduleImage (ccb : Bytes) (cfg : Option Bytes) : Bytes :=
  fileHeader.encode ++ (chunkBytes (ccbHeader ccb cfg.isNone) ccb ++ cfgChunk ccb cfg)

/-- A file that `createModuleImage` makes a chunk of, and `readModuleData` one
of again. -/
structure Fits (data : Bytes) : Prop where
  /-- It has a byte. -/
  ne_nil : data ≠ []
  /-- An `int` holds its size. -/
  small : data.length < 2 ^ 31

/-- So its size is not taken for 0, which would be no file. -/
theorem Fits.ofNat_ne_zero {data : Bytes} (h : Fits data) : UInt32.ofNat data.length ≠ 0 := by
  have hpos : 0 < data.length := List.length_pos_of_ne_nil h.ne_nil
  intro hzero
  have hnat := congrArg UInt32.toNat hzero
  rw [UInt32.toNat_ofNat_of_lt' (by show data.length < 2 ^ 32; have := h.small; omega)] at hnat
  exact absurd hnat (by simpa using hpos.ne')

/-- The number of bytes in a chunk, its header left out. -/
theorem Fits.chunkSizeBytes {data : Bytes} (h : Fits data) (type : UInt8) (address : UInt32)
    (isLastChunk : Bool) :
    (initChunkHeader type address (UInt32.ofNat data.length) isLastChunk).chunkSizeBytes
      = UInt32.ofNat (data.length + 4) := by
  show (if UInt32.ofNat data.length = 0 then 0 else UInt32.ofNat data.length + 4) = _
  rw [if_neg h.ofNat_ne_zero, UInt32.ofNat_add]
  rfl

/-- As a number. -/
theorem Fits.toNat_chunkSizeBytes {data : Bytes} (h : Fits data) (type : UInt8)
    (address : UInt32) (isLastChunk : Bool) :
    (initChunkHeader type address (UInt32.ofNat data.length) isLastChunk).chunkSizeBytes.toNat
      = data.length + 4 := by
  rw [h.chunkSizeBytes]
  exact UInt32.toNat_ofNat_of_lt' (by show data.length + 4 < 2 ^ 32; have := h.small; omega)

/-- Its chunk has a header, … -/
theorem Fits.chunkHeaderFor {data : Bytes} (h : Fits data) (type : UInt8) (address : UInt32)
    (isLastChunk : Bool) :
    chunkHeaderFor type address (some data) isLastChunk
      = initChunkHeader type address (UInt32.ofNat data.length) isLastChunk := by
  exact if_neg h.ofNat_ne_zero

/-- … and what is copied for it is that header, the data and their checksum. -/
theorem Fits.chunkPieces {data : Bytes} (h : Fits data) (type : UInt8) (address : UInt32)
    (isLastChunk : Bool) :
    (chunkPieces (initChunkHeader type address (UInt32.ofNat data.length) isLastChunk)
        (some data)).flatten
      = chunkBytes (initChunkHeader type address (UInt32.ofNat data.length) isLastChunk) data := by
  have htake : ∀ header : ChunkHeader, header.headerSizeBytes = 20 →
      header.encode.take header.headerSizeBytes.toNat = header.encode := by
    intro header hsize
    rw [hsize]
    exact List.take_of_length_le header.length_encode.le
  have hsize : (initChunkHeader type address (UInt32.ofNat data.length) isLastChunk).headerSizeBytes
      = 20 := rfl
  rw [ModuleMemory.chunkPieces, htake _ hsize, hsize, if_neg (by decide), crcOf_eq h.small,
    chunkBytes]
  simp

/-- A chunk has 24 bytes beside its data. -/
@[simp] theorem length_chunkBytes (header : ChunkHeader) (data : Bytes) :
    (chunkBytes header data).length = 24 + data.length := by
  simp only [chunkBytes, List.length_append, ChunkHeader.length_encode, length_le32,
    chunkHeaderSize]
  omega

theorem length_fileHeader : fileHeader.encode.length = 20 := fileHeader.length_encode

theorem length_cfgChunk (ccb : Bytes) (cfg : Option Bytes) :
    (cfgChunk ccb cfg).length = (cfg.map fun data => 24 + data.length).getD 0 := by
  cases cfg with
  | none => rfl
  | some data => exact length_chunkBytes _ _

/-- The length of the image. -/
theorem length_moduleImage (ccb : Bytes) (cfg : Option Bytes) :
    (moduleImage ccb cfg).length
      = 44 + ccb.length + (cfg.map fun data => 24 + data.length).getD 0 := by
  rw [moduleImage, List.length_append, List.length_append, length_fileHeader, length_chunkBytes,
    length_cfgChunk]
  omega

/-- What the file header, and the headers of the chunks, add to `imageSize`. -/
theorem toNat_imageSize {ccb : Bytes} {cfg : Option Bytes} (hccb : Fits ccb)
    (hcfg : ∀ data ∈ cfg, Fits data) (hsize : (moduleImage ccb cfg).length < 2 ^ 32)
    (address : UInt32) (isLastChunk : Bool) :
    (fileHeader.headerSizeBytes
        + ((ccbHeader ccb isLastChunk).headerSizeBytes + (ccbHeader ccb isLastChunk).chunkSizeBytes)
        + ((chunkHeaderFor chunkTypeCfg address cfg true).headerSizeBytes
          + (chunkHeaderFor chunkTypeCfg address cfg true).chunkSizeBytes)).toNat
      = (moduleImage ccb cfg).length := by
  have hheader : ∀ (type : UInt8) (address dataSize : UInt32) (last : Bool),
      (initChunkHeader type address dataSize last).headerSizeBytes = UInt32.ofNat 20 :=
    fun _ _ _ _ => rfl
  have hccbSize := hccb.chunkSizeBytes chunkTypeCcb 20 isLastChunk
  rw [length_moduleImage] at hsize ⊢
  rw [fileHeader, ccbHeader, hheader, hheader, hccbSize]
  cases cfg with
  | none =>
    show (UInt32.ofNat 20 + (UInt32.ofNat 20 + UInt32.ofNat (ccb.length + 4)) + (0 + 0)).toNat = _
    rw [UInt32.add_zero, UInt32.add_zero, ← UInt32.ofNat_add, ← UInt32.ofNat_add]
    simp only [Option.map_none, Option.getD_none] at hsize ⊢
    rw [UInt32.toNat_ofNat_of_lt' (by show _ < 2 ^ 32; omega)]
    omega
  | some data =>
    have hdata := hcfg data rfl
    rw [hdata.chunkHeaderFor, hheader, hdata.chunkSizeBytes, ← UInt32.ofNat_add,
      ← UInt32.ofNat_add, ← UInt32.ofNat_add, ← UInt32.ofNat_add]
    simp only [Option.map_some, Option.getD_some] at hsize ⊢
    rw [UInt32.toNat_ofNat_of_lt' (by show _ < 2 ^ 32; omega)]
    omega

/-- The pieces that are copied are the chunks. -/
theorem flatten_chunkPieces {ccb : Bytes} {cfg : Option Bytes} (hccb : Fits ccb)
    (hcfg : ∀ data ∈ cfg, Fits data) :
    (chunkPieces (ccbHeader ccb cfg.isNone) (some ccb)
        ++ chunkPieces (chunkHeaderFor chunkTypeCfg (ccbHeader ccb cfg.isNone).nextChunkAddress
          cfg true) cfg).flatten
      = chunkBytes (ccbHeader ccb cfg.isNone) ccb ++ cfgChunk ccb cfg := by
  have hfirst : (chunkPieces (ccbHeader ccb cfg.isNone) (some ccb)).flatten
      = chunkBytes (ccbHeader ccb cfg.isNone) ccb := hccb.chunkPieces _ _ _
  rw [List.flatten_append, hfirst]
  cases cfg with
  | none => rfl
  | some data =>
    have hdata := hcfg data rfl
    rw [hdata.chunkHeaderFor, hdata.chunkPieces]
    rfl

/-- **The image that is written.** The buffer is as long as the sum of the sizes
in the headers, the pieces are as long as the image, and the two are the same;
the rest is `memcpyAll_behind`. -/
theorem createModuleImage_eq {ccb : Bytes} {cfg : Option Bytes} (hccb : Fits ccb)
    (hcfg : ∀ data ∈ cfg, Fits data) (hsize : (moduleImage ccb cfg).length < 2 ^ 32)
    {capacity : ℕ} (hcapacity : (moduleImage ccb cfg).length ≤ capacity)
    {allocates : ℕ → Bool} (hallocates : ∀ n, allocates n = true) (fill : ℕ → UInt8) :
    createModuleImage capacity allocates fill (some ccb) cfg
      = some (some (moduleImage ccb cfg)) := by
  have hguard : ¬ (((some ccb : Option Bytes) = none ∧ cfg = none)
      ∨ (UInt32.ofNat ((some ccb).getD []).length = 0
        ∧ UInt32.ofNat (cfg.getD []).length = 0)) := by
    rintro (h | h)
    · cases h.1
    · exact hccb.ofNat_ne_zero h.1
  have hccbHeader : chunkHeaderFor chunkTypeCcb
      (initChunkHeader chunkTypeFileHeader 0 0 false).nextChunkAddress (some ccb) cfg.isNone
      = ccbHeader ccb cfg.isNone := hccb.chunkHeaderFor _ _ _
  have hnext : (if (ccbHeader ccb cfg.isNone).headerSizeBytes = 0
      then (initChunkHeader chunkTypeFileHeader 0 0 false).nextChunkAddress
      else (ccbHeader ccb cfg.isNone).nextChunkAddress)
      = (ccbHeader ccb cfg.isNone).nextChunkAddress := if_neg (by show ¬ (20 : UInt32) = 0; decide)
  have himage := toNat_imageSize hccb hcfg hsize (ccbHeader ccb cfg.isNone).nextChunkAddress
    cfg.isNone
  rw [createModuleImage, if_neg hguard]
  simp only [hccbHeader, hnext]
  rw [show initChunkHeader chunkTypeFileHeader 0 0 false = fileHeader from rfl, himage,
    if_neg (by omega), if_neg (by simp [hallocates])]
  set buffer : Bytes := (List.range (moduleImage ccb cfg).length).map fill with hbuffer
  have hlength : buffer.length = (moduleImage ccb cfg).length := by simp [hbuffer]
  have himageLength : (moduleImage ccb cfg).length = fileHeader.encode.length
      + (chunkBytes (ccbHeader ccb cfg.isNone) ccb ++ cfgChunk ccb cfg).length := by
    rw [moduleImage, List.length_append]
  have hempty : buffer.take ([] : Bytes).length = [] := rfl
  -- the file header first, and then each piece behind what is there
  obtain ⟨b, hcopy, hb, htake⟩ := memcpy_behind fileHeader.encode hempty
    (by simp only [List.length_nil]; omega)
  have hheader : fileHeader.encode.take fileHeader.headerSizeBytes.toNat = fileHeader.encode :=
    List.take_of_length_le fileHeader.length_encode.le
  have hpieces := memcpyAll_behind
    (chunkPieces (ccbHeader ccb cfg.isNone) (some ccb)
      ++ chunkPieces (chunkHeaderFor chunkTypeCfg (ccbHeader ccb cfg.isNone).nextChunkAddress
        cfg true) cfg)
    fileHeader.encode htake
    (by rw [flatten_chunkPieces hccb hcfg]; omega) (by omega)
  have hcopy' : memcpy buffer 0 fileHeader.encode = some b := hcopy
  have hstart : fileHeader.nextChunkAddress = UInt32.ofNat fileHeader.encode.length := by
    rw [length_fileHeader]
    rfl
  rw [hheader, hcopy', Option.bind_some, hstart, hpieces, flatten_chunkPieces hccb hcfg]
  rfl

/-! ## Reading it

Nothing fails, and so each request has the answer that one expects. What is read
at the address of a chunk is the header that was written there, and its checksum
is right, since it was computed by the same function. -/

/-- **Nothing fails**, and the temporary files are new ones, with names that
JSON has as they are. -/
structure Succeeds (env : ModuleEnv) (files : Files) : Prop where
  /-- The EEPROM can be read. -/
  reads : ∀ k, env.readFails k = false
  /-- There is memory. -/
  allocates : ∀ k n, env.allocates k n = true
  /-- Files can be opened, … -/
  opens : ∀ k, env.opens k = true
  /-- … and no byte is lost. -/
  keeps : ∀ k, env.loses k = 0
  /-- There is a name for each file, … -/
  named : ∀ k p, env.tempFilename k p ≠ []
  /-- … which JSON has as it is, … -/
  plain : ∀ k p, ∀ c ∈ env.tempFilename k p, Json.Plain c
  /-- … and of which there is no file yet. -/
  new : ∀ k p, files (env.tempFilename k p) = none
  /-- No two requests are given one name. -/
  distinct : ∀ k l p q, env.tempFilename k p = env.tempFilename l q → k = l

variable {env : ModuleEnv} {files : Files} {s : ModuleMemory}

/-- What is read at an address is what is there. -/
theorem eepromRead_eq (henv : Succeeds env files) {pre mid post : Bytes}
    (h : env.eeprom = pre ++ (mid ++ post)) (s : ModuleMemory) :
    eepromRead env pre.length mid.length s = (some mid, s.asked) := by
  have hroom : ¬ (env.readFails s.requests = true
      ∨ env.eeprom.length < pre.length + mid.length) := by
    rintro (hfail | hshort)
    · exact absurd (henv.reads _) (by rw [hfail]; decide)
    · rw [h] at hshort
      simp only [List.length_append] at hshort
      omega
  rw [eepromRead, if_neg hroom, h, slice_skip le_rfl, Nat.sub_self, slice_front rfl]

/-- So the header of a chunk is read as it was made. -/
theorem readChunkHeader_eq (henv : Succeeds env files) {type : UInt8} {size at' address : UInt32}
    {last : Bool} {pre post : Bytes}
    (h : env.eeprom = pre ++ ((initChunkHeader type at' size last).encode ++ post))
    (haddress : address.toNat = pre.length) (s : ModuleMemory) :
    readChunkHeader env address s = (some (initChunkHeader type at' size last), s.asked) := by
  have hread := eepromRead_eq henv h s
  have hverify := verifyChunkHeader_initChunkHeader type at' size last []
  have hdecode := ChunkHeader.decode_encode_append (initChunkHeader type at' size last) []
  rw [List.append_nil] at hverify hdecode
  rw [ChunkHeader.length_encode] at hread
  rw [readChunkHeader, haddress, hread]
  simp only [hverify, hdecode, if_true]

/-- The chunk of a file is read. It takes three requests: for the header, for
memory, and for the data. -/
theorem readChunk_eq (henv : Succeeds env files) {data : Bytes} (hdata : Fits data)
    {type : UInt8}
    (htype : type ≠ chunkTypeFirmwareCurrentHeader ∧ type ≠ chunkTypeInitFirmwareHeader)
    {at' address : UInt32} {last : Bool} {pre post : Bytes}
    (h : env.eeprom = pre
      ++ (chunkBytes (initChunkHeader type at' (UInt32.ofNat data.length) last) data ++ post))
    (haddress : address.toNat = pre.length) (hroom : pre.length + 20 < 2 ^ 32) (s : ModuleMemory) :
    readChunk env address s
      = .chunk (initChunkHeader type at' (UInt32.ofNat data.length) last)
          (data ++ le32 (crcFast data true)) { s with requests := s.requests + 3 } := by
  set header := initChunkHeader type at' (UInt32.ofNat data.length) last with hheader
  have hsize : header.chunkSizeBytes.toNat = data.length + 4 := hdata.toNat_chunkSizeBytes _ _ _
  have hsizeNe : header.chunkSizeBytes ≠ 0 := fun hzero => by
    rw [hzero] at hsize
    exact absurd hsize (by simp)
  have hnext : (address + header.headerSizeBytes).toNat = (pre ++ header.encode).length := by
    rw [UInt32.toNat_add, haddress, List.length_append, ChunkHeader.length_encode]
    exact Nat.mod_eq_of_lt hroom
  have hbehind : env.eeprom
      = (pre ++ header.encode) ++ ((data ++ le32 (crcFast data true)) ++ post) := by
    rw [h, chunkBytes]
    simp only [List.append_assoc]
  have hdataRead := eepromRead_eq henv hbehind s.asked.asked
  have hlength : (data ++ le32 (crcFast data true)).length = data.length + 4 := by simp
  have hfront : env.eeprom = pre
      ++ ((initChunkHeader type at' (UInt32.ofNat data.length) last).encode
        ++ (data ++ le32 (crcFast data true) ++ post)) := by
    rw [h, chunkBytes]
    simp only [List.append_assoc]
    rfl
  have hread := readChunkHeader_eq henv hfront haddress s
  rw [hlength] at hdataRead
  rw [readChunk, hread]
  show readChunkData env address header s.asked = _
  rw [readChunkData, if_neg (by rintro (hne | hne); exacts [hne rfl, hsizeNe hne]),
    henv.allocates, if_neg (by decide), if_neg (by rintro (h | h); exacts [htype.1 h, htype.2 h]),
    hnext, hsize]
  simp only [hdataRead]
  rfl

/-! ## The files that are made of it

A chunk of a CCB is written into a new file if the CCB library takes it; a chunk
of a CFG file if it has the signature and is not too short. The strings that are
read in the two, the serial number and the signature, have to end inside of the
chunk. -/

/-- A new file is written whole. -/
theorem writeFile_new (henv : Succeeds env files) (data prefixText : Bytes)
    (hnew : s.files (env.tempFilename s.requests prefixText) = none) :
    writeFile env (getTempFilename env prefixText s).1 data (getTempFilename env prefixText s).2
      = (env.tempFilename s.requests prefixText,
        { s with
          files := Function.update s.files (env.tempFilename s.requests prefixText) (some data)
          requests := s.requests + 2 }) := by
  have hnamed : ¬ (env.tempFilename s.requests prefixText = []
      ∨ (s.files (env.tempFilename s.requests prefixText)).isSome = true) := by
    rw [hnew]
    simpa using henv.named _ _
  have hopened : ∀ k, ¬ (env.tempFilename s.requests prefixText = [] ∨ env.opens k = false) :=
    fun k => by
      rw [henv.opens]
      simpa using henv.named _ _
  simp only [getTempFilename, if_neg hnamed, writeFile, if_neg (hopened _), henv.keeps,
    Nat.sub_zero, List.take_length, setFile, asked, Function.update_idem]

/-- And its name is given. -/
theorem writeToTempFile_eq (henv : Succeeds env files) (data tag : Bytes)
    (hnew : s.files (env.tempFilename s.requests (ascii "adi_tof_" ++ tag)) = none) :
    writeToTempFile env data tag s
      = (env.tempFilename s.requests (ascii "adi_tof_" ++ tag),
        { s with
          files := Function.update s.files
            (env.tempFilename s.requests (ascii "adi_tof_" ++ tag)) (some data)
          requests := s.requests + 2 }) :=
  writeFile_new henv data _ hnew

/-- The state behind a chunk of a CCB. -/
def withCcb (env : ModuleEnv) (ccb serialNumber : Bytes) (s : ModuleMemory) : ModuleMemory :=
  let name := env.tempFilename s.requests (ascii "adi_tof_" ++ ascii "ccb")
  { s with
    ccbFilename := name
    serialNumber := serialNumber
    files := Function.update s.files name (some ccb)
    requests := s.requests + 2 }

/-- The state behind a chunk of a CFG file. -/
def withCfg (env : ModuleEnv) (cfg : Bytes) (s : ModuleMemory) : ModuleMemory :=
  let name := env.tempFilename s.requests (ascii "adi_tof_" ++ ascii "cfg")
  { s with
    cfgFilename := name
    files := Function.update s.files name (some cfg)
    requests := s.requests + 2 }

/-- The chunk of a file, its checksum being right. The second of the two ways of
computing it is not tried then. -/
theorem processChunk_eq {data : Bytes} (hdata : Fits data) {type : UInt8} {at' : UInt32}
    {last : Bool} {s' : ModuleMemory}
    (h : processNvmFirmware env type (data ++ le32 (crcFast data true)) data.length s
      = some (true, s'))
    (hgood : s'.isBadChunk = false) :
    processChunk env (initChunkHeader type at' (UInt32.ofNat data.length) last)
      (data ++ le32 (crcFast data true)) s = some s' := by
  have hpayload :
      payloadSize (initChunkHeader type at' (UInt32.ofNat data.length) last).chunkSizeBytes
        = data.length := by
    have hsmall := hdata.small
    rw [payloadSize, hdata.toNat_chunkSizeBytes]
    rw [Int.bmod_eq_of_le (by omega) (by omega)]
    omega
  have hcrc : blockCrc (data ++ le32 (crcFast data true)) (data.length : ℤ)
      = some (crcFast data true) := by
    rw [blockCrc, if_pos (by simp), Int.toNat_natCast, get32_skip le_rfl, Nat.sub_self]
    exact congrArg some (by simpa using get32_le32 (crcFast data true) [])
  have htype : (initChunkHeader type at' (UInt32.ofNat data.length) last).chunktype = type := rfl
  rw [processChunk, hpayload]
  simp only [hcrc, Int.toNat_natCast, List.take_left', true_or, if_true, htype, h, bind,
    Option.bind_some, hgood, Bool.not_true, Bool.or_false, Bool.false_and]
  rw [← hgood]

/-! ### What the reader makes of a chunk

A chunk whose checksum is right is handed to the parser of its type. The CCB's
looks at the blocks of its header, and must not read behind the chunk; the CFG's
passes over a chunk that is short, and looks for the signature in another one.
-/

/-- A CCB of which the library takes the header block is long enough for the
first header as well, and for the field of the serial number to begin in it. -/
theorem ccbReadHeader_eq {n : ℕ} (h : (ccbReadHeaderBlock n).isSome) :
    ccbReadHeader n = some 0 ∧ ccbReadHeaderBlock n = some calFileHeaderSize ∧ 256 < n := by
  have hlong : ¬ n ≤ calFileHeaderSize + calHeaderBlockSize := by
    intro hshort
    rw [ccbReadHeaderBlock, if_pos hshort] at h
    cases h
  have hlarge : 256 < n := by simpa [calFileHeaderSize, calHeaderBlockSize] using hlong
  refine ⟨if_neg (by simp only [calFileHeaderSize]; omega), if_neg hlong, hlarge⟩

/-- Fields inside of a buffer can be read. -/
theorem touch_of_le {buffer : Bytes} {fields : List (ℕ × ℕ)}
    (h : ∀ f ∈ fields, f.1 + f.2 ≤ buffer.length) : touch buffer fields = some () := if_pos h

/-- What is in front of the checksum can be read. -/
theorem touch_all (data post : Bytes) : touch (data ++ post) [(0, data.length)] = some () :=
  touch_of_le fun f hf => by
    obtain rfl := List.mem_singleton.mp hf
    simp

/-- **A CCB is written into a file**, and its serial number is noted: the string
at its place, which ends in the chunk. -/
theorem processNvmFirmware_ccb (henv : Succeeds env files) {ccb : Bytes}
    (hccb : (ccbReadHeaderBlock ccb.length).isSome)
    {crc : UInt32} (hserial : (0 : UInt8) ∈ (ccb ++ le32 crc).drop serialNumberOffset)
    (hnew : s.files (env.tempFilename s.requests (ascii "adi_tof_" ++ ascii "ccb")) = none) :
    processNvmFirmware env chunkTypeCcb (ccb ++ le32 crc) ccb.length s
      = some (true, withCcb env ccb
          (((ccb ++ le32 crc).drop serialNumberOffset).takeWhile (· ≠ 0)) s) := by
  obtain ⟨hheader, hblock, hlong⟩ := ccbReadHeader_eq hccb
  have htouch : ∀ fields : List (ℕ × ℕ), (∀ f ∈ fields, f.1 + f.2 ≤ 256) →
      touch (ccb ++ le32 crc) fields = some () := fun fields h =>
    touch_of_le fun f hf => (h f hf).trans (by rw [List.length_append]; omega)
  have hwrite : writeTempCcb env (ccb ++ le32 crc) ccb.length s
      = some (writeToTempFile env ccb (ascii "ccb")
          { s with
            serialNumber := ((ccb ++ le32 crc).drop serialNumberOffset).takeWhile (· ≠ 0) }) := by
    rw [writeTempCcb, if_neg (by omega), hheader]
    simp only [hblock]
    rw [htouch _ (by decide), htouch _ (by decide), touch_all, cString, if_pos hserial]
    simp only [bind, Option.bind_some, List.take_left']
  have hname : (env.tempFilename s.requests (ascii "adi_tof_" ++ ascii "ccb")).isEmpty = false := by
    simpa using henv.named s.requests _
  have hfile := writeToTempFile_eq henv ccb (ascii "ccb") (s := { s with
    serialNumber := ((ccb ++ le32 crc).drop serialNumberOffset).takeWhile (· ≠ 0) }) hnew
  rw [processNvmFirmware, if_pos rfl, hwrite, hfile]
  simp only [Option.map_some, hname, Bool.or_false, withCcb]

/-- The bytes that a CFG file begins with. -/
def cfgSignature : Bytes := ascii "CFG" ++ [0]

/-- The signature is read as the string that it is compared with. -/
theorem cString_signature {cfg : Bytes} (h : cfg.take 4 = cfgSignature) (post : Bytes) :
    cString (cfg ++ post) 0 = some (ascii "CFG") := by
  have hcfg : cfg ++ post = ascii "CFG" ++ 0 :: (cfg.drop 4 ++ post) := by
    rw [← List.take_append_drop 4 (cfg ++ post), List.take_append, List.drop_append, h]
    have hlong : 4 ≤ cfg.length := by
      have hlength := congrArg List.length h
      rw [List.length_take] at hlength
      have hfour : cfgSignature.length = 4 := by decide
      omega
    rw [Nat.sub_eq_zero_of_le hlong]
    simp [cfgSignature]
  rw [hcfg, cString, List.drop_zero, if_pos (by simp),
    List.takeWhile_append_of_pos (by decide +kernel)]
  simp

/-- A CFG file that is too short is passed over: no file is made of it, and a
member says that it is bad. With a good CCB this is no error. -/
theorem processNvmFirmware_short {cfg : Bytes} (hshort : cfg.length < ccbDataSize)
    (buffer : Bytes) :
    processNvmFirmware env chunkTypeCfg buffer cfg.length s
      = some (true, { s with cfgFilename := [], badCfg := true }) := by
  rw [processNvmFirmware, if_neg (by decide), if_pos (Or.inl rfl), writeTempCfg, if_pos hshort]
  simp

/-- **A CFG file is written into a file**, if it is as long as what
`writeTempCFG` compares it with. -/
theorem processNvmFirmware_cfg (henv : Succeeds env files) {cfg : Bytes}
    (hsignature : cfg.take 4 = cfgSignature) (hlong : 20 ≤ cfg.length) (crc : UInt32)
    (hnew : s.files (env.tempFilename s.requests (ascii "adi_tof_" ++ ascii "cfg")) = none) :
    processNvmFirmware env chunkTypeCfg (cfg ++ le32 crc) cfg.length s
      = some (true, withCfg env cfg s) := by
  have htouch : touch (cfg ++ le32 crc) [(4, 2), (16, 2), (18, 2), (20, 2), (22, 2)] = some () :=
    touch_of_le fun f hf => by
      have hbound : ∀ f ∈ [(4, 2), (16, 2), (18, 2), (20, 2), (22, 2)], f.1 + f.2 ≤ 24 := by decide
      refine (hbound f hf).trans ?_
      rw [List.length_append, length_le32]
      omega
  have hwrite : writeTempCfg env (cfg ++ le32 crc) cfg.length s
      = some (writeToTempFile env cfg (ascii "cfg") s) := by
    rw [writeTempCfg, if_neg (by simp only [ccbDataSize]; omega), cString_signature hsignature]
    simp only [bind, Option.bind_some, ne_eq, not_true_eq_false, if_false, htouch, touch_all,
      List.take_left']
  have hname : (env.tempFilename s.requests (ascii "adi_tof_" ++ ascii "cfg")).isEmpty = false := by
    simpa using henv.named s.requests _
  rw [processNvmFirmware, if_neg (by decide), if_pos (Or.inl rfl), hwrite,
    writeToTempFile_eq henv cfg _ hnew]
  simp only [Option.map_some, hname, Bool.or_false, withCfg]

/-! ## The walk over the image

There are two rounds, or one if there is no CFG file, and then the loop is left. -/

/-- Behind the loop nothing more is read. -/
theorem walk_left (n : ℕ) (s : ModuleMemory) : walk env n (.left s) = some (.left s) := by
  induction n with
  | zero => rfl
  | succ n ih => exact ih

/-- The loop is left behind the last chunk. -/
theorem walk_last (n : ℕ) {h : ChunkHeader} (hlast : h.nextChunkAddress = 0) :
    walk env (n + 1) (.walking h s) = some (.left s) := by
  rw [walk, walkStep, if_pos (Or.inr hlast), Option.bind_some, walk_left]

/-- A round that goes on: the chunk is read and taken, and the next round begins
with its header. -/
theorem walk_chunk (n : ℕ) {h h' : ChunkHeader} {buffer : Bytes} {s₁ s₂ : ModuleMemory}
    (hgood : s.isBadChunk = false) (hnext : h.nextChunkAddress ≠ 0)
    (hread : readChunk env h.nextChunkAddress s = .chunk h' buffer s₁)
    (hprocess : processChunk env h' buffer s₁ = some s₂) :
    walk env (n + 1) (.walking h s) = walk env n (.walking h' s₂) := by
  have htest : ¬ (s.isBadChunk = true ∨ h.nextChunkAddress = 0) := by
    rw [hgood]
    rintro (hfalse | hzero)
    · cases hfalse
    · exact hnext hzero
  rw [walk, walkStep, if_neg htest, chunkRound, hread]
  simp only [hprocess, Option.map_some, Option.bind_some]

/-- The state behind the chunk of a CFG file, if there is one. -/
def afterCfg (env : ModuleEnv) (s : ModuleMemory) : Option Bytes → ModuleMemory
  | none => s
  | some cfg =>
    if cfg.length < ccbDataSize then
      { s with cfgFilename := [], badCfg := true, requests := s.requests + 3 }
    else withCfg env cfg { s with requests := s.requests + 3 }

/-- The files a module can be given: the CCB library takes the CCB, and its
serial number ends inside of its chunk; the CFG file has its signature, and
where it is not too short for `writeTempCFG`, its header is inside of its
chunk. -/
structure Acceptable (ccb : Bytes) (cfg : Option Bytes) : Prop where
  /-- The CCB is one that a chunk can be made of. -/
  ccbFits : Fits ccb
  /-- The library takes its header, … -/
  header : (ccbReadHeader ccb.length).isSome
  /-- … and its header block. -/
  headerBlock : (ccbReadHeaderBlock ccb.length).isSome
  /-- The string of the serial number has an end in the chunk. -/
  serialNumber : (0 : UInt8) ∈ (ccb ++ le32 (crcFast ccb true)).drop serialNumberOffset
  /-- So is the CFG file. -/
  cfgFits : ∀ data ∈ cfg, Fits data
  /-- It begins with its signature. -/
  signature : ∀ data ∈ cfg, data.take 4 = cfgSignature
  /-- It has its header, or is too short to be looked at. -/
  cfgHeader : ∀ data ∈ cfg, data.length < ccbDataSize ∨ 20 ≤ data.length

/-- The CFG's chunk is behind the CCB's. -/
theorem toNat_nextChunkAddress {ccb : Bytes} (h : Fits ccb) (hsmall : 44 + ccb.length < 2 ^ 32) :
    (ccbHeader ccb false).nextChunkAddress.toNat = 44 + ccb.length := by
  have hsize : (ccbHeader ccb false).nextChunkAddress
      = 20 + 20 + (ccbHeader ccb false).chunkSizeBytes := rfl
  have hchunk : (ccbHeader ccb false).chunkSizeBytes = UInt32.ofNat (ccb.length + 4) :=
    h.chunkSizeBytes _ _ _
  rw [hsize, hchunk, show (20 + 20 : UInt32) = UInt32.ofNat 40 from rfl, ← UInt32.ofNat_add,
    UInt32.toNat_ofNat_of_lt' (by show _ < 2 ^ 32; omega)]
  omega

/-- **The walk over the image** makes the two files. It has a round for each
chunk and one in which it finds the end; so three are enough, and more do no
harm. -/
theorem walk_moduleImage (henv : Succeeds env files) {ccb : Bytes} {cfg : Option Bytes}
    (h : Acceptable ccb cfg) (himage : (moduleImage ccb cfg).length < 2 ^ 32) {post : Bytes}
    (heeprom : env.eeprom = moduleImage ccb cfg ++ post) (hfiles : s.files = files)
    (hgood : s.isBadChunk = false) (n : ℕ) :
    walk env (n + 3) (.walking fileHeader s)
      = some (.left (afterCfg env (withCcb env ccb
          (((ccb ++ le32 (crcFast ccb true)).drop serialNumberOffset).takeWhile (· ≠ 0))
          { s with requests := s.requests + 3 }) cfg)) := by
  set serial := ((ccb ++ le32 (crcFast ccb true)).drop serialNumberOffset).takeWhile (· ≠ 0)
    with hserial
  set s₁ := withCcb env ccb serial { s with requests := s.requests + 3 } with hs₁
  rw [length_moduleImage] at himage
  have hfirst : env.eeprom = fileHeader.encode
      ++ (chunkBytes (initChunkHeader chunkTypeCcb 20 (UInt32.ofNat ccb.length) cfg.isNone) ccb
        ++ (cfgChunk ccb cfg ++ post)) := by
    rw [heeprom, moduleImage]
    simp only [List.append_assoc]
    rfl
  -- the round of the CCB, which every image has
  have hccb : walk env (n + 3) (.walking fileHeader s)
      = walk env (n + 2) (.walking (ccbHeader ccb cfg.isNone) s₁) := by
    refine walk_chunk (n + 2) hgood (by decide)
      (readChunk_eq henv h.ccbFits (by decide) hfirst rfl (by decide) s)
      (processChunk_eq h.ccbFits
        (processNvmFirmware_ccb henv h.headerBlock h.serialNumber ?_) hgood)
    show s.files _ = none
    rw [hfiles]
    exact henv.new _ _
  cases cfg with
  | none => rw [hccb]; exact walk_last (n + 1) rfl
  | some data =>
    have hdata := h.cfgFits data rfl
    have hnextNat := toNat_nextChunkAddress h.ccbFits
      (by simp only [Option.map_some, Option.getD_some] at himage; omega)
    have hnext : (ccbHeader ccb false).nextChunkAddress ≠ 0 := fun hzero => by
      rw [hzero, UInt32.toNat_zero] at hnextNat
      omega
    -- the round of the CFG file, behind the CCB
    have hsecond : env.eeprom = (fileHeader.encode ++ chunkBytes (ccbHeader ccb false) ccb)
        ++ (chunkBytes (initChunkHeader chunkTypeCfg (ccbHeader ccb false).nextChunkAddress
          (UInt32.ofNat data.length) true) data ++ post) := by
      rw [heeprom, moduleImage]
      simp only [List.append_assoc]
      rfl
    have hfrontLength : (fileHeader.encode ++ chunkBytes (ccbHeader ccb false) ccb).length
        = 44 + ccb.length := by
      rw [List.length_append, length_fileHeader, length_chunkBytes]
      omega
    have hread := readChunk_eq henv hdata (by decide) hsecond (hnextNat.trans hfrontLength.symm)
      (by
        rw [hfrontLength]
        simp only [Option.map_some, Option.getD_some] at himage
        omega) s₁
    have hcfg : walk env (n + 2) (.walking (ccbHeader ccb false) s₁)
        = walk env (n + 1) (.walking (cfgHeader ccb data) (afterCfg env s₁ (some data))) := by
      refine walk_chunk (n + 1) hgood hnext hread (processChunk_eq hdata ?_ ?_)
      · by_cases hshort : data.length < ccbDataSize
        · rw [processNvmFirmware_short hshort, afterCfg, if_pos hshort]
        · rw [afterCfg, if_neg hshort]
          refine processNvmFirmware_cfg henv (h.signature data rfl)
            ((h.cfgHeader data rfl).resolve_left hshort) _ ?_
          -- the second file has another name than the first
          have hne : env.tempFilename (s.requests + 3 + 2 + 3) (ascii "adi_tof_" ++ ascii "cfg")
              ≠ env.tempFilename (s.requests + 3) (ascii "adi_tof_" ++ ascii "ccb") := fun heq =>
            absurd (henv.distinct _ _ _ _ heq) (by omega)
          refine (Function.update_of_ne hne _ _).trans ?_
          show s.files _ = none
          rw [hfiles]
          exact henv.new _ _
      · by_cases hshort : data.length < ccbDataSize
        · rw [afterCfg, if_pos hshort]
          exact hgood
        · rw [afterCfg, if_neg hshort]
          exact hgood
    show walk env (n + 3) (.walking fileHeader s) = _
    rw [hccb]
    show walk env (n + 2) (.walking (ccbHeader ccb false) s₁) = _
    rw [hcfg]
    exact walk_last n rfl

/-! ## The JSON file

It names the files that were made, and these are the members that are not empty. -/

/-- What a JSON file names. -/
def entries (ccbFilename cfgFilename : Bytes) : List (Bytes × Bytes) :=
  (if cfgFilename = [] then [] else [(ascii "sensorFirmware", cfgFilename)])
    ++ [(ascii "CCB_Calibration", ccbFilename)]

/-- These are what the JSON file names, if there is a CCB. -/
theorem named_eq_entries {ccbFilename cfgFilename : Bytes} (hccb : ccbFilename ≠ []) :
    named ccbFilename cfgFilename = entries ccbFilename cfgFilename := by
  rw [named, if_neg hccb]
  rfl

/-! ## The round trip

Here the two sides meet: the bytes of the EEPROM are the image, followed by what
was there before. The walk is followed by the JSON file, and what is handed out
is compared with what was given. -/

/-- `m_eeprom->write(0, …)`. -/
def written (old image : Bytes) : Bytes := image ++ old.drop image.length

/-- **A CCB and a CFG file are back**: each is the content of a file, there is
no CFG file where none was given, and the JSON file names these and no others.
The JSON file is read by the parser of `JsonString`, and not compared with a
text. -/
structure GivenBack (ccb : Bytes) (cfg : Option Bytes) (r : ModuleFiles) (files : Files) :
    Prop where
  /-- The CCB is in its file, … -/
  ccbFile : files r.ccbFile = some ccb
  /-- … and the CFG file in its, … -/
  cfgFile : ∀ data ∈ cfg, files r.cfgFile = some data
  /-- … if there was one. -/
  noCfgFile : r.cfgFile = [] ↔ cfg = none
  /-- The JSON file is read as the names of these two. -/
  jsonFile : (files r.jsonFile).bind Json.object = some (entries r.ccbFile r.cfgFile)

/-- The state behind the walk over an image. -/
def afterImage (env : ModuleEnv) (files : Files) (ccb : Bytes) (cfg : Option Bytes) :
    ModuleMemory :=
  afterCfg env (withCcb env ccb
    (((ccb ++ le32 (crcFast ccb true)).drop serialNumberOffset).takeWhile (· ≠ 0))
    { files := files, requests := 4 }) cfg

/-! ### The state behind the walk

What the routine looks at when the walk is over: whether the CCB was good, what
the files are called, and what is in them. Each of these is shown of the state
that the walk ends in, so that what comes behind it is a computation. -/

/-- The CCB was good, and so was every chunk. -/
theorem badCcb_afterImage (env : ModuleEnv) (files : Files) (ccb : Bytes) (cfg : Option Bytes) :
    (afterImage env files ccb cfg).badCcb = false
      ∧ (afterImage env files ccb cfg).isBadChunk = false := by
  cases cfg with
  | none => exact ⟨rfl, rfl⟩
  | some data =>
    rw [afterImage, afterCfg]
    split <;> exact ⟨rfl, rfl⟩

/-- The requests made so far are older than the next one. -/
theorem ccbFilename_afterImage (env : ModuleEnv) (files : Files) (ccb : Bytes)
    (cfg : Option Bytes) :
    (afterImage env files ccb cfg).ccbFilename
        = env.tempFilename 4 (ascii "adi_tof_" ++ ascii "ccb")
      ∧ 6 ≤ (afterImage env files ccb cfg).requests := by
  cases cfg with
  | none => exact ⟨rfl, le_rfl⟩
  | some data =>
    rw [afterImage, afterCfg]
    split
    · exact ⟨rfl, by show 6 ≤ 4 + 2 + 3; omega⟩
    · exact ⟨rfl, by show 6 ≤ 4 + 2 + 3 + 2; omega⟩

/-- What the files are behind the walk. No later request can have a name that
has been used, since no two are given one name. -/
theorem files_afterImage (henv : Succeeds env files) (ccb : Bytes) (cfg : Option Bytes) :
    (afterImage env files ccb cfg).files (env.tempFilename 4 (ascii "adi_tof_" ++ ascii "ccb"))
        = some ccb
      ∧ ∀ k p, (afterImage env files ccb cfg).requests ≤ k →
        (afterImage env files ccb cfg).files (env.tempFilename k p) = none := by
  have hccb : ∀ k p, 4 < k → Function.update files
      (env.tempFilename 4 (ascii "adi_tof_" ++ ascii "ccb")) (some ccb) (env.tempFilename k p)
      = none := by
    intro k p hk
    have hne : env.tempFilename k p ≠ env.tempFilename 4 (ascii "adi_tof_" ++ ascii "ccb") :=
      fun heq => absurd (henv.distinct _ _ _ _ heq) (by omega)
    rw [Function.update_of_ne hne]
    exact henv.new _ _
  cases cfg with
  | none =>
    exact ⟨Function.update_self _ _ _, fun k p hk =>
      hccb k p (lt_of_lt_of_le (show 4 < 4 + 2 by decide) hk)⟩
  | some data =>
    rw [afterImage, afterCfg]
    split
    · exact ⟨Function.update_self _ _ _, fun k p hk =>
        hccb k p (lt_of_lt_of_le (show 4 < 4 + 2 + 3 by decide) hk)⟩
    · constructor
      · have hne : env.tempFilename 4 (ascii "adi_tof_" ++ ascii "ccb")
            ≠ env.tempFilename (4 + 2 + 3) (ascii "adi_tof_" ++ ascii "cfg") :=
          fun heq => absurd (henv.distinct _ _ _ _ heq) (by decide)
        exact (Function.update_of_ne hne _ _).trans (Function.update_self _ _ _)
      · intro k p hk
        have hlate : 11 ≤ k := hk
        have hne : env.tempFilename k p
            ≠ env.tempFilename (4 + 2 + 3) (ascii "adi_tof_" ++ ascii "cfg") :=
          fun heq => absurd (henv.distinct _ _ _ _ heq) (by omega)
        exact (Function.update_of_ne hne _ _).trans (hccb k p (by omega))

/-- A CFG file that is not passed over is in its file. -/
theorem cfgFile_afterImage (henv : Succeeds env files) (ccb : Bytes) (cfg : Option Bytes) :
    (∀ data ∈ cfg.filter (ccbDataSize ≤ ·.length),
      (afterImage env files ccb cfg).files (afterImage env files ccb cfg).cfgFilename = some data)
      ∧ ((afterImage env files ccb cfg).cfgFilename = []
        ↔ cfg.filter (ccbDataSize ≤ ·.length) = none)
      ∧ ∀ c ∈ (afterImage env files ccb cfg).cfgFilename, Json.Plain c := by
  cases cfg with
  | none =>
    exact ⟨by simp, by simp [afterImage, afterCfg, withCcb],
      by simp [afterImage, afterCfg, withCcb]⟩
  | some data =>
    by_cases hshort : data.length < ccbDataSize
    · have hfilter : (some data).filter (ccbDataSize ≤ ·.length) = none := by
        rw [Option.filter_some, if_neg (by simpa using hshort)]
      rw [hfilter, afterImage, afterCfg, if_pos hshort]
      exact ⟨by simp, by simp, by simp⟩
    · have hfilter : (some data).filter (ccbDataSize ≤ ·.length) = some data := by
        rw [Option.filter_some, if_pos (by simpa using hshort)]
      rw [hfilter, afterImage, afterCfg, if_neg hshort]
      refine ⟨?_, ?_, henv.plain _ _⟩
      · intro data' hdata'
        cases hdata'
        exact Function.update_self _ _ _
      · have hnamed := henv.named (4 + 2 + 3) (ascii "adi_tof_" ++ ascii "cfg")
        exact ⟨fun h => absurd h hnamed, fun h => absurd h (by simp)⟩

/-- What is behind the walk. -/
theorem finishWalk_eq (henv : Succeeds env files) (hccb : s.badCcb = false)
    (hgood : s.isBadChunk = false)
    (hnew : s.files (env.tempFilename s.requests (ascii "adi_tof_cfgjson")) = none) :
    ∃ s', finishWalk env s
        = (some { jsonFile := env.tempFilename s.requests (ascii "adi_tof_cfgjson"),
                  ccbFile := s.ccbFilename, cfgFile := s.cfgFilename }, s')
      ∧ s'.files = Function.update s.files
          (env.tempFilename s.requests (ascii "adi_tof_cfgjson"))
          (some (jsonText s.ccbFilename s.cfgFilename)) := by
  have hwrite : writeTempJson env s = _ :=
    writeFile_new henv (jsonText s.ccbFilename s.cfgFilename) (ascii "adi_tof_cfgjson") hnew
  have htest : ¬ (s.isBadChunk = true
      ∨ env.tempFilename s.requests (ascii "adi_tof_cfgjson") = []) := by
    rw [hgood]
    simpa using henv.named _ _
  rw [finishWalk, if_pos (Or.inl hccb), hwrite]
  simp only [if_neg htest]
  exact ⟨_, rfl, rfl⟩

/-- **What an image is read as.** It does not matter what is behind the image in
the EEPROM: the last header has no next chunk, so the walk does not get
there. -/
theorem readModuleData_moduleImage (henv : Succeeds env files) {ccb : Bytes} {cfg : Option Bytes}
    (h : Acceptable ccb cfg) (himage : (moduleImage ccb cfg).length < 2 ^ 32) {post : Bytes}
    (heeprom : env.eeprom = moduleImage ccb cfg ++ post) (n : ℕ) :
    ∃ s', readModuleData env (n + 3) { files := files }
        = some (some
            { jsonFile := env.tempFilename (afterImage env files ccb cfg).requests
                (ascii "adi_tof_cfgjson"),
              ccbFile := (afterImage env files ccb cfg).ccbFilename,
              cfgFile := (afterImage env files ccb cfg).cfgFilename }, s')
      ∧ s'.files = Function.update (afterImage env files ccb cfg).files
          (env.tempFilename (afterImage env files ccb cfg).requests (ascii "adi_tof_cfgjson"))
          (some (jsonText (afterImage env files ccb cfg).ccbFilename
            (afterImage env files ccb cfg).cfgFilename)) := by
  have hfront : env.eeprom = [] ++ ((initChunkHeader chunkTypeFileHeader 0 0 false).encode
      ++ (chunkBytes (ccbHeader ccb cfg.isNone) ccb ++ cfgChunk ccb cfg ++ post)) := by
    rw [heeprom, moduleImage]
    simp only [List.append_assoc, List.nil_append]
    rfl
  have hzero : (0 : UInt32).toNat = ([] : Bytes).length := rfl
  have hheader := readChunkHeader_eq henv hfront hzero { files := files }
  have hstart : startWalk env { files := files }
      = (some fileHeader, { files := files, requests := 1 }) := by
    rw [startWalk, hheader]
    rfl
  have hwalk := walk_moduleImage henv h himage heeprom (s := { files := files, requests := 1 })
    rfl rfl n
  obtain ⟨s', hfinish, hfiles⟩ := finishWalk_eq henv (badCcb_afterImage env files ccb cfg).1
    (badCcb_afterImage env files ccb cfg).2
    ((files_afterImage henv ccb cfg).2 _ _ le_rfl)
  refine ⟨s', ?_, hfiles⟩
  rw [readModuleData, hstart]
  simp only [hwalk]
  exact congrArg some hfinish

/-- **A module gives back what it is given.** The image of a CCB and of a CFG
file that fits into the EEPROM is written, and read as these files; a CFG file
that is shorter than `sizeof(ccb_data_t)` is left out. -/
theorem readModuleData_createModuleImage (henv : Succeeds env files) {ccb : Bytes}
    {cfg : Option Bytes} (h : Acceptable ccb cfg) {old : Bytes}
    (hfits : (moduleImage ccb cfg).length ≤ old.length) (hcapacity : old.length < 2 ^ 32)
    (fill : ℕ → UInt8) :
    ∃ image, createModuleImage old.length (fun _ => true) fill (some ccb) cfg = some (some image)
      ∧ ∀ n, ∃ r s, readModuleData { env with eeprom := written old image } (n + 3)
          { files := files } = some (some r, s)
        ∧ GivenBack ccb (cfg.filter (ccbDataSize ≤ ·.length)) r s.files := by
  have himage : (moduleImage ccb cfg).length < 2 ^ 32 := by omega
  refine ⟨moduleImage ccb cfg,
    createModuleImage_eq h.ccbFits h.cfgFits himage hfits (fun _ => rfl) fill, fun n => ?_⟩
  set env' : ModuleEnv := { env with eeprom := written old (moduleImage ccb cfg) } with henv'
  have henvSucceeds : Succeeds env' files :=
    { reads := henv.reads, allocates := henv.allocates, opens := henv.opens, keeps := henv.keeps,
      named := henv.named, plain := henv.plain, new := henv.new, distinct := henv.distinct }
  obtain ⟨s', hread, hfiles⟩ := readModuleData_moduleImage henvSucceeds h himage rfl n
  obtain ⟨hname, _⟩ := ccbFilename_afterImage env' files ccb cfg
  obtain ⟨hccbFile, hnew⟩ := files_afterImage henvSucceeds ccb cfg
  obtain ⟨hcfgFile, hnoCfg, hplain⟩ := cfgFile_afterImage henvSucceeds ccb cfg
  -- the JSON text goes into a file of its own
  have hkeep : ∀ name, (afterImage env' files ccb cfg).files name ≠ none →
      s'.files name = (afterImage env' files ccb cfg).files name := by
    intro name hsome
    have hne : name ≠ env'.tempFilename (afterImage env' files ccb cfg).requests
        (ascii "adi_tof_cfgjson") := fun heq => hsome (by rw [heq]; exact hnew _ _ le_rfl)
    rw [hfiles, Function.update_of_ne hne]
  refine ⟨_, s', hread, ?_, ?_, hnoCfg, ?_⟩
  · show s'.files (afterImage env' files ccb cfg).ccbFilename = _
    rw [hname, hkeep _ (by rw [hccbFile]; simp), hccbFile]
  · intro data hdata
    show s'.files (afterImage env' files ccb cfg).cfgFilename = _
    rw [hkeep _ (by rw [hcfgFile data hdata]; simp), hcfgFile data hdata]
  · show (s'.files (env'.tempFilename _ _)).bind Json.object = _
    rw [hfiles, Function.update_self, Option.bind_some]
    have hccbNe : (afterImage env' files ccb cfg).ccbFilename ≠ [] := by
      rw [hname]
      exact henvSucceeds.named _ _
    have hccbPlain : ∀ c ∈ (afterImage env' files ccb cfg).ccbFilename, Json.Plain c := by
      rw [hname]
      exact henvSucceeds.plain _ _
    refine (object_jsonText (.inl hccbNe) (writable_of_plain hccbPlain)
      (writable_of_plain hplain)).trans ?_
    rw [named_eq_entries hccbNe]

/-! ## A CCB with a CFG file

A pair of files that goes through, and a CFG file of four bytes that does not:
it has the signature, but the length is compared with the size of a structure
that has nothing to do with it. -/

/-- Nothing fails, and every temporary file has a name one longer than the last. -/
def goodEnv : ModuleEnv where
  eeprom := []
  readFails _ := false
  allocates _ _ := true
  tempFilename k _ := List.replicate (k + 1) 97
  opens _ := true
  loses _ := 0
  removes _ := true

theorem succeeds_goodEnv : Succeeds goodEnv fun _ => none where
  reads _ := rfl
  allocates _ _ := rfl
  opens _ := rfl
  keeps _ := rfl
  named _ _ := List.cons_ne_nil _ _
  plain k p c hc := by
    rw [List.eq_of_mem_replicate hc]
    decide
  new _ _ := rfl
  distinct k l p q h := by
    have hlength := congrArg List.length h
    simpa [goodEnv] using hlength

/-- A CCB file of zeros. -/
def zeroCcb : Bytes := List.replicate 257 0

theorem length_zeroCcb : zeroCcb.length = 257 := List.length_replicate

/-- A file that has the signature of a CFG file, and nothing else but zeros. -/
def zeroCfg (n : ℕ) : Bytes := cfgSignature ++ List.replicate n 0

/-- An EEPROM in which nothing is written. -/
def blankEeprom : Bytes := List.replicate 1000 0

theorem length_blankEeprom : blankEeprom.length = 1000 := List.length_replicate

theorem acceptable_zeroCcb (n : ℕ) (hn : n < 12 ∨ 16 ≤ n ∧ n < 100) :
    Acceptable zeroCcb (some (zeroCfg n)) where
  ccbFits := by
    refine ⟨fun hnil => ?_, by rw [length_zeroCcb]; decide⟩
    have hlength := length_zeroCcb
    rw [hnil] at hlength
    cases hlength
  header := by rw [length_zeroCcb]; decide
  headerBlock := by rw [length_zeroCcb]; decide
  serialNumber := by
    rw [List.drop_append_of_le_length (by rw [length_zeroCcb]; decide), zeroCcb,
      List.drop_replicate]
    exact List.mem_append_left _ (List.mem_replicate.mpr ⟨by decide, rfl⟩)
  cfgFits := by
    rintro data hdata
    cases hdata
    refine ⟨List.cons_ne_nil _ _, ?_⟩
    simp only [zeroCfg, List.length_append, List.length_replicate,
      show cfgSignature.length = 4 from rfl]
    omega
  signature := by
    rintro data hdata
    cases hdata
    exact List.take_left' rfl
  cfgHeader := by
    rintro data hdata
    cases hdata
    simp only [zeroCfg, List.length_append, List.length_replicate, ccbDataSize,
      show cfgSignature.length = 4 from rfl]
    omega

theorem length_moduleImage_zeroCcb (n : ℕ) :
    (moduleImage zeroCcb (some (zeroCfg n))).length = 329 + n := by
  rw [length_moduleImage]
  simp only [length_zeroCcb, zeroCfg, Option.map_some, Option.getD_some, List.length_append,
    List.length_replicate, show cfgSignature.length = 4 from rfl]
  omega

/-- A CFG file of 20 bytes. -/
theorem readModuleData_createModuleImage_zeroCfg :
    ∃ image, createModuleImage blankEeprom.length (fun _ => true) (fun _ => 0) (some zeroCcb)
        (some (zeroCfg 16)) = some (some image)
      ∧ ∀ n, ∃ r s, readModuleData { goodEnv with eeprom := written blankEeprom image } (n + 3)
          { files := fun _ => none } = some (some r, s)
        ∧ GivenBack zeroCcb ((some (zeroCfg 16)).filter (ccbDataSize ≤ ·.length)) r s.files :=
  readModuleData_createModuleImage succeeds_goodEnv (acceptable_zeroCcb 16 (by decide))
    (by rw [length_moduleImage_zeroCcb, length_blankEeprom]; decide)
    (by rw [length_blankEeprom]; decide) _

theorem walk_add (m n : ℕ) (w : ChunkWalk) :
    walk env (m + n) w = (walk env m w).bind (walk env n) := by
  induction m generalizing w with
  | zero => rw [Nat.zero_add, walk, Option.bind_some]
  | succ m ih =>
    rw [Nat.succ_add, walk, walk, Option.bind_assoc]
    exact congrArg _ (funext fun w' => ih w')

/-- A result stays the same with more rounds. -/
theorem readModuleData_add {m : ℕ} {r : Option ModuleFiles × ModuleMemory}
    (h : readModuleData env m s = some r) (n : ℕ) : readModuleData env (m + n) s = some r := by
  rw [readModuleData] at h ⊢
  split at h
  · exact h
  · split at h
    · rename_i hwalk
      rw [walk_add, hwalk, Option.bind_some, walk_left]
      exact h
    · cases h

/-- **A CFG file of four bytes is lost**, though it has the signature. -/
theorem not_givenBack_short_cfg :
    ¬ ∀ (env : ModuleEnv) (files : Files) (ccb : Bytes) (cfg : Option Bytes) (old : Bytes)
      (fill : ℕ → UInt8),
      Succeeds env files → (ccbReadHeader ccb.length).isSome →
      (ccbReadHeaderBlock ccb.length).isSome → (∀ data ∈ cfg, data.take 4 = cfgSignature) →
      (moduleImage ccb cfg).length ≤ old.length → old.length < 2 ^ 32 →
      ∃ image, createModuleImage old.length (fun _ => true) fill (some ccb) cfg
          = some (some image)
        ∧ ∃ n r s, readModuleData { env with eeprom := written old image } n { files := files }
            = some (some r, s)
          ∧ GivenBack ccb cfg r s.files := by
  intro h
  have hacceptable := acceptable_zeroCcb 0 (by decide)
  have hlength := length_moduleImage_zeroCcb 0
  obtain ⟨image, himage, n, r, s, hread, hback⟩ := h goodEnv (fun _ => none) zeroCcb
    (some (zeroCfg 0)) blankEeprom (fun _ => 0) succeeds_goodEnv hacceptable.header
    hacceptable.headerBlock hacceptable.signature
    (by rw [hlength, length_blankEeprom]; decide) (by rw [length_blankEeprom]; decide)
  rw [createModuleImage_eq hacceptable.ccbFits hacceptable.cfgFits (by rw [hlength]; decide)
    (by rw [hlength, length_blankEeprom]; decide) (fun _ => rfl)] at himage
  cases himage
  set env' : ModuleEnv :=
    { goodEnv with eeprom := written blankEeprom (moduleImage zeroCcb (some (zeroCfg 0))) }
  have henv' : Succeeds env' fun _ => none :=
    { reads := fun _ => rfl, allocates := fun _ _ => rfl, opens := fun _ => rfl,
      keeps := fun _ => rfl,
      named := succeeds_goodEnv.named, plain := succeeds_goodEnv.plain, new := fun _ _ => rfl,
      distinct := succeeds_goodEnv.distinct }
  obtain ⟨s', hresult, -⟩ := readModuleData_moduleImage henv' hacceptable (by rw [hlength]; decide)
    rfl n
  rw [readModuleData_add hread 3] at hresult
  have hcfg : r.cfgFile = [] := by
    cases hresult
    rfl
  cases hback.noCfgFile.mp hcfg

end ModuleMemory
