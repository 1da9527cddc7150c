import Mathlib.Data.List.TakeWhile
import Mathlib.Data.Vector.Basic
import TofNet.LittleEndian

/-!
# The relay protocol

`tof_net` carries raw frames and calibration data from the machine with the
camera (Machine A, `tof_net_collect`) to the machine with the display
(Machine B, `tof_net_viewer`). This module is
`tof_net/protocol.hpp` and `protocol.cpp`: the message header, the packed
payload structures, `copy_cstr` and `cstr_to_string` for the fixed-width
names inside them, and `pack_message` / `unpack_message`.

Strings and byte vectors are both `Bytes`. A `char[n]` is a `CharArray n`, a
list that carries its length, so that every encoding has the width the
packed structure has.

A payload structure is a Lean structure of the same fields with an `encode` and
a `decode`. The encoding is the concatenation of the fields in their order, as
the source packs them without padding; the decoding reads each field at its
offset, whatever is behind. That the two fit is said in the form in which it is
used: what was encoded is read back from the front of any bytes
(`decode_encode_append`), since a payload may be followed by more.

A structure is read also from bytes that are too few, and gives zeros there. The
source checks the size ahead of every read; where such a check is missing, it is
a matter of the module that models the read.
-/

/-- A `std::string` or a `std::vector<uint8_t>`. -/
abbrev Bytes := List UInt8

/-- Membership in a list of byte strings is decided by their equality. -/
instance instLawfulBEqBytes : LawfulBEq Bytes := inferInstance

/-- The bytes of an ASCII literal. -/
def ascii (s : String) : Bytes := s.toList.map (fun c => UInt8.ofNat c.toNat)

/-- A fixed-width character array `char[n]`. -/
abbrev CharArray (n : ℕ) := List.Vector UInt8 n

/-- `"ATR1"` read as a little-endian number. -/
def kMagic : UInt32 := 0x31525441

/-- The version of the protocol. -/
def kProtocolVersion : UInt16 := 1

/-- The characters of a name. -/
def kNameLen : ℕ := 64

/-! ## Fixed-width names

A name is copied into a field of `n` bytes and read back at its first NUL. What
survives is the part ahead of the first NUL, as far as it fits beside the NUL
that `copy_cstr` keeps room for. -/

/-- `copy_cstr`: the buffer is cleared and `strncpy` copies at most
`dst_size - 1` characters, stopping at a NUL. -/
def copyCstr (dstSize : ℕ) (src : Bytes) : CharArray dstSize :=
  ⟨((src.takeWhile (· ≠ 0)).take (dstSize - 1)).takeD dstSize 0, List.takeD_length _ _ _⟩

/-- `cstr_to_string`: the characters before the first NUL, or all of them. -/
def cstrToString {n : ℕ} (buf : CharArray n) : Bytes := buf.toList.takeWhile (· ≠ 0)

/-- What a name becomes on the wire: cut at its first NUL and at the last
place that leaves room for one. -/
def wireName (n : ℕ) (s : Bytes) : Bytes := (s.takeWhile (· ≠ 0)).take (n - 1)

/-- A padded list of non-NUL characters ends at its padding. -/
theorem takeWhile_takeD {s : Bytes} {n : ℕ} (hs : ∀ c ∈ s, c ≠ 0) (hn : s.length < n) :
    (s.takeD n 0).takeWhile (· ≠ 0) = s := by
  induction s generalizing n with
  | nil =>
    cases n with
    | zero => rfl
    | succ n => rfl
  | cons c s ih =>
    cases n with
    | zero => exact absurd hn (by simp)
    | succ n =>
      have hc : c ≠ 0 := hs c List.mem_cons_self
      have ht := ih (fun d hd => hs d (List.mem_cons_of_mem c hd)) (Nat.lt_of_succ_lt_succ hn)
      rw [List.takeD, List.takeWhile_cons, if_pos (by simpa using hc)]
      exact congrArg (c :: ·) ht

/-- No character of a wire name is a NUL. -/
theorem ne_zero_of_mem_wireName {n : ℕ} {s : Bytes} {c : UInt8} (h : c ∈ wireName n s) :
    c ≠ 0 := by
  simpa using List.mem_takeWhile_imp (List.mem_of_mem_take h)

/-- **A name read back from its buffer is its wire name.** -/
theorem cstrToString_copyCstr {n : ℕ} (hn : 0 < n) (s : Bytes) :
    cstrToString (copyCstr n s) = wireName n s := by
  refine takeWhile_takeD (fun c hc => ne_zero_of_mem_wireName hc) ?_
  have h : (wireName n s).length ≤ n - 1 := List.length_take_le _ _
  exact lt_of_le_of_lt h (Nat.sub_lt hn Nat.one_pos)

/-- A name that fits and has no NUL crosses the wire unchanged. -/
theorem wireName_of_fits {n : ℕ} {s : Bytes} (hs : ∀ c ∈ s, c ≠ 0)
    (hlen : s.length ≤ n - 1) : wireName n s = s := by
  have htw : s.takeWhile (· ≠ 0) = s := by
    rw [List.takeWhile_eq_self_iff]
    exact fun c hc => by simpa using hs c hc
  rw [wireName, htw, List.take_of_length_le hlen]

/-- The `n` characters at offset `off`. -/
def getChars (off n : ℕ) (bs : Bytes) : CharArray n :=
  ⟨(slice off n bs).takeD n 0, List.takeD_length _ _ _⟩

/-- What is in front of the offset does not matter. -/
@[simp] theorem getChars_skip {off n : ℕ} {a bs : Bytes} (h : a.length ≤ off) :
    getChars off n (a ++ bs) = getChars (off - a.length) n bs := by
  refine Subtype.ext ?_
  show (slice off n (a ++ bs)).takeD n 0 = (slice (off - a.length) n bs).takeD n 0
  rw [slice_skip h]

/-- **A character array is read back.** -/
@[simp] theorem getChars_toList {n : ℕ} (a : CharArray n) (bs : Bytes) :
    getChars 0 n (a.toList ++ bs) = a := by
  refine Subtype.ext ?_
  show (slice 0 n (a.toList ++ bs)).takeD n 0 = a.toList
  have hlen : a.toList.length = n := a.2
  rw [slice_front hlen, List.takeD_eq_take _ (le_of_eq hlen.symm),
    List.take_of_length_le (le_of_eq hlen)]

/-! ## The message header

The header has a magic number, a version, a type, its own size and that of the
payload. `unpack_message` checks all of them but the type, which it takes as it
is. -/

/-- `enum class MessageType : uint16_t`. An enumeration with a fixed
underlying type holds any value of it, so a received type is kept as its
code. -/
structure MessageType where
  code : UInt16
  deriving DecidableEq, Repr

namespace MessageType

def hello : MessageType := ⟨1⟩
def startCapture : MessageType := ⟨2⟩
def stopCapture : MessageType := ⟨3⟩
def dataFrame : MessageType := ⟨4⟩
def status : MessageType := ⟨5⟩
def error : MessageType := ⟨6⟩
def shutdown : MessageType := ⟨7⟩
def ccbFile : MessageType := ⟨8⟩
def cfgFile : MessageType := ⟨9⟩
def dealiasData : MessageType := ⟨10⟩

end MessageType

/-- `sizeof(MessageHeader)`, as the source asserts it. -/
def messageHeaderSize : ℕ := 20

structure MessageHeader where
  magic : UInt32 := kMagic
  version : UInt16 := kProtocolVersion
  type : UInt16 := 0
  headerBytes : UInt32 := 20
  payloadBytes : UInt64 := 0
  deriving DecidableEq, Repr

namespace MessageHeader

/-- The packed header. -/
def encode (h : MessageHeader) : Bytes :=
  le32 h.magic ++ (le16 h.version ++ (le16 h.type ++ (le32 h.headerBytes
    ++ le64 h.payloadBytes)))

/-- The header read from the first bytes of a buffer. -/
def decode (bs : Bytes) : MessageHeader where
  magic := get32 0 bs
  version := get16 4 bs
  type := get16 6 bs
  headerBytes := get32 8 bs
  payloadBytes := get64 12 bs

@[simp] theorem length_encode (h : MessageHeader) : h.encode.length = messageHeaderSize := by
  simp [encode, messageHeaderSize]

/-- **A header is read back from the front of any buffer it heads.** -/
@[simp] theorem decode_encode_append (h : MessageHeader) (post : Bytes) :
    decode (h.encode ++ post) = h := by
  simp [decode, encode]

end MessageHeader

/-- A received or sent message. -/
structure Message where
  type : MessageType
  payload : Bytes
  deriving DecidableEq, Repr

/-- The header `pack_message` writes for a message. -/
def Message.header (m : Message) : MessageHeader where
  type := m.type.code
  payloadBytes := UInt64.ofNat m.payload.length

/-- `pack_message`. The source's only error is a null pointer given with a
positive size, which a byte list cannot be. -/
def packMessage (m : Message) : Bytes := m.header.encode ++ m.payload

@[simp] theorem length_packMessage (m : Message) :
    (packMessage m).length = messageHeaderSize + m.payload.length := by
  rw [packMessage, List.length_append, MessageHeader.length_encode]

/-- `unpack_message`. The sum in the size test is a `size_t` sum, which
wraps. -/
def unpackMessage (bytes : Bytes) : Except String Message :=
  if bytes.length < messageHeaderSize then
    .error "message too small"
  else
    let header := MessageHeader.decode bytes
    if header.magic ≠ kMagic ∨ header.version ≠ kProtocolVersion then
      .error "invalid protocol header"
    else if header.headerBytes ≠ 20 then
      .error "unsupported message header size"
    else if bytes.length ≠ (20 + header.payloadBytes).toNat then
      .error "message size mismatch"
    else
      .ok ⟨⟨header.type⟩, bytes.drop messageHeaderSize⟩

/-- The first four bytes of every frame, which `unpack_message` and
`recv_message` check. -/
@[simp] theorem Message.header_magic (m : Message) : m.header.magic = kMagic := rfl
@[simp] theorem Message.header_version (m : Message) :
    m.header.version = kProtocolVersion := rfl
@[simp] theorem Message.header_headerBytes (m : Message) : m.header.headerBytes = 20 := rfl
@[simp] theorem Message.header_type (m : Message) : m.header.type = m.type.code := rfl

/-- A payload a `size_t` can count has its exact length in the header. -/
theorem Message.header_payloadBytes {m : Message} (h : m.payload.length < 2 ^ 64) :
    m.header.payloadBytes.toNat = m.payload.length := by
  show (UInt64.ofNat m.payload.length).toNat = _
  rw [UInt64.toNat_ofNat']
  exact Nat.mod_eq_of_lt h

/-! ## The payloads

Each structure has its size, its encoding and its decoding, and two lemmas on
these: how long the encoding is, and that it is read back. Enumerations are
codes, as any number may come over the wire. -/

/-- The width of a name field, as a literal. -/
theorem length_name (a : CharArray kNameLen) : a.toList.length = 64 := a.2

/-- `enum class StatusCode : uint16_t`. -/
structure StatusCode where
  code : UInt16
  deriving DecidableEq, Repr

namespace StatusCode

def ok : StatusCode := ⟨0⟩
def connected : StatusCode := ⟨1⟩
def waitingForCommand : StatusCode := ⟨2⟩
def capturing : StatusCode := ⟨3⟩
def stopped : StatusCode := ⟨4⟩
def error : StatusCode := ⟨5⟩

end StatusCode

/-- `enum class Codec : uint16_t`. -/
structure Codec where
  code : UInt16
  deriving DecidableEq, Repr

namespace Codec

def none : Codec := ⟨0⟩
def zstd : Codec := ⟨1⟩

end Codec

/-- `sizeof(HelloPayload)`. -/
def helloPayloadSize : ℕ := 132

structure HelloPayload where
  appName : CharArray kNameLen := copyCstr kNameLen []
  sdkVersion : CharArray kNameLen := copyCstr kNameLen []
  protocolVersion : UInt32 := kProtocolVersion.toUInt32
  deriving DecidableEq

namespace HelloPayload

/-- The packed structure. -/
def encode (p : HelloPayload) : Bytes :=
  p.appName.toList ++ (p.sdkVersion.toList ++ le32 p.protocolVersion)

/-- The structure read from the first bytes of a payload. -/
def decode (bs : Bytes) : HelloPayload where
  appName := getChars 0 kNameLen bs
  sdkVersion := getChars 64 kNameLen bs
  protocolVersion := get32 128 bs

@[simp] theorem length_encode (p : HelloPayload) :
    p.encode.length = helloPayloadSize := by
  simp [encode]
  rfl

/-- **The structure is read back from the front of its payload.** -/
@[simp] theorem decode_encode_append (p : HelloPayload) (post : Bytes) :
    decode (p.encode ++ post) = p := by
  simp [decode, encode, length_name, -List.Vector.toList_length]

end HelloPayload

/-- `sizeof(StartCapturePayload)`. -/
def startCapturePayloadSize : ℕ := 72

structure StartCapturePayload where
  frameType : CharArray kNameLen := copyCstr kNameLen []
  mode : UInt16 := 0
  reserved : UInt16 := 0
  requestedFps : UInt32 := 0
  deriving DecidableEq

namespace StartCapturePayload

/-- The packed structure. -/
def encode (p : StartCapturePayload) : Bytes :=
  p.frameType.toList ++ (le16 p.mode ++ (le16 p.reserved ++ le32 p.requestedFps))

/-- The structure read from the first bytes of a payload. -/
def decode (bs : Bytes) : StartCapturePayload where
  frameType := getChars 0 kNameLen bs
  mode := get16 64 bs
  reserved := get16 66 bs
  requestedFps := get32 68 bs

@[simp] theorem length_encode (p : StartCapturePayload) :
    p.encode.length = startCapturePayloadSize := by
  simp [encode]
  rfl

/-- **The structure is read back from the front of its payload.** -/
@[simp] theorem decode_encode_append (p : StartCapturePayload) (post : Bytes) :
    decode (p.encode ++ post) = p := by
  simp [decode, encode, length_name, -List.Vector.toList_length]

end StartCapturePayload

/-- `sizeof(StatusPayload)`. -/
def statusPayloadSize : ℕ := 140

structure StatusPayload where
  code : UInt16 := StatusCode.ok.code
  reserved : UInt16 := 0
  frameId : UInt64 := 0
  text : CharArray 128 := copyCstr 128 []
  deriving DecidableEq

namespace StatusPayload

/-- The packed structure. -/
def encode (p : StatusPayload) : Bytes :=
  le16 p.code ++ (le16 p.reserved ++ (le64 p.frameId ++ p.text.toList))

/-- The structure read from the first bytes of a payload. -/
def decode (bs : Bytes) : StatusPayload where
  code := get16 0 bs
  reserved := get16 2 bs
  frameId := get64 4 bs
  text := getChars 12 128 bs

@[simp] theorem length_encode (p : StatusPayload) :
    p.encode.length = statusPayloadSize := by
  simp [encode]
  rfl

/-- **The structure is read back from the front of its payload.** -/
@[simp] theorem decode_encode_append (p : StatusPayload) (post : Bytes) :
    decode (p.encode ++ post) = p := by
  simp [decode, encode]

end StatusPayload

/-- `sizeof(DataFramePayloadHeader)`. -/
def dataFrameHeaderSize : ℕ := 100

structure DataFramePayloadHeader where
  frameId : UInt64 := 0
  timestampNs : UInt64 := 0
  rawWidth : UInt32 := 0
  rawHeight : UInt32 := 0
  rawBytes : UInt32 := 0
  compressedBytes : UInt32 := 0
  codec : UInt16 := Codec.zstd.code
  mode : UInt16 := 0
  frameType : CharArray kNameLen := copyCstr kNameLen []
  deriving DecidableEq

namespace DataFramePayloadHeader

/-- The packed header. -/
def encode (h : DataFramePayloadHeader) : Bytes :=
  le64 h.frameId ++ (le64 h.timestampNs ++ (le32 h.rawWidth ++ (le32 h.rawHeight
    ++ (le32 h.rawBytes ++ (le32 h.compressedBytes ++ (le16 h.codec ++ (le16 h.mode
    ++ h.frameType.toList)))))))

/-- The header read from the first bytes of a payload. -/
def decode (bs : Bytes) : DataFramePayloadHeader where
  frameId := get64 0 bs
  timestampNs := get64 8 bs
  rawWidth := get32 16 bs
  rawHeight := get32 20 bs
  rawBytes := get32 24 bs
  compressedBytes := get32 28 bs
  codec := get16 32 bs
  mode := get16 34 bs
  frameType := getChars 36 kNameLen bs

@[simp] theorem length_encode (h : DataFramePayloadHeader) :
    h.encode.length = dataFrameHeaderSize := by
  have hname : h.frameType.toList.length = kNameLen := h.frameType.2
  simp [encode, hname]
  rfl

/-- **The header is read back from the front of its payload.** -/
theorem decode_encode_append (h : DataFramePayloadHeader) (post : Bytes) :
    decode (h.encode ++ post) = h := by
  simp [decode, encode]

end DataFramePayloadHeader

/-- `sizeof(CcbFilePayloadHeader)`. -/
def ccbFileHeaderSize : ℕ := 72

structure CcbFilePayloadHeader where
  ccbBytes : UInt32 := 0
  reserved : UInt32 := 0
  filename : CharArray kNameLen := copyCstr kNameLen []
  deriving DecidableEq

namespace CcbFilePayloadHeader

/-- The packed structure. -/
def encode (p : CcbFilePayloadHeader) : Bytes :=
  le32 p.ccbBytes ++ (le32 p.reserved ++ p.filename.toList)

/-- The structure read from the first bytes of a payload. -/
def decode (bs : Bytes) : CcbFilePayloadHeader where
  ccbBytes := get32 0 bs
  reserved := get32 4 bs
  filename := getChars 8 kNameLen bs

@[simp] theorem length_encode (p : CcbFilePayloadHeader) :
    p.encode.length = ccbFileHeaderSize := by
  simp [encode]
  rfl

/-- **The structure is read back from the front of its payload.** -/
@[simp] theorem decode_encode_append (p : CcbFilePayloadHeader) (post : Bytes) :
    decode (p.encode ++ post) = p := by
  simp [decode, encode]

end CcbFilePayloadHeader

/-- `sizeof(DealiasDataPayload)`. -/
def dealiasDataPayloadSize : ℕ := 72

structure DealiasDataPayload where
  frameType : CharArray kNameLen := copyCstr kNameLen []
  dataBytes : UInt32 := 0
  reserved : UInt32 := 0
  deriving DecidableEq

namespace DealiasDataPayload

/-- The packed structure. -/
def encode (p : DealiasDataPayload) : Bytes :=
  p.frameType.toList ++ (le32 p.dataBytes ++ le32 p.reserved)

/-- The structure read from the first bytes of a payload. -/
def decode (bs : Bytes) : DealiasDataPayload where
  frameType := getChars 0 kNameLen bs
  dataBytes := get32 64 bs
  reserved := get32 68 bs

@[simp] theorem length_encode (p : DealiasDataPayload) :
    p.encode.length = dealiasDataPayloadSize := by
  simp [encode]
  rfl

/-- **The structure is read back from the front of its payload.** -/
@[simp] theorem decode_encode_append (p : DealiasDataPayload) (post : Bytes) :
    decode (p.encode ++ post) = p := by
  simp [decode, encode, length_name, -List.Vector.toList_length]

end DealiasDataPayload
