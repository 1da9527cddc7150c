import TofNet.Framing
import TofNet.RawBlocks

/-!
# Raw frames from end to end

The body of the capture loop of `session()` in `tof_net_collect`, which turns
a `RawFrame` into a DataFrame message, and `handleDataFrame` of
`tof_net_viewer`, which turns the message back.

The two meet in one packed header, and the header counts the compressed bytes
in 32 bits. A frame of up to `2^32 - 1` bytes may compress to more than that
when it does not compress at all, and then the count the header carries is
not the size of what follows it. `dataFrame_lossless_iff` says exactly when
that loses the frame.

The compression library is a parameter with two laws: it reads back what it has
written, and it refuses a front of it. The first is enough for the frames that
survive. That the others do not is where the second is needed, as the viewer
then hands a front of the compressed data to the library.
-/

/-! ## The encoder

The fields of the header are those of the frame, and the count is a cast.
Nothing is checked on the way; whatever the library returns is sent. -/

/-- `CameraRawSource::RawFrame`, less the two sub-element counts, which
nothing but the log reads. -/
structure RawFrame where
  width : UInt32 := 0
  height : UInt32 := 0
  bytes : UInt32 := 0
  mode : UInt16 := 0
  frameType : Bytes := []
  data : Bytes := []

/-- **A frame as the capture thread gets it**: `bytes` is the size of the
data, which is not empty, and the frame type fits its field. -/
structure RawFrame.WellFormed (f : RawFrame) : Prop where
  /-- The size is that of the data, … -/
  bytes : f.bytes.toNat = f.data.length
  /-- … of which there is some. -/
  nonempty : 0 < f.data.length
  /-- The name fits its field, … -/
  nameFits : f.frameType.length ≤ kNameLen - 1
  /-- … and has no zero in it. -/
  nameNoNul : ∀ c ∈ f.frameType, c ≠ 0

/-- The header the capture thread fills in for compressed data of a given
size; the size is cast to 32 bits. -/
def dataFrameHeader (frameId timestampNs : UInt64) (f : RawFrame) (compressed : Bytes) :
    DataFramePayloadHeader where
  frameId := frameId
  timestampNs := timestampNs
  rawWidth := f.width
  rawHeight := f.height
  rawBytes := f.bytes
  compressedBytes := UInt32.ofNat compressed.length
  codec := Codec.zstd.code
  mode := f.mode
  frameType := copyCstr kNameLen f.frameType

/-- **The DataFrame message** of a raw frame, as the capture loop builds it. -/
def encodeDataFrame (z : Zstd) (level : Int) (frameId timestampNs : UInt64) (f : RawFrame) :
    Except String Message :=
  match zstdCompress z f.data level with
  | .error e => .error e
  | .ok compressed =>
    .ok ⟨.dataFrame, (dataFrameHeader frameId timestampNs f compressed).encode ++ compressed⟩

/-! ## The decoder

`handleDataFrame` reads the header, cuts the payload by the count, and decodes
the part. The test for back-pressure stands between the two, so that a message
with a bad count is refused even where a good one would be dropped. -/

/-- `kMinTofiFrameInterval`, in nanoseconds of the steady clock. -/
def kMinTofiFrameInterval : ℕ := 250000000

/-- What `handleDataFrame` makes of a message: it drops the frame while the
depth computation is behind, or hands the header and the raw bytes on. -/
inductive FrameVerdict
  | dropped
  | frame (header : DataFramePayloadHeader) (rawBytes : Bytes)

/-- The bytes that stand for the frame in a payload: as many as the header
counts, or all of them if it counts none. -/
def compressedPart (payload : Bytes) : Except String Bytes :=
  let header := DataFramePayloadHeader.decode payload
  let available := payload.drop dataFrameHeaderSize
  let compressedBytes :=
    if header.compressedBytes.toNat = 0 then available.length else header.compressedBytes.toNat
  if compressedBytes > available.length then
    .error "Malformed DataFrame message: payload truncated"
  else
    .ok (available.take compressedBytes)

/-- The codec switch and the size check behind it. -/
def decodeRaw (z : Zstd) (header : DataFramePayloadHeader) (data : Bytes) :
    Except String FrameVerdict :=
  let decoded :=
    if header.codec = Codec.none.code then .ok data
    else if header.codec = Codec.zstd.code then zstdDecompress z data header.rawBytes.toNat
    else .error "Unsupported RAW frame codec"
  match decoded with
  | .error e => .error e
  | .ok rawBytes =>
    if rawBytes.length ≠ header.rawBytes.toNat then
      .error "Decoded RAW frame size does not match header"
    else
      .ok (.frame header rawBytes)

/-- The time since the last frame that was computed is too short. -/
def behind (now : ℕ) : Option ℕ → Bool
  | none => false
  | some last => now - last < kMinTofiFrameInterval

/-- `handleDataFrame`, up to the point where the frame is handed on. The state
is `m_lastTofiFrameTime`, with `none` for `time_point::min()`; `needsTofi`
is whether the configuration saves a computed plane. -/
def handleDataFrame (z : Zstd) (needsTofi : Bool) (now : ℕ) (lastTofiFrameTime : Option ℕ)
    (message : Message) : Option ℕ × Except String FrameVerdict :=
  if message.payload.length < dataFrameHeaderSize then
    (lastTofiFrameTime, .error "Malformed DataFrame message: header missing")
  else
    match compressedPart message.payload with
    | .error e => (lastTofiFrameTime, .error e)
    | .ok data =>
      if needsTofi && behind now lastTofiFrameTime then (lastTofiFrameTime, .ok .dropped)
      else
        (if needsTofi then some now else lastTofiFrameTime,
          decodeRaw z (DataFramePayloadHeader.decode message.payload) data)

variable {z : Zstd} {level : Int} {frameId timestampNs : UInt64} {f : RawFrame}
  {compressed : Bytes} {needsTofi : Bool} {now : ℕ} {lastTofiFrameTime : Option ℕ}
  {message : Message} {header : DataFramePayloadHeader} {data rawBytes : Bytes}

/-- Without back-pressure the handler decodes what it finds behind the
header. -/
theorem handleDataFrame_of_compressedPart
    (hlen : dataFrameHeaderSize ≤ message.payload.length)
    (hpart : compressedPart message.payload = .ok data)
    (hbp : (needsTofi && behind now lastTofiFrameTime) = false) :
    (handleDataFrame z needsTofi now lastTofiFrameTime message).2
      = decodeRaw z (DataFramePayloadHeader.decode message.payload) data := by
  unfold handleDataFrame
  rw [if_neg (Nat.not_lt.mpr hlen)]
  simp only [hpart, hbp]
  rw [if_neg Bool.false_ne_true]

/-! ## What the decoder finds behind the header

A count of zero stands for the whole payload. This makes a size of exactly
`2^32` harmless, and is the reason why the condition of the theorem ends with
it. -/

/-- The size of the frame's data once compressed, or zero if the library
fails. -/
def compressedSize (z : Zstd) (level : Int) (data : Bytes) : ℕ :=
  match zstdCompress z data level with
  | .error _ => 0
  | .ok compressed => compressed.length

/-- **The count in the header wraps**: what is taken for the frame is all of
the compressed data if its size is a multiple of `2^32`, and else as much of
it as the size modulo `2^32`. -/
theorem compressedPart_encode (h : header.compressedBytes = UInt32.ofNat compressed.length) :
    compressedPart (header.encode ++ compressed)
      = .ok (if compressed.length % 2 ^ 32 = 0 then compressed
          else compressed.take (compressed.length % 2 ^ 32)) := by
  have hdrop : (header.encode ++ compressed).drop dataFrameHeaderSize = compressed :=
    List.drop_left' header.length_encode
  have hcount : header.compressedBytes.toNat = compressed.length % 2 ^ 32 := by
    rw [h, UInt32.toNat_ofNat']
  have hle : compressed.length % 2 ^ 32 ≤ compressed.length := Nat.mod_le _ _
  unfold compressedPart
  simp only [DataFramePayloadHeader.decode_encode_append, hdrop, hcount]
  by_cases hz : compressed.length % 2 ^ 32 = 0
  · simp only [if_pos hz, List.take_length]
    exact if_neg (Nat.lt_irrefl _)
  · simp only [if_neg hz]
    exact if_neg (Nat.not_lt.mpr hle)

/-- The codec switch on a zstd header. -/
theorem decodeRaw_zstd (hcodec : header.codec = Codec.zstd.code)
    (h : zstdDecompress z data header.rawBytes.toNat = .ok rawBytes) :
    decodeRaw z header data = .ok (.frame header rawBytes) := by
  have hne : header.codec ≠ Codec.none.code := by
    rw [hcodec]
    decide
  unfold decodeRaw
  simp only [if_neg hne, if_pos hcodec, h]
  exact if_neg (not_not.mpr (length_of_zstdDecompress h))

/-- If the library refuses the data, the viewer does. -/
theorem decodeRaw_zstd_error (hcodec : header.codec = Codec.zstd.code)
    (h : ∃ e, z.decompress header.rawBytes.toNat data = .error e) :
    ∃ e, decodeRaw z header data = .error e := by
  have hne : header.codec ≠ Codec.none.code := by
    rw [hcodec]
    decide
  obtain ⟨e, he⟩ := h
  refine ⟨"ZSTD_decompress failed: " ++ e, ?_⟩
  unfold decodeRaw
  simp only [if_neg hne, if_pos hcodec, zstdDecompress, he]

/-! ## Losslessness

The theorem is about the message that the collector sends, whatever the viewer's
state: with back-pressure the frame is dropped on purpose, and nothing is asked
of it. -/

/-- The fields of a raw frame, as the header has them. -/
structure RawFrame.CarriedBy (f : RawFrame) (frameId timestampNs : UInt64)
    (h : DataFramePayloadHeader) : Prop where
  frameId : h.frameId = frameId
  timestampNs : h.timestampNs = timestampNs
  rawWidth : h.rawWidth = f.width
  rawHeight : h.rawHeight = f.height
  mode : h.mode = f.mode
  frameType : cstrToString h.frameType = f.frameType

/-- **The viewer recovers the frame**: unless it drops the message for
back-pressure, it hands on the very bytes with the very fields. -/
def Recovers (z : Zstd) (frameId timestampNs : UInt64) (f : RawFrame) (message : Message) : Prop :=
  ∀ needsTofi now lastTofiFrameTime, (needsTofi && behind now lastTofiFrameTime) = false →
    ∃ header, (handleDataFrame z needsTofi now lastTofiFrameTime message).2
        = .ok (.frame header f.data) ∧ f.CarriedBy frameId timestampNs header

/-- The bytes a payload can be decoded to, given room for `cap` of them. -/
def DecodesTo (z : Zstd) (codec : UInt16) (cap : ℕ) (data out : Bytes) : Prop :=
  (codec = Codec.none.code ∧ out = data) ∨
    (codec = Codec.zstd.code ∧ z.decompress cap data = .ok out)

/-- **The viewer rejects every message whose decoded length is not the one
in its header.** -/
def RejectsWrongSize (z : Zstd) : Prop :=
  ∀ needsTofi now lastTofiFrameTime message data,
    (needsTofi && behind now lastTofiFrameTime) = false →
    compressedPart message.payload = .ok data →
    (∀ cap out, DecodesTo z (DataFramePayloadHeader.decode message.payload).codec cap data out →
      out.length ≠ (DataFramePayloadHeader.decode message.payload).rawBytes.toNat) →
    ∃ e, (handleDataFrame z needsTofi now lastTofiFrameTime message).2 = .error e

/-- The length of what was decoded is compared with the header's in every
case. -/
theorem rejectsWrongSize (z : Zstd) : RejectsWrongSize z := by
  intro needsTofi now lastTofiFrameTime message data hbp hpart hlen
  by_cases hshort : message.payload.length < dataFrameHeaderSize
  · exact ⟨_, by unfold handleDataFrame; rw [if_pos hshort]⟩
  rw [handleDataFrame_of_compressedPart (Nat.not_lt.mp hshort) hpart hbp]
  set header := DataFramePayloadHeader.decode message.payload
  unfold decodeRaw
  simp only
  split
  · next e _ => exact ⟨e, rfl⟩
  · next rawBytes heq =>
    refine ⟨_, if_pos ?_⟩
    split at heq
    · next hnone => exact hlen 0 rawBytes (Or.inl ⟨hnone, (Except.ok.inj heq).symm⟩)
    · split at heq
      · next hzstd =>
        exact hlen _ rawBytes (Or.inr ⟨hzstd, decompress_of_zstdDecompress heq⟩)
      · cases heq

/-- The name in the header is the frame's. -/
theorem carriedBy_dataFrameHeader (hf : f.WellFormed) :
    f.CarriedBy frameId timestampNs (dataFrameHeader frameId timestampNs f compressed) where
  frameId := rfl
  timestampNs := rfl
  rawWidth := rfl
  rawHeight := rfl
  mode := rfl
  frameType := by
    show cstrToString (copyCstr kNameLen f.frameType) = f.frameType
    rw [cstrToString_copyCstr (by decide), wireName_of_fits hf.nameNoNul hf.nameFits]

/-- The message the collector sends has the compressed data behind its
header. -/
theorem encodeDataFrame_eq (h : encodeDataFrame z level frameId timestampNs f = .ok message) :
    ∃ compressed, zstdCompress z f.data level = .ok compressed ∧
      compressedSize z level f.data = compressed.length ∧
      message = ⟨.dataFrame,
        (dataFrameHeader frameId timestampNs f compressed).encode ++ compressed⟩ := by
  unfold encodeDataFrame at h
  split at h
  · cases h
  · next compressed heq =>
    exact ⟨compressed, heq, by rw [compressedSize, heq], (Except.ok.inj h).symm⟩

/-- What the viewer hands on of a message the collector sends: the result of
decoding the part of the compressed data the count in the header covers. -/
theorem handleDataFrame_encode
    (hbp : (needsTofi && behind now lastTofiFrameTime) = false) :
    (handleDataFrame z needsTofi now lastTofiFrameTime ⟨.dataFrame,
      (dataFrameHeader frameId timestampNs f compressed).encode ++ compressed⟩).2
      = decodeRaw z (dataFrameHeader frameId timestampNs f compressed)
          (if compressed.length % 2 ^ 32 = 0 then compressed
            else compressed.take (compressed.length % 2 ^ 32)) := by
  have hlen : dataFrameHeaderSize
      ≤ ((dataFrameHeader frameId timestampNs f compressed).encode ++ compressed).length := by
    rw [List.length_append, DataFramePayloadHeader.length_encode]
    exact Nat.le_add_right _ _
  set header := dataFrameHeader frameId timestampNs f compressed
  have hpart := compressedPart_encode (show header.compressedBytes = _ from rfl)
  have h := handleDataFrame_of_compressedPart (z := z)
    (show dataFrameHeaderSize ≤ (Message.mk .dataFrame (header.encode ++ compressed)).payload.length
      from hlen) hpart hbp
  simp only [DataFramePayloadHeader.decode_encode_append] at h
  exact h

/-- **A frame whose compressed size the header can hold is recovered.** -/
theorem recovers_of_compressedSize_le (hinv : z.Inverts) (hf : f.WellFormed)
    (hmsg : encodeDataFrame z level frameId timestampNs f = .ok message)
    (hsize : compressedSize z level f.data ≤ 2 ^ 32) :
    Recovers z frameId timestampNs f message := by
  intro needsTofi now lastTofiFrameTime hbp
  obtain ⟨compressed, hcomp, hcs, rfl⟩ := encodeDataFrame_eq hmsg
  refine ⟨dataFrameHeader frameId timestampNs f compressed, ?_, carriedBy_dataFrameHeader hf⟩
  rw [hcs] at hsize
  have hall : (if compressed.length % 2 ^ 32 = 0 then compressed
      else compressed.take (compressed.length % 2 ^ 32)) = compressed := by
    split
    · rfl
    · next hz =>
      have hmod : compressed.length % 2 ^ 32 = compressed.length := by omega
      rw [hmod, List.take_length]
  rw [handleDataFrame_encode hbp, hall]
  refine decodeRaw_zstd rfl ?_
  show zstdDecompress z compressed f.bytes.toNat = .ok f.data
  rw [hf.bytes]
  exact zstdDecompress_of_compress hinv hcomp

/-- **A frame whose compressed size the header cannot hold is refused.** -/
theorem compressedSize_le_of_recovers (hbound : z.FitsBound) (hpre : z.RejectsPrefix)
    (hf : f.WellFormed) (hmsg : encodeDataFrame z level frameId timestampNs f = .ok message)
    (hrec : Recovers z frameId timestampNs f message) :
    compressedSize z level f.data ≤ 2 ^ 32 := by
  obtain ⟨compressed, hcomp, hcs, rfl⟩ := encodeDataFrame_eq hmsg
  rw [hcs]
  by_contra hbig
  have hlib := compress_of_zstdCompress hcomp
  have hraw : f.data.length < 2 ^ 32 := by
    rw [← hf.bytes]
    exact f.bytes.toNat_lt
  have hlt : compressed.length < 2 * 2 ^ 32 :=
    lt_of_le_of_lt (hbound level f.data compressed hlib) (Zstd.compressBound_lt hraw)
  have hz : compressed.length % 2 ^ 32 ≠ 0 := by omega
  obtain ⟨header, hok, _⟩ := hrec false 0 none rfl
  rw [handleDataFrame_encode (by rfl), if_neg hz] at hok
  have hcut : ∃ e, z.decompress f.bytes.toNat (compressed.take (compressed.length % 2 ^ 32))
      = .error e := hpre level f.data compressed _ _ hlib (by omega) (by omega)
  obtain ⟨e, he⟩ : ∃ e, decodeRaw z (dataFrameHeader frameId timestampNs f compressed)
      (compressed.take (compressed.length % 2 ^ 32)) = .error e := decodeRaw_zstd_error rfl hcut
  rw [he] at hok
  cases hok

/-- A frame short enough for its bound is recovered whatever its data. -/
theorem recovers_of_length_le (hbound : z.FitsBound) (hinv : z.Inverts) (hf : f.WellFormed)
    (hmsg : encodeDataFrame z level frameId timestampNs f = .ok message)
    (hlen : f.data.length ≤ 4278255360) : Recovers z frameId timestampNs f message := by
  refine recovers_of_compressedSize_le hinv hf hmsg ?_
  obtain ⟨compressed, hcomp, hcs, _⟩ := encodeDataFrame_eq hmsg
  have hle := hbound level f.data compressed (compress_of_zstdCompress hcomp)
  rw [hcs]
  unfold Zstd.compressBound at hle
  split at hle <;> omega

/-- The message of a raw frame is one the receiver's framing accepts. -/
theorem encodeDataFrame_le_maxPayloadBytes (hbound : z.FitsBound) (hf : f.WellFormed)
    (hmsg : encodeDataFrame z level frameId timestampNs f = .ok message) :
    message.payload.length ≤ maxPayloadBytes := by
  obtain ⟨compressed, hcomp, _, rfl⟩ := encodeDataFrame_eq hmsg
  have hraw : f.data.length < 2 ^ 32 := by
    rw [← hf.bytes]
    exact f.bytes.toNat_lt
  have hle := hbound level f.data compressed (compress_of_zstdCompress hcomp)
  have hlt := Zstd.compressBound_lt hraw
  show ((dataFrameHeader frameId timestampNs f compressed).encode ++ compressed).length ≤ 2 ^ 34
  rw [List.length_append, DataFramePayloadHeader.length_encode, dataFrameHeaderSize]
  omega

/-- **When a raw frame is recovered**: exactly when its compressed size is at
most `2^32`, where the last value is saved by the zero it is sent as.

The header has 32 bits for the compressed size, and the collector casts. A size
of `2^32` is sent as zero, which the viewer reads as 'all that is left of the
payload'; one more than that and the viewer cuts the frame short. The other half
of the law is that the library refuses a frame cut short, which is why this
direction alone needs `RejectsPrefix`. The library is a parameter throughout,
with the two laws that its documentation has. -/
theorem dataFrame_lossless_iff (hbound : z.FitsBound) (hinv : z.Inverts) (hf : f.WellFormed)
    (hmsg : encodeDataFrame z level frameId timestampNs f = .ok message) :
    (compressedSize z level f.data ≤ 2 ^ 32 → Recovers z frameId timestampNs f message) ∧
      (z.RejectsPrefix → Recovers z frameId timestampNs f message →
        compressedSize z level f.data ≤ 2 ^ 32) ∧
      RejectsWrongSize z :=
  ⟨recovers_of_compressedSize_le hinv hf hmsg,
    fun hpre => compressedSize_le_of_recovers hbound hpre hf hmsg, rejectsWrongSize z⟩

/-- A frame of three bytes, and its message. -/
def smallFrame : RawFrame where
  width := 3
  height := 1
  bytes := 3
  frameType := ascii "sr-native"
  data := [1, 2, 3]

def smallMessage : Message :=
  ⟨.dataFrame, (dataFrameHeader 1 7 smallFrame (RawBlocks.frame [1, 2, 3])).encode
    ++ RawBlocks.frame [1, 2, 3]⟩

/-- Three bytes in raw blocks are a frame that is recovered: the codec of the
example is one that does not compress, and so the three laws are proved of it
and not assumed. -/
theorem dataFrame_lossless_iff_small :
    RawBlocks.codec.FitsBound ∧ RawBlocks.codec.Inverts ∧ RawBlocks.codec.RejectsPrefix ∧
      Recovers RawBlocks.codec 1 7 smallFrame smallMessage := by
  refine ⟨RawBlocks.codec_fitsBound, RawBlocks.codec_inverts, RawBlocks.codec_rejectsPrefix, ?_⟩
  have hf : smallFrame.WellFormed := ⟨rfl, by decide, by decide, by decide +kernel⟩
  have hmsg : encodeDataFrame RawBlocks.codec 3 1 7 smallFrame = .ok smallMessage := rfl
  have h := dataFrame_lossless_iff RawBlocks.codec_fitsBound RawBlocks.codec_inverts hf hmsg
  exact h.1 (by decide)

/-! ## A frame that is lost

Data that does not compress takes three bytes more for each of its blocks. A
frame whose size is the largest number of 32 bits then has a compressed size
beyond it. -/

/-- Bytes without structure: a counter, mixed. -/
def noise (i : ℕ) : UInt8 :=
  let a : UInt64 := UInt64.ofNat i * 0x9E3779B97F4A7C15
  let b := (a ^^^ (a >>> 30)) * 0xBF58476D1CE4E5B9
  let c := (b ^^^ (b >>> 27)) * 0x94D049BB133111EB
  (c ^^^ (c >>> 31)).toUInt8

/-- The largest frame there is, of bytes that do not compress. -/
def noiseFrame : RawFrame where
  width := 65537
  height := 65535
  bytes := 4294967295
  frameType := ascii "sr-native"
  data := (List.range 4294967295).map noise

/-- As many bytes as 32 bits can count. -/
theorem length_noiseFrame : noiseFrame.data.length = 4294967295 := by
  rw [noiseFrame, List.length_map, List.length_range]

/-- It is a frame that the capture thread may get. -/
theorem noiseFrame_wellFormed : noiseFrame.WellFormed where
  bytes := by rw [length_noiseFrame]; rfl
  nonempty := by rw [length_noiseFrame]; norm_num
  nameFits := by
    show (ascii "sr-native").length ≤ 63
    decide
  nameNoNul := by
    show ∀ c ∈ ascii "sr-native", c ≠ 0
    decide +kernel

/-- **The largest incompressible frame is lost**: in raw blocks it takes
98318 bytes more than its own size, and the header counts 98317. -/
theorem dataFrame_lost_of_noise :
    RawBlocks.codec.FitsBound ∧ RawBlocks.codec.Inverts ∧ noiseFrame.WellFormed ∧
      ∃ message, encodeDataFrame RawBlocks.codec 3 1 7 noiseFrame = .ok message ∧
        ¬ Recovers RawBlocks.codec 1 7 noiseFrame message := by
  refine ⟨RawBlocks.codec_fitsBound, RawBlocks.codec_inverts, noiseFrame_wellFormed, ?_⟩
  generalize hdata : noiseFrame.data = data
  have hlen : data.length = 4294967295 := by rw [← hdata, length_noiseFrame]
  have hcomp : zstdCompress RawBlocks.codec data 3 = .ok (RawBlocks.frame data) := by
    have h : RawBlocks.codec.compress 3 (Zstd.compressBound data.length) data
        = .ok (RawBlocks.frame data) := if_pos (RawBlocks.length_frame_le data)
    rw [zstdCompress, h]
  have hmsg : encodeDataFrame RawBlocks.codec 3 1 7 noiseFrame = .ok ⟨.dataFrame,
      (dataFrameHeader 1 7 noiseFrame (RawBlocks.frame data)).encode ++ RawBlocks.frame data⟩ := by
    rw [encodeDataFrame, hdata, hcomp]
  refine ⟨_, hmsg, fun hrec => ?_⟩
  have hle := compressedSize_le_of_recovers RawBlocks.codec_fitsBound
    RawBlocks.codec_rejectsPrefix noiseFrame_wellFormed hmsg hrec
  have hbig : data.length + 3 * 32768 ≤ (RawBlocks.frame data).length := by
    rw [RawBlocks.frame, List.length_append, List.length_append,
      RawBlocks.length_blocks (RawBlocks.fullBlocks_mul_le _), RawBlocks.fullBlocks, hlen]
    show _ ≤ _ + (_ + (_ + 3 * ((4294967295 - 1) / 131072 + 1)))
    omega
  rw [compressedSize, hdata, hcomp] at hle
  simp only at hle
  omega
