import TofNet.Protocol

/-!
# What `unpack_message` accepts

Every field of a message header is either checked or part of the message: the
magic number, the version and the size of the header are compared with those
that `pack_message` writes, the type is the message's, and the payload size is
compared with the bytes there are. The comparison is made with a sum that
wraps, which lets nothing through, as a sum that has wrapped is less than the
header's size. So the accepted byte vectors are the packed messages.

The converse of reading back what was written (`Protocol`) is that what is read
can be written back. Field by field this is a matter of lengths: a slice of as
many bytes as the field has is what its number is written as. The header then
has nothing that is not a field, and the message nothing that is not its header
or its payload.
-/

/-- A `std::vector<uint8_t>`, the size of which is a `size_t`. -/
abbrev ByteVector := { bytes : Bytes // bytes.length < 2 ^ 64 }

/-! ## Fields are written back

A number read from a slice is below the bound that the slice has, so that it is
no other number when it is taken for one of that many bits. -/

section Fields

variable {off : ℕ} {bs : Bytes}

/-- A slice within the buffer has its length. -/
theorem length_slice {w : ℕ} (h : off + w ≤ bs.length) : (slice off w bs).length = w := by
  rw [slice, List.length_take, List.length_drop]
  omega

/-- The bytes of a number that is read from as many. -/
theorem leBytes_slice {w : ℕ} (h : off + w ≤ bs.length) :
    leBytes w (leNat (slice off w bs)) = slice off w bs := by
  have hbytes := leBytes_leNat (slice off w bs)
  rwa [length_slice h] at hbytes

/-- Its number has no more bits than it. -/
theorem leNat_slice_lt {w : ℕ} (h : off + w ≤ bs.length) :
    leNat (slice off w bs) < 256 ^ w := by
  have hlt := leNat_lt (slice off w bs)
  rwa [length_slice h] at hlt

/-- **A 16-bit field is written back.** -/
theorem le16_get16 (h : off + 2 ≤ bs.length) : le16 (get16 off bs) = slice off 2 bs := by
  have hlt : leNat (slice off 2 bs) < 2 ^ 16 := leNat_slice_lt h
  rw [le16, get16, UInt16.toNat_ofNat', Nat.mod_eq_of_lt hlt, leBytes_slice h]

/-- **A 32-bit field is written back.** -/
theorem le32_get32 (h : off + 4 ≤ bs.length) : le32 (get32 off bs) = slice off 4 bs := by
  have hlt : leNat (slice off 4 bs) < 2 ^ 32 := leNat_slice_lt h
  rw [le32, get32, UInt32.toNat_ofNat', Nat.mod_eq_of_lt hlt, leBytes_slice h]

/-- **A 64-bit field is written back.** -/
theorem le64_get64 (h : off + 8 ≤ bs.length) : le64 (get64 off bs) = slice off 8 bs := by
  have hlt : leNat (slice off 8 bs) < 2 ^ 64 := leNat_slice_lt h
  rw [le64, get64, UInt64.toNat_ofNat', Nat.mod_eq_of_lt hlt, leBytes_slice h]

/-- Two slices, one behind the other, are one. -/
theorem slice_append (off v w : ℕ) (bs : Bytes) :
    slice off v bs ++ slice (off + v) w bs = slice off (v + w) bs := by
  rw [slice, slice, slice, List.take_add, List.drop_drop]

end Fields

/-- **A header is written back**, from a buffer that is long enough for one. -/
theorem MessageHeader.encode_decode {bs : Bytes} (h : messageHeaderSize ≤ bs.length) :
    (MessageHeader.decode bs).encode = bs.take messageHeaderSize := by
  have hsize : 20 ≤ bs.length := h
  rw [encode, decode, le32_get32 (by omega), le16_get16 (by omega), le16_get16 (by omega),
    le32_get32 (by omega), le64_get64 (by omega)]
  rw [slice_append 8, slice_append 6, slice_append 4, slice_append 0]
  rfl

/-! ## The image of `pack_message`

The two directions are shown apart. A byte vector with a length of `2^64` and
more cannot be had, and this is where the wrapping sum is harmless. -/

/-- What an accepted byte vector is. -/
theorem unpackMessage_eq_ok_iff {bytes : Bytes} {m : Message} :
    unpackMessage bytes = .ok m ↔ messageHeaderSize ≤ bytes.length
      ∧ (MessageHeader.decode bytes).magic = kMagic
      ∧ (MessageHeader.decode bytes).version = kProtocolVersion
      ∧ (MessageHeader.decode bytes).headerBytes = 20
      ∧ bytes.length = (20 + (MessageHeader.decode bytes).payloadBytes).toNat
      ∧ m = ⟨⟨(MessageHeader.decode bytes).type⟩, bytes.drop messageHeaderSize⟩ := by
  unfold unpackMessage
  by_cases hsize : bytes.length < messageHeaderSize
  · simp [hsize, Nat.not_le.mpr hsize]
  · simp only [hsize, if_false, Nat.not_lt.mp hsize, true_and]
    split
    · next hmagic =>
      exact ⟨fun h => (nomatch h),
        fun h => absurd hmagic (not_or.mpr ⟨not_not.mpr h.1, not_not.mpr h.2.1⟩)⟩
    · next hmagic =>
      obtain ⟨hmagic, hversion⟩ := not_or.mp hmagic
      split
      · next hheader => exact ⟨fun h => (nomatch h), fun h => absurd h.2.2.1 hheader⟩
      · next hheader =>
        split
        · next hlength => exact ⟨fun h => (nomatch h), fun h => absurd h.2.2.2.1 hlength⟩
        · next hlength =>
          refine ⟨fun h => ?_, fun h => by rw [h.2.2.2.2]⟩
          cases h
          exact ⟨not_not.mp hmagic, not_not.mp hversion, not_not.mp hheader,
            not_not.mp hlength, rfl⟩

/-- **The sum of the size test has not wrapped** where it is that of a byte
vector with a header. -/
theorem payloadBytes_of_length {bytes : Bytes} {n : UInt64}
    (hsize : messageHeaderSize ≤ bytes.length) (hlength : bytes.length = (20 + n).toNat) :
    bytes.length = messageHeaderSize + n.toNat ∧ messageHeaderSize + n.toNat < 2 ^ 64 := by
  have hn := n.toNat_lt
  have htwenty : (20 : UInt64).toNat = 20 := rfl
  rw [UInt64.toNat_add, htwenty] at hlength
  rw [messageHeaderSize] at *
  omega

/-- **An accepted byte vector is packed.** -/
theorem eq_packMessage_of_ok {bytes : Bytes} {m : Message} (h : unpackMessage bytes = .ok m) :
    bytes = packMessage m := by
  obtain ⟨hsize, hmagic, hversion, hheader, hlength, rfl⟩ := unpackMessage_eq_ok_iff.mp h
  obtain ⟨hlength, -⟩ := payloadBytes_of_length hsize hlength
  have hpayload : UInt64.ofNat (bytes.drop messageHeaderSize).length
      = (MessageHeader.decode bytes).payloadBytes := by
    rw [List.length_drop, hlength, Nat.add_sub_cancel_left, UInt64.ofNat_toNat]
  -- each field that `pack_message` writes is the one in front of the bytes
  have hfields : Message.header ⟨⟨(MessageHeader.decode bytes).type⟩, bytes.drop messageHeaderSize⟩
      = MessageHeader.decode bytes := by
    rw [Message.header, hpayload, ← hmagic, ← hversion, ← hheader]
  rw [packMessage, hfields, MessageHeader.encode_decode hsize, List.take_append_drop]

/-- **A packed message is accepted**, where a `size_t` counts its bytes. -/
theorem unpackMessage_packMessage {m : Message} (h : (packMessage m).length < 2 ^ 64) :
    unpackMessage (packMessage m) = .ok m := by
  rw [length_packMessage] at h
  have hsmall : m.payload.length < 2 ^ 64 := lt_of_le_of_lt (Nat.le_add_left _ _) h
  have hdecode : MessageHeader.decode (packMessage m) = m.header :=
    MessageHeader.decode_encode_append m.header m.payload
  have hlength : (20 + m.header.payloadBytes).toNat = messageHeaderSize + m.payload.length := by
    have htwenty : (20 : UInt64).toNat = messageHeaderSize := rfl
    rw [UInt64.toNat_add, htwenty, Message.header_payloadBytes hsmall, Nat.mod_eq_of_lt h]
  refine unpackMessage_eq_ok_iff.mpr ?_
  rw [hdecode, hlength, length_packMessage, packMessage,
    List.drop_left' (MessageHeader.length_encode _)]
  exact ⟨Nat.le_add_right _ _, rfl, rfl, rfl, rfl, rfl⟩

/-- **Two messages never pack to the same bytes.** -/
theorem packMessage_injective : Function.Injective packMessage := by
  intro m m' h
  have hheader : m.header = m'.header := by
    rw [← MessageHeader.decode_encode_append m.header m.payload, ← packMessage, h, packMessage,
      MessageHeader.decode_encode_append]
  have hpayload : m.payload = m'.payload := by
    have hdrop := congrArg (List.drop messageHeaderSize) h
    rwa [packMessage, packMessage, List.drop_left' (MessageHeader.length_encode _),
      List.drop_left' (MessageHeader.length_encode _)] at hdrop
  obtain ⟨⟨type⟩, payload⟩ := m
  obtain ⟨⟨type'⟩, payload'⟩ := m'
  have htype : type = type' := congrArg MessageHeader.type hheader
  cases htype
  cases hpayload
  rfl

/-- **`unpack_message` undoes `pack_message` and accepts nothing else.** -/
structure Unpacks (bytes : ByteVector) : Prop where
  /-- What is accepted is a packed message, and that message is returned. -/
  accepts : ∀ m, unpackMessage bytes.1 = .ok m ↔ bytes.1 = packMessage m
  /-- No payload size is accepted with which the sum wraps. -/
  exact : (∃ m, unpackMessage bytes.1 = .ok m) →
    messageHeaderSize + (MessageHeader.decode bytes.1).payloadBytes.toNat < 2 ^ 64
  /-- The message that a byte vector is packed from is the only one. -/
  unique : ∀ m m', bytes.1 = packMessage m → bytes.1 = packMessage m' → m = m'

/-- **The accepted byte vectors are the packed messages.**

The vectors are all those whose size is a `size_t`, with any bytes in any place
of the header. The first part has both directions, that a packed message is
accepted and that what is accepted is packed; the third follows from it, as a
result is one message. -/
theorem unpacks (bytes : ByteVector) : Unpacks bytes where
  accepts m := by
    refine ⟨eq_packMessage_of_ok, fun h => ?_⟩
    have hlength := bytes.2
    rw [h] at hlength ⊢
    exact unpackMessage_packMessage hlength
  exact := by
    rintro ⟨m, h⟩
    obtain ⟨hsize, -, -, -, hlength, -⟩ := unpackMessage_eq_ok_iff.mp h
    exact (payloadBytes_of_length hsize hlength).2
  unique m m' h h' := packMessage_injective (h.symm.trans h')
