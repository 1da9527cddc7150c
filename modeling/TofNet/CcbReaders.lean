import TofNet.BurstLeft
import TofNet.Lockstep
import TofNet.ModuleMemory

/-!
# The two readers of the CCB

`CameraItof::readAdsd3500CCB` and `CameraRawSource::read_current_module_ccb_direct`
both assemble the CCB in a buffer that they allocate for it. Here they are
translated with that buffer: where each chunk goes, what is in the buffer before,
and how far the driver's packet is read. What is not defined – a division by
zero, an overflow, an access outside of a buffer, or a byte used that was never
written – ends in `undefined`.

The readers agree for every chunk, failure and allocation exactly where the
header of the CCB is one that `HeaderOk` describes.

The two routines are run side by side, on the same driver (`Lockstep`): as long
as each transfer is the same for both, they stop together, or go on with buffers
that have the same bytes in front. What is different in them is the arithmetic
in between, and `HeaderOk` collects, field by field, what makes that come to the
same. The converse needs runs in which something goes wrong; for these there is
one driver, which answers every request with the same packet (`echo`), and so
takes each routine as far as one likes.
-/

/-- `ADSD3500_CTRL_PACKET_SIZE`. -/
def ctrlPacketSize : ℕ := 4099

/-- **A driver that answers with whole packets.** -/
structure PacketAnswers extends DriverAnswers where
  whole : ∀ n bytes, gets n = some bytes → bytes.length = ctrlPacketSize

namespace CcbReaders

/-! ## The buffer

A byte that was never written is `none`, and a use of it is not defined. This is
where the two routines differ even where they do not fail: the buffer of one of
them is filled with zeros before, and that of the other is not. -/

/-- A buffer in memory; a byte that was never written is none. -/
abbrev Buffer := List (Option UInt8)

/-- Bytes are written at an offset, in place of those that were there. -/
def writeAt (buffer : Buffer) (off : ℕ) (bytes : Bytes) : Buffer :=
  buffer.take off ++ (bytes.map some ++ buffer.drop (off + bytes.length))

/-- The bytes of a buffer, where all were written. -/
def values : Buffer → Option Bytes
  | [] => some []
  | none :: _ => none
  | some byte :: buffer => (values buffer).map (byte :: ·)

/-- The first `n` bytes are used. -/
def readFront (n : ℕ) (buffer : Buffer) : Option Bytes :=
  if n ≤ buffer.length then values (buffer.take n) else none

/-! ## The readers

The products are computed in the types that the source has, an `int` in one
routine and a `uint32_t` in the other, and the number of chunks is cut to 16
bits in one of them. The checksum is taken over a number of bytes which is an
`int` as well. -/

/-- Where it is none, the routine ends in `undefined`. -/
def defined {α : Type} : Option α → Transfer α
  | some a => pure a
  | none => throw .undefined

variable (io : PacketAnswers)

/-- `adsd3500_read_payload` with a pointer into the buffer; `f` puts the exit
where it fails. It copies out of its packet, behind three bytes, and neither the
end of the packet nor that of the buffer is looked at; beyond either of them
this is undefined. -/
def readPayloadInto (f : Exit → Exit) (len : UInt16) (off : ℕ) (buffer : Buffer) :
    Transfer Buffer := do
  let bytes ← mapExit f (readPayload io.toDriverAnswers len)
  ensure (3 + len.toNat ≤ ctrlPacketSize && off + len.toNat ≤ buffer.length) .undefined
  pure (writeAt buffer off bytes)

/-- The loop over the chunks from the `i`-th on; `offset` is where a chunk
goes, if it can be computed. -/
def readChunksInto (f : ℕ → Exit → Exit) (offset : ℕ → Option ℕ) (size : UInt16) :
    ℕ → ℕ → Buffer → Transfer Buffer
  | 0, _, buffer => pure buffer
  | count + 1, i, buffer => do
    let off ← defined (offset i)
    let buffer ← readPayloadInto io (f i) size off buffer
    readChunksInto f offset size count (i + 1) buffer

/-- The chunk behind the loop. -/
def readLastInto (f : Exit → Exit) (offset : Option ℕ) (size : UInt16) (buffer : Buffer) :
    Transfer Buffer :=
  if size = 0 then pure buffer
  else do
    let off ← defined offset
    readPayloadInto io f size off buffer

/-- A product of two `int`s. -/
def intProduct (i size : ℕ) : Option ℕ := if i * size < 2 ^ 31 then some (i * size) else none

/-- A product of two `uint32_t`s. -/
def uintProduct (i size : ℕ) : Option ℕ := some (i * size % 2 ^ 32)

/-- `ccbFileSize - 4` as the `int` that `crcFast` takes: a loop over so many
bytes, and over none where it is negative. -/
def crcLength (size : UInt32) : ℕ := (((size.toNat : ℤ) - 4).bmod (2 ^ 32)).toNat

/-- **`CameraItof::readAdsd3500CCB`**; what it returns is put into a file. The
number of chunks is a `uint16_t`, and nothing is in the buffer before. -/
def readAdsd3500Ccb (allocates : ℕ → Bool) : Transfer Bytes := do
  let header ← readPayloadCmd io.toDriverAnswers 0x13 1 16
  let chunkSize := ccbChunkSize header
  let size := (ccbFileSize header).toNat
  ensure (chunkSize ≠ 0) .undefined
  let numOfChunks := size / chunkSize.toNat % 2 ^ 16
  ensure (allocates size) (.thrown "std::bad_alloc")
  let buffer ← readChunksInto io (fun _ e => e) (intProduct · chunkSize.toNat) chunkSize
    numOfChunks 0 (List.replicate size none)
  let buffer ← readLastInto io id (intProduct numOfChunks chunkSize.toNat) (ccbRemainder header)
    buffer
  writePayload io.toDriverAnswers switchBuf
  let content ← defined (readFront (crcLength (ccbFileSize header)) buffer)
  ensure (ccbCrc header = ~~~(crcFast content true ^^^ 0xFFFFFFFF)) (.status .genericError)
  defined (readFront (ccbFileSize header - 4).toNat buffer)

/-- **`CameraRawSource::read_current_module_ccb_direct`.** The buffer holds
zeros before. -/
def readCurrentModuleCcbDirect (allocates : ℕ → Bool) : Transfer Bytes := do
  let header ← mapExit (fun _ => .thrown "failed to get CCB command header")
    (readPayloadCmd io.toDriverAnswers 0x13 1 16)
  let chunkSize := ccbChunkSize header
  let size := (ccbFileSize header).toNat
  ensure (chunkSize ≠ 0 && 4 < size) (.thrown "invalid CCB header from ADSD3500")
  ensure (allocates size) (.thrown "std::bad_alloc")
  let fullChunks := size / chunkSize.toNat
  let buffer ← readChunksInto io
    (fun i _ => .thrown ("failed to read CCB chunk " ++ toString i))
    (uintProduct · chunkSize.toNat) chunkSize fullChunks 0 (List.replicate size (some 0))
  let buffer ← readLastInto io (fun _ => .thrown "failed to read final CCB chunk")
    (uintProduct fullChunks chunkSize.toNat) (ccbRemainder header) buffer
  mapExit (fun _ => .thrown "failed to switch ADSD3500 back to standard mode")
    (writePayload io.toDriverAnswers switchBuf)
  let content ← defined (readFront (crcLength (ccbFileSize header)) buffer)
  ensure (ccbCrc header = ~~~(crcFast content true ^^^ 0xFFFFFFFF))
    (.thrown "invalid CRC for CCB read from ADSD3500")
  defined (readFront (size - 4) buffer)

/-! ## What is in the buffer

While the chunks are read, the buffer is filled from the front: `filled` is such
a buffer, and a chunk that is put behind the others makes another one. -/

/-- A buffer of so many bytes, of which the first are written. -/
def filled (size : ℕ) (rest : Option UInt8) (bytes : Bytes) : Buffer :=
  bytes.map some ++ List.replicate (size - bytes.length) rest

/-- At first none is written. -/
theorem filled_nil (size : ℕ) (rest : Option UInt8) :
    filled size rest [] = List.replicate size rest := rfl

/-- The buffer stays as long as it is. -/
theorem length_filled {size : ℕ} {bytes : Bytes} (h : bytes.length ≤ size) (rest : Option UInt8) :
    (filled size rest bytes).length = size := by
  simp only [filled, List.length_append, List.length_map, List.length_replicate]
  omega

/-- Bytes that are written behind the others. With this a loop that fills the
buffer is one that appends to a list. -/
theorem writeAt_filled (size : ℕ) (rest : Option UInt8) (bytes new : Bytes) :
    writeAt (filled size rest bytes) bytes.length new = filled size rest (bytes ++ new) := by
  have hdrop : (filled size rest bytes).drop (bytes.length + new.length)
      = List.replicate (size - (bytes ++ new).length) rest := by
    rw [filled, ← List.drop_drop, List.drop_left' (List.length_map _), List.drop_replicate,
      List.length_append, Nat.sub_sub]
  rw [writeAt, hdrop, filled, List.take_left' (List.length_map _), filled, List.map_append,
    List.append_assoc]

/-- Bytes that were all written have their values, … -/
@[simp] theorem values_map_some (bytes : Bytes) : values (bytes.map some) = some bytes := by
  induction bytes with
  | nil => rfl
  | cons byte bytes ih =>
    rw [List.map_cons, values, ih]
    rfl

/-- … and behind a byte that was not there are none. -/
theorem values_append_none (bytes : Bytes) (buffer : Buffer) :
    values (bytes.map some ++ none :: buffer) = none := by
  induction bytes with
  | nil => rfl
  | cons byte bytes ih =>
    rw [List.map_cons, List.cons_append, values, ih]
    rfl

/-- Bytes that were all written. -/
theorem readFront_filled {size n : ℕ} {bytes : Bytes} (hsize : bytes.length ≤ size)
    (hn : n ≤ bytes.length) (rest : Option UInt8) :
    readFront n (filled size rest bytes) = some (bytes.take n) := by
  rw [readFront, if_pos (by rw [length_filled hsize]; omega), filled,
    List.take_append_of_le_length (by rw [List.length_map]; exact hn), ← List.map_take,
    values_map_some]

/-- Bytes some of which were not. -/
theorem readFront_unwritten {size n : ℕ} {bytes : Bytes} (hn : bytes.length < n) :
    readFront n (filled size none bytes) = none := by
  rw [readFront]
  split
  · rename_i hroom
    have hlength : (filled size none bytes).length = bytes.length + (size - bytes.length) := by
      simp [filled]
    obtain ⟨k, hk⟩ := Nat.exists_eq_add_of_lt hn
    obtain ⟨m, hm⟩ : ∃ m, size - bytes.length = m + 1 :=
      Nat.exists_eq_add_one_of_ne_zero (by omega)
    rw [filled, hm, List.replicate_succ, List.take_append, List.length_map,
      List.take_of_length_le (by rw [List.length_map]; omega),
      show n - bytes.length = k + 1 by omega, List.take_succ_cons, values_append_none]
  · rfl

/-! ## The transfers of both

A chunk that fits into a packet is copied from within the packet, whatever the
driver answers. So the two loops over the chunks go together if their number and
their offsets are the same, and the last chunk is the rest in both. -/

/-- An error that no routine may end with. -/
def Bad (e : Exit) : Prop := e = .undefined

variable {io : PacketAnswers} {bad : Exit → Prop} {d : Adsd3500}

/-- A payload that ends within the packet has its length. -/
theorem bytesRead_length {n : ℕ} {len : UInt16} (h : (io.gets (n + 1)).isSome)
    (hlen : 3 + len.toNat ≤ ctrlPacketSize) : (io.bytesRead n len).length = len.toNat := by
  obtain ⟨bytes, hbytes⟩ := Option.isSome_iff_exists.mp h
  rw [DriverAnswers.bytesRead, hbytes, Option.getD_some, List.length_take, List.length_drop,
    io.whole _ _ hbytes]
  omega

/-- **A payload is read by both**, or by none. The functions `f` and `g` put the
exits, which are a status in the one and an exception in the other. -/
def ReadsTogether (bad : Exit → Prop) (io : PacketAnswers) (f g : Exit → Exit) : Prop :=
  ∀ (len : UInt16) (d : Adsd3500),
    Lockstep bad (mapExit f (readPayload io.toDriverAnswers len))
      (mapExit g (readPayload io.toDriverAnswers len)) d (fun a b t =>
        a = b ∧ a = io.bytesRead d.calls len ∧ (io.gets (d.calls + 1)).isSome
          ∧ t.calls = d.calls + 2)

/-- A chunk is put behind the others by both. The buffers may have different
bytes behind the front, zeros in one and nothing in the other. -/
theorem readPayloadInto_lockstep {f g : Exit → Exit} (hread : ReadsTogether bad io f g)
    {len : UInt16} (hlen : 3 + len.toNat ≤ ctrlPacketSize) {size : ℕ} {x y : Option UInt8}
    {front : Bytes} (hroom : front.length + len.toNat ≤ size) :
    Lockstep bad (readPayloadInto io f len front.length (filled size x front))
      (readPayloadInto io g len front.length (filled size y front)) d (fun a b t =>
        a = filled size x (front ++ io.bytesRead d.calls len)
          ∧ b = filled size y (front ++ io.bytesRead d.calls len)
          ∧ (io.bytesRead d.calls len).length = len.toNat ∧ t.calls = d.calls + 2) := by
  refine (hread len d).bind fun a b t h => ?_
  obtain ⟨rfl, rfl, hgets, ht⟩ := h
  have hlength := bytesRead_length hgets hlen
  have htest : ∀ z : Option UInt8, (3 + len.toNat ≤ ctrlPacketSize
      && front.length + len.toNat ≤ (filled size z front).length : Bool) = true := fun z => by
    rw [length_filled (by omega)]
    simp [hlen, hroom]
  refine (Lockstep.of_ensure_true (htest x) (htest y) _ _ t).bind fun _ _ t' ht' => ?_
  subst ht'
  exact .pure ⟨writeAt_filled size x _ _, writeAt_filled size y _ _, hlength, ht⟩

/-- The payloads of so many chunks. Each is asked for with one call and read
with another one. -/
def chunkPayloads (io : PacketAnswers) (n : ℕ) (size : UInt16) (count : ℕ) : List Bytes :=
  (List.range count).map fun k => io.bytesRead (n + 2 * k) size

/-- The first of them is read first. -/
theorem chunkPayloads_succ (n : ℕ) (size : UInt16) (count : ℕ) :
    chunkPayloads io n size (count + 1)
      = io.bytesRead n size :: chunkPayloads io (n + 2) size count := by
  rw [chunkPayloads, List.range_succ_eq_map, List.map_cons, List.map_map, chunkPayloads]
  refine congrArg₂ List.cons rfl (List.map_congr_left fun k _ => ?_)
  show io.bytesRead (n + 2 * (k + 1)) size = io.bytesRead (n + 2 + 2 * k) size
  rw [show n + 2 * (k + 1) = n + 2 + 2 * k by omega]

/-- **The loops over the chunks go together.** The offsets are given as
functions, as one routine computes them as an `int` and the other as a
`uint32_t`; what is asked of them is that the product is right for each chunk.
By induction on the number of chunks that are left, with the front that is
filled so far. -/
theorem readChunksInto_lockstep {f g : ℕ → Exit → Exit}
    (hread : ∀ i, ReadsTogether bad io (f i) (g i)) {size : UInt16} {total : ℕ}
    {x y : Option UInt8} {offsetA offsetB : ℕ → Option ℕ} (count i : ℕ)
    (hoffset : ∀ j < i + count, offsetA j = some (j * size.toNat)
      ∧ offsetB j = some (j * size.toNat))
    (hlen : 0 < count → 3 + size.toNat ≤ ctrlPacketSize)
    (hroom : (i + count) * size.toNat ≤ total) (front : Bytes)
    (hfront : front.length = i * size.toNat) (d : Adsd3500) :
    Lockstep bad (readChunksInto io f offsetA size count i (filled total x front))
      (readChunksInto io g offsetB size count i (filled total y front)) d (fun a b t =>
        a = filled total x (front ++ (chunkPayloads io d.calls size count).flatten)
          ∧ b = filled total y (front ++ (chunkPayloads io d.calls size count).flatten)
          ∧ (chunkPayloads io d.calls size count).flatten.length = count * size.toNat
          ∧ t.calls = d.calls + 2 * count) := by
  induction count generalizing i front d with
  | zero =>
    exact .pure ⟨by simp [chunkPayloads], by simp [chunkPayloads], by simp [chunkPayloads], rfl⟩
  | succ count ih =>
    obtain ⟨hA, hB⟩ := hoffset i (by omega)
    have hnext : (i + 1) * size.toNat ≤ total :=
      le_trans (Nat.mul_le_mul_right _ (by omega)) hroom
    have hsplit : (i + 1) * size.toNat = i * size.toNat + size.toNat := Nat.succ_mul _ _
    rw [readChunksInto, readChunksInto, hA, hB, ← hfront]
    refine (Lockstep.pure (R := fun a b t => a = front.length ∧ b = front.length ∧ d = t)
      ⟨rfl, rfl, rfl⟩).bind fun a b t h => ?_
    obtain ⟨rfl, rfl, rfl⟩ := h
    refine (readPayloadInto_lockstep (hread i) (hlen (Nat.succ_pos _)) (by omega)).bind
      fun a b t h => ?_
    obtain ⟨rfl, rfl, hlength, ht⟩ := h
    have hrest := ih (i + 1) (fun j hj => hoffset j (by omega)) (fun _ => hlen (Nat.succ_pos _))
      (by rw [show i + 1 + count = i + (count + 1) by omega]; exact hroom)
      (front ++ io.bytesRead d.calls size) (by rw [List.length_append, hlength]; omega) t
    rw [ht] at hrest
    refine hrest.mono fun a b t' h => ?_
    obtain ⟨ha, hb, hpayloads, ht'⟩ := h
    rw [chunkPayloads_succ, List.flatten_cons, ← List.append_assoc, List.length_append, hlength,
      hpayloads, Nat.succ_mul]
    exact ⟨ha, hb, Nat.add_comm _ _, by omega⟩

/-- The payload of the last chunk, if there is one. -/
def lastPayload (io : PacketAnswers) (n : ℕ) (size : UInt16) : Bytes :=
  if size = 0 then [] else io.bytesRead n size

/-- The last chunk is put behind the others by both. -/
theorem readLastInto_lockstep {f g : Exit → Exit} (hread : ReadsTogether bad io f g)
    {len : UInt16} (hlen : 3 + len.toNat ≤ ctrlPacketSize) {size : ℕ} {x y : Option UInt8}
    {front : Bytes} (hroom : front.length + len.toNat ≤ size) {offsetA offsetB : Option ℕ}
    (hA : offsetA = some front.length) (hB : offsetB = some front.length) :
    Lockstep bad (readLastInto io f offsetA len (filled size x front))
      (readLastInto io g offsetB len (filled size y front)) d (fun a b _ =>
        a = filled size x (front ++ lastPayload io d.calls len)
          ∧ b = filled size y (front ++ lastPayload io d.calls len)
          ∧ (lastPayload io d.calls len).length = len.toNat) := by
  rw [readLastInto, readLastInto, lastPayload]
  by_cases hzero : len = 0
  · rw [if_pos hzero, if_pos hzero, if_pos hzero, hzero, List.append_nil]
    exact .pure ⟨rfl, rfl, rfl⟩
  · rw [if_neg hzero, if_neg hzero, if_neg hzero, hA, hB]
    refine (Lockstep.pure (R := fun a b t => a = front.length ∧ b = front.length ∧ d = t)
      ⟨rfl, rfl, rfl⟩).bind fun a b t h => ?_
    obtain ⟨rfl, rfl, rfl⟩ := h
    exact (readPayloadInto_lockstep hread hlen hroom).mono fun a b t h => ⟨h.1, h.2.1, h.2.2.1⟩

/-! ## A driver's failure is no bad error

`undefined` is what neither routine may end with. A call of the driver that
fails ends a routine with a status or an exception, and these are not bad, so
that nothing has to be known about which call fails. -/

/-- A status is not bad, … -/
theorem not_bad_status (s : Status) : ¬ Bad (.status s) := fun h => by cases h

/-- … nor is an exception. -/
theorem not_bad_thrown (text : String) : ¬ Bad (.thrown text) := fun h => by cases h

/-- A call that sets the controls goes through or fails, … -/
theorem setExtCtrls_self (io : PacketAnswers) (packet : Bytes) (d : Adsd3500) :
    Lockstep Bad (setExtCtrls io.toDriverAnswers packet) (setExtCtrls io.toDriverAnswers packet) d
      (fun _ _ t => t.calls = d.calls + 1) := by
  by_cases h : io.sets d.calls packet = true
  · have hrun : setExtCtrls io.toDriverAnswers packet d
        = .ok () { burst := Adsd3500.receive packet d.burst, calls := d.calls + 1 } := if_pos h
    exact .returns hrun hrun rfl
  · have hrun : setExtCtrls io.toDriverAnswers packet d
        = .error (.status .genericError) { d with calls := d.calls + 1 } := if_neg h
    exact .stops hrun hrun (not_bad_status _) (not_bad_status _)

/-- … one that gets them gives the driver's packet if it goes through, … -/
theorem getExtCtrls_self :
    Lockstep Bad (getExtCtrls io.toDriverAnswers) (getExtCtrls io.toDriverAnswers) d
      (fun a b t => a = b ∧ io.gets d.calls = some a ∧ t.calls = d.calls + 1) := by
  cases h : io.gets d.calls with
  | some bytes =>
    have hrun : getExtCtrls io.toDriverAnswers d = .ok bytes { d with calls := d.calls + 1 } := by
      rw [getExtCtrls, h]
    exact .returns hrun hrun ⟨rfl, rfl, rfl⟩
  | none =>
    have hrun : getExtCtrls io.toDriverAnswers d
        = .error (.status .genericError) { d with calls := d.calls + 1 } := by
      rw [getExtCtrls, h]
    exact .stops hrun hrun (not_bad_status _) (not_bad_status _)

/-- … and both together give a payload. -/
theorem readBack_self (len : UInt16) :
    Lockstep Bad (readBack io.toDriverAnswers len) (readBack io.toDriverAnswers len) d
      (fun a b t => a = b ∧ a = io.bytesRead d.calls len ∧ (io.gets (d.calls + 1)).isSome
        ∧ t.calls = d.calls + 2) := by
  refine (setExtCtrls_self io (requestPacket len) d).bind fun _ _ t ht => ?_
  refine getExtCtrls_self.bind fun a b t' h => ?_
  obtain ⟨rfl, hgets, ht'⟩ := h
  rw [ht] at hgets ht'
  refine .pure ⟨rfl, ?_, by rw [hgets]; rfl, ht'⟩
  rw [DriverAnswers.bytesRead, hgets]
  rfl

/-- The exits may be put by functions that make no bad one. -/
theorem mapExit_lockstep {α : Type} {m : Transfer α} {R : α → α → Adsd3500 → Prop}
    {f g : Exit → Exit} (hf : ∀ e, ¬ bad e → ¬ bad (f e)) (hg : ∀ e, ¬ bad e → ¬ bad (g e))
    (h : Lockstep bad m m d R) : Lockstep bad (mapExit f m) (mapExit g m) d R := by
  cases h with
  | returns h₁ h₂ h =>
    exact .returns (by rw [mapExit, h₁]) (by rw [mapExit, h₂]) h
  | stops h₁ h₂ good₁ good₂ =>
    exact .stops (by rw [mapExit, h₁]) (by rw [mapExit, h₂]) (hf _ good₁) (hg _ good₂)

/-- An exit that is left as it is. -/
theorem mapExit_id {α : Type} (m : Transfer α) : mapExit id m = m := by
  funext d
  rw [mapExit]
  cases m d <;> rfl

/-- So a payload is read by both, whatever they make of a failure. -/
theorem readsTogether {f g : Exit → Exit} (hf : ∀ e, ¬ Bad e → ¬ Bad (f e))
    (hg : ∀ e, ¬ Bad e → ¬ Bad (g e)) : ReadsTogether Bad io f g :=
  fun len _ => mapExit_lockstep hf hg (readBack_self len)

/-- The header is asked for by two packets, of which the first leads into burst
mode, and read by one more. -/
theorem readPayloadCmd_self :
    Lockstep Bad (readPayloadCmd io.toDriverAnswers 0x13 1 16)
      (readPayloadCmd io.toDriverAnswers 0x13 1 16) d
      (fun a b t => a = b ∧ a = io.bytesRead (d.calls + 2) 16 ∧ t.calls = d.calls + 4) := by
  refine (setExtCtrls_self io (registerPacket 0x0019 0x0000) d).bind fun _ _ t ht => ?_
  refine (setExtCtrls_self io (payloadPacket (commandPayload 0x13 1)) t).bind fun _ _ t' ht' => ?_
  refine (readBack_self 16).bind fun a b t'' h => ?_
  obtain ⟨rfl, ha, -, ht''⟩ := h
  rw [if_pos rfl]
  exact .pure ⟨rfl, by rw [ha, ht', ht], by omega⟩

/-! ## Agreement

Where the size of the file leaves the checksum nothing to be taken over, a
header with a checksum other than 0 has both routines fail, as the checksum of
nothing is 0; with 0 they part. Everywhere else they have to count the same
chunks, and to take each of them from within a packet. The four parts of
`HeaderOk` are these. -/

/-- What a routine returned. -/
def returned {α : Type} : EStateM.Result Exit Adsd3500 α → Option α
  | .ok a _ => some a
  | .error _ _ => none

/-- The header that both get, if they do. -/
def headerRead (io : PacketAnswers) (d : Adsd3500) : Option Bytes :=
  returned (readPayloadCmd io.toDriverAnswers 0x13 1 16 d)

/-- **The chunks of a CCB**, as the driver gives them. -/
def ccbPayloads (io : PacketAnswers) (n : ℕ) (header : Bytes) : Bytes :=
  let count := (ccbFileSize header).toNat / (ccbChunkSize header).toNat
  (chunkPayloads io n (ccbChunkSize header) count).flatten
    ++ lastPayload io (n + 2 * count) (ccbRemainder header)

/-- **A CCB that is put together rightly**: the chunks, of which the sizes sum
up to the size of the file, but for the last four bytes; and the checksum is
that of the header. -/
structure Assembled (io : PacketAnswers) (n : ℕ) (header content : Bytes) : Prop where
  /-- The chunks have the size of the file. -/
  size : (ccbPayloads io n header).length = (ccbFileSize header).toNat
  /-- What is returned is that without the checksum. -/
  length : content.length + 4 = (ccbFileSize header).toNat
  /-- It is what the chunks are, one behind the other. -/
  front : content = (ccbPayloads io n header).take content.length
  /-- It has the checksum of the header. -/
  crc : ccbCrc header = crcFast content true

/-- **The readers agree**: nothing undefined happens in either, one returns
where the other does, and what they return is the CCB. How they fail may differ,
as one returns a status and the other throws. -/
structure Agree (io : PacketAnswers) (allocates : ℕ → Bool) (d : Adsd3500) : Prop where
  /-- Nothing undefined happens in the collector's reader, … -/
  directDefined : ¬ ∃ t, readCurrentModuleCcbDirect io allocates d = .error .undefined t
  /-- … nor in the SDK's. -/
  defined : ¬ ∃ t, readAdsd3500Ccb io allocates d = .error .undefined t
  /-- They return the same, or both nothing. -/
  same : returned (readCurrentModuleCcbDirect io allocates d)
    = returned (readAdsd3500Ccb io allocates d)
  /-- What they return is the CCB that the device has sent. -/
  assembled : ∀ content ∈ returned (readCurrentModuleCcbDirect io allocates d),
    ∃ header ∈ headerRead io d, Assembled io (d.calls + 4) header content

/-- No transfer is longer than a packet. -/
def InPacket (header : Bytes) : Prop :=
  3 + min (ccbChunkSize header).toNat (ccbFileSize header).toNat ≤ ctrlPacketSize

/-- **A header the readers agree on.** The chunk size is not zero. Where the
size of the file leaves the checksum no bytes – up to 4, and from `2 ^ 31 + 4`
on, where it is negative – the checksum of the header is not that of nothing.
Else there are fewer chunks than a `uint16_t` counts; and no transfer is longer
than a packet. In the second case both stop at the checksum at the latest, so
that the number of chunks does not matter there. -/
structure HeaderOk (header : Bytes) : Prop where
  /-- The chunk size, which is divided by, is not 0. -/
  chunkSize : ccbChunkSize header ≠ 0
  /-- Where there is nothing to check, the checksum is not that of nothing. -/
  crc : (ccbFileSize header).toNat ≤ 4 ∨ 2 ^ 31 + 4 ≤ (ccbFileSize header).toNat →
    ccbCrc header ≠ 0
  /-- The SDK can count the chunks. -/
  count : 4 < (ccbFileSize header).toNat → (ccbFileSize header).toNat < 2 ^ 31 + 4 →
    (ccbFileSize header).toNat / (ccbChunkSize header).toNat < 2 ^ 16
  /-- No transfer is longer than a packet. -/
  packet : InPacket header

/-- The checksum is inverted twice on the way to its test. -/
theorem crc_test (x y : UInt32) : decide (x = ~~~(y ^^^ 0xFFFFFFFF)) = decide (x = y) := by
  rw [not_xor_ones]

/-- Of nothing it is 0. -/
theorem crcFast_nil (isMirrored : Bool) : crcFast [] isMirrored = 0 := by
  rw [crcFast, List.foldl_nil, UInt32.xor_self]

/-! ## Sizes and offsets

What `HeaderOk` says, in the arithmetic of the two routines: no product
overflows, no offset lies behind the buffer, and the number of bytes of the
checksum is what it should be. -/

section Header

variable {header : Bytes}

/-- What is divided by is positive. -/
theorem toNat_chunkSize_pos (h : ccbChunkSize header ≠ 0) : 0 < (ccbChunkSize header).toNat :=
  Nat.pos_of_ne_zero fun hzero => h (UInt16.toNat_inj.mp hzero)

/-- The size of the last chunk, which both compute modulo the same number. -/
theorem toNat_ccbRemainder (h : ccbChunkSize header ≠ 0) :
    (ccbRemainder header).toNat
      = (ccbFileSize header).toNat % (ccbChunkSize header).toNat := by
  have hlt := Nat.mod_lt (ccbFileSize header).toNat (toNat_chunkSize_pos h)
  have hsize := (ccbChunkSize header).toNat_lt
  exact UInt16.toNat_ofNat_of_lt' (lt_trans hlt hsize)

/-- A chunk of the loop fits into a packet. -/
theorem InPacket.chunk (h : InPacket header)
    (hcount : 0 < (ccbFileSize header).toNat / (ccbChunkSize header).toNat) :
    3 + (ccbChunkSize header).toNat ≤ ctrlPacketSize := by
  have hle : (ccbChunkSize header).toNat ≤ (ccbFileSize header).toNat :=
    Nat.le_of_not_lt fun hlt => absurd (Nat.div_eq_of_lt hlt) (by omega)
  rwa [InPacket, min_eq_left hle] at h

/-- So does the last one. -/
theorem InPacket.last (h : InPacket header) (hchunk : ccbChunkSize header ≠ 0) :
    3 + (ccbRemainder header).toNat ≤ ctrlPacketSize := by
  have hlt := Nat.mod_lt (ccbFileSize header).toNat (toNat_chunkSize_pos hchunk)
  have hle := Nat.mod_le (ccbFileSize header).toNat (ccbChunkSize header).toNat
  rw [toNat_ccbRemainder hchunk]
  rw [InPacket] at h
  omega

/-- A product that an `int` holds is not undefined, … -/
theorem intProduct_eq {j size : ℕ} (h : j * size < 2 ^ 31) : intProduct j size = some (j * size) :=
  if_pos h

/-- … and one that a `uint32_t` holds does not wrap. -/
theorem uintProduct_eq {j size : ℕ} (h : j * size < 2 ^ 32) :
    uintProduct j size = some (j * size) := by
  rw [uintProduct, Nat.mod_eq_of_lt h]

/-- Fewer chunks than a `uint16_t` counts have offsets that an `int` holds: each
chunk is shorter than a packet, which is of less than `2 ^ 13` bytes. -/
theorem InPacket.intProduct (h : InPacket header) {count j : ℕ}
    (hcount : count ≤ (ccbFileSize header).toNat / (ccbChunkSize header).toNat)
    (hsmall : count < 2 ^ 16) (hj : j ≤ count) :
    intProduct j (ccbChunkSize header).toNat = some (j * (ccbChunkSize header).toNat) := by
  refine intProduct_eq ?_
  cases Nat.eq_zero_or_pos j with
  | inl hzero =>
    rw [hzero, Nat.zero_mul]
    decide
  | inr hpos =>
    have hchunk := h.chunk (by omega)
    have hsize : (ccbChunkSize header).toNat < 2 ^ 13 := by
      simp only [ctrlPacketSize] at hchunk
      omega
    have hproduct : j * (ccbChunkSize header).toNat ≤ 2 ^ 16 * 2 ^ 13 :=
      Nat.mul_le_mul (by omega) hsize.le
    omega

/-- The offsets of chunks inside of the file. -/
theorem uintProduct_chunk {j : ℕ}
    (hj : j ≤ (ccbFileSize header).toNat / (ccbChunkSize header).toNat) :
    uintProduct j (ccbChunkSize header).toNat = some (j * (ccbChunkSize header).toNat) := by
  have hle : j * (ccbChunkSize header).toNat ≤ (ccbFileSize header).toNat :=
    le_trans (Nat.mul_le_mul_right _ hj) (Nat.div_mul_le_self _ _)
  exact uintProduct_eq (lt_of_le_of_lt hle (ccbFileSize header).toNat_lt)

/-- So many bytes the checksum is of. -/
theorem crcLength_eq (h : 4 < (ccbFileSize header).toNat)
    (h' : (ccbFileSize header).toNat < 2 ^ 31 + 4) :
    crcLength (ccbFileSize header) = (ccbFileSize header).toNat - 4 := by
  rw [crcLength, Int.bmod_def]
  omega

/-- Or it is of nothing. -/
theorem crcLength_eq_zero
    (h : (ccbFileSize header).toNat ≤ 4 ∨ 2 ^ 31 + 4 ≤ (ccbFileSize header).toNat) :
    crcLength (ccbFileSize header) = 0 := by
  have hlt := (ccbFileSize header).toNat_lt
  rw [crcLength, Int.bmod_def]
  omega

end Header

/-! ## Where the readers agree

In the order of the routines: the header, the loop, the rest, the packet that
leaves burst mode, and the checksum. The last comes to a decision, and the same
one in both, because the bytes that were put together are the same. -/

section Agreement

variable {allocates : ℕ → Bool} {header : Bytes}

/-- Both get the header, which is known. -/
theorem header_lockstep {f g : Exit → Exit} (hf : ∀ e, ¬ Bad e → ¬ Bad (f e))
    (hg : ∀ e, ¬ Bad e → ¬ Bad (g e)) (hheader : headerRead io d = some header) :
    Lockstep Bad (mapExit f (readPayloadCmd io.toDriverAnswers 0x13 1 16))
      (mapExit g (readPayloadCmd io.toDriverAnswers 0x13 1 16)) d
      (fun a b t => a = header ∧ b = header ∧ t.calls = d.calls + 4) := by
  refine mapExit_lockstep hf hg (readPayloadCmd_self.with_run.mono fun a b t h => ?_)
  obtain ⟨⟨rfl, -, ht⟩, hrun, -⟩ := h
  rw [headerRead, hrun] at hheader
  exact ⟨Option.some.inj hheader, Option.some.inj hheader, ht⟩

/-- The same, where only the collector's reader puts the exit. -/
theorem header_lockstep_id {g : Exit → Exit} (hg : ∀ e, ¬ Bad e → ¬ Bad (g e))
    (hheader : headerRead io d = some header) :
    Lockstep Bad (readPayloadCmd io.toDriverAnswers 0x13 1 16)
      (mapExit g (readPayloadCmd io.toDriverAnswers 0x13 1 16)) d
      (fun a b t => a = header ∧ b = header ∧ t.calls = d.calls + 4) := by
  have h := header_lockstep (f := id) (fun _ h => h) hg hheader
  rwa [mapExit_id] at h

/-- To leave an exit as it is makes no bad one, … -/
theorem good_id : ∀ e : Exit, ¬ Bad e → ¬ Bad (id e) := fun _ h => h

/-- … and neither does an exception in its place. -/
theorem good_thrown (text : String) : ∀ e : Exit, ¬ Bad e → ¬ Bad (Exit.thrown text) :=
  fun _ _ => not_bad_thrown text

/-- The chunks and the rest are the whole file. -/
theorem length_ccbPayloads (h : ccbChunkSize header ≠ 0) {n : ℕ}
    (hchunks : (chunkPayloads io n (ccbChunkSize header)
        ((ccbFileSize header).toNat / (ccbChunkSize header).toNat)).flatten.length
      = (ccbFileSize header).toNat / (ccbChunkSize header).toNat * (ccbChunkSize header).toNat)
    (hlast : (lastPayload io
        (n + 2 * ((ccbFileSize header).toNat / (ccbChunkSize header).toNat))
        (ccbRemainder header)).length = (ccbRemainder header).toNat) :
    (ccbPayloads io n header).length = (ccbFileSize header).toNat := by
  show (_ ++ _ : Bytes).length = _
  rw [List.length_append, hchunks, hlast, toNat_ccbRemainder h]
  exact Nat.div_add_mod' _ _

/-- What is defined in both. -/
theorem defined_lockstep {α β : Type} (a : α) (b : β) :
    Lockstep bad (defined (some a)) (defined (some b)) d (fun x y _ => x = a ∧ y = b) :=
  .pure ⟨rfl, rfl⟩

/-- **Both put the same together**, for a file of a size whose checksum is
taken. At each of their steps one of the lemmas above has them go on together;
what is different between them, the counter and the products, is the same number
by `HeaderOk`. The test of the size in the one is passed, as the other has
none. -/
theorem readers_lockstep (h : HeaderOk header) (hlow : 4 < (ccbFileSize header).toNat)
    (hhigh : (ccbFileSize header).toNat < 2 ^ 31 + 4) (hheader : headerRead io d = some header) :
    Lockstep Bad (readAdsd3500Ccb io allocates) (readCurrentModuleCcbDirect io allocates) d
      (fun a b _ => a = b ∧ Assembled io (d.calls + 4) header a) := by
  have hcount := h.count hlow hhigh
  have hremainder := toNat_ccbRemainder h.chunkSize
  have hdivides := Nat.div_add_mod' (ccbFileSize header).toNat (ccbChunkSize header).toNat
  -- the header, and the tests of it
  refine (header_lockstep_id (good_thrown _) hheader).bind fun a b t₁ h₁ => ?_
  obtain ⟨rfl, rfl, hcalls⟩ := h₁
  refine (Lockstep.of_ensure_true (by simp [h.chunkSize])
    (by simp [h.chunkSize, hlow]) _ _ t₁).bind fun _ _ t₂ h₂ => ?_
  refine (Lockstep.of_ensure _ (not_bad_thrown _) (not_bad_thrown _) t₂).bind
    fun _ _ t₃ h₃ => ?_
  have hcalls₃ : t₃.calls = d.calls + 4 := by rw [h₃.1, h₂, hcalls]
  -- the chunks, of which 16 bits count all
  rw [Nat.mod_eq_of_lt hcount, ← filled_nil, ← filled_nil]
  refine (readChunksInto_lockstep (fun i => readsTogether good_id (good_thrown _)) _ 0
    (fun j hj => ⟨h.packet.intProduct le_rfl hcount (by omega), uintProduct_chunk (by omega)⟩)
    (fun hpos => h.packet.chunk hpos) (by rw [Nat.zero_add]; exact Nat.div_mul_le_self _ _)
    [] (by simp) t₃).bind fun b₁ b₂ t₄ h₄ => ?_
  obtain ⟨rfl, rfl, hpayloads, h₄⟩ := h₄
  rw [List.nil_append]
  -- what is left of the file
  refine (readLastInto_lockstep (readsTogether good_id (good_thrown _)) (h.packet.last h.chunkSize)
    (by rw [hpayloads, hremainder]; omega)
    (by rw [h.packet.intProduct le_rfl hcount le_rfl, hpayloads])
    (by rw [uintProduct_chunk le_rfl, hpayloads])).bind fun b₁ b₂ t₅ h₅ => ?_
  obtain ⟨rfl, rfl, hlast⟩ := h₅
  rw [h₄, hcalls₃] at hlast ⊢
  rw [hcalls₃] at hpayloads
  have hall := length_ccbPayloads h.chunkSize hpayloads hlast
  -- back to standard mode
  have hwritten := mapExit_lockstep good_id
    (good_thrown "failed to switch ADSD3500 back to standard mode")
    (setExtCtrls_self io (payloadPacket switchBuf) t₅)
  rw [mapExit_id] at hwritten
  refine hwritten.bind fun _ _ t₆ _ => ?_
  -- the checksum, of a buffer that is full whatever was in it
  have hread : ∀ x, readFront ((ccbFileSize b).toNat - 4)
      (filled (ccbFileSize b).toNat x (ccbPayloads io (d.calls + 4) b))
      = some ((ccbPayloads io (d.calls + 4) b).take ((ccbFileSize b).toNat - 4)) :=
    fun x => readFront_filled hall.le (by omega) x
  have hlast : (ccbFileSize b - 4).toNat = (ccbFileSize b).toNat - 4 :=
    UInt32.toNat_sub_of_le _ _ (UInt32.le_iff_toNat_le.mpr hlow.le)
  rw [crcLength_eq hlow hhigh, hlast]
  show Lockstep Bad (defined (readFront _ (filled _ none (ccbPayloads io (d.calls + 4) b))) >>= _)
    (defined (readFront _ (filled _ (some 0) (ccbPayloads io (d.calls + 4) b))) >>= _) t₆ _
  rw [hread, hread]
  refine (defined_lockstep _ _).bind fun x y t₇ h₇ => ?_
  obtain ⟨rfl, rfl⟩ := h₇
  rw [crc_test]
  refine (Lockstep.of_ensure _ (not_bad_status _) (not_bad_thrown _) t₇).bind fun _ _ t₈ h₈ => ?_
  have hcrc := of_decide_eq_true h₈.2
  show Lockstep Bad (defined (readFront _ (filled _ none (ccbPayloads io (d.calls + 4) b))))
    (defined (readFront _ (filled _ (some 0) (ccbPayloads io (d.calls + 4) b)))) t₈ _
  rw [hread, hread]
  refine (defined_lockstep _ _).mono fun x y t₉ h₉ => ?_
  obtain ⟨rfl, rfl⟩ := h₉
  have hlength : ((ccbPayloads io (d.calls + 4) b).take ((ccbFileSize b).toNat - 4)).length
      = (ccbFileSize b).toNat - 4 := by
    rw [List.length_take, hall]
    omega
  exact ⟨rfl, hall, by rw [hlength]; omega, by rw [hlength], hcrc⟩

/-! ### The routines, one after the other

Each routine is brought into a form in which the two can be put side by side:
behind the header the same loop, the same last chunk, and a test. Where the
checksum would be taken of nothing, both stop, at that test or before it. -/

/-- **How far `readAdsd3500CCB` gets.** It has filled the front of its buffer
where it left burst mode; what is behind that decides, and is left to `hfinish`.
The number of chunks is cut to 16 bits here, so the front may be less than the
file; both the case where the readers agree to stop and the failing runs below
use this lemma. -/
theorem readAdsd3500Ccb_lockstep {R : Bytes → Bytes → Adsd3500 → Prop}
    (hchunk : ccbChunkSize header ≠ 0) (hpacket : InPacket header)
    (hheader : Lockstep bad (readPayloadCmd io.toDriverAnswers 0x13 1 16)
      (readPayloadCmd io.toDriverAnswers 0x13 1 16) d (fun a b _ => a = header ∧ b = header))
    (hread : ReadsTogether bad io id id)
    (hswitch : ∀ d, Lockstep bad (writePayload io.toDriverAnswers switchBuf)
      (writePayload io.toDriverAnswers switchBuf) d (fun _ _ _ => True))
    (hmemory : allocates (ccbFileSize header).toNat = true ∨ ¬ bad (.thrown "std::bad_alloc"))
    (hfinish : ∀ (bytes : Bytes) (d : Adsd3500),
      bytes.length = (ccbFileSize header).toNat / (ccbChunkSize header).toNat % 2 ^ 16
          * (ccbChunkSize header).toNat
        + (ccbFileSize header).toNat % (ccbChunkSize header).toNat →
      bytes.length ≤ (ccbFileSize header).toNat →
      Lockstep bad
        (do
          let content ← defined (readFront (crcLength (ccbFileSize header))
            (filled (ccbFileSize header).toNat none bytes))
          ensure (ccbCrc header = ~~~(crcFast content true ^^^ 0xFFFFFFFF))
            (.status .genericError)
          defined (readFront (ccbFileSize header - 4).toNat
            (filled (ccbFileSize header).toNat none bytes)))
        (do
          let content ← defined (readFront (crcLength (ccbFileSize header))
            (filled (ccbFileSize header).toNat none bytes))
          ensure (ccbCrc header = ~~~(crcFast content true ^^^ 0xFFFFFFFF))
            (.status .genericError)
          defined (readFront (ccbFileSize header - 4).toNat
            (filled (ccbFileSize header).toNat none bytes))) d R) :
    Lockstep bad (readAdsd3500Ccb io allocates) (readAdsd3500Ccb io allocates) d R := by
  have hremainder := toNat_ccbRemainder hchunk
  have hdivides := Nat.div_add_mod' (ccbFileSize header).toNat (ccbChunkSize header).toNat
  have hle := Nat.mod_le ((ccbFileSize header).toNat / (ccbChunkSize header).toNat) (2 ^ 16)
  have hlt := Nat.mod_lt ((ccbFileSize header).toNat / (ccbChunkSize header).toNat)
    (show 0 < 2 ^ 16 by decide)
  have hproduct := Nat.mul_le_mul_right (ccbChunkSize header).toNat hle
  -- the header, the test of it, and the buffer
  refine hheader.bind fun a b t₁ h₁ => ?_
  obtain ⟨rfl, rfl⟩ := h₁
  refine (Lockstep.of_ensure_true (by simp [hchunk]) (by simp [hchunk]) _ _ t₁).bind
    fun _ _ t₂ _ => ?_
  have hallocated : Lockstep bad (ensure (allocates (ccbFileSize b).toNat)
      (Exit.thrown "std::bad_alloc") : Transfer Unit)
      (ensure (allocates (ccbFileSize b).toNat) (.thrown "std::bad_alloc")) t₂
      (fun _ _ _ => True) := by
    rcases hmemory with hmemory | hmemory
    · exact (Lockstep.of_ensure_true hmemory hmemory _ _ t₂).mono fun _ _ _ _ => trivial
    · exact (Lockstep.of_ensure _ hmemory hmemory t₂).mono fun _ _ _ _ => trivial
  refine hallocated.bind fun _ _ t₃ _ => ?_
  -- the chunks, as many as 16 bits count, and what is left of the file
  rw [← filled_nil]
  refine (readChunksInto_lockstep (fun _ => hread) _ 0
    (fun j hj => ⟨hpacket.intProduct hle hlt (by omega), hpacket.intProduct hle hlt (by omega)⟩)
    (fun hpos => hpacket.chunk (by omega)) (by rw [Nat.zero_add]; omega)
    [] (by simp) t₃).bind fun b₁ b₂ t₄ h₄ => ?_
  obtain ⟨rfl, rfl, hpayloads, -⟩ := h₄
  rw [List.nil_append]
  refine (readLastInto_lockstep hread (hpacket.last hchunk)
    (by rw [hpayloads, hremainder]; omega)
    (by rw [hpacket.intProduct hle hlt le_rfl, hpayloads])
    (by rw [hpacket.intProduct hle hlt le_rfl, hpayloads])).bind fun b₁ b₂ t₅ h₅ => ?_
  obtain ⟨rfl, rfl, hlast⟩ := h₅
  -- back to standard mode, with the front of the buffer filled
  refine (hswitch t₅).bind fun _ _ t₆ _ => ?_
  have hlength : ((chunkPayloads io t₃.calls (ccbChunkSize b)
      ((ccbFileSize b).toNat / (ccbChunkSize b).toNat % 2 ^ 16)).flatten
        ++ lastPayload io t₄.calls (ccbRemainder b)).length
      = (ccbFileSize b).toNat / (ccbChunkSize b).toNat % 2 ^ 16 * (ccbChunkSize b).toNat
        + (ccbFileSize b).toNat % (ccbChunkSize b).toNat := by
    rw [List.length_append, hpayloads, hlast, hremainder]
  exact hfinish _ t₆ hlength (by rw [hlength]; omega)

/-- Where the checksum is taken of nothing, `readAdsd3500CCB` stops at it, as
the header's is not 0. -/
theorem readAdsd3500Ccb_stops (h : HeaderOk header)
    (hempty : (ccbFileSize header).toNat ≤ 4 ∨ 2 ^ 31 + 4 ≤ (ccbFileSize header).toNat)
    (hheader : headerRead io d = some header) :
    Lockstep Bad (readAdsd3500Ccb io allocates) (readAdsd3500Ccb io allocates) d
      (fun _ _ _ => False) := by
  have hself := header_lockstep (f := id) (g := id) good_id good_id hheader
  rw [mapExit_id] at hself
  refine readAdsd3500Ccb_lockstep h.chunkSize h.packet (hself.mono fun a b t h => ⟨h.1, h.2.1⟩)
    (readsTogether good_id good_id)
    (fun _ => (setExtCtrls_self io _ _).mono fun _ _ _ _ => trivial) (Or.inr (not_bad_thrown _))
    fun bytes t _ hroom => ?_
  rw [crcLength_eq_zero hempty, readFront_filled hroom (Nat.zero_le _)]
  refine (defined_lockstep _ _).bind fun x y t₇ h₇ => ?_
  obtain ⟨rfl, rfl⟩ := h₇
  rw [crc_test, List.take_zero, crcFast_nil]
  refine (Lockstep.of_ensure _ (not_bad_status _) (not_bad_status _) t₇).bind fun _ _ t₈ h₈ => ?_
  exact absurd (of_decide_eq_true h₈.2) (h.crc hempty)

/-- So does `read_current_module_ccb_direct`, or it does so at its test of the
size. -/
theorem readCurrentModuleCcbDirect_stops (h : HeaderOk header)
    (hempty : (ccbFileSize header).toNat ≤ 4 ∨ 2 ^ 31 + 4 ≤ (ccbFileSize header).toNat)
    (hheader : headerRead io d = some header) :
    Lockstep Bad (readCurrentModuleCcbDirect io allocates)
      (readCurrentModuleCcbDirect io allocates) d (fun _ _ _ => False) := by
  have hremainder := toNat_ccbRemainder h.chunkSize
  have hdivides := Nat.div_add_mod' (ccbFileSize header).toNat (ccbChunkSize header).toNat
  refine (header_lockstep (good_thrown _) (good_thrown _) hheader).bind fun a b t₁ h₁ => ?_
  obtain ⟨rfl, rfl, -⟩ := h₁
  refine (Lockstep.of_ensure _ (not_bad_thrown _) (not_bad_thrown _) t₁).bind fun _ _ t₂ _ => ?_
  refine (Lockstep.of_ensure _ (not_bad_thrown _) (not_bad_thrown _) t₂).bind fun _ _ t₃ _ => ?_
  rw [← filled_nil]
  refine (readChunksInto_lockstep (fun i => readsTogether (good_thrown _) (good_thrown _)) _ 0
    (fun j hj => ⟨uintProduct_chunk (by omega), uintProduct_chunk (by omega)⟩)
    (fun hpos => h.packet.chunk hpos) (by rw [Nat.zero_add]; exact Nat.div_mul_le_self _ _)
    [] (by simp) t₃).bind fun b₁ b₂ t₄ h₄ => ?_
  obtain ⟨rfl, rfl, hpayloads, -⟩ := h₄
  rw [List.nil_append]
  refine (readLastInto_lockstep (readsTogether (good_thrown _) (good_thrown _))
    (h.packet.last h.chunkSize)
    (by rw [hpayloads, hremainder]; omega)
    (by rw [uintProduct_chunk le_rfl, hpayloads])
    (by rw [uintProduct_chunk le_rfl, hpayloads])).bind fun b₁ b₂ t₅ h₅ => ?_
  obtain ⟨rfl, rfl, hlast⟩ := h₅
  refine (mapExit_lockstep (good_thrown _) (good_thrown _)
    (setExtCtrls_self io (payloadPacket switchBuf) t₅)).bind fun _ _ t₆ _ => ?_
  rw [crcLength_eq_zero hempty, readFront_filled
    (by rw [List.length_append, hpayloads, hlast, hremainder]; omega) (Nat.zero_le _)]
  refine (defined_lockstep _ _).bind fun x y t₇ h₇ => ?_
  obtain ⟨rfl, rfl⟩ := h₇
  rw [crc_test, List.take_zero, crcFast_nil]
  refine (Lockstep.of_ensure _ (not_bad_thrown _) (not_bad_thrown _) t₇).bind fun _ _ t₈ h₈ => ?_
  exact absurd (of_decide_eq_true h₈.2) (h.crc hempty)

/-- Routines that go together to the same CCB agree. -/
theorem agree_of_lockstep
    (h : Lockstep Bad (readAdsd3500Ccb io allocates) (readCurrentModuleCcbDirect io allocates) d
      (fun a b _ => a = b ∧ ∃ header ∈ headerRead io d, Assembled io (d.calls + 4) header a)) :
    Agree io allocates d := by
  cases h with
  | returns h₁ h₂ h =>
    obtain ⟨rfl, hassembled⟩ := h
    refine ⟨?_, ?_, by simp only [h₁, h₂, returned], ?_⟩
    · rintro ⟨t, ht⟩
      rw [h₂] at ht
      cases ht
    · rintro ⟨t, ht⟩
      rw [h₁] at ht
      cases ht
    · intro content hcontent
      rw [h₂] at hcontent
      cases hcontent
      exact hassembled
  | stops h₁ h₂ good₁ good₂ =>
    refine ⟨?_, ?_, by simp only [h₁, h₂, returned], ?_⟩
    · rintro ⟨t, ht⟩
      rw [h₂] at ht
      cases ht
      exact good₂ rfl
    · rintro ⟨t, ht⟩
      rw [h₁] at ht
      cases ht
      exact good₁ rfl
    · intro content hcontent
      rw [h₂] at hcontent
      cases hcontent

/-- Two routines that stop stop together. -/
theorem lockstep_of_stops {α β : Type} {m₁ : Transfer α} {m₂ : Transfer β}
    {R : α → β → Adsd3500 → Prop} (h₁ : Lockstep bad m₁ m₁ d (fun _ _ _ => False))
    (h₂ : Lockstep bad m₂ m₂ d (fun _ _ _ => False)) : Lockstep bad m₁ m₂ d R := by
  cases h₁ with
  | returns _ _ h => exact absurd h id
  | stops hrun₁ _ good₁ _ =>
    cases h₂ with
    | returns _ _ h => exact absurd h id
    | stops hrun₂ _ good₂ _ => exact .stops hrun₁ hrun₂ good₁ good₂

/-- Without a header both stop. -/
theorem agree_of_no_header (h : headerRead io d = none) : Agree io allocates d := by
  have hself : Lockstep Bad (readPayloadCmd io.toDriverAnswers 0x13 1 16)
      (readPayloadCmd io.toDriverAnswers 0x13 1 16) d (fun _ _ _ => False) :=
    readPayloadCmd_self.with_run.mono fun a b t hrun => by
      rw [headerRead, hrun.2.1] at h
      cases h
  have hdirect := mapExit_lockstep good_id (good_thrown "failed to get CCB command header") hself
  rw [mapExit_id] at hdirect
  exact agree_of_lockstep (hdirect.bind fun _ _ _ hfalse => absurd hfalse id)

/-- **With a header that is ok they agree**, in each of its two cases: both put
the CCB together, or both stop. -/
theorem agree_of_headerOk (h : HeaderOk header) (hheader : headerRead io d = some header) :
    Agree io allocates d := by
  refine agree_of_lockstep ?_
  by_cases hempty : (ccbFileSize header).toNat ≤ 4 ∨ 2 ^ 31 + 4 ≤ (ccbFileSize header).toNat
  · exact lockstep_of_stops (readAdsd3500Ccb_stops h hempty hheader)
      (readCurrentModuleCcbDirect_stops h hempty hheader)
  · exact (readers_lockstep h (by omega) (by omega) hheader).mono fun a b _ hab =>
      ⟨hab.1, header, hheader, hab.2⟩

end Agreement

/-! ## Where they do not

With `echo` every transfer succeeds, so a routine comes to the place that is to
be shown. What it does there depends on the header in the packet, and on nothing
else. -/

/-- A packet with a header in it. -/
def headerPacket (header : Bytes) : Bytes :=
  [0, 0, 0] ++ (header ++ List.replicate (ctrlPacketSize - 19) 0)

/-- A driver that answers every request with that packet. Every chunk is then
made of the bytes of this packet, and as nothing fails, what a routine does is a
computation on the header. -/
def echo (header : Bytes) (h : header.length = 16) : PacketAnswers where
  sets _ _ := true
  gets _ := some (headerPacket header)
  whole _ bytes hbytes := by
    cases hbytes
    simp only [headerPacket, List.length_append, List.length_replicate, h, ctrlPacketSize,
      List.length_cons, List.length_nil]

section Echo

variable {header : Bytes} {hlength : header.length = 16}

/-- An error that is none of `undefined`. -/
def Proper (e : Exit) : Prop := e ≠ .undefined

/-- A transfer with a known result is so for both. -/
theorem echo_set {α : Type} {f g : Exit → Exit} {m : Transfer α} {a : α} {n : ℕ}
    (hrun : ∀ d : Adsd3500, ∃ burst, m d = .ok a { burst := burst, calls := d.calls + n }) :
    Lockstep bad (mapExit f m) (mapExit g m) d
      (fun x y t => x = a ∧ y = a ∧ t.calls = d.calls + n) := by
  obtain ⟨burst, h⟩ := hrun d
  exact .returns (by rw [mapExit, h]) (by rw [mapExit, h]) ⟨rfl, rfl, rfl⟩

/-- Each call goes through, … -/
theorem echo_setExtCtrls (packet : Bytes) (d : Adsd3500) :
    setExtCtrls (echo header hlength).toDriverAnswers packet d
      = .ok () { burst := Adsd3500.receive packet d.burst, calls := d.calls + 1 } := rfl

/-- … every payload is read, … -/
theorem echo_readBack (len : UInt16) (d : Adsd3500) :
    ∃ burst, readBack (echo header hlength).toDriverAnswers len d
      = .ok ((echo header hlength).bytesRead d.calls len)
          { burst := burst, calls := d.calls + 2 } := ⟨_, rfl⟩

/-- … by both routines, … -/
theorem echo_reads (f g : Exit → Exit) : ReadsTogether bad (echo header hlength) f g :=
  fun len _ => (echo_set (echo_readBack len)).mono fun _ _ _ h =>
    ⟨h.1.trans h.2.1.symm, h.1, rfl, h.2.2⟩

/-- … and the one of 16 bytes is the header. -/
theorem echo_bytesRead (n : ℕ) : (echo header hlength).bytesRead n 16 = header := by
  show (header ++ List.replicate (ctrlPacketSize - 19) 0).take 16 = header
  rw [List.take_left' hlength]

/-- So the header is read first, … -/
theorem echo_readPayloadCmd (header : Bytes) (hlength : header.length = 16) (d : Adsd3500) :
    ∃ burst, readPayloadCmd (echo header hlength).toDriverAnswers 0x13 1 16 d
      = .ok header { burst := burst, calls := d.calls + 4 } := by
  have hrun : ∃ burst, readPayloadCmd (echo header hlength).toDriverAnswers 0x13 1 16 d
      = .ok ((echo header hlength).bytesRead (d.calls + 2) 16)
          { burst := burst, calls := d.calls + 4 } := ⟨_, rfl⟩
  rwa [echo_bytesRead] at hrun

/-- … also by both, … -/
theorem echo_header (bad : Exit → Prop) (header : Bytes) (hlength : header.length = 16)
    (d : Adsd3500) (f g : Exit → Exit) :
    Lockstep bad (mapExit f (readPayloadCmd (echo header hlength).toDriverAnswers 0x13 1 16))
      (mapExit g (readPayloadCmd (echo header hlength).toDriverAnswers 0x13 1 16)) d
      (fun a b _ => a = header ∧ b = header) :=
  (echo_set (echo_readPayloadCmd header hlength)).mono fun _ _ _ h => ⟨h.1, h.2.1⟩

/-- … and `headerRead` is that header. -/
theorem headerRead_echo (d : Adsd3500) : headerRead (echo header hlength) d = some header := by
  obtain ⟨burst, h⟩ := echo_readPayloadCmd header hlength d
  rw [headerRead, h, returned]

/-- The packet that leaves burst mode is written. -/
theorem echo_write (bad : Exit → Prop) (header : Bytes) (hlength : header.length = 16)
    (d : Adsd3500) (f g : Exit → Exit) (payload : Bytes) :
    Lockstep bad (mapExit f (writePayload (echo header hlength).toDriverAnswers payload))
      (mapExit g (writePayload (echo header hlength).toDriverAnswers payload)) d
      (fun _ _ _ => True) :=
  (echo_set fun d => ⟨_, echo_setExtCtrls (payloadPacket payload) d⟩).mono fun _ _ _ _ => trivial

/-- A payload that is longer than the packet is copied from behind its end,
which is undefined. -/
theorem readPayloadInto_long {f : Exit → Exit} {len : UInt16}
    (hlen : ¬ 3 + len.toNat ≤ ctrlPacketSize) (off : ℕ) (buffer : Buffer) :
    Lockstep Proper (readPayloadInto (echo header hlength) f len off buffer)
      (readPayloadInto (echo header hlength) f len off buffer) d (fun _ _ _ => False) := by
  refine (echo_reads f f len d).bind fun a b t _ => ?_
  have htest : (3 + len.toNat ≤ ctrlPacketSize
      && off + len.toNat ≤ buffer.length : Bool) = false := by simp [hlen]
  rw [htest]
  exact .stops rfl rfl (fun h => h rfl) (fun h => h rfl)

/-- So is a chunk of the loop, or the last one. -/
theorem readChunksInto_long {f : ℕ → Exit → Exit} {size : UInt16} (offset : ℕ → Option ℕ)
    (hlen : ¬ 3 + size.toNat ≤ ctrlPacketSize) {count off : ℕ} (hcount : 0 < count)
    (hoffset : offset 0 = some off) (buffer : Buffer) :
    Lockstep Proper (readChunksInto (echo header hlength) f offset size count 0 buffer)
      (readChunksInto (echo header hlength) f offset size count 0 buffer) d
      (fun _ _ _ => False) := by
  obtain ⟨n, rfl⟩ := Nat.exists_eq_add_one_of_ne_zero hcount.ne'
  rw [readChunksInto, hoffset]
  refine (defined_lockstep off off).bind fun x y t h => ?_
  obtain ⟨rfl, rfl⟩ := h
  exact (readPayloadInto_long hlen _ _).bind fun _ _ _ hfalse => absurd hfalse id

/-- The same for the chunk behind the loop. -/
theorem readLastInto_long {f : Exit → Exit} {size : UInt16} {offset : Option ℕ}
    (hlen : ¬ 3 + size.toNat ≤ ctrlPacketSize) {off : ℕ} (hoffset : offset = some off)
    (buffer : Buffer) :
    Lockstep Proper (readLastInto (echo header hlength) f offset size buffer)
      (readLastInto (echo header hlength) f offset size buffer) d (fun _ _ _ => False) := by
  have hne : size ≠ 0 := fun hzero => hlen (by rw [hzero]; decide)
  rw [readLastInto, if_neg hne, hoffset]
  refine (defined_lockstep off off).bind fun x y t h => ?_
  obtain ⟨rfl, rfl⟩ := h
  exact readPayloadInto_long hlen _ _

/-- **What `readAdsd3500CCB` does**, if every transfer goes through. -/
theorem echo_readAdsd3500Ccb {R : Bytes → Bytes → Adsd3500 → Prop}
    (hchunk : ccbChunkSize header ≠ 0) (hpacket : InPacket header)
    (hfinish : ∀ (bytes : Bytes) (d : Adsd3500),
      bytes.length = (ccbFileSize header).toNat / (ccbChunkSize header).toNat % 2 ^ 16
          * (ccbChunkSize header).toNat
        + (ccbFileSize header).toNat % (ccbChunkSize header).toNat →
      bytes.length ≤ (ccbFileSize header).toNat →
      Lockstep Proper
        (do
          let content ← defined (readFront (crcLength (ccbFileSize header))
            (filled (ccbFileSize header).toNat none bytes))
          ensure (ccbCrc header = ~~~(crcFast content true ^^^ 0xFFFFFFFF))
            (.status .genericError)
          defined (readFront (ccbFileSize header - 4).toNat
            (filled (ccbFileSize header).toNat none bytes)))
        (do
          let content ← defined (readFront (crcLength (ccbFileSize header))
            (filled (ccbFileSize header).toNat none bytes))
          ensure (ccbCrc header = ~~~(crcFast content true ^^^ 0xFFFFFFFF))
            (.status .genericError)
          defined (readFront (ccbFileSize header - 4).toNat
            (filled (ccbFileSize header).toNat none bytes))) d R) :
    Lockstep Proper (readAdsd3500Ccb (echo header hlength) fun _ => true)
      (readAdsd3500Ccb (echo header hlength) fun _ => true) d R := by
  have hself := echo_header Proper header hlength d id id
  rw [mapExit_id] at hself
  refine readAdsd3500Ccb_lockstep hchunk hpacket hself (echo_reads id id) (fun t => ?_)
    (Or.inl rfl) hfinish
  have hwrite := echo_write Proper header hlength t id id switchBuf
  rwa [mapExit_id] at hwrite

/-- A byte that was never written is used. -/
theorem undefined_lockstep {α β : Type} {k : α → Transfer β} {R : β → β → Adsd3500 → Prop} :
    Lockstep Proper (defined none >>= k) (defined none >>= k) d R :=
  .stops rfl rfl (fun h => h rfl) (fun h => h rfl)

/-- A routine that ends in `undefined`. -/
theorem undefined_of_lockstep {α : Type} {m : Transfer α}
    (h : Lockstep Proper m m d (fun _ _ _ => False)) : ∃ t, m d = .error .undefined t := by
  cases h with
  | returns _ _ h => exact absurd h id
  | @stops e _ t _ h₁ _ good₁ _ =>
    obtain rfl : e = .undefined := not_not.mp good₁
    exact ⟨t, h₁⟩

end Echo

/-! ## The headers the readers agree on

For each field of `HeaderOk` that fails there is a driver for which the readers
do not agree: one of them divides by zero, reads behind its packet, or uses
bytes that were never written, or takes the checksum of nothing for right. Put
together with the other direction this is the equivalence. -/

section Headers

variable {header : Bytes} (hlength : header.length = 16)

/-- Readers of which the SDK's is undefined do not agree, … -/
theorem not_agree_of_undefined {allocates : ℕ → Bool}
    (h : Lockstep Proper (readAdsd3500Ccb io allocates) (readAdsd3500Ccb io allocates) d
      (fun _ _ _ => False)) : ¬ Agree io allocates d :=
  fun hagree => hagree.defined (undefined_of_lockstep h)

/-- … nor those of which the collector's is. -/
theorem not_agree_of_direct_undefined {allocates : ℕ → Bool}
    (h : Lockstep Proper (readCurrentModuleCcbDirect io allocates)
      (readCurrentModuleCcbDirect io allocates) d (fun _ _ _ => False)) : ¬ Agree io allocates d :=
  fun hagree => hagree.directDefined (undefined_of_lockstep h)

/-! ### The fields, one by one

They are taken in the order in which the routines come to use them, so that for
a field that fails those before it may be assumed to be right. The routine then
comes as far as the use of the field with `echo`, and no further. -/

/-- A chunk size of zero is divided by. The collector's reader tests for it, and
the SDK's does not. -/
theorem not_agree_chunkSize (hchunk : ccbChunkSize header = 0) :
    ¬ Agree (echo header hlength) (fun _ => true) {} := by
  refine not_agree_of_undefined ?_
  have hself := echo_header Proper header hlength {} id id
  rw [mapExit_id] at hself
  refine hself.bind fun a b t h => ?_
  obtain ⟨rfl, rfl⟩ := h
  exact (Lockstep.of_ensure_false (by simp [hchunk]) (by simp [hchunk]) (fun h => h rfl)
    (fun h => h rfl) t).bind fun _ _ _ hfalse => absurd hfalse id

/-- A chunk that is longer than a packet is read from behind it. -/
theorem not_agree_packet (hchunk : ccbChunkSize header ≠ 0) (hpacket : ¬ InPacket header) :
    ¬ Agree (echo header hlength) (fun _ => true) {} := by
  rw [InPacket, ctrlPacketSize] at hpacket
  refine not_agree_of_direct_undefined ((echo_header _ _ _ _ _ _).bind fun a b t h => ?_)
  obtain ⟨rfl, rfl⟩ := h
  have hsize : 4 < (ccbFileSize b).toNat := by omega
  refine (Lockstep.of_ensure_true (by simp [hchunk, hsize]) (by simp [hchunk, hsize]) _ _ t).bind
    fun _ _ t₂ _ => ?_
  refine (Lockstep.of_ensure_true rfl rfl _ _ t₂).bind fun _ _ t₃ _ => ?_
  by_cases hle : (ccbChunkSize b).toNat ≤ (ccbFileSize b).toNat
  · have hlong : ¬ 3 + (ccbChunkSize b).toNat ≤ ctrlPacketSize := by
      rw [ctrlPacketSize]
      omega
    exact (readChunksInto_long (uintProduct · (ccbChunkSize b).toNat) hlong
      (Nat.div_pos hle (toNat_chunkSize_pos hchunk)) rfl _).bind
        fun _ _ _ hfalse => absurd hfalse id
  · have hzero : (ccbFileSize b).toNat / (ccbChunkSize b).toNat = 0 :=
      Nat.div_eq_of_lt (by omega)
    have hremainder : (ccbRemainder b).toNat = (ccbFileSize b).toNat := by
      rw [toNat_ccbRemainder hchunk, Nat.mod_eq_of_lt (by omega)]
    have hlong : ¬ 3 + (ccbRemainder b).toNat ≤ ctrlPacketSize := by
      rw [ctrlPacketSize, hremainder]
      omega
    have hnone : Lockstep Proper
        (readChunksInto (echo b hlength)
          (fun i _ => .thrown ("failed to read CCB chunk " ++ toString i))
          (uintProduct · (ccbChunkSize b).toNat) (ccbChunkSize b)
          ((ccbFileSize b).toNat / (ccbChunkSize b).toNat) 0
          (List.replicate (ccbFileSize b).toNat (some 0)))
        (readChunksInto (echo b hlength)
          (fun i _ => .thrown ("failed to read CCB chunk " ++ toString i))
          (uintProduct · (ccbChunkSize b).toNat) (ccbChunkSize b)
          ((ccbFileSize b).toNat / (ccbChunkSize b).toNat) 0
          (List.replicate (ccbFileSize b).toNat (some 0))) t₃ (fun x y _ => x = y) := by
      rw [hzero]
      exact .pure rfl
    refine hnone.bind fun x y t₄ h₄ => ?_
    subst h₄
    exact (readLastInto_long hlong rfl _).bind fun _ _ _ hfalse => absurd hfalse id

/-- The size of what `readAdsd3500CCB` puts into its buffer, where the chunks
are more than it counts: it is short of the file by `2 ^ 16` bytes at least. -/
theorem chunks_lost {size chunk : ℕ} (hchunk : 0 < chunk) (hmany : 2 ^ 16 ≤ size / chunk) :
    size / chunk % 2 ^ 16 * chunk + size % chunk + 2 ^ 16 ≤ size := by
  have hdivides := Nat.div_add_mod' size chunk
  have hcount := Nat.div_add_mod (size / chunk) (2 ^ 16)
  have hpos : 0 < size / chunk / 2 ^ 16 := Nat.div_pos hmany (by decide)
  have hlost : 2 ^ 16 ≤ 2 ^ 16 * (size / chunk / 2 ^ 16) * chunk := by
    calc 2 ^ 16 = 2 ^ 16 * 1 * 1 := by decide
      _ ≤ 2 ^ 16 * (size / chunk / 2 ^ 16) * chunk :=
        Nat.mul_le_mul (Nat.mul_le_mul_left _ hpos) hchunk
  have hsplit : size / chunk * chunk
      = 2 ^ 16 * (size / chunk / 2 ^ 16) * chunk + size / chunk % 2 ^ 16 * chunk := by
    rw [← Nat.add_mul, hcount]
  omega

/-- More chunks than a `uint16_t` counts leave a part of the buffer unwritten,
and the checksum is taken over it. -/
theorem not_agree_count (hchunk : ccbChunkSize header ≠ 0) (hpacket : InPacket header)
    (hlow : 4 < (ccbFileSize header).toNat) (hhigh : (ccbFileSize header).toNat < 2 ^ 31 + 4)
    (hmany : 2 ^ 16 ≤ (ccbFileSize header).toNat / (ccbChunkSize header).toNat) :
    ¬ Agree (echo header hlength) (fun _ => true) {} := by
  have hlost := chunks_lost (toNat_chunkSize_pos hchunk) hmany
  refine not_agree_of_undefined (echo_readAdsd3500Ccb hchunk hpacket fun bytes t hbytes _ => ?_)
  rw [crcLength_eq hlow hhigh, readFront_unwritten (by omega)]
  exact undefined_lockstep

/-- The checksum of nothing is taken to be right. A file of at most 4 bytes is
then returned by the one and refused by the other; one of more than `2 ^ 31` has
more chunks than the SDK counts, so that bytes are used which were never
written. -/
theorem not_agree_crc (hchunk : ccbChunkSize header ≠ 0) (hpacket : InPacket header)
    (hempty : (ccbFileSize header).toNat ≤ 4 ∨ 2 ^ 31 + 4 ≤ (ccbFileSize header).toNat)
    (hcrc : ccbCrc header = 0) : ¬ Agree (echo header hlength) (fun _ => true) {} := by
  intro hagree
  have hreturns : Lockstep Proper (readAdsd3500Ccb (echo header hlength) fun _ => true)
      (readAdsd3500Ccb (echo header hlength) fun _ => true) {}
      (fun _ _ _ => (ccbFileSize header).toNat ≤ 4) := by
    refine echo_readAdsd3500Ccb hchunk hpacket fun bytes t hbytes hroom => ?_
    rw [crcLength_eq_zero hempty, readFront_filled hroom (Nat.zero_le _)]
    refine (defined_lockstep _ _).bind fun x y t₁ h₁ => ?_
    obtain ⟨rfl, rfl⟩ := h₁
    rw [crc_test, List.take_zero, crcFast_nil]
    refine (Lockstep.of_ensure_true (decide_eq_true hcrc) (decide_eq_true hcrc) _ _ t₁).bind
      fun _ _ t₂ _ => ?_
    rcases hempty with hlow | hhigh
    · -- a size below 4 makes the length of the content wrap around
      cases readFront (ccbFileSize header - 4).toNat
        (filled (ccbFileSize header).toNat none bytes) with
      | some content => exact .pure hlow
      | none => exact .stops rfl rfl (fun h => h rfl) (fun h => h rfl)
    · have hsize : (ccbFileSize header - 4).toNat = (ccbFileSize header).toNat - 4 :=
        UInt32.toNat_sub_of_le _ _ (UInt32.le_iff_toNat_le.mpr (show 4 ≤ _ by omega))
      -- a file as long has more chunks than 16 bits count
      have hsmall : (ccbChunkSize header).toNat < 2 ^ 13 := by
        rw [InPacket, ctrlPacketSize] at hpacket
        have hlt := (ccbChunkSize header).toNat_lt
        omega
      have hmany : 2 ^ 16 ≤ (ccbFileSize header).toNat / (ccbChunkSize header).toNat := by
        rw [Nat.le_div_iff_mul_le (toNat_chunkSize_pos hchunk)]
        omega
      have hlost := chunks_lost (toNat_chunkSize_pos hchunk) hmany
      rw [hsize, readFront_unwritten (by omega)]
      exact .stops rfl rfl (fun h => h rfl) (fun h => h rfl)
  cases hreturns with
  | stops h₁ _ good₁ _ => exact hagree.defined ⟨_, by rw [h₁, not_not.mp good₁]⟩
  | returns h₁ _ hle =>
    -- the other reader refuses a size of 4 or less
    have hdirect : Lockstep Bad (readCurrentModuleCcbDirect (echo header hlength) fun _ => true)
        (readCurrentModuleCcbDirect (echo header hlength) fun _ => true) {}
        (fun _ _ _ => False) := by
      refine (echo_header _ _ _ _ _ _).bind fun a b t h => ?_
      obtain ⟨rfl, rfl⟩ := h
      exact (Lockstep.of_ensure_false (by simp [hle]) (by simp [hle]) (not_bad_thrown _)
        (not_bad_thrown _) t).bind fun _ _ _ hfalse => absurd hfalse id
    cases hdirect with
    | returns _ _ hfalse => exact hfalse
    | stops hrun _ _ _ =>
      have hsame := hagree.same
      rw [hrun, h₁] at hsame
      cases hsame

end Headers

/-- **The readers of the CCB agree** for every header that `HeaderOk` describes,
whatever the driver does with the chunks and the memory, and for no other.

The two are of different programs and differ in small things: the type of a
counter, the guard of a division, the test of a size. `HeaderOk` has a clause
for each difference that can be seen from outside, and one for what would be
undefined in both. Where a clause fails, a driver is given that brings this
about; where none does, both come to the same packets in the same order, and
what they return is put together from these. -/
theorem readers_agree_iff (header : Option Bytes) (hlength : ∀ h ∈ header, h.length = 16) :
    (∀ io allocates d, headerRead io d = header → Agree io allocates d)
      ↔ ∀ h ∈ header, HeaderOk h := by
  constructor
  · rintro hall h rfl
    have hagree := hall (echo h (hlength h rfl)) (fun _ => true) {} (headerRead_echo _)
    have hchunk : ccbChunkSize h ≠ 0 := fun hzero =>
      not_agree_chunkSize (hlength h rfl) hzero hagree
    have hpacket : InPacket h := by
      by_contra hlong
      exact not_agree_packet (hlength h rfl) hchunk hlong hagree
    refine ⟨hchunk, fun hempty hzero => ?_, fun hlow hhigh => ?_, hpacket⟩
    · exact not_agree_crc (hlength h rfl) hchunk hpacket hempty hzero hagree
    · by_contra hmany
      exact not_agree_count (hlength h rfl) hchunk hpacket hlow hhigh (by omega) hagree
  · intro hok io allocates d hheader
    cases header with
    | none => exact agree_of_no_header hheader
    | some h => exact agree_of_headerOk (hok h rfl) hheader

/-- A header of a file of 20 bytes, in chunks of 16. -/
def sampleHeader : Bytes := [0, 16, 0, 0, 20, 0, 0, 0, 0, 0, 0, 0, 1, 2, 3, 4]

/-- It is one that both are right on. -/
theorem headerOk_sampleHeader : HeaderOk sampleHeader where
  chunkSize := by decide
  crc := by decide
  count := by decide
  packet := by
    rw [InPacket]
    decide

/-- The header of the example has the length of a packet's, so the readers agree
on it. -/
theorem readers_agree_sampleHeader :
    (∀ h ∈ some sampleHeader, h.length = 16)
      ∧ ∀ io allocates d, headerRead io d = some sampleHeader → Agree io allocates d := by
  have hlength : ∀ h ∈ some sampleHeader, h.length = 16 := by
    rintro h hh
    cases hh
    rfl
  refine ⟨hlength, (readers_agree_iff (some sampleHeader) hlength).mpr ?_⟩
  rintro h hh
  cases hh
  exact headerOk_sampleHeader

/-- The chunk size of a header of zeros. -/
theorem zeroHeader_chunkSize : ccbChunkSize (List.replicate 16 0) = 0 := by decide

/-- **On a header of zeros they do not agree**: one throws, the other divides
by zero. -/
theorem not_agree_zeroHeader :
    ¬ ∀ (io : PacketAnswers) (allocates : ℕ → Bool) (d : Adsd3500), Agree io allocates d :=
  fun h => not_agree_chunkSize List.length_replicate zeroHeader_chunkSize (h _ _ _)

end CcbReaders

/-! ## The readers without a buffer

For a header that `HeaderOk` describes, and a size whose checksum is taken, what
is in a buffer makes no difference: the readers return what the ones of burst
mode do, which only join the payloads. -/

namespace CcbReaders

variable {io : PacketAnswers} {d : Adsd3500} {allocates : ℕ → Bool} {header : Bytes}

/-- A chunk is the same, put into the buffer or not, … -/
theorem readPayload_lockstep {f g : Exit → Exit} (hread : ReadsTogether Bad io f g)
    {len : UInt16} (hlen : 3 + len.toNat ≤ ctrlPacketSize) {size : ℕ} {x : Option UInt8}
    {front : Bytes} (hroom : front.length + len.toNat ≤ size) :
    Lockstep Bad (mapExit f (readPayload io.toDriverAnswers len))
      (readPayloadInto io g len front.length (filled size x front)) d (fun a b _ =>
        b = filled size x (front ++ a) ∧ a.length = len.toNat) := by
  refine (hread len d).bind_right fun a b t h => ?_
  obtain ⟨rfl, rfl, hgets, -⟩ := h
  have hlength := bytesRead_length hgets hlen
  have htest : (3 + len.toNat ≤ ctrlPacketSize
      && front.length + len.toNat ≤ (filled size x front).length : Bool) = true := by
    rw [length_filled (by omega)]
    simp [hlen, hroom]
  rw [htest]
  exact .pure ⟨writeAt_filled size x _ _, hlength⟩

/-- … and so are all of them, by the same induction as above, … -/
theorem readChunks_lockstep {f g : ℕ → Exit → Exit}
    (hread : ∀ i, ReadsTogether Bad io (f i) (g i)) {size : UInt16} {total : ℕ}
    {x : Option UInt8} {offset : ℕ → Option ℕ} (count i : ℕ)
    (hoffset : ∀ j < i + count, offset j = some (j * size.toNat))
    (hlen : 0 < count → 3 + size.toNat ≤ ctrlPacketSize)
    (hroom : (i + count) * size.toNat ≤ total) (front : Bytes)
    (hfront : front.length = i * size.toNat) (d : Adsd3500) :
    Lockstep Bad (readChunks io.toDriverAnswers f size count i)
      (readChunksInto io g offset size count i (filled total x front)) d (fun a b _ =>
        b = filled total x (front ++ a) ∧ a.length = count * size.toNat) := by
  induction count generalizing i front d with
  | zero => exact .pure ⟨by rw [List.append_nil], by simp⟩
  | succ count ih =>
    have hnext : (i + 1) * size.toNat ≤ total :=
      le_trans (Nat.mul_le_mul_right _ (by omega)) hroom
    have hsplit : (i + 1) * size.toNat = i * size.toNat + size.toNat := Nat.succ_mul _ _
    rw [readChunks, readChunksInto, hoffset i (by omega), ← hfront]
    refine (readPayload_lockstep (hread i) (hlen (Nat.succ_pos _)) (by omega)).bind
      fun a b t h => ?_
    obtain ⟨rfl, hlength⟩ := h
    have hrest := ih (i + 1) (fun j hj => hoffset j (by omega)) (fun _ => hlen (Nat.succ_pos _))
      (by rw [show i + 1 + count = i + (count + 1) by omega]; exact hroom)
      (front ++ a) (by rw [List.length_append, hlength]; omega) t
    have hjoin : Lockstep Bad
        (readChunks io.toDriverAnswers f size count (i + 1) >>= fun rest => pure (a ++ rest))
        (readChunksInto io g offset size count (i + 1) (filled total x (front ++ a)) >>= pure) t
        (fun a' b' _ => b' = filled total x (front ++ a')
          ∧ a'.length = (count + 1) * size.toNat) :=
      hrest.bind fun rest b t' h => .pure ⟨by rw [h.1, List.append_assoc], by
        rw [List.length_append, hlength, h.2, Nat.succ_mul, Nat.add_comm]⟩
    rwa [bind_pure] at hjoin

/-- … with the last one. -/
theorem readLastChunk_lockstep {f g : Exit → Exit} (hread : ReadsTogether Bad io f g)
    {len : UInt16} (hlen : 3 + len.toNat ≤ ctrlPacketSize) {size : ℕ} {x : Option UInt8}
    {front : Bytes} (hroom : front.length + len.toNat ≤ size) {offset : Option ℕ}
    (hoffset : offset = some front.length) :
    Lockstep Bad (readLastChunk io.toDriverAnswers f len)
      (readLastInto io g offset len (filled size x front)) d (fun a b _ =>
        b = filled size x (front ++ a) ∧ a.length = len.toNat) := by
  rw [readLastChunk, readLastInto]
  by_cases hzero : len = 0
  · rw [if_pos hzero, if_pos hzero, hzero]
    exact .pure ⟨by rw [List.append_nil], rfl⟩
  · rw [if_neg hzero, if_neg hzero, hoffset]
    exact readPayload_lockstep hread hlen hroom

end CcbReaders

open CcbReaders in
/-- **`readAdsd3500CCB` with its buffer returns what it does without.** -/
theorem readAdsd3500Ccb_buffer {io : PacketAnswers} {d : Adsd3500} {allocates : ℕ → Bool}
    {header : Bytes} (h : HeaderOk header) (hlow : 4 < (ccbFileSize header).toNat)
    (hhigh : (ccbFileSize header).toNat < 2 ^ 31 + 4) (hheader : headerRead io d = some header) :
    Lockstep Bad (readAdsd3500Ccb io.toDriverAnswers (crcFast · true) allocates)
      (CcbReaders.readAdsd3500Ccb io allocates) d (fun a b _ => a = b) := by
  have hcount := h.count hlow hhigh
  have hremainder := toNat_ccbRemainder h.chunkSize
  have hdivides := Nat.div_add_mod' (ccbFileSize header).toNat (ccbChunkSize header).toNat
  have hself := header_lockstep good_id good_id hheader
  rw [mapExit_id] at hself
  refine hself.bind fun a b t₁ h₁ => ?_
  obtain ⟨rfl, rfl, -⟩ := h₁
  refine (Lockstep.of_ensure_true (by simp [h.chunkSize]) (by simp [h.chunkSize]) _ _ t₁).bind
    fun _ _ t₂ _ => ?_
  refine (Lockstep.of_ensure _ (not_bad_thrown _) (not_bad_thrown _) t₂).bind fun _ _ t₃ _ => ?_
  rw [Nat.mod_eq_of_lt hcount, ← filled_nil]
  refine (readChunks_lockstep (fun _ => readsTogether good_id good_id) _ 0
    (fun j hj => h.packet.intProduct le_rfl hcount (by omega)) (fun hpos => h.packet.chunk hpos)
    (by rw [Nat.zero_add]; exact Nat.div_mul_le_self _ _) [] (by simp) t₃).bind
      fun chunks b₂ t₄ h₄ => ?_
  obtain ⟨rfl, hchunks⟩ := h₄
  rw [List.nil_append]
  refine (readLastChunk_lockstep (readsTogether good_id good_id) (h.packet.last h.chunkSize)
    (by rw [hchunks, hremainder]; omega)
    (by rw [h.packet.intProduct le_rfl hcount le_rfl, hchunks])).bind fun last b₂ t₅ h₅ => ?_
  obtain ⟨rfl, hlast⟩ := h₅
  refine (setExtCtrls_self io _ _).bind fun _ _ t₆ _ => ?_
  have hall : (chunks ++ last).length = (ccbFileSize b).toNat := by
    rw [List.length_append, hchunks, hlast, hremainder, hdivides]
  have hread : readFront ((ccbFileSize b).toNat - 4)
      (filled (ccbFileSize b).toNat none (chunks ++ last))
      = some ((chunks ++ last).take ((ccbFileSize b).toNat - 4)) :=
    readFront_filled hall.le (by omega) none
  have hsize : (ccbFileSize b - 4).toNat = (ccbFileSize b).toNat - 4 :=
    UInt32.toNat_sub_of_le _ _ (UInt32.le_iff_toNat_le.mpr hlow.le)
  rw [crcLength_eq hlow hhigh, hsize, hread, decide_eq_true hlow.le]
  refine (Lockstep.returns (R := fun _ content _ =>
    content = (chunks ++ last).take ((ccbFileSize b).toNat - 4)) rfl rfl rfl).bind
      fun _ content t₇ h₇ => ?_
  subst h₇
  exact (Lockstep.of_ensure _ (not_bad_status _) (not_bad_status _) t₇).bind
    fun _ _ _ _ => .pure rfl

open CcbReaders in
/-- So does `read_current_module_ccb_direct`. -/
theorem readCurrentModuleCcbDirect_buffer {io : PacketAnswers} {d : Adsd3500}
    {allocates : ℕ → Bool} {header : Bytes} (h : HeaderOk header)
    (hlow : 4 < (ccbFileSize header).toNat) (hheader : headerRead io d = some header)
    (hhigh : (ccbFileSize header).toNat < 2 ^ 31 + 4) :
    Lockstep Bad (readCurrentModuleCcbDirect io.toDriverAnswers (crcFast · true) allocates)
      (CcbReaders.readCurrentModuleCcbDirect io allocates) d (fun a b _ => a = b) := by
  have hremainder := toNat_ccbRemainder h.chunkSize
  have hdivides := Nat.div_add_mod' (ccbFileSize header).toNat (ccbChunkSize header).toNat
  refine (header_lockstep (good_thrown _) (good_thrown _) hheader).bind fun a b t₁ h₁ => ?_
  obtain ⟨rfl, rfl, -⟩ := h₁
  refine (Lockstep.of_ensure _ (not_bad_thrown _) (not_bad_thrown _) t₁).bind fun _ _ t₂ _ => ?_
  refine (Lockstep.of_ensure _ (not_bad_thrown _) (not_bad_thrown _) t₂).bind fun _ _ t₃ _ => ?_
  rw [← filled_nil]
  refine (readChunks_lockstep (fun _ => readsTogether (good_thrown _) (good_thrown _)) _ 0
    (fun j hj => uintProduct_chunk (by omega)) (fun hpos => h.packet.chunk hpos)
    (by rw [Nat.zero_add]; exact Nat.div_mul_le_self _ _) [] (by simp) t₃).bind
      fun chunks b₂ t₄ h₄ => ?_
  obtain ⟨rfl, hchunks⟩ := h₄
  rw [List.nil_append]
  refine (readLastChunk_lockstep (readsTogether (good_thrown _) (good_thrown _))
    (h.packet.last h.chunkSize) (by rw [hchunks, hremainder]; omega)
    (by rw [uintProduct_chunk le_rfl, hchunks])).bind fun last b₂ t₅ h₅ => ?_
  obtain ⟨rfl, hlast⟩ := h₅
  refine (mapExit_lockstep (good_thrown _) (good_thrown _) (setExtCtrls_self io _ _)).bind
    fun _ _ t₆ _ => ?_
  have hall : (chunks ++ last).length = (ccbFileSize b).toNat := by
    rw [List.length_append, hchunks, hlast, hremainder, hdivides]
  have hread : readFront ((ccbFileSize b).toNat - 4)
      (filled (ccbFileSize b).toNat (some 0) (chunks ++ last))
      = some ((chunks ++ last).take ((ccbFileSize b).toNat - 4)) :=
    readFront_filled hall.le (by omega) _
  rw [crcLength_eq hlow hhigh, hread]
  exact (Lockstep.of_ensure _ (not_bad_thrown _) (not_bad_thrown _) t₆).bind
    fun _ _ _ _ => .pure rfl
