import TofNet.ZstdCodec

/-!
# Frames of raw blocks

What the library writes for data it cannot compress: a frame header with the
content size, and then the data itself in blocks of at most 128 KiB, each
behind a three-byte block header that holds the block's size, its type
(always "raw" here) and whether it is the last one. Ten bytes of header and
three bytes a block are all that is added, which is how an incompressible
frame comes to be larger than the data in it.

The module shows that this part of the format alone satisfies the laws of
`Zstd`, so that they are not assumed in vain.

Two things have to be shown of a frame: that it is read back, and that no proper
front of it is read at all. Both are inductions on the full blocks. For the
second, where the frame is cut decides the case: in the header of a block, in
its content, or behind it.
-/

namespace RawBlocks

/-- The largest block. -/
def blockMax : ℕ := 131072

/-- A raw block's header. -/
def blockHeader (last : Bool) (size : ℕ) : Bytes := leBytes 3 (8 * size + last.toNat)

/-- `n` full blocks, and then the last one. -/
def blocks : ℕ → Bytes → Bytes
  | 0, data => blockHeader true data.length ++ data
  | n + 1, data =>
    blockHeader false blockMax ++ (data.take blockMax ++ blocks n (data.drop blockMax))

/-- Reading blocks up to the last one, which must end the input. -/
def unblocks : ℕ → Bytes → Option Bytes
  | 0, _ => none
  | fuel + 1, bs =>
    let header := leNat (bs.take 3)
    if bs.length < 3 + header / 8 ∨ header / 2 % 4 ≠ 0 then none
    else if header % 2 = 1 then
      if bs.length = 3 + header / 8 then some (bs.drop 3) else none
    else (unblocks fuel (bs.drop (3 + header / 8))).map ((bs.drop 3).take (header / 8) ++ ·)

/-- A block header has three bytes. -/
@[simp] theorem length_blockHeader (last : Bool) (size : ℕ) :
    (blockHeader last size).length = 3 := length_leBytes _ _

/-- A block header is read back. -/
theorem leNat_blockHeader {size : ℕ} (h : size ≤ blockMax) (last : Bool) (bs : Bytes) :
    leNat ((blockHeader last size ++ bs).take 3) = 8 * size + last.toNat := by
  have hlast : last.toNat ≤ 1 := Bool.toNat_le last
  have hsize : size ≤ 131072 := h
  rw [List.take_left' (length_blockHeader last size), blockHeader, leNat_leBytes]
  exact Nat.mod_eq_of_lt (by omega)

/-- **The size of the blocks**: three bytes a block over the data. -/
theorem length_blocks {n : ℕ} {data : Bytes} (h : n * blockMax ≤ data.length) :
    (blocks n data).length = data.length + 3 * (n + 1) := by
  induction n generalizing data with
  | zero =>
    rw [blocks, List.length_append, length_blockHeader]
    omega
  | succ n ih =>
    rw [Nat.succ_mul] at h
    have hdrop : n * blockMax ≤ (data.drop blockMax).length := by
      rw [List.length_drop]
      omega
    rw [blocks, List.length_append, List.length_append, length_blockHeader, ih hdrop,
      List.length_take, List.length_drop]
    omega

/-- Reading a full block leaves the blocks after it. -/
theorem unblocks_full (fuel : ℕ) {chunk : Bytes} (hchunk : chunk.length = blockMax) (bs : Bytes) :
    unblocks (fuel + 1) (blockHeader false blockMax ++ (chunk ++ bs))
      = (unblocks fuel bs).map (chunk ++ ·) := by
  have hread := leNat_blockHeader (le_refl blockMax) false (chunk ++ bs)
  have hdiv : (8 * blockMax + false.toNat) / 8 = blockMax := by decide
  have hlen : (blockHeader false blockMax ++ (chunk ++ bs)).length
      = 3 + (blockMax + bs.length) := by
    rw [List.length_append, List.length_append, length_blockHeader, hchunk]
  have hdrop : (blockHeader false blockMax ++ (chunk ++ bs)).drop 3 = chunk ++ bs :=
    List.drop_left' (length_blockHeader false blockMax)
  have hrest : (blockHeader false blockMax ++ (chunk ++ bs)).drop (3 + blockMax) = bs := by
    rw [← List.drop_drop, hdrop, List.drop_left' hchunk]
  rw [unblocks]
  simp only [hread, hdiv, hlen, hdrop, hrest, List.take_left' hchunk]
  rw [if_neg (by rw [not_or]; exact ⟨by omega, by decide⟩), if_neg (by decide)]

/-- **The blocks are read back.** -/
theorem unblocks_blocks {n fuel : ℕ} {data : Bytes} (hlo : n * blockMax ≤ data.length)
    (hhi : data.length ≤ (n + 1) * blockMax) (hfuel : n < fuel) :
    unblocks fuel (blocks n data) = some data := by
  induction n generalizing data fuel with
  | zero =>
    obtain ⟨fuel, rfl⟩ := Nat.exists_eq_succ_of_ne_zero (Nat.ne_of_gt hfuel)
    have hsize : data.length ≤ blockMax := by omega
    have hread := leNat_blockHeader hsize true data
    have hdiv : (8 * data.length + true.toNat) / 8 = data.length := by
      rw [Bool.toNat_true]
      omega
    have htype : (8 * data.length + true.toNat) / 2 % 4 = 0 := by
      rw [Bool.toNat_true]
      omega
    have hlast : (8 * data.length + true.toNat) % 2 = 1 := by
      rw [Bool.toNat_true]
      omega
    have hlen : (blockHeader true data.length ++ data).length = 3 + data.length := by
      rw [List.length_append, length_blockHeader]
    rw [blocks, unblocks]
    simp only [hread, hdiv, htype, hlast, hlen]
    rw [if_neg (by simp), if_pos trivial, if_pos trivial,
      List.drop_left' (length_blockHeader true data.length)]
  | succ n ih =>
    obtain ⟨fuel, rfl⟩ := Nat.exists_eq_succ_of_ne_zero (Nat.ne_of_gt (Nat.zero_lt_of_lt hfuel))
    rw [Nat.succ_mul] at hlo
    rw [Nat.succ_mul] at hhi
    have hchunk : (data.take blockMax).length = blockMax := List.length_take_of_le (by omega)
    rw [blocks, unblocks_full fuel hchunk,
      ih (by rw [List.length_drop]; omega) (by rw [List.length_drop]; omega) (by omega),
      Option.map_some, List.take_append_drop]

/-- Too few bytes for a block header are no blocks. -/
theorem unblocks_short (fuel : ℕ) {bs : Bytes} (h : bs.length < 3) : unblocks fuel bs = none := by
  cases fuel with
  | zero => rfl
  | succ fuel =>
    rw [unblocks]
    exact if_pos (Or.inl (by omega))

/-- A block cut inside its content is no block. -/
theorem unblocks_cut (fuel : ℕ) {size : ℕ} (hsize : size ≤ blockMax) (last : Bool) {bs : Bytes}
    (h : bs.length < size) : unblocks fuel (blockHeader last size ++ bs) = none := by
  cases fuel with
  | zero => rfl
  | succ fuel =>
    have hdiv : (8 * size + last.toNat) / 8 = size := by
      have := Bool.toNat_le last
      omega
    rw [unblocks]
    simp only [leNat_blockHeader hsize, hdiv]
    refine if_pos (Or.inl ?_)
    rw [List.length_append, length_blockHeader]
    omega

/-- **Blocks cut short are no blocks.** -/
theorem unblocks_take {n k : ℕ} (fuel : ℕ) {data : Bytes} (hlo : n * blockMax ≤ data.length)
    (hhi : data.length ≤ (n + 1) * blockMax) (hk : k < (blocks n data).length) :
    unblocks fuel ((blocks n data).take k) = none := by
  by_cases hshort : k < 3
  · exact unblocks_short fuel (lt_of_le_of_lt (List.length_take_le _ _) hshort)
  obtain ⟨j, rfl⟩ := Nat.exists_eq_add_of_le (Nat.not_lt.mp hshort)
  induction n generalizing data fuel j with
  | zero =>
    have hsize : data.length ≤ blockMax := by omega
    rw [blocks, List.length_append, length_blockHeader] at hk
    have hcut : (blockHeader true data.length ++ data).take (3 + j)
        = blockHeader true data.length ++ data.take j := by
      rw [List.take_append, length_blockHeader, Nat.add_sub_cancel_left,
        List.take_of_length_le (by rw [length_blockHeader]; omega)]
    rw [blocks, hcut]
    refine unblocks_cut fuel hsize true ?_
    rw [List.length_take]
    omega
  | succ n ih =>
    rw [Nat.succ_mul] at hlo
    rw [Nat.succ_mul] at hhi
    have hchunk : (data.take blockMax).length = blockMax := List.length_take_of_le (by omega)
    have hcut : (blocks (n + 1) data).take (3 + j) = blockHeader false blockMax
        ++ (data.take blockMax ++ blocks n (data.drop blockMax)).take j := by
      rw [blocks, List.take_append, length_blockHeader, Nat.add_sub_cancel_left,
        List.take_of_length_le (by rw [length_blockHeader]; omega)]
    have hlen : (blocks (n + 1) data).length
        = 3 + (blockMax + (blocks n (data.drop blockMax)).length) := by
      rw [blocks, List.length_append, List.length_append, length_blockHeader, hchunk]
    rw [hcut]
    by_cases hj : j < blockMax
    · refine unblocks_cut fuel (le_refl _) false ?_
      rw [List.length_take]
      omega
    -- the cut is behind the first block
    obtain ⟨i, rfl⟩ := Nat.exists_eq_add_of_le (Nat.not_lt.mp hj)
    rw [List.take_append, hchunk, Nat.add_sub_cancel_left,
      List.take_of_length_le (by rw [hchunk]; omega)]
    cases fuel with
    | zero => rfl
    | succ fuel =>
      rw [unblocks_full fuel hchunk, Option.map_eq_none_iff]
      have hi : i < (blocks n (data.drop blockMax)).length := by omega
      by_cases hi3 : i < 3
      · exact unblocks_short fuel (lt_of_le_of_lt (List.length_take_le _ _) hi3)
      obtain ⟨i', rfl⟩ := Nat.exists_eq_add_of_le (Nat.not_lt.mp hi3)
      exact ih fuel (by rw [List.length_drop]; omega) (by rw [List.length_drop]; omega) i' hi hi3

/-! ## The frame around the blocks

The field of the content size has one, two, four or eight bytes, and a frame
with more than 2 MiB has a byte for the window as well. That the header has at
most ten bytes is by these cases. -/

/-- The frame's magic number. -/
def magic : Bytes := [0x28, 0xB5, 0x2F, 0xFD]

/-- What follows the magic number: a descriptor, the window where the content
is larger than it, and the content size in as few bytes as will hold it. -/
def contentSize (size : ℕ) : Bytes :=
  if size < 256 then 0x20 :: leBytes 1 size
  else if size < 65792 then 0x60 :: leBytes 2 (size - 256)
  else if size ≤ 2097152 then 0xA0 :: leBytes 4 size
  else if size < 4294967295 then 0x80 :: 0x58 :: leBytes 4 size
  else 0xC0 :: 0x58 :: leBytes 8 size

/-- The number of bytes a descriptor announces after itself. -/
def fieldBytes (descriptor : UInt8) : ℕ :=
  match descriptor.toNat with
  | 0x20 => 1
  | 0x60 => 2
  | 0xA0 => 4
  | 0x80 => 5
  | _ => 9

/-- The number of full blocks before the last one. -/
def fullBlocks (size : ℕ) : ℕ := (size - 1) / blockMax

/-- A frame of some data. -/
def frame (data : Bytes) : Bytes :=
  magic ++ (contentSize data.length ++ blocks (fullBlocks data.length) data)

/-- Reading a frame; an empty input holds no frame and decodes to nothing. -/
def unframe (cap : ℕ) (bs : Bytes) : Except String Bytes :=
  if bs = [] then .ok []
  else if bs.take 4 ≠ magic then .error "Unknown frame descriptor"
  else
    match bs.drop 4 with
    | [] => .error "Src size is incorrect"
    | descriptor :: rest =>
      match unblocks bs.length (rest.drop (fieldBytes descriptor)) with
      | none => .error "Src size is incorrect"
      | some out => if out.length ≤ cap then .ok out else .error "Destination buffer is too small"

/-- **The codec that compresses nothing.** -/
def codec : Zstd where
  compress _ cap data :=
    if (frame data).length ≤ cap then .ok (frame data)
    else .error "Destination buffer is too small"
  decompress := unframe

/-- The content size is a descriptor and the bytes it announces. -/
theorem contentSize_eq (size : ℕ) : ∃ descriptor fields,
    contentSize size = descriptor :: fields ∧ fields.length = fieldBytes descriptor ∧
      fields.length ≤ 9 := by
  unfold contentSize
  split
  · exact ⟨0x20, leBytes 1 size, rfl, rfl, by simp⟩
  split
  · exact ⟨0x60, leBytes 2 (size - 256), rfl, rfl, by simp⟩
  split
  · exact ⟨0xA0, leBytes 4 size, rfl, rfl, by simp⟩
  split
  · exact ⟨0x80, 0x58 :: leBytes 4 size, rfl, rfl, by simp⟩
  · exact ⟨0xC0, 0x58 :: leBytes 8 size, rfl, rfl, by simp⟩

/-- The magic number has four bytes. -/
theorem length_magic : magic.length = 4 := rfl

/-- A frame is its magic number, a descriptor and the bytes it announces, and
the blocks. -/
theorem frame_eq (data : Bytes) : ∃ descriptor fields,
    frame data = magic ++ (descriptor :: (fields ++ blocks (fullBlocks data.length) data)) ∧
      fields.length = fieldBytes descriptor ∧ fields.length ≤ 9 := by
  obtain ⟨descriptor, fields, hcs, hlen, hle⟩ := contentSize_eq data.length
  exact ⟨descriptor, fields, by rw [frame, hcs, List.cons_append], hlen, hle⟩

/-- The full blocks are in the data. -/
theorem fullBlocks_mul_le (size : ℕ) : fullBlocks size * blockMax ≤ size := by
  have hmul : (size - 1) / 131072 * 131072 ≤ size - 1 := Nat.div_mul_le_self _ _
  show (size - 1) / 131072 * 131072 ≤ size
  omega

/-- They leave no more than one block. -/
theorem le_fullBlocks_mul (size : ℕ) : size ≤ (fullBlocks size + 1) * blockMax := by
  show size ≤ ((size - 1) / 131072 + 1) * 131072
  omega

/-- **A frame fits the library's bound**: there are at most ten bytes before
the blocks. -/
theorem length_frame_le (data : Bytes) :
    (frame data).length ≤ Zstd.compressBound data.length := by
  obtain ⟨descriptor, fields, hframe, _, hfields⟩ := frame_eq data
  rw [hframe, List.length_append, List.length_cons, List.length_append, length_magic,
    length_blocks (fullBlocks_mul_le _), Zstd.compressBound, fullBlocks]
  show _ + (_ + (_ + 3 * ((data.length - 1) / 131072 + 1)) + 1) ≤ _
  split <;> omega

/-- What the codec writes is the frame. -/
theorem frame_of_compress {level : Int} {cap : ℕ} {data out : Bytes}
    (h : codec.compress level cap data = .ok out) : out = frame data := by
  unfold codec at h
  simp only at h
  split at h
  · exact (Except.ok.inj h).symm
  · cases h

theorem codec_fitsBound : codec.FitsBound := by
  intro level data out h
  rw [frame_of_compress h]
  exact length_frame_le data

theorem codec_inverts : codec.Inverts := by
  intro level data out h
  rw [frame_of_compress h]
  obtain ⟨descriptor, fields, hframe, hlen, _⟩ := frame_eq data
  have htake : (frame data).take 4 = magic := by rw [hframe, List.take_left' length_magic]
  have hdrop : (frame data).drop 4
      = descriptor :: (fields ++ blocks (fullBlocks data.length) data) := by
    rw [hframe, List.drop_left' length_magic]
  have hfuel : fullBlocks data.length < (frame data).length := by
    rw [hframe, List.length_append, List.length_cons, List.length_append,
      length_blocks (fullBlocks_mul_le _)]
    omega
  have hblocks := unblocks_blocks (fullBlocks_mul_le data.length) (le_fullBlocks_mul data.length)
    hfuel
  show unframe data.length (frame data) = .ok data
  rw [unframe, if_neg (by rw [hframe]; exact nofun), if_neg (not_not.mpr htake), hdrop]
  simp only [List.drop_left' hlen, hblocks]
  exact if_pos (le_refl _)

theorem codec_rejectsPrefix : codec.RejectsPrefix := by
  intro level data out k cap h hpos hk
  rw [frame_of_compress h] at hk ⊢
  obtain ⟨descriptor, fields, hframe, hlen, _⟩ := frame_eq data
  have hne : (frame data).take k ≠ [] := by
    intro hnil
    have hz := congrArg List.length hnil
    rw [List.length_take, List.length_nil] at hz
    omega
  show ∃ e, unframe cap ((frame data).take k) = .error e
  rw [unframe, if_neg hne]
  by_cases hmagic : ((frame data).take k).take 4 ≠ magic
  · exact ⟨_, if_pos hmagic⟩
  have hdrop : ((frame data).take k).drop 4
      = (descriptor :: (fields ++ blocks (fullBlocks data.length) data)).take (k - 4) := by
    rw [List.drop_take, hframe, List.drop_left' length_magic]
  rw [if_neg hmagic, hdrop]
  cases hj : k - 4 with
  | zero => exact ⟨_, rfl⟩
  | succ j =>
    -- what is left behind the header is a cut list of blocks
    have hcut : ((fields ++ blocks (fullBlocks data.length) data).take j).drop
        (fieldBytes descriptor)
        = (blocks (fullBlocks data.length) data).take (j - fieldBytes descriptor) := by
      rw [List.drop_take, List.drop_left' hlen]
    have hshort : j - fieldBytes descriptor < (blocks (fullBlocks data.length) data).length := by
      rw [hframe, List.length_append, List.length_cons, List.length_append, length_magic] at hk
      have hblk := length_blocks (fullBlocks_mul_le data.length)
      omega
    rw [List.take_succ_cons]
    simp only [hcut, unblocks_take _ (fullBlocks_mul_le _) (le_fullBlocks_mul _) hshort]
    exact ⟨_, rfl⟩

end RawBlocks
