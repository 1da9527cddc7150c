import TofNet.CcbBlocks

/-!
# The index of a CCB

`ccb_build_cal_block_index` asks for block after block of every kind and puts
their places into the storage behind the index, as long as there is room. The
sign of the number of blocks says whether there was: an index whose number is
not negative has, for every kind, exactly the blocks of the file in their order
(`ccbBuildCalBlockIndex_lists`).

A file that is written as the layout says is read back block by block
(`CcbFile.ccbGetCalBlockInfo_encode`), if a byte is left behind the front of its
last block.

There are two halves. The first is about an index that is built of any file, in
any buffer that holds the index itself: what it says of the file, and how one
sees that it says all. The second is a round trip: `CcbFile` is a file as a list
of blocks, `encode` writes it down, and the functions find each of the blocks in
it again. The two meet in the places of the blocks, which the first half takes
from the bytes and the second from the list.
-/

open ModuleMemory

/-! ## Building the index

The function asks for the blocks by their number within their kind, beginning
from the front of the file with each of them. It stops asking for a kind when it
gets no block. The room that is left is counted down as pointers are stored. -/

/-- The kinds of blocks, in the order in which they are indexed. -/
def indexedIds : List UInt8 := [0x41, 0x46, 0x47, 0x49, 0x4C, 0x50, 0x53, 0x54, 0x56, 0xD7]

/-- `sizeof(ccb_index_t)`, without the storage. -/
def ccbIndexSize : ℕ := 168

/-- The size of a pointer. -/
def pointerSize : ℕ := 8

/-- While the index is built: the number of blocks, whether all had room, and
the storage with the room left in it. -/
@[ext]
structure Indexing where
  numBlocks : ℕ := 0
  complete : Bool := true
  available : ℕ
  storage : List ℕ := []
  deriving DecidableEq

/-- `ccb_index_t`: where the array of each kind begins in the storage, and its
length. -/
structure CcbIndex where
  numBlocks : ℤ
  arrays : List (ℕ × ℕ)
  storage : List ℕ
  deriving DecidableEq

/-- A block that was found. -/
def Indexing.add (s : Indexing) (p : ℕ) : Indexing :=
  if 0 < s.available then
    { s with numBlocks := s.numBlocks + 1, available := s.available - 1,
             storage := s.storage ++ [p] }
  else { s with numBlocks := s.numBlocks + 1, complete := false }

/-- The loop of `index_cal_blocks` from an index on, for so many rounds. -/
def indexFrom (data : Bytes) (blockId : BlockType) : ℕ → ℕ → Indexing → Option Indexing
  | 0, _, _ => none
  | n + 1, i, s => do
    match ← ccbGetCalBlockInfo data blockId i with
    | none => pure s
    | some p => indexFrom data blockId n (i + 1) (s.add p)

/-- **`index_cal_blocks`**: the array, and what is built. -/
def indexCalBlocks (data : Bytes) (blockId : BlockType) (s : Indexing) :
    Option ((ℕ × ℕ) × Indexing) := do
  let s' ← indexFrom data blockId (2 ^ 16) 0 s
  pure ((s.storage.length, s'.storage.length - s.storage.length), s')

/-- The arrays of some kinds, one after the other. -/
def indexAll (data : Bytes) : List UInt8 → Indexing → Option (List (ℕ × ℕ) × Indexing)
  | [], s => pure ([], s)
  | id :: ids, s => do
    let (array, s) ← indexCalBlocks data (.blockId id) s
    let (arrays, s) ← indexAll data ids s
    pure (array :: arrays, s)

/-- **`ccb_build_cal_block_index`**, in a buffer of so many bytes. -/
def ccbBuildCalBlockIndex (data : Bytes) (bufferSize : ℕ) : Option (Option CcbIndex) :=
  if bufferSize < ccbIndexSize then pure none
  else do
    let (arrays, s) ← indexAll data indexedIds
      { available := (bufferSize - ccbIndexSize) / pointerSize }
    pure (some {
      numBlocks := if s.complete then s.numBlocks else -s.numBlocks
      arrays := arrays
      storage := s.storage })

/-! ## What is built

Storing a block is one operation (`Indexing.add`), and storing the blocks of a
kind is its repetition, so that the state behind it is known from the state
before and from the list of the blocks. That the loop comes to an end for a
kind, behind its last block, is because a file has fewer blocks than the index
of the loop can count. -/

section Building

variable {data : Bytes} {s : Indexing}

/-- Block after block. -/
def Indexing.addAll (s : Indexing) (ps : List ℕ) : Indexing where
  numBlocks := s.numBlocks + ps.length
  complete := s.complete && ps.length ≤ s.available
  available := s.available - ps.length
  storage := s.storage ++ ps.take s.available

theorem Indexing.add_addAll (s : Indexing) (p : ℕ) (ps : List ℕ) :
    (s.add p).addAll ps = s.addAll (p :: ps) := by
  have hlength : (p :: ps).length = ps.length + 1 := rfl
  rw [Indexing.add]
  split
  · next hroom =>
    obtain ⟨k, hk⟩ := Nat.exists_eq_add_one_of_ne_zero hroom.ne'
    refine Indexing.ext ?_ ?_ ?_ ?_
    · simp only [Indexing.addAll, hlength]
      omega
    · simp only [Indexing.addAll, hlength, hk, Nat.add_sub_cancel, Nat.add_le_add_iff_right]
    · simp only [Indexing.addAll, hlength]
      omega
    · simp only [Indexing.addAll, hk, Nat.add_sub_cancel, List.take_succ_cons, List.append_assoc,
        List.singleton_append]
  · next hfull =>
    have hzero : s.available = 0 := Nat.eq_zero_of_not_pos hfull
    refine Indexing.ext ?_ ?_ ?_ ?_
    · simp only [Indexing.addAll, hlength]
      omega
    · simp [Indexing.addAll, hzero]
    · simp only [Indexing.addAll, hzero, Nat.zero_sub]
    · simp only [Indexing.addAll, hzero, List.take_zero]

/-- **The loop ends behind the last block of the kind.** -/
theorem indexFrom_eq (blockId : BlockType) {n i : ℕ} (s : Indexing)
    (h : (blocksOf data blockId).length ≤ i + n) :
    indexFrom data blockId (n + 1) i s = some (s.addAll ((blocksOf data blockId).drop i)) := by
  have hend : ∀ {n i : ℕ} (s : Indexing), (blocksOf data blockId).length ≤ i →
      indexFrom data blockId (n + 1) i s = some (s.addAll ((blocksOf data blockId).drop i)) :=
    fun s hi => by
      rw [indexFrom, ccbGetCalBlockInfo_eq, List.getElem?_eq_none hi, List.drop_eq_nil_of_le hi]
      simp [Indexing.addAll]
  induction n generalizing i s with
  | zero => exact hend s h
  | succ n ih =>
    by_cases hi : i < (blocksOf data blockId).length
    · rw [indexFrom, ccbGetCalBlockInfo_eq, List.getElem?_eq_getElem hi,
        List.drop_eq_getElem_cons hi, ← Indexing.add_addAll]
      exact ih _ (by omega)
    · exact hend s (Nat.le_of_not_lt hi)

theorem indexCalBlocks_eq (blockId : BlockType) (s : Indexing) :
    indexCalBlocks data blockId s
      = some ((s.storage.length, min s.available (blocksOf data blockId).length),
          s.addAll (blocksOf data blockId)) := by
  have hcount := length_blocksOf_lt data blockId
  have hloop : indexFrom data blockId (2 ^ 16) 0 s = some (s.addAll (blocksOf data blockId)) :=
    indexFrom_eq (n := 2 ^ 16 - 1) blockId s (by omega)
  rw [indexCalBlocks, hloop]
  simp [Indexing.addAll]

/-- What is in the storage and how much room there is, from how many blocks
there were. -/
structure Indexing.Holds (s : Indexing) (size : ℕ) (found : List ℕ) : Prop where
  /-- All blocks were counted. -/
  numBlocks : s.numBlocks = found.length
  /-- There was room for them. -/
  complete : s.complete = decide (found.length ≤ size)
  /-- So much room is left. -/
  available : s.available = size - found.length
  /-- The first of them are stored. -/
  storage : s.storage = found.take size

theorem Indexing.Holds.addAll {size : ℕ} {found : List ℕ} (h : s.Holds size found)
    (ps : List ℕ) : (s.addAll ps).Holds size (found ++ ps) where
  numBlocks := by
    rw [List.length_append, ← h.numBlocks]
    rfl
  complete := by
    have happend : (found ++ ps).length = found.length + ps.length := List.length_append
    simp only [Indexing.addAll, h.complete, h.available, ← Bool.decide_and, decide_eq_decide]
    omega
  available := by
    simp only [Indexing.addAll, h.available, List.length_append]
    omega
  storage := by
    simp only [Indexing.addAll, h.storage, h.available, List.take_append]

/-- **The array of a kind**: the first of its blocks, all of them if there was
room. -/
structure ArrayOf (found storage : List ℕ) (array : ℕ × ℕ) : Prop where
  /-- It has no more than there are. -/
  le : array.2 ≤ found.length
  /-- It is in the storage. -/
  inside : array.1 + array.2 ≤ storage.length
  /-- It has the first of the blocks. -/
  blocks : (storage.drop array.1).take array.2 = found.take array.2

theorem ArrayOf.append {found storage : List ℕ} {array : ℕ × ℕ} (h : ArrayOf found storage array)
    (more : List ℕ) : ArrayOf found (storage ++ more) array where
  le := h.le
  inside := h.inside.trans (by rw [List.length_append]; omega)
  blocks := by
    rw [List.drop_append_of_le_length (by have := h.inside; omega),
      List.take_append_of_le_length (by rw [List.length_drop]; have := h.inside; omega), h.blocks]

/-- The array that is built for a kind. -/
theorem arrayOf_addAll (s : Indexing) (found : List ℕ) :
    ArrayOf found (s.addAll found).storage (s.storage.length, min s.available found.length) where
  le := Nat.min_le_right _ _
  inside := by simp [Indexing.addAll]
  blocks := by
    rw [Indexing.addAll]
    dsimp only
    rw [List.drop_left]
    simp [List.take_take]

/-- The blocks of a kind that is given by its id. -/
def blocksWithId (data : Bytes) (id : UInt8) : List ℕ := blocksOf data (.blockId id)

/-- **The arrays of some kinds**, behind what is there already. -/
theorem indexAll_eq {size : ℕ} {found : List ℕ} (ids : List UInt8) (h : s.Holds size found) :
    ∃ arrays s', indexAll data ids s = some (arrays, s')
      ∧ s'.Holds size (found ++ ids.flatMap (blocksWithId data))
      ∧ (∃ more, s'.storage = s.storage ++ more)
      ∧ ids.Forall₂ (fun id array => ArrayOf (blocksWithId data id) s'.storage array) arrays
      ∧ (arrays.map Prod.snd).sum + s.storage.length = s'.storage.length := by
  induction ids generalizing s found with
  | nil => exact ⟨[], s, rfl, by simpa using h, ⟨[], by simp⟩, .nil, by simp⟩
  | cons id ids ih =>
    obtain ⟨arrays, s', hall, hholds, ⟨more, hmore⟩, harrays, hsum⟩ :=
      ih (h.addAll (blocksWithId data id))
    refine ⟨_, s', by rw [indexAll, indexCalBlocks_eq]; exact congrArg (· >>= _) hall, ?_,
      ⟨(blocksWithId data id).take s.available ++ more, ?_⟩, .cons ?_ harrays, ?_⟩
    · rw [List.flatMap_cons, ← List.append_assoc]
      exact hholds
    · rw [hmore, ← List.append_assoc]
      rfl
    · rw [hmore]
      exact (arrayOf_addAll s _).append more
    · rw [List.map_cons, List.sum_cons, ← hsum]
      simp only [Indexing.addAll, List.length_append, List.length_take, blocksWithId]
      omega

end Building

/-! ## What the index says

The sign of the number of blocks is negative once a block had no room. Without a
sign, the arrays are as long together as there are blocks; and since none of
them is longer than its kind has blocks, each of them has all
(`sum_eq_length_iff`). -/

/-- **What a built index says** of a file: in the storage are the blocks of all
kinds, as far as there is room; the array of each kind begins with its first
blocks; and the sign of the number says whether the arrays have them all. -/
structure CcbIndex.Lists (index : CcbIndex) (data : Bytes) (size : ℕ) : Prop where
  /-- The number is that of all blocks. -/
  count : index.numBlocks.natAbs = (indexedIds.flatMap (blocksWithId data)).length
  /-- The storage has them, as far as there is room. -/
  storage : index.storage = (indexedIds.flatMap (blocksWithId data)).take size
  /-- Each kind has an array. -/
  arrays : indexedIds.Forall₂ (fun id array =>
    ArrayOf (blocksWithId data id) index.storage array) index.arrays
  /-- The number is negative where something is missing. -/
  complete : 0 ≤ index.numBlocks ↔ indexedIds.Forall₂ (fun id array =>
    array.2 = (blocksWithId data id).length) index.arrays

section Complete

variable {f : UInt8 → List ℕ} {ids : List UInt8} {arrays : List (ℕ × ℕ)}

theorem sum_le_length (h : ids.Forall₂ (fun id array => array.2 ≤ (f id).length) arrays) :
    (arrays.map Prod.snd).sum ≤ (ids.flatMap f).length := by
  induction h with
  | nil => exact Nat.le_refl 0
  | cons harray _ ih =>
    rw [List.map_cons, List.sum_cons, List.flatMap_cons, List.length_append]
    exact Nat.add_le_add harray ih

/-- Arrays that are as long together as there are blocks have all of them. -/
theorem sum_eq_length_iff (h : ids.Forall₂ (fun id array => array.2 ≤ (f id).length) arrays) :
    (arrays.map Prod.snd).sum = (ids.flatMap f).length
      ↔ ids.Forall₂ (fun id array => array.2 = (f id).length) arrays := by
  induction h with
  | nil => exact iff_of_true rfl .nil
  | cons harray harrays ih =>
    have hle := sum_le_length harrays
    rw [List.map_cons, List.sum_cons, List.flatMap_cons, List.length_append,
      List.forall₂_cons, ← ih]
    omega

end Complete

/-- **The index of every file**, in every buffer it fits into. -/
theorem ccbBuildCalBlockIndex_lists (data : Bytes) (bufferSize : ℕ) :
    if bufferSize < ccbIndexSize then ccbBuildCalBlockIndex data bufferSize = some none
    else ∃ index, ccbBuildCalBlockIndex data bufferSize = some (some index)
      ∧ index.Lists data ((bufferSize - ccbIndexSize) / pointerSize) := by
  rw [ccbBuildCalBlockIndex]
  split
  · rfl
  · have hstart : Indexing.Holds { available := (bufferSize - ccbIndexSize) / pointerSize }
        ((bufferSize - ccbIndexSize) / pointerSize) [] := ⟨rfl, rfl, rfl, List.take_nil.symm⟩
    obtain ⟨arrays, s, hall, hholds, -, harrays, hsum⟩ :=
      @indexAll_eq data _ _ _ indexedIds hstart
    rw [List.nil_append] at hholds
    refine ⟨_, by rw [hall]; rfl, ?_⟩
    have hcomplete : s.complete = true
        ↔ indexedIds.Forall₂ (fun id array => array.2 = (blocksWithId data id).length) arrays := by
      have hstored : (arrays.map Prod.snd).sum = s.storage.length := hsum
      rw [← sum_eq_length_iff (harrays.imp fun _ _ h => h.le), hstored, hholds.complete,
        hholds.storage, List.length_take, decide_eq_true_iff]
      omega
    constructor
    case count =>
      have hcount := hholds.numBlocks
      dsimp only
      split
      · rw [Int.natAbs_natCast, hcount]
      · rw [Int.natAbs_neg, Int.natAbs_natCast, hcount]
    case storage => exact hholds.storage
    case arrays => exact harrays
    case complete =>
      rw [← hcomplete]
      dsimp only
      cases hc : s.complete with
      | true => simp
      | false =>
        have hmany : 0 < s.numBlocks := by
          have htest := hholds.complete
          rw [hc, eq_comm, decide_eq_false_iff_not] at htest
          rw [hholds.numBlocks]
          exact Nat.zero_lt_of_lt (Nat.lt_of_not_le htest)
        simp
        omega

/-! ## Files that are written as the layout says

A block has a size, which is in its front, and is as long as that says. The
places are then the sums of the sizes, and the loop goes from one to the next
(`blocksFrom_encode`, by induction on the blocks, with what stands in front of
them arbitrary). For the last block the loop asks for a byte more than its front
has, so a file that ends with the front of a block is not whole. -/

/-- **A block**: its kind, the bytes up to its size, and those behind it, of
which 16 belong to its front. -/
structure CalBlock where
  /-- The kind. -/
  id : UInt8
  /-- The bytes up to the size. -/
  versions : Bytes
  /-- The bytes behind it. -/
  rest : Bytes
  /-- The versions have three bytes, … -/
  length_versions : versions.length = 3
  /-- … and the front of the block is there. -/
  le_length_rest : 16 ≤ rest.length
  /-- The size is a 32-bit number. -/
  size_lt : 8 + rest.length < 2 ^ 32

namespace CalBlock

/-- `BlockSize`. -/
def size (b : CalBlock) : ℕ := 8 + b.rest.length

/-- The block in the file. -/
def encode (b : CalBlock) : Bytes :=
  [b.id] ++ (b.versions ++ (le32 (UInt32.ofNat b.size) ++ b.rest))

theorem length_encode (b : CalBlock) : b.encode.length = b.size := by
  simp only [encode, size, List.length_append, List.length_singleton, length_le32,
    b.length_versions]
  omega

theorem le_size (b : CalBlock) : calBlockInfoSize ≤ b.size := by
  have := b.le_length_rest
  unfold calBlockInfoSize size
  omega

end CalBlock

/-- **A file**: the two headers around the number of blocks, and the blocks. -/
structure CcbFile where
  /-- What is in front of the number of blocks, … -/
  header : Bytes
  /-- … and what is behind it. -/
  headerRest : Bytes
  /-- The blocks. -/
  calBlocks : List CalBlock
  /-- The first part has its length, … -/
  length_header : header.length = calFileHeaderSize + calBlockInfoSize
  /-- … and so has the second. -/
  length_headerRest : headerRest.length = calHeaderBlockSize - calBlockInfoSize - 2
  /-- The number is a 16-bit one. -/
  length_calBlocks_lt : calBlocks.length < 2 ^ 16

namespace CcbFile

/-- The headers. -/
def front (f : CcbFile) : Bytes :=
  f.header ++ (le16 (UInt16.ofNat f.calBlocks.length) ++ f.headerRest)

/-- The file in memory. -/
def encode (f : CcbFile) : Bytes := f.front ++ f.calBlocks.flatMap CalBlock.encode

theorem length_front (f : CcbFile) : f.front.length = firstBlock := by
  simp only [front, List.length_append, length_le16, f.length_header, f.length_headerRest]
  rfl

theorem nBlocks_encode (f : CcbFile) : nBlocks f.encode = f.calBlocks.length := by
  have hfield : get16 (calFileHeaderSize + calBlockInfoSize) f.encode
      = UInt16.ofNat f.calBlocks.length := by
    rw [encode, front, List.append_assoc, List.append_assoc, get16_skip f.length_header.le,
      f.length_header, Nat.sub_self, get16_le16]
  rw [nBlocks, hfield, UInt16.toNat_ofNat_of_lt' f.length_calBlocks_lt]

end CcbFile

/-- The last block has a byte behind its front. -/
def LastLong (bs : List CalBlock) : Prop := ∀ b ∈ bs.getLast?, calBlockInfoSize < b.size

/-- The places of blocks that stand one behind the other. -/
def places : ℕ → List CalBlock → List ℕ
  | _, [] => []
  | p, b :: bs => p :: places (p + b.size) bs

theorem blockSizeAt_encode (before : Bytes) (b : CalBlock) (after : Bytes) :
    blockSizeAt (before ++ (b.encode ++ after)) before.length = b.size := by
  have hfield : get32 (before.length + 4) (before ++ (b.encode ++ after))
      = UInt32.ofNat b.size := by
    rw [get32_skip (Nat.le_add_right _ _), Nat.add_sub_cancel_left, CalBlock.encode,
      List.append_assoc, get32_skip (by simp), List.append_assoc, List.length_singleton,
      get32_skip (by rw [b.length_versions]), b.length_versions, List.append_assoc]
    exact get32_le32 _ _
  have hsize : (UInt32.ofNat b.size).toNat = b.size := UInt32.toNat_ofNat_of_lt' b.size_lt
  rw [blockSizeAt, hfield, hsize]

theorem blockIdAt_encode (before : Bytes) (b : CalBlock) (after : Bytes) :
    blockIdAt (before ++ (b.encode ++ after)) before.length = b.id := by
  rw [blockIdAt, List.getD_eq_getElem?_getD, List.getElem?_append_right (Nat.le_refl _),
    Nat.sub_self]
  rfl

theorem lastLong_cons (b : CalBlock) (bs : List CalBlock) :
    LastLong (b :: bs) ↔ if bs = [] then calBlockInfoSize < b.size else LastLong bs := by
  cases bs with
  | nil => simp [LastLong]
  | cons c bs => simp [LastLong]

/-- **The loop goes from block to block**, and gets to the last one if it is long
enough. -/
theorem blocksFrom_encode (before : Bytes) (bs : List CalBlock) :
    (fitsFrom (before ++ bs.flatMap CalBlock.encode) bs.length before.length = true
        ↔ LastLong bs)
      ∧ (LastLong bs → blocksFrom (before ++ bs.flatMap CalBlock.encode) bs.length before.length
        = places before.length bs) := by
  induction bs generalizing before with
  | nil => exact ⟨iff_of_true rfl fun _ h => absurd h (by simp), fun _ => rfl⟩
  | cons b bs ih =>
    have hdata : before ++ (b :: bs).flatMap CalBlock.encode
        = before ++ (b.encode ++ bs.flatMap CalBlock.encode) := by rw [List.flatMap_cons]
    have hnext : before.length + b.size = (before ++ b.encode).length := by
      rw [List.length_append, b.length_encode]
    have hih := ih (before ++ b.encode)
    rw [List.append_assoc, ← hnext] at hih
    -- a block fits unless it is the last, and no longer than its front
    have hfits : ¬ (before ++ (b.encode ++ bs.flatMap CalBlock.encode)).length
        ≤ before.length + calBlockInfoSize ↔ (bs = [] → calBlockInfoSize < b.size) := by
      have hsize := b.le_size
      rw [List.length_append, List.length_append, b.length_encode]
      cases bs with
      | nil => simp
      | cons c bs =>
        rw [List.flatMap_cons, List.length_append, c.length_encode]
        have hc := c.le_size
        have hpos : 0 < calBlockInfoSize := by decide
        refine iff_of_true ?_ fun h => absurd h (by simp)
        omega
    rw [hdata, List.length_cons, fitsFrom, blocksFrom, blockSizeAt_encode, lastLong_cons]
    by_cases hlast : bs = []
    · subst hlast
      rw [if_pos rfl]
      by_cases hlong : calBlockInfoSize < b.size
      · rw [if_neg (hfits.mpr fun _ => hlong), if_neg (hfits.mpr fun _ => hlong)]
        exact ⟨iff_of_true rfl hlong, fun _ => rfl⟩
      · rw [if_pos (not_not.mp fun h => hlong (hfits.mp h rfl))]
        exact ⟨iff_of_false (by simp) hlong, fun h => absurd h hlong⟩
    · have hgo := hfits.mpr fun h => absurd h hlast
      rw [if_neg hlast, if_neg hgo, if_neg hgo, places]
      exact ⟨hih.1, fun h => congrArg _ (hih.2 h)⟩

namespace CcbFile

/-- **A file that is read back**: it has blocks, and a byte behind the front of
the last one. -/
def Readable (f : CcbFile) : Prop := f.calBlocks ≠ [] ∧ LastLong f.calBlocks

/-- The bytes of the block at a place. -/
def blockBytes (data : Bytes) (p : ℕ) : Bytes := slice p (blockSizeAt data p) data

/-- The blocks that are looked for, in a part of the file. -/
theorem map_blockBytes (before : Bytes) (bs : List CalBlock) (id : UInt8) :
    (((places before.length bs).filter fun p =>
        blockIdMatches (blockIdAt (before ++ bs.flatMap CalBlock.encode) p) (.blockId id)).map
      (blockBytes (before ++ bs.flatMap CalBlock.encode)))
      = (bs.filter fun b => b.id = id).map CalBlock.encode := by
  induction bs generalizing before with
  | nil => rfl
  | cons b bs ih =>
    have hnext : before.length + b.size = (before ++ b.encode).length := by
      rw [List.length_append, b.length_encode]
    have hrest := ih (before ++ b.encode)
    rw [List.append_assoc, ← hnext] at hrest
    have hbytes : blockBytes (before ++ (b.encode ++ bs.flatMap CalBlock.encode)) before.length
        = b.encode := by
      rw [blockBytes, blockSizeAt_encode, slice, List.drop_left, ← b.length_encode, List.take_left]
    have hid : blockIdMatches
        (blockIdAt (before ++ (b.encode ++ bs.flatMap CalBlock.encode)) before.length)
        (.blockId id) = decide (b.id = id) := by
      rw [blockIdAt_encode]
      rfl
    rw [List.flatMap_cons, places, List.filter_cons, List.filter_cons, hid]
    by_cases hsame : b.id = id
    · rw [if_pos (decide_eq_true hsame), if_pos (decide_eq_true hsame), List.map_cons,
        List.map_cons, hbytes, hrest]
    · rw [if_neg (by simpa using hsame), if_neg (by simpa using hsame), hrest]

/-- **A file that is written as the layout says is whole exactly if it has
blocks and a byte is left behind the front of the last**; and then the block of
any kind and index is the one that was written. -/
theorem ccbGetCalBlockInfo_encode (f : CcbFile) :
    (Whole f.encode ↔ f.Readable)
      ∧ (f.Readable → ∀ id index, ∃ place,
        ccbGetCalBlockInfo f.encode (.blockId id) index = some place
          ∧ place.map (blockBytes f.encode)
            = (f.calBlocks.filter fun b => b.id = id)[index]?.map CalBlock.encode) := by
  have hlength : f.encode.length
      = firstBlock + (f.calBlocks.flatMap CalBlock.encode).length := by
    rw [encode, List.length_append, f.length_front]
  have hloop := blocksFrom_encode f.front f.calBlocks
  rw [f.length_front, ← encode] at hloop
  have hblocks : f.calBlocks = [] ∨ firstBlock < f.encode.length := by
    cases hcases : f.calBlocks with
    | nil => exact .inl rfl
    | cons b bs =>
      have hsize := b.le_size
      rw [hcases, List.flatMap_cons, List.length_append, b.length_encode] at hlength
      unfold calBlockInfoSize at hsize
      exact .inr (by omega)
  constructor
  case left =>
    rw [Whole, f.nBlocks_encode, hloop.1, Readable]
    refine and_congr_left fun _ => ⟨fun hlong hnone => ?_, fun hsome => hblocks.resolve_left hsome⟩
    rw [hnone, List.flatMap_nil, List.length_nil] at hlength
    omega
  case right =>
    rintro ⟨hsome, hlast⟩ id index
    have hplaces : blocks f.encode = places firstBlock f.calBlocks := by
      rw [blocks, if_neg (Nat.not_le.mpr (hblocks.resolve_left hsome)), f.nBlocks_encode,
        hloop.2 hlast]
    refine ⟨_, ccbGetCalBlockInfo_eq .., ?_⟩
    have hbytes := map_blockBytes f.front f.calBlocks id
    rw [f.length_front, ← encode, ← hplaces] at hbytes
    rw [← List.getElem?_map, ← List.getElem?_map, blocksOf, hbytes]

end CcbFile
