import TofNet.ModuleBounds

/-!
# The blocks of a CCB

A CCB is a file header, a header block with the number of the other blocks,
and these one behind the other, each with its kind and its size in front. The
library of the CCB goes through them in a loop (`forBlocks`), which a block
that does not fit into the file ends early: it looks for the block of a kind
and an index, lists the blocks of a mode, lists the modes, and builds an index
of all blocks in a buffer of its caller.

`blocks` are the places that the loop gets to. What each function returns is
said in terms of them, for every byte string; that it has a result at all says
that it reads no byte behind the file.

A function here is a `Reading`: it has no result if it reads outside of the
file, it may return from within its loop, and otherwise it goes on behind it.
All of them go through the same loop with different bodies, and so the loop is
treated once (`readBlocks_eq`): it is a fold over the places in `blocks`, with
what the function returns at a block that does not fit. What remains for each
function is a fold over a list.
-/

open ModuleMemory

/-! ## The loop

The place of the next block is the place of this one and its size, which the
file gives. A block whose front does not fit into the file, with a byte behind
it, ends the loop, and each function has its own way to say so. The loop has as
many rounds as the header block has blocks, so it ends whatever the sizes are.
-/

/-- `sizeof(struct CAL_BLOCK_INFO_V1)`. -/
def calBlockInfoSize : ℕ := 24

/-- Where the first block is. -/
def firstBlock : ℕ := calFileHeaderSize + calHeaderBlockSize

/-- `block_t`: any block, or those of a kind. -/
inductive BlockType
  | all
  | blockId (id : UInt8)
  deriving DecidableEq

/-- `block_id_matches`. -/
def blockIdMatches (ccbBlockId : UInt8) : BlockType → Bool
  | .all => true
  | .blockId id => ccbBlockId = id

/-- `BlockID`, of the block at `p`. -/
def blockIdAt (data : Bytes) (p : ℕ) : UInt8 := data.getD p 0

/-- `BlockSize`. -/
def blockSizeAt (data : Bytes) (p : ℕ) : ℕ := (get32 (p + 4) data).toNat

/-- `Mode`, if the block is of the kind that has it. -/
def modeAt (data : Bytes) (p : ℕ) : UInt8 := data.getD (p + calBlockInfoSize) 0

/-- `nBlocks`, in the header block. -/
def nBlocks (data : Bytes) : ℕ := (get16 (calFileHeaderSize + calBlockInfoSize) data).toNat

/-- A function that returns a `ρ`, from within a loop too; where it reads
outside of its file it has no result. -/
abbrev Reading (ρ : Type) := ExceptT ρ Option

section Loop

variable {ρ σ : Type} (data : Bytes) (blockId : BlockType) (body : ℕ → σ → Reading ρ σ)
  (cut : σ → ρ)

/-- **The loop over the blocks**: `body` is what is done with a block of the
kind, and `cut` what is returned where a block does not fit. -/
def forBlocks : ℕ → ℕ → σ → Reading ρ σ
  | 0, _, s => pure s
  | n + 1, p, s =>
    if data.length ≤ p + calBlockInfoSize then throw (cut s)
    else do
      touch data [(p, 1)]
      let s ← if blockIdMatches (blockIdAt data p) blockId then body p s else pure s
      touch data [(p + 4, 4)]
      forBlocks n (p + blockSizeAt data p) s

/-- What the functions have in common: without the headers, `null` is
returned. -/
def readBlocks (null : ρ) (s : σ) : Reading ρ σ :=
  match ccbReadHeader data.length, ccbReadHeaderBlock data.length with
  | none, _ | _, none => throw null
  | some _, some p => do
    touch data [(p + calBlockInfoSize, 2)]
    forBlocks data blockId body cut (nBlocks data) firstBlock s

end Loop

/-- What a function returns: from within its loop, or behind it. -/
def result {ρ σ : Type} (m : Reading ρ σ) (f : σ → ρ) : Option ρ :=
  m.run.map fun
    | .error r => r
    | .ok s => f s

/-! ## The functions -/

/-- **`ccb_get_cal_block_info`**: the place of the block, or none. -/
def ccbGetCalBlockInfo (data : Bytes) (blockId : BlockType) (index : ℕ) : Option (Option ℕ) :=
  result (readBlocks data blockId
    (fun p filterCount =>
      if filterCount = index then throw (some p) else pure (filterCount + 1))
    (fun _ => none) none 0) fun _ => none

/-- `ccb_mode_data`, with the nodes of its list, the head first, and the
number of nodes that were allocated for it. -/
structure CcbModeData where
  noOfBlocks : UInt16 := 0
  blockList : List ℕ := []
  allocated : ℕ := 0
  deriving DecidableEq

/-- **`ccb_get_mode_block_info`**; `allocates` is whether a `calloc` is
successful. -/
def ccbGetModeBlockInfo (data : Bytes) (blockId : BlockType) (mode : UInt16)
    (allocates : ℕ → Bool) : Option CcbModeData :=
  result (readBlocks data blockId
    (fun p modeData => do
      touch data [(p + calBlockInfoSize, 1)]
      if (modeAt data p).toNat = mode.toNat then
        if allocates modeData.allocated then
          pure { noOfBlocks := modeData.noOfBlocks + 1, blockList := p :: modeData.blockList,
                 allocated := modeData.allocated + 1 }
        else throw { allocated := modeData.allocated }
      else pure modeData)
    (fun modeData => { allocated := modeData.allocated }) {} {}) id

/-- A caller's buffer for modes, if there is one, and how far the function has
written. -/
structure ModeBuffer where
  modes : Option Bytes
  written : ℕ := 0
  number : UInt8
  deriving DecidableEq

/-- **`ccb_get_available_modes`**, with the buffer and the number that the
caller gives; it returns whether the blocks all fit. -/
def ccbGetAvailableModes (data : Bytes) (blockId : BlockType) (modes : Option Bytes)
    (number : UInt8) : Option (Bool × ModeBuffer) :=
  result (readBlocks data blockId
    (fun p (b : ModeBuffer) =>
      match b.modes with
      | none => pure b
      | some modes => do
        touch data [(p + calBlockInfoSize, 1)]
        touch modes [(b.written + b.number.toNat, 1)]
        if modes.getD (b.written + b.number.toNat) 0 ≠ modeAt data p then
          touch modes [(b.written, 1)]
          pure { modes := some (modes.set b.written (modeAt data p)), written := b.written + 1,
                 number := b.number + 1 }
        else pure b)
    (fun b => (false, b)) (false, { modes := modes, number := number })
    { modes := modes, number := number }) fun b => (true, b)

/-! ## The places of the blocks

`blocksFrom` is the recursion of the loop without a body, and `fitsFrom` says
whether it came to the last block. The two are about the bytes of the file
alone, and are what the statements below are in terms of. -/

section Blocks

variable (data : Bytes)

/-- The places that the loop gets to. -/
def blocksFrom : ℕ → ℕ → List ℕ
  | 0, _ => []
  | n + 1, p =>
    if data.length ≤ p + calBlockInfoSize then []
    else p :: blocksFrom n (p + blockSizeAt data p)

/-- All of them fit. -/
def fitsFrom : ℕ → ℕ → Bool
  | 0, _ => true
  | n + 1, p =>
    if data.length ≤ p + calBlockInfoSize then false
    else fitsFrom n (p + blockSizeAt data p)

/-- **The blocks of the file.** -/
def blocks : List ℕ :=
  if data.length ≤ firstBlock then [] else blocksFrom data (nBlocks data) firstBlock

/-- The blocks of a kind. -/
def blocksOf (blockId : BlockType) : List ℕ :=
  (blocks data).filter fun p => blockIdMatches (blockIdAt data p) blockId

/-- **The file is whole**: it has its headers, and all of its blocks fit. -/
def Whole : Prop := firstBlock < data.length ∧ fitsFrom data (nBlocks data) firstBlock = true

instance : Decidable (Whole data) := inferInstanceAs (Decidable (_ ∧ _))

end Blocks

section Spec

variable {ρ σ : Type} {data : Bytes} {blockId : BlockType} {body : ℕ → σ → Reading ρ σ}
  {cut : σ → ρ} {null : ρ} {s : σ}

/-- A read inside of the file goes through. -/
theorem touch_bind {fields : List (ℕ × ℕ)} (h : ∀ f ∈ fields, f.1 + f.2 ≤ data.length)
    (m : Unit → Reading ρ σ) : (liftM (touch data fields) : Reading ρ Unit) >>= m = m () := by
  rw [touch_eq_some h]
  rfl

/-- **What the loop does**, block by block. -/
theorem forBlocks_eq (n p : ℕ) (s : σ) :
    forBlocks data blockId body cut n p s
      = ((blocksFrom data n p).filter
          fun p => blockIdMatches (blockIdAt data p) blockId).foldlM (fun s p => body p s) s
        >>= fun s => if fitsFrom data n p then pure s else throw (cut s) := by
  induction n generalizing p s with
  | zero => rfl
  | succ n ih =>
    rw [forBlocks, blocksFrom, fitsFrom]
    split
    · rfl
    · next hfits =>
      have hroom : p + calBlockInfoSize < data.length := Nat.lt_of_not_le hfits
      unfold calBlockInfoSize at hroom
      rw [touch_bind (by simp; omega)]
      have hsize : ∀ m : Unit → Reading ρ σ,
          (liftM (touch data [(p + 4, 4)]) : Reading ρ Unit) >>= m = m () := fun m =>
        touch_bind (by simp; omega) m
      simp only [hsize, ih]
      rw [List.filter_cons]
      cases blockIdMatches (blockIdAt data p) blockId with
      | false => exact pure_bind _ _
      | true =>
        rw [if_pos rfl, if_pos rfl, List.foldlM_cons]
        exact (bind_assoc _ _ _).symm

/-- **What the functions have in common**, block by block. -/
theorem readBlocks_eq (s : σ) :
    readBlocks data blockId body cut null s
      = if firstBlock < data.length then
          (blocksOf data blockId).foldlM (fun s p => body p s) s
            >>= fun s => if Whole data then pure s else throw (cut s)
        else throw null := by
  by_cases hlong : firstBlock < data.length
  · have hheader : ccbReadHeader data.length = some 0 :=
      if_neg (by unfold firstBlock calHeaderBlockSize at hlong; omega)
    have hblock : ccbReadHeaderBlock data.length = some calFileHeaderSize :=
      if_neg (Nat.not_le.mpr hlong)
    have hroom : 256 < data.length := hlong
    rw [if_pos hlong, readBlocks, hheader, hblock]
    dsimp only
    rw [touch_bind (by simp [calFileHeaderSize, calBlockInfoSize]; omega), forBlocks_eq, blocksOf,
      blocks, if_neg (Nat.not_le.mpr hlong)]
    simp only [Whole, hlong, true_and]
  · rw [if_neg hlong, readBlocks]
    have hblock : ccbReadHeaderBlock data.length = none := if_pos (Nat.le_of_not_lt hlong)
    rw [hblock]
    cases ccbReadHeader data.length <;> rfl

end Spec

/-! ## The block of a kind and an index

The body counts the blocks of the kind and returns at the one whose index is
asked for, if there is one. So what is returned is an element of the list of the
blocks of the kind, by its index, or nothing. -/

section Lookup

variable {data : Bytes} {blockId : BlockType}

/-- The loop counts up to the index. -/
theorem foldlM_count (index : ℕ) (ps : List ℕ) (count : ℕ) (hle : count ≤ index) :
    ps.foldlM (fun count p => if count = index then throw (some p) else pure (count + 1)) count
      = (match ps[index - count]? with
        | some p => throw (some p)
        | none => pure (count + ps.length) : Reading (Option ℕ) ℕ) := by
  induction ps generalizing count with
  | nil => rfl
  | cons p ps ih =>
    rw [List.foldlM_cons]
    by_cases hcount : count = index
    · rw [if_pos hcount, hcount, Nat.sub_self]
      rfl
    · obtain ⟨k, hk⟩ : ∃ k, index - count = k + 1 :=
        Nat.exists_eq_add_one_of_ne_zero (by omega)
      rw [if_neg hcount, pure_bind, ih (count + 1) (by omega), hk, List.getElem?_cons_succ,
        show index - (count + 1) = k by omega, List.length_cons,
        show count + 1 + ps.length = count + (ps.length + 1) by omega]

/-- **The block is the one of its index among those of its kind**, and no byte
behind the file is read. -/
theorem ccbGetCalBlockInfo_eq (data : Bytes) (blockId : BlockType) (index : ℕ) :
    ccbGetCalBlockInfo data blockId index = some (blocksOf data blockId)[index]? := by
  rw [ccbGetCalBlockInfo, readBlocks_eq]
  by_cases hlong : firstBlock < data.length
  · rw [if_pos hlong, foldlM_count index _ 0 (Nat.zero_le _), Nat.sub_zero]
    cases (blocksOf data blockId)[index]? with
    | some p => rfl
    | none =>
      dsimp only
      rw [pure_bind]
      split <;> rfl
  · rw [if_neg hlong, blocksOf, blocks, if_pos (Nat.le_of_not_lt hlong)]
    rfl

end Lookup

/-! ## The blocks of a mode

A node is allocated for each block of the mode, and is put in front of the
others, so that the list is in the reverse order of the file. Where an
allocation fails, or a block does not fit, the function returns an empty list,
without giving back what it has allocated. -/

section Modes

variable {data : Bytes} {blockId : BlockType}

/-- A block that the loop gets to is followed by a byte of the file. -/
theorem blocksFrom_lt {n p q : ℕ} (hq : q ∈ blocksFrom data n p) :
    q + calBlockInfoSize < data.length := by
  induction n generalizing p with
  | zero => cases hq
  | succ n ih =>
    rw [blocksFrom] at hq
    split at hq
    · cases hq
    · next hfits =>
      rcases List.mem_cons.mp hq with rfl | hq
      · exact Nat.lt_of_not_le hfits
      · exact ih hq

theorem blocksOf_lt {q : ℕ} (hq : q ∈ blocksOf data blockId) :
    q + calBlockInfoSize < data.length := by
  have hblocks : q ∈ blocks data := List.mem_of_mem_filter hq
  rw [blocks] at hblocks
  split at hblocks
  · cases hblocks
  · exact blocksFrom_lt hblocks

/-- There are fewer blocks than a `uint16_t` counts. -/
theorem length_blocksOf_lt (data : Bytes) (blockId : BlockType) :
    (blocksOf data blockId).length < 2 ^ 16 := by
  have hfrom : ∀ n p, (blocksFrom data n p).length ≤ n := fun n => by
    induction n with
    | zero => exact fun _ => Nat.le_refl 0
    | succ n ih =>
      intro p
      rw [blocksFrom]
      split
      · exact Nat.zero_le _
      · exact Nat.succ_le_succ (ih _)
  have hblocks : (blocks data).length ≤ nBlocks data := by
    rw [blocks]
    split
    · exact Nat.zero_le _
    · exact hfrom _ _
  exact ((List.length_filter_le _ _).trans hblocks).trans_lt (UInt16.toNat_lt _)

/-- The blocks of a kind and a mode. -/
def blocksOfMode (data : Bytes) (blockId : BlockType) (mode : UInt16) : List ℕ :=
  (blocksOf data blockId).filter fun p => (modeAt data p).toNat = mode.toNat

/-- How many of so many allocations there are, up to the first that fails. -/
def allocations (allocates : ℕ → Bool) (first count : ℕ) : ℕ :=
  ((List.range' first count).takeWhile allocates).length

/-- The loop puts block after block in front of the list. -/
theorem foldlM_modes (mode : UInt16) (allocates : ℕ → Bool) (ps : List ℕ)
    (hps : ∀ p ∈ ps, p + calBlockInfoSize < data.length) (d : CcbModeData) :
    ps.foldlM (fun (modeData : CcbModeData) p => do
      touch data [(p + calBlockInfoSize, 1)]
      if (modeAt data p).toNat = mode.toNat then
        if allocates modeData.allocated then
          pure { noOfBlocks := modeData.noOfBlocks + 1, blockList := p :: modeData.blockList,
                 allocated := modeData.allocated + 1 }
        else throw { allocated := modeData.allocated }
      else pure modeData) d
      = (let found := ps.filter fun p => (modeAt data p).toNat = mode.toNat
        let n := allocations allocates d.allocated found.length
        if n = found.length then
          pure { noOfBlocks := d.noOfBlocks + UInt16.ofNat found.length,
                 blockList := found.reverse ++ d.blockList, allocated := d.allocated + n }
        else throw { allocated := d.allocated + n } : Reading CcbModeData CcbModeData) := by
  induction ps generalizing d with
  | nil => simp [allocations]
  | cons p ps ih =>
    obtain ⟨hp, hps⟩ := List.forall_mem_cons.mp hps
    have hread : ∀ m : Unit → Reading CcbModeData CcbModeData,
        (liftM (touch data [(p + calBlockInfoSize, 1)]) : Reading CcbModeData Unit) >>= m = m () :=
      fun m => touch_bind (by simpa using hp) m
    rw [List.foldlM_cons, hread]
    by_cases hmode : (modeAt data p).toNat = mode.toNat
    · rw [if_pos hmode, List.filter_cons_of_pos (by simpa using hmode)]
      by_cases halloc : allocates d.allocated = true
      · rw [if_pos halloc, pure_bind, ih hps]
        have hcount : ∀ k, allocations allocates d.allocated (k + 1)
            = allocations allocates (d.allocated + 1) k + 1 := fun k => by
          rw [allocations, List.range'_succ, List.takeWhile_cons_of_pos halloc, List.length_cons,
            allocations]
        have hblocks : ∀ k, d.noOfBlocks + 1 + UInt16.ofNat k
            = d.noOfBlocks + UInt16.ofNat (k + 1) := fun k => by
          rw [UInt16.ofNat_add, UInt16.add_assoc, UInt16.add_comm 1]
          rfl
        simp only [List.length_cons, hcount, Nat.add_right_cancel_iff, List.reverse_cons,
          List.append_assoc, List.singleton_append, hblocks, Nat.add_assoc, Nat.add_comm 1]
      · have hnone : ∀ k, allocations allocates d.allocated (k + 1) = 0 := fun k => by
          rw [allocations, List.range'_succ, List.takeWhile_cons_of_neg halloc, List.length_nil]
        rw [if_neg halloc]
        simp only [List.length_cons, hnone, Nat.add_zero]
        rw [if_neg (Nat.succ_ne_zero _).symm]
        rfl
    · rw [if_neg hmode, pure_bind, ih hps, List.filter_cons_of_neg (by simpa using hmode)]

/-- **The list of a mode has all of its blocks**, the last of the file first,
if the file is whole and every node is allocated. Else it is empty, and the
nodes that were allocated are lost. -/
theorem ccbGetModeBlockInfo_eq (data : Bytes) (blockId : BlockType) (mode : UInt16)
    (allocates : ℕ → Bool) :
    ccbGetModeBlockInfo data blockId mode allocates
      = (let found := blocksOfMode data blockId mode
        let n := allocations allocates 0 found.length
        some (if Whole data ∧ n = found.length then
          { noOfBlocks := UInt16.ofNat n, blockList := found.reverse, allocated := n }
        else { allocated := n })) := by
  rw [ccbGetModeBlockInfo, readBlocks_eq]
  by_cases hlong : firstBlock < data.length
  · rw [if_pos hlong, foldlM_modes mode allocates _ (fun p hp => blocksOf_lt hp)]
    dsimp only
    rw [← blocksOfMode]
    by_cases hall : allocations allocates 0 (blocksOfMode data blockId mode).length
        = (blocksOfMode data blockId mode).length
    · rw [if_pos hall, pure_bind]
      by_cases hwhole : Whole data
      · rw [if_pos hwhole, if_pos ⟨hwhole, hall⟩, hall, List.append_nil, Nat.zero_add,
          UInt16.zero_add]
        rfl
      · rw [if_neg hwhole, if_neg fun h => hwhole h.1, Nat.zero_add]
        rfl
    · rw [if_neg hall, if_neg fun h => hall h.2, Nat.zero_add]
      rfl
  · have hnone : blocksOfMode data blockId mode = [] := by
      rw [blocksOfMode, blocksOf, blocks, if_pos (Nat.le_of_not_lt hlong)]
      rfl
    rw [if_neg hlong, hnone]
    dsimp only
    rw [if_neg fun h => hlong h.1.1]
    rfl

/-! ### The list of modes

The function means to leave out a mode that is in the list already. But it
moves its pointer along with the number, and so looks at a byte as far behind
the last mode as there are modes, which it has not written yet. In a buffer of
zeros, that leaves out the mode 0 and nothing else. -/

/-- The modes of the blocks of a kind, as they come in the file. -/
def modesOf (data : Bytes) (blockId : BlockType) : Bytes :=
  (blocksOf data blockId).map (modeAt data)

/-- The modes but for 0. -/
def listed (modes : Bytes) : Bytes := modes.filter (· ≠ 0)

/-- The byte the function looks at, with so many modes in the list. -/
def lookedAt (count : ℕ) : ℕ := count + count % 256

/-- The buffer with some modes in it, and zeros behind them. -/
def ModeBuffer.holding (size : ℕ) (modes : Bytes) : ModeBuffer where
  modes := some (modes ++ List.replicate (size - modes.length) 0)
  written := modes.length
  number := UInt8.ofNat modes.length

/-- The body of the loop of `ccb_get_available_modes`. -/
abbrev listMode (data : Bytes) (p : ℕ) (b : ModeBuffer) : Reading (Bool × ModeBuffer) ModeBuffer :=
  match b.modes with
  | none => pure b
  | some modes => do
    touch data [(p + calBlockInfoSize, 1)]
    touch modes [(b.written + b.number.toNat, 1)]
    if modes.getD (b.written + b.number.toNat) 0 ≠ modeAt data p then
      touch modes [(b.written, 1)]
      pure { modes := some (modes.set b.written (modeAt data p)), written := b.written + 1,
             number := b.number + 1 }
    else pure b

/-- What is looked at is a zero, or behind the buffer. -/
theorem getD_holding (modes : Bytes) (n k : ℕ) :
    (modes ++ List.replicate n (0 : UInt8)).getD (modes.length + k) 0 = 0 := by
  rw [List.getD_eq_getElem?_getD, List.getElem?_append_right (Nat.le_add_right _ _),
    Nat.add_sub_cancel_left, List.getElem?_replicate]
  split <;> rfl

/-- The first zero is written over. -/
theorem set_holding (modes : Bytes) (n : ℕ) (m : UInt8) :
    (modes ++ List.replicate (n + 1) (0 : UInt8)).set modes.length m
      = (modes ++ [m]) ++ List.replicate n 0 := by
  rw [List.replicate_succ, List.set_append_right _ _ (Nat.le_refl _), Nat.sub_self,
    List.set_cons_zero, List.append_assoc]
  rfl

/-- **A block's mode is put behind the others**, unless it is 0. -/
theorem listMode_holding {p size : ℕ} (hp : p + calBlockInfoSize < data.length) (modes : Bytes) :
    listMode data p (.holding size modes)
      = if lookedAt modes.length < size then
          pure (.holding size (modes ++ listed [modeAt data p]))
        else ExceptT.mk none := by
  have hnumber : (UInt8.ofNat modes.length).toNat = modes.length % 256 := UInt8.toNat_ofNat'
  rw [listMode, ModeBuffer.holding]
  dsimp only
  rw [touch_bind (by simpa using hp), hnumber, ← lookedAt]
  by_cases hroom : lookedAt modes.length < size
  · obtain ⟨n, hn⟩ : ∃ n, size - modes.length = n + 1 :=
      Nat.exists_eq_add_one_of_ne_zero (by unfold lookedAt at hroom; omega)
    have hlength : modes.length + (n + 1) = size := by omega
    rw [if_pos hroom, hn, touch_bind (by simp [hlength]; omega), lookedAt, getD_holding]
    by_cases hzero : modeAt data p = 0
    · rw [hzero, if_neg (not_not.mpr rfl), ← hn]
      show pure _ = pure (ModeBuffer.holding size (modes ++ []))
      rw [List.append_nil]
      rfl
    · rw [if_pos (Ne.symm hzero), touch_bind (by simp), set_holding,
        listed, List.filter_cons_of_pos (by simpa using hzero), List.filter_nil,
        ModeBuffer.holding, List.length_append, List.length_singleton,
        show size - (modes.length + 1) = n by omega, UInt8.ofNat_add]
      rfl
  · rw [if_neg hroom]
    have hout : touch (modes ++ List.replicate (size - modes.length) 0)
        [(lookedAt modes.length, 1)] = none := by
      refine if_neg fun h => ?_
      have hle := h _ (List.mem_singleton_self _)
      simp at hle
      unfold lookedAt at hroom hle
      omega
    rw [hout]
    rfl

/-- Wherever a block's mode is read, what is looked at is in the buffer. -/
def Roomy (size : ℕ) (modes : Bytes) : Prop :=
  ∀ i < modes.length, lookedAt (listed (modes.take i)).length < size

instance (size : ℕ) (modes : Bytes) : Decidable (Roomy size modes) :=
  inferInstanceAs (Decidable (∀ i < _, _))

/-- The loop lists mode after mode. -/
theorem foldlM_listMode (size : ℕ) (ps : List ℕ)
    (hps : ∀ p ∈ ps, p + calBlockInfoSize < data.length) (before : Bytes)
    (hbefore : Roomy size before) :
    ps.foldlM (fun b p => listMode data p b) (.holding size (listed before))
      = if Roomy size (before ++ ps.map (modeAt data)) then
          pure (.holding size (listed (before ++ ps.map (modeAt data))))
        else ExceptT.mk none := by
  induction ps generalizing before with
  | nil =>
    rw [List.map_nil, List.append_nil, if_pos hbefore]
    rfl
  | cons p ps ih =>
    obtain ⟨hp, hps⟩ := List.forall_mem_cons.mp hps
    rw [List.foldlM_cons, listMode_holding hp, List.map_cons]
    by_cases hroom : lookedAt (listed before).length < size
    · have hnext : Roomy size (before ++ [modeAt data p]) := by
        intro i hi
        rw [List.length_append, List.length_singleton] at hi
        rcases Nat.lt_succ_iff_lt_or_eq.mp hi with hlt | rfl
        · rw [List.take_append_of_le_length hlt.le]
          exact hbefore i hlt
        · rw [List.take_left]
          exact hroom
      have happend : listed before ++ listed [modeAt data p]
          = listed (before ++ [modeAt data p]) := (List.filter_append ..).symm
      rw [if_pos hroom, pure_bind, happend, ih hps _ hnext, List.append_assoc,
        List.singleton_append]
    · rw [if_neg hroom, if_neg fun h => hroom ?_]
      · rfl
      · have hthere := h before.length (by simp)
        rwa [List.take_left] at hthere

/-- **The list of modes is every block's mode but 0**, as often as there are
blocks of it. The function needs a buffer in which it can look as far behind the
list as it is long, and writes and reads outside of a shorter one.

Before it enters a mode it compares it with one place of the buffer, as if to
see whether the mode is there already. That place lies as far behind the list as
the list is long, where there are zeros only, and so a mode of 0 is left out and
no other. -/
theorem ccbGetAvailableModes_eq (data : Bytes) (blockId : BlockType) (size : ℕ) :
    ccbGetAvailableModes data blockId (some (List.replicate size 0)) 0
      = if Roomy size (modesOf data blockId) then
          some (decide (Whole data), .holding size (listed (modesOf data blockId)))
        else none := by
  have hstart : ({ modes := some (List.replicate size 0), number := 0 } : ModeBuffer)
      = .holding size (listed []) := rfl
  rw [ccbGetAvailableModes, hstart, readBlocks_eq]
  by_cases hlong : firstBlock < data.length
  · have hloop := @foldlM_listMode data size (blocksOf data blockId)
      (fun p hp => blocksOf_lt hp) [] (fun i hi => absurd hi (Nat.not_lt_zero i))
    rw [List.nil_append, ← modesOf] at hloop
    rw [if_pos hlong]
    show result ((blocksOf data blockId).foldlM (fun b p => listMode data p b) _ >>= _) _ = _
    rw [hloop]
    by_cases hroom : Roomy size (modesOf data blockId)
    · rw [if_pos hroom, if_pos hroom, pure_bind]
      by_cases hwhole : Whole data
      · rw [if_pos hwhole, decide_eq_true hwhole]
        rfl
      · rw [if_neg hwhole, decide_eq_false hwhole]
        rfl
    · rw [if_neg hroom, if_neg hroom]
      rfl
  · have hnone : modesOf data blockId = [] := by
      rw [modesOf, blocksOf, blocks, if_pos (Nat.le_of_not_lt hlong)]
      rfl
    have hroomy : Roomy size [] := fun i hi => absurd hi (Nat.not_lt_zero i)
    rw [if_neg hlong, hnone, if_pos hroomy, decide_eq_false fun h => hlong h.1]
    rfl

end Modes
