import TofNet.DisplayView
import TofNet.Transition

/-!
# The storage of a frame

`FrameImpl`: the planes of a frame lie one behind the other in one block of
memory, and a map has the address of each under its type. `setDetails`
allocates a block for other details than the frame has, and enters the planes
into the map – with `emplace`, which leaves an entry alone that is there
already.

Blocks are numbered as they are allocated and never reused, so that an address
in a block that has been replaced can be told from one in the current block.
What the language does not define – a null pointer that is followed, a value
that is used before it is initialised – is `none`.
-/

/-! ## Memory

An address is a block and a position in it, as in C: two addresses in different
blocks are different, and a position may be compared with the length of its
block. -/

/-- The blocks allocated so far; a byte that was never written is none. -/
abbrev FrameMemory := List (List (Option UInt8))

/-- An address, in elements of two bytes. -/
structure FramePointer where
  block : ℕ
  offset : ℕ
  deriving DecidableEq, Repr

/-- `memcpy` of `n` bytes to the front of a block from the front of another. -/
def copyFront (memory : FrameMemory) (dst src n : ℕ) : Option FrameMemory := do
  let target ← memory[dst]?
  let source ← memory[src]?
  if n ≤ target.length ∧ n ≤ source.length then
    some (memory.set dst (source.take n ++ target.drop n))
  else none

/-- `std::unordered_map::emplace`. -/
def emplace {κ ν : Type} [BEq κ] (map : List (κ × ν)) (entry : κ × ν) : List (κ × ν) :=
  if (map.lookup entry.1).isSome then map else map ++ [entry]

/-! ## Frames

`allocFrameData` counts the elements of all planes, allocates a block of that
many, and enters the addresses. What is not done is to clear the map; the block
that was there before is given up. -/

/-- `aditof::FrameDetails`, as far as `operator==` compares them. -/
structure FrameDetails where
  type : Bytes := []
  cameraMode : Bytes := []
  dataDetails : List FrameDataDetails := []
  deriving DecidableEq

/-- `FrameImpl::ImplData`. Nothing initialises `allDataNbBytes`. -/
structure FrameData where
  /-- The map of the planes. -/
  dataLocations : List (Bytes × FramePointer) := []
  /-- The block. -/
  allData : Option ℕ := none
  /-- Its size, which is not set. -/
  allDataNbBytes : Option ℕ := none
  deriving DecidableEq

/-- **A frame.** `implData` may be null, and of the attributes there are the
two that the allocation reads, as the numbers they are converted to. The ghost
`detailed` tells that `setDetails` has been called. -/
structure FrameImpl where
  /-- The details that the frame has. -/
  details : FrameDetails := {}
  /-- Its data. -/
  implData : Option FrameData := none
  /-- The length of a header. -/
  embedHdrLength : Option UInt16 := none
  /-- The number of captures. -/
  totalCaptures : Option UInt8 := none
  /-- It has been given details. -/
  detailed : Bool := false
  deriving DecidableEq

namespace FrameImpl

/-- `FrameImpl()`, and the attributes it is given. -/
def construct (embedHdrLength : UInt16) (totalCaptures : UInt8) : FrameImpl where
  implData := some {}
  embedHdrLength := embedHdrLength
  totalCaptures := totalCaptures

/-- `getSubframeSize`, in elements: the product of an XYZ plane's height and
width is an `unsigned int`, and the others are `unsigned long`. -/
def getSubframeSize (embedHdrLength : UInt16) (totalCaptures : UInt8) (d : FrameDataDetails) :
    UInt64 :=
  if d.type = ascii "header" then (embedHdrLength / 2).toUInt64 * totalCaptures.toUInt64
  else if d.type = ascii "xyz" then (d.height * d.width).toUInt64 * 6
  else d.height.toUInt64 * d.width.toUInt64

/-- The planes' entries from a position on. -/
def locations (size : FrameDataDetails → UInt64) (block : ℕ) (pos : UInt32) :
    List FrameDataDetails → List (Bytes × FramePointer)
  | [] => []
  | d :: details =>
    (d.type, ⟨block, pos.toNat⟩) :: locations size block (pos + (size d).toUInt32) details

/-- All that is put into the map: the whole buffer, and the planes. -/
def entries (size : FrameDataDetails → UInt64) (block : ℕ) (details : List FrameDataDetails) :
    List (Bytes × FramePointer) :=
  (ascii "frameData", ⟨block, 0⟩) :: locations size block 0 details

/-- The elements to allocate, an `unsigned int`. -/
def totalSize (size : FrameDataDetails → UInt64) (details : List FrameDataDetails) : UInt32 :=
  details.foldl (fun total d => total + (size d).toUInt32) 0

/-- **`allocFrameData`.** Without the attributes it logs an error and returns. -/
def allocFrameData (details : FrameDetails) (memory : FrameMemory) (f : FrameImpl) :
    Option (FrameImpl × FrameMemory) :=
  match f.embedHdrLength, f.totalCaptures with
  | some embedHdrLength, some totalCaptures => do
    let data ← f.implData
    let size := getSubframeSize embedHdrLength totalCaptures
    let block := memory.length
    let data := { data with
      allData := some block
      dataLocations := (entries size block details.dataDetails).foldl emplace data.dataLocations }
    some ({ f with implData := some data },
      memory ++ [List.replicate (2 * (totalSize size details.dataDetails).toNat) none])
  | _, _ => some (f, memory)

/-- **`setDetails`.** -/
def setDetails (details : FrameDetails) (memory : FrameMemory) (f : FrameImpl) :
    Option (FrameImpl × FrameMemory) :=
  if details = f.details then some ({ f with detailed := true }, memory)
  else
    (allocFrameData details memory f).map fun (f, memory) =>
      ({ f with details, detailed := true }, memory)

/-- **`getData`.** -/
def getData (f : FrameImpl) (type : Bytes) : Option FramePointer :=
  f.implData.bind (·.dataLocations.lookup type)

/-- The end of the copy constructor and of the assignment. -/
def copyData (op : FrameImpl) (memory : FrameMemory) (f : FrameImpl) :
    Option (FrameImpl × FrameMemory) := do
  let (f, memory) ← allocFrameData op.details memory f
  let data ← f.implData
  let source ← op.implData
  let memory ← copyFront memory (← data.allData) (← source.allData) (← data.allDataNbBytes)
  some ({ f with details := op.details, detailed := op.detailed }, memory)

/-- **The copy constructor**, which initialises neither `m_implData` nor
`m_attributes`. -/
def copyConstruct (op : FrameImpl) (memory : FrameMemory) : Option (FrameImpl × FrameMemory) :=
  copyData op memory {}

end FrameImpl

/-! ## Runs

A program may construct frames, give them details, ask for data, copy and
assign, in any order. A call that has no defined result leaves a mark, so that
the property can say that there is none. -/

/-- **Frames in memory**; `undefined` tells that a call has run into something
undefined. -/
structure Frames where
  /-- The blocks. -/
  memory : FrameMemory := []
  /-- The frames there are. -/
  frames : List FrameImpl := []
  /-- A call has run into something undefined. -/
  undefined : Bool := false
  deriving DecidableEq

/-- The calls; the frames are numbered in the order of their construction. -/
inductive FrameCall
  | construct (embedHdrLength : UInt16) (totalCaptures : UInt8)
  | setDetails (i : ℕ) (details : FrameDetails)
  /-- A frame is constructed as the copy of another. -/
  | copy (i : ℕ)
  /-- Frame `i` is assigned frame `j`. -/
  | assign (i j : ℕ)
  deriving DecidableEq

namespace Frames

/-- A frame is replaced by what a call made of it. -/
def put (s : Frames) (i : ℕ) : Option (FrameImpl × FrameMemory) → Frames
  | some (f, memory) => { s with memory, frames := s.frames.set i f }
  | none => { s with undefined := true }

/-- A frame is added. -/
def add (s : Frames) : Option (FrameImpl × FrameMemory) → Frames
  | some (f, memory) => { s with memory, frames := s.frames ++ [f] }
  | none => { s with undefined := true }

/-- **A step.** -/
def step (s : Frames) (call : FrameCall) : Option Frames :=
  if s.undefined = true then none
  else
    match call with
    | .construct embedHdrLength totalCaptures =>
      some (s.add (some (FrameImpl.construct embedHdrLength totalCaptures, s.memory)))
    | .setDetails i details => (s.frames[i]?).map fun f => s.put i (f.setDetails details s.memory)
    | .copy i => (s.frames[i]?).map fun f => s.add (f.copyConstruct s.memory)
    | .assign i j =>
      (s.frames[i]?).bind fun f => (s.frames[j]?).map fun op =>
        if i = j then s else s.put i (FrameImpl.copyData op s.memory f)

end Frames

/-! ## What is to hold

That `getData` finds the planes is said of the current block, plane by plane,
with the positions that the details give. `Once` is the condition on a call,
from the state before it: what it is given, and what the frame has already. -/

namespace FrameImpl

/-- The elements of a plane. -/
def planeSize (embedHdrLength : UInt16) (totalCaptures : UInt8) (d : FrameDataDetails) : ℕ :=
  if d.type = ascii "header" then embedHdrLength.toNat / 2 * totalCaptures.toNat
  else if d.type = ascii "xyz" then d.height.toNat * d.width.toNat * 6
  else d.height.toNat * d.width.toNat

/-- The elements of a frame's planes. -/
def sizes (f : FrameImpl) (details : FrameDetails) : List ℕ :=
  details.dataDetails.map (planeSize (f.embedHdrLength.getD 0) (f.totalCaptures.getD 0))

/-- Where a plane begins: behind those before it. -/
def offset (f : FrameImpl) (details : FrameDetails) (i : ℕ) : ℕ :=
  ((f.sizes details).take i).sum

/-- The types of a frame's planes and where they begin, and the whole buffer. -/
def keys (f : FrameImpl) (details : FrameDetails) : List (Bytes × ℕ) :=
  (ascii "frameData", 0) :: details.dataDetails.mapIdx fun i d => (d.type, f.offset details i)

/-- **The layout of a frame in its current block**: `getData` knows the planes
and the whole buffer; each plane begins where those before it end, and
together they fill the block; and no other block is known. -/
structure LaidOut (memory : FrameMemory) (f : FrameImpl) (block : ℕ) : Prop where
  /-- The block is the frame's. -/
  allData : f.implData.bind (·.allData) = some block
  /-- It has the size of all planes. -/
  fills : memory[block]?.map List.length = some (2 * (f.sizes f.details).sum)
  /-- The planes and the whole buffer are known, and nothing else. -/
  known : ∀ type, (f.getData type).isSome = true ↔
    type = ascii "frameData" ∨ ∃ d ∈ f.details.dataDetails, d.type = type
  /-- The whole buffer begins at the front. -/
  whole : f.getData (ascii "frameData") = some ⟨block, 0⟩
  /-- A plane begins where those before it end. -/
  plane : ∀ i d, f.details.dataDetails[i]? = some d →
    f.getData d.type = some ⟨block, f.offset f.details i⟩
  /-- No plane reaches into a later one. -/
  disjoint : ∀ i j size, i < j → (f.sizes f.details)[i]? = some size →
    f.offset f.details i + size ≤ f.offset f.details j
  /-- No address is in another block. -/
  current : ∀ type p, f.getData type = some p → p.block = block

end FrameImpl

namespace Frames

/-- **Every frame is laid out** once it has been given details, and no call was
undefined. -/
structure Sound (s : Frames) : Prop where
  /-- No call was undefined. -/
  defined : s.undefined = false
  /-- A frame with details is laid out. -/
  laidOut : ∀ f ∈ s.frames, f.detailed = true → ∃ block, f.LaidOut s.memory block

/-- A frame is given details for the first time. They differ from those of a
new frame, planes under one key begin in one place, and the elements of all
planes can be counted. -/
def Allocates (f : FrameImpl) (details : FrameDetails) : Prop :=
  details ≠ f.details ∧ (f.sizes details).sum < 2 ^ 32 ∧
    ∀ p ∈ f.keys details, ∀ q ∈ f.keys details, p.1 = q.1 → p.2 = q.2

/-- **What the storage relies on**: a frame is allocated once and then given
the details it has, and no frame is copied to another. -/
def Once (s : Frames) : FrameCall → Prop
  | .construct _ _ => True
  | .setDetails i details => ∀ f ∈ s.frames[i]?,
    if f.implData.bind (·.allData) = none then Allocates f details else details = f.details
  | .copy _ => False
  | .assign i j => i = j

instance (f : FrameImpl) (details : FrameDetails) : Decidable (Allocates f details) :=
  inferInstanceAs (Decidable (_ ∧ _ ∧ ∀ p ∈ f.keys details, _))

instance (s : Frames) (call : FrameCall) : Decidable (s.Once call) := by
  unfold Once
  split <;> infer_instance

end Frames
