import TofNet.FrameStorage
import TofNet.ItofCamera

/-!
# A frame is requested

`CameraItof::requestFrame` lets the depth be computed straight into the
caller's frame: it points the compute context at the frame's planes, calls
`TofiCompute`, and points it back. The context outlives the call and the frame
need not, so that every way out must point it back.

`pointsBack_iff` says which do. What happens to the pixels is left out, apart
from which conversions they go through.

The function has one call that may fail with the context pointed at the frame,
and the way out behind it does not point back. All other ways out are in front
of the pointing or behind the pointing back. The theorem is an equivalence for
one call, and lasts over runs: what a harmless call finds, it leaves.
-/

/-! ## The compute context

A pointer is null, or goes to memory that is no frame's, or to a plane of a
frame. That is all that has to be known of it to say where the context points. -/

/-- A pointer of the compute context. -/
inductive PlanePointer
  | null
  /-- Memory that is no frame's. -/
  | elsewhere (address : ℕ)
  | plane (p : FramePointer)
  deriving DecidableEq, Repr

/-- `TofiComputeContext`, of which `InitTofiCompute` leaves the frames null. -/
structure ComputeContext where
  depthFrame : PlanePointer := .null
  abFrame : PlanePointer := .null
  xyzFrame : PlanePointer := .null
  confFrame : PlanePointer := .null
  deriving DecidableEq

/-- What `getData` leaves in a pointer, which it does not touch where the frame
has no such plane. -/
def FrameImpl.getDataInto (f : FrameImpl) (type : Bytes) (pointer : PlanePointer) : PlanePointer :=
  match f.getData type with
  | some p => .plane p
  | none => pointer

namespace ComputeContext

/-- The context is pointed at a frame's planes. `garbage` is what the variable
for the XYZ plane holds, which nothing initialises. -/
def pointAt (f : FrameImpl) (xyzEnabled : Bool) (garbage : PlanePointer)
    (context : ComputeContext) : ComputeContext :=
  { context with
    depthFrame := f.getDataInto (ascii "depth") context.depthFrame
    abFrame := f.getDataInto (ascii "ir") context.abFrame
    xyzFrame :=
      if xyzEnabled = true then f.getDataInto (ascii "xyz") garbage else context.xyzFrame }

/-- The context is pointed back to where the three temporaries point. -/
def pointBack (temp context : ComputeContext) : ComputeContext :=
  { context with
    depthFrame := temp.depthFrame, abFrame := temp.abFrame, xyzFrame := temp.xyzFrame }

end ComputeContext

/-! ## The camera

What `requestFrame` does to the frame happens in the memory of the storage
module, and may run into something undefined there. It then has no result, and
nothing is said of it. -/

/-- **The camera, as far as `requestFrame` reads and writes it.** -/
structure ComputeCamera extends ItofCamera where
  /-- Of `m_details.frameType`. -/
  dataDetails : List FrameDataDetails := []
  adsd3500ImagerType : Int := 0
  /-- `m_tofi_compute_context`. -/
  context : Option ComputeContext := none

/-- How one call is answered: by the sensor, by `TofiCompute`, and by the stack. -/
structure RequestAnswers where
  /-- The status of the sensor. -/
  getFrame : Status
  /-- The status of the library. -/
  tofiCompute : UInt32
  /-- What a variable holds that was not set. -/
  garbage : PlanePointer

/-- **What a call leaves**: the context, the frame and its memory, the status,
and what the pixels have gone through. -/
structure Requested where
  /-- The status that is returned. -/
  status : Status
  /-- The context as it is left. -/
  context : Option ComputeContext
  /-- The frame, if there was one. -/
  frame : Option FrameImpl
  /-- The memory of the frames. -/
  memory : FrameMemory
  /-- `Convert11bitFloat2LinearVal` of the raw data. -/
  linearised : Bool := false
  /-- By how many bits the active brightness is shifted down. -/
  abShift : Option UInt8 := none
  deriving DecidableEq

namespace ComputeCamera

/-- `m_details.frameType`, of which nothing sets the camera mode. -/
def frameDetails (c : ComputeCamera) : FrameDetails where
  type := c.frameType.type
  dataDetails := c.dataDetails

/-- `getCurrentModeInfo`. -/
def getCurrentModeInfo (c : ComputeCamera) : Option ModeInfo :=
  (c.table.convertCameraMode c.mode).map fun mode => c.table.getModeInfoOfId mode.toNat

/-- `setAttributesByMode`, as far as the frame reads its attributes. -/
def setAttributesByMode (f : FrameImpl) (info : ModeInfo) : FrameImpl :=
  { f with embedHdrLength := some 128, totalCaptures := some info.subframes }

/-- The frame with the attributes and the details of the mode. -/
def prepared (c : ComputeCamera) (info : ModeInfo) (f : FrameImpl) (memory : FrameMemory) :
    Option (FrameImpl × FrameMemory) :=
  let f := setAttributesByMode f info
  if c.frameDetails ≠ f.details then f.setDetails c.frameDetails memory else some (f, memory)

/-- The local `totalCaptures`. -/
def captures (c : ComputeCamera) (f : FrameImpl) : UInt8 :=
  if c.adsd3500Enabled = false then f.totalCaptures.getD 0 else 1

/-- The plane the sensor's data goes to. -/
def frameDataLocation (c : ComputeCamera) (f : FrameImpl) : Option FramePointer :=
  if c.frameType.type = ascii "pcm-native" then f.getData (ascii "ir")
  else f.getData (ascii "raw")

/-- By how many bits the active brightness is shifted. -/
def abShift (c : ComputeCamera) : Option UInt8 :=
  if (c.adsd3500Enabled = true ∧ c.abEnabled = true ∧ c.adsd3500ImagerType = 1
      ∧ c.abBitsPerPixel < 16
      ∧ (c.frameType.type = ascii "lr-native" ∨ c.frameType.type = ascii "sr-native"))
      ∨ c.isOffline = true then some (16 - c.abBitsPerPixel)
  else none

/-- The depth is computed from this frame. -/
def Computes (c : ComputeCamera) (f : FrameImpl) : Prop :=
  { c.toItofCamera with totalCaptures := c.captures f }.computes

instance (c : ComputeCamera) (f : FrameImpl) : Decidable (c.Computes f) :=
  inferInstanceAs (Decidable (ItofCamera.computes _))

/-- The end of `requestFrame`, from the call of the sensor on. -/
def compute (a : RequestAnswers) (c : ComputeCamera) (f : FrameImpl) (memory : FrameMemory) :
    Requested :=
  if a.getFrame ≠ .ok then ⟨a.getFrame, c.context, f, memory, false, none⟩
  else
    let linearised := c.adsd3500Enabled = false ∧ c.isOffline = false
      ∧ c.frameType.type ≠ ascii "pcm-native"
    if c.Computes f then
      match c.context with
      | none => ⟨.genericError, none, f, memory, linearised, none⟩
      | some temp =>
        let context := temp.pointAt f c.xyzEnabled a.garbage
        if a.tofiCompute ≠ 0 then ⟨.genericError, some context, f, memory, linearised, none⟩
        else ⟨.ok, some (temp.pointBack context), f, memory, linearised, c.abShift⟩
    else ⟨.ok, c.context, f, memory, linearised, none⟩

/-- **`CameraItof::requestFrame`**, or nothing where the storage of the frame
runs into something undefined. -/
def requestFrame (a : RequestAnswers) (c : ComputeCamera) (frame : Option FrameImpl)
    (memory : FrameMemory) : Option Requested :=
  match frame with
  | none => some ⟨.invalidArgument, c.context, none, memory, false, none⟩
  | some f =>
    match c.getCurrentModeInfo with
    | none => some ⟨.genericError, c.context, f, memory, false, none⟩
    | some info =>
      (c.prepared info f memory).map fun (f, memory) =>
        if c.frameType.type = [] then ⟨.invalidArgument, c.context, f, memory, false, none⟩
        else
          match c.frameDataLocation f with
          | none => ⟨.ok, c.context, f, memory, false, none⟩
          | some _ => c.compute a f memory

end ComputeCamera

/-! ## Pointing back

The context behind a call is a case distinction on the answer of `TofiCompute`
(`context_requestFrame`), and the theorem compares its cases with the context in
front. -/

namespace ComputeCamera

/-- **Every way out leaves the context as it was.** -/
def PointsBack (a : RequestAnswers) (c : ComputeCamera) (frame : Option FrameImpl)
    (memory : FrameMemory) : Prop :=
  ∀ r, c.requestFrame a frame memory = some r → r.context = c.context

/-- **`TofiCompute` is called**, with a frame and a context: the frame could be
prepared, the sensor has filled it, and the depth is computed. -/
structure Reaches (a : RequestAnswers) (c : ComputeCamera) (frame : Option FrameImpl)
    (memory : FrameMemory) (f : FrameImpl) (context : ComputeContext) : Prop where
  /-- There is a frame, and it could be given the details of the mode. -/
  prepared : ∃ g info memory', frame = some g ∧ c.getCurrentModeInfo = some info
    ∧ c.prepared info g memory = some (f, memory')
  /-- A frame type was set. -/
  type : c.frameType.type ≠ []
  /-- The frame has a place for the sensor's data. -/
  location : c.frameDataLocation f ≠ none
  /-- The sensor has filled it. -/
  getFrame : a.getFrame = .ok
  /-- The depth is computed from it. -/
  computes : c.Computes f
  /-- There is a context. -/
  context : c.context = some context

/-- **Where `TofiCompute` is called, it succeeds, or it is called with the
pointers that were there.** -/
def Harmless (a : RequestAnswers) (c : ComputeCamera) (frame : Option FrameImpl)
    (memory : FrameMemory) : Prop :=
  ∀ f context, c.Reaches a frame memory f context →
    a.tofiCompute = 0 ∨ context.pointAt f c.xyzEnabled a.garbage = context

variable {a : RequestAnswers} {c : ComputeCamera} {frame : Option FrameImpl}
  {memory : FrameMemory} {f : FrameImpl} {context : ComputeContext}

/-- What the end of the call leaves the context as. -/
theorem context_compute (hcontext : c.context = some context) :
    (c.compute a f memory).context
      = if a.getFrame = .ok ∧ c.Computes f ∧ a.tofiCompute ≠ 0 then
          some (context.pointAt f c.xyzEnabled a.garbage)
        else some context := by
  unfold compute
  by_cases hget : a.getFrame = .ok
  · rw [if_neg (not_not.mpr hget)]
    dsimp only
    by_cases hcomputes : c.Computes f
    · rw [if_pos hcomputes, hcontext]
      dsimp only
      by_cases hret : a.tofiCompute = 0
      · -- the temporaries are all there is to point back, as the confidence stays
        rw [if_neg (not_not.mpr hret), if_neg (fun h => h.2.2 hret)]
        rfl
      · rw [if_pos hret, if_pos ⟨hget, hcomputes, hret⟩]
    · rw [if_neg hcomputes, if_neg (fun h => hcomputes h.2.1)]
      exact hcontext
  · rw [if_pos hget, if_neg (fun h => hget h.1)]
    exact hcontext

/-- Without a context there is none afterwards. -/
theorem context_compute_none (hcontext : c.context = none) :
    (c.compute a f memory).context = none := by
  unfold compute
  split
  · exact hcontext
  · dsimp only
    split
    · rw [hcontext]
    · exact hcontext

/-- **What a call leaves the context as**: it is pointed at the frame where
`TofiCompute` fails, and else it is what it was. -/
theorem context_requestFrame {r : Requested} (h : c.requestFrame a frame memory = some r) :
    r.context = c.context ∨
      ∃ f context, c.Reaches a frame memory f context ∧ a.tofiCompute ≠ 0
        ∧ r.context = some (context.pointAt f c.xyzEnabled a.garbage) := by
  unfold requestFrame at h
  split at h
  · rw [← Option.some.inj h]
    exact .inl rfl
  · next g =>
    split at h
    · rw [← Option.some.inj h]
      exact .inl rfl
    · next info hinfo =>
      obtain ⟨⟨f, memory'⟩, hprepared, hr⟩ := Option.map_eq_some_iff.mp h
      dsimp only at hr
      split at hr
      · rw [← hr]
        exact .inl rfl
      · next htype =>
        split at hr
        · rw [← hr]
          exact .inl rfl
        · next location hlocation =>
          rw [← hr]
          cases hcontext : c.context with
          | none => exact .inl (context_compute_none hcontext)
          | some context =>
            rw [context_compute hcontext]
            split
            · next hreaches =>
              obtain ⟨hget, hcomputes, hret⟩ := hreaches
              have hsome : c.frameDataLocation f ≠ none := by
                rw [hlocation]
                exact Option.some_ne_none location
              exact .inr ⟨f, context, { prepared := ⟨g, info, memory', rfl, hinfo, hprepared⟩,
                                        type := htype, location := hsome, getFrame := hget,
                                        computes := hcomputes, context := hcontext }, hret, rfl⟩
            · exact .inl rfl

/-- A call that gets to `TofiCompute` returns. -/
theorem requestFrame_of_reaches (h : c.Reaches a frame memory f context) :
    ∃ memory', c.requestFrame a frame memory = some (c.compute a f memory') := by
  obtain ⟨g, info, memory', hframe, hinfo, hprepared⟩ := h.prepared
  obtain ⟨location, hlocation⟩ := Option.ne_none_iff_exists'.mp h.location
  refine ⟨memory', ?_⟩
  unfold requestFrame
  rw [hframe]
  dsimp only
  rw [hinfo]
  dsimp only
  rw [hprepared, Option.map_some]
  dsimp only
  rw [if_neg h.type, hlocation]

/-- A harmless call leaves the context as it was. -/
theorem Harmless.context_eq (hharmless : c.Harmless a frame memory) {r : Requested}
    (hr : c.requestFrame a frame memory = some r) : r.context = c.context := by
  obtain heq | ⟨f, context, hreaches, hret, heq⟩ := context_requestFrame hr
  · exact heq
  · rw [heq, (hharmless f context hreaches).resolve_left hret, hreaches.context]

/-- **A call leaves the context as it was exactly where it is harmless.**

The frame, the memory and the answers are arbitrary, so the equivalence holds of
a call in any state that earlier calls have left. `Reaches` says that a call
gets as far as `TofiCompute`, with the context it has then. Where the library
succeeds the pointers are put back; where it fails they are put back only in the
sense that they have not moved. -/
theorem pointsBack_iff (a : RequestAnswers) (c : ComputeCamera) (frame : Option FrameImpl)
    (memory : FrameMemory) : c.PointsBack a frame memory ↔ c.Harmless a frame memory := by
  constructor
  · intro hback f context hreaches
    by_cases hret : a.tofiCompute = 0
    · exact .inl hret
    · obtain ⟨memory', hr⟩ := requestFrame_of_reaches hreaches
      have hcontext := hback _ hr
      rw [context_compute hreaches.context,
        if_pos ⟨hreaches.getFrame, hreaches.computes, hret⟩, hreaches.context] at hcontext
      exact .inr (Option.some.inj hcontext)
  · intro hharmless r hr
    exact hharmless.context_eq hr

end ComputeCamera

/-- A camera in `sr-native`. -/
def srNativeCamera : ComputeCamera where
  types := []
  table := {}
  sensor := { imagerType := .adsd3100 }
  mode := ascii "sr-native"
  frameType := ⟨ascii "sr-native", 1024, 1024⟩
  dataDetails := [⟨ascii "raw", 1, 1⟩, ⟨ascii "ir", 1, 1⟩, ⟨ascii "depth", 1, 1⟩]
  context := some {}

/-- **A context is left pointing into the frame** of a call whose `TofiCompute`
fails, and the frame may be gone before the context is. -/
theorem not_pointsBack_computeFails :
    ¬ ∀ (a : RequestAnswers) (c : ComputeCamera) (frame : Option FrameImpl) (memory : FrameMemory),
      c.PointsBack a frame memory := by
  intro h
  have hback := h ⟨.ok, 1, .null⟩ srNativeCamera (some (FrameImpl.construct 128 1)) []
  cases hr : srNativeCamera.requestFrame ⟨.ok, 1, .null⟩
      (some (FrameImpl.construct 128 1)) [] with
  | none => exact absurd hr (by decide +kernel)
  | some r =>
    have hdepth : (srNativeCamera.requestFrame ⟨.ok, 1, .null⟩
        (some (FrameImpl.construct 128 1)) []).map Requested.context
        = some (some { depthFrame := .plane ⟨0, 2⟩, abFrame := .plane ⟨0, 1⟩ }) := by
      decide +kernel
    rw [hr, Option.map_some, hback r hr] at hdepth
    exact absurd hdepth (by decide)

/-! ## Runs

The frames of the requests may be gone, or be others each time. Only the context
is carried from one request to the next. -/

/-- A request: the camera as it is configured then, the frame and its memory. -/
structure Request where
  answers : RequestAnswers
  camera : ComputeCamera
  frame : Option FrameImpl
  memory : FrameMemory

/-- The camera with the context that earlier calls have left. -/
def Request.cameraWith (request : Request) (context : Option ComputeContext) : ComputeCamera :=
  { request.camera with context }

/-- **Requests, one after the other**; what lasts is the context. -/
def requestStep : Machine (Option ComputeContext) Request := fun context request =>
  ((request.cameraWith context).requestFrame request.answers request.frame request.memory).map
    Requested.context

/-- **The context points where it did at first** after any number of requests
that are harmless, whatever has become of their frames. -/
theorem context_of_run {context context' : Option ComputeContext} {requests : List Request}
    (hrun : Machine.Run requestStep (fun context request =>
      (request.cameraWith context).Harmless request.answers request.frame request.memory)
      context requests context') : context' = context := by
  refine hrun.invariant (I := fun c => c = context) (fun c request c' hc hok hstep => ?_) rfl
  obtain ⟨r, hr, hcontext⟩ := Option.map_eq_some_iff.mp hstep
  have hsame : r.context = c := ComputeCamera.Harmless.context_eq hok hr
  rw [← hcontext, hsame]
  exact hc
