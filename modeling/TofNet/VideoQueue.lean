import Mathlib.Data.List.Range

/-!
# The buffer queue of a video device

The streaming interface of V4L2 with memory-mapped buffers, as far as a
program that captures sees it: the driver allocates buffers (`REQBUFS`), the
program hands them to the driver (`QBUF`) and takes filled ones back
(`DQBUF`), and `STREAMON` and `STREAMOFF` start and stop the stream. A call
that the driver refuses, or that the interface does not allow in the state,
leaves the queue as it was.
-/

/-- **The queue of an open device**: how many buffers are allocated, which of
them the driver has, and whether the stream is on. -/
structure VideoQueue where
  /-- The buffers that are allocated. -/
  count : ℕ := 0
  /-- Those that the driver has, in order. -/
  queued : List ℕ := []
  /-- The stream is on. -/
  streaming : Bool := false
  deriving DecidableEq, Repr

namespace VideoQueue

/-- `REQBUFS` of a stopped device: its buffers are replaced by new ones. -/
def reqbufs (q : VideoQueue) (n : ℕ) : Option VideoQueue :=
  if q.streaming = true then none else some { count := n }

/-- `QBUF`: the buffer has to be one of the device's, and not be queued. -/
def qbuf (q : VideoQueue) (i : ℕ) : Option VideoQueue :=
  if i < q.count ∧ i ∉ q.queued then some { q with queued := i :: q.queued } else none

/-- `DQBUF` of a buffer that has been filled. -/
def dqbuf (q : VideoQueue) (i : ℕ) : Option VideoQueue :=
  if q.streaming = true ∧ i ∈ q.queued then some { q with queued := q.queued.erase i } else none

/-- `STREAMON`, which needs buffers. -/
def streamOn (q : VideoQueue) : Option VideoQueue :=
  if 0 < q.count then some { q with streaming := true } else none

/-- `STREAMOFF`, which returns every buffer. -/
def streamOff (q : VideoQueue) : VideoQueue := { q with queued := [], streaming := false }

/-- `QBUF` of several buffers in turn, up to the first that fails. -/
def qbufs (fails : ℕ → Bool) : VideoQueue → List ℕ → VideoQueue × Bool
  | q, [] => (q, true)
  | q, i :: is =>
    match if fails i then none else q.qbuf i with
    | some q' => qbufs fails q' is
    | none => (q, false)

variable {q q' : VideoQueue} {i : ℕ}

/-- Buffers that are allocated are new, and free. -/
theorem reqbufs_eq_some {n : ℕ} (h : q.reqbufs n = some q') : q' = { count := n } := by
  unfold reqbufs at h
  split at h
  · cases h
  · exact (Option.some.inj h).symm

/-- Queueing a buffer changes nothing but the queued ones. -/
theorem qbuf_eq_some (h : q.qbuf i = some q') : q' = { q with queued := i :: q.queued } := by
  unfold qbuf at h
  split at h
  · exact (Option.some.inj h).symm
  · cases h

/-- Nor does taking one. -/
theorem dqbuf_eq_some (h : q.dqbuf i = some q') : q' = { q with queued := q.queued.erase i } := by
  unfold dqbuf at h
  split at h
  · exact (Option.some.inj h).symm
  · cases h

/-- A stream that is turned on has buffers, and they stay as they are. -/
theorem streamOn_eq_some (h : q.streamOn = some q') :
    0 < q.count ∧ q' = { q with streaming := true } := by
  unfold streamOn at h
  split at h
  · next hpos => exact ⟨hpos, (Option.some.inj h).symm⟩
  · cases h

/-- Nor does queueing several. -/
theorem qbufs_frame (fails : ℕ → Bool) (q : VideoQueue) (is : List ℕ) :
    (qbufs fails q is).1 = { q with queued := (qbufs fails q is).1.queued } := by
  induction is generalizing q with
  | nil => rfl
  | cons i is ih =>
    unfold qbufs
    split
    · next q' hq =>
      split at hq
      · cases hq
      · rw [ih q', qbuf_eq_some hq]
    · rfl

/-- The first buffer that fails leaves the queue as it was. -/
theorem qbufs_of_first {fails : ℕ → Bool} (h : fails i = true) (is : List ℕ) :
    qbufs fails q (i :: is) = (q, false) := by
  unfold qbufs
  rw [if_pos h]

/-- Several buffers are queued only if none of the calls fails. -/
theorem qbufs_true {fails : ℕ → Bool} {is : List ℕ} (h : (qbufs fails q is).2 = true) :
    ∀ i ∈ is, fails i = false := by
  induction is generalizing q with
  | nil => exact fun i hi => absurd hi List.not_mem_nil
  | cons i is ih =>
    unfold qbufs at h
    split at h
    · next q' hq =>
      split at hq
      · cases hq
      · next hi =>
        intro j hj
        rcases List.mem_cons.mp hj with rfl | hj
        · exact Bool.not_eq_true _ ▸ hi
        · exact ih h j hj
    · cases h

/-- **Buffers that are allocated and free can all be queued.** -/
theorem qbufs_ok {fails : ℕ → Bool} {is : List ℕ} (hnodup : is.Nodup)
    (hfails : ∀ i ∈ is, fails i = false) (hfree : ∀ i ∈ is, i < q.count ∧ i ∉ q.queued) :
    qbufs fails q is = ({ q with queued := is.reverse ++ q.queued }, true) := by
  induction is generalizing q with
  | nil => rfl
  | cons i is ih =>
    obtain ⟨hi, hrest⟩ := List.nodup_cons.mp hnodup
    have hq : q.qbuf i = some { q with queued := i :: q.queued } :=
      if_pos (hfree i List.mem_cons_self)
    unfold qbufs
    rw [if_neg (by simp [hfails i List.mem_cons_self]), hq]
    dsimp only
    rw [ih hrest (fun j hj => hfails j (List.mem_cons_of_mem _ hj)) ?_]
    · simp
    · intro j hj
      obtain ⟨hlt, hnot⟩ := hfree j (List.mem_cons_of_mem _ hj)
      refine ⟨hlt, fun hmem => ?_⟩
      rcases List.mem_cons.mp hmem with rfl | hmem
      · exact hi hj
      · exact hnot hmem

end VideoQueue
