import TofNet.Recorder

/-!
# Every recording on its own

A recording is independent of the others if its file holds the first frames
that were delivered while it lasted, as many as were asked for. What it takes
is in `Undisturbed`, which has no condition on a start: a recording may find
frames in the queue and any counter. It is spoilt when a frame from before its
start is taken from the queue (`not_independent_leftover`), when the counter it
found and the frames delivered to it reach the limit, so that it ends before it
is complete, and when it is stopped, or has ended, with a frame of its own
behind.

The invariant is about the recording under way (`Underway`). The queue consists
of what was left over and of what was delivered and is not written yet, and a
frame is only taken where nothing is left over; so as long as something is,
nothing is written, and the file is a front of what was delivered at any time.

To see what the conditions are for, follow a frame. It is delivered, and there
has to be room for it (`HasRoom`): a counter that goes on from an earlier
recording must not reach the limit before this recording is complete, and frames
beyond those asked for must be kept out by the limit, and not by chance. It is
in the queue behind what was left over, which must not be taken. And it is taken
before the thread ends, or is one too many.
-/

variable {φ : Type} {s s' : ADIToFRecorder φ} {r : Recording φ} {p q : RecordThread φ}

/-- **The file of a recording is its own.** -/
def Recording.Independent (r : Recording φ) : Prop := r.written = r.delivered.take r.fps.toNat

namespace ADIToFRecorder

/-- The record thread is in its loop. -/
def Runs (s : ADIToFRecorder φ) : Prop := ∃ p, s.thread = some p ∧ p ≠ .ended

/-- The record thread is about to read `m_recordTreadStop`. -/
def atTest : RecordThread φ → Bool
  | .test => true
  | _ => false

/-- The record thread is about to take a frame. -/
def atDequeue : RecordThread φ → Bool
  | .dequeue => true
  | _ => false

end ADIToFRecorder

/-- **The recording has room for a frame**: all frames are asked for that the
counter allows for, as it was zero or none are asked for; or the frame is
within what the counter leaves, and within what was asked for. -/
def Recording.HasRoom (r : Recording φ) : Prop :=
  r.fps.toNat < 2 ^ 31 ∧ (r.counter = 0 ∨ r.fps = 0)
    ∨ r.counter + r.delivered.length < framesToRecord r.fps ∧ r.delivered.length < r.fps.toNat

namespace ADIToFRecorder

/-- **What a recording needs.** No frame from before its start is taken from the
queue; no frame of its own is in the queue when the record thread finds that it
is to stop, unless the counter has reached the limit; and a frame is delivered
only where there is room for it, and not behind the end of the thread, unless
as many were delivered as asked for. -/
def Undisturbed (s : ADIToFRecorder φ) : RecorderStep φ → Prop
  | .record => ∀ r, s.recording = some r →
      (s.thread.any atDequeue = true → s.stale = 0)
        ∧ (s.thread.any atTest = true → s.recordTreadStop = true →
          s.recordQueue.length ≤ s.stale ∨ s.limit ≤ s.frameCtr)
  | .deliver => ∀ r, s.recording = some r →
      (s.Runs ∨ r.fps.toNat ≤ r.delivered.length) ∧ r.HasRoom
  | .start _ _ _ _ | .stop | .gui | .offer _ => True

/-! ## The invariant

The frames of a recording are in three places, and in their order: the file, the
hand of the thread, the queue. The counter is what it was, and as many more as
were written. From these two the file of a recording that ends is known: either
nothing of it is left in the queue, or the counter is at the limit, and then as
many were written as were asked for, or all that came. -/

/-- The frame that has left the queue, and is not in the file yet. -/
def held : RecordThread φ → List φ
  | .write frame => [frame]
  | _ => []

/-- **A recording under way**, the thread of which is at `p`: what was
delivered is in the file, held by the thread, or in the queue behind what was
left over. -/
structure Underway (s : ADIToFRecorder φ) (r : Recording φ) (p : RecordThread φ) : Prop where
  /-- What was left over is in the queue. -/
  stale : s.stale ≤ s.recordQueue.length
  /-- What was delivered is in the file, in the thread's hands, or in the
  queue behind it. -/
  frames : r.delivered = r.written ++ (held p ++ s.recordQueue.drop s.stale)
  /-- The counter has counted what is in the file. -/
  counter : s.frameCtr = r.counter + r.written.length
  /-- With what the thread holds it does not pass the limit. -/
  bounded : r.written ++ held p = []
    ∨ r.counter + r.written.length + (held p).length ≤ s.limit
  /-- The thread goes on from the queue's test only if there is something in
  it. -/
  waiting : p = .limitTest ∨ p = .dequeue → s.recordQueue ≠ []
  /-- It takes a frame only below the limit. -/
  room : p = .dequeue → s.frameCtr < s.limit

/-- **What was delivered fits.** -/
def Fits (r : Recording φ) : Prop :=
  r.delivered = [] ∨ r.fps.toNat < 2 ^ 31 ∧ (r.counter = 0 ∨ r.fps = 0)
    ∨ r.counter + r.delivered.length ≤ framesToRecord r.fps ∧ r.delivered.length ≤ r.fps.toNat

/-- **What holds of the recordings in every state.** -/
structure Inv (s : ADIToFRecorder φ) : Prop where
  /-- The limit is that of the recording. -/
  limit : ∀ r, s.recording = some r → s.limit = framesToRecord r.fps
  /-- What was delivered to it fits. -/
  fits : ∀ r, s.recording = some r → Fits r
  /-- While its thread is in the loop, it is under way. -/
  underway : ∀ r p, s.recording = some r → s.thread = some p → p ≠ .ended → Underway s r p
  /-- When that has ended, the file is as it should be. -/
  settled : ∀ r, s.recording = some r → ¬ s.Runs → r.Independent
  /-- The file is closed behind the end of the thread. -/
  closing : s.gui = .close → ¬ s.Runs
  /-- The files that were closed are as they should be. -/
  closed : ∀ r ∈ s.recordings, r.Independent

/-- Before the first recording there is nothing to be shown. -/
theorem inv_initial : Inv ({} : ADIToFRecorder φ) where
  limit _ h := absurd h.symm (Option.some_ne_none _)
  fits _ h := absurd h.symm (Option.some_ne_none _)
  underway _ _ h := absurd h.symm (Option.some_ne_none _)
  settled _ h := absurd h.symm (Option.some_ne_none _)
  closing := RecorderGui.noConfusion
  closed _ h := absurd h List.not_mem_nil

/-- A frame for which there is room fits. -/
theorem fits_of_hasRoom (h : r.HasRoom) (frame : φ) :
    Fits { r with delivered := r.delivered ++ [frame] } := by
  right
  rcases h with h | ⟨hcounter, hfps⟩
  · exact Or.inl h
  · right
    dsimp only
    rw [List.length_append]
    exact ⟨hcounter, hfps⟩

/-- **A recording that was not cut short is independent**: nothing of it is
queued, or the limit is reached. -/
theorem independent_of_underway (h : Underway s r p) (hp : held p = [])
    (hlimit : s.limit = framesToRecord r.fps) (hfits : Fits r)
    (hdone : s.recordQueue.length ≤ s.stale ∨ s.limit ≤ s.frameCtr) : r.Independent := by
  have hframes := h.frames
  have hbounded := h.bounded
  rw [hp, List.nil_append] at hframes
  rw [hp, List.append_nil, List.length_nil, Nat.add_zero] at hbounded
  have hprefix : r.written <+: r.delivered := ⟨_, hframes.symm⟩
  show r.written = r.delivered.take r.fps.toNat
  rcases hfits with hnone | ⟨hint, hcounter⟩ | ⟨hwithin, hfps⟩
  · -- nothing was delivered, and so nothing written
    rw [hnone] at hprefix ⊢
    rw [List.take_nil]
    exact List.prefix_nil.mp hprefix
  · -- the limit is what was asked for, and is reached or bounds what was written
    rw [framesToRecord_eq hint] at hlimit
    have hle : r.written.length ≤ r.fps.toNat := by
      rcases hbounded with hnil | hle
      · rw [hnil]
        exact Nat.zero_le _
      · omega
    rcases hdone with hqueue | hfull
    · rw [List.drop_eq_nil_of_le hqueue, List.append_nil] at hframes
      rw [hframes, List.take_of_length_le hle]
    · have hlength : r.written.length = r.fps.toNat := by
        rw [h.counter] at hfull
        rcases hcounter with hzero | hzero
        · omega
        · rw [hzero] at hle ⊢
          exact Nat.le_zero.mp hle
      rw [← hlength]
      exact List.prefix_iff_eq_take.mp hprefix
  · rw [List.take_of_length_le hfps]
    rcases hdone with hqueue | hfull
    · rw [List.drop_eq_nil_of_le hqueue, List.append_nil] at hframes
      exact hframes.symm
    · refine hprefix.eq_of_length_le ?_
      rw [h.counter] at hfull
      omega

/-- The record thread goes from one test to another, with the recording
untouched. -/
theorem Inv.goTo (hs : s.Inv) (hp : s.thread = some p) (hne : p ≠ .ended)
    (hheld : held p = held q)
    (hwaiting : q = .limitTest ∨ q = .dequeue → s.recordQueue ≠ [])
    (hroom : q = .dequeue → s.frameCtr < s.limit) (hq : q ≠ .ended) :
    Inv { s with thread := some q } where
  limit := hs.limit
  fits := hs.fits
  underway r p' hr hp' _ := by
    cases hp'
    have hunder := hs.underway r p hr hp hne
    exact {
      stale := hunder.stale
      frames := hheld ▸ hunder.frames
      counter := hunder.counter
      bounded := hheld ▸ hunder.bounded
      waiting := hwaiting
      room := hroom }
  settled _ _ hnot := absurd ⟨q, rfl, hq⟩ hnot
  closing hgui := absurd ⟨p, hp, hne⟩ (hs.closing hgui)
  closed := hs.closed

/-- The record thread ends. -/
theorem Inv.ends (hs : s.Inv) {n : ℕ} {b : Bool} (hp : s.thread = some p)
    (hne : p ≠ .ended) (hheld : held p = [])
    (hdone : ∀ r, s.recording = some r →
      s.recordQueue.length ≤ s.stale ∨ s.limit ≤ s.frameCtr) :
    Inv { s with frameCtr := n, finishRecording := b, thread := some .ended } where
  limit := hs.limit
  fits := hs.fits
  underway r p' _ hp' hne' := by
    cases hp'
    exact absurd rfl hne'
  settled r hr _ :=
    independent_of_underway (hs.underway r p hr hp hne) hheld (hs.limit r hr) (hs.fits r hr)
      (hdone r hr)
  closing _ := by
    rintro ⟨p', hp', hne'⟩
    cases hp'
    exact hne' rfl
  closed := hs.closed

/-- The record thread goes on to a test that says nothing of the queue. -/
theorem Inv.goOn (hs : s.Inv) (hp : s.thread = some p) (hne : p ≠ .ended)
    (hheld : held p = held q) (hq : q ≠ .limitTest ∧ q ≠ .dequeue ∧ q ≠ .ended) :
    Inv { s with thread := some q } :=
  hs.goTo hp hne hheld (fun h => absurd h (not_or.mpr ⟨hq.1, hq.2.1⟩))
    (fun h => absurd h hq.2.1) hq.2.2

/-- The record thread takes a frame, which is its own, as nothing is left over. -/
theorem Underway.take (h : Underway s r .dequeue) (hstale : s.stale = 0) {frame : φ}
    {queue : List φ} (hqueue : s.recordQueue = frame :: queue) :
    Underway { s with
      recordQueue := queue
      stale := s.stale - 1
      thread := some (.write frame) } r (.write frame) where
  stale := by
    rw [hstale]
    exact Nat.zero_le _
  frames := by
    rw [h.frames, hqueue, hstale]
    rfl
  counter := h.counter
  bounded := Or.inr (by rw [← h.counter]; exact h.room rfl)
  waiting := by simp
  room := by simp

/-- It writes the frame, and counts it. -/
theorem Underway.write {frame : φ} (h : Underway s r (.write frame)) :
    Underway { s with
      recording := s.recording.map (fun r => { r with written := r.written ++ [frame] })
      frameCtr := s.frameCtr + 1
      thread := some .test } { r with written := r.written ++ [frame] } .test where
  stale := h.stale
  frames := by
    show r.delivered = r.written ++ [frame] ++ _
    rw [h.frames, List.append_assoc]
    rfl
  counter := by
    show s.frameCtr + 1 = r.counter + (r.written ++ [frame]).length
    rw [h.counter, List.length_append]
    rfl
  bounded := by
    right
    show r.counter + (r.written ++ [frame]).length + 0 ≤ s.limit
    rw [List.length_append]
    exact h.bounded.resolve_left (List.append_ne_nil_of_right_ne_nil _ (by simp [held]))
  waiting := by simp
  room := by simp

/-- A frame is delivered, behind those in the queue. -/
theorem Underway.deliver (h : Underway s r p) (frame : φ) :
    Underway { s with
      recordQueue := s.recordQueue ++ [frame]
      recording := s.recording.map (fun r => { r with delivered := r.delivered ++ [frame] })
      capture := none } { r with delivered := r.delivered ++ [frame] } p where
  stale := by
    show s.stale ≤ (s.recordQueue ++ [frame]).length
    rw [List.length_append]
    exact h.stale.trans (Nat.le_add_right _ _)
  frames := by
    show r.delivered ++ [frame]
      = r.written ++ (held p ++ (s.recordQueue ++ [frame]).drop s.stale)
    rw [List.drop_append_of_le_length h.stale, h.frames]
    simp only [List.append_assoc]
  counter := h.counter
  bounded := h.bounded
  waiting _ := List.append_ne_nil_of_right_ne_nil _ (List.cons_ne_nil _ _)
  room := h.room

/-- **A step of the record thread.** -/
theorem Inv.record (hs : s.Inv) (hok : s.Undisturbed .record) (hp : s.thread = some p)
    (h : s.recordAt p = some s') : s'.Inv := by
  cases p with
  | test =>
    cases h
    by_cases hstop : s.recordTreadStop = true
    · rw [if_pos hstop]
      exact hs.ends (n := s.frameCtr) (b := s.finishRecording) hp (by simp) rfl
        (fun r hr => (hok r hr).2 (by rw [hp]; rfl) hstop)
    · rw [if_neg hstop]
      exact hs.goOn hp (by simp) rfl (by simp)
  | openTest =>
    cases h
    by_cases hopen : s.recording.isSome = true
    · rw [if_pos hopen]
      exact hs.goOn hp (by simp) rfl (by simp)
    · rw [if_neg hopen]
      exact hs.ends (n := s.frameCtr) (b := s.finishRecording) hp (by simp) rfl
        (fun r hr => by simp [hr] at hopen)
  | emptyTest =>
    cases h
    by_cases hempty : s.recordQueue.isEmpty = true
    · rw [if_pos hempty]
      exact hs.goOn hp (by simp) rfl (by simp)
    · rw [if_neg hempty]
      exact hs.goTo hp (by simp) rfl (fun _ hnil => hempty (List.isEmpty_iff.mpr hnil))
        (by simp) (by simp)
  | limitTest =>
    cases h
    -- the limit ends the recording, and below it there is room for a frame
    by_cases hfull : s.limit ≤ s.frameCtr
    · rw [if_pos hfull]
      exact hs.ends hp (by simp) rfl (fun _ _ => .inr hfull)
    · rw [if_neg hfull]
      refine ⟨hs.limit, hs.fits, fun r q hr hq _ => ?_,
        fun _ _ hnot => absurd ⟨_, rfl, by simp⟩ hnot,
        fun hgui => absurd ⟨_, hp, by simp⟩ (hs.closing hgui), hs.closed⟩
      cases hq
      have hunder := hs.underway r _ hr hp (by simp)
      exact {
        stale := hunder.stale
        frames := hunder.frames
        counter := hunder.counter
        bounded := hunder.bounded
        waiting := fun _ => hunder.waiting (.inl rfl)
        room := fun _ => Nat.lt_of_not_le hfull }
  | dequeue =>
    simp only [recordAt] at h
    split at h
    · cases h
    · next frame queue hqueue =>
      cases h
      refine ⟨hs.limit, hs.fits, fun r q hr hq _ => ?_,
        fun _ _ hnot => absurd ⟨_, rfl, by simp⟩ hnot,
        fun hgui => absurd ⟨_, hp, by simp⟩ (hs.closing hgui), hs.closed⟩
      cases hq
      have hstale : s.stale = 0 := (hok r hr).1 (by rw [hp]; rfl)
      exact (hs.underway r _ hr hp (by simp)).take hstale hqueue
  | write frame =>
    cases h
    refine ⟨fun r hr => ?_, fun r hr => ?_, fun r q hr hq _ => ?_,
      fun _ _ hnot => absurd ⟨_, rfl, by simp⟩ hnot,
      fun hgui => absurd ⟨_, hp, by simp⟩ (hs.closing hgui), hs.closed⟩
    · obtain ⟨r', hr', rfl⟩ := Option.map_eq_some_iff.mp hr
      exact hs.limit r' hr'
    · obtain ⟨r', hr', rfl⟩ := Option.map_eq_some_iff.mp hr
      exact hs.fits r' hr'
    · obtain ⟨r', hr', rfl⟩ := Option.map_eq_some_iff.mp hr
      cases hq
      exact (hs.underway r' _ hr' hp (by simp)).write
  | ended => cases h

/-- It depends on the queue, the counter and the limit. -/
theorem Underway.congr (h : Underway s r p) (hqueue : s'.recordQueue = s.recordQueue)
    (hstale : s'.stale = s.stale) (hcounter : s'.frameCtr = s.frameCtr)
    (hlimit : s'.limit = s.limit) :
    Underway s' r p where
  stale := by rw [hstale, hqueue]; exact h.stale
  frames := by rw [hstale, hqueue]; exact h.frames
  counter := hcounter ▸ h.counter
  bounded := hlimit ▸ h.bounded
  waiting := hqueue ▸ h.waiting
  room := by rw [hcounter, hlimit]; exact h.room

/-- The GUI joins a thread that has ended. -/
theorem Inv.joins (hs : s.Inv) (hover : ¬ s.Runs) :
    Inv { s with thread := none, gui := .close } where
  limit := hs.limit
  fits := hs.fits
  underway _ _ _ hq := absurd hq.symm (Option.some_ne_none _)
  settled r hr _ := hs.settled r hr hover
  closing _ := fun ⟨_, hp, _⟩ => absurd hp.symm (Option.some_ne_none _)
  closed := hs.closed

/-- **A recording is started**, and all that is in the queue is left over. -/
theorem Inv.start (hs : s.Inv) (hidle : s.gui = .idle) (height width fps : UInt32)
    (opens : Bool) :
    Inv { s with
      recording := if opens then some { height, width, fps, counter := s.frameCtr } else none
      stale := s.recordQueue.length
      limit := framesToRecord fps
      finishRecording := false
      recordTreadStop := false
      thread := some .test
      isRecording := true } := by
  have hnew : ∀ r : Recording φ, (if opens then
        some ({ height, width, fps, counter := s.frameCtr } : Recording φ) else none) = some r
      → r = { height, width, fps, counter := s.frameCtr } := by
    intro r hr
    split at hr
    · exact (Option.some.inj hr).symm
    · cases hr
  refine ⟨fun r hr => ?_, fun r hr => ?_, fun r q hr hq _ => ?_,
    fun _ _ hnot => absurd ⟨_, rfl, by simp⟩ hnot, fun hgui => ?_, hs.closed⟩
  · rw [hnew r hr]
  · rw [hnew r hr]
    exact Or.inl rfl
  · rw [hnew r hr]
    cases hq
    exact {
      stale := le_rfl
      frames := by
        show ([] : List φ) = [] ++ ([] ++ s.recordQueue.drop s.recordQueue.length)
        rw [List.drop_length]
        rfl
      counter := rfl
      bounded := Or.inl rfl
      waiting := by simp
      room := by simp }
  · dsimp only at hgui
    rw [hidle] at hgui
    cases hgui

/-- The file is closed, and the recording is one of those that are over. -/
theorem Inv.close (hs : s.Inv) (hgui : s.gui = .close) :
    Inv { s with
      recording := none
      recordings := s.recordings ++ s.recording.toList
      isRecording := false
      gui := .idle } where
  limit _ hr := (Option.some_ne_none _ hr.symm).elim
  fits _ hr := (Option.some_ne_none _ hr.symm).elim
  underway _ _ hr := (Option.some_ne_none _ hr.symm).elim
  settled _ hr := (Option.some_ne_none _ hr.symm).elim
  closing := RecorderGui.noConfusion
  closed r hr := by
    rcases List.mem_append.mp hr with hr | hr
    · exact hs.closed r hr
    · exact hs.settled r (Option.mem_toList.mp hr) (hs.closing hgui)

/-- **A frame is delivered**, for which there is room. -/
theorem Inv.deliver (hs : s.Inv) (hok : s.Undisturbed .deliver) (frame : φ) :
    Inv { s with
      recordQueue := s.recordQueue ++ [frame]
      recording := s.recording.map (fun r => { r with delivered := r.delivered ++ [frame] })
      capture := none } := by
  refine ⟨fun r hr => ?_, fun r hr => ?_, fun r q hr hq hne => ?_, fun r hr hnot => ?_,
    hs.closing, hs.closed⟩
  all_goals obtain ⟨r', hr', rfl⟩ := Option.map_eq_some_iff.mp hr
  · exact hs.limit r' hr'
  · exact fits_of_hasRoom (hok r' hr').2 frame
  · exact (hs.underway r' q hr' hq hne).deliver frame
  · -- behind the end of the thread only frames above the limit are delivered
    have hfull : r'.fps.toNat ≤ r'.delivered.length := (hok r' hr').1.resolve_left hnot
    show r'.written = (r'.delivered ++ [frame]).take r'.fps.toNat
    rw [List.take_append_of_le_length hfull]
    exact hs.settled r' hr' hnot

/-- **Every step keeps the recordings independent.** -/
theorem Inv.step (hs : s.Inv) {a : RecorderStep φ} (hok : s.Undisturbed a)
    (h : step s a = some s') : s'.Inv := by
  cases a with
  | start height width fps opens =>
    simp only [ADIToFRecorder.step] at h
    split at h
    · next hidle =>
      cases h
      exact hs.start hidle.1 height width fps opens
    · cases h
  | stop =>
    simp only [ADIToFRecorder.step] at h
    split at h
    · cases h
      exact ⟨hs.limit, hs.fits,
        fun r q hr hq hne => (hs.underway r q hr hq hne).congr rfl rfl rfl rfl,
        hs.settled, RecorderGui.noConfusion, hs.closed⟩
    · cases h
  | gui =>
    simp only [ADIToFRecorder.step] at h
    split at h
    · next hgui hended =>
      cases h
      have hover : ¬ s.Runs := by
        rintro ⟨p, hp, hne⟩
        rw [hended] at hp
        exact hne (Option.some.inj hp).symm
      exact hs.joins hover
    · next hgui hnone =>
      cases h
      have hover : ¬ s.Runs := by
        rintro ⟨p, hp, -⟩
        rw [hnone] at hp
        cases hp
      exact hs.joins hover
    · next hgui =>
      cases h
      exact hs.close hgui
    · cases h
  | offer frame =>
    simp only [ADIToFRecorder.step] at h
    split at h
    · cases h
      split
      · exact hs
      · exact ⟨hs.limit, hs.fits,
          fun r q hr hq hne => (hs.underway r q hr hq hne).congr rfl rfl rfl rfl,
          hs.settled, hs.closing, hs.closed⟩
    · cases h
  | deliver =>
    simp only [ADIToFRecorder.step] at h
    split at h
    · next frame hframe =>
      cases h
      exact hs.deliver hok frame
    · cases h
  | record =>
    obtain ⟨p, hp, hat⟩ := Option.bind_eq_some_iff.mp h
    exact hs.record hok hp hat

/-- **Recordings are independent of each other.** In a run in which no frame is
taken that was left over, none is delivered for which the counter leaves no
room, and none is left behind, the file of each recording holds the first frames
that were delivered while it lasted, as many as were asked for.

The queue and the counter are the recorder's and not a recording's, and no start
clears them. So the condition is about these two where a recording uses them:
what is in the queue when a frame is taken, and whether what has been counted
leaves room for what is delivered. The invariant splits the queue into what was
there at the start and what the recording has put there; the file, the frame in
the hands of the thread and the second part make up what was delivered. -/
theorem recordings_of_run {as : List (RecorderStep φ)}
    (h : Machine.Run step Undisturbed ({} : ADIToFRecorder φ) as s) :
    ∀ r ∈ s.recordings, r.Independent :=
  (h.invariant (fun _ _ _ hs hok hst => Inv.step hs hok hst) inv_initial).closed

/-! ## Two recordings

The first is stopped before it has all the frames it asked for, so that the
counter is not reset. The second finds it at one, and asks for two frames; it
gets one, and there is room for that. -/

/-- The thread goes on. -/
def goesOn : RecordThread φ → Bool
  | .ended => false
  | _ => true

/-- The thread is in its loop while it has not ended. -/
theorem runs_iff : s.Runs ↔ s.thread.any goesOn = true := by
  constructor
  · rintro ⟨p, hp, hne⟩
    rw [hp]
    cases p <;> first | rfl | exact absurd rfl hne
  · intro h
    cases hp : s.thread with
    | none =>
      rw [hp] at h
      cases h
    | some p =>
      rw [hp] at h
      refine ⟨p, hp, ?_⟩
      rintro rfl
      cases h

instance : Decidable s.Runs := decidable_of_iff _ runs_iff.symm

instance (r : Recording φ) : Decidable r.HasRoom := inferInstanceAs (Decidable (_ ∨ _))

instance (s : ADIToFRecorder φ) (a : RecorderStep φ) : Decidable (Undisturbed s a) :=
  match a with
  | .record => inferInstanceAs (Decidable (∀ r ∈ s.recording, _ ∧ _))
  | .deliver => inferInstanceAs (Decidable (∀ r ∈ s.recording, _ ∧ _))
  | .start _ _ _ _ | .stop | .gui | .offer _ => isTrue trivial

/-- The steps of the record thread that write a frame. -/
def writeSteps : List (RecorderStep ℕ) := List.replicate 6 .record

/-- A recording of two frames at most, which is stopped when it has one. -/
def oneFrame (frame : ℕ) : List (RecorderStep ℕ) :=
  [.start 1 1 2 true, .offer frame, .deliver] ++ writeSteps ++ [.stop, .record, .gui, .gui]

/-- Two recordings with a frame each, the second of which finds the counter at
one. -/
theorem recordings_of_run_two_recordings :
    ∃ s : ADIToFRecorder ℕ, Machine.Run step Undisturbed {} (oneFrame 7 ++ oneFrame 8) s
      ∧ s.recordings.map Recording.written = [[7], [8]]
      ∧ ∀ r ∈ s.recordings, r.Independent := by
  have hexec : (Machine.execOk step Undisturbed {} (oneFrame 7 ++ oneFrame 8)).map
      (fun s => s.recordings.map Recording.written) = some [[7], [8]] := by decide +kernel
  obtain ⟨s, hs, hwritten⟩ := Option.map_eq_some_iff.mp hexec
  exact ⟨s, Machine.run_of_execOk hs, hwritten, recordings_of_run (Machine.run_of_execOk hs)⟩

/-- **A completed recording leaves a frame behind**, which is the first of the
next. -/
theorem not_independent_leftover :
    ¬ ∀ (as : List (RecorderStep ℕ)) (s : ADIToFRecorder ℕ),
      Machine.Run step Machine.always {} as s → ∀ r ∈ s.recordings, r.Independent := by
  intro h
  have hexec : (Machine.exec step {}
      ([.start 1 1 1 true, .offer 7, .deliver, .offer 8, .deliver] ++ writeSteps
        ++ List.replicate 4 .record ++ [.stop, .gui, .gui]
        ++ [.start 1 1 1 true] ++ writeSteps ++ [.stop, .record, .gui, .gui])).map
      (fun s => s.recordings.map (fun r => (r.delivered, r.written)))
      = some [([7, 8], [7]), ([], [8])] := by decide +kernel
  obtain ⟨s, hs, hvalues⟩ := Option.map_eq_some_iff.mp hexec
  have hmem : (([], [8]) : List ℕ × List ℕ)
      ∈ s.recordings.map (fun r => (r.delivered, r.written)) := by
    rw [hvalues]
    decide
  obtain ⟨r, hr, hpair⟩ := List.mem_map.mp hmem
  have hindependent := h _ s (Machine.run_iff_exec.mpr hs) r hr
  rw [Prod.mk.injEq] at hpair
  rw [Recording.Independent, hpair.1, hpair.2, List.take_nil] at hindependent
  cases hindependent

end ADIToFRecorder
