import TofNet.SensorDriver

/-!
# Runs of the sensor's driver

What holds of the driver in every order of the calls of its users, whatever the
kernel answers.

The frame sizes that are enumerated for a code are those that are taken as they
are (`enumFrameSize_iff`): the loop of `adsd3500_enum_frame_size` counts the modes
of the code, and a mode's own size is nearest to no other mode. A format that is
not taken leaves the mutex taken, and that is the only way in which a call comes
to wait for ever (`returns_iff`). What the driver reports as its format is the
mode it runs in as long as no other mode has been tried, or a file handle opened,
since (`getFormat_eq_iff`): `fmt` is written also by a call that only tries.

The device is counted as used exactly while it streams (`stream_run`). Every
failure on the way to a stream takes back what has been counted before it, which
is what the cases of `Streamed` come to; what is not taken back is that the device
has been woken up. The mode that the imager has then is told in `SensorWake`. Here
it is shown that the word tells everything of the controls (`modeWords_inj`): its
fields are apart, and each is as wide as the values that the kernel lets through.

Most of these results are about all runs, and they are proved in the same way.
First it is said what one call does, with all that may fail in it: `formatted`
for a format, `streamed` for the stream, and the check of the kernel for a
control. Then `steps` puts these together, so that a step of the driver has five
cases, in none of which the power management is left. From there on neither its
functions nor the driver's own are unfolded again. What is kept by a step is
shown by the five cases, and what holds of a run by induction on it.

Two of the results are about the past of a run and not about its state: whether
a format has ever been refused, and which mode was asked for last. For these a
field of the state is followed through the run, and is at its end what the last
of the calls made of it (`lock_run`, `last_run`).
-/

namespace Adsd3500

open Machine

variable {nearest : NearestSize} {kernel : Kernel} {dt : DeviceTree} {pads : ℕ → Pad} {s s' : State}

/-! ## Frame sizes

The loop is followed with a counter that starts at any number, since its number
of rounds depends on where it is. That a mode is found by its own size is a
matter of the table: no two modes have one size, so that only the mode itself is
at distance zero, and the kernel's search takes a nearest one. The sizes are far
below the bound up to which the search computes with `int`s. -/

/-- **The loop counts the modes of the code**, and stops at the one asked for. -/
theorem enumFrameSizeLoop_eq (code : UInt32) (index : ℕ) (modes : List ModeInfo) {j : ℕ}
    (hj : j ≤ index) :
    enumFrameSizeLoop code index modes j
      = (modes.filter fun mode => mode.code = code)[index - j]? := by
  induction modes generalizing j with
  | nil => rfl
  | cons mode modes ih =>
    by_cases hcode : mode.code = code
    · rw [enumFrameSizeLoop, if_pos hcode,
        List.filter_cons_of_pos (by rw [hcode, decide_eq_true rfl])]
      by_cases hlast : index < j + 1
      · have hzero : index - j = 0 := by omega
        rw [if_pos hlast, hzero]
        rfl
      · have hsucc : index - j = index - (j + 1) + 1 := by omega
        rw [if_neg hlast, ih (by omega), hsucc, List.getElem?_cons_succ]
    · rw [enumFrameSizeLoop, if_neg hcode, if_neg (by omega),
        List.filter_cons_of_neg (by simpa using hcode), ih hj]

/-- The sizes of a code. -/
theorem enumFrameSize_mem_iff (code : UInt32) (size : ℕ × ℕ) :
    (∃ index, enumFrameSize code index = some size)
      ↔ ∃ mode ∈ modeInfoData, mode.code = code ∧ (mode.width, mode.height) = size := by
  have hlength : (modeInfoData.filter fun mode => mode.code = code).length ≤ modeInfoData.length :=
    List.length_filter_le _ _
  constructor
  · rintro ⟨index, h⟩
    unfold enumFrameSize at h
    split at h
    · cases h
    · rw [enumFrameSizeLoop_eq code index modeInfoData (Nat.zero_le _), Option.map_eq_some_iff] at h
      obtain ⟨mode, hmode, hsize⟩ := h
      obtain ⟨hmem, hcode⟩ := List.mem_filter.mp (List.mem_of_getElem? hmode)
      exact ⟨mode, hmem, of_decide_eq_true hcode, hsize⟩
  · rintro ⟨mode, hmem, hcode, hsize⟩
    have hfilter : mode ∈ modeInfoData.filter fun mode => mode.code = code :=
      List.mem_filter.mpr ⟨hmem, decide_eq_true hcode⟩
    obtain ⟨index, hindex⟩ := List.mem_iff_getElem?.mp hfilter
    have hlt := (List.getElem?_eq_some_iff.mp hindex).1
    refine ⟨index, ?_⟩
    rw [enumFrameSize, if_neg (by omega),
      enumFrameSizeLoop_eq code index modeInfoData (Nat.zero_le _), Nat.sub_zero, hindex,
      Option.map_some, hsize]

/-- No two modes have one size. -/
theorem eq_of_distance : ∀ mode ∈ modeInfoData, ∀ other ∈ modeInfoData,
    mode.distance other.width other.height = 0 → mode = other := by
  decide

/-- The sizes are small enough for the kernel's search. -/
theorem size_lt : ∀ mode ∈ modeInfoData, mode.width < 2 ^ 30 ∧ mode.height < 2 ^ 30 := by
  decide

/-- The nearest to a mode's own size is the mode. -/
theorem find_self {mode : ModeInfo} (hmem : mode ∈ modeInfoData) :
    nearest.find mode.width mode.height = mode := by
  obtain ⟨hwidth, hheight⟩ := size_lt mode hmem
  have hleast := nearest.least _ _ hwidth hheight mode hmem
  have hself : mode.distance mode.width mode.height = 0 := by simp [ModeInfo.distance]
  exact eq_of_distance _ (nearest.mem _ _) mode hmem (by omega)

/-- A format is not taken. -/
def FormatCall.Fails (c : FormatCall) : Prop :=
  c.pad ≠ 0 ∨ c.which = .other ∨ (c.which = .active ∧ (c.rateSet = false ∨ c.freqSet = false))

instance (c : FormatCall) : Decidable c.Fails := by
  unfold FormatCall.Fails
  infer_instance

/-- The mode of a format that is asked for. -/
def NearestSize.mode (nearest : NearestSize) (c : FormatCall) : ModeInfo :=
  nearest.find c.width c.height

/-- **What `adsd3500_set_format` does**, whether it fails, or takes the format. -/
structure Formatted (nearest : NearestSize) (c : FormatCall) (s : State)
    (r : State × Option Format) : Prop where
  /-- A failure keeps the mutex. -/
  lock : r.1.lock = decide c.Fails
  /-- The answer is the format of the nearest mode, or an error. -/
  result : r.2 = if c.Fails then none else some (nearest.mode c).format
  /-- `fmt` is that format, be it only tried. -/
  fmt : r.1.fmt = if c.Fails then s.fmt else (nearest.mode c).format
  /-- The mode is made active if it was not a try. -/
  currentMode : r.1.currentMode
    = if ¬ c.Fails ∧ c.which = .active then nearest.mode c else s.currentMode
  /-- The controls are as they were, … -/
  controls : r.1.controls = s.controls
  /-- … and so is the stream, … -/
  streaming : r.1.streaming = s.streaming
  /-- … the number of users, … -/
  usageCount : r.1.usageCount = s.usageCount
  /-- … the power, … -/
  suspended : r.1.suspended = s.suspended
  /-- … and the imager. -/
  imager : r.1.imager = s.imager

/-- Two of the calls that fail are refused for what they ask for, and two more
as a control is not set; the others store the format, and an active one the
mode. -/
theorem formatted (nearest : NearestSize) (c : FormatCall) (s : State) :
    Formatted nearest c s (s.setFormat nearest c) := by
  obtain ⟨which, pad, handle, width, height, rateSet, freqSet⟩ := c
  by_cases hpad : pad = 0
  · subst hpad
    cases which <;> cases rateSet <;> cases freqSet <;>
      exact ⟨rfl, rfl, rfl, rfl, rfl, rfl, rfl, rfl, rfl⟩
  · have hfails : FormatCall.Fails ⟨which, pad, handle, width, height, rateSet, freqSet⟩ :=
      .inl hpad
    rw [State.setFormat, if_pos hpad]
    exact ⟨(decide_eq_true hfails).symm, (if_pos hfails).symm, (if_pos hfails).symm,
      (if_neg fun h => h.1 hfails).symm, rfl, rfl, rfl, rfl, rfl⟩

/-- What is asked for by its size alone. -/
def sizeCall (trial : Bool) (handle width height : ℕ) : FormatCall :=
  { which := if trial = true then .trial else .active, handle, width, height }

/-- A size that is asked for in this way is never refused. -/
theorem not_fails_sizeCall (trial : Bool) (handle width height : ℕ) :
    ¬ (sizeCall trial handle width height).Fails := by
  rintro (h | h | ⟨-, h | h⟩)
  · exact h rfl
  · cases trial <;> cases h
  · cases h
  · cases h

/-- **What is enumerated is what is taken as it is**: a frame size is enumerated
for a code if and only if `adsd3500_set_format`, asked for the size, answers with
it and the code. -/
theorem enumFrameSize_iff (nearest : NearestSize) (s : State) (trial : Bool) (handle : ℕ)
    (code : UInt32) (width height : ℕ) :
    (∃ index, enumFrameSize code index = some (width, height))
      ↔ (s.setFormat nearest (sizeCall trial handle width height)).2
        = some ⟨width, height, code⟩ := by
  rw [(formatted nearest _ s).result, if_neg (not_fails_sizeCall trial handle width height),
    enumFrameSize_mem_iff]
  constructor
  · rintro ⟨mode, hmem, rfl, hsize⟩
    cases hsize
    rw [NearestSize.mode, sizeCall, find_self hmem]
    rfl
  · intro h
    have hformat : (nearest.find width height).format = ⟨width, height, code⟩ := Option.some.inj h
    obtain ⟨hwidth, hheight, hcode⟩ := Format.mk.injEq _ _ _ _ _ _ ▸ hformat
    exact ⟨_, nearest.mem width height, hcode, Prod.ext hwidth hheight⟩

/-! ## Starting and stopping

The kernel's power management is known by its laws only. They determine the
counter and whether the device is suspended, and these are all that it has; so
its functions are computed once (`getSync_eq`, `put_eq`, `putNoidle_eq`) and are
gone.

`adsd3500_s_stream` can then be run through, one answer after the other. Its
ends are the cases of `Streamed`. There are fewer of them than ways through the
code, as many ways leave the same: whoever fails before the device is woken up
leaves everything as it was. -/

/-- The device, woken up: the imager's mode is that of the controls. -/
def State.woken (dt : DeviceTree) (s : State) : State :=
  { s with
    imager := { s.imager with mode := some (modeWords dt s.controls) }, suspended := false }

/-- The stream, started. -/
def State.started (s : State) : State :=
  { s with
    usageCount := s.usageCount + 1, imager := { s.imager with stream := some STREAM_ON }
    streaming := true }

/-- The stream, stopped. -/
def State.stopped (s : State) (written : Bool) : State :=
  { s with
    usageCount := s.usageCount - 1, streaming := false
    imager := if written = true then { s.imager with stream := some STREAM_OFF } else s.imager }

/-- **What the kernel's power management comes to**, and whether the driver is
called for it. -/
theorem getSync_eq (kernel : Kernel) (dt : DeviceTree) (s : State) (a : StreamAnswers) :
    s.getSync kernel dt a
      = if a.resumes = false then ({ s with usageCount := s.usageCount + 1 }, false)
        else if s.suspended = false then ({ s with usageCount := s.usageCount + 1 }, true)
        else if a.powered = false then ({ s with usageCount := s.usageCount + 1 }, false)
        else ({ s.woken dt with usageCount := s.usageCount + 1 }, true) := by
  obtain ⟨resumes, powered, written⟩ := a
  obtain ⟨⟨usageCount, suspended⟩, lock, fmt, crop, currentMode, pixelRate, linkFreq, pads,
    controls, streaming, imager⟩ := s
  have husage := kernel.usageCount_getSync ⟨usageCount, suspended⟩ resumes powered
  have hsuspended := kernel.suspended_getSync ⟨usageCount, suspended⟩ resumes powered
  have hcalls := kernel.calls_getSync ⟨usageCount, suspended⟩ resumes powered
  have hreturns := kernel.returns_getSync ⟨usageCount, suspended⟩ resumes powered
  unfold State.getSync
  dsimp only
  generalize kernel.getSync ⟨usageCount, suspended⟩ resumes powered = r at *
  obtain ⟨⟨usageCount', suspended'⟩, calls, returns⟩ := r
  cases husage
  cases hsuspended
  cases hcalls
  cases hreturns
  cases resumes <;> cases suspended <;> cases powered <;> rfl

/-- A user of the device is gone. -/
theorem put_eq (kernel : Kernel) (s : State) :
    s.put kernel = { s with usageCount := s.usageCount - 1 } := by
  have husage := kernel.usageCount_put s.toPower
  have hsuspended := kernel.suspended_put s.toPower
  unfold State.put
  generalize kernel.put s.toPower = power at *
  obtain ⟨usageCount, suspended⟩ := power
  cases husage
  cases hsuspended
  rfl

/-- A user of the device is gone, and this is all as far as the driver can
see. -/
theorem putNoidle_eq (kernel : Kernel) (s : State) :
    s.putNoidle kernel = { s with usageCount := s.usageCount - 1 } := by
  have husage := kernel.usageCount_putNoidle s.toPower
  have hsuspended := kernel.suspended_putNoidle s.toPower
  unfold State.putNoidle
  generalize kernel.putNoidle s.toPower = power at *
  obtain ⟨usageCount, suspended⟩ := power
  cases husage
  cases hsuspended
  rfl

/-- **What `adsd3500_s_stream` does**: nothing, stop the stream, or start it. If
it fails to start it, the device may have been woken up all the same. -/
inductive Streamed (dt : DeviceTree) (s : State) (enable : Bool) (a : StreamAnswers) :
    State × Bool → Prop
  | same (hs : s.streaming = enable) : Streamed dt s enable a (s, true)
  | stopped (henable : enable = false) (hs : s.streaming = true) :
    Streamed dt s enable a (s.stopped a.written, true)
  | failed (henable : enable = true) (hs : s.streaming = false) : Streamed dt s enable a (s, false)
  | woken (henable : enable = true) (hs : s.streaming = false) (hsuspended : s.suspended = true)
    (hresumes : a.resumes = true) (hpowered : a.powered = true) :
    Streamed dt s enable a (s.woken dt, false)
  | started (henable : enable = true) (hs : s.streaming = false)
    (hsuspended : s.suspended = false) : Streamed dt s enable a (s.started, true)
  | wokenStarted (henable : enable = true) (hs : s.streaming = false)
    (hsuspended : s.suspended = true) (hresumes : a.resumes = true) (hpowered : a.powered = true) :
    Streamed dt s enable a ((s.woken dt).started, true)

/-- Every way through `adsd3500_s_stream`, by whether it streams, what is asked
for, and what the kernel answers. -/
theorem streamed (kernel : Kernel) (dt : DeviceTree) (s : State) (enable : Bool)
    (a : StreamAnswers) : Streamed dt s enable a (s.sStream kernel dt enable a) := by
  by_cases hsame : s.streaming = enable
  · rw [State.sStream, if_pos hsame]
    exact .same hsame
  · rw [State.sStream, if_neg hsame]
    cases enable with
    | false =>
      have hs : s.streaming = true := by simpa using hsame
      rw [if_neg Bool.false_ne_true, put_eq]
      have hstopped : ({ s.command a STREAM_OFF with
          usageCount := (s.command a STREAM_OFF).usageCount - 1, streaming := false } : State)
          = s.stopped a.written := by
        unfold State.command State.stopped
        cases a.written <;> rfl
      rw [hstopped]
      exact .stopped rfl hs
    | true =>
      have hs : s.streaming = false := by simpa using hsame
      rw [if_pos rfl, getSync_eq]
      simp only [put_eq, putNoidle_eq]
      obtain ⟨resumes, powered, written⟩ := a
      obtain ⟨⟨usageCount, suspended⟩, lock, fmt, crop, currentMode, pixelRate, linkFreq, pads,
        controls, streaming, imager⟩ := s
      cases resumes
      · exact .failed rfl hs
      · cases suspended
        · cases written
          · exact .failed rfl hs
          · exact .started rfl hs rfl
        · cases powered
          · exact .failed rfl hs
          · cases written
            · exact .woken rfl hs rfl rfl rfl
            · exact .wokenStarted rfl hs rfl rfl rfl

/-- A stream is to be started on a device that is suspended and can be resumed. -/
theorem sStream_suspended (kernel : Kernel) (dt : DeviceTree) {a : StreamAnswers}
    (hstreaming : s.streaming = false) (hsuspended : s.suspended = true)
    (hresumes : a.resumes = true) :
    (s.sStream kernel dt true a).1
      = if a.powered = false then s
        else if a.written = false then s.woken dt
        else (s.woken dt).started := by
  have hstart : ¬ s.streaming = true := by
    rw [hstreaming]
    exact Bool.noConfusion
  rw [State.sStream, if_neg hstart, if_pos rfl, getSync_eq]
  simp only [put_eq, putNoidle_eq]
  obtain ⟨resumes, powered, written⟩ := a
  obtain ⟨⟨usageCount, suspended⟩, lock, fmt, crop, currentMode, pixelRate, linkFreq, pads,
    controls, streaming, imager⟩ := s
  cases hresumes
  cases hstreaming
  cases hsuspended
  cases powered <;> cases written <;> rfl

/-- **A step of the driver.** -/
inductive Steps (kernel : Kernel) (dt : DeviceTree) (s : State) : Call → State → Prop
  | openHandle (handle : ℕ) (hlock : s.lock = false) :
    Steps kernel dt s (.openHandle handle)
      (s.setFormat kernel.toNearestSize (initCfg .trial handle)).1
  | setFormat (c : FormatCall) (hlock : s.lock = false) :
    Steps kernel dt s (.setFormat c) (s.setFormat kernel.toNearestSize c).1
  | sStream (enable : Bool) (a : StreamAnswers) (hlock : s.lock = false) {r : State × Bool}
    (hr : Streamed dt s enable a r) : Steps kernel dt s (.sStream enable a) r.1
  | setCtrl (ctrl : Ctrl) (value : ℤ) :
    Steps kernel dt s (.setCtrl ctrl value)
      { s with controls := (s.controls.set kernel.toControlCore ctrl value).1 }
  | suspend (hunused : s.usageCount = 0) (hsuspended : s.suspended = false) :
    Steps kernel dt s .suspend { s with suspended := true }

/-- The cases are the calls, and those that take the mutex have found it
free. -/
theorem steps {call : Call} (h : step kernel dt s call = some s') :
    Steps kernel dt s call s' := by
  unfold step at h
  by_cases hwait : call.locks = true ∧ s.lock = true
  · rw [if_pos hwait] at h
    cases h
  · rw [if_neg hwait] at h
    have hlock : call.locks = true → s.lock = false := fun hlocks => by
      cases hs : s.lock with
      | false => rfl
      | true => exact absurd ⟨hlocks, hs⟩ hwait
    cases call with
    | openHandle handle =>
      cases h
      exact .openHandle handle (hlock rfl)
    | setFormat c =>
      cases h
      exact .setFormat c (hlock rfl)
    | sStream enable a =>
      cases h
      exact .sStream enable a (hlock rfl) (streamed kernel dt s enable a)
    | setCtrl ctrl value =>
      cases h
      exact .setCtrl ctrl value
    | suspend =>
      by_cases hsuspend : s.usageCount = 0 ∧ s.suspended = false
      · simp only [if_pos hsuspend] at h
        cases h
        exact .suspend hsuspend.1 hsuspend.2
      · simp only [if_neg hsuspend] at h
        cases h

/-! ## The mutex

`lock` is true exactly behind a format that was refused: these are the returns
ahead of the one `mutex_unlock`. Every other call gives the mutex back, and a
call that takes it then returns. So that a thread waits for ever has nothing to
do with the order of the calls, but for this one. -/

/-- The stream gives the mutex back, however it ends. -/
theorem Streamed.lock {enable : Bool} {a : StreamAnswers} {r : State × Bool}
    (h : Streamed dt s enable a r) : r.1.lock = s.lock := by
  cases h <;> rfl

/-- One call leaves the mutex taken if it was, or if it is a format that is
refused. -/
theorem lock_step {call : Call} (h : step kernel dt s call = some s') :
    s'.lock = true ↔ s.lock = true ∨ ∃ c, call = .setFormat c ∧ c.Fails := by
  have hno : ∀ call : Call, (∀ c, call ≠ .setFormat c) → ¬ ∃ c, call = .setFormat c ∧ c.Fails :=
    fun _ hcall ⟨c, hc, _⟩ => hcall c hc
  cases steps h with
  | openHandle handle hlock =>
    rw [(formatted kernel.toNearestSize _ s).lock, hlock]
    simp [initCfg, FormatCall.Fails]
  | setFormat c hlock =>
    rw [(formatted kernel.toNearestSize c s).lock, hlock]
    simp
  | sStream enable a hlock hr => rw [hr.lock, or_iff_left (hno (.sStream enable a) fun _ => nofun)]
  | setCtrl ctrl value => rw [or_iff_left (hno (.setCtrl ctrl value) fun _ => nofun)]
  | suspend => rw [or_iff_left (hno .suspend fun _ => nofun)]

/-- A run leaves the mutex taken if there is such a call in it. -/
theorem lock_run {es : List Call} (hrun : Run (step kernel dt) always s es s') :
    s'.lock = true ↔ s.lock = true ∨ ∃ c, .setFormat c ∈ es ∧ c.Fails := by
  induction hrun with
  | nil s => simp
  | cons _ hstep _ ih =>
    rw [ih, lock_step hstep, or_assoc]
    refine or_congr_right ⟨?_, ?_⟩
    · rintro (⟨c, rfl, hc⟩ | ⟨c, hmem, hc⟩)
      · exact ⟨c, List.mem_cons_self, hc⟩
      · exact ⟨c, List.mem_cons_of_mem _ hmem, hc⟩
    · rintro ⟨c, hmem, hc⟩
      rcases List.mem_cons.mp hmem with heq | hmem
      · exact .inl ⟨c, heq.symm, hc⟩
      · exact .inr ⟨c, hmem, hc⟩

/-- **A call that waits for the mutex waits for ever** once a format has not been
taken, and otherwise every call returns, whatever else has failed. -/
theorem returns_iff (pads : ℕ → Pad) {es : List Call}
    (hrun : Run (step kernel dt) always (State.probed kernel pads) es s) {call : Call}
    (hcall : call.locks = true) :
    (∃ s', step kernel dt s call = some s') ↔ ∀ c, .setFormat c ∈ es → ¬ c.Fails := by
  have hlock : s.lock = true ↔ ∃ c, .setFormat c ∈ es ∧ c.Fails := by
    rw [lock_run hrun]
    exact or_iff_right Bool.false_ne_true
  constructor
  · rintro ⟨s', h⟩ c hmem hc
    unfold step at h
    rw [if_pos ⟨hcall, hlock.mpr ⟨c, hmem, hc⟩⟩] at h
    cases h
  · intro h
    have hfree : ¬ (call.locks = true ∧ s.lock = true) := fun ⟨_, htrue⟩ =>
      let ⟨c, hmem, hc⟩ := hlock.mp htrue
      h c hmem hc
    unfold step
    rw [if_neg hfree]
    cases call with
    | openHandle | setFormat | sStream => exact ⟨_, rfl⟩
    | setCtrl | suspend => cases hcall

/-- The kernel's search, which takes the first of the nearest. -/
def firstNearest : NearestSize where
  find width height :=
    (modeInfoData.argmin (ModeInfo.distance width height)).getD ⟨0, 0, 0, 0, 0⟩
  mem width height := by
    cases hmin : modeInfoData.argmin (ModeInfo.distance width height) with
    | none => cases List.argmin_eq_none.mp hmin
    | some mode => exact List.argmin_mem hmin
  least width height _ _ mode hmem := by
    cases hmin : modeInfoData.argmin (ModeInfo.distance width height) with
    | none => cases List.argmin_eq_none.mp hmin
    | some best => exact List.le_of_mem_argmin hmem hmin

/-- A kernel that does what is documented, and takes a number that is not in the
range for the nearest that is. -/
def plainKernel : Kernel where
  toNearestSize := firstNearest
  validate config value :=
    match config.type with
    | .integer =>
      if config.min ≤ config.max then some (max config.min (min config.max value.toNat)) else none
    | .boolean => some (if value = 0 then 0 else 1)
    | .integerMenu =>
      if value < config.min ∨ config.max < value then none
      else if config.menuSkipMask.testBit value.toNat then none
      else some value.toNat
  integer config value n htype h := by
    rw [htype] at h
    dsimp only at h
    split at h
    · next hrange =>
      cases h
      exact ⟨le_max_left _ _, max_le hrange (min_le_left _ _)⟩
    · cases h
  boolean config value htype := by rw [htype]
  integerMenu config value n htype := by
    rw [htype]
    dsimp only
    by_cases hrange : value < config.min ∨ (config.max : ℤ) < value
    · rw [if_pos hrange]
      exact ⟨nofun, fun ⟨hvalue, hmin, hmax, _⟩ => by omega⟩
    · obtain ⟨m, rfl⟩ : ∃ m : ℕ, value = m := ⟨value.toNat, by omega⟩
      rw [if_neg hrange, Int.toNat_natCast, Nat.cast_inj]
      by_cases hmask : config.menuSkipMask.testBit m = true
      · rw [if_pos hmask]
        refine ⟨nofun, fun ⟨hvalue, _, _, hskip⟩ => ?_⟩
        rw [hvalue, hskip] at hmask
        cases hmask
      · rw [if_neg hmask, Option.some_inj]
        refine ⟨fun hvalue => ⟨hvalue, by omega, by omega, ?_⟩, And.left⟩
        rw [← hvalue]
        exact Bool.eq_false_iff.mpr hmask
  getSync p resumes powered :=
    { power := ⟨p.usageCount + 1, p.suspended && !(resumes && powered)⟩
      calls := resumes && p.suspended, returns := resumes && (!p.suspended || powered) }
  put p := { p with usageCount := p.usageCount - 1 }
  putNoidle p := { p with usageCount := p.usageCount - 1 }
  usageCount_getSync _ _ _ := rfl
  suspended_getSync _ _ _ := rfl
  calls_getSync _ _ _ := rfl
  returns_getSync _ _ _ := rfl
  usageCount_put _ := rfl
  suspended_put _ := rfl
  usageCount_putNoidle _ := rfl
  suspended_putNoidle _ := rfl

/-- The last call of a run asks for a format, and the control for the frequency
is not set. -/
theorem returns_iff_plainKernel :
    ∃ es, ∃ s : State,
      Run (step plainKernel ⟨2, false⟩) always
          (State.probed plainKernel fun _ => ⟨⟨0, 0, 0⟩, (0, 0)⟩) es s
        ∧ s.lock = true
        ∧ ((∃ s', step plainKernel ⟨2, false⟩ s (.openHandle 1) = some s')
          ↔ ∀ c, .setFormat c ∈ es → ¬ c.Fails) :=
  have hrun := run_iff_exec.mpr
    (rfl : exec (step plainKernel ⟨2, false⟩)
        (State.probed plainKernel fun _ => ⟨⟨0, 0, 0⟩, (0, 0)⟩)
      [.openHandle 0, .setFormat { which := .active, handle := 0, width := 1024, height := 512 },
        .sStream true {},
        .setFormat
          { which := .active, handle := 0, width := 2048, height := 512, freqSet := false }]
      = some _)
  ⟨_, _, hrun, rfl, returns_iff _ hrun rfl⟩

/-! ## The format that is reported

`fmt` follows every format that is taken, and `current_mode` those that are made
active. A format names its mode, as no two modes have the same one; so the two
agree exactly if the last mode of the one kind is the last of the other. -/

/-- The mode that a call asks for, in whatever way. -/
def Call.tried (nearest : NearestSize) : Call → Option ModeInfo
  | .openHandle handle => some (nearest.mode (initCfg .trial handle))
  | .setFormat c => if c.Fails then none else some (nearest.mode c)
  | _ => none

/-- The mode that a call makes the active one. -/
def Call.activated (nearest : NearestSize) : Call → Option ModeInfo
  | .setFormat c => if ¬ c.Fails ∧ c.which = .active then some (nearest.mode c) else none
  | _ => none

/-- The last of the modes that are found in the calls, or that of the probe. -/
def lastMode (nearest : NearestSize) (mode : Call → Option ModeInfo) (es : List Call) : ModeInfo :=
  (es.filterMap mode).getLast?.getD (nearest.find 512 512)

/-- A call changes the format that is reported if it asks for a mode, and to
that mode's. -/
theorem fmt_step {call : Call} (h : step kernel dt s call = some s') :
    s'.fmt = ((call.tried kernel.toNearestSize).map ModeInfo.format).getD s.fmt := by
  cases steps h with
  | openHandle handle _ =>
    rw [(formatted kernel.toNearestSize _ s).fmt, if_neg (by simp [initCfg, FormatCall.Fails])]
    rfl
  | setFormat c _ =>
    rw [(formatted kernel.toNearestSize c s).fmt, Call.tried]
    split <;> rfl
  | sStream enable a _ hr => cases hr <;> rfl
  | setCtrl ctrl value => rfl
  | suspend => rfl

/-- A call changes the mode the driver runs in if it makes one active. -/
theorem currentMode_step {call : Call} (h : step kernel dt s call = some s') :
    s'.currentMode = (call.activated kernel.toNearestSize).getD s.currentMode := by
  cases steps h with
  | openHandle handle _ =>
    rw [(formatted kernel.toNearestSize _ s).currentMode, if_neg (by simp [initCfg])]
    rfl
  | setFormat c _ =>
    rw [(formatted kernel.toNearestSize c s).currentMode, Call.activated]
    split <;> rfl
  | sStream enable a _ hr => cases hr <;> rfl
  | setCtrl ctrl value => rfl
  | suspend => rfl

/-- The last value that the steps of a run set. -/
theorem last_run {β : Type} (value : Call → Option β) (field : State → β)
    (hstep : ∀ s call s', step kernel dt s call = some s' →
      field s' = (value call).getD (field s)) {es : List Call}
    (hrun : Run (step kernel dt) always s es s') :
    field s' = (es.filterMap value).getLast?.getD (field s) := by
  induction hrun with
  | nil s => rfl
  | @cons s _ _ call es _ h _ ih =>
    rw [ih, hstep _ _ _ h]
    cases hvalue : value call with
    | none => rw [List.filterMap_cons_none hvalue]; rfl
    | some b =>
      rw [List.filterMap_cons_some hvalue, List.getLast?_cons]
      rfl

/-- No two modes have one format. -/
theorem format_inj : ∀ mode ∈ modeInfoData, ∀ other ∈ modeInfoData,
    mode.format = other.format → mode = other := by
  decide

/-- It is one of the modes, as all that are found are. -/
theorem lastMode_mem {mode : Call → Option ModeInfo}
    (hmode : ∀ call m, mode call = some m → m ∈ modeInfoData) (es : List Call) :
    lastMode nearest mode es ∈ modeInfoData := by
  unfold lastMode
  cases hlast : (es.filterMap mode).getLast? with
  | none => exact nearest.mem _ _
  | some m =>
    obtain ⟨call, _, hcall⟩ := List.mem_filterMap.mp (List.mem_of_getLast? hlast)
    exact hmode call m hcall

/-- **The driver reports the mode it runs in** exactly if the mode asked for last,
be it to try it or by opening a file handle, is the one last made active. -/
theorem getFormat_eq_iff (pads : ℕ → Pad) {es : List Call}
    (hrun : Run (step kernel dt) always (State.probed kernel pads) es s) (handle : ℕ) :
    s.currentMode = lastMode kernel.toNearestSize (Call.activated kernel.toNearestSize) es
      ∧ (s.getFormat .active handle = some s.currentMode.format
        ↔ lastMode kernel.toNearestSize (Call.tried kernel.toNearestSize) es
          = lastMode kernel.toNearestSize (Call.activated kernel.toNearestSize) es) := by
  have hmode : s.currentMode
      = lastMode kernel.toNearestSize (Call.activated kernel.toNearestSize) es :=
    last_run (Call.activated kernel.toNearestSize) State.currentMode
      (fun _ _ _ => currentMode_step) hrun
  have hfmt : s.fmt
      = (lastMode kernel.toNearestSize (Call.tried kernel.toNearestSize) es).format := by
    have hlast := last_run (fun call => (call.tried kernel.toNearestSize).map ModeInfo.format)
      State.fmt (fun _ _ _ => fmt_step) hrun
    rw [hlast, lastMode, ← List.map_filterMap, List.getLast?_map]
    exact Option.getD_map _ _ _
  have htried : lastMode kernel.toNearestSize (Call.tried kernel.toNearestSize) es ∈ modeInfoData :=
    lastMode_mem (fun call m h => by
      cases call with
      | openHandle handle => exact Option.some.inj h ▸ kernel.mem _ _
      | setFormat c =>
        rw [Call.tried] at h
        split at h
        · cases h
        · exact Option.some.inj h ▸ kernel.mem _ _
      | sStream | setCtrl | suspend => cases h) es
  have hactivated :
      lastMode kernel.toNearestSize (Call.activated kernel.toNearestSize) es ∈ modeInfoData :=
    lastMode_mem (fun call m h => by
      cases call with
      | setFormat c =>
        rw [Call.activated] at h
        split at h
        · exact Option.some.inj h ▸ kernel.mem _ _
        · cases h
      | openHandle | sStream | setCtrl | suspend => cases h) es
  refine ⟨hmode, ?_⟩
  rw [State.getFormat, hmode, hfmt, Option.some_inj]
  exact ⟨format_inj _ htried _ hactivated, congrArg ModeInfo.format⟩

/-- A mode is made active, and another one tried behind it. -/
theorem getFormat_eq_iff_plainKernel :
    ∃ es, ∃ s : State,
      Run (step plainKernel ⟨2, false⟩) always
          (State.probed plainKernel fun _ => ⟨⟨0, 0, 0⟩, (0, 0)⟩) es s
        ∧ s.currentMode.width = 1024 ∧ s.getFormat .active 0 = some ⟨512, 512, 0x3008⟩
        ∧ (s.currentMode
            = lastMode plainKernel.toNearestSize (Call.activated plainKernel.toNearestSize) es
          ∧ (s.getFormat .active 0 = some s.currentMode.format
            ↔ lastMode plainKernel.toNearestSize (Call.tried plainKernel.toNearestSize) es
              = lastMode plainKernel.toNearestSize
                (Call.activated plainKernel.toNearestSize) es)) :=
  have hrun := run_iff_exec.mpr
    (rfl : exec (step plainKernel ⟨2, false⟩)
        (State.probed plainKernel fun _ => ⟨⟨0, 0, 0⟩, (0, 0)⟩)
      [.setFormat { which := .active, handle := 0, width := 1024, height := 512 }, .sStream true {},
        .openHandle 1] = some _)
  ⟨_, _, hrun, rfl, rfl, getFormat_eq_iff _ hrun 0⟩

/-! ## The stream

The counter, the power and the command of the imager go with `streaming`. That
the counter is exact is what keeps the device awake while it streams: only a
device without users is suspended.

The other direction fails in one case. A stream is counted as stopped even if
the command to stop is not written, and the imager then runs on. This is a fact
about the past again, and is found by going back in the run to the last step
that has changed the command (`runaway_run`). -/

/-- What goes with `streaming`. -/
structure Counted (s : State) : Prop where
  /-- The stream is the one user. -/
  usageCount : s.usageCount = if s.streaming = true then 1 else 0
  /-- The device is awake while it streams, … -/
  suspended : s.streaming = true → s.suspended = false
  /-- … and has been told to. -/
  stream : s.streaming = true → s.imager.stream = some STREAM_ON

/-- It is a matter of these four fields. -/
theorem Counted.congr (hs : Counted s) (hstreaming : s'.streaming = s.streaming)
    (husage : s'.usageCount = s.usageCount) (hsuspended : s'.suspended = s.suspended)
    (himager : s'.imager = s.imager) : Counted s' := by
  refine ⟨?_, ?_, ?_⟩
  · rw [husage, hstreaming, hs.usageCount]
  · rw [hsuspended, hstreaming]
    exact hs.suspended
  · rw [himager, hstreaming]
    exact hs.stream

/-- A format does not change them. -/
theorem Counted.formatted (hs : Counted s) (c : FormatCall) :
    Counted (s.setFormat nearest c).1 :=
  have h := Adsd3500.formatted nearest c s
  hs.congr h.streaming h.usageCount h.suspended h.imager

/-- Without a stream and a user nothing has to be shown. -/
theorem Counted.idle {t : State} (hstreaming : t.streaming = false) (husage : t.usageCount = 0) :
    Counted t := by
  refine ⟨?_, fun h => ?_, fun h => ?_⟩
  · rw [husage, hstreaming]
    rfl
  · cases hstreaming.symm.trans h
  · cases hstreaming.symm.trans h

/-- **The cases of the stream.** Where it was not on there were no users, and
there is one if it is on now. -/
theorem Counted.streamed {enable : Bool} {a : StreamAnswers} {r : State × Bool} (hs : Counted s)
    (h : Streamed dt s enable a r) : Counted r.1 := by
  have husage (hstreaming : s.streaming = false) : s.usageCount = 0 := by
    rw [hs.usageCount, hstreaming]
    rfl
  cases h with
  | same => exact hs
  | stopped _ hstreaming =>
    refine .idle rfl ?_
    rw [State.stopped, hs.usageCount, hstreaming]
    rfl
  | failed => exact hs
  | woken _ hstreaming => exact .idle hstreaming (husage hstreaming)
  | started _ hstreaming hsuspended =>
    exact ⟨congrArg (· + 1) (husage hstreaming), fun _ => hsuspended, fun _ => rfl⟩
  | wokenStarted _ hstreaming =>
    exact ⟨congrArg (· + 1) (husage hstreaming), fun _ => rfl, fun _ => rfl⟩

/-- One call. -/
theorem counted_step {call : Call} (hs : Counted s) (h : step kernel dt s call = some s') :
    Counted s' := by
  cases steps h with
  | openHandle handle _ => exact hs.formatted _
  | setFormat c _ => exact hs.formatted c
  | sStream enable a _ hr => exact hs.streamed hr
  | setCtrl ctrl value => exact hs.congr rfl rfl rfl rfl
  | suspend hunused _ =>
    refine .idle ?_ hunused
    have husage := hs.usageCount
    rw [hunused] at husage
    cases hstreaming : s.streaming with
    | false => rfl
    | true =>
      rw [hstreaming] at husage
      cases husage

/-- A run. -/
theorem counted_run (pads : ℕ → Pad) {es : List Call}
    (hrun : Run (step kernel dt) always (State.probed kernel pads) es s) : Counted s :=
  hrun.invariant (fun _ _ _ hs _ h => counted_step hs h) (.idle rfl rfl)

/-- A command to stop that is not written is all that leaves the imager running. -/
theorem runaway_step {call : Call} (h : step kernel dt s call = some s')
    (hs' : s'.streaming = false) (hstream : s'.imager.stream = some STREAM_ON) :
    (s.streaming = false ∧ s.imager.stream = some STREAM_ON)
      ∨ ∃ a : StreamAnswers, call = .sStream false a ∧ a.written = false := by
  cases steps h with
  | openHandle handle _ =>
    have h := formatted kernel.toNearestSize (initCfg .trial handle) s
    exact .inl ⟨h.streaming ▸ hs', h.imager ▸ hstream⟩
  | setFormat c _ =>
    have h := formatted kernel.toNearestSize c s
    exact .inl ⟨h.streaming ▸ hs', h.imager ▸ hstream⟩
  | sStream enable a _ hr =>
    cases hr with
    | same | failed => exact .inl ⟨hs', hstream⟩
    | woken => exact .inl ⟨hs', hstream⟩
    | started | wokenStarted => cases hs'
    | stopped henable =>
      subst henable
      refine .inr ⟨a, rfl, Bool.eq_false_iff.mpr fun hwritten => ?_⟩
      rw [State.stopped, hwritten, if_pos rfl] at hstream
      have hequal : STREAM_OFF = STREAM_ON := Option.some.inj hstream
      exact absurd hequal (by decide)
  | setCtrl ctrl value => exact .inl ⟨hs', hstream⟩
  | suspend => exact .inl ⟨hs', hstream⟩

/-- Behind a run that leaves the imager running, there was a call to stop whose
command was not written. -/
theorem runaway_run (pads : ℕ → Pad) {es : List Call}
    (hrun : Run (step kernel dt) always (State.probed kernel pads) es s)
    (hs : s.streaming = false) (hstream : s.imager.stream = some STREAM_ON) :
    ∃ a : StreamAnswers, .sStream false a ∈ es ∧ a.written = false := by
  induction es using List.reverseRecOn generalizing s with
  | nil =>
    cases hrun
    cases hstream
  | append_singleton es call ih =>
    obtain ⟨s₁, hrun₁, -, h⟩ := hrun.of_snoc
    rcases runaway_step h hs hstream with ⟨hs₁, hstream₁⟩ | ⟨a, rfl, hwritten⟩
    · obtain ⟨a, hmem, hwritten⟩ := ih hrun₁ hs₁ hstream₁
      exact ⟨a, List.mem_append_left _ hmem, hwritten⟩
    · exact ⟨a, List.mem_append_right _ (List.mem_singleton_self _), hwritten⟩

/-- **The device is in use exactly while it streams**, and then it is awake. The
imager runs on after the stream has been stopped only if a command to stop has
not been written. -/
theorem stream_run (pads : ℕ → Pad) {es : List Call}
    (hrun : Run (step kernel dt) always (State.probed kernel pads) es s) :
    s.usageCount = (if s.streaming = true then 1 else 0)
      ∧ (s.streaming = true → s.suspended = false ∧ s.imager.stream = some STREAM_ON)
      ∧ (s.streaming = false → s.imager.stream = some STREAM_ON →
        ∃ a : StreamAnswers, .sStream false a ∈ es ∧ a.written = false) := by
  have hcounted := counted_run pads hrun
  exact ⟨hcounted.usageCount, fun hs => ⟨hcounted.suspended hs, hcounted.stream hs⟩,
    runaway_run pads hrun⟩

/-- The command to stop is not written, and the imager runs on. -/
theorem stream_run_plainKernel :
    ∃ es, ∃ s : State,
      Run (step plainKernel ⟨2, false⟩) always
          (State.probed plainKernel fun _ => ⟨⟨0, 0, 0⟩, (0, 0)⟩) es s
        ∧ s.streaming = false ∧ s.imager.stream = some STREAM_ON
        ∧ (s.usageCount = (if s.streaming = true then 1 else 0)
          ∧ (s.streaming = true → s.suspended = false ∧ s.imager.stream = some STREAM_ON)
          ∧ (s.streaming = false → s.imager.stream = some STREAM_ON →
            ∃ a : StreamAnswers, .sStream false a ∈ es ∧ a.written = false)) :=
  have hrun := run_iff_exec.mpr
    (rfl : exec (step plainKernel ⟨2, false⟩)
        (State.probed plainKernel fun _ => ⟨⟨0, 0, 0⟩, (0, 0)⟩)
      [.sStream true { powered := false }, .sStream true {}, .sStream true {},
        .sStream false { written := false }, .suspend] = some _)
  ⟨_, _, hrun, rfl, rfl, stream_run _ hrun⟩

/-! ## Waking up

The only step after which the device is awake, and was not, is a call to start a
stream. For the mode this is all there is to know: no other step writes it. -/

/-- **Whether a step wakes the device up.** If it does not, and does not suspend
it, the imager keeps its mode. -/
theorem wakes_step {call : Call} (h : step kernel dt s call = some s')
    (hs' : s'.suspended = false) :
    (s.suspended = false ∧ call ≠ .suspend ∧ s'.imager.mode = s.imager.mode)
      ∨ ∃ a : StreamAnswers, call = .sStream true a ∧ s.suspended = true ∧ s.streaming = false
        ∧ a.resumes = true := by
  cases steps h with
  | openHandle handle _ =>
    have h := formatted kernel.toNearestSize (initCfg .trial handle) s
    exact .inl ⟨h.suspended ▸ hs', nofun, congrArg Imager.mode h.imager⟩
  | setFormat c _ =>
    have h := formatted kernel.toNearestSize c s
    exact .inl ⟨h.suspended ▸ hs', nofun, congrArg Imager.mode h.imager⟩
  | sStream enable a _ hr =>
    cases hr with
    | same | failed => exact .inl ⟨hs', nofun, rfl⟩
    | started => exact .inl ⟨hs', nofun, rfl⟩
    | stopped =>
      refine .inl ⟨hs', nofun, ?_⟩
      rw [State.stopped]
      split <;> rfl
    | woken henable hstreaming hsuspended hresumes =>
      subst henable
      exact .inr ⟨a, rfl, hsuspended, hstreaming, hresumes⟩
    | wokenStarted henable hstreaming hsuspended hresumes =>
      subst henable
      exact .inr ⟨a, rfl, hsuspended, hstreaming, hresumes⟩
  | setCtrl ctrl value => exact .inl ⟨hs', nofun, rfl⟩
  | suspend => cases hs'

/-! ## What the mode tells

The fields are pairwise apart and within 16 bits, and each value fits into its
field; so every field can be read back from the word. That the values fit
depends on the kernel, which lets no others through, and is an invariant of runs
(`valid_run`). -/

/-- No two fields have a bit in common. -/
theorem modeFields_apart (dt : DeviceTree) (controls : Controls) :
    (modeFields dt controls).Pairwise fun field other => BitField.Apart field.1 other.1 := by
  have hfields : ((modeFields dt controls).map Prod.fst).Pairwise BitField.Apart := by
    unfold modeFields
    simp only [List.map_cons, List.map_nil]
    decide
  exact List.pairwise_map.mp hfields

/-- **A field of the word that is written** holds what was put there. -/
theorem get_modeWords {controls : Controls} {f : BitField} {n : ℕ}
    (hmem : (f, BitVec.ofNat 32 n) ∈ modeFields dt controls) (hwithin : f.Within 16)
    (hn : n < 2 ^ f.width) : f.get (modeWords dt controls).2 = BitVec.ofNat 16 n := by
  have hwidth : f.width ≤ 16 := le_trans (Nat.le_add_left _ _) hwithin
  have hn16 : n < 2 ^ 16 := lt_of_lt_of_le hn (Nat.pow_le_pow_right (by decide) hwidth)
  have hfits : f.Fits (BitVec.ofNat 32 n) := lt_of_le_of_lt (Nat.mod_le _ _) hn
  rw [modeWords, BitField.get_setWidth hwithin (by decide),
    BitField.get_pack (modeFields_apart dt controls) hmem (le_trans hwithin (by decide)) hfits
      (by simp [BitField.get])]
  exact BitVec.setWidth_ofNat_of_le (by decide) n

/-- The command of the mode. -/
theorem get_modeWords_mode {controls : Controls} (hmode : controls.operatingMode < 2 ^ 8) :
    SET_IMAGER_MODE_MSK.get (modeWords dt controls).1 = BitVec.ofNat 16 controls.operatingMode := by
  have hfits : SET_IMAGER_MODE_MSK.Fits (BitVec.ofNat 32 controls.operatingMode) :=
    lt_of_le_of_lt (Nat.mod_le _ _) hmode
  have hzero : SET_IMAGER_MODE_MSK.get 0xDA00#32 = 0#32 := by decide
  rw [modeWords, BitField.get_setWidth (by decide) (by decide), BitField.get_or, hzero,
    BitField.get_prep (by decide) hfits, BitVec.zero_or]
  exact BitVec.setWidth_ofNat_of_le (by decide) _

/-- **The values that the driver's controls can have.** -/
structure Controls.Valid (controls : Controls) : Prop where
  /-- The mode is one of eleven. -/
  operatingMode : controls.operatingMode ≤ 10
  /-- The depth has an item from 2 to 6. -/
  nrDepthBits : 2 ≤ controls.nrDepthBits ∧ controls.nrDepthBits ≤ 6
  /-- The active brightness has an item up to 6, and not the item 1. -/
  nrAbBits : controls.nrAbBits ≤ 6 ∧ controls.nrAbBits ≠ 1
  /-- The confidence has an item up to 2. -/
  nrConfidenceBits : controls.nrConfidenceBits ≤ 2
  /-- A switch. -/
  abAvg : controls.abAvg ≤ 1
  /-- A switch. -/
  depthEn : controls.depthEn ≤ 1

/-- The code of a number of bits has three bits itself. -/
theorem bitsCode_lt (item : ℕ) : bitsCode item < 2 ^ 3 := by
  unfold bitsCode
  split <;> omega

/-- Numbers that fit are told by their words. -/
theorem ofNat_inj {m n : ℕ} (hm : m < 2 ^ 16) (hn : n < 2 ^ 16)
    (h : BitVec.ofNat 16 m = BitVec.ofNat 16 n) : m = n := by
  have hmod := congrArg BitVec.toNat h
  rwa [BitVec.toNat_ofNat, BitVec.toNat_ofNat, Nat.mod_eq_of_lt hm, Nat.mod_eq_of_lt hn] at hmod

/-- The words tell the controls, field by field. The first item and the last
have the same code; for the depth the first is not let through, and for the
active brightness the word has a switch. -/
theorem controls_eq_of_modeWords {controls controls' : Controls} (hvalid : controls.Valid)
    (hvalid' : controls'.Valid) (h : modeWords dt controls = modeWords dt controls') :
    controls = controls' := by
  have hfield (f : BitField) {m n : ℕ} (hm : (f, BitVec.ofNat 32 m) ∈ modeFields dt controls)
      (hn : (f, BitVec.ofNat 32 n) ∈ modeFields dt controls') (hwithin : f.Within 16)
      (hmlt : m < 2 ^ f.width) (hnlt : n < 2 ^ f.width) : m = n := by
    have hpow : 2 ^ f.width ≤ 2 ^ 16 :=
      Nat.pow_le_pow_right (by decide) (le_trans (Nat.le_add_left _ _) hwithin)
    refine ofNat_inj (by omega) (by omega) ?_
    rw [← get_modeWords hm hwithin hmlt, ← get_modeWords hn hwithin hnlt, h]
  obtain ⟨hmode, ⟨hdepth₂, hdepth₆⟩, ⟨hab₆, hab₁⟩, hconf, havg, hen⟩ := hvalid
  obtain ⟨hmode', ⟨hdepth₂', hdepth₆'⟩, ⟨hab₆', hab₁'⟩, hconf', havg', hen'⟩ := hvalid'
  have hmodes : controls.operatingMode = controls'.operatingMode := by
    refine ofNat_inj (by omega) (by omega) ?_
    have hget := @get_modeWords_mode dt controls (by omega)
    have hget' := @get_modeWords_mode dt controls' (by omega)
    rw [← hget, ← hget', h]
  have hdepth : bitsCode controls.nrDepthBits = bitsCode controls'.nrDepthBits :=
    hfield SET_IMAGER_MODE_DEPTH_BITS_MSK (by simp [modeFields]) (by simp [modeFields]) (by decide)
      (bitsCode_lt _) (bitsCode_lt _)
  have habEn : (if controls.nrAbBits ≠ 0 then 1 else 0) = if controls'.nrAbBits ≠ 0 then 1 else 0 :=
    hfield SET_IMAGER_MODE_AB_EN_MSK (by simp [modeFields]) (by simp [modeFields]) (by decide)
      (by split <;> decide) (by split <;> decide)
  have hab : bitsCode controls.nrAbBits = bitsCode controls'.nrAbBits :=
    hfield SET_IMAGER_MODE_AB_BITS_MSK (by simp [modeFields]) (by simp [modeFields]) (by decide)
      (bitsCode_lt _) (bitsCode_lt _)
  have hconfs : controls.nrConfidenceBits = controls'.nrConfidenceBits :=
    hfield SET_IMAGER_MODE_CONF_BITS_MSK (by simp [modeFields]) (by simp [modeFields]) (by decide)
      (Nat.lt_of_le_of_lt hconf (by decide)) (Nat.lt_of_le_of_lt hconf' (by decide))
  have havgs : controls.abAvg = controls'.abAvg :=
    hfield SET_IMAGER_MODE_AB_AVG_EN_MSK (by simp [modeFields]) (by simp [modeFields]) (by decide)
      (Nat.lt_of_le_of_lt havg (by decide)) (Nat.lt_of_le_of_lt havg' (by decide))
  have hens : controls.depthEn = controls'.depthEn :=
    hfield SET_IMAGER_MODE_DEPTH_EN_MSK (by simp [modeFields]) (by simp [modeFields]) (by decide)
      (Nat.lt_of_le_of_lt hen (by decide)) (Nat.lt_of_le_of_lt hen' (by decide))
  have hdepths : controls.nrDepthBits = controls'.nrDepthBits := by
    unfold bitsCode at hdepth
    split at hdepth <;> split at hdepth <;> omega
  have habs : controls.nrAbBits = controls'.nrAbBits := by
    unfold bitsCode at hab
    split at hab <;> split at hab <;> split at habEn <;> omega
  obtain ⟨mode, depth, ab, conf, avg, en⟩ := controls
  exact Controls.mk.injEq _ _ _ _ _ _ _ _ _ _ _ _ ▸ ⟨hmodes, hdepths, habs, hconfs, havgs, hens⟩

/-- A value that is taken is one the control can have. -/
theorem Controls.Valid.sCtrl {controls : Controls} (hvalid : controls.Valid) {core : ControlCore}
    {ctrl : Ctrl} {value : ℤ} {n : ℕ} (h : core.validate ctrl.config value = some n) :
    (controls.sCtrl n ctrl).Valid := by
  obtain ⟨hmode, hdepth, hab, hconf, havg, hen⟩ := hvalid
  have hswitch {config : CtrlConfig} (htype : config.type = .boolean)
      (h : core.validate config value = some n) : n ≤ 1 := by
    rw [core.boolean config value htype] at h
    cases h
    split <;> decide
  cases ctrl with
  | operatingMode =>
    exact ⟨(core.integer _ _ _ rfl h).2, hdepth, hab, hconf, havg, hen⟩
  | depthBits =>
    obtain ⟨-, hlow, hhigh, -⟩ := (core.integerMenu _ _ _ rfl).mp h
    exact ⟨hmode, ⟨hlow, hhigh⟩, hab, hconf, havg, hen⟩
  | abBits =>
    obtain ⟨-, -, hhigh, hmask⟩ := (core.integerMenu _ _ _ rfl).mp h
    refine ⟨hmode, hdepth, ⟨hhigh, ?_⟩, hconf, havg, hen⟩
    rintro rfl
    revert hmask
    decide
  | confidenceBits =>
    obtain ⟨-, -, hhigh, -⟩ := (core.integerMenu _ _ _ rfl).mp h
    exact ⟨hmode, hdepth, hab, hhigh, havg, hen⟩
  | abAvg => exact ⟨hmode, hdepth, hab, hconf, hswitch rfl h, hen⟩
  | depthEn => exact ⟨hmode, hdepth, hab, hconf, havg, hswitch rfl h⟩

/-- A call keeps the controls valid, as only values that are let through are
set. -/
theorem valid_step {call : Call} (hs : s.controls.Valid)
    (h : step kernel dt s call = some s') : s'.controls.Valid := by
  cases steps h with
  | openHandle handle _ =>
    rw [(formatted kernel.toNearestSize (initCfg .trial handle) s).controls]
    exact hs
  | setFormat c _ =>
    rw [(formatted kernel.toNearestSize c s).controls]
    exact hs
  | sStream enable a _ hr => cases hr <;> exact hs
  | setCtrl ctrl value =>
    change (s.controls.set kernel.toControlCore ctrl value).1.Valid
    unfold Controls.set
    cases hvalue : kernel.validate ctrl.config value with
    | none => exact hs
    | some n => exact hs.sCtrl hvalue
  | suspend => exact hs

/-- What the probe leaves the controls with. -/
theorem Controls.valid_default : Controls.Valid {} :=
  ⟨by decide, by decide, by decide, by decide, by decide, by decide⟩

/-- The controls are valid in every state that is reached. -/
theorem valid_run {es : List Call}
    (hrun : Run (step kernel dt) always (State.probed kernel pads) es s) : s.controls.Valid :=
  hrun.invariant (I := fun s => s.controls.Valid) (fun _ _ _ hs _ h => valid_step hs h)
    Controls.valid_default

/-- **The mode tells everything of the controls**: whatever the driver's users have
done, the words it writes to the imager are the same only if all controls are. -/
theorem modeWords_inj {pads' : ℕ → Pad} {es es' : List Call}
    (hrun : Run (step kernel dt) always (State.probed kernel pads) es s)
    (hrun' : Run (step kernel dt) always (State.probed kernel pads') es' s') :
    modeWords dt s.controls = modeWords dt s'.controls ↔ s.controls = s'.controls :=
  ⟨controls_eq_of_modeWords (valid_run hrun) (valid_run hrun'), congrArg (modeWords dt)⟩

/-- Two runs that set different controls. -/
theorem modeWords_inj_plainKernel :
    ∃ es es', ∃ s s' : State,
      Run (step plainKernel ⟨4, true⟩) always
          (State.probed plainKernel fun _ => ⟨⟨0, 0, 0⟩, (0, 0)⟩) es s
        ∧ Run (step plainKernel ⟨4, true⟩) always
          (State.probed plainKernel fun _ => ⟨⟨0, 0, 0⟩, (0, 0)⟩) es' s'
        ∧ (modeWords ⟨4, true⟩ s.controls = modeWords ⟨4, true⟩ s'.controls
          ↔ s.controls = s'.controls) :=
  have hrun := run_iff_exec.mpr
    (rfl : exec (step plainKernel ⟨4, true⟩)
        (State.probed plainKernel fun _ => ⟨⟨0, 0, 0⟩, (0, 0)⟩)
      [.setCtrl .abBits 1, .setCtrl .depthBits 6] = some _)
  have hrun' := run_iff_exec.mpr
    (rfl : exec (step plainKernel ⟨4, true⟩)
        (State.probed plainKernel fun _ => ⟨⟨0, 0, 0⟩, (0, 0)⟩)
      [.setCtrl .operatingMode 12, .setCtrl .abAvg 7] = some _)
  ⟨_, _, _, _, hrun, hrun', modeWords_inj hrun hrun'⟩

end Adsd3500
