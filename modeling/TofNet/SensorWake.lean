import TofNet.ControlPackets
import TofNet.SensorDriverRuns

/-!
# Waking the sensor up

`adsd3500_power_on` makes the imager's mode of the controls. It copies three of
them with `current_config` and reads the others one by one, with transfers on the
bus in between, and it does so under the mutex of the device. The controls have
another mutex, that of their handler. So a control may be set while the mode is
being made, and the mode may then be one that the controls never had together.

Here the driver wakes the device up in steps, and any other call that can be made
meanwhile is made between them. With the mutex taken that is only the setting of a
control, or a packet that is passed on to the imager (`adsd3500_chip_config`). All
other calls are steps of `SensorDriver`.

`mode_run` is what remains true. The mode that the driver has written last is that
of the last start of a stream which found the device suspended and woke it up, and
each control is in it with a value that it had between the entry and the write.
What is set later does not reach the imager, over any stops and starts, until the
device has been suspended. Only the packets do, and they are counted in `passed`.

If no control is set while the device is being woken up, the steps may be taken for
one, and what `SensorDriverRuns` shows holds of the driver here (`drive_of_steps`).

What the mode was made of is a question about the past: which start woke the
device up, and what the controls were in between. So the proofs are inductions
on a run from its end. A step that keeps the mode is put behind what is known
(`Had.snoc`, `Reading.snoc`); a step that reads a control adds what the control
has just then; and the step that writes the mode turns what is known of a device
being woken up (`Reading`) into what is known of the last time it was
(`LastWake`).

That a control has had a value is said with a run to the state in which it had
it. The values of the mode need not be of one state: the last clause of
`mode_run` is that they are if no control has been set in between.
-/

namespace Adsd3500

open Machine

/-- The value of a control. -/
def Controls.get (controls : Controls) : Ctrl → ℕ
  | .operatingMode => controls.operatingMode
  | .depthBits => controls.nrDepthBits
  | .abBits => controls.nrAbBits
  | .confidenceBits => controls.nrConfidenceBits
  | .abAvg => controls.abAvg
  | .depthEn => controls.depthEn

/-- A control that is set has the value. -/
@[simp] theorem Controls.get_sCtrl_self (controls : Controls) (value : ℕ) (ctrl : Ctrl) :
    (controls.sCtrl value ctrl).get ctrl = value := by
  cases ctrl <;> rfl

/-- The others keep theirs. -/
theorem Controls.get_sCtrl_of_ne (controls : Controls) (value : ℕ) {ctrl other : Ctrl}
    (h : other ≠ ctrl) : (controls.sCtrl value ctrl).get other = controls.get other := by
  cases ctrl <;> cases other <;> first | rfl | exact absurd rfl h

/-- Controls are their values. -/
theorem Controls.ext_get {controls controls' : Controls}
    (h : ∀ ctrl, controls.get ctrl = controls'.get ctrl) : controls = controls' := by
  obtain ⟨mode, depth, ab, conf, avg, en⟩ := controls
  exact Controls.mk.injEq _ _ _ _ _ _ _ _ _ _ _ _ ▸
    ⟨h .operatingMode, h .depthBits, h .abBits, h .confidenceBits, h .abAvg, h .depthEn⟩

/-- What `adsd3500_power_on` reads, of which `current_config` is copied first. -/
def powerOnReads : List Ctrl :=
  [.depthBits, .abBits, .confidenceBits, .operatingMode, .depthEn, .abAvg]

/-- Every control is read. -/
theorem mem_powerOnReads (ctrl : Ctrl) : ctrl ∈ powerOnReads := by
  cases ctrl <;> decide

/-- **`adsd3500_power_on`, under way**: what is still to be read, and what has been
read. -/
structure PowerOn where
  /-- What the kernel answers. -/
  a : StreamAnswers
  /-- The controls that are still to be read. -/
  todo : List Ctrl
  /-- What has been read. -/
  values : Controls := {}

/-- **The driver**, while it may be in `adsd3500_power_on`, and the packets that
have been passed on to the imager since the mode was written last. -/
structure Driver extends State where
  /-- Where it is in `adsd3500_power_on`. -/
  powerOn : Option PowerOn := none
  /-- The packets passed on since the mode was written. -/
  passed : List Bytes := []

/-- A call, a step of `adsd3500_power_on`, or a packet for the imager. -/
inductive Event
  | call (c : Call)
  | powerOn (a : StreamAnswers)
  | read
  /-- The mode is written, and `adsd3500_s_stream` goes on to its end. What comes
  between the mode and the command for the stream may as well come behind both. -/
  | write
  | chipConfig (bus : ControlPackets.Bus) (new : CtrlPacket)

/-- The bytes that a packet passes on. -/
def Event.passes : Event → Option Bytes
  | .chipConfig bus new => (ControlPackets.chipConfig bus 0 new).bind Prod.snd
  | _ => none

/-- The call gets to `adsd3500_power_on`. -/
def State.wakes (s : State) : Call → Bool
  | .sStream enable a => enable && !s.streaming && s.suspended && a.resumes
  | _ => false

section Driver

variable (kernel : Kernel) (dt : DeviceTree)

/-- The end of `adsd3500_s_stream`, with the values that have been read. -/
def Driver.write (s : Driver) (p : PowerOn) : Driver :=
  let state := ({ s.toState with lock := false, controls := p.values }.sStream kernel dt true p.a).1
  { toState := { state with controls := s.controls }
    powerOn := none
    passed := if p.a.powered = true then [] else s.passed }

/-- **The driver, step by step.** -/
def drive : Machine Driver Event := fun s e =>
  match e with
  | .call c =>
    if s.wakes c = true then none
    else (step kernel dt s.toState c).map fun state => { s with toState := state }
  | .powerOn a =>
    if s.lock = false ∧ s.wakes (.sStream true a) = true then
      some { s with lock := true, powerOn := some { a, todo := powerOnReads } }
    else none
  | .read =>
    match s.powerOn with
    | some ⟨a, ctrl :: todo, values⟩ =>
      some { s with powerOn := some ⟨a, todo, values.sCtrl (s.controls.get ctrl) ctrl⟩ }
    | _ => none
  | .write =>
    match s.powerOn with
    | some ⟨a, [], values⟩ => some (s.write kernel dt ⟨a, [], values⟩)
    | _ => none
  | .chipConfig _ _ => some { s with passed := s.passed ++ e.passes.toList }

/-- The driver as `adsd3500_probe` leaves it. -/
def Driver.probed (pads : ℕ → Pad) : Driver := { toState := State.probed kernel pads }

end Driver

variable {kernel : Kernel} {dt : DeviceTree} {pads : ℕ → Pad} {s s' : Driver} {e : Event}

/-- A call gets to `adsd3500_power_on` if it starts a stream on a device that is
suspended and can be resumed. -/
theorem wakes_iff (s : State) (a : StreamAnswers) : s.wakes (.sStream true a) = true
    ↔ s.streaming = false ∧ s.suspended = true ∧ a.resumes = true := by
  simp [State.wakes, and_assoc]

/-! ## The steps

While the device is being woken up its mutex is taken, nothing streams, and it
is suspended; so a call that needs the mutex or an awake device cannot be made,
and what is left is the setting of a control. -/

/-- **A step of the driver**, with what it needs. -/
inductive Drives (kernel : Kernel) (dt : DeviceTree) (s : Driver) : Event → Driver → Prop
  | call (c : Call) (hwakes : s.wakes c = false) {state : State}
    (hstep : step kernel dt s.toState c = some state) :
    Drives kernel dt s (.call c) { s with toState := state }
  | powerOn (a : StreamAnswers) (hlock : s.lock = false) (hstreaming : s.streaming = false)
    (hsuspended : s.suspended = true) (hresumes : a.resumes = true) :
    Drives kernel dt s (.powerOn a)
      { s with lock := true, powerOn := some { a, todo := powerOnReads } }
  | read {a : StreamAnswers} {ctrl : Ctrl} {todo : List Ctrl} {values : Controls}
    (hpowerOn : s.powerOn = some ⟨a, ctrl :: todo, values⟩) :
    Drives kernel dt s .read
      { s with powerOn := some ⟨a, todo, values.sCtrl (s.controls.get ctrl) ctrl⟩ }
  | write {a : StreamAnswers} {values : Controls} (hpowerOn : s.powerOn = some ⟨a, [], values⟩) :
    Drives kernel dt s .write (s.write kernel dt ⟨a, [], values⟩)
  | chipConfig (bus : ControlPackets.Bus) (new : CtrlPacket) :
    Drives kernel dt s (.chipConfig bus new)
      { s with passed := s.passed ++ (Event.chipConfig bus new).passes.toList }

/-- The cases are the events. -/
theorem drives (h : drive kernel dt s e = some s') : Drives kernel dt s e s' := by
  cases e with
  | call c =>
    simp only [drive] at h
    split at h
    · cases h
    · next hwakes =>
      obtain ⟨state, hstep, rfl⟩ := Option.map_eq_some_iff.mp h
      exact .call c (Bool.eq_false_iff.mpr hwakes) hstep
  | powerOn a =>
    simp only [drive, wakes_iff] at h
    split at h
    · next henters =>
      cases h
      obtain ⟨hlock, hstreaming, hsuspended, hresumes⟩ := henters
      exact .powerOn a hlock hstreaming hsuspended hresumes
    · cases h
  | read =>
    simp only [drive] at h
    split at h
    · next hpowerOn =>
      cases h
      exact .read hpowerOn
    · cases h
  | write =>
    simp only [drive] at h
    split at h
    · next hpowerOn =>
      cases h
      exact .write hpowerOn
    · cases h
  | chipConfig bus new =>
    cases h
    exact .chipConfig bus new

/-- **What holds of a device that is being woken up.** -/
structure Underway (s : Driver) : Prop where
  /-- What goes with the stream is in order. -/
  counted : Counted s.toState
  /-- The mutex is held. -/
  locked : ∀ p, s.powerOn = some p → s.lock = true
  /-- The stream is not on yet. -/
  streaming : ∀ p, s.powerOn = some p → s.streaming = false
  /-- The device is still suspended. -/
  suspended : ∀ p, s.powerOn = some p → s.suspended = true
  /-- The kernel is resuming it. -/
  resumes : ∀ p, s.powerOn = some p → p.a.resumes = true

/-- A call that is made meanwhile sets a control. -/
theorem Underway.setCtrl_of_call (hs : Underway s) {p : PowerOn} (hpowerOn : s.powerOn = some p)
    {c : Call} {state : State} (hstep : step kernel dt s.toState c = some state) :
    ∃ ctrl value, c = .setCtrl ctrl value
      ∧ state = { s.toState with
        controls := (s.controls.set kernel.toControlCore ctrl value).1 } := by
  have hlock := hs.locked p hpowerOn
  have hsuspended := hs.suspended p hpowerOn
  cases steps hstep with
  | openHandle _ hfree | setFormat _ hfree | sStream _ _ hfree _ =>
    rw [hfree] at hlock
    cases hlock
  | setCtrl ctrl value => exact ⟨ctrl, value, rfl, rfl⟩
  | suspend _ hawake =>
    rw [hawake] at hsuspended
    cases hsuspended

/-- **What the write leaves**: a device that is awake if the mode has been written. -/
theorem Underway.write (hs : Underway s) {p : PowerOn} (hpowerOn : s.powerOn = some p) :
    Underway (s.write kernel dt p) ∧ (s.write kernel dt p).suspended = !p.a.powered
      ∧ (p.a.powered = true →
        (s.write kernel dt p).imager.mode = some (modeWords dt p.values)
          ∧ (s.write kernel dt p).passed = []) := by
  have hstream := @sStream_suspended
    { s.toState with lock := false, controls := p.values } kernel dt p.a (hs.streaming p hpowerOn)
    (hs.suspended p hpowerOn) (hs.resumes p hpowerOn)
  have hcounted : Counted { s.toState with lock := false, controls := p.values } :=
    hs.counted.congr rfl rfl rfl rfl
  have hafter := hcounted.streamed (streamed kernel dt _ true p.a)
  have hsuspended := hs.suspended p hpowerOn
  unfold Driver.write
  dsimp only
  refine ⟨⟨hafter.congr rfl rfl rfl rfl, nofun, nofun, nofun, nofun⟩, ?_, fun hpowered => ?_⟩
  · rw [hstream]
    cases p.a.powered with
    | false => exact hsuspended
    | true =>
      rw [if_neg Bool.noConfusion]
      split <;> rfl
  · rw [hstream, hpowered, if_neg Bool.noConfusion]
    refine ⟨?_, if_pos rfl⟩
    split <;> rfl

/-- One event. -/
theorem underway_step (hs : Underway s) (h : drive kernel dt s e = some s') : Underway s' := by
  cases drives h with
  | call c _ hstep =>
    have hcounted := counted_step hs.counted hstep
    refine ⟨hcounted, fun p hp => ?_, fun p hp => ?_, fun p hp => ?_, hs.resumes⟩ <;>
      obtain ⟨ctrl, value, -, rfl⟩ := hs.setCtrl_of_call hp hstep
    · exact hs.locked p hp
    · exact hs.streaming p hp
    · exact hs.suspended p hp
  | powerOn a _ hstreaming hsuspended hresumes =>
    refine ⟨hs.counted.congr rfl rfl rfl rfl, fun _ _ => rfl, fun _ _ => hstreaming,
      fun _ _ => hsuspended, fun p hp => ?_⟩
    cases hp
    exact hresumes
  | read hpowerOn =>
    have hresumes := hs.resumes _ hpowerOn
    refine ⟨hs.counted, fun _ _ => hs.locked _ hpowerOn, fun _ _ => hs.streaming _ hpowerOn,
      fun _ _ => hs.suspended _ hpowerOn, fun p hp => ?_⟩
    cases hp
    exact hresumes
  | write hpowerOn => exact (hs.write hpowerOn).1
  | chipConfig => exact ⟨hs.counted, hs.locked, hs.streaming, hs.suspended, hs.resumes⟩

/-- A run. -/
theorem underway_run {es : List Event}
    (hrun : Run (drive kernel dt) always (Driver.probed kernel pads) es s) : Underway s :=
  hrun.invariant (fun _ _ _ hs _ h => underway_step hs h)
    ⟨.idle rfl rfl, nofun, nofun, nofun, nofun⟩

/-! ## The mode that is made

The device is awake behind a run exactly if a write went through behind the last
time that it was suspended, and nothing else writes the mode. -/

/-- **Whether a step wakes the device up.** If it does not, and does not suspend
it, the imager keeps its mode, and gets no more than a packet. -/
theorem awake_step (hs : Underway s) (h : drive kernel dt s e = some s')
    (hs' : s'.suspended = false) :
    (s.suspended = false ∧ e ≠ .call .suspend ∧ s'.imager.mode = s.imager.mode
        ∧ s'.passed = s.passed ++ e.passes.toList)
      ∨ ∃ a values, e = .write ∧ s.powerOn = some ⟨a, [], values⟩ ∧ a.powered = true
        ∧ s'.imager.mode = some (modeWords dt values) ∧ s'.passed = [] := by
  cases drives h with
  | call c hwakes hstep =>
    rcases wakes_step hstep hs' with
      ⟨hawake, hcall, hmode⟩ | ⟨a, rfl, hsuspended, hstreaming, hresumes⟩
    · refine .inl ⟨hawake, fun heq => hcall ?_, hmode, (List.append_nil _).symm⟩
      cases heq
      rfl
    · -- such a call is made in steps
      rw [(wakes_iff s.toState a).mpr ⟨hstreaming, hsuspended, hresumes⟩] at hwakes
      cases hwakes
  | powerOn a _ _ hsuspended _ =>
    have hawake : s.suspended = false := hs'
    rw [hsuspended] at hawake
    cases hawake
  | read => exact .inl ⟨hs', nofun, rfl, (List.append_nil _).symm⟩
  | @write a values hpowerOn =>
    obtain ⟨-, hsuspended, hpowered⟩ :=
      (hs.write hpowerOn : Underway (s.write kernel dt _) ∧ _)
    rw [hs'] at hsuspended
    have hmode : a.powered = true := by simpa using hsuspended.symm
    exact .inr ⟨a, values, rfl, hpowerOn, hmode, hpowered hmode⟩
  | chipConfig bus new => exact .inl ⟨hs', nofun, rfl, rfl⟩

/-- **A control has had a value** behind an entry into `adsd3500_power_on`, at some
time in what has happened since. -/
def Had (kernel : Kernel) (dt : DeviceTree) (s₁ : Driver) (a : StreamAnswers) (es₂ : List Event)
    (ctrl : Ctrl) (value : ℕ) : Prop :=
  ∃ es t, es <+: es₂ ∧ Run (drive kernel dt) always s₁ (.powerOn a :: es) t
    ∧ t.controls.get ctrl = value

/-- What a control has had, it has had also when more has happened. -/
theorem Had.snoc {s₁ : Driver} {a : StreamAnswers} {es₂ : List Event} {ctrl : Ctrl} {value : ℕ}
    (h : Had kernel dt s₁ a es₂ ctrl value) (e : Event) :
    Had kernel dt s₁ a (es₂ ++ [e]) ctrl value := by
  obtain ⟨es, t, hprefix, hrun, hvalue⟩ := h
  exact ⟨es, t, hprefix.trans (List.prefix_append _ _), hrun, hvalue⟩

/-- **The device is being woken up**, since an entry that found it suspended, and
each value that has been read is one that the control has had since. -/
structure Reading (kernel : Kernel) (dt : DeviceTree) (s₁ : Driver) (es₂ : List Event) (s : Driver)
    (p : PowerOn) : Prop where
  /-- The entry has found the device suspended. -/
  suspended : s₁.suspended = true
  /-- These are the steps since. -/
  run : Run (drive kernel dt) always s₁ (.powerOn p.a :: es₂) s
  /-- What was read is what a control has had since the entry. -/
  values : ∀ ctrl, ctrl ∉ p.todo → Had kernel dt s₁ p.a es₂ ctrl (p.values.get ctrl)

/-- A step that reads nothing. -/
theorem Reading.snoc {s₁ : Driver} {es₂ : List Event} {p : PowerOn}
    (h : Reading kernel dt s₁ es₂ s p) (hstep : drive kernel dt s e = some s') :
    Reading kernel dt s₁ (es₂ ++ [e]) s' p where
  suspended := h.suspended
  run := h.run.snoc trivial hstep
  values ctrl hctrl := (h.values ctrl hctrl).snoc e

/-- **A device that is being woken up** has been entered by the last `powerOn`,
and what was read since are values that the controls have had since. -/
theorem reading_run (pads : ℕ → Pad) {es : List Event}
    (hrun : Run (drive kernel dt) always (Driver.probed kernel pads) es s) {p : PowerOn}
    (hpowerOn : s.powerOn = some p) :
    ∃ es₁ es₂ s₁, es = es₁ ++ .powerOn p.a :: es₂
      ∧ Run (drive kernel dt) always (Driver.probed kernel pads) es₁ s₁
      ∧ Reading kernel dt s₁ es₂ s p := by
  induction es using List.reverseRecOn generalizing s p with
  | nil =>
    cases hrun
    cases hpowerOn
  | append_singleton es e ih =>
    obtain ⟨t, hrun', -, h⟩ := hrun.of_snoc
    -- what goes on as it was
    have hgoes (hsame : t.powerOn = some p) : ∃ es₁ es₂ s₁,
        es ++ [e] = es₁ ++ .powerOn p.a :: es₂
          ∧ Run (drive kernel dt) always (Driver.probed kernel pads) es₁ s₁
          ∧ Reading kernel dt s₁ es₂ s p := by
      obtain ⟨es₁, es₂, s₁, rfl, hrun₁, hreading⟩ := ih hrun' hsame
      exact ⟨es₁, es₂ ++ [e], s₁, by rw [List.append_assoc]; rfl, hrun₁, hreading.snoc h⟩
    cases drives h with
    | call => exact hgoes hpowerOn
    | chipConfig => exact hgoes hpowerOn
    | write => cases hpowerOn
    | powerOn a _ _ hsuspended _ =>
      cases hpowerOn
      refine ⟨es, [], t, rfl, hrun', hsuspended, .cons trivial h (.nil _), fun ctrl hctrl => ?_⟩
      exact absurd (mem_powerOnReads ctrl) hctrl
    | @read a ctrl todo values hread =>
      cases hpowerOn
      obtain ⟨es₁, es₂, s₁, rfl, hrun₁, hreading⟩ := ih hrun' hread
      have hrun₂ : Run (drive kernel dt) always s₁ (.powerOn a :: (es₂ ++ [.read])) _ :=
        hreading.run.snoc trivial h
      refine ⟨es₁, es₂ ++ [.read], s₁, by rw [List.append_assoc]; rfl, hrun₁,
        hreading.suspended, hrun₂, fun other hother => ?_⟩
      by_cases hsame : other = ctrl
      · -- it is read now
        subst hsame
        rw [Controls.get_sCtrl_self]
        exact ⟨es₂, t, List.prefix_append _ _, hreading.run, rfl⟩
      · rw [Controls.get_sCtrl_of_ne _ _ hsame]
        refine (hreading.values other fun hmem => ?_).snoc .read
        rcases List.mem_cons.mp hmem with heq | hmem
        · exact hsame heq
        · exact hother hmem

/-- **The last time the device was woken up**: by the start of a stream that found
it suspended, when the mode was written with values that the controls had had
since the entry. What was sent to the imager since are commands for the stream,
and packets. -/
structure LastWake (kernel : Kernel) (dt : DeviceTree) (s₁ : Driver) (a : StreamAnswers)
    (es₂ : List Event) (s₂ : Driver) (es₃ : List Event) (s : Driver) (values : Controls) :
    Prop where
  /-- It has found the device suspended. -/
  suspended : s₁.suspended = true
  /-- It has written the mode. -/
  wakes : Run (drive kernel dt) always s₁ (.powerOn a :: (es₂ ++ [.write])) s₂
  /-- The device was awake then, … -/
  awake : s₂.suspended = false
  /-- … and in what has happened since … -/
  since : Run (drive kernel dt) always s₂ es₃ s
  /-- … it was not suspended. -/
  stays : .call .suspend ∉ es₃
  /-- The imager has the mode that was written. -/
  mode : s.imager.mode = some (modeWords dt values)
  /-- Its values are such as the controls had on the way. -/
  values : ∀ ctrl, Had kernel dt s₁ a es₂ ctrl (values.get ctrl)
  /-- What else was sent to the imager are commands and packets. -/
  passed : s.passed = es₃.filterMap Event.passes

/-- **A device that is awake** has been woken up by a write, behind which it was
not suspended. -/
theorem lastWake_run (pads : ℕ → Pad) {es : List Event}
    (hrun : Run (drive kernel dt) always (Driver.probed kernel pads) es s)
    (hs : s.suspended = false) :
    ∃ es₁ a es₂ es₃ s₁ s₂ values, es = es₁ ++ .powerOn a :: (es₂ ++ .write :: es₃)
      ∧ Run (drive kernel dt) always (Driver.probed kernel pads) es₁ s₁
      ∧ LastWake kernel dt s₁ a es₂ s₂ es₃ s values := by
  induction es using List.reverseRecOn generalizing s with
  | nil =>
    cases hrun
    cases hs
  | append_singleton es e ih =>
    obtain ⟨t, hrun', -, h⟩ := hrun.of_snoc
    rcases awake_step (underway_run hrun') h hs with
      ⟨hawake, hcall, hmode, hpassed⟩ | ⟨a, values, rfl, hpowerOn, -, hmode, hpassed⟩
    · -- the time before, with the step behind it
      obtain ⟨es₁, a, es₂, es₃, s₁, s₂, values, rfl, hrun₁, hwake⟩ := ih hrun' hawake
      refine ⟨es₁, a, es₂, es₃ ++ [e], s₁, s₂, values, by simp, hrun₁,
        { hwake with
          since := hwake.since.snoc trivial h
          stays := ?_
          mode := hmode.trans hwake.mode
          passed := ?_ }⟩
      · rw [List.mem_append, List.mem_singleton]
        exact not_or.mpr ⟨hwake.stays, hcall.symm⟩
      · rw [hpassed, hwake.passed, List.filterMap_append]
        cases hpasses : e.passes with
        | none => rw [List.filterMap_cons_none hpasses]; rfl
        | some bytes => rw [List.filterMap_cons_some hpasses]; rfl
    · obtain ⟨es₁, es₂, s₁, rfl, hrun₁, hreading⟩ := reading_run pads hrun' hpowerOn
      exact ⟨es₁, a, es₂, [], s₁, s, values, by simp, hrun₁, hreading.suspended,
        hreading.run.snoc trivial h, hs, .nil s, List.not_mem_nil, hmode,
        fun ctrl => hreading.values ctrl List.not_mem_nil, hpassed⟩

/-- Only the setting of a control changes the controls. -/
theorem controls_step (h : drive kernel dt s e = some s')
    (hunset : ∀ ctrl value, e ≠ .call (.setCtrl ctrl value)) : s'.controls = s.controls := by
  cases drives h with
  | call c _ hstep =>
    cases steps hstep with
    | openHandle handle _ =>
      exact (formatted kernel.toNearestSize (initCfg .trial handle) s.toState).controls
    | setFormat c _ => exact (formatted kernel.toNearestSize c s.toState).controls
    | sStream _ _ _ hr => cases hr <;> rfl
    | setCtrl ctrl value => exact absurd rfl (hunset ctrl value)
    | suspend => rfl
  | powerOn | read | write | chipConfig => rfl

/-- They are the same behind a run without such a call. -/
theorem controls_run {es : List Event} (hrun : Run (drive kernel dt) always s es s')
    (hunset : ∀ ctrl value, .call (.setCtrl ctrl value) ∉ es) : s'.controls = s.controls := by
  induction hrun with
  | nil s => rfl
  | cons _ hstep _ ih =>
    rw [ih fun ctrl value hmem => hunset ctrl value (List.mem_cons_of_mem _ hmem)]
    refine controls_step hstep fun ctrl value heq => hunset ctrl value ?_
    rw [← heq]
    exact List.mem_cons_self

/-- If none was set meanwhile, the mode is that of the controls at the entry. -/
theorem LastWake.eq_of_unset {s₁ s₂ : Driver} {a : StreamAnswers} {es₂ es₃ : List Event}
    {values : Controls} (h : LastWake kernel dt s₁ a es₂ s₂ es₃ s values)
    (hunset : ∀ ctrl value, .call (.setCtrl ctrl value) ∉ es₂) : values = s₁.controls := by
  refine Controls.ext_get fun ctrl => ?_
  obtain ⟨es, t, hstart, hrun, hvalue⟩ := h.values ctrl
  rw [← hvalue]
  congr 1
  refine controls_run hrun fun ctrl value hmem => ?_
  rcases List.mem_cons.mp hmem with heq | hmem
  · cases heq
  · exact hunset ctrl value (hstart.subset hmem)

/-- **The imager's mode, while it streams**, is that of the last time the device was
woken up: in any order of the calls, and of the steps of waking it up among them,
each control is in the mode with a value it had between the entry into
`adsd3500_power_on` and the write, and if none was set meanwhile with that of the
entry. No value that is set later reaches the imager, also over stops and starts in
between, if the device was not suspended. -/
theorem mode_run (pads : ℕ → Pad) {es : List Event}
    (hrun : Run (drive kernel dt) always (Driver.probed kernel pads) es s)
    (hs : s.streaming = true) :
    ∃ es₁ a es₂ es₃ s₁ s₂ values, es = es₁ ++ .powerOn a :: (es₂ ++ .write :: es₃)
      ∧ Run (drive kernel dt) always (Driver.probed kernel pads) es₁ s₁
      ∧ LastWake kernel dt s₁ a es₂ s₂ es₃ s values
      ∧ ((∀ ctrl value, .call (.setCtrl ctrl value) ∉ es₂) → values = s₁.controls) := by
  obtain ⟨es₁, a, es₂, es₃, s₁, s₂, values, hes, hrun₁, hwake⟩ :=
    lastWake_run pads hrun ((underway_run hrun).counted.suspended hs)
  exact ⟨es₁, a, es₂, es₃, s₁, s₂, values, hes, hrun₁, hwake, hwake.eq_of_unset⟩

/-- Two controls are set while the device is being woken up, and one of them is read
in time. The imager's mode is none that the controls have ever had. -/
theorem mode_run_plainKernel :
    ∃ es, ∃ s : Driver,
      Run (drive plainKernel ⟨2, false⟩) always
          (Driver.probed plainKernel fun _ => ⟨⟨0, 0, 0⟩, (0, 0)⟩) es s
        ∧ s.controls = { nrAbBits := 6, operatingMode := 3 }
        ∧ s.imager.mode = some (modeWords ⟨2, false⟩ { operatingMode := 3 })
        ∧ ∃ es₁ a es₂ es₃ s₁ s₂ values, es = es₁ ++ .powerOn a :: (es₂ ++ .write :: es₃)
          ∧ Run (drive plainKernel ⟨2, false⟩) always
            (Driver.probed plainKernel fun _ => ⟨⟨0, 0, 0⟩, (0, 0)⟩) es₁ s₁
          ∧ LastWake plainKernel ⟨2, false⟩ s₁ a es₂ s₂ es₃ s values
          ∧ ((∀ ctrl value, .call (.setCtrl ctrl value) ∉ es₂) → values = s₁.controls) :=
  have hrun := run_iff_exec.mpr
    (rfl : exec (drive plainKernel ⟨2, false⟩)
        (Driver.probed plainKernel fun _ => ⟨⟨0, 0, 0⟩, (0, 0)⟩)
      [.powerOn {}, .read, .read, .read, .call (.setCtrl .abBits 6),
        .call (.setCtrl .operatingMode 3), .read, .read, .read, .write,
        .call (.sStream false {}), .call (.sStream true {})] = some _)
  ⟨_, _, hrun, rfl, rfl, mode_run _ hrun rfl⟩

/-! ## The steps for one

With the mutex given back, and before the mode is written, the driver is as it
was in front of the call (`Driver.whole`). So the entry and the reads are no
step, and the write is the whole call. -/

/-- No control is set while the device is being woken up. -/
def Quiet (s : Driver) : Event → Prop
  | .call (.setCtrl _ _) => s.powerOn = none
  | _ => True

/-- The driver before the call that it is in. -/
def Driver.whole (s : Driver) : State := { s.toState with lock := s.lock && s.powerOn.isNone }

/-- If it is in no call, the driver is whole. -/
theorem Driver.whole_of_none (h : s.powerOn = none) : s.whole = s.toState := by
  unfold Driver.whole
  rw [h, Option.isNone_none, Bool.and_true]

/-- In a call, it is the driver with the mutex given back. -/
theorem Driver.whole_of_some {p : PowerOn} (h : s.powerOn = some p) :
    s.whole = { s.toState with lock := false } := by
  unfold Driver.whole
  rw [h, Option.isNone_some, Bool.and_false]

/-- What has been read is what the controls are. -/
structure Read (s : Driver) : Prop extends Underway s where
  /-- A control that has been read still has the value. -/
  values : ∀ p, s.powerOn = some p → ∀ ctrl, ctrl ∉ p.todo →
    p.values.get ctrl = s.controls.get ctrl

/-- **A step is none of `SensorDriver`, or one**, if no control is set while the
device is being woken up. -/
theorem Read.step (hs : Read s) (hquiet : Quiet s e) (h : drive kernel dt s e = some s') :
    Read s' ∧ ∃ cs, Run (Adsd3500.step kernel dt) always s.whole cs s'.whole := by
  have hunderway := underway_step hs.toUnderway h
  cases drives h with
  | @call c _ state hstep =>
    have hnone : s.powerOn = none := by
      by_contra hsome
      obtain ⟨p, hp⟩ := Option.ne_none_iff_exists'.mp hsome
      obtain ⟨ctrl, value, rfl, -⟩ := hs.setCtrl_of_call hp hstep
      exact hsome hquiet
    refine ⟨⟨hunderway, fun p hp => ?_⟩, [c], .cons trivial ?_ (.nil _)⟩
    · cases hnone.symm.trans hp
    · rw [Driver.whole_of_none hnone, @Driver.whole_of_none ⟨state, s.powerOn, s.passed⟩ hnone]
      exact hstep
  | powerOn a hlock _ _ _ =>
    refine ⟨⟨hunderway, fun p hp ctrl hctrl => ?_⟩, [], ?_⟩
    · cases hp
      exact absurd (mem_powerOnReads ctrl) hctrl
    · have hwhole : s.whole = { s.toState with lock := false } := by
        unfold Driver.whole
        rw [hlock, Bool.false_and]
      rw [hwhole]
      exact .nil _
  | @read a ctrl todo values hread =>
    refine ⟨⟨hunderway, fun p hp other hother => ?_⟩, [], ?_⟩
    · cases hp
      by_cases hsame : other = ctrl
      · subst hsame
        exact Controls.get_sCtrl_self _ _ _
      · refine (Controls.get_sCtrl_of_ne _ _ hsame).trans (hs.values _ hread other fun hmem => ?_)
        rcases List.mem_cons.mp hmem with heq | hmem
        · exact hsame heq
        · exact hother hmem
    · rw [Driver.whole_of_some hread, Driver.whole_of_some rfl]
      exact .nil _
  | @write a values hpowerOn =>
    have hvalues : values = s.controls :=
      Controls.ext_get fun ctrl => hs.values _ hpowerOn ctrl List.not_mem_nil
    refine ⟨⟨hunderway, nofun⟩, [.sStream true a], .cons trivial ?_ (.nil _)⟩
    have hwhole := Driver.whole_of_some hpowerOn
    have hlocks : ¬ ((Call.sStream true a).locks = true ∧ s.whole.lock = true) := by
      rw [hwhole]
      exact fun h => Bool.noConfusion h.2
    rw [@Driver.whole_of_none (s.write kernel dt ⟨a, [], values⟩) rfl, Adsd3500.step,
      if_neg hlocks, hwhole, Driver.write]
    subst hvalues
    have hstream := streamed kernel dt { s.toState with lock := false } true a
    cases hr : State.sStream kernel dt { s.toState with lock := false } true a with
    | mk t started =>
      rw [hr] at hstream
      have hcontrols : t.controls = s.controls := by cases hstream <;> rfl
      dsimp only
      rw [← hcontrols]
  | chipConfig bus new =>
    exact ⟨⟨hunderway, hs.values⟩, [], .nil _⟩

/-- **If no control is set while the device is being woken up**, the steps may be
taken for one: what there is of the driver is what a run of `SensorDriver` leaves. -/
theorem drive_of_steps (pads : ℕ → Pad) {es : List Event}
    (hrun : Run (drive kernel dt) Quiet (Driver.probed kernel pads) es s) :
    ∃ cs, Run (step kernel dt) always (State.probed kernel pads) cs s.whole := by
  have hstart : Read (Driver.probed kernel pads) :=
    ⟨@underway_run kernel dt pads _ [] (.nil _), nofun⟩
  have hall : Read s ∧ ∃ cs, Run (step kernel dt) always (State.probed kernel pads) cs s.whole := by
    refine hrun.invariant (I := fun s => Read s
      ∧ ∃ cs, Run (step kernel dt) always (State.probed kernel pads) cs s.whole)
      (fun t e t' ht hquiet h => ?_) ⟨hstart, [], .nil _⟩
    obtain ⟨hread, cs, hcs⟩ := ht
    obtain ⟨hread', cs', hcs'⟩ := hread.step hquiet h
    exact ⟨hread', cs ++ cs', hcs.append hcs'⟩
  exact hall.2

end Adsd3500
