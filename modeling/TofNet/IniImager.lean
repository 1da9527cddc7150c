import TofNet.IniAgreement
import TofNet.SensorControls
import TofNet.SensorDriverRuns

/-!
# From an INI file to the imager

The widths in the INI file of a frame type reach the imager by way of the
sensor's controls, which the SDK, or the collector in its place, sets in the
kernel's driver, and of the word the driver writes when the device is woken up.

A control with a menu takes an item of its menu or nothing, so whether a file is
served is a question of which items the two programs send (`taken_iff`). All that
the SDK sends the driver takes, and the imager's mode shows it
(`sentControls_imager`). The collector has a table of its own, with items that
the driver's menus leave out. It sets them in vain, since the driver refuses them
and the control keeps its value, and the imager then has what was set before
(`directIniControls_taken_iff`).

What is put together here was shown of its parts: what the SDK reads in a file
is in `IniAgreement`, what the driver takes and writes in `SensorDriver` and
`SensorDriverRuns`. The calls are those that the SDK gets to, up to an exception
of `stoi`, in their order, and they are made on the driver in any state in which
its mutex is free.
-/

namespace Adsd3500

open Machine

variable {kernel : Kernel} {core : ControlCore} {dt : DeviceTree} {s : State}

/-- The name of a control in `setControl`. -/
def controlName : Control → Bytes
  | .phaseDepthBits => ascii "phaseDepthBits"
  | .confidenceBits => ascii "confidenceBits"
  | .abBits => ascii "abBits"
  | .depthEnable => ascii "depthEnable"
  | .abAveraging => ascii "abAveraging"

/-- The control of the driver. -/
def ctrlOf : Control → Ctrl
  | .phaseDepthBits => .depthBits
  | .confidenceBits => .confidenceBits
  | .abBits => .abBits
  | .depthEnable => .depthEn
  | .abAveraging => .abAvg

/-- It is the one that `setControl` names in `VIDIOC_S_CTRL`. -/
theorem id_ctrlOf (control : Control) :
    (ctrlOf control).id = controlsCommands (controlName control) := by
  cases control <;> decide

/-- What `setControl` asks of the driver. -/
def setCalls (calls : List (Control × ℕ)) : List Call :=
  calls.map fun call => .setCtrl (ctrlOf call.1) call.2

/-- The driver takes a value as it is. -/
def Taken (core : ControlCore) (call : Control × ℕ) : Prop :=
  core.validate (ctrlOf call.1).config call.2 = some call.2

/-- The controls with all values taken. -/
def Controls.applied (controls : Controls) (calls : List (Control × ℕ)) : Controls :=
  calls.foldl (fun controls call => controls.sCtrl call.2 (ctrlOf call.1)) controls

theorem run_setCalls {calls : List (Control × ℕ)}
    (htaken : ∀ call ∈ calls, Taken kernel.toControlCore call) :
    Run (step kernel dt) always s (setCalls calls)
      { s with controls := s.controls.applied calls } := by
  induction calls generalizing s with
  | nil => exact .nil s
  | cons call calls ih =>
    have hset : step kernel dt s (.setCtrl (ctrlOf call.1) call.2)
        = some { s with controls := s.controls.sCtrl call.2 (ctrlOf call.1) } := by
      have hcall := htaken call List.mem_cons_self
      unfold Taken at hcall
      simp only [step, Call.locks, Controls.set, hcall]
      rfl
    exact .cons trivial hset (ih fun other hother => htaken other (List.mem_cons_of_mem _ hother))

/-- A stream is started on a device that is suspended. -/
theorem step_start (hlock : s.lock = false) (hstreaming : s.streaming = false)
    (hsuspended : s.suspended = true) :
    step kernel dt s (.sStream true {}) = some (s.woken dt).started := by
  have hlocks : ¬ ((Call.sStream true {}).locks = true ∧ s.lock = true) := by
    rw [hlock]
    exact fun h => Bool.noConfusion h.2
  rw [step, if_neg hlocks]
  exact congrArg some (sStream_suspended kernel dt hstreaming hsuspended rfl)

/-! ## Which values are taken

The kernel's control core is asked for each value. What it does is known for the
three kinds of controls that the driver has: a menu refuses an item that is not
in it, a switch makes one of every value that is not 0, and an integer control
gives nothing that is outside of its range. So for each key it is a question
about the items of a menu. -/

theorem validate_menu {config : CtrlConfig} (htype : config.type = .integerMenu) (n : ℕ) :
    core.validate config n = some n
      ↔ config.min ≤ n ∧ n ≤ config.max ∧ config.menuSkipMask.testBit n = false :=
  (core.integerMenu config n n htype).trans (and_iff_right rfl)

theorem validate_boolean {config : CtrlConfig} (htype : config.type = .boolean) (n : ℕ) :
    core.validate config n = some n ↔ n ≤ 1 := by
  rw [core.boolean config n htype, Option.some_inj]
  split <;> omega

/-- The items of the three menus, and the switches. -/
theorem taken_iff (control : Control) (n : ℕ) :
    Taken core (control, n) ↔ match control with
      | .phaseDepthBits => 2 ≤ n ∧ n ≤ 6
      | .confidenceBits => n ≤ 2
      | .abBits => n ≤ 6 ∧ n ≠ 1
      | .depthEnable | .abAveraging => n ≤ 1 := by
  cases control with
  | phaseDepthBits =>
    refine (validate_menu rfl n).trans ⟨fun ⟨hmin, hmax, _⟩ => ⟨hmin, hmax⟩, fun ⟨hmin, hmax⟩ => ?_⟩
    refine ⟨hmin, hmax, ?_⟩
    interval_cases n <;> rfl
  | confidenceBits =>
    refine (validate_menu rfl n).trans ⟨fun ⟨_, hmax, _⟩ => hmax, fun hmax => ?_⟩
    exact ⟨Nat.zero_le n, hmax, Nat.zero_testBit n⟩
  | abBits =>
    refine (validate_menu rfl n).trans ⟨fun ⟨_, hmax, hmask⟩ => ⟨hmax, ?_⟩, fun ⟨hmax, hone⟩ => ?_⟩
    · rintro rfl
      cases hmask
    · refine ⟨Nat.zero_le n, hmax, ?_⟩
      change n ≤ 6 at hmax
      interval_cases n <;> first | rfl | exact absurd rfl hone
  | depthEnable => exact validate_boolean rfl n
  | abAveraging => exact validate_boolean rfl n

theorem taken_map_iff (control : Control) (value : Option ℕ) :
    (∀ call ∈ value.toList.map (Prod.mk control), Taken core call)
      ↔ ∀ n, value = some n → Taken core (control, n) := by
  cases value <;> simp

/-- All calls for the keys of an INI file. -/
theorem taken_controlCalls_iff (phase conf ab enable : Option ℕ) :
    (∀ call ∈ controlCalls phase conf ab enable, Taken core call)
      ↔ (∀ n, phase = some n → 2 ≤ n ∧ n ≤ 6) ∧ (∀ n, conf = some n → n ≤ 2)
        ∧ (∀ n, ab = some n → n ≤ 6 ∧ n ≠ 1) ∧ (∀ n, enable = some n → n ≤ 1) := by
  have henable : (∀ call ∈ enable.toList.flatMap fun n => [(.depthEnable, n), (.abAveraging, n)],
      Taken core call) ↔ ∀ n, enable = some n → n ≤ 1 := by
    cases enable <;> simp [taken_iff]
  rw [controlCalls, List.forall_mem_append, List.forall_mem_append, List.forall_mem_append,
    taken_map_iff, taken_map_iff, taken_map_iff, henable, and_assoc, and_assoc]
  simp only [taken_iff]

/-- A value that is not taken as it is, is refused, but for the switches, of which
each value is made one. -/
theorem refused_of_not_taken {control : Control} {n : ℕ}
    (hmenu : (ctrlOf control).config.type = .integerMenu) (h : ¬ Taken core (control, n))
    (controls : Controls) : controls.set core (ctrlOf control) n = (controls, false) := by
  unfold Controls.set
  cases hvalue : core.validate (ctrlOf control).config n with
  | none => rfl
  | some m =>
    have hm : (n : ℤ) = m := ((core.integerMenu _ _ _ hmenu).mp hvalue).1
    rw [Nat.cast_inj] at hm
    subst hm
    exact absurd hvalue h

/-- What the collector sets a switch to. -/
theorem enableCode_le (value : Bytes) : enableCode value ≤ 1 := by
  unfold enableCode
  split <;> decide

/-- The collector sets a switch to nothing that is not taken. -/
theorem menu_of_not_taken {kv : Bytes → Option Bytes} {call : Control × ℕ}
    (hmem : call ∈ directIniControls kv) (h : ¬ Taken core call) :
    (ctrlOf call.1).config.type = .integerMenu := by
  obtain ⟨control, n⟩ := call
  have hswitch : ∀ n', (control, n') ∈ directIniControls kv →
      (ctrlOf control).config.type = .boolean → n' ≤ 1 := by
    intro n' hn' htype
    rw [directIniControls_eq] at hn'
    simp only [controlCalls, List.mem_append, List.mem_map, List.mem_flatMap, Option.mem_toList,
      Option.map_eq_some_iff, List.mem_cons, List.not_mem_nil, or_false] at hn'
    rcases hn' with ((⟨_, -, heq⟩ | ⟨_, -, heq⟩) | ⟨_, -, heq⟩) | ⟨_, ⟨value, -, rfl⟩, heq⟩
    · cases heq
      cases htype
    · cases heq
      cases htype
    · cases heq
      cases htype
    · rcases heq with heq | heq <;> cases heq <;> exact enableCode_le value
  cases control with
  | phaseDepthBits | confidenceBits | abBits => rfl
  | depthEnable | abAveraging => exact absurd ((taken_iff _ n).mpr (hswitch n hmem rfl)) h

/-- **Which INI files the collector's own table serves**: all that it sets is taken
exactly for these widths, and an item that is not in the driver's menu is refused,
so that the control keeps what it had. -/
theorem directIniControls_taken_iff (core : ControlCore) (kv : Bytes → Option Bytes) :
    ((∀ call ∈ directIniControls kv, Taken core call)
      ↔ (∀ value, kv (ascii "bitsInPhaseOrDepth") = some value →
          widthOf value ∉ [.w4, .other])
        ∧ (∀ value, kv (ascii "bitsInConf") = some value →
          widthOf value ∈ [.w8, .w4, .other])
        ∧ (∀ value, kv (ascii "bitsInAB") = some value → widthOf value ≠ .w4))
      ∧ ∀ call ∈ directIniControls kv, ¬ Taken core call → ∀ controls : Controls,
        controls.set core (ctrlOf call.1) call.2 = (controls, false) := by
  refine ⟨?_, fun call hmem h => refused_of_not_taken (menu_of_not_taken hmem h) h⟩
  have hmap (key : Bytes) (p : ℕ → Prop) (q : Width → Prop)
      (h : ∀ value, p (mapBits value) ↔ q (widthOf value)) :
      (∀ n, (kv key).map mapBits = some n → p n)
        ↔ ∀ value, kv key = some value → q (widthOf value) := by
    cases kv key with
    | none => simp
    | some value => simp [h]
  have henable : ∀ n, (kv (ascii "partialDepthEnable")).map enableCode = some n → n ≤ 1 := by
    intro n hn
    obtain ⟨value, -, rfl⟩ := Option.map_eq_some_iff.mp hn
    exact enableCode_le value
  rw [directIniControls_eq, taken_controlCalls_iff,
    hmap _ (fun n => 2 ≤ n ∧ n ≤ 6) (fun w => w ∉ [.w4, .other]) fun value => ?_,
    hmap _ (fun n => n ≤ 2) (fun w => w ∈ [.w8, .w4, .other]) fun value => ?_,
    hmap _ (fun n => n ≤ 6 ∧ n ≠ 1) (fun w => w ≠ .w4) fun value => ?_]
  · exact ⟨fun ⟨hphase, hconf, hab, _⟩ => ⟨hphase, hconf, hab⟩,
      fun ⟨hphase, hconf, hab⟩ => ⟨hphase, hconf, hab, henable⟩⟩
  · rw [mapBits_eq]
    cases widthOf value <;> decide
  · rw [mapBits_eq]
    cases widthOf value <;> decide
  · rw [mapBits_eq]
    cases widthOf value <;> decide

/-! ## What the imager shows

The mode word is made of the controls when the device is woken up. It shows a
value for each of the four keys that have one; for the others it shows what the
controls had before. -/

/-- **The imager's mode shows the values**, those that there are. -/
structure Shows (phase conf ab enable : Option ℕ) (word : BitVec 16) : Prop where
  /-- The bits of the depth. -/
  phase : ∀ n, phase = some n →
    SET_IMAGER_MODE_DEPTH_BITS_MSK.get word = BitVec.ofNat 16 (bitsCode n)
  /-- Those of the confidence. -/
  conf : ∀ n, conf = some n → SET_IMAGER_MODE_CONF_BITS_MSK.get word = BitVec.ofNat 16 n
  /-- Those of the active brightness, and whether there are any. -/
  ab : ∀ n, ab = some n →
    SET_IMAGER_MODE_AB_EN_MSK.get word = BitVec.ofNat 16 (if n ≠ 0 then 1 else 0)
      ∧ SET_IMAGER_MODE_AB_BITS_MSK.get word = BitVec.ofNat 16 (bitsCode n)
  /-- Whether the depth is computed, and the average. -/
  enable : ∀ n, enable = some n → SET_IMAGER_MODE_DEPTH_EN_MSK.get word = BitVec.ofNat 16 n
    ∧ SET_IMAGER_MODE_AB_AVG_EN_MSK.get word = BitVec.ofNat 16 n

/-- The controls after the calls, field by field. -/
theorem applied_controlCalls (controls : Controls) (phase conf ab enable : Option ℕ) :
    controls.applied (controlCalls phase conf ab enable)
      = { controls with
        nrDepthBits := phase.getD controls.nrDepthBits
        nrConfidenceBits := conf.getD controls.nrConfidenceBits
        nrAbBits := ab.getD controls.nrAbBits
        depthEn := enable.getD controls.depthEn
        abAvg := enable.getD controls.abAvg } := by
  cases phase <;> cases conf <;> cases ab <;> cases enable <;> rfl

theorem shows_of_taken (controls : Controls) {phase conf ab enable : Option ℕ}
    (htaken : ∀ call ∈ controlCalls phase conf ab enable, Taken kernel.toControlCore call) :
    Shows phase conf ab enable
      (modeWords dt (controls.applied (controlCalls phase conf ab enable))).2 := by
  obtain ⟨-, hconf, -, henable⟩ := (taken_controlCalls_iff phase conf ab enable).mp htaken
  rw [applied_controlCalls]
  refine ⟨?_, ?_, ?_, ?_⟩
  · rintro n rfl
    exact get_modeWords (by simp [modeFields]) (by decide) (bitsCode_lt n)
  · rintro n rfl
    exact get_modeWords (by simp [modeFields]) (by decide)
      (Nat.lt_of_le_of_lt (hconf n rfl) (by decide))
  · rintro n rfl
    exact ⟨get_modeWords (by simp [modeFields]) (by decide) (by split <;> decide),
      get_modeWords (by simp [modeFields]) (by decide) (bitsCode_lt n)⟩
  · rintro n rfl
    have hn : n < 2 := Nat.lt_of_le_of_lt (henable n rfl) (by decide)
    exact ⟨get_modeWords (by simp [modeFields]) (by decide) hn,
      get_modeWords (by simp [modeFields]) (by decide) hn⟩

/-- The calls for an INI file, and the stream started on a device that is
suspended. -/
theorem run_ini {phase conf ab enable : Option ℕ}
    (htaken : ∀ call ∈ controlCalls phase conf ab enable, Taken kernel.toControlCore call)
    (hlock : s.lock = false) (hstreaming : s.streaming = false) (hsuspended : s.suspended = true) :
    ∃ s', Run (step kernel dt) always s
        (setCalls (controlCalls phase conf ab enable) ++ [.sStream true {}]) s'
      ∧ s'.streaming = true
      ∧ ∃ cmd word, s'.imager.mode = some (cmd, word) ∧ Shows phase conf ab enable word :=
  ⟨_, (run_setCalls htaken).snoc trivial (step_start hlock hstreaming hsuspended), rfl, _, _, rfl,
    shows_of_taken s.controls htaken⟩

/-- Whatever the SDK reads in an INI file, the driver takes all that it sets. -/
theorem taken_sentControls (core : ControlCore) (kv : Bytes → Option Bytes) :
    ∀ call ∈ ItofCamera.sentControls kv, Taken core call := by
  have hvalue {c : Prop} [Decidable c] {key : Bytes} {f : Bytes → ℕ} {p : ℕ → Prop}
      (hf : ∀ value, p (f value)) (n : ℕ)
      (h : (if c then (kv key).map f else none) = some n) : p n := by
    split at h
    · obtain ⟨value, -, rfl⟩ := Option.map_eq_some_iff.mp h
      exact hf value
    · cases h
  rw [ItofCamera.sentControls_eq, taken_controlCalls_iff]
  refine ⟨hvalue fun value => ?_, hvalue fun value => ?_, hvalue fun value => ?_,
    hvalue fun value => ?_⟩
  · rw [phaseBits_eq]
    cases widthOf value <;> decide
  · rw [confBits_eq]
    cases widthOf value <;> decide
  · rw [abBits_eq]
    cases widthOf value <;> decide
  · exact enableCode_le value

/-- **The imager has the widths of the INI file**: the driver takes all that the SDK
sets, and if the stream is started on a device that is suspended, the imager's mode
shows what the SDK reads in the file. -/
theorem sentControls_imager (kv : Bytes → Option Bytes) (hlock : s.lock = false)
    (hstreaming : s.streaming = false) (hsuspended : s.suspended = true) :
    (∀ call ∈ ItofCamera.sentControls kv, Taken kernel.toControlCore call)
      ∧ ∃ s', Run (step kernel dt) always s
        (setCalls (ItofCamera.sentControls kv) ++ [.sStream true {}]) s'
      ∧ s'.streaming = true
      ∧ ∃ cmd word, s'.imager.mode = some (cmd, word)
        ∧ (ItofCamera.ispParses kv = true → ItofCamera.abParses kv = true →
          Shows ((kv (ascii "bitsInPhaseOrDepth")).map ItofCamera.phaseBits)
            ((kv (ascii "bitsInConf")).map ItofCamera.confBits)
            ((kv (ascii "bitsInAB")).map ItofCamera.abBits)
            ((kv (ascii "partialDepthEnable")).map enableCode) word) := by
  refine ⟨taken_sentControls kernel.toControlCore kv, ?_⟩
  have htaken := taken_sentControls kernel.toControlCore kv
  rw [ItofCamera.sentControls_eq] at htaken ⊢
  obtain ⟨s', hrun, hs', cmd, word, hmode, hshows⟩ :=
    @run_ini kernel dt s _ _ _ _ htaken hlock hstreaming hsuspended
  refine ⟨s', hrun, hs', cmd, word, hmode, fun hisp hab => ?_⟩
  rwa [if_pos hisp, if_pos hisp, if_pos ⟨hisp, hab⟩, if_pos ⟨hisp, hab⟩] at hshows

/-- An INI file with one key. -/
def brightnessIni : Bytes → Option Bytes := fun key =>
  if key = ascii "bitsInAB" then some (ascii "16") else none

theorem sentControls_imager_probed :
    (∀ call ∈ ItofCamera.sentControls brightnessIni, Taken plainKernel.toControlCore call)
      ∧ ∃ s', Run (step plainKernel ⟨2, false⟩) always
        (State.probed plainKernel fun _ => ⟨⟨0, 0, 0⟩, (0, 0)⟩)
        (setCalls (ItofCamera.sentControls brightnessIni) ++ [.sStream true {}]) s'
      ∧ s'.streaming = true
      ∧ ∃ cmd word, s'.imager.mode = some (cmd, word)
        ∧ (ItofCamera.ispParses brightnessIni = true → ItofCamera.abParses brightnessIni = true →
          Shows ((brightnessIni (ascii "bitsInPhaseOrDepth")).map ItofCamera.phaseBits)
            ((brightnessIni (ascii "bitsInConf")).map ItofCamera.confBits)
            ((brightnessIni (ascii "bitsInAB")).map ItofCamera.abBits)
            ((brightnessIni (ascii "partialDepthEnable")).map enableCode) word) :=
  sentControls_imager brightnessIni rfl rfl rfl

end Adsd3500
