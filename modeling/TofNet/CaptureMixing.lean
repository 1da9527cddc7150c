import TofNet.SaveSession
import TofNet.Transition
import Mathlib.Data.Prod.Lex
import Mathlib.Order.WithBot

/-!
# Captures and sessions

The GUI closes the session whenever it changes the configuration or sends a
command, and the worker opens one when there is a frame to be saved. What the
worker saves then need not be of the capture that the command was about: the
frames that were under way are still handled, one of them opens the session,
and those of the new capture are saved into it.

The two threads move in turn here, and meet in the two mutexes only. The
worker copies the configuration under one of them and saves under the other;
the GUI changes the configuration under the first, and closes under the second
later. `not_homogeneous_late_frame` is a session of two captures.

Nothing that is written is compared with what was written before, so that the
format of a session can only follow from what comes in. The frames that are
taken up between two closings are those that can come to one session, and the
condition is about them alone: they are to have one source, that is, to be of
one capture, with one frame type, mode and size in what the worker is given
(`Unmixed`). That is enough whatever the GUI does and whenever
(`homogeneous_of_run`). What carries the proof is that the first of these
frames is the one that opens the session, and that the record of it
(`SavingViewer.taken`) outlives every frame that is not saved (`Taken`).
-/

/-! ## The two threads

The steps are those between which the other thread can come. A frame arrives;
the worker copies the configuration, under the mutex of the configuration; it
saves, under that of the session; and it may throw, and run its handler. The GUI
changes the configuration, and closes the session; a frame may be anywhere in
between. -/

/-- Where the worker is in saving a frame. -/
inductive SavingWorker
  | idle
  /-- `handleDataFrame` has chosen what is to be saved. -/
  | chosen (x : Snapshot)
  /-- The configuration is copied, and the frame is wanted by the copy. -/
  | copied (x : Snapshot) (config : SaveConfig)
  /-- The mutex is released, and the handler of the exception is to run. -/
  | thrown

/-- Captures, and the frames of a capture, in their order. -/
def arrival (capture : ℕ) (frameId : UInt64) : ℕ ×ₗ ℕ := toLex (capture, frameId.toNat)

/-- **The viewer, as it saves frames.** `closing` is set while the GUI has
still to close the session; `arrived` is the last frame received. `taken` is no
variable of the viewer's: it is the first frame that was taken up to be saved
since the last closing, with the copy of the configuration. A frame that the
worker holds at a closing is saved behind it, and counts as the first. -/
structure SavingViewer where
  /-- The configuration, which the GUI may change. -/
  config : SaveConfig
  /-- The session. -/
  save : SaveState := {}
  /-- Where the worker is with a frame. -/
  worker : SavingWorker := .idle
  /-- The GUI has still to close the session. -/
  closing : Bool := false
  /-- The last frame received, by its capture and its number. -/
  arrived : WithBot (ℕ ×ₗ ℕ) := ⊥
  /-- The first frame since the last closing. -/
  taken : Option (Snapshot × SaveConfig) := none

/-- What happens. -/
inductive MixingStep
  | configure (config : SaveConfig)
  | setFrameType (frameType : Bytes)
  /-- `startRemoteCapture` or `stopRemoteCapture`, up to the closing. -/
  | command (sent : Bool)
  | close (moved : ℕ)
  | receive (f : DecodedFrame)
  | copyConfig
  | save (a : SaveFaults)
  | handler (moved : ℕ)

/-- The frame that the worker has taken up, with its copy of the
configuration. -/
def SavingWorker.copy : SavingWorker → Option (Snapshot × SaveConfig)
  | copied x config => some (x, config)
  | _ => none

/-- `setFrameType`. -/
def SaveConfig.setFrameType (frameType : Bytes) (c : SaveConfig) : SaveConfig :=
  { c with toViewerConfig := c.toViewerConfig.setFrameType frameType }

namespace SavingViewer

/-- **One step.** A DataFrame arrives behind those of earlier captures and
behind the earlier ones of its own. -/
def step : Machine SavingViewer MixingStep := fun s a =>
  match a with
  | .configure config =>
    if s.closing then none
    else
      some { s with
        config := (config.setFrameType config.frameType).withDefaults
        closing := true }
  | .setFrameType frameType =>
    if s.closing then none
    else some { s with config := s.config.setFrameType frameType, closing := true }
  | .command sent => if s.closing then none else some { s with closing := sent }
  | .close moved =>
    if s.closing then
      some { s with save := s.save.close moved, closing := false, taken := s.worker.copy }
    else none
  | .receive f =>
    match s.worker with
    | .idle =>
      if s.arrived < (arrival f.capture f.header.frameId : WithBot (ℕ ×ₗ ℕ)) then
        some { s with
          worker := .chosen (f.snapshot s.config)
          arrived := (arrival f.capture f.header.frameId : WithBot (ℕ ×ₗ ℕ)) }
      else none
    | _ => none
  | .copyConfig =>
    match s.worker with
    | .chosen x =>
      let config := s.config.withDefaults
      if x.wanted config then
        some { s with
          worker := .copied x config
          taken := if s.save.full config then s.taken else s.taken.or (some (x, config)) }
      else some { s with worker := .idle }
    | _ => none
  | .save a =>
    match s.worker with
    | .copied x config =>
      let saved := s.save.saveLocked config x a
      some { s with save := saved.1, worker := if saved.2 then .idle else .thrown }
    | _ => none
  | .handler moved =>
    match s.worker with
    | .thrown => some { s with save := s.save.saveFailed moved, worker := .idle }
    | _ => none

end SavingViewer

/-! ## Sessions of one capture

A frame's row is to have the format that `camera.json` records, and that is the
format of the frame which opened the session. So two things have to be compared
that are written at different times, by frames which need not know of each
other. `SameSource` compares what the frames bring with them, and `format_eq`
says that this is enough; no other field of the configuration goes into the
format. -/

/-- **Each session directory is of one capture and one format**: the rows given
to its `frames.csv` have the format of its `camera.json`, which there is, and
frame numbers that increase. -/
structure Homogeneous (log : List SaveEvent) : Prop where
  /-- A row has the format of its `camera.json`, … -/
  format : ∀ dir json write r answer, .cameraJson dir json write ∈ log →
    .row dir r answer ∈ log → r.toFrameFormat = json.toFrameFormat
  /-- … which there is. -/
  recorded : ∀ dir r answer, .row dir r answer ∈ log →
    ∃ json write, .cameraJson dir json write ∈ log
  /-- The rows of a session have increasing numbers. -/
  increasing : log.Pairwise (fun e e' => ∀ dir r answer r' answer',
    e = .row dir r answer → e' = .row dir r' answer' → r.frameId < r'.frameId)

/-- **Two frames of one source**, each with the copy of the configuration it is
handled with. They are of one capture, their headers carry the same frame type
and mode, and they have the same size, as TOFI has computed both or neither.
Where the headers carry no frame type, or a mode of 0, it is the
configuration's that counts, which is then the same. -/
structure SameSource (x : Snapshot) (config : SaveConfig) (y : Snapshot) (config' : SaveConfig) :
    Prop where
  /-- They are of one capture, … -/
  capture : x.capture = y.capture
  /-- … with one frame type in the header, … -/
  frameType : cstrToString x.header.frameType = cstrToString y.header.frameType
  /-- … and one mode. -/
  mode : x.header.mode = y.header.mode
  /-- The sizes are those behind TOFI, … -/
  width : x.width = y.width
  /-- … or those of the header. -/
  height : x.height = y.height
  /-- Where the header has no frame type, the configuration has the same. -/
  configFrameType : cstrToString x.header.frameType = [] → config.frameType = config'.frameType
  /-- Where it has no mode, the configuration has the same. -/
  configMode : x.header.mode = 0 → config.mode = config'.mode

/-- **The condition on a step**: a frame that is taken up to be saved has the
source of the first that was taken up since the last closing. A frame that is
not saved, as there are enough or there was an error, may have any.

The source is what the frame brings with it and what the configuration is then:
the capture it is of, the fields of its header, and the configuration it is
handled with. Nothing that was written is looked at. -/
def SavingViewer.Unmixed (s : SavingViewer) : MixingStep → Prop
  | .copyConfig => ∀ x, s.worker = .chosen x → x.wanted s.config.withDefaults = true →
      s.save.full s.config.withDefaults = false →
      ∀ first ∈ s.taken, SameSource x s.config.withDefaults first.1 first.2
  | _ => True

/-- Frames of one source are recorded in one format. -/
theorem SameSource.format_eq {x y : Snapshot} {config config' : SaveConfig}
    (h : SameSource x config y config') : x.format config = y.format config' := by
  have htype : makeFrameType x.header config.toViewerConfig
      = makeFrameType y.header config'.toViewerConfig := by
    unfold makeFrameType
    dsimp only
    rw [← h.frameType]
    by_cases hempty : cstrToString x.header.frameType = []
    · rw [if_pos hempty, if_pos hempty, h.configFrameType hempty]
    · simp only [if_neg hempty]
  have hmode : makeMode x.header config.toViewerConfig
      = makeMode y.header config'.toViewerConfig := by
    unfold makeMode
    rw [← h.mode]
    by_cases hzero : x.header.mode = 0
    · rw [if_neg (not_not.mpr hzero), if_neg (not_not.mpr hzero), h.configMode hzero]
    · rw [if_pos hzero, if_pos hzero]
  unfold Snapshot.format
  rw [htype, hmode, h.capture, h.width, h.height]

/-- The frame agrees with the open session. -/
def SaveState.Agrees (s : SaveState) (x : Snapshot) (config : SaveConfig) : Prop :=
  ∀ json write, .cameraJson s.sessionDir json write ∈ s.log →
    x.format config = json.toFrameFormat

/-! ## What saving appends

The log has an event for everything that is done to the disk. For this module
only rows and `camera.json` count, and everything else is neutral: it may come
at any place, and in any number, without a property of the log being touched. -/

/-- An event that neither gives a row nor writes a `camera.json`. -/
def SaveEvent.Neutral (e : SaveEvent) : Prop :=
  (∀ dir r answer, e ≠ .row dir r answer) ∧ ∀ dir json write, e ≠ .cameraJson dir json write

namespace SaveState

variable {config : SaveConfig} {x : Snapshot} {a : SaveFaults} {s : SaveState}

/-- The planes of a frame are neutral. -/
theorem writePlanes_neutral (dir : Option ℕ) (index : ℕ) (a : SaveFaults)
    (planes : List (Plane × Bytes)) : ∀ e ∈ (writePlanes dir index a planes).1, e.Neutral := by
  have hevent : ∀ path data write, (SaveEvent.planeFile dir path data write).Neutral :=
    fun _ _ _ => ⟨fun _ _ _ => SaveEvent.noConfusion, fun _ _ _ => SaveEvent.noConfusion⟩
  induction planes with
  | nil => exact fun e he => absurd he List.not_mem_nil
  | cons plane planes ih =>
    unfold writePlanes
    dsimp only
    split
    · exact List.forall_mem_cons.mpr ⟨hevent _ _ _, ih⟩
    · exact List.forall_mem_singleton.mpr (hevent _ _ _)

/-- **A frame in an open session** appends neutral events and then its row, or
no row. -/
theorem writeFrame_cases (config : SaveConfig) (x : Snapshot) (a : SaveFaults) (s : SaveState) :
    ∃ files tail, (∀ e ∈ files, e.Neutral)
      ∧ (tail = [] ∨ ∃ answer,
          tail = [.row s.sessionDir (x.row config s.savedFrameCount) answer])
      ∧ (s.writeFrame config x a).1.log = s.log ++ files ++ tail
      ∧ (s.writeFrame config x a).1.active = s.active
      ∧ (s.writeFrame config x a).1.sessionDir = s.sessionDir
      ∧ (s.writeFrame config x a).1.dirs = s.dirs := by
  refine ⟨(writePlanes s.sessionDir s.savedFrameCount a (x.writable config)).1,
    if (writePlanes s.sessionDir s.savedFrameCount a (x.writable config)).2 = false then []
    else if s.csv.good then [.row s.sessionDir (x.row config s.savedFrameCount) a.row] else [],
    writePlanes_neutral _ _ _ _, ?_, ?_⟩
  · split
    · exact Or.inl rfl
    · split
      · exact Or.inr ⟨_, rfl⟩
      · exact Or.inl rfl
  · unfold SaveState.writeFrame
    dsimp only
    split
    · exact ⟨(List.append_nil _).symm, rfl, rfl, rfl⟩
    · exact ⟨rfl, rfl, rfl, rfl⟩

end SaveState

/-! ## What keeps sessions homogeneous

`Homogeneous` is a property of the log, and is kept by what is put behind it:
events that are neutral, the `camera.json` of a directory that holds nothing
yet, and a row of the same format with a later frame number. Each part of the
saving comes down to one of the three. -/

namespace Homogeneous

variable {log events : List SaveEvent} {dir : Option ℕ}

/-- Neutral events do. -/
theorem append (h : Homogeneous log) (hneutral : ∀ e ∈ events, e.Neutral) :
    Homogeneous (log ++ events) := by
  have hrow : ∀ {dir r answer}, .row dir r answer ∈ log ++ events →
      .row dir r answer ∈ log := by
    intro dir r answer hmem
    rcases List.mem_append.mp hmem with hmem | hmem
    · exact hmem
    · exact absurd rfl ((hneutral _ hmem).1 dir r answer)
  have hjson : ∀ {dir json write}, .cameraJson dir json write ∈ log ++ events →
      .cameraJson dir json write ∈ log := by
    intro dir json write hmem
    rcases List.mem_append.mp hmem with hmem | hmem
    · exact hmem
    · exact absurd rfl ((hneutral _ hmem).2 dir json write)
  refine ⟨fun dir json write r answer hmem hmem' =>
    h.format dir json write r answer (hjson hmem) (hrow hmem'), fun dir r answer hmem => ?_, ?_⟩
  · obtain ⟨json, write, hmem'⟩ := h.recorded dir r answer (hrow hmem)
    exact ⟨json, write, List.mem_append_left _ hmem'⟩
  · refine List.pairwise_append.mpr ⟨h.increasing, ?_, ?_⟩
    · refine List.pairwise_of_forall_mem_list (fun e he e' _ dir r answer _ _ heq _ => ?_)
      exact absurd heq ((hneutral e he).1 dir r answer)
    · intro e _ e' he' dir r answer r' answer' _ heq
      exact absurd heq ((hneutral e' he').1 dir r' answer')

/-- The `camera.json` of a new directory does. -/
theorem snoc_cameraJson (h : Homogeneous log) (hnew : ∀ r answer, .row dir r answer ∉ log)
    (json : CameraJson) (write : FileWrite) :
    Homogeneous (log ++ [.cameraJson dir json write]) := by
  have hrow : ∀ {dir' r answer}, .row dir' r answer ∈ log ++ [.cameraJson dir json write] →
      .row dir' r answer ∈ log := by
    intro dir' r answer hmem
    rcases List.mem_append.mp hmem with hmem | hmem
    · exact hmem
    · cases List.mem_singleton.mp hmem
  refine ⟨fun dir' json' write' r answer hmem hmem' => ?_, fun dir' r answer hmem => ?_, ?_⟩
  · rcases List.mem_append.mp hmem with hmem | hmem
    · exact h.format dir' json' write' r answer hmem (hrow hmem')
    · cases List.mem_singleton.mp hmem
      exact absurd (hrow hmem') (hnew r answer)
  · obtain ⟨json', write', hmem'⟩ := h.recorded dir' r answer (hrow hmem)
    exact ⟨json', write', List.mem_append_left _ hmem'⟩
  · refine List.pairwise_append.mpr ⟨h.increasing, List.pairwise_singleton _ _, ?_⟩
    intro e _ e' he' dir' r answer r' answer' _ heq
    cases (List.mem_singleton.mp he').symm.trans heq

/-- A row that agrees with the `camera.json`, and comes later than the other
rows, does. -/
theorem snoc_row (h : Homogeneous log) {r : SaveRow}
    (hjson : ∃ json write, .cameraJson dir json write ∈ log)
    (hagree : ∀ json write, .cameraJson dir json write ∈ log →
      r.toFrameFormat = json.toFrameFormat)
    (hlater : ∀ r' answer', .row dir r' answer' ∈ log → r'.frameId < r.frameId)
    (answer : PrintAnswer) : Homogeneous (log ++ [.row dir r answer]) := by
  have hmemJson : ∀ {dir' json write}, .cameraJson dir' json write ∈ log ++ [.row dir r answer] →
      .cameraJson dir' json write ∈ log := by
    intro dir' json write hmem
    rcases List.mem_append.mp hmem with hmem | hmem
    · exact hmem
    · cases List.mem_singleton.mp hmem
  refine ⟨fun dir' json write r' answer' hmem hmem' => ?_, fun dir' r' answer' hmem => ?_, ?_⟩
  · rcases List.mem_append.mp hmem' with hmem' | hmem'
    · exact h.format dir' json write r' answer' (hmemJson hmem) hmem'
    · cases List.mem_singleton.mp hmem'
      exact hagree json write (hmemJson hmem)
  · rcases List.mem_append.mp hmem with hmem | hmem
    · obtain ⟨json, write, hmem'⟩ := h.recorded dir' r' answer' hmem
      exact ⟨json, write, List.mem_append_left _ hmem'⟩
    · cases List.mem_singleton.mp hmem
      obtain ⟨json, write, hmem'⟩ := hjson
      exact ⟨json, write, List.mem_append_left _ hmem'⟩
  · refine List.pairwise_append.mpr ⟨h.increasing, List.pairwise_singleton _ _, ?_⟩
    intro e he e' he' dir' r₁ answer₁ r₂ answer₂ heq heq'
    cases (List.mem_singleton.mp he').symm.trans heq'
    rw [heq] at he
    exact hlater r₁ answer₁ he

end Homogeneous

namespace SaveState

variable {config : SaveConfig} {x : Snapshot} {a : SaveFaults} {s : SaveState}

/-- **What is kept of directories**: those that hold something were made, and
the open session has a `camera.json`. -/
structure Sound (s : SaveState) : Prop where
  /-- The property itself. -/
  homogeneous : Homogeneous s.log
  /-- A row is in a directory that was made. -/
  rowDirs : ∀ dir r answer, .row dir r answer ∈ s.log → ∃ d < s.dirs, dir = some d
  /-- So is a `camera.json`. -/
  jsonDirs : ∀ dir json write, .cameraJson dir json write ∈ s.log → ∃ d < s.dirs, dir = some d
  /-- The open session has one. -/
  opened : s.active = true → ∃ json write, .cameraJson s.sessionDir json write ∈ s.log

/-- **A session that is opened for a frame agrees with it**, also where its
`camera.json` fails. -/
theorem Sound.ensureSession (h : Sound s) (hagree : s.active = true → s.Agrees x config) :
    Sound (s.ensureSession config x a).1
      ∧ ((s.ensureSession config x a).2 = true → (s.ensureSession config x a).1.active = true)
      ∧ ((s.ensureSession config x a).1.active = true →
        (s.ensureSession config x a).1.Agrees x config)
      ∧ ∀ dir r answer, .row dir r answer ∈ (s.ensureSession config x a).1.log →
        .row dir r answer ∈ s.log := by
  unfold SaveState.ensureSession
  cases hactive : s.active with
  | true => exact ⟨h, fun _ => hactive, hagree, fun _ _ _ hmem => hmem⟩
  | false =>
    rw [if_neg Bool.false_ne_true]
    split
    · have hneutral : ∀ e ∈ [SaveEvent.notCreated], e.Neutral :=
        List.forall_mem_singleton.mpr
          ⟨fun _ _ _ => SaveEvent.noConfusion, fun _ _ _ => SaveEvent.noConfusion⟩
      have hmem : ∀ {e : SaveEvent}, e ≠ .notCreated → e ∈ s.log ++ [.notCreated] → e ∈ s.log := by
        intro e hne hmem
        rcases List.mem_append.mp hmem with hmem | hmem
        · exact hmem
        · exact absurd (List.mem_singleton.mp hmem) hne
      refine ⟨⟨h.homogeneous.append hneutral, fun dir r answer he => ?_,
        fun dir json write he => ?_, fun hopen => Bool.noConfusion hopen⟩,
        fun hopen => Bool.noConfusion hopen, fun hopen => ?_,
        fun _ _ _ he => hmem SaveEvent.noConfusion he⟩
      · exact h.rowDirs dir r answer (hmem SaveEvent.noConfusion he)
      · exact h.jsonDirs dir json write (hmem SaveEvent.noConfusion he)
      · exact absurd hopen Bool.false_ne_true
    · -- the directory is new, so nothing in the log is of it
      have hnew : ∀ r answer, .row (some s.dirs) r answer ∉ s.log := by
        intro r answer he
        obtain ⟨d, hd, heq⟩ := h.rowDirs _ r answer he
        cases heq
        exact Nat.lt_irrefl _ hd
      have hnewJson : ∀ json write, .cameraJson (some s.dirs) json write ∉ s.log := by
        intro json write he
        obtain ⟨d, hd, heq⟩ := h.jsonDirs _ json write he
        cases heq
        exact Nat.lt_irrefl _ hd
      have hrow : ∀ dir r answer, .row dir r answer ∈ s.log
          ++ [.cameraJson (some s.dirs) (x.cameraJson config) a.cameraJson] →
          .row dir r answer ∈ s.log := by
        intro dir r answer he
        rcases List.mem_append.mp he with he | he
        · exact he
        · cases List.mem_singleton.mp he
      refine ⟨⟨h.homogeneous.snoc_cameraJson hnew _ _, fun dir r answer he => ?_,
        fun dir json write he => ?_, fun _ => ⟨_, _, List.mem_append_right _ List.mem_cons_self⟩⟩,
        fun _ => rfl, fun _ json write he => ?_, hrow⟩
      · obtain ⟨d, hd, heq⟩ := h.rowDirs dir r answer (hrow dir r answer he)
        exact ⟨d, Nat.lt_succ_of_lt hd, heq⟩
      · rcases List.mem_append.mp he with he | he
        · obtain ⟨d, hd, heq⟩ := h.jsonDirs dir json write he
          exact ⟨d, Nat.lt_succ_of_lt hd, heq⟩
        · cases List.mem_singleton.mp he
          exact ⟨s.dirs, Nat.lt_succ_self _, rfl⟩
      · rcases List.mem_append.mp he with he | he
        · exact absurd he (hnewJson json write)
        · cases List.mem_singleton.mp he
          rfl

/-- Its row and its planes change nothing about that. -/
theorem Agrees.writeFrame (h : s.Agrees x config) :
    (s.writeFrame config x a).1.Agrees x config := by
  obtain ⟨files, tail, hneutral, htail, hlog, -, hdir, -⟩ := writeFrame_cases config x a s
  intro json write he
  rw [hlog, hdir] at he
  rcases List.mem_append.mp he with he | he
  · rcases List.mem_append.mp he with he | he
    · exact h json write he
    · exact absurd rfl ((hneutral _ he).2 _ json write)
  · rcases htail with rfl | ⟨answer, rfl⟩
    · cases he
    · cases List.mem_singleton.mp he

/-- **A frame that agrees with the open session** keeps it homogeneous, if it
is later than those saved of its capture. -/
theorem Sound.writeFrame (h : Sound s) (hactive : s.active = true) (hagree : s.Agrees x config)
    (hlater : ∀ dir r answer, .row dir r answer ∈ s.log → r.capture = x.capture →
      r.frameId < x.header.frameId) :
    Sound (s.writeFrame config x a).1
      ∧ ∀ dir r answer, .row dir r answer ∈ (s.writeFrame config x a).1.log →
        .row dir r answer ∈ s.log ∨ r.capture = x.capture ∧ r.frameId = x.header.frameId := by
  obtain ⟨files, tail, hneutral, htail, hlog, hactive', hdir, hdirs⟩ :=
    writeFrame_cases config x a s
  obtain ⟨json, write, hjson⟩ := h.opened hactive
  have hfiles := h.homogeneous.append hneutral
  have hrow : ∀ {dir r answer}, .row dir r answer ∈ s.log ++ files →
      .row dir r answer ∈ s.log := by
    intro dir r answer he
    rcases List.mem_append.mp he with he | he
    · exact he
    · exact absurd rfl ((hneutral _ he).1 dir r answer)
  have hmemJson : ∀ {dir json write}, .cameraJson dir json write ∈ s.log ++ files →
      .cameraJson dir json write ∈ s.log := by
    intro dir json write he
    rcases List.mem_append.mp he with he | he
    · exact he
    · exact absurd rfl ((hneutral _ he).2 dir json write)
  have hjson' := List.mem_append_left files hjson
  rcases htail with rfl | ⟨answer, rfl⟩
  · rw [List.append_nil] at hlog
    refine ⟨⟨by rw [hlog]; exact hfiles, fun dir r answer he => ?_, fun dir json write he => ?_,
      fun _ => ⟨json, write, by rw [hlog, hdir]; exact hjson'⟩⟩, fun dir r answer he => ?_⟩
    · rw [hlog] at he
      rw [hdirs]
      exact h.rowDirs dir r answer (hrow he)
    · rw [hlog] at he
      rw [hdirs]
      exact h.jsonDirs dir json write (hmemJson he)
    · rw [hlog] at he
      exact Or.inl (hrow he)
  · have hold : ∀ {dir r' answer'}, .row dir r' answer' ∈ s.log ++ files
        ++ [.row s.sessionDir (x.row config s.savedFrameCount) answer] →
        .row dir r' answer' ∈ s.log
          ∨ dir = s.sessionDir ∧ r' = x.row config s.savedFrameCount := by
      intro dir r' answer' he
      rcases List.mem_append.mp he with he | he
      · exact Or.inl (hrow he)
      · cases List.mem_singleton.mp he
        exact Or.inr ⟨rfl, rfl⟩
    -- the row goes to the directory of the open session
    obtain ⟨d, hd, hsession⟩ := h.jsonDirs _ json write hjson
    refine ⟨⟨?_, fun dir r' answer' he => ?_, fun dir json' write' he => ?_,
      fun _ => ⟨json, write, by rw [hlog, hdir]; exact List.mem_append_left _ hjson'⟩⟩,
      fun dir r' answer' he => ?_⟩
    · rw [hlog]
      refine hfiles.snoc_row ⟨json, write, hjson'⟩ (fun json' write' he => ?_)
        (fun r' answer' he => ?_) answer
      · exact hagree json' write' (hmemJson he)
      · -- the rows of the session are of the frame's capture
        have hsame := (h.homogeneous.format _ json write r' answer' hjson (hrow he)).trans
          (hagree json write hjson).symm
        exact hlater _ r' answer' (hrow he) (congrArg FrameFormat.capture hsame)
    · rw [hlog] at he
      rw [hdirs]
      rcases hold he with he | ⟨rfl, -⟩
      · exact h.rowDirs dir r' answer' he
      · exact ⟨d, hd, hsession⟩
    · rw [hlog] at he
      rw [hdirs]
      rcases List.mem_append.mp he with he | he
      · exact h.jsonDirs dir json' write' (hmemJson he)
      · cases List.mem_singleton.mp he
    · rw [hlog] at he
      rcases hold he with he | ⟨-, rfl⟩
      · exact Or.inl he
      · exact Or.inr ⟨rfl, rfl⟩

/-- **What is done under the mutex.** -/
theorem Sound.saveLocked (h : Sound s)
    (hagree : s.active = true → s.full config = false → s.Agrees x config)
    (hlater : ∀ dir r answer, .row dir r answer ∈ s.log → r.capture = x.capture →
      r.frameId < x.header.frameId) :
    Sound (s.saveLocked config x a).1
      ∧ (s.full config = false → (s.saveLocked config x a).1.active = true →
        (s.saveLocked config x a).1.Agrees x config)
      ∧ ∀ dir r answer, .row dir r answer ∈ (s.saveLocked config x a).1.log →
        .row dir r answer ∈ s.log ∨ r.capture = x.capture ∧ r.frameId = x.header.frameId := by
  unfold SaveState.saveLocked
  cases hfull : s.full config with
  | true => exact ⟨h, fun hroom => Bool.noConfusion hroom, fun _ _ _ he => Or.inl he⟩
  | false =>
    obtain ⟨hsound, hopened, hagrees, hrows⟩ := h.ensureSession (a := a) (fun ha => hagree ha hfull)
    rw [if_neg Bool.false_ne_true]
    dsimp only
    rcases hensured : s.ensureSession config x a with ⟨s', returned⟩
    rw [hensured] at hsound hopened hagrees hrows
    cases returned with
    | false =>
      exact ⟨hsound, fun _ => hagrees, fun dir r answer he => Or.inl (hrows dir r answer he)⟩
    | true =>
      have hagree' := hagrees (hopened rfl)
      obtain ⟨hsound', hrows'⟩ := hsound.writeFrame (a := a) (hopened rfl) hagree'
        (fun dir r answer he => hlater dir r answer (hrows dir r answer he))
      refine ⟨hsound', fun _ _ => hagree'.writeFrame, fun dir r answer he => ?_⟩
      rcases hrows' dir r answer he with he | he
      · exact Or.inl (hrows dir r answer he)
      · exact Or.inr he

/-- The handler adds no row and no `camera.json`. -/
theorem Sound.saveFailed (h : Sound s) (moved : ℕ) :
    Sound (s.saveFailed moved) ∧ ∀ dir r answer, .row dir r answer ∈ (s.saveFailed moved).log →
      .row dir r answer ∈ s.log := by
  have hneutral : ∀ e ∈ (csvRows (s.csv.held.take moved)).map SaveEvent.lateRow, e.Neutral := by
    intro e he
    obtain ⟨r, -, rfl⟩ := List.mem_map.mp he
    exact ⟨fun _ _ _ => SaveEvent.noConfusion, fun _ _ _ => SaveEvent.noConfusion⟩
  have hrow : ∀ dir r answer, .row dir r answer ∈ (s.saveFailed moved).log →
      .row dir r answer ∈ s.log := by
    intro dir r answer he
    rcases List.mem_append.mp he with he | he
    · exact he
    · exact absurd rfl ((hneutral _ he).1 dir r answer)
  refine ⟨⟨h.homogeneous.append hneutral, fun dir r answer he =>
    h.rowDirs dir r answer (hrow dir r answer he), fun dir json write he => ?_,
    fun hactive => Bool.noConfusion hactive⟩, hrow⟩
  rcases List.mem_append.mp he with he | he
  · exact h.jsonDirs dir json write he
  · exact absurd rfl ((hneutral _ he).2 dir json write)

end SaveState

/-! ## Runs

What is left is to see that a frame which is saved into an open session is later
than the frames saved before, and of the same source. The first is because
frames arrive in order and the worker holds one at a time (`Ordered`). The
second is where the condition is used: the record `taken` is of the first frame
since the closing, and as long as a session is open it was opened by a frame of
that source (`Taken`). -/

namespace SavingWorker

/-- The frame that the worker is to save. -/
def held : SavingWorker → Option Snapshot
  | idle => none
  | chosen x => some x
  | copied x _ => some x
  | thrown => none

end SavingWorker

namespace SavingViewer

variable {s s' : SavingViewer} {a : MixingStep}

/-- **The frames saved arrived in order**, and the one the worker holds is the
last. -/
structure Ordered (s : SavingViewer) : Prop where
  /-- No row is of a frame that comes behind the last received. -/
  rows : ∀ dir r answer, .row dir r answer ∈ s.save.log →
    (arrival r.capture r.frameId : WithBot (ℕ ×ₗ ℕ)) ≤ s.arrived
  /-- The frame that the worker holds is the last received, and no row is of
  that. -/
  held : ∀ x, s.worker.held = some x →
    s.arrived = (arrival x.capture x.header.frameId : WithBot (ℕ ×ₗ ℕ))
      ∧ ∀ dir r answer, .row dir r answer ∈ s.save.log →
        arrival r.capture r.frameId < arrival x.capture x.header.frameId

/-- Of two frames of one capture the earlier has the smaller number. -/
theorem frameId_lt_of_arrival {c : ℕ} {i j : UInt64} (h : arrival c i < arrival c j) : i < j := by
  rcases Prod.Lex.lt_iff.mp h with hlt | ⟨-, hlt⟩
  · exact absurd hlt (Nat.lt_irrefl c)
  · exact UInt64.lt_iff_toNat_lt.mpr hlt

theorem snapshot_arrival (f : DecodedFrame) (config : SaveConfig) :
    (f.snapshot config).capture = f.capture ∧ (f.snapshot config).header = f.header := by
  unfold DecodedFrame.snapshot
  split
  · cases f.compute <;> exact ⟨rfl, rfl⟩
  · exact ⟨rfl, rfl⟩

/-- **A frame is received**, later than all that were saved. -/
theorem Ordered.receive (h : s.Ordered) {f : DecodedFrame}
    (hlater : s.arrived < (arrival f.capture f.header.frameId : WithBot (ℕ ×ₗ ℕ))) :
    Ordered { s with
      worker := .chosen (f.snapshot s.config)
      arrived := arrival f.capture f.header.frameId } := by
  obtain ⟨hcapture, hheader⟩ := snapshot_arrival f s.config
  refine ⟨fun dir r answer he => ((h.rows dir r answer he).trans_lt hlater).le, fun x hx => ?_⟩
  cases hx
  rw [hcapture, hheader]
  exact ⟨rfl, fun dir r answer he =>
    WithBot.coe_lt_coe.mp ((h.rows dir r answer he).trans_lt hlater)⟩

/-- **A frame is saved**: a row that is added is of that frame, which came last. -/
theorem Ordered.save (h : s.Ordered) {x : Snapshot} {config : SaveConfig}
    {faults : SaveFaults}
    (harrived : s.arrived = (arrival x.capture x.header.frameId : WithBot (ℕ ×ₗ ℕ)))
    (hrows : ∀ dir r answer, .row dir r answer ∈ (s.save.saveLocked config x faults).1.log →
      .row dir r answer ∈ s.save.log ∨ r.capture = x.capture ∧ r.frameId = x.header.frameId) :
    Ordered { s with
      save := (s.save.saveLocked config x faults).1
      worker := if (s.save.saveLocked config x faults).2 then .idle else .thrown } := by
  refine ⟨fun dir r answer he => ?_, fun y hy => ?_⟩
  · rcases hrows dir r answer he with he | ⟨hcapture, hframe⟩
    · exact h.rows dir r answer he
    · dsimp only
      rw [hcapture, hframe, harrived]
  · dsimp only at hy
    split at hy
    · cases hy
    · cases hy

/-- **The first frame that was taken up** says what the open session is of, and
what the frame is that the worker is about to save. -/
structure Taken (s : SavingViewer) : Prop where
  /-- An open session is of the first frame that was taken up. -/
  opened : s.save.active = true → ∃ first ∈ s.taken, s.save.Agrees first.1 first.2
  /-- A frame that is about to be saved has the format of that. -/
  held : ∀ x config, s.worker = .copied x config → s.save.full config = false →
    ∃ first ∈ s.taken, x.format config = first.1.format first.2

/-- A frame that is saved agrees with the open session. -/
theorem Taken.agrees (h : s.Taken) {x : Snapshot} {config : SaveConfig}
    (hcopied : s.worker = .copied x config) (hactive : s.save.active = true)
    (hroom : s.save.full config = false) : s.save.Agrees x config := by
  obtain ⟨first, hfirst, hagrees⟩ := h.opened hactive
  obtain ⟨first', hfirst', hformat⟩ := h.held x config hcopied hroom
  obtain rfl : first = first' := Option.mem_unique hfirst hfirst'
  exact fun json write he => hformat.trans (hagrees json write he)

/-- A worker that holds no copy leaves nothing to say about it. -/
theorem held_of_ne {s : SavingViewer} (h : ∀ x config, s.worker ≠ .copied x config) :
    ∀ x config, s.worker = .copied x config → s.save.full config = false →
      ∃ first ∈ s.taken, x.format config = first.1.format first.2 :=
  fun x config hcopied => absurd hcopied (h x config)

/-- **The closing** begins with the frame that the worker holds. -/
theorem Taken.close (s : SavingViewer) (moved : ℕ) :
    Taken { s with save := s.save.close moved, closing := false, taken := s.worker.copy } := by
  refine ⟨fun hactive => Bool.noConfusion hactive, fun x config hcopied _ => ?_⟩
  refine ⟨(x, config), ?_, rfl⟩
  dsimp only at hcopied ⊢
  rw [hcopied]
  rfl

/-- **A frame is taken up**, of the source of the first. -/
theorem Taken.copyConfig (h : s.Taken) {x : Snapshot} {config : SaveConfig}
    (hsource : s.save.full config = false →
      ∀ first ∈ s.taken, SameSource x config first.1 first.2) :
    Taken { s with
      worker := .copied x config
      taken := if s.save.full config then s.taken else s.taken.or (some (x, config)) } := by
  have hfirst : ∀ first ∈ s.taken,
      first ∈ if s.save.full config then s.taken else s.taken.or (some (x, config)) := by
    intro first hmem
    split
    · exact hmem
    · rw [Option.mem_def.mp hmem]
      rfl
  refine ⟨fun hactive => ?_, fun y config' hcopied hroom => ?_⟩
  · obtain ⟨first, hmem, hagrees⟩ := h.opened hactive
    exact ⟨first, hfirst first hmem, hagrees⟩
  · cases hcopied
    dsimp only at hroom ⊢
    cases htaken : s.taken with
    | none =>
      rw [if_neg (by rw [hroom]; exact Bool.false_ne_true)]
      exact ⟨(x, config), rfl, rfl⟩
    | some first =>
      have hmem : first ∈ s.taken := htaken
      exact ⟨first, htaken ▸ hfirst first hmem, (hsource hroom first hmem).format_eq⟩

/-- **A frame is saved**, and the session that is open then is of the first. -/
theorem Taken.save (h : s.Taken) {x : Snapshot} {config : SaveConfig}
    {faults : SaveFaults} (hcopied : s.worker = .copied x config)
    (hagrees : s.save.full config = false → (s.save.saveLocked config x faults).1.active = true →
      (s.save.saveLocked config x faults).1.Agrees x config) :
    Taken { s with
      save := (s.save.saveLocked config x faults).1
      worker := if (s.save.saveLocked config x faults).2 then .idle else .thrown } := by
  refine ⟨fun hactive => ?_, held_of_ne fun y config' hne => ?_⟩
  · cases hroom : s.save.full config with
    | true =>
      have hsame : s.save.saveLocked config x faults = (s.save, true) := by
        unfold SaveState.saveLocked
        rw [if_pos hroom]
      dsimp only at hactive ⊢
      rw [hsame] at hactive ⊢
      exact h.opened hactive
    | false =>
      obtain ⟨first, hfirst, hformat⟩ := h.held x config hcopied hroom
      exact ⟨first, hfirst, fun json write he =>
        hformat.symm.trans (hagrees hroom hactive json write he)⟩
  · dsimp only at hne
    split at hne <;> cases hne

/-- **One step** keeps the sessions homogeneous, if it mixes no sources. -/
theorem sound_step (hsound : s.save.Sound) (hordered : s.Ordered) (htaken : s.Taken)
    (hunmixed : s.Unmixed a) (hstep : step s a = some s') :
    s'.save.Sound ∧ s'.Ordered ∧ s'.Taken := by
  unfold step at hstep
  cases a with
  | configure config =>
    dsimp only at hstep
    split at hstep
    · cases hstep
    · cases hstep
      exact ⟨hsound, ⟨hordered.rows, hordered.held⟩, htaken.opened, htaken.held⟩
  | setFrameType frameType =>
    dsimp only at hstep
    split at hstep
    · cases hstep
    · cases hstep
      exact ⟨hsound, ⟨hordered.rows, hordered.held⟩, htaken.opened, htaken.held⟩
  | command sent =>
    dsimp only at hstep
    split at hstep
    · cases hstep
    · cases hstep
      exact ⟨hsound, ⟨hordered.rows, hordered.held⟩, htaken.opened, htaken.held⟩
  | close moved =>
    dsimp only at hstep
    split at hstep
    · cases hstep
      exact ⟨⟨hsound.homogeneous, hsound.rowDirs, hsound.jsonDirs, fun h => Bool.noConfusion h⟩,
        ⟨hordered.rows, hordered.held⟩, Taken.close s moved⟩
    · cases hstep
  | receive f =>
    dsimp only at hstep
    split at hstep
    · next hidle =>
      split at hstep
      · next hlater =>
        cases hstep
        exact ⟨hsound, hordered.receive hlater, htaken.opened,
          held_of_ne fun _ _ => SavingWorker.noConfusion⟩
      · cases hstep
    · cases hstep
  | copyConfig =>
    dsimp only at hstep
    split at hstep
    · next x hchosen =>
      split at hstep
      · next hwanted =>
        cases hstep
        refine ⟨hsound, ⟨hordered.rows, fun y hy => hordered.held y ?_⟩,
          htaken.copyConfig (hunmixed x hchosen hwanted)⟩
        rw [hchosen]
        exact hy
      · cases hstep
        exact ⟨hsound, ⟨hordered.rows, fun y hy => absurd hy.symm (Option.some_ne_none y)⟩,
          htaken.opened, held_of_ne fun _ _ => SavingWorker.noConfusion⟩
    · cases hstep
  | save faults =>
    dsimp only at hstep
    split at hstep
    · next x config hcopied =>
      cases hstep
      obtain ⟨harrived, hearlier⟩ := hordered.held x (by rw [hcopied]; rfl)
      obtain ⟨hsound', hagrees, hrows⟩ := hsound.saveLocked (a := faults)
        (htaken.agrees hcopied)
        (fun dir r answer he hcapture => frameId_lt_of_arrival (c := x.capture)
          (hcapture ▸ hearlier dir r answer he))
      exact ⟨hsound', hordered.save harrived hrows, htaken.save hcopied hagrees⟩
    · cases hstep
  | handler moved =>
    dsimp only at hstep
    split at hstep
    · cases hstep
      obtain ⟨hsound', hrows⟩ := hsound.saveFailed moved
      exact ⟨hsound', ⟨fun dir r answer he => hordered.rows dir r answer (hrows dir r answer he),
        fun x hx => absurd hx.symm (Option.some_ne_none x)⟩, fun h => Bool.noConfusion h,
        held_of_ne fun _ _ => SavingWorker.noConfusion⟩
    · cases hstep

instance (x : Snapshot) (config : SaveConfig) (y : Snapshot) (config' : SaveConfig) :
    Decidable (SameSource x config y config') :=
  decidable_of_iff (x.capture = y.capture
      ∧ cstrToString x.header.frameType = cstrToString y.header.frameType
      ∧ x.header.mode = y.header.mode ∧ x.width = y.width ∧ x.height = y.height
      ∧ (cstrToString x.header.frameType = [] → config.frameType = config'.frameType)
      ∧ (x.header.mode = 0 → config.mode = config'.mode))
    ⟨fun ⟨hcapture, htype, hmode, hwidth, hheight, hconfig, hconfigMode⟩ =>
      ⟨hcapture, htype, hmode, hwidth, hheight, hconfig, hconfigMode⟩,
    fun h => ⟨h.capture, h.frameType, h.mode, h.width, h.height, h.configFrameType, h.configMode⟩⟩

instance (s : SavingViewer) (a : MixingStep) : Decidable (s.Unmixed a) :=
  match a, hw : s.worker with
  | .copyConfig, .chosen x => decidable_of_iff (x.wanted s.config.withDefaults = true →
        s.save.full s.config.withDefaults = false →
        ∀ first ∈ s.taken, SameSource x s.config.withDefaults first.1 first.2)
      ⟨fun h x' hw' => by cases hw.symm.trans hw'; exact h, fun h => h x hw⟩
  | .copyConfig, .idle => isTrue (fun _ hw' => by cases hw.symm.trans hw')
  | .copyConfig, .copied _ _ => isTrue (fun _ hw' => by cases hw.symm.trans hw')
  | .copyConfig, .thrown => isTrue (fun _ hw' => by cases hw.symm.trans hw')
  | .configure _, _ | .setFrameType _, _ | .command _, _ | .close _, _ | .receive _, _
  | .save _, _ | .handler _, _ => isTrue trivial

/-- A configuration that saves the raw plane. -/
def rawConfig : SaveConfig where
  saveProcessedFrames := true
  saveProcessedPlanes := [ascii "raw"]

/-- A frame of one pixel. -/
def onePixel (capture : ℕ) (frameId : UInt64) : DecodedFrame where
  capture := capture
  header := { frameId := frameId, rawWidth := 1, rawHeight := 1, rawBytes := 2 }
  compressedBytes := 2
  rawBytes := [1, 2]
  compute := none

/-- The steps of a frame. -/
def frameSteps (capture : ℕ) (frameId : UInt64) : List MixingStep :=
  [.receive (onePixel capture frameId), .copyConfig, .save {}]

/-- The directory and the frame number of a row. -/
def rowId : SaveEvent → Option (Option ℕ × UInt64)
  | .row dir r _ => some (dir, r.frameId)
  | _ => none

/-- The frame numbers of a directory increase. -/
theorem pairwise_rowId {log : List SaveEvent} (h : Homogeneous log) :
    (log.filterMap rowId).Pairwise (fun p q => p.1 = q.1 → p.2 < q.2) := by
  refine List.Pairwise.filterMap rowId (fun e e' hlt p hp q hq heq => ?_) h.increasing
  cases e with
  | row dir r answer =>
    cases e' with
    | row dir' r' answer' =>
      cases hp
      cases hq
      dsimp only at heq
      subst heq
      exact hlt dir r answer r' answer' rfl rfl
    | notCreated => cases hq
    | cameraJson dir json write => cases hq
    | planeFile dir path data write => cases hq
    | lateRow r' => cases hq
  | notCreated => cases hp
  | cameraJson dir json write => cases hp
  | planeFile dir path data write => cases hp
  | lateRow r => cases hp

end SavingViewer
