import TofNet.CaptureRun
import TofNet.DealiasIdentity
import TofNet.TofiCache

/-!
# Calibration, and the connections it comes over

The ISP's way of computing depth needs the dealias data of the camera module
that took the frame. The collector exports it for the mode it starts in, and
again for a mode that a StartCapture asks for, and notes in
`sent_dealias_modes` what the connection has had. The viewer keeps it in its
slots, which outlive the connection, and once more in the context that TOFI has
made of a slot, which outlives the connection as well.

Here are both programs, with as many sessions of collectors as there are
connections, each with a camera of its own. A session is that of `CaptureRun`,
and what is added to it is the camera's `mode_name_` and what has reached the
connection. The viewer's worker takes the messages of one connection at a time,
and its TOFI is that of `TofiCache`.

Two fields are histories, which no program reads: `slotFrom` is the connection
that a slot was received on, and `contextFrom` that of the slot which the TOFI
context was made with. `Calibration.used` says with them whose data the frame
that is now in `ensureTofi` would be computed with. Where the context is found
again it is that of the context, and where it is made anew that of the slot;
a context that the generic way has made is nobody's.
-/

/-! ## What is labelled with a frame type -/

/-- The frame type of a DealiasData message. -/
def Message.dealias? (m : Message) : Option Bytes :=
  if m.type = .dealiasData ∧ dealiasDataPayloadSize ≤ m.payload.length then some m.dealiasLabel
  else none

/-- The frame type of a DataFrame. -/
def Message.frame? (m : Message) : Option Bytes :=
  if m.type = .dataFrame ∧ dataFrameHeaderSize ≤ m.payload.length then
    some (cstrToString (DataFramePayloadHeader.decode m.payload).frameType)
  else none

/-- **Calibration precedes use**: a DataFrame of a frame type comes behind a
DealiasData message for it. -/
def Preceded (wire : List Message) : Prop :=
  ∀ before m after ft, wire = before ++ m :: after → m.frame? = some ft →
    ∃ m' ∈ before, m'.dealias? = some ft

/-! ## A session and its camera

The run of a session is that of `CaptureRun`, taken over whole, so that all that
has been shown of its captures holds here as well. What a step does to the mode
is read off the act that it does: only `switchMode` changes it, and only where
it returns true. A DataFrame is labelled with the mode that the camera is in
when the frame is made, and not with the one that was asked for. -/

/-- **A session, the mode of its camera, and what it has sent.** -/
structure CollectorSession extends CaptureRun where
  /-- `mode_name_`. -/
  modeName : Bytes
  /-- The messages of the connection, in order. -/
  wire : List Message := []

/-- `mode_name_` behind an act: `switchMode` sets it when it returns true. -/
def Act.modeAfter (r : CallResult) (modeName : Bytes) : Act → Bytes
  | .switchMode frameType => if r = .ok then frameType else modeName
  | _ => modeName

namespace CollectorSession

/-- The act that a step does, where it does one and no send fails. -/
def actOf (s : CollectorSession) : CaptureRun.Step → Option Act
  | .main _ _ => s.main.todo.head?
  | .capture _ => s.thread.todo.head?
  | _ => none

/-- `mode_name_` behind a step. -/
def modeAfter (s : CollectorSession) : CaptureRun.Step → Bytes
  | .main r _ => s.main.todo.head?.elim s.modeName (Act.modeAfter r s.modeName)
  | _ => s.modeName

/-- A frame is labelled with `mode_name_`. -/
def labels (s : CollectorSession) : CaptureRun.Step → Prop
  | .capture (.frame f _ _) => f.frameType = s.modeName
  | _ => True

instance (s : CollectorSession) (a : CaptureRun.Step) : Decidable (s.labels a) := by
  unfold labels
  split <;> infer_instance

/-- **One step of a session.** -/
def step (args : SessionArgs) : Machine CollectorSession CaptureRun.Step := fun s a =>
  if s.labels a then
    (CaptureRun.step args s.toCaptureRun a).map (fun run =>
      { toCaptureRun := run
        modeName := s.modeAfter a
        wire := s.wire ++ ((s.actOf a).bind Act.message?).toList })
  else none

/-- A new session, with what the last one has left of the camera. -/
def initial (args : SessionArgs) (capturing : Bool) (modeName : Bytes) : CollectorSession :=
  { toCaptureRun := CaptureRun.initial args capturing, modeName := modeName }

/-- **A capture is started in a mode whose dealias data has been sent.** -/
def Covered (s : CollectorSession) : CaptureRun.Step → Prop
  | .main _ _ => s.main.todo.head? = some .spawn → s.modeName ∈ s.sent
  | _ => True

instance (s : CollectorSession) (a : CaptureRun.Step) : Decidable (s.Covered a) := by
  unfold Covered
  split <;> infer_instance

end CollectorSession

/-! ## The viewer's worker

The worker reads one connection at a time, in the order of its messages, and may
be as far behind as it likes. Of what it does with a message only that is kept
which touches the files, the slots or TOFI. Where a handler throws, the worker
leaves the connection, and nothing that is still on it is ever read. -/

/-- What the worker does with a message, as far as TOFI is concerned;
`computes` says whether a DataFrame comes as far as `ensureTofi`. -/
def Message.tofiStep (m : Message) (answer : SaveAnswer) (computes : Bool) : Option TofiStep :=
  if m.type = .ccbFile then some (.ccbFile m answer)
  else if m.type = .cfgFile then some (.cfgFile m answer)
  else if m.type = .dealiasData then some (.dealiasData m)
  else if m.type = .dataFrame ∧ dataFrameHeaderSize ≤ m.payload.length ∧ computes = true then
    some (.dataFrame (DataFramePayloadHeader.decode m.payload))
  else none

/-- The handler of a message throws, and the worker leaves the connection. -/
def ViewerTofi.throws {κ γ : Type} (s : ViewerTofi κ γ) (m : Message) (answer : SaveAnswer) :
    Bool :=
  if m.type = .ccbFile then (s.handleCcbFile m answer).2.isSome
  else if m.type = .cfgFile then (s.handleCfgFile m answer).2.isSome
  else if m.type = .dealiasData then !(handleDealiasData m s.slots).isOk
  else m.type = .dataFrame && m.payload.length < dataFrameHeaderSize

/-- The slot that a message is stored in, if its handler stores it. -/
def ViewerTofi.stores {κ γ : Type} (s : ViewerTofi κ γ) (m : Message) : Option UInt8 :=
  if m.type = .dealiasData ∧ (handleDealiasData m s.slots).isOk = true then
    some (convertModeName m.dealiasLabel)
  else none

/-- **The sessions and the viewer.** `reading` is the connection whose messages
the worker takes, of the `accepted` ones the last, and `handled` is how many it
has taken. -/
structure Calibration (κ γ : Type) where
  /-- The sessions, by connection. -/
  sessions : ℕ → CollectorSession
  /-- The viewer. -/
  viewer : ViewerTofi κ γ
  /-- How many connections it has accepted. -/
  accepted : ℕ := 0
  /-- The one that its worker reads. -/
  reading : Option ℕ := none
  /-- How many messages of that have been handled. -/
  handled : ℕ := 0
  /-- The connection that a slot's data has come over. -/
  slotFrom : UInt8 → Option ℕ := fun _ => none
  /-- The connection of the slot that the context was made with. -/
  contextFrom : Option ℕ := none

/-- What happens: a step of a session, a call of the GUI, or a step of the
viewer's worker. -/
inductive CalibrationStep
  | session (n : ℕ) (a : CaptureRun.Step)
  | configure (config : ViewerConfig)
  | setFrameType (frameType : Bytes)
  | accept
  /-- The connection has ended, or a handler throws for a reason that is not
  modelled here. -/
  | leave
  | handle (answer : SaveAnswer) (computes : Bool)
  | ensure

namespace Calibration

variable {κ χ γ : Type}

/-- The connection whose slot `ensureTofi` uses, or has used for the context it
finds. -/
def used (s : Calibration κ γ) (r : TofiRequest) : Option ℕ :=
  let isp := s.viewer.config.isAdsd3500
  if s.viewer.tofi.hits isp (requestKey s.viewer.files isp r) = true then s.contextFrom
  else if isp = true then s.slotFrom (convertModeName r.frameType)
  else none

/-- The worker handles a message of the connection it reads. -/
def handleMessage (lib : TofiLibrary κ χ γ) (s : Calibration κ γ) (n : ℕ) (m : Message)
    (answer : SaveAnswer) (computes : Bool) : Option (Calibration κ γ) :=
  let viewer := match m.tofiStep answer computes with
    | some a => ViewerTofi.step lib s.viewer a
    | none => some s.viewer
  viewer.map (fun viewer => { s with
    viewer := viewer
    reading := if s.viewer.throws m answer = true then none else some n
    handled := s.handled + 1
    slotFrom := (s.viewer.stores m).elim s.slotFrom
      (fun mode => Function.update s.slotFrom mode (some n)) })

/-- The worker is in `ensureTofi`. -/
def ensure (lib : TofiLibrary κ χ γ) (s : Calibration κ γ) : Option (Calibration κ γ) :=
  match s.viewer.pending with
  | some r =>
    (ViewerTofi.step lib s.viewer .ensure).map (fun viewer =>
      { s with viewer := viewer, contextFrom := s.used r })
  | none => none

/-- **One step.** -/
def step (lib : TofiLibrary κ χ γ) (args : ℕ → SessionArgs) :
    Machine (Calibration κ γ) CalibrationStep := fun s a =>
  match a with
  | .session n a => (CollectorSession.step (args n) (s.sessions n) a).map (fun session =>
      { s with sessions := Function.update s.sessions n session })
  | .configure config => (ViewerTofi.step lib s.viewer (.configure config)).map (fun viewer =>
      { s with viewer := viewer })
  | .setFrameType frameType =>
    (ViewerTofi.step lib s.viewer (.setFrameType frameType)).map (fun viewer =>
      { s with viewer := viewer })
  | .accept =>
    if s.reading = none then
      some { s with reading := some s.accepted, accepted := s.accepted + 1, handled := 0 }
    else none
  | .leave => if s.viewer.pending = none then some { s with reading := none } else none
  | .handle answer computes =>
    if s.viewer.pending = none then
      match s.reading with
      | some n => (s.sessions n).wire[s.handled]?.bind (fun m =>
          s.handleMessage lib n m answer computes)
      | none => none
    else none
  | .ensure => s.ensure lib

/-- Before the first connection. -/
def initial (args : ℕ → SessionArgs) (capturing : ℕ → Bool) (modeNames : ℕ → Bytes)
    (config : ViewerConfig) (files : Files) : Calibration κ γ where
  sessions n := CollectorSession.initial (args n) (capturing n) (modeNames n)
  viewer := { config := config, files := files }

/-! ## The property

The property is one of a step, in the state before it. Its first half is about
the wires, and the viewer has no part in it. The second half is about the moment
in which `ensureTofi` is called and returns, on the ISP's way: it says of the
slot that goes into the computation that it came over the connection which the
frame came over, and so of the module that took the frame. The condition
(`Covered`) is on the state before the step too; it does not ask what
`ensureTofi` will find. -/

/-- **Calibration never crosses connections, in a step**: where a frame is
computed on the ISP's way, the slot is one that was received on the frame's
connection. -/
def Own (lib : TofiLibrary κ χ γ) (s : Calibration κ γ) (a : CalibrationStep) : Prop :=
  a = .ensure → ∀ r t, s.viewer.pending = some r → s.viewer.config.isAdsd3500 = true →
    s.viewer.ensure lib r = .ok t → ∃ n, s.reading = some n ∧ s.used r = some n

/-- **The property of a step.** -/
structure Sound (lib : TofiLibrary κ χ γ) (s : Calibration κ γ) (a : CalibrationStep) : Prop where
  /-- On every connection, frames come behind the data of their frame type. -/
  preceded : ∀ n, Preceded (s.sessions n).wire
  /-- A frame is computed with a slot of its own connection. -/
  own : s.Own lib a

/-- **The condition on a step.** A session starts a capture in a mode that it
has sent the dealias data of; and where `ensureTofi` is entered on the ISP's
way with a key that is noted, that way has made what is kept. The second is the
half of `ViewerTofi.ok` that a context of the generic way would break: it is
made of no slot at all, but it has the same key. -/
def Covered (s : Calibration κ γ) : CalibrationStep → Prop
  | .session n a => (s.sessions n).Covered a
  | .ensure => ∀ r, s.viewer.pending = some r → s.viewer.config.isAdsd3500 = true →
      s.viewer.tofi.hits true (requestKey s.viewer.files true r) = true →
        s.viewer.tofi.builtByIsp = true
  | .configure _ | .setFrameType _ | .accept | .leave | .handle _ _ => True

instance (s : Calibration κ γ) (a : CalibrationStep) : Decidable (s.Covered a) :=
  match a with
  | .session n a => inferInstanceAs (Decidable ((s.sessions n).Covered a))
  | .ensure =>
    match hr : s.viewer.pending with
    | none => isTrue (fun r h => nomatch hr.symm.trans h)
    | some r => decidable_of_iff
        (s.viewer.config.isAdsd3500 = true →
          s.viewer.tofi.hits true (requestKey s.viewer.files true r) = true →
            s.viewer.tofi.builtByIsp = true)
        ⟨fun h r' hr' => by cases hr.symm.trans hr'; exact h, fun h => h r hr⟩
  | .configure _ | .setFrameType _ | .accept | .leave | .handle _ _ => isTrue trivial

end Calibration
