import TofNet.EarlyExit
import TofNet.Ledger
import TofNet.ModeInfo
import TofNet.Transition

/-!
# What the sensor holds

`Adsd3500Sensor` as the owner of descriptors, mappings and buffer tables:
`open`, `setFrameType`, `start`, `stop` and the destructor, for any number of
video devices and with any system call failing. What the device is told is in
`Sensor`; here only what is acquired and released counts.

`setFrameType` releases all that the array of devices refers to and then calls
`open`, which replaces the array. `open` itself releases nothing, and
subscribes to the interrupts whenever it is called. So the resources are
accounted for as long as nobody else calls `open` on a sensor that holds any,
and the interrupts are subscribed once as long as it is called once
(`Opened`).

A handle is a number that is given out once and never again. So it can be said
of each whether the array refers to it and whether it was released, and what is
to hold is said of all of them (`Resources`). The array of devices is a value
here, and its replacement is seen: what the old one referred to is kept in a
field that the program does not have.
-/

namespace Adsd3500Sensor

/-! ## The state

A device refers to a descriptor or to none, to a table of buffers or to none,
and to the mappings in the table. The number of mappings is the number of
entries that count. -/

/-- `VideoDev`, with the mappings in the first `nVideoBuffers` entries of its
table. -/
structure VideoDev where
  /-- The descriptor of the device, … -/
  fd : Option ℕ := none
  /-- … and that of the sub-device. -/
  sfd : Option ℕ := none
  /-- The table of the mappings, … -/
  videoBuffers : Option ℕ := none
  /-- … and the mappings. -/
  buffers : List ℕ := []
  /-- The stream has been turned on. -/
  started : Bool := false
  deriving DecidableEq, Repr

/-- The handles a device refers to, in the order they are released. -/
def VideoDev.refs (dev : VideoDev) : List ℕ :=
  dev.buffers ++ (dev.videoBuffers.toList ++ (dev.fd.toList ++ dev.sfd.toList))

/-- What is fixed: the number of paths the sensor was given, whether the host
is connected by USB, whether the interrupts are available, and the sensor's
entry among the notifier's subscribers. -/
structure Setup where
  /-- The number of paths, … -/
  numVideoDevs : ℕ
  /-- … of which there is one at least. -/
  devices : 0 < numVideoDevs
  /-- The host is connected by USB. -/
  usb : Bool := false
  /-- There are interrupts. -/
  interruptsAvailable : Bool := false
  /-- The sensor, among the subscribers. -/
  self : ℕ := 0

/-- What the body of a loop over the devices works on. -/
structure AtDevice where
  /-- What was acquired and released. -/
  ledger : Ledger
  /-- The sensor was not opened before. -/
  firstRun : Bool
  /-- The device at hand. -/
  dev : VideoDev

end Adsd3500Sensor

/-- **The sensor.** `videoDevs` is null before the first `open`, and `sensors`
are the notifier's `m_sensors`. The ghost `replaced` has the handles that an
array referred to when `open` replaced it; `crashed` tells that an array that
is null was read. -/
structure Adsd3500Sensor where
  /-- The array of the devices. -/
  videoDevs : Option (List Adsd3500Sensor.VideoDev) := none
  /-- What was acquired and released. -/
  ledger : Ledger := {}
  /-- `m_firstRun`. -/
  firstRun : Bool := true
  /-- The ADSD3500 was asked about itself. -/
  adsd3500Queried : Bool := false
  /-- The frame type that was set last. -/
  frameType : Bytes := []
  /-- The subscribers, with repetitions. -/
  sensors : List ℕ := []
  /-- The sensor has not been destroyed. -/
  alive : Bool := true
  /-- An array that is null was read. -/
  crashed : Bool := false
  /-- What an array referred to when another took its place. -/
  replaced : List ℕ := []
  deriving DecidableEq, Repr

namespace Adsd3500Sensor

/-- The handles the current array refers to. -/
def refs (s : Adsd3500Sensor) : List ℕ := (s.videoDevs.getD []).flatMap VideoDev.refs

/-! ## Loops over the devices

`open`, `start`, `stop` and `setFrameType` go over the array in the same way,
and leave off at the first device that fails. The devices behind it are as they
were. -/

/-- The body for each device in turn, up to the first that leaves it. -/
def eachDev (body : ℕ → EStateM Status AtDevice Unit) (i : ℕ) (ledger : Ledger)
    (firstRun : Bool) : List VideoDev → Option Status × (Ledger × Bool × List VideoDev)
  | [] => (none, ledger, firstRun, [])
  | dev :: devs =>
    match body i ⟨ledger, firstRun, dev⟩ with
    | .ok _ t =>
      let r := eachDev body (i + 1) t.ledger t.firstRun devs
      (r.1, r.2.1, r.2.2.1, t.dev :: r.2.2.2)
    | .error e t => (some e, t.ledger, t.firstRun, t.dev :: devs)

/-- The sensor with an array that a loop goes over. -/
def each (body : ℕ → EStateM Status AtDevice Unit) (devs : List VideoDev) (s : Adsd3500Sensor) :
    Option Status × Adsd3500Sensor :=
  let r := eachDev body 0 s.ledger s.firstRun devs
  (r.1, { s with ledger := r.2.1, firstRun := r.2.2.1, videoDevs := some r.2.2.2 })

/-! ## `open`

The steps follow the source, each with its answer. Of those for one device only
three change anything: the two descriptors, and that the chip was checked. -/

/-- The steps of `open` for one device that may fail. -/
inductive OpenStep
  | stat
  | charDevice
  | openDevice
  | queryCap
  | cardName
  | videoCapture
  | streaming
  | statSub
  | charSubdevice
  | openSubdevice
  /-- The check of the chip, the first time. -/
  | chip
  deriving DecidableEq, Repr

/-- How the system answers one `open`: what fails, and the error of
`queryAdsd3500`. -/
structure OpenAnswers where
  /-- A step of the opening fails for a device. -/
  fails : ℕ → OpenStep → Bool := fun _ _ => false
  /-- The error of the query, if it has one. -/
  query : Option Status := none

/-- `dev->fd = ::open(devName, …)`. -/
def openFd (fails : Bool) : EStateM Status AtDevice Unit := do
  if fails then
    modify fun s => { s with dev := { s.dev with fd := none } }
    throw .genericError
  else
    modify fun s =>
      { s with ledger := s.ledger.acquire, dev := { s.dev with fd := some s.ledger.next } }

/-- `dev->sfd = ::open(subDevName, …)`. -/
def openSfd (fails : Bool) : EStateM Status AtDevice Unit := do
  if fails then
    modify fun s => { s with dev := { s.dev with sfd := none } }
    throw .genericError
  else
    modify fun s =>
      { s with ledger := s.ledger.acquire, dev := { s.dev with sfd := some s.ledger.next } }

/-- The checks of a device before it is opened, and behind that. -/
def checks (fails : OpenStep → Bool) (steps : List OpenStep) : EStateM Status AtDevice Unit :=
  steps.forM fun step => ensure (!fails step) .genericError

/-- The video device, which is not opened in the UVC context. -/
def openVideoDevice (fails : OpenStep → Bool) : EStateM Status AtDevice Unit := do
  checks fails [.stat, .charDevice]
  openFd (fails .openDevice)
  checks fails [.queryCap, .cardName, .videoCapture, .streaming]

/-- The sub-device. -/
def openSubdevice (fails : OpenStep → Bool) : EStateM Status AtDevice Unit := do
  checks fails [.statSub, .charSubdevice]
  openSfd (fails .openSubdevice)

/-- The check of the chip. -/
def checkChip (fails : Bool) : EStateM Status AtDevice Unit := do
  if (← get).firstRun then
    ensure (!fails) .genericError
    modify fun s => { s with firstRun := false }

/-- The body of the loop in `open`. -/
def openDevice (setup : Setup) (a : OpenAnswers) (i : ℕ) : EStateM Status AtDevice Unit := do
  if setup.usb then openSubdevice (a.fails i)
  else
    openVideoDevice (a.fails i)
    openSubdevice (a.fails i)
  checkChip (a.fails i .chip)

/-- `subscribeSensor`, where there are interrupts. -/
def subscribe (setup : Setup) (s : Adsd3500Sensor) : Adsd3500Sensor :=
  if setup.interruptsAvailable then { s with sensors := s.sensors ++ [setup.self] } else s

/-- The sensor where the loop in `open` starts. -/
def opening (setup : Setup) (s : Adsd3500Sensor) : Adsd3500Sensor :=
  { s.subscribe setup with replaced := s.replaced ++ s.refs }

/-- **`Adsd3500Sensor::open`**, with the error it returns. The array is a new
one. -/
def openSensor (setup : Setup) (a : OpenAnswers) (s : Adsd3500Sensor) :
    Option Status × Adsd3500Sensor :=
  match (s.opening setup).each (openDevice setup a) (List.replicate setup.numVideoDevs {}) with
  | (some e, s) => (some e, s)
  | (none, s) =>
    if s.adsd3500Queried then (none, s) else (a.query, { s with adsd3500Queried := true })

/-! ## `start` and `stop`

They change no handles. They are here since `setFrameType` and the destructor
stop the devices ahead of everything else. -/

/-- What fails when the devices are started. -/
structure StartAnswers where
  /-- A buffer cannot be queued. -/
  queueFails : ℕ → ℕ → Bool := fun _ _ => false
  /-- A stream cannot be turned on. -/
  streamOnFails : ℕ → Bool := fun _ => false

/-- The body of the loop in `start`. -/
def startDevice (a : StartAnswers) (i : ℕ) : EStateM Status AtDevice Unit := do
  ensure (!(← get).dev.started) .busy
  (List.range (← get).dev.buffers.length).forM fun k => ensure (!a.queueFails i k) .genericError
  ensure (!a.streamOnFails i) .genericError
  modify fun s => { s with dev := { s.dev with started := true } }

/-- `Adsd3500Sensor::start`. -/
def start (a : StartAnswers) (s : Adsd3500Sensor) : Adsd3500Sensor :=
  (s.each (startDevice a) (s.videoDevs.getD [])).2

/-- The body of the loop in `stop`. -/
def stopDevice (fails : ℕ → Bool) (i : ℕ) : EStateM Status AtDevice Unit := do
  ensure (← get).dev.started .busy
  ensure (!fails i) .genericError
  modify fun s => { s with dev := { s.dev with started := false } }

/-- `Adsd3500Sensor::stop`. -/
def stop (fails : ℕ → Bool) (s : Adsd3500Sensor) : Adsd3500Sensor :=
  (s.each (stopDevice fails) (s.videoDevs.getD [])).2

/-- The loop that calls `stop` for every device that is started; `fails` says
what fails in the call that device `i` is the reason for. -/
def stopStarted (fails : ℕ → ℕ → Bool) (setup : Setup) (s : Adsd3500Sensor) : Adsd3500Sensor :=
  (List.range setup.numVideoDevs).foldl
    (fun s i => if ((s.videoDevs.getD [])[i]?).any (·.started) then s.stop (fails i) else s) s

/-! ## `setFrameType`

It releases all that the array refers to, and opens the sensor again, and then
sets up the buffers of each device. As `open` makes a new array, the devices
have none. -/

/-- The steps of `setFrameType` for one device that may fail. -/
inductive BufferStep
  | freeBuffers
  | pixelFormat
  | setFormat
  | requestBuffers
  | allocate
  | queryBuffer (k : ℕ)
  | mapBuffer (k : ℕ)
  deriving DecidableEq, Repr

/-- How the system answers one `setFrameType`: the count that `REQBUFS` grants
and the error of `setMode` are among the answers. -/
structure FrameTypeAnswers where
  /-- A stream cannot be stopped. -/
  stopFails : ℕ → ℕ → Bool := fun _ _ => false
  /-- How the opening goes. -/
  opening : OpenAnswers := {}
  /-- The error of `setMode`, if it has one. -/
  mode : Option Status := none
  /-- A step with the buffers fails. -/
  fails : ℕ → BufferStep → Bool := fun _ _ => false
  /-- The buffers that are granted. -/
  grant : ℕ → ℕ := fun _ => 4

/-- All that the array refers to is unmapped, freed and closed; the array
stays as it is. -/
def releaseDevs (s : Adsd3500Sensor) : Adsd3500Sensor :=
  { s with ledger := s.ledger.releaseAll s.refs }

/-- The buffers of another frame type are given up. The pointer to the table
stays. -/
def freeBuffers : EStateM Status AtDevice Unit :=
  modify fun s =>
    { s with
      ledger := s.ledger.releaseAll (s.dev.buffers ++ s.dev.videoBuffers.toList)
      dev := { s.dev with buffers := [] } }

/-- `dev->videoBuffers = calloc(…)`. -/
def allocate (fails : Bool) : EStateM Status AtDevice Unit := do
  if fails then
    modify fun s => { s with dev := { s.dev with videoBuffers := none } }
    throw .genericError
  else
    modify fun s =>
      { s with
        ledger := s.ledger.acquire
        dev := { s.dev with videoBuffers := some s.ledger.next, buffers := [] } }

/-- One more buffer is mapped. -/
def mapBuffer (fails : BufferStep → Bool) (k : ℕ) : EStateM Status AtDevice Unit := do
  ensure (!fails (.queryBuffer k)) .genericError
  ensure (!fails (.mapBuffer k)) .genericError
  modify fun s =>
    { s with
      ledger := s.ledger.acquire
      dev := { s.dev with buffers := s.dev.buffers ++ [s.ledger.next] } }

/-- The format and the buffers of a device. -/
def requestBuffers (a : FrameTypeAnswers) (i : ℕ) : EStateM Status AtDevice Unit := do
  ensure (!a.fails i .pixelFormat) .genericError
  ensure (!a.fails i .setFormat) .genericError
  ensure (!a.fails i .requestBuffers) .genericError
  allocate (a.fails i .allocate)
  (List.range (a.grant i)).forM (mapBuffer (a.fails i))

/-- The body of the loop in `setFrameType`. It leaves with `ok` where the frame
type is the old one and the device has buffers. -/
def setBuffers (a : FrameTypeAnswers) (same : Bool) (i : ℕ) : EStateM Status AtDevice Unit := do
  if same then
    ensure ((← get).dev.buffers.isEmpty) .ok
  else
    freeBuffers
    ensure (!a.fails i .freeBuffers) .genericError
  requestBuffers a i

/-- The end of `setFrameType`, once the sensor is open. -/
def setMode (setup : Setup) (a : FrameTypeAnswers) (type : Bytes) (s : Adsd3500Sensor) :
    Status × Adsd3500Sensor :=
  match a.mode with
  | some e => (e, s)
  | none =>
    if setup.usb then (.ok, { s with frameType := type })
    else
      match s.each (setBuffers a (type = s.frameType)) (s.videoDevs.getD []) with
      | (some e, s) => (e, s)
      | (none, s) => (.ok, { s with frameType := type })

/-- **`Adsd3500Sensor::setFrameType`.** -/
def setFrameType (setup : Setup) (a : FrameTypeAnswers) (type : Bytes) (s : Adsd3500Sensor) :
    Status × Adsd3500Sensor :=
  match (s.stopStarted a.stopFails setup).releaseDevs.openSensor setup a.opening with
  | (some e, s) => (e, s)
  | (none, s) => s.setMode setup a type

/-- **The destructor**, after which there is no array. -/
def destroy (setup : Setup) (stopFails : ℕ → ℕ → Bool) (s : Adsd3500Sensor) : Adsd3500Sensor :=
  { (s.stopStarted stopFails setup).releaseDevs with videoDevs := none, alive := false }

/-! ## Runs

Calls come in any order, and other sensors subscribe in between. A call that
reads an array that is null has crashed (`withArray`). -/

/-- A call of the sensor, with the system's answers; or another sensor
subscribes. -/
inductive Call
  | open (a : OpenAnswers)
  | setFrameType (type : Bytes) (a : FrameTypeAnswers)
  | start (a : StartAnswers)
  | stop (fails : ℕ → Bool)
  | destroy (stopFails : ℕ → ℕ → Bool)
  | otherSubscribes (sensor : ℕ)

/-- The sensor once a call that reads the array is over. -/
def withArray (f : Adsd3500Sensor → Adsd3500Sensor) (s : Adsd3500Sensor) : Adsd3500Sensor :=
  if s.videoDevs.isSome then f s else { s with crashed := true }

/-- **A step.** -/
def step (setup : Setup) (s : Adsd3500Sensor) (call : Call) : Option Adsd3500Sensor :=
  if s.alive = false ∨ s.crashed = true then none
  else
    match call with
    | .open a => some (s.openSensor setup a).2
    | .setFrameType type a => some (s.withArray fun s => (s.setFrameType setup a type).2)
    | .start a => some (s.withArray (start a))
    | .stop fails => some (s.withArray (stop fails))
    | .destroy stopFails => some (s.withArray (destroy setup stopFails))
    | .otherSubscribes sensor =>
      if sensor = setup.self then none else some { s with sensors := s.sensors ++ [sensor] }

/-- `signalEventHandler`: the sensors whose handler an interrupt invokes, in
turn. -/
def signalEventHandler (alive : ℕ → Bool) (sensors : List ℕ) : List ℕ := sensors.filter alive

/-! ## What is to hold

The first part is about handles and does not know of interrupts; the second adds
the subscription. -/

/-- **The life of the descriptors, mappings and tables.** Each is referred to,
or has been released once, and not both; and those that a replaced array
referred to have been released. -/
structure Resources (s : Adsd3500Sensor) : Prop where
  /-- No array that is null was read. -/
  defined : s.crashed = false
  /-- A handle is referred to, or was released, and not both. -/
  accounted : ∀ h < s.ledger.next,
    (h ∈ s.refs ∧ h ∉ s.ledger.released) ∨ (h ∉ s.refs ∧ s.ledger.released.count h = 1)
  /-- None was released twice. -/
  releasedOnce : s.ledger.released.Nodup
  /-- What an array referred to that is gone was released. -/
  replaced : ∀ h ∈ s.replaced, h ∈ s.ledger.released

/-- **The life of the resources**, and of the subscription: where there are
interrupts, a sensor with an array has one, and an interrupt invokes its
handler once. -/
structure Sound (setup : Setup) (s : Adsd3500Sensor) : Prop extends Resources s where
  /-- The sensor is subscribed once. -/
  subscribed : setup.interruptsAvailable = true → s.videoDevs.isSome = true →
    s.sensors.count setup.self = 1
  /-- An interrupt is handed to it once. -/
  interrupted : ∀ alive : ℕ → Bool, setup.interruptsAvailable = true → alive setup.self = true →
    s.videoDevs.isSome = true → (signalEventHandler alive s.sensors).count setup.self = 1

/-- `open` is called on a sensor that holds nothing, and every other call comes
after an `open`. -/
def Replaceable (s : Adsd3500Sensor) : Call → Prop
  | .open _ => s.refs = []
  | .setFrameType _ _ | .start _ | .stop _ | .destroy _ => s.videoDevs.isSome = true
  | .otherSubscribes _ => True

/-- The calls that subscribe. -/
def Call.subscribes : Call → Bool
  | .open _ | .setFrameType _ _ => true
  | _ => false

/-- **What the sensor relies on**: the array may be replaced, and a sensor that
is subscribed to the interrupts is not opened again – which `setFrameType`
does. -/
def Opened (setup : Setup) (s : Adsd3500Sensor) (call : Call) : Prop :=
  s.Replaceable call ∧
    (call.subscribes = true → setup.interruptsAvailable = true → setup.self ∉ s.sensors)

instance (s : Adsd3500Sensor) (call : Call) : Decidable (s.Replaceable call) := by
  unfold Replaceable
  split <;> infer_instance

instance (setup : Setup) (s : Adsd3500Sensor) (call : Call) : Decidable (Opened setup s call) :=
  inferInstanceAs (Decidable (_ ∧ _))

end Adsd3500Sensor
