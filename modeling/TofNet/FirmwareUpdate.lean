import TofNet.BurstLeft
import TofNet.ModuleMemory

/-!
# The firmware update

`CameraItof::updateAdsd3500Firmware` once more, and now what it tells its
caller: which packets the device has taken when the update returns, what the
interrupts have reported, and whether the status says so. The program of
`BurstMode` leaves these aside; `updateFirmware_device` says that it is this
one without them.

The update goes wrong in two places. Burst mode is entered ahead of reading
the file, which is never tested, so that a file that is missing or empty is
installed as a firmware of no bytes; and the status an interrupt reports is
only logged, and any interrupt, even one from before the transfer, ends the
wait for it. `updateTells_iff` says when neither matters.
-/

/-! ## The interrupts

An interrupt reads a status register, and the read may fail, which leaves what
was there before. The interrupts of an update are given as lists, by when they
come; the wait looks at a flag once a second, so within a second only whether
there was one and which was the last makes a difference. -/

/-- `Adsd3500Status`. -/
inductive Adsd3500Status
  | ok
  | invalidMode
  | invalidJblfFilterSize
  | unsupportedCommand
  | invalidMemoryRegion
  | invalidFirmwareCrc
  | invalidImager
  | invalidCcb
  | flashHeaderParseError
  | flashFileParseError
  | spimError
  | invalidChipid
  | imagerCommunicationError
  | imagerBootFailure
  | firmwareUpdateComplete
  | nvmWriteComplete
  | imagerError
  | unknownErrorId
  deriving DecidableEq, Repr

/-- `convertIdToAdsd3500Status`. -/
def convertIdToAdsd3500Status (status : UInt16) : Adsd3500Status :=
  match status.toNat with
  | 0 => .ok
  | 1 => .invalidMode
  | 2 => .invalidJblfFilterSize
  | 3 => .unsupportedCommand
  | 4 => .invalidMemoryRegion
  | 5 => .invalidFirmwareCrc
  | 6 => .invalidImager
  | 7 => .invalidCcb
  | 8 => .flashHeaderParseError
  | 9 => .flashFileParseError
  | 10 => .spimError
  | 11 => .invalidChipid
  | 12 => .imagerCommunicationError
  | 13 => .imagerBootFailure
  | 14 => .firmwareUpdateComplete
  | 15 => .nvmWriteComplete
  | 16 => .imagerError
  | _ => .unknownErrorId

/-- An interrupt: what `statusRegister` holds after `adsd3500_read_cmd`, and
whether that has read it; nothing sets it otherwise. -/
structure Interrupt where
  /-- What the register holds. -/
  statusRegister : UInt16
  /-- It could be read. -/
  isRead : Bool := true
  deriving DecidableEq

/-- `adsd3500InterruptHandler`: what the callback is called with. -/
def adsd3500InterruptHandler (i : Interrupt) : Adsd3500Status :=
  convertIdToAdsd3500Status i.statusRegister

/-- **The interrupts of an update**, if there are any: those from the
registration of the callback until burst mode is left, those from then to the
wait, those of each second waited, and those from the end of the wait until
the callback is removed. -/
structure UpdateInterrupts where
  /-- There are interrupts. -/
  available : Bool := true
  /-- Those before burst mode is left. -/
  early : List Interrupt := []
  /-- Those between that and the wait. -/
  prompt : List Interrupt := []
  /-- Those of each second of the wait. -/
  seconds : ℕ → List Interrupt := fun _ => []
  /-- Those behind the wait. -/
  late : List Interrupt := []

/-- `m_fwUpdated` and `m_adsd3500Status`. -/
structure Notified where
  fwUpdated : Bool := false
  status : Adsd3500Status := .ok

/-- The callback. -/
def Notified.callback (_ : Notified) (i : Interrupt) : Notified where
  fwUpdated := true
  status := adsd3500InterruptHandler i

/-- The wait, with so many seconds left and so many gone. -/
def waitSeconds (seconds : ℕ → List Interrupt) : ℕ → ℕ → Notified → Notified
  | 0, _, s => s
  | left + 1, waited, s =>
    if s.fwUpdated = true then s
    else waitSeconds seconds left (waited + 1) ((seconds waited).foldl Notified.callback s)

namespace UpdateInterrupts

/-- `secondsTimeout`. -/
def secondsTimeout : ℕ := 60

/-- What the camera has been notified of when the callback is removed. -/
def notified (env : UpdateInterrupts) : Notified :=
  env.late.foldl Notified.callback
    (waitSeconds env.seconds secondsTimeout 0
      ((env.early ++ env.prompt).foldl Notified.callback {}))

/-- The update goes to its end. -/
def finishes (env : UpdateInterrupts) : Bool := !env.available || env.notified.fwUpdated

end UpdateInterrupts

/-! ## The update

The state has the packets that the device was written, in their order, beside
the device. The file is a list of bytes, of any length: the sizes in the header
and in the loop are cut as in the source, and with more packets than an `int`
counts what the program does is not defined. -/

/-- The device, and the packets that it has been written. -/
structure UpdateState where
  /-- The device. -/
  device : Adsd3500 := {}
  /-- The packets it has been written. -/
  accepted : List Bytes := []

abbrev Update (α : Type) := EStateM Exit UpdateState α

/-- A routine of the device. -/
def onDevice {α : Type} (m : Transfer α) : Update α := fun s =>
  match m s.device with
  | .ok a d => .ok a { s with device := d }
  | .error e d => .error e { s with device := d }

/-- The checksum that goes into the header. `crcFast` takes the length as an
`int`, and goes over no byte if that is negative. -/
def fwCrc (content : Bytes) : UInt32 :=
  crcFast (if content.length < 2 ^ 31 then content else []) true

/-- `packetsToSend`. -/
def packetsToSend (fwLen : ℕ) : ℕ :=
  if fwLen % flashPageSize ≠ 0 then fwLen / flashPageSize + 1 else fwLen / flashPageSize

/-- `data_out` of a packet: its page, with zeros behind the end. -/
def fwPage (content : Bytes) (i : ℕ) : Bytes :=
  let page := (content.drop (flashPageSize * i)).take flashPageSize
  page ++ List.replicate (flashPageSize - page.length) 0

section Program

variable (io : DriverAnswers)

/-- A packet that is written. -/
def send (packet : Bytes) : Update Unit := do
  onDevice (setExtCtrls io packet)
  modify (fun s => { s with accepted := s.accepted ++ [packet] })

/-- The loop over the packets from the `i`-th on. Where a page ends is an
`int`. -/
def sendPackets (content : Bytes) : ℕ → ℕ → Update Unit
  | 0, _ => pure ()
  | count + 1, i => do
    ensure (flashPageSize * (i + 1) < 2 ^ 31) .undefined
    send io (payloadPacket (fwPage content i))
    sendPackets content count (i + 1)

/-- **`updateAdsd3500Firmware`.** A file that cannot be read leaves the buffer
empty, and the buffer's size is put into a `uint32_t`. -/
def updateFirmware (env : UpdateInterrupts) (file : Option Bytes) : Update Unit := do
  let _ ← onDevice (readCmd io 0x0112)
  send io enterPacket
  let buffer := file.getD []
  let content := buffer.take (buffer.length % 2 ^ 32)
  send io (payloadPacket (fwUpgradeHeader fwCrc content))
  sendPackets io content (packetsToSend content.length) 0
  send io (payloadPacket switchBuf)
  ensure env.finishes (.status .genericError)

end Program

/-! ## What it tells

Three things are asked. Nothing undefined happens; if the update returns `OK`,
there is a file, the device has been given it as a whole, and the last status
that was heard reported success, where there are interrupts; and where there is
nothing to install, burst mode is not entered. What the caller is told is the
status, and what the device got is the list of packets. -/

/-- **The device has been given the firmware**: it entered burst mode, took a
header with the length and the checksum of the file, then the packets of the
file, filled up with zeros, and then the packet that leaves burst mode. -/
structure Updated (file : Bytes) (accepted : List Bytes) (header : Bytes) (packets : List Bytes) :
    Prop where
  /-- The packets are these and no others. -/
  accepted : accepted = [enterPacket, payloadPacket header] ++ packets.map payloadPacket
    ++ [payloadPacket switchBuf]
  /-- The header has the length of the file, … -/
  length : (get32 4 header).toNat = file.length
  /-- … and its checksum. -/
  crc : get32 12 header = crcFast file true
  /-- There are as many packets as it takes, … -/
  count : packets.length = (file.length + 255) / 256
  /-- … each of 256 bytes. -/
  page : ∀ packet ∈ packets, packet.length = 256
  /-- They are the file, and zeros. -/
  content : packets.flatten = file ++ List.replicate (256 * packets.length - file.length) 0

/-- The interrupts of the first second with any. -/
def firstReports (seconds : ℕ → List Interrupt) : ℕ → ℕ → List Interrupt
  | 0, _ => []
  | left + 1, waited =>
    if seconds waited = [] then firstReports seconds left (waited + 1) else seconds waited

/-- The interrupts that are heard from when the device has left burst mode:
those until the wait ends, and those behind it. -/
def UpdateInterrupts.heard (env : UpdateInterrupts) : List Interrupt :=
  env.prompt
    ++ (if env.early ++ env.prompt = [] then
        firstReports env.seconds UpdateInterrupts.secondsTimeout 0 else [])
    ++ env.late

/-- The last of them reported success. -/
def UpdateInterrupts.ReportsSuccess (env : UpdateInterrupts) : Prop :=
  ∃ i, env.heard.getLast? = some i ∧ i.isRead = true
    ∧ (adsd3500InterruptHandler i = .ok ∨ adsd3500InterruptHandler i = .firmwareUpdateComplete)

/-- **The update tells the truth.** -/
structure UpdateTells (io : DriverAnswers) (env : UpdateInterrupts) (file : Option Bytes)
    (d : Adsd3500) : Prop where
  /-- Nothing undefined happens. -/
  defined : ∀ t, updateFirmware io env file { device := d } ≠ .error .undefined t
  /-- Behind a success the device has the file, and has reported that it is
  installed. -/
  ok : ∀ t, updateFirmware io env file { device := d } = .ok () t →
    ∃ content, file = some content
      ∧ (∃ header packets, Updated content t.accepted header packets)
      ∧ (env.available = true → env.ReportsSuccess)
  /-- Without a file burst mode is not entered. -/
  standard : file = none ∨ file = some [] →
    enterPacket ∉ (finalState (updateFirmware io env file { device := d })).accepted

/-! ## The runs of its pieces

The program stops with one error only, whichever call fails, and so a run of it
is known from the first call that fails, if there is one. For the loop that is
the first packet which is lost, or the first whose end does not fit into an
`int`. -/

section Runs

variable {ε σ α β : Type} {m : EStateM ε σ α} {f : α → EStateM ε σ β} {s t : σ}

theorem bind_of_ok {a : α} (h : m s = .ok a t) : (m >>= f) s = f a t := by
  show EStateM.bind m f s = f a t
  rw [EStateM.bind, h]

theorem bind_of_error {e : ε} (h : m s = .error e t) : (m >>= f) s = .error e t := by
  show EStateM.bind m f s = .error e t
  rw [EStateM.bind, h]

/-- The program stops with one error only. -/
def StopsWith (m : EStateM ε σ α) (e : ε) : Prop := ∀ s e' t, m s = .error e' t → e' = e

theorem StopsWith.bind {e : ε} (hm : StopsWith m e) (hf : ∀ a, StopsWith (f a) e) :
    StopsWith (m >>= f) e := by
  intro s e' t h
  cases hs : m s with
  | ok a u =>
    rw [bind_of_ok hs] at h
    exact hf a u e' t h
  | error e'' u =>
    rw [bind_of_error hs] at h
    cases h
    exact hm s _ _ hs

end Runs

section Pieces

variable {io : DriverAnswers} {s : UpdateState} {packet content : Bytes}

theorem stopsWith_setExtCtrls (io : DriverAnswers) (packet : Bytes) :
    StopsWith (setExtCtrls io packet) (.status .genericError) := by
  intro d e t h
  unfold setExtCtrls at h
  split at h <;> cases h
  rfl

theorem stopsWith_getExtCtrls (io : DriverAnswers) :
    StopsWith (getExtCtrls io) (.status .genericError) := by
  intro d e t h
  unfold getExtCtrls at h
  split at h <;> cases h
  rfl

theorem stopsWith_readCmd (io : DriverAnswers) (cmd : UInt16) :
    StopsWith (readCmd io cmd) (.status .genericError) := by
  refine (stopsWith_setExtCtrls io _).bind (fun _ => ?_)
  refine (stopsWith_setExtCtrls io _).bind (fun _ => (stopsWith_getExtCtrls io).bind ?_)
  intro bytes d e t h
  cases h

/-- The state behind a packet that the device takes. -/
def UpdateState.sent (s : UpdateState) (packet : Bytes) : UpdateState where
  device :=
    { burst := Adsd3500.receive packet s.device.burst, calls := s.device.calls + 1 }
  accepted := s.accepted ++ [packet]

theorem send_of_taken (h : io.sets s.device.calls packet = true) :
    send io packet s = .ok () (s.sent packet) := by
  have hset : onDevice (setExtCtrls io packet) s = .ok ()
      { s with device :=
          { burst := Adsd3500.receive packet s.device.burst, calls := s.device.calls + 1 } } := by
    unfold onDevice setExtCtrls
    rw [if_pos h]
  exact bind_of_ok hset

theorem send_of_lost (h : ¬ io.sets s.device.calls packet = true) :
    send io packet s = .error (.status .genericError)
      { s with device := { s.device with calls := s.device.calls + 1 } } := by
  refine bind_of_error ?_
  unfold onDevice setExtCtrls
  rw [if_neg h]

/-- So many packets are counted by an `int`. -/
def maxPackets : ℕ := 2 ^ 23 - 1

theorem page_fits_iff (i : ℕ) : flashPageSize * (i + 1) < 2 ^ 31 ↔ i < maxPackets := by
  unfold flashPageSize maxPackets
  omega

/-- A packet that is not sent. -/
theorem sendPackets_of_not_fits {count i : ℕ} (h : ¬ i < maxPackets) :
    sendPackets io content (count + 1) i s = .error .undefined s := by
  refine bind_of_error ?_
  rw [ensure, if_neg (fun hd => h ((page_fits_iff i).mp (of_decide_eq_true hd)))]
  rfl

/-- A packet that is sent. -/
theorem sendPackets_of_fits {count i : ℕ} (h : i < maxPackets) :
    sendPackets io content (count + 1) i s
      = (send io (payloadPacket (fwPage content i)) >>= fun _ =>
          sendPackets io content count (i + 1)) s := by
  have hensure : (ensure (flashPageSize * (i + 1) < 2 ^ 31) .undefined : Update Unit) s
      = .ok () s := by
    rw [ensure, if_pos (decide_eq_true ((page_fits_iff i).mpr h))]
    rfl
  exact bind_of_ok hensure

theorem length_fwPage (content : Bytes) (i : ℕ) : (fwPage content i).length = 256 := by
  unfold fwPage
  dsimp only
  rw [List.length_append, List.length_replicate]
  exact Nat.add_sub_of_le (List.length_take_le _ _)

/-- A page leaves the mode alone. -/
theorem receive_fwPage (content : Bytes) (i : ℕ) (burst : Bool) :
    Adsd3500.receive (payloadPacket (fwPage content i)) burst = burst := by
  refine receive_of_neutral (neutral_payloadPacket ?_ (fun h => ?_)) burst
  · rw [length_fwPage]
    decide
  · have hlen := congrArg List.length h
    rw [length_fwPage] at hlen
    exact absurd hlen (by decide)

/-- The device takes the `k`-th packet, the call for the first being the
`n`-th. -/
def PageTaken (io : DriverAnswers) (content : Bytes) (n k : ℕ) : Prop :=
  io.sets (n + k) (payloadPacket (fwPage content k)) = true

/-- **The loop that goes through** sends every packet. -/
theorem sendPackets_of_taken {n : ℕ} (count i : ℕ) (s : UpdateState) (hs : s.device.calls = n + i)
    (h : ∀ k, i ≤ k → k < i + count → k < maxPackets ∧ PageTaken io content n k) :
    sendPackets io content count i s = .ok ()
      { device := { s.device with calls := n + i + count }
        accepted := s.accepted
          ++ (List.range' i count).map (fun k => payloadPacket (fwPage content k)) } := by
  induction count generalizing i s with
  | zero =>
    rw [List.range'_zero, List.map_nil, List.append_nil, Nat.add_zero, ← hs]
    rfl
  | succ count ih =>
    obtain ⟨hfits, htaken⟩ := h i le_rfl (by omega)
    rw [PageTaken, ← hs] at htaken
    rw [sendPackets_of_fits hfits, bind_of_ok (send_of_taken htaken),
      ih (i + 1) _ (congrArg (· + 1) hs) (fun k hk hk' => h k (by omega) (by omega))]
    unfold UpdateState.sent
    dsimp only
    rw [receive_fwPage, List.range'_succ, List.map_cons, List.append_assoc, List.singleton_append,
      ← Nat.add_assoc n i 1, Nat.add_right_comm (n + i) 1 count, ← Nat.add_assoc (n + i) count 1]

/-- **The loop that does not go through** stops with the error of a packet
that is lost, or with nothing that is defined where there are too many. -/
theorem sendPackets_of_not_taken {n : ℕ} (count i : ℕ) (s : UpdateState)
    (hs : s.device.calls = n + i)
    (h : ¬ ∀ k, i ≤ k → k < i + count → k < maxPackets ∧ PageTaken io content n k) :
    ∃ e t, sendPackets io content count i s = .error e t
      ∧ (e = .undefined ↔ maxPackets < i + count
        ∧ ∀ k, i ≤ k → k < maxPackets → PageTaken io content n k) := by
  induction count generalizing i s with
  | zero => exact absurd (fun k hk hk' => absurd hk' (by omega)) h
  | succ count ih =>
    by_cases hfits : i < maxPackets
    · rw [sendPackets_of_fits hfits]
      by_cases htaken : PageTaken io content n i
      · have hsets := htaken
        rw [PageTaken, ← hs] at hsets
        rw [bind_of_ok (send_of_taken hsets)]
        obtain ⟨e, t, hrun, he⟩ := ih (i + 1) (s.sent _) (congrArg (· + 1) hs) (fun hall => by
          refine h (fun k hk hk' => ?_)
          rcases Nat.eq_or_lt_of_le hk with rfl | hlt
          · exact ⟨hfits, htaken⟩
          · exact hall k hlt (by omega))
        refine ⟨e, t, hrun, he.trans (and_congr (by omega) ⟨fun hall k hk hk' => ?_,
          fun hall k hk hk' => hall k (by omega) hk'⟩)⟩
        rcases Nat.eq_or_lt_of_le hk with rfl | hlt
        · exact htaken
        · exact hall k hlt hk'
      · have hlost := htaken
        rw [PageTaken, ← hs] at hlost
        exact ⟨_, _, bind_of_error (send_of_lost hlost), iff_of_false (fun he => nomatch he)
          (fun hall => htaken (hall.2 i le_rfl hfits))⟩
    · exact ⟨_, _, sendPackets_of_not_fits hfits, iff_of_true rfl
        ⟨by omega, fun k hk hk' => absurd (lt_of_le_of_lt hk hk') hfits⟩⟩

end Pieces

/-! ## The run of the update

The ways in which the update ends are listed once (`sendFirmware_run`,
`updateFirmware_run`), each with the condition on the answers of the driver,
what has been sent, and the status. Everything that follows is a case analysis
over that list. -/

section Run

variable (io : DriverAnswers) (env : UpdateInterrupts) (content : Bytes)

/-- The update, once burst mode is entered. -/
def sendFirmware : Update Unit := do
  send io (payloadPacket (fwUpgradeHeader fwCrc content))
  sendPackets io content (packetsToSend content.length) 0
  send io (payloadPacket switchBuf)
  ensure env.finishes (.status .genericError)

/-- What is sent of a file. -/
def sentContent (file : Option Bytes) : Bytes :=
  (file.getD []).take ((file.getD []).length % 2 ^ 32)

theorem updateFirmware_eq (file : Option Bytes) :
    updateFirmware io env file
      = onDevice (readCmd io 0x0112) >>= fun _ => send io enterPacket >>= fun _ =>
          sendFirmware io env (sentContent file) := rfl

/-- The packets of the update behind the one that enters burst mode. -/
def firmwareLog : List Bytes :=
  [payloadPacket (fwUpgradeHeader fwCrc content)]
    ++ (List.range (packetsToSend content.length)).map (fun k => payloadPacket (fwPage content k))
    ++ [payloadPacket switchBuf]

/-- The device enters burst mode. -/
def EntersBurst (n : ℕ) : Prop := io.ChipIdRead n ∧ io.sets (n + 3) enterPacket = true

/-- It takes the header. -/
def HeaderTaken (n : ℕ) : Prop :=
  io.sets n (payloadPacket (fwUpgradeHeader fwCrc content)) = true

/-- **It takes the firmware**: the header, the packets, and the one that leaves
burst mode. -/
structure FirmwareTaken (n : ℕ) : Prop where
  /-- The header is taken. -/
  header : HeaderTaken io content n
  /-- The packets can be counted. -/
  few : packetsToSend content.length ≤ maxPackets
  /-- Each is taken, … -/
  pages : ∀ k < packetsToSend content.length, PageTaken io content (n + 1) k
  /-- … and the one that leaves burst mode. -/
  switch : io.sets (n + 1 + packetsToSend content.length) (payloadPacket switchBuf) = true

/-- **It takes as many packets as can be counted**, and there are more. -/
structure Overflows (n : ℕ) : Prop where
  /-- The header is taken. -/
  header : HeaderTaken io content n
  /-- There are more packets than can be counted. -/
  many : maxPackets < packetsToSend content.length
  /-- All that can be counted are taken. -/
  pages : ∀ k < maxPackets, PageTaken io content (n + 1) k

variable {io env content}

/-- **How the update goes on** in burst mode. -/
theorem sendFirmware_run {n : ℕ} (s : UpdateState) (hs : s.device.calls = n) :
    (FirmwareTaken io content n ∧ env.finishes = true
      ∧ ∃ t, sendFirmware io env content s = .ok () t
        ∧ t.accepted = s.accepted ++ firmwareLog content)
    ∨ (¬ (FirmwareTaken io content n ∧ env.finishes = true)
      ∧ ∃ e t, sendFirmware io env content s = .error e t
        ∧ (e = .undefined ↔ Overflows io content n)) := by
  unfold sendFirmware
  by_cases hheader : HeaderTaken io content n
  swap
  · have hlost := hheader
    rw [HeaderTaken, ← hs] at hlost
    exact Or.inr ⟨fun h => hheader h.1.header, _, _, bind_of_error (send_of_lost hlost),
      iff_of_false (fun he => nomatch he) (fun h => hheader h.header)⟩
  -- the header is taken, and the pages follow
  have hsets := hheader
  rw [HeaderTaken, ← hs] at hsets
  rw [bind_of_ok (send_of_taken hsets)]
  have hcalls : (s.sent (payloadPacket (fwUpgradeHeader fwCrc content))).device.calls
      = n + 1 + 0 := congrArg (· + 1) hs
  by_cases hpages : ∀ k, 0 ≤ k → k < 0 + packetsToSend content.length
      → k < maxPackets ∧ PageTaken io content (n + 1) k
  swap
  · obtain ⟨e, t, hrun, he⟩ := sendPackets_of_not_taken _ 0 _ hcalls hpages
    refine Or.inr ⟨fun h => hpages (fun k _ hk => ?_), e, t, bind_of_error hrun, he.trans ?_⟩
    · rw [Nat.zero_add] at hk
      exact ⟨lt_of_lt_of_le hk h.1.few, h.1.pages k hk⟩
    · rw [Nat.zero_add]
      exact ⟨fun h => ⟨hheader, h.1, fun k hk => h.2 k (Nat.zero_le k) hk⟩,
        fun h => ⟨h.many, fun k _ hk => h.pages k hk⟩⟩
  rw [bind_of_ok (sendPackets_of_taken _ 0 _ hcalls hpages), Nat.add_zero]
  rw [Nat.zero_add] at hpages
  -- all pages are taken, so that there are no more than the buffers
  have hfew : packetsToSend content.length ≤ maxPackets := by
    by_contra hmany
    exact absurd (hpages maxPackets (Nat.zero_le _) (not_le.mp hmany)).1 (lt_irrefl _)
  have hnot : ¬ Overflows io content n := fun h => absurd h.many (not_lt.mpr hfew)
  by_cases hswitch : io.sets (n + 1 + packetsToSend content.length) (payloadPacket switchBuf) = true
  swap
  · exact Or.inr ⟨fun h => hswitch h.1.switch, _, _, bind_of_error (send_of_lost hswitch),
      iff_of_false (fun he => nomatch he) hnot⟩
  have htaken : FirmwareTaken io content n :=
    ⟨hheader, hfew, fun k hk => (hpages k (Nat.zero_le k) hk).2, hswitch⟩
  rw [bind_of_ok (send_of_taken hswitch)]
  cases hfinishes : env.finishes with
  | true =>
    refine Or.inl ⟨htaken, rfl, _, rfl, ?_⟩
    show s.accepted ++ [_] ++ (List.range' 0 _).map _ ++ [_] = _
    rw [← List.range_eq_range', firmwareLog, List.append_assoc, List.append_assoc,
      List.append_assoc]
  | false =>
    exact Or.inr ⟨fun h => Bool.noConfusion h.2, _, _, rfl,
      iff_of_false (fun he => nomatch he) hnot⟩

/-! ### What the log keeps

Packets are only added to the log. So what has been sent before a failure is
still there, and that the device was given the header can be said at the end. -/

variable {s : UpdateState} {packet packet' : Bytes}

/-- What is written stays written. -/
theorem send_keeps (h : packet ∈ s.accepted) :
    Leaves (send io packet') s (fun _ t => packet ∈ t.accepted) (fun t => packet ∈ t.accepted) := by
  unfold Leaves
  by_cases htaken : io.sets s.device.calls packet' = true
  · rw [send_of_taken htaken]
    exact List.mem_append_left _ h
  · rw [send_of_lost htaken]
    exact h

theorem sendPackets_keeps (count i : ℕ) (h : packet ∈ s.accepted) :
    Leaves (sendPackets io content count i) s (fun _ t => packet ∈ t.accepted)
      (fun t => packet ∈ t.accepted) := by
  induction count generalizing i s with
  | zero => exact Leaves.pure h
  | succ count ih =>
    have hensure : Leaves (ensure (flashPageSize * (i + 1) < 2 ^ 31) .undefined : Update Unit) s
        (fun _ t => packet ∈ t.accepted) (fun t => packet ∈ t.accepted) := Leaves.ensure _ _ h h
    exact hensure.bind (fun _ _ ht => (send_keeps ht).bind (fun _ _ ht => ih (i + 1) ht))

theorem sendFirmware_keeps (h : packet ∈ s.accepted) :
    packet ∈ (finalState (sendFirmware io env content s)).accepted := by
  have hleaves : Leaves (sendFirmware io env content) s (fun _ t => packet ∈ t.accepted)
      (fun t => packet ∈ t.accepted) :=
    (send_keeps h).bind (fun _ _ ht => (sendPackets_keeps _ _ ht).bind
      (fun _ _ ht => (send_keeps ht).bind (fun _ _ ht => Leaves.ensure _ _ ht ht)))
  unfold Leaves at hleaves
  cases hrun : sendFirmware io env content s <;> rw [hrun] at hleaves <;> exact hleaves

/-! ### Entering

In front of the transfer the number of the chip is read, in the standard mode,
and then burst mode is entered. Only behind that is the file opened. -/

variable {d : Adsd3500} {file : Option Bytes}

/-- The chip's number is read. -/
theorem readChipId_run (h : io.ChipIdRead d.calls) :
    ∃ bytes, onDevice (readCmd io 0x0112) { device := d }
      = .ok bytes { device := { d with calls := d.calls + 3 } } := by
  obtain ⟨bytes, t, hrun, rfl⟩ := (readCmd_ends io 0x0112 d).returns h
  refine ⟨bytes, ?_⟩
  unfold onDevice
  rw [hrun]

/-- It is not read. -/
theorem readChipId_stops (h : ¬ io.ChipIdRead d.calls) :
    ∃ t : UpdateState, onDevice (readCmd io 0x0112) { device := d }
      = .error (.status .genericError) t ∧ t.accepted = [] := by
  obtain ⟨e, t, hrun, -⟩ := (readCmd_ends io 0x0112 d).stops h
  obtain rfl := stopsWith_readCmd io 0x0112 _ _ _ hrun
  refine ⟨{ device := t }, ?_, rfl⟩
  unfold onDevice
  rw [hrun]

/-- The state in which burst mode is entered. -/
def entered (d : Adsd3500) : UpdateState where
  device := { burst := true, calls := d.calls + 4 }
  accepted := [enterPacket]

theorem updateFirmware_of_enters (h : EntersBurst io d.calls) :
    updateFirmware io env file { device := d }
      = sendFirmware io env (sentContent file) (entered d) := by
  obtain ⟨bytes, hrun⟩ := readChipId_run h.1
  rw [updateFirmware_eq, bind_of_ok hrun, bind_of_ok (send_of_taken h.2)]
  unfold UpdateState.sent
  rw [receive_enterPacket]
  rfl

theorem updateFirmware_of_not_enters (env : UpdateInterrupts) (file : Option Bytes)
    (h : ¬ EntersBurst io d.calls) :
    ∃ t, updateFirmware io env file { device := d } = .error (.status .genericError) t
      ∧ t.accepted = [] := by
  rw [updateFirmware_eq]
  by_cases hchip : io.ChipIdRead d.calls
  · obtain ⟨bytes, hrun⟩ := readChipId_run hchip
    rw [bind_of_ok hrun]
    exact ⟨_, bind_of_error (send_of_lost (fun henter => h ⟨hchip, henter⟩)), rfl⟩
  · obtain ⟨t, hrun, ht⟩ := readChipId_stops hchip
    exact ⟨t, bind_of_error hrun, ht⟩

/-- **Burst mode is entered** where it can be. -/
theorem mem_accepted_iff :
    enterPacket ∈ (finalState (updateFirmware io env file { device := d })).accepted
      ↔ EntersBurst io d.calls := by
  by_cases h : EntersBurst io d.calls
  · rw [updateFirmware_of_enters h]
    exact iff_of_true (sendFirmware_keeps (List.mem_singleton.mpr rfl)) h
  · obtain ⟨t, hrun, ht⟩ := updateFirmware_of_not_enters env file h
    rw [hrun]
    refine iff_of_false (fun hmem => ?_) h
    rw [finalState, ht] at hmem
    exact absurd hmem List.not_mem_nil

/-- **How the update ends.** -/
theorem updateFirmware_run (io : DriverAnswers) (env : UpdateInterrupts) (file : Option Bytes)
    (d : Adsd3500) :
    (EntersBurst io d.calls ∧ FirmwareTaken io (sentContent file) (d.calls + 4)
      ∧ env.finishes = true
      ∧ ∃ t, updateFirmware io env file { device := d } = .ok () t
        ∧ t.accepted = [enterPacket] ++ firmwareLog (sentContent file))
    ∨ (¬ (EntersBurst io d.calls ∧ FirmwareTaken io (sentContent file) (d.calls + 4)
        ∧ env.finishes = true)
      ∧ ∃ e t, updateFirmware io env file { device := d } = .error e t
        ∧ (e = .undefined
          ↔ EntersBurst io d.calls ∧ Overflows io (sentContent file) (d.calls + 4))) := by
  by_cases hburst : EntersBurst io d.calls
  · rw [updateFirmware_of_enters hburst, and_iff_right hburst, and_iff_right hburst,
      and_iff_right hburst]
    exact sendFirmware_run (entered d) rfl
  · obtain ⟨t, hrun, -⟩ := updateFirmware_of_not_enters env file hburst
    exact Or.inr ⟨fun h => hburst h.1, _, t, hrun,
      iff_of_false (fun he => nomatch he) (fun h => hburst h.1)⟩

end Run

/-! ## The interrupts that count

The callback is registered before the transfer and removed behind the wait, so
that interrupts of three times are heard: while the transfer goes on, while the
update waits, and between the end of the wait and the removal. The wait ends
with the first that comes, or that has come, whatever it says. -/

namespace UpdateInterrupts

theorem foldl_callback_ne_nil {l : List Interrupt} (h : l ≠ []) (s : Notified) :
    (l.foldl Notified.callback s).fwUpdated = true := by
  rw [← List.dropLast_append_getLast h, List.foldl_append]
  rfl

/-- **The wait** ends with the first second in which an interrupt comes. -/
theorem waitSeconds_eq (seconds : ℕ → List Interrupt) (left waited : ℕ) (s : Notified) :
    waitSeconds seconds left waited s
      = if s.fwUpdated = true then s
        else (firstReports seconds left waited).foldl Notified.callback s := by
  induction left generalizing waited s with
  | zero =>
    rw [waitSeconds, firstReports, List.foldl_nil, ite_self]
  | succ left ih =>
    rw [waitSeconds, firstReports]
    by_cases hs : s.fwUpdated = true
    · rw [if_pos hs, if_pos hs]
    · rw [if_neg hs, if_neg hs, ih]
      by_cases hnone : seconds waited = []
      · rw [if_pos hnone, hnone, List.foldl_nil, if_neg hs]
      · rw [if_neg hnone, if_pos (foldl_callback_ne_nil hnone s)]

/-- **What the camera has been notified of**: the interrupts from before the
switch, and those that are heard from then on. -/
theorem notified_eq (env : UpdateInterrupts) :
    env.notified = (env.early ++ env.heard).foldl Notified.callback {} := by
  rw [notified, waitSeconds_eq, heard]
  by_cases hnone : env.early ++ env.prompt = []
  · obtain ⟨hearly, hprompt⟩ := List.append_eq_nil_iff.mp hnone
    rw [hearly, hprompt, List.nil_append, if_pos rfl, List.foldl_nil, if_neg (fun h => nomatch h),
      List.nil_append, List.nil_append, List.foldl_append]
  · rw [if_neg hnone, if_pos (foldl_callback_ne_nil hnone _), List.append_nil, ← List.append_assoc,
      List.foldl_append (l := env.early ++ env.prompt)]

/-- **The end of the wait** takes any interrupt, if there are interrupts. -/
theorem finishes_iff (env : UpdateInterrupts) :
    env.finishes = true ↔ (env.available = true → env.early ≠ [] ∨ env.heard ≠ []) := by
  have hnotified : env.notified.fwUpdated = true ↔ env.early ≠ [] ∨ env.heard ≠ [] := by
    rw [notified_eq]
    constructor
    · intro h
      by_contra hnone
      obtain ⟨hearly, hheard⟩ := not_or.mp hnone
      rw [not_not.mp hearly, not_not.mp hheard] at h
      exact nomatch h
    · intro h
      refine foldl_callback_ne_nil (fun hnil => ?_) _
      obtain ⟨hearly, hheard⟩ := List.append_eq_nil_iff.mp hnil
      exact h.elim (fun hne => hne hearly) (fun hne => hne hheard)
  rw [finishes, ← hnotified]
  cases env.available <;> simp

/-- **The status that is logged** is the last that is heard. -/
theorem notified_status {env : UpdateInterrupts} {i : Interrupt}
    (h : env.heard.getLast? = some i) : env.notified.status = adsd3500InterruptHandler i := by
  obtain ⟨front, hfront⟩ := List.getLast?_eq_some_iff.mp h
  rw [notified_eq, hfront, ← List.append_assoc, List.foldl_append]
  rfl

end UpdateInterrupts

/-! ## The header and the packets

The header has the length of the file and its checksum at fixed places; the
packets, put together, are the file with zeros up to the next multiple of 256. -/

section Content

variable {content : Bytes}

theorem packetsToSend_eq (len : ℕ) : packetsToSend len = (len + 255) / 256 := by
  unfold packetsToSend flashPageSize
  split <;> omega

/-- The packets of `BurstMode`. -/
theorem fwPackets_eq (content : Bytes) :
    fwPackets content = (List.range (packetsToSend content.length)).map (fwPage content) := by
  rw [packetsToSend_eq]
  rfl

/-- The length in the header, and the checksum. -/
theorem get32_fwUpgradeHeader (crcFast : Bytes → UInt32) (content : Bytes) :
    get32 4 (fwUpgradeHeader crcFast content) = UInt32.ofNat content.length
      ∧ get32 12 (fwUpgradeHeader crcFast content) = crcFast content := by
  unfold fwUpgradeHeader
  dsimp only
  constructor
  · rw [List.append_assoc, List.append_assoc, get32_skip (by simp)]
    exact get32_le32 _ _
  · rw [get32_skip (by simp), not_xor_ones]
    simpa using get32_le32 (crcFast content) []

/-- A page of the firmware, filled up. -/
theorem fwPage_eq {i zeros : ℕ} (h : 256 * (i + 1) ≤ content.length + zeros) :
    fwPage content i
      = ((content ++ List.replicate zeros 0).drop (256 * i)).take 256 := by
  unfold fwPage flashPageSize
  dsimp only
  rw [List.drop_append, List.take_append, List.drop_replicate, List.take_replicate,
    List.length_take, List.length_drop]
  congr 2
  omega

/-- **Pages side by side.** -/
theorem flatten_pages (padded : Bytes) (count : ℕ) :
    ((List.range count).map (fun i => (padded.drop (256 * i)).take 256)).flatten
      = padded.take (256 * count) := by
  induction count with
  | zero => rfl
  | succ count ih =>
    rw [List.range_succ, List.map_append, List.flatten_append, ih, Nat.mul_succ, List.take_add]
    simp

/-- **The packets are the firmware**, filled up with zeros. -/
theorem flatten_fwPages (content : Bytes) :
    ((List.range (packetsToSend content.length)).map (fwPage content)).flatten
      = content ++ List.replicate (256 * packetsToSend content.length - content.length) 0 := by
  rw [← List.take_of_length_le (l := content ++ _) (i := 256 * packetsToSend content.length),
    ← flatten_pages]
  · refine congrArg List.flatten (List.map_congr_left (fun i hi => fwPage_eq ?_))
    rw [List.mem_range] at hi
    omega
  · rw [List.length_append, List.length_replicate, packetsToSend_eq]
    omega

end Content

/-! ## The program of `BurstMode`

The update there has the device alone for its state. `Erases` relates the two
statement by statement, and the only place where they could differ is a loop
that cannot count its packets. -/

section Device

variable {α β : Type} {io : DriverAnswers}

/-- What an update does to the device alone. -/
def erase : EStateM.Result Exit UpdateState α → EStateM.Result Exit Adsd3500 α
  | .ok a t => .ok a t.device
  | .error e t => .error e t.device

/-- **A routine of the device** that does what an update does. -/
def Erases (m : Update α) (p : Transfer α) : Prop := ∀ s, p s.device = erase (m s)

theorem erases_onDevice (p : Transfer α) : Erases (onDevice p) p := by
  intro s
  unfold onDevice
  cases p s.device <;> rfl

theorem Erases.bind {m : Update α} {p : Transfer α} {f : α → Update β} {g : α → Transfer β}
    (hm : Erases m p) (hf : ∀ a, Erases (f a) (g a)) : Erases (m >>= f) (p >>= g) := by
  intro s
  have hs := hm s
  cases hrun : m s with
  | ok a t =>
    rw [hrun] at hs
    rw [bind_of_ok hrun, bind_of_ok hs]
    exact hf a t
  | error e t =>
    rw [hrun] at hs
    rw [bind_of_error hrun, bind_of_error hs]
    rfl

theorem erases_ensure (c : Bool) (e : Exit) : Erases (ensure c e) (ensure c e) := by
  intro s
  cases c <;> rfl

theorem erases_send (packet : Bytes) : Erases (send io packet) (setExtCtrls io packet) := by
  intro s
  by_cases h : io.sets s.device.calls packet = true
  · rw [send_of_taken h, setExtCtrls, if_pos h]
    rfl
  · rw [send_of_lost h, setExtCtrls, if_neg h]
    rfl

/-- The loop over the packets. -/
theorem erases_sendPackets (content : Bytes) (count i : ℕ) (h : i + count ≤ maxPackets) :
    Erases (sendPackets io content count i)
      (writePayloads io ((List.range' i count).map (fwPage content))) := by
  induction count generalizing i with
  | zero => exact fun s => rfl
  | succ count ih =>
    intro s
    rw [sendPackets_of_fits (by omega), List.range'_succ, List.map_cons]
    exact (erases_send _).bind (fun _ => ih (i + 1) (by omega)) s

/-- **The update without its log** is that of `BurstMode`, as long as the
packets can be counted. -/
theorem updateFirmware_device (env : UpdateInterrupts) (file : Option Bytes)
    (h : packetsToSend (sentContent file).length ≤ maxPackets) :
    Erases (updateFirmware io env file)
      (updateAdsd3500Firmware io fwCrc (file.getD []) !env.finishes) := by
  unfold updateAdsd3500Firmware
  dsimp only
  rw [updateFirmware_eq, fwPackets_eq, List.range_eq_range', Bool.not_not]
  refine (erases_onDevice _).bind (fun _ => (erases_send _).bind (fun _ => ?_))
  refine (erases_send _).bind (fun _ => (erases_sendPackets _ _ _ ?_).bind (fun _ => ?_))
  · rw [Nat.zero_add]
    exact h
  · exact (erases_send _).bind (fun _ => erases_ensure _ _)

end Device

/-! ## When it tells the truth

The condition has a part for each of the three. Its proof goes through the ways
in which the update ends, and for each of them both what is told and what is so
are known. -/

section Tells

variable {io : DriverAnswers} {env : UpdateInterrupts} {file : Option Bytes} {d : Adsd3500}

/-- **The condition**, the update beginning at the `n`-th call: where there is
nothing to install, burst mode is not entered; there are no more packets than
can be counted, or one before is lost; and where all are taken and an
interrupt has come, the length fits into the header, and the last interrupt
from after the switch reports success. -/
structure UpdateHolds (io : DriverAnswers) (env : UpdateInterrupts) (file : Option Bytes) (n : ℕ) :
    Prop where
  /-- Where there is nothing to install, burst mode is not entered. -/
  noFile : file = none ∨ file = some [] → ¬ EntersBurst io n
  /-- The packets can be counted, or one is lost before. -/
  counted : EntersBurst io n → ¬ Overflows io (sentContent file) (n + 4)
  /-- Where the device has everything, the length was in the header, and the
  last interrupt reports success. -/
  told : EntersBurst io n → FirmwareTaken io (sentContent file) (n + 4) →
    (env.available = true → env.early ≠ [] ∨ env.heard ≠ []) →
    (file.getD []).length < 2 ^ 32 ∧ (env.available = true → env.ReportsSuccess)

theorem sentContent_some {content : Bytes} (h : content.length < 2 ^ 32) :
    sentContent (some content) = content := by
  rw [sentContent, Option.getD_some, Nat.mod_eq_of_lt h, List.take_length]

/-- **The device that takes the firmware has been given it.** -/
theorem updated_of_taken {content : Bytes} {n : ℕ} (h : FirmwareTaken io content n) :
    Updated content ([enterPacket] ++ firmwareLog content) (fwUpgradeHeader fwCrc content)
      ((List.range (packetsToSend content.length)).map (fwPage content)) := by
  have hlength : content.length < 2 ^ 31 := by
    have hfew := h.few
    rw [packetsToSend_eq, maxPackets] at hfew
    omega
  obtain ⟨hlen, hcrc⟩ := get32_fwUpgradeHeader fwCrc content
  constructor
  · rw [firmwareLog, List.map_map, ← List.append_assoc, ← List.append_assoc]
    rfl
  · rw [hlen]
    exact UInt32.toNat_ofNat_of_lt' (lt_trans hlength (by decide))
  · rw [hcrc, fwCrc, if_pos hlength]
  · rw [List.length_map, List.length_range, packetsToSend_eq]
  · intro packet hpacket
    obtain ⟨i, -, rfl⟩ := List.mem_map.mp hpacket
    exact length_fwPage content i
  · rw [List.length_map, List.length_range]
    exact flatten_fwPages content

/-- **When the update tells the truth**: nothing in it is undefined; where it
returns success, the device has taken the packets of the file, and the last
interrupt that was heard reports success; and without a file to install, burst
mode is not entered.

The driver's answers, the interrupts and the file are arbitrary. The condition
is on these, and on the number of the call that the update begins with; each of
its clauses is about one of the three parts. -/
theorem updateTells_iff (io : DriverAnswers) (env : UpdateInterrupts) (file : Option Bytes)
    (d : Adsd3500) : UpdateTells io env file d ↔ UpdateHolds io env file d.calls := by
  constructor
  · intro h
    refine ⟨fun hnone hburst => h.standard hnone (mem_accepted_iff.mpr hburst),
      fun hburst hover => ?_, fun hburst htaken hwait => ?_⟩
    · obtain ⟨-, htaken, -⟩ | ⟨-, e, t, hrun, he⟩ := updateFirmware_run io env file d
      · exact absurd hover.many (not_lt.mpr htaken.few)
      · rw [he.mpr ⟨hburst, hover⟩] at hrun
        exact h.defined t hrun
    · obtain ⟨-, -, -, t, hrun, -⟩ | ⟨hnot, -⟩ := updateFirmware_run io env file d
      · obtain ⟨content, rfl, ⟨header, packets, hupdated⟩, hreports⟩ := h.ok t hrun
        refine ⟨?_, hreports⟩
        rw [Option.getD_some, ← hupdated.length]
        exact UInt32.toNat_lt _
      · exact absurd ⟨hburst, htaken, env.finishes_iff.mpr hwait⟩ hnot
  · intro h
    refine ⟨fun t hrun => ?_, fun t hrun => ?_,
      fun hnone hmem => h.noFile hnone (mem_accepted_iff.mp hmem)⟩
    · obtain ⟨-, -, -, t', hrun', -⟩ | ⟨-, e, t', hrun', he⟩ := updateFirmware_run io env file d
      · exact nomatch hrun.symm.trans hrun'
      · cases hrun.symm.trans hrun'
        obtain ⟨hburst, hover⟩ := he.mp rfl
        exact h.counted hburst hover
    · obtain ⟨hburst, htaken, hfinishes, t', hrun', hlog⟩ | ⟨-, e, t', hrun', -⟩ :=
        updateFirmware_run io env file d
      · cases hrun.symm.trans hrun'
        obtain ⟨hlength, hreports⟩ := h.told hburst htaken (env.finishes_iff.mp hfinishes)
        cases file with
        | none => exact absurd hburst (h.noFile (Or.inl rfl))
        | some content =>
          have hsent : sentContent (some content) = content := sentContent_some hlength
          rw [hsent] at htaken hlog
          have hupdated := updated_of_taken htaken
          rw [← hlog] at hupdated
          exact ⟨content, rfl, ⟨_, _, hupdated⟩, hreports⟩
      · exact nomatch hrun.symm.trans hrun'

/-! ### Two devices

In the first the interrupt reports that all is well. In the second there is no
file, burst mode is entered, a firmware of no bytes is sent, and the interrupt
reports that it was rejected: the update returns as if nothing were wrong. -/

/-- An update that is complete in the fourth second. -/
def completing : UpdateInterrupts where
  seconds k := if k = 3 then [{ statusRegister := 14 }] else []

/-- **A firmware of three bytes** is installed, and the update says so: every
packet is taken, and the interrupt that comes behind the switch reports
success. -/
theorem updateTells_completing : UpdateTells answering completing (some [1, 2, 3]) {} := by
  refine (updateTells_iff _ _ _ _).mpr
    ⟨fun h => ?_, fun _ hover => ?_, fun _ _ _ => ⟨?_, fun _ => ?_⟩⟩
  · exact h.elim (fun hnone => nomatch hnone) (fun hempty => nomatch hempty)
  · exact absurd hover.many (by decide)
  · decide
  · exact ⟨{ statusRegister := 14 }, by decide, rfl, Or.inr rfl⟩

/-- An update that the device rejects in the fourth second. -/
def rejecting : UpdateInterrupts where
  seconds k := if k = 3 then [{ statusRegister := 5 }] else []

/-- **A file that is not there is installed**, and an update that is rejected
returns as one that is not. -/
theorem not_updateTells_answering :
    ¬ UpdateTells answering { available := false } none {}
      ∧ ¬ UpdateTells answering rejecting (some [1, 2, 3]) {} := by
  constructor
  · intro h
    exact h.standard (Or.inl rfl) (by decide +kernel)
  · intro h
    obtain ⟨-, -, -, hreports⟩ := h.ok _ rfl
    obtain ⟨i, hi, -, hstatus⟩ := hreports rfl
    have hheard : rejecting.heard = [{ statusRegister := 5 }] := by decide
    rw [hheard] at hi
    cases hi
    exact absurd hstatus (by decide)

end Tells
