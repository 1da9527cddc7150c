import TofNet.EarlyExit
import TofNet.Protocol
import TofNet.ModeInfo

/-!
# Burst mode

The ADSD3500 takes register commands in its standard mode. Its metadata, its
CCB and its firmware are transferred in **burst mode**, which a register
command enters and a payload of 16 bytes leaves. Every transfer is a call of
the driver, and may fail.

The routines that transfer in burst mode are translated here as programs that
stop at the first call that fails – `adsd3500_read_payload_cmd` of the sensor,
the two readers of the CCB, and the update of the firmware. The mode is left
by the last transfer of each, so that a program that stops before it does not
leave it. `burst_left_iff` says exactly when the device is in its standard
mode at the end.

A routine is a program with early exits (`EarlyExit`): it has the device for its
state, and it returns, or it stops with a status, with an exception, or in an
operation that C++ does not define. The driver's answers are a function of the
number of the call, so that nothing is assumed about which of them fail, or
about what the device returns.
-/

/-! ## The device

Of the device only the mode is kept. A packet is told by its bytes, as the
device does: the register command that enters the mode, the payload that leaves
it, and all the others, which leave it alone. -/

/-- How a routine ends that does not return: with a status, with an exception,
or in an operation that is not defined. -/
inductive Exit
  | status (s : Status)
  | thrown (text : String)
  | undefined
  deriving DecidableEq

/-- The device's mode, and the number of driver calls so far. -/
structure Adsd3500 where
  /-- The device is in burst mode. -/
  burst : Bool := false
  /-- How many calls the driver has had. -/
  calls : ℕ := 0
  deriving DecidableEq

/-- **The driver's answers**, by the number of the call: whether a packet goes
through, and the bytes that are read. -/
structure DriverAnswers where
  /-- The packet is taken. -/
  sets : ℕ → Bytes → Bool
  /-- The packet that is read. -/
  gets : ℕ → Option Bytes

/-- A routine that talks to the device. -/
abbrev Transfer (α : Type) := EStateM Exit Adsd3500 α

/-- The two bytes of a length or a register, the high one first. -/
def highLow (x : UInt16) : Bytes := [(x >>> 8).toUInt8, x.toUInt8]

/-- The packet of a register command with data. -/
def registerPacket (cmd data : UInt16) : Bytes := [1, 0, 4] ++ highLow cmd ++ highLow data

/-- The packet of a payload. -/
def payloadPacket (payload : Bytes) : Bytes :=
  [1] ++ highLow (UInt16.ofNat payload.length) ++ payload

/-- The packet that asks for so many bytes. -/
def requestPacket (len : UInt16) : Bytes := [0] ++ highLow len

/-- The register command that enters burst mode. -/
def enterPacket : Bytes := registerPacket 0x0019 0x0000

/-- `switchBuf`: the payload that leaves it. -/
def switchBuf : Bytes := [0xAD, 0, 0, 0x10, 0, 0, 0, 0, 0x10, 0, 0, 0, 0, 0, 0, 0]

/-- What a packet does to the mode. -/
def Adsd3500.receive (packet : Bytes) (burst : Bool) : Bool :=
  if packet = enterPacket then true
  else if packet = payloadPacket switchBuf then false
  else burst

/-- The payload of a burst command: its number, a checksum, and the first
byte of the caller's buffer. -/
def commandPayload (cmd : UInt32) (first : UInt8) : Bytes :=
  [0xAD, 0, 0, cmd.toUInt8, 0, 0, 0, 0] ++ le32 cmd.toUInt8.toUInt32 ++ [first, 0, 0, 0]

section Programs

variable (io : DriverAnswers)

/-- `VIDIOC_S_EXT_CTRLS`. -/
def setExtCtrls (packet : Bytes) : Transfer Unit := fun d =>
  if io.sets d.calls packet then
    .ok () { burst := Adsd3500.receive packet d.burst, calls := d.calls + 1 }
  else .error (.status .genericError) { d with calls := d.calls + 1 }

/-- `VIDIOC_G_EXT_CTRLS`. -/
def getExtCtrls : Transfer Bytes := fun d =>
  match io.gets d.calls with
  | some bytes => .ok bytes { d with calls := d.calls + 1 }
  | none => .error (.status .genericError) { d with calls := d.calls + 1 }

/-- `adsd3500_write_cmd`. -/
def writeCmd (cmd data : UInt16) : Transfer Unit := setExtCtrls io (registerPacket cmd data)

/-- The two calls that read so many bytes. -/
def readBack (len : UInt16) : Transfer Bytes := do
  setExtCtrls io (requestPacket len)
  let bytes ← getExtCtrls io
  pure ((bytes.drop 3).take len.toNat)

/-- `adsd3500_read_cmd`. -/
def readCmd (cmd : UInt16) : Transfer Bytes := do
  setExtCtrls io ([1, 0, 2] ++ highLow cmd)
  readBack io 2

/-- `adsd3500_read_payload`. -/
def readPayload (len : UInt16) : Transfer Bytes := readBack io len

/-- `adsd3500_write_payload`. -/
def writePayload (payload : Bytes) : Transfer Unit := setExtCtrls io (payloadPacket payload)

/-- **`adsd3500_read_payload_cmd`**, where `first` is the first byte of the
caller's buffer. Command 0x13 leaves the device in burst mode for its
caller. -/
def readPayloadCmd (cmd : UInt32) (first : UInt8) (len : UInt16) : Transfer Bytes := do
  writeCmd io 0x0019 0x0000
  setExtCtrls io (payloadPacket (commandPayload cmd first))
  let bytes ← readBack io len
  if cmd = 0x13 then pure bytes
  else
    setExtCtrls io (payloadPacket switchBuf)
    pure bytes

/-- The exit of a routine that is called, put differently by its caller. -/
def mapExit {α : Type} (f : Exit → Exit) (m : Transfer α) : Transfer α := fun d =>
  match m d with
  | .ok a d => .ok a d
  | .error e d => .error (f e) d

/-- A loop over chunks of one size; `f` puts the exit of a chunk. -/
def readChunks (f : ℕ → Exit → Exit) (size : UInt16) : ℕ → ℕ → Transfer Bytes
  | 0, _ => pure []
  | count + 1, i => do
    let bytes ← mapExit (f i) (readPayload io size)
    let rest ← readChunks f size count (i + 1)
    pure (bytes ++ rest)

/-- A last chunk, smaller than the others. -/
def readLastChunk (f : Exit → Exit) (size : UInt16) : Transfer Bytes :=
  if size = 0 then pure [] else mapExit f (readPayload io size)

/-- A loop over payloads. -/
def writePayloads : List Bytes → Transfer Unit
  | [] => pure ()
  | payload :: payloads => do
    writePayload io payload
    writePayloads payloads

end Programs

/-! ## The CCB

The two readers do the same, and were written separately. They differ in how
they count the chunks, in how they take the size of the last one, and in what
they test before they allocate; both are translated as they stand. Where one of
them divides by a chunk size of 0, the program has no defined result. -/

/-- `chunkSize`, in the header of the CCB. -/
def ccbChunkSize (header : Bytes) : UInt16 := get16 1 header

/-- `ccbFileSize`. -/
def ccbFileSize (header : Bytes) : UInt32 := get32 4 header

/-- `crcOfCCB`. -/
def ccbCrc (header : Bytes) : UInt32 := get32 12 header

/-- The size of the last chunk. -/
def ccbRemainder (header : Bytes) : UInt16 :=
  UInt16.ofNat ((ccbFileSize header).toNat % (ccbChunkSize header).toNat)

/-- **`CameraItof::readAdsd3500CCB`.** A chunk size of 0 is divided by; the
number of chunks is a `uint16_t`; a size below 4 wraps around in the checksum. -/
def readAdsd3500Ccb (io : DriverAnswers) (crcFast : Bytes → UInt32) (allocates : ℕ → Bool) :
    Transfer Bytes := do
  let header ← readPayloadCmd io 0x13 1 16
  ensure (ccbChunkSize header ≠ 0) .undefined
  let numOfChunks := (ccbFileSize header).toNat / (ccbChunkSize header).toNat % 2 ^ 16
  ensure (allocates (ccbFileSize header).toNat) (.thrown "std::bad_alloc")
  let chunks ← readChunks io (fun _ e => e) (ccbChunkSize header) numOfChunks 0
  let last ← readLastChunk io id (ccbRemainder header)
  writePayload io switchBuf
  ensure (4 ≤ (ccbFileSize header).toNat) .undefined
  let content := (chunks ++ last).take ((ccbFileSize header).toNat - 4)
  ensure (ccbCrc header = ~~~(crcFast content ^^^ 0xFFFFFFFF)) (.status .genericError)
  pure content

/-- **`CameraRawSource::read_current_module_ccb_direct`.** -/
def readCurrentModuleCcbDirect (io : DriverAnswers) (crcFast : Bytes → UInt32)
    (allocates : ℕ → Bool) : Transfer Bytes := do
  let header ← mapExit (fun _ => .thrown "failed to get CCB command header")
    (readPayloadCmd io 0x13 1 16)
  ensure (ccbChunkSize header ≠ 0 && 4 < (ccbFileSize header).toNat)
    (.thrown "invalid CCB header from ADSD3500")
  ensure (allocates (ccbFileSize header).toNat) (.thrown "std::bad_alloc")
  let fullChunks := (ccbFileSize header).toNat / (ccbChunkSize header).toNat
  let chunks ← readChunks io (fun i _ => .thrown ("failed to read CCB chunk " ++ toString i))
    (ccbChunkSize header) fullChunks 0
  let last ← readLastChunk io (fun _ => .thrown "failed to read final CCB chunk")
    (ccbRemainder header)
  mapExit (fun _ => .thrown "failed to switch ADSD3500 back to standard mode")
    (writePayload io switchBuf)
  let content := (chunks ++ last).take ((ccbFileSize header).toNat - 4)
  ensure (ccbCrc header = ~~~(crcFast content ^^^ 0xFFFFFFFF))
    (.thrown "invalid CRC for CCB read from ADSD3500")
  pure content

/-! ## The firmware

The file is cut into pages of 256 bytes, and the last is filled up with zeros.
The update is notified of its end by an interrupt. Whether that comes in time is
an argument here, and `FirmwareUpdate` has what it says. -/

/-- The header of a firmware of that content: a command, the sizes, and a
checksum of the seven bytes from the second on. -/
def fwUpgradeHeader (crcFast : Bytes → UInt32) (content : Bytes) : Bytes :=
  let front : Bytes := [0xAD, 0x00, 0x01, 0x04] ++ le32 (UInt32.ofNat content.length)
  let checksum := ((front.drop 1).map UInt8.toNat).sum
  front ++ le32 (UInt32.ofNat checksum) ++ le32 (~~~(crcFast content ^^^ 0xFFFFFFFF))

/-- `flashPageSize`. -/
def flashPageSize : ℕ := 256

/-- The packets of a firmware; the last is filled up with zeros. -/
def fwPackets (content : Bytes) : List Bytes :=
  (List.range ((content.length + flashPageSize - 1) / flashPageSize)).map (fun i =>
    let page := (content.drop (flashPageSize * i)).take flashPageSize
    page ++ List.replicate (flashPageSize - page.length) 0)

/-- **`CameraItof::updateAdsd3500Firmware`** with the content of the file –
none, if it cannot be read. Its length is a `uint32_t`; `timesOut` is whether
the interrupt is waited for in vain. -/
def updateAdsd3500Firmware (io : DriverAnswers) (crcFast : Bytes → UInt32) (file : Bytes)
    (timesOut : Bool) : Transfer Unit := do
  let content := file.take (file.length % 2 ^ 32)
  let _ ← readCmd io 0x0112
  writeCmd io 0x0019 0x0000
  writePayload io (fwUpgradeHeader crcFast content)
  writePayloads io (fwPackets content)
  writePayload io switchBuf
  ensure (!timesOut) (.status .genericError)

/-- A checksum that is complemented twice. -/
theorem not_xor_ones (x : UInt32) : ~~~(x ^^^ 0xFFFFFFFF) = x := by
  rw [show (0xFFFFFFFF : UInt32) = -1 from rfl, UInt32.xor_neg_one, UInt32.not_not]

/-! ## What each transfer does

For each kind of transfer: when it goes through, and that it leaves the mode
alone. The second is a fact about the bytes of the packet (`Neutral`), and the
only packet that has to be compared with `switchBuf` byte by byte is a payload
of 16 bytes. -/

section Specs

variable {io : DriverAnswers} {d : Adsd3500} {packet : Bytes}

/-- A packet that leaves the mode alone. -/
def Neutral (packet : Bytes) : Prop := packet ≠ enterPacket ∧ packet ≠ payloadPacket switchBuf

theorem receive_of_neutral (h : Neutral packet) (burst : Bool) :
    Adsd3500.receive packet burst = burst := by
  rw [Adsd3500.receive, if_neg h.1, if_neg h.2]

@[simp] theorem receive_enterPacket (burst : Bool) :
    Adsd3500.receive enterPacket burst = true := by
  rw [Adsd3500.receive, if_pos rfl]

@[simp] theorem receive_switchBuf (burst : Bool) :
    Adsd3500.receive (payloadPacket switchBuf) burst = false := by
  rw [Adsd3500.receive, if_neg (by decide), if_pos rfl]

/-- A request for bytes does. -/
theorem neutral_requestPacket (len : UInt16) : Neutral (requestPacket len) := by
  constructor
  · intro h
    exact absurd (List.cons.inj h).1 (by decide)
  · intro h
    exact absurd (List.cons.inj h).1 (by decide)

/-- So does a register command of five bytes. -/
theorem neutral_readCmd (cmd : UInt16) : Neutral ([1, 0, 2] ++ highLow cmd) := by
  constructor
  · intro h
    have hlength := congrArg List.length h
    simp [highLow, enterPacket, registerPacket] at hlength
  · intro h
    have hlength := congrArg List.length h
    simp [highLow, payloadPacket, switchBuf] at hlength

/-- So does a payload, unless it is the one that leaves burst mode. -/
theorem neutral_payloadPacket {payload : Bytes} (hlen : payload.length ≠ 4)
    (hne : payload ≠ switchBuf) : Neutral (payloadPacket payload) := by
  constructor
  · intro h
    have hlength := congrArg List.length h
    simp only [payloadPacket, highLow, enterPacket, registerPacket, List.length_append,
      List.length_cons, List.length_nil] at hlength
    omega
  · intro h
    refine hne ?_
    have hdrop := congrArg (List.drop 3) h
    exact hdrop

/-- A call that sets. -/
theorem setExtCtrls_ends (io : DriverAnswers) (packet : Bytes) (d : Adsd3500) :
    Ends (setExtCtrls io packet) d (io.sets d.calls packet = true)
      (fun _ t => t = { burst := Adsd3500.receive packet d.burst, calls := d.calls + 1 })
      (fun t => t.burst = d.burst) := by
  constructor
  · intro h
    exact ⟨(), _, by rw [setExtCtrls, if_pos h], rfl⟩
  · intro h
    exact ⟨.status .genericError, { d with calls := d.calls + 1 },
      by rw [setExtCtrls, if_neg h], rfl⟩

/-- A call that sets a neutral packet. -/
theorem setExtCtrls_neutral (h : Neutral packet) :
    Ends (setExtCtrls io packet) d (io.sets d.calls packet = true)
      (fun _ t => t = { d with calls := d.calls + 1 }) (fun t => t.burst = d.burst) :=
  (setExtCtrls_ends io packet d).mono Iff.rfl
    (fun _ t _ ht => by rw [ht, receive_of_neutral h]) (fun _ ht => ht)

theorem getExtCtrls_ends (io : DriverAnswers) (d : Adsd3500) :
    Ends (getExtCtrls io) d ((io.gets d.calls).isSome = true)
      (fun bytes t => io.gets d.calls = some bytes ∧ t = { d with calls := d.calls + 1 })
      (fun t => t.burst = d.burst) := by
  unfold getExtCtrls
  constructor
  · intro h
    obtain ⟨bytes, hbytes⟩ := Option.isSome_iff_exists.mp h
    exact ⟨bytes, _, by rw [hbytes], hbytes, rfl⟩
  · intro h
    rw [Bool.not_eq_true, Option.isSome_eq_false_iff, Option.isNone_iff_eq_none] at h
    exact ⟨.status .genericError, { d with calls := d.calls + 1 }, by rw [h], rfl⟩

namespace DriverAnswers

/-- The two calls that read go through. -/
def Reads (io : DriverAnswers) (n : ℕ) (len : UInt16) : Prop :=
  io.sets n (requestPacket len) = true ∧ (io.gets (n + 1)).isSome = true

/-- What they read. -/
def bytesRead (io : DriverAnswers) (n : ℕ) (len : UInt16) : Bytes :=
  (((io.gets (n + 1)).getD []).drop 3).take len.toNat

end DriverAnswers

theorem readBack_ends (io : DriverAnswers) (len : UInt16) (d : Adsd3500) :
    Ends (readBack io len) d (io.Reads d.calls len)
      (fun bytes t => bytes = io.bytesRead d.calls len ∧ t = { d with calls := d.calls + 2 })
      (fun t => t.burst = d.burst) := by
  refine (setExtCtrls_neutral (neutral_requestPacket len)).bind (fun _ t _ ht => ?_)
  subst ht
  refine ((getExtCtrls_ends io _).bind (q := True) (fun bytes t _ ht => ?_)).mono
    (and_iff_left trivial) (fun _ _ _ h => h) (fun _ h => h)
  obtain ⟨hbytes, rfl⟩ := ht
  refine (Ends.pure _ _ _).mono Iff.rfl (fun b t _ hb => ?_) (fun _ h => h)
  obtain ⟨rfl, rfl⟩ := hb
  refine ⟨?_, rfl⟩
  dsimp only at hbytes
  rw [DriverAnswers.bytesRead, hbytes]
  rfl

theorem mapExit_ends {α : Type} {m : Transfer α} {p : Prop} {Q : α → Adsd3500 → Prop}
    {E : Adsd3500 → Prop} (h : Ends m d p Q E) (f : Exit → Exit) : Ends (mapExit f m) d p Q E := by
  constructor
  · intro hp
    obtain ⟨a, t, hm, hq⟩ := h.returns hp
    exact ⟨a, t, by rw [mapExit, hm], hq⟩
  · intro hp
    obtain ⟨e, t, hm, he⟩ := h.stops hp
    exact ⟨f e, t, by rw [mapExit, hm], he⟩

theorem mapExit_bind {α β : Type} (f : Exit → Exit) (m : Transfer α) (g : α → Transfer β) :
    mapExit f (m >>= g) = mapExit f m >>= fun a => mapExit f (g a) := by
  funext d
  show mapExit f (EStateM.bind m g) d = EStateM.bind (mapExit f m) _ d
  unfold mapExit EStateM.bind
  dsimp only
  cases m d <;> rfl

theorem readCmd_ends (io : DriverAnswers) (cmd : UInt16) (d : Adsd3500) :
    Ends (readCmd io cmd) d
      (io.sets d.calls ([1, 0, 2] ++ highLow cmd) = true ∧ io.Reads (d.calls + 1) 2)
      (fun _ t => t = { d with calls := d.calls + 3 }) (fun t => t.burst = d.burst) := by
  refine (setExtCtrls_neutral (neutral_readCmd cmd)).bind (fun _ t _ ht => ?_)
  subst ht
  exact (readBack_ends io 2 _).mono Iff.rfl (fun _ t _ ht => ht.2) (fun _ h => h)

/-- **A loop over chunks returns if each chunk is read.** -/
theorem readChunks_ends (io : DriverAnswers) (f : ℕ → Exit → Exit) (size : UInt16) (count i : ℕ)
    (d : Adsd3500) :
    Ends (readChunks io f size count i) d (∀ k < count, io.Reads (d.calls + 2 * k) size)
      (fun _ t => t = { d with calls := d.calls + 2 * count }) (fun t => t.burst = d.burst) := by
  induction count generalizing i d with
  | zero =>
    refine (Ends.pure _ _ _).mono ⟨fun _ k hk => absurd hk (Nat.not_lt_zero k), fun _ => trivial⟩
      (fun _ t _ ht => ht.2) (fun _ h => h)
  | succ count ih =>
    have hsplit : (io.Reads d.calls size ∧ ∀ k < count, io.Reads (d.calls + 2 + 2 * k) size)
        ↔ ∀ k < count + 1, io.Reads (d.calls + 2 * k) size := by
      rw [Nat.forall_lt_succ_left']
      refine and_congr Iff.rfl (forall₂_congr (fun k _ => ?_))
      rw [show d.calls + 2 + 2 * k = d.calls + 2 * (k + 1) by omega]
    refine ((mapExit_ends (readBack_ends io size d) (f i)).bind (fun bytes t _ ht => ?_)).mono
      hsplit (fun _ _ _ h => h) (fun _ h => h)
    obtain ⟨-, rfl⟩ := ht
    refine ((ih (i + 1) _).bind (q := True) (fun rest t _ ht => ?_)).mono (and_iff_left trivial)
      (fun _ _ _ h => h) (fun _ h => h)
    subst ht
    refine (Ends.pure _ _ _).mono Iff.rfl (fun b t _ hb => ?_) (fun _ h => h)
    rw [hb.2]
    dsimp only
    rw [show d.calls + 2 + 2 * count = d.calls + 2 * (count + 1) by omega]

theorem readLastChunk_ends (io : DriverAnswers) (f : Exit → Exit) (size : UInt16) (d : Adsd3500) :
    Ends (readLastChunk io f size) d (size ≠ 0 → io.Reads d.calls size)
      (fun _ t => t.burst = d.burst) (fun t => t.burst = d.burst) := by
  unfold readLastChunk
  by_cases hsize : size = 0
  · rw [if_pos hsize]
    exact (Ends.pure _ _ _).mono ⟨fun _ h => absurd hsize h, fun _ => trivial⟩
      (fun _ t _ ht => by rw [ht.2]) (fun _ h => h)
  · rw [if_neg hsize]
    exact (mapExit_ends (readBack_ends io size d) f).mono ⟨fun h _ => h, fun h => h hsize⟩
      (fun _ t _ ht => by rw [ht.2]) (fun _ h => h)

/-- **A loop over payloads returns if each goes through.** -/
theorem writePayloads_ends (io : DriverAnswers) (payloads : List Bytes) (d : Adsd3500)
    (hneutral : ∀ payload ∈ payloads, Neutral (payloadPacket payload)) :
    Ends (writePayloads io payloads) d
      (∀ k payload, payloads[k]? = some payload →
        io.sets (d.calls + k) (payloadPacket payload) = true)
      (fun _ t => t.burst = d.burst) (fun t => t.burst = d.burst) := by
  induction payloads generalizing d with
  | nil =>
    exact (Ends.pure _ _ _).mono
      ⟨fun _ k payload hk => absurd hk (by simp), fun _ => trivial⟩
      (fun _ t _ ht => by rw [ht.2]) (fun _ h => h)
  | cons payload payloads ih =>
    obtain ⟨hfirst, hrest⟩ := List.forall_mem_cons.mp hneutral
    have hsplit : (io.sets d.calls (payloadPacket payload) = true
        ∧ ∀ k payload', payloads[k]? = some payload' →
          io.sets (d.calls + 1 + k) (payloadPacket payload') = true)
        ↔ ∀ k payload', (payload :: payloads)[k]? = some payload' →
          io.sets (d.calls + k) (payloadPacket payload') = true := by
      constructor
      · rintro ⟨h, hall⟩ k payload' hk
        cases k with
        | zero =>
          cases hk
          exact h
        | succ k =>
          rw [List.getElem?_cons_succ] at hk
          rw [show d.calls + (k + 1) = d.calls + 1 + k by omega]
          exact hall k payload' hk
      · intro h
        refine ⟨h 0 payload rfl, fun k payload' hk => ?_⟩
        rw [show d.calls + 1 + k = d.calls + (k + 1) by omega]
        exact h (k + 1) payload' (by rw [List.getElem?_cons_succ]; exact hk)
    refine ((setExtCtrls_neutral hfirst).bind (fun _ t _ ht => ?_)).mono hsplit
      (fun _ _ _ h => h) (fun _ h => h)
    subst ht
    exact ih _ hrest

end Specs
