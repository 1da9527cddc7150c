import Mathlib.Logic.Function.Basic
import TofNet.CcbReaders
import TofNet.Simulation

/-!
# Control packets

The routines of the sensor that talk to the ADSD3500 write their packets into
static buffers, one for each routine, which keep what an earlier call has left
in them. The kernel keeps the value of the control, and calls the driver for a
packet only if it is another than that value; and the driver says in the first
byte that it has taken a packet.

Here all of that is in the state. `BurstMode` has none of it: a packet there is
what is new in the buffer, and goes to the driver. Each routine is shown to be
in step with the one of `BurstMode`: since the driver puts 0xFF in front, no
packet is ever taken for the value that the control already has
(`not_skips`).

The two are related by a simulation (`Simulates`), statement by statement. The
relation (`Same`) says that the device is in the same mode, that as many calls
of the driver have been made, and that the value of the control is one that the
driver has marked; it says nothing of what is in the static buffers, since every
routine writes what it sends. Each kind of statement has one lemma, and a
routine is put together from these in the order of its text.
-/

/-! ## Packets -/

/-- The bytes of a control packet. -/
@[ext]
structure CtrlPacket where
  bytes : Bytes
  length_bytes : bytes.length = ctrlPacketSize
  deriving DecidableEq

namespace CtrlPacket

/-- A packet of zeros. -/
def zeros : CtrlPacket where
  bytes := List.replicate ctrlPacketSize 0
  length_bytes := List.length_replicate

/-- Bytes are written at an offset; what goes behind the end is cut off. -/
def write (p : CtrlPacket) (off : ℕ) (bs : Bytes) : CtrlPacket where
  bytes := (p.bytes.take off ++ (bs ++ p.bytes.drop (off + bs.length))).take ctrlPacketSize
  length_bytes := by
    have hlength := p.length_bytes
    simp only [List.length_take, List.length_append, List.length_drop]
    omega

/-- `r_w`. -/
def rW (p : CtrlPacket) : UInt8 := p.bytes.getD 0 0

/-- `pld_size`. -/
def pldSize (p : CtrlPacket) : ℕ :=
  (p.bytes.getD 1 0).toNat * 256 + (p.bytes.getD 2 0).toNat

/-- The checksum of a burst command: the seven bytes behind the first of it. -/
def checksum (p : CtrlPacket) : UInt32 := UInt32.ofNat ((slice 4 7 p.bytes).map UInt8.toNat).sum

end CtrlPacket

namespace ControlPackets

/-! ## The kernel

What the kernel does with a value that the control already has is not in the
repository, and differs from version to version: whether it compares all bytes
or only some, and whether it copies the value back to the caller. Both are
parameters. What is relied on is that a value other than the control's is set. -/

/-- **The V4L2 core**: for which values it does not call the driver, and whether
it copies a value that was set back to the caller. A value that is new is
set. -/
structure Core where
  /-- A value is taken for unchanged, and the driver is not called. -/
  skips : CtrlPacket → CtrlPacket → Bool
  /-- What was set is copied back to the caller. -/
  copiesBack : Bool
  /-- Only a value that is unchanged is taken for that. -/
  eq_of_skips : ∀ cur new, skips cur new = true → new = cur

/-- The I2C bus, by the number of the driver call: whether a transfer to the
device goes through, and what is received; and whether the value of the
control can be read. -/
structure Bus where
  /-- A transfer to the device goes through. -/
  sends : ℕ → Bool
  /-- What is received, if something is. -/
  receives : ℕ → Option (ℕ → UInt8)
  /-- The value of the control can be read. -/
  gets : ℕ → Bool

/-- The routines that have a buffer. -/
inductive Routine
  | readCmd
  | writeCmd
  | readPayloadCmd
  | readPayload
  | writePayloadCmd
  | writePayload
  deriving DecidableEq

/-- The static buffers, the value of the control, the device's mode, the number
of driver calls so far, and what was sent to the device. -/
structure State where
  /-- The static buffers of the routines. -/
  buffers : Routine → CtrlPacket := fun _ => .zeros
  /-- The value of the control. -/
  cur : CtrlPacket := .zeros
  /-- The device is in burst mode. -/
  burst : Bool := false
  /-- The number of driver calls so far. -/
  calls : ℕ := 0
  /-- What was sent to the device. -/
  log : List Bytes := []

/-- What a transfer does to the mode. -/
def deviceReceives (data : Bytes) (burst : Bool) : Bool :=
  if data = [0x00, 0x19, 0x00, 0x00] then true
  else if data = switchBuf then false
  else burst

section Kernel

variable (core : Core) (bus : Bus)

/-- **`adsd3500_chip_config`**: the value of the control after it, and the bytes
that were sent. -/
def chipConfig (n : ℕ) (new : CtrlPacket) : Option (CtrlPacket × Option Bytes) :=
  if new.pldSize > 4096 || new.pldSize < 2 then none
  else if new.rW > 1 then none
  else if new.rW ≠ 0 then
    if bus.sends n then some (new.write 0 [0xFF], some (slice 3 new.pldSize new.bytes)) else none
  else
    match bus.receives n with
    | none => none
    | some data => some ((new.write 3 ((List.range new.pldSize).map data)).write 0 [0xFF], none)

/-- A routine of the sensor. -/
abbrev Sensor (α : Type) := EStateM Exit State α

/-- The buffer of a routine has new contents. -/
def State.setBuffer (s : State) (r : Routine) (p : CtrlPacket) : State :=
  { s with buffers := Function.update s.buffers r p }

/-- Bytes are written into the buffer of a routine. -/
def poke (r : Routine) (off : ℕ) (bs : Bytes) : Sensor Unit :=
  modify fun s => s.setBuffer r ((s.buffers r).write off bs)

/-- `memset`. -/
def clear (r : Routine) : Sensor Unit := modify fun s => s.setBuffer r .zeros

/-- Bytes are read from it. -/
def peek (r : Routine) (off n : ℕ) : Sensor Bytes := do
  ensure (off + n ≤ ctrlPacketSize) .undefined
  let s ← get
  pure (slice off n (s.buffers r).bytes)

/-- The state after a packet that was taken. -/
def State.taken (s : State) (r : Routine) (copiesBack : Bool) (new : CtrlPacket)
    (sent : Option Bytes) : State where
  buffers := if copiesBack then Function.update s.buffers r new else s.buffers
  cur := new
  burst := sent.elim s.burst fun data => deviceReceives data s.burst
  calls := s.calls + 1
  log := s.log ++ sent.toList

/-- **`VIDIOC_S_EXT_CTRLS`** with the buffer of a routine. -/
def setCtrls (r : Routine) : Sensor Unit := fun s =>
  if core.skips s.cur (s.buffers r) then .ok () { s with calls := s.calls + 1 }
  else
    match chipConfig bus s.calls (s.buffers r) with
    | none => .error (.status .genericError) { s with calls := s.calls + 1 }
    | some (new, sent) => .ok () (s.taken r core.copiesBack new sent)

/-- **`VIDIOC_G_EXT_CTRLS`**. -/
def getCtrls (r : Routine) : Sensor Unit := fun s =>
  if bus.gets s.calls then .ok () { s.setBuffer r s.cur with calls := s.calls + 1 }
  else .error (.status .genericError) { s with calls := s.calls + 1 }

end Kernel

/-! ## The routines

In the order of the source, with its offsets. A packet is written into the
buffer of the routine in several pieces, and what lies behind the last piece is
what an earlier call has left there. Only one of the routines clears its buffer
first. -/

section Routines

variable (core : Core) (bus : Bus)

/-- **`adsd3500_read_cmd`**. -/
def adsd3500ReadCmd (cmd : UInt16) : Sensor Bytes := do
  poke .readCmd 0 ([1, 0, 2] ++ highLow cmd)
  setCtrls core bus .readCmd
  poke .readCmd 0 [0, 0, 2]
  setCtrls core bus .readCmd
  getCtrls bus .readCmd
  peek .readCmd 3 2

/-- **`adsd3500_write_cmd`**. -/
def adsd3500WriteCmd (cmd data : UInt16) : Sensor Unit := do
  poke .writeCmd 0 ([1, 0, 4] ++ highLow cmd ++ highLow data)
  setCtrls core bus .writeCmd

/-- The packet that switches back to the standard mode. -/
def switchPacket : Bytes := [0x01, 0x00, 0x10] ++ switchBuf

/-- **`adsd3500_read_payload_cmd`**, where `first` is the first byte of the
caller's buffer. -/
def adsd3500ReadPayloadCmd (cmd : UInt32) (first : UInt8) (len : UInt16) : Sensor Bytes := do
  adsd3500WriteCmd core bus 0x0019 0x0000
  clear .readPayloadCmd
  poke .readPayloadCmd 0 [0x01, 0x00, 0x10, 0xAD]
  poke .readPayloadCmd 6 [cmd.toUInt8]
  let s ← get
  poke .readPayloadCmd 11 (le32 (s.buffers .readPayloadCmd).checksum)
  poke .readPayloadCmd 15 [first]
  setCtrls core bus .readPayloadCmd
  poke .readPayloadCmd 0 ([0] ++ highLow len)
  setCtrls core bus .readPayloadCmd
  getCtrls bus .readPayloadCmd
  let bytes ← peek .readPayloadCmd 3 len.toNat
  if cmd = 0x13 then pure bytes
  else
    poke .readPayloadCmd 0 switchPacket
    setCtrls core bus .readPayloadCmd
    pure bytes

/-- **`adsd3500_read_payload`**. -/
def adsd3500ReadPayload (len : UInt16) : Sensor Bytes := do
  clear .readPayload
  poke .readPayload 0 ([0] ++ highLow len)
  setCtrls core bus .readPayload
  getCtrls bus .readPayload
  peek .readPayload 3 len.toNat

/-- A failure that is only logged. -/
def logged (m : Sensor Unit) : Sensor Unit := fun s =>
  match m s with
  | .error (.status _) s => .ok () s
  | result => result

/-- **`adsd3500_write_payload_cmd`**. -/
def adsd3500WritePayloadCmd (cmd : UInt32) (payload : Bytes) : Sensor Unit := do
  logged (adsd3500WriteCmd core bus 0x0019 0x0000)
  poke .writePayloadCmd 0
    ([0x01] ++ highLow (UInt16.ofNat payload.length + 16) ++ [0xAD]
      ++ highLow (UInt16.ofNat payload.length) ++ [cmd.toUInt8])
  let s ← get
  poke .writePayloadCmd 11 (le32 (s.buffers .writePayloadCmd).checksum)
  ensure (15 + payload.length ≤ ctrlPacketSize) .undefined
  poke .writePayloadCmd 15 payload
  setCtrls core bus .writePayloadCmd
  poke .writePayloadCmd 0 switchPacket
  setCtrls core bus .writePayloadCmd

/-- **`adsd3500_write_payload`**. -/
def adsd3500WritePayload (payload : Bytes) : Sensor Unit := do
  poke .writePayload 0 ([1] ++ highLow (UInt16.ofNat payload.length))
  ensure (3 + payload.length ≤ ctrlPacketSize) .undefined
  poke .writePayload 3 payload
  setCtrls core bus .writePayload

end Routines

/-! ## A packet in the buffer

A packet has a first byte, a length, and data, and the driver takes as much of
the buffer as the length says. So it is enough to know the front of the buffer
(`Holds`); a packet that is written in pieces is put together from them, and
what lies behind it does not matter to the driver. -/

section Packets

variable {p : CtrlPacket} {off : ℕ} {bs packet : Bytes}

theorem bytes_write (h : off + bs.length ≤ ctrlPacketSize) :
    (p.write off bs).bytes = p.bytes.take off ++ (bs ++ p.bytes.drop (off + bs.length)) := by
  have hlength := p.length_bytes
  exact List.take_of_length_le (by
    rw [List.length_append, List.length_append, List.length_take, List.length_drop]
    omega)

/-- What is written in front is in front. -/
theorem prefix_write (h : bs.length ≤ ctrlPacketSize) : bs <+: (p.write 0 bs).bytes := by
  rw [bytes_write (by omega), List.take_zero, List.nil_append]
  exact List.prefix_append ..

/-- What is written is there. -/
theorem slice_write (h : off + bs.length ≤ ctrlPacketSize) :
    slice off bs.length (p.write off bs).bytes = bs := by
  have hoff : (p.bytes.take off).length = off := by
    rw [List.length_take, p.length_bytes]
    omega
  rw [bytes_write h, slice, List.drop_left' hoff, List.take_left]

/-- Behind what is written, nothing has changed. -/
theorem slice_write_behind {i n : ℕ} (h : off + bs.length ≤ ctrlPacketSize)
    (hi : off + bs.length ≤ i) : slice i n (p.write off bs).bytes = slice i n p.bytes := by
  have hoff : (p.bytes.take off).length = off := by
    rw [List.length_take, p.length_bytes]
    omega
  obtain ⟨k, rfl⟩ := Nat.exists_eq_add_of_le hi
  have hfront : (p.bytes.take off ++ bs).length = off + bs.length := by
    rw [List.length_append, hoff]
  rw [bytes_write h, slice, slice, ← List.append_assoc, ← List.drop_drop, List.drop_left' hfront,
    List.drop_drop]

/-- In front of what is left as it is. -/
theorem bytes_write_append (off : ℕ) (bs : Bytes) {front rest : Bytes}
    (hp : p.bytes = front ++ rest) (h : off + bs.length ≤ front.length) :
    (p.write off bs).bytes = (front.take off ++ (bs ++ front.drop (off + bs.length))) ++ rest := by
  have hlength := p.length_bytes
  rw [hp, List.length_append] at hlength
  rw [bytes_write (by omega), hp, List.take_append_of_le_length (by omega),
    List.drop_append_of_le_length h, List.append_assoc, List.append_assoc]

theorem getD_of_prefix {bytes : Bytes} (h : packet <+: bytes) {i : ℕ} (hi : i < packet.length) :
    bytes.getD i 0 = packet.getD i 0 := by
  obtain ⟨rest, rfl⟩ := h
  rw [List.getD_eq_getElem?_getD, List.getElem?_append_left hi, ← List.getD_eq_getElem?_getD]

/-- A packet of a size that the driver takes. -/
def sizeOk (size : ℕ) : Bool := 2 ≤ size && size ≤ 4096

/-- A length, as the driver reads it. -/
theorem highLow_size (len : UInt16) :
    ((highLow len).getD 0 0).toNat * 256 + ((highLow len).getD 1 0).toNat = len.toNat := by
  show (len >>> 8).toUInt8.toNat * 256 + len.toUInt8.toNat = len.toNat
  rw [UInt16.toNat_toUInt8, UInt16.toNat_toUInt8, UInt16.toNat_shiftRight]
  have hlt := len.toNat_lt
  have h8 : (8 : UInt16).toNat % 16 = 8 := rfl
  rw [h8, Nat.shiftRight_eq_div_pow]
  omega

/-- **A packet in front of the buffer**: a first byte, a length, and data of that
length. -/
structure Holds (p : CtrlPacket) (first : UInt8) (len : UInt16) (data : Bytes) : Prop where
  front : [first] ++ highLow len ++ data <+: p.bytes

theorem Holds.rW {first : UInt8} {len : UInt16} {data : Bytes} (h : Holds p first len data) :
    p.rW = first := getD_of_prefix h.front (i := 0) (by simp [highLow])

theorem Holds.pldSize {first : UInt8} {len : UInt16} {data : Bytes} (h : Holds p first len data) :
    p.pldSize = len.toNat := by
  rw [CtrlPacket.pldSize, getD_of_prefix h.front (by simp [highLow]),
    getD_of_prefix h.front (by simp [highLow])]
  exact highLow_size len

theorem Holds.slice {first : UInt8} {len : UInt16} {data : Bytes} (h : Holds p first len data) :
    slice 3 data.length p.bytes = data := by
  obtain ⟨rest, hrest⟩ := h.front
  rw [← hrest]
  exact List.take_left

end Packets

/-! ## Call for call

The driver puts 0xFF in front of what the control holds when it has taken a
packet, and no routine writes a packet that begins with it. So the value to be
set is never the value that is there, and the kernel calls the driver each time,
however it compares. A control that has not been set yet holds zeros, and the
packets are not zeros either. -/

section Refinement

variable {core : Core} {bus : Bus} {s : State} {d : Adsd3500} {r : Routine}

/-- The value of a control that the driver was called for, or of one that it
never was. -/
def Marked (p : CtrlPacket) : Prop := p = .zeros ∨ p.rW = 0xFF

/-- **The same device**, by what `BurstMode` knows of it. -/
structure Same (s : State) (d : Adsd3500) : Prop where
  /-- The mode is the same, … -/
  burst : s.burst = d.burst
  /-- … and so is the number of calls. -/
  calls : s.calls = d.calls
  /-- The driver was called for the value of the control, or never was
  called. -/
  marked : Marked s.cur

/-- The answers of the driver, as `BurstMode` has them. -/
def answers (bus : Bus) : DriverAnswers where
  sets n packet :=
    let size := (packet.getD 1 0).toNat * 256 + (packet.getD 2 0).toNat
    sizeOk size && if packet.getD 0 0 = 0 then (bus.receives n).isSome else bus.sends n
  gets n :=
    if bus.gets n then
      (bus.receives (n - 1)).map fun data => [0xFF, 0, 0] ++ (List.range 4096).map data
    else none

/-- **A packet with something in it is never taken for the value** that the
control has. -/
theorem not_skips (core : Core) {cur : CtrlPacket} (hcur : Marked cur) {p : CtrlPacket}
    (hrW : p.rW = 0 ∧ p.pldSize ≠ 0 ∨ p.rW = 1) : core.skips cur p = false := by
  rw [Bool.eq_false_iff]
  intro hskips
  obtain rfl := core.eq_of_skips cur p hskips
  rcases hcur with rfl | hmark
  · rcases hrW with ⟨-, h⟩ | h
    · exact h rfl
    · exact absurd h (by decide)
  · rw [hmark] at hrW
    rcases hrW with ⟨h, -⟩ | h <;> exact absurd h (by decide)

theorem rW_marked (p : CtrlPacket) : (p.write 0 [0xFF]).rW = 0xFF :=
  getD_of_prefix (prefix_write (by decide)) (by decide)

/-- What a packet does to the mode, for the driver and in `BurstMode`. -/
theorem receive_eq {len : UInt16} {data : Bytes} (hlen : data.length = len.toNat) (burst : Bool) :
    Adsd3500.receive ([1] ++ highLow len ++ data) burst = deviceReceives data burst := by
  have henter : [1] ++ highLow len ++ data = enterPacket ↔ data = [0x00, 0x19, 0x00, 0x00] := by
    constructor
    · exact fun h => congrArg (List.drop 3) h
    · rintro rfl
      obtain rfl : len = 4 := UInt16.toNat_inj.mp hlen.symm
      rfl
  have hswitch : [1] ++ highLow len ++ data = payloadPacket switchBuf ↔ data = switchBuf := by
    constructor
    · exact fun h => congrArg (List.drop 3) h
    · rintro rfl
      obtain rfl : len = 16 := UInt16.toNat_inj.mp hlen.symm
      rfl
  simp only [Adsd3500.receive, deviceReceives, henter, hswitch]

/-- What the driver makes of a packet. -/
theorem chipConfig_eq (bus : Bus) {p : CtrlPacket} (hrW : p.rW = 0 ∨ p.rW = 1) (n : ℕ) :
    chipConfig bus n p
      = if sizeOk p.pldSize then
          if p.rW = 0 then (bus.receives n).map fun data =>
            ((p.write 3 ((List.range p.pldSize).map data)).write 0 [0xFF], none)
          else if bus.sends n then
            some (p.write 0 [0xFF], some (slice 3 p.pldSize p.bytes)) else none
        else none := by
  have hsize : (decide (p.pldSize > 4096) || decide (p.pldSize < 2)) = !sizeOk p.pldSize := by
    rw [sizeOk, Bool.not_and, ← decide_not, ← decide_not, Bool.or_comm]
    congr 1 <;> exact decide_eq_decide.mpr (by omega)
  rw [chipConfig, hsize]
  cases sizeOk p.pldSize with
  | false => rfl
  | true =>
    rcases hrW with h | h
    · rw [h]
      cases bus.receives n <;> rfl
    · rw [h]
      rfl

theorem setCtrls_some {new : CtrlPacket} {sent : Option Bytes}
    (hskips : core.skips s.cur (s.buffers r) = false)
    (hchip : chipConfig bus s.calls (s.buffers r) = some (new, sent)) :
    setCtrls core bus r s = .ok () (s.taken r core.copiesBack new sent) := by
  rw [setCtrls, hskips, hchip]
  rfl

theorem setCtrls_none (hskips : core.skips s.cur (s.buffers r) = false)
    (hchip : chipConfig bus s.calls (s.buffers r) = none) :
    setCtrls core bus r s
      = .error (.status .genericError) { s with calls := s.calls + 1 } := by
  rw [setCtrls, hskips, hchip]
  rfl

/-- **A packet that is written**, for the driver and in `BurstMode`. -/
theorem simulates_write (h : Same s d) {len : UInt16} {data : Bytes}
    (hp : Holds (s.buffers r) 1 len data) (hlen : data.length = len.toNat) :
    Simulates (setCtrls core bus r) (setExtCtrls (answers bus) ([1] ++ highLow len ++ data)) s d
      (fun _ _ s' d' => Same s' d') Same := by
  have hskips : core.skips s.cur (s.buffers r) = false :=
    not_skips core h.marked (.inr hp.rW)
  have hsets : (answers bus).sets d.calls ([1] ++ highLow len ++ data)
      = (sizeOk len.toNat && bus.sends d.calls) := by
    rw [← highLow_size len]
    rfl
  have hdata : slice 3 len.toNat (s.buffers r).bytes = data := hlen ▸ hp.slice
  have hchip := chipConfig_eq bus (.inr hp.rW) s.calls
  rw [hp.pldSize, hp.rW, hdata, if_neg (show (1 : UInt8) ≠ 0 by decide), h.calls] at hchip
  cases hok : sizeOk len.toNat && bus.sends d.calls with
  | true =>
    obtain ⟨hsize, hsends⟩ := Bool.and_eq_true_iff.mp hok
    rw [if_pos hsize, if_pos hsends, ← h.calls] at hchip
    have habstract : setExtCtrls (answers bus) ([1] ++ highLow len ++ data) d
        = .ok () { burst := Adsd3500.receive ([1] ++ highLow len ++ data) d.burst,
                   calls := d.calls + 1 } := by
      rw [setExtCtrls, hsets, hok, if_pos rfl]
    refine .returns (setCtrls_some hskips hchip) habstract ⟨?_, ?_, .inr (rW_marked _)⟩
    · rw [receive_eq hlen, ← h.burst]
      rfl
    · exact congrArg (· + 1) h.calls
  | false =>
    have hnone : chipConfig bus s.calls (s.buffers r) = none := by
      rw [h.calls, hchip]
      rcases Bool.and_eq_false_iff.mp hok with hsize | hsends
      · rw [hsize]
        rfl
      · rw [hsends, if_neg Bool.false_ne_true]
        exact ite_self none
    have habstract : setExtCtrls (answers bus) ([1] ++ highLow len ++ data) d
        = .error (.status .genericError) { d with calls := d.calls + 1 } := by
      rw [setExtCtrls, hsets, hok]
      rfl
    exact .stops (setCtrls_none hskips hnone) habstract
      ⟨h.burst, congrArg (· + 1) h.calls, h.marked⟩

/-- What was received is in the value of the control. -/
structure Received (bus : Bus) (s : State) (len : ℕ) (p : CtrlPacket) : Prop where
  /-- It is no more than a packet holds. -/
  le : len ≤ 4096
  /-- It is what the bus has given. -/
  data : ∃ data, bus.receives (s.calls - 1) = some data
    ∧ slice 3 len p.bytes = (List.range len).map data

/-- **A packet that asks for so many bytes**, for the driver and in
`BurstMode`. -/
theorem simulates_request (h : Same s d) {len : UInt16} (hp : Holds (s.buffers r) 0 len [])
    (hne : len ≠ 0) :
    Simulates (setCtrls core bus r) (setExtCtrls (answers bus) (requestPacket len)) s d
      (fun _ _ s' d' => Same s' d' ∧ Received bus s' len.toNat s'.cur) Same := by
  have hpos : len.toNat ≠ 0 := fun h => hne (UInt16.toNat_inj.mp h)
  have hskips : core.skips s.cur (s.buffers r) = false :=
    not_skips core h.marked (.inl ⟨hp.rW, by rw [hp.pldSize]; exact hpos⟩)
  have hsets : (answers bus).sets d.calls (requestPacket len)
      = (sizeOk len.toNat && (bus.receives d.calls).isSome) := by
    rw [← highLow_size len]
    rfl
  have hchip := chipConfig_eq bus (.inl hp.rW) s.calls
  rw [hp.pldSize, hp.rW, if_pos rfl, h.calls] at hchip
  by_cases hok : sizeOk len.toNat = true ∧ (bus.receives d.calls).isSome = true
  · obtain ⟨hsize, hreceives⟩ := hok
    obtain ⟨data, hdata⟩ := Option.isSome_iff_exists.mp hreceives
    have hle : 2 ≤ len.toNat ∧ len.toNat ≤ 4096 := by simpa [sizeOk] using hsize
    rw [if_pos hsize, hdata, Option.map_some, ← h.calls] at hchip
    have habstract : setExtCtrls (answers bus) (requestPacket len) d
        = .ok () { burst := d.burst, calls := d.calls + 1 } := by
      rw [setExtCtrls, hsets, hsize, hreceives, if_pos (by rfl),
        receive_of_neutral (neutral_requestPacket len)]
    refine .returns (setCtrls_some hskips hchip) habstract
      ⟨⟨h.burst, congrArg (· + 1) h.calls, .inr (rW_marked _)⟩, hle.2, data, ?_, ?_⟩
    · show bus.receives (s.calls + 1 - 1) = _
      rw [Nat.add_sub_cancel, h.calls, hdata]
    · have hlength : ((List.range len.toNat).map data).length = len.toNat := by
        rw [List.length_map, List.length_range]
      have hroom : 3 + ((List.range len.toNat).map data).length ≤ ctrlPacketSize := by
        rw [hlength]
        exact Nat.add_le_add_left hle.2 3
      have hslice := slice_write (p := s.buffers r) hroom
      rw [hlength] at hslice
      exact (slice_write_behind (by decide) (by decide)).trans hslice
  · have hnone : chipConfig bus s.calls (s.buffers r) = none := by
      rw [h.calls, hchip]
      split
      · next hsize =>
        rw [Option.map_eq_none_iff, ← Option.not_isSome_iff_eq_none]
        exact fun h => hok ⟨hsize, h⟩
      · rfl
    have habstract : setExtCtrls (answers bus) (requestPacket len) d
        = .error (.status .genericError) { d with calls := d.calls + 1 } := by
      rw [setExtCtrls, hsets, if_neg (by rwa [Bool.and_eq_true])]
    exact .stops (setCtrls_none hskips hnone) habstract
      ⟨h.burst, congrArg (· + 1) h.calls, h.marked⟩

/-- **The value of the control is read**, for the driver and in `BurstMode`. -/
theorem simulates_getCtrls (h : Same s d) {len : ℕ} (hcur : Received bus s len s.cur) :
    Simulates (getCtrls bus r) (getExtCtrls (answers bus)) s d
      (fun _ bytes s' d' => Same s' d' ∧ len ≤ 4096
        ∧ slice 3 len (s'.buffers r).bytes = (bytes.drop 3).take len) Same := by
  obtain ⟨hle, data, hdata, hslice⟩ := hcur
  have hgets : (answers bus).gets d.calls
      = if bus.gets s.calls then some ([0xFF, 0, 0] ++ (List.range 4096).map data) else none := by
    rw [← h.calls]
    show (if _ then (bus.receives (s.calls - 1)).map _ else none) = _
    rw [hdata]
    rfl
  cases hok : bus.gets s.calls with
  | true =>
    rw [hok, if_pos rfl] at hgets
    have hgetCtrls : getCtrls bus r s
        = .ok () { s.setBuffer r s.cur with calls := s.calls + 1 } := by
      rw [getCtrls, hok]
      rfl
    have habstract : getExtCtrls (answers bus) d
        = .ok ([0xFF, 0, 0] ++ (List.range 4096).map data) { d with calls := d.calls + 1 } := by
      rw [getExtCtrls, hgets]
    refine .returns hgetCtrls habstract ⟨⟨h.burst, congrArg (· + 1) h.calls, h.marked⟩, hle, ?_⟩
    have hdrop : ([0xFF, 0, 0] ++ (List.range 4096).map data).drop 3
        = (List.range 4096).map data := List.drop_left' rfl
    rw [hdrop, ← List.map_take, List.take_range, Nat.min_eq_left hle, ← hslice]
    exact congrArg (fun p => slice 3 len p.bytes) (Function.update_self r s.cur s.buffers)
  | false =>
    rw [hok, if_neg Bool.false_ne_true] at hgets
    have hgetCtrls : getCtrls bus r s
        = .error (.status .genericError) { s with calls := s.calls + 1 } := by
      rw [getCtrls, hok]
      rfl
    have habstract : getExtCtrls (answers bus) d
        = .error (.status .genericError) { d with calls := d.calls + 1 } := by
      rw [getExtCtrls, hgets]
    exact .stops hgetCtrls habstract ⟨h.burst, congrArg (· + 1) h.calls, h.marked⟩

theorem peek_eq {off n : ℕ} (hn : off + n ≤ ctrlPacketSize) (s : State) :
    peek r off n s = .ok (slice off n (s.buffers r).bytes) s := by
  rw [peek, decide_eq_true hn]
  rfl

/-- **The calls that read so many bytes.** -/
theorem simulates_readBack (h : Same s d) {len : UInt16} (hp : Holds (s.buffers r) 0 len [])
    (hne : len ≠ 0) :
    Simulates (setCtrls core bus r >>= fun _ => getCtrls bus r >>= fun _ => peek r 3 len.toNat)
      (readBack (answers bus) len) s d (fun bytes bytes' s' d' => bytes = bytes' ∧ Same s' d')
      Same := by
  refine (simulates_request h hp hne).bind fun _ _ s' d' ⟨h', hcur⟩ => ?_
  refine (simulates_getCtrls h' hcur).bind fun _ bytes s'' d'' ⟨h'', hle, hslice⟩ => ?_
  exact .returns (peek_eq (Nat.add_le_add_left hle 3) s'') rfl ⟨hslice, h''⟩

@[simp] theorem buffers_setBuffer (s : State) (r : Routine) (p : CtrlPacket) :
    (s.setBuffer r p).buffers r = p := Function.update_self ..

theorem Same.setBuffer (h : Same s d) (r : Routine) (p : CtrlPacket) : Same (s.setBuffer r p) d :=
  ⟨h.burst, h.calls, h.marked⟩

/-- A packet that is written into a buffer. -/
theorem holds_write (p : CtrlPacket) {first : UInt8} {len : UInt16} {data : Bytes}
    (h : 3 + data.length ≤ ctrlPacketSize) :
    Holds (p.write 0 ([first] ++ highLow len ++ data)) first len data :=
  ⟨prefix_write (by
    simp only [highLow, List.length_append, List.length_cons, List.length_nil]
    omega)⟩

theorem poke_eq (r : Routine) (off : ℕ) (bs : Bytes) (s : State) :
    poke r off bs s = .ok () (s.setBuffer r ((s.buffers r).write off bs)) := rfl

theorem clear_eq (r : Routine) (s : State) : clear r s = .ok () (s.setBuffer r .zeros) := rfl

/-- **`adsd3500_write_cmd`**, and the one of `BurstMode`. -/
theorem simulates_writeCmd (h : Same s d) (cmd data : UInt16) :
    Simulates (adsd3500WriteCmd core bus cmd data) (writeCmd (answers bus) cmd data) s d
      (fun _ _ s' d' => Same s' d') Same := by
  have hpacket : [1, 0, 4] ++ highLow cmd ++ highLow data
      = [1] ++ highLow 4 ++ (highLow cmd ++ highLow data) := rfl
  rw [adsd3500WriteCmd, writeCmd, registerPacket, hpacket]
  refine .bind_left (poke_eq ..) (simulates_write (h.setBuffer _ _) ?_ rfl)
  rw [buffers_setBuffer]
  exact holds_write _ (show 7 ≤ 4099 by decide)

/-- **`adsd3500_read_cmd`**. -/
theorem simulates_readCmd (h : Same s d) (cmd : UInt16) :
    Simulates (adsd3500ReadCmd core bus cmd) (readCmd (answers bus) cmd) s d
      (fun bytes bytes' s' d' => bytes = bytes' ∧ Same s' d') Same := by
  have hpacket : [1, 0, 2] ++ highLow cmd = [1] ++ highLow 2 ++ highLow cmd := rfl
  rw [adsd3500ReadCmd, readCmd, hpacket]
  refine .bind_left (poke_eq ..) ((simulates_write (h.setBuffer _ _) ?_ rfl).bind
    fun _ _ s' d' h' => ?_)
  · rw [buffers_setBuffer]
    exact holds_write _ (show 5 ≤ 4099 by decide)
  · have hrequest : ∀ p : CtrlPacket, Holds (p.write 0 [0, 0, 2]) 0 2 [] := fun p =>
      @holds_write p 0 2 [] (by decide)
    refine .bind_left (poke_eq ..)
      (@simulates_readBack core bus _ _ .readCmd (h'.setBuffer _ _) 2 ?_ (by decide))
    rw [buffers_setBuffer]
    exact hrequest _

/-- **`adsd3500_read_payload`**. -/
theorem simulates_readPayload (h : Same s d) {len : UInt16} (hne : len ≠ 0) :
    Simulates (adsd3500ReadPayload core bus len) (readPayload (answers bus) len) s d
      (fun bytes bytes' s' d' => bytes = bytes' ∧ Same s' d') Same := by
  have hpacket : [0] ++ highLow len = [0] ++ highLow len ++ [] := (List.append_nil _).symm
  rw [adsd3500ReadPayload, readPayload, hpacket]
  refine .bind_left (clear_eq ..) (.bind_left (poke_eq ..)
    (simulates_readBack ((h.setBuffer _ _).setBuffer _ _) ?_ hne))
  rw [buffers_setBuffer]
  exact holds_write _ (by decide)

/-- A packet that is written in two pieces. -/
theorem holds_write_write (p : CtrlPacket) {first : UInt8} {len : UInt16} {data : Bytes}
    (h : 3 + data.length ≤ ctrlPacketSize) :
    Holds ((p.write 0 ([first] ++ highLow len)).write 3 data) first len data := by
  refine ⟨?_⟩
  have hlen : ([first] ++ highLow len).length = 3 := rfl
  have hfront : (p.write 0 ([first] ++ highLow len)).bytes.take 3 = [first] ++ highLow len := by
    rw [bytes_write (by rw [hlen]; decide), List.take_zero, List.nil_append, List.take_left' hlen]
  rw [bytes_write h, hfront, ← List.append_assoc]
  exact List.prefix_append ..

/-- **`adsd3500_write_payload`**. -/
theorem simulates_writePayload (h : Same s d) {payload : Bytes} (hlen : payload.length ≤ 4096) :
    Simulates (adsd3500WritePayload core bus payload) (writePayload (answers bus) payload) s d
      (fun _ _ s' d' => Same s' d') Same := by
  have hsize : payload.length = (UInt16.ofNat payload.length).toNat :=
    (UInt16.toNat_ofNat_of_lt' (hlen.trans_lt (by decide))).symm
  have hroom : 3 + payload.length ≤ ctrlPacketSize := Nat.add_le_add_left hlen 3
  have hensure : ∀ s : State, (ensure (decide (3 + payload.length ≤ ctrlPacketSize)) .undefined :
      Sensor Unit) s = .ok () s := fun s => by
    rw [decide_eq_true hroom]
    rfl
  rw [adsd3500WritePayload, writePayload, payloadPacket]
  refine .bind_left (poke_eq ..) (.bind_left (hensure _) (.bind_left (poke_eq ..)
    (simulates_write ((h.setBuffer _ _).setBuffer _ _) ?_ hsize)))
  rw [buffers_setBuffer, buffers_setBuffer]
  exact holds_write_write _ hroom

/-- The packets that `adsd3500_read_payload_cmd` writes, in a buffer of zeros. -/
theorem holds_readPayloadCmd (cmd : UInt32) (first : UInt8) :
    let p := (CtrlPacket.zeros.write 0 [0x01, 0x00, 0x10, 0xAD]).write 6 [cmd.toUInt8]
    Holds ((p.write 11 (le32 p.checksum)).write 15 [first]) 1 16 (commandPayload cmd first) := by
  intro p
  have hzeros : CtrlPacket.zeros.bytes = List.replicate 19 0 ++ List.replicate 4080 0 :=
    List.replicate_add 19 4080 0
  have hp : p.bytes = ([0x01, 0x00, 0x10, 0xAD, 0, 0, cmd.toUInt8] ++ List.replicate 12 0)
      ++ List.replicate 4080 0 :=
    bytes_write_append _ _ (bytes_write_append _ _ hzeros (show 4 ≤ 19 by decide))
      (show 7 ≤ 19 by decide)
  have hsum : p.checksum = cmd.toUInt8.toUInt32 := by
    have hslice : slice 4 7 p.bytes = [0, 0, cmd.toUInt8, 0, 0, 0, 0] := by
      rw [hp]
      rfl
    have hsum : (([0, 0, cmd.toUInt8, 0, 0, 0, 0] : Bytes).map UInt8.toNat).sum
        = cmd.toUInt8.toNat := by
      have hzero : UInt8.toNat 0 = 0 := rfl
      simp only [List.map_cons, List.map_nil, List.sum_cons, List.sum_nil, hzero, Nat.add_zero,
        Nat.zero_add]
    rw [CtrlPacket.checksum, hslice, hsum]
    exact UInt32.toNat_inj.mp (UInt32.toNat_ofNat_of_lt' (cmd.toUInt8.toNat_lt.trans (by decide)))
  have hbytes := bytes_write_append 15 [first]
    (bytes_write_append 11 (le32 p.checksum) hp (show 15 ≤ 19 by decide))
    (show 16 ≤ 19 by decide)
  rw [hsum] at hbytes ⊢
  exact ⟨hbytes ▸ List.prefix_append ..⟩

theorem holds_switchPacket (p : CtrlPacket) : Holds (p.write 0 switchPacket) 1 16 switchBuf :=
  @holds_write p 1 16 switchBuf (by decide)

/-- **`adsd3500_read_payload_cmd`**. -/
theorem simulates_readPayloadCmd (h : Same s d) (cmd : UInt32) (first : UInt8) {len : UInt16}
    (hne : len ≠ 0) :
    Simulates (adsd3500ReadPayloadCmd core bus cmd first len)
      (readPayloadCmd (answers bus) cmd first len) s d
      (fun bytes bytes' s' d' => bytes = bytes' ∧ Same s' d') Same := by
  have hcommand : payloadPacket (commandPayload cmd first)
      = [1] ++ highLow 16 ++ commandPayload cmd first := rfl
  have hswitch : payloadPacket switchBuf = [1] ++ highLow 16 ++ switchBuf := rfl
  have hrequest : [0] ++ highLow len = [0] ++ highLow len ++ [] := (List.append_nil _).symm
  rw [adsd3500ReadPayloadCmd, readPayloadCmd, hcommand, hswitch, hrequest]
  simp only [readBack, bind_assoc, pure_bind]
  refine (simulates_writeCmd h _ _).bind fun _ _ s₁ d₁ h₁ => ?_
  -- the command, in a buffer that is cleared
  refine .bind_left (clear_eq ..) (.bind_left (poke_eq ..) (.bind_left (poke_eq ..)
    (.bind_left rfl (.bind_left (poke_eq ..) (.bind_left (poke_eq ..) ?_)))))
  simp only [buffers_setBuffer]
  refine (simulates_write (((((h₁.setBuffer _ _).setBuffer _ _).setBuffer _ _).setBuffer _
    _).setBuffer _ _) ?_ rfl).bind fun _ _ s₂ d₂ h₂ => ?_
  · rw [buffers_setBuffer]
    exact holds_readPayloadCmd cmd first
  -- what it returns
  refine .bind_left (poke_eq ..) ((simulates_request (h₂.setBuffer _ _) ?_ hne).bind
    fun _ _ s₃ d₃ ⟨h₃, hcur⟩ => (simulates_getCtrls h₃ hcur).bind
      fun _ bytes s₄ d₄ ⟨h₄, hle, hslice⟩ =>
        .bind_left (peek_eq (Nat.add_le_add_left hle 3) s₄) ?_)
  · rw [buffers_setBuffer]
    exact holds_write _ (by decide)
  -- and the way back to the standard mode
  split
  · exact .pure ⟨hslice, h₄⟩
  · refine .bind_left (poke_eq ..) ((simulates_write (h₄.setBuffer _ _) ?_ rfl).bind
      fun _ _ s₅ d₅ h₅ => .pure ⟨hslice, h₅⟩)
    rw [buffers_setBuffer]
    exact holds_switchPacket _

end Refinement

end ControlPackets
