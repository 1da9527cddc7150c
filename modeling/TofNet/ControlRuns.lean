import TofNet.ControlPackets
import Mathlib

/-!
# Runs of control packets

Any calls of the sensor's routines, one after the other, from the start of the
process: what the static buffers, the value of the control and the device have
become is carried from one call to the next.

First what the calls return. `BurstMode` has no buffers and no kernel, and all
the same a run of its routines has the same results, and leaves the device in
the same mode (`calls_refine`).

Then what the device gets. `adsd3500_write_payload_cmd` never clears its buffer
and sends four bytes more than it has written. `log_sends` says what can be in
them, call by call: the invariant is that nothing ever stands between the
header and the checksum, and behind the checksum only what came from a payload
(`Clean`). The payload need not have been sent. It is in the buffer before the
control is written, and stays there when the driver refuses the packet; so
`Sends` keeps the payloads of all requests, and not only of those that have
returned.
-/

namespace ControlPackets

variable (core : Core) (bus : Bus)

/-! ## What the calls return

A run is a list of calls, and each of them is in step with that of `BurstMode`,
by the lemma about its routine. As the relation is kept by a call whether it
returns or not, the run is an induction over the list. A call may fail at any of
its packets; the next call then finds buffers that have a part of a packet in
them, and this is where the relation must not speak of the buffers. -/

/-- A call of a routine that `BurstMode` has as well. -/
inductive Call
  | readCmd (cmd : UInt16)
  | writeCmd (cmd data : UInt16)
  | readPayloadCmd (cmd : UInt32) (first : UInt8) (len : UInt16)
  | readPayload (len : UInt16)
  | writePayload (payload : Bytes)

/-- The call, with buffers and kernel. -/
def Call.run : Call → Sensor Bytes
  | .readCmd cmd => adsd3500ReadCmd core bus cmd
  | .writeCmd cmd data => do
    adsd3500WriteCmd core bus cmd data
    pure []
  | .readPayloadCmd cmd first len => adsd3500ReadPayloadCmd core bus cmd first len
  | .readPayload len => adsd3500ReadPayload core bus len
  | .writePayload payload => do
    adsd3500WritePayload core bus payload
    pure []

/-- The call in `BurstMode`. -/
def transfer (io : DriverAnswers) : Call → Transfer Bytes
  | .readCmd cmd => readCmd io cmd
  | .writeCmd cmd data => do
    writeCmd io cmd data
    pure []
  | .readPayloadCmd cmd first len => readPayloadCmd io cmd first len
  | .readPayload len => readPayload io len
  | .writePayload payload => do
    writePayload io payload
    pure []

/-- Some bytes are asked for, and a payload fits a packet. -/
def Call.Valid : Call → Prop
  | .readPayloadCmd _ _ len => len ≠ 0
  | .readPayload len => len ≠ 0
  | .writePayload payload => payload.length ≤ 4096
  | _ => True

/-- A call is in step with the one of `BurstMode`. -/
theorem simulates_call {c : Call} (hc : c.Valid) {s : State} {d : Adsd3500} (h : Same s d) :
    Simulates (c.run core bus) (transfer (answers bus) c) s d
      (fun bytes bytes' s' d' => bytes = bytes' ∧ Same s' d') Same := by
  cases c with
  | readCmd cmd => exact simulates_readCmd h cmd
  | writeCmd cmd data =>
    rw [Call.run, transfer]
    exact (simulates_writeCmd h cmd data).bind fun _ _ _ _ h => .pure ⟨rfl, h⟩
  | readPayloadCmd cmd first len => exact simulates_readPayloadCmd h cmd first hc
  | readPayload len => exact simulates_readPayload h hc
  | writePayload payload =>
    rw [Call.run, transfer]
    exact (simulates_writePayload h hc).bind fun _ _ _ _ h => .pure ⟨rfl, h⟩

/-- The first calls of a process. -/
theorem same_start : Same {} {} := ⟨rfl, rfl, .inl rfl⟩

/-- **Any calls return what they return in `BurstMode`**, each of them, and
leave the device in the same mode: whatever the kernel takes for unchanged and
copies back, and whatever is left in the static buffers.

`BurstMode` knows of transfers and their answers only. Between it and the device
are the control of the kernel, which compares a value with the last one and may
leave out the transfer, and the buffers of the functions, which are static and
keep the bytes of the call before. The relation that the runs keep (`Same`) is
between the two states of the device, so that the theorem may be used call by
call. -/
theorem calls_refine {calls : List Call} (h : ∀ c ∈ calls, c.Valid) :
    (runEach (calls.map (Call.run core bus)) {}).1
        = (runEach (calls.map (transfer (answers bus))) {}).1
      ∧ Same (runEach (calls.map (Call.run core bus)) {}).2
        (runEach (calls.map (transfer (answers bus))) {}).2 :=
  runEach_eq same_start fun c hc _ _ hs => simulates_call core bus (h c hc) hs

/-- A core that compares all bytes, and copies back. -/
def comparingCore : Core where
  skips cur new := decide (new = cur)
  copiesBack := true
  eq_of_skips _ _ h := of_decide_eq_true h

/-- A device that answers every call. -/
def countingBus : Bus where
  sends _ := true
  receives _ := some UInt8.ofNat
  gets _ := true

/-- On a kernel that compares, the same calls are made on both sides, and give
the same. -/
theorem calls_refine_comparing :
    let calls : List Call := [.readPayloadCmd 0x01 0 56, .writePayload [0x12], .readPayload 256,
      .readPayload 256, .readCmd 0x0112]
    (runEach (calls.map (Call.run comparingCore countingBus)) {}).1
        = (runEach (calls.map (transfer (answers countingBus))) {}).1
      ∧ Same (runEach (calls.map (Call.run comparingCore countingBus)) {}).2
        (runEach (calls.map (transfer (answers countingBus))) {}).2 :=
  calls_refine comparingCore countingBus (by
    simp only [List.forall_mem_cons, Call.Valid]
    exact ⟨by decide, by decide, by decide, by decide, trivial, nofun⟩)

/-! ## What the device gets

Where a packet is put together out of a whole buffer, what the device gets does
depend on earlier calls. The packets of a burst command with a payload are
written down with the four bytes behind the payload as a parameter
(`burstPackets`), and the question is what these can be. -/

/-- The header of a burst command with a payload of so many bytes, and its
checksum. -/
def burstHeader (cmd : UInt32) (len : UInt16) : Bytes :=
  let header := highLow len ++ [cmd.toUInt8, 0, 0, 0, 0]
  [0xAD] ++ header ++ le32 (UInt32.ofNat (header.map UInt8.toNat).sum)

/-- The packets of a burst command with a payload, where `rest` is what stands
behind it. -/
def burstPackets (cmd : UInt32) (payload rest : Bytes) : List Bytes :=
  [burstHeader cmd (UInt16.ofNat payload.length) ++ payload ++ rest, switchBuf]

/-- A call of any of the routines. -/
inductive Request
  | call (c : Call)
  | writePayloadCmd (cmd : UInt32) (payload : Bytes)

/-- The request, with buffers and kernel. -/
def Request.run : Request → Sensor Bytes
  | call c => c.run core bus
  | writePayloadCmd cmd payload => do
    adsd3500WritePayloadCmd core bus cmd payload
    pure []

/-- The payload that is put into the buffer of `adsd3500_write_payload_cmd`. -/
def Request.payload : Request → Bytes
  | call _ => []
  | writePayloadCmd _ payload => payload

/-- What the device is sent by a call that returns. -/
def Call.script : Call → List Bytes
  | .readCmd cmd => [highLow cmd]
  | .writeCmd cmd data => [highLow cmd ++ highLow data]
  | .readPayloadCmd cmd first _ =>
    [highLow 0x0019 ++ highLow 0x0000, commandPayload cmd first]
      ++ if cmd = 0x13 then [] else [switchBuf]
  | .readPayload _ => []
  | .writePayload payload => [payload]

/-- What it is sent by a request that returns. That the change of the mode has
failed is only logged. -/
def Request.scripts (rest : Bytes) : Request → List (List Bytes)
  | call c => [c.script]
  | writePayloadCmd cmd payload =>
    [[highLow 0x0019 ++ highLow 0x0000] ++ burstPackets cmd payload rest,
      burstPackets cmd payload rest]

/-- A request that has returned has sent a whole script, and one that has not
the first packets of one. -/
def Delivers (scripts : List (List Bytes)) (returned : Bool) (sent : List Bytes) : Prop :=
  ∃ script ∈ scripts, if returned then sent = script else sent <+: script

/-- The four bytes behind a payload are zero, or come from one that was there
before. -/
def Residue (seen rest : Bytes) : Prop := rest.length = 4 ∧ ∀ b ∈ rest, b = 0 ∨ b ∈ seen

/-- **What requests have sent**, one after the other. -/
inductive Sends : Bytes → List (Request × Bool) → List Bytes → Prop
  | nil {seen : Bytes} : Sends seen [] []
  | cons {seen rest : Bytes} {r : Request} {returned : Bool} {sent log : List Bytes}
      {rs : List (Request × Bool)} (hrest : Residue seen rest)
      (hsent : Delivers (r.scripts rest) returned sent)
      (hlog : Sends (seen ++ r.payload) rs log) :
      Sends seen ((r, returned) :: rs) (sent ++ log)

/-! ### The buffer that is never cleared

The buffer has parts with different histories. The header and the checksum are
written anew by each call. The four bytes between them are in no call's way, and
so stay zeros for ever; and behind the checksum there is what the longest
payload so far has left. The packet that switches the mode back is written over
the front of the buffer. -/

/-- The parts of the buffer: a header with its packet's, four bytes that nothing
is written to, a checksum, and the rest. -/
structure Parts (p : CtrlPacket) (header checksum rest : Bytes) : Prop where
  /-- One behind the other they are the buffer. -/
  bytes : p.bytes = header ++ ([0, 0, 0, 0] ++ (checksum ++ rest))
  /-- The header has seven bytes, … -/
  length_header : header.length = 7
  /-- … and the checksum four. -/
  length_checksum : checksum.length = 4

/-- **No trace of a call but its payload.** -/
def Clean (seen : Bytes) (p : CtrlPacket) : Prop :=
  ∃ header checksum rest, Parts p header checksum rest ∧ ∀ b ∈ rest, b = 0 ∨ b ∈ seen

section Buffer

variable {p : CtrlPacket} {off : ℕ} {bs seen header checksum rest : Bytes}

/-- Bytes are written over as many. -/
theorem bytes_write_mid {front mid back : Bytes} (hp : p.bytes = front ++ (mid ++ back))
    (hfront : front.length = off) (hmid : mid.length = bs.length) :
    (p.write off bs).bytes = front ++ (bs ++ back) := by
  have hlength := p.length_bytes
  rw [hp, List.length_append, List.length_append] at hlength
  have hback : (mid ++ back).drop bs.length = back := List.drop_left' hmid
  rw [bytes_write (by omega), hp, List.take_left' hfront, ← List.drop_drop, List.drop_left' hfront,
    hback]

namespace Parts

theorem length_rest (h : Parts p header checksum rest) : rest.length = 4084 := by
  have hlength := p.length_bytes
  rw [h.bytes, List.length_append, List.length_append, List.length_append, h.length_header,
    h.length_checksum, ctrlPacketSize] at hlength
  simp only [List.length_cons, List.length_nil] at hlength
  omega

/-- The header is written, or a part of it. -/
theorem write_header (h : Parts p header checksum rest) (hlen : bs.length ≤ 7) :
    Parts (p.write 0 bs) (bs ++ header.drop bs.length) checksum rest where
  bytes := by
    have hp : p.bytes
        = [] ++ (header.take bs.length
          ++ (header.drop bs.length ++ ([0, 0, 0, 0] ++ (checksum ++ rest)))) := by
      rw [List.nil_append, ← List.append_assoc (header.take _), List.take_append_drop]
      exact h.bytes
    have hlength : (header.take bs.length).length = bs.length := by
      rw [List.length_take, h.length_header, Nat.min_eq_left hlen]
    rw [bytes_write_mid hp List.length_nil hlength, List.nil_append, List.append_assoc]
  length_header := by
    rw [List.length_append, List.length_drop, h.length_header]
    omega
  length_checksum := h.length_checksum

/-- The checksum is written. -/
theorem write_checksum (h : Parts p header checksum rest) (hlen : bs.length = 4) :
    Parts (p.write 11 bs) header bs rest where
  bytes := by
    have hp := h.bytes
    rw [← List.append_assoc] at hp ⊢
    exact bytes_write_mid hp (by rw [List.length_append, h.length_header]; rfl)
      (h.length_checksum.trans hlen.symm)
  length_header := h.length_header
  length_checksum := hlen

/-- A payload is written. -/
theorem write_payload (h : Parts p header checksum rest) (hlen : bs.length ≤ 4084) :
    Parts (p.write 15 bs) header checksum (bs ++ rest.drop bs.length) where
  bytes := by
    have hp : p.bytes = (header ++ ([0, 0, 0, 0] ++ checksum))
        ++ (rest.take bs.length ++ rest.drop bs.length) := by
      rw [List.take_append_drop, List.append_assoc, List.append_assoc]
      exact h.bytes
    have hfront : (header ++ ([0, 0, 0, 0] ++ checksum)).length = 15 := by
      rw [List.length_append, List.length_append, h.length_header, h.length_checksum]
      rfl
    have hlength : (rest.take bs.length).length = bs.length := by
      rw [List.length_take, h.length_rest, Nat.min_eq_left hlen]
    rw [bytes_write_mid hp hfront hlength, List.append_assoc, List.append_assoc]
  length_header := h.length_header
  length_checksum := h.length_checksum

end Parts

namespace Clean

theorem zeros : Clean [] .zeros := by
  refine ⟨List.replicate 7 0, List.replicate 4 0, List.replicate 4084 0, ⟨?_, rfl, rfl⟩,
    fun b hb => .inl (List.eq_of_mem_replicate hb)⟩
  show List.replicate (7 + (4 + (4 + 4084))) (0 : UInt8) = _
  rw [List.replicate_add, List.replicate_add, List.replicate_add]
  rfl

theorem mono (h : Clean seen p) (payload : Bytes) : Clean (seen ++ payload) p := by
  obtain ⟨header, checksum, rest, hparts, hrest⟩ := h
  exact ⟨header, checksum, rest, hparts,
    fun b hb => (hrest b hb).imp id fun hmem => List.mem_append_left _ hmem⟩

theorem write_header (h : Clean seen p) (hlen : bs.length ≤ 7) : Clean seen (p.write 0 bs) := by
  obtain ⟨header, checksum, rest, hparts, hrest⟩ := h
  exact ⟨_, checksum, rest, hparts.write_header hlen, hrest⟩

/-- The packet that switches back goes over the first bytes of the rest. -/
theorem write_switchPacket (h : Clean seen p) : Clean seen (p.write 0 switchPacket) := by
  obtain ⟨header, checksum, rest, hparts, hrest⟩ := h
  have hp : p.bytes = [] ++ ((header ++ ([0, 0, 0, 0] ++ (checksum ++ rest.take 4)))
      ++ rest.drop 4) := by
    rw [List.nil_append, List.append_assoc, List.append_assoc, List.append_assoc,
      List.take_append_drop]
    exact hparts.bytes
  have hlength : (header ++ ([0, 0, 0, 0] ++ (checksum ++ rest.take 4))).length
      = switchPacket.length := by
    rw [List.length_append, List.length_append, List.length_append, hparts.length_header,
      hparts.length_checksum, List.length_take, hparts.length_rest]
    rfl
  refine ⟨[0x01, 0x00, 0x10, 0xAD, 0, 0, 0x10], [0x10, 0, 0, 0], [0, 0, 0, 0] ++ rest.drop 4,
    ⟨bytes_write_mid hp List.length_nil hlength, rfl, rfl⟩, fun b hb => ?_⟩
  rcases List.mem_append.mp hb with hb | hb
  · exact .inl (List.eq_of_mem_replicate (n := 4) hb)
  · exact hrest b (List.mem_of_mem_drop hb)

end Clean

end Buffer

/-! ### What a request sends

`Tidy` is the invariant of a run, together with what has been sent. A statement
either leaves the log as it is or adds one packet, if the driver takes it; so a
routine that is left early has sent a front of its script (`Partly`). The
routines whose buffers do not keep anything are done with the same lemmas. -/

/-- The invariant of a run, with what was sent. -/
structure Tidy (seen : Bytes) (log : List Bytes) (s : State) : Prop where
  /-- That was sent. -/
  log : s.log = log
  /-- The driver was called for the value of the control, or never was
  called. -/
  marked : Marked s.cur
  /-- The buffer has nothing but what was put into it. -/
  clean : Clean seen (s.buffers .writePayloadCmd)

section Steps

variable {core : Core} {bus : Bus} {p new : CtrlPacket} {sent : Option Bytes} {n : ℕ}
  {s : State} {seen : Bytes} {log : List Bytes} {r : Routine}

/-- A packet that is written and taken. -/
theorem chipConfig_write (hrW : p.rW = 1) (h : chipConfig bus n p = some (new, sent)) :
    new = p.write 0 [0xFF] ∧ sent = some (slice 3 p.pldSize p.bytes) ∧ p.pldSize ≤ 4096 := by
  rw [chipConfig_eq bus (.inr hrW), hrW, if_neg (show (1 : UInt8) ≠ 0 by decide)] at h
  cases hsize : sizeOk p.pldSize with
  | false => exact absurd h (by rw [hsize]; simp)
  | true =>
    cases hsends : bus.sends n with
    | false => exact absurd h (by rw [hsize, hsends]; simp)
    | true =>
      rw [hsize, hsends, if_pos rfl, if_pos rfl, Option.some.injEq, Prod.mk.injEq] at h
      rw [sizeOk, Bool.and_eq_true] at hsize
      exact ⟨h.1.symm, h.2.symm, of_decide_eq_true hsize.2⟩

/-- A packet that asks for bytes and is taken. -/
theorem chipConfig_request (hrW : p.rW = 0) (h : chipConfig bus n p = some (new, sent)) :
    new.rW = 0xFF ∧ sent = none := by
  rw [chipConfig_eq bus (.inl hrW), hrW, if_pos rfl] at h
  cases hsize : sizeOk p.pldSize with
  | false => exact absurd h (by rw [hsize]; simp)
  | true =>
    cases hreceives : bus.receives n with
    | none => exact absurd h (by rw [hsize, hreceives]; simp)
    | some data =>
      rw [hsize, hreceives, if_pos rfl, Option.map_some, Option.some.injEq, Prod.mk.injEq] at h
      exact ⟨h.1 ▸ rW_marked _, h.2.symm⟩

theorem Tidy.setBuffer (h : Tidy seen log s) (hr : r ≠ .writePayloadCmd) (p : CtrlPacket) :
    Tidy seen log (s.setBuffer r p) where
  log := h.log
  marked := h.marked
  clean := by
    show Clean seen (Function.update s.buffers r p .writePayloadCmd)
    rw [Function.update_of_ne (Ne.symm hr)]
    exact h.clean

/-- A packet that is taken, from a buffer that stays clean. -/
theorem Tidy.taken (h : Tidy seen log s) (hnew : new.rW = 0xFF)
    (hclean : r = .writePayloadCmd → Clean seen new) (copiesBack : Bool) (sent : Option Bytes) :
    Tidy seen (log ++ sent.toList) (s.taken r copiesBack new sent) where
  log := congrArg (· ++ sent.toList) h.log
  marked := .inr hnew
  clean := by
    cases copiesBack with
    | false => exact h.clean
    | true =>
      show Clean seen (Function.update s.buffers r new .writePayloadCmd)
      by_cases hr : r = .writePayloadCmd
      · rw [hr, Function.update_self]
        exact hclean hr
      · rw [Function.update_of_ne (Ne.symm hr)]
        exact h.clean

/-- **A packet that is written** is sent, if the driver takes it. -/
theorem setCtrls_write (h : Tidy seen log s) (hrW : (s.buffers r).rW = 1) :
    Leaves (setCtrls core bus r) s
      (fun _ t => (s.buffers r).pldSize ≤ 4096
        ∧ Tidy seen (log ++ [slice 3 (s.buffers r).pldSize (s.buffers r).bytes]) t)
      (Tidy seen log) := by
  have hskips : core.skips s.cur (s.buffers r) = false := not_skips core h.marked (.inr hrW)
  cases hchip : chipConfig bus s.calls (s.buffers r) with
  | none =>
    rw [Leaves, setCtrls_none hskips hchip]
    exact ⟨h.log, h.marked, h.clean⟩
  | some result =>
    obtain ⟨new, sent⟩ := result
    obtain ⟨rfl, rfl, hsize⟩ := chipConfig_write hrW hchip
    rw [Leaves, setCtrls_some hskips hchip]
    refine ⟨hsize, h.taken (rW_marked _) (fun hr => ?_) core.copiesBack (some _)⟩
    subst hr
    exact h.clean.write_header (by decide)

/-- **A packet that asks for bytes** sends none. -/
theorem setCtrls_request (h : Tidy seen log s) (hr : r ≠ .writePayloadCmd)
    (hrW : (s.buffers r).rW = 0) :
    Leaves (setCtrls core bus r) s (fun _ t => Tidy seen log t) (Tidy seen log) := by
  cases hskips : core.skips s.cur (s.buffers r) with
  | true =>
    rw [Leaves, setCtrls, hskips, if_pos rfl]
    exact ⟨h.log, h.marked, h.clean⟩
  | false =>
    cases hchip : chipConfig bus s.calls (s.buffers r) with
    | none =>
      rw [Leaves, setCtrls_none hskips hchip]
      exact ⟨h.log, h.marked, h.clean⟩
    | some result =>
      obtain ⟨new, sent⟩ := result
      obtain ⟨hnew, rfl⟩ := chipConfig_request hrW hchip
      rw [Leaves, setCtrls_some hskips hchip]
      have htaken : Tidy seen (log ++ []) (s.taken r core.copiesBack new none) :=
        h.taken hnew (fun h => absurd h hr) core.copiesBack none
      rwa [List.append_nil] at htaken

theorem getCtrls_tidy (h : Tidy seen log s) (hr : r ≠ .writePayloadCmd) :
    Leaves (getCtrls bus r) s (fun _ t => Tidy seen log t) (Tidy seen log) := by
  have hset := h.setBuffer hr s.cur
  cases hgets : bus.gets s.calls with
  | true =>
    rw [Leaves, getCtrls, hgets, if_pos rfl]
    exact ⟨hset.log, hset.marked, hset.clean⟩
  | false =>
    rw [Leaves, getCtrls, hgets, if_neg Bool.false_ne_true]
    exact ⟨h.log, h.marked, h.clean⟩

theorem peek_tidy (h : Tidy seen log s) (off n : ℕ) :
    Leaves (peek r off n) s (fun _ t => Tidy seen log t) (Tidy seen log) := by
  exact (Leaves.ensure (Q := fun _ t => Tidy seen log t) _ _ h h).bind fun _ _ ht => ht

/-- A buffer is written first. -/
theorem leaves_poke {α : Type} {f : Unit → Sensor α} {off : ℕ} {bs : Bytes} {Q : α → State → Prop}
    {E : State → Prop} (h : Leaves (f ()) (s.setBuffer r ((s.buffers r).write off bs)) Q E) :
    Leaves (poke r off bs >>= f) s Q E := h

theorem leaves_clear {α : Type} {f : Unit → Sensor α} {Q : α → State → Prop} {E : State → Prop}
    (h : Leaves (f ()) (s.setBuffer r .zeros) Q E) : Leaves (clear r >>= f) s Q E := h

/-- A test that the payload fits. -/
theorem leaves_fits {E : State → Prop} (h : Tidy seen log s) (hE : ∀ t, Tidy seen log t → E t) :
    Leaves (ensure (decide (n ≤ ctrlPacketSize)) .undefined : Sensor Unit) s
      (fun _ t => t = s ∧ n ≤ ctrlPacketSize) E := by
  by_cases hn : n ≤ ctrlPacketSize
  · rw [decide_eq_true hn]
    exact ⟨rfl, hn⟩
  · rw [decide_eq_false hn]
    exact hE s h

theorem leaves_get {α : Type} {f : State → Sensor α} {Q : α → State → Prop} {E : State → Prop}
    (h : Leaves (f s) s Q E) : Leaves (get >>= f) s Q E := h

/-- The first byte of a packet. -/
theorem rW_write (p : CtrlPacket) (first : UInt8) {bs : Bytes}
    (h : ([first] ++ bs).length ≤ ctrlPacketSize) : (p.write 0 ([first] ++ bs)).rW = first :=
  getD_of_prefix (prefix_write h) (Nat.succ_pos _)

/-- A packet that is written into the buffer of a routine that leaves the others
alone. -/
theorem setCtrls_setBuffer {len : UInt16} {data : Bytes} (h : Tidy seen log s)
    (hr : r ≠ .writePayloadCmd) (hp : Holds p 1 len data) (hlen : data.length = len.toNat) :
    Leaves (setCtrls core bus r) (s.setBuffer r p)
      (fun _ t => Tidy seen (log ++ [data]) t) (Tidy seen log) := by
  have hwrite := @setCtrls_write core bus _ _ _ r (h.setBuffer hr p)
  rw [buffers_setBuffer, hp.pldSize, ← hlen, hp.slice] at hwrite
  exact (hwrite hp.rW).mono (fun _ _ ht => ht.2) fun _ ht => ht

/-- Bytes are read back, and what comes behind that. -/
theorem readBack_bind {α : Type} {f : Bytes → Sensor α} {Q : α → State → Prop} {E : State → Prop}
    (h : Tidy seen log s) (hr : r ≠ .writePayloadCmd) (len : UInt16)
    (hE : ∀ t, Tidy seen log t → E t) (hf : ∀ bytes t, Tidy seen log t → Leaves (f bytes) t Q E) :
    Leaves (setCtrls core bus r >>= fun _ => getCtrls bus r >>= fun _ => peek r 3 n >>= f)
      (s.setBuffer r ((s.buffers r).write 0 ([0] ++ highLow len))) Q E := by
  have hrequest : ((s.setBuffer r ((s.buffers r).write 0 ([0] ++ highLow len))).buffers r).rW
      = 0 := by
    rw [buffers_setBuffer]
    exact rW_write _ 0 (show 3 ≤ 4099 by decide)
  refine ((setCtrls_request (h.setBuffer hr _) hr hrequest).mono (fun _ _ h => h) hE).bind
    fun _ _ h => ((getCtrls_tidy h hr).mono (fun _ _ h => h) hE).bind
      fun _ _ h => ((peek_tidy h 3 n).mono (fun _ _ h => h) hE).bind fun bytes t h => hf bytes t h

theorem readBack_tidy (h : Tidy seen log s) (hr : r ≠ .writePayloadCmd) (len : UInt16) :
    Leaves (setCtrls core bus r >>= fun _ => getCtrls bus r >>= fun _ => peek r 3 n)
      (s.setBuffer r ((s.buffers r).write 0 ([0] ++ highLow len)))
      (fun _ t => Tidy seen log t) (Tidy seen log) := by
  have hbind := @readBack_bind core bus n s seen log r _ pure (fun _ t => Tidy seen log t)
    (Tidy seen log) h hr len (fun _ h => h) fun _ _ h => h
  simpa only [bind_pure] using hbind

/-- **`adsd3500_write_cmd`** sends a register and its value. -/
theorem writeCmd_tidy (h : Tidy seen log s) (cmd data : UInt16) :
    Leaves (adsd3500WriteCmd core bus cmd data) s
      (fun _ t => Tidy seen (log ++ [highLow cmd ++ highLow data]) t) (Tidy seen log) := by
  have hpacket : [1, 0, 4] ++ highLow cmd ++ highLow data
      = [1] ++ highLow 4 ++ (highLow cmd ++ highLow data) := rfl
  rw [adsd3500WriteCmd, hpacket]
  exact leaves_poke (setCtrls_setBuffer h (by decide) (holds_write _ (show 7 ≤ 4099 by decide)) rfl)

/-- The first packets of a script have been sent. -/
def Partly (seen : Bytes) (log script : List Bytes) (s : State) : Prop :=
  ∃ sent, sent <+: script ∧ Tidy seen (log ++ sent) s

theorem partly {sent script : List Bytes} (h : sent <+: script) (t : State)
    (ht : Tidy seen (log ++ sent) t) : Partly seen log script t := ⟨sent, h, ht⟩

theorem partly_nil (script : List Bytes) (t : State) (ht : Tidy seen log t) :
    Partly seen log script t := ⟨[], List.nil_prefix, by rwa [List.append_nil]⟩

/-- **`adsd3500_read_payload_cmd`** sends the change of the mode, the command, and
the way back. -/
theorem readPayloadCmd_tidy (h : Tidy seen log s) (cmd : UInt32) (first : UInt8) (len : UInt16) :
    Leaves (adsd3500ReadPayloadCmd core bus cmd first len) s
      (fun _ t => Tidy seen (log ++ (Call.readPayloadCmd cmd first len).script) t)
      (Partly seen log (Call.readPayloadCmd cmd first len).script) := by
  have hr : Routine.readPayloadCmd ≠ .writePayloadCmd := by decide
  have henter : [highLow 0x0019 ++ highLow 0x0000]
      <+: (Call.readPayloadCmd cmd first len).script := by
    rw [Call.script]
    exact (List.prefix_append [_] [_]).trans (List.prefix_append ..)
  have hcommand : [highLow 0x0019 ++ highLow 0x0000, commandPayload cmd first]
      <+: (Call.readPayloadCmd cmd first len).script := List.prefix_append ..
  rw [adsd3500ReadPayloadCmd]
  refine ((writeCmd_tidy h _ _).mono (fun _ _ h => h) (partly_nil _)).bind fun _ s₁ h₁ => ?_
  -- the command, in a buffer that is cleared
  refine leaves_clear (leaves_poke (leaves_poke (leaves_get (leaves_poke (leaves_poke ?_)))))
  simp only [buffers_setBuffer]
  have hpacket := holds_readPayloadCmd cmd first
  refine ((setCtrls_setBuffer ((((h₁.setBuffer hr _).setBuffer hr _).setBuffer hr _).setBuffer hr _)
    hr hpacket rfl).mono (fun _ _ h => h) (partly henter)).bind fun _ s₂ h₂ => ?_
  rw [List.append_assoc, List.cons_append, List.nil_append] at h₂
  -- what it returns
  refine leaves_poke (readBack_bind h₂ hr len (partly hcommand) fun bytes s₃ h₃ => ?_)
  -- and the way back to the standard mode
  rw [Call.script]
  split
  · exact h₃
  · refine leaves_poke (((setCtrls_setBuffer h₃ hr (holds_switchPacket _) rfl).mono
      (fun _ _ h => h) (partly (List.prefix_append ..))).bind fun _ s₄ h₄ => ?_)
    rwa [List.append_assoc] at h₄

/-- **`adsd3500_write_payload`** sends the payload. -/
theorem writePayload_tidy (h : Tidy seen log s) (payload : Bytes) :
    Leaves (adsd3500WritePayload core bus payload) s
      (fun _ t => Tidy seen (log ++ [payload]) t) (Tidy seen log) := by
  have hr : Routine.writePayload ≠ .writePayloadCmd := by decide
  rw [adsd3500WritePayload]
  refine leaves_poke ((leaves_fits (h.setBuffer hr _) fun _ h => h).bind fun _ t hfits => ?_)
  obtain ⟨rfl, hroom⟩ := hfits
  have hlen : payload.length = (UInt16.ofNat payload.length).toNat :=
    (UInt16.toNat_ofNat_of_lt' (show payload.length < 65536 by
      have hroom' : 3 + payload.length ≤ 4099 := hroom
      omega)).symm
  refine leaves_poke (setCtrls_setBuffer (h.setBuffer hr _) hr ?_ hlen)
  rw [buffers_setBuffer]
  exact holds_write_write _ hroom

/-- **The routines with a buffer of zeros, or without a trace**, by what they
send. -/
theorem call_tidy (h : Tidy seen log s) (c : Call) :
    Leaves (c.run core bus) s (fun _ t => Tidy seen (log ++ c.script) t)
      (Partly seen log c.script) := by
  cases c with
  | readCmd cmd =>
    have hr : Routine.readCmd ≠ .writePayloadCmd := by decide
    have hpacket : [1, 0, 2] ++ highLow cmd = [1] ++ highLow 2 ++ highLow cmd := rfl
    rw [Call.run, adsd3500ReadCmd, hpacket]
    refine leaves_poke (((setCtrls_setBuffer h hr (holds_write _ ?_) rfl).mono (fun _ _ h => h)
      (partly_nil _)).bind fun _ s₁ h₁ => ?_)
    · exact show 5 ≤ 4099 by decide
    · exact leaves_poke ((readBack_tidy h₁ hr 2).mono (fun _ _ h => h) (partly List.prefix_rfl))
  | writeCmd cmd data =>
    exact ((writeCmd_tidy h cmd data).mono (fun _ _ h => h) (partly_nil _)).bind fun _ _ h => h
  | readPayloadCmd cmd first len => exact readPayloadCmd_tidy h cmd first len
  | readPayload len =>
    have hr : Routine.readPayload ≠ .writePayloadCmd := by decide
    rw [Call.run, adsd3500ReadPayload]
    rw [Call.script, List.append_nil]
    exact leaves_clear (leaves_poke ((readBack_tidy (h.setBuffer hr _) hr len).mono
      (fun _ _ h => h) (partly_nil _)))
  | writePayload payload =>
    exact ((writePayload_tidy h payload).mono (fun _ _ h => h) (partly_nil _)).bind fun _ _ h => h

/-! ### A burst command with a payload

The buffer before the call is any clean one. The command goes over its front,
and the packet that the driver takes ends four bytes behind the payload, since
the length in it counts the header and the checksum as well. So these four bytes
come from the rest of the buffer, which is clean: zeros, or bytes of an earlier
payload at the same place. -/

/-- The first seven bytes of the buffer. -/
def burstFront (cmd : UInt32) (len : UInt16) : Bytes :=
  [0x01] ++ highLow (len + 16) ++ [0xAD] ++ highLow len ++ [cmd.toUInt8]

/-- **The buffer with a command in it**, whatever was in it before. -/
theorem parts_burst {header checksum rest : Bytes} (h : Parts p header checksum rest)
    (cmd : UInt32) (len : UInt16) :
    let q := p.write 0 (burstFront cmd len)
    Parts (q.write 11 (le32 q.checksum)) (burstFront cmd len)
      (le32 (UInt32.ofNat ((highLow len ++ [cmd.toUInt8, 0, 0, 0, 0]).map UInt8.toNat).sum))
      rest := by
  intro q
  have hq : Parts q (burstFront cmd len) checksum rest := by
    have hwrite := h.write_header (show (burstFront cmd len).length ≤ 7 from le_rfl)
    have hdrop : header.drop (burstFront cmd len).length = [] :=
      List.drop_of_length_le h.length_header.le
    rwa [hdrop, List.append_nil] at hwrite
  have hsum : q.checksum
      = UInt32.ofNat ((highLow len ++ [cmd.toUInt8, 0, 0, 0, 0]).map UInt8.toNat).sum := by
    rw [CtrlPacket.checksum, hq.bytes]
    rfl
  rw [hsum]
  exact hq.write_checksum rfl

/-- The packet that the driver takes out of it. -/
theorem slice_burst {rest payload : Bytes} {cmd : UInt32} {len : UInt16}
    (h : Parts p (burstFront cmd len)
      (le32 (UInt32.ofNat ((highLow len ++ [cmd.toUInt8, 0, 0, 0, 0]).map UInt8.toNat).sum))
      (payload ++ rest)) :
    slice 3 (payload.length + 16) p.bytes = burstHeader cmd len ++ payload ++ rest.take 4 := by
  have hbytes : p.bytes.drop 3 = (burstHeader cmd len ++ payload) ++ rest := by
    rw [h.bytes, List.append_assoc]
    rfl
  have hsize : payload.length + 16 = (burstHeader cmd len ++ payload).length + 4 := by
    rw [List.length_append]
    show _ = 12 + payload.length + 4
    omega
  rw [slice, hbytes, hsize, List.take_length_add_append]

/-- It is a packet to be written, of this size. -/
theorem holds_burst {rest checksum : Bytes} {cmd : UInt32} {len : UInt16}
    (h : Parts p (burstFront cmd len) checksum rest) : Holds p 1 (len + 16) [] := by
  refine ⟨?_⟩
  rw [h.bytes, burstFront, List.append_nil, List.append_assoc, List.append_assoc, List.append_assoc,
    List.append_assoc]
  exact List.prefix_append ..

/-- A failure that is only logged may leave what it likes. -/
theorem leaves_logged {m : Sensor Unit} {Q E : State → Prop} (h : Leaves m s (fun _ => Q) E) :
    Leaves (logged m) s (fun _ t => Q t ∨ E t) E := by
  unfold Leaves logged at *
  cases hm : m s with
  | ok a t =>
    rw [hm] at h
    exact .inl h
  | error e t =>
    rw [hm] at h
    cases e with
    | status st => exact .inr h
    | thrown text => exact h
    | undefined => exact h

theorem Tidy.mono (h : Tidy seen log s) (payload : Bytes) : Tidy (seen ++ payload) log s :=
  ⟨h.log, h.marked, h.clean.mono payload⟩

/-- The buffer has other contents. -/
theorem Tidy.setClean {seen' : Bytes} (h : Tidy seen log s) (hp : Clean seen' p) :
    Tidy seen' log (s.setBuffer .writePayloadCmd p) where
  log := h.log
  marked := h.marked
  clean := by
    rw [buffers_setBuffer]
    exact hp

theorem setBuffer_setBuffer (s : State) (r : Routine) (p q : CtrlPacket) :
    (s.setBuffer r p).setBuffer r q = s.setBuffer r q := by
  simp only [State.setBuffer, Function.update_idem]

/-- A packet of the buffer is sent as it is. -/
theorem setCtrls_setClean {len : UInt16} {data : Bytes} (h : Tidy seen log s)
    (hclean : Clean seen p)
    (hp : Holds p 1 len data) :
    Leaves (setCtrls core bus .writePayloadCmd) (s.setBuffer .writePayloadCmd p)
      (fun _ t => len.toNat ≤ 4096 ∧ Tidy seen (log ++ [slice 3 len.toNat p.bytes]) t)
      (Tidy seen log) := by
  have hwrite := @setCtrls_write core bus _ _ _ .writePayloadCmd (h.setClean hclean)
  rw [buffers_setBuffer, hp.pldSize] at hwrite
  exact hwrite hp.rW

/-- **The command and the way back**, with the command in the buffer. -/
theorem packets_tidy {rest payload : Bytes} {cmd : UInt32} (h : Tidy seen log s)
    (hclean : Clean seen p) (hlen : payload.length ≤ 4084)
    (hp : Parts p (burstFront cmd (UInt16.ofNat payload.length))
      (le32 (UInt32.ofNat ((highLow (UInt16.ofNat payload.length)
        ++ [cmd.toUInt8, 0, 0, 0, 0]).map UInt8.toNat).sum)) (payload ++ rest)) :
    Leaves (do
        setCtrls core bus .writePayloadCmd
        poke .writePayloadCmd 0 switchPacket
        setCtrls core bus .writePayloadCmd) (s.setBuffer .writePayloadCmd p)
      (fun _ t => payload.length + 16 ≤ 4096
        ∧ Tidy seen (log ++ burstPackets cmd payload (rest.take 4)) t)
      (fun t => Tidy seen log t ∨ payload.length + 16 ≤ 4096
        ∧ Partly seen log (burstPackets cmd payload (rest.take 4)) t) := by
  have hsize : (UInt16.ofNat payload.length + 16).toNat = payload.length + 16 := by
    rw [UInt16.toNat_add, UInt16.toNat_ofNat_of_lt' (show payload.length < 65536 by omega)]
    exact Nat.mod_eq_of_lt (show payload.length + 16 < 65536 by omega)
  have hcommand := @setCtrls_setClean core bus _ _ _ _ _ _ h hclean (holds_burst hp)
  rw [hsize, slice_burst hp] at hcommand
  refine (hcommand.mono (fun _ _ h => h) fun _ h => .inl h).bind fun _ t hsent => leaves_poke ?_
  obtain ⟨hle, ht⟩ := hsent
  have hswitch := @setCtrls_setClean core bus _ _ _ _ _ _ ht ht.clean.write_switchPacket
    (holds_switchPacket _)
  refine hswitch.mono (fun _ u hu => ⟨hle, ?_⟩) fun u hu =>
    .inr ⟨hle, partly (List.prefix_append [_] [_]) u hu⟩
  have hslice : slice 3 (UInt16.toNat 16) ((t.buffers .writePayloadCmd).write 0 switchPacket).bytes
      = switchBuf := (holds_switchPacket _).slice
  have hu' := hu.2
  rwa [hslice, List.append_assoc] at hu'

/-- The command, and the way back. -/
theorem burst_tidy (h : Tidy seen log s) (cmd : UInt32) (payload : Bytes) :
    Leaves (do
        poke .writePayloadCmd 0 (burstFront cmd (UInt16.ofNat payload.length))
        let s ← get
        poke .writePayloadCmd 11 (le32 (s.buffers .writePayloadCmd).checksum)
        ensure (15 + payload.length ≤ ctrlPacketSize) .undefined
        poke .writePayloadCmd 15 payload
        setCtrls core bus .writePayloadCmd
        poke .writePayloadCmd 0 switchPacket
        setCtrls core bus .writePayloadCmd) s
      (fun _ t => ∃ rest, Residue seen rest
        ∧ Tidy (seen ++ payload) (log ++ burstPackets cmd payload rest) t)
      (fun t => ∃ rest, Residue seen rest
        ∧ Partly (seen ++ payload) log (burstPackets cmd payload rest) t) := by
  obtain ⟨header, checksum, rest, hparts, hrest⟩ := h.clean
  have hnone : ∀ t, Tidy (seen ++ payload) log t → ∃ rest, Residue seen rest
      ∧ Partly (seen ++ payload) log (burstPackets cmd payload rest) t := fun t ht =>
    ⟨List.replicate 4 0, ⟨rfl, fun b hb => .inl (List.eq_of_mem_replicate hb)⟩, partly_nil _ t ht⟩
  have hburst := parts_burst hparts cmd (UInt16.ofNat payload.length)
  refine leaves_poke (leaves_get (leaves_poke ?_))
  simp only [buffers_setBuffer, setBuffer_setBuffer]
  have hfront := (h.setClean ⟨_, _, _, hburst, hrest⟩).mono payload
  refine (leaves_fits hfront hnone).bind fun _ t hfits => ?_
  obtain ⟨rfl, hroom⟩ := hfits
  refine leaves_poke ?_
  simp only [buffers_setBuffer, setBuffer_setBuffer]
  have hlen : payload.length ≤ 4084 := by
    have hroom' : 15 + payload.length ≤ 4099 := hroom
    omega
  have hwritten := hburst.write_payload hlen
  have hresidue : payload.length + 16 ≤ 4096 →
      Residue seen ((rest.drop payload.length).take 4) := by
    intro hle
    refine ⟨?_, fun b hb => hrest b (List.mem_of_mem_drop (List.mem_of_mem_take hb))⟩
    rw [List.length_take, List.length_drop, hparts.length_rest]
    omega
  refine (packets_tidy (h.mono payload) ⟨_, _, _, hwritten, ?_⟩ hlen hwritten).mono
    (fun _ t ht => ⟨_, hresidue ht.1, ht.2⟩) fun t ht => ?_
  · -- behind the checksum, only payloads
    intro b hb
    rcases List.mem_append.mp hb with hb | hb
    · exact .inr (List.mem_append_right _ hb)
    · exact (hrest b (List.mem_of_mem_drop hb)).imp id fun hmem => List.mem_append_left _ hmem
  · rcases ht with ht | ⟨hle, ht⟩
    · exact hnone t ht
    · exact ⟨_, hresidue hle, ht⟩

/-- What a request has sent, and what is left of it. -/
def Delivered (seen : Bytes) (log : List Bytes) (r : Request) (returned : Bool) (s : State) :
    Prop :=
  ∃ rest sent, Residue seen rest ∧ Delivers (r.scripts rest) returned sent
    ∧ Tidy (seen ++ r.payload) (log ++ sent) s

theorem residue_zeros (seen : Bytes) : Residue seen (List.replicate 4 0) :=
  ⟨rfl, fun _ hb => .inl (List.eq_of_mem_replicate hb)⟩

/-- **`adsd3500_write_payload_cmd`** sends the command and the way back, behind a
change of the mode that may have failed. -/
theorem writePayloadCmd_tidy (h : Tidy seen log s) (cmd : UInt32) (payload : Bytes) :
    Leaves (adsd3500WritePayloadCmd core bus cmd payload) s
      (fun _ => Delivered seen log (.writePayloadCmd cmd payload) true)
      (Delivered seen log (.writePayloadCmd cmd payload) false) := by
  have hstart : ∀ t, Tidy seen log t → Delivered seen log (.writePayloadCmd cmd payload) false t :=
    fun t ht => ⟨_, [], residue_zeros seen, ⟨_, List.mem_cons_self, List.nil_prefix⟩, by
      rw [List.append_nil]
      exact ht.mono payload⟩
  rw [adsd3500WritePayloadCmd]
  refine ((leaves_logged (writeCmd_tidy h _ _)).mono (fun _ _ h => h) hstart).bind fun _ t ht => ?_
  -- whether the mode has changed, or not
  obtain ⟨front, hscript, ht⟩ : ∃ front,
      (∀ rest, front ++ burstPackets cmd payload rest
        ∈ (Request.writePayloadCmd cmd payload).scripts rest) ∧ Tidy seen (log ++ front) t := by
    rcases ht with ht | ht
    · exact ⟨_, fun rest => List.mem_cons_self, ht⟩
    · exact ⟨[], fun rest => List.mem_cons_of_mem _ List.mem_cons_self, by rwa [List.append_nil]⟩
  refine (burst_tidy ht cmd payload).mono (fun _ u hreturned => ?_) fun u hfailed => ?_
  · obtain ⟨rest, hrest, hu⟩ := hreturned
    rw [List.append_assoc] at hu
    exact ⟨rest, _, hrest, ⟨_, hscript rest, rfl⟩, hu⟩
  · obtain ⟨rest, hrest, sent, hsent, hu⟩ := hfailed
    rw [List.append_assoc] at hu
    exact ⟨rest, _, hrest, ⟨_, hscript rest, List.prefix_append_right_inj front |>.mpr hsent⟩, hu⟩

/-- **Any request**, by what it sends. -/
theorem request_tidy (h : Tidy seen log s) (r : Request) :
    Leaves (r.run core bus) s (fun _ => Delivered seen log r true)
      (Delivered seen log r false) := by
  cases r with
  | call c =>
    refine (call_tidy h c).mono (fun _ t ht => ?_) fun t hfailed => ?_
    · exact ⟨_, c.script, residue_zeros seen, ⟨_, List.mem_singleton_self _, rfl⟩, ht.mono []⟩
    · obtain ⟨sent, hsent, ht⟩ := hfailed
      exact ⟨_, sent, residue_zeros seen, ⟨_, List.mem_singleton_self _, hsent⟩, ht.mono []⟩
  | writePayloadCmd cmd payload =>
    exact (writePayloadCmd_tidy h cmd payload).bind fun _ _ h => h

/-- What requests send, from a state of the run. -/
theorem runEach_sends (h : Tidy seen log s) (rs : List Request) :
    ∃ sent, (runEach (rs.map (Request.run core bus)) s).2.log = log ++ sent
      ∧ Sends seen (rs.zip ((runEach (rs.map (Request.run core bus)) s).1.map Except.isOk))
        sent := by
  induction rs generalizing s seen log with
  | nil => exact ⟨[], h.log.trans (List.append_nil _).symm, .nil⟩
  | cons r rs ih =>
    have hr := @request_tidy core bus _ _ _ h r
    rw [Leaves] at hr
    rw [List.map_cons, runEach]
    cases hrun : r.run core bus s with
    | ok a t =>
      rw [hrun] at hr
      obtain ⟨rest, sent, hrest, hsent, ht⟩ := hr
      obtain ⟨sent', hlog, hsends⟩ := ih ht
      exact ⟨sent ++ sent', hlog.trans (List.append_assoc ..), .cons hrest hsent hsends⟩
    | error e t =>
      rw [hrun] at hr
      obtain ⟨rest, sent, hrest, hsent, ht⟩ := hr
      obtain ⟨sent', hlog, hsends⟩ := ih ht
      exact ⟨sent ++ sent', hlog.trans (List.append_assoc ..), .cons hrest hsent hsends⟩

/-- **What any requests send**: each of them, in order, its own packets, all of
them if it returns and the first of them if not, where a burst command may come
without the change of the mode, whose failure is only logged; and behind the
payload of a burst command nothing but zeros and bytes of payloads that were put
into its buffer before, by calls that may have sent nothing. -/
theorem log_sends (core : Core) (bus : Bus) (rs : List Request) :
    Sends [] (rs.zip ((runEach (rs.map (Request.run core bus)) {}).1.map Except.isOk))
      (runEach (rs.map (Request.run core bus)) {}).2.log := by
  have hstart : Tidy [] [] {} := ⟨rfl, .inl rfl, .zeros⟩
  obtain ⟨sent, hlog, hsends⟩ := @runEach_sends core bus _ _ _ hstart rs
  rw [hlog]
  exact hsends

end Steps

end ControlPackets
