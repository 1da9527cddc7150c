import TofNet.BurstMode

/-!
# Leaving burst mode

For each of the four routines that transfer in burst mode, the device is in
its standard mode at the end exactly if burst mode was not entered, or if
every transfer up to the last one went through – and, for the readers of the
CCB, if the header made sense and there was memory for it. Nothing leaves the
mode on the other exits.

The four conditions are assembled in `burst_left_iff`, under the assumption
that the packet that leaves the mode always goes through.

The conditions are read off the routines from the end backwards. A routine is in
the standard mode at its end exactly if it comes to its last transfer, and it
comes there exactly if everything before goes through; so each
`…_endsStandard_iff` is a chain of equivalences, one for each statement, and the
rule for a statement is that of `EarlyExit`. There are no two directions to be
shown separately.
-/

variable {io : DriverAnswers} {crcFast : Bytes → UInt32} {allocates : ℕ → Bool} {d : Adsd3500}

namespace DriverAnswers

/-- The packet that leaves burst mode always goes through. -/
def SwitchesBack (io : DriverAnswers) : Prop := ∀ n, io.sets n (payloadPacket switchBuf) = true

/-- The transfers of a burst command, once the mode is entered. -/
def Answers (io : DriverAnswers) (n : ℕ) (cmd : UInt32) (first : UInt8) (len : UInt16) : Prop :=
  io.sets n (payloadPacket (commandPayload cmd first)) = true ∧ io.Reads (n + 1) len

/-- The header of the CCB, once the mode is entered. -/
def ccbHeader (io : DriverAnswers) (n : ℕ) : Bytes := io.bytesRead (n + 1) 16

/-- **The transfers of a CCB**: the command, so many chunks of the header's
size, and the rest. -/
structure CcbTransfers (io : DriverAnswers) (n count : ℕ) : Prop where
  /-- The command is answered. -/
  command : io.Answers n 0x13 1 16
  /-- Each chunk can be read. -/
  chunks : ∀ k < count, io.Reads (n + 3 + 2 * k) (ccbChunkSize (io.ccbHeader n))
  /-- So can what is left behind the chunks. -/
  last : ccbRemainder (io.ccbHeader n) ≠ 0 →
    io.Reads (n + 3 + 2 * count) (ccbRemainder (io.ccbHeader n))

/-- **What `readAdsd3500CCB` needs** to get to its end. -/
structure CcbReadable (io : DriverAnswers) (allocates : ℕ → Bool) (n : ℕ) : Prop where
  /-- The chunk size in the header is not 0. -/
  chunkSize : ccbChunkSize (io.ccbHeader n) ≠ 0
  /-- There is memory for the CCB. -/
  memory : allocates (ccbFileSize (io.ccbHeader n)).toNat = true
  /-- The chunks can be read, as many as a `uint16_t` counts. -/
  transfers : io.CcbTransfers n
    ((ccbFileSize (io.ccbHeader n)).toNat / (ccbChunkSize (io.ccbHeader n)).toNat % 2 ^ 16)

/-- **What `read_current_module_ccb_direct` needs**: its number of chunks is
not cut, and it tests the size. -/
structure CcbReadableDirect (io : DriverAnswers) (allocates : ℕ → Bool) (n : ℕ) : Prop where
  /-- The chunk size in the header is not 0. -/
  chunkSize : ccbChunkSize (io.ccbHeader n) ≠ 0
  /-- The file is longer than its checksum. -/
  size : 4 < (ccbFileSize (io.ccbHeader n)).toNat
  /-- There is memory for the CCB. -/
  memory : allocates (ccbFileSize (io.ccbHeader n)).toNat = true
  /-- The chunks can be read, all of them. -/
  transfers : io.CcbTransfers n
    ((ccbFileSize (io.ccbHeader n)).toNat / (ccbChunkSize (io.ccbHeader n)).toNat)

/-- **What `updateAdsd3500Firmware` needs**: its header and its packets go
through. -/
structure FirmwareSent (io : DriverAnswers) (crcFast : Bytes → UInt32) (content : Bytes) (n : ℕ) :
    Prop where
  /-- The header is taken. -/
  header : io.sets n (payloadPacket (fwUpgradeHeader crcFast content)) = true
  /-- So is every packet. -/
  packets : ∀ k packet, (fwPackets content)[k]? = some packet →
    io.sets (n + 1 + k) (payloadPacket packet) = true

/-- The conditions of `readAdsd3500CCB`, in the order of the routine. -/
theorem ccbReadable_iff {io : DriverAnswers} {allocates : ℕ → Bool} {n : ℕ} :
    io.CcbReadable allocates n ↔ io.Answers n 0x13 1 16
      ∧ ccbChunkSize (io.ccbHeader n) ≠ 0
      ∧ allocates (ccbFileSize (io.ccbHeader n)).toNat = true
      ∧ (∀ k < (ccbFileSize (io.ccbHeader n)).toNat / (ccbChunkSize (io.ccbHeader n)).toNat
            % 2 ^ 16,
          io.Reads (n + 3 + 2 * k) (ccbChunkSize (io.ccbHeader n)))
      ∧ (ccbRemainder (io.ccbHeader n) ≠ 0 →
          io.Reads (n + 3 + 2 * ((ccbFileSize (io.ccbHeader n)).toNat
            / (ccbChunkSize (io.ccbHeader n)).toNat % 2 ^ 16)) (ccbRemainder (io.ccbHeader n))) :=
  ⟨fun h => ⟨h.transfers.command, h.chunkSize, h.memory, h.transfers.chunks, h.transfers.last⟩,
    fun ⟨command, chunkSize, memory, chunks, last⟩ => ⟨chunkSize, memory, ⟨command, chunks, last⟩⟩⟩

/-- Those of `read_current_module_ccb_direct`. -/
theorem ccbReadableDirect_iff {io : DriverAnswers} {allocates : ℕ → Bool} {n : ℕ} :
    io.CcbReadableDirect allocates n ↔ io.Answers n 0x13 1 16
      ∧ (ccbChunkSize (io.ccbHeader n) ≠ 0 ∧ 4 < (ccbFileSize (io.ccbHeader n)).toNat)
      ∧ allocates (ccbFileSize (io.ccbHeader n)).toNat = true
      ∧ (∀ k < (ccbFileSize (io.ccbHeader n)).toNat / (ccbChunkSize (io.ccbHeader n)).toNat,
          io.Reads (n + 3 + 2 * k) (ccbChunkSize (io.ccbHeader n)))
      ∧ (ccbRemainder (io.ccbHeader n) ≠ 0 →
          io.Reads (n + 3 + 2 * ((ccbFileSize (io.ccbHeader n)).toNat
            / (ccbChunkSize (io.ccbHeader n)).toNat)) (ccbRemainder (io.ccbHeader n))) :=
  ⟨fun h => ⟨h.transfers.command, ⟨h.chunkSize, h.size⟩, h.memory, h.transfers.chunks,
      h.transfers.last⟩,
    fun ⟨command, ⟨chunkSize, size⟩, memory, chunks, last⟩ =>
      ⟨chunkSize, size, memory, ⟨command, chunks, last⟩⟩⟩

/-- The chip's number is read. -/
def ChipIdRead (io : DriverAnswers) (n : ℕ) : Prop :=
  io.sets n ([1, 0, 2] ++ highLow 0x0112) = true ∧ io.Reads (n + 1) 2

end DriverAnswers

/-! ## Entering and leaving

Before the mode is entered nothing can leave the device in it. Behind the entry
the routine has to come to the transfer that leaves the mode, so that the two
parts are put together in one lemma (`endsStandard_enter`), and the four
routines differ only in what lies between. -/

/-- The mode a routine ends in is the standard one. -/
def EndsStandard {α : Type} (m : Transfer α) (d : Adsd3500) : Prop :=
  (finalState (m d)).burst = false

/-- `adsd3500_read_payload_cmd` behind its first call. -/
def readPayloadInBurst (io : DriverAnswers) (cmd : UInt32) (first : UInt8) (len : UInt16) :
    Transfer Bytes := do
  setExtCtrls io (payloadPacket (commandPayload cmd first))
  let bytes ← readBack io len
  if cmd = 0x13 then pure bytes
  else
    setExtCtrls io (payloadPacket switchBuf)
    pure bytes

theorem readPayloadCmd_eq (io : DriverAnswers) (cmd : UInt32) (first : UInt8) (len : UInt16) :
    readPayloadCmd io cmd first len
      = writeCmd io 0x0019 0x0000 >>= fun _ => readPayloadInBurst io cmd first len := rfl

theorem not_standard (t : Adsd3500) (h : t.burst = true) : ¬ t.burst = false :=
  fun hfalse => Bool.noConfusion (h.symm.trans hfalse)

/-- **Behind the entry**, what counts is the rest of the routine. -/
theorem endsStandard_enter {α : Type} {f : Unit → Transfer α} {q : Prop} (hd : d.burst = false)
    (hf : EndsStandard (f ()) { burst := true, calls := d.calls + 1 } ↔ q) :
    EndsStandard (writeCmd io 0x0019 0x0000 >>= f) d
      ↔ (io.sets d.calls enterPacket = true → q) := by
  refine (setExtCtrls_ends io enterPacket d).final_bind_of_stops
    (P := fun t : Adsd3500 => t.burst = false) (fun t ht => ht.trans hd) (fun a t _ ht => ?_)
  rw [ht, receive_enterPacket]
  exact hf

/-- The same, where the caller puts the exit differently. -/
theorem endsStandard_enter_mapExit {α : Type} {f : Unit → Transfer α} {g : Exit → Exit} {q : Prop}
    (hd : d.burst = false) (hf : EndsStandard (f ()) { burst := true, calls := d.calls + 1 } ↔ q) :
    EndsStandard (mapExit g (writeCmd io 0x0019 0x0000) >>= f) d
      ↔ (io.sets d.calls enterPacket = true → q) := by
  refine (mapExit_ends (setExtCtrls_ends io enterPacket d) g).final_bind_of_stops
    (P := fun t : Adsd3500 => t.burst = false) (fun t ht => ht.trans hd) (fun a t _ ht => ?_)
  rw [ht, receive_enterPacket]
  exact hf

/-- **The last transfer** leaves burst mode, whatever follows that leaves the
mode alone. -/
theorem endsStandard_switch {α : Type} {m : Transfer Unit} {f : Unit → Transfer α}
    (hback : io.SwitchesBack)
    (hm : Ends m d (io.sets d.calls (payloadPacket switchBuf) = true)
      (fun _ t => t = { burst := Adsd3500.receive (payloadPacket switchBuf) d.burst,
                        calls := d.calls + 1 })
      (fun t => t.burst = d.burst))
    (hf : ∀ t : Adsd3500, t.burst = false → EndsStandard (f ()) t) : EndsStandard (m >>= f) d := by
  obtain ⟨a, t, ht, hrun⟩ := hm.run_bind (hback _) f
  unfold EndsStandard
  rw [hrun]
  refine hf t ?_
  rw [ht, receive_switchBuf]

/-- Reading leaves the mode alone. -/
theorem endsStandard_readBack {α : Type} {len : UInt16} {f : Bytes → Transfer α}
    (hd : d.burst = false)
    (hf : ∀ bytes (t : Adsd3500), t.burst = false → EndsStandard (f bytes) t) :
    EndsStandard (readBack io len >>= f) d := by
  have hread := readBack_ends io len d
  unfold EndsStandard
  by_cases hp : io.Reads d.calls len
  · obtain ⟨bytes, t, ht, hrun⟩ := hread.run_bind hp f
    rw [hrun]
    exact hf bytes t (by rw [ht.2]; exact hd)
  · obtain ⟨e, t, ht, hrun⟩ := hread.stop_bind hp f
    rw [hrun]
    exact ht.trans hd

theorem endsStandard_pure {α : Type} (a : α) (hd : d.burst = false) :
    EndsStandard (pure a) d := hd

theorem endsStandard_ensure (c : Bool) (e : Exit) (hd : d.burst = false) :
    EndsStandard (ensure c e) d := by
  cases c <;> exact hd

/-- A test and what follows it. -/
theorem endsStandard_ensure_bind {α : Type} {c : Bool} {e : Exit} {f : Unit → Transfer α}
    (hd : d.burst = false) (hf : EndsStandard (f ()) d) : EndsStandard (ensure c e >>= f) d := by
  cases c
  · exact hd
  · exact hf

/-! ## The four routines

`adsd3500_read_payload_cmd` is the simplest, and is itself the beginning of the
two readers of the CCB, where it is called with the command that makes it stay
in burst mode. The readers then have a header, chunks, and a rest, and the
firmware has a header and packets. In each case the payloads in between leave
the mode alone, as none of them is `switchBuf`: they have another length, or
other bytes. -/

/-- The payload of a command has 16 bytes. -/
theorem length_commandPayload (cmd : UInt32) (first : UInt8) :
    (commandPayload cmd first).length = 16 := by
  simp [commandPayload]

/-- **`adsd3500_read_payload_cmd`.** -/
theorem readPayloadCmd_endsStandard_iff (hback : io.SwitchesBack) (hd : d.burst = false)
    (cmd : UInt32) (first : UInt8) (len : UInt16) :
    EndsStandard (readPayloadCmd io cmd first len) d
      ↔ (io.sets d.calls enterPacket = true →
        commandPayload cmd first = switchBuf
          ∨ cmd ≠ 0x13 ∧ io.Answers (d.calls + 1) cmd first len) := by
  rw [readPayloadCmd_eq]
  refine endsStandard_enter hd ?_
  by_cases hswitch : commandPayload cmd first = switchBuf
  · -- the command is itself the packet that leaves the mode
    refine iff_of_true ?_ (Or.inl hswitch)
    unfold readPayloadInBurst
    rw [hswitch]
    refine endsStandard_switch hback (setExtCtrls_ends io _ _) (fun t ht => ?_)
    refine endsStandard_readBack ht (fun bytes t ht => ?_)
    split
    · exact endsStandard_pure bytes ht
    · exact endsStandard_switch hback (setExtCtrls_ends io _ _)
        (fun t ht => endsStandard_pure bytes ht)
  · rw [or_iff_right hswitch]
    have hneutral : Neutral (payloadPacket (commandPayload cmd first)) :=
      neutral_payloadPacket (by rw [length_commandPayload]; decide) hswitch
    unfold readPayloadInBurst EndsStandard
    refine Iff.trans ((setExtCtrls_neutral hneutral).final_bind
      (P := fun t : Adsd3500 => t.burst = false) not_standard
      (q := io.Reads (d.calls + 1 + 1) len ∧ cmd ≠ 0x13)
      (fun _ t _ ht => ?_)) ?_
    · subst ht
      refine (readBack_ends io len _).final_bind (P := fun t : Adsd3500 => t.burst = false)
        not_standard (fun bytes t _ ht => ?_)
      obtain ⟨-, rfl⟩ := ht
      by_cases hcmd : cmd = 0x13
      · rw [if_pos hcmd]
        exact iff_of_false (fun h => Bool.noConfusion h) (fun h => h hcmd)
      · rw [if_neg hcmd]
        exact iff_of_true (endsStandard_switch hback (setExtCtrls_ends io _ _)
          (fun t ht => endsStandard_pure bytes ht)) hcmd
    · exact ⟨fun h => ⟨h.2.2, h.1, h.2.1⟩, fun h => ⟨h.2.1, h.2.2, h.1⟩⟩

/-- The header of the CCB, in burst mode. -/
theorem readCcbHeader_ends (io : DriverAnswers) (d : Adsd3500) :
    Ends (readPayloadInBurst io 0x13 1 16) d (io.Answers d.calls 0x13 1 16)
      (fun header t => header = io.ccbHeader d.calls ∧ t = { d with calls := d.calls + 3 })
      (fun t => t.burst = d.burst) := by
  have hneutral : Neutral (payloadPacket (commandPayload 0x13 1)) :=
    neutral_payloadPacket (by rw [length_commandPayload]; decide) (by decide)
  refine (setExtCtrls_neutral hneutral).bind (fun _ t _ ht => ?_)
  subst ht
  refine ((readBack_ends io 16 _).bind (q := True) (fun bytes t _ ht => ?_)).mono
    (and_iff_left trivial) (fun _ _ _ h => h) (fun _ h => h)
  obtain ⟨rfl, rfl⟩ := ht
  rw [if_pos rfl]
  exact (Ends.pure _ _ _).mono Iff.rfl (fun b t _ hb => ⟨hb.1, by rw [hb.2]⟩) (fun _ h => h)

section CcbTail

variable {α : Type} {m : Transfer Unit} {rest : Bytes → Bytes → Unit → Transfer α}

/-- **The chunks of the CCB and what follows them**: the mode is left if all
are read. -/
theorem endsStandard_chunks (hback : io.SwitchesBack) (hd : d.burst = true)
    (hm : ∀ t : Adsd3500, Ends m t (io.sets t.calls (payloadPacket switchBuf) = true)
      (fun _ t' => t' = { burst := Adsd3500.receive (payloadPacket switchBuf) t.burst,
                          calls := t.calls + 1 })
      (fun t' => t'.burst = t.burst))
    (hrest : ∀ chunks last (t : Adsd3500), t.burst = false → EndsStandard (rest chunks last ()) t)
    (f : ℕ → Exit → Exit) (g : Exit → Exit) (size lastSize : UInt16) (count : ℕ) :
    EndsStandard (readChunks io f size count 0 >>= fun chunks =>
        readLastChunk io g lastSize >>= fun last => m >>= fun u => rest chunks last u) d
      ↔ (∀ k < count, io.Reads (d.calls + 2 * k) size)
        ∧ (lastSize ≠ 0 → io.Reads (d.calls + 2 * count) lastSize) := by
  refine (readChunks_ends io f size count 0 d).final_bind (P := fun t : Adsd3500 => t.burst = false)
    (fun t ht => not_standard t (ht.trans hd)) (fun chunks t _ ht => ?_)
  subst ht
  refine Iff.trans ((readLastChunk_ends io g lastSize _).final_bind (q := True)
    (P := fun t : Adsd3500 => t.burst = false) (fun t ht => not_standard t (ht.trans hd))
    (fun last t _ _ => iff_of_true ?_ trivial)) (and_iff_left trivial)
  exact endsStandard_switch hback (hm t) (fun t' ht' => hrest chunks last t' ht')

end CcbTail

/-- **`CameraItof::readAdsd3500CCB`.** -/
theorem readAdsd3500Ccb_endsStandard_iff (hback : io.SwitchesBack) (hd : d.burst = false)
    (crcFast : Bytes → UInt32) (allocates : ℕ → Bool) :
    EndsStandard (readAdsd3500Ccb io crcFast allocates) d
      ↔ (io.sets d.calls enterPacket = true → io.CcbReadable allocates (d.calls + 1)) := by
  unfold readAdsd3500Ccb
  rw [readPayloadCmd_eq, bind_assoc, DriverAnswers.ccbReadable_iff]
  refine endsStandard_enter hd ?_
  refine (readCcbHeader_ends io _).final_bind (P := fun t : Adsd3500 => t.burst = false)
    not_standard (fun header t _ ht => ?_)
  obtain ⟨rfl, rfl⟩ := ht
  refine Iff.trans ((Ends.ensure _ _ _).final_bind (P := fun t : Adsd3500 => t.burst = false)
    (fun t ht => not_standard t (by rw [ht])) (fun _ t _ ht => ?_))
    (and_congr decide_eq_true_iff Iff.rfl)
  subst ht
  refine (Ends.ensure _ _ _).final_bind (P := fun t : Adsd3500 => t.burst = false)
    (fun t ht => not_standard t (by rw [ht])) (fun _ t _ ht => ?_)
  subst ht
  refine endsStandard_chunks hback rfl (fun t => setExtCtrls_ends io _ t)
    (fun chunks last t ht => ?_) _ _ _ _ _
  exact endsStandard_ensure_bind ht (endsStandard_ensure_bind ht (endsStandard_pure _ ht))

/-- **`CameraRawSource::read_current_module_ccb_direct`.** -/
theorem readCurrentModuleCcbDirect_endsStandard_iff (hback : io.SwitchesBack)
    (hd : d.burst = false) (crcFast : Bytes → UInt32) (allocates : ℕ → Bool) :
    EndsStandard (readCurrentModuleCcbDirect io crcFast allocates) d
      ↔ (io.sets d.calls enterPacket = true → io.CcbReadableDirect allocates (d.calls + 1)) := by
  unfold readCurrentModuleCcbDirect
  rw [readPayloadCmd_eq, mapExit_bind, bind_assoc, DriverAnswers.ccbReadableDirect_iff]
  refine endsStandard_enter_mapExit hd ?_
  refine (mapExit_ends (readCcbHeader_ends io _) _).final_bind
    (P := fun t : Adsd3500 => t.burst = false) not_standard (fun header t _ ht => ?_)
  obtain ⟨rfl, rfl⟩ := ht
  refine Iff.trans ((Ends.ensure _ _ _).final_bind (P := fun t : Adsd3500 => t.burst = false)
    (fun t ht => not_standard t (by rw [ht])) (fun _ t _ ht => ?_)) (and_congr ?_ Iff.rfl)
  · subst ht
    refine (Ends.ensure _ _ _).final_bind (P := fun t : Adsd3500 => t.burst = false)
      (fun t ht => not_standard t (by rw [ht])) (fun _ t _ ht => ?_)
    subst ht
    refine endsStandard_chunks hback rfl (fun t => mapExit_ends (setExtCtrls_ends io _ t) _)
      (fun chunks last t ht => ?_) _ _ _ _ _
    exact endsStandard_ensure_bind ht (endsStandard_pure _ ht)
  · rw [Bool.and_eq_true, decide_eq_true_iff, decide_eq_true_iff]

/-- The packets of a firmware leave the mode alone: the header has another
length of chunks, and a page has 256 bytes. -/
theorem neutral_firmware (crcFast : Bytes → UInt32) (content : Bytes) :
    Neutral (payloadPacket (fwUpgradeHeader crcFast content))
      ∧ ∀ packet ∈ fwPackets content, Neutral (payloadPacket packet) := by
  constructor
  · refine neutral_payloadPacket (by simp [fwUpgradeHeader]) (fun h => ?_)
    have hthird := congrArg (fun bs : Bytes => bs[2]?) h
    exact absurd hthird (by simp [fwUpgradeHeader, switchBuf])
  · intro packet hpacket
    obtain ⟨i, -, rfl⟩ := List.mem_map.mp hpacket
    have hlen : ∀ page : Bytes, page.length ≤ flashPageSize →
        (page ++ List.replicate (flashPageSize - page.length) 0).length = 256 := by
      intro page hpage
      rw [List.length_append, List.length_replicate]
      exact Nat.add_sub_of_le hpage
    have h256 := hlen ((content.drop (flashPageSize * i)).take flashPageSize)
      (List.length_take_le _ _)
    refine neutral_payloadPacket (by rw [h256]; decide) (fun h => ?_)
    have := congrArg List.length h
    rw [h256] at this
    exact absurd this (by decide)

/-- **`CameraItof::updateAdsd3500Firmware`.** -/
theorem updateAdsd3500Firmware_endsStandard_iff (hback : io.SwitchesBack) (hd : d.burst = false)
    (crcFast : Bytes → UInt32) (file : Bytes) (timesOut : Bool) :
    EndsStandard (updateAdsd3500Firmware io crcFast file timesOut) d
      ↔ (io.ChipIdRead d.calls → io.sets (d.calls + 3) enterPacket = true →
        io.FirmwareSent crcFast (file.take (file.length % 2 ^ 32)) (d.calls + 4)) := by
  obtain ⟨hheader, hpackets⟩ := neutral_firmware crcFast (file.take (file.length % 2 ^ 32))
  unfold updateAdsd3500Firmware
  refine (readCmd_ends io 0x0112 d).final_bind_of_stops (P := fun t : Adsd3500 => t.burst = false)
    (fun t ht => ht.trans hd) (fun bytes t _ ht => ?_)
  subst ht
  refine endsStandard_enter hd ?_
  refine Iff.trans ((setExtCtrls_neutral hheader).final_bind
    (P := fun t : Adsd3500 => t.burst = false) not_standard (fun _ t _ ht => ?_))
    ⟨fun h => ⟨h.1, h.2⟩, fun h => ⟨h.header, h.packets⟩⟩
  subst ht
  refine Iff.trans ((writePayloads_ends io _ _ hpackets).final_bind (q := True)
    (P := fun t : Adsd3500 => t.burst = false) not_standard
    (fun _ t _ _ => iff_of_true ?_ trivial)) (and_iff_left trivial)
  exact endsStandard_switch hback (setExtCtrls_ends io _ _)
    (fun t ht => endsStandard_ensure _ _ ht)

/-- **When burst mode is left**: by none of the four routines after an early
exit, and by all of them at their end – but for command 0x13 of the first, which
is the beginning of the two readers of the CCB.

All four switch to burst mode with their first packet and back with their last,
and return in between whenever a packet is refused. The first packet itself is
left out by `io.sets`: where it is refused the device has stayed in the standard
mode. The fourth routine reads the chip's id before, and so its equivalence has
one premise more. The assumption on the device is that the last packet, when it
is taken, switches it back. -/
theorem burst_left_iff (hback : io.SwitchesBack) (hd : d.burst = false) :
    (∀ cmd first len, EndsStandard (readPayloadCmd io cmd first len) d
        ↔ (io.sets d.calls enterPacket = true →
          commandPayload cmd first = switchBuf
            ∨ cmd ≠ 0x13 ∧ io.Answers (d.calls + 1) cmd first len))
      ∧ (∀ crcFast allocates, EndsStandard (readAdsd3500Ccb io crcFast allocates) d
        ↔ (io.sets d.calls enterPacket = true → io.CcbReadable allocates (d.calls + 1)))
      ∧ (∀ crcFast allocates, EndsStandard (readCurrentModuleCcbDirect io crcFast allocates) d
        ↔ (io.sets d.calls enterPacket = true → io.CcbReadableDirect allocates (d.calls + 1)))
      ∧ ∀ crcFast file timesOut,
        EndsStandard (updateAdsd3500Firmware io crcFast file timesOut) d
        ↔ (io.ChipIdRead d.calls → io.sets (d.calls + 3) enterPacket = true →
          io.FirmwareSent crcFast (file.take (file.length % 2 ^ 32)) (d.calls + 4)) :=
  ⟨readPayloadCmd_endsStandard_iff hback hd, readAdsd3500Ccb_endsStandard_iff hback hd,
    readCurrentModuleCcbDirect_endsStandard_iff hback hd,
    updateAdsd3500Firmware_endsStandard_iff hback hd⟩

/-! ### Two devices

A device with which every routine gets through, and one with which none does.
The second takes every packet but the payloads, so that burst mode is entered
and the first thing that happens in it fails. -/

instance {α : Type} (m : Transfer α) (d : Adsd3500) : Decidable (EndsStandard m d) :=
  inferInstanceAs (Decidable (_ = false))

/-- A device whose every transfer goes through. -/
def answering : DriverAnswers where
  sets _ _ := true
  gets _ := some []

/-- A device that answers every packet: its intrinsics are read, and burst mode
is left. -/
theorem burst_left_iff_answering : EndsStandard (readPayloadCmd answering 0x01 0 56) {} := by
  have hback : answering.SwitchesBack := fun _ => rfl
  obtain ⟨hcommand, -⟩ := burst_left_iff hback (d := {}) rfl
  exact (hcommand 0x01 0 56).mpr (fun _ => Or.inr ⟨by decide, rfl, rfl, rfl⟩)

/-- A device that takes registers, requests and the packet that leaves burst
mode, and no other payload. -/
def losingPayloads : DriverAnswers where
  sets _ packet := packet.length ≤ 7 || packet = payloadPacket switchBuf
  gets _ := some []

/-- **No routine leaves burst mode when its first payload is lost.** -/
theorem not_endsStandard_lost_payload :
    losingPayloads.SwitchesBack
      ∧ ¬ EndsStandard (readPayloadCmd losingPayloads 0x01 0 56) {}
      ∧ ¬ EndsStandard (readAdsd3500Ccb losingPayloads (fun _ => 0) (fun _ => true)) {}
      ∧ ¬ EndsStandard (readCurrentModuleCcbDirect losingPayloads (fun _ => 0) (fun _ => true)) {}
      ∧ ¬ EndsStandard (updateAdsd3500Firmware losingPayloads (fun _ => 0) [] false) {} := by
  exact ⟨fun _ => rfl, by decide +kernel, by decide +kernel, by decide +kernel, by decide +kernel⟩
