import TofNet.BurstMode
import TofNet.UsbGadget

/-!
# Requests over USB

The host sends the size of a request and then its bytes, and asks for the size
of the response and then for its bytes, one control transfer after the other.
A transfer may fail, and then the host gives up where it is.

`Does` says of a function of the host which events it asks of the gadget, and
what it returns if no transfer fails: the packets of a request
(`does_requests`), and as many for the response as it fills
(`does_getResponse`).

The functions of the host are programs that may leave off with an error, over a
state that has the gadget and the failure to come. `Does` relates such a program
to a list of events of the gadget. A failure cuts the list off: what the gadget
has seen is a front of it, with or without the packet whose transfer failed. So
there is one statement for the function that goes to its end and for all the
ways in which it may not.
-/

namespace Usb

open PacketStream

/-! ## The host

The loops of the source are recursions on the number of their rounds, which is
that of the packets. What is behind the end of a request in its last packet is
what the buffer had there. -/

/-- A transfer that fails for the host: how many go through before it, and
whether its packet reaches the gadget all the same. -/
structure Failure where
  after : ℕ
  reaches : Bool
  deriving DecidableEq

/-- The gadget, and the failure there will be, if there is one. -/
structure Bus (σ : Type) where
  gadget : Gadget σ
  failure : Option Failure := none

/-- A function of the host. -/
abbrev Host (σ α : Type) := EStateM Exit (Bus σ) α

/-- **What the two kernels do** with the bytes of a response: the packet in the
host's buffer, unless the transfer fails. Nothing is known of a response that is
shorter than what the host asks for, until `Kernels.Fills` says it. -/
structure Kernels where
  get : Packet → ℕ → Option Packet

/-- What is on the host's stack: behind the size of a request, and in the buffer
for its packets. The source does not clear either, so any bytes may be there. -/
structure Stack where
  beyond : Packet
  packet : Packet

section Host

variable {σ α : Type} (serve : Server σ) (kernels : Kernels)

/-- A control transfer that does something to the gadget. If it is the one that
fails, it may have been done all the same, as an acknowledgement may be lost as
well as a packet; and there is at most one, since the host gives up behind
it. -/
def transfer (f : Gadget σ → Option (α × Gadget σ)) : Host σ α := fun b =>
  match b.failure with
  | some ⟨0, false⟩ => .error (.status .genericError) { b with failure := none }
  | some ⟨0, true⟩ =>
    match f b.gadget with
    | none => .error .undefined b
    | some (_, g) => .error (.status .genericError) { gadget := g }
  | some ⟨k + 1, reaches⟩ =>
    match f b.gadget with
    | none => .error .undefined b
    | some (a, g) => .ok a { gadget := g, failure := some ⟨k, reaches⟩ }
  | none =>
    match f b.gadget with
    | none => .error .undefined b
    | some (a, g) => .ok a { gadget := g }

/-- `UvcExUnitSetProperty`. -/
def uvcExUnitSetProperty (data : Packet) : Host σ Unit :=
  transfer fun g => (processData serve g data).map fun g => ((), g)

/-- `UvcExUnitGetProperty`. -/
def uvcExUnitGetProperty : Host σ Packet := do
  let response ← transfer processGetCur
  match kernels.get response.data response.length with
  | some packet => pure packet
  | none => throw (.status .genericError)

/-- The packets of the loop of `uvcExUnitSendRequest`, for so many rounds; the
buffer keeps what the packet before it had behind its end. -/
def dataPackets : ℕ → Packet → Bytes → List Packet
  | 0, _, _ => []
  | n + 1, packet, data =>
    if data.length = 0 then []
    else
      let packet := packet.overwrite (data.take (packetSize data.length))
      packet :: dataPackets n packet (data.drop (packetSize data.length))

/-- All packets of a request. -/
def requestPackets (stack : Stack) (request : Bytes) : List Packet :=
  stack.beyond.overwrite (le64 (UInt64.ofNat request.length))
    :: dataPackets request.length stack.packet request

/-- **`uvcExUnitSendRequest`**. -/
def uvcExUnitSendRequest (stack : Stack) (request : Bytes) : Host σ Unit :=
  (requestPackets stack request).forM (uvcExUnitSetProperty serve)

/-- The loop of `uvcExUnitGetResponse`, for so many rounds. -/
def readResponse : ℕ → ℕ → Bytes → Host σ Bytes
  | 0, _, response => pure response
  | n + 1, remaining, response =>
    if remaining = 0 then pure response
    else do
      let packet ← uvcExUnitGetProperty kernels
      readResponse n (remaining - packetSize remaining)
        (response ++ packet.bytes.take (packetSize remaining))

/-- **`uvcExUnitGetResponse`**. -/
def uvcExUnitGetResponse : Host σ Bytes := do
  let packet ← uvcExUnitGetProperty kernels
  let stringLength := (get64 0 packet.bytes).toNat
  readResponse kernels stringLength stringLength []

end Host

/-! ## Sending a request

The packets are cut from the request at every sixtieth byte, and are those that
it fills (`PacketStream.Packed`). -/

/-- The packets of a request are filled by it, each up to its size and the last
one as far as the request goes. -/
theorem packed_dataPackets (packet : Packet) {n : ℕ} {data : Bytes} (hn : data.length ≤ n) :
    Packed ((dataPackets n packet data).map Packet.bytes) data := by
  induction n generalizing packet data with
  | zero =>
    obtain rfl := List.length_eq_zero_iff.mp (Nat.le_zero.mp hn)
    exact .nil
  | succ n ih =>
    rw [dataPackets]
    split
    · next hnil =>
      obtain rfl := List.length_eq_zero_iff.mp hnil
      exact .nil
    · next hne =>
      have hsize := packetSize_eq data.length
      have htake : data.take (packetSize data.length) = data.take maxPacketSize := by
        rw [hsize, Nat.min_comm, ← List.take_take, List.take_length]
      have hdrop : data.drop (packetSize data.length) = data.drop maxPacketSize := by
        rcases Nat.le_total data.length maxPacketSize with hle | hle
        · rw [hsize, Nat.min_eq_left hle, List.drop_length, List.drop_eq_nil_of_le hle]
        · rw [hsize, Nat.min_eq_right hle]
      have hpos : 0 < maxPacketSize := by decide
      rw [htake, hdrop, List.map_cons]
      refine .cons (by rintro rfl; exact hne rfl) ?_ ?_
      · rw [Packet.length_bytes]
        show data.take maxPacketSize <+: (data.take maxPacketSize ++ _).take maxPacketSize
        rw [List.take_append, List.take_take, Nat.min_self]
        exact List.prefix_append ..
      · rw [Packet.length_bytes]
        exact ih _ (by rw [List.length_drop]; omega)

/-- The size that the gadget reads is the lowest byte of the one that is sent.
This is where a request of 256 bytes and more is taken for a shorter one. -/
theorem announcedSize_header (stack : Stack) (request : Bytes) :
    announcedSize (stack.beyond.overwrite (le64 (UInt64.ofNat request.length))).bytes
      = request.length % 256 := by
  have hbyte : (stack.beyond.overwrite (le64 (UInt64.ofNat request.length))).bytes.getD 0 0
      = UInt8.ofNat (UInt64.ofNat request.length).toNat := rfl
  rw [announcedSize, hbyte, UInt8.toNat_ofNat', UInt64.toNat_ofNat']
  omega

/-! ## What a function of the host does

A rule for each way in which the functions are put together: nothing, one behind
the other, and one transfer. -/

/-- Events behind events. -/
theorem Gadget.run_append {σ : Type} {serve : Server σ} {g g' : Gadget σ} {es es' : List Event}
    (h : g.run serve es = some g') : g.run serve (es ++ es') = g'.run serve es' := by
  induction es generalizing g with
  | nil =>
    cases h
    rfl
  | cons e es ih =>
    rw [Gadget.run] at h
    rw [List.cons_append, Gadget.run]
    cases hstep : g.process serve e with
    | none =>
      rw [hstep] at h
      cases h
    | some next =>
      rw [hstep] at h
      exact ih h

namespace Failure

/-- How many packets reach the gadget. -/
def delivered (f : Failure) : ℕ := f.after + f.reaches.toNat

/-- The failure, when so many transfers are over. -/
def later (n : ℕ) (f : Failure) : Failure := { f with after := f.after - n }

end Failure

/-- **What a function does**: it asks the gadget for some events and returns a
value, or gives up where a transfer fails. In the second case the events are cut
off behind those that reach the gadget. -/
structure Does {σ α : Type} (serve : Server σ) (m : Host σ α) (g : Gadget σ) (es : List Event)
    (a : α) : Prop where
  ok : ∀ failure g', g.run serve es = some g' → (∀ f ∈ failure, es.length ≤ f.after) →
    m ⟨g, failure⟩ = .ok a ⟨g', failure.map (Failure.later es.length)⟩
  fails : ∀ f g', f.after < es.length → g.run serve (es.take f.delivered) = some g' →
    m ⟨g, some f⟩ = .error (.status .genericError) ⟨g', none⟩

namespace Does

variable {σ α β : Type} {serve : Server σ} {m : Host σ α} {f : α → Host σ β} {g g₁ : Gadget σ}
  {es es' : List Event} {a : α} {b : β}

/-- A function that does nothing. -/
protected theorem pure (a : α) (g : Gadget σ) : Does serve (pure a : Host σ α) g [] a where
  ok failure g' hrun _ := by
    cases hrun
    cases failure <;> rfl
  fails f _ h := absurd h (Nat.not_lt_zero _)

/-- One function behind another. If the failure is within the first, the second
one is not called; else the second one has it later by as many transfers. -/
theorem bind (hm : Does serve m g es a) (hrun : g.run serve es = some g₁)
    (hf : Does serve (f a) g₁ es' b) : Does serve (m >>= f) g (es ++ es') b where
  ok failure g' hboth hlate := by
    rw [Gadget.run_append hrun] at hboth
    have hfirst := hm.ok failure g₁ hrun fun x hx =>
      (Nat.le_add_right _ _).trans ((List.length_append ▸ hlate x hx))
    show EStateM.bind m f _ = _
    rw [EStateM.bind, hfirst]
    dsimp only
    rw [hf.ok _ g' hboth, Option.map_map]
    · cases failure with
      | none => rfl
      | some x =>
        simp only [Option.map_some, Function.comp_apply, Failure.later, List.length_append,
          Nat.sub_add_eq]
    · intro y hy
      obtain ⟨x, hx, rfl⟩ := Option.mem_map.mp hy
      have hle := hlate x hx
      rw [List.length_append] at hle
      show es'.length ≤ x.after - es.length
      omega
  fails x g' hlt hpart := by
    show EStateM.bind m f _ = _
    rw [EStateM.bind]
    by_cases hfirst : x.after < es.length
    · have hle : x.delivered ≤ es.length := by
        have := x.reaches.toNat_le
        unfold Failure.delivered
        omega
      rw [List.take_append_of_le_length hle] at hpart
      rw [hm.fails x g' hfirst hpart]
    · have hsplit : x.delivered = es.length + (Failure.later es.length x).delivered := by
        unfold Failure.delivered Failure.later
        dsimp only
        omega
      rw [hsplit, List.take_append, List.take_of_length_le (Nat.le_add_right _ _),
        Nat.add_sub_cancel_left, Gadget.run_append hrun] at hpart
      rw [hm.ok (some x) g₁ hrun (by rintro _ ⟨⟩; exact Nat.le_of_not_lt hfirst)]
      dsimp only
      rw [Option.map_some]
      refine hf.fails _ g' ?_ hpart
      rw [List.length_append] at hlt
      show x.after - es.length < es'.length
      omega

end Does

/-- A transfer that goes through on the gadget is one event. -/
theorem does_transfer {σ α : Type} {serve : Server σ} {f : Gadget σ → Option (α × Gadget σ)}
    {g g₁ : Gadget σ} {a : α} {e : Event} (hf : f g = some (a, g₁))
    (he : g.run serve [e] = some g₁) : Does serve (transfer f) g [e] a where
  ok failure g' hrun hlate := by
    obtain rfl := Option.some.inj (he.symm.trans hrun)
    match failure with
    | none => simp only [transfer, hf, Option.map_none]
    | some ⟨0, reaches⟩ => exact absurd (hlate _ rfl) (Nat.not_succ_le_zero 0)
    | some ⟨k + 1, reaches⟩ => simp only [transfer, hf, Option.map_some]; rfl
  fails x g' hlt hpart := by
    obtain ⟨after, reaches⟩ := x
    obtain rfl : after = 0 := Nat.lt_one_iff.mp hlt
    cases reaches with
    | false =>
      cases hpart
      rfl
    | true =>
      obtain rfl := Option.some.inj (he.symm.trans hpart)
      simp only [transfer, hf]

/-- The packets of a request, one after the other. -/
theorem does_requests {σ : Type} {serve : Server σ} {g : Gadget σ} (hg : g.Within)
    (ps : List Packet) :
    Does serve (ps.forM (uvcExUnitSetProperty serve)) g (ps.map .request) () := by
  induction ps generalizing g with
  | nil => exact .pure () g
  | cons p ps ih =>
    obtain ⟨g₁, hdata, hwithin, -⟩ := processData_eq serve hg p
    have hrun : g.run serve [.request p] = some g₁ := by
      rw [Gadget.run, Gadget.process, hdata]
      rfl
    have hfirst : Does serve (uvcExUnitSetProperty serve p) g [.request p] () :=
      does_transfer (by rw [hdata]; rfl) hrun
    exact hfirst.bind hrun (ih hwithin)

/-! ## Fetching a response

The gadget's side is followed packet by packet (`Gadget.OnItsWay`), with what
has been sent and what is left. The host's side asks for as many packets. -/

/-- **The documented behaviour of the kernels**: a response that is shorter than
what the host asks for is filled with zeros. -/
def Kernels.Fills (kernels : Kernels) : Prop :=
  ∀ data n, 0 < n → kernels.get data n = some (Packet.zeros.overwrite (data.bytes.take n))

/-- The packets of so many bytes. -/
def rounds (remaining : ℕ) : ℕ := (remaining + (maxPacketSize - 1)) / maxPacketSize

/-- The packets of some bytes are one, and those of the rest. -/
theorem rounds_of_pos {remaining : ℕ} (h : 0 < remaining) :
    rounds remaining = rounds (remaining - packetSize remaining) + 1 := by
  have hpacket := packetSize_eq remaining
  unfold rounds
  unfold maxPacketSize at hpacket ⊢
  omega

/-- The transfers of a response: one for its size, and those for its bytes. -/
def transfers (response : Bytes) : ℕ := rounds response.length + 1

section Fetching

variable {σ : Type} {serve : Server σ} {kernels : Kernels} {g g' : Gadget σ} {response : Bytes}

/-- So many bytes of a response are still to be sent, and the size has been. -/
structure Gadget.OnItsWay (g : Gadget σ) (response : Bytes) (remaining : ℕ) : Prop where
  outBuf : g.outBuf = response
  respLenSent : g.respLenSent = true
  sent : g.sent + remaining = response.length

/-- The response was sent. -/
def Gadget.gone (g : Gadget σ) : Gadget σ :=
  { g with outBuf := [], respLenSent := false, sent := g.outBuf.length }

/-- **The next packet of a response** has the bytes behind those that were sent,
and zeros behind its end. -/
theorem processGetCur_onItsWay {remaining : ℕ} (h : g.OnItsWay response remaining)
    (hpos : 0 < remaining) :
    ∃ g', processGetCur g = some (⟨Packet.zeros.overwrite
        (slice (response.length - remaining) (packetSize remaining) response),
        packetSize remaining⟩, g')
      ∧ if remaining - packetSize remaining = 0 then g' = g.gone
        else g'.OnItsWay response (remaining - packetSize remaining) ∧ g'.gone = g.gone := by
  obtain ⟨hbuf, hflag, hsent⟩ := h
  have hpacket := packetSize_eq remaining
  have hleft : g.outBuf.length - g.sent = remaining := by rw [hbuf]; omega
  have hplace : response.length - remaining = g.sent := by omega
  rw [processGetCur, if_neg (by rw [hbuf]; omega), if_pos hflag, if_neg (by rw [hbuf]; omega),
    hleft, hplace, ← hbuf]
  dsimp only
  by_cases hlast : remaining - packetSize remaining = 0
  · have hall : g.sent + packetSize remaining = g.outBuf.length := by rw [hbuf]; omega
    rw [if_pos hall, hall]
    exact ⟨_, rfl, by rw [if_pos hlast]; rfl⟩
  · rw [if_neg (by rw [hbuf]; omega)]
    refine ⟨_, rfl, ?_⟩
    rw [if_neg hlast]
    refine ⟨⟨rfl, hflag, ?_⟩, rfl⟩
    rw [hbuf]
    show g.sent + packetSize remaining + (remaining - packetSize remaining) = _
    omega

/-- As many packets as the rest of a response fills. By induction on the number
of packets: one is sent, and the rest is a response on its way. -/
theorem run_onItsWay (serve : Server σ) {remaining : ℕ} (h : g.OnItsWay response remaining)
    (hpos : 0 < remaining) {n : ℕ} (hn : n ≤ rounds remaining) :
    ∃ g', g.run serve (List.replicate n .getCur) = some g'
      ∧ if n = rounds remaining then g' = g.gone else g'.respLenSent = true := by
  induction n generalizing g remaining with
  | zero =>
    refine ⟨g, rfl, ?_⟩
    rw [if_neg (by rw [rounds_of_pos hpos]; exact (Nat.succ_ne_zero _).symm)]
    exact h.respLenSent
  | succ n ih =>
    obtain ⟨g₁, hget, hnext⟩ := processGetCur_onItsWay h hpos
    have hrun : g.run serve (List.replicate (n + 1) .getCur)
        = g₁.run serve (List.replicate n .getCur) := by
      rw [List.replicate_succ, Gadget.run, Gadget.process, hget]
      rfl
    rw [rounds_of_pos hpos] at hn ⊢
    rw [hrun]
    split at hnext
    · next hlast =>
      have hnone : rounds (remaining - packetSize remaining) = 0 := by rw [hlast]; rfl
      obtain rfl : n = 0 := by omega
      exact ⟨g₁, rfl, by rw [if_pos (by omega)]; exact hnext⟩
    · next hmore =>
      obtain ⟨g', hlast, hg'⟩ := ih hnext.1 (Nat.pos_of_ne_zero hmore) (by omega)
      refine ⟨g', hlast, ?_⟩
      rw [hnext.2] at hg'
      simpa only [Nat.add_right_cancel_iff] using hg'

/-- One transfer more. The gadget's answer does not depend on what the host asks
for. -/
theorem run_getCur (serve : Server σ) {r : Response} (hget : processGetCur g = some (r, g')) :
    g.run serve [.getCur] = some g' := by
  rw [Gadget.run, Gadget.process, hget]
  rfl

/-- A packet of a response. -/
theorem does_getProperty (serve : Server σ) (hk : kernels.Fills) {r : Response}
    (hget : processGetCur g = some (r, g')) (hpos : 0 < r.length) :
    Does serve (uvcExUnitGetProperty kernels) g [.getCur]
      (Packet.zeros.overwrite (r.data.bytes.take r.length)) := by
  have hfilled : Does serve (match kernels.get r.data r.length with
      | some packet => pure packet
      | none => throw (.status .genericError)) g' []
      (Packet.zeros.overwrite (r.data.bytes.take r.length)) := by
    rw [hk _ _ hpos]
    exact .pure _ _
  exact (does_transfer hget (run_getCur serve hget)).bind (run_getCur serve hget) hfilled

/-- **The loop of `uvcExUnitGetResponse`** gets the rest of a response, and puts
it behind what it has got so far. By induction on the rounds, of which there are
enough: each gets a byte at least. -/
theorem does_readResponse (serve : Server σ) (hk : kernels.Fills) {n remaining : ℕ}
    (h : g.OnItsWay response remaining) (hpos : 0 < remaining) (hn : remaining ≤ n)
    (front : Bytes) :
    Does serve (readResponse kernels n remaining front) g
      (List.replicate (rounds remaining) .getCur)
      (front ++ response.drop (response.length - remaining)) := by
  induction n generalizing g remaining front with
  | zero => omega
  | succ n ih =>
    obtain ⟨g₁, hget, hnext⟩ := processGetCur_onItsWay h hpos
    have hpacket := packetSize_eq remaining
    have hsent := h.sent
    have hsize : packetSize remaining ≤ remaining ∧ 0 < packetSize remaining
        ∧ packetSize remaining ≤ maxPacketSize := by
      unfold maxPacketSize at hpacket ⊢
      omega
    have hrun := run_getCur serve hget
    -- the bytes of the packet that are in use come through
    have hslice : (slice (response.length - remaining) (packetSize remaining) response).length
        = packetSize remaining := by
      rw [slice, List.length_take, List.length_drop]
      omega
    have hbytes : ∀ bs : Bytes, bs.length = packetSize remaining →
        (Packet.zeros.overwrite bs).bytes.take (packetSize remaining) = bs := fun bs hbs => by
      rw [Packet.overwrite]
      dsimp only
      rw [List.take_take, Nat.min_eq_left hsize.2.2, ← hbs, List.take_left]
    have hfirst := does_getProperty serve hk hget hsize.2.1
    rw [hbytes _ hslice] at hfirst
    have hrest : response.drop (response.length - remaining)
        = slice (response.length - remaining) (packetSize remaining) response
          ++ response.drop (response.length - (remaining - packetSize remaining)) := by
      have hplace : response.length - (remaining - packetSize remaining)
          = response.length - remaining + packetSize remaining := by omega
      rw [slice, hplace, ← List.drop_drop, List.take_append_drop]
    rw [readResponse, if_neg hpos.ne', rounds_of_pos hpos, List.replicate_succ, hrest,
      ← List.append_assoc]
    refine hfirst.bind hrun ?_
    rw [hbytes _ hslice]
    split at hnext
    · next hlast =>
      have hend : response.drop (response.length - 0) = [] := by
        rw [Nat.sub_zero, List.drop_length]
      rw [hlast, hend, List.append_nil]
      cases n <;> exact .pure _ _
    · next hmore => exact ih hnext.1 (Nat.pos_of_ne_zero hmore) (by omega) _

/-- The size of a response comes through, although a short response is sent with
fewer bytes than the size has: what is missing are zeros, as the kernels fill
them in. -/
theorem filled_size (hne : response ≠ []) (hlen : response.length < 2 ^ 31) :
    (get64 0 (Packet.zeros.overwrite ((Packet.zeros.overwrite
      (le64 (UInt64.ofNat response.length))).bytes.take response.length)).bytes).toNat
      = response.length := by
  have hsize : (UInt64.ofNat response.length).toNat = response.length :=
    UInt64.toNat_ofNat_of_lt' (hlen.trans (by decide))
  have hpos : 0 < response.length := List.length_pos_of_ne_nil hne
  have hbytes : (Packet.zeros.overwrite (le64 (UInt64.ofNat response.length))).bytes
      = le64 (UInt64.ofNat response.length) ++ List.replicate 52 0 := rfl
  -- a short response has a size of one byte, and zeros behind it
  have hfilled : Packet.zeros.overwrite ((Packet.zeros.overwrite
      (le64 (UInt64.ofNat response.length))).bytes.take response.length)
      = Packet.zeros.overwrite (le64 (UInt64.ofNat response.length)) := by
    refine Packet.ext ?_
    by_cases hshort : response.length < maxPacketSize
    · obtain ⟨k, hk⟩ := Nat.exists_eq_add_one_of_ne_zero hpos.ne'
      have hone : (Packet.zeros.overwrite (le64 (UInt64.ofNat response.length))).bytes
          = UInt8.ofNat response.length :: List.replicate 59 0 := by
        have hdiv : response.length / 256 = 0 :=
          Nat.div_eq_of_lt (hshort.trans (by decide))
        rw [hbytes, le64, leBytes, hsize, hdiv]
        rfl
      unfold maxPacketSize at hshort
      rw [hone, hk, List.take_succ_cons, List.take_replicate, Nat.min_eq_left (by omega)]
      show (UInt8.ofNat (k + 1) :: List.replicate k 0
        ++ (List.replicate 60 (0 : UInt8)).drop (List.replicate k (0 : UInt8)).length.succ).take 60
          = _
      rw [List.length_replicate, List.drop_replicate, List.cons_append,
        List.replicate_append_replicate, List.take_succ_cons, List.take_replicate]
      congr 2
      omega
    · rw [List.take_of_length_le (by rw [Packet.length_bytes]; omega)]
      show ((Packet.zeros.overwrite _).bytes ++ _).take maxPacketSize = _
      rw [List.take_left' (Packet.length_bytes _)]
  rw [hfilled, hbytes, get64_le64, hsize]

/-- **`uvcExUnitGetResponse` gets the response**, of which nothing was sent. -/
theorem does_getResponse (hk : kernels.Fills) (hflag : g.respLenSent = false)
    (hlen : g.outBuf.length < 2 ^ 31) :
    Does serve (uvcExUnitGetResponse kernels) g (List.replicate (transfers g.outBuf) .getCur)
      g.outBuf := by
  by_cases hne : g.outBuf = []
  · have hget : processGetCur g = some (⟨.zeros, 1⟩, g) := by
      rw [processGetCur, hne]
      rfl
    have hsize : (get64 0 (Packet.zeros.overwrite (Packet.zeros.bytes.take 1)).bytes).toNat = 0 :=
      by decide
    have hfirst := does_getProperty serve hk hget Nat.one_pos
    rw [hne, uvcExUnitGetResponse]
    show Does serve _ g ([.getCur] ++ []) []
    refine hfirst.bind (run_getCur serve hget) ?_
    dsimp only
    rw [hsize]
    exact .pure _ _
  · have hpos : 0 < g.outBuf.length := List.length_pos_of_ne_nil hne
    have hget : processGetCur g = some (⟨Packet.zeros.overwrite
        (le64 (UInt64.ofNat g.outBuf.length)), g.outBuf.length⟩,
        { g with respLenSent := true, sent := 0 }) := by
      rw [processGetCur, if_neg hpos.ne', hflag]
      rfl
    have hfirst := does_getProperty serve hk hget hpos
    rw [transfers, List.replicate_succ, uvcExUnitGetResponse]
    refine hfirst.bind (run_getCur serve hget) ?_
    dsimp only
    rw [filled_size hne hlen]
    have hloop := does_readResponse serve hk
      (⟨rfl, rfl, Nat.zero_add _⟩ : Gadget.OnItsWay { g with respLenSent := true, sent := 0 }
        g.outBuf g.outBuf.length) hpos (Nat.le_refl _) []
    rwa [Nat.sub_self, List.drop_zero, List.nil_append] at hloop

end Fetching

/-! ## The packets of an operation, and those before it is over

Here the operation is broken off. A front of the packets of a request leaves the
gadget waiting for the rest of it, and a front of those of a response leaves the
rest to be sent; in neither state does it take the next operation for what it
is. -/

section Parts

variable {σ : Type} {g : Gadget σ}

/-- Between two operations: no part of a request has been read, and no part of a
response has been sent. -/
structure Gadget.Ready (g : Gadget σ) : Prop where
  within : g.Within
  idle : g.reader = .idle
  unsent : g.respLenSent = false

/-- A request with a size that a byte holds. -/
def Sendable (request : Bytes) : Prop := request ≠ [] ∧ request.length < 256

/-- Packets of requests, one after the other. -/
theorem run_packets (serve : Server σ) (hg : g.Within) (ps : List Packet) :
    ∃ g', g.run serve (ps.map .request) = some g' ∧ g'.Within
      ∧ g'.reader = (g.reader.run announcedSize (ps.map Packet.bytes)).1
      ∧ g'.served = serve.handle g.served (g.reader.run announcedSize (ps.map Packet.bytes)).2
      ∧ g'.respLenSent = g.respLenSent := by
  induction ps generalizing g with
  | nil => exact ⟨g, rfl, hg, rfl, rfl, rfl⟩
  | cons p ps ih =>
    obtain ⟨g₁, hdata, hwithin, hreader, hserved, hflag, -⟩ := processData_eq serve hg p
    obtain ⟨g', hrun, hwithin', hreader', hserved', hflag'⟩ := ih hwithin
    refine ⟨g', ?_, hwithin', ?_, ?_, hflag'.trans hflag⟩
    · rw [List.map_cons, Gadget.run, Gadget.process, hdata]
      exact hrun
    · rw [hreader', hreader]
      rfl
    · rw [hserved', hserved, hreader, List.map_cons, Reader.run, Server.handle, Server.handle,
        Server.handle, List.foldl_append]

/-- A reader has the request after all of its packets, and not before. It takes
the size of the request from the first of them, and counts the others down. -/
theorem run_take_requestPackets (stack : Stack) {request : Bytes} (hr : Sendable request) (n : ℕ)
    (hn : n < (requestPackets stack request).length) :
    ∃ got, Reader.idle.run announcedSize
        (((requestPackets stack request).take (n + 1)).map Packet.bytes)
      = if n + 1 = (requestPackets stack request).length then (.idle, [request])
        else (.reading request.length got, []) := by
  have hpacked := packed_dataPackets stack.packet (Nat.le_refl request.length)
  have hsize := (announcedSize_header stack request).trans (Nat.mod_eq_of_lt hr.2)
  rw [requestPackets] at hn ⊢
  rw [List.length_cons] at hn ⊢
  rw [List.take_succ_cons, List.map_cons]
  by_cases hall : n = (dataPackets request.length stack.packet request).length
  · refine ⟨[], ?_⟩
    rw [if_pos (congrArg (· + 1) hall), hall, List.take_length]
    exact (Reader.run_send_iff hpacked _).mpr ⟨hsize, hr.1⟩
  · rw [← List.take_append_drop n (dataPackets ..), List.map_append] at hpacked
    refine ⟨(((dataPackets request.length stack.packet request).take n).map
      Packet.bytes).flatten, ?_⟩
    rw [if_neg fun h => hall (Nat.succ_injective h)]
    refine Reader.run_part hpacked (fun hnil => ?_) hsize
    have hdrop := congrArg List.length hnil
    rw [List.length_map, List.length_drop, List.length_nil] at hdrop
    omega

/-- **A part of a request's packets** leaves the gadget within the request, and
all of them have it handled. So the gadget is between two operations if no
packet has reached it or all have, and else it takes the packets of the next
request for the rest of this one. -/
theorem run_requestPackets (serve : Server σ) (hg : g.Ready) (stack : Stack) {request : Bytes}
    (hr : Sendable request) {n : ℕ} (hn : n ≤ (requestPackets stack request).length) :
    ∃ g', g.run serve (((requestPackets stack request).take n).map .request) = some g'
      ∧ g'.respLenSent = false
      ∧ (g'.Ready ↔ n = 0 ∨ n = (requestPackets stack request).length)
      ∧ (n = 0 → g' = g)
      ∧ (n = (requestPackets stack request).length →
        g'.served = serve g.sdk (cString request)) := by
  obtain ⟨g', hrun, hwithin, hreader, hserved, hflag⟩ :=
    run_packets serve hg.within ((requestPackets stack request).take n)
  rw [hg.unsent] at hflag
  rw [hg.idle] at hreader hserved
  have hready : g'.Ready ↔ g'.reader = .idle := ⟨fun h => h.idle, fun h => ⟨hwithin, h, hflag⟩⟩
  refine ⟨g', hrun, hflag, ?_⟩
  rw [hready]
  cases n with
  | zero =>
    refine ⟨iff_of_true hreader (.inl rfl), fun _ => (Option.some.inj hrun).symm, fun h => ?_⟩
    cases h
  | succ n =>
    obtain ⟨got, hmessage⟩ := run_take_requestPackets stack hr n hn
    rw [hmessage] at hreader hserved
    by_cases hall : n + 1 = (requestPackets stack request).length
    · rw [if_pos hall] at hreader hserved
      exact ⟨iff_of_true hreader (.inr hall), fun h => Nat.noConfusion h, fun _ => hserved⟩
    · rw [if_neg hall] at hreader
      refine ⟨iff_of_false (by simp [hreader]) (by omega), fun h => Nat.noConfusion h,
        fun h => absurd h hall⟩

/-- A response does not touch requests. -/
theorem run_getCurs (serve : Server σ) (hg : g.Within) {g' : Gadget σ} {n : ℕ}
    (hrun : g.run serve (List.replicate n .getCur) = some g') :
    g'.Within ∧ g'.reader = g.reader ∧ g'.sdk = g.sdk := by
  have hpackets : packets (List.replicate n .getCur) = [] :=
    List.filterMap_eq_nil_iff.mpr fun e he => by rw [List.eq_of_mem_replicate he]; rfl
  obtain ⟨hwithin, hreader, hsdk⟩ := (run_requests serve hg _).1 g' hrun
  rw [Gadget.messages, hpackets] at hsdk
  rw [hpackets] at hreader
  exact ⟨hwithin, hreader, hsdk⟩

/-- **A part of a response** leaves the gadget within it, so that the next
operation gets the rest of this response. -/
theorem run_responses (serve : Server σ) (hg : g.Ready) {n : ℕ} (hpos : 0 < n)
    (hn : n ≤ transfers g.outBuf) :
    ∃ g', g.run serve (List.replicate n .getCur) = some g' ∧ g'.sdk = g.sdk
      ∧ (g'.Ready ↔ n = transfers g.outBuf) := by
  obtain ⟨g', hrun, hflag⟩ : ∃ g', g.run serve (List.replicate n .getCur) = some g'
      ∧ (g'.respLenSent = false ↔ n = transfers g.outBuf) := by
    obtain ⟨n, rfl⟩ := Nat.exists_eq_add_one_of_ne_zero hpos.ne'
    unfold transfers at hn ⊢
    rw [List.replicate_succ]
    by_cases hne : g.outBuf.length = 0
    · have hget : processGetCur g = some (⟨.zeros, 1⟩, g) := if_pos hne
      have hnone : rounds g.outBuf.length = 0 := by rw [hne]; rfl
      obtain rfl : n = 0 := by omega
      exact ⟨g, run_getCur serve hget, iff_of_true hg.unsent (by omega)⟩
    · have hget : processGetCur g = some (⟨Packet.zeros.overwrite
          (le64 (UInt64.ofNat g.outBuf.length)), g.outBuf.length⟩,
          { g with respLenSent := true, sent := 0 }) := by
        rw [processGetCur, if_neg hne, hg.unsent]
        rfl
      obtain ⟨g', hrun, hg'⟩ := run_onItsWay serve
        (⟨rfl, rfl, Nat.zero_add _⟩ : Gadget.OnItsWay { g with respLenSent := true, sent := 0 }
          g.outBuf g.outBuf.length) (Nat.pos_of_ne_zero hne) (Nat.le_of_succ_le_succ hn)
      refine ⟨g', ?_, ?_⟩
      · exact (Gadget.run_append (run_getCur serve hget)).trans hrun
      · rw [Nat.add_right_cancel_iff]
        split at hg'
        · next hall => exact iff_of_true (by rw [hg']; rfl) hall
        · next hpart => exact iff_of_false (by rw [hg']; simp) hpart
  obtain ⟨hwithin, hreader, hsdk⟩ := run_getCurs serve hg.within hrun
  refine ⟨g', hrun, hsdk, ?_⟩
  rw [← hflag]
  exact ⟨fun h => h.unsent, fun h => ⟨hwithin, hreader.trans hg.idle, h⟩⟩

end Parts

end Usb
