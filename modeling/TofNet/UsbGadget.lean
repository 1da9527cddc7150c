import TofNet.PacketStream
import TofNet.Protocol

/-!
# The USB gadget

Over USB, requests and responses are strings that go through the control
endpoint in packets of 60 bytes. The gadget keeps what it knows of them in
static variables: `uvc_events_process_data` puts together a request and has it
handled, and `uvc_events_process_extension_unit` gives away the response piece
by piece.

The gadget takes the size of a request from one byte, and hands the request on
as a string that a zero ends. But for that, it is a reader of a stream of
packets (`run_requests`), whatever a host sends, and never writes outside of
its buffer. It reads outside of a response if the response is replaced by a
shorter one while it is on its way (`run_orderly`).

A host that is no friend may send any packets in any order, so that the results
are about all runs of the gadget. That it writes within its buffer is an
invariant of the reading (`Gadget.Within`), and that it reads within a response
one of the sending (`Gadget.Ahead`). The second depends on the server, whose
responses have whatever length they have.
-/

namespace Usb

open PacketStream

/-! ## Packets

Every control transfer has 60 bytes, whether or not all of them are in use. -/

/-- `MAX_PACKET_SIZE`, and `MAX_BUF_SIZE` of the host. -/
def maxPacketSize : ℕ := 60

/-- The bytes of a packet that are in use, with so many left. -/
def packetSize (remaining : ℕ) : ℕ :=
  if remaining > maxPacketSize then maxPacketSize else remaining

/-- The smaller of the two. -/
theorem packetSize_eq (remaining : ℕ) : packetSize remaining = min remaining maxPacketSize := by
  unfold packetSize
  split <;> omega

/-- The data of a control transfer. -/
@[ext]
structure Packet where
  bytes : Bytes
  length_bytes : bytes.length = maxPacketSize
  deriving DecidableEq

namespace Packet

/-- The packet with some bytes in front. -/
def overwrite (p : Packet) (bs : Bytes) : Packet where
  bytes := (bs ++ p.bytes.drop bs.length).take maxPacketSize
  length_bytes := by
    rw [List.length_take, List.length_append, List.length_drop, p.length_bytes]
    omega

/-- A packet of zeros. -/
def zeros : Packet where
  bytes := List.replicate maxPacketSize 0
  length_bytes := List.length_replicate

end Packet

/-! ## Requests

The first packet of a request has its size, of which one byte is read, and the
others its bytes. The request is handled with the last of them. -/

/-- What stands behind the gadget: a request is handled, and there is a
response. -/
abbrev Server (σ : Type) := σ → Bytes → σ × Bytes

/-- The static variables, and the buffers of a request and of its response;
`client_req_bytes_read` is the length of `inData`. -/
structure Gadget (σ : Type) where
  /-- The server behind the gadget. -/
  sdk : σ
  /-- The size of the request is known. -/
  blobLenRead : Bool := false
  /-- That size. -/
  inLen : ℕ := 0
  /-- What has come of the request. -/
  inData : Bytes := []
  /-- The response. -/
  outBuf : Bytes := []
  /-- Its size was sent. -/
  respLenSent : Bool := false
  /-- How much of it was sent. -/
  sent : ℕ := 0
  deriving DecidableEq

/-- What is parsed of a request: its bytes, up to a zero. -/
def cString (bs : Bytes) : Bytes := bs.takeWhile (· ≠ 0)

section Device

variable {σ : Type} (serve : Server σ)

/-- `handleClientRequest`. -/
def handleClientRequest (g : Gadget σ) : Gadget σ :=
  let answer := serve g.sdk (cString g.inData)
  { g with sdk := answer.1, outBuf := answer.2 }

/-- **`uvc_events_process_data`**, of the extension unit. It has no result where
it writes outside of its buffer. -/
def processData (g : Gadget σ) (data : Packet) : Option (Gadget σ) :=
  if g.blobLenRead then
    let remaining := g.inLen - g.inData.length
    if g.inLen < g.inData.length + packetSize remaining then none
    else
      let g := { g with inData := g.inData ++ data.bytes.take (packetSize remaining) }
      if remaining - packetSize remaining = 0 then
        some { handleClientRequest serve g with blobLenRead := false, inLen := 0, inData := [] }
      else some g
  else some { g with inLen := (data.bytes.getD 0 0).toNat, inData := [], blobLenRead := true }

/-! ## Responses

The first packet of a response has its length, and the others its bytes, the
last one filled with zeros. Without a response there is a packet of zeros with a
length of one. -/

/-- `resp.data` and `resp.length`. -/
structure Response where
  data : Packet
  length : ℕ
  deriving DecidableEq

/-- **`uvc_events_process_extension_unit`**, of `UVC_GET_CUR`. It has no result
where it reads outside of the response. -/
def processGetCur (g : Gadget σ) : Option (Response × Gadget σ) :=
  if g.outBuf.length = 0 then some (⟨.zeros, 1⟩, g)
  else if g.respLenSent then
    if g.outBuf.length < g.sent then none
    else
      let n := packetSize (g.outBuf.length - g.sent)
      let response := ⟨Packet.zeros.overwrite (slice g.sent n g.outBuf), n⟩
      if g.sent + n = g.outBuf.length then
        some (response, { g with outBuf := [], respLenSent := false, sent := g.sent + n })
      else some (response, { g with sent := g.sent + n })
  else
    some (⟨Packet.zeros.overwrite (le64 (UInt64.ofNat g.outBuf.length)), g.outBuf.length⟩,
      { g with respLenSent := true, sent := 0 })

/-- What a host asks of the gadget. -/
inductive Event
  | request (data : Packet)
  | getCur
  deriving DecidableEq

/-- An event, and the response to it if there is one. -/
def Gadget.process (g : Gadget σ) : Event → Option (Gadget σ × Option Response)
  | .request data => (processData serve g data).map fun g => (g, none)
  | .getCur => (processGetCur g).map fun (response, g) => (g, some response)

/-- Event after event. -/
def Gadget.run (g : Gadget σ) : List Event → Option (Gadget σ)
  | [] => some g
  | e :: es => do
    let (g, _) ← g.process serve e
    g.run es

end Device

/-! ## Requests are read from a stream

The static variables are a state of a reader of packets (`PacketStream`), and
each packet does to the one what it does to the other. So what the reader makes
of a stream is what the gadget handles. -/

/-- The size of a request, as the gadget reads it. -/
def announcedSize (bs : Bytes) : ℕ := (bs.getD 0 0).toNat

/-- Where the gadget is in the stream of packets. -/
def Gadget.reader {σ : Type} (g : Gadget σ) : Reader UInt8 :=
  if g.blobLenRead then .reading g.inLen g.inData else .idle

/-- No more of a request is read than there is room for. -/
def Gadget.Within {σ : Type} (g : Gadget σ) : Prop := g.inData.length ≤ g.inLen

/-- Requests are handled, and the last response is kept. -/
def Server.handle {σ : Type} (serve : Server σ) (s : σ × Bytes) (messages : List Bytes) :
    σ × Bytes :=
  messages.foldl (fun s m => serve s.1 (cString m)) s

section Requests

variable {σ : Type} {serve : Server σ} {g g' : Gadget σ}

/-- What the server has come to. -/
def Gadget.served (g : Gadget σ) : σ × Bytes := (g.sdk, g.outBuf)

/-- **A packet of a request** does to the gadget what it does to a reader, and
never goes outside of the buffer. -/
theorem processData_eq (serve : Server σ) (hg : g.Within) (data : Packet) :
    ∃ g', processData serve g data = some g' ∧ g'.Within
      ∧ g'.reader = (g.reader.step announcedSize data.bytes).1
      ∧ g'.served = serve.handle g.served (g.reader.step announcedSize data.bytes).2.toList
      ∧ g'.respLenSent = g.respLenSent ∧ g'.sent = g.sent := by
  have hlength := data.length_bytes
  unfold Gadget.Within at hg
  rw [processData, Gadget.reader]
  cases g.blobLenRead with
  | false =>
    exact ⟨_, rfl, Nat.zero_le _, rfl, rfl, rfl, rfl⟩
  | true =>
    rw [if_pos rfl, if_pos rfl, Reader.step, hlength]
    have hpacket := packetSize_eq (g.inLen - g.inData.length)
    by_cases hmore : g.inData.length + maxPacketSize < g.inLen
    · have hsize : packetSize (g.inLen - g.inData.length) = maxPacketSize := by omega
      have hall : data.bytes.take maxPacketSize = data.bytes := by rw [← hlength, List.take_length]
      rw [if_pos hmore]
      dsimp only
      rw [hsize, if_neg (by omega), if_neg (by omega), hall]
      refine ⟨_, rfl, ?_, rfl, rfl, rfl, rfl⟩
      show (g.inData ++ data.bytes).length ≤ g.inLen
      rw [List.length_append, hlength]
      omega
    · have hsize : packetSize (g.inLen - g.inData.length) = g.inLen - g.inData.length := by omega
      have hmessage : (g.inData ++ data.bytes).take g.inLen
          = g.inData ++ data.bytes.take (g.inLen - g.inData.length) := by
        rw [List.take_append, List.take_of_length_le hg]
      rw [if_neg hmore]
      dsimp only
      rw [hsize, if_neg (by omega), if_pos (by omega), hmessage]
      exact ⟨_, rfl, Nat.le_refl 0, rfl, rfl, rfl, rfl⟩

/-- A response does nothing to the request that is being read. -/
theorem processGetCur_eq {response : Response} (h : processGetCur g = some (response, g')) :
    g'.reader = g.reader ∧ g'.inLen = g.inLen ∧ g'.inData = g.inData ∧ g'.sdk = g.sdk := by
  rw [processGetCur] at h
  split at h
  · cases h
    exact ⟨rfl, rfl, rfl, rfl⟩
  · split at h
    · split at h
      · cases h
      · dsimp only at h
        split at h <;>
        · cases h
          exact ⟨rfl, rfl, rfl, rfl⟩
    · cases h
      exact ⟨rfl, rfl, rfl, rfl⟩

/-- The packet of a request. -/
def Event.packet : Event → Option Bytes
  | .request data => some data.bytes
  | .getCur => none

/-- The packets of the requests among the events. -/
def packets (es : List Event) : List Bytes := es.filterMap Event.packet

/-- The messages of a stream that the gadget reads on. -/
def Gadget.messages (g : Gadget σ) (es : List Event) : List Bytes :=
  (g.reader.run announcedSize (packets es)).2

/-- What the SDK has come to after some messages. -/
def Server.after (serve : Server σ) (sdk : σ) (messages : List Bytes) : σ :=
  messages.foldl (fun sdk m => (serve sdk (cString m)).1) sdk

/-- What the SDK comes to depends on the requests alone. -/
theorem Server.handle_fst (s : σ × Bytes) (messages : List Bytes) :
    (serve.handle s messages).1 = serve.after s.1 messages := by
  induction messages generalizing s with
  | nil => rfl
  | cons m messages ih => exact ih (serve s.1 (cString m))

/-- **An event** does to the request that is read what its packet does, if it
has one; and only a response can go outside. -/
theorem process_eq (serve : Server σ) (hg : g.Within) (e : Event) :
    (∀ g' response, g.process serve e = some (g', response) → g'.Within
        ∧ g'.reader = (g.reader.run announcedSize e.packet.toList).1
        ∧ g'.sdk = serve.after g.sdk (g.reader.run announcedSize e.packet.toList).2)
      ∧ (g.process serve e = none → e = .getCur ∧ processGetCur g = none) := by
  cases e with
  | request data =>
    obtain ⟨g', hdata, hwithin, hreader, hserved, -, -⟩ := processData_eq serve hg data
    have hsdk : g'.sdk = serve.after g.sdk (g.reader.step announcedSize data.bytes).2.toList :=
      (congrArg Prod.fst hserved).trans (Server.handle_fst _ _)
    rw [Gadget.process, hdata]
    refine ⟨?_, fun h => by cases h⟩
    rintro _ _ ⟨⟩
    refine ⟨hwithin, hreader, hsdk.trans ?_⟩
    rw [Event.packet, Option.toList_some, Reader.run, Reader.run]
    dsimp only
    rw [List.append_nil]
  | getCur =>
    rw [Gadget.process]
    refine ⟨?_, fun h => ⟨rfl, Option.map_eq_none_iff.mp h⟩⟩
    intro g' response h
    obtain ⟨⟨r, g₁⟩, hget, heq⟩ := Option.map_eq_some_iff.mp h
    obtain ⟨hreader, hlen, hdata, hsdk⟩ := processGetCur_eq hget
    cases heq
    refine ⟨?_, hreader, hsdk⟩
    unfold Gadget.Within
    rw [hlen, hdata]
    exact hg

/-- **The gadget reads a stream.** Whatever a host sends, in whatever order: the
requests that are handled are the messages of the packets, and nothing is
written outside of the buffer of a request – a run goes wrong only where a
response is read. -/
theorem run_requests (serve : Server σ) (hg : g.Within) (es : List Event) :
    (∀ g', g.run serve es = some g' → g'.Within
        ∧ g'.reader = (g.reader.run announcedSize (packets es)).1
        ∧ g'.sdk = serve.after g.sdk (g.messages es))
      ∧ (g.run serve es = none → ∃ before behind g₁, es = before ++ .getCur :: behind
        ∧ g.run serve before = some g₁ ∧ processGetCur g₁ = none) := by
  induction es generalizing g with
  | nil =>
    refine ⟨?_, fun h => by cases h⟩
    rintro _ ⟨⟩
    exact ⟨hg, rfl, rfl⟩
  | cons e es ih =>
    obtain ⟨hsome, hnone⟩ := process_eq serve hg e
    have hpackets : packets (e :: es) = e.packet.toList ++ packets es := by
      cases e <;> rfl
    rw [Gadget.messages, hpackets, Reader.run_append, Gadget.run]
    cases hstep : g.process serve e with
    | none =>
      obtain ⟨rfl, hget⟩ := hnone hstep
      refine ⟨fun g' h => ?_, fun _ => ⟨[], es, g, rfl, rfl, hget⟩⟩
      cases h
    | some next =>
      obtain ⟨g₁, response⟩ := next
      obtain ⟨hwithin, hreader, hsdk⟩ := hsome g₁ response hstep
      obtain ⟨ihsome, ihnone⟩ := ih hwithin
      constructor
      · intro g' h
        obtain ⟨hwithin', hreader', hsdk'⟩ := ihsome g' h
        rw [hreader] at hreader'
        refine ⟨hwithin', hreader', ?_⟩
        rw [hsdk', hsdk, Gadget.messages, hreader, Server.after, Server.after, Server.after,
          List.foldl_append]
      · intro h
        obtain ⟨before, behind, g₂, rfl, hbefore, hget⟩ := ihnone h
        refine ⟨e :: before, behind, g₂, rfl, ?_, hget⟩
        rw [Gadget.run, hstep]
        exact hbefore

end Requests

/-! ## Responses on their way

A response is replaced whenever a request is handled. If it is shorter than what
was sent of the one before, the next packet would be read behind its end; as
long as this does not happen, nothing does. -/

section Responses

variable {σ : Type} {serve : Server σ} {g g' : Gadget σ}

/-- No more of a response was sent than there is. -/
def Gadget.Ahead (g : Gadget σ) : Prop := g.respLenSent = true → g.sent ≤ g.outBuf.length

/-- No request is completed whose response is shorter than what was sent of the
last one, while that is on its way. -/
def Orderly (serve : Server σ) : Gadget σ → List Event → Prop
  | _, [] => True
  | g, e :: es => ∀ g' response, g.process serve e = some (g', response) →
    (e ≠ .getCur → g'.respLenSent = true → g.outBuf ≠ g'.outBuf → g.sent ≤ g'.outBuf.length)
      ∧ Orderly serve g' es

/-- A response stays ahead of what is sent of it. -/
theorem ahead_getCur (hg : g.Ahead) :
    ∃ response g', processGetCur g = some (response, g') ∧ g'.Ahead := by
  rw [processGetCur]
  by_cases hnone : g.outBuf.length = 0
  · rw [if_pos hnone]
    exact ⟨_, _, rfl, hg⟩
  · rw [if_neg hnone]
    by_cases hsent : g.respLenSent = true
    · have hle := hg hsent
      rw [if_pos hsent, if_neg (Nat.not_lt.mpr hle)]
      dsimp only
      split
      · exact ⟨_, _, rfl, fun h => Bool.noConfusion h⟩
      · refine ⟨_, _, rfl, fun _ => ?_⟩
        have hpacket := packetSize_eq (g.outBuf.length - g.sent)
        dsimp only
        omega
    · rw [if_neg hsent]
      exact ⟨_, _, rfl, fun _ => Nat.zero_le _⟩

/-- **A run in which no response is replaced by one that is too short does not
go wrong.** -/
theorem run_orderly (hg : g.Within) (hahead : g.Ahead) (es : List Event)
    (h : Orderly serve g es) : ∃ g', g.run serve es = some g' := by
  induction es generalizing g with
  | nil => exact ⟨g, rfl⟩
  | cons e es ih =>
    rw [Gadget.run]
    cases e with
    | getCur =>
      obtain ⟨response, g', hget, hahead'⟩ := ahead_getCur hahead
      have hstep : g.process serve .getCur = some (g', some response) := by
        rw [Gadget.process, hget]
        rfl
      rw [hstep]
      exact ih ((process_eq serve hg _).1 g' _ hstep).1 hahead' (h g' _ hstep).2
    | request data =>
      obtain ⟨g', hdata, hwithin, -, -, hflag, hsent⟩ := processData_eq serve hg data
      have hstep : g.process serve (.request data) = some (g', none) := by
        rw [Gadget.process, hdata]
        rfl
      obtain ⟨hshort, hrest⟩ := h g' _ hstep
      have hahead' : g'.Ahead := by
        intro hon
        rw [hsent]
        by_cases hsame : g.outBuf = g'.outBuf
        · rw [← hsame]
          exact hahead (hflag ▸ hon)
        · exact hshort (by simp) hon hsame
      rw [hstep]
      exact ih hwithin hahead' hrest

/-- **The gadget, over any run from its start.** The requests that are handled
are the messages of the stream of packets; nothing goes wrong but where a
response is read; and nothing at all, if no response is replaced by one that is
too short.

The events are the control transfers in any order that a host can send them in,
so that a response may be asked for before there is one, and a request sent
while the last response has not been read to its end. The state of the SDK
behind the gadget is a parameter, and what it answers may be anything. -/
theorem gadget_reads_stream (serve : Server σ) (sdk : σ) (es : List Event) :
    (∀ g', Gadget.run serve { sdk := sdk } es = some g' →
        g'.reader = (Reader.idle.run announcedSize (packets es)).1
          ∧ g'.sdk = serve.after sdk (Reader.idle.run announcedSize (packets es)).2)
      ∧ (Gadget.run serve { sdk := sdk } es = none → ∃ before behind g₁,
        es = before ++ .getCur :: behind ∧ Gadget.run serve { sdk := sdk } before = some g₁
          ∧ processGetCur g₁ = none)
      ∧ (Orderly serve { sdk := sdk } es → ∃ g', Gadget.run serve { sdk := sdk } es = some g') := by
  have hwithin : Gadget.Within ({ sdk := sdk } : Gadget σ) := Nat.le_refl 0
  obtain ⟨hsome, hnone⟩ := run_requests serve hwithin es
  exact ⟨fun g' h => (hsome g' h).2, hnone, run_orderly hwithin (fun h => Bool.noConfusion h) es⟩

end Responses

end Usb
