import TofNet.Socket

/-!
# Framing of the byte stream

`Socket::send_message` and `Socket::recv_message`. A frame is
`pack_message` of a message, the stream between the two machines is the
concatenation of frames, and the receiver has nothing but the length in each
header to find the next one. The module shows that this is enough: for any
splitting of the transfers, successive calls return the messages sent, each
call stops at the end of its own frame, and a stream cut inside a frame makes
the call throw.

The arguments are the sequencing rules of `Recv`; the loops themselves are
not looked at again.

The receiver may be given the stream in any pieces. For this, `Recv.Yields` says
that a program of reads returns a value and takes exactly a given list of bytes
from the front of the stream, whatever lies behind it; such programs are put
together by putting the lists together. A frame is then a header and a payload,
and a stream of frames is their concatenation.

The receiver may be given the stream in any pieces. For this, `Recv.Yields` says
that a program of reads returns a value and takes exactly a given list of bytes
from the front of the stream, whatever lies behind it; such programs are put
together by putting the lists together. A frame is then a header and a payload,
and a stream of frames is their concatenation.
-/

/-- The frames of a list of messages, one after the other. -/
def frames (ms : List Message) : Bytes := (ms.map packMessage).flatten

@[simp] theorem frames_nil : frames [] = [] := rfl

@[simp] theorem frames_cons (m : Message) (ms : List Message) :
    frames (m :: ms) = packMessage m ++ frames ms := rfl

@[simp] theorem frames_append (ms ms' : List Message) :
    frames (ms ++ ms') = frames ms ++ frames ms' := by
  rw [frames, List.map_append, List.flatten_append]
  rfl

/-! ## Sending

A send goes on until all of the frame is taken. On a reliable stream it comes to
that point, and what has been sent then is the frame, and nothing else. The
messages follow each other, as each send ends before the next begins.

A send goes on until all of the frame is taken. On a reliable stream it comes to
that point, and what has been sent then is the frame, and nothing else. The
messages follow each other, as each send ends before the next begins. -/

/-- `Socket::send_message`. -/
def sendMessage (m : Message) (wire : Bytes) (answers : List KernelAnswer) : Sent :=
  sendAll (packMessage m) wire answers

/-- Successive calls of `send_message`, the first throw ending them. -/
def sendMessages : List Message → Bytes → List KernelAnswer → Sent
  | [], wire, answers => ⟨.returned (), wire, answers⟩
  | m :: ms, wire, answers =>
    match sendMessage m wire answers with
    | ⟨.returned (), wire', answers'⟩ => sendMessages ms wire' answers'
    | s => s

/-- **On a reliable stream every message is sent whole.** -/
theorem sendMessages_reliable (ms : List Message) (wire : Bytes)
    {answers : List KernelAnswer} (hrel : Reliable answers)
    (hmov : (frames ms).length ≤ moving answers) :
    ∃ answers', sendMessages ms wire answers
      = ⟨.returned (), wire ++ frames ms, answers'⟩ := by
  induction ms generalizing wire answers with
  | nil => exact ⟨answers, by rw [sendMessages, frames_nil, List.append_nil]⟩
  | cons m ms ih =>
    rw [frames_cons, List.length_append] at hmov
    obtain ⟨as₁, heq₁, hrel₁, hcost₁⟩ :=
      sendAll_reliable (packMessage m) wire hrel (by omega)
    obtain ⟨as₂, heq₂⟩ := ih (wire ++ packMessage m) hrel₁ (by omega)
    refine ⟨as₂, ?_⟩
    rw [sendMessages, sendMessage, heq₁, frames_cons, ← List.append_assoc]
    exact heq₂

/-! ## Receiving

The header is read and tested first, and the length in it is the number of bytes
to be read then. A payload that is longer than `maxPayloadBytes` is refused
before any of it is read, which is where the bound on the messages comes from.

The header is read and tested first, and the length in it is the number of bytes
to be read then. A payload that is longer than `maxPayloadBytes` is refused
before any of it is read, which is where the bound on the messages comes from. -/

/-- `uint64_t(1) << 34`. -/
def maxPayloadBytes : ℕ := 2 ^ 34

/-- What `recv_message` does once it has the header. -/
def recvPayload (header : MessageHeader) : Recv Message :=
  if header.magic ≠ kMagic ∨ header.version ≠ kProtocolVersion then
    Recv.throw "invalid message header"
  else if header.headerBytes ≠ 20 then
    Recv.throw "unsupported message header size"
  else if header.payloadBytes.toNat > maxPayloadBytes then
    Recv.throw "payload too large"
  else if header.payloadBytes.toNat = 0 then
    Recv.pure ⟨⟨header.type⟩, []⟩
  else
    (recvAll header.payloadBytes.toNat).bind (fun payload => Recv.pure ⟨⟨header.type⟩, payload⟩)

/-- `Socket::recv_message`. -/
def recvMessage : Recv Message :=
  (recvAll messageHeaderSize).bind (fun buf => recvPayload (MessageHeader.decode buf))

/-- `n` successive calls of `recv_message`. -/
def recvMessages : ℕ → Recv (List Message)
  | 0 => Recv.pure []
  | n + 1 => recvMessage.bind (fun m => (recvMessages n).bind (fun ms => Recv.pure (m :: ms)))

/-- The header is read from the first twenty bytes only. -/
theorem decode_take (bs : Bytes) :
    MessageHeader.decode (bs.take messageHeaderSize) = MessageHeader.decode bs := by
  have hslice : ∀ off w, off + w ≤ 20 → slice off w (bs.take 20) = slice off w bs := by
    intro off w h
    rw [slice, slice, List.drop_take, List.take_take, Nat.min_eq_left (by omega)]
  show MessageHeader.decode (bs.take 20) = _
  simp only [MessageHeader.decode, get32, get16, get64]
  rw [hslice 0 4 (by norm_num), hslice 4 2 (by norm_num), hslice 6 2 (by norm_num),
    hslice 8 4 (by norm_num), hslice 12 8 (by norm_num)]

/-- A header that passes the tests yields the payload it announces. -/
theorem yields_recvPayload {h : MessageHeader} {payload : Bytes} (hmagic : h.magic = kMagic)
    (hver : h.version = kProtocolVersion) (hsize : h.headerBytes = 20)
    (hlen : h.payloadBytes.toNat = payload.length) (hmax : payload.length ≤ maxPayloadBytes) :
    (recvPayload h).Yields payload ⟨⟨h.type⟩, payload⟩ := by
  rw [recvPayload, if_neg (by simp [hmagic, hver]), if_neg (by simp [hsize]),
    if_neg (by omega)]
  by_cases hz : h.payloadBytes.toNat = 0
  · have hnil : payload = [] := List.length_eq_zero_iff.mp (hlen ▸ hz)
    subst hnil
    rw [if_pos hz]
    exact Recv.yields_pure _
  · rw [if_neg hz, hlen]
    have hbind := (yields_recvAll (w := payload) rfl).bind
      (g := fun payload => Recv.pure (Message.mk ⟨h.type⟩ payload)) (Recv.yields_pure _)
    rwa [List.append_nil] at hbind

/-- **One call returns the message whose frame is in front.** -/
theorem yields_recvMessage {m : Message} (hm : m.payload.length ≤ maxPayloadBytes) :
    recvMessage.Yields (packMessage m) m := by
  have hlt : m.payload.length < 2 ^ 64 := lt_of_le_of_lt hm (by norm_num [maxPayloadBytes])
  refine (yields_recvAll m.header.length_encode).bind ?_
  have hdec : MessageHeader.decode m.header.encode = m.header := by
    have h := MessageHeader.decode_encode_append m.header []
    rwa [List.append_nil] at h
  rw [hdec]
  exact yields_recvPayload m.header_magic m.header_version m.header_headerBytes
    (Message.header_payloadBytes hlt) hm

/-- **Successive calls return the messages in order.** -/
theorem yields_recvMessages {ms : List Message}
    (hms : ∀ m ∈ ms, m.payload.length ≤ maxPayloadBytes) :
    (recvMessages ms.length).Yields (frames ms) ms := by
  induction ms with
  | nil => exact Recv.yields_pure []
  | cons m ms ih =>
    have hrest := ih (fun m' hm' => hms m' (List.mem_cons_of_mem m hm'))
    have hbind := hrest.bind (g := fun ms => Recv.pure (m :: ms)) (Recv.yields_pure _)
    rw [List.append_nil] at hbind
    exact (yields_recvMessage (hms m List.mem_cons_self)).bind hbind

/-- **A frame cut short makes the call throw.** -/
theorem fails_recvMessage {m : Message} (hm : m.payload.length ≤ maxPayloadBytes)
    {part : Bytes} (hpre : part <+: packMessage m) (hne : part ≠ packMessage m) :
    recvMessage.Fails part := by
  have hlt : m.payload.length < 2 ^ 64 := lt_of_le_of_lt hm (by norm_num [maxPayloadBytes])
  by_cases hshort : part.length < messageHeaderSize
  · exact (fails_recvAll hshort).bind_left _
  -- the header is whole, and the payload is the part that is short
  have hhead : m.header.encode <+: part := by
    refine List.prefix_of_prefix_length_le (List.prefix_append _ m.payload) hpre ?_
    rw [MessageHeader.length_encode]
    omega
  obtain ⟨short, rfl⟩ := hhead
  have hpre' : short <+: m.payload := (List.prefix_append_right_inj _).mp hpre
  have hne' : short.length < m.payload.length := by
    refine lt_of_le_of_ne hpre'.length_le (fun h => hne ?_)
    rw [packMessage, hpre'.eq_of_length h]
  refine (yields_recvAll m.header.length_encode).bind_fails ?_
  have hdec := MessageHeader.decode_encode_append m.header []
  rw [List.append_nil] at hdec
  have hlen := Message.header_payloadBytes hlt
  rw [hdec, recvPayload, if_neg (by simp), if_neg (by simp), if_neg (by omega),
    if_neg (by omega), hlen]
  exact (fails_recvAll hne').bind_left _

/-- A stream cut inside message `i` makes call `i + 1` throw. -/
theorem fails_recvMessages {ms : List Message} {m : Message}
    (hms : ∀ m' ∈ ms, m'.payload.length ≤ maxPayloadBytes)
    (hm : m.payload.length ≤ maxPayloadBytes) {part : Bytes} (hpre : part <+: packMessage m)
    (hne : part ≠ packMessage m) :
    (recvMessages (ms.length + 1)).Fails (frames ms ++ part) := by
  induction ms with
  | nil => exact (fails_recvMessage hm hpre hne).bind_left _
  | cons m' ms ih =>
    have hrest := ih (fun m'' h => hms m'' (List.mem_cons_of_mem m' h))
    rw [frames_cons, List.append_assoc]
    exact (yields_recvMessage (hms m' List.mem_cons_self)).bind_fails (hrest.bind_left _)

/-! ## No message that was not sent

The results above are about a reliable stream. This one is about any: from a
prefix of the frames, whatever the kernel answers, the calls that return do
so with the messages of those frames. -/

/-- Two lists in front of one list are one if they are as long. -/
theorem eq_of_append_prefix {a b c d : Bytes} (h : a ++ c <+: b ++ d) (hlen : a.length = b.length) :
    a = b ∧ c <+: d := by
  have hab : a = b := by
    have ha : a <+: b ++ d := (List.prefix_append a c).trans h
    exact (List.prefix_of_prefix_length_le ha (List.prefix_append b d) hlen.le).eq_of_length hlen
  subst hab
  exact ⟨rfl, (List.prefix_append_right_inj a).mp h⟩

/-- **A call returns the first message of the frames or none.** -/
theorem recvMessage_sound {ms : List Message} {m : Message} {stream rest : Bytes}
    {answers answers' : List KernelAnswer} (hms : ∀ m ∈ ms, m.payload.length < 2 ^ 64)
    (hpre : stream <+: frames ms)
    (h : recvMessage stream answers = ⟨.returned m, rest, answers'⟩) :
    ∃ ms', ms = m :: ms' ∧ rest <+: frames ms' := by
  obtain ⟨buf, stream', answers'', hbuf, hpay⟩ := Recv.bind_returned h
  obtain ⟨rfl, hlen⟩ := recvAll_sound hbuf
  cases ms with
  | nil =>
    have hnil := List.eq_nil_of_prefix_nil hpre
    rw [(List.append_eq_nil_iff.mp hnil).1] at hlen
    cases hlen
  | cons m₀ ms =>
    rw [frames_cons, packMessage, List.append_assoc] at hpre
    obtain ⟨rfl, hpre'⟩ := eq_of_append_prefix hpre (hlen.trans m₀.header.length_encode.symm)
    have hdec := MessageHeader.decode_encode_append m₀.header []
    rw [List.append_nil] at hdec
    have hcount := Message.header_payloadBytes (hms m₀ List.mem_cons_self)
    rw [hdec, recvPayload, if_neg (by simp), if_neg (by simp), hcount] at hpay
    split at hpay
    · cases hpay
    split at hpay
    · next hz =>
      have hnil : m₀.payload = [] := List.length_eq_zero_iff.mp hz
      cases hpay
      rw [hnil] at hpre'
      obtain ⟨type, payload⟩ := m₀
      cases hnil
      exact ⟨ms, rfl, hpre'⟩
    · obtain ⟨payload, rest', answers₃, hall, hend⟩ := Recv.bind_returned hpay
      obtain ⟨rfl, hplen⟩ := recvAll_sound hall
      cases hend
      obtain ⟨rfl, hrest⟩ := eq_of_append_prefix hpre' hplen
      exact ⟨ms, rfl, hrest⟩

/-- **Successive calls return the first messages of the frames.** -/
theorem recvMessages_sound {ms ms' : List Message} {n : ℕ} {stream rest : Bytes}
    {answers answers' : List KernelAnswer} (hms : ∀ m ∈ ms, m.payload.length < 2 ^ 64)
    (hpre : stream <+: frames ms)
    (h : recvMessages n stream answers = ⟨.returned ms', rest, answers'⟩) : ms' <+: ms := by
  induction n generalizing ms ms' stream answers with
  | zero =>
    cases h
    exact List.nil_prefix
  | succ n ih =>
    obtain ⟨m, stream', answers'', hm, hrest⟩ := Recv.bind_returned h
    obtain ⟨ms'', rest', answers₃, hms'', hend⟩ := Recv.bind_returned hrest
    cases hend
    obtain ⟨tail, rfl, hpre'⟩ := recvMessage_sound hms hpre hm
    have htail := ih (fun m' hm' => hms m' (List.mem_cons_of_mem m hm')) hpre' hms''
    exact (List.prefix_cons_inj m).mpr htail

/-! ## Agreement with `unpack_message` -/

/-- **A complete frame**: a header and as many bytes as it announces, no more
than `recv_message` accepts. -/
structure CompleteFrame (frame : Bytes) : Prop where
  /-- The header is there. -/
  header : messageHeaderSize ≤ frame.length
  /-- What follows it has the length that it announces. -/
  whole : frame.length = messageHeaderSize + (MessageHeader.decode frame).payloadBytes.toNat
  /-- `recv_message` would refuse more. -/
  small : (MessageHeader.decode frame).payloadBytes.toNat ≤ maxPayloadBytes

/-- What `recv_message` does on a stream that holds one frame is what
`unpack_message` says of its bytes. -/
def AgreesWithUnpack (f : Recv Message) (frame : Bytes) : Prop :=
  match unpackMessage frame with
  | .ok m => f.Yields frame m
  | .error _ => f.Fails frame

/-- **The two decoders agree on every complete frame.** -/
theorem recvMessage_agrees {frame : Bytes} (h : CompleteFrame frame) :
    AgreesWithUnpack recvMessage frame := by
  set header := MessageHeader.decode frame with hheader
  have hsplit : frame.take messageHeaderSize ++ frame.drop messageHeaderSize = frame :=
    List.take_append_drop _ _
  have hhead : (frame.take messageHeaderSize).length = messageHeaderSize :=
    List.length_take_of_le h.header
  have hpay : (frame.drop messageHeaderSize).length = header.payloadBytes.toNat := by
    rw [List.length_drop, hheader, h.whole, Nat.add_sub_cancel_left]
  have hdec : MessageHeader.decode (frame.take messageHeaderSize) = header := decode_take frame
  -- a size test that wraps does so only for payloads `recv_message` refuses
  have hwrap : (20 + header.payloadBytes).toNat = frame.length := by
    have hsmall : header.payloadBytes.toNat ≤ 2 ^ 34 := h.small
    rw [UInt64.toNat_add, h.whole]
    show (20 + header.payloadBytes.toNat) % 2 ^ 64 = 20 + header.payloadBytes.toNat
    exact Nat.mod_eq_of_lt (by omega)
  unfold AgreesWithUnpack unpackMessage
  rw [if_neg (Nat.not_lt.mpr h.header)]
  simp only [← hheader]
  by_cases hmagic : header.magic ≠ kMagic ∨ header.version ≠ kProtocolVersion
  · rw [if_pos hmagic, ← hsplit]
    refine (yields_recvAll hhead).bind_fails ?_
    rw [hdec, recvPayload, if_pos hmagic]
    exact Recv.fails_throw _ _
  rw [if_neg hmagic]
  by_cases hsize : header.headerBytes ≠ 20
  · rw [if_pos hsize, ← hsplit]
    refine (yields_recvAll hhead).bind_fails ?_
    rw [hdec, recvPayload, if_neg hmagic, if_pos hsize]
    exact Recv.fails_throw _ _
  rw [if_neg hsize, if_neg (by rw [hwrap]; simp)]
  push Not at hmagic hsize
  have hyield := yields_recvPayload hmagic.1 hmagic.2 hsize hpay.symm (by rw [hpay]; exact h.small)
  have hall := (yields_recvAll hhead).bind (g := fun buf => recvPayload (MessageHeader.decode buf))
    (by rw [hdec]; exact hyield)
  rw [hsplit] at hall
  exact hall

/-! ## Losslessness

The parts are put together for one list of messages and two schedules of
transfers. In a schedule the answers that move a byte never run out. So there is
a point at which a call has all that it needs (`Recv.Yields.eventually`), which
is when it returns. -/

/-- **Lossless framing** of a list of messages whose transfers are split by
the schedule `s` on the sending side and `r` on the receiving side. -/
structure LosslessFraming (ms : List Message) (s r : Schedule) : Prop where
  /-- The sender puts the frames on the wire and nothing else. -/
  sent : ∀ᶠ k in Filter.atTop, ∃ answers,
    sendMessages ms [] (s.first k) = ⟨.returned (), frames ms, answers⟩
  /-- Any number of calls returns as many messages, and leaves the frames of
  the others untouched. -/
  received : ∀ i ≤ ms.length, ∀ᶠ k in Filter.atTop, ∃ answers,
    recvMessages i (frames ms) (r.first k)
      = ⟨.returned (ms.take i), frames (ms.drop i), answers⟩
  /-- When the stream ends inside message `i`, the calls before return the
  messages before it and the next one throws. -/
  truncated : ∀ i m part, ms[i]? = some m → part <+: packMessage m → part ≠ packMessage m →
    ∀ᶠ k in Filter.atTop,
      (∃ answers, recvMessages i (frames (ms.take i) ++ part) (r.first k)
        = ⟨.returned (ms.take i), part, answers⟩) ∧
      ∃ what, (recvMessages (i + 1) (frames (ms.take i) ++ part) (r.first k)).outcome
        = .threw what
  /-- A complete frame is received as `unpack_message` reads it. -/
  unpacked : ∀ frame, CompleteFrame frame → ∀ᶠ k in Filter.atTop,
    match unpackMessage frame with
    | .ok m => ∃ answers, recvMessage frame (r.first k) = ⟨.returned m, [], answers⟩
    | .error _ => ∃ what, (recvMessage frame (r.first k)).outcome = .threw what

/-- What a call yields, it returns once the schedule has gone far enough. -/
theorem Recv.Yields.eventually {α : Type} {f : Recv α} {w : Bytes} {a : α}
    (hf : f.Yields w a) (rest : Bytes) (r : Schedule) :
    ∀ᶠ k in Filter.atTop, ∃ answers,
      f (w ++ rest) (r.first k) = ⟨.returned a, rest, answers⟩ := by
  filter_upwards [r.eventually_moving w.length] with k hk
  obtain ⟨answers, heq, _, _⟩ := hf rest (r.first k) (r.reliable_first k) hk
  exact ⟨answers, heq⟩

/-- A call that fails throws once the schedule has gone far enough. -/
theorem Recv.Fails.eventually {α : Type} {f : Recv α} {w : Bytes} (hf : f.Fails w)
    (r : Schedule) :
    ∀ᶠ k in Filter.atTop, ∃ what, (f w (r.first k)).outcome = .threw what := by
  filter_upwards [r.eventually_moving (w.length + 1)] with k hk
  obtain ⟨what, rest, answers, heq⟩ := hf (r.first k) (r.reliable_first k) hk
  exact ⟨what, by rw [heq]⟩

/-- **Stream framing is lossless**, for every list of messages the receiver
accepts and every fair splitting of the transfers.

The bound on a payload is the one that `recv_message` checks. The schedules are
those of the kernel's answers: a call of `::send` or `::recv` takes part of what
it is given, or is interrupted, and all that is asked of a schedule is that it
goes on answering with bytes. The two sides are independent of each other, so a
message may be sent in one piece and arrive byte by byte. -/
theorem stream_framing_lossless (ms : List Message)
    (hms : ∀ m ∈ ms, m.payload.length ≤ maxPayloadBytes) (s r : Schedule) :
    LosslessFraming ms s r where
  sent := by
    filter_upwards [s.eventually_moving (frames ms).length] with k hk
    obtain ⟨answers, heq⟩ := sendMessages_reliable ms [] (s.reliable_first k) hk
    exact ⟨answers, heq⟩
  received := by
    intro i hi
    have htake : ∀ m ∈ ms.take i, m.payload.length ≤ maxPayloadBytes :=
      fun m hm => hms m (List.mem_of_mem_take hm)
    have h := (yields_recvMessages htake).eventually (frames (ms.drop i)) r
    rwa [List.length_take_of_le hi, ← frames_append, List.take_append_drop] at h
  truncated := by
    intro i m part hm hpre hne
    have hi : i < ms.length := (List.getElem?_eq_some_iff.mp hm).1
    have hmem : m ∈ ms := List.mem_of_getElem? hm
    have hlen : (ms.take i).length = i := List.length_take_of_le hi.le
    have htake : ∀ m' ∈ ms.take i, m'.payload.length ≤ maxPayloadBytes :=
      fun m' hm' => hms m' (List.mem_of_mem_take hm')
    have hbefore := (yields_recvMessages htake).eventually part r
    have hnext := (fails_recvMessages htake (hms m hmem) hpre hne).eventually r
    rw [hlen] at hbefore hnext
    exact hbefore.and hnext
  unpacked := by
    intro frame hframe
    have h := recvMessage_agrees hframe
    unfold AgreesWithUnpack at h
    split at h
    · next m _ =>
      have hyield := h.eventually [] r
      rwa [List.append_nil] at hyield
    · exact h.eventually r

/-- One byte at a time, with an interruption before each. -/
def byteAtATime : Schedule where
  answer i := if i % 2 = 0 then .eintr else .count 0
  reliable i := by split <;> rfl
  progress i := ⟨2 * i + 1, by omega, by rw [if_neg (by omega)]; rfl⟩

/-- A Hello, which has no payload, and a status with a text behind it, where
either side transfers a single byte with each call. -/
theorem stream_framing_lossless_hello :
    LosslessFraming [⟨.hello, []⟩, ⟨.status, ascii "ready"⟩] byteAtATime byteAtATime :=
  stream_framing_lossless _ (by decide) _ _
