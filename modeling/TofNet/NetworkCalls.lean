import TofNet.NetworkMessages
import TofNet.Transition

/-!
# Calls over the network

A call of the SDK on a camera in the network is a request to the server and its
answer. Two threads of the host are about it. The caller puts the request into
`send_buff`, asks the library to call back when it can write (`SendCommand`),
and waits for the answer (`recv_server_data`); each wait ends after ten seconds.
The thread of `call_lws_service` runs `callback_function`, which sends what is
in `send_buff` and clears it, and puts what comes into `recv_buff`. All they
have in common is two flags, `Send_Successful` and `Data_Received`: there is no
number in a request or an answer.

The server has one thread. It keeps one answer, or one frame, until it can
write.

The machine below takes these three apart into steps, which are taken in any
order, with all that is on its way between the two ends. An answer comes in
pieces, as the library likes, and the client's `callback_function` is that of
`NetworkMessages`, which never clears `clientData`: so what a call returns hangs
on the pieces of the answers before it. A request may be taken whole, since the
server's `callback_function` handles it as it was sent (`serverHandled_eq`).

What a call returns is compared with what the client makes of the target's answer
(`outcome`), and not with what the target would return to a caller of its own. For
a frame these are not the same. The server sends one byte more than the frame, the
client drops the last one, and the byte in front of the frame, by which the client
is to know it, is one that the server does not set.
-/

namespace Network

/-! ## Requests and answers -/

/-- `ClientRequest`: a name, and the parameters. -/
@[ext]
structure ClientRequest (P : Type) where
  funcName : Bytes := []
  params : List P := []
  deriving DecidableEq

/-- **What is generated for the messages**, where `R` is `ServerResponse`: the
one that was cleared, `add_bytes_payload`, and a parser that reads what the
serializer has written. -/
structure Protobuf (P R : Type) where
  /-- A response without contents. -/
  cleared : R
  /-- The same with bytes added. -/
  addBytesPayload : R → Bytes → R
  /-- The size of a request. -/
  byteSize : ClientRequest P → ℕ
  /-- A response as bytes, … -/
  serialize : R → Bytes
  /-- … and the bytes as a response, … -/
  parse : Bytes → R
  /-- … which undo each other. -/
  parse_serialize : ∀ r, parse (serialize r) = r

/-- **`invoke_sdk_api`** on the target: the SDK after a request, the answer, and
the frame, if there is one, with the byte in front of it in the message, which
nothing is written to. -/
abbrev Target (P R σ : Type) := σ → ClientRequest P → σ × R × Option (UInt8 × Bytes)

section Answers

variable {P R σ : Type} (pb : Protobuf P R) (target : Target P R σ)

/-- **What the client makes of a message**: without the tag of a response, it is
taken for a frame, and its last byte is left. -/
def handle (recvBuff : R) : Bytes → R
  | [] => recvBuff
  | tag :: body =>
    if tag = 0x30 then pb.parse body else pb.addBytesPayload recvBuff body.dropLast

/-- The message of an answer. -/
def message (buffSend : R) : Option (UInt8 × Bytes) → Bytes
  | some (tag, frame) => tag :: frame
  | none => 0x30 :: pb.serialize buffSend

/-- What a call returns for an answer: that answer, or the frame without its
last byte. A frame behind a byte that happens to be the tag of a response is
parsed. -/
def outcome (answer : R) : Option (UInt8 × Bytes) → R
  | none => answer
  | some (tag, frame) =>
    if tag = 0x30 then pb.parse frame else pb.addBytesPayload pb.cleared frame.dropLast

/-- What comes out of `recv_buff` if it was cleared before. -/
theorem handle_message (answer : R) (frame : Option (UInt8 × Bytes)) :
    handle pb pb.cleared (message pb answer frame) = outcome pb answer frame := by
  cases frame with
  | none =>
    rw [message, handle, if_pos rfl]
    exact pb.parse_serialize answer
  | some frame => rfl

/-- **A call of the target**: its SDK after it, and what the client makes of the
answer. -/
def direct (x : σ) (q : ClientRequest P) : σ × R :=
  ((target x q).1, outcome pb (target x q).2.1 (target x q).2.2)

/-- Call after call. -/
def directs : σ → List (ClientRequest P) → σ × List (R)
  | x, [] => (x, [])
  | x, q :: qs =>
    ((directs (direct pb target x q).1 qs).1,
      (direct pb target x q).2 :: (directs (direct pb target x q).1 qs).2)

end Answers

/-! ## The state

Where the caller is in its code is one type, with the place in `SendCommand`
apart from the place that has called it, as `recv_server_data` sends again in
each of its rounds. The pieces of a message that are still to come are a list,
and so are the messages on their way in either direction. Histories are kept of
what was begun, executed and returned. -/

/-- The server: the SDK, `buff_send`, the frame for `m_frame_ready`, and whether
it has asked to be called back. -/
structure Server (R σ : Type) where
  /-- The state of the SDK. -/
  sdk : σ
  /-- `buff_send`. -/
  buffSend : R
  /-- The frame that is to be sent behind it. -/
  frame : Option (UInt8 × Bytes) := none
  /-- The library was asked to call back. -/
  writable : Bool := false

/-- Who has called `SendCommand`: the call itself, or `recv_server_data` in one
of its rounds. -/
inductive Context
  | call
  | receive (numRetry : ℕ)
  deriving DecidableEq

/-- Where in `SendCommand`. -/
inductive Stage
  | size
  | clear (siz : ℤ)
  | loop (siz : ℤ) (numRetry : ℕ)
  | wait (siz : ℤ) (numRetry : ℕ)
  deriving DecidableEq

/-- **Where the caller is**: between two calls, before the parameters that it
has still to add, in `SendCommand`, or in `recv_server_data`, before a round, in
the wait, and behind it. -/
inductive Caller (P : Type)
  | idle
  | filling (params : List P)
  | send (context : Context) (stage : Stage)
  | round (numRetry : ℕ)
  | receive (numRetry : ℕ)
  | received
  deriving DecidableEq

/-- **Both ends of a connection**, and what is on its way: the pieces that have
still to come of a message, and the one that the service thread is about to hand
over. The last fields are what has happened so far: the requests of the calls that
were begun and those that the server has executed, what calls have returned, and
whether one has failed. -/
structure State (P R σ : Type) where
  /-- Where the caller is. -/
  caller : Caller P := .idle
  /-- `send_buff`. -/
  sendBuff : ClientRequest P := {}
  /-- `recv_buff`. -/
  recvBuff : R
  /-- How much the last write has taken. -/
  nBytes : ℤ := 0
  /-- `Send_Successful`. -/
  sendSuccessful : Bool := false
  /-- `Data_Received`. -/
  dataReceived : Bool := false
  /-- `Server_Connected`. -/
  serverConnected : Bool := true
  /-- The library was asked to call back. -/
  writable : Bool := false
  /-- What is kept of messages in pieces. -/
  clientData : ClientData := {}
  /-- What is still to come of a message. -/
  pieces : List Received := []
  /-- What the service thread is about to hand over. -/
  receiving : Option Received := none
  /-- The requests on their way, … -/
  requests : List (ClientRequest P) := []
  /-- … and the answers. -/
  answers : List Bytes := []
  /-- The other end. -/
  server : Server R σ
  /-- The requests of the calls so far. -/
  begun : List (ClientRequest P) := []
  /-- Those that the server has executed. -/
  executed : List (ClientRequest P) := []
  /-- What calls have returned. -/
  returned : List (R) := []
  /-- One of them has failed. -/
  failed : Bool := false

/-- The connection is there, and nothing has been called. -/
def State.start {P R σ : Type} (pb : Protobuf P R) (x : σ) : State P R σ where
  recvBuff := pb.cleared
  server := { sdk := x, buffSend := pb.cleared }

/-- Who takes a step, and what the library and the clock decide. -/
inductive Event (P : Type)
  | begin (q : ClientRequest P)
  | caller
  | wake
  | timeout
  | writeable (n : ℤ)
  | deliver (front : List Received)
  | arrive
  | receive
  | closed
  | serve
  | answer

/-! ## The steps

Every step is that of one thread. A wait ends by its flag or by the clock, and
the model does not say which comes first; `lws_write` returns what it likes. The
service thread has to wait for `mutex_recv` before it hands over a piece, and is
in a state of its own then. -/

section Steps

variable {P R σ : Type} (pb : Protobuf P R) (target : Target P R σ) (s : State P R σ)

/-- A call is begun, with what is left in `send_buff`; it fails at once if there
is no connection. -/
def begin (q : ClientRequest P) : Option (State P R σ) :=
  match s.caller with
  | .idle =>
    if s.serverConnected then
      some { s with
        caller := .filling q.params, sendBuff := { s.sendBuff with funcName := q.funcName }
        begun := s.begun ++ [q] }
    else some { s with failed := true }
  | _ => none

/-- `SendCommand` or `recv_server_data` fails, and with it the call. Only the
latter clears `send_buff`. -/
def fail : Context → State P R σ
  | .call => { s with caller := .idle, failed := true }
  | .receive _ => { s with caller := .idle, sendBuff := {}, failed := true }

/-- `SendCommand` returns 0. -/
def succeed : Context → State P R σ
  | .call => { s with caller := .round 0 }
  | .receive numRetry => { s with caller := .round numRetry }

/-- What the caller does without a wait. -/
def callerStep : Option (State P R σ) :=
  match s.caller with
  | .idle => none
  | .filling [] => some { s with caller := .send .call .size }
  | .filling (p :: ps) =>
    some { s with
      caller := .filling ps, sendBuff := { s.sendBuff with params := s.sendBuff.params ++ [p] } }
  | .send context .size => some { s with caller := .send context (.clear (pb.byteSize s.sendBuff)) }
  | .send context (.clear siz) =>
    some { s with caller := .send context (.loop siz 0), recvBuff := pb.cleared }
  | .send context (.loop siz numRetry) =>
    if numRetry < 3 ∧ s.serverConnected = true then
      some { s with caller := .send context (.wait siz (numRetry + 1)), writable := true }
    else some (fail s context)
  | .send _ (.wait _ _) => none
  | .round numRetry =>
    if numRetry < 3 ∧ s.serverConnected = true then
      some { s with caller := .receive (numRetry + 1) }
    else some (fail s (.receive numRetry))
  | .receive _ => none
  | .received =>
    if s.serverConnected then
      some { s with caller := .idle, sendBuff := {}, returned := s.returned ++ [s.recvBuff] }
    else some (fail s (.receive 0))

/-- A wait of the caller ends, since its flag is set. -/
def wakeStep : Option (State P R σ) :=
  match s.caller with
  | .send context (.wait siz numRetry) =>
    if s.sendSuccessful then
      if s.nBytes < 0 then some (fail { s with sendSuccessful := false } context)
      else if s.nBytes = siz ∧ s.serverConnected = true then
        some (succeed { s with sendSuccessful := false } context)
      else if s.nBytes = siz then some (fail { s with sendSuccessful := false } context)
      else some { s with caller := .send context (.loop siz numRetry), sendSuccessful := false }
    else none
  | .receive _ =>
    if s.dataReceived then some { s with caller := .received, dataReceived := false } else none
  | _ => none

/-- A wait of the caller ends, since ten seconds are over. -/
def timeoutStep : Option (State P R σ) :=
  match s.caller with
  | .send context (.wait _ _) => if s.sendSuccessful then none else some (fail s context)
  | .receive numRetry =>
    if s.dataReceived then none else some { s with caller := .send (.receive numRetry) .size }
  | _ => none

/-- `recv_server_data` keeps `mutex_recv` while it sends again. -/
def Caller.holdsMutexRecv : Caller P → Bool
  | .send (.receive _) _ => true
  | _ => false

/-- `LWS_CALLBACK_CLIENT_WRITEABLE`, where `lws_write` returns `n`. -/
def writeableStep (n : ℤ) : Option (State P R σ) :=
  if s.receiving.isNone && s.writable && s.serverConnected then
    if s.sendBuff.funcName.isEmpty then some { s with writable := false }
    else
      some { s with
        writable := false, nBytes := n, sendSuccessful := true, sendBuff := {}
        requests := if n < 0 then s.requests else s.requests ++ [s.sendBuff] }
  else none

/-- A message of the server comes, in these pieces and a last one. -/
def deliverStep (front : List Received) : Option (State P R σ) :=
  match s.pieces, s.receiving, s.serverConnected, s.answers with
  | [], none, true, m :: ms =>
    if front.all (fun r => !r.isLast) && (front.flatMap Received.bytes).isPrefixOf m then
      some { s with
        pieces := front ++ [⟨m.drop (front.flatMap Received.bytes).length, 0, true⟩]
        answers := ms }
    else none
  | _, _, _, _ => none

/-- The service thread takes a piece. -/
def arriveStep : Option (State P R σ) :=
  match s.receiving, s.serverConnected, s.pieces with
  | none, true, r :: rs => some { s with receiving := some r, pieces := rs }
  | _, _, _ => none

/-- `LWS_CALLBACK_CLIENT_RECEIVE`, behind the lock of `mutex_recv`. -/
def receiveStep : Option (State P R σ) :=
  match s.receiving, s.caller.holdsMutexRecv with
  | some r, false =>
    match clientReceive s.clientData r with
    | (clientData, some m) =>
      some { s with
        receiving := none, clientData, recvBuff := handle pb s.recvBuff m, dataReceived := true }
    | (clientData, none) => some { s with receiving := none, clientData }
  | _, _ => none

/-- `LWS_CALLBACK_CLIENT_CLOSED`. -/
def closedStep : Option (State P R σ) :=
  if s.receiving.isNone then some { s with serverConnected := false } else none

/-- `LWS_CALLBACK_RECEIVE` of the server. -/
def serveStep : Option (State P R σ) :=
  match s.requests with
  | [] => none
  | q :: qs =>
    some { s with
      requests := qs, executed := s.executed ++ [q]
      server := {
        sdk := (target s.server.sdk q).1, buffSend := (target s.server.sdk q).2.1
        frame := (target s.server.sdk q).2.2.orElse fun _ => s.server.frame
        writable := true } }

/-- `LWS_CALLBACK_SERVER_WRITEABLE`. -/
def answerStep : Option (State P R σ) :=
  if s.server.writable then
    some { s with
      answers := s.answers ++ [message pb s.server.buffSend s.server.frame]
      server := { s.server with frame := none, writable := false } }
  else none

end Steps

/-- **The machine.** -/
def step {P R σ : Type} (pb : Protobuf P R) (target : Target P R σ) :
    Machine (State P R σ) (Event P) := fun s e =>
  match e with
  | .begin q => begin s q
  | .caller => callerStep pb s
  | .wake => wakeStep s
  | .timeout => timeoutStep s
  | .writeable n => writeableStep s n
  | .deliver front => deliverStep s front
  | .arrive => arriveStep s
  | .receive => receiveStep pb s
  | .closed => closedStep s
  | .serve => serveStep target s
  | .answer => answerStep pb s

end Network
