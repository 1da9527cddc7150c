import TofNet.NetworkCalls

/-!
# Runs of network calls

What holds of the calls over the network in every order of the steps, with waits
that end too early, messages of which only a part is written, and connections
that are closed.

No request is executed twice, and none in front of one that was begun earlier
(`executed_sublist`): `send_buff` is cleared as soon as it is sent, so that a
second attempt finds nothing to send. For this only the requests matter. A step
begins one, takes one out of `send_buff`, or leaves them where they are (`Moves`),
and a name that has left `send_buff` never comes back to it.

Until a call fails, the calls return what the client makes of the target's
answers, and each is executed once (`returned_eq`). This needs an invariant that
says where the one request is that is on its way (`Way`): in front of the server,
at it, on the way back, in pieces before the client, or received. The caller's own
place fits that (`Phase`). Two of its places are dead ends, which the invariant
has to have all the same: a request of which not all was written is cleared, and
what is sent again then is nothing, so that it is only a matter of time that the
call fails.

The answers have to come in one piece, all but the last. The client keeps the
pieces of a message also when it has handled it, and takes them for the beginning
of the next one; so the runs are those in which none is left when a message comes
(`Clear`).

Once a call has failed all this is over: its answer may come late, and then it is
the next call that returns (`late_answer`), without a request of its own having
been executed.

A call is a matter of two threads and a server, and its steps come in any order.
What is shown by induction on a run is therefore said about a state, and has to
say of each part of the state how it fits the others. The steps fall into two
kinds. Those of the link, the service thread and the server (`Beside`) do not
change what is the caller's own, and move the request on its way. Those of the
caller, its waits and the write of the service thread leave what is on its way
where it is, but for the write, which puts the request there. So the invariant
has two halves, the way of the request and the place of the caller, and each
kind of steps is a matter of one half, as long as the other does not get in its
way (`Phase.beside`, `Way.congr`).

What the two halves have to agree on is little: a request is on its way from its
write on, and until `recv_server_data` has found its flag. A failing call breaks
the agreement, as it is not there any more while its request still is, and this
is where the invariant ends.
-/

namespace Network

open Machine

variable {P R σ : Type} {pb : Protobuf P R} {target : Target P R σ} {s s' : State P R σ}

/-! ## At most once

`send_buff` is the only place a request is sent from, and it is filled by the
caller alone, for every call anew. So it is enough to look at the names: those
that have left `send_buff`, and the one that is in it. A name that is not empty
is waiting; an empty one is what is left once the request was sent.

Each step does one of three things to these names. That they stay in the order
of the calls then follows for the whole run, by the three cases, and without a
word on waits or on the server. -/

/-- The names of the requests that have left `send_buff`. -/
def State.left (s : State P R σ) : List Bytes :=
  (s.executed ++ s.requests).map ClientRequest.funcName

/-- The name in `send_buff`, if there is one. -/
def State.waiting (s : State P R σ) : List Bytes :=
  [s.sendBuff.funcName].filter fun name => !name.isEmpty

/-- **What a step does to the requests**: one is begun, or leaves `send_buff`; or
at most `send_buff` is cleared. A call that has failed stays failed. -/
inductive Moves (s s' : State P R σ) : Prop
  | begins (q : ClientRequest P) (hbegun : s'.begun = s.begun ++ [q]) (hleft : s'.left = s.left)
      (hname : s'.sendBuff.funcName = q.funcName) (hfailed : s'.failed = s.failed)
  | leaves (hbegun : s'.begun = s.begun) (hleft : s'.left = s.left ++ s.waiting)
      (hname : s'.sendBuff.funcName = []) (hfailed : s'.failed = s.failed)
  | rests (hbegun : s'.begun = s.begun) (hleft : s'.left = s.left)
      (hname : s'.sendBuff.funcName = s.sendBuff.funcName ∨ s'.sendBuff.funcName = [])
      (hfailed : s'.failed = s.failed ∨ s'.failed = true)

/-- The requests are where they were. -/
structure SameRequests (s s' : State P R σ) : Prop where
  /-- No call was begun. -/
  begun : s'.begun = s.begun
  /-- No request has left `send_buff`. -/
  left : s'.left = s.left
  /-- That has the name it had. -/
  name : s'.sendBuff.funcName = s.sendBuff.funcName
  /-- No call has failed that had not before. -/
  failed : s'.failed = s.failed

/-- A step that has nothing to do with requests. -/
theorem SameRequests.refl (s : State P R σ) : SameRequests s s := ⟨rfl, rfl, rfl, rfl⟩

/-- To leave the requests where they are is one of the three things a step may
do. -/
theorem SameRequests.moves (h : SameRequests s s') : Moves s s' :=
  .rests h.begun h.left (.inl h.name) (.inl h.failed)

/-- A call that fails is noted as failed, wherever in its code it is. -/
theorem failed_fail (s : State P R σ) (context : Context) : (fail s context).failed = true := by
  cases context <;> rfl

/-- A step that ends with an error: `send_buff` is cleared, if the call has got
as far as `recv_server_data`, and keeps what it has otherwise. -/
theorem Moves.fail (h : SameRequests s s') (context : Context) : Moves s (fail s' context) := by
  cases context with
  | call => exact .rests h.begun h.left (.inl h.name) (.inr rfl)
  | receive n => exact .rests h.begun h.left (.inr rfl) (.inr rfl)

/-- A step that returns from `SendCommand`. -/
theorem Moves.succeed (h : SameRequests s s') (context : Context) :
    Moves s (succeed s' context) := by
  cases context <;> exact .rests h.begun h.left (.inl h.name) (.inl h.failed)

/-- A call is begun, or refused since there is no connection. -/
theorem begin_moves {q : ClientRequest P} (h : begin s q = some s') : Moves s s' := by
  unfold begin at h
  split at h
  · cases hconnected : s.serverConnected with
    | true =>
      rw [hconnected, if_pos rfl] at h
      cases h
      exact .begins q rfl rfl rfl rfl
    | false =>
      rw [hconnected, if_neg Bool.false_ne_true] at h
      cases h
      exact .rests rfl rfl (.inl rfl) (.inr rfl)
  · cases h

/-- The caller's own steps put nothing into `send_buff` but parameters, and
clear it at the end of a call at most. -/
theorem callerStep_moves (h : callerStep pb s = some s') : Moves s s' := by
  unfold callerStep at h
  split at h
  · cases h
  · cases h
    exact .rests rfl rfl (.inl rfl) (.inl rfl)
  · cases h
    exact .rests rfl rfl (.inl rfl) (.inl rfl)
  · cases h
    exact .rests rfl rfl (.inl rfl) (.inl rfl)
  · cases h
    exact .rests rfl rfl (.inl rfl) (.inl rfl)
  · split at h <;> cases h
    · exact .rests rfl rfl (.inl rfl) (.inl rfl)
    · exact .fail (.refl s) _
  · cases h
  · split at h <;> cases h
    · exact .rests rfl rfl (.inl rfl) (.inl rfl)
    · exact .fail (.refl s) _
  · cases h
  · split at h <;> cases h
    · exact .rests rfl rfl (.inr rfl) (.inl rfl)
    · exact .fail (.refl s) _

/-- A wait that ends with its flag. -/
theorem wakeStep_moves (h : wakeStep s = some s') : Moves s s' := by
  have hquiet : ∀ t : State P R σ, t = { s with sendSuccessful := false } →
      SameRequests s t := by
    rintro t rfl
    exact ⟨rfl, rfl, rfl, rfl⟩
  unfold wakeStep at h
  split at h
  · split at h
    · split at h
      · cases h
        exact .fail (hquiet _ rfl) _
      · split at h
        · cases h
          exact .succeed (hquiet _ rfl) _
        · split at h <;> cases h
          · exact .fail (hquiet _ rfl) _
          · exact .rests rfl rfl (.inl rfl) (.inl rfl)
    · cases h
  · split at h <;> cases h
    exact .rests rfl rfl (.inl rfl) (.inl rfl)
  · cases h

/-- A wait that ends too early fails the call, or goes round once more. -/
theorem timeoutStep_moves (h : timeoutStep s = some s') : Moves s s' := by
  unfold timeoutStep at h
  split at h
  · split at h <;> cases h
    exact .fail (.refl s) _
  · split at h <;> cases h
    exact .rests rfl rfl (.inl rfl) (.inl rfl)
  · cases h

/-- **The write.** A request leaves `send_buff` whole, or is thrown away where
`lws_write` has failed. In either case the name is gone. -/
theorem writeableStep_moves {n : ℤ} (h : writeableStep s n = some s') : Moves s s' := by
  unfold writeableStep at h
  split at h
  · cases hname : s.sendBuff.funcName.isEmpty with
    | true =>
      rw [hname, if_pos rfl] at h
      cases h
      exact .rests rfl rfl (.inl rfl) (.inl rfl)
    | false =>
      rw [hname, if_neg Bool.false_ne_true] at h
      cases h
      by_cases hn : n < 0
      · exact .rests rfl (by rw [State.left, if_pos hn]; rfl) (.inr rfl) (.inl rfl)
      · refine .leaves rfl ?_ rfl rfl
        rw [State.left, if_neg hn, State.left, State.waiting, ← List.append_assoc, List.map_append,
          List.filter_cons_of_pos (by rw [hname]; rfl)]
        rfl
  · cases h

/-- Every step of the system, whoever takes it. -/
theorem step_moves {e : Event P} (h : step pb target s e = some s') : Moves s s' := by
  cases e with
  | begin q => exact begin_moves h
  | caller => exact callerStep_moves h
  | wake => exact wakeStep_moves h
  | timeout => exact timeoutStep_moves h
  | writeable n => exact writeableStep_moves h
  | deliver front =>
    rw [step, deliverStep] at h
    split at h
    · split at h <;> cases h
      exact .rests rfl rfl (.inl rfl) (.inl rfl)
    · cases h
  | arrive =>
    rw [step, arriveStep] at h
    split at h <;> cases h
    exact .rests rfl rfl (.inl rfl) (.inl rfl)
  | receive =>
    rw [step, receiveStep] at h
    split at h
    · split at h <;> cases h <;> exact .rests rfl rfl (.inl rfl) (.inl rfl)
    · cases h
  | closed =>
    rw [step, closedStep] at h
    split at h <;> cases h
    exact .rests rfl rfl (.inl rfl) (.inl rfl)
  | serve =>
    rw [step, serveStep] at h
    split at h <;> cases h
    next hrequests =>
      refine .rests rfl ?_ (.inl rfl) (.inl rfl)
      rw [State.left, State.left, hrequests, List.append_assoc]
      rfl
  | answer =>
    rw [step, answerStep] at h
    split at h <;> cases h
    exact .rests rfl rfl (.inl rfl) (.inl rfl)

/-- What has left `send_buff` and what is in it, one behind the other, are names
of calls in their order. -/
theorem sublist_step {e : Event P} (h : step pb target s e = some s')
    (hs : (s.left ++ s.waiting).Sublist (s.begun.map ClientRequest.funcName)) :
    (s'.left ++ s'.waiting).Sublist (s'.begun.map ClientRequest.funcName) := by
  have hleft := (List.sublist_append_left _ _).trans hs
  have hwaiting : s'.sendBuff.funcName = [] → s'.waiting = [] := fun hname => by
    rw [State.waiting, hname]
    rfl
  cases step_moves h with
  | begins q hbegun hleft' hname _ =>
    rw [hbegun, hleft', List.map_append]
    refine hleft.append ?_
    rw [State.waiting, hname]
    exact List.filter_sublist
  | leaves hbegun hleft' hname _ =>
    rw [hbegun, hleft', hwaiting hname, List.append_nil]
    exact hs
  | rests hbegun hleft' hname _ =>
    rw [hbegun, hleft']
    rcases hname with hname | hname
    · rwa [State.waiting, hname]
    · rwa [hwaiting hname, List.append_nil]

/-- **No request is executed twice**, nor in another order than the calls were
made in, whatever waits have ended early and whatever was sent again.

A call sends its request, waits, and sends again if the wait has failed. What it
sends again is the buffer that the first sending has cleared, so that the server
has no request to execute. It is a sublist and no more since a request may be
lost on its way. -/
theorem executed_sublist (x : σ) {es : List (Event P)}
    (hrun : Run (step pb target) always (State.start pb x) es s) :
    (s.executed.map ClientRequest.funcName).Sublist (s.begun.map ClientRequest.funcName) := by
  have hsub : (s.left ++ s.waiting).Sublist (s.begun.map ClientRequest.funcName) :=
    hrun.invariant (fun _ _ _ hs _ hstep => sublist_step hstep hs) (List.Sublist.refl [])
  rw [State.left, List.map_append, List.append_assoc] at hsub
  exact (List.sublist_append_left _ _).trans hsub

/-- Messages without a format. -/
def plainProtobuf : Protobuf Bytes Bytes where
  cleared := []
  addBytesPayload r bytes := r ++ bytes
  byteSize q := q.funcName.length
  serialize := id
  parse := id
  parse_serialize _ := rfl

/-- A camera that numbers its frames. -/
def numberingCamera : Target Bytes Bytes ℕ := fun x _ =>
  (x + 1, [], some (0x31, [UInt8.ofNat x, 0x2A, 0x2B]))

/-- A run whose second wait ends too early: what is sent again is nothing, the
call fails, and its request has been executed once. -/
theorem executed_sublist_numbering :
    ∃ es, ∃ s : State Bytes Bytes ℕ,
      Run (step plainProtobuf numberingCamera) always (State.start plainProtobuf 5) es s
        ∧ s.failed = true ∧ s.executed = [⟨[0x47], []⟩]
        ∧ (s.executed.map ClientRequest.funcName).Sublist (s.begun.map ClientRequest.funcName) :=
  have hrun := run_iff_exec.mpr
    (rfl : exec (step plainProtobuf numberingCamera) (State.start plainProtobuf 5)
      [.begin ⟨[0x47], []⟩, .caller, .caller, .caller, .caller, .writeable 1, .wake, .caller,
        .timeout, .caller, .caller, .caller, .timeout, .serve] = some _)
  ⟨_, _, hrun, rfl, rfl, executed_sublist 5 hrun⟩

/-! ## What the calls return

What is on its way is one value (`OnWire`): the requests, the answers, the
pieces, what the server has to write, and what it has executed. To compare such
values is to say all at once that a request is in one place and in no other, and
the cases of `Way` are the five places.

A piece that the service thread has taken, and for which it waits for the lock
of the caller, is still on its way: it stands in front of those that have not
been taken. So the wait for the lock, which matters where a thread could be
stuck, makes no difference here. -/

/-- All that is on its way, and what the server has done. The requests and
answers are in transit, the frame and `asked` are the server's, `coming` the
pieces that the client has still to be given. -/
structure OnWire (P σ : Type) where
  /-- The requests. -/
  requests : List (ClientRequest P) := []
  /-- The state of the SDK. -/
  sdk : σ
  /-- The frame that is to be sent behind an answer. -/
  frame : Option (UInt8 × Bytes) := none
  /-- The server has asked to be called back. -/
  asked : Bool := false
  /-- The answers. -/
  answers : List Bytes := []
  /-- The pieces that are still to come. -/
  coming : List Received := []
  /-- The answer is there. -/
  dataReceived : Bool := false
  /-- What the server has executed. -/
  executed : List (ClientRequest P)

/-- What is on its way in a state. -/
def State.wire (s : State P R σ) : OnWire P σ :=
  ⟨s.requests, s.server.sdk, s.server.frame, s.server.writable, s.answers,
    s.receiving.toList ++ s.pieces, s.dataReceived, s.executed⟩

/-- Nothing is. -/
def still (x : σ) (executed : List (ClientRequest P)) : OnWire P σ := { sdk := x, executed }

/-- What `clientData` keeps of these pieces: their bytes, one behind the other,
and that there are some. -/
def kept (done : List Received) : ClientData := ⟨!done.isEmpty, done.flatMap Received.bytes⟩

/-- **The pieces of a message that have still to come**, behind those that are
kept. There is at least one: with its last piece a message has been received. -/
def Coming (m : Bytes) (rest : List Received) (clientData : ClientData) : Prop :=
  rest ≠ [] ∧ ∃ (done : List Received) (d : Delivery), d.message = m ∧ d.pieces = done ++ rest
    ∧ clientData = kept done

/-- **Where a request is** that was sent, and what has come of it: before the
server, at it, or on the way back. -/
inductive Way (pb : Protobuf P R) (target : Target P R σ) (x : σ) (before : List (ClientRequest P))
    (q : ClientRequest P) (s : State P R σ) : Prop
  | sent (hwire : s.wire = { still x before with requests := [q] })
      (hrecv : s.recvBuff = pb.cleared)
  | served
      (hwire : s.wire = { still (target x q).1 (before ++ [q]) with
        frame := (target x q).2.2, asked := true })
      (hsend : s.server.buffSend = (target x q).2.1) (hrecv : s.recvBuff = pb.cleared)
  | answered
      (hwire : s.wire = { still (target x q).1 (before ++ [q]) with
        answers := [message pb (target x q).2.1 (target x q).2.2] })
      (hrecv : s.recvBuff = pb.cleared)
  | delivered (rest : List Received)
      (hwire : s.wire = { still (target x q).1 (before ++ [q]) with coming := rest })
      (hcoming : Coming (message pb (target x q).2.1 (target x q).2.2) rest s.clientData)
      (hrecv : s.recvBuff = pb.cleared)
  | received (hwire : s.wire = { still (target x q).1 (before ++ [q]) with dataReceived := true })
      (hrecv : s.recvBuff = (direct pb target x q).2)

/-- No call is under way, and none has left anything: not a flag, nor a byte in
`send_buff`. The next call depends on it, as it clears none of this. -/
structure Idle (x : σ) (before : List (ClientRequest P)) (s : State P R σ) : Prop where
  /-- No call is under way. -/
  caller : s.caller = .idle
  /-- Nothing is on its way. -/
  wire : s.wire = still x before
  /-- `send_buff` is empty. -/
  sendBuff : s.sendBuff = {}
  /-- No flag is set, … -/
  sendSuccessful : s.sendSuccessful = false
  /-- … and no call back asked for. -/
  writable : s.writable = false

/-- In `SendCommand`, in front of the first wait: the size is computed,
`recv_buff` is cleared, and the loop is entered. From there on the answer has
somewhere to go. -/
inductive Starting (pb : Protobuf P R) (q : ClientRequest P) (s : State P R σ) : Stage → Prop
  | size : Starting pb q s .size
  | clear (siz : ℤ) : Starting pb q s (.clear siz)
  | loop (siz : ℤ) (hrecv : s.recvBuff = pb.cleared) : Starting pb q s (.loop siz 0)

/-- **Where a call is** that has not failed. If what was written is not the
whole request, or nothing, it is only a matter of time that it fails (`stuck`,
`unwritten`). -/
inductive Phase (pb : Protobuf P R) (target : Target P R σ) (x : σ)
    (before : List (ClientRequest P)) (q : ClientRequest P) (s : State P R σ) : Prop
  | filling (ps : List P) (hcaller : s.caller = .filling ps) (hwire : s.wire = still x before)
      (hname : s.sendBuff.funcName = q.funcName) (hparams : s.sendBuff.params ++ ps = q.params)
      (hflag : s.sendSuccessful = false) (hwritable : s.writable = false)
  | starting (stage : Stage) (hcaller : s.caller = .send .call stage)
      (hstage : Starting pb q s stage) (hwire : s.wire = still x before) (hbuff : s.sendBuff = q)
      (hflag : s.sendSuccessful = false) (hwritable : s.writable = false)
  | asking (siz : ℤ) (n : ℕ) (hcaller : s.caller = .send .call (.wait siz n))
      (hwire : s.wire = still x before) (hbuff : s.sendBuff = q) (hrecv : s.recvBuff = pb.cleared)
      (hflag : s.sendSuccessful = false)
  | written (siz : ℤ) (n : ℕ) (hcaller : s.caller = .send .call (.wait siz n))
      (hway : Way pb target x before q s) (hbuff : s.sendBuff = {}) (hwritable : s.writable = false)
  | unwritten (siz : ℤ) (n : ℕ) (hcaller : s.caller = .send .call (.wait siz n))
      (hname : s.sendBuff.funcName = []) (hnBytes : s.nBytes < 0)
      (hflag : s.sendSuccessful = true)
  | stuck (context : Context) (stage : Stage) (hcaller : s.caller = .send context stage)
      (hname : s.sendBuff.funcName = []) (hflag : s.sendSuccessful = false)
  | waiting (n : ℕ) (hcaller : s.caller = .round n ∨ s.caller = .receive n)
      (hway : Way pb target x before q s) (hbuff : s.sendBuff = {})
      (hflag : s.sendSuccessful = false) (hwritable : s.writable = false)
  | received (hcaller : s.caller = .received)
      (hwire : s.wire = still (target x q).1 (before ++ [q]))
      (hrecv : s.recvBuff = (direct pb target x q).2) (hbuff : s.sendBuff = {})
      (hflag : s.sendSuccessful = false) (hwritable : s.writable = false)

/-- **The invariant**, as long as no call has failed: between two calls, all
that were begun have been executed in turn and have returned what the target's
answers are; within one this holds of those in front of it, and the call is
somewhere on its way. -/
inductive Correct (pb : Protobuf P R) (target : Target P R σ) (x : σ) (s : State P R σ) : Prop
  | idle (hreturned : s.returned = (directs pb target x s.begun).2)
      (hidle : Idle (directs pb target x s.begun).1 s.begun s)
  | calling (before : List (ClientRequest P)) (q : ClientRequest P)
      (hbegun : s.begun = before ++ [q]) (hreturned : s.returned = (directs pb target x before).2)
      (hphase : Phase pb target (directs pb target x before).1 before q s)

/-! ### Steps that the caller knows nothing of

These steps move a request forward, from one case of `Way` to the next: `serve`
from `sent` to `served`, `answer` to `answered`, `deliver` to `delivered`, and
the last `receive` to `received`. Each of them needs something to be there, and
that something tells the case: where a request waits at the server, no answer is
on its way. The other cases are impossible, as what is on its way would have to
be two things.

`deliver` is the step where something has to be assumed. The client appends what
it is given to what it has, and it has what is left of the message before. -/

/-- The caller's part of the state is as it was. -/
structure SameCaller (s s' : State P R σ) : Prop where
  caller : s'.caller = s.caller
  sendBuff : s'.sendBuff = s.sendBuff
  nBytes : s'.nBytes = s.nBytes
  sendSuccessful : s'.sendSuccessful = s.sendSuccessful
  writable : s'.writable = s.writable
  begun : s'.begun = s.begun
  returned : s'.returned = s.returned
  failed : s'.failed = s.failed

/-- The steps of the link, the service thread's and the server's. -/
inductive Beside : Event P → Prop
  | deliver (front : List Received) : Beside (.deliver front)
  | arrive : Beside .arrive
  | receive : Beside .receive
  | closed : Beside .closed
  | serve : Beside .serve
  | answer : Beside .answer

/-- None of these steps is the caller's, nor the write's. -/
theorem sameCaller_step {e : Event P} (he : Beside e) (h : step pb target s e = some s') :
    SameCaller s s' := by
  cases he with
  | deliver front =>
    rw [step, deliverStep] at h
    split at h
    · split at h <;> cases h
      exact ⟨rfl, rfl, rfl, rfl, rfl, rfl, rfl, rfl⟩
    · cases h
  | arrive =>
    rw [step, arriveStep] at h
    split at h <;> cases h
    exact ⟨rfl, rfl, rfl, rfl, rfl, rfl, rfl, rfl⟩
  | receive =>
    rw [step, receiveStep] at h
    split at h
    · split at h <;> cases h <;> exact ⟨rfl, rfl, rfl, rfl, rfl, rfl, rfl, rfl⟩
    · cases h
  | closed =>
    rw [step, closedStep] at h
    split at h <;> cases h
    exact ⟨rfl, rfl, rfl, rfl, rfl, rfl, rfl, rfl⟩
  | serve =>
    rw [step, serveStep] at h
    split at h <;> cases h
    exact ⟨rfl, rfl, rfl, rfl, rfl, rfl, rfl, rfl⟩
  | answer =>
    rw [step, answerStep] at h
    split at h <;> cases h
    exact ⟨rfl, rfl, rfl, rfl, rfl, rfl, rfl, rfl⟩

/-- **Where nothing is on its way**, nothing comes: each of the steps finds its
place empty, or changes nothing but the connection. -/
theorem still_step {e : Event P} {x : σ} {before : List (ClientRequest P)} (he : Beside e)
    (h : step pb target s e = some s') (hwire : s.wire = still x before) :
    s'.wire = still x before ∧ s'.recvBuff = s.recvBuff := by
  have hrequests : s.requests = [] := congrArg OnWire.requests hwire
  have hanswers : s.answers = [] := congrArg OnWire.answers hwire
  have hcoming : s.receiving.toList ++ s.pieces = [] := congrArg OnWire.coming hwire
  obtain ⟨hreceiving, hpieces⟩ := List.append_eq_nil_iff.mp hcoming
  rw [Option.toList_eq_nil_iff] at hreceiving
  have hasked : s.server.writable = false := congrArg OnWire.asked hwire
  cases he with
  | deliver front =>
    rw [step, deliverStep, hanswers] at h
    split at h
    · next heq => cases heq
    · cases h
  | arrive =>
    rw [step, arriveStep, hpieces] at h
    split at h
    · next heq => cases heq
    · cases h
  | receive =>
    rw [step, receiveStep, hreceiving] at h
    cases h
  | closed =>
    rw [step, closedStep] at h
    split at h <;> cases h
    exact ⟨hwire, rfl⟩
  | serve =>
    rw [step, serveStep, hrequests] at h
    cases h
  | answer =>
    rw [step, answerStep, hasked] at h
    cases h

section Way

variable {x : σ} {before : List (ClientRequest P)} {q : ClientRequest P}

/-- **A message comes**, where no piece of an earlier one is left. -/
theorem Way.deliver {front : List Received} (hway : Way pb target x before q s)
    (hnone : s.clientData = {}) (h : deliverStep s front = some s') :
    Way pb target x before q s' := by
  unfold deliverStep at h
  split at h
  case h_2 => cases h
  case h_1 m ms hpieces hreceiving _ hanswers =>
    split at h <;> cases h
    next hfits =>
    rw [Bool.and_eq_true, List.all_eq_true] at hfits
    obtain ⟨hfront, hprefix⟩ := hfits
    have hm : s.wire.answers = m :: ms := hanswers
    cases hway with
    | sent hwire _ => rw [hwire] at hm; cases hm
    | served hwire _ _ => rw [hwire] at hm; cases hm
    | delivered _ hwire _ _ => rw [hwire] at hm; cases hm
    | received hwire _ => rw [hwire] at hm; cases hm
    | answered hwire hrecv =>
      rw [hwire] at hm
      obtain ⟨rfl, rfl⟩ := List.cons.inj hm
      obtain ⟨back, hback⟩ := List.isPrefixOf_iff_prefix.mp hprefix
      have hdrop : (message pb (target x q).2.1 (target x q).2.2).drop
          (front.flatMap Received.bytes).length = back := by
        rw [← hback, List.drop_left]
      rw [hdrop]
      refine .delivered (front ++ [⟨back, 0, true⟩]) ?_ ⟨by simp, [], ?_⟩ hrecv
      · have hrest := congrArg (fun w : OnWire P σ =>
          { w with answers := [], coming := front ++ [Received.mk back 0 true] }) hwire
        refine Eq.trans ?_ hrest
        simp only [State.wire, hreceiving, Option.toList_none, List.nil_append]
      · refine ⟨⟨front, ⟨back, 0, true⟩, fun r hr => ?_, rfl⟩, ?_, rfl, hnone⟩
        · simpa using hfront r hr
        · rw [← hback, Delivery.message, Delivery.pieces, List.flatMap_append,
            List.flatMap_singleton]

/-- The service thread takes a piece. -/
theorem Way.arrive (hway : Way pb target x before q s) (h : arriveStep s = some s') :
    Way pb target x before q s' := by
  unfold arriveStep at h
  split at h
  · next r rs hreceiving _ hpieces =>
    cases h
    have hcoming : s.wire.coming = r :: rs := by
      simp only [State.wire, hreceiving, hpieces, Option.toList_none, List.nil_append]
    cases hway with
    | sent hwire _ => rw [hwire] at hcoming; cases hcoming
    | served hwire _ _ => rw [hwire] at hcoming; cases hcoming
    | answered hwire _ => rw [hwire] at hcoming; cases hcoming
    | received hwire _ => rw [hwire] at hcoming; cases hcoming
    | delivered rest hwire hrest hrecv =>
      refine .delivered rest (Eq.trans ?_ hwire) hrest hrecv
      simp only [State.wire, hreceiving, hpieces, Option.toList_none, Option.toList_some,
        List.nil_append, List.singleton_append]
  · cases h

/-- **A piece of a message**: it is kept, or the message is there. -/
theorem Coming.receive {m : Bytes} {r : Received} {rs : List Received} {clientData : ClientData}
    (h : Coming m (r :: rs) clientData) :
    (r.isLast = false ∧ (clientReceive clientData r).2 = none
        ∧ Coming m rs (clientReceive clientData r).1)
      ∨ rs = [] ∧ (clientReceive clientData r).2 = some m := by
  obtain ⟨-, done, d, hm, hpieces, rfl⟩ := h
  rw [Delivery.pieces] at hpieces
  cases rs using List.reverseRecOn with
  | nil =>
    -- the last piece
    obtain ⟨hfront, hback⟩ := List.append_inj' hpieces rfl
    cases hback
    have hlast := d.back_isLast
    rw [Received.isLast] at hlast
    refine .inr ⟨rfl, ?_⟩
    rw [clientReceive, if_pos hlast, ← hm, Delivery.message, Delivery.pieces,
      List.flatMap_append, List.flatMap_singleton, hfront]
    cases done with
    | nil => rfl
    | cons _ _ => rfl
  | append_singleton rs last =>
    have hcut : d.front ++ [d.back] = (done ++ r :: rs) ++ [last] := by
      rw [hpieces, List.append_assoc, List.cons_append]
    obtain ⟨hfront, -⟩ := List.append_inj' hcut rfl
    have hnot : r.isLast = false := d.front_isLast r (by
      rw [hfront]
      exact List.mem_append_right _ List.mem_cons_self)
    have hlast : ¬ (r.remaining == 0 && r.isFinal) = true := by
      rw [Received.isLast] at hnot
      rw [hnot]
      exact Bool.noConfusion
    rw [clientReceive, if_neg hlast]
    refine .inl ⟨hnot, rfl, by simp, done ++ [r], d, hm, ?_, ?_⟩
    · rw [Delivery.pieces, hpieces, List.append_assoc]
      rfl
    · rw [kept, kept, List.flatMap_append, List.flatMap_singleton]
      cases done <;> rfl

/-- **The client is given a piece.** With the last of them the message is
handled, into a `recv_buff` that was cleared before the request was sent. -/
theorem Way.receive (hway : Way pb target x before q s) (h : receiveStep pb s = some s') :
    Way pb target x before q s' := by
  unfold receiveStep at h
  split at h
  case h_2 => cases h
  case h_1 r hreceiving _ =>
    have hcoming : s.wire.coming = r :: s.pieces := by
      simp only [State.wire, hreceiving, Option.toList_some, List.singleton_append]
    cases hway with
    | sent hwire _ => rw [hwire] at hcoming; cases hcoming
    | served hwire _ _ => rw [hwire] at hcoming; cases hcoming
    | answered hwire _ => rw [hwire] at hcoming; cases hcoming
    | received hwire _ => rw [hwire] at hcoming; cases hcoming
    | delivered rest hwire hrest hrecv =>
      have heq : rest = r :: s.pieces := by rw [← hcoming, hwire]
      subst heq
      rcases hrest.receive with ⟨-, hnone, hrest'⟩ | ⟨hpieces, hsome⟩
      · split at h
        · next hreceive =>
          rw [hreceive] at hnone
          cases hnone
        · next clientData hreceive =>
          cases h
          rw [hreceive] at hrest'
          have hstill := congrArg (fun w : OnWire P σ => { w with coming := s.pieces }) hwire
          exact .delivered s.pieces hstill hrest' hrecv
      · split at h
        · next clientData m hreceive =>
          cases h
          rw [hreceive] at hsome
          cases hsome
          have hreceived := congrArg (fun w : OnWire P σ =>
            { w with coming := s.pieces, dataReceived := true }) hwire
          rw [hpieces] at hreceived
          refine .received (Eq.trans ?_ hreceived)
            ((congrArg (fun r => handle pb r _) hrecv).trans (handle_message ..))
          simp only [State.wire, hpieces]
          rfl
        · next hreceive =>
          rw [hreceive] at hsome
          cases hsome

/-- The server takes the request and asks the target. -/
theorem Way.serve (hway : Way pb target x before q s) (h : serveStep target s = some s') :
    Way pb target x before q s' := by
  unfold serveStep at h
  split at h
  · cases h
  · next q' qs hrequests =>
    cases h
    have hq : s.wire.requests = q' :: qs := hrequests
    cases hway with
    | sent hwire hrecv =>
      rw [hwire] at hq
      obtain ⟨rfl, rfl⟩ := List.cons.inj hq
      have hsdk : s.server.sdk = x := congrArg OnWire.sdk hwire
      have hframe : s.server.frame = none := congrArg OnWire.frame hwire
      have horElse : (target x q).2.2.orElse (fun _ => none) = (target x q).2.2 := by
        cases (target x q).2.2 <;> rfl
      have hrest := congrArg (fun w : OnWire P σ =>
        { w with
          requests := [], sdk := (target x q).1, frame := (target x q).2.2, asked := true
          executed := w.executed ++ [q] }) hwire
      refine .served (Eq.trans ?_ hrest) ?_ hrecv
      · simp only [State.wire, hsdk, hframe, horElse]
      · exact congrArg (fun y => (target y q).2.1) hsdk
    | served hwire _ _ => rw [hwire] at hq; cases hq
    | answered hwire _ => rw [hwire] at hq; cases hq
    | delivered _ hwire _ _ => rw [hwire] at hq; cases hq
    | received hwire _ => rw [hwire] at hq; cases hq

/-- The server writes its answer, as one message. -/
theorem Way.answer (hway : Way pb target x before q s) (h : answerStep pb s = some s') :
    Way pb target x before q s' := by
  unfold answerStep at h
  split at h
  · next hwritable =>
    cases h
    have hasked : s.wire.asked = true := hwritable
    cases hway with
    | sent hwire _ => rw [hwire] at hasked; cases hasked
    | served hwire hsend hrecv =>
      have hframe : s.server.frame = (target x q).2.2 := congrArg OnWire.frame hwire
      have hanswers : s.answers = [] := congrArg OnWire.answers hwire
      have hrest := congrArg (fun w : OnWire P σ =>
        { w with
          frame := none, asked := false
          answers := [message pb (target x q).2.1 (target x q).2.2] }) hwire
      refine .answered (Eq.trans ?_ hrest) hrecv
      simp only [State.wire, hsend, hframe, hanswers, List.nil_append]
    | answered hwire _ => rw [hwire] at hasked; cases hasked
    | delivered _ hwire _ _ => rw [hwire] at hasked; cases hasked
    | received hwire _ => rw [hwire] at hasked; cases hasked
  · cases h

/-- **No piece is left when a message comes.** A message in one piece leaves none,
and one in several pieces leaves them all. -/
def Clear (s : State P R σ) : Event P → Prop
  | .deliver _ => s.clientData = {}
  | _ => True

/-- **A request stays on its way** until it is received. -/
theorem Way.step {e : Event P} (he : Beside e) (hway : Way pb target x before q s)
    (hclear : Clear s e) (h : step pb target s e = some s') : Way pb target x before q s' := by
  cases he with
  | deliver => exact hway.deliver hclear h
  | arrive => exact hway.arrive h
  | receive => exact hway.receive h
  | serve => exact hway.serve h
  | answer => exact hway.answer h
  | closed =>
    rw [Network.step, closedStep] at h
    split at h <;> cases h
    cases hway with
    | sent hwire hrecv => exact .sent hwire hrecv
    | served hwire hsend hrecv => exact .served hwire hsend hrecv
    | answered hwire hrecv => exact .answered hwire hrecv
    | delivered rest hwire hrest hrecv => exact .delivered rest hwire hrest hrecv
    | received hwire hrecv => exact .received hwire hrecv

end Way

/-! ### Steps of a call

In `SendCommand` and `recv_server_data`, step by step in the order of the code.
A wait has two ends, and each step behind one looks at what was written while it
waited.

The places behind a write are told apart by what `lws_write` has returned. If it
is no error, the request is on its way (`written`), and if it is one, the call
will see that `nBytes` is negative (`unwritten`). A number of bytes that is not
the size of the request sends the call back to the loop with nothing in
`send_buff` (`stuck`), and so does a wait in `recv_server_data` that ends too
early. From `stuck` no step leads to `written`, as what is empty is not sent. -/

section Call

variable {x : σ} {before : List (ClientRequest P)} {q : ClientRequest P}

/-- **A step beside the caller** leaves the call where it is. -/
theorem Phase.beside {e : Event P} (he : Beside e) (hphase : Phase pb target x before q s)
    (hclear : Clear s e) (h : step pb target s e = some s') : Phase pb target x before q s' := by
  obtain ⟨hcaller', hbuff', hnBytes', hflag', hwritable', -, -, -⟩ := sameCaller_step he h
  cases hphase with
  | filling ps hcaller hwire hname hparams hflag hwritable =>
    obtain ⟨hwire', -⟩ := still_step he h hwire
    exact .filling ps (hcaller'.trans hcaller) hwire' (by rw [hbuff', hname])
      (by rw [hbuff', hparams]) (hflag'.trans hflag) (hwritable'.trans hwritable)
  | starting stage hcaller hstage hwire hbuff hflag hwritable =>
    obtain ⟨hwire', hrecv'⟩ := still_step he h hwire
    refine .starting stage (hcaller'.trans hcaller) ?_ hwire' (hbuff'.trans hbuff)
      (hflag'.trans hflag) (hwritable'.trans hwritable)
    cases hstage with
    | size => exact .size
    | clear siz => exact .clear siz
    | loop siz hrecv => exact .loop siz (hrecv'.trans hrecv)
  | asking siz n hcaller hwire hbuff hrecv hflag =>
    obtain ⟨hwire', hrecv'⟩ := still_step he h hwire
    exact .asking siz n (hcaller'.trans hcaller) hwire' (hbuff'.trans hbuff) (hrecv'.trans hrecv)
      (hflag'.trans hflag)
  | written siz n hcaller hway hbuff hwritable =>
    exact .written siz n (hcaller'.trans hcaller) (hway.step he hclear h) (hbuff'.trans hbuff)
      (hwritable'.trans hwritable)
  | unwritten siz n hcaller hname hnBytes hflag =>
    exact .unwritten siz n (hcaller'.trans hcaller) (by rw [hbuff', hname])
      (by rwa [hnBytes']) (hflag'.trans hflag)
  | stuck context stage hcaller hname hflag =>
    exact .stuck context stage (hcaller'.trans hcaller) (by rw [hbuff', hname])
      (hflag'.trans hflag)
  | waiting n hcaller hway hbuff hflag hwritable =>
    exact .waiting n (by rwa [hcaller']) (hway.step he hclear h) (hbuff'.trans hbuff)
      (hflag'.trans hflag) (hwritable'.trans hwritable)
  | received hcaller hwire hrecv hbuff hflag hwritable =>
    obtain ⟨hwire', hrecv'⟩ := still_step he h hwire
    exact .received (hcaller'.trans hcaller) hwire' (hrecv'.trans hrecv) (hbuff'.trans hbuff)
      (hflag'.trans hflag) (hwritable'.trans hwritable)

/-- The call goes on: it is the same call, and those before it have returned
what they have. -/
structure Goes (pb : Protobuf P R) (target : Target P R σ) (x : σ)
    (before : List (ClientRequest P)) (q : ClientRequest P) (s s' : State P R σ) : Prop where
  /-- It is the same call. -/
  begun : s'.begun = s.begun
  /-- No call has returned. -/
  returned : s'.returned = s.returned
  /-- It is at a place of its own. -/
  phase : Phase pb target x before q s'

/-- The caller's own steps leave a request where it is, as they touch nothing
that is on its way. -/
theorem Way.congr (hway : Way pb target x before q s) (hwire : s'.wire = s.wire)
    (hrecv : s'.recvBuff = s.recvBuff) (hsend : s'.server.buffSend = s.server.buffSend)
    (hdata : s'.clientData = s.clientData) : Way pb target x before q s' := by
  cases hway with
  | sent h hr => exact .sent (hwire.trans h) (hrecv.trans hr)
  | served h hs hr => exact .served (hwire.trans h) (hsend.trans hs) (hrecv.trans hr)
  | answered h hr => exact .answered (hwire.trans h) (hrecv.trans hr)
  | delivered rest h hrest hr =>
    rw [← hdata] at hrest
    exact .delivered rest (hwire.trans h) hrest (hrecv.trans hr)
  | received h hr => exact .received (hwire.trans h) (hrecv.trans hr)

/-- Nobody waits for a write that has not been asked for. -/
theorem Phase.unasked (hphase : Phase pb target x before q s) :
    Phase pb target x before q { s with writable := false } := by
  cases hphase with
  | filling ps hcaller hwire hname hparams hflag _ =>
    exact .filling ps hcaller hwire hname hparams hflag rfl
  | starting stage hcaller hstage hwire hbuff hflag _ =>
    refine .starting stage hcaller ?_ hwire hbuff hflag rfl
    cases hstage with
    | size => exact .size
    | clear siz => exact .clear siz
    | loop siz hrecv => exact .loop siz hrecv
  | asking siz n hcaller hwire hbuff hrecv hflag =>
    exact .asking siz n hcaller hwire hbuff hrecv hflag
  | written siz n hcaller hway hbuff _ =>
    exact .written siz n hcaller (hway.congr rfl rfl rfl rfl) hbuff rfl
  | unwritten siz n hcaller hname hnBytes hflag =>
    exact .unwritten siz n hcaller hname hnBytes hflag
  | stuck context stage hcaller hname hflag => exact .stuck context stage hcaller hname hflag
  | waiting n hcaller hway hbuff hflag _ =>
    exact .waiting n hcaller (hway.congr rfl rfl rfl rfl) hbuff hflag rfl
  | received hcaller hwire hrecv hbuff hflag _ =>
    exact .received hcaller hwire hrecv hbuff hflag rfl

/-- What is there to be written, once a write has been asked for. -/
theorem Phase.of_asked (hphase : Phase pb target x before q s) (hasked : s.writable = true) :
    s.sendBuff.funcName = [] ∨ ∃ siz n, s.caller = .send .call (.wait siz n)
      ∧ s.wire = still x before ∧ s.sendBuff = q ∧ s.recvBuff = pb.cleared := by
  cases hphase with
  | asking siz n hcaller hwire hbuff hrecv _ => exact .inr ⟨siz, n, hcaller, hwire, hbuff, hrecv⟩
  | unwritten _ _ _ hname => exact .inl hname
  | stuck _ _ _ hname => exact .inl hname
  | filling _ _ _ _ _ _ hwritable => cases hasked.symm.trans hwritable
  | starting _ _ _ _ _ _ hwritable => cases hasked.symm.trans hwritable
  | written _ _ _ _ _ hwritable => cases hasked.symm.trans hwritable
  | waiting _ _ _ _ _ hwritable => cases hasked.symm.trans hwritable
  | received _ _ _ _ _ hwritable => cases hasked.symm.trans hwritable

/-- **`callback_function` is called to write.** -/
theorem Phase.writeable {n : ℤ} (hphase : Phase pb target x before q s)
    (h : writeableStep s n = some s') : Goes pb target x before q s s' := by
  unfold writeableStep at h
  split at h
  case isFalse => cases h
  case isTrue hguard =>
    rw [Bool.and_eq_true, Bool.and_eq_true] at hguard
    cases hname : s.sendBuff.funcName.isEmpty with
    | true =>
      rw [hname, if_pos rfl] at h
      cases h
      exact ⟨rfl, rfl, hphase.unasked⟩
    | false =>
      rw [hname, if_neg Bool.false_ne_true] at h
      cases h
      refine ⟨rfl, rfl, ?_⟩
      rcases hphase.of_asked hguard.1.2 with hnil | ⟨siz, m, hcaller, hwire, hbuff, hrecv⟩
      · rw [hnil] at hname
        cases hname
      by_cases hn : n < 0
      · exact .unwritten siz m hcaller rfl hn rfl
      · refine .written siz m hcaller (.sent ?_ hrecv) rfl rfl
        have hrequests : s.requests = [] := congrArg OnWire.requests hwire
        have hrest := congrArg (fun w : OnWire P σ => { w with requests := [q] }) hwire
        refine Eq.trans ?_ hrest
        simp only [State.wire, hn, if_false, hrequests, hbuff, List.nil_append]

/-- In `recv_server_data`, the request is on its way. -/
theorem Phase.of_waiting {n : ℕ} (hphase : Phase pb target x before q s)
    (h : s.caller = .round n ∨ s.caller = .receive n) :
    Way pb target x before q s ∧ s.sendBuff = {} ∧ s.sendSuccessful = false
      ∧ s.writable = false := by
  cases hphase with
  | waiting _ _ hway hbuff hflag hwritable => exact ⟨hway, hbuff, hflag, hwritable⟩
  | filling _ hcaller => rcases h with h | h <;> cases h.symm.trans hcaller
  | starting _ hcaller => rcases h with h | h <;> cases h.symm.trans hcaller
  | asking _ _ hcaller => rcases h with h | h <;> cases h.symm.trans hcaller
  | written _ _ hcaller => rcases h with h | h <;> cases h.symm.trans hcaller
  | unwritten _ _ hcaller => rcases h with h | h <;> cases h.symm.trans hcaller
  | stuck _ _ hcaller => rcases h with h | h <;> cases h.symm.trans hcaller
  | received hcaller => rcases h with h | h <;> cases h.symm.trans hcaller

/-- Between two calls there is none under way. -/
theorem not_phase_idle (h : s.caller = .idle) : ¬ Phase pb target x before q s := by
  intro hphase
  cases hphase with
  | filling _ hcaller => cases h.symm.trans hcaller
  | starting _ hcaller => cases h.symm.trans hcaller
  | asking _ _ hcaller => cases h.symm.trans hcaller
  | written _ _ hcaller => cases h.symm.trans hcaller
  | unwritten _ _ hcaller => cases h.symm.trans hcaller
  | stuck _ _ hcaller => cases h.symm.trans hcaller
  | waiting _ hcaller => rcases hcaller with hcaller | hcaller <;> cases h.symm.trans hcaller
  | received hcaller => cases h.symm.trans hcaller

/-- **A wait ends too early**: the call fails, or it sends again what it does not
have any more. -/
theorem Phase.timeout (hphase : Phase pb target x before q s) (h : timeoutStep s = some s') :
    s'.failed = true ∨ Goes pb target x before q s s' := by
  unfold timeoutStep at h
  split at h
  · split at h <;> cases h
    exact .inl (failed_fail _ _)
  · next n hcaller =>
    split at h <;> cases h
    obtain ⟨-, hbuff, hflag, -⟩ := hphase.of_waiting (.inr hcaller)
    exact .inr ⟨rfl, rfl, .stuck (.receive n) .size rfl (congrArg _ hbuff) hflag⟩
  · cases h

/-- What `SendCommand` finds behind its wait. -/
theorem Phase.of_flag {context : Context} {siz : ℤ} {n : ℕ}
    (hphase : Phase pb target x before q s) (h : s.caller = .send context (.wait siz n))
    (hflag : s.sendSuccessful = true) :
    s.sendBuff.funcName = [] ∧ (s.nBytes < 0 ∨ context = .call ∧ Way pb target x before q s
      ∧ s.sendBuff = {} ∧ s.writable = false) := by
  have habsurd : s.sendSuccessful ≠ false := fun hfalse => by
    rw [hfalse] at hflag
    cases hflag
  cases hphase with
  | written _ _ hcaller hway hbuff hwritable =>
    cases h.symm.trans hcaller
    exact ⟨congrArg _ hbuff, .inr ⟨rfl, hway, hbuff, hwritable⟩⟩
  | unwritten _ _ hcaller hname hnBytes => exact ⟨hname, .inl hnBytes⟩
  | asking _ _ _ _ _ _ hfalse => exact absurd hfalse habsurd
  | stuck _ _ _ _ hfalse => exact absurd hfalse habsurd
  | filling _ hcaller => cases h.symm.trans hcaller
  | starting _ _ _ _ _ hfalse => exact absurd hfalse habsurd
  | waiting _ _ _ _ hfalse => exact absurd hfalse habsurd
  | received hcaller => cases h.symm.trans hcaller

/-- What is found in `recv_server_data` with the flag set. -/
theorem Way.of_dataReceived (hway : Way pb target x before q s) (h : s.dataReceived = true) :
    s.wire = { still (target x q).1 (before ++ [q]) with dataReceived := true }
      ∧ s.recvBuff = (direct pb target x q).2 := by
  have hflag : s.wire.dataReceived = true := h
  cases hway with
  | received hwire hrecv => exact ⟨hwire, hrecv⟩
  | sent hwire => rw [hwire] at hflag; cases hflag
  | served hwire => rw [hwire] at hflag; cases hflag
  | answered hwire => rw [hwire] at hflag; cases hflag
  | delivered _ hwire => rw [hwire] at hflag; cases hflag

/-- **A wait ends with its flag.** -/
theorem Phase.wake (hphase : Phase pb target x before q s) (h : wakeStep s = some s') :
    s'.failed = true ∨ Goes pb target x before q s s' := by
  unfold wakeStep at h
  split at h
  · next context siz n hcaller =>
    split at h
    case isFalse => cases h
    case isTrue hflag =>
      obtain ⟨hname, hwritten⟩ := hphase.of_flag hcaller hflag
      split at h
      case isTrue => cases h; exact .inl (failed_fail _ _)
      case isFalse hnBytes =>
        obtain ⟨rfl, hway, hbuff, hwritable⟩ := hwritten.resolve_left hnBytes
        split at h
        case isTrue =>
          cases h
          exact .inr ⟨rfl, rfl,
            .waiting 0 (.inl rfl) (hway.congr rfl rfl rfl rfl) hbuff rfl hwritable⟩
        case isFalse =>
          split at h <;> cases h
          · exact .inl (failed_fail _ _)
          · exact .inr ⟨rfl, rfl, .stuck .call (.loop siz n) rfl hname rfl⟩
  · next n hcaller =>
    split at h <;> cases h
    next hflag =>
    obtain ⟨hway, hbuff, hsuccessful, hwritable⟩ := hphase.of_waiting (.inr hcaller)
    obtain ⟨hwire, hrecv⟩ := hway.of_dataReceived hflag
    have hrest := congrArg (fun w : OnWire P σ => { w with dataReceived := false }) hwire
    exact .inr ⟨rfl, rfl, .received rfl hrest hrecv hbuff hsuccessful hwritable⟩
  · cases h

/-- In `SendCommand`, in front of a wait. -/
theorem Phase.of_send {context : Context} {stage : Stage} (hphase : Phase pb target x before q s)
    (h : s.caller = .send context stage) (hstage : ∀ siz n, stage ≠ .wait siz n) :
    (context = .call ∧ Starting pb q s stage ∧ s.wire = still x before ∧ s.sendBuff = q
        ∧ s.sendSuccessful = false ∧ s.writable = false)
      ∨ s.sendBuff.funcName = [] ∧ s.sendSuccessful = false := by
  cases hphase with
  | starting _ hcaller hstarting hwire hbuff hflag hwritable =>
    cases h.symm.trans hcaller
    exact .inl ⟨rfl, hstarting, hwire, hbuff, hflag, hwritable⟩
  | stuck _ _ _ hname hflag => exact .inr ⟨hname, hflag⟩
  | filling _ hcaller => cases h.symm.trans hcaller
  | asking siz n hcaller => cases h.symm.trans hcaller; exact absurd rfl (hstage siz n)
  | written siz n hcaller => cases h.symm.trans hcaller; exact absurd rfl (hstage siz n)
  | unwritten siz n hcaller => cases h.symm.trans hcaller; exact absurd rfl (hstage siz n)
  | waiting _ hcaller =>
    rcases hcaller with hcaller | hcaller <;> cases h.symm.trans hcaller
  | received hcaller => cases h.symm.trans hcaller

/-- While the parameters are added. -/
theorem Phase.of_filling {ps : List P} (hphase : Phase pb target x before q s)
    (h : s.caller = .filling ps) :
    s.wire = still x before ∧ s.sendBuff.funcName = q.funcName ∧ s.sendBuff.params ++ ps = q.params
      ∧ s.sendSuccessful = false ∧ s.writable = false := by
  cases hphase with
  | filling _ hcaller hwire hname hparams hflag hwritable =>
    cases h.symm.trans hcaller
    exact ⟨hwire, hname, hparams, hflag, hwritable⟩
  | starting _ hcaller => cases h.symm.trans hcaller
  | asking _ _ hcaller => cases h.symm.trans hcaller
  | written _ _ hcaller => cases h.symm.trans hcaller
  | unwritten _ _ hcaller => cases h.symm.trans hcaller
  | stuck _ _ hcaller => cases h.symm.trans hcaller
  | waiting _ hcaller =>
    rcases hcaller with hcaller | hcaller <;> cases h.symm.trans hcaller
  | received hcaller => cases h.symm.trans hcaller

/-- Behind the last wait. -/
theorem Phase.of_received (hphase : Phase pb target x before q s) (h : s.caller = .received) :
    s.wire = still (target x q).1 (before ++ [q]) ∧ s.recvBuff = (direct pb target x q).2
      ∧ s.sendSuccessful = false ∧ s.writable = false := by
  cases hphase with
  | received _ hwire hrecv _ hflag hwritable => exact ⟨hwire, hrecv, hflag, hwritable⟩
  | filling _ hcaller => cases h.symm.trans hcaller
  | starting _ hcaller => cases h.symm.trans hcaller
  | asking _ _ hcaller => cases h.symm.trans hcaller
  | written _ _ hcaller => cases h.symm.trans hcaller
  | unwritten _ _ hcaller => cases h.symm.trans hcaller
  | stuck _ _ hcaller => cases h.symm.trans hcaller
  | waiting _ hcaller =>
    rcases hcaller with hcaller | hcaller <;> cases h.symm.trans hcaller

/-- The call returns. -/
structure Returns (pb : Protobuf P R) (target : Target P R σ) (x : σ)
    (before : List (ClientRequest P)) (q : ClientRequest P) (s s' : State P R σ) : Prop where
  /-- It is the last call that was begun. -/
  begun : s'.begun = s.begun
  /-- It returns what the client makes of the answer. -/
  returned : s'.returned = s.returned ++ [(direct pb target x q).2]
  /-- It leaves nothing behind. -/
  idle : Idle (target x q).1 (before ++ [q]) s'

/-- **A step of the caller.** -/
theorem Phase.caller (hphase : Phase pb target x before q s) (h : callerStep pb s = some s') :
    s'.failed = true ∨ Goes pb target x before q s s' ∨ Returns pb target x before q s s' := by
  unfold callerStep at h
  split at h
  · cases h
  · next hcaller =>
    cases h
    obtain ⟨hwire, hname, hparams, hflag, hwritable⟩ := hphase.of_filling hcaller
    have hbuff : s.sendBuff = q := ClientRequest.ext hname (by rw [← hparams, List.append_nil])
    exact .inr (.inl ⟨rfl, rfl, .starting .size rfl .size hwire hbuff hflag hwritable⟩)
  · next p ps hcaller =>
    cases h
    obtain ⟨hwire, hname, hparams, hflag, hwritable⟩ := hphase.of_filling hcaller
    refine .inr (.inl ⟨rfl, rfl, .filling ps rfl hwire hname ?_ hflag hwritable⟩)
    rw [← hparams, List.append_assoc]
    rfl
  · next context hcaller =>
    cases h
    rcases hphase.of_send hcaller nofun with
      ⟨rfl, -, hwire, hbuff, hflag, hwritable⟩ | ⟨hname, hflag⟩
    · exact .inr (.inl ⟨rfl, rfl, .starting _ rfl (.clear _) hwire hbuff hflag hwritable⟩)
    · exact .inr (.inl ⟨rfl, rfl, .stuck context _ rfl hname hflag⟩)
  · next context siz hcaller =>
    cases h
    rcases hphase.of_send hcaller nofun with
      ⟨rfl, -, hwire, hbuff, hflag, hwritable⟩ | ⟨hname, hflag⟩
    · exact .inr (.inl ⟨rfl, rfl, .starting _ rfl (.loop siz rfl) hwire hbuff hflag hwritable⟩)
    · exact .inr (.inl ⟨rfl, rfl, .stuck context _ rfl hname hflag⟩)
  · next context siz n hcaller =>
    split at h <;> cases h
    · rcases hphase.of_send hcaller nofun with
        ⟨rfl, hstage, hwire, hbuff, hflag, -⟩ | ⟨hname, hflag⟩
      · cases hstage with
        | loop _ hrecv => exact .inr (.inl ⟨rfl, rfl, .asking siz 1 rfl hwire hbuff hrecv hflag⟩)
      · exact .inr (.inl ⟨rfl, rfl, .stuck context _ rfl hname hflag⟩)
    · exact .inl (failed_fail _ _)
  · cases h
  · next n hcaller =>
    split at h <;> cases h
    · obtain ⟨hway, hbuff, hflag, hwritable⟩ := hphase.of_waiting (.inl hcaller)
      exact .inr (.inl ⟨rfl, rfl,
        .waiting (n + 1) (.inr rfl) (hway.congr rfl rfl rfl rfl) hbuff hflag hwritable⟩)
    · exact .inl (failed_fail _ _)
  · cases h
  · next hcaller =>
    obtain ⟨hwire, hrecv, hflag, hwritable⟩ := hphase.of_received hcaller
    cases hconnected : s.serverConnected with
    | true =>
      rw [hconnected, if_pos rfl] at h
      cases h
      exact .inr (.inr ⟨rfl, by rw [← hrecv], rfl, hwire, rfl, hflag, hwritable⟩)
    | false =>
      rw [hconnected, if_neg Bool.false_ne_true] at h
      cases h
      exact .inl (failed_fail _ _)

end Call

/-! ### Runs

A run is put together from the steps: between two calls a call is begun or
nothing happens, and within a call it goes on, returns or fails. A failed run
stays failed, so that the theorem is about all runs in which no call has. -/

/-- A call that has failed stays failed. -/
theorem failed_step {e : Event P} (h : step pb target s e = some s') (hs : s.failed = true) :
    s'.failed = true := by
  cases step_moves h with
  | begins _ _ _ _ hfailed => exact hfailed.trans hs
  | leaves _ _ _ hfailed => exact hfailed.trans hs
  | rests _ _ _ hfailed => exact hfailed.elim (fun h => h.trans hs) id

/-- The target is asked once more. -/
theorem directs_concat (x : σ) (qs : List (ClientRequest P)) (q : ClientRequest P) :
    directs pb target x (qs ++ [q])
      = ((target (directs pb target x qs).1 q).1,
          (directs pb target x qs).2 ++ [(direct pb target (directs pb target x qs).1 q).2]) := by
  induction qs generalizing x with
  | nil => rfl
  | cons q' qs ih =>
    rw [List.cons_append, directs, ih]
    rfl

section Runs

variable {x : σ} {before : List (ClientRequest P)}

/-- **Between two calls** nothing happens, but that the connection is closed, or
a call begun. -/
theorem Idle.step {e : Event P} (hidle : Idle x before s) (h : step pb target s e = some s') :
    (s'.begun = s.begun ∧ s'.returned = s.returned ∧ Idle x before s') ∨ s'.failed = true
      ∨ ∃ q, s'.begun = s.begun ++ [q] ∧ s'.returned = s.returned
        ∧ Phase pb target x before q s' := by
  obtain ⟨hcaller, hwire, hbuff, hflag, hwritable⟩ := hidle
  have hbeside : Beside e → s'.begun = s.begun ∧ s'.returned = s.returned ∧ Idle x before s' := by
    intro he
    obtain ⟨hcaller', hbuff', -, hflag', hwritable', hbegun', hreturned', -⟩ :=
      sameCaller_step he h
    exact ⟨hbegun', hreturned', hcaller'.trans hcaller, (still_step he h hwire).1,
      hbuff'.trans hbuff, hflag'.trans hflag, hwritable'.trans hwritable⟩
  cases e with
  | begin q =>
    rw [Network.step, begin, hcaller] at h
    cases hconnected : s.serverConnected with
    | true =>
      rw [hconnected] at h
      cases h
      refine .inr (.inr ⟨q, rfl, rfl, .filling q.params rfl hwire rfl ?_ hflag hwritable⟩)
      rw [hbuff]
      rfl
    | false =>
      rw [hconnected] at h
      cases h
      exact .inr (.inl rfl)
  | caller =>
    rw [Network.step, callerStep, hcaller] at h
    cases h
  | wake =>
    rw [Network.step, wakeStep, hcaller] at h
    cases h
  | timeout =>
    rw [Network.step, timeoutStep, hcaller] at h
    cases h
  | writeable n =>
    rw [Network.step, writeableStep, hwritable, Bool.and_false, Bool.false_and] at h
    cases h
  | deliver front => exact .inl (hbeside (.deliver front))
  | arrive => exact .inl (hbeside .arrive)
  | receive => exact .inl (hbeside .receive)
  | closed => exact .inl (hbeside .closed)
  | serve => exact .inl (hbeside .serve)
  | answer => exact .inl (hbeside .answer)

/-- **A step within a call**: it fails, goes on, or returns. -/
theorem Phase.step {q : ClientRequest P} {e : Event P} (hphase : Phase pb target x before q s)
    (hclear : Clear s e) (h : step pb target s e = some s') :
    s'.failed = true ∨ Goes pb target x before q s s' ∨ Returns pb target x before q s s' := by
  have hbeside : Beside e → Goes pb target x before q s s' := fun he =>
    ⟨(sameCaller_step he h).begun, (sameCaller_step he h).returned, hphase.beside he hclear h⟩
  cases e with
  | begin q' =>
    rw [Network.step, begin] at h
    split at h
    · next hcaller => exact absurd hphase (not_phase_idle hcaller)
    · cases h
  | caller => exact hphase.caller h
  | wake => exact (hphase.wake h).imp id .inl
  | timeout => exact (hphase.timeout h).imp id .inl
  | writeable n => exact .inr (.inl (hphase.writeable h))
  | deliver front => exact .inr (.inl (hbeside (.deliver front)))
  | arrive => exact .inr (.inl (hbeside .arrive))
  | receive => exact .inr (.inl (hbeside .receive))
  | closed => exact .inr (.inl (hbeside .closed))
  | serve => exact .inr (.inl (hbeside .serve))
  | answer => exact .inr (.inl (hbeside .answer))

/-- The invariant, step by step. -/
theorem correct_step {e : Event P} (hclear : Clear s e) (h : step pb target s e = some s')
    (hs : s.failed = false → Correct pb target x s) (hfailed : s'.failed = false) :
    Correct pb target x s' := by
  have hnot : s'.failed ≠ true := fun htrue => by
    rw [htrue] at hfailed
    cases hfailed
  have hbefore : s.failed = false := Bool.eq_false_iff.mpr fun htrue => hnot (failed_step h htrue)
  cases hs hbefore with
  | idle hreturned hidle =>
    rcases hidle.step h with
      ⟨hbegun', hreturned', hidle'⟩ | htrue | ⟨q, hbegun', hreturned', hphase⟩
    · rw [← hbegun'] at hidle' hreturned
      exact .idle (hreturned'.trans hreturned) hidle'
    · exact absurd htrue hnot
    · exact .calling s.begun q hbegun' (hreturned'.trans hreturned) hphase
  | calling qs q hbegun hreturned hphase =>
    rcases hphase.step hclear h with
      htrue | ⟨hbegun', hreturned', hphase'⟩ | ⟨hbegun', hreturned', hidle⟩
    · exact absurd htrue hnot
    · exact .calling qs q (hbegun'.trans hbegun) (hreturned'.trans hreturned) hphase'
    · have hend := @directs_concat P R σ pb target x qs q
      refine .idle ?_ ?_
      · rw [hreturned', hreturned, hbegun', hbegun, hend]
      · rw [hbegun', hbegun, hend]
        exact hidle

/-- **The calls are those of the target**: until one fails, and while no message
comes behind pieces that are left, each returns what the client makes of the
target's answer, and in front of each, those before it have been executed, once and
in order, and no other. -/
theorem returned_eq (x : σ) {es : List (Event P)}
    (hrun : Run (step pb target) Clear (State.start pb x) es s) (hfailed : s.failed = false)
    (hcaller : s.caller = .idle) :
    s.returned = (directs pb target x s.begun).2 ∧ s.executed = s.begun
      ∧ s.server.sdk = (directs pb target x s.begun).1 := by
  have hstart : (State.start pb x).failed = false → Correct pb target x (State.start pb x) :=
    fun _ => .idle rfl ⟨rfl, rfl, rfl, rfl, rfl⟩
  have hcorrect := hrun.invariant (I := fun s => s.failed = false → Correct pb target x s)
    (fun _ _ _ hs hclear hstep => correct_step hclear hstep hs) hstart hfailed
  cases hcorrect with
  | idle hreturned hidle =>
    exact ⟨hreturned, congrArg OnWire.executed hidle.wire, congrArg OnWire.sdk hidle.wire⟩
  | calling _ _ _ _ hphase => exact absurd hphase (not_phase_idle hcaller)

instance [DecidableEq P] (s : State P R σ) (e : Event P) : Decidable (Clear s e) := by
  unfold Clear
  split <;> infer_instance

/-- The steps of a call whose answer comes in these pieces and a last one. -/
def calls (front : List Received) : List (Event Bytes) :=
  [.begin ⟨[0x47], []⟩, .caller, .caller, .caller, .caller, .writeable 1, .wake, .serve, .caller,
    .answer, .deliver front]
    ++ (List.replicate (front.length + 1) [Event.arrive, Event.receive]).flatten
    ++ [.wake, .caller]

/-- The answer to the first of two calls comes in one piece, and that to the second
in two. -/
theorem returned_eq_numbering :
    ∃ es, ∃ s : State Bytes Bytes ℕ,
      Run (step plainProtobuf numberingCamera) Clear (State.start plainProtobuf 5) es s
        ∧ s.returned = [[5, 0x2A], [6, 0x2A]]
        ∧ s.returned = (directs plainProtobuf numberingCamera 5 s.begun).2
        ∧ s.executed = s.begun
        ∧ s.server.sdk = (directs plainProtobuf numberingCamera 5 s.begun).1 :=
  have hrun := run_of_execOk
    (rfl : execOk (step plainProtobuf numberingCamera) Clear (State.start plainProtobuf 5)
      (calls [] ++ calls [⟨[0x31, 6], 2, true⟩]) = some _)
  ⟨_, _, hrun, rfl, returned_eq 5 hrun rfl rfl⟩

end Runs

/-! ### Late answers

A wait is no transaction. Whether the target has executed a request or not is
the same to a caller whose wait has ended, and the answer is not taken back. It
is put into `recv_buff` when it comes, and the flag with it; and the next call,
which clears the one but not the other, finds the flag. -/

section Late

/-- The parameters are added one by one. -/
theorem run_filling (ps : List P) (s : State P R σ) :
    Run (step pb target) always { s with caller := .filling ps }
      (List.replicate ps.length .caller)
      { s with
        caller := .filling [],
        sendBuff := { s.sendBuff with params := s.sendBuff.params ++ ps } } := by
  induction ps generalizing s with
  | nil =>
    rw [List.append_nil]
    exact .nil _
  | cons p ps ih =>
    have hrest := ih { s with
      sendBuff := { s.sendBuff with params := s.sendBuff.params ++ [p] } }
    rw [List.append_assoc] at hrest
    exact .cons trivial rfl hrest

/-- A request is sent, and all of it is written. -/
theorem run_sendCommand {q : ClientRequest P} (hname : q.funcName ≠ []) (hidle : s.caller = .idle)
    (hbuff : s.sendBuff = {}) (hconnected : s.serverConnected = true)
    (hreceiving : s.receiving = none) :
    ∃ es, Run (step pb target) always s es
      { s with
        caller := .round 0, sendBuff := {}, recvBuff := pb.cleared, nBytes := pb.byteSize q
        sendSuccessful := false, writable := false, requests := s.requests ++ [q]
        begun := s.begun ++ [q] } := by
  obtain ⟨name, params⟩ := q
  replace hname : name ≠ [] := hname
  have hsize : ¬ (pb.byteSize ⟨name, params⟩ : ℤ) < 0 := not_lt.mpr (Int.natCast_nonneg _)
  have hbegin : step pb target s (.begin ⟨name, params⟩) = some { s with
      caller := .filling params, sendBuff := { funcName := name }
      begun := s.begun ++ [⟨name, params⟩] } := by
    rw [step, begin, hidle, hconnected, hbuff]
    rfl
  have hfill := @run_filling P R σ pb target params { s with
    sendBuff := { funcName := name }, begun := s.begun ++ [⟨name, params⟩] }
  refine ⟨_, .cons trivial hbegin (hfill.append (run_iff_exec.mpr
    (?_ : exec _ _ [.caller, .caller, .caller, .caller,
      .writeable (pb.byteSize ⟨name, params⟩), .wake] = _)))⟩
  simp [step, callerStep, writeableStep, wakeStep, succeed, hconnected, hreceiving, hname, hsize]

/-- **An answer that comes late is the answer of the next call.** After a wait
that has ended too early there is a run in which the next call returns, without
an error, and with an empty answer, while its request has not been executed.

The run is the same for any two requests that have a name, any target and any
coding of the messages: nothing in an answer says which request it is to. -/
theorem late_answer (x : σ) {q₁ q₂ : ClientRequest P} (h₁ : q₁.funcName ≠ [])
    (h₂ : q₂.funcName ≠ []) :
    ∃ es, ∃ s : State P R σ, Run (step pb target) always (State.start pb x) es s
      ∧ s.begun = [q₁, q₂] ∧ s.returned = [pb.cleared] ∧ s.executed = [q₁] := by
  obtain ⟨es₁, hrun₁⟩ := @run_sendCommand P R σ pb target (State.start pb x) q₁ h₁ rfl rfl rfl rfl
  -- no answer in time: nothing is left to send again, and the call fails
  have hrun₂ := hrun₁.append (run_iff_exec.mpr
    (rfl : exec (step pb target) _
      [.caller, .timeout, .caller, .caller, .caller, .timeout] = some _))
  -- then the answer comes
  obtain ⟨es₃, t, hrun₃, hidle, hbuff, hconnected, hreceiving, hflag, hbegun, hreturned,
      hexecuted⟩ :
      ∃ es, ∃ t, Run (step pb target) always (State.start pb x) es t
        ∧ t.caller = .idle ∧ t.sendBuff = {} ∧ t.serverConnected = true ∧ t.receiving = none
        ∧ t.dataReceived = true ∧ t.begun = [q₁] ∧ t.returned = [] ∧ t.executed = [q₁] :=
    ⟨_, _, hrun₂.append (run_iff_exec.mpr
      (rfl : exec (step pb target) _
        [.serve, .answer, .deliver [], .arrive, .receive, .writeable 0] = some _)),
      rfl, rfl, rfl, rfl, rfl, rfl, rfl, rfl⟩
  obtain ⟨es₄, hrun₄⟩ :=
    @run_sendCommand P R σ pb target t q₂ h₂ hidle hbuff hconnected hreceiving
  refine ⟨_, _, (hrun₃.append hrun₄).append (run_iff_exec.mpr
    (?_ : exec (step pb target) _ [.caller, .wake, .caller] = some { t with
      caller := .idle, sendBuff := {}, recvBuff := pb.cleared, nBytes := pb.byteSize q₂
      sendSuccessful := false, dataReceived := false, writable := false
      requests := t.requests ++ [q₂], begun := t.begun ++ [q₂]
      returned := t.returned ++ [pb.cleared] })), ?_, ?_, hexecuted⟩
  · simp [step, callerStep, wakeStep, hconnected, hflag]
  · rw [hbegun]
    rfl
  · rw [hreturned]
    rfl

/-- Two requests to a camera that numbers its frames, of which the second
returns before it was executed. -/
theorem late_answer_numbering :
    ∃ es, ∃ s : State Bytes Bytes ℕ,
      Run (step plainProtobuf numberingCamera) always (State.start plainProtobuf 0) es s
        ∧ s.begun = [⟨[0x47], []⟩, ⟨[0x53], [[1], [2]]⟩] ∧ s.returned = [plainProtobuf.cleared]
        ∧ s.executed = [⟨[0x47], []⟩] :=
  late_answer 0 (List.cons_ne_nil _ _) (List.cons_ne_nil _ _)

end Late

end Network
