import TofNet.Transition
import Mathlib

/-!
# Who may use the server

The server is meant for one client. When a connection is established it answers
"Connection Allowed", or "Only 1 client connection allowed", and a client takes
itself for connected if the first is the message it gets (`ServerConnect`). What
the server knows of its clients are two flags, `Client_Connected` and
`no_of_client_connected`, and there is one message for all of them, which goes to
the connection that can be written to first.

As long as there are never more than two connections at a time, the flags count
them, and there is at most one client (`admitted_unique`). A connection that has
been refused keeps the server from everyone else for as long as it is open
(`admits_iff`). With three connections the count is lost, and the server lets in
another client beside the first (`admits_another`).

The answer itself may be lost on the way. It stands in the one message until the
library says that the connection can be written to, and until then a request or
another connection overwrites it; and a frame that a client has left behind goes
out before it, to whoever is there. `admits_iff` is about what the new
connection is sent, so it leaves these out: nothing is to be sent when the
connection is established, and until it is written to others only close, or are
written to as a whole (`Undisturbed`).
-/

namespace Admission

/-- The message in `buff_send`. -/
inductive Message (R : Type)
  | cleared
  | allowed
  | refused
  | response (r : R)

/-- What is written to a connection: the message, or a frame. -/
inductive Sent (R F : Type)
  | message (m : Message R)
  | frame (f : F)

/-- **The server's state**, with the connections that are open, those that have
asked to be called when they can be written to, and what each has been sent.
Connections are numbered as they are established. -/
structure Server (R F : Type) where
  /-- `Client_Connected`. -/
  clientConnected : Bool := false
  /-- `no_of_client_connected`. -/
  noOfClientConnected : Bool := false
  /-- `buff_send`. -/
  buffSend : Message R := .cleared
  /-- The frame, where `m_frame_ready`. -/
  frame : Option F := none
  /-- `latest_sent_msg_is_was_buffered`. -/
  wasBuffered : Bool := false
  /-- The number of the next connection. -/
  count : ℕ := 0
  /-- Those that are open, in order. -/
  opened : List ℕ := []
  /-- Those that have asked to be called. -/
  writable : List ℕ := []
  /-- What each has been sent. -/
  sent : ℕ → List (Sent R F) := fun _ => []

/-- What the library calls `callback_function` for. With a request comes what
`invoke_sdk_api` makes of it, and with a write, whether a part of it had to be
buffered. -/
inductive Event (R F : Type)
  | established
  | receive (c : ℕ) (answer : R) (frame : Option F)
  | writeable (c : ℕ) (buffered : Bool)
  | closed (c : ℕ)

variable {R F : Type}

namespace Server

/-- LWS_CALLBACK_ESTABLISHED. -/
def established (s : Server R F) : Server R F :=
  let s := { s with
    count := s.count + 1, opened := s.opened ++ [s.count], writable := s.writable ++ [s.count] }
  if s.clientConnected = false then { s with clientConnected := true, buffSend := .allowed }
  else { s with noOfClientConnected := true, buffSend := .refused }

/-- LWS_CALLBACK_RECEIVE, with the last fragment of a request. -/
def receive (s : Server R F) (c : ℕ) (answer : R) (frame : Option F) : Server R F :=
  { s with buffSend := .response answer, frame := frame <|> s.frame, writable := s.writable ++ [c] }

/-- What is written next. -/
def next (s : Server R F) : Sent R F :=
  match s.frame with
  | some f => .frame f
  | none => .message s.buffSend

/-- LWS_CALLBACK_SERVER_WRITEABLE. If a part had to be buffered, the library calls
again after it. -/
def writeable (s : Server R F) (c : ℕ) (buffered : Bool) : Server R F :=
  let s := { s with writable := s.writable.filter (· ≠ c) }
  if s.wasBuffered = true then { s with wasBuffered := false }
  else { s with
    sent := Function.update s.sent c (s.sent c ++ [s.next]), frame := none
    wasBuffered := buffered
    writable := if buffered = true then s.writable ++ [c] else s.writable }

/-- LWS_CALLBACK_CLOSED. -/
def closed (s : Server R F) (c : ℕ) : Server R F :=
  let s := { s with opened := s.opened.erase c, writable := s.writable.filter (· ≠ c) }
  if s.clientConnected = true ∧ s.noOfClientConnected = false then
    { s with clientConnected := false }
  else { s with noOfClientConnected := false }

end Server

/-- **The server**, which has one thread. -/
def step : Machine (Server R F) (Event R F)
  | s, .established => some s.established
  | s, .receive c answer frame => if c ∈ s.opened then some (s.receive c answer frame) else none
  | s, .writeable c buffered =>
    if c ∈ s.opened ∧ c ∈ s.writable then some (s.writeable c buffered) else none
  | s, .closed c => if c ∈ s.opened then some (s.closed c) else none

/-- `ServerConnect` succeeds with what has been sent: the first message allows it. -/
def serverConnect : List (Sent R F) → Bool
  | .message .allowed :: _ => true
  | _ => false

/-- No more than two connections at a time. -/
def AtMostTwo (s : Server R F) (e : Event R F) : Prop :=
  match e with
  | .established => s.opened.length < 2
  | _ => True

/-! ## At most two connections

With two connections at most, `Client_Connected` says that one of them is open
and `no_of_client_connected` that both are, and so each of the events can be
followed with the flags in hand. What a single event does is one lemma each;
`inv_step` puts them together.

The other half of the invariant is about the one message. A message that lets
somebody in may be written to whoever asks first, so it must not stand there
while a second connection is open that has not been told yet. It does not: the
second connection overwrites it when it is established, by the message that
refuses it. -/

/-- The message that lets a client in has been written. -/
def Told (s : Server R F) (c : ℕ) : Prop := .message .allowed ∈ s.sent c

/-- **The invariant**, with no more than two connections at a time: the flags count
them, and a message that lets someone in is there for nobody else. -/
structure Inv (s : Server R F) : Prop where
  /-- The flags count the connections. -/
  length : s.opened.length = s.clientConnected.toNat + s.noOfClientConnected.toNat
  /-- The second flag is set only beside the first. -/
  second : s.noOfClientConnected = true → s.clientConnected = true
  /-- A connection that is open has been established. -/
  numbered : ∀ c ∈ s.opened, c < s.count
  /-- One that is to come has been sent nothing. -/
  silent : ∀ c, s.count ≤ c → s.sent c = []
  /-- Where somebody is to be let in, there is nobody else. -/
  allowed : s.buffSend = .allowed → s.opened.length ≤ 1
  /-- Only one of those that are open has been let in. -/
  told : ∀ c ∈ s.opened, ∀ d ∈ s.opened, Told s c → Told s d → c = d

theorem eq_of_length_le_one {l : List ℕ} (h : l.length ≤ 1) {c d : ℕ} (hc : c ∈ l) (hd : d ∈ l) :
    c = d := by
  match l, h with
  | [a], _ => rw [List.mem_singleton.mp hc, List.mem_singleton.mp hd]

variable {s s' : Server R F}

theorem Inv.no_second (hs : Inv s) (hconnected : s.clientConnected = false) :
    s.noOfClientConnected = false :=
  Bool.eq_false_iff.mpr fun h => by
    rw [hs.second h] at hconnected
    cases hconnected

/-- **The flag of the first connection** is set exactly while there is one. -/
theorem Inv.clientConnected_iff (hs : Inv s) : s.clientConnected = false ↔ s.opened = [] := by
  have hlength := hs.length
  constructor
  · intro hconnected
    rw [hconnected, hs.no_second hconnected] at hlength
    exact List.length_eq_zero_iff.mp hlength
  · intro hopened
    refine eq_false_of_ne_true fun hconnected => ?_
    rw [hopened, hconnected, List.length_nil, Bool.toNat_true] at hlength
    omega

/-- The first connection. Nobody else is open, so that the message which lets it
in is there for it alone. -/
theorem Inv.established_first (hs : Inv s) (hconnected : s.clientConnected = false) :
    Inv s.established := by
  have hsecond := hs.no_second hconnected
  have hopened := hs.clientConnected_iff.mp hconnected
  rw [Server.established, if_pos hconnected]
  refine ⟨?_, fun h => ?_, fun c hc => ?_, fun c hc => hs.silent c (Nat.le_of_succ_le hc),
    fun _ => ?_, fun c hc d hd _ _ => ?_⟩
  · rw [hopened, hsecond]
    rfl
  · exact rfl
  · rw [hopened] at hc
    rw [List.mem_singleton.mp hc]
    exact Nat.lt_succ_self _
  · rw [hopened]
    exact Nat.le_refl 1
  · rw [hopened] at hc hd
    exact (List.mem_singleton.mp hc).trans (List.mem_singleton.mp hd).symm

/-- The second one. The message that is put into `buff_send` refuses it, and
takes the place of whatever was to be sent to the first. -/
theorem Inv.established_second (hs : Inv s) (hconnected : s.clientConnected = true)
    (hlength : s.opened.length < 2) : Inv s.established := by
  have hone : s.opened.length = 1 := by
    have hcount := hs.length
    rw [hconnected, Bool.toNat_true] at hcount
    omega
  have hnot : ¬ Told s s.count := by
    rw [Told, hs.silent _ (Nat.le_refl _)]
    exact List.not_mem_nil
  have hold {c : ℕ} (hc : c ∈ s.opened ++ [s.count]) (htold : Told s c) : c ∈ s.opened := by
    rcases List.mem_append.mp hc with hc | hc
    · exact hc
    · rw [List.mem_singleton.mp hc] at htold
      exact absurd htold hnot
  have hflag : ¬ s.clientConnected = false := by
    rw [hconnected]
    exact Bool.noConfusion
  rw [Server.established, if_neg hflag]
  refine ⟨?_, fun _ => hconnected, fun c hc => ?_, fun c hc => hs.silent c (Nat.le_of_succ_le hc),
    nofun, fun c hc d hd htold htold' => ?_⟩
  · rw [List.length_append, hone, hconnected]
    rfl
  · rcases List.mem_append.mp hc with hc | hc
    · exact Nat.lt_succ_of_lt (hs.numbered c hc)
    · rw [List.mem_singleton.mp hc]
      exact Nat.lt_succ_self _
  · exact hs.told c (hold hc htold) d (hold hd htold') htold htold'

theorem Inv.receive (hs : Inv s) (c : ℕ) (answer : R) (frame : Option F) :
    Inv (s.receive c answer frame) :=
  ⟨hs.length, hs.second, hs.numbered, hs.silent, nofun, hs.told⟩

/-- What is written lets somebody in only if there is nobody else: the message
says so only while a single connection is open, and it is that one which is
written to. -/
theorem Inv.writeable (hs : Inv s) {c : ℕ} (hc : c ∈ s.opened) (buffered : Bool) :
    Inv (s.writeable c buffered) := by
  rw [Server.writeable]
  by_cases hbuffered : s.wasBuffered = true
  · rw [if_pos hbuffered]
    exact ⟨hs.length, hs.second, hs.numbered, hs.silent, hs.allowed, hs.told⟩
  · rw [if_neg hbuffered]
    refine ⟨hs.length, hs.second, hs.numbered, fun d hd => ?_, hs.allowed, ?_⟩
    · have hne : d ≠ c := fun heq => absurd (hs.numbered c hc) (Nat.not_lt.mpr (heq ▸ hd))
      exact (Function.update_of_ne hne _ _).trans (hs.silent d hd)
    · by_cases hallowed : s.next = .message .allowed
      · have hmessage : s.buffSend = .allowed := by
          unfold Server.next at hallowed
          split at hallowed
          · cases hallowed
          · exact Sent.message.inj hallowed
        exact fun _ hd _ hd' _ _ => eq_of_length_le_one (hs.allowed hmessage) hd hd'
      · have hback {d : ℕ} (h : .message .allowed
            ∈ Function.update s.sent c (s.sent c ++ [s.next]) d) : Told s d := by
          by_cases hd : d = c
          · subst hd
            rw [Function.update_self] at h
            rcases List.mem_append.mp h with h | h
            · exact h
            · exact absurd (List.mem_singleton.mp h).symm hallowed
          · rwa [Function.update_of_ne hd] at h
        exact fun d hd d' hd' htold htold' => hs.told d hd d' hd' (hback htold) (hback htold')

theorem Inv.closed (hs : Inv s) {c : ℕ} (hc : c ∈ s.opened) : Inv (s.closed c) := by
  have hlength : (s.opened.erase c).length + 1 = s.opened.length := by
    rw [List.length_erase_of_mem hc]
    exact Nat.succ_pred_eq_of_pos (List.length_pos_of_mem hc)
  have hcount := hs.length
  have hconnected : s.clientConnected = true := by
    refine eq_true_of_ne_false fun h => ?_
    rw [hs.clientConnected_iff.mp h] at hc
    cases hc
  have hrest := fun d (hd : d ∈ s.opened.erase c) => List.mem_of_mem_erase hd
  rw [Server.closed]
  by_cases hsecond : s.noOfClientConnected = false
  · rw [if_pos ⟨hconnected, hsecond⟩]
    rw [hconnected, hsecond, Bool.toNat_true, Bool.toNat_false] at hcount
    refine ⟨?_, fun h => ?_, fun d hd => hs.numbered d (hrest d hd), hs.silent, fun _ => ?_,
      fun d hd d' hd' => hs.told d (hrest d hd) d' (hrest d' hd')⟩
    · change (s.opened.erase c).length = false.toNat + s.noOfClientConnected.toNat
      rw [hsecond, Bool.toNat_false]
      omega
    · cases hsecond.symm.trans h
    · change (s.opened.erase c).length ≤ 1
      omega
  · have hboth : ¬ (s.clientConnected = true ∧ s.noOfClientConnected = false) :=
      fun h => hsecond h.2
    rw [if_neg hboth]
    have htrue : s.noOfClientConnected = true := by simpa using hsecond
    rw [hconnected, htrue, Bool.toNat_true] at hcount
    refine ⟨?_, nofun, fun d hd => hs.numbered d (hrest d hd), hs.silent, fun _ => ?_,
      fun d hd d' hd' => hs.told d (hrest d hd) d' (hrest d' hd')⟩
    · change (s.opened.erase c).length = s.clientConnected.toNat + false.toNat
      rw [hconnected, Bool.toNat_true, Bool.toNat_false]
      omega
    · change (s.opened.erase c).length ≤ 1
      omega

theorem inv_step {e : Event R F} (hs : Inv s) (hok : AtMostTwo s e) (h : step s e = some s') :
    Inv s' := by
  cases e with
  | established =>
    cases h
    cases hconnected : s.clientConnected with
    | false => exact hs.established_first hconnected
    | true => exact hs.established_second hconnected hok
  | receive c answer frame =>
    rw [step] at h
    split at h <;> cases h
    exact hs.receive c answer frame
  | writeable c buffered =>
    rw [step] at h
    split at h <;> cases h
    next hc => exact hs.writeable hc.1 buffered
  | closed c =>
    rw [step] at h
    split at h <;> cases h
    next hc => exact hs.closed hc

theorem inv_start : Inv ({} : Server R F) :=
  ⟨rfl, nofun, nofun, fun _ _ => rfl, nofun, nofun⟩

theorem told_of_serverConnect {c : ℕ} (h : serverConnect (s.sent c) = true) : Told s c := by
  unfold serverConnect at h
  split at h
  · next heq =>
    rw [Told, heq]
    exact List.mem_cons_self
  · cases h

/-- **There is at most one client**: in every run with no more than two
connections at a time, only for one of those that are open `ServerConnect` has
succeeded.

The server does not keep who its client is. It has two flags, and puts them back
when a connection closes, whoever that was. With two connections the flags count
these, and the invariant can say from them what each has been sent. -/
theorem admitted_unique {es : List (Event R F)} (hrun : Machine.Run step AtMostTwo {} es s)
    {c d : ℕ} (hc : c ∈ s.opened) (hd : d ∈ s.opened) (hconnect : serverConnect (s.sent c) = true)
    (hconnect' : serverConnect (s.sent d) = true) : c = d :=
  (hrun.invariant (fun _ _ _ hs hok h => inv_step hs hok h) inv_start).told c hc d hd
    (told_of_serverConnect hconnect) (told_of_serverConnect hconnect')

/-- A second connection comes while the first is open: both are open, and only
the first has been let in. -/
theorem admitted_unique_second :
    ∃ es, ∃ s : Server ℕ ℕ, Machine.Run step AtMostTwo {} es s
      ∧ s.opened = [0, 1] ∧ serverConnect (s.sent 0) = true
      ∧ ∀ d ∈ s.opened, serverConnect (s.sent d) = true → 0 = d := by
  have hrun : Machine.Run (step : Machine (Server ℕ ℕ) (Event ℕ ℕ)) AtMostTwo {}
      [.established, .writeable 0 false, .established, .writeable 1 false] _ :=
    .cons (by decide : (_ : ℕ) < 2) rfl (.cons trivial rfl (.cons (by decide : (_ : ℕ) < 2) rfl
      (.cons trivial rfl (.nil _))))
  exact ⟨_, _, hrun, rfl, rfl, fun d hd hconnect =>
    admitted_unique hrun (by decide) hd rfl hconnect⟩

/-- What may happen before the connection `c` is written to: others close, or are
written to as a whole. -/
def Undisturbed (c : ℕ) : Event R F → Prop
  | .closed d => d ≠ c
  | .writeable d buffered => d ≠ c ∧ buffered = false
  | .established | .receive _ _ _ => False

/-- Nothing is before this message. -/
structure Waits (c : ℕ) (m : Message R) (s : Server R F) : Prop where
  /-- It is in the buffer. -/
  buffSend : s.buffSend = m
  /-- There is no frame … -/
  frame : s.frame = none
  /-- … and nothing left over in front of it. -/
  wasBuffered : s.wasBuffered = false
  /-- The connection has been sent nothing yet. -/
  silent : s.sent c = []

theorem Waits.next {c : ℕ} {m : Message R} (h : Waits c m s) : s.next = .message m := by
  rw [Server.next, h.frame, h.buffSend]

theorem Waits.step {c : ℕ} {m : Message R} (h : Waits c m s) {e : Event R F}
    (he : Undisturbed c e) (hst : step s e = some s') : Waits c m s' := by
  cases e with
  | established => exact he.elim
  | receive d answer frame => exact he.elim
  | writeable d buffered =>
    obtain ⟨hd, rfl⟩ := he
    rw [Admission.step] at hst
    split at hst <;> cases hst
    have hflag : ¬ s.wasBuffered = true := by
      rw [h.wasBuffered]
      exact Bool.noConfusion
    rw [Server.writeable, if_neg hflag]
    exact ⟨h.buffSend, rfl, rfl, (Function.update_of_ne (Ne.symm hd) _ _).trans h.silent⟩
  | closed d =>
    rw [Admission.step] at hst
    split at hst <;> cases hst
    rw [Server.closed]
    split <;> exact ⟨h.buffSend, h.frame, h.wasBuffered, h.silent⟩

/-- The message that waits is what is written. -/
theorem Waits.written {c : ℕ} {m : Message R} (h : Waits c m s) (buffered : Bool) :
    (s.writeable c buffered).sent c = [.message m] := by
  have hflag : ¬ s.wasBuffered = true := by
    rw [h.wasBuffered]
    exact Bool.noConfusion
  rw [Server.writeable, if_neg hflag]
  refine (Function.update_self ..).trans ?_
  change s.sent c ++ [s.next] = _
  rw [h.silent, h.next, List.nil_append]

/-- The answer to a connection. -/
def Server.answer (s : Server R F) : Message R :=
  if s.clientConnected = false then .allowed else .refused

/-- It waits to be written. -/
theorem waits_established (hframe : s.frame = none) (hbuffered : s.wasBuffered = false)
    (hsilent : s.sent s.count = []) : Waits s.count s.answer s.established := by
  rw [Server.established, Server.answer]
  split <;> exact ⟨rfl, hframe, hbuffered, hsilent⟩

/-- `ServerConnect` succeeds with the answer of a server that knows of no
client. -/
theorem serverConnect_answer :
    serverConnect [(.message s.answer : Sent R F)] = true ↔ s.clientConnected = false := by
  rw [Server.answer]
  cases s.clientConnected with
  | false => exact ⟨fun _ => rfl, fun _ => rfl⟩
  | true => exact ⟨nofun, nofun⟩

/-- **Who is let in**: with no more than two connections at a time, and where its
answer is not lost, exactly who finds no other connection open, be it of a client
or of one that was refused. -/
theorem admits_iff {es between : List (Event R F)} {buffered : Bool}
    (hrun : Machine.Run step AtMostTwo {} es s) (hframe : s.frame = none)
    (hbuffered : s.wasBuffered = false) (hbetween : ∀ e ∈ between, Undisturbed s.count e)
    (hwritten : Machine.Run step Machine.always s
      (.established :: (between ++ [.writeable s.count buffered])) s') :
    serverConnect (s'.sent s.count) = true ↔ s.opened = [] := by
  have hs : Inv s := hrun.invariant (fun _ _ _ hs hok h => inv_step hs hok h) inv_start
  have hwaits := waits_established hframe hbuffered (hs.silent _ (Nat.le_refl _))
  -- the answer waits until it is written
  have hsent : s'.sent s.count = [.message s.answer] := by
    cases hwritten with
    | cons _ hst hrest =>
      cases hst
      obtain ⟨t, hbefore, -, hst⟩ := hrest.of_snoc
      have hguarded : Machine.Run step (fun _ => Undisturbed s.count) s.established between t :=
        hbefore.of_labels (fun e he _ => hbetween e he)
      have ht : Waits s.count s.answer t :=
        hguarded.invariant (fun _ _ _ h he hst => h.step he hst) hwaits
      rw [step] at hst
      split at hst <;> cases hst
      exact ht.written buffered
  rw [hsent, serverConnect_answer, hs.clientConnected_iff]

/-- The client has gone, and a connection that it kept out is still open when
the next one comes: that is refused too, although the other closes before the
answer is written. -/
theorem admits_iff_refused :
    ∃ es, ∃ s s' : Server ℕ ℕ, Machine.Run step AtMostTwo {} es s ∧ s.opened = [1]
      ∧ (serverConnect (s'.sent s.count) = true ↔ s.opened = []) := by
  have hrun : Machine.Run (step : Machine (Server ℕ ℕ) (Event ℕ ℕ)) AtMostTwo {}
      [.established, .writeable 0 false, .established, .writeable 1 false, .closed 0] _ :=
    .cons (by decide : (_ : ℕ) < 2) rfl (.cons trivial rfl (.cons (by decide : (_ : ℕ) < 2) rfl
      (.cons trivial rfl (.cons trivial rfl (.nil _)))))
  -- the one that was refused goes before the next is answered
  have hwritten : Machine.Run (step : Machine (Server ℕ ℕ) (Event ℕ ℕ)) Machine.always
      (((({} : Server ℕ ℕ).established.writeable 0 false).established.writeable 1 false).closed 0)
      (.established :: ([.closed 1] ++ [.writeable 2 false])) _ :=
    .cons trivial rfl (.cons trivial rfl (.cons trivial rfl (.nil _)))
  refine ⟨_, _, _, hrun, rfl, admits_iff hrun rfl rfl (fun e he => ?_) hwritten⟩
  cases List.mem_singleton.mp he
  exact (by decide : 1 ≠ 2)

/-! ## Three connections

The flags are two, so a third connection leaves no trace in them. When it is
closed they are put back as if it had been the second, and when the second is
closed too they are put back as if nobody were there, though the first client
has never gone. The run is written out event by event, since the point is that
nothing unusual happens in it: all three connections do what any client does,
and each of them is answered before the next one comes (`Answered`). -/

/-- The last of the connections is closed. -/
theorem step_closed {c : ℕ} {others : List ℕ} (hc : c ∉ others)
    (hopened : s.opened = others ++ [c]) :
    step s (.closed c) = some (s.closed c) ∧ (s.closed c).opened = others := by
  have hmem : c ∈ s.opened := by
    rw [hopened]
    exact List.mem_append_right _ (List.mem_singleton_self c)
  have herase : s.opened.erase c = others := by
    rw [hopened, List.erase_append_right _ hc, List.erase_cons_head, List.append_nil]
  refine ⟨if_pos hmem, ?_⟩
  rw [Server.closed]
  split <;> exact herase

/-- **A connection comes and is answered.** -/
structure Answered (s s' : Server R F) : Prop where
  run : Machine.Run step Machine.always s [.established, .writeable s.count false] s'
  clientConnected : s'.clientConnected = true
  noOfClientConnected : s'.noOfClientConnected = (s.clientConnected || s.noOfClientConnected)
  frame : s'.frame = none
  wasBuffered : s'.wasBuffered = false
  count : s'.count = s.count + 1
  opened : s'.opened = s.opened ++ [s.count]
  sent : s'.sent = Function.update s.sent s.count [.message s.answer]

theorem exists_answered (hframe : s.frame = none) (hbuffered : s.wasBuffered = false)
    (hsilent : s.sent s.count = []) : ∃ s', Answered s s' := by
  obtain ⟨clientConnected, noOfClientConnected, buffSend, frame, wasBuffered, count, opened,
    writable, sent⟩ := s
  cases hframe
  cases hbuffered
  replace hsilent : sent count = [] := hsilent
  have hopened : count ∈ opened ++ [count] := List.mem_append_right _ (List.mem_singleton_self _)
  have hwritable : count ∈ writable ++ [count] :=
    List.mem_append_right _ (List.mem_singleton_self _)
  have hsent : ∀ m : Sent R F,
      Function.update sent count (sent count ++ [m]) = Function.update sent count [m] := by
    intro m
    rw [hsilent, List.nil_append]
  cases clientConnected <;>
    exact ⟨_, .cons trivial rfl (.cons trivial (if_pos ⟨hopened, hwritable⟩) (.nil _)), rfl, rfl,
      rfl, rfl, rfl, rfl, hsent _⟩

/-- **The count is lost with three connections**: wherever a run has got with one
client connected, two others may come, be refused and go, and the next is let in
beside it. -/
theorem admits_another {es : List (Event R F)} (hrun : Machine.Run step AtMostTwo {} es s) {c : ℕ}
    (hopened : s.opened = [c]) (hconnect : serverConnect (s.sent c) = true)
    (hframe : s.frame = none) (hbuffered : s.wasBuffered = false) :
    ∃ s', Machine.Run step Machine.always s
        [.established, .writeable s.count false, .established, .writeable (s.count + 1) false,
          .closed (s.count + 1), .closed s.count, .established, .writeable (s.count + 2) false] s'
      ∧ s'.sent s.count = [.message .refused] ∧ s'.sent (s.count + 1) = [.message .refused]
      ∧ c ≠ s.count + 2 ∧ s'.opened = [c, s.count + 2]
      ∧ serverConnect (s'.sent c) = true ∧ serverConnect (s'.sent (s.count + 2)) = true := by
  have hs : Inv s := hrun.invariant (fun _ _ _ hs hok h => inv_step hs hok h) inv_start
  have hc : c < s.count := hs.numbered c (hopened ▸ List.mem_singleton_self c)
  have hconnected : s.clientConnected = true := by
    refine eq_true_of_ne_false fun h => ?_
    rw [hs.clientConnected_iff.mp h] at hopened
    cases hopened
  have hsilent : ∀ n, s.count ≤ n → s.sent n = [] := hs.silent
  -- two are refused
  obtain ⟨t, ht⟩ := exists_answered hframe hbuffered (hsilent _ (Nat.le_refl _))
  have htsilent : t.sent t.count = [] := by
    rw [ht.sent, ht.count, Function.update_of_ne (by omega)]
    exact hsilent _ (by omega)
  obtain ⟨u, hu⟩ := exists_answered ht.frame ht.wasBuffered htsilent
  have huopened : u.opened = [c, s.count] ++ [s.count + 1] := by
    rw [hu.opened, ht.opened, hopened, ht.count]
    rfl
  -- and go: the first to go is taken for them both, the other one for the client
  have hsecond : u.noOfClientConnected = true := by
    rw [hu.noOfClientConnected, ht.clientConnected, Bool.true_or]
  have hlast := @step_closed R F u (s.count + 1) [c, s.count] (by simp; omega) huopened
  obtain ⟨v, hv⟩ : ∃ v, v = u.closed (s.count + 1) := ⟨_, rfl⟩
  rw [← hv] at hlast
  have hfirst := @step_closed R F v s.count [c] (by simp; omega) hlast.2
  obtain ⟨w, hw⟩ : ∃ w, w = v.closed s.count := ⟨_, rfl⟩
  rw [← hw] at hfirst
  have hboth : ¬ (u.clientConnected = true ∧ u.noOfClientConnected = false) := by
    rw [hsecond]
    exact fun h => Bool.noConfusion h.2
  have hvw : w.clientConnected = false ∧ w.frame = u.frame ∧ w.wasBuffered = u.wasBuffered
      ∧ w.count = u.count ∧ w.sent = u.sent := by
    have hvclient : v.clientConnected = true ∧ v.noOfClientConnected = false := by
      rw [hv, Server.closed, if_neg hboth]
      exact ⟨hu.clientConnected, rfl⟩
    rw [hw, Server.closed, if_pos hvclient, hv, Server.closed, if_neg hboth]
    exact ⟨rfl, rfl, rfl, rfl, rfl⟩
  obtain ⟨hwclient, hwframe, hwbuffered, hwcount, hwsent⟩ := hvw
  have hcount : w.count = s.count + 2 := by rw [hwcount, hu.count, ht.count]
  have hsent : w.sent = Function.update (Function.update s.sent s.count [.message .refused])
      (s.count + 1) [.message .refused] := by
    rw [hwsent, hu.sent, ht.sent, ht.count, Server.answer, Server.answer, ht.clientConnected,
      hconnected]
    rfl
  -- so that the next is let in
  obtain ⟨s', hs'⟩ := exists_answered (hwframe.trans hu.frame) (hwbuffered.trans hu.wasBuffered)
    (by rw [hsent, hcount, Function.update_of_ne (by omega), Function.update_of_ne (by omega)]
        exact hsilent _ (by omega))
  have hsent' : s'.sent = Function.update w.sent (s.count + 2) [.message .allowed] := by
    rw [hs'.sent, hcount, Server.answer, hwclient]
    rfl
  have hrunu := ht.run.append hu.run
  rw [ht.count] at hrunu
  have hrunw := (hrunu.snoc trivial hlast.1).snoc trivial hfirst.1
  have hruns' := hrunw.append hs'.run
  rw [hcount] at hruns'
  refine ⟨s', hruns', ?_, ?_, by omega, ?_, ?_, ?_⟩
  · rw [hsent', hsent, Function.update_of_ne (by omega), Function.update_of_ne (by omega),
      Function.update_self]
  · rw [hsent', hsent, Function.update_of_ne (by omega), Function.update_self]
  · rw [hs'.opened, hfirst.2, hcount]
    rfl
  · rw [hsent', hsent, Function.update_of_ne (by omega), Function.update_of_ne (by omega),
      Function.update_of_ne (by omega)]
    exact hconnect
  · rw [hsent', Function.update_self]
    rfl

/-- The run of the theorem, behind the first connection to a server that has
just been started. -/
theorem admits_another_first :
    ∃ es, ∃ s : Server ℕ ℕ, Machine.Run step AtMostTwo {} es s ∧ s.opened = [0]
      ∧ ∃ s', Machine.Run step Machine.always s
          [.established, .writeable s.count false, .established, .writeable (s.count + 1) false,
            .closed (s.count + 1), .closed s.count, .established,
            .writeable (s.count + 2) false] s'
        ∧ s'.sent s.count = [.message .refused] ∧ s'.sent (s.count + 1) = [.message .refused]
        ∧ 0 ≠ s.count + 2 ∧ s'.opened = [0, s.count + 2]
        ∧ serverConnect (s'.sent 0) = true ∧ serverConnect (s'.sent (s.count + 2)) = true := by
  have hrun : Machine.Run (step : Machine (Server ℕ ℕ) (Event ℕ ℕ)) AtMostTwo {}
      [.established, .writeable 0 false] _ :=
    .cons (by decide : (_ : ℕ) < 2) rfl (.cons trivial rfl (.nil _))
  exact ⟨_, _, hrun, rfl, admits_another hrun rfl rfl rfl rfl⟩

end Admission
