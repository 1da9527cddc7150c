import TofNet.Framing
import TofNet.SessionControl
import TofNet.Transition

/-!
# The bytes of a session

The session once more, now with every `::send` of its `send_all` loops a step
of its own: two threads that write bytes to one socket, under a kernel that
takes as many of them as it likes, is interrupted, or fails and recovers.

The question is whether what arrives is a sequence of frames. That the two
threads never write at the same time is the lock discipline of
`SessionControl`. What remains is a send that fails part way: the session does
not close the connection then, it goes on and sends a Status, and if the
kernel takes that the reader finds the start of one frame with another in
the middle of it. `Link.ok` is the condition that it does not: once a
`::send` has failed, none writes any more.

The invariant says of the bytes written what they are a part of. As long as no
`::send` has failed, what is written and what the thread that is sending still
has to write are the frames of all messages whose sends were begun (`Link.Inv`);
the order is that of the beginnings, as the next send begins only when the last
one is over. A failure loses what was still to be written, and from then on only
the first half is kept: what is written is a front of those frames.
-/

/-! ## The state

The bytes that have been written are kept, as a reader does not have to have
read them. -/

/-- **The session and its connection.** `mainSending` and `captureSending` are
the bytes at `p + sent` of a thread that is inside `send_all`. The last two
are history variables: the messages whose sends were begun, and whether a
`::send` has failed. -/
structure Link extends Collector where
  /-- What the main thread has still to send of the frame it is sending. -/
  mainSending : Option Bytes := none
  /-- The same of the capture thread. -/
  captureSending : Option Bytes := none
  /-- The bytes written on the connection. -/
  wire : Bytes := []
  /-- The messages whose sends were begun, in order. -/
  begun : List Message := []
  /-- A `::send` has failed. -/
  broken : Bool := false

/-- A connection on which nothing has been sent. -/
def Link.initial (args : SessionArgs) : Link := { main := .start args.apiVersion }

/-! ## The steps

A send is begun, made in as many `::send`s as it takes, and over; all other acts
are as in `Session`. The exception of a failed `::send` leaves the block that
the send is in. -/

/-- A step of one of the two threads. -/
inductive Link.Step
  /-- `recv_message` returns, or throws. -/
  | recv (m : Message)
  | recvThrows (what : Bytes)
  /-- An act of the main thread that is not a send. -/
  | main (r : CallResult)
  /-- `send_message`: the frame is packed, one `::send` of it is answered, and
  the loop ends. -/
  | mainBegin
  | mainSend (a : KernelAnswer)
  | mainSent
  /-- The same for the capture thread. -/
  | capture (r : FrameResult)
  | captureBegin
  | captureSend (a : KernelAnswer)
  | captureSent

namespace Link

/-- The main thread receives a command, or fails to. -/
def recv (l : Link) (m : Message) : Option Link :=
  match l.main with
  | .recv => some { l with main := .dispatch m l.sent }
  | _ => none

/-- The receiving of a command fails. -/
def recvThrows (l : Link) : Option Link :=
  match l.main with
  | .recv => some { l with main := .run .stopping stopThread }
  | _ => none

/-- An act that sends nothing. -/
def mainAct (l : Link) (r : CallResult) : Option Link :=
  match l.main with
  | .run block (act :: todo) =>
    match act with
    | .send _ => none
    | act => (l.toCollector.act block todo r act).map (fun c => { l with toCollector := c })
  | _ => none

/-- The head of the main thread's acts is a send; no vector is longer than a
`size_t` counts. -/
def mainBegin (l : Link) : Option Link :=
  match l.main, l.mainSending with
  | .run _ (.send m :: _), none =>
    if m.payload.length < 2 ^ 64 then
      some { l with mainSending := some (packMessage m), begun := l.begun ++ [m] }
    else none
  | _, _ => none

/-- One `::send`; where it fails the exception leaves the block. -/
def mainSend (l : Link) (a : KernelAnswer) : Option Link :=
  match l.main, l.mainSending with
  | .run block _, some (b :: rest) =>
    match sendIter (b :: rest) a with
    | .ok (moved, rest') => some { l with wire := l.wire ++ moved, mainSending := some rest' }
    | .error what => some { l with
        toCollector := l.toCollector.throw block (ascii what)
        mainSending := none
        broken := true }
  | _, _ => none

/-- Nothing is left to send. -/
def mainSent (l : Link) : Option Link :=
  match l.main, l.mainSending with
  | .run block (act :: todo), some [] =>
    (l.toCollector.act block todo .ok act).map (fun c =>
      { l with toCollector := c, mainSending := none })
  | _, _ => none

/-- The capture thread, but for its sends. -/
def captureAct (l : Link) (args : SessionArgs) (r : FrameResult) : Option Link :=
  match l.thread.acts with
  | some (.send _ :: _) => none
  | some acts => (l.toCollector.captureAct acts).map (fun c => { l with toCollector := c })
  | none => (l.toCollector.captureTurn args r).map (fun c => { l with toCollector := c })

/-- The capture thread begins a send. -/
def captureBegin (l : Link) : Option Link :=
  match l.thread.acts, l.captureSending with
  | some (.send m :: _), none =>
    if m.payload.length < 2 ^ 64 then
      some { l with captureSending := some (packMessage m), begun := l.begun ++ [m] }
    else none
  | _, _ => none

/-- One `::send` of it. -/
def captureSend (l : Link) (a : KernelAnswer) : Option Link :=
  match l.captureSending with
  | some (b :: rest) =>
    match sendIter (b :: rest) a with
    | .ok (moved, rest') => some { l with wire := l.wire ++ moved, captureSending := some rest' }
    | .error what => some { l with
        toCollector := l.toCollector.captureThrow (ascii what)
        captureSending := none
        broken := true }
  | _ => none

/-- It has nothing left to send. -/
def captureSent (l : Link) : Option Link :=
  match l.thread.acts, l.captureSending with
  | some acts, some [] =>
    (l.toCollector.captureAct acts).map (fun c =>
      { l with toCollector := c, captureSending := none })
  | _, _ => none

/-- **The session**, in any order of its threads' steps. -/
def step (args : SessionArgs) : Machine Link Link.Step
  | l, .recv m => l.recv m
  | l, .recvThrows _ => l.recvThrows
  | l, .main r => l.mainAct r
  | l, .mainBegin => l.mainBegin
  | l, .mainSend a => l.mainSend a
  | l, .mainSent => l.mainSent
  | l, .capture r => l.captureAct args r
  | l, .captureBegin => l.captureBegin
  | l, .captureSend a => l.captureSend a
  | l, .captureSent => l.captureSent

/-- **The condition**: once a `::send` has failed, none writes.

It speaks of nothing but the answers of `::send`. A frame that was cut short has
left its head on the wire, and any byte behind it would be read as the rest of
that frame. -/
def ok (l : Link) : Link.Step → Prop
  | .mainSend a | .captureSend a => l.broken = true → a.moves = false
  | _ => True

/-! ## Exclusion

Both threads send with `send_mu`, and the main thread also when there is no
other thread. This is known of every state that is reached (`Collector.Locked`). -/

variable {args : SessionArgs} {l l' : Link}

/-- **The two threads are never both at a send.** -/
theorem exclusive {c : Collector} {block : Block} {m m' : Message} {todo rest : List Act}
    (hL : c.Locked) (hmain : c.main = .run block (.send m :: todo))
    (hthread : c.thread.acts = some (.send m' :: rest)) : False := by
  have hm := hL.main
  rw [hmain] at hm
  have hc := hL.capture
  rw [Thread.todo, hthread] at hc
  have hheld := (Bool.and_eq_true_iff.mp hc).1
  rw [Bool.or_false] at hheld
  have hown := of_decide_eq_true hheld
  rcases Bool.or_eq_true_iff.mp (Bool.and_eq_true_iff.mp hm).1 with hmu | halone
  · have hmu' := of_decide_eq_true hmu
    rw [hown] at hmu'
    cases hmu'
  · have hnone := of_decide_eq_true halone
    rw [hnone] at hthread
    cases hthread

/-! ## The invariant

Each kind of step has a lemma. Most of them are no sends and leave the bytes
alone; for these it is enough that the session keeps its own invariant. -/

/-- What the two threads have still to write. -/
def unsent (l : Link) : Bytes := l.mainSending.getD [] ++ l.captureSending.getD []

/-- **The invariant**: the session is where it should be, who is sending is at
a send, and what is written – with what is still to be, as long as nothing
has failed – is the frames begun. -/
structure Inv (l : Link) : Prop where
  /-- The main thread is in a block of the source, at an act of it. -/
  wellFormed : l.main.WellFormed
  /-- A capture thread that has not been joined has a join ahead of it. -/
  home : Home l.main l.thread
  /-- The process has not been ended by an assignment over a joinable thread. -/
  alive : l.main ≠ .terminated
  /-- A thread that is at a send holds `send_mu`, or is the only one. -/
  locked : l.toCollector.Locked
  /-- A thread that has bytes left to send is at the send of a message, … -/
  mainAt : l.mainSending ≠ none → ∃ block m todo, l.main = .run block (.send m :: todo)
  /-- … be it the one or the other. -/
  captureAt : l.captureSending ≠ none → ∃ m rest, l.thread.acts = some (.send m :: rest)
  /-- No message is too long for the size field of its header. -/
  small : ∀ m ∈ l.begun, m.payload.length < 2 ^ 64
  /-- As long as nothing has failed, what is written and what is left to be
  written are the frames begun. -/
  whole : l.broken = false → l.wire ++ l.unsent = frames l.begun
  /-- The property itself, which outlives a failure. -/
  atomic : l.wire <+: frames l.begun

/-- Where one thread is sending the other is not. -/
theorem captureSending_of_main (hl : l.Inv) {block : Block} {m : Message} {todo : List Act}
    (hmain : l.main = .run block (.send m :: todo)) : l.captureSending = none := by
  by_contra hne
  obtain ⟨m', rest, hthread⟩ := hl.captureAt hne
  exact exclusive hl.locked hmain hthread

/-- And the other way round. -/
theorem mainSending_of_capture (hl : l.Inv) {m : Message} {rest : List Act}
    (hthread : l.thread.acts = some (.send m :: rest)) : l.mainSending = none := by
  by_contra hne
  obtain ⟨block, m', todo, hmain⟩ := hl.mainAt hne
  exact exclusive hl.locked hmain hthread

/-- Nothing is being sent by a thread that is not at a send. -/
theorem mainSending_eq_none (hl : l.Inv)
    (h : ∀ block m todo, l.main ≠ .run block (.send m :: todo)) : l.mainSending = none := by
  by_contra hne
  obtain ⟨block, m, todo, hmain⟩ := hl.mainAt hne
  exact h block m todo hmain

/-- Nor by the capture thread. -/
theorem captureSending_eq_none (hl : l.Inv)
    (h : ∀ m rest, l.thread.acts ≠ some (.send m :: rest)) : l.captureSending = none := by
  by_contra hne
  obtain ⟨m, rest, hthread⟩ := hl.captureAt hne
  exact h m rest hthread

/-- Nothing has been written. -/
theorem inv_initial (args : SessionArgs) : (Link.initial args).Inv where
  wellFormed := wellFormed_start _
  home := fun h => absurd rfl h
  alive := nofun
  locked := ⟨rfl, rfl⟩
  mainAt := fun h => absurd rfl h
  captureAt := fun h => absurd rfl h
  small := nofun
  whole := fun _ => rfl
  atomic := List.prefix_refl _

/-- Whatever the acts that are not sends do to the session, the connection
keeps its part of the invariant. -/
theorem inv_of_collector (hl : l.Inv) {c : Collector} (hwf : c.main.WellFormed)
    (hhome : Home c.main c.thread) (halive : c.main ≠ .terminated) (hL : c.Locked)
    (hmain : l.mainSending ≠ none → ∃ block m todo, c.main = .run block (.send m :: todo))
    (hcapture : l.captureSending ≠ none → ∃ m rest, c.thread.acts = some (.send m :: rest)) :
    ({ l with toCollector := c } : Link).Inv :=
  { hl with
    wellFormed := hwf
    home := hhome
    alive := halive
    locked := hL
    mainAt := hmain
    captureAt := hcapture }

/-- A command comes. -/
theorem inv_recv (hl : l.Inv) {m : Message} (h : l.recv m = some l') : l'.Inv := by
  unfold recv at h
  split at h
  · next hrecv =>
    cases h
    have hnone := mainSending_eq_none hl (by rw [hrecv]; exact fun _ _ _ => nofun)
    refine inv_of_collector hl (wellFormed_dispatch m l.sent)
      (fun _ => joinsAhead_dispatch m l.sent) (dispatch_ne_terminated m l.sent)
      ⟨?_, hl.locked.capture⟩ (fun hne => absurd hnone hne) hl.captureAt
    simp only [hl.locked.free (by rw [hrecv]; rfl)]
    exact sendsSafe_dispatch m l.sent _
  · cases h

/-- No command comes. -/
theorem inv_recvThrows (hl : l.Inv) (h : l.recvThrows = some l') : l'.Inv := by
  unfold recvThrows at h
  split at h
  · next hrecv =>
    cases h
    have hnone := mainSending_eq_none hl (by rw [hrecv]; exact fun _ _ _ => nofun)
    refine inv_of_collector hl (wellFormed_run (List.suffix_append _ _))
      (fun _ => rfl) nofun ⟨?_, hl.locked.capture⟩ (fun hne => absurd hnone hne) hl.captureAt
    simp only [hl.locked.free (by rw [hrecv]; rfl)]
    exact sendsSafe_alone rfl _
  · cases h

/-- An act of the main thread, sent or not a send, keeps the session's part of
the invariant. -/
theorem inv_of_act (hl : l.Inv) {block : Block} {act : Act} {todo : List Act} {r : CallResult}
    {c : Collector} (hmain : l.main = .run block (act :: todo)) (hnone : l.mainSending = none)
    (h : l.toCollector.act block todo r act = some c) :
    ({ l with toCollector := c } : Link).Inv := by
  have hM := moves_of_act h
  have hfollows := hl.wellFormed block (act :: todo) hmain
  have hhome : Home (.run block (act :: todo)) l.thread := by
    rw [← hmain]
    exact hl.home
  have hwf := wellFormed_of_moves hM hfollows
  have hhome' := home_of_moves hM (by simp [stopThread, Act.isCall]) hfollows hhome
  have halive := not_terminated_of_moves hM hfollows hhome
  refine inv_of_collector hl hwf hhome' halive (locked_of_act hl.locked hmain hwf hhome' halive h)
    (fun hne => absurd hnone hne) (fun hne => ?_)
  obtain ⟨m, rest, hacts⟩ := hl.captureAt hne
  rw [thread_of_moves hM hacts]
  exact ⟨m, rest, hacts⟩

/-- An act of the main thread that sends nothing. -/
theorem inv_mainAct (hl : l.Inv) {r : CallResult} (h : l.mainAct r = some l') : l'.Inv := by
  unfold mainAct at h
  split at h
  · next block act todo hmain =>
    split at h
    · cases h
    · next hact =>
      obtain ⟨c, hc, rfl⟩ := Option.map_eq_some_iff.mp h
      refine inv_of_act hl hmain (mainSending_eq_none hl ?_) hc
      intro block' m todo' heq
      rw [hmain] at heq
      cases heq
      exact hact m rfl
  · cases h

/-- The main thread begins a send, and its frame is added to those begun. -/
theorem inv_mainBegin (hl : l.Inv) (h : l.mainBegin = some l') : l'.Inv := by
  unfold mainBegin at h
  split at h
  · next block m todo hmain hnone =>
    split at h
    · next hsmall =>
      cases h
      have hcapture := captureSending_of_main hl hmain
      have hframes : frames (l.begun ++ [m]) = frames l.begun ++ packMessage m := by
        rw [frames_append, frames_cons, frames_nil, List.append_nil]
      exact { hl with
        mainAt := fun _ => ⟨block, m, todo, hmain⟩
        small := by
          intro m' hm'
          rcases List.mem_append.mp hm' with hm | hm
          · exact hl.small m' hm
          · rw [List.mem_singleton.mp hm]
            exact hsmall
        whole := by
          intro hbroken
          have hwhole := hl.whole hbroken
          rw [unsent, hnone, hcapture] at hwhole
          show l.wire ++ (packMessage m ++ l.captureSending.getD []) = _
          rw [hcapture, hframes, ← hwhole]
          simp
        atomic := by
          show l.wire <+: frames (l.begun ++ [m])
          rw [hframes]
          exact hl.atomic.trans (List.prefix_append _ _) }
    · cases h
  · cases h

/-- What one `::send` does to the bytes of a thread. -/
theorem sendIter_ok {rest moved rest' : Bytes} {a : KernelAnswer}
    (h : sendIter rest a = .ok (moved, rest')) :
    rest = moved ++ rest' ∧ (a.moves = false → moved = []) := by
  cases a with
  | count n =>
    cases h
    exact ⟨(List.take_append_drop _ _).symm, nofun⟩
  | eintr =>
    cases h
    exact ⟨rfl, fun _ => rfl⟩
  | error what => cases h
  | zero => cases h

/-- Bytes that leave a thread for the wire keep the two in line; once a send
has failed, none leave. -/
theorem atomic_of_moved {wire moved rest : Bytes} {ms : List Message} {broken : Bool}
    (hatomic : wire <+: frames ms) (hwhole : broken = false → wire ++ (moved ++ rest) = frames ms)
    (hmoved : broken = true → moved = []) : wire ++ moved <+: frames ms := by
  cases broken with
  | false =>
    rw [← hwhole rfl, ← List.append_assoc]
    exact List.prefix_append _ _
  | true =>
    rw [hmoved rfl, List.append_nil]
    exact hatomic

/-- **One `::send` of the main thread** moves bytes to the wire, or fails. -/
theorem inv_mainSend (hl : l.Inv) {a : KernelAnswer} (hok : l.ok (.mainSend a))
    (h : l.mainSend a = some l') : l'.Inv := by
  unfold mainSend at h
  split at h
  · next block todo b rest hmain hsending =>
    obtain ⟨block', m, todo', hat⟩ := hl.mainAt (by rw [hsending]; exact Option.some_ne_none _)
    have hcapture := captureSending_of_main hl hat
    split at h
    · next moved rest' hiter =>
      cases h
      obtain ⟨hsplit, hmoves⟩ := sendIter_ok hiter
      have hwhole : l.broken = false → l.wire ++ (moved ++ rest') = frames l.begun := by
        intro hbroken
        have hw := hl.whole hbroken
        rw [unsent, hsending, hcapture, Option.getD_some, Option.getD_none, List.append_nil,
          hsplit] at hw
        exact hw
      exact { hl with
        mainAt := fun _ => ⟨block', m, todo', hat⟩
        whole := by
          intro hbroken
          show (l.wire ++ moved) ++ (rest' ++ l.captureSending.getD []) = _
          rw [hcapture, Option.getD_none, List.append_nil, List.append_assoc]
          exact hwhole hbroken
        atomic := atomic_of_moved hl.atomic hwhole (fun hbroken => hmoves (hok hbroken)) }
    · next what hiter =>
      cases h
      rw [hat] at hmain
      cases hmain
      -- the send fails, and the main thread is thrown out of its block
      have hM : Moves (fun a => decide (a = .send m)) block (.send m) todo' l.thread
          (l.toCollector.throw block (ascii what)).main
          (l.toCollector.throw block (ascii what)).thread :=
        moves_of_throw (decide_eq_true rfl) ⟨Act.noConfusion, Act.noConfusion⟩
      have hfollows := hl.wellFormed block (.send m :: todo') hat
      have hhome : Home (.run block (.send m :: todo')) l.thread := by
        rw [← hat]
        exact hl.home
      have hwf := wellFormed_of_moves hM hfollows
      have hhome' := home_of_moves hM (by simp [stopThread]) hfollows hhome
      exact { hl with
        wellFormed := hwf
        home := hhome'
        alive := not_terminated_of_moves hM hfollows hhome
        locked := locked_of_throw hl.locked hwf hhome'
        mainAt := fun hne => absurd rfl hne
        whole := Bool.noConfusion }
  · cases h

/-- The main thread has sent all. -/
theorem inv_mainSent (hl : l.Inv) (h : l.mainSent = some l') : l'.Inv := by
  unfold mainSent at h
  split at h
  · next block act todo hmain hsending =>
    obtain ⟨c, hc, rfl⟩ := Option.map_eq_some_iff.mp h
    have hl' : ({ l with mainSending := none } : Link).Inv := { hl with
      mainAt := fun hne => absurd rfl hne
      whole := by
        intro hbroken
        have hw := hl.whole hbroken
        rw [unsent, hsending] at hw
        exact hw }
    exact inv_of_act hl' hmain rfl hc
  · cases h

/-- An act of the capture thread keeps the session's part of the invariant. -/
theorem inv_of_captureAct (hl : l.Inv) {acts : List Act} {c : Collector}
    (hacts : l.thread.acts = some acts) (hnone : l.captureSending = none)
    (h : l.toCollector.captureAct acts = some c) :
    ({ l with toCollector := c } : Link).Inv := by
  obtain ⟨_, _, _, _, hm⟩ := thread_of_captureAct h
  have hthread : l.thread ≠ .none := by
    intro hn
    rw [hn] at hacts
    cases hacts
  refine inv_of_collector hl ?_ ?_ ?_ (locked_of_captureAct hl.locked hacts h) ?_
    (fun hne => absurd hnone hne)
  · rw [hm]
    exact hl.wellFormed
  · rw [hm]
    exact fun _ => hl.home hthread
  · rw [hm]
    exact hl.alive
  · rw [hm]
    exact hl.mainAt

/-- A step of the capture thread that sends nothing. -/
theorem inv_captureStep (hl : l.Inv) {r : FrameResult} (h : l.captureAct args r = some l') :
    l'.Inv := by
  unfold captureAct at h
  split at h
  · cases h
  · next acts hsend hacts =>
    obtain ⟨c, hc, rfl⟩ := Option.map_eq_some_iff.mp h
    refine inv_of_captureAct hl hacts (captureSending_eq_none hl ?_) hc
    intro m rest heq
    rw [hacts] at heq
    cases heq
    exact hsend m rest rfl
  · next hacts =>
    obtain ⟨c, hc, rfl⟩ := Option.map_eq_some_iff.mp h
    obtain ⟨hL, hm, ht⟩ := locked_of_captureTurn hl.locked hc
    have hnone := captureSending_eq_none hl (by rw [hacts]; exact fun _ _ => nofun)
    refine inv_of_collector hl ?_ ?_ ?_ hL ?_ (fun hne => absurd hnone hne)
    · rw [hm]
      exact hl.wellFormed
    · rw [hm]
      exact fun hne => hl.home (fun hn => hne (ht hn))
    · rw [hm]
      exact hl.alive
    · rw [hm]
      exact hl.mainAt

/-- The capture thread begins a send. -/
theorem inv_captureBegin (hl : l.Inv) (h : l.captureBegin = some l') : l'.Inv := by
  unfold captureBegin at h
  split at h
  · next m rest hacts hnone =>
    split at h
    · next hsmall =>
      cases h
      have hmain := mainSending_of_capture hl hacts
      have hframes : frames (l.begun ++ [m]) = frames l.begun ++ packMessage m := by
        rw [frames_append, frames_cons, frames_nil, List.append_nil]
      exact { hl with
        captureAt := fun _ => ⟨m, rest, hacts⟩
        small := by
          intro m' hm'
          rcases List.mem_append.mp hm' with hm | hm
          · exact hl.small m' hm
          · rw [List.mem_singleton.mp hm]
            exact hsmall
        whole := by
          intro hbroken
          have hwhole := hl.whole hbroken
          rw [unsent, hnone, hmain] at hwhole
          show l.wire ++ (l.mainSending.getD [] ++ packMessage m) = _
          rw [hmain, hframes, ← hwhole]
          simp
        atomic := by
          show l.wire <+: frames (l.begun ++ [m])
          rw [hframes]
          exact hl.atomic.trans (List.prefix_append _ _) }
    · cases h
  · cases h

/-- **One `::send` of the capture thread**, likewise. -/
theorem inv_captureSend (hl : l.Inv) {a : KernelAnswer} (hok : l.ok (.captureSend a))
    (h : l.captureSend a = some l') : l'.Inv := by
  unfold captureSend at h
  split at h
  · next b rest hsending =>
    obtain ⟨m, todo, hat⟩ := hl.captureAt (by rw [hsending]; exact nofun)
    have hmain := mainSending_of_capture hl hat
    split at h
    · next moved rest' hiter =>
      cases h
      obtain ⟨hsplit, hmoves⟩ := sendIter_ok hiter
      have hwhole : l.broken = false → l.wire ++ (moved ++ rest') = frames l.begun := by
        intro hbroken
        have hw := hl.whole hbroken
        rw [unsent, hsending, hmain, Option.getD_some, Option.getD_none, List.nil_append,
          hsplit] at hw
        exact hw
      exact { hl with
        captureAt := fun _ => ⟨m, todo, hat⟩
        whole := by
          intro hbroken
          show (l.wire ++ moved) ++ (l.mainSending.getD [] ++ rest') = _
          rw [hmain, Option.getD_none, List.nil_append, List.append_assoc]
          exact hwhole hbroken
        atomic := atomic_of_moved hl.atomic hwhole (fun hbroken => hmoves (hok hbroken)) }
    · next what hiter =>
      cases h
      obtain ⟨hL, hnone, _⟩ := locked_of_captureThrow (ascii what) hl.locked hat
      exact { hl with
        home := fun _ => hl.home hnone
        locked := hL
        captureAt := fun hne => absurd rfl hne
        whole := nofun }
  · cases h

/-- The capture thread has sent all. -/
theorem inv_captureSent (hl : l.Inv) (h : l.captureSent = some l') : l'.Inv := by
  unfold captureSent at h
  split at h
  · next acts hacts hsending =>
    obtain ⟨c, hc, rfl⟩ := Option.map_eq_some_iff.mp h
    have hl' : ({ l with captureSending := none } : Link).Inv := { hl with
      captureAt := fun hne => absurd rfl hne
      whole := by
        intro hbroken
        have hw := hl.whole hbroken
        rw [unsent, hsending] at hw
        exact hw }
    exact inv_of_captureAct hl' hacts rfl hc
  · cases h

/-- **A step under the condition keeps the invariant.** -/
theorem inv_step (st : Link.Step) (hl : l.Inv) (hok : l.ok st) (h : step args l st = some l') :
    l'.Inv := by
  cases st with
  | recv m => exact inv_recv hl h
  | recvThrows what => exact inv_recvThrows hl h
  | main r => exact inv_mainAct hl h
  | mainBegin => exact inv_mainBegin hl h
  | mainSend a => exact inv_mainSend hl hok h
  | mainSent => exact inv_mainSent hl h
  | capture r => exact inv_captureStep hl h
  | captureBegin => exact inv_captureBegin hl h
  | captureSend a => exact inv_captureSend hl hok h
  | captureSent => exact inv_captureSent hl h

/-! ## Runs

What is received is said with the receiver's loop on the bytes written, so that
a torn frame would be seen as what the viewer takes it for. -/

/-- **Frame-level atomicity**: the bytes written are a prefix of the frames
begun, and so nothing is received that was not sent. -/
structure Atomic (l : Link) : Prop where
  /-- What is on the wire is whole frames, in the order of their sends, and a
  part of one more. -/
  written : l.wire <+: frames l.begun
  /-- Whoever reads them with `recv_message` gets messages that were sent, in
  order. -/
  received : ∀ n answers ms rest answers',
    recvMessages n l.wire answers = ⟨.returned ms, rest, answers'⟩ → ms <+: l.begun

/-- The invariant is as much as atomicity needs. -/
theorem atomic_of_inv (hl : l.Inv) : l.Atomic where
  written := hl.atomic
  received := fun _ _ _ _ _ h => recvMessages_sound hl.small hl.atomic h

/-- **Atomicity of a session's writes.** In a run in which nothing is written
after a send has failed, whatever the order of the threads, the commands, the
short counts and the failures, the connection carries whole frames.

That two frames are never mixed is the work of `send_mu`: a thread writes only
while it holds the mutex, and the invariant is that what is on the wire is a
list of whole frames and, of the frame that the holder is sending, the part
before its cursor. -/
theorem atomic_of_run {steps : List Link.Step}
    (hrun : Machine.Run (step args) Link.ok (Link.initial args) steps l) : l.Atomic :=
  atomic_of_inv (hrun.invariant (fun _ st _ hl hok h => inv_step st hl hok h) (inv_initial args))

instance (l : Link) (st : Link.Step) : Decidable (l.ok st) := by
  unfold ok
  split <;> infer_instance

/-- A send that the kernel takes whole. -/
def wholeSend : List Link.Step := [.mainBegin, .mainSend (.count 1023), .mainSent]

/-- Connecting, a StartCapture, and the capture thread in its loop; there is
no calibration to export. -/
def capturing : List Link.Step :=
  wholeSend ++ [.main (.throws (ascii "no CCB"))] ++ wholeSend ++ [.main (.entries [])]
    ++ wholeSend ++ [.recv (startMessage [] 0 0), .main .ok] ++ wholeSend
    ++ [.main .ok, .main .ok, .main .ok, .main .ok, .main .ok] ++ wholeSend
    ++ [.main .ok, .main .ok, .main .ok, .main .ok] ++ wholeSend ++ [.main .ok, .main .ok]

/-- A DataFrame of which the kernel takes 25 bytes before it fails. -/
def partialFrame : List Link.Step :=
  [.capture (.frame (List.replicate 150 7)), .capture (.failed []), .captureBegin,
    .captureSend .eintr, .captureSend (.count 24),
    .captureSend (.error "No buffer space available")]

/-- The Error status behind it. -/
def statusBehind (a : KernelAnswer) : List Link.Step :=
  [.capture (.failed []), .captureBegin, .captureSend a]

def sessionArgs : SessionArgs := ⟨ascii "7.0.0", 0⟩

/-- The capture thread's send fails in the middle of a frame, and the status
that the main thread sends behind it fails as well: the wire ends in a frame
that is cut short. -/
theorem atomic_of_run_broken :
    ∃ l, Machine.Run (step sessionArgs) Link.ok (Link.initial sessionArgs)
      (capturing ++ partialFrame ++ statusBehind (.error "Broken pipe")) l ∧ l.Atomic := by
  have hexec : (Machine.execOk (step sessionArgs) Link.ok (Link.initial sessionArgs)
      (capturing ++ partialFrame ++ statusBehind (.error "Broken pipe"))).isSome = true := by
    decide +kernel
  obtain ⟨l, hl⟩ := Option.isSome_iff_exists.mp hexec
  exact ⟨l, Machine.run_of_execOk hl, atomic_of_run (Machine.run_of_execOk hl)⟩

/-- The last of seven messages received on the connection is one that was not
sent. -/
def receivesUnsent (l : Link) : Bool :=
  match (recvMessages 7 l.wire (List.replicate 20 (.count 1023))).outcome with
  | .returned ms => !(decide (ms <+: l.begun))
  | _ => false

/-- **A DataFrame cut short is completed by the status behind it.** The send
fails in the middle of the frame, the next one succeeds, and the viewer
receives a DataFrame whose payload ends in a Status frame. -/
theorem unsent_after_partial_frame :
    ∃ l, Machine.Run (step sessionArgs) Machine.always (Link.initial sessionArgs)
        (capturing ++ partialFrame ++ statusBehind (.count 1023)) l ∧
      ¬ (l.wire <+: frames l.begun) ∧ receivesUnsent l = true := by
  have hexec : ((Machine.exec (step sessionArgs) (Link.initial sessionArgs)
      (capturing ++ partialFrame ++ statusBehind (.count 1023))).any
        (fun l => decide (¬ (l.wire <+: frames l.begun)) && receivesUnsent l)) = true := by
    decide +kernel
  obtain ⟨l, hl, hbad⟩ := (Option.any_eq_true _ _).mp hexec
  obtain ⟨hwire, hrecv⟩ := Bool.and_eq_true_iff.mp hbad
  exact ⟨l, Machine.run_iff_exec.mpr hl, of_decide_eq_true hwire, hrecv⟩

end Link
