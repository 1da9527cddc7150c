import TofNet.Calibration

/-!
# No depth with another module's intrinsics

The export of dealias data may fail, and where it fails quietly – a payload
command that the camera does not answer is a warning, and an export without
entries is no error – the capture goes on. Nor does a StartCapture without a
frame type export anything. The frames of such a capture have no calibration
on their connection, and the viewer, whose slots are those of the connections
before, computes depth with the intrinsics of another module
(`Calibration.not_sound_earlier_module`).

The other thing that goes wrong is the viewer's own. The key of what TOFI keeps
does not name the way that it was made in, so a context that the generic way
has made is found on the ISP's way, once the configuration has been changed to
`isAdsd3500`; such a frame is computed with no dealias data at all.

`Calibration.calibration_of_run` shows that nothing else goes wrong: where every
capture is started in a mode whose dealias data the connection has had, that
data precedes each of its frames; and where, besides, the ISP's way finds only
what it has made itself, what the viewer computes is computed with it. The
argument has two halves.

* On the collector's side the modes in `sent_dealias_modes` are noted behind
  their messages (`Marks`), and the mode is switched only behind a join
  (`joinsFirst`). So the mode of a capture thread stays what it was when the
  thread was started, and its data is on the wire (`CollectorSession.Inv`).
* On the viewer's side a message with dealias data whose handler returns both
  fills the slot and releases the context (`ViewerTofi.Handles`). So, once the
  data of a frame type has come over a connection, the slot is of that
  connection, and so is a context of that frame type which is found again
  (`Calibration.Reads`).
-/

/-! ## The scripts of the main thread

A script is what the main thread has still to do in its block. Two facts about
scripts carry the collector's half. In a script that runs beside a capture
thread the mode is not switched before the join (`joinsFirst`), so that the mode
of a running capture cannot change under it. And a mode is noted as sent only
behind a message with its data (`Marks`), which the script contains, or which is
on the wire already.

Both are properties of lists of acts, and are shown of each script where it is
made. What an act puts in front of the rest of its script is then little: what
an export has returned, and nothing else (`script_of_act`). -/

/-- What a script may not do: send a DataFrame, note a mode as sent, or switch
the mode. -/
def Act.plain : Act → Bool
  | .send m => m.type ≠ .dataFrame
  | .markSent _ | .switchMode _ => false
  | _ => true

/-- The mode is switched only behind a join. Whatever stands behind the join may
switch it, as the capture thread is gone by then. -/
def joinsFirst : List Act → Bool
  | [] | .join :: _ => true
  | .switchMode _ :: _ => false
  | _ :: todo => joinsFirst todo

/-- A mode is noted as sent only behind a message with its dealias data; `sent`
are the frame types for which there is one. A message in the script adds to
them, for what stands behind it. -/
def Marks (sent : Bytes → Prop) : List Act → Prop
  | [] => True
  | .markSent ft :: todo => sent (wireName kNameLen ft) ∧ Marks sent todo
  | .send m :: todo => Marks (fun ft => sent ft ∨ m.dealias? = some ft) todo
  | _ :: todo => Marks sent todo

section Scripts

variable {todo more : List Act} {act : Act} {sent sent' : Bytes → Prop}

/-- A plain script does not switch the mode at all. -/
theorem joinsFirst_of_plain (h : ∀ a ∈ todo, a.plain = true) : joinsFirst todo = true := by
  induction todo with
  | nil => rfl
  | cons act todo ih =>
    have htail := ih (fun a ha => h a (List.mem_cons_of_mem act ha))
    cases act with
    | switchMode ft => exact absurd (h _ List.mem_cons_self) Bool.noConfusion
    | join => rfl
    | _ => exact htail

/-- Acts that neither join nor switch the mode. -/
theorem joinsFirst_append (h : ∀ a ∈ more, a ≠ .join ∧ ∀ ft, a ≠ .switchMode ft) :
    joinsFirst (more ++ todo) = joinsFirst todo := by
  induction more with
  | nil => rfl
  | cons act more ih =>
    have htail := ih (fun a ha => h a (List.mem_cons_of_mem act ha))
    obtain ⟨hjoin, hswitch⟩ := h act List.mem_cons_self
    cases act with
    | switchMode ft => exact absurd rfl (hswitch ft)
    | join => exact absurd rfl hjoin
    | _ => exact htail

/-- The more has been sent, the more may be noted. -/
theorem Marks.mono (h : ∀ ft, sent ft → sent' ft) (hm : Marks sent todo) : Marks sent' todo := by
  induction todo generalizing sent sent' with
  | nil => trivial
  | cons act todo ih =>
    cases act with
    | markSent ft => exact ⟨h _ hm.1, ih h hm.2⟩
    | send m => exact ih (fun ft hft => hft.imp_left (h ft)) hm
    | _ => exact ih h hm

/-- Two scripts, of which the second does not rely on the messages of the
first. -/
theorem Marks.append (hmore : Marks sent more) (hm : Marks sent todo) :
    Marks sent (more ++ todo) := by
  induction more generalizing sent with
  | nil => exact hm
  | cons act more ih =>
    cases act with
    | markSent ft => exact ⟨hmore.1, ih hmore.2 hm⟩
    | send m => exact ih hmore (hm.mono (fun _ => Or.inl))
    | _ => exact ih hmore hm

/-- A script that notes nothing. -/
theorem marks_of_forall (h : ∀ a ∈ todo, ∀ ft, a ≠ .markSent ft) : Marks sent todo := by
  induction todo generalizing sent with
  | nil => trivial
  | cons act todo ih =>
    have htail : ∀ {sent : Bytes → Prop}, Marks sent todo :=
      ih (fun a ha => h a (List.mem_cons_of_mem act ha))
    cases act with
    | markSent ft => exact absurd rfl (h _ List.mem_cons_self ft)
    | _ => exact htail

/-- **The entries of an export are noted behind their messages.** -/
theorem marks_sendDealiasEntries (sent : Bytes → Prop) (entries : List DealiasEntry) :
    Marks sent (sendDealiasEntries entries) := by
  induction entries generalizing sent with
  | nil => trivial
  | cons entry entries ih =>
    show Marks sent ((if entry.frameType = [] ∨ entry.data = [] then [] else _)
      ++ sendDealiasEntries entries)
    refine Marks.append ?_ (ih sent)
    split
    · trivial
    · refine ⟨.inl (.inr ?_), trivial⟩
      have hlen : dealiasDataPayloadSize ≤ (dealiasMessage entry).payload.length := by
        show _ ≤ (DealiasDataPayload.encode _ ++ entry.data).length
        rw [List.length_append, DealiasDataPayload.length_encode]
        exact Nat.le_add_right _ _
      rw [Message.dealias?, if_pos ⟨rfl, hlen⟩, dealiasLabel_message]

end Scripts

/-- There is dealias data for the frame type on the connection. -/
def HasDealias (wire : List Message) (ft : Bytes) : Prop := ∃ m ∈ wire, m.dealias? = some ft

/-- **What holds of the main thread's script**, by what has been sent and the
capture thread there is: beside a capture thread the mode is not switched before
a join, no mode is noted but behind its data, and no DataFrame is sent by the
main thread. -/
structure Scripted (wire : List Message) (thread : Thread) (main : Main) : Prop where
  /-- The main thread sends no frames. -/
  sends : ∀ m, Act.send m ∈ main.todo → m.type ≠ .dataFrame
  /-- Where there is a capture thread, it is joined before anything of the
  mode changes. -/
  switches : thread ≠ .none → joinsFirst main.todo = true
  /-- A mode is noted as sent only behind a DealiasData message for it. -/
  marks : Marks (HasDealias wire) main.todo

section Scripted

variable {wire : List Message} {thread : Thread} {main : Main} {block : Block}
  {todo rest : List Act} {act : Act} {c c' : Collector} {r : CallResult}

/-- A plain script has nothing in it that is asked about. -/
theorem scripted_of_plain (h : ∀ a ∈ main.todo, a.plain = true) : Scripted wire thread main where
  sends m hm := of_decide_eq_true (h _ hm)
  switches _ := joinsFirst_of_plain h
  marks := marks_of_forall (fun a ha ft hmark => by
    rw [hmark] at ha
    exact absurd (h _ ha) Bool.noConfusion)

/-- What stops a thread is plain, … -/
theorem plain_stopThread : ∀ a ∈ stopThread, a.plain = true := by decide

/-- … and so is a status in its scope. -/
theorem plain_lockedStatus (code : StatusCode) (text : Bytes) :
    ∀ a ∈ lockedStatus code text, a.plain = true := by
  intro a ha
  simp only [lockedStatus, List.mem_cons, List.not_mem_nil, or_false] at ha
  rcases ha with rfl | rfl | rfl <;> rfl

/-- The blocks that follow another are plain. -/
theorem plain_done (block : Block) : ∀ a ∈ block.done.todo, a.plain = true := by
  cases block with
  | guarded =>
    show ∀ a ∈ [.setRun true] ++ lockedStatus _ _ ++ [.spawn], a.plain = true
    refine List.forall_mem_append.mpr
      ⟨List.forall_mem_append.mpr ⟨?_, plain_lockedStatus _ _⟩, ?_⟩ <;>
      · intro a ha
        cases List.mem_singleton.mp ha
        rfl
  | failed => exact plain_stopThread
  | hello | ccb | ccbFailed | dealias | dealiasFailed =>
    intro a ha
    cases List.mem_singleton.mp ha
    rfl
  | ready | started | cleanup | stop | stopping => exact fun a ha => absurd ha List.not_mem_nil

/-- The handlers of the blocks are plain, too. -/
theorem plain_thrown (what : Bytes) (block : Block) :
    ∀ a ∈ (block.thrown what).todo, a.plain = true := by
  cases block with
  | guarded => exact plain_lockedStatus _ _
  | failed | started | cleanup | stop => exact plain_stopThread
  | ccb | dealias =>
    intro a ha
    cases List.mem_singleton.mp ha
    rfl
  | hello | ccbFailed | dealiasFailed | ready | stopping =>
    exact fun a ha => absurd ha List.not_mem_nil

/-- A command is served by a script that joins first and notes nothing. The
noting of a mode is put into it by the export, with the messages. -/
theorem scripted_dispatch (m : Message) (sent : List Bytes) :
    Scripted wire thread (Main.dispatch m sent) := by
  have hstart : ∀ ft fps,
      (∀ m, Act.send m ∈ startCapture ft fps sent → m.type ≠ .dataFrame)
        ∧ joinsFirst (startCapture ft fps sent) = true
        ∧ ∀ a ∈ startCapture ft fps sent, ∀ ft', a ≠ .markSent ft' := by
    intro ft fps
    refine ⟨fun m hm => ?_, rfl, fun a ha ft' hmark => ?_⟩
    · have hstatus : ∃ text, m = statusMessage .waitingForCommand text := by
        unfold startCapture lockedStatus stopThread at hm
        split at hm <;> split at hm <;> split at hm <;> simp at hm <;> grind
      obtain ⟨text, rfl⟩ := hstatus
      exact (by decide : MessageType.status ≠ .dataFrame)
    · rw [hmark] at ha
      unfold startCapture lockedStatus stopThread at ha
      split at ha <;> split at ha <;> split at ha <;> simp at ha
  unfold Main.dispatch
  split
  · dsimp only
    split
    · exact ⟨(hstart _ _).1, fun _ => (hstart _ _).2.1, marks_of_forall (hstart _ _).2.2⟩
    · exact ⟨(hstart _ _).1, fun _ => (hstart _ _).2.1, marks_of_forall (hstart _ _).2.2⟩
  · split
    · refine scripted_of_plain (List.forall_mem_append.mpr ⟨plain_stopThread, fun a ha => ?_⟩)
      cases List.mem_singleton.mp ha
      rfl
    · split
      · exact scripted_of_plain (List.forall_mem_append.mpr ⟨plain_stopThread, plain_stopThread⟩)
      · exact scripted_of_plain (fun a ha => absurd ha List.not_mem_nil)

/-- Going on with a script, also into the next block. -/
theorem scripted_resume (h : Scripted wire thread (.run block rest)) :
    Scripted wire thread (.resume block rest) := by
  cases rest with
  | nil => exact scripted_of_plain (plain_done block)
  | cons act rest => exact h

/-- A message that is no DataFrame may be put before a script. -/
theorem send_light {m : Message} (hm : m.type ≠ .dataFrame) :
    (Act.send m ≠ .join ∧ ∀ ft, Act.send m ≠ .switchMode ft)
      ∧ ∀ m', Act.send m = .send m' → m'.type ≠ .dataFrame :=
  ⟨⟨nofun, nofun⟩, fun m' h => by cases h; exact hm⟩

/-- So may an act that has nothing to do with messages or modes. -/
theorem silent_light (h : act = .lock ∨ act = .unlock ∨ ∃ ft, act = .markSent ft) :
    (act ≠ .join ∧ ∀ ft, act ≠ .switchMode ft)
      ∧ ∀ m, act = .send m → m.type ≠ .dataFrame := by
  rcases h with rfl | rfl | ⟨ft, rfl⟩ <;> exact ⟨⟨nofun, nofun⟩, nofun⟩

/-- **What an act puts before the rest of its script**: sends, and notes behind
their messages. None of it is a join, a change of the mode or a DataFrame; so
`joinsFirst` is that of the rest, and `Marks` holds for what is put in front
without anything having been sent before. -/
theorem script_of_act (h : c.act block todo r act = some c') :
    (∃ more, c'.main = .resume block (more ++ todo)
        ∧ (∀ a ∈ more, (a ≠ .join ∧ ∀ ft, a ≠ .switchMode ft)
          ∧ ∀ m, a = .send m → m.type ≠ .dataFrame)
        ∧ ∀ sent, Marks sent more)
      ∨ (∃ what, c'.main = block.thrown what) ∨ c'.main = .terminated := by
  have hnil : ∀ main, main = Main.resume block todo → (∃ more, main = .resume block (more ++ todo)
      ∧ (∀ a ∈ more, (a ≠ .join ∧ ∀ ft, a ≠ .switchMode ft)
        ∧ ∀ m, a = .send m → m.type ≠ .dataFrame) ∧ ∀ sent, Marks sent more) :=
    fun main hm => ⟨[], hm, fun a ha => absurd ha List.not_mem_nil, fun _ => trivial⟩
  cases act with
  | lock | join =>
    simp only [Collector.act] at h
    split at h
    · cases h
      exact .inl (hnil _ rfl)
    · cases h
  | unlock | send _ | markSent _ | setRun _ | camStop =>
    cases h
    exact .inl (hnil _ rfl)
  | spawn =>
    simp only [Collector.act] at h
    split at h
    · cases h
      exact .inl (hnil _ rfl)
    · cases h
      exact .inr (.inr rfl)
  | setRequestedFps _ | switchMode _ | camStart =>
    simp only [Collector.act] at h
    split at h
    · cases h
      exact .inl (hnil _ rfl)
    · next what =>
      cases h
      exact .inr (.inl ⟨what, rfl⟩)
    · cases h
  | exportCcb =>
    simp only [Collector.act] at h
    split at h
    · next ccb =>
      cases h
      refine .inl ⟨sendCcb ccb, rfl, ?_, fun _ => trivial⟩
      intro a ha
      simp only [sendCcb, List.mem_cons, List.not_mem_nil, or_false] at ha
      rcases ha with rfl | rfl
      · exact send_light (by decide : MessageType.ccbFile ≠ .dataFrame)
      · exact send_light (by decide : MessageType.status ≠ .dataFrame)
    · next what =>
      cases h
      exact .inr (.inl ⟨what, rfl⟩)
    · cases h
  | exportDealias frameTypes locked =>
    simp only [Collector.act] at h
    split at h
    · next entries =>
      cases h
      -- each entry is sent, reported and noted, and nothing more
      have hentries : ∀ a ∈ sendDealiasEntries entries, (a ≠ .join ∧ ∀ ft, a ≠ .switchMode ft)
          ∧ ∀ m, a = .send m → m.type ≠ .dataFrame := by
        intro a ha
        obtain ⟨entry, -, hentry⟩ := List.mem_flatMap.mp ha
        split at hentry
        · exact absurd hentry List.not_mem_nil
        · simp only [List.mem_cons, List.not_mem_nil, or_false] at hentry
          rcases hentry with rfl | rfl | rfl
          · exact send_light (by decide : MessageType.dealiasData ≠ .dataFrame)
          · exact send_light (by decide : MessageType.status ≠ .dataFrame)
          · exact silent_light (.inr (.inr ⟨_, rfl⟩))
      cases locked with
      | false => exact .inl ⟨_, rfl, hentries, fun sent => marks_sendDealiasEntries sent entries⟩
      | true =>
        have hmarks : ∀ sent, Marks sent ([.lock] ++ sendDealiasEntries entries) :=
          fun sent => marks_sendDealiasEntries sent entries
        refine .inl ⟨_, rfl, List.forall_mem_append.mpr ⟨List.forall_mem_append.mpr
          ⟨?_, hentries⟩, ?_⟩, fun sent => (hmarks sent).append (show Marks sent [.unlock] from
            trivial)⟩
        · intro a ha
          cases List.mem_singleton.mp ha
          exact silent_light (.inl rfl)
        · intro a ha
          cases List.mem_singleton.mp ha
          exact silent_light (.inr (.inl rfl))
    · next what =>
      cases h
      exact .inr (.inl ⟨what, rfl⟩)
    · cases h

/-- The modes that are noted, behind an act. -/
theorem sent_of_act (h : c.act block todo r act = some c') :
    c'.sent = c.sent ∨ ∃ ft, act = .markSent ft ∧ c'.sent = ft :: c.sent := by
  cases act with
  | markSent ft =>
    cases h
    exact .inr ⟨ft, rfl, rfl⟩
  | unlock | send _ | setRun _ | camStop =>
    cases h
    exact .inl rfl
  | lock | join | spawn =>
    simp only [Collector.act] at h
    split at h <;> cases h
    all_goals exact .inl rfl
  | exportCcb | exportDealias _ _ | setRequestedFps _ | switchMode _ | camStart =>
    simp only [Collector.act] at h
    split at h <;> cases h
    all_goals exact .inl rfl

end Scripted

/-! ## A session

The invariant of a session ties four things together: what is in the script,
what is noted, what is on the wire, and the mode. `covered` is the only part of
it that needs the condition, and only in the one step that starts a capture
thread; from there on the mode stays, the notes only grow, and so does the wire.

A DataFrame comes on the wire from the capture thread alone. Its label is the
mode (`frames`), the mode is noted (`covered`), and what is noted is on the wire
(`marked`): these three give that its data precedes it. -/

section Wire

variable {wire : List Message} {m : Message}

/-- A message more: if it is a DataFrame, its data has to be on the wire. -/
theorem Preceded.append (h : Preceded wire) (hm : ∀ ft, m.frame? = some ft → HasDealias wire ft) :
    Preceded (wire ++ [m]) := by
  intro before m' after ft hwire hft
  cases after using List.reverseRecOn with
  | nil =>
    obtain ⟨rfl, hlast⟩ := List.append_inj' hwire rfl
    cases hlast
    exact hm ft hft
  | append_singleton after m'' =>
    have hcut : wire ++ [m] = (before ++ m' :: after) ++ [m''] := by
      rw [hwire, List.append_assoc, List.cons_append]
    exact h before m' after ft (List.append_inj' hcut rfl).1 hft

/-- Only a DataFrame is labelled as one. -/
theorem frame?_of_type (h : m.type ≠ .dataFrame) : m.frame? = none :=
  if_neg (fun hm => h hm.1)

/-- What is on the wire stays there. -/
theorem HasDealias.append {ft : Bytes} (h : HasDealias wire ft) (ms : List Message) :
    HasDealias (wire ++ ms) ft := by
  obtain ⟨m, hm, hft⟩ := h
  exact ⟨m, List.mem_append_left _ hm, hft⟩

end Wire

namespace CollectorSession

/-- **What holds of a session in every state**, where every capture is started
in a mode whose dealias data has been sent. -/
structure Inv (args : SessionArgs) (s : CollectorSession) : Prop where
  run : s.toCaptureRun.Inv args
  scripted : Scripted s.wire s.thread s.main
  /-- The frames of the capture thread are labelled with the mode. -/
  frames : ∀ m ft, Act.send m ∈ s.thread.todo → m.frame? = some ft →
    ft = wireName kNameLen s.modeName
  covered : s.thread ≠ .none → s.modeName ∈ s.sent
  marked : ∀ ft ∈ s.sent, HasDealias s.wire (wireName kNameLen ft)
  preceded : Preceded s.wire

variable {args : SessionArgs} {s s' : CollectorSession}

/-- At the start there is no capture thread, and nothing has been noted. -/
theorem inv_initial (args : SessionArgs) (capturing : Bool) (modeName : Bytes) :
    (initial args capturing modeName).Inv args where
  run := CaptureRun.inv_initial args capturing
  scripted := scripted_of_plain (fun a ha => by
    cases List.mem_singleton.mp ha
    rfl)
  frames := fun _ _ h => absurd h List.not_mem_nil
  covered := fun h => absurd rfl h
  marked := fun _ h => absurd h List.not_mem_nil
  preceded := fun before m after ft h => by
    cases before <;> cases h

/-- The main thread comes from `recv_message` to where there is no capture to
lose. -/
theorem Inv.command (hs : s.Inv args) {main : Main} {run : CaptureRun}
    (hmain : Scripted s.wire s.thread main) (hrun : run.Inv args)
    (h : s.toCaptureRun.command main = some run) :
    Inv args { toCaptureRun := run, modeName := s.modeName, wire := s.wire } := by
  unfold CaptureRun.command at h
  split at h
  · cases h
    exact { hs with run := hrun, scripted := hmain }
  · cases h

variable {block : Block} {act : Act} {todo : List Act} {c : Collector} {r : CallResult}

/-- The mode stays while there is a capture thread: an act that switches it
stands behind a join in the script, and behind the join the thread is gone. -/
theorem Inv.mode_of_thread (hs : s.Inv args) (hmain : s.main = .run block (act :: todo))
    (hthread : s.thread ≠ .none) (r : CallResult) :
    act.modeAfter r s.modeName = s.modeName ∧ (act ≠ .join → joinsFirst todo = true) := by
  have hjoins : joinsFirst (act :: todo) = true := by
    have := hs.scripted.switches hthread
    rwa [hmain] at this
  cases act with
  | switchMode ft => exact absurd hjoins Bool.noConfusion
  | join => exact ⟨rfl, fun h => absurd rfl h⟩
  | _ => exact ⟨rfl, fun _ => hjoins⟩

/-- **The script behind an act.** -/
theorem Inv.scripted_act (hs : s.Inv args) (hmain : s.main = .run block (act :: todo))
    (h : s.toCollector.act block todo r act = some c) :
    Scripted (s.wire ++ act.message?.toList) c.thread c.main := by
  have hold := hs.scripted
  rw [hmain] at hold
  have hfollows := hs.run.wellFormed block (act :: todo) hmain
  have hswitches : c.thread ≠ .none → joinsFirst todo = true := by
    intro hthread
    rcases (moves_of_act h).thread with ⟨-, -, hnone⟩ | ⟨rfl, -, -, -⟩ | ⟨hjoin, -, hsame⟩
    · exact absurd hnone hthread
    · obtain ⟨-, rfl⟩ := spawn_cases hfollows
      rfl
    · rw [hsame] at hthread
      exact (hs.mode_of_thread hmain hthread r).2 hjoin
  have hmarks : Marks (HasDealias (s.wire ++ act.message?.toList)) todo := by
    have hact := hold.marks
    have hgrow : ∀ ft, HasDealias s.wire ft → HasDealias (s.wire ++ act.message?.toList) ft :=
      fun ft hft => hft.append _
    cases act with
    | markSent ft => exact hact.2.mono hgrow
    | send m =>
      refine hact.mono (fun ft hft => hft.elim (hgrow ft) (fun hm => ?_))
      exact ⟨m, List.mem_append_right _ List.mem_cons_self, hm⟩
    | _ => exact hact.mono hgrow
  rcases script_of_act h with ⟨more, hm, hmore, hmarksMore⟩ | ⟨what, hm⟩ | hm <;> rw [hm]
  · refine scripted_resume ⟨fun m hsend => ?_, fun hthread => ?_, (hmarksMore _).append hmarks⟩
    · rcases List.mem_append.mp hsend with hsend | hsend
      · exact (hmore _ hsend).2 m rfl
      · exact hold.sends m (List.mem_cons_of_mem _ hsend)
    · show joinsFirst (more ++ todo) = true
      rw [joinsFirst_append (fun a ha => (hmore a ha).1)]
      exact hswitches hthread
  · exact scripted_of_plain (plain_thrown what block)
  · exact scripted_of_plain (fun a ha => absurd ha List.not_mem_nil)

/-- **An act of the main thread.** The mode changes by it only where there is no
capture thread (`Inv.mode_of_thread`), a noted mode has its data on the wire by
`Marks`, and for a launch the condition says that the mode is noted. What the
main thread sends is not a DataFrame. -/
theorem Inv.mainAct (hs : s.Inv args) (hmain : s.main = .run block (act :: todo))
    (h : s.toCollector.act block todo r act = some c)
    (hcovered : act = .spawn → s.modeName ∈ s.sent) {run : CaptureRun} (hrun : run.Inv args)
    (hrunc : run.toCollector = c) :
    Inv args {
      toCaptureRun := run, modeName := act.modeAfter r s.modeName
      wire := s.wire ++ act.message?.toList } := by
  subst hrunc
  have hold := hs.scripted
  rw [hmain] at hold
  have hthread := (moves_of_act h).thread
  have hsub : ∀ ft ∈ s.sent, ft ∈ run.sent := by
    intro ft hft
    rcases sent_of_act h with hsent | ⟨ft', -, hsent⟩ <;> rw [hsent]
    · exact hft
    · exact List.mem_cons_of_mem _ hft
  refine {
    run := hrun
    scripted := hs.scripted_act hmain h
    frames := ?frames
    covered := ?covered
    marked := ?marked
    preceded := ?preceded }
  case frames =>
    intro m ft hsend hft
    -- while there is a thread, no act changes the mode
    rcases hthread with ⟨-, -, hnone⟩ | ⟨-, -, -, hhead⟩ | ⟨-, -, hsame⟩
    · rw [hnone] at hsend
      exact absurd hsend List.not_mem_nil
    · rw [hhead] at hsend
      exact absurd hsend List.not_mem_nil
    · rw [hsame] at hsend
      have hne : s.thread ≠ .none := by
        intro hnone
        rw [hnone] at hsend
        exact absurd hsend List.not_mem_nil
      show ft = wireName kNameLen (act.modeAfter r s.modeName)
      rw [(hs.mode_of_thread hmain hne r).1]
      exact hs.frames m ft hsend hft
  case covered =>
    intro hne
    rcases hthread with ⟨-, -, hnone⟩ | ⟨rfl, -, -, -⟩ | ⟨-, -, hsame⟩
    · exact absurd hnone hne
    · -- a capture begins in the mode that has just been covered
      exact hsub _ (hcovered rfl)
    · have hne' : s.thread ≠ .none := by
        intro hnone
        exact hne (hsame.trans hnone)
      show act.modeAfter r s.modeName ∈ run.sent
      rw [(hs.mode_of_thread hmain hne' r).1]
      exact hsub _ (hs.covered hne')
  case marked =>
    intro ft hft
    rcases sent_of_act h with hsent | ⟨ft', rfl, hsent⟩ <;> rw [hsent] at hft
    · exact (hs.marked ft hft).append _
    · rcases List.mem_cons.mp hft with rfl | hft
      · exact hold.marks.1.append _
      · exact (hs.marked ft hft).append _
  case preceded =>
    cases act with
    | send m =>
      -- the main thread sends no DataFrame
      refine hs.preceded.append (fun ft hft => ?_)
      rw [frame?_of_type (hold.sends m List.mem_cons_self)] at hft
      cases hft
    | _ =>
      show Preceded (s.wire ++ [])
      rw [List.append_nil]
      exact hs.preceded

/-- The main thread leaves its loop. -/
theorem Inv.commandStop (hs : s.Inv args) {run : CaptureRun} (hrun : run.Inv args)
    (h : s.toCaptureRun.command (.run .stopping stopThread) = some run) :
    Inv args { toCaptureRun := run, modeName := s.modeName, wire := s.wire } := by
  have hplain : ∀ a ∈ (Main.run .stopping stopThread).todo, a.plain = true := plain_stopThread
  exact hs.command (scripted_of_plain hplain) hrun h

/-- A send of the main thread fails. -/
theorem Inv.mainThrow (hs : s.Inv args) {what : Bytes}
    {run : CaptureRun} (hrun : run.Inv args)
    (hrunc : run.toCollector = s.toCollector.throw block what) :
    Inv args { toCaptureRun := run, modeName := s.modeName, wire := s.wire } := by
  have hm : run.main = block.thrown what := by rw [hrunc]; rfl
  have ht : run.thread = s.thread := by rw [hrunc]; rfl
  have hs' : run.sent = s.sent := by rw [hrunc]; rfl
  exact {
    run := hrun
    scripted := by
      show Scripted s.wire run.thread run.main
      rw [hm]
      exact scripted_of_plain (plain_thrown what block)
    frames := by
      show ∀ m ft, Act.send m ∈ run.thread.todo → _
      rw [ht]
      exact hs.frames
    covered := by
      show run.thread ≠ .none → s.modeName ∈ run.sent
      rw [ht, hs']
      exact hs.covered
    marked := by
      show ∀ ft ∈ run.sent, _
      rw [hs']
      exact hs.marked
    preceded := hs.preceded }

/-- **A step of the capture thread**: what it sends of its script, and a script
whose frames are labelled with the mode. If it is a DataFrame that it sends, the
label is the mode, the mode is noted since the thread was started, and what is
noted is on the wire. -/
theorem Inv.captured (hs : s.Inv args) {run : CaptureRun} (hrun : run.Inv args)
    (hmain : run.main = s.main) (hsent : run.sent = s.sent) (hlive : s.thread ≠ .none)
    (hframes : ∀ m ft, Act.send m ∈ run.thread.todo → m.frame? = some ft →
      ft = wireName kNameLen s.modeName)
    (sends : Option Message) (hsends : ∀ m, sends = some m → Act.send m ∈ s.thread.todo) :
    Inv args { toCaptureRun := run, modeName := s.modeName, wire := s.wire ++ sends.toList } where
  run := hrun
  scripted := by
    show Scripted (s.wire ++ sends.toList) run.thread run.main
    rw [hmain]
    exact ⟨hs.scripted.sends, fun _ => hs.scripted.switches hlive,
      hs.scripted.marks.mono (fun ft hft => hft.append _)⟩
  frames := hframes
  covered _ := by
    show s.modeName ∈ run.sent
    rw [hsent]
    exact hs.covered hlive
  marked ft hft := by
    rw [show run.sent = s.sent from hsent] at hft
    exact (hs.marked ft hft).append _
  preceded := by
    cases sends with
    | none =>
      show Preceded (s.wire ++ [])
      rw [List.append_nil]
      exact hs.preceded
    | some m =>
      -- the frame is of the mode that the capture was started in
      refine hs.preceded.append (fun ft hft => ?_)
      rw [hs.frames m ft (hsends m rfl) hft]
      exact hs.marked _ (hs.covered hlive)

/-! ### The capture thread

What the thread puts on the wire is a DataFrame with the mode of its session, or
a status. The first is what the invariant is about; the second says nothing of
dealias data or of frames. Between two sends the thread only goes on. -/

/-- A thread that is sending is there, … -/
theorem live_of_acts {thread : Thread} {acts : List Act} (h : thread.acts = some acts) :
    thread ≠ .none := by
  rintro rfl
  cases h

/-- … and has that to do. -/
theorem todo_of_acts {thread : Thread} {acts : List Act} (h : thread.acts = some acts) :
    thread.todo = acts := by
  rw [Thread.todo, h]
  rfl

/-- The header of a frame that the capture thread packs. -/
theorem frame?_frameResult {frameId : UInt64} {f : RawFrame} {timestampNs : UInt64}
    {compressed payload : Bytes} {ft : Bytes}
    (h : CaptureRun.frameResult frameId (.frame f timestampNs compressed) = .frame payload)
    (hft : Message.frame? ⟨.dataFrame, payload⟩ = some ft) :
    ft = wireName kNameLen f.frameType := by
  cases h
  unfold Message.frame? at hft
  split at hft
  · rw [DataFramePayloadHeader.decode_encode_append] at hft
    exact ((Option.some.inj hft).symm.trans (cstrToString_copyCstr (by decide) _))
  · cases hft

/-- What is in the script of a send. -/
theorem eq_of_threadSend {m m' : Message} (h : Act.send m ∈ threadSend m') : m = m' := by
  simp only [threadSend, List.mem_cons, List.not_mem_nil, or_false] at h
  rcases h with h | h | h <;> cases h
  rfl

/-- A status is no DataFrame. -/
theorem type_of_status {m : Message} {code : StatusCode} {text : Bytes} {frameId : UInt64}
    (h : Act.send m ∈ threadSend (statusMessage code text frameId)) : m.type ≠ .dataFrame := by
  rw [eq_of_threadSend h]
  exact (by decide : MessageType.status ≠ .dataFrame)

/-- An act of the capture thread notes no mode. -/
theorem sent_of_captureAct {c c' : Collector} {acts : List Act} (h : c.captureAct acts = some c') :
    c'.sent = c.sent := by
  unfold Collector.captureAct at h
  split at h
  · split at h <;> cases h
    rfl
  · cases h
    rfl
  · cases h
    rfl
  · cases h

/-- A send of the capture thread that fails leaves a script with a status at
most. -/
theorem captureThrow_cases {c : Collector} {acts : List Act} (what : Bytes)
    (hacts : c.thread.acts = some acts) {m : Message}
    (h : Act.send m ∈ (c.captureThrow what).thread.todo) : m.type ≠ .dataFrame := by
  unfold Collector.captureThrow at h
  cases ht : c.thread with
  | frame frameId todo =>
    rw [ht] at h
    exact type_of_status h
  | error frameId todo | report todo =>
    rw [ht] at h
    exact absurd h List.not_mem_nil
  | _ =>
    rw [ht] at hacts
    cases hacts

/-- **Between its sends the capture thread** makes the script of a frame it has
got, or of a status. -/
theorem turn_cases {c c' : Collector} {r : FrameResult} (h : c.captureTurn args r = some c') :
    c'.main = c.main ∧ c'.sent = c.sent ∧ c.thread ≠ .none
      ∧ ∀ m, Act.send m ∈ c'.thread.todo →
        m.type ≠ .dataFrame ∨ ∃ payload, r = .frame payload ∧ m = ⟨.dataFrame, payload⟩ := by
  unfold Collector.captureTurn at h
  split at h
  · next frameId hthread =>
    have hlive : c.thread ≠ .none := by rw [hthread]; exact Thread.noConfusion
    split at h
    · cases h
      exact ⟨rfl, rfl, hlive, fun m hm => .inl (type_of_status hm)⟩
    · split at h
      · cases h
        exact ⟨rfl, rfl, hlive, fun m hm => absurd hm List.not_mem_nil⟩
      · split at h
        · next payload =>
          cases h
          exact ⟨rfl, rfl, hlive, fun m hm => .inr ⟨payload, rfl, eq_of_threadSend hm⟩⟩
        · cases h
          exact ⟨rfl, rfl, hlive, fun m hm => .inl (type_of_status hm)⟩
  · next frameId hthread =>
    cases h
    exact ⟨rfl, rfl, by rw [hthread]; exact Thread.noConfusion,
      fun m hm => .inl (type_of_status hm)⟩
  · cases h

/-- An act of the capture thread, the next of the script it has. -/
theorem Inv.captureAct (hs : s.Inv args) {acts : List Act} (hacts : s.thread.acts = some acts)
    (h : s.toCollector.captureAct acts = some c) {run : CaptureRun} (hrun : run.Inv args)
    (hrunc : run.toCollector = c) :
    Inv args {
      toCaptureRun := run
      modeName := s.modeName
      wire := s.wire ++ (acts.head?.bind Act.message?).toList } := by
  subst hrunc
  obtain ⟨act, rest, rfl, ht, hm⟩ := thread_of_captureAct h
  obtain ⟨htodo, -, hlive⟩ := todo_resume hacts rest
  have hold := todo_of_acts hacts
  refine hs.captured hrun hm (sent_of_captureAct h) hlive (fun m ft hsend hft => ?_) act.message?
    (fun m hmsg => ?_)
  · -- what is still to be sent was to be sent before
    rw [ht, htodo] at hsend
    refine hs.frames m ft ?_ hft
    rw [hold]
    exact List.mem_cons_of_mem _ hsend
  · rw [hold]
    cases act with
    | send m' => cases hmsg; exact List.mem_cons_self
    | _ => cases hmsg

/-- A turn of the capture thread, with frames of the mode. -/
theorem Inv.captureTurn (hs : s.Inv args) {r : FrameResult}
    (hlabel : ∀ payload ft, r = .frame payload →
      Message.frame? ⟨.dataFrame, payload⟩ = some ft → ft = wireName kNameLen s.modeName)
    (h : s.toCollector.captureTurn args r = some c) {run : CaptureRun} (hrun : run.Inv args)
    (hrunc : run.toCollector = c) :
    Inv args { toCaptureRun := run, modeName := s.modeName, wire := s.wire ++ [] } := by
  subst hrunc
  obtain ⟨hmain, hsent, hlive, hsends⟩ := turn_cases h
  refine hs.captured hrun hmain hsent hlive (fun m ft hm hft => ?_) none (fun _ => nofun)
  rcases hsends m hm with htype | ⟨payload, hr, rfl⟩
  · rw [frame?_of_type htype] at hft
    cases hft
  · exact hlabel payload ft hr hft

/-- **Every step of a session keeps the invariant**, where a capture is started
in a mode whose dealias data has been sent. The condition is used for one act of
the main thread, the launch. In all other cases the steps are those of
`CaptureRun`, whose own invariant is a part of this one. -/
theorem Inv.step (hs : s.Inv args) {a : CaptureRun.Step} (hok : s.Covered a)
    (h : step args s a = some s') : s'.Inv args := by
  unfold CollectorSession.step at h
  split at h
  swap
  · cases h
  next hlabels =>
  obtain ⟨run, hstep, rfl⟩ := Option.map_eq_some_iff.mp h
  have hrun := CaptureRun.inv_step a hs.run hstep
  cases a with
  | interrupt =>
    cases hstep
    show Inv args { toCaptureRun := _, modeName := s.modeName, wire := s.wire ++ [] }
    rw [List.append_nil]
    exact { hs with run := hrun }
  | recv m =>
    show Inv args { toCaptureRun := run, modeName := s.modeName, wire := s.wire ++ [] }
    rw [List.append_nil]
    exact hs.command (scripted_dispatch m s.sent) hrun hstep
  | recvThrows =>
    show Inv args { toCaptureRun := run, modeName := s.modeName, wire := s.wire ++ [] }
    rw [List.append_nil]
    exact hs.commandStop hrun hstep
  | leave =>
    show Inv args { toCaptureRun := run, modeName := s.modeName, wire := s.wire ++ [] }
    rw [List.append_nil]
    simp only [CaptureRun.step] at hstep
    split at hstep
    · exact hs.commandStop hrun hstep
    · cases hstep
  | main r left =>
    simp only [CaptureRun.step, CaptureRun.mainAct] at hstep
    split at hstep
    · next block act todo hmain =>
      obtain ⟨c, hc, rfl⟩ := Option.map_eq_some_iff.mp hstep
      have hhead : s.main.todo.head? = some act := by rw [hmain]; rfl
      have hcovered : act = .spawn → s.modeName ∈ s.sent := by
        rintro rfl
        exact hok hhead
      have hinv := hs.mainAct hmain hc hcovered hrun rfl
      simp only [actOf, modeAfter, hhead]
      exact hinv
    · cases hstep
  | mainThrows what =>
    show Inv args { toCaptureRun := run, modeName := s.modeName, wire := s.wire ++ [] }
    rw [List.append_nil]
    simp only [CaptureRun.step, CaptureRun.mainThrow] at hstep
    split at hstep
    · cases hstep
      exact hs.mainThrow hrun rfl
    · cases hstep
  | capture a =>
    simp only [CaptureRun.step, CaptureRun.captureStep] at hstep
    split at hstep
    · next acts hacts =>
      obtain ⟨c, hc, rfl⟩ := Option.map_eq_some_iff.mp hstep
      simp only [actOf, modeAfter, todo_of_acts hacts]
      exact hs.captureAct hacts hc hrun rfl
    · next hacts =>
      have hnone : s.thread.todo = [] := by rw [Thread.todo, hacts]; rfl
      simp only [actOf, modeAfter, hnone, List.head?_nil, Option.bind_none, Option.toList_none]
      split at hstep
      · next frameId hthread =>
        obtain ⟨c, hc, rfl⟩ := Option.map_eq_some_iff.mp hstep
        refine hs.captureTurn (fun payload ft hr hft => ?_) hc hrun rfl
        split at hr
        · cases a with
          | frame f timestampNs compressed =>
            -- the frame is labelled with the mode the camera is in
            rw [frame?_frameResult hr hft, show f.frameType = s.modeName from hlabels]
          | failed what => cases hr
        · cases hr
      · obtain ⟨c, hc, rfl⟩ := Option.map_eq_some_iff.mp hstep
        exact hs.captureTurn (fun payload ft hr hft => by cases hr) hc hrun rfl
      · cases hstep
  | captureThrows what =>
    simp only [CaptureRun.step, CaptureRun.captureFail] at hstep
    split at hstep
    · next m rest hacts =>
      cases hstep
      exact hs.captured hrun rfl rfl (live_of_acts hacts)
        (fun m ft hm hft => by
          rw [frame?_of_type (captureThrow_cases what hacts hm)] at hft
          cases hft) none (fun _ => nofun)
    · cases hstep
  | captureLeaves =>
    simp only [CaptureRun.step, CaptureRun.captureLeave] at hstep
    split at hstep
    · next frameId hthread =>
      split at hstep
      · cases hstep
        have hlive : s.thread ≠ .none := by rw [hthread]; exact Thread.noConfusion
        exact hs.captured hrun rfl rfl hlive
          (fun m ft hm hft => by
            rw [frame?_of_type (type_of_status hm)] at hft
            cases hft) none (fun _ => nofun)
      · cases hstep
    · cases hstep

end CollectorSession

/-! ## The viewer

What the worker does with a message is one of two things to TOFI: it stays as it
is, or it is released (`Handles`). The dealias data of a frame type is handled
in the second way, so that no context of that type survives it; a context of
another type may survive, but it is not found for this one, as the frame type is
in the key.

`Reads` says what follows for the connection that is read. It says nothing about
frame types whose data has not come over it, and there the slot, and the
context, may be of any connection. That a frame which comes to be computed is of
a type whose data has come is the other half again: the data precedes the frame
on the wire, and the worker takes the messages in their order. -/

namespace ViewerTofi

variable {κ χ γ : Type} {lib : TofiLibrary κ χ γ} {s s' : ViewerTofi κ γ} {m : Message}
  {answer : SaveAnswer} {computes : Bool}

/-- A received file leaves what is kept, or releases it. -/
theorem handleModuleFile_cases (s : ViewerTofi κ γ) (name what savePath : Bytes)
    (setPath : ViewerConfig → ViewerConfig) (m : Message) (answer : SaveAnswer) :
    ((s.handleModuleFile name what savePath setPath m answer).1.tofi = s.tofi
        ∨ (s.handleModuleFile name what savePath setPath m answer).1.tofi = {})
      ∧ (s.handleModuleFile name what savePath setPath m answer).1.pending = s.pending := by
  unfold handleModuleFile
  split
  · exact ⟨.inl rfl, rfl⟩
  · split
    · exact ⟨.inl rfl, rfl⟩
    · exact ⟨.inr rfl, rfl⟩

/-- **What the worker makes of a message**: TOFI stays as it is or is released,
and only a DataFrame with a header leaves a frame to be computed. -/
structure Handles (s : ViewerTofi κ γ) (m : Message) (answer : SaveAnswer) (s' : ViewerTofi κ γ) :
    Prop where
  /-- What is kept stays, or is released. -/
  tofi : s'.tofi = s.tofi ∨ s'.tofi = {}
  /-- A frame that is to be computed is that of the message, by its own frame
  type. -/
  pending : ∀ r, s'.pending = some r →
    ∃ ft, m.frame? = some ft ∧ (ft ≠ [] → r.frameType = ft)
  /-- A DealiasData message releases what is kept and fills the slot of its
  frame type. -/
  dealias : ∀ ft, m.dealias? = some ft → s.throws m answer = false →
    s'.tofi = {} ∧ s.stores m = some (convertModeName ft) ∧ ft ≠ []

/-- It has none for any frame type. -/
theorem dealias?_of_type (h : m.type ≠ .dealiasData) : m.dealias? = none :=
  if_neg (fun hm => h hm.1)

/-- Messages of another type, that leave what is kept or release it. -/
theorem handles_of_tofi (hpending : s.pending = none) (htype : m.type ≠ .dealiasData)
    (htofi : s'.tofi = s.tofi ∨ s'.tofi = {}) (hsame : s'.pending = s.pending) :
    s.Handles m answer s' where
  tofi := htofi
  pending r hr := by
    rw [hsame, hpending] at hr
    cases hr
  dealias ft hft := by
    rw [dealias?_of_type htype] at hft
    cases hft

/-- A message with dealias data whose handler returns has been stored. -/
theorem handleDealiasData_ok {slots slots' : DealiasSlots}
    (h : handleDealiasData m slots = .ok slots') :
    dealiasDataPayloadSize ≤ m.payload.length ∧ m.dealiasLabel ≠ [] := by
  unfold handleDealiasData at h
  split at h
  · cases h
  · next hlen =>
    dsimp only at h
    split at h
    · cases h
    · split at h
      · cases h
      · next hname => exact ⟨Nat.le_of_not_lt hlen, hname⟩

/-- **Dealias data** fills the slot of its frame type and releases what is kept,
if its handler returns. -/
theorem handles_of_dealias (hpending : s.pending = none) (htype : m.type = .dealiasData)
    (h : ViewerTofi.step lib s (.dealiasData m) = some s') : s.Handles m answer s' := by
  unfold ViewerTofi.step at h
  rw [hpending] at h
  dsimp only at h
  have hthrows : s.throws m answer = !(handleDealiasData m s.slots).isOk := by
    unfold throws
    rw [htype]
    rfl
  cases hslots : handleDealiasData m s.slots with
  | error text =>
    rw [hslots] at h hthrows
    cases h
    exact {
      tofi := .inl rfl
      pending := fun r hr => by rw [hpending] at hr; cases hr
      dealias := fun ft _ hreturns => by rw [hthrows] at hreturns; cases hreturns }
  | ok slots =>
    rw [hslots] at h
    cases h
    obtain ⟨hlen, hname⟩ := handleDealiasData_ok hslots
    exact {
      tofi := .inr rfl
      pending := fun r hr => by cases hr
      dealias := fun ft hft _ => by
        rw [Message.dealias?, if_pos ⟨htype, hlen⟩] at hft
        cases hft
        refine ⟨rfl, ?_, hname⟩
        unfold stores
        rw [hslots]
        exact if_pos ⟨htype, rfl⟩ }

/-- **The worker handles a message.** -/
theorem handles_of_message (hpending : s.pending = none)
    (h : (match m.tofiStep answer computes with
      | some a => ViewerTofi.step lib s a
      | none => some s) = some s') : s.Handles m answer s' := by
  unfold Message.tofiStep at h
  by_cases hccb : m.type = .ccbFile
  · rw [if_pos hccb] at h
    simp only [ViewerTofi.step, hpending] at h
    cases h
    -- a file at most releases what is kept
    have hne : m.type ≠ .dealiasData := by rw [hccb]; decide
    obtain ⟨htofi, hsame⟩ := s.handleModuleFile_cases (ascii "CcbFile") (ascii "CCB")
      (ccbSavePath s.config) (fun config => { config with ccbFile := ccbSavePath s.config })
      m answer
    exact handles_of_tofi hpending hne htofi hsame
  rw [if_neg hccb] at h
  by_cases hcfg : m.type = .cfgFile
  · rw [if_pos hcfg] at h
    simp only [ViewerTofi.step, hpending] at h
    cases h
    have hne : m.type ≠ .dealiasData := by rw [hcfg]; decide
    obtain ⟨htofi, hsame⟩ := s.handleModuleFile_cases (ascii "CfgFile") (ascii "CFG")
      (cfgSavePath s.config) (fun config => { config with cfgFile := cfgSavePath s.config })
      m answer
    exact handles_of_tofi hpending hne htofi hsame
  rw [if_neg hcfg] at h
  by_cases hdealias : m.type = .dealiasData
  · rw [if_pos hdealias] at h
    exact handles_of_dealias hpending hdealias h
  rw [if_neg hdealias] at h
  split at h
  · next a ha =>
    split at ha
    · next hframe =>
      cases ha
      simp only [ViewerTofi.step, hpending] at h
      cases h
      obtain ⟨htype, hlen, -⟩ := hframe
      exact {
        tofi := .inl rfl
        pending := fun r hr => by
          cases hr
          -- the frame type that is asked for is that of the header
          refine ⟨_, if_pos ⟨htype, hlen⟩, fun hne => ?_⟩
          show makeFrameType _ _ = _
          unfold makeFrameType
          dsimp only
          rw [if_neg hne, if_neg hne]
        dealias := fun ft hft => by
          rw [dealias?_of_type hdealias] at hft
          cases hft }
    · cases ha
  · cases h
    exact handles_of_tofi hpending hdealias (.inl rfl) rfl

end ViewerTofi

namespace Calibration

variable {κ χ γ : Type} {lib : TofiLibrary κ χ γ} {args : ℕ → SessionArgs}
  {s s' : Calibration κ γ}

/-- What the worker has taken of a connection. -/
def taken (s : Calibration κ γ) (n : ℕ) : List Message := (s.sessions n).wire.take s.handled

/-- **What holds of the connection that is read.** -/
structure Reads (s : Calibration κ γ) (n : ℕ) : Prop where
  /-- No more has been handled than was sent. -/
  bound : s.handled ≤ (s.sessions n).wire.length
  /-- A slot whose dealias data has come over it is of this connection, and so
  is a context made with that slot since. -/
  slot : ∀ ft, HasDealias (s.taken n) ft → ft ≠ [] ∧ s.slotFrom (convertModeName ft) = some n
  /-- A context that was made on the ISP's way for a frame type with such a
  slot has been made on this connection. -/
  context : ∀ ft, HasDealias (s.taken n) ft → s.viewer.tofi.key.frameType = ft →
    s.viewer.tofi.builtByIsp = true → s.contextFrom = some n

/-- **What holds in every state.** -/
structure Inv (args : ℕ → SessionArgs) (s : Calibration κ γ) : Prop where
  sessions : ∀ n, (s.sessions n).Inv (args n)
  reads : ∀ n, s.reading = some n → s.Reads n
  pending : ∀ r, s.viewer.pending = some r →
    ∃ n, s.reading = some n ∧ HasDealias (s.taken n) r.frameType

/-- No connection is read at the start. -/
theorem inv_initial (args : ℕ → SessionArgs) (capturing : ℕ → Bool) (modeNames : ℕ → Bytes)
    (config : ViewerConfig) (files : Files) :
    Inv args (initial args capturing modeNames config files : Calibration κ γ) where
  sessions n := CollectorSession.inv_initial _ _ _
  reads n h := by cases h
  pending r h := by cases h

/-- **A step of a session** adds to what there is to be taken. What has been
taken is the front of the wire, and stays as it is. -/
theorem Inv.session (hs : s.Inv args) {n : ℕ} {session : CollectorSession}
    (hinv : session.Inv (args n)) (hgrows : (s.sessions n).wire <+: session.wire) :
    Inv args { s with sessions := Function.update s.sessions n session } := by
  have hwire : ∀ k, (s.sessions k).wire <+: (Function.update s.sessions n session k).wire := by
    intro k
    by_cases hk : k = n
    · rw [hk, Function.update_self]
      exact hgrows
    · rw [Function.update_of_ne hk]
  have htaken : ∀ k, s.reading = some k →
      taken { s with sessions := Function.update s.sessions n session } k = s.taken k := by
    intro k hk
    obtain ⟨ms, hms⟩ := hwire k
    show List.take _ (Function.update s.sessions n session k).wire = _
    rw [← hms]
    exact List.take_append_of_le_length (hs.reads k hk).bound
  refine ⟨fun k => ?_, fun k hk => ?_, fun r hr => ?_⟩
  · by_cases hk : k = n
    · subst hk
      show (Function.update s.sessions k session k).Inv _
      rw [Function.update_self]
      exact hinv
    · show (Function.update s.sessions n session k).Inv _
      rw [Function.update_of_ne hk]
      exact hs.sessions k
  · have hreads := hs.reads k hk
    refine ⟨hreads.bound.trans (hwire k).length_le, ?_, ?_⟩
    · rw [htaken k hk]
      exact hreads.slot
    · rw [htaken k hk]
      exact hreads.context
  · obtain ⟨k, hk, hdealias⟩ := hs.pending r hr
    refine ⟨k, hk, ?_⟩
    rw [htaken k hk]
    exact hdealias

/-- A step of a session only adds to what it has sent. -/
theorem wire_of_step {session session' : CollectorSession} {a : CaptureRun.Step} {n : ℕ}
    (h : CollectorSession.step (args n) session a = some session') :
    session.wire <+: session'.wire := by
  unfold CollectorSession.step at h
  split at h
  · obtain ⟨run, -, rfl⟩ := Option.map_eq_some_iff.mp h
    exact List.prefix_append _ _
  · cases h

/-- What has been taken behind a message. -/
theorem taken_succ {n : ℕ} {m : Message} (h : (s.sessions n).wire[s.handled]? = some m) :
    (s.sessions n).wire.take (s.handled + 1) = s.taken n ++ [m] := by
  rw [List.take_add_one, h]
  rfl

/-- A DataFrame with a header is not refused for its header. -/
theorem throws_of_frame? {viewer : ViewerTofi κ γ} {m : Message} {answer : SaveAnswer} {ft : Bytes}
    (h : m.frame? = some ft) : viewer.throws m answer = false := by
  unfold Message.frame? at h
  split at h
  · next hframe =>
    obtain ⟨htype, hlen⟩ := hframe
    unfold ViewerTofi.throws
    rw [htype, if_neg (by decide), if_neg (by decide), if_neg (by decide)]
    simpa using hlen
  · cases h

/-- Dealias data that has been taken by now was taken before, or with the last
message. -/
theorem hasDealias_append {wire : List Message} {m : Message} {ft : Bytes}
    (h : HasDealias (wire ++ [m]) ft) : HasDealias wire ft ∨ m.dealias? = some ft := by
  obtain ⟨m', hm', hft⟩ := h
  rcases List.mem_append.mp hm' with hm' | hm'
  · exact .inl ⟨m', hm', hft⟩
  · cases List.mem_singleton.mp hm'
    exact .inr hft

/-- **The worker handles a message.** If it is dealias data, the slot of its
frame type comes to be of this connection, and what was kept is released, so
that no older context can be found for it; the slots and contexts of other types
are left as they were. If it is a DataFrame with a header, its data has come
before it on the wire (`preceded`), and so the frame that is now to be computed
is of a type that `Reads` speaks of. -/
theorem Inv.handle (hs : s.Inv args) {n : ℕ} {m : Message} {answer : SaveAnswer} {computes : Bool}
    (hpending : s.viewer.pending = none) (hreading : s.reading = some n)
    (hm : (s.sessions n).wire[s.handled]? = some m)
    (h : s.handleMessage lib n m answer computes = some s') : s'.Inv args := by
  obtain ⟨viewer, hviewer, rfl⟩ := Option.map_eq_some_iff.mp h
  have hhandles := ViewerTofi.handles_of_message hpending hviewer
  have hreads := hs.reads n hreading
  have htaken := taken_succ hm
  have hframe : ∀ r, viewer.pending = some r →
      s.viewer.throws m answer = false ∧ HasDealias (s.taken n) r.frameType := by
    intro r hr
    obtain ⟨ft, hft, hname⟩ := hhandles.pending r hr
    -- its dealias data has come before it, and was stored then
    have hcut : (s.sessions n).wire
        = s.taken n ++ m :: (s.sessions n).wire.drop (s.handled + 1) := by
      conv_lhs => rw [← List.take_append_drop (s.handled + 1) (s.sessions n).wire, htaken]
      rw [List.append_assoc, List.singleton_append]
    obtain ⟨m', hm', hdealias⟩ := (hs.sessions n).preceded _ m _ ft hcut hft
    have hhas : HasDealias (s.taken n) ft := ⟨m', hm', hdealias⟩
    refine ⟨throws_of_frame? hft, ?_⟩
    rw [hname (hreads.slot ft hhas).1]
    exact hhas
  by_cases hthrows : s.viewer.throws m answer = true
  · simp only [hthrows, if_true]
    refine ⟨hs.sessions, (fun k hk => by cases hk), fun r hr => ?_⟩
    -- a DataFrame does not throw before its context is asked for
    rw [(hframe r hr).1] at hthrows
    cases hthrows
  · rw [Bool.not_eq_true] at hthrows
    simp only [hthrows, Bool.false_eq_true, if_false]
    have hbound : s.handled < (s.sessions n).wire.length := List.getElem?_eq_some_iff.mp hm |>.1
    have hreads' : Reads { s with
        viewer := viewer, reading := some n, handled := s.handled + 1
        slotFrom := (s.viewer.stores m).elim s.slotFrom
          (fun mode => Function.update s.slotFrom mode (some n)) } n := by
      refine ⟨hbound, fun ft hft => ?_, fun ft hft hkey hisp => ?_⟩
      · change HasDealias ((s.sessions n).wire.take (s.handled + 1)) ft at hft
        rw [htaken] at hft
        rcases hasDealias_append hft with hold | hnew
        · obtain ⟨hname, hslot⟩ := hreads.slot ft hold
          refine ⟨hname, ?_⟩
          cases hstores : s.viewer.stores m with
          | none => exact hslot
          | some mode =>
            -- the slot is written again, or it is another one
            by_cases hmode : convertModeName ft = mode
            · exact hmode ▸ Function.update_self _ _ _
            · exact (Function.update_of_ne hmode _ _).trans hslot
        · obtain ⟨-, hstores, hname⟩ := hhandles.dealias ft hnew hthrows
          refine ⟨hname, ?_⟩
          rw [hstores]
          exact Function.update_self _ _ _
      · change HasDealias ((s.sessions n).wire.take (s.handled + 1)) ft at hft
        rw [htaken] at hft
        -- a context that is there was not released by the message
        have hempty : viewer.tofi ≠ {} := by
          intro hempty
          have hisp' : viewer.tofi.builtByIsp = true := hisp
          rw [hempty] at hisp'
          cases hisp'
        have hsame := hhandles.tofi.resolve_right hempty
        rcases hasDealias_append hft with hold | hnew
        · exact hreads.context ft hold (hsame ▸ hkey) (hsame ▸ hisp)
        · exact absurd (hhandles.dealias ft hnew hthrows).1 hempty
    refine ⟨hs.sessions, fun k hk => ?_, fun r hr => ⟨n, rfl, ?_⟩⟩
    · cases hk
      exact hreads'
    · show HasDealias ((s.sessions n).wire.take (s.handled + 1)) r.frameType
      rw [htaken]
      exact (hframe r hr).2.append [m]

/-- The key that is noted has the frame type that was asked for. -/
theorem frameType_noted (isp : Bool) (key : TofiKey) :
    (key.noted isp).frameType = key.frameType := by
  cases isp <;> rfl

/-- What `ensureTofi` leaves has the frame type that it was asked for. -/
theorem frameType_of_ensure {viewer : ViewerTofi κ γ} {r : TofiRequest} {t : Tofi κ γ}
    (h : viewer.ensure lib r = .ok t) : t.key.frameType = r.frameType := by
  unfold ViewerTofi.ensure ensureTofi at h
  split at h
  · next hhits =>
    cases h
    simp only [Tofi.hits, Bool.and_eq_true, decide_eq_true_eq] at hhits
    exact hhits.1.1.1.2
  · obtain ⟨-, -, -, hkey⟩ := freshTofi_ok h
    rw [hkey, frameType_noted]
    rfl

/-- **What `ensureTofi` leaves on the ISP's way is made of a slot of the
connection**, for a frame type whose dealias data has come over it. Either it
makes a context now, of the slot that there is; or it finds one, and this was
made on this connection, by `Reads.context`. -/
theorem Reads.used {n : ℕ} (h : s.Reads n) {r : TofiRequest} {t : Tofi κ γ}
    (hdealias : HasDealias (s.taken n) r.frameType) (hensure : s.viewer.ensure lib r = .ok t)
    (hisp : t.builtByIsp = true) : s.used r = some n := by
  have hkey := frameType_of_ensure hensure
  unfold ViewerTofi.ensure ensureTofi at hensure
  unfold Calibration.used
  dsimp only
  split at hensure
  · next hhits =>
    cases hensure
    rw [if_pos hhits]
    exact h.context r.frameType hdealias hkey hisp
  · next hmiss =>
    obtain ⟨-, -, hway, -⟩ := freshTofi_ok hensure
    rw [if_neg hmiss, if_pos (hway.symm.trans hisp)]
    exact (h.slot r.frameType hdealias).2

/-- **The worker is in `ensureTofi`.** The context that it makes is noted with
the connection of the slot it was made of. -/
theorem Inv.ensure (hs : s.Inv args) (h : s.ensure lib = some s') : s'.Inv args := by
  unfold Calibration.ensure at h
  split at h
  swap
  · cases h
  next r hr =>
  obtain ⟨viewer, hviewer, rfl⟩ := Option.map_eq_some_iff.mp h
  obtain ⟨n, hreading, hdealias⟩ := hs.pending r hr
  have hreads := hs.reads n hreading
  simp only [ViewerTofi.step, hr] at hviewer
  have hleaves : viewer.pending = none ∧ ∀ ft, ft ≠ [] → viewer.tofi.key.frameType = ft →
      viewer.tofi.builtByIsp = true → s.used r = some n := by
    split at hviewer
    · next t ht =>
      cases hviewer
      exact ⟨rfl, fun ft _ _ hisp => hreads.used hdealias ht hisp⟩
    · next t text ht =>
      cases hviewer
      refine ⟨rfl, fun ft hft hkey _ => absurd ?_ hft⟩
      unfold ViewerTofi.ensure ensureTofi at ht
      split at ht
      · cases ht
      · -- what a failed initialisation keeps has an empty key
        have hempty : t.key = {} := keyless_freshTofi _ _ _ _ _ _ _ ht
        exact hkey.symm.trans (congrArg TofiKey.frameType hempty)
  refine ⟨hs.sessions, fun k hk => ?_, fun r' hr' => ?_⟩
  · have hk' : k = n := Option.some.inj (hk.symm.trans hreading)
    subst hk'
    exact ⟨hreads.bound, hreads.slot, fun ft hft hkey hisp =>
      hleaves.2 ft (hreads.slot ft hft).1 hkey hisp⟩
  · rw [hleaves.1] at hr'
    cases hr'

/-- The GUI changes the configuration. The slots and what is kept stay, with the
way in which it was made; that a key may be found from now on on the other way
is what the condition on `ensureTofi` is about. -/
theorem Inv.configured (hs : s.Inv args) (config : ViewerConfig) :
    Inv args { s with viewer := { s.viewer with config := config } } where
  sessions := hs.sessions
  reads n hn := ⟨(hs.reads n hn).bound, (hs.reads n hn).slot, (hs.reads n hn).context⟩
  pending := hs.pending

/-- **Every step keeps the invariant**, where captures are started in modes
whose dealias data has been sent. A new connection is read from its beginning,
where nothing has been taken of it yet. -/
theorem Inv.step (hs : s.Inv args) {a : CalibrationStep} (hok : s.Covered a)
    (h : step lib args s a = some s') : s'.Inv args := by
  cases a with
  | session n a =>
    obtain ⟨session, hsession, rfl⟩ := Option.map_eq_some_iff.mp h
    exact hs.session ((hs.sessions n).step hok hsession) (wire_of_step hsession)
  | configure config =>
    cases h
    exact hs.configured _
  | setFrameType frameType =>
    cases h
    exact hs.configured _
  | accept =>
    simp only [Calibration.step] at h
    split at h
    · next hfree =>
      cases h
      refine ⟨hs.sessions, fun n hn => ?_, fun r hr => ?_⟩
      · have hnil : ∀ ft, ¬ HasDealias (List.take 0 (s.sessions n).wire) ft :=
          fun ft ⟨m, hm, _⟩ => absurd hm List.not_mem_nil
        exact ⟨Nat.zero_le _, fun ft hft => absurd hft (hnil ft),
          fun ft hft => absurd hft (hnil ft)⟩
      · obtain ⟨n, hn, -⟩ := hs.pending r hr
        rw [hfree] at hn
        cases hn
    · cases h
  | leave =>
    simp only [Calibration.step] at h
    split at h
    · next hpending =>
      cases h
      refine ⟨hs.sessions, (fun n hn => by cases hn), fun r hr => ?_⟩
      have hr' : s.viewer.pending = some r := hr
      rw [hpending] at hr'
      cases hr'
    · cases h
  | handle answer computes =>
    simp only [Calibration.step] at h
    split at h
    · next hpending =>
      split at h
      · next n hreading =>
        obtain ⟨m, hm, hhandle⟩ := Option.bind_eq_some_iff.mp h
        exact hs.handle hpending hreading hm hhandle
      · cases h
    · cases h
  | ensure => exact hs.ensure h

/-- What `ensureTofi` leaves on the ISP's way is made in that way, under the
condition: a fresh context always is, and one that is found by the key was, as
the condition says. -/
theorem builtByIsp_of_ensure (hok : s.Covered .ensure) {r : TofiRequest} {t : Tofi κ γ}
    (hr : s.viewer.pending = some r) (hisp : s.viewer.config.isAdsd3500 = true)
    (hensure : s.viewer.ensure lib r = .ok t) : t.builtByIsp = true := by
  have hkept := hok r hr hisp
  unfold ViewerTofi.ensure ensureTofi at hensure
  rw [hisp] at hensure
  split at hensure
  · next hhits =>
    cases hensure
    exact hkept hhits
  · obtain ⟨-, -, hway, -⟩ := freshTofi_ok hensure
    exact hway

/-- **The invariant gives the property** of a step that the condition admits.
For a step of a session it is `preceded`; and for `ensureTofi` it is
`Reads.used`, of what is made on the ISP's way by `builtByIsp_of_ensure`. -/
theorem Inv.sound (hs : s.Inv args) {a : CalibrationStep} (hok : s.Covered a) :
    s.Sound lib a where
  preceded n := (hs.sessions n).preceded
  own ha r t hr hisp hensure := by
    subst ha
    obtain ⟨n, hreading, hdealias⟩ := hs.pending r hr
    have hbuilt := builtByIsp_of_ensure hok hr hisp hensure
    exact ⟨n, hreading, (hs.reads n hreading).used hdealias hensure hbuilt⟩

/-- **Calibration precedes use, and never crosses connections**: in every run of
any sessions and the viewer in which each capture is started in a mode whose
dealias data its session has sent, and the ISP's way finds only what it has
made, a DataFrame comes behind the dealias data of its frame type on its
connection, and what the viewer computes of it on the ISP's way is computed with
a slot that was received there.

The slots survive a connection: nothing clears them when it ends. So the second
half rests on the first. The viewer takes the messages of a connection in their
order, and a DataFrame that comes behind its dealias data finds the slot filled
again by then; what was made with an earlier filling has been released with
it. -/
theorem calibration_of_run {capturing : ℕ → Bool} {modeNames : ℕ → Bytes} {config : ViewerConfig}
    {files : Files} {as : List CalibrationStep}
    (h : Machine.Run (step lib args) Covered (initial args capturing modeNames config files) as s) :
    Machine.Run (step lib args) (Sound lib) (initial args capturing modeNames config files) as s
      ∧ ∀ n, Preceded (s.sessions n).wire := by
  have hinitial : Inv args (initial args capturing modeNames config files : Calibration κ γ) :=
    inv_initial args capturing modeNames config files
  have hinv : s.Inv args := h.invariant (fun _ _ _ hs hok hst => Inv.step hs hok hst) hinitial
  refine ⟨h.guard (I := Inv args) (fun _ _ _ hs hok hst => ?_) hinitial, fun n => ?_⟩
  · exact ⟨Inv.step hs hok hst, hs.sound hok⟩
  · exact (hinv.sessions n).preceded

/-! ### Two runs

In the first the condition holds at every step, and two modules follow each
other on two connections. The second is the one in which it fails: the camera of
the second connection does not answer the payload commands, its exports are
empty, and the capture is started all the same. -/

/-- Collectors in `lr-qnative`, and a viewer for the ADSD3500. -/
def sampleInitial : Calibration OpenSource.Config OpenSource.Context :=
  initial (fun _ => { apiVersion := [], maxFrames := 1 }) (fun _ => false)
    (fun _ => ascii "lr-qnative") (ViewerTofi.sampleConfig true) ViewerTofi.sampleFiles

/-- The steps of the samples. -/
def sampleStep : Machine (Calibration OpenSource.Config OpenSource.Context) CalibrationStep :=
  step ViewerTofi.openLibrary (fun _ => { apiVersion := [], maxFrames := 1 })

/-- A session starts up: it has no CCB, exports these entries, and does the acts
that are left. -/
def startsUp (entries : List DealiasEntry) (acts : ℕ) : List CaptureRun.Step :=
  [.main .ok true, .main (.throws []) true, .main .ok true, .main (.entries entries) true]
    ++ List.replicate acts (.main .ok true)

/-- It serves a StartCapture without a frame type. -/
def serves : List CaptureRun.Step :=
  [.recv (startMessage [] 0 0)] ++ List.replicate 15 (.main .ok true)

/-- It serves one for `lr-qnative`, whose export has no entries. -/
def servesMode : List CaptureRun.Step :=
  [.recv (startMessage (ascii "lr-qnative") 3 0)] ++ List.replicate 9 (.main .ok true)
    ++ [.main (.entries []) true] ++ List.replicate 15 (.main .ok true)

/-- It sends a frame. -/
def sendsFrame : List CaptureRun.Step :=
  List.replicate 4 (.capture (.frame { frameType := ascii "lr-qnative" } 0 []))

/-- Dealias data of 2 rows and 2 columns. -/
def sampleEntry : DealiasEntry :=
  ⟨ascii "lr-qnative", le32 2 ++ le32 2 ++ List.replicate 80 0⟩

/-- **Two modules.** A camera sends its dealias data and a frame, and so does
another one that is connected to next. Both frames are computed, each with the
slot of its own connection: at the end the context is one that was made on the
second. -/
theorem calibration_of_run_two_modules :
    ∃ as s, Machine.Run sampleStep Covered sampleInitial as s
      ∧ s.viewer.tofi.context.isSome = true ∧ s.contextFrom = some 1
      ∧ Machine.Run sampleStep (Sound ViewerTofi.openLibrary) sampleInitial as s
      ∧ ∀ n, Preceded (s.sessions n).wire := by
  have hexec : (Machine.execOk sampleStep Covered sampleInitial
      ((startsUp [sampleEntry] 4 ++ serves ++ sendsFrame).map (.session 0)
        ++ [.accept] ++ List.replicate 9 (.handle .notCreated true) ++ [.ensure, .leave]
        ++ (startsUp [sampleEntry] 4 ++ serves ++ sendsFrame).map (.session 1)
        ++ [.accept] ++ List.replicate 9 (.handle .notCreated true) ++ [.ensure])).map
      (fun s => (s.viewer.tofi.context.isSome, s.contextFrom)) = some (true, some 1) := by
    decide +kernel
  obtain ⟨s, hs, hlook⟩ := Option.map_eq_some_iff.mp hexec
  obtain ⟨hcontext, hfrom⟩ := Prod.mk.inj hlook
  have hrun := Machine.run_of_execOk hs
  exact ⟨_, s, hrun, hcontext, hfrom, calibration_of_run hrun⟩

/-- The frame to be computed: the way, whether a context is there for it, the
connection of the slot, and that of the frame. -/
def glance (s : Calibration OpenSource.Config OpenSource.Context) :
    Option (Bool × Bool × Option ℕ × Option ℕ) :=
  s.viewer.pending.map (fun r => (s.viewer.config.isAdsd3500,
    (s.viewer.ensure ViewerTofi.openLibrary r).toOption.isSome, s.used r, s.reading))

/-- A connection with a DataFrame and no dealias data. -/
theorem not_preceded {wire : List Message} (hnone : ∀ m ∈ wire, m.dealias? = none) {m : Message}
    (hm : m ∈ wire) (hft : m.frame?.isSome = true) : ¬ Preceded wire := by
  intro h
  obtain ⟨ft, hft⟩ := Option.isSome_iff_exists.mp hft
  obtain ⟨before, after, rfl⟩ := List.append_of_mem hm
  obtain ⟨m', hm', hdealias⟩ := h before m after ft rfl hft
  rw [hnone m' (List.mem_append_left _ hm')] at hdealias
  cases hdealias

/-- **A camera that does not answer.** The dealias data of the first connection
is stored. On the second, the exports at the startup and for the StartCapture
have no entries; the capture goes on, and the viewer computes its frame with
the slot of the first. -/
theorem not_sound_earlier_module :
    ∃ as s, Machine.Run sampleStep Machine.always sampleInitial as s
      ∧ ¬ Preceded (s.sessions 1).wire ∧ ¬ s.Own ViewerTofi.openLibrary .ensure := by
  have hexec : (Machine.exec sampleStep sampleInitial
      ((startsUp [sampleEntry] 4).map (.session 0)
        ++ [.accept] ++ List.replicate 3 (.handle .notCreated true) ++ [.leave]
        ++ (startsUp [] 1 ++ servesMode ++ sendsFrame).map (.session 1)
        ++ [.accept] ++ List.replicate 9 (.handle .notCreated true))).map
      (fun s => glance s = some (true, true, some 0, some 1)
        && (s.sessions 1).wire.all (fun m => m.dealias?.isNone)
        && (s.sessions 1).wire.any (fun m => m.frame?.isSome)) = some true := by decide +kernel
  obtain ⟨s, hs, hlook⟩ := Option.map_eq_some_iff.mp hexec
  simp only [Bool.and_eq_true, decide_eq_true_eq, List.all_eq_true, List.any_eq_true,
    Option.isNone_iff_eq_none] at hlook
  obtain ⟨⟨hglance, hnone⟩, m, hm, hframe⟩ := hlook
  refine ⟨_, s, Machine.run_iff_exec.mpr hs, not_preceded hnone hm hframe, fun hown => ?_⟩
  obtain ⟨r, hr, hpair⟩ := Option.map_eq_some_iff.mp hglance
  simp only [Prod.mk.injEq] at hpair
  obtain ⟨hisp, hmade, hused, hreading⟩ := hpair
  cases hensure : s.viewer.ensure ViewerTofi.openLibrary r with
  | error e =>
    rw [hensure] at hmade
    cases hmade
  | ok t =>
    obtain ⟨n, hn, hslot⟩ := hown rfl r t hr hisp hensure
    rw [hreading] at hn
    rw [hused] at hslot
    cases hn
    cases hslot

end Calibration
