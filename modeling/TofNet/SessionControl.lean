import TofNet.Session

/-!
# Where the threads of the session can be

Three things hold of the program counters of `Session` whatever the sends do
to the connection. A block's acts are an end of its script. While a capture
thread has not been joined there is a join ahead of the main thread, or the
main thread is where the next command starts with one; so a new thread is
never assigned over an old one. And a thread sends only while it holds the
lock, or while it is alone: the one send without a lock, that of StopCapture,
comes behind a join.

What one act does to the counters is said once (`Moves`), and the facts are
derived from it, for a machine in which the sends can throw as well as for
one in which they cannot.

`Moves` is the interface. It forgets what an act does besides, and with which
failures, and keeps where the main thread can be afterwards and what has become
of the capture thread. The modules that run the session – with a channel, with a
wire, with a camera – have machines of their own, and each of them shows `Moves`
of its acts once; the facts below then hold of it without being shown again.
-/

/-- The calls that may throw. -/
def Act.isCall : Act → Bool
  | .exportCcb | .exportDealias _ _ | .setRequestedFps _ | .switchMode _ | .camStart => true
  | .lock | .unlock | .send _ | .markSent _ | .setRun _ | .camStop | .join | .spawn => false

/-- What the main thread has still to do in a block. Where a script is fixed,
this is an end of it; the status of a failed start carries the text of the
error, which may be any. The other blocks are known by what is not in them: the
guarded one has no spawn (it may join, as StartCapture first stops what runs),
and the startup has neither a spawn nor a join, since no thread is there yet. -/
def Block.Follows : Block → List Act → Prop
  | .started, todo => todo <:+ captureStarted
  | .cleanup, todo => todo <:+ stopThread
  | .failed, todo => ∃ what, todo <:+ startFailed what
  | .stop, todo => todo <:+ stopCapture
  | .stopping, todo => todo <:+ stopThread ++ stopThread
  | .guarded, todo => Act.spawn ∉ todo
  | _, todo => Act.spawn ∉ todo ∧ Act.join ∉ todo

/-- The main thread is where its scripts put it. -/
def Main.WellFormed (main : Main) : Prop :=
  ∀ block todo, main = .run block todo → block.Follows todo

/-- The main thread will come to a join, or is where the next command starts
with one. A `failed` block counts, whatever is left of it: behind its status the
thread comes to `cleanup`, whose script ends with the join. -/
def Main.joinsAhead : Main → Bool
  | .recv => true
  | .run .failed _ => true
  | .run _ todo => Act.join ∈ todo
  | .ended | .terminated => false

/-- **A thread not joined yet has a join ahead of it.** -/
def Home (main : Main) (thread : Thread) : Prop :=
  thread ≠ .none → main.joinsAhead = true

/-- **How control moves** when the main thread does the act at the head of its
block: it goes on – behind what an export has given it to send – or is thrown
out, or ends the process. `throws` are the acts that may throw. -/
structure Moves (throws : Act → Bool) (block : Block) (act : Act) (todo : List Act)
    (thread : Thread) (main' : Main) (thread' : Thread) : Prop where
  /-- The main thread goes on in its block, is thrown out of it by an act that
  may throw, or ends the process with a launch over a joinable thread. -/
  main : (∃ more, main' = .resume block (more ++ todo) ∧ (act.isCall = false → more = []) ∧
        (∀ a ∈ more, a ≠ .spawn ∧ a ≠ .join)) ∨
      (∃ what, throws act = true ∧ main' = block.thrown what) ∨
      (act = .spawn ∧ thread ≠ .none ∧ main' = .terminated)
  /-- A join takes the capture thread away, a launch makes one that is at the
  head of its loop, and no other act touches it. -/
  thread : (act = .join ∧ (thread = .none ∨ thread = .finished) ∧ thread' = .none) ∨
    (act = .spawn ∧ thread = .none ∧ main' = .resume block todo ∧ thread' = .head 0) ∨
    (act ≠ .join ∧ (act = .spawn → thread ≠ .none ∧ main' = .terminated) ∧ thread' = thread)

section Control

variable {throws : Act → Bool} {block : Block} {act : Act} {todo more : List Act}
  {thread thread' : Thread} {main' : Main}

/-! ### From one script to the next

A block's script begins when control comes to the block, and there are three
ways to come to one: from the end of another, by a throw, and with a command. In
each of them the main thread is at the beginning of a script, so that nothing
has to be known of the script that was left. -/

/-- In the middle of a block, being where the scripts put one is following the
script of that block. -/
theorem wellFormed_run (h : block.Follows todo) : (Main.run block todo).WellFormed := by
  intro block' todo' heq
  cases heq
  exact h

/-- The end of a block leads to the beginning of the next script, or back to the
loop of commands. -/
theorem wellFormed_done (block : Block) : block.done.WellFormed := by
  cases block with
  | ready | started | cleanup | stop | stopping => exact nofun
  | guarded | failed => exact wellFormed_run (List.suffix_refl _)
  | _ => exact wellFormed_run ⟨by simp, by simp⟩

/-- So does a throw, with the handler of the block in place of its successor.
The text of what was thrown goes into the script of a failed start, which is why
`Block.Follows` lets it be any. -/
theorem wellFormed_thrown (what : Bytes) (block : Block) : (block.thrown what).WellFormed := by
  cases block with
  | guarded => exact wellFormed_run ⟨what, List.suffix_refl _⟩
  | failed => exact wellFormed_run (List.suffix_refl _)
  | ccb | dealias => exact wellFormed_run ⟨by simp, by simp⟩
  | started | cleanup | stop => exact wellFormed_run (List.suffix_append _ _)
  | _ => exact nofun

/-- Going on in a block is going on in its script, or leaving it by its end. -/
theorem wellFormed_resume (h : block.Follows todo) : (Main.resume block todo).WellFormed := by
  cases todo with
  | nil => exact wellFormed_done block
  | cons act todo => exact wellFormed_run h

/-- The session begins at the beginning of its startup, with the hello
message. -/
theorem wellFormed_start (apiVersion : Bytes) : (Main.start apiVersion).WellFormed :=
  wellFormed_run ⟨by simp, by simp⟩

/-- A command is served from the beginning of its script. -/
theorem wellFormed_dispatch (m : Message) (sent : List Bytes) :
    (Main.dispatch m sent).WellFormed := by
  have hstart : ∀ ft fps, Act.spawn ∉ startCapture ft fps sent := by
    intro ft fps
    unfold startCapture lockedStatus stopThread
    simp only [List.mem_append]
    split <;> split <;> split <;> simp
  unfold Main.dispatch
  split
  · simp only
    split
    · exact wellFormed_run (hstart _ _)
    · exact wellFormed_run (hstart _ _)
  · split
    · exact wellFormed_run (List.suffix_refl _)
    · split
      · exact wellFormed_run (List.suffix_refl _)
      · exact nofun

/-- A join in what is left of a block is a join ahead. -/
theorem joinsAhead_run (block : Block) (h : Act.join ∈ todo) :
    (Main.run block todo).joinsAhead = true := by
  cases block <;> first | rfl | exact decide_eq_true h

/-- Every command has a join in its script: StartCapture, StopCapture and
Shutdown stop the thread that may be running, and every other message leaves the
main thread in its loop. This is what makes it safe to be in the loop with a
thread that has not been joined. -/
theorem joinsAhead_dispatch (m : Message) (sent : List Bytes) :
    (Main.dispatch m sent).joinsAhead = true := by
  have hstart : ∀ ft fps, Act.join ∈ startCapture ft fps sent := by
    intro ft fps
    simp [startCapture, stopThread]
  have hjoin : Act.join ∈ stopThread := by simp [stopThread]
  unfold Main.dispatch
  split
  · simp only
    split
    · exact joinsAhead_run _ (hstart _ _)
    · exact joinsAhead_run _ (hstart _ _)
  · split
    · exact joinsAhead_run _ (List.mem_append_left _ hjoin)
    · split
      · exact joinsAhead_run _ (List.mem_append_left _ hjoin)
      · rfl

/-- No command ends the process. -/
theorem dispatch_ne_terminated (m : Message) (sent : List Bytes) :
    Main.dispatch m sent ≠ .terminated := by
  intro hterm
  have hahead := joinsAhead_dispatch m sent
  rw [hterm] at hahead
  cases hahead

/-! ### What a script can still do

An end of a fixed list is one of finitely many lists. The questions that a step
asks of such an end – whether it makes a call, joins, launches, or is at its
last act – are therefore answered block by block, and the answers do not mention
the lists. What follows looks at the scripts through these answers, and would
need no work if a script came to say something else to the viewer. -/

/-- An act a script ends with is in the script; where the script is at its
end, it is the last. -/
theorem mem_of_suffix {l : List Act} (h : act :: todo <:+ l) : act ∈ l :=
  h.subset List.mem_cons_self

/-- The last act of what is left of a script is the last of the script. -/
theorem getLast?_of_suffix {l : List Act} (h : [act] <:+ l) : l.getLast? = some act := by
  obtain ⟨pre, rfl⟩ := h
  rw [List.getLast?_append]
  rfl

/-- Once a capture is said to be started no call is made, no thread joined,
and the last act is the spawn. -/
theorem started_cases (h : Block.started.Follows (act :: todo)) :
    act.isCall = false ∧ Act.join ∉ act :: todo ∧ (todo = [] ↔ act = .spawn) := by
  have hsafe : ∀ a ∈ captureStarted, a.isCall = false ∧ a ≠ .join := by
    simp [captureStarted, lockedStatus, Act.isCall]
  refine ⟨(hsafe act (mem_of_suffix h)).1, fun hj => (hsafe _ (h.subset hj)).2 rfl, ?_, ?_⟩
  · intro hnil
    subst hnil
    exact (Option.some.inj (getLast?_of_suffix h)).symm
  · intro hspawn
    subst hspawn
    simpa [Block.Follows, captureStarted, lockedStatus, List.suffix_cons_iff] using h

/-- A failed start only stops the thread, and its last act is the join. -/
theorem cleanup_cases (h : Block.cleanup.Follows (act :: todo)) :
    act.isCall = false ∧ act ≠ .spawn ∧ (todo = [] → act = .join) := by
  have hsafe : ∀ a ∈ stopThread, a.isCall = false ∧ a ≠ .spawn := by
    simp [stopThread, Act.isCall]
  have hact := hsafe act (mem_of_suffix h)
  refine ⟨hact.1, hact.2, fun hnil => ?_⟩
  subst hnil
  exact (Option.some.inj (getLast?_of_suffix h)).symm

/-- The status of a failed start is sent without a call, a spawn or a join. -/
theorem failed_cases (h : Block.failed.Follows (act :: todo)) :
    act.isCall = false ∧ act ≠ .spawn ∧ act ≠ .join := by
  obtain ⟨what, hwhat⟩ := h
  have hsafe : ∀ a ∈ startFailed what, a.isCall = false ∧ a ≠ .spawn ∧ a ≠ .join := by
    simp [startFailed, lockedStatus, Act.isCall]
  exact hsafe act (mem_of_suffix hwhat)

/-- StopCapture makes no call that could throw, and launches no thread. -/
theorem stop_cases (h : Block.stop.Follows (act :: todo)) :
    act.isCall = false ∧ act ≠ .spawn := by
  have hsafe : ∀ a ∈ stopCapture, a.isCall = false ∧ a ≠ .spawn := by
    simp [stopCapture, stopThread, Act.isCall]
  exact hsafe act (mem_of_suffix h)

/-- On its way out of a session the main thread does not even send: it stops the
thread, behind a Shutdown for the second time. -/
theorem stopping_cases (h : Block.stopping.Follows (act :: todo)) :
    act.isCall = false ∧ act ≠ .spawn ∧ ∀ m, act ≠ .send m := by
  have hsafe : ∀ a ∈ stopThread ++ stopThread, a.isCall = false ∧ a ≠ .spawn ∧
      ∀ m, a ≠ .send m := by
    simp [stopThread, Act.isCall]
  exact hsafe act (mem_of_suffix h)

/-- **A spawn is the last act behind a start, and nothing else.** -/
theorem spawn_cases (h : block.Follows (.spawn :: todo)) : block = .started ∧ todo = [] := by
  cases block with
  | started => exact ⟨rfl, (started_cases h).2.2.mpr rfl⟩
  | cleanup => exact absurd rfl (cleanup_cases h).2.1
  | failed => exact absurd rfl (failed_cases h).2.1
  | stop => exact absurd rfl (stop_cases h).2
  | stopping => exact absurd rfl (stopping_cases h).2.1
  | guarded => exact absurd List.mem_cons_self h
  | _ => exact absurd List.mem_cons_self h.1

/-- **A script is followed to its end**, with what an export adds to it. Only a
call adds something, and there is none in the scripts that are fixed; so the
blocks with a script follow it, and in the others it is enough that what is
added has no spawn and no join. -/
theorem follows_more (h : block.Follows (act :: todo)) (hcall : act.isCall = false → more = [])
    (hmore : ∀ a ∈ more, a ≠ .spawn ∧ a ≠ .join) : block.Follows (more ++ todo) := by
  have htail : todo <:+ act :: todo := List.suffix_cons _ _
  cases block with
  | started => rw [hcall (started_cases h).1]; exact htail.trans h
  | cleanup => rw [hcall (cleanup_cases h).1]; exact htail.trans h
  | stop => rw [hcall (stop_cases h).1]; exact htail.trans h
  | stopping => rw [hcall (stopping_cases h).1]; exact htail.trans h
  | failed =>
    rw [hcall (failed_cases h).1]
    obtain ⟨what, hwhat⟩ := h
    exact ⟨what, htail.trans hwhat⟩
  | guarded =>
    intro hmem
    rcases List.mem_append.mp hmem with hm | hm
    · exact (hmore _ hm).1 rfl
    · exact h (List.mem_cons_of_mem _ hm)
  | _ =>
    refine ⟨fun hmem => ?_, fun hmem => ?_⟩
    · rcases List.mem_append.mp hmem with hm | hm
      · exact (hmore _ hm).1 rfl
      · exact h.1 (List.mem_cons_of_mem _ hm)
    · rcases List.mem_append.mp hmem with hm | hm
      · exact (hmore _ hm).2 rfl
      · exact h.2 (List.mem_cons_of_mem _ hm)

/-! ### What every move keeps

The three facts depend on one another. That no thread is launched over another
one needs the join ahead (`Home`); that the join stays ahead needs that the
scripts are followed, as it is in them that it stands; and the scripts are
followed by any move. -/

/-- **The scripts are kept by every move.** -/
theorem wellFormed_of_moves (hM : Moves throws block act todo thread main' thread')
    (h : block.Follows (act :: todo)) : main'.WellFormed := by
  rcases hM.main with ⟨more, rfl, hcall, hmore⟩ | ⟨what, _, rfl⟩ | ⟨_, _, rfl⟩
  · exact wellFormed_resume (follows_more h hcall hmore)
  · exact wellFormed_thrown what block
  · exact nofun

/-- **The process is not ended by a spawn**: there is no join ahead of one, so
no thread is left to be joined. -/
theorem not_terminated_of_moves (hM : Moves throws block act todo thread main' thread')
    (h : block.Follows (act :: todo)) (hhome : Home (.run block (act :: todo)) thread) :
    main' ≠ .terminated := by
  rcases hM.main with ⟨more, rfl, _⟩ | ⟨what, _, rfl⟩ | ⟨hspawn, hthread, _⟩
  · cases more ++ todo with
    | nil => cases block <;> exact nofun
    | cons _ _ => exact nofun
  · cases block <;> exact nofun
  · subst hspawn
    obtain ⟨rfl, rfl⟩ := spawn_cases h
    exact absurd (hhome hthread) (by decide)

/-- A thread in the middle of a send is left alone. -/
theorem thread_of_moves (hM : Moves throws block act todo thread main' thread')
    {acts : List Act} (hacts : thread.acts = some acts) : thread' = thread := by
  rcases hM.thread with ⟨_, hthread, _⟩ | ⟨_, hthread, _⟩ | ⟨_, _, ht⟩
  · rcases hthread with rfl | rfl <;> cases hacts
  · rw [hthread] at hacts
    cases hacts
  · exact ht

/-- **A thread not joined yet keeps a join ahead of it.** A join takes the
thread away, so that there is nothing to show, and a spawn leads to the loop of
commands. Behind any other act the join is where it was, further back in the
script; unless the act throws, and then the handler of the block has one, or
nothing was to be joined. What stops a thread must not throw, which is `hstop`:
between the two stops on the way out there is no handler. -/
theorem home_of_moves (hM : Moves throws block act todo thread main' thread')
    (hstop : ∀ a ∈ stopThread, throws a = false)
    (h : block.Follows (act :: todo)) (hhome : Home (.run block (act :: todo)) thread) :
    Home main' thread' := by
  intro hthread'
  rcases hM.thread with ⟨_, _, hnone⟩ | ⟨rfl, _, hm, _⟩ | ⟨hjoin, hterm, rfl⟩
  · exact absurd hnone hthread'
  · obtain ⟨rfl, rfl⟩ := spawn_cases h
    rw [hm]
    rfl
  have hahead := hhome hthread'
  have hne : act ≠ .spawn := fun hs => not_terminated_of_moves hM h hhome (hterm hs).2
  -- a join ahead is still ahead behind an act that is not one
  have hmem : block ≠ .failed → Act.join ∈ todo := by
    intro hb
    have hj : Act.join ∈ act :: todo := by
      cases block <;> first | exact absurd rfl hb | exact of_decide_eq_true hahead
    exact (List.mem_cons.mp hj).resolve_left (fun he => hjoin he.symm)
  rcases hM.main with ⟨more, rfl, hcall, hmore⟩ | ⟨what, hthrow, rfl⟩ | ⟨hspawn, _⟩
  · by_cases hb : block = .failed
    · subst hb
      cases more ++ todo with
      | nil => exact (by decide : Main.joinsAhead (Block.done .failed) = true)
      | cons _ _ => rfl
    · have hj := List.mem_append_right more (hmem hb)
      cases hmt : more ++ todo with
      | nil => rw [hmt] at hj; exact absurd hj List.not_mem_nil
      | cons a rest =>
        rw [hmt] at hj
        cases block <;> first | exact absurd rfl hb | exact decide_eq_true hj
  · cases block with
    | guarded => rfl
    | failed | started | cleanup | stop =>
      exact (by decide : Main.joinsAhead (.run .cleanup stopThread) = true)
    | stopping =>
      have hsub : act ∈ stopThread := by
        rcases List.mem_append.mp (mem_of_suffix h) with hm | hm <;> exact hm
      exact absurd hthrow (by rw [hstop act hsub]; exact nofun)
    | _ => exact absurd (hmem nofun) (fun hj => h.2 (List.mem_cons_of_mem _ hj))
  · exact absurd hspawn hne

end Control

/-! ## The acts

That the acts of `Session` move control as they may, with the throws that the
result of a call allows. The case that is not plain is an export: it puts acts
in front of the script, and these are sends, so that no join and no spawn comes
in that way. -/

/-- The call throws. -/
def CallResult.isThrow : CallResult → Bool
  | .throws _ => true
  | _ => false

section Acts

variable {c c' : Collector} {block : Block} {act : Act} {todo : List Act} {r : CallResult}

/-- The acts a camera export gives the main thread are sends. -/
theorem sendCcb_plain (ccb : ModuleCcb) : ∀ a ∈ sendCcb ccb, a ≠ .spawn ∧ a ≠ .join := by
  simp [sendCcb]

/-- So are the acts that an export of dealias data gives it, but for the noting
of the frame types. -/
theorem sendDealiasEntries_plain (entries : List DealiasEntry) :
    ∀ a ∈ sendDealiasEntries entries, a ≠ .spawn ∧ a ≠ .join := by
  intro a ha
  obtain ⟨entry, _, hentry⟩ := List.mem_flatMap.mp ha
  split at hentry
  · exact absurd hentry List.not_mem_nil
  · simp only [List.mem_cons, List.not_mem_nil, or_false] at hentry
    rcases hentry with rfl | rfl | rfl <;> exact ⟨nofun, nofun⟩

/-- Going on without a throw, behind an act that leaves the thread alone. -/
theorem moves_of_resume {throws : Act → Bool} (more : List Act)
    (hm : c'.main = .resume block (more ++ todo)) (hcall : act.isCall = false → more = [])
    (hmore : ∀ a ∈ more, a ≠ .spawn ∧ a ≠ .join) (hact : act ≠ .join ∧ act ≠ .spawn)
    (ht : c'.thread = c.thread) : Moves throws block act todo c.thread c'.main c'.thread where
  main := .inl ⟨more, hm, hcall, hmore⟩
  thread := .inr (.inr ⟨hact.1, fun hs => absurd hs hact.2, ht⟩)

/-- A throw of an act that is neither the join nor the spawn. -/
theorem moves_of_throw {throws : Act → Bool} {what : Bytes} (hthrow : throws act = true)
    (hact : act ≠ .join ∧ act ≠ .spawn) :
    Moves throws block act todo c.thread (c.throw block what).main (c.throw block what).thread where
  main := .inr (.inl ⟨what, hthrow, rfl⟩)
  thread := .inr (.inr ⟨hact.1, fun hs => absurd hs hact.2, rfl⟩)

/-- **Every act moves control as it may**, and only a call throws. -/
theorem moves_of_act (h : c.act block todo r act = some c') :
    Moves (fun a => a.isCall && r.isThrow) block act todo c.thread c'.main c'.thread := by
  cases act with
  | lock =>
    simp only [Collector.act] at h
    split at h
    · cases h
      exact moves_of_resume [] rfl (fun _ => rfl) nofun ⟨nofun, nofun⟩ rfl
    · cases h
  | unlock | send _ | markSent _ | setRun _ | camStop =>
    cases h
    exact moves_of_resume [] rfl (fun _ => rfl) nofun ⟨nofun, nofun⟩ rfl
  | join =>
    simp only [Collector.act] at h
    split at h
    · next hthread =>
      cases h
      exact ⟨.inl ⟨[], rfl, fun _ => rfl, nofun⟩, .inl ⟨rfl, hthread, rfl⟩⟩
    · cases h
  | spawn =>
    simp only [Collector.act] at h
    split at h
    · next hthread =>
      cases h
      exact ⟨.inl ⟨[], rfl, fun _ => rfl, nofun⟩, .inr (.inl ⟨rfl, hthread, rfl, rfl⟩)⟩
    · next hthread =>
      cases h
      -- a thread is assigned over one that is joinable
      exact ⟨.inr (.inr ⟨rfl, hthread, rfl⟩), .inr (.inr ⟨nofun, fun _ => ⟨hthread, rfl⟩, rfl⟩)⟩
  | exportCcb =>
    simp only [Collector.act] at h
    split at h
    · next ccb =>
      cases h
      exact moves_of_resume _ rfl nofun (sendCcb_plain ccb) ⟨nofun, nofun⟩ rfl
    · cases h
      exact moves_of_throw rfl ⟨nofun, nofun⟩
    · cases h
  | exportDealias frameTypes locked =>
    simp only [Collector.act] at h
    split at h
    · next entries =>
      cases h
      have hplain := sendDealiasEntries_plain entries
      refine moves_of_resume _ rfl nofun ?_ ⟨nofun, nofun⟩ rfl
      cases locked with
      | false => exact hplain
      | true =>
        intro a ha
        simp only [if_pos, List.mem_append, List.mem_singleton] at ha
        rcases ha with (rfl | ha) | rfl
        · exact ⟨nofun, nofun⟩
        · exact hplain a ha
        · exact ⟨nofun, nofun⟩
    · cases h
      exact moves_of_throw rfl ⟨nofun, nofun⟩
    · cases h
  | setRequestedFps _ | switchMode _ | camStart =>
    simp only [Collector.act] at h
    split at h
    · cases h
      exact moves_of_resume [] rfl (fun _ => rfl) nofun ⟨nofun, nofun⟩ rfl
    · cases h
      exact moves_of_throw rfl ⟨nofun, nofun⟩
    · cases h

end Acts

/-! ## The lock

A script sends safely if each of its sends stands between a lock and an unlock,
or if there is no other thread; and this can be read off the script by going
through it once (`sendsSafe`). It is decidable, so for the scripts of the source
it is a computation. What has to be shown is that it is kept: by the act at the
head of a script, by what an export adds, and by a throw, behind which another
block begins without the lock. -/

/-- What a thread has still to do, nothing outside a block or a send. -/
def Main.todo : Main → List Act
  | .run _ todo => todo
  | _ => []

/-- What the capture thread has still to do of its send. -/
def Thread.todo (thread : Thread) : List Act := thread.acts.getD []

/-- **Acts that send only under the lock, or alone**, and leave it at their end;
`held` is whether the thread has the lock, `alone` whether there is no capture
thread. A join makes the thread alone and a spawn ends that. The calls stand
outside of the scopes, as in the source; an export sends what it gives in a
scope of its own or, in the startup, without one. -/
def sendsSafe (held alone : Bool) : List Act → Bool
  | [] => !held
  | .lock :: rest => !held && sendsSafe true alone rest
  | .unlock :: rest => held && sendsSafe false alone rest
  | .send _ :: rest => (held || alone) && sendsSafe held alone rest
  | .join :: rest => sendsSafe held true rest
  | .spawn :: rest => sendsSafe held false rest
  | .exportCcb :: rest => !held && (alone && sendsSafe held alone rest)
  | .exportDealias _ locked :: rest => !held && ((locked || alone) && sendsSafe held alone rest)
  | .setRequestedFps _ :: rest | .switchMode _ :: rest | .camStart :: rest =>
    !held && sendsSafe held alone rest
  | .markSent _ :: rest | .setRun _ :: rest | .camStop :: rest => sendsSafe held alone rest

/-- **The lock discipline** of the two threads. -/
structure Collector.Locked (c : Collector) : Prop where
  /-- The main thread sends only while it holds the mutex, or while there is
  no other thread. -/
  main : sendsSafe (c.sendMu = some .main) (c.thread = .none) c.main.todo = true
  /-- The capture thread sends only while it holds the mutex. -/
  capture : sendsSafe (c.sendMu = some .capture) false c.thread.todo = true

/-- Outside a block the main thread does not have the lock. -/
theorem Collector.Locked.free {c : Collector} (hL : c.Locked) (h : c.main.todo = []) :
    decide (c.sendMu = some .main) = false := by
  have hmain := hL.main
  rw [h] at hmain
  cases hd : decide (c.sendMu = some .main) with
  | false => rfl
  | true => rw [hd] at hmain; cases hmain

/-! ### Scripts that send safely

`sendsSafe` goes through a script from its head, with what is true there: who
has the lock, and whether there is another thread. So what it says of the whole
it says of the rest, with what is true behind the first act. Where a script
grows, the acts in front are sends and the noting of frame types, which change
neither of the two. -/

/-- Alone a thread may send wherever it may send in company. -/
theorem sendsSafe_alone {held : Bool} {acts : List Act} (h : sendsSafe held false acts = true)
    (alone : Bool) : sendsSafe held alone acts = true := by
  induction acts generalizing held alone with
  | nil => exact h
  | cons act rest ih =>
    cases act with
    | lock | unlock | setRequestedFps _ | switchMode _ | camStart =>
      obtain ⟨h₁, h₂⟩ := Bool.and_eq_true_iff.mp h
      exact Bool.and_eq_true_iff.mpr ⟨h₁, ih h₂ alone⟩
    | send m =>
      obtain ⟨h₁, h₂⟩ := Bool.and_eq_true_iff.mp h
      rw [Bool.or_false] at h₁
      refine Bool.and_eq_true_iff.mpr ⟨?_, ih h₂ alone⟩
      rw [h₁]
      rfl
    | join => exact h
    | spawn => exact h
    | exportCcb =>
      obtain ⟨_, h₂⟩ := Bool.and_eq_true_iff.mp h
      exact absurd h₂ nofun
    | exportDealias frameTypes locked =>
      obtain ⟨h₁, h₂⟩ := Bool.and_eq_true_iff.mp h
      obtain ⟨h₃, h₄⟩ := Bool.and_eq_true_iff.mp h₂
      rw [Bool.or_false] at h₃
      refine Bool.and_eq_true_iff.mpr ⟨h₁, Bool.and_eq_true_iff.mpr ⟨?_, ih h₄ alone⟩⟩
      rw [h₃]
      rfl
    | markSent _ | setRun _ | camStop => exact ih h alone

/-- Sends that may be made keep what is behind them as it is: neither a send nor
the noting of a frame type changes who holds the lock, or who is there. -/
theorem sendsSafe_append {held alone : Bool} {more rest : List Act}
    (hmore : ∀ a ∈ more, (∃ m, a = .send m) ∨ ∃ ft, a = .markSent ft)
    (hmay : (held || alone) = true) :
    sendsSafe held alone (more ++ rest) = sendsSafe held alone rest := by
  induction more with
  | nil => rfl
  | cons act more ih =>
    have htail := ih (fun a ha => hmore a (List.mem_cons_of_mem act ha))
    rcases hmore act List.mem_cons_self with ⟨m, rfl⟩ | ⟨ft, rfl⟩
    · show ((held || alone) && sendsSafe held alone (more ++ rest)) = _
      rw [hmay, htail, Bool.true_and]
    · exact htail

/-- The acts behind an export of the calibration are sends. -/
theorem sendCcb_sends (ccb : ModuleCcb) :
    ∀ a ∈ sendCcb ccb, (∃ m, a = .send m) ∨ ∃ ft, a = .markSent ft := by
  simp [sendCcb]

/-- The acts behind an export of dealias data are sends and the noting of frame
types. -/
theorem sendDealiasEntries_sends (entries : List DealiasEntry) :
    ∀ a ∈ sendDealiasEntries entries, (∃ m, a = .send m) ∨ ∃ ft, a = .markSent ft := by
  intro a ha
  obtain ⟨entry, _, hentry⟩ := List.mem_flatMap.mp ha
  split at hentry
  · exact absurd hentry List.not_mem_nil
  · simp only [List.mem_cons, List.not_mem_nil, or_false] at hentry
    rcases hentry with rfl | rfl | rfl
    · exact .inl ⟨_, rfl⟩
    · exact .inl ⟨_, rfl⟩
    · exact .inr ⟨_, rfl⟩

/-- A started session is alone in its startup. -/
def Block.startsUp : Block → Bool
  | .hello | .ccb | .ccbFailed | .dealias | .dealiasFailed | .ready => true
  | _ => false

/-- In the startup there is no capture thread. -/
theorem thread_of_startsUp {block : Block} {todo : List Act} {thread : Thread}
    (hb : block.startsUp = true) (h : block.Follows todo) (hhome : Home (.run block todo) thread) :
    thread = .none := by
  by_contra hne
  have hahead := hhome hne
  cases block with
  | hello | ccb | ccbFailed | dealias | dealiasFailed | ready =>
    exact h.2 (of_decide_eq_true hahead)
  | _ => cases hb

/-- **Every block begins without the lock, and safely.** For the scripts that
take the lock for each of their sends this is a computation. Those of the
startup send without it, and are safe because there is no capture thread then;
this is where the home of a thread comes in. -/
theorem sendsSafe_begin {main' : Main} {thread' : Thread} (block : Block)
    (hm : main' = block.done ∨ ∃ what, main' = block.thrown what) (hwf : main'.WellFormed)
    (hhome : Home main' thread') :
    sendsSafe false (thread' = .none) main'.todo = true := by
  have halone : ∀ b todo, main' = .run b todo → b.startsUp = true → thread' = .none :=
    fun b todo hrun hb => thread_of_startsUp hb (hwf b todo hrun) (hrun ▸ hhome)
  rcases hm with rfl | ⟨what, rfl⟩
  · cases block with
    | hello | ccb | ccbFailed | dealias | dealiasFailed =>
      rw [halone _ _ rfl rfl]
      rfl
    | ready | started | cleanup | stop | stopping => rfl
    | guarded | failed => exact sendsSafe_alone rfl _
  · cases block with
    | ccb | dealias =>
      rw [halone _ _ rfl rfl]
      rfl
    | hello | ccbFailed | dealiasFailed | ready | stopping => rfl
    | guarded | failed | started | cleanup | stop => exact sendsSafe_alone rfl _

/-- The script of StartCapture, whichever of the parts that it may leave out are
in it. -/
theorem sendsSafe_startCapture (ft : Bytes) (fps : UInt32) (sent : List Bytes) :
    sendsSafe false false (startCapture ft fps sent) = true := by
  unfold startCapture
  split <;> split <;> split <;> rfl

/-- A command is served safely from its beginning. -/
theorem sendsSafe_dispatch (m : Message) (sent : List Bytes) (alone : Bool) :
    sendsSafe false alone (Main.dispatch m sent).todo = true := by
  refine sendsSafe_alone ?_ alone
  unfold Main.dispatch
  split
  · simp only
    split
    · exact sendsSafe_startCapture _ _ _
    · exact sendsSafe_startCapture _ _ _
  · split
    · rfl
    · split <;> rfl

section Locked

variable {c c' : Collector} {block : Block} {act : Act} {todo rest : List Act} {r : CallResult}

/-! ### The acts keep the discipline

The main thread and the capture thread look at the same mutex, and each of them
has to keep what is said of the other. That is easy where the act is neither a
lock nor an unlock. Where it is one, the mutex was free or the thread's own, so
that the other thread has not had it in either state. -/

/-- Going on with acts that are safe is safe, also into the next block. -/
theorem sendsSafe_resume {held : Bool} {thread' : Thread}
    (h : sendsSafe held (thread' = .none) rest = true)
    (hwf : (Main.resume block rest).WellFormed) (hhome : Home (.resume block rest) thread') :
    sendsSafe held (thread' = .none) (Main.resume block rest).todo = true := by
  cases rest with
  | nil =>
    cases held with
    | true => cases h
    | false => exact sendsSafe_begin block (.inl rfl) hwf hhome
  | cons act rest => exact h

/-- A throw releases the lock if the main thread holds it, as the scopes of the
source are lock guards, and the handler's script begins without it. For the
capture thread nothing changes. -/
theorem locked_of_throw (hL : c.Locked) {what : Bytes}
    (hwf : (c.throw block what).main.WellFormed)
    (hhome : Home (c.throw block what).main (c.throw block what).thread) :
    (c.throw block what).Locked where
  main := by
    have hfree : (c.throw block what).sendMu ≠ some .main := by
      show (if c.sendMu = some .main then none else c.sendMu) ≠ some .main
      split
      · exact nofun
      · assumption
    rw [decide_eq_false hfree]
    exact sendsSafe_begin block (.inr ⟨what, rfl⟩) hwf hhome
  capture := by
    have hsame : ((c.throw block what).sendMu = some .capture) = (c.sendMu = some .capture) := by
      show ((if c.sendMu = some .main then none else c.sendMu) = some .capture) = _
      split
      · next hmain => rw [hmain]; simp
      · rfl
    simp only [hsame]
    exact hL.capture

/-- **Every act keeps the lock discipline.** An act does to the lock what
`sendsSafe` has assumed of it: it takes it where it is free, gives it back where
it is held, and neither where it sends. So what is left of the script is safe
for the new state; a join or a spawn changes who is there, and with it the
second argument. The two exports are the cases in which the script grows, and a
throw is `locked_of_throw`. -/
theorem locked_of_act (hL : c.Locked) (hmain : c.main = .run block (act :: todo))
    (hwf : c'.main.WellFormed) (hhome : Home c'.main c'.thread) (halive : c'.main ≠ .terminated)
    (h : c.act block todo r act = some c') : c'.Locked := by
  have hsafe : sendsSafe (c.sendMu = some .main) (c.thread = .none) (act :: todo) = true := by
    have hmainL := hL.main
    rwa [hmain] at hmainL
  cases act with
  | lock =>
    simp only [Collector.act] at h
    split at h
    · next hfree =>
      cases h
      have hcapture := hL.capture
      simp only [hfree] at hcapture
      exact ⟨sendsSafe_resume (Bool.and_eq_true_iff.mp hsafe).2 hwf hhome, hcapture⟩
    · cases h
  | unlock =>
    cases h
    obtain ⟨hheld, hrest⟩ := Bool.and_eq_true_iff.mp hsafe
    have hcapture := hL.capture
    simp only [of_decide_eq_true hheld] at hcapture
    exact ⟨sendsSafe_resume hrest hwf hhome, hcapture⟩
  | send m =>
    cases h
    exact ⟨sendsSafe_resume (Bool.and_eq_true_iff.mp hsafe).2 hwf hhome, hL.capture⟩
  | markSent _ | setRun _ | camStop =>
    cases h
    exact ⟨sendsSafe_resume hsafe hwf hhome, hL.capture⟩
  | join =>
    simp only [Collector.act] at h
    split at h
    · next hthread =>
      cases h
      refine ⟨sendsSafe_resume hsafe hwf hhome, ?_⟩
      have hcapture := hL.capture
      rcases hthread with ht | ht <;> rw [ht] at hcapture <;> exact hcapture
    · cases h
  | spawn =>
    simp only [Collector.act] at h
    split at h
    · next hthread =>
      cases h
      refine ⟨sendsSafe_resume hsafe hwf hhome, ?_⟩
      have hcapture := hL.capture
      rw [hthread] at hcapture
      exact hcapture
    · cases h
      exact absurd rfl halive
  | exportCcb =>
    simp only [Collector.act] at h
    split at h
    · next ccb =>
      cases h
      obtain ⟨_, hbehind⟩ := Bool.and_eq_true_iff.mp hsafe
      -- outside of the scopes the main thread sends alone
      obtain ⟨halone, hrest⟩ := Bool.and_eq_true_iff.mp hbehind
      have hgo : sendsSafe (c.sendMu = some .main) (c.thread = .none) (sendCcb ccb ++ todo)
          = true := by
        rw [sendsSafe_append (sendCcb_sends ccb) (by rw [halone, Bool.or_true])]
        exact hrest
      exact ⟨sendsSafe_resume hgo hwf hhome, hL.capture⟩
    · cases h
      exact locked_of_throw hL hwf hhome
    · cases h
  | exportDealias frameTypes locked =>
    simp only [Collector.act] at h
    split at h
    · next entries =>
      cases h
      obtain ⟨hheld, hbehind⟩ := Bool.and_eq_true_iff.mp hsafe
      obtain ⟨hmay, hrest⟩ := Bool.and_eq_true_iff.mp hbehind
      have hentries := sendDealiasEntries_sends entries
      have hgo : sendsSafe (c.sendMu = some .main) (c.thread = .none)
          ((if locked then [.lock] ++ sendDealiasEntries entries ++ [.unlock]
            else sendDealiasEntries entries) ++ todo) = true := by
        -- the entries are sent in a scope of their own, or by a thread that is alone
        generalize decide (c.sendMu = some .main) = held at hheld hmay hrest
        cases held with
        | true => cases hheld
        | false =>
          cases locked with
          | true =>
            show sendsSafe true _ ((sendDealiasEntries entries ++ [.unlock]) ++ todo) = true
            rw [List.append_assoc, sendsSafe_append hentries rfl]
            exact hrest
          | false =>
            show sendsSafe false _ (sendDealiasEntries entries ++ todo) = true
            rw [sendsSafe_append hentries hmay]
            exact hrest
      exact ⟨sendsSafe_resume hgo hwf hhome, hL.capture⟩
    · cases h
      exact locked_of_throw hL hwf hhome
    · cases h
  | setRequestedFps _ | switchMode _ | camStart =>
    simp only [Collector.act] at h
    split at h
    · cases h
      exact ⟨sendsSafe_resume (Bool.and_eq_true_iff.mp hsafe).2 hwf hhome, hL.capture⟩
    · cases h
      exact locked_of_throw hL hwf hhome
    · cases h

/-- A thread's counter behind an act of its send. -/
theorem todo_resume {thread : Thread} {acts : List Act} (hacts : thread.acts = some acts)
    (rest : List Act) : (thread.resume rest).todo = rest ∧ thread.resume rest ≠ .none ∧
      thread ≠ .none := by
  cases thread with
  | frame | error | report => cases rest <;> exact ⟨rfl, nofun, nofun⟩
  | _ => cases hacts

/-- An act of the capture thread takes it on in its send. -/
theorem thread_of_captureAct {acts : List Act} (h : c.captureAct acts = some c') :
    ∃ act rest, acts = act :: rest ∧ c'.thread = c.thread.resume rest ∧ c'.main = c.main := by
  unfold Collector.captureAct at h
  split at h
  · split at h
    · cases h
      exact ⟨_, _, rfl, rfl, rfl⟩
    · cases h
  · cases h
    exact ⟨_, _, rfl, rfl, rfl⟩
  · cases h
    exact ⟨_, _, rfl, rfl, rfl⟩
  · cases h

/-- **Every act of the capture thread keeps the lock discipline.** It takes the
lock only while it is free, so the main thread does not hold it then, and gives
it back at the end of its send; and the main thread's script stays as it is, as
it is not alone before and not behind. -/
theorem locked_of_captureAct {acts : List Act} (hL : c.Locked) (hacts : c.thread.acts = some acts)
    (h : c.captureAct acts = some c') : c'.Locked := by
  have hsafe : sendsSafe (c.sendMu = some .capture) false acts = true := by
    have hcapture := hL.capture
    rwa [Thread.todo, hacts] at hcapture
  have hmain := hL.main
  unfold Collector.captureAct at h
  split at h
  · next rest =>
    obtain ⟨htodo, hnone', hnone⟩ := todo_resume hacts rest
    split at h
    · next hfree =>
      cases h
      simp only [hfree, decide_eq_false hnone] at hmain
      refine ⟨by simp only [decide_eq_false hnone']; exact hmain, ?_⟩
      show sendsSafe _ false (c.thread.resume rest).todo = true
      rw [htodo]
      exact (Bool.and_eq_true_iff.mp hsafe).2
    · cases h
  · next m rest =>
    obtain ⟨htodo, hnone', hnone⟩ := todo_resume hacts rest
    cases h
    simp only [decide_eq_false hnone] at hmain
    refine ⟨by simp only [decide_eq_false hnone']; exact hmain, ?_⟩
    show sendsSafe _ false (c.thread.resume rest).todo = true
    rw [htodo]
    exact (Bool.and_eq_true_iff.mp hsafe).2
  · next rest =>
    obtain ⟨htodo, hnone', hnone⟩ := todo_resume hacts rest
    cases h
    obtain ⟨hheld, hrest⟩ := Bool.and_eq_true_iff.mp hsafe
    simp only [of_decide_eq_true hheld, decide_eq_false hnone] at hmain
    refine ⟨by simp only [decide_eq_false hnone']; exact hmain, ?_⟩
    show sendsSafe _ false (c.thread.resume rest).todo = true
    rw [htodo]
    exact hrest
  · cases h

/-- Between its sends the capture thread leaves the lock alone, and each of
its sends begins with it. -/
theorem locked_of_captureTurn {args : SessionArgs} {r : FrameResult} (hL : c.Locked)
    (h : c.captureTurn args r = some c') : c'.Locked ∧ c'.main = c.main ∧
      (c.thread = .none → c'.thread = .none) := by
  have hstep : ∀ thread' run', c.thread ≠ .none → thread' ≠ .none → c.thread.todo = [] →
      sendsSafe false false thread'.todo = true →
      Collector.Locked { c with thread := thread', run := run' } := by
    intro thread' run' hnone hnone' htodo hsafe
    have hcapture := hL.capture
    have hmain := hL.main
    rw [htodo] at hcapture
    have hfree : decide (c.sendMu = some .capture) = false := by
      cases hd : decide (c.sendMu = some .capture) with
      | false => rfl
      | true => rw [hd] at hcapture; cases hcapture
    simp only [decide_eq_false hnone] at hmain
    refine ⟨by simp only [decide_eq_false hnone']; exact hmain, ?_⟩
    simp only [hfree]
    exact hsafe
  unfold Collector.captureTurn at h
  split at h
  · next frameId hthread =>
    have hnone : c.thread ≠ .none := by rw [hthread]; exact nofun
    have htodo : c.thread.todo = [] := by rw [hthread]; rfl
    split at h
    · cases h
      exact ⟨hstep _ c.run hnone nofun htodo rfl, rfl, fun hn => absurd hn hnone⟩
    · split at h
      · cases h
        exact ⟨hstep _ _ hnone nofun htodo rfl, rfl, fun hn => absurd hn hnone⟩
      · split at h <;> cases h <;>
          exact ⟨hstep _ c.run hnone nofun htodo rfl, rfl, fun hn => absurd hn hnone⟩
  · next frameId hthread =>
    have hnone : c.thread ≠ .none := by rw [hthread]; exact nofun
    have htodo : c.thread.todo = [] := by rw [hthread]; rfl
    cases h
    exact ⟨hstep _ c.run hnone nofun htodo rfl, rfl, fun hn => absurd hn hnone⟩
  · cases h

/-- A send that throws leaves the lock, and the thread begins its next send
with it. -/
theorem locked_of_captureThrow {acts : List Act} (what : Bytes) (hL : c.Locked)
    (hacts : c.thread.acts = some acts) : (c.captureThrow what).Locked ∧
      c.thread ≠ .none ∧ (c.captureThrow what).thread ≠ .none := by
  have hthread : c.thread ≠ .none ∧ (c.captureThrow what).thread ≠ .none ∧
      sendsSafe false false (c.captureThrow what).thread.todo = true := by
    unfold Collector.captureThrow
    cases ht : c.thread with
    | frame | error | report => exact ⟨nofun, nofun, rfl⟩
    | _ => rw [ht] at hacts; cases hacts
  obtain ⟨hnone, hnone', hsafe⟩ := hthread
  have hmain := hL.main
  simp only [decide_eq_false hnone] at hmain
  have hsame : ((c.captureThrow what).sendMu = some .main) = (c.sendMu = some .main) := by
    show ((if c.sendMu = some .capture then none else c.sendMu) = some .main) = _
    split
    · next hcapture => rw [hcapture]; simp
    · rfl
  have hfree : (c.captureThrow what).sendMu ≠ some .capture := by
    show (if c.sendMu = some .capture then none else c.sendMu) ≠ some .capture
    split
    · exact nofun
    · assumption
  refine ⟨⟨?_, ?_⟩, hnone, hnone'⟩
  · simp only [hsame, decide_eq_false hnone']
    exact hmain
  · simp only [decide_eq_false hfree]
    exact hsafe

end Locked
