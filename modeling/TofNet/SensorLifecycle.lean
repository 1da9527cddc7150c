import TofNet.SensorResources

/-!
# The life of the sensor's resources

What is acquired while a loop goes over the devices is kept in the device at
hand, so that one body at a time can be looked at: `Works` says that it
exchanges the handles of its own device and leaves those of the others to
themselves, wherever it leaves off. `eachDev_holds` puts the bodies together,
and with that each call keeps the ledger in balance.

The bodies are programs that change a state and may leave off with an error. For
these there are rules (`EarlyExit`): of a sequence, a check, a change and a
loop. A body is proved by following its statements with them, and the error of
any statement leaves the same assertion behind.
-/

namespace Adsd3500Sensor

variable {setup : Setup} {s s' : Adsd3500Sensor} {t : AtDevice} {others R : List ℕ}
  {devs : List VideoDev}

/-! ## One device

`Pre` and `Post` say what the device holds in front of the body and behind it,
if it gets that far. If it does not, no more is asked than that the handles are
accounted for; the next call that releases the array will find them. -/

/-- The handles of this device and of the others are accounted for, and `R`
has been released. -/
structure Holds (others R : List ℕ) (t : AtDevice) : Prop where
  /-- The ledger is that of this device and the others. -/
  accounts : t.ledger.Accounts (t.dev.refs ++ others)
  /-- Nothing that was released is taken back. -/
  released : R ⊆ t.ledger.released

/-- **What a loop's body is to do** with any device that satisfies `Pre`. -/
def Works (Pre Post : VideoDev → Prop) (m : EStateM Status AtDevice Unit) : Prop :=
  ∀ others R t, Pre t.dev → Holds others R t →
    Leaves m t (fun _ t => Holds others R t ∧ Post t.dev) (Holds others R)

/-- A device without buffers. -/
def Bare (dev : VideoDev) : Prop := dev.videoBuffers = none ∧ dev.buffers = []

/-- A device that holds nothing. -/
def Closed (dev : VideoDev) : Prop := dev.fd = none ∧ dev.sfd = none ∧ Bare dev

/-- A handle is acquired and put into the device. -/
theorem Holds.acquire (ht : Holds others R t) {dev' : VideoDev}
    (hrefs : dev'.refs.Perm (t.ledger.next :: t.dev.refs)) :
    Holds others R { t with ledger := t.ledger.acquire, dev := dev' } where
  accounts := ht.accounts.acquire.perm (hrefs.append_right others)
  released := ht.released

/-- The device changes, and its handles do not. -/
theorem Holds.congr (ht : Holds others R t) {dev' : VideoDev} (hrefs : dev'.refs = t.dev.refs)
    (b : Bool) : Holds others R { t with firstRun := b, dev := dev' } where
  accounts := by
    show t.ledger.Accounts (dev'.refs ++ others)
    rw [hrefs]
    exact ht.accounts
  released := ht.released

namespace Works

variable {Pre Post Mid : VideoDev → Prop} {m m' : EStateM Status AtDevice Unit}

/-- One body behind another, which relies on what the first leaves. -/
theorem bind (hm : Works Pre Mid m) (hm' : Works Mid Post m') :
    Works Pre Post (m >>= fun _ => m') := fun others R t hpre ht =>
  (hm others R t hpre ht).bind fun _ t' ht' => hm' others R t' ht'.2 ht'.1

/-- A body leaves also what follows from what it leaves. -/
theorem mono {Post' : VideoDev → Prop} (hm : Works Pre Post m) (h : ∀ dev, Post dev → Post' dev) :
    Works Pre Post' m := fun others R t hpre ht =>
  (hm others R t hpre ht).mono (fun _ t' ht' => ⟨ht'.1, h t'.dev ht'.2⟩) (fun _ ht' => ht')

/-- A check changes nothing. -/
theorem ensure (c : Bool) (e : Status) : Works Pre Pre (ensure c e) := fun _ _ _ hpre ht =>
  Leaves.ensure c e ⟨ht, hpre⟩ ht

/-- A loop on one device. -/
theorem forM {γ : Type} {body : γ → EStateM Status AtDevice PUnit} (xs : List γ)
    (hbody : ∀ x ∈ xs, Works Pre Pre (body x)) : Works Pre Pre (xs.forM body) :=
  fun others R t hpre ht => by
    have hround : ∀ x ∈ xs, ∀ t, Holds others R t ∧ Pre t.dev →
        Leaves (body x) t (fun _ t => Holds others R t ∧ Pre t.dev) (Holds others R) :=
      fun x hx t ht => hbody x hx others R t ht.2 ht.1
    exact Leaves.forM hround ⟨ht, hpre⟩

/-- Several checks. -/
theorem checks (fails : OpenStep → Bool) (steps : List OpenStep) :
    Works Pre Pre (checks fails steps) :=
  forM steps fun step _ => ensure (!fails step) .genericError

/-- A device that has no descriptor yet is opened. -/
theorem openFd (fails : Bool) :
    Works Closed (fun dev => dev.sfd = none ∧ Bare dev) (openFd fails) := by
  intro others R t hpre ht
  obtain ⟨hfd, hsfd, hbare⟩ := hpre
  unfold Adsd3500Sensor.openFd
  split
  · refine Leaves.bind (Leaves.modify (Q := fun _ => Holds others R) _ ?_) (fun _ t' ht' => ?_)
    · exact ht.congr (by simp [VideoDev.refs, hfd]) t.firstRun
    · exact Leaves.throw _ ht'
  · refine Leaves.modify _ ⟨ht.acquire ?_, hsfd, hbare⟩
    rw [List.perm_iff_count]
    intro a
    simp [VideoDev.refs, hfd, hsfd, hbare.1, hbare.2]

/-- A device that has no descriptor of a sub-device yet gets one. -/
theorem openSfd (fails : Bool) :
    Works (fun dev => dev.sfd = none ∧ Bare dev) Bare (openSfd fails) := by
  intro others R t hpre ht
  obtain ⟨hsfd, hbare⟩ := hpre
  unfold Adsd3500Sensor.openSfd
  split
  · refine Leaves.bind (Leaves.modify (Q := fun _ => Holds others R) _ ?_) (fun _ t' ht' => ?_)
    · exact ht.congr (by simp [VideoDev.refs, hsfd]) t.firstRun
    · exact Leaves.throw _ ht'
  · refine Leaves.modify _ ⟨ht.acquire ?_, hbare⟩
    rw [List.perm_iff_count]
    intro a
    simp [VideoDev.refs, hsfd, hbare.1, hbare.2, List.count_append, List.count_cons]

/-- Reading the state. -/
theorem get {f : AtDevice → EStateM Status AtDevice Unit} (hf : ∀ t, Works Pre Post (f t)) :
    Works Pre Post (do f (← MonadState.get)) := fun others R t hpre ht => hf t others R t hpre ht

/-- The device changes, and its handles do not. -/
theorem update {g : AtDevice → AtDevice}
    (hg : ∀ others R t, Pre t.dev → Holds others R t → Holds others R (g t) ∧ Post (g t).dev) :
    Works Pre Post (modify g) := fun others R t hpre ht => Leaves.modify g (hg others R t hpre ht)

/-- The check of the chip does not change the handles. -/
theorem checkChip (fails : Bool) : Works Bare Bare (checkChip fails) := by
  unfold Adsd3500Sensor.checkChip
  refine get fun t => ?_
  split
  · refine (ensure (!fails) .genericError).bind (update fun others R t hpre ht => ?_)
    exact ⟨ht.congr rfl false, hpre⟩
  · exact fun others R t hpre ht => Leaves.pure ⟨ht, hpre⟩

/-- **The body of `open`**, for a device of a new array. -/
theorem openDevice (setup : Setup) (a : OpenAnswers) (i : ℕ) :
    Works Closed Bare (openDevice setup a i) := by
  have hvideo : Works Closed (fun dev => dev.sfd = none ∧ Bare dev)
      (openVideoDevice (a.fails i)) := (checks _ _).bind ((openFd _).bind (checks _ _))
  have hsub : Works (fun dev => dev.sfd = none ∧ Bare dev) Bare (openSubdevice (a.fails i)) :=
    (checks _ _).bind (openSfd _)
  have hchip := checkChip (a.fails i .chip)
  unfold Adsd3500Sensor.openDevice
  split
  · exact fun others R t hpre ht => (hsub.bind hchip) others R t hpre.2 ht
  · exact hvideo.bind (hsub.bind hchip)

/-- Starting a device does not change its handles. -/
theorem startDevice (a : StartAnswers) (i : ℕ) :
    Works (fun _ => True) (fun _ => True) (startDevice a i) := by
  unfold Adsd3500Sensor.startDevice
  refine get fun t => (ensure _ _).bind (get fun t => ?_)
  refine (forM _ fun k _ => ensure _ _).bind ((ensure _ _).bind (update fun _ _ t _ ht => ?_))
  have hrefs : ({ t.dev with started := true } : VideoDev).refs = t.dev.refs := rfl
  exact ⟨ht.congr hrefs t.firstRun, trivial⟩

/-- Nor does stopping it. -/
theorem stopDevice (fails : ℕ → Bool) (i : ℕ) :
    Works (fun _ => True) (fun _ => True) (stopDevice fails i) := by
  unfold Adsd3500Sensor.stopDevice
  refine get fun t => (ensure _ _).bind ((ensure _ _).bind (update fun _ _ t _ ht => ?_))
  have hrefs : ({ t.dev with started := false } : VideoDev).refs = t.dev.refs := rfl
  exact ⟨ht.congr hrefs t.firstRun, trivial⟩

/-- A device without buffers has none to give up. -/
theorem freeBuffers : Works Bare Bare freeBuffers := update fun others R t hpre ht => by
  have hbuffers : t.dev.buffers ++ t.dev.videoBuffers.toList = [] := by
    rw [hpre.1, hpre.2]
    rfl
  have hledger : t.ledger.releaseAll (t.dev.buffers ++ t.dev.videoBuffers.toList) = t.ledger := by
    rw [hbuffers]
    rfl
  refine ⟨⟨?_, ?_⟩, hpre.1, rfl⟩
  · show (t.ledger.releaseAll (t.dev.buffers ++ t.dev.videoBuffers.toList)).Accounts
      (({ t.dev with buffers := [] } : VideoDev).refs ++ others)
    rw [hledger, ← hpre.2]
    exact ht.accounts
  · show R ⊆ (t.ledger.releaseAll (t.dev.buffers ++ t.dev.videoBuffers.toList)).released
    rw [hledger]
    exact ht.released

/-- A device without buffers gets a table. -/
theorem allocate (fails : Bool) : Works Bare (fun _ => True) (allocate fails) := by
  intro others R t hpre ht
  unfold Adsd3500Sensor.allocate
  split
  · refine Leaves.bind (Leaves.modify (Q := fun _ => Holds others R) _ ?_) (fun _ t' ht' => ?_)
    · exact ht.congr (by simp [VideoDev.refs, hpre.1]) t.firstRun
    · exact Leaves.throw _ ht'
  · refine Leaves.modify _ ⟨ht.acquire ?_, trivial⟩
    simp [VideoDev.refs, hpre.1, hpre.2]

/-- A mapping is acquired and put into the table. -/
theorem mapBuffer (fails : BufferStep → Bool) (k : ℕ) :
    Works (fun _ => True) (fun _ => True) (mapBuffer fails k) := by
  unfold Adsd3500Sensor.mapBuffer
  refine (ensure _ _).bind ((ensure _ _).bind (update fun others R t _ ht => ?_))
  refine ⟨ht.acquire ?_, trivial⟩
  show ((t.dev.buffers ++ [t.ledger.next]) ++ _).Perm (t.ledger.next :: (t.dev.buffers ++ _))
  rw [List.append_assoc]
  exact List.perm_middle

/-- **The body of `setFrameType`**, for a device without buffers. -/
theorem setBuffers (a : FrameTypeAnswers) (same : Bool) (i : ℕ) :
    Works Bare (fun _ => True) (setBuffers a same i) := by
  have hrequest : Works Bare (fun _ => True) (requestBuffers a i) := by
    unfold Adsd3500Sensor.requestBuffers
    refine (ensure _ _).bind ((ensure _ _).bind ((ensure _ _).bind ?_))
    exact (allocate _).bind (forM _ fun k _ => mapBuffer _ k)
  unfold Adsd3500Sensor.setBuffers
  split
  · exact get fun t => (ensure _ _).bind hrequest
  · exact freeBuffers.bind ((ensure _ _).bind hrequest)

end Works

/-! ## All the devices

In the loop, the handles of the devices behind are among the others, and so are
those of the devices in front. A permutation puts them into the order of the
array. -/

/-- **A loop over the devices keeps the ledger in balance**, wherever it
leaves off. -/
theorem eachDev_holds {Pre Post : VideoDev → Prop} {body : ℕ → EStateM Status AtDevice Unit}
    (hbody : ∀ i, Works Pre Post (body i)) (i : ℕ) {ledger : Ledger} (firstRun : Bool)
    (hpre : ∀ dev ∈ devs, Pre dev)
    (hledger : ledger.Accounts (devs.flatMap VideoDev.refs ++ others)) (hR : R ⊆ ledger.released) :
    (eachDev body i ledger firstRun devs).2.1.Accounts
        ((eachDev body i ledger firstRun devs).2.2.2.flatMap VideoDev.refs ++ others) ∧
      R ⊆ (eachDev body i ledger firstRun devs).2.1.released ∧
      ((eachDev body i ledger firstRun devs).1 = none →
        ∀ dev ∈ (eachDev body i ledger firstRun devs).2.2.2, Post dev) := by
  induction devs generalizing i ledger firstRun others with
  | nil => exact ⟨hledger, hR, fun _ _ h => absurd h List.not_mem_nil⟩
  | cons dev devs ih =>
    obtain ⟨hdev, hdevs⟩ := List.forall_mem_cons.mp hpre
    have hholds : Holds (devs.flatMap VideoDev.refs ++ others) R ⟨ledger, firstRun, dev⟩ := by
      refine ⟨?_, hR⟩
      rw [List.flatMap_cons, List.append_assoc] at hledger
      exact hledger
    have hleaves := hbody i _ R _ hdev hholds
    unfold Leaves at hleaves
    unfold eachDev
    split
    · next t hrun =>
      rw [hrun] at hleaves
      obtain ⟨ht, hpost⟩ := hleaves
      -- the others' handles, and this device's, take their turns as the frame
      have hrest : t.ledger.Accounts
          (devs.flatMap VideoDev.refs ++ (t.dev.refs ++ others)) := by
        refine ht.accounts.perm ?_
        rw [← List.append_assoc, ← List.append_assoc]
        exact List.perm_append_comm.append_right others
      obtain ⟨haccounts, hreleased, hposts⟩ := ih (i + 1) t.firstRun hdevs hrest ht.released
      refine ⟨?_, hreleased, fun hnone => List.forall_mem_cons.mpr ⟨hpost, hposts hnone⟩⟩
      refine haccounts.perm ?_
      rw [List.flatMap_cons, ← List.append_assoc]
      exact List.perm_append_comm.append_right others
    · next e t hrun =>
      rw [hrun] at hleaves
      refine ⟨?_, hleaves.released, fun h => absurd h (Option.some_ne_none e)⟩
      rw [List.flatMap_cons, List.append_assoc]
      exact hleaves.accounts

/-! ## The calls

Each call is a loop or a few, with what happens to the array in between. The
ledger is in balance in front of a call and behind it. -/

/-- **The ledger is in balance**, and what a replaced array referred to has
been released. -/
structure Balanced (s : Adsd3500Sensor) : Prop where
  /-- The ledger is that of what the sensor refers to. -/
  accounts : s.ledger.Accounts s.refs
  /-- What an array referred to that is gone was released. -/
  replaced : s.replaced ⊆ s.ledger.released

/-- The loop over an array whose devices all satisfy `Pre`. -/
theorem each_holds {Pre Post : VideoDev → Prop} {body : ℕ → EStateM Status AtDevice Unit}
    (hbody : ∀ i, Works Pre Post (body i)) (hpre : ∀ dev ∈ devs, Pre dev)
    (hledger : s.ledger.Accounts (devs.flatMap VideoDev.refs ++ others))
    (hR : R ⊆ s.ledger.released) :
    (s.each body devs).2.ledger.Accounts ((s.each body devs).2.refs ++ others) ∧
      R ⊆ (s.each body devs).2.ledger.released ∧
      ((s.each body devs).1 = none → ∀ dev ∈ (s.each body devs).2.videoDevs.getD [], Post dev) :=
  eachDev_holds hbody 0 s.firstRun hpre hledger hR

/-- A loop over the current array. -/
theorem Balanced.each (hs : s.Balanced) {Pre : VideoDev → Prop}
    {body : ℕ → EStateM Status AtDevice Unit} (hbody : ∀ i, Works Pre (fun _ => True) (body i))
    (hpre : ∀ dev ∈ s.videoDevs.getD [], Pre dev) :
    (s.each body (s.videoDevs.getD [])).2.Balanced := by
  have haccounts := hs.accounts
  rw [← List.append_nil s.refs] at haccounts
  obtain ⟨haccounts', hreleased, -⟩ := each_holds hbody hpre haccounts hs.replaced
  rw [List.append_nil] at haccounts'
  exact ⟨haccounts', hreleased⟩

/-- The part of a sensor that is not the array's: the notifier's subscribers,
whether it has crashed, and what was replaced. -/
def rest (s : Adsd3500Sensor) : List ℕ × Bool × List ℕ := (s.sensors, s.crashed, s.replaced)

/-- The array's part has changed, and there is an array still. -/
structure Frame (s s' : Adsd3500Sensor) : Prop where
  /-- All else is as it was. -/
  rest : s'.rest = s.rest
  /-- An array that was there is there. -/
  array : s.videoDevs.isSome = true → s'.videoDevs.isSome = true

/-- Stopping the devices does not change what they hold. -/
theorem stopStarted_balanced (setup : Setup) (hs : s.Balanced) (fails : ℕ → ℕ → Bool) :
    (s.stopStarted fails setup).Balanced ∧ Frame s (s.stopStarted fails setup) := by
  unfold stopStarted
  induction List.range setup.numVideoDevs generalizing s with
  | nil => exact ⟨hs, rfl, id⟩
  | cons i is ih =>
    rw [List.foldl_cons]
    split
    · obtain ⟨hbalanced, hrest, harray⟩ := ih (s := s.stop (fails i))
        (hs.each (Works.stopDevice (fails i)) fun _ _ => trivial)
      exact ⟨hbalanced, hrest, fun _ => harray rfl⟩
    · exact ih hs

/-- **Releasing an array** leaves nothing in use. -/
theorem Balanced.releaseDevs (hs : s.Balanced) :
    s.releaseDevs.ledger.Accounts [] ∧ s.replaced ++ s.refs ⊆ s.releaseDevs.ledger.released := by
  have haccounts := hs.accounts
  rw [← List.append_nil s.refs] at haccounts
  refine ⟨haccounts.releaseAll, ?_⟩
  show s.replaced ++ s.refs ⊆ s.refs.reverse ++ s.ledger.released
  intro h hmem
  rcases List.mem_append.mp hmem with hreplaced | hrefs
  · exact List.mem_append_right _ (hs.replaced hreplaced)
  · exact List.mem_append_left _ (List.mem_reverse.mpr hrefs)

/-- A new array and a subscription acquire nothing that the ledger counts. -/
@[simp] theorem opening_ledger : (s.opening setup).ledger = s.ledger := by
  unfold opening subscribe
  split <;> rfl

/-- The sensor is subscribed once more, and what its array referred to is
replaced. -/
theorem opening_rest : (s.opening setup).rest
    = (if setup.interruptsAvailable then s.sensors ++ [setup.self] else s.sensors,
        s.crashed, s.replaced ++ s.refs) := by
  unfold opening subscribe
  split <;> rfl

/-- The devices of a new array hold nothing. -/
theorem flatMap_refs_replicate (n : ℕ) :
    (List.replicate n ({} : VideoDev)).flatMap VideoDev.refs = [] := by
  rw [List.flatMap_eq_nil_iff]
  intro dev hdev
  rw [List.eq_of_mem_replicate hdev]
  rfl

/-- What `open` makes of a sensor, whoever the `others` belong to. -/
structure MadeBy (setup : Setup) (s : Adsd3500Sensor) (others R : List ℕ)
    (r : Option Status × Adsd3500Sensor) : Prop where
  /-- The ledger is that of the new array and the others. -/
  accounts : r.2.ledger.Accounts (r.2.refs ++ others)
  /-- Nothing that was released is taken back. -/
  released : R ⊆ r.2.ledger.released
  /-- Behind a success no device has buffers. -/
  bare : r.1 = none → ∀ dev ∈ r.2.videoDevs.getD [], Bare dev
  /-- All else is as the beginning of the opening has left it. -/
  rest : r.2.rest = (s.opening setup).rest
  /-- There is an array. -/
  array : r.2.videoDevs.isSome = true

/-- **`open` builds a new array**, and what was accounted for before it still
has to be by others. -/
theorem openSensor_made (setup : Setup) (a : OpenAnswers) (hledger : s.ledger.Accounts others)
    (hR : R ⊆ s.ledger.released) : MadeBy setup s others R (s.openSensor setup a) := by
  have hfresh : ∀ dev ∈ List.replicate setup.numVideoDevs ({} : VideoDev), Closed dev :=
      fun dev hdev => by
    rw [List.eq_of_mem_replicate hdev]
    exact ⟨rfl, rfl, rfl, rfl⟩
  have hloop : MadeBy setup s others R ((s.opening setup).each (openDevice setup a)
      (List.replicate setup.numVideoDevs {})) := by
    obtain ⟨haccounts, hreleased, hbare⟩ := each_holds (s := s.opening setup)
      (Works.openDevice setup a) hfresh
      (by rw [flatMap_refs_replicate, opening_ledger]; exact hledger)
      (by rw [opening_ledger]; exact hR)
    exact ⟨haccounts, hreleased, hbare, rfl, rfl⟩
  unfold openSensor
  cases hrun : (s.opening setup).each (openDevice setup a)
      (List.replicate setup.numVideoDevs {}) with
  | mk e s' =>
    rw [hrun] at hloop
    cases e with
    | some e => exact hloop
    | none =>
      dsimp only
      split
      · exact hloop
      · exact ⟨hloop.accounts, hloop.released, fun _ => hloop.bare rfl, hloop.rest, hloop.array⟩

/-- `open` on a sensor that holds nothing. -/
theorem MadeBy.balanced {r : Option Status × Adsd3500Sensor}
    (hr : MadeBy setup s [] (s.replaced ++ s.refs) r) : r.2.Balanced where
  accounts := by
    have haccounts := hr.accounts
    rwa [List.append_nil] at haccounts
  replaced := by
    have hreplaced : r.2.replaced = s.replaced ++ s.refs := by
      have hrest := hr.rest
      rw [opening_rest] at hrest
      exact congrArg (fun rest => rest.2.2) hrest
    rw [hreplaced]
    exact hr.released

/-- **`open` on a sensor that holds something** leaks it. -/
theorem MadeBy.leaks {h : ℕ} {r : Option Status × Adsd3500Sensor}
    (hr : MadeBy setup s s.refs R r) (hh : h ∈ s.refs) :
    h ∈ r.2.replaced ∧ h ∉ r.2.ledger.released := by
  have hrest := hr.rest
  rw [opening_rest] at hrest
  have hreplaced : r.2.replaced = s.replaced ++ s.refs := congrArg (fun rest => rest.2.2) hrest
  refine ⟨hreplaced ▸ List.mem_append_right _ hh, ?_⟩
  have hmem : h ∈ r.2.refs ++ s.refs := List.mem_append_right _ hh
  rcases hr.accounts.exclusive (hr.accounts.lt_of_mem hmem) with ⟨_, hnot⟩ | ⟨hnot, _⟩
  · exact hnot
  · exact absurd hmem hnot

/-- **The end of `setFrameType`** starts from devices without buffers. -/
theorem setMode_balanced (setup : Setup) (a : FrameTypeAnswers) (type : Bytes) (hs : s.Balanced)
    (hbare : ∀ dev ∈ s.videoDevs.getD [], Bare dev) :
    (s.setMode setup a type).2.Balanced ∧ Frame s (s.setMode setup a type).2 := by
  unfold setMode
  split
  · exact ⟨hs, rfl, id⟩
  · split
    · exact ⟨⟨hs.accounts, hs.replaced⟩, rfl, id⟩
    · have hloop := hs.each (Works.setBuffers a (type = s.frameType)) hbare
      have hframe : Frame s (s.each (setBuffers a (type = s.frameType))
          (s.videoDevs.getD [])).2 := ⟨rfl, fun _ => rfl⟩
      cases hrun : s.each (setBuffers a (type = s.frameType)) (s.videoDevs.getD []) with
      | mk e s' =>
        rw [hrun] at hloop hframe
        cases e with
        | some e => exact ⟨hloop, hframe⟩
        | none => exact ⟨⟨hloop.accounts, hloop.replaced⟩, hframe.rest, hframe.array⟩

/-- The subscribers of a sensor that was opened, and whether it has crashed. -/
structure Reopened (setup : Setup) (s s' : Adsd3500Sensor) : Prop where
  /-- There is one subscription more, where there are interrupts. -/
  sensors : s'.sensors = if setup.interruptsAvailable then s.sensors ++ [setup.self] else s.sensors
  /-- Nothing has crashed that had not before. -/
  crashed : s'.crashed = s.crashed
  /-- There is an array. -/
  array : s'.videoDevs.isSome = true

/-- However `open` ends, there is an array, and the sensor is subscribed once
more. -/
theorem MadeBy.reopened {r : Option Status × Adsd3500Sensor} (hr : MadeBy setup s others R r) :
    Reopened setup s r.2 := by
  have hrest := hr.rest
  rw [opening_rest] at hrest
  exact ⟨congrArg (fun rest => rest.1) hrest, congrArg (fun rest => rest.2.1) hrest, hr.array⟩

/-- Around what opens a sensor, nothing else changes these. -/
theorem Reopened.frame {t t' : Adsd3500Sensor} (h : Reopened setup s s') (hs : s.rest = t.rest)
    (hs' : Frame s' t') : Reopened setup t t' where
  sensors := by
    have hsensors : s.sensors = t.sensors := congrArg (fun rest => rest.1) hs
    have hsensors' : t'.sensors = s'.sensors := congrArg (fun rest => rest.1) hs'.rest
    rw [hsensors', ← hsensors]
    exact h.sensors
  crashed := (congrArg (fun rest => rest.2.1) hs'.rest).trans
    (h.crashed.trans (congrArg (fun rest => rest.2.1) hs))
  array := hs'.array h.array

/-- **`setFrameType`** releases everything before it opens. -/
theorem setFrameType_balanced (setup : Setup) (a : FrameTypeAnswers) (type : Bytes)
    (hs : s.Balanced) :
    (s.setFrameType setup a type).2.Balanced ∧
      Reopened setup s (s.setFrameType setup a type).2 := by
  obtain ⟨hstopped, hframe⟩ := stopStarted_balanced setup hs a.stopFails
  obtain ⟨hledger, hreplaced⟩ := hstopped.releaseDevs
  have hopen := openSensor_made setup a.opening hledger hreplaced
  unfold setFrameType
  split
  · next e s' hrun =>
    rw [hrun] at hopen
    exact ⟨hopen.balanced, hopen.reopened.frame hframe.rest ⟨rfl, id⟩⟩
  · next s' hrun =>
    rw [hrun] at hopen
    obtain ⟨hbalanced, hset⟩ := setMode_balanced setup a type hopen.balanced (hopen.bare rfl)
    exact ⟨hbalanced, hopen.reopened.frame hframe.rest hset⟩

/-! ## Runs

`open` is the only call that has to be restricted, and only as far as handles
are concerned: on a sensor that holds some, it loses them. -/

/-- A call that reads the array finds one. -/
theorem withArray_eq {f : Adsd3500Sensor → Adsd3500Sensor} (h : s.videoDevs.isSome = true) :
    s.withArray f = f s := by
  unfold withArray
  rw [if_pos h]

/-- **What holds in every state.** -/
structure Inv (s : Adsd3500Sensor) : Prop where
  /-- The ledger is in balance. -/
  balanced : s.Balanced
  /-- No array that is null was read. -/
  defined : s.crashed = false

/-- A new sensor holds nothing. -/
theorem inv_initial : Inv {} where
  balanced := ⟨Ledger.accounts_initial, fun _ h => absurd h List.not_mem_nil⟩
  defined := rfl

/-- `open` on a sensor that holds nothing. -/
theorem Inv.opening (setup : Setup) (hs : s.Inv) (hrefs : s.refs = []) (a : OpenAnswers) :
    MadeBy setup s [] (s.replaced ++ s.refs) (s.openSensor setup a) := by
  refine openSensor_made setup a (hrefs ▸ hs.balanced.accounts) ?_
  rw [hrefs, List.append_nil]
  exact hs.balanced.replaced

/-- **Every call keeps the ledger in balance.** -/
theorem Inv.step {call : Call} (hs : s.Inv) (hok : s.Replaceable call)
    (hst : s.step setup call = some s') : s'.Inv := by
  unfold Adsd3500Sensor.step at hst
  split at hst
  · cases hst
  cases call with
  | «open» a =>
    cases hst
    have hmade := hs.opening setup hok a
    exact ⟨hmade.balanced, hmade.reopened.crashed.trans hs.defined⟩
  | setFrameType type a =>
    cases hst
    rw [withArray_eq hok]
    obtain ⟨hbalanced, hopened⟩ := setFrameType_balanced setup a type hs.balanced
    exact ⟨hbalanced, hopened.crashed.trans hs.defined⟩
  | start a =>
    cases hst
    rw [withArray_eq hok]
    exact ⟨hs.balanced.each (Works.startDevice a) fun _ _ => trivial, hs.defined⟩
  | stop fails =>
    cases hst
    rw [withArray_eq hok]
    exact ⟨hs.balanced.each (Works.stopDevice fails) fun _ _ => trivial, hs.defined⟩
  | destroy stopFails =>
    cases hst
    rw [withArray_eq hok]
    obtain ⟨hstopped, hframe⟩ := stopStarted_balanced setup hs.balanced stopFails
    obtain ⟨hledger, hreplaced⟩ := hstopped.releaseDevs
    exact ⟨⟨hledger, fun h hmem => hreplaced (List.mem_append_left _ hmem)⟩,
      (congrArg (fun rest => rest.2.1) hframe.rest).trans hs.defined⟩
  | otherSubscribes sensor =>
    simp only at hst
    split at hst
    · cases hst
    · cases hst
      exact ⟨⟨hs.balanced.accounts, hs.balanced.replaced⟩, hs.defined⟩

/-- The invariant is what was to be shown of the handles. -/
theorem Inv.resources (hs : s.Inv) : s.Resources where
  defined := hs.defined
  accounted _ hh := hs.balanced.accounts.exclusive hh
  releasedOnce := hs.balanced.accounts.nodup_released
  replaced _ hh := hs.balanced.replaced hh

/-- **The resources are accounted for in every state of every run** in which
`open` is called only on a sensor that holds nothing, whatever else is called
and whatever fails. -/
theorem resources_of_run {calls : List Call}
    (h : Machine.Run (step setup) (fun s => s.Replaceable) {} calls s) : s.Resources :=
  (Machine.Run.invariant (fun _ _ _ hs hok hst => Inv.step hs hok hst) h inv_initial).resources

/-! ## The subscription

Every `open` subscribes, and only `setFrameType` calls it within the sensor. So
it is the second `setFrameType`, or the first behind an `open`, that spoils the
subscription. -/

/-- A sensor with an array is subscribed once. -/
def Subscribed (setup : Setup) (s : Adsd3500Sensor) : Prop :=
  setup.interruptsAvailable = true → s.videoDevs.isSome = true →
    s.sensors.count setup.self = 1

/-- Opening a sensor that is not subscribed subscribes it once. -/
theorem Reopened.subscribed (h : Reopened setup s s')
    (hself : setup.interruptsAvailable = true → setup.self ∉ s.sensors) :
    Subscribed setup s' := fun havailable _ => by
  rw [h.sensors, if_pos havailable, List.count_append,
    List.count_eq_zero_of_not_mem (hself havailable), List.count_singleton_self]

/-- Opening one that is subscribed subscribes it twice. -/
theorem Reopened.unsubscribed (h : Reopened setup s s') (hs' : Subscribed setup s')
    (havailable : setup.interruptsAvailable = true) : setup.self ∉ s.sensors := by
  have hone := hs' havailable h.array
  rw [h.sensors, if_pos havailable, List.count_append, List.count_singleton_self] at hone
  intro hmem
  have hpos : 0 < s.sensors.count setup.self := List.count_pos_iff.mpr hmem
  omega

/-- An interrupt invokes a living sensor's handler once for each of its
entries. -/
theorem count_signalEventHandler {alive : ℕ → Bool} {i : ℕ} (h : alive i = true)
    (sensors : List ℕ) : (signalEventHandler alive sensors).count i = sensors.count i :=
  List.count_filter h

/-- With the subscription it is all that was to be shown. -/
theorem Inv.sound (hs : s.Inv) (hsub : Subscribed setup s) : Sound setup s where
  toResources := hs.resources
  subscribed := hsub
  interrupted alive havailable halive harray := by
    rw [count_signalEventHandler halive]
    exact hsub havailable harray

/-- **Every call keeps the one subscription.** -/
theorem subscribed_step {call : Call} (hs : s.Inv) (hsub : Subscribed setup s)
    (hok : Opened setup s call) (hst : s.step setup call = some s') : Subscribed setup s' := by
  obtain ⟨hreplaceable, hself⟩ := hok
  unfold Adsd3500Sensor.step at hst
  split at hst
  · cases hst
  cases call with
  | «open» a =>
    cases hst
    exact (hs.opening setup hreplaceable a).reopened.subscribed (hself rfl)
  | setFrameType type a =>
    cases hst
    rw [withArray_eq hreplaceable]
    exact (setFrameType_balanced setup a type hs.balanced).2.subscribed (hself rfl)
  | start a =>
    cases hst
    rw [withArray_eq hreplaceable]
    exact fun havailable _ => hsub havailable hreplaceable
  | stop fails =>
    cases hst
    rw [withArray_eq hreplaceable]
    exact fun havailable _ => hsub havailable hreplaceable
  | destroy stopFails =>
    cases hst
    rw [withArray_eq hreplaceable]
    exact fun _ h => Bool.noConfusion h
  | otherSubscribes sensor =>
    simp only at hst
    split at hst
    · cases hst
    · next hother =>
      cases hst
      intro havailable harray
      rw [List.count_append, hsub havailable harray, List.count_singleton,
        if_neg (by simpa using hother)]

/-- **The resources of a sensor and its subscription are in order in every state
of every run** of calls that rely on no more than `Opened`.

Each call is a sequence of system calls of which any may fail, and leaves off
where one does. The invariant is a balance between a ledger of what was acquired
and released, and what the sensor's members refer to; a call is shown to keep it
wherever it leaves off, so that a later call, or the destructor, finds what is
left to be released. -/
theorem sound_of_run {calls : List Call}
    (h : Machine.Run (step setup) (Opened setup) {} calls s) : Sound setup s := by
  have hstep : ∀ s call s', s.Inv ∧ Subscribed setup s → Opened setup s call →
      s.step setup call = some s' → s'.Inv ∧ Subscribed setup s' :=
    fun _ _ _ hs hok hst => ⟨hs.1.step hok.1 hst, subscribed_step hs.1 hs.2 hok hst⟩
  have hinv := Machine.Run.invariant hstep h ⟨inv_initial, fun _ h => Bool.noConfusion h⟩
  exact hinv.1.sound hinv.2

/-- A sensor that is opened, set to one mode, started and destroyed: nine
handles were acquired on the way, and all are accounted for. -/
theorem sound_of_run_one_mode :
    ∃ s, Machine.Run (step ⟨1, by decide, false, false, 0⟩)
        (Opened ⟨1, by decide, false, false, 0⟩) {}
        [.open {}, .setFrameType (ascii "mp") {}, .start {}, .destroy fun _ _ => false] s ∧
      s.ledger.next = 9 ∧ Sound ⟨1, by decide, false, false, 0⟩ s :=
  have h : Machine.execOk (step ⟨1, by decide, false, false, 0⟩)
      (Opened ⟨1, by decide, false, false, 0⟩) {}
      [.open {}, .setFrameType (ascii "mp") {}, .start {}, .destroy fun _ _ => false]
        = some {
          ledger := { next := 9, released := [3, 2, 4, 8, 7, 6, 5, 1, 0] }
          firstRun := false
          adsd3500Queried := true
          frameType := ascii "mp"
          alive := false
          replaced := [0, 1] } := by decide
  ⟨_, Machine.run_of_execOk h, rfl, sound_of_run (Machine.run_of_execOk h)⟩

/-! ## What the calls rely on is needed

The condition on a step cannot be weakened: a step that breaks it, from a sound
state, leads to a state that is not sound. -/

/-- **A step leads to a sound state only as `Opened` says.** -/
theorem sound_step_iff {call : Call} (hs : s.Inv) (hsub : Subscribed setup s)
    (hst : s.step setup call = some s') : Sound setup s' ↔ Opened setup s call := by
  refine ⟨fun hs' => ?_, fun hok => (hs.step hok.1 hst).sound (subscribed_step hs hsub hok hst)⟩
  have harray : ∀ f : Adsd3500Sensor → Adsd3500Sensor, Sound setup (s.withArray f) →
      s.videoDevs.isSome = true := fun f hsound => by
    by_contra hnone
    have hcrashed := hsound.defined
    rw [withArray, if_neg hnone] at hcrashed
    cases hcrashed
  unfold Adsd3500Sensor.step at hst
  split at hst
  · cases hst
  cases call with
  | «open» a =>
    cases hst
    have hmade := openSensor_made setup a hs.balanced.accounts (List.Subset.refl _)
    refine ⟨List.eq_nil_iff_forall_not_mem.mpr fun h hh => ?_,
      fun _ => hmade.reopened.unsubscribed hs'.subscribed⟩
    exact (hmade.leaks hh).2 (hs'.replaced h (hmade.leaks hh).1)
  | setFrameType type a =>
    cases hst
    have harray := harray _ hs'
    rw [withArray_eq harray] at hs'
    exact ⟨harray, fun _ =>
      (setFrameType_balanced setup a type hs.balanced).2.unsubscribed hs'.subscribed⟩
  | start a =>
    cases hst
    exact ⟨harray _ hs', fun h => Bool.noConfusion h⟩
  | stop fails =>
    cases hst
    exact ⟨harray _ hs', fun h => Bool.noConfusion h⟩
  | destroy stopFails =>
    cases hst
    exact ⟨harray _ hs', fun h => Bool.noConfusion h⟩
  | otherSubscribes sensor => exact ⟨trivial, fun h => Bool.noConfusion h⟩

/-- **A switch of the mode subscribes again**: `setFrameType` opens the sensor
once more, and the sensor is twice in the list of those that an interrupt is
handed to. -/
theorem not_sound_second_mode :
    ¬ ∀ (setup : Setup) (calls : List Call) (s : Adsd3500Sensor),
      Machine.Run (step setup) Machine.always {} calls s → Sound setup s := by
  intro h
  have hrun : ∃ s, Machine.exec (step ⟨1, by decide, false, true, 0⟩) {}
      [.open {}, .setFrameType (ascii "mp") {}] = some s ∧
        s.sensors.count 0 = 2 ∧ s.videoDevs.isSome = true := by decide
  obtain ⟨s, hexec, hcount, harray⟩ := hrun
  have hsound := h _ _ s (Machine.run_iff_exec.mpr hexec)
  have hone := hsound.subscribed rfl harray
  exact absurd (hone.symm.trans hcount) (by decide)

end Adsd3500Sensor
