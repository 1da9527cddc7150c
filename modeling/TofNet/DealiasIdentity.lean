import TofNet.Dealias
import TofNet.Transition

/-!
# The dealias data of a mode stays with that mode

A DealiasData message is labelled with a frame type and carries what the
ADSD3500 answered for a mode id. The viewer stores it in the slot of the mode
id it makes of the label. This module asks whether the two ids are always the
same, over every history of mode tables, exports, cache files and handled
messages.

They are not. `getModeInfo` gives a name that is not in its table the mode of
a zeroed entry, which is mode 0, and `convertModeName` knows seven names
whatever the table. So `lr-mixed`, exported under a table of version 2, is
read as mode 0 and stored as mode 5. What holds is the claim for the frame
types on which the two tables have to agree: those in the collector's table,
those the viewer also gives mode 0, and mode names answered from the cache.

The invariant (`Good`) speaks of what is kept anywhere: in the cache files, in
the messages under way, and in the slots. Each datum has to be that of the mode
which the viewer will make of the name it is kept under. For the messages and
the slots this follows from how they are made. For the files one needs besides
that no two frame types share a file unless they share a mode, since the name of
a file is not the frame type but what is left of it.
-/

/-! ## The two tables

A name that both tables have is given the same mode by both. A name that only
the viewer has is given mode 0 by the collector, and that is right only if the
viewer gives it mode 0 too. -/

/-- The mode id the viewer makes of a frame type that has crossed the wire. -/
def viewerMode (ft : Bytes) : UInt8 := convertModeName (wireName kNameLen ft)

/-- **Where both have a name they agree on its mode.** -/
theorem mode_of_names {t : ModeTable} (ht : t.Chosen) {ft : Bytes} (h : t.Names ft) :
    ft ∈ modeNames ∧ (t.getModeInfo ft).mode = viewerMode ft := by
  have hall : ∀ data ∈ [gNewModesAdsd3500, gNewMixedModesAdsd3500, gNewModesAdsd3030,
      gNewMixedModesAdsd3030], ∀ info ∈ data, info.modeName ∈ modeNames ∧
        (ModeTable.getModeInfo { data := data } info.modeName).mode
          = viewerMode info.modeName := by
    decide +kernel
  obtain ⟨info, hinfo, rfl⟩ := h
  exact hall t.data ht info hinfo

/-- **A frame type the two tables agree on**: it is in the collector's, or
the viewer takes it for mode 0. -/
def ModeTable.AgreesOn (t : ModeTable) (ft : Bytes) : Prop := t.Names ft ∨ viewerMode ft = 0

instance (t : ModeTable) (ft : Bytes) : Decidable (t.AgreesOn ft) :=
  inferInstanceAs (Decidable (_ ∨ _))

theorem mode_of_agreesOn {t : ModeTable} (ht : t.Chosen) {ft : Bytes} (h : t.AgreesOn ft) :
    (t.getModeInfo ft).mode = viewerMode ft := by
  by_cases hnames : t.Names ft
  · exact (mode_of_names ht hnames).2
  · rw [ModeTable.getModeInfo_of_not_names hnames]
    exact (h.resolve_left hnames).symm

/-- A frame type whose mode does not depend on the table. -/
def Known (ft : Bytes) : Prop := ft ∈ modeNames ∨ viewerMode ft = 0

theorem known_of_agreesOn {t : ModeTable} (ht : t.Chosen) {ft : Bytes} (h : t.AgreesOn ft) :
    Known ft :=
  h.imp_left (fun hnames => (mode_of_names ht hnames).1)

/-! ## The names of the cache files

Characters that are not safe are replaced by an underscore, and so different
frame types can have the same file. No mode name has such a character or an
underscore in it, and so shares its file with nobody; and the safe name can be
read off the path of the file, since a directory cannot be taken for a part of
it. -/

/-- A mode name keeps its characters, and has no underscore. -/
theorem safe_of_modeNames {ft : Bytes} (h : ft ∈ modeNames) :
    ∀ c ∈ ft, safeChar c = true ∧ c ≠ 95 := by
  have hall : ∀ name ∈ modeNames, ∀ c ∈ name, safeChar c = true ∧ c ≠ 95 := by
    decide +kernel
  exact hall ft h

/-- **No other frame type has the cache file of a mode name.** -/
theorem eq_of_safeName {ft ft' : Bytes} (hft : ft ∈ modeNames)
    (h : safeName ft' = safeName ft) : ft' = ft := by
  have hsafe := safe_of_modeNames hft
  clear hft
  induction ft generalizing ft' with
  | nil => exact List.map_eq_nil_iff.mp h
  | cons c ft ih =>
    obtain ⟨hc, hne⟩ := hsafe c List.mem_cons_self
    cases ft' with
    | nil => exact absurd h.symm (by simp [safeName])
    | cons c' ft' =>
      obtain ⟨hhead, htail⟩ := List.cons.inj h
      dsimp only at hhead
      rw [if_pos hc] at hhead
      have hkeep : safeChar c' = true := by
        by_contra hno
        rw [if_neg hno] at hhead
        exact hne hhead.symm
      rw [if_pos hkeep] at hhead
      rw [hhead, ih htail (fun d hd => hsafe d (List.mem_cons_of_mem _ hd))]

/-- Frame types that share a cache file share their mode, if they are known. -/
theorem viewerMode_of_safeName {ft ft' : Bytes} (hft : Known ft) (hft' : Known ft')
    (h : safeName ft' = safeName ft) : viewerMode ft' = viewerMode ft := by
  rcases hft with hname | hzero
  · rw [eq_of_safeName hname h]
  · rcases hft' with hname' | hzero'
    · rw [eq_of_safeName hname' h.symm]
    · rw [hzero, hzero']

/-- The name of a cache file has no separator in it. -/
theorem isSeparator_cacheName (ft : Bytes) :
    ∀ c ∈ ascii "dealias_" ++ safeName ft ++ ascii ".bin", isSeparator c = false := by
  have hchar : ∀ c : UInt8, safeChar c = true → isSeparator c = false := by
    intro c hsafe
    by_contra hsep
    have hc : c = 47 ∨ c = 92 := by
      simpa [isSeparator, or_iff_not_imp_left] using hsep
    rcases hc with rfl | rfl <;> cases hsafe
  have hlit : ∀ c ∈ ascii "dealias_" ++ ascii ".bin", isSeparator c = false := by
    decide +kernel
  intro c hc
  simp only [List.mem_append] at hc hlit
  rcases hc with (hc | hc) | hc
  · exact hlit c (.inl hc)
  · obtain ⟨d, _, rfl⟩ := List.mem_map.mp hc
    split
    · exact hchar d ‹_›
    · rfl
  · exact hlit c (.inr hc)

/-- **The path of a cache file determines the safe name in it.** -/
theorem safeName_of_cachePath {args args' : MetadataArgs} {ft ft' : Bytes}
    (hne : dealiasCachePath args ft ≠ [])
    (h : dealiasCachePath args' ft' = dealiasCachePath args ft) :
    safeName ft' = safeName ft := by
  have hname : ∀ (args : MetadataArgs) (ft : Bytes), dealiasCachePath args ft ≠ [] →
      baseName (dealiasCachePath args ft)
        = ascii "dealias_" ++ safeName ft ++ ascii ".bin" := by
    intro args ft hne
    unfold dealiasCachePath metadataCachePath at hne ⊢
    split at hne
    · exact absurd rfl hne
    · next hdir => rw [if_neg hdir, baseName_joinPath (isSeparator_cacheName ft)]
  have heq := (hname args' ft' (h ▸ hne)).symm.trans (h ▸ hname args ft hne)
  exact List.append_cancel_left (List.append_cancel_right heq)

/-! ## Histories

The steps are those at which something is kept or handed over. A message may be
handled late, more than once, or never; the table may be chosen anew between any
two exports. -/

/-- One call of `export_dealias_data`. -/
structure ExportCall where
  /-- The arguments of the collector. -/
  args : MetadataArgs := {}
  /-- The camera as it is. -/
  source : ExportSource
  /-- What the machine answers, for each frame type. -/
  answers : Bytes → ExportAnswers
  /-- The frame types that are asked for. -/
  requested : List Bytes := []

/-- **What the two machines can do next**: the collector starts, chooses a
table or exports and sends, and the viewer handles one of the messages that
were sent, at any time and any number of times. -/
inductive DealiasStep
  | restart
  | configure (p : TableProbe)
  | exports (call : ExportCall)
  | handle (i : ℕ)

/-- **The state of a history.** The data read from the ADSD3500 and the
messages sent are kept as histories. -/
structure DealiasHistory where
  /-- The collector's table of modes. -/
  table : ModeTable := {}
  /-- Its files, with the cache. -/
  files : Files := fun _ => none
  /-- The slots of the viewer. -/
  slots : DealiasSlots := fun _ => none
  /-- What the ADSD3500 has answered, with the mode it was asked about. -/
  reads : List (UInt8 × Bytes) := []
  /-- The DealiasData messages, in order. -/
  sent : List Message := []

namespace DealiasHistory

def step (s : DealiasHistory) : DealiasStep → Option DealiasHistory
  | .restart => some { s with table := {} }
  | .configure p => some { s with table := (configureDirectSensorModeTable p s.table).1 }
  | .exports call =>
    match exportDealiasData call.args call.source s.table call.answers call.requested
        { files := s.files, reads := s.reads } with
    | .ok e => some { s with
        files := e.files, reads := e.reads, sent := s.sent ++ dealiasMessages e.entries }
    | .error _ => some s
  | .handle i =>
    match s.sent[i]? with
    | some m =>
      match handleDealiasData m s.slots with
      | .ok slots => some { s with slots := slots }
      | .error _ => some s
    | none => none

/-- The modes of a frame type agree in an export: both tables do, or it is a
mode name that the cache answers. -/
def AgreesAt (table : ModeTable) (args : MetadataArgs) (files : Files) (ft : Bytes) : Prop :=
  ft = [] ∨ table.AgreesOn ft ∨ (ft ∈ modeNames ∧ (cachedDealias args files ft).isSome = true)

instance (table : ModeTable) (args : MetadataArgs) (files : Files) (ft : Bytes) :
    Decidable (AgreesAt table args files ft) :=
  inferInstanceAs (Decidable (_ ∨ _ ∨ _ ∧ _))

/-- **The condition**: every frame type an export goes through is one whose
modes agree. -/
def ok (s : DealiasHistory) : DealiasStep → Prop
  | .exports call =>
    match exportFrameTypes call.args call.source call.requested with
    | .ok fts => ∀ ft ∈ fts, AgreesAt s.table call.args s.files ft
    | .error _ => True
  | _ => True

instance (s : DealiasHistory) (a : DealiasStep) : Decidable (s.ok a) := by
  unfold ok
  split
  · split <;> infer_instance
  · infer_instance

end DealiasHistory

/-- The frame type a DealiasData message is labelled with. -/
def Message.dealiasLabel (m : Message) : Bytes :=
  cstrToString (DealiasDataPayload.decode m.payload).frameType

/-- The data it carries. -/
def Message.dealiasBytes (m : Message) : Bytes :=
  (m.payload.drop dealiasDataPayloadSize).take
    (DealiasDataPayload.decode m.payload).dataBytes.toNat

/-- **The data is that of the mode**: it was read from the ADSD3500 with the
mode id the viewer makes of the label. -/
def DealiasHistory.Carries (s : DealiasHistory) (m : Message) : Prop :=
  (convertModeName m.dealiasLabel, m.dealiasBytes) ∈ s.reads

/-! ## Messages

A frame type crosses the wire in a field of fixed size, so what the viewer reads
is the label cut to that size. The mode that the viewer makes of it is what
counts. -/

/-- What the viewer reads back from a DealiasData message. -/
theorem decode_dealiasMessage (entry : DealiasEntry) :
    DealiasDataPayload.decode (dealiasMessage entry).payload
      = { frameType := copyCstr kNameLen entry.frameType,
          dataBytes := UInt32.ofNat entry.data.length } :=
  DealiasDataPayload.decode_encode_append _ _

theorem dealiasLabel_message (entry : DealiasEntry) :
    (dealiasMessage entry).dealiasLabel = wireName kNameLen entry.frameType := by
  rw [Message.dealiasLabel, decode_dealiasMessage]
  exact cstrToString_copyCstr (by decide) _

theorem dealiasBytes_message {entry : DealiasEntry} (h : entry.data.length < 2 ^ 32) :
    (dealiasMessage entry).dealiasBytes = entry.data := by
  have hlen : (UInt32.ofNat entry.data.length).toNat = entry.data.length := by
    rw [UInt32.toNat_ofNat']
    exact Nat.mod_eq_of_lt h
  rw [Message.dealiasBytes, decode_dealiasMessage, hlen, dealiasMessage]
  show List.take _ (List.drop _ (DealiasDataPayload.encode _ ++ entry.data)) = entry.data
  rw [List.drop_left' (DealiasDataPayload.length_encode _), List.take_length]

/-- **A full structure is stored unchanged**, in the slot of its label. -/
theorem handle_cases {m : Message} {slots slots' : DealiasSlots}
    (hsize : m.dealiasBytes.length = tofiXYZDealiasDataSize)
    (h : handleDealiasData m slots = .ok slots') :
    slots' = Function.update slots (convertModeName m.dealiasLabel) (some m.dealiasBytes) := by
  unfold handleDealiasData at h
  split at h
  · cases h
  · dsimp only at h
    split at h
    · cases h
    · split at h
      · cases h
      · cases h
        have hfull : (m.payload.drop dealiasDataPayloadSize).take
            (min (DealiasDataPayload.decode m.payload).dataBytes.toNat tofiXYZDealiasDataSize)
              = m.dealiasBytes := by
          rw [Nat.min_comm, ← List.take_take]
          exact List.take_of_length_le (le_of_eq hsize)
        rw [hfull, List.takeD_eq_take _ (le_of_eq hsize.symm),
          List.take_of_length_le (le_of_eq hsize)]
        rfl

/-! ## One export

The loop takes the frame types one after the other, and a frame type that comes
later may be answered from a file that this export has written. So the lemma
about one frame type speaks of the files too, and the loop is an induction with
the files as they have become. -/

namespace Exporting

/-- What an export keeps of the files, the data read, and its entries. -/
structure Good (e : Exporting) : Prop where
  size : ∀ r ∈ e.reads, r.2.length = tofiXYZDealiasDataSize
  /-- A cache file holds what was read for the mode of its frame types. -/
  cached : ∀ (args : MetadataArgs) (ft data : Bytes), Known ft → dealiasCachePath args ft ≠ [] →
    e.files (dealiasCachePath args ft) = some data → (viewerMode ft, data) ∈ e.reads
  entries : ∀ entry ∈ e.entries, (viewerMode entry.frameType, entry.data) ∈ e.reads

end Exporting

/-- Cached data is in a cache file, and is not empty. -/
theorem cachedDealias_eq_some {args : MetadataArgs} {files : Files} {ft cached : Bytes}
    (h : cachedDealias args files ft = some cached) :
    dealiasCachePath args ft ≠ [] ∧ files (dealiasCachePath args ft) = some cached := by
  unfold cachedDealias at h
  dsimp only at h
  split at h
  · next hon => exact ⟨hon.2.2, (Option.filter_eq_some_iff.mp h).1⟩
  · cases h

/-- Writing a cache file leaves no frame type without cached data that had
some. -/
theorem cachedDealias_update {args : MetadataArgs} {files : Files} {path data ft : Bytes}
    (hdata : data ≠ []) (h : (cachedDealias args files ft).isSome = true) :
    (cachedDealias args (Function.update files path (some data)) ft).isSome = true := by
  unfold cachedDealias at h ⊢
  dsimp only at h ⊢
  split at h
  · next hon =>
    rw [if_pos hon]
    by_cases hpath : dealiasCachePath args ft = path
    · rw [hpath, Function.update_self, Option.filter_some, if_pos (decide_eq_true hdata)]
      rfl
    · rw [Function.update_of_ne hpath]
      exact h
  · cases h

section Loop

variable {args : MetadataArgs} {t : ModeTable} {answers : ExportAnswers} {e : Exporting}
  {ft ft' : Bytes}

theorem length_dealiasStruct (dealiasParams : CharArray 32) (intrinsics : CharArray 56) :
    (dealiasParams.toList ++ intrinsics.toList).length = tofiXYZDealiasDataSize := by
  rw [List.length_append, List.Vector.toList_length, List.Vector.toList_length]
  rfl

theorem cachedDealias_exportOne (h : (cachedDealias args e.files ft').isSome = true) :
    (cachedDealias args (exportOne args t answers e ft).files ft').isSome = true := by
  unfold exportOne
  split
  · exact h
  · dsimp only
    split
    · exact h
    · split
      · dsimp only
        split
        · refine cachedDealias_update (fun hnil => ?_) h
          have hlen := length_dealiasStruct ‹_› ‹_›
          rw [hnil] at hlen
          cases hlen
        · exact h
      · exact h

/-- **One frame type of an export**: where its modes agree, its entry is
labelled with the mode it was read for, and so is the file it leaves. -/
theorem good_exportOne (ht : t.Chosen) (he : e.Good)
    (hft : DealiasHistory.AgreesAt t args e.files ft) : (exportOne args t answers e ft).Good := by
  unfold exportOne
  split
  · exact he
  next hnew =>
  have hagree := hft.resolve_left (fun hnil => hnew (.inl hnil))
  dsimp only
  split
  · next cached hcached =>
    -- the entry is what an earlier export left in the file
    obtain ⟨hpath, hfile⟩ := cachedDealias_eq_some hcached
    have hknown : Known ft := hagree.elim (known_of_agreesOn ht) (fun hname => .inl hname.1)
    refine { he with entries := fun entry hentry => ?_ }
    rcases List.mem_append.mp hentry with hold | hnew'
    · exact he.entries entry hold
    · cases List.mem_singleton.mp hnew'
      exact he.cached args ft cached hknown hpath hfile
  · next hcached =>
    have hagree' : t.AgreesOn ft := hagree.resolve_right (fun hname => by
      rw [hcached] at hname
      cases hname.2)
    have hmode := mode_of_agreesOn ht hagree'
    split
    · next intrinsics dealiasParams _ _ =>
      refine { size := ?size, cached := ?cached, entries := ?entries }
      case size =>
        intro r hr
        rcases List.mem_cons.mp hr with rfl | hold
        · exact length_dealiasStruct _ _
        · exact he.size r hold
      case cached =>
        intro args' ft' data hknown hpath hfile
        dsimp only at hfile
        split at hfile
        · by_cases hsame : dealiasCachePath args' ft' = dealiasCachePath args ft
          · rw [hsame, Function.update_self] at hfile
            cases hfile
            have hsafe := safeName_of_cachePath hpath hsame.symm
            rw [← viewerMode_of_safeName hknown (known_of_agreesOn ht hagree') hsafe, ← hmode]
            exact List.mem_cons_self
          · rw [Function.update_of_ne hsame] at hfile
            exact List.mem_cons_of_mem _ (he.cached args' ft' data hknown hpath hfile)
        · exact List.mem_cons_of_mem _ (he.cached args' ft' data hknown hpath hfile)
      case entries =>
        intro entry hentry
        rcases List.mem_append.mp hentry with hold | hnew'
        · exact List.mem_cons_of_mem _ (he.entries entry hold)
        · cases List.mem_singleton.mp hnew'
          rw [← hmode]
          exact List.mem_cons_self
    · exact { he with }

end Loop

/-- **The whole loop.** -/
theorem good_exportLoop {args : MetadataArgs} {t : ModeTable} (answers : Bytes → ExportAnswers)
    (ht : t.Chosen) (fts : List Bytes) {e : Exporting} (he : e.Good)
    (hfts : ∀ ft ∈ fts, DealiasHistory.AgreesAt t args e.files ft) :
    (fts.foldl (fun s ft => exportOne args t (answers ft) s ft) e).Good := by
  induction fts generalizing e with
  | nil => exact he
  | cons ft fts ih =>
    refine ih (good_exportOne ht he (hfts ft List.mem_cons_self)) (fun ft' hft' => ?_)
    exact (hfts ft' (List.mem_cons_of_mem _ hft')).imp_right
      (Or.imp_right (And.imp_right cachedDealias_exportOne))

/-- An export forgets nothing that was read. -/
theorem reads_exportLoop (args : MetadataArgs) (t : ModeTable) (answers : Bytes → ExportAnswers)
    (fts : List Bytes) (e : Exporting) :
    e.reads ⊆ (fts.foldl (fun s ft => exportOne args t (answers ft) s ft) e).reads := by
  induction fts generalizing e with
  | nil => exact List.Subset.refl _
  | cons ft fts ih =>
    have hone : e.reads ⊆ (exportOne args t (answers ft) e ft).reads := by
      unfold exportOne
      split
      · exact List.Subset.refl _
      · dsimp only
        split
        · exact List.Subset.refl _
        · split
          · exact List.subset_cons_self _ _
          · exact List.Subset.refl _
    exact List.Subset.trans hone (ih _)

/-! ## Every history

A case for each step. An export adds files and messages that are good; handling
a message makes a slot of it; choosing a table changes nothing that is kept. -/

namespace DealiasHistory

/-- **The invariant.** -/
structure Good (s : DealiasHistory) : Prop where
  table : s.table.Chosen
  exporting : Exporting.Good { files := s.files, reads := s.reads }
  sent : ∀ m ∈ s.sent, s.Carries m
  slots : ∀ k data, s.slots k = some data → (k, data) ∈ s.reads

theorem good_initial : Good {} where
  table := List.mem_cons_self
  exporting := { size := fun _ h => absurd h List.not_mem_nil
                 cached := fun _ _ _ _ _ h => absurd h (by simp)
                 entries := fun _ h => absurd h List.not_mem_nil }
  sent := fun _ h => absurd h List.not_mem_nil
  slots := fun _ _ h => absurd h (by simp)

variable {s s' : DealiasHistory}

theorem good_export (hs : s.Good) {call : ExportCall} (hok : s.ok (.exports call))
    (h : s.step (.exports call) = some s') : s'.Good := by
  unfold step exportDealiasData at h
  unfold ok at hok
  dsimp only at h hok
  cases hfts : exportFrameTypes call.args call.source call.requested with
  | error e =>
    rw [hfts] at h
    cases h
    exact hs
  | ok fts =>
    rw [hfts] at h hok
    have hgood := good_exportLoop call.answers hs.table fts hs.exporting hok
    have hsub := reads_exportLoop call.args s.table call.answers fts
      { files := s.files, reads := s.reads }
    cases h
    refine { table := hs.table, exporting := { hgood with entries := ?_ }, sent := ?_,
             slots := fun k data hk => hsub (hs.slots k data hk) }
    · exact fun _ hentry => absurd hentry List.not_mem_nil
    · intro m hm
      rcases List.mem_append.mp hm with hold | hnew
      · exact hsub (hs.sent m hold)
      · obtain ⟨entry, hentry, rfl⟩ := List.mem_map.mp hnew
        have hread := hgood.entries entry (List.mem_filter.mp hentry).1
        have hsize := hgood.size _ hread
        have hlen : entry.data.length < 2 ^ 32 := by rw [hsize]; decide
        show (_, _) ∈ _
        rw [dealiasLabel_message, dealiasBytes_message hlen]
        exact hread

theorem good_handle (hs : s.Good) {i : ℕ} (h : s.step (.handle i) = some s') : s'.Good := by
  unfold step at h
  dsimp only at h
  split at h
  · next m hm =>
    split at h
    · next slots hslots =>
      have hcarries := hs.sent m (List.mem_of_getElem? hm)
      have hslots' := handle_cases (hs.exporting.size _ hcarries) hslots
      cases h
      refine { hs with slots := fun k data hk => ?_ }
      dsimp only at hk
      rw [hslots'] at hk
      by_cases hmode : k = convertModeName m.dealiasLabel
      · rw [hmode, Function.update_self] at hk
        cases hk
        rw [hmode]
        exact hcarries
      · rw [Function.update_of_ne hmode] at hk
        exact hs.slots k data hk
    · cases h
      exact hs
  · cases h

theorem good_step (a : DealiasStep) (hs : s.Good) (hok : s.ok a) (h : s.step a = some s') :
    s'.Good := by
  cases a with
  | restart =>
    cases h
    exact { hs with table := List.mem_cons_self }
  | configure p =>
    cases h
    exact { hs with table := chosen_configure p _ }
  | exports call => exact good_export hs hok h
  | handle i => exact good_handle hs h

/-- **The dealias data of a mode stays with that mode.** In every history whose
exports go through frame types whose modes agree, each DealiasData message
carries what the ADSD3500 answered for the mode id the viewer makes of its
label, and each slot that is filled holds what it answered for the slot's mode
id.

Two tables are involved, and neither program sends its own to the other: the
collector asks the ADSD3500 with the mode id that the SDK's table has for the
frame type, and the viewer stores the answer under the id that it makes of the
label, which is the frame type cut to 63 bytes. Between the two lies the
collector's cache of what was exported before. The answers are kept in the
history, so the theorem speaks of where the data came from, not only of what it
is. -/
theorem identity_of_run {as : List DealiasStep} (hrun : Machine.Run step ok {} as s) :
    (∀ m ∈ s.sent, s.Carries m) ∧ ∀ k data, s.slots k = some data → (k, data) ∈ s.reads := by
  have hgood : s.Good :=
    hrun.invariant (fun _ a _ hs hok h => good_step a hs hok h) good_initial
  exact ⟨hgood.sent, hgood.slots⟩

/-! ## Two histories

In the first the frame type is in the table of the collector. In the second it
is not, and the camera is asked for mode 0. -/

/-- An ADSD3500 that answers each mode with that mode in every byte. -/
def plainAnswers : Bytes → ExportAnswers := fun _ =>
  { intrinsics := fun mode => some (List.Vector.replicate 56 mode),
    dealiasParams := fun mode => some (List.Vector.replicate 32 mode),
    writes := true }

/-- A probe that finds no mixed mode. -/
def plainProbe : TableProbe := ⟨some .adsd3100, .adsd3100, some (List.replicate 32 0)⟩

/-- An export of `ft` as a StartCapture asks for it. -/
def plainExport (ft : Bytes) : DealiasStep :=
  .exports { source := { modeName := ascii "sr-native" }, answers := plainAnswers,
             requested := [ft] }

/-- A history in which the collector asks for `lr-native` and the viewer is sent
the answer: it is put in slot 1, which is the mode the ADSD3500 was asked
about. -/
theorem identity_of_run_lrNative :
    ∃ as s, Machine.Run step ok {} as s ∧ s.slots 1 = some (List.replicate 88 1) ∧
      ((∀ m ∈ s.sent, s.Carries m) ∧ ∀ k data, s.slots k = some data → (k, data) ∈ s.reads) := by
  have hexec : (Machine.execOk step ok {}
      [.configure plainProbe, plainExport (ascii "lr-native"), .handle 0]).map (fun s => s.slots 1)
        = some (some (List.replicate 88 1)) := by
    decide +kernel
  obtain ⟨s, hs, hslot⟩ := Option.map_eq_some_iff.mp hexec
  have hrun := Machine.run_of_execOk hs
  exact ⟨_, s, hrun, hslot, identity_of_run hrun⟩

/-- **A mixed mode under a table without it.** Where the imager and its firmware
select the table without the mixed modes, `lr-mixed` is not found, and the
collector reads the data of mode 0. The viewer's own table has the name, as mode
5, and the data is stored there. -/
theorem not_identity_of_lrMixed :
    ∃ as s, Machine.Run step Machine.always {} as s ∧
      ¬ ((∀ m ∈ s.sent, s.Carries m) ∧ ∀ k data, s.slots k = some data → (k, data) ∈ s.reads) := by
  have hexec : (Machine.exec step {}
      [.configure plainProbe, plainExport (ascii "lr-mixed"), .handle 0]).map
        (fun s => (s.slots 5, s.reads))
        = some (some (List.replicate 88 0), [(0, List.replicate 88 0)]) := by
    decide +kernel
  obtain ⟨s, hs, hend⟩ := Option.map_eq_some_iff.mp hexec
  obtain ⟨hslot, hreads⟩ := Prod.mk.inj hend
  refine ⟨_, s, Machine.run_iff_exec.mpr hs, fun h => ?_⟩
  have hmem := h.2 5 _ hslot
  rw [hreads] at hmem
  exact absurd (congrArg Prod.fst (List.mem_singleton.mp hmem)) (by decide)

end DealiasHistory
